import UiSchema.Decimal.Reading
import UiSchema.Json
import UiSchema.Outcome

/-! Bare words of a document: numbers and the words that stand for a value. -/

set_option autoImplicit false

namespace UiSchema.Json

/-- What a reader accepts beyond the strict form. `depth` bounds the open arrays and objects. -/
structure Dialect where
  /-- The names of numbers that are not finite are read as such. -/
  namesNonFinite : Bool
  /-- A number beyond the largest finite one is read as infinite. -/
  overflows : Bool
  /-- The sign of a whole number counts towards its length. -/
  countsSign : Bool
  depth : Nat

namespace Dialect

def strict : Dialect :=
  { namesNonFinite := false, overflows := false, countsSign := true, depth := 1000 }

def tolerant : Dialect :=
  { namesNonFinite := true, overflows := true, countsSign := false, depth := 100000 }

end Dialect

/-- The digits of a number, with the sign of the number and of its exponent. -/
structure Numeral where
  negative : Bool
  whole : List Char
  fraction : Option (List Char)
  exponent : Option Int

namespace Numeral

def isDigit (c : Char) : Bool := decide ('0' ≤ c) && decide (c ≤ '9')

/-- At least one digit, and the rest. -/
def digits? (cs : List Char) : Option (List Char × List Char) :=
  match cs.takeWhile isDigit with
  | [] => none
  | digits => some (digits, cs.dropWhile isDigit)

/-- A zero stands alone before the point. -/
def whole? (cs : List Char) : Option (List Char × List Char) := do
  let (digits, rest) ← digits? cs
  match digits with
  | '0' :: _ :: _ => none
  | _ => some (digits, rest)

def fraction? : List Char → Option (Option (List Char) × List Char)
  | '.' :: rest => (digits? rest).map fun (digits, rest) => (some digits, rest)
  | rest => some (none, rest)

def exponentValue? : List Char → Option (Int × List Char)
  | '-' :: rest => (digits? rest).map fun (digits, rest) =>
    (-(Decimal.digitsValue digits : Int), rest)
  | '+' :: rest => (digits? rest).map fun (digits, rest) =>
    ((Decimal.digitsValue digits : Int), rest)
  | rest => (digits? rest).map fun (digits, rest) => ((Decimal.digitsValue digits : Int), rest)

def exponent? : List Char → Option (Option Int × List Char)
  | c :: rest =>
    if c = 'e' ∨ c = 'E' then (exponentValue? rest).map fun (value, rest) => (some value, rest)
    else some (none, c :: rest)
  | [] => some (none, [])

def unsigned? (negative : Bool) (cs : List Char) : Option Numeral := do
  let (whole, rest) ← whole? cs
  let (fraction, rest) ← fraction? rest
  let (exponent, rest) ← exponent? rest
  if rest.isEmpty then some { negative, whole, fraction, exponent } else none

def read? : List Char → Option Numeral
  | '-' :: rest => unsigned? true rest
  | cs => unsigned? false cs

def isOversized (d : Dialect) (negative : Bool) (digits : List Char) : Bool :=
  mostDigits < digits.length + (d.countsSign && negative).toNat

/-- A whole number that is too long begins here, whatever comes after it. -/
def beginsOversized (d : Dialect) (cs : List Char) : Bool :=
  let (negative, cs) := match cs with | '-' :: rest => (true, rest) | _ => (false, cs)
  match digits? cs with
  | none | some ('0' :: _, _) => false
  | some (digits, rest) =>
    isOversized d negative digits &&
      (match fraction? rest with | some (some _, _) => false | _ => true) &&
      (match exponent? rest with | some (some _, _) => false | _ => true)

def toFloat (n : Numeral) : Float :=
  let fraction := n.fraction.getD []
  let size := Decimal.toFloat (Decimal.digitsValue (n.whole ++ fraction))
    (n.exponent.getD 0 - fraction.length)
  if n.negative then -size else size

def toJson? (d : Dialect) (n : Numeral) : Option Json :=
  match n.fraction, n.exponent with
  | none, none =>
    let size := Decimal.digitsValue n.whole
    if isOversized d n.negative n.whole then none
    else some (.int (if n.negative then -(size : Int) else size))
  | _, _ =>
    let value := n.toFloat
    if value.isInf && !d.overflows then none else some (.float value)

end Numeral

def nan : Float := Float.ofBits 0x7FF8000000000000

def infinity : Float := Float.ofBits 0x7FF0000000000000

def negativeInfinity : Float := Float.ofBits 0xFFF0000000000000

/-- The value of a bare word. -/
def word? (d : Dialect) (cs : List Char) : Option Json :=
  if cs = ['n', 'u', 'l', 'l'] then some .null
  else if cs = ['t', 'r', 'u', 'e'] then some (.bool true)
  else if cs = ['f', 'a', 'l', 's', 'e'] then some (.bool false)
  else if d.namesNonFinite && cs == "NaN".toList then some (.float nan)
  else if d.namesNonFinite && cs == "Infinity".toList then some (.float infinity)
  else if d.namesNonFinite && cs == "-Infinity".toList then some (.float negativeInfinity)
  else (Numeral.read? cs).bind (Numeral.toJson? d)

end UiSchema.Json
