/-! Decimal numerals read as integers, and as floating-point numbers rounded to the nearest. -/

set_option autoImplicit false

namespace UiSchema.Decimal

def digitsValue (cs : List Char) : Nat := Nat.ofDigitChars 10 cs 0

/-- `digits · 10 ^ exponent` without computing powers that are certain to overflow or vanish. -/
def toFloat (digits : Nat) (exponent : Int) : Float :=
  let size := (Nat.toDigits 10 digits).length + exponent
  if digits = 0 then 0.0
  else if 400 < size then Float.ofBits 0x7FF0000000000000
  else if size < -400 then 0.0
  else Float.ofScientific digits (exponent < 0) exponent.natAbs

/-- The sign in front, `true` for minus, and what it stands before. -/
def sign : List Char → Bool × List Char
  | '-' :: rest => (true, rest)
  | '+' :: rest => (false, rest)
  | cs => (false, cs)

/-- One digit or more and nothing else. -/
def natural? (cs : List Char) : Option Nat :=
  if cs.isEmpty || !cs.all Char.isDigit then none else some (digitsValue cs)

def integer? (cs : List Char) : Option Int :=
  let (negative, digits) := sign cs
  (natural? digits).map fun n => if negative then -(n : Int) else n

/-- Digits before and after a point, and the rest. One side may be missing, or the point. -/
def mantissa? (cs : List Char) : Option (List Char × List Char × List Char) :=
  let whole := cs.takeWhile Char.isDigit
  match cs.dropWhile Char.isDigit with
  | '.' :: rest =>
    let fraction := rest.takeWhile Char.isDigit
    if whole.isEmpty && fraction.isEmpty then none
    else some (whole, fraction, rest.dropWhile Char.isDigit)
  | rest => if whole.isEmpty then none else some (whole, [], rest)

def exponent? : List Char → Option Int
  | [] => some 0
  | c :: rest => if c = 'e' ∨ c = 'E' then integer? rest else none

def size? (cs : List Char) : Option Float := do
  let (whole, fraction, rest) ← mantissa? cs
  some (toFloat (digitsValue (whole ++ fraction)) ((← exponent? rest) - fraction.length))

def float? (cs : List Char) : Option Float :=
  let (negative, digits) := sign cs
  (size? digits).map fun value => if negative then -value else value

end UiSchema.Decimal
