import UiSchema.Decimal.Shortest

/-! How the digits of a floating-point number are laid out as text. -/

set_option autoImplicit false

namespace UiSchema.Decimal

/-- Leading exponents from `least` to `greatest` are written with a point only, all others with an
exponent of at least `width` digits. -/
structure Layout where
  least : Int
  greatest : Int
  plus : Bool
  width : Nat
  nan : String
  infinity : String
  negativeInfinity : String

namespace Layout

/-- With a digit on each side of the point. -/
def positional (d : Digits) : List Char :=
  match d.leading with
  | .negSucc zeros => '0' :: '.' :: List.replicate zeros '0' ++ d.digits
  | .ofNat leading =>
    let whole := d.digits.take (leading + 1)
    let fraction := d.digits.drop (leading + 1)
    whole ++ List.replicate (leading + 1 - whole.length) '0' ++
      '.' :: (if fraction.isEmpty then ['0'] else fraction)

def exponentChars (layout : Layout) (exponent : Int) : List Char :=
  let digits := Nat.toDigits 10 exponent.natAbs
  let sign := if exponent < 0 then ['-'] else if layout.plus then ['+'] else []
  sign ++ List.replicate (layout.width - digits.length) '0' ++ digits

def scientific (layout : Layout) (d : Digits) : List Char :=
  match d.digits with
  | [] => []
  | first :: rest =>
    first :: (if rest.isEmpty then [] else '.' :: rest) ++ 'e' :: layout.exponentChars d.leading

def finiteChars (layout : Layout) (mantissa : Nat) (exponent : Int) : List Char :=
  if mantissa = 0 then ['0', '.', '0']
  else
    let d := shortest mantissa exponent
    if layout.least ≤ d.leading ∧ d.leading ≤ layout.greatest then positional d
    else layout.scientific d

def write (layout : Layout) (x : Float) : String :=
  match Binary64.ofFloat x with
  | .finite negative mantissa exponent =>
    String.ofList ((if negative then ['-'] else []) ++ layout.finiteChars mantissa exponent)
  | .infinite false => layout.infinity
  | .infinite true => layout.negativeInfinity
  | .nan => layout.nan

/-- Layout of a number shown by itself. -/
def plain : Layout :=
  { least := -4, greatest := 15, plus := true, width := 2
    nan := "nan", infinity := "inf", negativeInfinity := "-inf" }

end Layout

end UiSchema.Decimal
