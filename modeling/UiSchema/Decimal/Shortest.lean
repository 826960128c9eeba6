import UiSchema.Decimal.Binary64

/-! The shortest decimal that reads back as a given floating-point number, and of those the nearest
to it. -/

set_option autoImplicit false

namespace UiSchema.Decimal

/-- A positive number `mantissa · 2 ^ exponent` measured in units of `10 ^ place`: numerators over
one denominator of the number itself and of the ends of the interval that rounds to it. -/
structure Measured where
  low : Nat
  value : Nat
  high : Nat
  unit : Nat
  closed : Bool

/-- A quarter of the last binary place is the unit, so that the ends of the interval are whole.
Below a power of two the neighbour is only half as far away. The ends belong to the interval exactly
when the mantissa is even. -/
def measure (mantissa : Nat) (exponent : Int) (place : Int) : Measured :=
  let scale := Nat.pow 2 (exponent - 2).toNat * Nat.pow 10 (-place).toNat
  let slack := if mantissa = Binary64.hiddenBit ∧ Binary64.leastExponent < exponent then 1 else 2
  { low := (4 * mantissa - slack) * scale
    value := 4 * mantissa * scale
    high := (4 * mantissa + 2) * scale
    unit := Nat.pow 2 (2 - exponent).toNat * Nat.pow 10 place.toNat
    closed := mantissa % 2 == 0 }

/-- Whether `digits · 10 ^ place` reads back as the number. -/
def Measured.admits (m : Measured) (digits : Nat) : Bool :=
  let point := digits * m.unit
  if m.closed then decide (m.low ≤ point ∧ point ≤ m.high)
  else decide (m.low < point ∧ point < m.high)

/-- The nearer of the two neighbours on the grid that read back; of two equally near the even. -/
def Measured.nearest? (m : Measured) : Option Nat :=
  let below := m.value / m.unit
  let above := below + 1
  match m.admits below, m.admits above with
  | true, true =>
    let down := m.value - below * m.unit
    let up := above * m.unit - m.value
    if down < up then some below
    else if up < down then some above
    else some (if below % 2 = 0 then below else above)
  | true, false => some below
  | false, true => some above
  | false, false => none

/-- The number of decimal places before the point, negative when zeros follow the point. -/
def magnitude (mantissa : Nat) (exponent : Int) : Int :=
  let m := measure mantissa exponent 0
  if m.unit ≤ m.value then (Nat.toDigits 10 (m.value / m.unit)).length
  else 1 - ((Nat.toDigits 10 ((m.unit - 1) / m.value)).length : Int)

/-- Decimal digits without a zero at the end; the first stands for `10 ^ leading`. -/
structure Digits where
  digits : List Char
  leading : Int
  deriving DecidableEq, Repr

def dropZeros (digits : List Char) : List Char := (digits.reverse.dropWhile (· == '0')).reverse

/-- Grids of one to seventeen digits are tried in turn; on the last every number is found. -/
def shortest (mantissa : Nat) (exponent : Int) : Digits :=
  let size := magnitude mantissa exponent
  let found := (List.range 17).findSome? fun n =>
    let place := size - (n + 1 : Nat)
    (measure mantissa exponent place).nearest?.map fun digits => (digits, place)
  let (digits, place) := found.getD (0, 0)
  let chars := Nat.toDigits 10 digits
  ⟨dropZeros chars, chars.length - 1 + place⟩

end UiSchema.Decimal
