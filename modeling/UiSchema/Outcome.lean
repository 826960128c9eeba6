/-! What raises instead of giving a result, past everything that tolerates malformed paths and
missing values. -/

set_option autoImplicit false

namespace UiSchema

inductive Raised where
  /-- A whole number is read from too many digits, or would be written with too many. -/
  | tooManyDigits
  /-- An index counts back past the first item. -/
  | beforeFirst
  deriving DecidableEq, Repr

/-- Results of work that can raise. -/
abbrev Outcome := Except Raised

/-- Longer whole numbers are neither read nor written. -/
def mostDigits : Nat := 4300

/-- The number can be written. Its sign does not count. -/
def fewDigits (value : Int) : Bool := decide ((Nat.toDigits 10 value.natAbs).length ≤ mostDigits)

end UiSchema
