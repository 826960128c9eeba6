import UiSchema.Decode.NumberText

/-! Numbers and truth values decoded from values of other kinds that can stand for them. -/

set_option autoImplicit false

namespace UiSchema.Decode

/-- A floating-point number stands for a whole one when nothing is lost. -/
def integerFloat (value : Float) : Decoded Int :=
  let exact := Binary64.ofFloat value
  if !exact.isFinite then .fault .notFinite
  else
    match exact.toInt? with
    | none => .fault .fractional
    | some whole =>
      if -Json.signedWord < whole ∧ whole < Json.signedWord then .ok whole
      else .fault .oversizedInteger

def integer : Decoder Int
  | .int value => .ok value
  | .bool value => .ok value.toInt
  | .float value => integerFloat value
  | .str text => integerText text
  | _ => .fault (.not .integer)

def integerAbove (bound : Int) (value : Json) : Decoded Int :=
  (integer value).check fun n => if bound < n then none else some (.notAbove bound)

def integerFrom (bound : Int) (value : Json) : Decoded Int :=
  (integer value).check fun n => if bound ≤ n then none else some (.below bound)

/-- A non-negative integer as a natural number. -/
def natural (value : Json) : Decoded Nat := (integerFrom 0 value).map Int.toNat

/-- A positive integer as a natural number. -/
def positive (value : Json) : Decoded Nat := (integerAbove 0 value).map Int.toNat

def booleanInteger (value : Int) : Decoded Bool :=
  if value = 0 then .ok false else if value = 1 then .ok true else .fault .unclearBoolean

/-- The words for the truth values, in any case. -/
def booleanText (text : String) : Decoded Bool :=
  let word := Text.asciiLower text
  if ["0", "off", "f", "false", "n", "no"].contains word then .ok false
  else if ["1", "on", "t", "true", "y", "yes"].contains word then .ok true
  else .fault .unclearBoolean

def boolean : Decoder Bool
  | .bool value => .ok value
  | .int value =>
    if -Json.signedWord ≤ value ∧ value < Json.signedWord then booleanInteger value
    else .fault (.not .boolean)
  | .str text => booleanText text
  | .float value =>
    match integerFloat value with
    | .ok whole => booleanInteger whole
    | .bad _ => .fault (.not .boolean)
  | _ => .fault (.not .boolean)

end UiSchema.Decode
