import UiSchema.Settings

/-! Estimates of the tokens in a text: a fixed number of tokens for each character. -/

set_option autoImplicit false

namespace UiSchema

/-- Why a product cannot be rounded. -/
inductive RoundingError where
  | infinite
  | notANumber
  deriving DecidableEq, Repr

def RoundingError.message : RoundingError → String
  | .infinite => "cannot convert float infinity to integer"
  | .notANumber => "cannot convert float NaN to integer"

/-- The least whole number not below a finite one. -/
def roundUp (x : Float) : Except RoundingError Int :=
  match (Binary64.ofFloat x).ceil? with
  | some whole => .ok whole
  | none => .error (if x.isNaN then .notANumber else .infinite)

/-- The product rounded up, computed in floating point. -/
def estimateTokens (length : Nat) (ratio : Float) : Except RoundingError Int :=
  if length = 0 then .ok 0 else roundUp (Float.ofNat length * ratio)

def Settings.tokensPerChar (s : Settings) (language : String) : Float :=
  if language = Language.zh.code then s.tokensPerCharZh else s.tokensPerCharEn

/-- How tokens are counted, and how many of `count` examples with `tokens` tokens in all make up for
an excess. Either can be refused. -/
structure Meter where
  tokens : Nat → Except RoundingError Nat
  share : (excess tokens count : Nat) → Except RoundingError Nat

namespace Meter

/-- The share of an excess in examples of average size, rounded up, in floating point. -/
def floatShare (excess tokens count : Nat) : Except RoundingError Nat :=
  let average := Float.ofNat tokens / Float.ofNat count
  (roundUp (Float.ofNat excess / average)).map Int.toNat

def ofRatio (ratio : Float) : Meter :=
  { tokens := fun length => (estimateTokens length ratio).map Int.toNat
    share := floatShare }

def ofText (m : Meter) (text : String) : Except RoundingError Nat := m.tokens text.length

end Meter

end UiSchema
