/-! Sets of characters given by ascending ranges of code points. -/

set_option autoImplicit false

namespace UiSchema.Text

/-- Inclusive bounds, in ascending order and without overlap. -/
abbrev Ranges := List (Nat × Nat)

/-- The search stops at the first range that begins after the code point. -/
def Ranges.holds : Ranges → Nat → Bool
  | [], _ => false
  | (low, high) :: rest, code =>
    if code < low then false else if code ≤ high then true else Ranges.holds rest code

end UiSchema.Text
