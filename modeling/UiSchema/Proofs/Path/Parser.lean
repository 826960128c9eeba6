import UiSchema.Binding
import UiSchema.Proofs.Outcome
import UiSchema.Proofs.Text.Blank

/-! What the parser of paths owes to its callers: space around an expression does not matter, and
a path that was read has at least one segment. -/

set_option autoImplicit false

namespace UiSchema.Path

theorem parse_eq_ok {expression : String} {path : Path} :
    parse expression = .ok (.ok path) ↔ parseChars expression.toList = .ok path := by
  rw [parse]
  cases parseChars expression.toList with
  | ok found => simp
  | error stop => cases stop <;> simp

theorem parse_eq_error {expression : String} {cause : Raised} :
    parse expression = .error cause ↔
      cause = .tooManyDigits ∧ parseChars expression.toList = .error .overflow := by
  rw [parse]
  cases parseChars expression.toList with
  | ok found => simp
  | error stop => cases stop <;> simp [eq_comm]

theorem parseChars_trim (expression : String) :
    parseChars (Text.trim expression).toList = parseChars expression.toList := by
  rw [Text.toList_trim, parseChars, parseChars, Text.trimChars_trimChars]

/-- Space around an expression changes at most the text that an error quotes. -/
theorem parse_trim_eq_ok {expression : String} {path : Path} :
    parse (Text.trim expression) = .ok (.ok path) ↔ parse expression = .ok (.ok path) := by
  rw [parse_eq_ok, parse_eq_ok, parseChars_trim]

theorem parse_trim_eq_error {expression : String} {cause : Raised} :
    parse (Text.trim expression) = .error cause ↔ parse expression = .error cause := by
  rw [parse_eq_error, parse_eq_error, parseChars_trim]

/-- A text leads to a value when it is read as a path that does. -/
theorem resolveText_eq_ok {expression : String} {root value : Json} :
    resolveText expression root = .ok (.ok value) ↔
      ∃ path, parse expression = .ok (.ok path) ∧ path.resolve root = .ok (.ok value) := by
  rw [resolveText]
  cases parse expression with
  | error cause => exact iff_of_false nofun nofun
  | ok read =>
    cases read with
    | error e => exact iff_of_false nofun nofun
    | ok path =>
      cases resolved : path.resolve root with
      | error cause => simp [Bind.bind, Except.bind, resolved]
      | ok found =>
        cases found <;>
          simp [Bind.bind, Except.bind, Except.mapError, resolved, pure, Except.pure]

namespace Parse

/-- An index stands behind a container. -/
def Contained (p : Parse) : Prop := p.scan = .afterIndex → p.found ≠ []

theorem Contained.start : Contained start := nofun

theorem Contained.separator {found : List Segment} {position : Nat} {c : Char} {next : Parse}
    (stepped : separator found position c = .ok next) : Contained next := by
  unfold Parse.separator at stepped
  split at stepped
  · cases stepped; nofun
  · split at stepped
    · cases stepped; nofun
    · split at stepped <;> cases stepped

theorem Contained.closeIndex {found : List Segment} {opened : Nat} {run : List Char} {next : Parse}
    (stepped : closeIndex found opened run = .ok next) : Contained next := by
  unfold Parse.closeIndex at stepped
  dsimp only at stepped
  split at stepped
  · cases stepped
  · split at stepped
    · cases stepped
    · cases stepped
      intro _
      exact List.cons_ne_nil _ _

theorem Contained.step {p next : Parse} {position : Nat} {c : Char}
    (stepped : p.step position c = .ok next) : Contained next := by
  unfold Parse.step at stepped
  split at stepped
  · split at stepped
    · cases stepped; nofun
    · split at stepped
      · cases stepped
      · split at stepped
        · cases stepped
        · split at stepped <;> cases stepped
  · split at stepped
    · cases stepped; nofun
    · exact Contained.separator stepped
  · split at stepped
    · exact Contained.closeIndex stepped
    · cases stepped; nofun
  · exact Contained.separator stepped

theorem finish_ne_nil {p : Parse} {position : Nat} {path : Path} (contained : Contained p)
    (finished : p.finish position = .ok path) : path ≠ [] := by
  unfold finish at finished
  split at finished
  · cases finished
  · cases finished
    simp
  · cases finished
  · rename_i scan
    cases finished
    simpa using contained scan

theorem run_ne_nil {p : Parse} {position : Nat} {cs : List Char} {path : Path}
    (contained : Contained p) (ended : p.run position cs = .ok path) : path ≠ [] := by
  -- every state after the first one is contained by the step that led to it
  induction cs generalizing p position with
  | nil => exact finish_ne_nil contained ended
  | cons c rest ih =>
    rw [run] at ended
    split at ended
    · rename_i stepped
      exact ih (Contained.step stepped) ended
    · cases ended

end Parse

theorem parse_ne_nil {expression : String} {path : Path}
    (parsed : parse expression = .ok (.ok path)) : path ≠ [] := by
  rw [parse_eq_ok, parseChars] at parsed
  split at parsed
  · cases parsed
  · exact Parse.run_ne_nil Parse.Contained.start parsed

end UiSchema.Path

namespace UiSchema.Binding

theorem value?_of_raised {expression : String} {cause : Raised}
    (raised : Path.parse expression = .error cause) (data : Json) :
    value? expression data = .error cause := by
  rw [value?, Path.resolveText, raised]
  rfl

/-- The path of the expression can be read, with or without braces around it. -/
def Readable (expression : String) : Prop :=
  ∃ path, Path.parse (unwrap expression) = .ok (.ok path)

end UiSchema.Binding
