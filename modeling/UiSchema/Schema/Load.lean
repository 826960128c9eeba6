import UiSchema.Schema
import UiSchema.Schema.Check
import UiSchema.Settings

/-! Schemas validated from documents and read from text. -/

set_option autoImplicit false

namespace UiSchema.Schema

/-- What decoding still refuses after the structure was accepted. -/
def decodeIssues (problems : List Problem) : List Issue :=
  problems.map fun p => ⟨p.locationText, .badField p.fault⟩

/-- Depth comes first, then the structure, then the fields. -/
def validate (settings : Settings) (document : Json) : Outcome (Except (List Issue) Schema) :=
  match Json.checkDepth document settings.maxSchemaDepth with
  | .error cause => .ok (.error [⟨"", .tooDeep cause⟩])
  | .ok () => do
    match ← check document with
    | [] =>
      match decode document with
      | .ok schema => return .ok schema
      | .bad problems => return .error (decodeIssues problems)
    | issues => return .error issues

/-- A schema from its text, within the limits of the settings. -/
def load (settings : Settings) (text : String) : Outcome (Except (List Issue) Schema) :=
  match Json.checkSize text settings.maxSchemaSize "UI schema" with
  | .error cause => .ok (.error [⟨"", .tooLarge cause⟩])
  | .ok () =>
    match Json.load text false with
    | .error cause => .ok (.error [⟨"", .unreadable cause⟩])
    | .ok document => validate settings document

end UiSchema.Schema
