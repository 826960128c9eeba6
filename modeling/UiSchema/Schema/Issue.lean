import UiSchema.Decode
import UiSchema.Json.Load
import UiSchema.Path.Parser

/-! What can be wrong with a schema document. -/

set_option autoImplicit false

namespace UiSchema

/-- The causes of issues. Field names are given where the field is part of the cause. -/
inductive Defect where
  | schemaNotObject
  | componentNotObject
  | eventNotObject
  | missingField (field : String)
  | notString (field : String)
  | blank (field : String)
  | notObject (field : String)
  | notArray (field : String)
  | blankName (field : String)
  | duplicateId (id : String)
  | badExpression (reason : Path.SyntaxReason)
  | tooLarge (cause : Json.LoadError)
  | tooDeep (cause : Json.LoadError)
  | unreadable (cause : Json.LoadError)
  | badField (fault : Fault)

namespace Defect

def message : Defect → String
  | .schemaNotObject => "schema must be an object"
  | .componentNotObject => "component must be an object"
  | .eventNotObject => "event binding must be an object"
  | .missingField field => s!"missing required field '{field}'"
  | .notString field => s!"'{field}' must be a string"
  | .blank field => s!"'{field}' cannot be empty"
  | .notObject field => s!"'{field}' must be an object"
  | .notArray field => s!"'{field}' must be an array"
  | .blankName field => s!"'{field}' must be a non-empty string"
  | .duplicateId id => s!"duplicate component id {Text.quote id}"
  | .badExpression reason => reason.text
  | .tooLarge cause | .tooDeep cause | .unreadable cause => cause.message
  | .badField fault => fault.message

def code : Defect → String
  | .schemaNotObject | .componentNotObject | .eventNotObject | .notString _ | .notObject _
  | .notArray _ => "INVALID_TYPE"
  | .missingField _ => "MISSING_FIELD"
  | .blank _ | .blankName _ | .badField _ => "INVALID_VALUE"
  | .duplicateId _ => "DUPLICATE_ID"
  | .badExpression _ => "INVALID_EXPRESSION"
  | .tooLarge _ => "TOO_LARGE"
  | .tooDeep _ => "TOO_DEEP"
  | .unreadable _ => "INVALID_JSON"

end Defect

/-- A defect at a place in the document; the empty path is the document itself. -/
structure Issue where
  path : String
  defect : Defect

namespace Issue

def message (i : Issue) : String := i.defect.message

def code (i : Issue) : String := i.defect.code

def line (i : Issue) : String :=
  (if i.path.isEmpty then "<schema>" else i.path) ++ ": " ++ i.message

/-- The first five issues in one line, and the number of the others. -/
def summary (issues : List Issue) : String :=
  let shown := "; ".intercalate ((issues.take 5).map line)
  let others := if 5 < issues.length then s!" (+{issues.length - 5} more)" else ""
  "Invalid UI schema: " ++ shown ++ others

end Issue

end UiSchema
