import UiSchema.Binding
import UiSchema.Schema

/-! The inventory of a schema's bindings: every place that reads the data document. -/

set_option autoImplicit false

namespace UiSchema

/-- One binding: as it was written, the path it names, and where it stands. -/
structure DataField where
  binding : String
  path : String
  segments : Path
  component : String
  property : String

namespace DataField

/-- The name of a property below another one. -/
def below (property name : String) : String :=
  if property.isEmpty then name else property ++ "." ++ name

/-- A field for a path, unless the path is malformed. -/
def ofPath (binding path component property : String) : Outcome (List DataField) := do
  match ← Path.parse path with
  | .ok segments => return [{ binding, path, segments, component, property }]
  | .error _ => return []

def ofPiece (component property : String) : Binding.Piece → Outcome (List DataField)
  | .plain _ => .ok []
  | .binding body =>
    ofPath (String.ofList (Binding.Piece.binding body).chars)
      (Text.trim (String.ofList body)) component property

def ofPieces (component property : String) : List Binding.Piece → Outcome (List DataField)
  | [] => .ok []
  | piece :: rest => do
    let here ← ofPiece component property piece
    return here ++ (← ofPieces component property rest)

/-- The bindings inside a text. -/
def ofText (text component property : String) : Outcome (List DataField) :=
  ofPieces component property (Binding.pieces text)

/-- An expression that is a binding or a bare path. -/
def ofExpression (expression component property : String) : Outcome (List DataField) :=
  let path := Binding.unwrap expression
  let written := Binding.Piece.binding path.toList
  ofPath (String.ofList written.chars) path component property

mutual

/-- The bindings in all texts of a value, at any depth. -/
def ofValue (component property : String) : Json → Outcome (List DataField)
  | .str text => ofText text component property
  | .object members => ofMembers component property members
  | .array items => ofItems component property 0 items
  | _ => .ok []

def ofMembers (component property : String) : List (String × Json) → Outcome (List DataField)
  | [] => .ok []
  | (key, value) :: rest => do
    let here ← ofValue component (property ++ "." ++ key) value
    return here ++ (← ofMembers component property rest)

def ofItems (component property : String) (index : Nat) : List Json → Outcome (List DataField)
  | [] => .ok []
  | item :: rest => do
    let here ← ofValue component s!"{property}[{index}]" item
    return here ++ (← ofItems component property (index + 1) rest)

end

/-- An empty expression is none. -/
def ofOptional (expression : Option String) (read : String → Outcome (List DataField)) :
    Outcome (List DataField) :=
  match expression with
  | none => .ok []
  | some text => if text.isEmpty then .ok [] else read text

def ofLoop (place : String) (own : Attributes) : Outcome (List DataField) :=
  match own.loop with
  | some loop => ofExpression loop.source own.id (below place "loop.source")
  | none => .ok []

/-- The bindings of a component itself. -/
def ofAttributes (place : String) (own : Attributes) : Outcome (List DataField) := do
  let binding ← ofOptional own.binding fun e => ofExpression e own.id (below place "binding")
  let text ← ofOptional own.text fun t => ofText t own.id (below place "text")
  let props ← ofMembers own.id (below place "props") (own.props.getD [])
  let loop ← ofLoop place own
  let condition ← ofOptional own.condition fun e => ofExpression e own.id (below place "condition")
  return binding ++ text ++ props ++ loop ++ condition

mutual

def ofComponent (place : String) : Component → Outcome (List DataField)
  | .mk own children => do
    let here ← ofAttributes place own
    return here ++ (← ofChildren place children)

def ofChildren (place : String) : Option (List Component) → Outcome (List DataField)
  | none => .ok []
  | some children => ofSiblings place 0 children

def ofSiblings (place : String) (index : Nat) : List Component → Outcome (List DataField)
  | [] => .ok []
  | child :: rest => do
    let here ← ofComponent (below place s!"children[{index}]") child
    return here ++ (← ofSiblings place (index + 1) rest)

end

/-- Every binding of the schema, in document order. -/
def all (schema : Schema) : Outcome (List DataField) := ofComponent "" schema.root

/-- Each path once, in the order of first occurrence. -/
def uniquePaths (fields : List DataField) : List String := (fields.map (·.path)).eraseDups

end DataField

end UiSchema
