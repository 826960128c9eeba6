import UiSchema.Binding
import UiSchema.Schema.Issue

/-! The structure of a schema document: shapes, required fields, unique component ids and
well-formed expressions. The check goes on past every issue. -/

set_option autoImplicit false

namespace UiSchema.Schema

/-- The path of a field. -/
def fieldPath (path field : String) : String :=
  if path.isEmpty then field else path ++ "." ++ field

def indexPath (path : String) (index : Nat) : String := s!"{path}[{index}]"

/-- A field that has to hold a text which is not blank. -/
def checkText (members : Entries Json) (field path : String) : List Issue :=
  let issue defect := [{ path := fieldPath path field, defect := defect : Issue }]
  match members.get? field with
  | none => issue (.missingField field)
  | some (.str text) => if Text.isBlankText text then issue (.blank field) else []
  | some _ => issue (.notString field)

/-- The text of a field that `checkText` accepts. -/
def text? (members : Entries Json) (field : String) : Option String :=
  match members.get? field with
  | some (.str text) => if Text.isBlankText text then none else some text
  | _ => none

/-- A field that may hold an object, or null. -/
def checkObject (members : Entries Json) (field path : String) : List Issue :=
  match Json.present? members field with
  | none | some (.object _) => []
  | some _ => [⟨fieldPath path field, .notObject field⟩]

/-- A field that may hold a text, or null. -/
def checkOptionalText (members : Entries Json) (field path : String) : List Issue :=
  match Json.present? members field with
  | none | some (.str _) => []
  | some _ => [⟨fieldPath path field, .notString field⟩]

def checkExpression (text path : String) : Outcome (List Issue) := do
  match ← Path.parse (Binding.unwrap text) with
  | .ok _ => return []
  | .error e => return [⟨path, .badExpression e.reason⟩]

/-- The expression in a field, if the field holds a text. -/
def checkExpressionField (members : Entries Json) (field path : String) : Outcome (List Issue) :=
  match members.get? field with
  | some (.str text) => checkExpression text (fieldPath path field)
  | _ => .ok []

def checkEvent (path : String) : Json → List Issue
  | .object members => checkText members "event" path ++ checkText members "action" path
  | _ => [⟨path, .eventNotObject⟩]

def checkEvents (path : String) : Json → List Issue
  | .array events =>
    events.zipIdx.flatMap fun (event, index) => checkEvent (indexPath path index) event
  | _ => [⟨path, .notArray "events"⟩]

/-- A loop variable may be left out, but its name may not be blank. -/
def checkName (members : Entries Json) (field path : String) : List Issue :=
  match Json.present? members field with
  | none => []
  | some (.str text) =>
    if Text.isBlankText text then [⟨fieldPath path field, .blankName field⟩] else []
  | some _ => [⟨fieldPath path field, .blankName field⟩]

/-- The expression in the source of a loop, if the source is a text that says something. -/
def checkSource (members : Entries Json) (path : String) : Outcome (List Issue) :=
  match text? members "source" with
  | some text => checkExpression text (fieldPath path "source")
  | none => .ok []

def checkLoop (path : String) : Json → Outcome (List Issue)
  | .object members => do
    let expression ← checkSource members path
    return checkText members "source" path ++ expression ++ checkName members "itemName" path ++
      checkName members "indexName" path
  | _ => .ok [⟨path, .notObject "loop"⟩]

def checkEventsField (members : Entries Json) (path : String) : List Issue :=
  match Json.present? members "events" with
  | some events => checkEvents (fieldPath path "events") events
  | none => []

def checkLoopField (members : Entries Json) (path : String) : Outcome (List Issue) :=
  match Json.present? members "loop" with
  | some loop => checkLoop (fieldPath path "loop") loop
  | none => .ok []

/-- An id that stands at a component before. -/
def checkRepeated (members : Entries Json) (seen : List String) (path : String) : List Issue :=
  match text? members "id" with
  | some id => if seen.contains id then [⟨fieldPath path "id", .duplicateId id⟩] else []
  | none => []

/-- Issues of a component apart from those of its children. `seen` are the ids before it. -/
def checkOwn (path : String) (seen : List String) (members : Entries Json) :
    Outcome (List Issue) := do
  let shapes := checkText members "id" path ++ checkRepeated members seen path ++
    checkText members "type" path ++ checkObject members "props" path ++
    checkObject members "style" path ++
    ["text", "binding", "condition"].flatMap fun field => checkOptionalText members field path
  let binding ← checkExpressionField members "binding" path
  let condition ← checkExpressionField members "condition" path
  let loop ← checkLoopField members path
  return shapes ++ binding ++ condition ++ checkEventsField members path ++ loop

/-- The ids seen after the component itself. -/
def remember (seen : List String) (members : Entries Json) : List String :=
  match text? members "id" with
  | some id => id :: seen
  | none => seen

mutual

/-- Issues of a component and all below it, and the ids seen after them. -/
def checkComponent (path : String) (seen : List String) :
    Json → Outcome (List Issue × List String)
  | .object members => do
    let own ← checkOwn path seen members
    let (below, seen) ← checkChildrenIn path (remember seen members) members
    return (own ++ below, seen)
  | _ => .ok ([⟨path, .componentNotObject⟩], seen)

/-- The children among the members of a component. -/
def checkChildrenIn (path : String) (seen : List String) :
    List (String × Json) → Outcome (List Issue × List String)
  | [] => .ok ([], seen)
  | (key, value) :: rest =>
    if key = "children" then checkChildren (fieldPath path "children") seen value
    else checkChildrenIn path seen rest

def checkChildren (path : String) (seen : List String) :
    Json → Outcome (List Issue × List String)
  | .null => .ok ([], seen)
  | .array items => checkItems path 0 seen items
  | _ => .ok ([⟨path, .notArray "children"⟩], seen)

def checkItems (path : String) (index : Nat) (seen : List String) :
    List Json → Outcome (List Issue × List String)
  | [] => .ok ([], seen)
  | item :: rest => do
    let (here, seen) ← checkComponent (indexPath path index) seen item
    let (others, seen) ← checkItems path (index + 1) seen rest
    return (here ++ others, seen)

end

def checkRoot (members : Entries Json) : Outcome (List Issue) :=
  match members.get? "root" with
  | none => .ok [⟨"root", .missingField "root"⟩]
  | some root => do return (← checkComponent "root" [] root).1

/-- Every structural issue of a document. -/
def check : Json → Outcome (List Issue)
  | .object members => do
    let root ← checkRoot members
    return checkText members "version" "" ++ root ++ checkObject members "data" "" ++
      checkObject members "meta" ""
  | _ => .ok [⟨"", .schemaNotObject⟩]

end UiSchema.Schema
