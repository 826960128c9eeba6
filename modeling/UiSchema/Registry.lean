import UiSchema.Binding
import UiSchema.Registry.Definition
import UiSchema.Text.Case

/-! Registries: the component types of one theme with their definitions, in the order in which they
were registered. -/

set_option autoImplicit false

namespace UiSchema

structure Registry where
  name : String := "default"
  definitions : List Definition := []

inductive RegistryError where
  | duplicate (type : String)
  | unknown (type : String)
  | invalid (problems : List Problem)

def RegistryError.message : RegistryError → String
  | .duplicate type => s!"Component already registered: {type}"
  | .unknown type => s!"Component not registered: {type}"
  | .invalid problems =>
    "Invalid component definition: " ++ "; ".intercalate (problems.map Problem.text)

namespace Registry

def get? (r : Registry) (type : String) : Option Definition :=
  r.definitions.find? fun d => d.type == type

def has (r : Registry) (type : String) : Bool := (r.get? type).isSome

def types (r : Registry) : List String := r.definitions.map (·.type)

def size (r : Registry) : Nat := r.definitions.length

/-- A type is registered once. -/
def register (r : Registry) (d : Definition) : Except RegistryError Registry :=
  if r.has d.type then .error (.duplicate d.type)
  else .ok { r with definitions := r.definitions ++ [d] }

/-- A definition given as a document. -/
def registerDocument (r : Registry) (document : Json) :
    Except RegistryError (Definition × Registry) :=
  match Definition.decode document with
  | .bad problems => .error (.invalid problems)
  | .ok d =>
    match r.register d with
    | .ok r => .ok (d, r)
    | .error e => .error e

/-- All of a list, up to the first that is refused. -/
def registerAll (r : Registry) : List Definition → Except RegistryError Registry
  | [] => .ok r
  | d :: rest =>
    match r.register d with
    | .ok r => registerAll r rest
    | .error e => .error e

def unregister (r : Registry) (type : String) : Bool × Registry :=
  (r.has type, { r with definitions := r.definitions.filter fun d => d.type != type })

def require (r : Registry) (type : String) : Except RegistryError Definition :=
  match r.get? type with
  | some d => .ok d
  | none => .error (.unknown type)

def byCategory (r : Registry) (category : String) : List Definition :=
  r.definitions.filter fun d => d.category == category

def clear (r : Registry) : Registry := { r with definitions := [] }

/-- Whether one text stands inside another. -/
def isWithin (needle : List Char) : List Char → Bool
  | [] => needle.isEmpty
  | c :: rest => needle.isPrefixOf (c :: rest) || isWithin needle rest

/-- Texts that a search looks through. -/
def searched (d : Definition) : List String := d.type :: d.displayName :: d.description :: d.tags

/-- Definitions with the query in one of their texts, whatever the case. A blank query finds all. -/
def search (r : Registry) (query : String) : List Definition :=
  let needle := (Text.lower (Text.trim query)).toList
  if needle.isEmpty then r.definitions
  else r.definitions.filter fun d =>
    (searched d).any fun text => isWithin needle (Text.lower text).toList

/-- What is wrong with the value of a prop. A binding has no type before it is resolved. -/
def propProblem? (type prop : String) (schema : PropSchema) (value : Json) :
    Outcome (Option String) :=
  if value.isNull || Binding.isBinding value then .ok none
  else if !schema.type.admits value then
    .ok (some s!"{type}.{prop}: expected {schema.type.name}, got {value.kind}")
  else
    match schema.choices with
    | none => .ok none
    | some choices =>
      let chosen := match value with | .str text => choices.contains text | _ => false
      if chosen then .ok none
      else do
        let shown ← value.shown
        let listed := ", ".intercalate choices
        return some s!"{type}.{prop}: {shown} is not one of {listed}"

/-- What is wrong with the props of a component. Unknown types and props are let through. -/
def propProblems (r : Registry) (type : String) (props : Entries Json) : Outcome (List String) :=
  match r.get? type with
  | none => .ok []
  | some d => do
    let found ← d.propsSchema.mapM fun (prop, schema) =>
      match props.get? prop with
      | none =>
        if schema.required && !d.defaultProps.contains prop then
          .ok (some s!"{type}.{prop}: required prop is missing")
        else .ok none
      | some value => propProblem? type prop schema value
    return found.filterMap id

def shown (r : Registry) : String :=
  s!"ComponentRegistry(name={Text.quote r.name}, components={r.size})"

end Registry

end UiSchema
