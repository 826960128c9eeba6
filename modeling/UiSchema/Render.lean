import UiSchema.Registry
import UiSchema.Render.Props
import UiSchema.Schema

/-! Schemas rendered into nodes. For each component its condition comes first, then its loop, the
look-up of its type, props and content. A path that is malformed or leads nowhere only affects the
component it stands in. -/

set_option autoImplicit false

namespace UiSchema

/-- What receives the nodes: which types it knows, which of them it draws by itself, and what it
puts in the place of a type it does not know. It may draw nothing. -/
structure Host where
  registry : Registry
  placeholderType : String
  signals : Bool := false
  drawing? : String → Option (Entries PropValue → List Node → Option Node) := fun _ => none
  unknown? : Option (String → String → Option Node) := none

/-- The data of a schema, with the variables of the loops around a component. -/
structure Scope where
  data : Json
  overlay : Entries Json := []

namespace Scope

/-- The document that paths are resolved in: variables hide members of the data. -/
def root (s : Scope) : Json :=
  if s.overlay.isEmpty then s.data
  else .object ((s.data.members?.getD []).putAll s.overlay)

/-- One round of a loop. -/
def enter (s : Scope) (itemName indexName : String) (item : Json) (index : Nat) : Scope :=
  { s with overlay := (s.overlay.put itemName item).put indexName (.int index) }

end Scope

namespace Loop

def orDefault (name : Option String) (default : String) : String :=
  match name with
  | some given => if given.isEmpty then default else given
  | none => default

def itemVariable (l : Loop) : String := orDefault l.itemName "item"

def indexVariable (l : Loop) : String := orDefault l.indexName "index"

/-- What a loop runs over when its source has a value; nothing unless that is an array. -/
def itemsOf : Option Json → List Json
  | some (.array items) => items
  | _ => []

def items (l : Loop) (scope : Json) : Outcome (List Json) := do
  return itemsOf (← Binding.value? (Binding.unwrap l.source) scope)

end Loop

namespace Render

def fragmentType : String := "Fragment"

/-- Whether the condition of a component lets it through. An empty one does. -/
def passes (own : Attributes) (scope : Scope) : Outcome Bool :=
  match own.condition with
  | none => .ok true
  | some condition =>
    if condition.isEmpty then .ok true else Binding.holds condition scope.root

/-- The value of a binding as content. Null is no content. -/
def contentOf : Option Json → Outcome (List Node)
  | none | some .null => .ok []
  | some value => do return [.text (← Binding.display value)]

/-- The content of a component without children. -/
def ownContent (own : Attributes) (scope : Scope) : Outcome (List Node) :=
  match own.text.filter (!·.isEmpty), own.binding.filter (!·.isEmpty) with
  | some text, _ => do return [.text (← Binding.interpolate text scope.root)]
  | none, some binding => do
    contentOf (← Binding.value? (Binding.unwrap binding) scope.root)
  | none, none => .ok []

def placeholder (host : Host) (own : Attributes) : Option Node :=
  match host.unknown? with
  | some draw => draw own.type own.id
  | none =>
    some (.element host.placeholderType own.id
      [("type", .value (.str own.type)), ("id", .value (.str own.id))] [])

def draw (host : Host) (own : Attributes) (props : Entries PropValue) (children : List Node) :
    Option Node :=
  match host.drawing? own.type with
  | some drawing => drawing props children
  | none => some (.element own.type own.id props children)

/-- The children where there are any, and the component's own content elsewhere. -/
def childrenOr (ownContent : Outcome (List Node)) : Option (List Node) → Outcome (List Node)
  | some nodes => .ok nodes
  | none => ownContent

/-- `below` renders the children, if the component has any. -/
def element (host : Host) (own : Attributes) (below : Scope → Outcome (Option (List Node)))
    (scope : Scope) : Outcome (Option Node) :=
  match host.registry.get? own.type with
  | none => .ok (placeholder host own)
  | some definition => do
    let props ← propsOf definition own host.signals scope.root
    let content ← childrenOr (ownContent own scope) (← below scope)
    return draw host own props content

/-- A component without its loop. -/
def single (host : Host) (own : Attributes) (below : Scope → Outcome (Option (List Node)))
    (scope : Scope) : Outcome (Option Node) := do
  if ← passes own scope then element host own below scope else return none

/-- The component as it stands in one round of its loop. -/
def round (own : Attributes) (index : Nat) : Attributes :=
  { own with loop := none, id := s!"{own.id}-{index}" }

/-- The rounds of a loop from an index on; those whose condition fails, or for which nothing is
drawn, are left out. -/
def allRounds (host : Host) (own : Attributes) (below : Scope → Outcome (Option (List Node)))
    (scope : Scope) (loop : Loop) (index : Nat) : List Json → Outcome (List Node)
  | [] => .ok []
  | item :: rest => do
    let inner := scope.enter loop.itemVariable loop.indexVariable item index
    let node ← single host (round own index) below inner
    return node.toList ++ (← allRounds host own below scope loop (index + 1) rest)

/-- A component with its loop: the rounds stand in a fragment. -/
def expand (host : Host) (own : Attributes) (below : Scope → Outcome (Option (List Node)))
    (scope : Scope) : Outcome (Option Node) :=
  match own.loop with
  | none => single host own below scope
  | some loop => do
    if ← passes own scope then
      let items ← loop.items scope.root
      return some (.element fragmentType own.id [] (← allRounds host own below scope loop 0 items))
    else return none

mutual

/-- The node for a component, or nothing when its condition fails or nothing is drawn for it. -/
def component (host : Host) : Component → Scope → Outcome (Option Node)
  | .mk own children, scope => expand host own (below host children) scope

/-- The nodes for the children, if there are children. -/
def below (host : Host) : Option (List Component) → Scope → Outcome (Option (List Node))
  | none, _ => .ok none
  | some children, scope =>
    if children.isEmpty then .ok none else do return some (← siblings host children scope)

def siblings (host : Host) : List Component → Scope → Outcome (List Node)
  | [], _ => .ok []
  | child :: rest, scope => do
    let node ← component host child scope
    return node.toList ++ (← siblings host rest scope)

end

/-- The data a schema is rendered with: what is given, or its own. Null counts as not given. -/
def dataFor (schema : Schema) (data : Option Json) : Json :=
  match data with
  | none | some .null => .object (schema.data.getD [])
  | some given => given

end Render

/-- The root node of a schema, if it has one. -/
def render (host : Host) (schema : Schema) (data : Option Json) : Outcome (Option Node) :=
  Render.component host schema.root { data := Render.dataFor schema data }

end UiSchema
