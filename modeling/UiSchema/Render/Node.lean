import UiSchema.Json
import UiSchema.Text.Case

/-! Rendered nodes: what a host receives for a schema. -/

set_option autoImplicit false

namespace UiSchema

/-- A handler reports one event binding of one component. -/
structure Handler where
  event : String
  action : String
  component : String
  payload : Json

/-- The prop under which a host looks for a handler: `click` is handled by `onClick`. -/
def handlerName (event : String) : String :=
  match event.toList with
  | [] => "on"
  | first :: rest => "on" ++ String.ofList (Text.upperChar first ++ rest)

def Handler.name (h : Handler) : String := handlerName h.event

/-- What the application learns when a handler is called with an event of the host. -/
structure Signal where
  action : String
  event : String
  component : String

def Handler.call (h : Handler) (event : String) : Signal :=
  { action := h.action, event, component := h.component }

inductive PropValue where
  | value (value : Json)
  | handler (handler : Handler)

inductive Node where
  | text (content : String)
  | element (type key : String) (props : Entries PropValue) (children : List Node)

namespace Node

def key? : Node → Option String
  | .text _ => none
  | .element _ key _ _ => some key

def type? : Node → Option String
  | .text _ => none
  | .element type _ _ _ => some type

def props : Node → Entries PropValue
  | .text _ => []
  | .element _ _ props _ => props

mutual

/-- All text below a node, in order. -/
def content : Node → String
  | .text content => content
  | .element _ _ _ children => contents children

def contents : List Node → String
  | [] => ""
  | child :: rest => child.content ++ contents rest

end

mutual

/-- The elements of the tree, each before its children. -/
def walk : Node → List Node
  | .text _ => []
  | .element type key props children => .element type key props children :: walks children

def walks : List Node → List Node
  | [] => []
  | child :: rest => child.walk ++ walks rest

end

def find? (node : Node) (key : String) : Option Node := node.walk.find? fun n => n.key? == some key

def findAll (node : Node) (type : String) : List Node :=
  node.walk.filter fun n => n.type? == some type

/-- Props without the handlers. -/
def values (props : Entries PropValue) : Entries Json :=
  props.filterMap fun (name, prop) =>
    match prop with
    | .value value => some (name, value)
    | .handler _ => none

def handlers (node : Node) : List (String × Handler) :=
  node.props.filterMap fun (name, prop) =>
    match prop with
    | .value _ => none
    | .handler handler => some (name, handler)

end Node

end UiSchema
