import UiSchema.Binding
import UiSchema.Registry.Definition
import UiSchema.Render.Node
import UiSchema.Schema.Component

/-! The props of an element: defaults, then the props of the component with their bindings
resolved, then its style, its class name and its handlers. -/

set_option autoImplicit false

namespace UiSchema

namespace Style

def isEmptyText : Json → Bool
  | .str text => text.isEmpty
  | _ => false

/-- Shorthands that say something: an empty text does not. -/
def effectiveShorthands (s : Style) : Entries Json :=
  (given s.shorthands).filter fun e => !isEmptyText e.2

/-- The inline map with the shorthands over it. -/
def css (s : Style) : Entries Json := (s.inlined.getD []).putAll s.effectiveShorthands

def cssOf (style : Option Style) : Entries Json :=
  match style with
  | none => []
  | some s => s.css

end Style

namespace Render

def handlerOf (component : String) (e : EventBinding) : Handler :=
  { event := e.event, action := e.action, component, payload := e.payload }

/-- The handlers of a component by name. Of two with one name the last one counts. -/
def handlersOf (own : Attributes) : Entries PropValue :=
  .ofPairs ((own.events.getD []).map fun e =>
    let handler := handlerOf own.id e
    (handler.name, .handler handler))

/-- The style goes over a style that is already there, if that is an object. -/
def withStyle (css : Entries Json) (props : Entries Json) : Entries Json :=
  if css.isEmpty then props
  else
    let style :=
      match props.get? "style" with
      | some (.object existing) => Entries.putAll existing css
      | _ => css
    props.put "style" (.object style)

def withClassName (style : Option Style) (props : Entries Json) : Entries Json :=
  match style.bind (·.className) with
  | some name => if name.isEmpty then props else props.put "className" (.str name)
  | none => props

/-- `signals` says whether the host listens to events. -/
def propsOf (d : Definition) (own : Attributes) (signals : Bool) (scope : Json) :
    Outcome (Entries PropValue) := do
  let props ← Binding.resolveMembers scope (own.props.getD [])
  let values := withClassName own.style
    (withStyle (Style.cssOf own.style) (d.defaultProps.putAll props))
  let shown : Entries PropValue := values.map fun (name, value) => (name, .value value)
  return if signals then shown.putAll (handlersOf own) else shown

end Render

end UiSchema
