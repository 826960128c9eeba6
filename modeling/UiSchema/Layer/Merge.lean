import UiSchema.Schema

/-! Schemas in layers: a later layer goes over an earlier one, field by field. -/

set_option autoImplicit false

namespace UiSchema

mutual

/-- Members of both sides are merged when both are objects; otherwise those of the later one count,
null included. -/
def deepMerge (base : Entries Json) : List (String × Json) → Entries Json
  | [] => base
  | (key, value) :: rest => deepMerge (base.put key (mergeValue (base.get? key) value)) rest

def mergeValue (current : Option Json) : Json → Json
  | .object members =>
    match current with
    | some (.object base) => .object (deepMerge base members)
    | _ => .object members
  | value => value

end

/-- Where both sides have a value they are joined. -/
def mergeOption {α : Type} (join : α → α → α) : Option α → Option α → Option α
  | some base, some later => some (join base later)
  | none, later => later
  | base, none => base

namespace Style

/-- Two inline maps are joined if neither is empty. -/
def mergeInlined (base later : Option (Entries Json)) : Option (Entries Json) :=
  match base, later with
  | some b, some o => if b.isEmpty || o.isEmpty then some o else some (b.putAll o)
  | _, _ => later.or base

def merge (base later : Style) : Style :=
  { className := later.className.or base.className
    inlined := mergeInlined base.inlined later.inlined
    width := later.width.or base.width
    height := later.height.or base.height
    margin := later.margin.or base.margin
    padding := later.padding.or base.padding
    display := later.display.or base.display
    flexDirection := later.flexDirection.or base.flexDirection
    justifyContent := later.justifyContent.or base.justifyContent
    alignItems := later.alignItems.or base.alignItems
    gap := later.gap.or base.gap
    backgroundColor := later.backgroundColor.or base.backgroundColor
    color := later.color.or base.color
    fontSize := later.fontSize.or base.fontSize
    fontWeight := later.fontWeight.or base.fontWeight
    borderRadius := later.borderRadius.or base.borderRadius
    border := later.border.or base.border }

end Style

namespace Attributes

/-- The id and the type are those of the later layer. -/
def merge (base later : Attributes) : Attributes :=
  { id := if later.id.isEmpty then base.id else later.id
    type := if later.type.isEmpty then base.type else later.type
    props := mergeOption Entries.putAll base.props later.props
    events := later.events.or base.events
    style := mergeOption Style.merge base.style later.style
    text := later.text.or base.text
    binding := later.binding.or base.binding
    condition := later.condition.or base.condition
    loop := later.loop.or base.loop }

end Attributes

namespace Component

/-- Children are taken over as a whole. -/
def merge (base later : Component) : Component :=
  .mk (base.own.merge later.own) (later.children.or base.children)

end Component

namespace Metadata

def merge (base later : Metadata) : Metadata :=
  { title := later.title.or base.title, description := later.description.or base.description }

end Metadata

namespace Schema

/-- A version that was left out does not hide one that was given. -/
def merge (base later : Schema) : Schema :=
  { version := later.version.or base.version
    root := base.root.merge later.root
    data := mergeOption deepMerge base.data later.data
    metadata := mergeOption Metadata.merge base.metadata later.metadata }

/-- All layers over the base, in order; absent ones are passed over. -/
def mergeAll (base : Schema) (layers : List (Option Schema)) : Schema :=
  layers.foldl
    (fun result layer =>
      match layer with
      | some later => result.merge later
      | none => result)
    base

end Schema

end UiSchema
