import UiSchema.Schema.Style

/-! Components: the nodes of the tree that a schema describes. -/

set_option autoImplicit false

namespace UiSchema

/-- An event of the host and the action it signals. -/
structure EventBinding where
  event : String
  action : String
  payload : Json := .null

/-- Repetition of a component, once for each item of the source. -/
structure Loop where
  source : String
  itemName : Option String := none
  indexName : Option String := none

/-- What a component says about itself, its children apart. -/
structure Attributes where
  id : String
  type : String
  props : Option (Entries Json) := none
  events : Option (List EventBinding) := none
  style : Option Style := none
  text : Option String := none
  binding : Option String := none
  condition : Option String := none
  loop : Option Loop := none

inductive Component where
  | mk (own : Attributes) (children : Option (List Component))

namespace Component

def own : Component → Attributes
  | .mk own _ => own

def children : Component → Option (List Component)
  | .mk _ children => children

def id (c : Component) : String := c.own.id

def type (c : Component) : String := c.own.type

mutual

/-- The component and all below it, each before its children. -/
def subtree : Component → List Component
  | .mk own children => .mk own children :: subtreesIn children

def subtreesIn : Option (List Component) → List Component
  | none => []
  | some children => subtrees children

def subtrees : List Component → List Component
  | [] => []
  | child :: rest => child.subtree ++ subtrees rest

end

end Component

namespace EventBinding

def toJson (e : EventBinding) : Json :=
  .object (("event", .str e.event) :: ("action", .str e.action) ::
    (if e.payload.isNull then [] else [("payload", e.payload)]))

def decode : Decoder EventBinding :=
  Decode.record "EventBinding" fun members =>
    EventBinding.mk
      <$> Decode.required members (.same "event") Decode.nonEmptyString
      <*> Decode.required members (.same "action") Decode.nonEmptyString
      <*> Decode.optional members (.same "payload") .null Decode.anything

end EventBinding

namespace Loop

def toJson (l : Loop) : Json :=
  .object (Style.given
    [("source", some (.str l.source)),
     ("itemName", l.itemName.map Json.str),
     ("indexName", l.indexName.map Json.str)])

def decode : Decoder Loop :=
  Decode.record "LoopConfig" fun members =>
    Loop.mk
      <$> Decode.required members (.same "source") Decode.nonEmptyString
      <*> Decode.nullableField members ⟨"itemName", "item_name"⟩ Decode.string
      <*> Decode.nullableField members ⟨"indexName", "index_name"⟩ Decode.string

end Loop

namespace Component

/-- Members of the written form before and after the children. -/
def leadingMembers (own : Attributes) : Entries Json :=
  Style.given
    [("id", some (.str own.id)), ("type", some (.str own.type)),
     ("props", own.props.map Json.object)]

def trailingMembers (own : Attributes) : Entries Json :=
  Style.given
    [("events", own.events.map fun events => .array (events.map EventBinding.toJson)),
     ("style", own.style.map Style.toJson),
     ("text", own.text.map Json.str),
     ("binding", own.binding.map Json.str),
     ("condition", own.condition.map Json.str),
     ("loop", own.loop.map Loop.toJson)]

mutual

/-- The written form. Nothing is written for what is absent. -/
def toJson : Component → Json
  | .mk own children =>
    .object (leadingMembers own ++ (childrenMember children ++ trailingMembers own))

def childrenMember : Option (List Component) → Entries Json
  | none => []
  | some children => [("children", .array (listToJson children))]

def listToJson : List Component → List Json
  | [] => []
  | child :: rest => child.toJson :: listToJson rest

end

/-- The attributes checked before the children. -/
structure Leading where
  id : String
  type : String
  props : Option (Entries Json)

def decodeLeading (members : Entries Json) : Decoded Leading :=
  Leading.mk
    <$> Decode.required members (.same "id") Decode.nonEmptyString
    <*> Decode.required members (.same "type") Decode.nonEmptyString
    <*> Decode.nullableField members (.same "props") Decode.dictionary

/-- The attributes checked after the children. -/
def decodeTrailing (members : Entries Json) : Decoded (Leading → Attributes) :=
  (fun events style text binding condition loop (l : Leading) =>
      { id := l.id, type := l.type, props := l.props
        events, style, text, binding, condition, loop })
    <$> Decode.nullableField members (.same "events") (Decode.list EventBinding.decode)
    <*> Decode.nullableField members (.same "style") Style.decode
    <*> Decode.nullableField members (.same "text") Decode.string
    <*> Decode.nullableField members (.same "binding") Decode.string
    <*> Decode.nullableField members (.same "condition") Decode.string
    <*> Decode.nullableField members (.same "loop") Loop.decode

mutual

def decode : Json → Decoded Component
  | .object members =>
    (fun leading children trailing => Component.mk (trailing leading) children)
      <$> decodeLeading members <*> decodeChildrenIn members <*> decodeTrailing members
  | _ => .fault (.notRecord "UIComponent")

/-- The children among the members of a component. -/
def decodeChildrenIn : List (String × Json) → Decoded (Option (List Component))
  | [] => .ok none
  | (key, value) :: rest =>
    if key = "children" then (decodeChildren value).within "children" else decodeChildrenIn rest

def decodeChildren : Json → Decoded (Option (List Component))
  | .null => .ok none
  | .array items => (decodeItems 0 items).map some
  | _ => .fault (.not .list)

def decodeItems (index : Nat) : List Json → Decoded (List Component)
  | [] => .ok []
  | item :: rest =>
    List.cons <$> (decode item).within (toString index) <*> decodeItems (index + 1) rest

end

end Component

end UiSchema
