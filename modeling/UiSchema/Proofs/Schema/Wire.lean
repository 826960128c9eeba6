import UiSchema.Proofs.Schema.Check
import UiSchema.Proofs.Schema.Tree
import UiSchema.Schema

/-! The written form of a schema: what stands under each field, and when the check of documents
finds nothing in it. -/

set_option autoImplicit false

namespace UiSchema

namespace Style

/-- Absent values are left out, so a name stands for the value it was listed with. -/
theorem get?_given {fields : Entries (Option Json)} (distinct : fields.Distinct) (key : String) :
    Entries.get? (given fields) key = (fields.get? key).join := by
  induction fields with
  | nil => rfl
  | cons field rest ih =>
    obtain ⟨name, value⟩ := field
    obtain ⟨absent, restDistinct⟩ := List.nodup_cons.1 distinct
    have tail := ih restDistinct
    rw [Entries.get?_cons]
    cases value with
    | none =>
      have skipped : given ((name, none) :: rest) = given rest := rfl
      rw [skipped, tail]
      by_cases same : name = key
      · subst same
        rw [if_pos rfl, (Entries.get?_eq_none_iff rest name).2 absent]
        rfl
      · rw [if_neg same]
    | some value =>
      have listed : given ((name, some value) :: rest) = (name, value) :: given rest := rfl
      rw [listed, Entries.get?_cons, tail]
      by_cases same : name = key
      · rw [if_pos same, if_pos same]
        rfl
      · rw [if_neg same, if_neg same]

theorem given_append (first second : Entries (Option Json)) :
    given (first ++ second) = given first ++ given second := List.filterMap_append

end Style

namespace Schema

variable {members : Entries Json} {field : String}

theorem hasText_str {text : String} (written : members.get? field = some (.str text)) :
    HasText members field ↔ Text.Visible text := by
  rw [HasText, written]
  simp

/-- A field that is written from an optional value holds what the value is written as. -/
theorem allows_map {α : Type} {write : α → Json} {value : Option α} {condition : Json → Prop}
    (written : members.get? field = value.map write) (notNull : ∀ a, (write a).isNull = false) :
    Allows members field condition ↔ ∀ a ∈ value, condition (write a) := by
  cases value with
  | none => simp [Allows, present?_eq_some_iff, written]
  | some a =>
    have different : write a ≠ .null := by
      intro null
      have same := notNull a
      rw [null] at same
      cases same
    simp [Allows, present?_eq_some_iff, written, different]

theorem isExpression_str {text : String} :
    IsExpression (.str text) ↔ Binding.Readable text := by
  simp [IsExpression]

theorem isName_str {text : String} : IsName (.str text) ↔ Text.Visible text := by
  simp [IsName]

theorem IsObject.isNull {value : Json} (object : IsObject value) : value.isNull = false := by
  obtain ⟨members, rfl⟩ := object
  rfl

end Schema

theorem Style.isObject_toJson (s : Style) : Schema.IsObject s.toJson := by
  rw [toJson]
  exact ⟨_, rfl⟩

theorem Metadata.isObject_toJson (m : Metadata) : Schema.IsObject m.toJson := by
  rw [toJson]
  exact ⟨_, rfl⟩

theorem EventBinding.isEvent_toJson (e : EventBinding) :
    Schema.IsEvent e.toJson ↔ Text.Visible e.event ∧ Text.Visible e.action := by
  rw [toJson]
  constructor
  · rintro ⟨event, action⟩
    exact ⟨(Schema.hasText_str rfl).1 event, (Schema.hasText_str rfl).1 action⟩
  · rintro ⟨event, action⟩
    exact .mk ((Schema.hasText_str rfl).2 event) ((Schema.hasText_str rfl).2 action)

/-- What the check asks of a loop. -/
structure Loop.Sound (l : Loop) : Prop where
  visible : Text.Visible l.source
  readable : Binding.Readable l.source
  itemName : ∀ name ∈ l.itemName, Text.Visible name
  indexName : ∀ name ∈ l.indexName, Text.Visible name

namespace Loop

def fields (l : Loop) : Entries (Option Json) :=
  [("source", some (.str l.source)), ("itemName", l.itemName.map Json.str),
    ("indexName", l.indexName.map Json.str)]

theorem fields_distinct (l : Loop) : l.fields.Distinct := by
  show ["source", "itemName", "indexName"].Nodup
  decide

theorem isLoop_toJson (l : Loop) : Schema.IsLoop l.toJson ↔ l.Sound := by
  have written (key : String) : Entries.get? (Style.given l.fields) key = (l.fields.get? key).join :=
    Style.get?_given l.fields_distinct key
  have source : Entries.get? (Style.given l.fields) "source" = some (.str l.source) :=
    written "source"
  have itemName : Schema.Allows (Style.given l.fields) "itemName" Schema.IsName ↔ _ :=
    Schema.allows_map (written "itemName") fun _ => rfl
  have indexName : Schema.Allows (Style.given l.fields) "indexName" Schema.IsName ↔ _ :=
    Schema.allows_map (written "indexName") fun _ => rfl
  simp only [Schema.isName_str] at itemName indexName
  constructor
  · rintro ⟨given, visible, readable, item, index⟩
    cases source.symm.trans given
    exact ⟨visible, readable, itemName.1 item, indexName.1 index⟩
  · rintro ⟨visible, readable, item, index⟩
    exact .mk source visible readable (itemName.2 item) (indexName.2 index)

end Loop

/-- What the check asks of the fields of a component. Props, style and text may hold anything. -/
structure Attributes.Sound (own : Attributes) : Prop where
  id : Text.Visible own.id
  type : Text.Visible own.type
  binding : ∀ e ∈ own.binding, Binding.Readable e
  condition : ∀ e ∈ own.condition, Binding.Readable e
  events : ∀ events ∈ own.events, ∀ e ∈ events, Text.Visible e.event ∧ Text.Visible e.action
  loop : ∀ loop ∈ own.loop, loop.Sound

namespace Component

/-- The fields of the written form. -/
def fields (own : Attributes) (children : Option (List Component)) : Entries (Option Json) :=
  [("id", some (.str own.id)), ("type", some (.str own.type)),
    ("props", own.props.map Json.object),
    ("children", children.map fun children => .array (listToJson children)),
    ("events", own.events.map fun events => .array (events.map EventBinding.toJson)),
    ("style", own.style.map Style.toJson), ("text", own.text.map Json.str),
    ("binding", own.binding.map Json.str), ("condition", own.condition.map Json.str),
    ("loop", own.loop.map Loop.toJson)]

theorem fields_distinct (own : Attributes) (children : Option (List Component)) :
    (fields own children).Distinct := by
  show ["id", "type", "props", "children", "events", "style", "text", "binding", "condition",
    "loop"].Nodup
  decide

theorem toJson_mk (own : Attributes) (children : Option (List Component)) :
    (mk own children).toJson = .object (Style.given (fields own children)) := by
  -- the parts before and after the children are written apart
  have split : fields own children =
      [("id", some (.str own.id)), ("type", some (.str own.type)),
        ("props", own.props.map Json.object)] ++
      ([("children", children.map fun children => .array (listToJson children))] ++
        [("events", own.events.map fun events => .array (events.map EventBinding.toJson)),
          ("style", own.style.map Style.toJson), ("text", own.text.map Json.str),
          ("binding", own.binding.map Json.str), ("condition", own.condition.map Json.str),
          ("loop", own.loop.map Loop.toJson)]) := rfl
  rw [toJson, split, Style.given_append, Style.given_append]
  cases children <;> rfl

theorem listToJson_eq (children : List Component) : listToJson children = children.map toJson := by
  induction children with
  | nil => rfl
  | cons child rest ih => rw [listToJson, ih, List.map_cons]

section Written

variable (own : Attributes) (children : Option (List Component))

/-- What stands under a field of the written form. -/
theorem get?_written (key : String) :
    Entries.get? (Style.given (fields own children)) key = ((fields own children).get? key).join :=
  Style.get?_given (fields_distinct own children) key

theorem ownFields_written :
    Schema.OwnFields (Style.given (fields own children)) ↔ own.Sound := by
  have written := get?_written own children
  have id := Schema.hasText_str (written "id")
  have type := Schema.hasText_str (written "type")
  have binding : Schema.Allows _ "binding" Schema.IsExpression ↔ _ :=
    Schema.allows_map (written "binding") fun _ => rfl
  have condition : Schema.Allows _ "condition" Schema.IsExpression ↔ _ :=
    Schema.allows_map (written "condition") fun _ => rfl
  have events : Schema.Allows _ "events" Schema.IsEvents ↔ _ :=
    Schema.allows_map (written "events") fun _ => rfl
  have loop : Schema.Allows _ "loop" Schema.IsLoop ↔ _ :=
    Schema.allows_map (written "loop") fun _ => rfl
  simp only [Schema.isExpression_str] at binding condition
  simp only [Schema.IsEvents, Json.array.injEq, exists_eq_left', List.forall_mem_map,
    EventBinding.isEvent_toJson] at events
  simp only [Loop.isLoop_toJson] at loop
  constructor
  · intro own
    exact ⟨id.1 own.id, type.1 own.type, binding.1 own.binding, condition.1 own.condition,
      events.1 own.events, loop.1 own.loop⟩
  · intro own
    exact
      { id := id.2 own.id
        type := type.2 own.type
        props := (Schema.allows_map (written "props") fun _ => rfl).2 fun members _ => ⟨members, rfl⟩
        style := (Schema.allows_map (written "style") fun style => style.isObject_toJson.isNull).2
          fun style _ => style.isObject_toJson
        text := (Schema.allows_map (written "text") fun _ => rfl).2 fun text _ => ⟨text, rfl⟩
        binding := binding.2 own.binding
        condition := condition.2 own.condition
        events := events.2 own.events
        loop := loop.2 own.loop }

theorem childrenField_written :
    Schema.ChildrenField (Style.given (fields own children)) ↔
      ∀ child ∈ children.getD [], Schema.IsComponent child.toJson := by
  have written : Entries.get? (Style.given (fields own children)) "children" =
      children.map fun children => .array (listToJson children) := get?_written own children _
  have listed : Schema.Allows (Style.given (fields own children)) "children"
      (fun value => ∃ items, value = .array items) :=
    (Schema.allows_map written fun _ => rfl).2 fun children _ => ⟨_, rfl⟩
  cases children with
  | none => simp [Schema.ChildrenField, listed, written]
  | some children =>
    simp [Schema.ChildrenField, listed, written, listToJson_eq]

end Written

/-- The written form of a tree is well-formed exactly when all components of the tree are sound. -/
theorem isComponent_toJson (c : Component) :
    Schema.IsComponent c.toJson ↔ ∀ d ∈ c.subtree, d.own.Sound := by
  induction c using tree_induction with
  | step own children ih =>
    rw [toJson_mk, Schema.isComponent_object_iff, ownFields_written, childrenField_written,
      forall_mem_subtree_mk]
    exact and_congr_right fun _ => forall₂_congr ih

theorem componentIds_toJson (c : Component) (visible : ∀ d ∈ c.subtree, Text.Visible d.id) :
    Schema.componentIds c.toJson = c.subtree.map id := by
  induction c using tree_induction with
  | step own children ih =>
    obtain ⟨here, below⟩ := forall_mem_subtree_mk.1 visible
    have written := get?_written own children
    have known : Schema.text? (Style.given (fields own children)) "id" = some own.id :=
      (Schema.text?_eq_some_iff _ _ _).2 ⟨written "id", here⟩
    have given : Entries.get? (Style.given (fields own children)) "children" =
        children.map fun children => .array (listToJson children) := written "children"
    rw [toJson_mk, Schema.componentIds, known, Schema.childIdsIn_eq, given, subtree_mk]
    cases children with
    | none => rfl
    | some children =>
      have each : Schema.itemIds (listToJson children) = (children.flatMap subtree).map id := by
        rw [listToJson_eq, Schema.itemIds_eq, List.flatMap_map, List.map_flatMap]
        exact List.flatMap_congr fun child member => ih child member (below child member)
      simp [Schema.childIds, each, id, Component.own]

end Component

namespace Schema

def fields (s : Schema) : Entries (Option Json) :=
  [("version", some (.str s.versionText)), ("root", some s.root.toJson),
    ("data", s.data.map Json.object), ("meta", s.metadata.map Metadata.toJson)]

theorem fields_distinct (s : Schema) : s.fields.Distinct := by
  show ["version", "root", "data", "meta"].Nodup
  decide

/-- What the check asks of a schema. -/
structure Sound (s : Schema) : Prop where
  version : Text.Visible s.versionText
  each : ∀ c ∈ s.root.subtree, c.own.Sound
  ids : (s.root.subtree.map Component.id).Nodup

theorem isDocument_toJson (s : Schema) : IsDocument s.toJson ↔ s.Sound := by
  have written (key : String) : Entries.get? (Style.given s.fields) key = (s.fields.get? key).join :=
    Style.get?_given s.fields_distinct key
  have root : Entries.get? (Style.given s.fields) "root" = some s.root.toJson := written "root"
  have data : Allows (Style.given s.fields) "data" IsObject :=
    (allows_map (written "data") fun _ => rfl).2 fun members _ => ⟨members, rfl⟩
  have metadata : Allows (Style.given s.fields) "meta" IsObject :=
    (allows_map (written "meta") fun m => m.isObject_toJson.isNull).2 fun m _ => m.isObject_toJson
  constructor
  · rintro ⟨version, given, component, ids, _, _⟩
    cases root.symm.trans given
    have each := (Component.isComponent_toJson s.root).1 component
    rw [Component.componentIds_toJson s.root fun c member => (each c member).id] at ids
    exact ⟨(hasText_str (written "version")).1 version, each, ids⟩
  · rintro ⟨version, each, ids⟩
    rw [← Component.componentIds_toJson s.root fun c member => (each c member).id] at ids
    exact .mk ((hasText_str (written "version")).2 version) root
      ((Component.isComponent_toJson s.root).2 each) ids data metadata

/-- The check finds nothing in the written form of a schema exactly when the schema is sound. -/
theorem check_toJson_iff (s : Schema) : check s.toJson = .ok [] ↔ s.Sound :=
  (check_eq_nil_iff s.toJson).trans (isDocument_toJson s)

end Schema

end UiSchema
