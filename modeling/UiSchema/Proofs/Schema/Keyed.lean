import Mathlib.Data.Option.Basic
import UiSchema.Proofs.Schema.Faithful

/-! Written forms in which no key stands twice. The names of the fields are all different, so this
is up to the objects that a schema carries along: its data, the props, the inline styles and what
the events bring with them. -/

set_option autoImplicit false

namespace UiSchema

/-- No key stands twice in what is written of a field, if anything is. -/
def Json.AllKeyed (written : Option Json) : Prop := ∀ v ∈ written, v.Keyed

theorem Json.allKeyed_map {α : Type} {write : α → Json} {value : Option α} :
    AllKeyed (value.map write) ↔ ∀ a ∈ value, (write a).Keyed := Option.forall_mem_map

theorem Json.allKeyed_str (text : Option String) : AllKeyed (text.map Json.str) :=
  allKeyed_map.2 fun _ _ => trivial

theorem Json.allKeyed_measure (size : Option Measure) : AllKeyed (size.map Measure.toJson) :=
  allKeyed_map.2 fun size _ => by cases size <;> trivial

theorem Style.keyed_given {fields : Entries (Option Json)} (distinct : fields.Distinct) :
    (Json.object (given fields)).Keyed ↔ ∀ field ∈ fields, Json.AllKeyed field.2 := by
  have distinctGiven : Entries.Distinct (given fields) :=
    distinct.sublist (keys_given_sublist fields)
  rw [Json.Keyed, Json.membersKeyed_iff, and_iff_right distinctGiven]
  constructor
  · rintro each ⟨key, value⟩ member v ⟨⟩
    exact each (key, v) (List.mem_filterMap.2 ⟨_, member, rfl⟩)
  · intro each member inGiven
    obtain ⟨field, inFields, written⟩ := List.mem_filterMap.1 inGiven
    obtain ⟨v, held, rfl⟩ := Option.map_eq_some_iff.1 written
    exact each field inFields v held

theorem Style.keyed_toJson {s : Style} :
    s.toJson.Keyed ↔ ∀ map ∈ s.inlined, (Json.object map).Keyed := by
  show (Json.object (given s.fields)).Keyed ↔ _
  rw [keyed_given s.fields_distinct]
  simp only [fields, shorthands, List.cons_append, List.nil_append, List.forall_mem_cons,
    Json.allKeyed_str, Json.allKeyed_measure, true_and]
  exact ⟨fun keyed => Json.allKeyed_map.1 keyed.1,
    fun each => ⟨Json.allKeyed_map.2 each, List.forall_mem_nil _⟩⟩

theorem Metadata.keyed_toJson (m : Metadata) : m.toJson.Keyed := by
  show (Json.object (Style.given m.fields)).Keyed
  rw [Style.keyed_given m.fields_distinct]
  simp only [fields, List.forall_mem_cons]
  exact ⟨Json.allKeyed_str m.title, Json.allKeyed_str m.description, List.forall_mem_nil _⟩

theorem Loop.keyed_toJson (l : Loop) : l.toJson.Keyed := by
  show (Json.object (Style.given l.fields)).Keyed
  rw [Style.keyed_given l.fields_distinct]
  simp only [fields, List.forall_mem_cons]
  exact ⟨Json.allKeyed_str (some l.source), Json.allKeyed_str l.itemName,
    Json.allKeyed_str l.indexName, List.forall_mem_nil _⟩

/-- No key stands twice in what a component carries along. -/
@[mk_iff]
structure Attributes.Keyed (own : Attributes) : Prop where
  props : ∀ props ∈ own.props, (Json.object props).Keyed
  events : ∀ events ∈ own.events, ∀ e ∈ events, e.toJson.Keyed
  style : ∀ style ∈ own.style, style.toJson.Keyed

theorem Component.keyed_toJson {own : Attributes} {children : Option (List Component)} :
    (mk own children).toJson.Keyed ↔
      own.Keyed ∧ ∀ list ∈ children, ∀ child ∈ list, child.toJson.Keyed := by
  have array {α : Type} {write : α → Json} {items : List α} :
      (Json.array (items.map write)).Keyed ↔ ∀ item ∈ items, (write item).Keyed :=
    Json.itemsKeyed_iff.trans List.forall_mem_map
  rw [toJson_mk, Style.keyed_given (fields_distinct own children)]
  simp only [fields, List.forall_mem_cons, listToJson_eq]
  constructor
  · rintro ⟨_, _, props, below, events, style, _⟩
    exact ⟨⟨Json.allKeyed_map.1 props,
        fun list given => array.1 (Json.allKeyed_map.1 events list given),
        Json.allKeyed_map.1 style⟩,
      fun list given => array.1 (Json.allKeyed_map.1 below list given)⟩
  · rintro ⟨⟨props, events, style⟩, below⟩
    exact ⟨Json.allKeyed_str (some own.id), Json.allKeyed_str (some own.type),
      Json.allKeyed_map.2 props,
      Json.allKeyed_map.2 fun list given => array.2 (below list given),
      Json.allKeyed_map.2 fun list given => array.2 (events list given),
      Json.allKeyed_map.2 style, Json.allKeyed_str own.text, Json.allKeyed_str own.binding,
      Json.allKeyed_str own.condition, Json.allKeyed_map.2 fun l _ => l.keyed_toJson, List.forall_mem_nil _⟩

theorem Schema.keyed_toJson {s : Schema} :
    s.toJson.Keyed ↔ s.root.toJson.Keyed ∧ ∀ data ∈ s.data, (Json.object data).Keyed := by
  show (Json.object (Style.given s.fields)).Keyed ↔ _
  rw [Style.keyed_given s.fields_distinct]
  simp only [fields, List.forall_mem_cons]
  constructor
  · rintro ⟨_, root, data, _⟩
    exact ⟨root _ rfl, Json.allKeyed_map.1 data⟩
  · rintro ⟨root, data⟩
    have written : Json.AllKeyed (some s.root.toJson) := by
      rintro _ ⟨⟩
      exact root
    exact ⟨Json.allKeyed_str (some s.versionText), written, Json.allKeyed_map.2 data,
      Json.allKeyed_map.2 fun m _ => m.keyed_toJson, List.forall_mem_nil _⟩

end UiSchema
