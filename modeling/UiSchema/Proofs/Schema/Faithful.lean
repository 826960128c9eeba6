import UiSchema.Proofs.Json.Reading
import UiSchema.Proofs.Schema.Decode
import UiSchema.Proofs.Schema.Wire

/-! What the records of a schema are written as is decoded as those records again. The written form
is no more than the document they were decoded from: no deeper, and with no key twice if the
document has none. -/

set_option autoImplicit false

namespace UiSchema

/-- A document that is no deeper than another, and has no key twice if the other has none. -/
structure Json.Simpler (v w : Json) : Prop where
  depth : v.depth ≤ w.depth
  keyed : w.Keyed → v.Keyed

namespace Json

theorem Simpler.refl (v : Json) : v.Simpler v := ⟨Nat.le_refl _, id⟩

theorem depthMembers_le_iff {members : Entries Json} {bound : Nat} :
    depthMembers members ≤ bound ↔ ∀ member ∈ members, member.2.depth + 1 ≤ bound := by
  induction members with
  | nil => simp [depthMembers]
  | cons member rest ih => rw [depthMembers, Nat.max_le, ih, List.forall_mem_cons]

theorem depthItems_le_iff {items : List Json} {bound : Nat} :
    depthItems items ≤ bound ↔ ∀ item ∈ items, item.depth + 1 ≤ bound := by
  induction items with
  | nil => simp [depthItems]
  | cons item rest ih => rw [depthItems, Nat.max_le, ih, List.forall_mem_cons]

/-- A list whose items are each no more than one of another list is no more than that list. -/
theorem simpler_array {vs ws : List Json} (each : ∀ v ∈ vs, ∃ w ∈ ws, v.Simpler w) :
    (Json.array vs).Simpler (.array ws) := by
  constructor
  · apply depthItems_le_iff.2
    intro v member
    obtain ⟨w, found, simpler⟩ := each v member
    have deeper := depthItems_le_iff.1 (Nat.le_refl (depthItems ws)) w found
    exact Nat.le_trans (Nat.succ_le_succ simpler.depth) deeper
  · intro keyed
    apply itemsKeyed_iff.2
    intro v member
    obtain ⟨w, found, simpler⟩ := each v member
    exact simpler.keyed (itemsKeyed_iff.1 keyed w found)

theorem eq_null_of_isNull {v : Json} (null : v.isNull = true) : v = .null := by
  cases v <;> first | rfl | cases null

theorem checkDepth_of_le {v w : Json} {limit : Int} (depth : v.depth ≤ w.depth)
    (shallow : checkDepth w limit = .ok ()) : checkDepth v limit = .ok () := by
  unfold checkDepth at shallow ⊢
  split at shallow
  · cases shallow
  · exact if_neg (by omega)

end Json

/-- What is written of a field is no more than some member. -/
def Carried (members : Entries Json) (written : Option Json) : Prop :=
  ∀ v ∈ written, ∃ key w, members.get? key = some w ∧ v.Simpler w

theorem Style.keys_given_sublist (fields : Entries (Option Json)) :
    (Entries.keys (given fields)).Sublist fields.keys := by
  induction fields with
  | nil => exact List.Sublist.refl _
  | cons field rest ih =>
    obtain ⟨name, value⟩ := field
    cases value with
    | none => exact ih.cons name
    | some value => exact ih.cons_cons name

/-- A record of fields that each come from a member is no more than the object of the members. -/
theorem Style.simpler_given {fields : Entries (Option Json)} {members : Entries Json}
    (distinct : fields.Distinct) (carried : ∀ field ∈ fields, Carried members field.2) :
    (Json.object (given fields)).Simpler (.object members) := by
  have each : ∀ member ∈ given fields, ∃ w, (∃ key, (key, w) ∈ members) ∧ member.2.Simpler w := by
    intro member given
    obtain ⟨field, inFields, written⟩ := List.mem_filterMap.1 given
    obtain ⟨value, held, rfl⟩ := Option.map_eq_some_iff.1 written
    obtain ⟨key, w, found, simpler⟩ := carried field inFields value held
    exact ⟨w, ⟨key, Entries.mem_of_get? found⟩, simpler⟩
  constructor
  · apply Json.depthMembers_le_iff.2
    intro member given
    obtain ⟨w, ⟨key, found⟩, simpler⟩ := each member given
    have deeper := Json.depthMembers_le_iff.1 (Nat.le_refl (Json.depthMembers members)) _ found
    exact Nat.le_trans (Nat.succ_le_succ simpler.depth) deeper
  · rintro ⟨_, keyed⟩
    have distinctGiven : Entries.Distinct (given fields) :=
      distinct.sublist (keys_given_sublist fields)
    refine ⟨distinctGiven, Json.membersKeyed_iff.2 fun member given => ?_⟩
    obtain ⟨w, ⟨key, found⟩, simpler⟩ := each member given
    exact simpler.keyed (Json.membersKeyed_iff.1 keyed _ found)

/-- A decoder and a way of writing that fit together: what was decoded is decoded again from what it
is written as. -/
structure Faithful {α : Type} (decode : Decoder α) (write : α → Json) : Prop where
  notNull : ∀ a, (write a).isNull = false
  again : ∀ {w a}, decode w = .ok a → decode (write a) = .ok a
  simpler : ∀ {w a}, decode w = .ok a → (write a).Simpler w

namespace Faithful

variable {α : Type} {decode : Decoder α} {write : α → Json} {members : Entries Json}
  {name : FieldName} {value : Option α}

theorem member_of_nullableField {a : α}
    (read : Decode.nullableField members name decode = .ok (some a)) :
    ∃ key w, members.get? key = some w ∧ decode w = .ok a := by
  unfold Decode.nullableField Decode.optional at read
  split at read
  · rename_i spelling w found
    rcases Decode.nullable_eq_ok.1 (Decoded.within_eq_ok.1 read) with ⟨_, absent⟩ |
      ⟨_, _, decoded, same⟩
    · cases absent
    · cases same
      unfold FieldName.find? at found
      split at found
      · rename_i given
        cases found
        exact ⟨_, _, given, decoded⟩
      · obtain ⟨_, given, same⟩ := Option.map_eq_some_iff.1 found
        cases same
        exact ⟨_, _, given, decoded⟩
  · cases read

theorem carried (faithful : Faithful decode write)
    (read : Decode.nullableField members name decode = .ok value) :
    Carried members (value.map write) := by
  rintro v written
  obtain ⟨a, rfl, rfl⟩ := Option.map_eq_some_iff.1 written
  obtain ⟨key, w, found, decoded⟩ := member_of_nullableField read
  exact ⟨key, w, found, faithful.simpler decoded⟩

/-- A field that may be null is decoded again under its wire name; the other spelling is that name,
or it is not written. -/
theorem nullableField (faithful : Faithful decode write)
    (read : Decode.nullableField members name decode = .ok value)
    {fields : Entries (Option Json)} (distinct : fields.Distinct)
    (wire : fields.get? name.wire = some (value.map write))
    (plain : (fields.get? name.plain).join = none ∨ name.plain = name.wire) :
    Decode.nullableField (Style.given fields) name decode = .ok value := by
  have written := Style.get?_given distinct name.wire
  rw [wire] at written
  cases value with
  | none =>
    -- the other spelling is not written either, or the decoder would find it
    have absent : Entries.get? (Style.given fields) name.plain = none := by
      rcases plain with absent | same
      · rw [Style.get?_given distinct, absent]
      · rw [same]
        exact written
    unfold Decode.nullableField Decode.optional FieldName.find?
    rw [written, absent]
    rfl
  | some a =>
    obtain ⟨_, _, _, decoded⟩ := member_of_nullableField read
    unfold Decode.nullableField Decode.optional FieldName.find?
    rw [written]
    -- a value is never written as null, which would stand for its absence
    have notNull : write a ≠ .null := by
      intro null
      have notNull := faithful.notNull a
      rw [null] at notNull
      cases notNull
    exact Decoded.within_eq_ok.2
      (Decode.nullable_eq_ok.2 (.inr ⟨notNull, a, faithful.again decoded, rfl⟩))

end Faithful

namespace Decode

theorem dictionary_eq_ok {value : Json} {members : Entries Json} :
    dictionary value = .ok members ↔ value = .object members := by
  cases value <;> simp [dictionary, Decoded.fault]

theorem faithful_string : Faithful string Json.str where
  notNull := fun _ => rfl
  again := fun _ => rfl
  simpler := by
    intro w text decoded
    cases string_eq_ok.1 decoded
    exact .refl _

theorem faithful_dictionary : Faithful dictionary Json.object where
  notNull := fun _ => rfl
  again := fun _ => rfl
  simpler := by
    intro w members decoded
    cases dictionary_eq_ok.1 decoded
    exact .refl _

/-- A list is decoded again, and is no more than its source, if that is so of every item. -/
theorem items_again {α : Type} {decode : Decoder α} {write : α → Json} {items : List Json}
    {values : List α}
    (related : List.Forall₂ (fun item value => decode item = .ok value) items values)
    (each : ∀ item ∈ items, ∀ value, decode item = .ok value →
      decode (write value) = .ok value ∧ (write value).Simpler item) :
    List.Forall₂ (fun item value => decode item = .ok value) (values.map write) values ∧
      (Json.array (values.map write)).Simpler (.array items) := by
  constructor
  · refine List.forall₂_map_left_iff.2 (List.forall₂_same.2 ?_)
    exact forall_mem_of_forall₂ related fun item member value decoded =>
      (each item member value decoded).1
  · have simpler : ∀ value ∈ values, ∃ item ∈ items, (write value).Simpler item :=
      forall_mem_of_forall₂ related fun item member value decoded =>
        ⟨item, member, (each item member value decoded).2⟩
    exact Json.simpler_array (List.forall_mem_map.2 simpler)

theorem faithful_list {α : Type} {decode : Decoder α} {write : α → Json}
    (faithful : Faithful decode write) :
    Faithful (list decode) fun values => .array (values.map write) where
  notNull := fun _ => rfl
  again := by
    intro w values decoded
    obtain ⟨items, rfl, related⟩ := list_eq_ok.1 decoded
    exact list_eq_ok.2 ⟨_, rfl, (items_again related fun _ _ _ decoded =>
      ⟨faithful.again decoded, faithful.simpler decoded⟩).1⟩
  simpler := by
    intro w values decoded
    obtain ⟨items, rfl, related⟩ := list_eq_ok.1 decoded
    exact (items_again related fun _ _ _ decoded =>
      ⟨faithful.again decoded, faithful.simpler decoded⟩).2

end Decode

namespace Measure

theorem isNull_toJson (m : Measure) : m.toJson.isNull = false := by
  cases m <;> rfl

/-- A size is a leaf. -/
theorem simpler_toJson (m : Measure) (w : Json) : m.toJson.Simpler w := by
  cases m <;> exact ⟨Nat.zero_le _, fun _ => trivial⟩

end Measure

namespace Style

theorem faithful_measure : Faithful measure Measure.toJson where
  notNull := Measure.isNull_toJson
  again := fun {_ size} _ => by cases size <;> rfl
  simpler := fun {w size} _ => size.simpler_toJson w

theorem faithful_weight : Faithful weight Measure.toJson where
  notNull := Measure.isNull_toJson
  again := by
    intro w size decoded
    cases size with
    | text value => rfl
    | whole value => rfl
    | real value =>
      -- a weight is never read as a number with a fraction
      unfold weight at decoded
      split at decoded
      · cases decoded
      · split at decoded <;> cases decoded
  simpler := fun {w size} _ => size.simpler_toJson w

/-- The members that a style is read from. -/
structure ReadFrom (members : Entries Json) (s : Style) : Prop where
  className : Decode.nullableField members ⟨"className", "class_name"⟩ Decode.string =
    .ok s.className
  inlined : Decode.nullableField members (.same "style") Decode.dictionary = .ok s.inlined
  width : Decode.nullableField members ⟨"width", "width"⟩ measure = .ok s.width
  height : Decode.nullableField members ⟨"height", "height"⟩ measure = .ok s.height
  margin : Decode.nullableField members ⟨"margin", "margin"⟩ measure = .ok s.margin
  padding : Decode.nullableField members ⟨"padding", "padding"⟩ measure = .ok s.padding
  display : Decode.nullableField members ⟨"display", "display"⟩ Decode.string = .ok s.display
  flexDirection : Decode.nullableField members ⟨"flexDirection", "flex_direction"⟩ Decode.string =
    .ok s.flexDirection
  justifyContent : Decode.nullableField members ⟨"justifyContent", "justify_content"⟩
    Decode.string = .ok s.justifyContent
  alignItems : Decode.nullableField members ⟨"alignItems", "align_items"⟩ Decode.string =
    .ok s.alignItems
  gap : Decode.nullableField members ⟨"gap", "gap"⟩ measure = .ok s.gap
  backgroundColor : Decode.nullableField members ⟨"backgroundColor", "background_color"⟩
    Decode.string = .ok s.backgroundColor
  color : Decode.nullableField members ⟨"color", "color"⟩ Decode.string = .ok s.color
  fontSize : Decode.nullableField members ⟨"fontSize", "font_size"⟩ measure = .ok s.fontSize
  fontWeight : Decode.nullableField members ⟨"fontWeight", "font_weight"⟩ weight =
    .ok s.fontWeight
  borderRadius : Decode.nullableField members ⟨"borderRadius", "border_radius"⟩ measure =
    .ok s.borderRadius
  border : Decode.nullableField members ⟨"border", "border"⟩ Decode.string = .ok s.border

theorem decodeMembers_eq_ok {members : Entries Json} {s : Style} :
    decodeMembers members = .ok s ↔ s.ReadFrom members := by
  simp only [decodeMembers, Decoded.seq_eq_ok, Decoded.map_eq_ok]
  constructor
  · rintro ⟨_, ⟨_, ⟨_, ⟨_, ⟨_, ⟨_, ⟨_, ⟨_, ⟨_, ⟨_, ⟨_, ⟨_, ⟨_, ⟨_, ⟨_, ⟨_, ⟨_, className, rfl⟩,
      _, inlined, rfl⟩, _, width, rfl⟩, _, height, rfl⟩, _, margin, rfl⟩, _, padding, rfl⟩,
      _, display, rfl⟩, _, flexDirection, rfl⟩, _, justifyContent, rfl⟩, _, alignItems, rfl⟩,
      _, gap, rfl⟩, _, backgroundColor, rfl⟩, _, color, rfl⟩, _, fontSize, rfl⟩,
      _, fontWeight, rfl⟩, _, borderRadius, rfl⟩, _, border, rfl⟩
    exact ⟨className, inlined, width, height, margin, padding, display, flexDirection,
      justifyContent, alignItems, gap, backgroundColor, color, fontSize, fontWeight, borderRadius,
      border⟩
  · rintro ⟨className, inlined, width, height, margin, padding, display, flexDirection,
      justifyContent, alignItems, gap, backgroundColor, color, fontSize, fontWeight, borderRadius,
      border⟩
    exact ⟨_, ⟨_, ⟨_, ⟨_, ⟨_, ⟨_, ⟨_, ⟨_, ⟨_, ⟨_, ⟨_, ⟨_, ⟨_, ⟨_, ⟨_, ⟨_, ⟨_, className, rfl⟩,
      _, inlined, rfl⟩, _, width, rfl⟩, _, height, rfl⟩, _, margin, rfl⟩, _, padding, rfl⟩,
      _, display, rfl⟩, _, flexDirection, rfl⟩, _, justifyContent, rfl⟩, _, alignItems, rfl⟩,
      _, gap, rfl⟩, _, backgroundColor, rfl⟩, _, color, rfl⟩, _, fontSize, rfl⟩,
      _, fontWeight, rfl⟩, _, borderRadius, rfl⟩, _, border, rfl⟩

/-- The fields of the written form. -/
def fields (s : Style) : Entries (Option Json) :=
  [("className", s.className.map Json.str), ("style", s.inlined.map Json.object)] ++ s.shorthands

theorem fields_distinct (s : Style) : s.fields.Distinct := by
  show ["className", "style", "width", "height", "margin", "padding", "display", "flexDirection",
    "justifyContent", "alignItems", "gap", "backgroundColor", "color", "fontSize", "fontWeight",
    "borderRadius", "border"].Nodup
  decide

theorem readFrom_written {members : Entries Json} {s : Style} (read : s.ReadFrom members) :
    s.ReadFrom (given s.fields) where
  className := Decode.faithful_string.nullableField read.className s.fields_distinct rfl (.inl rfl)
  inlined := Decode.faithful_dictionary.nullableField read.inlined s.fields_distinct rfl (.inr rfl)
  width := faithful_measure.nullableField read.width s.fields_distinct rfl (.inr rfl)
  height := faithful_measure.nullableField read.height s.fields_distinct rfl (.inr rfl)
  margin := faithful_measure.nullableField read.margin s.fields_distinct rfl (.inr rfl)
  padding := faithful_measure.nullableField read.padding s.fields_distinct rfl (.inr rfl)
  display := Decode.faithful_string.nullableField read.display s.fields_distinct rfl (.inr rfl)
  flexDirection :=
    Decode.faithful_string.nullableField read.flexDirection s.fields_distinct rfl (.inl rfl)
  justifyContent :=
    Decode.faithful_string.nullableField read.justifyContent s.fields_distinct rfl (.inl rfl)
  alignItems :=
    Decode.faithful_string.nullableField read.alignItems s.fields_distinct rfl (.inl rfl)
  gap := faithful_measure.nullableField read.gap s.fields_distinct rfl (.inr rfl)
  backgroundColor :=
    Decode.faithful_string.nullableField read.backgroundColor s.fields_distinct rfl (.inl rfl)
  color := Decode.faithful_string.nullableField read.color s.fields_distinct rfl (.inr rfl)
  fontSize := faithful_measure.nullableField read.fontSize s.fields_distinct rfl (.inl rfl)
  fontWeight := faithful_weight.nullableField read.fontWeight s.fields_distinct rfl (.inl rfl)
  borderRadius := faithful_measure.nullableField read.borderRadius s.fields_distinct rfl (.inl rfl)
  border := Decode.faithful_string.nullableField read.border s.fields_distinct rfl (.inr rfl)

theorem carried_fields {members : Entries Json} {s : Style} (read : s.ReadFrom members) :
    ∀ field ∈ s.fields, Carried members field.2 := by
  simp only [fields, shorthands, List.cons_append, List.nil_append, List.forall_mem_cons]
  exact ⟨Decode.faithful_string.carried read.className,
    Decode.faithful_dictionary.carried read.inlined, faithful_measure.carried read.width,
    faithful_measure.carried read.height, faithful_measure.carried read.margin,
    faithful_measure.carried read.padding, Decode.faithful_string.carried read.display,
    Decode.faithful_string.carried read.flexDirection,
    Decode.faithful_string.carried read.justifyContent,
    Decode.faithful_string.carried read.alignItems, faithful_measure.carried read.gap,
    Decode.faithful_string.carried read.backgroundColor,
    Decode.faithful_string.carried read.color, faithful_measure.carried read.fontSize,
    faithful_weight.carried read.fontWeight, faithful_measure.carried read.borderRadius,
    Decode.faithful_string.carried read.border, nofun⟩

theorem faithful : Faithful decode toJson where
  notNull := fun s => s.isObject_toJson.isNull
  again := by
    intro w s decoded
    obtain ⟨members, rfl, read⟩ := Decode.record_eq_ok.1 decoded
    exact Decode.record_eq_ok.2
      ⟨_, rfl, decodeMembers_eq_ok.2 (readFrom_written (decodeMembers_eq_ok.1 read))⟩
  simpler := by
    intro w s decoded
    obtain ⟨members, rfl, read⟩ := Decode.record_eq_ok.1 decoded
    exact simpler_given s.fields_distinct (carried_fields (decodeMembers_eq_ok.1 read))

end Style

namespace Metadata

def fields (m : Metadata) : Entries (Option Json) :=
  [("title", m.title.map Json.str), ("description", m.description.map Json.str)]

theorem fields_distinct (m : Metadata) : m.fields.Distinct := by
  show ["title", "description"].Nodup
  decide

theorem decode_eq_ok {value : Json} {m : Metadata} :
    decode value = .ok m ↔ ∃ members : Entries Json, value = .object members ∧
      Decode.nullableField members (.same "title") Decode.string = .ok m.title ∧
      Decode.nullableField members (.same "description") Decode.string = .ok m.description := by
  simp only [decode, Decode.record_eq_ok, Decoded.seq_eq_ok, Decoded.map_eq_ok]
  refine exists_congr fun members => and_congr_right fun _ => ?_
  constructor
  · rintro ⟨_, ⟨_, title, rfl⟩, _, description, rfl⟩
    exact ⟨title, description⟩
  · rintro ⟨title, description⟩
    exact ⟨_, ⟨_, title, rfl⟩, _, description, rfl⟩

theorem faithful : Faithful decode toJson where
  notNull := fun m => m.isObject_toJson.isNull
  again := by
    intro w m decoded
    obtain ⟨members, rfl, title, description⟩ := decode_eq_ok.1 decoded
    exact decode_eq_ok.2 ⟨Style.given m.fields, rfl,
      Decode.faithful_string.nullableField title m.fields_distinct rfl (.inr rfl),
      Decode.faithful_string.nullableField description m.fields_distinct rfl (.inr rfl)⟩
  simpler := by
    intro w m decoded
    obtain ⟨members, rfl, title, description⟩ := decode_eq_ok.1 decoded
    refine Style.simpler_given m.fields_distinct ?_
    simp only [List.forall_mem_cons]
    exact ⟨Decode.faithful_string.carried title, Decode.faithful_string.carried description, nofun⟩

end Metadata

/-- A text that has to be there is written as it was found. -/
theorem Carried.text {members : Entries Json} {key text : String}
    (given : members.get? key = some (.str text)) : Carried members (some (.str text)) := by
  rintro _ ⟨⟩
  exact ⟨key, _, given, .refl _⟩

namespace Loop

theorem faithful : Faithful decode toJson where
  notNull := fun _ => rfl
  again := by
    intro w l decoded
    obtain ⟨members, rfl, ⟨_, visible⟩, itemName, indexName⟩ := decode_eq_ok.1 decoded
    exact decode_eq_ok.2 ⟨Style.given l.fields, rfl,
      ⟨Style.get?_given l.fields_distinct "source", visible⟩,
      Decode.faithful_string.nullableField itemName l.fields_distinct rfl (.inl rfl),
      Decode.faithful_string.nullableField indexName l.fields_distinct rfl (.inl rfl)⟩
  simpler := by
    intro w l decoded
    obtain ⟨members, rfl, ⟨source, _⟩, itemName, indexName⟩ := decode_eq_ok.1 decoded
    refine Style.simpler_given l.fields_distinct ?_
    simp only [List.forall_mem_cons]
    exact ⟨.text source, Decode.faithful_string.carried itemName,
      Decode.faithful_string.carried indexName, nofun⟩

end Loop

namespace EventBinding

def fields (e : EventBinding) : Entries (Option Json) :=
  [("event", some (.str e.event)), ("action", some (.str e.action)),
    ("payload", if e.payload.isNull then none else some e.payload)]

theorem fields_distinct (e : EventBinding) : e.fields.Distinct := by
  show ["event", "action", "payload"].Nodup
  decide

theorem toJson_eq (e : EventBinding) : e.toJson = .object (Style.given e.fields) := by
  unfold toJson fields
  split <;> rfl

theorem faithful : Faithful decode toJson where
  notNull := fun _ => rfl
  again := by
    intro w e decoded
    obtain ⟨_, _, ⟨_, someEvent⟩, ⟨_, someAction⟩, _⟩ := decode_eq_ok.1 decoded
    have written (key : String) := Style.get?_given e.fields_distinct key
    have payload : Entries.get? (Style.given e.fields) "payload" =
        if e.payload.isNull then none else some e.payload := written "payload"
    refine decode_eq_ok.2 ⟨_, e.toJson_eq, ⟨written "event", someEvent⟩,
      ⟨written "action", someAction⟩, Decode.optional_same.2 ?_⟩
    -- a payload that is null is left out, and null stands for what is left out
    cases null : e.payload.isNull with
    | true =>
      rw [null] at payload
      exact .inl ⟨payload, (Json.eq_null_of_isNull null).symm⟩
    | false =>
      rw [null] at payload
      exact .inr ⟨e.payload, payload, rfl⟩
  simpler := by
    intro w e decoded
    obtain ⟨members, rfl, ⟨event, _⟩, ⟨action, _⟩, payload⟩ := decode_eq_ok.1 decoded
    rw [toJson_eq]
    refine Style.simpler_given e.fields_distinct ?_
    simp only [fields, List.forall_mem_cons]
    refine ⟨.text event, .text action, ?_, nofun⟩
    intro v written
    split at written
    · cases written
    · rename_i some
      cases written
      rcases Decode.optional_same.1 payload with ⟨_, null⟩ | ⟨w, given, same⟩
      · rw [← null] at some
        exact absurd rfl some
      · cases same
        exact ⟨"payload", _, given, .refl _⟩

end EventBinding

namespace Attributes

/-- What was read from the members of an object is read again from the written form. -/
theorem ReadFrom.again {members : Entries Json} {own : Attributes} (read : own.ReadFrom members)
    (children : Option (List Component)) :
    own.ReadFrom (Style.given (Component.fields own children)) := by
  have distinct := Component.fields_distinct own children
  exact
    { id := ⟨Component.get?_written own children "id", read.id.2⟩
      type := ⟨Component.get?_written own children "type", read.type.2⟩
      props := Decode.faithful_dictionary.nullableField read.props distinct rfl (.inr rfl)
      events := (Decode.faithful_list EventBinding.faithful).nullableField read.events distinct rfl
        (.inr rfl)
      style := Style.faithful.nullableField read.style distinct rfl (.inr rfl)
      text := Decode.faithful_string.nullableField read.text distinct rfl (.inr rfl)
      binding := Decode.faithful_string.nullableField read.binding distinct rfl (.inr rfl)
      condition := Decode.faithful_string.nullableField read.condition distinct rfl (.inr rfl)
      loop := Loop.faithful.nullableField read.loop distinct rfl (.inr rfl) }

end Attributes

namespace Component

/-- Children are decoded again, and are no more than the member they came from, if that is so of
every child. -/
theorem children_again {members : Entries Json} (own : Attributes)
    {children : Option (List Component)} (read : decodeChildrenIn members = .ok children)
    (each : ∀ items, members.get? "children" = some (.array items) → ∀ item ∈ items,
      ∀ c, decode item = .ok c → decode c.toJson = .ok c ∧ c.toJson.Simpler item) :
    decodeChildrenIn (Style.given (fields own children)) = .ok children ∧
      Carried members (children.map fun children => .array (listToJson children)) := by
  have written : Entries.get? (Style.given (fields own children)) "children" =
      children.map fun children => .array (listToJson children) := get?_written own children _
  rw [decodeChildrenIn_eq] at read ⊢
  rw [written]
  cases children with
  | none => exact ⟨rfl, nofun⟩
  | some children =>
    cases given : members.get? "children" with
    | none =>
      rw [given] at read
      cases read
    | some value =>
      rw [given] at read
      rcases decodeChildren_eq_ok.1 (Decoded.within_eq_ok.1 read) with
        ⟨_, absent⟩ | ⟨items, rfl, found, related, same⟩
      · cases absent
      · cases same
        obtain ⟨again, simpler⟩ := Decode.items_again related (each items given)
        rw [← listToJson_eq] at again simpler
        constructor
        · exact Decoded.within_eq_ok.2 (decodeChildren_eq_ok.2 (.inr ⟨_, rfl, _, again, rfl⟩))
        · rintro _ ⟨⟩
          exact ⟨"children", _, given, simpler⟩

/-- A component and all below it are decoded again from what they are written as. -/
theorem again_and_simpler (value : Json) : ∀ c, decode value = .ok c →
    decode c.toJson = .ok c ∧ c.toJson.Simpler value := by
  induction value using Json.component_induction with
  | step value ih =>
    rintro ⟨own, children⟩ decoded
    obtain ⟨members, rfl, read, readChildren⟩ := decode_eq_ok.1 decoded
    obtain ⟨below, carried⟩ := children_again own readChildren fun items =>
      ih members items rfl
    rw [toJson_mk]
    refine ⟨decode_eq_ok.2 ⟨_, rfl, read.again children, below⟩,
      Style.simpler_given (fields_distinct own children) ?_⟩
    simp only [fields, List.forall_mem_cons]
    exact ⟨.text read.id.1, .text read.type.1, Decode.faithful_dictionary.carried read.props,
      carried, (Decode.faithful_list EventBinding.faithful).carried read.events,
      Style.faithful.carried read.style, Decode.faithful_string.carried read.text,
      Decode.faithful_string.carried read.binding, Decode.faithful_string.carried read.condition,
      Loop.faithful.carried read.loop, nofun⟩

end Component

end UiSchema
