import UiSchema.Proofs.Outcome
import UiSchema.Schema

/-! What decoding reads: each record of a schema, said by the members it comes from. -/

set_option autoImplicit false

namespace UiSchema

theorem EventBinding.decode_eq_ok {value : Json} {e : EventBinding} :
    decode value = .ok e ↔ ∃ members : Entries Json, value = .object members ∧
      (members.get? "event" = some (.str e.event) ∧ e.event ≠ "") ∧
      (members.get? "action" = some (.str e.action) ∧ e.action ≠ "") ∧
      Decode.optional members (.same "payload") .null Decode.anything = .ok e.payload := by
  simp only [decode, Decode.record_eq_ok, Decoded.seq_eq_ok, Decoded.map_eq_ok,
    Decode.required_same, Decode.nonEmptyString_eq_ok]
  refine exists_congr fun members => and_congr_right fun _ => ?_
  constructor
  · rintro ⟨_, ⟨_, ⟨event, ⟨_, givenEvent, rfl, full⟩, rfl⟩, action, ⟨_, givenAction, rfl, fullAction⟩,
      rfl⟩, payload, read, rfl⟩
    exact ⟨⟨givenEvent, full⟩, ⟨givenAction, fullAction⟩, read⟩
  · rintro ⟨⟨givenEvent, full⟩, ⟨givenAction, fullAction⟩, read⟩
    exact ⟨_, ⟨_, ⟨e.event, ⟨_, givenEvent, rfl, full⟩, rfl⟩, e.action,
      ⟨_, givenAction, rfl, fullAction⟩, rfl⟩, e.payload, read, rfl⟩

theorem Loop.decode_eq_ok {value : Json} {loop : Loop} :
    decode value = .ok loop ↔ ∃ members : Entries Json, value = .object members ∧
      (members.get? "source" = some (.str loop.source) ∧ loop.source ≠ "") ∧
      Decode.nullableField members ⟨"itemName", "item_name"⟩ Decode.string = .ok loop.itemName ∧
      Decode.nullableField members ⟨"indexName", "index_name"⟩ Decode.string =
        .ok loop.indexName := by
  simp only [decode, Decode.record_eq_ok, Decoded.seq_eq_ok, Decoded.map_eq_ok,
    Decode.required_same, Decode.nonEmptyString_eq_ok]
  refine exists_congr fun members => and_congr_right fun _ => ?_
  constructor
  · rintro ⟨_, ⟨_, ⟨source, ⟨_, given, rfl, full⟩, rfl⟩, itemName, readItem, rfl⟩, indexName,
      readIndex, rfl⟩
    exact ⟨⟨given, full⟩, readItem, readIndex⟩
  · rintro ⟨⟨given, full⟩, readItem, readIndex⟩
    exact ⟨_, ⟨_, ⟨loop.source, ⟨_, given, rfl, full⟩, rfl⟩, loop.itemName, readItem, rfl⟩,
      loop.indexName, readIndex, rfl⟩

/-- The members that the attributes of a component are read from. -/
structure Attributes.ReadFrom (members : Entries Json) (own : Attributes) : Prop where
  id : members.get? "id" = some (.str own.id) ∧ own.id ≠ ""
  type : members.get? "type" = some (.str own.type) ∧ own.type ≠ ""
  props : Decode.nullableField members (.same "props") Decode.dictionary = .ok own.props
  events : Decode.nullableField members (.same "events") (Decode.list EventBinding.decode) =
    .ok own.events
  style : Decode.nullableField members (.same "style") Style.decode = .ok own.style
  text : Decode.nullableField members (.same "text") Decode.string = .ok own.text
  binding : Decode.nullableField members (.same "binding") Decode.string = .ok own.binding
  condition : Decode.nullableField members (.same "condition") Decode.string = .ok own.condition
  loop : Decode.nullableField members (.same "loop") Loop.decode = .ok own.loop

namespace Component

theorem decodeLeading_eq_ok {members : Entries Json} {leading : Leading} :
    decodeLeading members = .ok leading ↔
      (members.get? "id" = some (.str leading.id) ∧ leading.id ≠ "") ∧
      (members.get? "type" = some (.str leading.type) ∧ leading.type ≠ "") ∧
      Decode.nullableField members (.same "props") Decode.dictionary = .ok leading.props := by
  simp only [decodeLeading, Decoded.seq_eq_ok, Decoded.map_eq_ok, Decode.required_same,
    Decode.nonEmptyString_eq_ok]
  constructor
  · rintro ⟨_, ⟨_, ⟨id, ⟨_, givenId, rfl, fullId⟩, rfl⟩, type, ⟨_, givenType, rfl, fullType⟩, rfl⟩,
      props, read, rfl⟩
    exact ⟨⟨givenId, fullId⟩, ⟨givenType, fullType⟩, read⟩
  · rintro ⟨⟨givenId, fullId⟩, ⟨givenType, fullType⟩, read⟩
    exact ⟨_, ⟨_, ⟨leading.id, ⟨_, givenId, rfl, fullId⟩, rfl⟩, leading.type,
      ⟨_, givenType, rfl, fullType⟩, rfl⟩, leading.props, read, rfl⟩

theorem decodeChildrenIn_eq (members : Entries Json) :
    decodeChildrenIn members =
      match members.get? "children" with
      | none => .ok none
      | some value => (decodeChildren value).within "children" := by
  induction members with
  | nil => rfl
  | cons e rest ih =>
    obtain ⟨key, value⟩ := e
    rw [decodeChildrenIn, Entries.get?_cons, ih]
    split <;> rfl

theorem decodeItems_eq_ok {items : List Json} {index : Nat} {children : List Component} :
    decodeItems index items = .ok children ↔
      List.Forall₂ (fun item child => decode item = .ok child) items children := by
  induction items generalizing index children with
  | nil =>
    simp only [decodeItems, Decoded.ok.injEq, List.forall₂_nil_left_iff]
    exact eq_comm
  | cons item rest ih =>
    simp only [decodeItems, Decoded.seq_eq_ok, Decoded.map_eq_ok, Decoded.within_eq_ok, ih,
      List.forall₂_cons_left_iff]
    constructor
    · rintro ⟨_, ⟨child, first, rfl⟩, others, tail, rfl⟩
      exact ⟨child, others, first, tail, rfl⟩
    · rintro ⟨child, others, first, tail, rfl⟩
      exact ⟨_, ⟨child, first, rfl⟩, others, tail, rfl⟩

theorem decodeChildren_eq_ok {value : Json} {children : Option (List Component)} :
    decodeChildren value = .ok children ↔ (value = .null ∧ children = none) ∨
      ∃ items, value = .array items ∧ ∃ found,
        List.Forall₂ (fun item child => decode item = .ok child) items found ∧
          children = some found := by
  have listed (x : Decoded (List Component)) :
      x.map some = .ok children ↔ ∃ found, x = .ok found ∧ children = some found := by
    cases x <;> simp [Decoded.map, eq_comm]
  cases value <;> simp [decodeChildren, Decoded.fault, listed, decodeItems_eq_ok, eq_comm]

/-- A component is read from the members of an object, its children from the items of a list. -/
theorem decode_eq_ok {value : Json} {own : Attributes} {children : Option (List Component)} :
    decode value = .ok (mk own children) ↔ ∃ members : Entries Json, value = .object members ∧
      own.ReadFrom members ∧ decodeChildrenIn members = .ok children := by
  cases value with
  | object members =>
    simp only [decode, Decoded.seq_eq_ok, Decoded.map_eq_ok, decodeTrailing, decodeLeading_eq_ok,
      Json.object.injEq, exists_eq_left']
    -- the patterns follow the decoder: its last field is the outermost application
    constructor
    · rintro ⟨_, ⟨_, ⟨leading, ⟨id, type, props⟩, rfl⟩, below, readBelow, rfl⟩, _,
        ⟨_, ⟨_, ⟨_, ⟨_, ⟨_, ⟨events, readEvents, rfl⟩, style, readStyle, rfl⟩, text, readText, rfl⟩,
          binding, readBinding, rfl⟩, condition, readCondition, rfl⟩, loop, readLoop, rfl⟩, same⟩
      cases same
      exact ⟨⟨id, type, props, readEvents, readStyle, readText, readBinding, readCondition,
        readLoop⟩, readBelow⟩
    · rintro ⟨read, below⟩
      exact ⟨_, ⟨_, ⟨⟨own.id, own.type, own.props⟩, ⟨read.id, read.type, read.props⟩, rfl⟩,
          children, below, rfl⟩, _,
        ⟨_, ⟨_, ⟨_, ⟨_, ⟨_, ⟨_, read.events, rfl⟩, _, read.style, rfl⟩, _, read.text, rfl⟩,
          _, read.binding, rfl⟩, _, read.condition, rfl⟩, _, read.loop, rfl⟩, rfl⟩
  | _ => simp [decode, Decoded.fault]

end Component

/-- A schema is read from the members of an object. -/
theorem Schema.decode_eq_ok {document : Json} {schema : Schema} :
    decode document = .ok schema ↔ ∃ members : Entries Json, document = .object members ∧
      Decode.optional members (.same "version") none
        (fun value => (Decode.nonEmptyString value).map some) = .ok schema.version ∧
      (∃ root, members.get? "root" = some root ∧ Component.decode root = .ok schema.root) ∧
      Decode.nullableField members (.same "data") Decode.dictionary = .ok schema.data ∧
      Decode.nullableField members (.same "meta") Metadata.decode = .ok schema.metadata := by
  simp only [decode, Decode.record_eq_ok, Decoded.seq_eq_ok, Decoded.map_eq_ok,
    Decode.required_same]
  refine exists_congr fun members => and_congr_right fun _ => ?_
  constructor
  · rintro ⟨_, ⟨_, ⟨_, ⟨version, readVersion, rfl⟩, root, readRoot, rfl⟩, data, readData, rfl⟩,
      metadata, readMeta, rfl⟩
    exact ⟨readVersion, readRoot, readData, readMeta⟩
  · rintro ⟨readVersion, readRoot, readData, readMeta⟩
    exact ⟨_, ⟨_, ⟨_, ⟨_, readVersion, rfl⟩, _, readRoot, rfl⟩, _, readData, rfl⟩, _, readMeta, rfl⟩

end UiSchema
