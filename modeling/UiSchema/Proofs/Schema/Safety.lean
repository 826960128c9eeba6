import UiSchema.Proofs.Schema.Check
import UiSchema.Proofs.Schema.Decode
import UiSchema.Proofs.Schema.Tree
import UiSchema.Stream

/-! Schemas that are safe to render: ids that tell components apart, names with something to see in
them, and expressions that can be read. Whatever document a schema was validated from, it is
safe. -/

set_option autoImplicit false

namespace UiSchema

/-- The expressions that decide how a component is rendered. -/
def Attributes.expressions (own : Attributes) : List String :=
  own.condition.toList ++ own.binding.toList ++ (own.loop.map (·.source)).toList

structure Attributes.Safe (own : Attributes) : Prop where
  id : Text.Visible own.id
  type : Text.Visible own.type
  events : ∀ e ∈ own.events.getD [], Text.Visible e.event ∧ Text.Visible e.action
  source : ∀ loop ∈ own.loop, Text.Visible loop.source
  expressions : ∀ e ∈ own.expressions, Binding.Readable e

structure Component.Safe (c : Component) : Prop where
  ids : (c.subtree.map Component.id).Nodup
  each : ∀ d ∈ c.subtree, d.own.Safe

namespace Attributes

theorem forall_mem_expressions {P : String → Prop} {own : Attributes} :
    (∀ e ∈ own.expressions, P e) ↔
      (∀ e ∈ own.condition, P e) ∧ (∀ e ∈ own.binding, P e) ∧ ∀ loop ∈ own.loop, P loop.source := by
  simp [expressions, or_imp, forall_and]

variable {members : Entries Json} {own : Attributes}

theorem ReadFrom.visible {field text : String} (holds : Schema.HasText members field)
    (given : members.get? field = some (.str text)) : Text.Visible text := by
  obtain ⟨other, same, visible⟩ := holds
  cases given.symm.trans same
  exact visible

/-- An expression that was read from a well-formed field can be read as a path. -/
theorem ReadFrom.readable {field : String} {expression : Option String}
    (allowed : Schema.Allows members field Schema.IsExpression)
    (read : Decode.nullableField members (.same field) Decode.string = .ok expression) :
    ∀ e ∈ expression, Binding.Readable e := by
  rintro e rfl
  obtain ⟨value, present, decoded⟩ := Decode.nullableField_same_some read
  obtain ⟨text, rfl, readable⟩ := allowed value present
  cases Decode.string_eq_ok.1 decoded
  exact readable

theorem ReadFrom.events_visible (fields : Schema.OwnFields members) (read : own.ReadFrom members) :
    ∀ e ∈ own.events.getD [], Text.Visible e.event ∧ Text.Visible e.action := by
  have readEvents := read.events
  cases given : own.events with
  | none => nofun
  | some events =>
    rw [given] at readEvents
    obtain ⟨value, present, decoded⟩ := Decode.nullableField_same_some readEvents
    obtain ⟨items, rfl, all⟩ := fields.events value present
    obtain ⟨_, same, related⟩ := Decode.list_eq_ok.1 decoded
    cases same
    refine forall_mem_of_forall₂ related fun item member e decoded => ?_
    obtain ⟨inner, rfl, ⟨event, _⟩, ⟨action, _⟩, _⟩ := EventBinding.decode_eq_ok.1 decoded
    obtain ⟨hasEvent, hasAction⟩ := all _ member
    exact ⟨visible hasEvent event, visible hasAction action⟩

/-- The loop read from a well-formed field has a visible source that can be read. -/
theorem ReadFrom.loop_source (fields : Schema.OwnFields members) (read : own.ReadFrom members) :
    ∀ loop ∈ own.loop, Text.Visible loop.source ∧ Binding.Readable loop.source := by
  intro loop given
  have readLoop := read.loop
  rw [Option.mem_def.1 given] at readLoop
  obtain ⟨value, present, decoded⟩ := Decode.nullableField_same_some readLoop
  obtain ⟨inner, rfl, ⟨source, _⟩, _⟩ := Loop.decode_eq_ok.1 decoded
  obtain ⟨given, visible, readable, _, _⟩ := fields.loop _ present
  cases source.symm.trans given
  exact ⟨visible, readable⟩

theorem ReadFrom.safe (fields : Schema.OwnFields members) (read : own.ReadFrom members) :
    own.Safe where
  id := visible fields.id read.id.1
  type := visible fields.type read.type.1
  events := read.events_visible fields
  source := fun loop given => (read.loop_source fields loop given).1
  expressions := forall_mem_expressions.2
    ⟨readable fields.condition read.condition, readable fields.binding read.binding,
      fun loop given => (read.loop_source fields loop given).2⟩

end Attributes

namespace Component

theorem itemIds_of_decoded {items : List Json} {children : List Component}
    (related : List.Forall₂ (fun item child => decode item = .ok child) items children)
    (each : ∀ item ∈ items, ∀ c, decode item = .ok c →
      c.subtree.map id = Schema.componentIds item) :
    (children.flatMap subtree).map id = Schema.itemIds items := by
  induction related with
  | nil => rfl
  | @cons item child items children first _ ih =>
    rw [List.flatMap_cons, List.map_append, each item List.mem_cons_self child first,
      ih fun other member => each other (List.mem_cons_of_mem _ member), Schema.itemIds]

/-- A well-formed document and the component read from it have the same ids in the same order, and
all that was read is safe. -/
theorem decode_ids_and_safe (value : Json) :
    ∀ c, Schema.IsComponent value → decode value = .ok c →
      c.subtree.map id = Schema.componentIds value ∧ ∀ d ∈ c.subtree, d.own.Safe := by
  induction value using Json.component_induction with
  | step value ih =>
    rintro ⟨own, children⟩ wellFormed decoded
    obtain ⟨members, rfl, read, readChildren⟩ := decode_eq_ok.1 decoded
    obtain ⟨fields, list, each⟩ := wellFormed
    have known : Schema.text? members "id" = some own.id :=
      (Schema.text?_eq_some_iff members "id" own.id).2
        ⟨read.id.1, Attributes.ReadFrom.visible fields.id read.id.1⟩
    -- both walks take the first "children" there is, and skip it when it is null
    have below : ((children.getD []).flatMap subtree).map id = Schema.childIdsIn members ∧
        ∀ child ∈ children.getD [], ∀ d ∈ child.subtree, d.own.Safe := by
      rw [decodeChildrenIn_eq] at readChildren
      rw [Schema.childIdsIn_eq]
      cases given : members.get? "children" with
      | none =>
        rw [given] at readChildren
        cases readChildren
        exact ⟨rfl, nofun⟩
      | some value =>
        rw [given] at readChildren
        rcases decodeChildren_eq_ok.1 (Decoded.within_eq_ok.1 readChildren) with
          ⟨rfl, rfl⟩ | ⟨items, rfl, found, related, rfl⟩
        · exact ⟨rfl, nofun⟩
        · have ofItem item (member : item ∈ items) c (decoded : decode item = .ok c) :=
            ih members items rfl given item member c (each items given item member) decoded
          exact ⟨itemIds_of_decoded related fun item member c decoded =>
              (ofItem item member c decoded).1,
            forall_mem_of_forall₂ related fun item member c decoded =>
              (ofItem item member c decoded).2⟩
    rw [forall_mem_subtree_mk, subtree_mk, List.map_cons, below.1, Schema.componentIds, known]
    exact ⟨rfl, read.safe fields, below.2⟩

end Component

namespace Schema

variable {settings : Settings}

theorem validate_eq_ok {document : Json} {schema : Schema}
    (valid : validate settings document = .ok (.ok schema)) :
    check document = .ok [] ∧ decode document = .ok schema := by
  rw [validate] at valid
  split at valid
  · cases valid
  · obtain ⟨issues, checked, rest⟩ := Outcome.bind_eq_ok.1 valid
    cases issues with
    | cons issue others => cases rest
    | nil =>
      dsimp only at rest
      split at rest
      · rename_i decoded
        cases rest
        exact ⟨checked, decoded⟩
      · cases rest

/-- The check and the decoder walk the same document, so what the one accepts is safe in what the
other returns. -/
theorem validate_safe {document : Json} {schema : Schema}
    (valid : validate settings document = .ok (.ok schema)) : schema.root.Safe := by
  obtain ⟨checked, decoded⟩ := validate_eq_ok valid
  obtain ⟨_, given, component, ids, _, _⟩ := (check_eq_nil_iff document).1 checked
  obtain ⟨members, same, _, ⟨root, found, decodedRoot⟩, _⟩ := decode_eq_ok.1 decoded
  cases same
  cases given.symm.trans found
  obtain ⟨sameIds, each⟩ := Component.decode_ids_and_safe _ _ component decodedRoot
  exact ⟨sameIds ▸ ids, each⟩

/-- The ways in which a schema reaches an application: from a document, from text, out of the
answer of a model, and while that answer arrives. -/
inductive Delivered (settings : Settings) (schema : Schema) : Prop where
  | validated (document : Json) (valid : validate settings document = .ok (.ok schema))
  | loaded (text : String) (read : load settings text = .ok (.ok schema))
  | extracted (text : String) (found : extract? settings text = .ok (some schema))
  | emitted (stream next : Stream) (chunk : String) (done : Bool)
      (fed : stream.feed settings chunk done = .ok (some schema, next))

theorem load_validates {text : String} {schema : Schema}
    (read : load settings text = .ok (.ok schema)) :
    ∃ document, validate settings document = .ok (.ok schema) := by
  rw [load] at read
  split at read
  · cases read
  · split at read
    · cases read
    · exact ⟨_, read⟩

/-- The document of a candidate is validated with the version of the settings, if it has none. -/
theorem ofBlock?_validates {block : Json.Block} {schema : Schema}
    (found : ofBlock? settings block = .ok (some schema)) :
    ∃ document, Json.load block.content false = .ok document ∧
      validate settings (withVersion settings document) = .ok (.ok schema) := by
  rw [ofBlock?] at found
  split at found
  · cases found
  · rename_i document loaded
    split at found
    · obtain ⟨result, valid, same⟩ := Outcome.bind_eq_ok.1 found
      cases result with
      | error issues => cases same
      | ok other =>
        cases same
        exact ⟨document, loaded, valid⟩
    · cases found

theorem exists_ofBlock? {blocks : List Json.Block} {schema : Schema}
    (found : firstOf? settings blocks = .ok (some schema)) :
    ∃ block, ofBlock? settings block = .ok (some schema) := by
  induction blocks with
  | nil => cases found
  | cons block rest ih =>
    rw [firstOf?] at found
    obtain ⟨result, ofBlock, same⟩ := Outcome.bind_eq_ok.1 found
    cases result with
    | none => exact ih same
    | some other =>
      cases same
      exact ⟨block, ofBlock⟩

theorem extract?_validates {text : String} {schema : Schema}
    (found : extract? settings text = .ok (some schema)) :
    ∃ content document, Json.load content false = .ok document ∧
      validate settings (withVersion settings document) = .ok (.ok schema) := by
  rw [extract?_eq] at found
  split at found
  · obtain ⟨block, ofBlock⟩ := exists_ofBlock? found
    exact ⟨block.content, ofBlock?_validates ofBlock⟩
  · cases found

end Schema

/-- What a stream emits it has just picked out of its text. -/
theorem Stream.feed_extracts {settings : Settings} {stream next : Stream} {chunk : String}
    {done : Bool} {schema : Schema}
    (fed : stream.feed settings chunk done = .ok (some schema, next)) :
    ∃ text, Schema.extract? settings text = .ok (some schema) := by
  rw [Stream.feed] at fed
  split at fed
  · obtain ⟨result, found, same⟩ := Outcome.bind_eq_ok.1 fed
    cases result with
    | none => cases same
    | some other =>
      dsimp only at same
      split at same
      · cases same
        exact ⟨_, found⟩
      · cases same
  · cases fed

namespace Schema

theorem Delivered.validates {settings : Settings} {schema : Schema}
    (delivered : Delivered settings schema) :
    ∃ document, validate settings document = .ok (.ok schema) := by
  cases delivered with
  | validated document valid => exact ⟨document, valid⟩
  | loaded text read => exact load_validates read
  | extracted text found =>
    obtain ⟨_, document, _, valid⟩ := extract?_validates found
    exact ⟨_, valid⟩
  | emitted stream next chunk done fed =>
    obtain ⟨text, found⟩ := Stream.feed_extracts fed
    obtain ⟨_, document, _, valid⟩ := extract?_validates found
    exact ⟨_, valid⟩

end Schema

end UiSchema
