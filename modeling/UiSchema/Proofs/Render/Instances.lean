import Mathlib.Data.List.Nodup
import UiSchema.Proofs.Render.Places
import UiSchema.Proofs.Schema.Safety

/-! Instances of components with a loop. Every round is keyed by the id of the component and the
index of the round. Ids are checked before there are any rounds, so a component can be declared
under the id of one; then, and only then, the two cannot be told apart. -/

set_option autoImplicit false

namespace UiSchema

namespace Render

/-! ### What handlers report -/

/-- All handlers among the props of a component report the id that it is rendered with. -/
theorem component_of_handler {definition : Definition} {own : Attributes} {signals : Bool}
    {scope : Json} {props : Entries PropValue}
    (resolved : propsOf definition own signals scope = .ok props) {name : String}
    {handler : Handler} (member : (name, .handler handler) ∈ props) :
    handler.component = own.id := by
  obtain ⟨_, _, same⟩ := Outcome.bind_eq_ok.1 resolved
  cases same
  -- the values come first and are no handlers; the handlers are put over them
  split at member
  · rcases Entries.mem_putAll member with inValues | inHandlers
    · simp at inValues
    · rcases Entries.mem_putAll inHandlers with none | given
      · cases none
      · obtain ⟨e, _, same⟩ := List.mem_map.1 given
        cases same
        rfl
  · simp at member

end Render

namespace Place

variable {host : Host} {top p q : Place} {c : Component} {i : Nat} {node : Node}

theorem Drawn.component_of_handler (drawn : Drawn host p node) (keys : host.Keys p.own.type) :
    ∀ entry ∈ node.handlers, entry.2.component = p.own.id := by
  intro entry member
  obtain ⟨⟨name, value⟩, inProps, found⟩ := List.mem_filterMap.1 member
  cases value with
  | value => cases found
  | handler handler =>
    cases found
    cases drawn with
    | fragment => cases inProps
    | placeholder single unknown drawn =>
      rw [Render.placeholder, keys.unknown (Registry.has_of_unknown unknown)] at drawn
      cases drawn
      simp [Node.props] at inProps
    | element single known resolved _ _ drawn =>
      rw [Render.draw, keys.known (Registry.has_of_known known)] at drawn
      cases drawn
      exact Render.component_of_handler resolved inProps

/-! ### Instances and rounds -/

/-- A node that stands in the fragment of the component's loop. -/
inductive Instance (host : Host) (top : Place) (c : Component) (node : Node) : Prop where
  | mk {p : Place} {fragment : Node} (reached : Rendered host top p fragment)
      (here : p.component = c) (loops : p.own.loop ≠ none) (member : node ∈ fragment.children)

/-- The place of a round: the component is reached, and its loop has that many items. -/
inductive RoundOf (host : Host) (top : Place) (c : Component) (i : Nat) : Place → Prop where
  | mk {p : Place} {fragment : Node} {loop : Loop} {item : Json}
      (reached : Rendered host top p fragment) (here : p.component = c)
      (given : p.own.loop = some loop) (found : (p.items loop)[i]? = some item) :
      RoundOf host top c i (p.round loop (item, i))

/-- The component has a round with this index, and its condition lets it through. -/
def Runs (host : Host) (top : Place) (c : Component) (i : Nat) : Prop :=
  ∃ q, RoundOf host top c i q ∧ Render.passes q.own q.scope = .ok true

theorem RoundOf.own_eq (isRound : RoundOf host top c i q) : q.own = Render.round c.own i := by
  cases isRound with
  | mk _ here => rw [← here]; rfl

/-- A round is one of the places right below a fragment, and all of these are rounds. -/
theorem RoundOf.exists_part (isRound : RoundOf host top c i q) :
    ∃ p fragment, Rendered host top p fragment ∧ p.component = c ∧ p.own.loop ≠ none ∧
      q ∈ p.parts host := by
  cases isRound with
  | mk reached here given found =>
    exact ⟨_, _, reached, here, by simp [given], (mem_parts_loop given).2 ⟨i, _, found, rfl⟩⟩

/-- Instances are the nodes of rounds. -/
theorem instance_iff :
    Instance host top c node ↔
      ∃ i q, RoundOf host top c i q ∧ q.render host = .ok (some node) := by
  constructor
  · rintro ⟨reached, here, loops, member⟩
    obtain ⟨loop, given⟩ := Option.ne_none_iff_exists'.1 loops
    obtain ⟨q, part, rendered⟩ := (Render.mem_kept_iff (reached.drawn.children_eq loops)).1 member
    obtain ⟨i, item, found, rfl⟩ := (mem_parts_loop given).1 part
    exact ⟨i, _, .mk reached here given found, rendered⟩
  · rintro ⟨i, q, isRound, rendered⟩
    obtain ⟨p, fragment, reached, here, loops, part⟩ := isRound.exists_part
    have children := reached.drawn.children_eq loops
    exact .mk reached here loops ((Render.mem_kept_iff children).2 ⟨q, part, rendered⟩)

/-- The renderer came back from every round. -/
theorem RoundOf.returns (isRound : RoundOf host top c i q) : ∃ r, q.render host = .ok r := by
  obtain ⟨p, fragment, reached, _, loops, part⟩ := isRound.exists_part
  exact Render.ok_of_kept (reached.drawn.children_eq loops) part

theorem RoundOf.key? (isRound : RoundOf host top c i q) (keys : host.Keys c.type)
    (rendered : q.render host = .ok (some node)) : node.key? = some s!"{c.id}-{i}" := by
  have drawn := (drawn_of_render rendered).key? fun _ => isRound.own_eq ▸ keys
  rw [drawn, isRound.own_eq]
  rfl

/-- The keys of the instances of a component are the ids of those of its rounds that run. -/
theorem instance_key_iff (keys : host.Keys c.type) (key : String) :
    (∃ node, Instance host top c node ∧ node.key? = some key) ↔
      ∃ i, Runs host top c i ∧ key = s!"{c.id}-{i}" := by
  constructor
  · rintro ⟨node, instanceOf, found⟩
    obtain ⟨i, q, isRound, rendered⟩ := instance_iff.1 instanceOf
    have same := found.symm.trans (isRound.key? keys rendered)
    exact ⟨i, ⟨q, isRound, passes_of_render rendered⟩, Option.some.inj same⟩
  · rintro ⟨i, ⟨q, isRound, passes⟩, rfl⟩
    obtain ⟨result, rendered⟩ := isRound.returns
    -- the condition lets the round through, so it came to a node
    have draws : q.own.loop = none → host.Draws q.own.type := fun _ =>
      isRound.own_eq ▸ keys.draws
    have drawn := (passes_eq_isSome rendered draws).symm.trans passes
    obtain ⟨node, rfl⟩ := Option.isSome_iff_exists.1 (Except.ok.inj drawn)
    exact ⟨node, instance_iff.2 ⟨i, q, isRound, rendered⟩, isRound.key? keys rendered⟩

theorem Instance.declared (instanceOf : Instance host top c node) : c ∈ top.component.subtree := by
  obtain ⟨reached, rfl, loops, _⟩ := instanceOf
  exact reached.visited.declared loops

/-- Instances stand in the tree that was rendered. -/
theorem Instance.mem_walk (instanceOf : Instance host top c node) (plain : host.Plain) {root : Node}
    (rendered : top.render host = .ok (some root)) : node ∈ root.walk := by
  obtain ⟨i, q, isRound, drawn⟩ := instance_iff.1 instanceOf
  obtain ⟨p, fragment, reached, _, _, part⟩ := isRound.exists_part
  exact (mem_walk_iff plain rendered node).2 ⟨q, .part reached part drawn⟩

end Place

/-! ### Declared ids -/

namespace Render

open Place (Instance Runs instance_iff)

/-- How the keys of instances stand to the ids that are declared in the schema. -/
structure DerivedKeys (host : Host) (schema : Schema) (data : Option Json) : Prop where
  /-- An instance is a round of a declared component; the id made for it is its key, and its
  handlers report it. -/
  derived : ∀ c node, Instance host (schema.top data) c node → c ∈ schema.root.subtree ∧
    (host.Keys c.type → ∃ i, Runs host (schema.top data) c i ∧ node.key? = some s!"{c.id}-{i}" ∧
      ∀ entry ∈ node.handlers, entry.2.component = s!"{c.id}-{i}")
  /-- An instance has the id of a declared component for its key exactly where that is the id made
  for a round that runs. -/
  taken_iff : ∀ c ∈ schema.root.subtree, host.Keys c.type → ∀ d ∈ schema.root.subtree,
    ((∃ node, Instance host (schema.top data) c node ∧ node.key? = some d.id) ↔
      ∃ i, Runs host (schema.top data) c i ∧ d.id = s!"{c.id}-{i}")
  /-- A declared id is made for no more than one round of one component, and for none of its own. -/
  unique : ∀ d ∈ schema.root.subtree, ∀ c ∈ schema.root.subtree, ∀ i : Nat, d.id = s!"{c.id}-{i}" →
    c ≠ d ∧ ∀ other ∈ schema.root.subtree, ∀ j : Nat, d.id = s!"{other.id}-{j}" →
      other = c ∧ j = i
  /-- Whoever draws a round gets handlers that report the id made for it. -/
  reported : ∀ (c : Component) i definition scope props,
    propsOf definition (round c.own i) host.signals scope = .ok props →
      ∀ name handler, (name, PropValue.handler handler) ∈ props →
        handler.component = s!"{c.id}-{i}"
  /-- All instances stand in the rendered tree. -/
  shown : host.Plain → ∀ root, render host schema data = .ok (some root) →
    ∀ c node, Instance host (schema.top data) c node → node ∈ root.walk

theorem id_ne_round_id (own : Attributes) (i : Nat) : own.id ≠ (round own i).id := by
  intro same
  have lengths := congrArg (fun id => id.toList.length) same
  simp [toList_round_id] at lengths

/-- In a schema that was validated, ids made for rounds can only meet declared ones that are spelled
like them. -/
theorem derivedKeys_of_validate {settings : Settings} {document : Json} {schema : Schema}
    (valid : Schema.validate settings document = .ok (.ok schema)) (host : Host)
    (data : Option Json) : DerivedKeys host schema data where
  derived c node instanceOf := by
    refine ⟨instanceOf.declared, fun keys => ?_⟩
    obtain ⟨i, q, isRound, rendered⟩ := instance_iff.1 instanceOf
    have handlers := (Place.drawn_of_render rendered).component_of_handler (isRound.own_eq ▸ keys)
    rw [isRound.own_eq] at handlers
    have passes := Place.passes_of_render rendered
    exact ⟨i, ⟨q, isRound, passes⟩, isRound.key? keys rendered, handlers⟩
  taken_iff c _ keys d _ := Place.instance_key_iff keys d.id
  unique d _ c declared i same := by
    constructor
    · rintro rfl
      exact id_ne_round_id c.own i same
    · intro other declared' j same'
      -- the last dash tells where the index begins, and an id belongs to one component only
      obtain ⟨ids, indexes⟩ := round_id_inj (same'.symm.trans same)
      have distinct := (Schema.validate_safe valid).ids
      exact ⟨List.inj_on_of_nodup_map distinct declared' declared ids, indexes⟩
  reported c i definition scope props resolved name handler member :=
    component_of_handler resolved member
  shown plain root rendered c node instanceOf := instanceOf.mem_walk plain rendered

end Render

/-! ### A row and its namesake -/

/-- A list with a row for each item, and a component with the id of the first row. -/
def namesakeDocument : Json :=
  .object [("version", .str "1.0"), ("root", .object
    [("id", .str "list"), ("type", .str "List"), ("children", .array [
      .object [("id", .str "row"), ("type", .str "Text"), ("events", .array
          [.object [("event", .str "click"), ("action", .str "select")]]),
        ("loop", .object [("source", .str "items")])],
      .object [("id", .str "row-0"), ("type", .str "Text")]])]),
    ("data", .object [("items", .array [.str "a"])])]

def selectableRow : Component :=
  .mk { id := "row", type := "Text", loop := some { source := "items" }
        events := some [{ event := "click", action := "select" }] } none

def namesake : Component := .mk { id := "row-0", type := "Text" } none

def namesakeSchema : Schema where
  version := some "1.0"
  root := .mk { id := "list", type := "List" } (some [selectableRow, namesake])
  data := some [("items", .array [.str "a"])]

def listHost : Host where
  registry := { definitions := [{ type := "List" }, { type := "Text" }] }
  placeholderType := "Unknown"
  signals := true

theorem namesake_valid :
    Schema.validate {} namesakeDocument = .ok (.ok namesakeSchema) := rfl

/-- Where the rows are, and where the first of them is. -/
def rowPlace : Place := ⟨selectableRow, (namesakeSchema.top none).scope⟩

def firstRow : Place := rowPlace.round { source := "items" } (.str "a", 0)

theorem firstRow_roundOf :
    Place.RoundOf listHost (namesakeSchema.top none) selectableRow 0 firstRow := by
  have below : rowPlace ∈ (namesakeSchema.top none).parts listHost := List.mem_cons_self
  exact .mk (.part (.top rfl) below rfl) rfl rfl rfl

theorem namesakeSchema_subtree : namesakeSchema.root.subtree =
    [namesakeSchema.root, selectableRow, namesake] := rfl

/-- The row for the first item runs, and so its neighbour has the key that was made for it. -/
theorem firstRow_meets_namesake :
    Schema.validate {} namesakeDocument = .ok (.ok namesakeSchema) ∧
      listHost.Keys selectableRow.type ∧
      ∃ node, Place.Instance listHost (namesakeSchema.top none) selectableRow node ∧
        node.key? = some namesake.id := by
  have keys : listHost.Keys selectableRow.type := ⟨fun _ => rfl, fun _ => rfl⟩
  have ofRow : selectableRow ∈ namesakeSchema.root.subtree := by simp [namesakeSchema_subtree]
  have ofOther : namesake ∈ namesakeSchema.root.subtree := by simp [namesakeSchema_subtree]
  have derived := Render.derivedKeys_of_validate namesake_valid listHost none
  have runs : Place.Runs listHost (namesakeSchema.top none) selectableRow 0 :=
    ⟨firstRow, firstRow_roundOf, rfl⟩
  exact ⟨namesake_valid, keys, (derived.taken_iff _ ofRow keys _ ofOther).2 ⟨0, runs, rfl⟩⟩

/-- A schema can be valid and still have a component that a row is taken for, and that the events of
the row are taken to come from. -/
theorem namesake_taken_for_row :
    ¬ ∀ document schema, Schema.validate {} document = .ok (.ok schema) →
      ∀ host data c node, Place.Instance host (schema.top data) c node →
        ∀ d ∈ schema.root.subtree, d.id ≠ c.id →
          node.key? ≠ some d.id ∧ ∀ entry ∈ node.handlers, entry.2.component ≠ d.id := by
  intro apart
  let handler : Handler :=
    { event := "click", action := "select", component := "row-0", payload := .null }
  have rendered : firstRow.render listHost =
      .ok (some (.element "Text" "row-0" [("onClick", .handler handler)] [])) := rfl
  have ofRow := Place.instance_iff.2 ⟨0, firstRow, firstRow_roundOf, rendered⟩
  have ofOther : namesake ∈ namesakeSchema.root.subtree := by simp [namesakeSchema_subtree]
  have different : namesake.id ≠ selectableRow.id := by decide
  exact (apart _ _ namesake_valid _ _ _ _ ofRow _ ofOther different).1 rfl

end UiSchema
