import UiSchema.Proofs.Render.Scoping
import UiSchema.Proofs.Render.Walk

/-! Where nodes come from. A renderer goes from place to place, with a component and a scope at each:
from a component with a loop to the rounds of the loop, from any other one to its children. Every
node is drawn at one of these places, over the nodes that were drawn right below it. -/

set_option autoImplicit false

namespace UiSchema

namespace Render

/-! ### What is kept of a list -/

section Kept

variable {α β γ : Type} {f : α → Outcome (Option β)} {xs : List α} {ys : List β}

theorem kept_map (g : γ → α) (xs : List γ) : kept f (xs.map g) = kept (fun x => f (g x)) xs := by
  induction xs with
  | nil => rfl
  | cons x rest ih => rw [List.map_cons, kept_cons, kept_cons, ih]

theorem mem_kept_iff (all : kept f xs = .ok ys) {y : β} :
    y ∈ ys ↔ ∃ x ∈ xs, f x = .ok (some y) := by
  induction xs generalizing ys with
  | nil =>
    cases all
    simp
  | cons x rest ih =>
    obtain ⟨here, first, others, further, rfl⟩ := kept_cons_eq_ok.1 all
    rw [List.mem_append, ih further, Option.mem_toList, List.exists_mem_cons_iff, first]
    exact or_congr_left ⟨congrArg Except.ok, Except.ok.inj⟩

/-- What is kept stands in the order of what it was made from, and nothing is kept twice. -/
theorem map_kept_sublist {g : β → γ} {h : α → γ} (all : kept f xs = .ok ys)
    (each : ∀ x ∈ xs, ∀ y, f x = .ok (some y) → g y = h x) :
    (ys.map g).Sublist (xs.map h) := by
  induction xs generalizing ys with
  | nil =>
    cases all
    exact List.Sublist.refl _
  | cons x rest ih =>
    obtain ⟨here, first, others, further, rfl⟩ := kept_cons_eq_ok.1 all
    obtain ⟨ofFirst, ofRest⟩ := List.forall_mem_cons.1 each
    cases here with
    | none => exact (ih further ofRest).cons _
    | some y =>
      have same := ofFirst y first
      simpa [same] using ih further ofRest

/-- Lists made from what is kept are the lists made from what it was made from. -/
theorem flatMap_kept {g : β → List γ} {h : α → List γ} (all : kept f xs = .ok ys)
    (each : ∀ x ∈ xs, ∀ r, f x = .ok r → r.toList.flatMap g = h x) :
    ys.flatMap g = xs.flatMap h := by
  induction xs generalizing ys with
  | nil =>
    cases all
    rfl
  | cons x rest ih =>
    obtain ⟨here, first, others, further, rfl⟩ := kept_cons_eq_ok.1 all
    obtain ⟨ofFirst, ofRest⟩ := List.forall_mem_cons.1 each
    rw [List.flatMap_append, ofFirst here first, ih further ofRest, List.flatMap_cons]

end Kept

/-! ### Ids of rounds -/

theorem toList_round_id (own : Attributes) (i : Nat) :
    (round own i).id.toList = own.id.toList ++ '-' :: Nat.toDigits 10 i := by
  have text : (round own i).id = own.id ++ "-" ++ i.repr := rfl
  rw [text, String.toList_append, String.toList_append, Nat.toList_repr, List.append_assoc]
  rfl

/-- The id of a round tells which component it is a round of, and which of its rounds. -/
theorem round_id_inj {own own' : Attributes} {i j : Nat}
    (same : (round own i).id = (round own' j).id) : own.id = own'.id ∧ i = j := by
  have noDash (n : Nat) : '-' ∉ Nat.toDigits 10 n := by
    intro member
    have digit := Nat.isDigit_of_mem_toDigits (by decide) (by decide) member
    exact absurd digit (by decide)
  have texts := congrArg String.toList same
  rw [toList_round_id, toList_round_id] at texts
  obtain ⟨ids, digits⟩ := Text.split_last (noDash i) (noDash j) texts
  have indexes := congrArg (Nat.ofDigitChars 10 · 0) digits
  simp only [Nat.ofDigitChars_toDigits (show 1 < 10 by decide) (Nat.le_refl 10)] at indexes
  exact ⟨String.toList_inj.1 ids, indexes⟩

end Render

theorem Registry.has_of_known {r : Registry} {type : String} {definition : Definition}
    (known : r.get? type = some definition) : r.has type = true := by
  rw [has, known]
  rfl

theorem Registry.has_of_unknown {r : Registry} {type : String} (unknown : r.get? type = none) :
    r.has type = false := by
  rw [has, unknown]
  rfl

/-! ### Hosts that draw by themselves -/

/-- Components of the type are drawn by the host itself, whether or not it knows the type. -/
structure Host.Keys (host : Host) (type : String) : Prop where
  known : host.registry.has type = true → host.drawing? type = none
  unknown : host.registry.has type = false → host.unknown? = none

/-- No type has a drawing of its own, and none is drawn in the place of an unknown one. -/
structure Host.Plain (host : Host) : Prop where
  drawing : ∀ type, host.registry.has type = true → host.drawing? type = none
  unknown : host.unknown? = none

theorem Host.Plain.keys {host : Host} (plain : host.Plain) (type : String) : host.Keys type :=
  ⟨plain.drawing type, fun _ => plain.unknown⟩

/-- What the host draws itself is always a node. -/
theorem Host.Keys.draws {host : Host} {type : String} (keys : host.Keys type) :
    host.Draws type where
  known has drawing given := by cases (keys.known has).symm.trans given
  unknown has draw given := by cases (keys.unknown has).symm.trans given

/-! ### Places -/

/-- A component, and the scope that it is rendered in. -/
structure Place where
  component : Component
  scope : Scope

/-- Where rendering begins. -/
def Schema.top (schema : Schema) (data : Option Json) : Place :=
  ⟨schema.root, { data := Render.dataFor schema data }⟩

namespace Place

open Render (kept)

variable {host : Host} {p q top : Place} {node : Node}

def own (p : Place) : Attributes := p.component.own

def render (host : Host) (p : Place) : Outcome (Option Node) :=
  Render.component host p.component p.scope

/-- One round of a loop: the component without the loop, with the variables of the round. -/
def round (p : Place) (loop : Loop) (entry : Json × Nat) : Place where
  component := .mk (Render.round p.own entry.2) p.component.children
  scope := p.scope.enter loop.itemVariable loop.indexVariable entry.1 entry.2

/-- What a loop runs over at this place. -/
def items (p : Place) (loop : Loop) : List Json := (loop.items p.scope.root).toOption.getD []

/-- The places right below: the rounds of the loop, or else the children. Children of a component
with an unknown type are not looked at. -/
def parts (host : Host) (p : Place) : List Place :=
  match p.own.loop with
  | some loop => (p.items loop).zipIdx.map (p.round loop)
  | none =>
    if host.registry.has p.own.type then
      (p.component.children.getD []).map fun child => ⟨child, p.scope⟩
    else []

theorem parts_loop {loop : Loop} (given : p.own.loop = some loop) :
    p.parts host = (p.items loop).zipIdx.map (p.round loop) := by
  rw [parts, given]

theorem mem_parts_loop {loop : Loop} (given : p.own.loop = some loop) :
    q ∈ p.parts host ↔
      ∃ i item, (p.items loop)[i]? = some item ∧ p.round loop (item, i) = q := by
  rw [parts_loop given, List.mem_map, Prod.exists, exists_comm]
  simp only [List.mk_mem_zipIdx_iff_getElem?]

theorem parts_single (given : p.own.loop = none) (known : host.registry.has p.own.type = true) :
    p.parts host = (p.component.children.getD []).map fun child => ⟨child, p.scope⟩ := by
  rw [parts, given]
  exact if_pos known

theorem parts_unknown (given : p.own.loop = none)
    (unknown : host.registry.has p.own.type = false) : p.parts host = [] := by
  rw [parts, given]
  exact if_neg (by simp [unknown])

/-- What there can be at a place: a fragment of the rounds, a placeholder, or an element. An element
has the content of its own only if nothing was drawn below it. -/
inductive Drawn (host : Host) (p : Place) : Node → Prop where
  | fragment {loop : Loop} {nodes : List Node} (given : p.own.loop = some loop)
      (below : kept (render host) (p.parts host) = .ok nodes) :
      Drawn host p (.element Render.fragmentType p.own.id [] nodes)
  | placeholder {node : Node} (single : p.own.loop = none)
      (unknown : host.registry.get? p.own.type = none)
      (drawn : Render.placeholder host p.own = some node) : Drawn host p node
  | element {definition : Definition} {props : Entries PropValue} {nodes content : List Node}
      {node : Node} (single : p.own.loop = none)
      (known : host.registry.get? p.own.type = some definition)
      (resolved : Render.propsOf definition p.own host.signals p.scope.root = .ok props)
      (below : kept (render host) (p.parts host) = .ok nodes)
      (shows : content = nodes ∨ nodes = [] ∧ Render.ownContent p.own p.scope = .ok content)
      (drawn : Render.draw host p.own props content = some node) : Drawn host p node

theorem below_eq_ok {children : Option (List Component)} {scope : Scope}
    {found : Option (List Node)} (drawn : Render.below host children scope = .ok found) :
    ∃ nodes, kept (fun child => Render.component host child scope) (children.getD []) = .ok nodes ∧
      (found = some nodes ∨ nodes = [] ∧ found = none) := by
  cases children with
  | none =>
    cases drawn
    exact ⟨[], rfl, .inr ⟨rfl, rfl⟩⟩
  | some children =>
    rw [Render.below] at drawn
    split at drawn
    · -- no children in a list are the same as no list
      rename_i empty
      cases drawn
      rw [List.isEmpty_iff.1 empty]
      exact ⟨[], rfl, .inr ⟨rfl, rfl⟩⟩
    · obtain ⟨nodes, below, same⟩ := Outcome.bind_eq_ok.1 drawn
      cases same
      rw [Render.siblings_eq] at below
      exact ⟨nodes, below, .inl rfl⟩

theorem drawn_of_element (single : p.own.loop = none)
    (element : Render.element host p.own (Render.below host p.component.children) p.scope =
      .ok (some node)) : Drawn host p node := by
  rw [Render.element] at element
  cases known : host.registry.get? p.own.type with
  | none =>
    rw [known] at element
    exact .placeholder single known (Except.ok.inj element)
  | some definition =>
    rw [known] at element
    obtain ⟨props, resolved, element⟩ := Outcome.bind_eq_ok.1 element
    obtain ⟨found, below, element⟩ := Outcome.bind_eq_ok.1 element
    obtain ⟨content, shows, same⟩ := Outcome.bind_eq_ok.1 element
    obtain ⟨nodes, below, either⟩ := below_eq_ok below
    have parts : kept (render host) (p.parts host) = .ok nodes := by
      rw [parts_single single (Registry.has_of_known known), Render.kept_map]
      exact below
    refine .element single known resolved parts ?_ (Except.ok.inj same)
    -- only where there are no children the component is asked for content of its own
    rcases either with rfl | ⟨empty, rfl⟩
    · cases shows
      exact .inl rfl
    · exact .inr ⟨empty, shows⟩

theorem render_eq_expand (p : Place) : p.render host =
    Render.expand host p.own (Render.below host p.component.children) p.scope := by
  obtain ⟨⟨own, children⟩, scope⟩ := p
  rfl

/-- Where the renderer returns, a node means that the condition lets the component through, and
nothing that it does not, unless the host leaves out what is let through. -/
theorem render_eq_ok {result : Option Node} (rendered : p.render host = .ok result) :
    ∃ passed, Render.passes p.own p.scope = .ok passed ∧
      (∀ node ∈ result, passed = true ∧ Drawn host p node) ∧
      ((p.own.loop = none → host.Draws p.own.type) → passed = result.isSome) := by
  rw [render_eq_expand, Render.expand] at rendered
  cases given : p.own.loop with
  | none =>
    rw [given] at rendered
    obtain ⟨passed, passes, rendered⟩ := Outcome.bind_eq_ok.1 rendered
    refine ⟨passed, passes, ?_⟩
    cases passed with
    | false =>
      cases rendered
      exact ⟨fun node inside => absurd inside (Option.not_mem_none node), fun _ => rfl⟩
    | true =>
      have element : Render.element host p.own (Render.below host p.component.children) p.scope =
          .ok result := rendered
      refine ⟨fun node same => ⟨rfl, drawn_of_element given ?_⟩, fun draws => ?_⟩
      · rw [element, same]
      · exact ((draws rfl).isSome_element element).symm
  | some loop =>
    rw [given] at rendered
    obtain ⟨passed, passes, rendered⟩ := Outcome.bind_eq_ok.1 rendered
    refine ⟨passed, passes, ?_⟩
    cases passed with
    | false =>
      cases rendered
      exact ⟨fun node inside => absurd inside (Option.not_mem_none node), fun _ => rfl⟩
    | true =>
      obtain ⟨items, source, rendered⟩ := Outcome.bind_eq_ok.1 rendered
      obtain ⟨nodes, rounds, same⟩ := Outcome.bind_eq_ok.1 rendered
      cases same
      have ranges : p.items loop = items := by
        rw [Place.items, source]
        rfl
      have parts : kept (render host) (p.parts host) = .ok nodes := by
        rw [parts_loop given, Render.kept_map, ranges]
        rw [Render.allRounds_eq] at rounds
        exact rounds
      exact ⟨fun _ same => ⟨rfl, Option.some.inj same ▸ .fragment given parts⟩, fun _ => rfl⟩

theorem passes_of_render (rendered : p.render host = .ok (some node)) :
    Render.passes p.own p.scope = .ok true := by
  obtain ⟨passed, passes, some, -⟩ := render_eq_ok rendered
  obtain ⟨rfl, -⟩ := some node rfl
  exact passes

/-- If the host draws something whatever happens, the condition decides whether there is a node. -/
theorem passes_eq_isSome {result : Option Node} (rendered : p.render host = .ok result)
    (draws : p.own.loop = none → host.Draws p.own.type) :
    Render.passes p.own p.scope = .ok result.isSome := by
  obtain ⟨passed, passes, -, decides⟩ := render_eq_ok rendered
  rw [passes, decides draws]

theorem drawn_of_render (rendered : p.render host = .ok (some node)) : Drawn host p node := by
  obtain ⟨_, -, some, -⟩ := render_eq_ok rendered
  exact (some node rfl).2

theorem ownContent_text {own : Attributes} {scope : Scope} {content : List Node}
    (shows : Render.ownContent own scope = .ok content) :
    content.filter Node.isElement = [] := by
  rw [Render.ownContent] at shows
  split at shows
  · obtain ⟨text, _, same⟩ := Outcome.bind_eq_ok.1 shows
    cases same
    rfl
  · obtain ⟨value, _, shows⟩ := Outcome.bind_eq_ok.1 shows
    unfold Render.contentOf at shows
    split at shows
    · cases shows
      rfl
    · cases shows
      rfl
    · obtain ⟨text, _, same⟩ := Outcome.bind_eq_ok.1 shows
      cases same
      rfl
  · cases shows
    rfl

/-- A node that the host draws itself has the id of its component as its key. -/
theorem Drawn.key? (drawn : Drawn host p node) (keys : p.own.loop = none → host.Keys p.own.type) :
    node.key? = some p.own.id := by
  cases drawn with
  | fragment => rfl
  | placeholder single unknown drawn =>
    rw [Render.placeholder, (keys single).unknown (Registry.has_of_unknown unknown)] at drawn
    cases drawn
    rfl
  | element single known _ _ _ drawn =>
    rw [Render.draw, (keys single).known (Registry.has_of_known known)] at drawn
    cases drawn
    rfl

theorem filter_isElement_kept (plain : host.Plain) {places : List Place} {nodes : List Node}
    (all : kept (render host) places = .ok nodes) : nodes.filter Node.isElement = nodes := by
  rw [List.filter_eq_self]
  intro node member
  obtain ⟨q, _, rendered⟩ := (Render.mem_kept_iff all).1 member
  exact Node.isElement_of_key? ((drawn_of_render rendered).key? fun _ => plain.keys _)

/-- The elements right below a node are those that were drawn at the places right below. -/
theorem Drawn.elements (plain : host.Plain) (drawn : Drawn host p node) :
    kept (render host) (p.parts host) = .ok node.elements := by
  cases drawn with
  | fragment given below =>
    rw [below]
    exact congrArg Except.ok (filter_isElement_kept plain below).symm
  | placeholder single unknown drawn =>
    rw [Render.placeholder, plain.unknown] at drawn
    cases drawn
    rw [parts_unknown single (Registry.has_of_unknown unknown)]
    rfl
  | @element _ props nodes content _ single known _ below shows drawn =>
    rw [Render.draw, plain.drawing _ (Registry.has_of_known known)] at drawn
    cases drawn
    rw [below, Node.elements, Node.children]
    rcases shows with rfl | ⟨rfl, shows⟩
    · exact congrArg Except.ok (filter_isElement_kept plain below).symm
    · rw [ownContent_text shows]

/-- The children of a fragment are the rounds that were drawn. -/
theorem Drawn.children_eq (loops : p.own.loop ≠ none) (drawn : Drawn host p node) :
    kept (render host) (p.parts host) = .ok node.children := by
  cases drawn with
  | fragment given below => exact below
  | placeholder single => exact absurd single loops
  | element single => exact absurd single loops

/-- The places below the top, whatever is drawn at them. -/
inductive Visited (host : Host) (top : Place) : Place → Prop where
  | top : Visited host top top
  | part {p q : Place} (above : Visited host top p) (member : q ∈ p.parts host) :
      Visited host top q

namespace Visited

/-- At a place below stands a component from below the top, or a round of it. -/
theorem origin (visited : Visited host top p) :
    ∃ c ∈ top.component.subtree, p.component.children = c.children ∧
      (p.own = c.own ∨ p.own.loop = none ∧ ∃ i, p.own = Render.round c.own i) := by
  induction visited with
  | top => exact ⟨_, Component.mem_subtree_self _, rfl, .inl rfl⟩
  | @part p q _ member ih =>
    obtain ⟨c, declared, sameChildren, same⟩ := ih
    cases given : p.own.loop with
    | some loop =>
      -- a round has no loop of its own, so this is the component as it was declared
      obtain ⟨entry, _, rfl⟩ := List.mem_map.1 (parts_loop given ▸ member)
      have same : p.own = c.own := same.resolve_right fun both => by simp [both.1] at given
      exact ⟨c, declared, sameChildren, .inr ⟨rfl, entry.2, congrArg (Render.round · _) same⟩⟩
    | none =>
      cases known : host.registry.has p.own.type with
      | false => simp [parts_unknown given known] at member
      | true =>
        obtain ⟨child, below, rfl⟩ := List.mem_map.1 (parts_single given known ▸ member)
        exact ⟨child, Component.mem_subtree_child declared (sameChildren ▸ below), rfl, .inl rfl⟩

/-- A component with a loop stands there as it was declared. -/
theorem declared (visited : Visited host top p) (loops : p.own.loop ≠ none) :
    p.component ∈ top.component.subtree := by
  obtain ⟨c, member, sameChildren, same⟩ := visited.origin
  have same : p.own = c.own := same.resolve_right fun both => loops both.1
  obtain ⟨⟨own, children⟩, scope⟩ := p
  cases c with
  | mk own' children' =>
    cases sameChildren
    cases same
    exact member

end Visited

/-- The places that a renderer comes to on its way from the top, each with its node. -/
inductive Rendered (host : Host) (top : Place) : Place → Node → Prop where
  | top {node : Node} (rendered : top.render host = .ok (some node)) : Rendered host top top node
  | part {p q : Place} {above node : Node} (reached : Rendered host top p above)
      (member : q ∈ p.parts host) (rendered : q.render host = .ok (some node)) :
      Rendered host top q node

namespace Rendered

theorem render_eq (reached : Rendered host top p node) : p.render host = .ok (some node) := by
  cases reached with
  | top rendered => exact rendered
  | part _ _ rendered => exact rendered

theorem drawn (reached : Rendered host top p node) : Drawn host p node :=
  drawn_of_render reached.render_eq

theorem visited (reached : Rendered host top p node) : Visited host top p := by
  induction reached with
  | top => exact .top
  | part _ member _ ih => exact ih.part member

end Rendered

/-- The walk of a rendered tree comes by the nodes that were drawn, and no others. -/
theorem mem_walk_iff (plain : host.Plain) {root : Node}
    (rendered : top.render host = .ok (some root)) (node : Node) :
    node ∈ root.walk ↔ ∃ p, Rendered host top p node := by
  have isElement {p node} (reached : Rendered host top p node) : node.isElement = true :=
    Node.isElement_of_key? (reached.drawn.key? fun _ => plain.keys _)
  constructor
  · have below (m : Node) : ∀ p, Rendered host top p m →
        ∀ node ∈ m.walk, ∃ q, Rendered host top q node := by
      induction m using Node.walk_induction with
      | step m ih =>
        intro p reached node member
        -- every element right below was drawn at one of the places right below
        rw [Node.walk_eq (isElement reached)] at member
        rcases List.mem_cons.1 member with rfl | inside
        · exact ⟨p, reached⟩
        · obtain ⟨child, inElements, inChild⟩ := List.mem_flatMap.1 inside
          obtain ⟨q, part, drawn⟩ :=
            (Render.mem_kept_iff (reached.drawn.elements plain)).1 inElements
          exact ih child inElements q (.part reached part drawn) node inChild
    exact below root top (.top rendered) node
  · rintro ⟨p, reached⟩
    -- by induction on the way from the top
    induction reached with
    | top again =>
      cases rendered.symm.trans again
      exact Node.walk_eq (isElement (.top rendered)) ▸ List.mem_cons_self
    | part reached part drawn ih =>
      apply Node.mem_walk_of_mem_elements ih
      exact (Render.mem_kept_iff (reached.drawn.elements plain)).2 ⟨_, part, drawn⟩

end Place

end UiSchema
