import UiSchema.Proofs.Render.Places
import UiSchema.Proofs.Render.Total

/-! Nodes in the order of their components. Without loops every component has at most one node, and
a walk over the nodes comes by them in the order in which the components are listed; missing are only
those that a condition hides, and those below a type that is not known. -/

set_option autoImplicit false

namespace UiSchema

/-! ### What is left of a tree -/

namespace Component

section Cut

variable (gone closed : Attributes → Bool)

mutual

/-- The tree without the components that are gone and all below them, and without what is below
those that are closed. -/
def cut : Component → Option Component
  | .mk own children =>
    if gone own then none
    else if closed own then some (.mk own none)
    else some (.mk own (cutIn children))

def cutIn : Option (List Component) → Option (List Component)
  | none => none
  | some children => some (cutAll children)

def cutAll : List Component → List Component
  | [] => []
  | child :: rest => (cut child).toList ++ cutAll rest

end

theorem cutAll_eq (children : List Component) :
    cutAll gone closed children = children.flatMap fun child => (cut gone closed child).toList := by
  induction children with
  | nil => rfl
  | cons child rest ih => rw [cutAll, ih, List.flatMap_cons]

theorem cutIn_eq (children : Option (List Component)) :
    (cutIn gone closed children).getD [] =
      (children.getD []).flatMap fun child => (cut gone closed child).toList := by
  cases children with
  | none => rfl
  | some children => exact cutAll_eq gone closed children

variable {gone closed} {own : Attributes} (children : Option (List Component))

theorem cut_of_gone (isGone : gone own = true) : cut gone closed (.mk own children) = none := by
  rw [cut, if_pos isGone]

theorem cut_of_closed (stays : gone own = false) (isClosed : closed own = true) :
    cut gone closed (.mk own children) = some (.mk own none) := by
  rw [cut, if_neg (by simp [stays]), if_pos isClosed]

theorem cut_of_open (stays : gone own = false) (isOpen : closed own = false) :
    cut gone closed (.mk own children) = some (.mk own (cutIn gone closed children)) := by
  rw [cut, if_neg (by simp [stays]), if_neg (by simp [isOpen])]

end Cut

end Component

/-- The component has a condition, and that does not hold. An empty one counts as none. -/
def Attributes.hidden (own : Attributes) (data : Json) : Bool :=
  match own.condition with
  | none => false
  | some condition => !condition.isEmpty && (Binding.holds condition data).toOption == some false

theorem Attributes.hidden_iff {own : Attributes} {scope : Scope} :
    own.hidden scope.root = true ↔ Render.passes own scope = .ok false := by
  rw [hidden, Render.passes]
  cases own.condition with
  | none => simp
  | some condition =>
    by_cases empty : condition.isEmpty = true
    · simp [empty]
    · simp only [empty]
      cases Binding.holds condition scope.root with
      | error overflow => simp [Except.toOption]
      | ok held => simp [Except.toOption]

namespace Host

variable (host : Host)

/-- What is left of a component over some data. -/
def visible (data : Json) (c : Component) : Option Component :=
  c.cut (fun own => own.hidden data) fun own => !host.registry.has own.type

/-- The type of the node for a component without a loop. -/
def shownType (type : String) : String :=
  if host.registry.has type then type else host.placeholderType

/-- Types and keys that the nodes of a tree of components ought to have. -/
def labels (c : Component) : List (Option String × Option String) :=
  c.subtree.map fun d => (some (host.shownType d.type), some d.id)

end Host

/-- Types and keys along a walk. -/
def Node.labels (node : Node) : List (Option String × Option String) :=
  node.walk.map fun m => (m.type?, m.key?)

/-! ### Nodes and components side by side -/

namespace Place

variable {host : Host} {p : Place} {node : Node}

theorem Drawn.type? (plain : host.Plain) (single : p.own.loop = none) (drawn : Drawn host p node) :
    node.type? = some (host.shownType p.own.type) := by
  cases drawn with
  | fragment given => cases single.symm.trans given
  | placeholder _ unknown drawn =>
    rw [Render.placeholder, plain.unknown] at drawn
    cases drawn
    rw [Host.shownType, Registry.has_of_unknown unknown]
    rfl
  | element _ known _ _ _ drawn =>
    have has := Registry.has_of_known known
    rw [Render.draw, plain.drawing _ has] at drawn
    cases drawn
    rw [Host.shownType, has]
    rfl

/-- The labels of a node are its own followed by those of the elements right below it. -/
theorem Drawn.labels (plain : host.Plain) (single : p.own.loop = none)
    (drawn : Drawn host p node) :
    node.labels = (some (host.shownType p.own.type), some p.own.id) ::
      node.elements.flatMap Node.labels := by
  have key := drawn.key? fun _ => plain.keys _
  rw [Node.labels, Node.walk_eq (Node.isElement_of_key? key), List.map_cons, List.map_flatMap, key,
    drawn.type? plain single]
  rfl

/-- By induction on the component: its node, if there is one, is labelled like what is left of it. -/
theorem labels_of_render (plain : host.Plain) {c : Component}
    (free : ∀ d ∈ c.subtree, d.own.loop = none) {scope : Scope} {result : Option Node}
    (rendered : Place.render host ⟨c, scope⟩ = .ok result) :
    result.toList.flatMap Node.labels =
      (host.visible scope.root c).toList.flatMap host.labels := by
  induction c using Component.tree_induction generalizing result with
  | step own children ih =>
    obtain ⟨here, inChildren⟩ := Component.forall_mem_subtree_mk.1 free
    have single : (Place.own ⟨.mk own children, scope⟩).loop = none := here
    have passes := passes_eq_isSome rendered fun _ => (plain.keys _).draws
    cases result with
    | none =>
      rw [Host.visible, Component.cut_of_gone children (Attributes.hidden_iff.2 passes)]
      rfl
    | some node =>
      have drawn := drawn_of_render rendered
      have stays : own.hidden scope.root = false := by
        rw [Bool.eq_false_iff, Ne, Attributes.hidden_iff]
        intro fails
        cases passes.symm.trans fails
      have elements := drawn.elements plain
      rw [Option.toList_some, List.flatMap_singleton, drawn.labels plain single]
      cases known : host.registry.has own.type with
      | false =>
        rw [parts_unknown single known] at elements
        -- a placeholder stands for all that is below
        have empty : node.elements = [] := (Except.ok.inj elements).symm
        rw [empty, Host.visible, Component.cut_of_closed children stays (by simp [known])]
        rfl
      | true =>
        rw [parts_single single known, Render.kept_map] at elements
        -- children are rendered in the same scope, and what is hidden comes to no label
        have below : node.elements.flatMap Node.labels = (children.getD []).flatMap fun child =>
            (host.visible scope.root child).toList.flatMap host.labels :=
          Render.flatMap_kept elements fun child member r drawn =>
            ih child member (inChildren child member) drawn
        rw [Host.visible, Component.cut_of_open children stays (by simp [known]),
          Option.toList_some, List.flatMap_singleton, Host.labels, Component.subtree_mk,
          List.map_cons, List.map_flatMap, Component.cutIn_eq, List.flatMap_assoc, below]
        rfl

theorem exists_visible (plain : host.Plain) {c : Component}
    (free : ∀ d ∈ c.subtree, d.own.loop = none) {scope : Scope}
    (rendered : Place.render host ⟨c, scope⟩ = .ok (some node)) :
    ∃ d, host.visible scope.root c = some d ∧ node.labels = host.labels d := by
  have same := labels_of_render plain free rendered
  rw [Option.toList_some, List.flatMap_singleton] at same
  cases left : host.visible scope.root c with
  | none =>
    -- a node always has a label, namely its own
    have single : (Place.own ⟨c, scope⟩).loop = none := free c (Component.mem_subtree_self c)
    rw [left, (drawn_of_render rendered).labels plain single] at same
    cases same
  | some d =>
    rw [left, Option.toList_some, List.flatMap_singleton] at same
    exact ⟨d, rfl, same⟩

/-- A component without a loop comes to nothing exactly if it is hidden. -/
theorem render_eq_none_iff (plain : host.Plain) (single : p.own.loop = none) :
    p.render host = .ok none ↔ p.own.hidden p.scope.root = true := by
  rw [Attributes.hidden_iff]
  constructor
  · exact fun rendered => passes_eq_isSome rendered fun _ => (plain.keys _).draws
  · intro fails
    rw [render_eq_expand, Render.expand, single]
    dsimp only
    rw [Render.single, fails]
    rfl

end Place

namespace Render

/-- Without loops, the renderer returns unless it looks up a path that is overlong or displays a
value with a number of too many digits; it returns no node exactly if the root is hidden; and
otherwise a walk over the nodes comes by the components that are left, in the order in which they are
listed, each with its own type or as a placeholder. -/
theorem walk_keys_eq {host : Host} (plain : host.Plain) {schema : Schema}
    (free : ∀ c ∈ schema.root.subtree, c.own.loop = none) (data : Option Json) :
    ((∃ result, render host schema data = .ok result) ↔
      (∀ path ∈ lookups host schema.root (outermost schema data), ¬ Path.Overlong path) ∧
        ∀ value ∈ displays host schema.root (outermost schema data), value.fitsText = true) ∧
    (render host schema data = .ok none ↔
      schema.root.own.hidden (dataFor schema data) = true) ∧
    ∀ node, render host schema data = .ok (some node) →
      ∃ c, host.visible (dataFor schema data) schema.root = some c ∧
        node.walk.map Node.key? = c.subtree.map (fun d => some d.id) ∧
        node.walk.map Node.type? = c.subtree.map fun d => some (host.shownType d.type) := by
  have atTop : (schema.top data).own.loop = none := free _ (Component.mem_subtree_self _)
  refine ⟨?_, Place.render_eq_none_iff plain atTop, fun node rendered => ?_⟩
  · simp only [render_eq_ok, exists_and_left, exists_eq', and_true]
  · obtain ⟨c, left, labels⟩ := Place.exists_visible plain free rendered
    have keys := congrArg (List.map Prod.snd) labels
    have types := congrArg (List.map Prod.fst) labels
    rw [Node.labels, Host.labels, List.map_map, List.map_map] at keys types
    exact ⟨c, left, keys, types⟩

end Render

/-- A page with a banner that is only there while it is announced, a chart of a type that is not
known, and an article with a note in the place of its text. -/
def pageSchema : Schema where
  version := some "1.0"
  root := .mk { id := "page", type := "Page" } (some [
    .mk { id := "banner", type := "Text", condition := some "{{ announced }}" }
      (some [.mk { id := "more", type := "Text" } none]),
    .mk { id := "chart", type := "Chart" } (some [.mk { id := "legend", type := "Text" } none]),
    .mk { id := "article", type := "Text", text := some "Nothing to read." }
      (some [.mk { id := "note", type := "Text", condition := some "" } none])])

def pageHost : Host where
  registry := { definitions := [{ type := "Page" }, { type := "Text" }] }
  placeholderType := "Unknown"

def pageNode : Node :=
  .element "Page" "page" []
    [.element "Unknown" "chart" [("type", .value (.str "Chart")), ("id", .value (.str "chart"))] [],
      .element "Text" "article" [] [.element "Text" "note" [] []]]

theorem page_walk_keys :
    pageHost.Plain ∧ (∀ c ∈ pageSchema.root.subtree, c.own.loop = none) ∧
      render pageHost pageSchema none = .ok (some pageNode) ∧
      pageNode.walk.map Node.key? = [some "page", some "chart", some "article", some "note"] := by
  have plain : pageHost.Plain := ⟨fun _ _ => rfl, rfl⟩
  have free : ∀ c ∈ pageSchema.root.subtree, c.own.loop = none := by
    simp [pageSchema, Component.subtree, Component.subtreesIn, Component.subtrees, Component.own]
  have rendered : render pageHost pageSchema none = .ok (some pageNode) := rfl
  obtain ⟨_, _, walks⟩ := Render.walk_keys_eq plain free none
  obtain ⟨c, left, keys, _⟩ := walks pageNode rendered
  have ids : (pageHost.visible (Render.dataFor pageSchema none) pageSchema.root).map
      (fun d => d.subtree.map fun d => some d.id) =
      some [some "page", some "chart", some "article", some "note"] := rfl
  rw [left, Option.map_some, ← keys] at ids
  exact ⟨plain, free, rendered, Option.some.inj ids⟩

end UiSchema
