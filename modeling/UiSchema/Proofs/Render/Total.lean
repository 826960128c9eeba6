import UiSchema.Proofs.Binding.Pieces
import UiSchema.Proofs.Render.Lookups
import UiSchema.Proofs.Render.Modest
import UiSchema.Proofs.Schema.Safety

/-! Rendering is total up to numbers with too many digits: an index in a path that is looked up, or
a whole number of the data in a value that is displayed. Every other path that leads nowhere is felt
at the place where it stands and nowhere else. -/

set_option autoImplicit false

namespace UiSchema

variable {α β : Type}

namespace Binding

mutual

/-- The bindings in a value that are resolved: those in texts, but not those inside of arrays. -/
def bodiesIn : Json → List String
  | .str text => bodies text
  | .object members => bodiesAmong members
  | _ => []

def bodiesAmong : List (String × Json) → List String
  | [] => []
  | (_, value) :: rest => bodiesIn value ++ bodiesAmong rest

end

end Binding

/-- The paths written in the fields of a component. -/
def Attributes.paths (own : Attributes) : List String :=
  own.expressions.map Binding.unwrap ++ own.text.toList.flatMap Binding.bodies ++
    Binding.bodiesAmong (own.props.getD [])

/-- The paths written anywhere in a tree. -/
def Component.paths (c : Component) : List String := c.subtree.flatMap fun d => d.own.paths

namespace Tracked

variable {written : List String} {modest : Prop}

/-- Every path that is looked up is one of the list, and nothing too long is displayed as long as
the data is modest. -/
structure Within (written : List String) (modest : Prop) (x : Tracked α) : Prop where
  paths : ∀ path ∈ x.paths, path ∈ written
  displays : modest → ∀ value ∈ x.displays, value.fitsText = true

theorem Within.pure (value : α) : Within written modest (pure value) := ⟨nofun, fun _ => nofun⟩

theorem Within.andThen {first : Tracked α} {next : α → Tracked β}
    (here : first.Within written modest) (further : (next first.result).Within written modest) :
    (first >>= next).Within written modest where
  paths path member := (List.mem_append.1 member).elim (here.paths path) (further.paths path)
  displays calm value member :=
    (List.mem_append.1 member).elim (here.displays calm value) (further.displays calm value)

theorem Within.bind {first : Tracked α} {next : α → Tracked β} (here : first.Within written modest)
    (further : ∀ value, (next value).Within written modest) :
    (first >>= next).Within written modest := here.andThen (further _)

theorem Within.mono {longer : List String} {milder : Prop} {x : Tracked α}
    (within : x.Within written modest) (subset : written ⊆ longer) (enough : milder → modest) :
    x.Within longer milder where
  paths path member := subset (within.paths path member)
  displays calm := within.displays (enough calm)

theorem Within.find {expression : String} (member : expression ∈ written) (data : Json) :
    (find expression data).Within written modest where
  paths path same := by rwa [List.mem_singleton.1 same]
  displays _ := nofun

theorem Within.display {value : Json} (ofValue : modest → value.Modest) :
    (display value).Within written modest where
  paths := nofun
  displays calm other same := by
    rw [List.mem_singleton.1 same]
    exact (ofValue calm).fitsText

theorem paths_ofPieces (data : Json) (pieces : List Binding.Piece) :
    (ofPieces data pieces).paths = pieces.filterMap fun
      | .plain _ => none
      | .binding body => some (String.ofList body) := by
  induction pieces with
  | nil => rfl
  | cons piece rest ih =>
    rw [ofPieces, paths_bind, paths_bind, ih, paths_pure, List.append_nil]
    cases piece with
    | plain c => rfl
    | binding body =>
      rw [ofPiece, paths_bind]
      cases (find (String.ofList body) data).result <;> rfl

/-- In a text all bindings are looked up. -/
theorem paths_interpolate (data : Json) (template : String) :
    (interpolate data template).paths = Binding.bodies template := by
  rw [interpolate, paths_bind, paths_ofPieces, paths_pure, List.append_nil]
  rfl

theorem within_ofPieces (data : Json) (pieces : List Binding.Piece) :
    (ofPieces data pieces).Within (ofPieces data pieces).paths data.Modest := by
  refine ⟨fun _ => id, fun modest value member => ?_⟩
  induction pieces with
  | nil => cases member
  | cons piece rest ih =>
    rw [ofPieces, displays_bind, displays_bind, displays_pure, List.append_nil,
      List.mem_append] at member
    refine member.elim (fun here => ?_) ih
    cases piece with
    | plain c => cases here
    | binding body =>
      rw [ofPiece, displays_bind] at here
      cases found : Path.find? (String.ofList body) data with
      | none => simp [find, found] at here
      | some shown =>
        -- the one value that is displayed is the one that was found
        obtain rfl : value = shown := by simpa [find, found, display] using here
        exact (modest.find? found).fitsText

theorem within_interpolate (data : Json) (template : String) :
    (interpolate data template).Within (Binding.bodies template) data.Modest := by
  have within := (within_ofPieces data (Binding.pieces template)).bind
    fun cs => Within.pure (String.ofList cs)
  rwa [paths_ofPieces] at within

mutual

theorem within_resolveIn (data value : Json) :
    (resolveIn data value).Within (Binding.bodiesIn value) data.Modest := by
  cases value with
  | str text => exact .bind (within_interpolate data text) fun _ => .pure _
  | object members => exact .bind (within_resolveMembers data members) fun _ => .pure _
  | _ => exact .pure _

theorem within_resolveMembers (data : Json) (members : List (String × Json)) :
    (resolveMembers data members).Within (Binding.bodiesAmong members) data.Modest := by
  cases members with
  | nil => exact .pure _
  | cons e rest =>
    refine .bind ((within_resolveIn data e.2).mono (List.subset_append_left ..) id) fun _ => ?_
    exact .bind ((within_resolveMembers data rest).mono (List.subset_append_right ..) id)
      fun _ => .pure _

end

theorem result_find (expression : String) (data : Json) :
    (find expression data).result = Path.find? expression data := rfl

theorem result_items (loop : Loop) (scope : Scope) : (items loop scope).result =
    Loop.itemsOf (Path.find? (Binding.unwrap loop.source) scope.root) := by
  rw [items, result_bind, result_pure, result_find]

theorem within_contentOf {found : Option Json}
    (ofFound : modest → ∀ value, found = some value → value.Modest) :
    (contentOf found).Within written modest := by
  unfold contentOf
  split
  · exact .pure _
  · exact .pure _
  · exact .bind (.display fun calm => ofFound calm _ rfl) fun _ => .pure _

section Component

variable {own : Attributes} (here : own.paths ⊆ written)

include here

theorem unwrap_mem {e : String} (member : e ∈ own.expressions) : Binding.unwrap e ∈ written :=
  here (List.mem_append_left _ (List.mem_append_left _ (List.mem_map_of_mem member)))

theorem within_passes (scope : Scope) : (passes own scope).Within written modest := by
  rw [passes]
  cases given : own.condition with
  | none => exact .pure _
  | some condition =>
    have member : condition ∈ own.expressions := by simp [Attributes.expressions, given]
    dsimp only
    split
    · exact .pure _
    · exact .bind (.find (unwrap_mem here member) _) fun _ => .pure _

theorem within_items {loop : Loop} (given : own.loop = some loop) (scope : Scope) :
    (items loop scope).Within written modest := by
  have member : loop.source ∈ own.expressions := by simp [Attributes.expressions, given]
  exact .bind (.find (unwrap_mem here member) _) fun _ => .pure _

theorem within_ownContent (scope : Scope) :
    (ownContent own scope).Within written scope.Modest := by
  rw [ownContent]
  cases text : own.text.filter (!·.isEmpty) with
  | some t =>
    have given : own.text = some t := (Option.filter_eq_some_iff.1 text).1
    refine .bind ((within_interpolate _ t).mono (fun path member => here ?_) Scope.Modest.root)
      fun _ => .pure _
    exact List.mem_append_left _ (List.mem_append_right _ (by simpa [given] using member))
  | none =>
    cases binding : own.binding.filter (!·.isEmpty) with
    | none => exact .pure _
    | some e =>
      have given : own.binding = some e := (Option.filter_eq_some_iff.1 binding).1
      have member : e ∈ own.expressions := by simp [Attributes.expressions, given]
      refine .andThen (.find (unwrap_mem here member) _) ?_
      rw [result_find]
      exact within_contentOf fun modest value found => modest.root.find? found

theorem within_propsOf (definition : Definition) (signals : Bool) (scope : Scope) :
    (propsOf definition own signals scope).Within written scope.Modest :=
  .bind ((within_resolveMembers _ _).mono
    (fun _ member => here (List.mem_append_right _ member)) Scope.Modest.root) fun _ => .pure _

variable {host : Host} {under : Scope → Tracked (Option (List Node))}
  (inside : ∀ scope, (under scope).Within written scope.Modest)

include inside

theorem within_element (scope : Scope) :
    (element host own under scope).Within written scope.Modest := by
  rw [element]
  cases host.registry.get? own.type with
  | none => exact .pure _
  | some definition =>
    refine .bind (within_propsOf here definition host.signals scope) fun _ => ?_
    refine .bind (inside scope) fun nodes => .bind ?_ fun _ => .pure _
    cases nodes with
    | none => exact within_ownContent here scope
    | some nodes => exact .pure _

theorem within_single (scope : Scope) :
    (single host own under scope).Within written scope.Modest := by
  refine .bind (within_passes here scope) fun passed => ?_
  cases passed with
  | false => exact .pure _
  | true => exact within_element here inside scope

end Component

theorem round_paths_subset (own : Attributes) (index : Nat) :
    (Render.round own index).paths ⊆ own.paths := by
  have fewer : (Render.round own index).expressions ⊆ own.expressions := by
    simp [Attributes.expressions, Render.round]
  intro path member
  simp only [Attributes.paths, List.mem_append] at member ⊢
  exact member.imp_left (Or.imp_left fun written => List.map_subset _ fewer written)

section Loop

variable {own : Attributes} {host : Host} {under : Scope → Tracked (Option (List Node))}
  (here : own.paths ⊆ written) (inside : ∀ scope, (under scope).Within written scope.Modest)

include here inside

/-- Each round is in a scope of its own, with an item and an index more than the one around. -/
theorem within_allRounds {scope : Scope} {loop : Loop} {index : Nat} {rounds : List Json}
    (ofRounds : scope.Modest → (∀ item ∈ rounds, item.Modest) ∧
      index + rounds.length ≤ 10 ^ mostDigits) :
    (allRounds host own under scope loop index rounds).Within written scope.Modest := by
  induction rounds generalizing index with
  | nil => exact .pure _
  | cons item rest ih =>
    have entered (modest : scope.Modest) :
        (scope.enter loop.itemVariable loop.indexVariable item index).Modest := by
      obtain ⟨each, few⟩ := ofRounds modest
      rw [List.length_cons] at few
      exact modest.enter (each item List.mem_cons_self) (by omega)
    have first (inner : Scope) :
        (single host (Render.round own index) under inner).Within written inner.Modest :=
      within_single (List.Subset.trans (round_paths_subset own index) here) inside inner
    refine .bind ((first _).mono (List.Subset.refl _) entered) fun _ =>
      .bind (ih fun modest => ?_) fun _ => .pure _
    obtain ⟨each, few⟩ := ofRounds modest
    rw [List.length_cons] at few
    exact ⟨fun other member => each other (List.mem_cons_of_mem _ member), by omega⟩

theorem within_expand (scope : Scope) :
    (expand host own under scope).Within written scope.Modest := by
  rw [expand]
  cases given : own.loop with
  | none => exact within_single here inside scope
  | some loop =>
    refine .bind (within_passes here scope) fun passed => ?_
    cases passed with
    | false => exact .pure _
    | true =>
      refine .andThen (within_items here given scope) ?_
      rw [result_items]
      refine .bind (within_allRounds here inside fun modest => ?_) fun _ => .pure _
      rw [Nat.zero_add]
      exact Json.Modest.itemsOf fun value found => modest.root.find? found

end Loop

/-- No data and no round of a loop makes the renderer look up a path that is not in the tree, and in
modest data it finds nothing that is too long to be displayed. -/
theorem within_component (host : Host) (c : Component) (scope : Scope) :
    (component host c scope).Within c.paths scope.Modest := by
  induction c using Component.tree_induction generalizing scope with
  | step own children ih =>
    have paths : (Component.mk own children).paths =
        own.paths ++ (children.getD []).flatMap Component.paths := by
      simp only [Component.paths, Component.subtree_mk, List.flatMap_cons, List.flatMap_assoc]
      rfl
    rw [paths, component]
    refine within_expand (List.subset_append_left ..) (fun scope => ?_) scope
    cases children with
    | none => exact .pure _
    | some children =>
      -- by induction on a part of the children, whose paths are all among those of the whole list
      have all : ∀ list ⊆ children, (siblings host list scope).Within
          (own.paths ++ children.flatMap Component.paths) scope.Modest := by
        intro list
        induction list with
        | nil => exact fun _ => .pure _
        | cons child rest others =>
          intro subset
          obtain ⟨member, subset⟩ := List.cons_subset.1 subset
          refine .bind ((ih child member scope).mono (fun path inChild => ?_) id) fun _ =>
            .bind (others subset) fun _ => .pure _
          exact List.mem_append_right _ (List.mem_flatMap.2 ⟨child, member, inChild⟩)
      rw [below]
      split
      · exact .pure _
      · exact .bind (all children (List.Subset.refl _)) fun _ => .pure _

end Tracked

namespace Render

/-- The node for a component, where a path that leads nowhere has no value. -/
def shown (host : Host) (c : Component) (scope : Scope) : Option Node :=
  (Tracked.component host c scope).result

/-- The paths that are looked up for a component and all below it. -/
def lookups (host : Host) (c : Component) (scope : Scope) : List String :=
  (Tracked.component host c scope).paths

/-- The values that are displayed in texts and as content. -/
def displays (host : Host) (c : Component) (scope : Scope) : List Json :=
  (Tracked.component host c scope).displays

/-- Outside of all loops. -/
def outermost (schema : Schema) (data : Option Json) : Scope := { data := dataFor schema data }

/-- What a path that leads nowhere does at the place where it stands. Texts, props, rounds of a loop
and children are put together from parts that do not depend on each other. -/
structure FailsLocally (host : Host) : Prop where
  /-- The component is left out. -/
  condition : ∀ (own : Attributes) (children : Option (List Component)) (scope : Scope),
    ∀ e ∈ own.condition, e ≠ "" → Path.find? (Binding.unwrap e) scope.root = none →
      shown host (.mk own children) scope = none
  /-- The loop has no rounds. -/
  source : ∀ (own : Attributes) (children : Option (List Component)) (scope : Scope),
    ∀ loop ∈ own.loop, Path.find? (Binding.unwrap loop.source) scope.root = none →
      (Tracked.passes own scope).result = true →
      shown host (.mk own children) scope = some (.element fragmentType own.id [] [])
  /-- The component has no content of its own. -/
  binding : ∀ (own : Attributes) (scope : Scope), own.text.filter (!·.isEmpty) = none →
    ∀ e ∈ own.binding, Path.find? (Binding.unwrap e) scope.root = none →
      (Tracked.ownContent own scope).result = []
  text : ∀ (data : Json) (template : String), (Tracked.interpolate data template).result =
    String.ofList ((Binding.pieces template).flatMap (Binding.Piece.shown data))
  props : ∀ (data : Json) (members : List (String × Json)),
    (Tracked.resolveMembers data members).result =
      members.map fun (key, value) => (key, (Tracked.resolveIn data value).result)
  rounds : ∀ (own : Attributes) (children : Option (List Component)) (scope : Scope) (loop : Loop)
    (items : List Json),
    (Tracked.allRounds host own (Tracked.below host children) scope loop 0 items).result =
      items.zipIdx.filterMap fun (item, index) =>
        shown host (.mk (round own index) children)
          (scope.enter loop.itemVariable loop.indexVariable item index)
  children : ∀ (children : List Component) (scope : Scope),
    (Tracked.siblings host children scope).result =
      children.filterMap fun child => shown host child scope

theorem result_passes_of_find?_eq_none {own : Attributes} {scope : Scope} {e : String}
    (given : own.condition = some e) (nonempty : e ≠ "")
    (nowhere : Path.find? (Binding.unwrap e) scope.root = none) :
    (Tracked.passes own scope).result = false := by
  have visible : ¬ e.isEmpty = true := by simpa using nonempty
  simp only [Tracked.passes, given, if_neg visible]
  simp [Tracked.find, nowhere]

theorem result_ofPieces (data : Json) (pieces : List Binding.Piece) :
    (Tracked.ofPieces data pieces).result = pieces.flatMap (Binding.Piece.shown data) := by
  induction pieces with
  | nil => rfl
  | cons piece rest ih =>
    have here : (Tracked.ofPiece data piece).result = piece.shown data := by
      cases piece with
      | plain c => rfl
      | binding body =>
        rw [Binding.Piece.shown, Tracked.ofPiece, Tracked.result_bind, Tracked.find]
        cases Path.find? (String.ofList body) data <;> rfl
    rw [List.flatMap_cons, ← ih, ← here]
    rfl

theorem result_resolveMembers (data : Json) (members : List (String × Json)) :
    (Tracked.resolveMembers data members).result =
      members.map fun (key, value) => (key, (Tracked.resolveIn data value).result) := by
  induction members with
  | nil => rfl
  | cons e rest ih =>
    rw [List.map_cons, ← ih]
    rfl

theorem toList_append_filterMap {f : α → Option β} (a : α) (rest : List α) :
    (f a).toList ++ rest.filterMap f = (a :: rest).filterMap f := by
  rw [List.filterMap_cons]
  cases f a <;> rfl

theorem result_allRounds (host : Host) (own : Attributes) (children : Option (List Component))
    (scope : Scope) (loop : Loop) (index : Nat) (items : List Json) :
    (Tracked.allRounds host own (Tracked.below host children) scope loop index items).result =
      (items.zipIdx index).filterMap fun (item, index) =>
        shown host (.mk (round own index) children)
          (scope.enter loop.itemVariable loop.indexVariable item index) := by
  induction items generalizing index with
  | nil => rfl
  | cons item rest ih =>
    rw [List.zipIdx_cons, ← toList_append_filterMap, ← ih]
    rfl

theorem result_siblings (host : Host) (children : List Component) (scope : Scope) :
    (Tracked.siblings host children scope).result =
      children.filterMap fun child => shown host child scope := by
  induction children with
  | nil => rfl
  | cons child rest ih =>
    rw [← toList_append_filterMap, ← ih]
    rfl

theorem failsLocally (host : Host) : FailsLocally host where
  condition own children scope e given nonempty nowhere := by
    have fails := result_passes_of_find?_eq_none given nonempty nowhere
    show (Tracked.expand host own (Tracked.below host children) scope).result = none
    rw [Tracked.expand]
    cases own.loop <;> simp [Tracked.single, fails]
  source own children scope loop given nowhere passes := by
    have empty : (Tracked.items loop scope).result = [] := by simp [Tracked.items, Tracked.find,
      nowhere, Loop.itemsOf]
    show (Tracked.expand host own (Tracked.below host children) scope).result = _
    simp [Tracked.expand, Option.mem_def.1 given, passes, empty, Tracked.allRounds]
  binding own scope noText e given nowhere := by
    rw [Tracked.ownContent, noText, Option.mem_def.1 given]
    by_cases empty : e = ""
    · simp [Option.filter, empty]
    · simp [Option.filter, empty, Tracked.find, nowhere, Tracked.contentOf]
  text data template := by rw [Tracked.interpolate, ← result_ofPieces]; rfl
  props := result_resolveMembers
  rounds own children scope loop items := result_allRounds host own children scope loop 0 items
  children := result_siblings host

theorem render_eq (host : Host) (schema : Schema) (data : Option Json) :
    render host schema data =
      (Tracked.component host schema.root (outermost schema data)).outcome :=
  (Tracked.outcome_component host schema.root _).symm

theorem render_eq_ok (host : Host) (schema : Schema) (data : Option Json) (node : Option Node) :
    render host schema data = .ok node ↔
      ((∀ path ∈ lookups host schema.root (outermost schema data), ¬ Path.Overlong path) ∧
        ∀ value ∈ displays host schema.root (outermost schema data), value.fitsText = true) ∧
      shown host schema.root (outermost schema data) = node := by
  rw [render_eq]
  exact Tracked.outcome_eq_ok

/-- The renderer returns exactly where no path that it looks up is overlong and no value that it
displays has a number of too many digits; modest data has no such value. Then its nodes are those in
which everything that leads nowhere is passed over at its place; and whatever the data, it looks up
no other paths than the ones written in the schema. -/
theorem render_returns_iff (host : Host) (schema : Schema) (data : Option Json) :
    ((∃ node, render host schema data = .ok node) ↔
      (∀ path ∈ lookups host schema.root (outermost schema data), ¬ Path.Overlong path) ∧
        ∀ value ∈ displays host schema.root (outermost schema data), value.fitsText = true) ∧
    ((dataFor schema data).Modest →
      ∀ value ∈ displays host schema.root (outermost schema data), value.fitsText = true) ∧
    (∀ node, render host schema data = .ok node →
      node = shown host schema.root (outermost schema data)) ∧
    (∀ path ∈ lookups host schema.root (outermost schema data), path ∈ schema.root.paths) ∧
    FailsLocally host := by
  have within := Tracked.within_component host schema.root (outermost schema data)
  simp only [render_eq_ok]
  refine ⟨?_, fun modest => within.displays ⟨modest, nofun⟩, fun node both => both.2.symm,
    within.paths, failsLocally host⟩
  simp only [exists_and_left, exists_eq', and_true]

end Render

/-- A text that is one binding. -/
theorem Binding.bodies_binding {body : List Char} (nonempty : body ≠ [])
    (noBrace : ∀ c ∈ body, c ≠ '\x7d') :
    bodies (String.ofList (Piece.binding body).chars) = [String.ofList body] := by
  have isBody : IsBody body := ⟨nonempty, fun close => noBrace _ close rfl⟩
  have only : pieces (String.ofList (Piece.binding body).chars) = [.binding body] :=
    (Cut.binding isBody .nil).pieces_eq (by simp)
  rw [bodies, only]
  rfl

/-- A host that knows one type. -/
def rowHost : Host where
  registry := { definitions := [{ type := "Text" }] }
  placeholderType := "Unknown"

/-- One row of text that shows the value of a path. -/
def rowOf (path : List Char) : Schema where
  version := some "1.0"
  root := .mk { id := "row", type := "Text"
                text := some (String.ofList (Binding.Piece.binding path).chars) } none

theorem lookups_rowOf {path : List Char} (nonempty : path ≠ []) (noBrace : ∀ c ∈ path, c ≠ '\x7d') :
    Render.lookups rowHost (rowOf path).root (Render.outermost (rowOf path) none) =
      [String.ofList path] := by
  have bodies := Binding.bodies_binding nonempty noBrace
  have visible : (String.ofList (Binding.Piece.binding path).chars).isEmpty = false := by
    simp [Binding.Piece.chars, Binding.openMark, String.isEmpty_eq_false_iff]
  have known : rowHost.registry.get? "Text" = some { type := "Text" } := by rfl
  simp [Render.lookups, rowOf, Tracked.component, Tracked.expand, Tracked.single, Tracked.passes,
    Tracked.element, known, Tracked.below, Tracked.childrenOr, Tracked.ownContent, visible,
    Option.filter, Tracked.paths_interpolate, bodies, Tracked.propsOf, Tracked.resolveMembers]

theorem rowOf_stops {digits : List Char} (all : ∀ c ∈ digits, c.isDigit = true)
    (many : mostDigits < digits.length) :
    render rowHost (rowOf (Path.indexed digits)) none = .error .tooManyDigits := by
  have noBrace : ∀ c ∈ Path.indexed digits, c ≠ '\x7d' := by
    rintro c member rfl
    have inDigits : '\x7d' ∈ digits := by simpa [Path.indexed] using member
    exact absurd (all _ inDigits) (by decide)
  have nonempty : Path.indexed digits ≠ [] := List.cons_ne_nil _ _
  have looked := lookups_rowOf nonempty noBrace
  rw [Render.render_eq, Tracked.outcome, if_neg]
  rintro ⟨short, -⟩
  refine short _ ?_ (Path.overlong_indexed all many)
  rw [← Render.lookups, looked]
  exact List.mem_singleton_self _

/-- An index with too many digits in a text stops the renderer. -/
theorem numberedRow_stops :
    ¬ ∃ node, render rowHost (rowOf (Path.indexed Path.tooManyDigits)) none = .ok node := by
  rw [rowOf_stops Path.tooManyDigits_isDigit Path.lt_length_tooManyDigits]
  nofun

end UiSchema
