import UiSchema.Proofs.Outcome
import UiSchema.Proofs.Path.Followed
import UiSchema.Proofs.Render.Related

/-! Loops and the variables they bring. Each round of a loop is the component without its loop,
rendered in a scope with the variables of that round; and variables are nothing but members of the
data, put over those that are there. -/

set_option autoImplicit false

namespace UiSchema

/-! ### Variables as members -/

namespace Scope

/-- What a name stands for: a variable, or else a member of the data. -/
def look? (s : Scope) (name : String) : Option Json :=
  (s.overlay.get? name).or ((s.data.members?.getD []).get? name)

/-- The members of the document that paths are resolved in. -/
def members (s : Scope) : Entries Json := s.root.members?.getD []

theorem members_eq (s : Scope) : s.members = (s.data.members?.getD []).putAll s.overlay := by
  obtain ⟨data, overlay⟩ := s
  cases overlay <;> rfl

/-- Looking a name up in the one document is asking for a variable and then for a member of the
data. -/
theorem get?_members {s : Scope} (distinct : s.overlay.Distinct) (name : String) :
    s.members.get? name = s.look? name := by
  rw [members_eq, Entries.get?_putAll _ distinct, look?]

theorem distinct_enter {s : Scope} (distinct : s.overlay.Distinct) (itemName indexName : String)
    (item : Json) (index : Nat) : (s.enter itemName indexName item index).overlay.Distinct :=
  (distinct.put itemName item).put indexName (.int index)

theorem look?_enter (s : Scope) (itemName indexName : String) (item : Json) (index : Nat)
    (name : String) :
    (s.enter itemName indexName item index).look? name =
      if indexName = name then some (.int index)
      else if itemName = name then some item else s.look? name := by
  rw [look?, enter, Entries.get?_put, Entries.get?_put]
  split
  · rfl
  · split <;> rfl

/-- The variables of a round are put over the document around the loop. -/
theorem root_enter {s : Scope} (distinct : s.overlay.Distinct) (itemName indexName : String)
    (item : Json) (index : Nat) :
    (s.enter itemName indexName item index).root =
      .object ((s.members.put itemName item).put indexName (.int index)) := by
  -- both variables are entries put last, on the overlay as on the members
  rw [root, enter, Entries.isEmpty_put, members_eq, ← Entries.putAll_put distinct,
    ← Entries.putAll_put (distinct.put itemName item)]
  rfl

/-- Paths are resolved in the same document, and names stand for one thing each. -/
structure SameRoot (s t : Scope) : Prop where
  first : s.overlay.Distinct
  second : t.overlay.Distinct
  root : s.root = t.root

theorem SameRoot.blind {α : Type} (read : Json → α) :
    Blind SameRoot fun scope => read scope.root :=
  fun _ _ same => congrArg read same.root

theorem sameRoot_lasting : Lasting SameRoot := by
  intro s t same itemName indexName item index
  refine ⟨distinct_enter same.first .., distinct_enter same.second .., ?_⟩
  rw [root_enter same.first, root_enter same.second, members, members, same.root]

end Scope

namespace Path

/-- The first name of a path is asked of the variables and then of the data; the rest is followed
from there. -/
theorem get?_root {s : Scope} (distinct : s.overlay.Distinct) (name : String) (rest : Path) :
    get? (.name name :: rest) s.root = (s.look? name).bind (get? rest) := by
  have looked := Scope.get?_members distinct name
  -- only an object has members; in any other document the name stands for nothing
  unfold Scope.members at looked
  cases document : s.root with
  | object members =>
    rw [document] at looked
    have member : Entries.get? members name = s.look? name := looked
    rw [get?_cons, follow, member]
    cases s.look? name <;> rfl
  | _ =>
    rw [document] at looked
    rw [← looked]
    rfl

theorem printable_name_cons (name : String) (rest : Path) :
    Printable (.name name :: rest) ↔ Printable rest := by
  simp [Printable, Segment.fewDigits]

theorem resolve_root {s : Scope} (distinct : s.overlay.Distinct) (name : String) (rest : Path)
    (value : Json) :
    resolve (.name name :: rest) s.root = .ok (.ok value) ↔
      ∃ next, s.look? name = some next ∧ resolve rest next = .ok (.ok value) := by
  simp only [resolve_eq_value, printable_name_cons, get?_root distinct, Option.bind_eq_some_iff]
  exact ⟨fun ⟨printable, next, stands, leads⟩ => ⟨next, stands, printable, leads⟩,
    fun ⟨next, stands, printable, leads⟩ => ⟨printable, next, stands, leads⟩⟩

end Path

/-- The host gives a node for every component of the type, whoever draws it. -/
structure Host.Draws (host : Host) (type : String) : Prop where
  known : host.registry.has type = true →
    ∀ drawing ∈ host.drawing? type, ∀ props children, (drawing props children).isSome = true
  unknown : host.registry.has type = false →
    ∀ draw ∈ host.unknown?, ∀ id, (draw type id).isSome = true

theorem Host.Draws.isSome_element {host : Host} {own : Attributes} (draws : host.Draws own.type)
    {below : Scope → Outcome (Option (List Node))} {scope : Scope} {result : Option Node}
    (rendered : Render.element host own below scope = .ok result) : result.isSome = true := by
  rw [Render.element] at rendered
  cases known : host.registry.get? own.type with
  | none =>
    rw [known] at rendered
    cases rendered
    have unknown : host.registry.has own.type = false := by rw [Registry.has, known]; rfl
    rw [Render.placeholder]
    cases drawn : host.unknown? with
    | none => rfl
    | some draw => exact draws.unknown unknown draw drawn own.id
  | some definition =>
    rw [known] at rendered
    obtain ⟨props, -, rendered⟩ := Outcome.bind_eq_ok.1 rendered
    obtain ⟨_, -, rendered⟩ := Outcome.bind_eq_ok.1 rendered
    obtain ⟨content, -, same⟩ := Outcome.bind_eq_ok.1 rendered
    cases same
    have known : host.registry.has own.type = true := by rw [Registry.has, known]; rfl
    rw [Render.draw]
    cases drawn : host.drawing? own.type with
    | none => rfl
    | some drawing => exact draws.known known drawing drawn props content

namespace Render

variable {host : Host} {own : Attributes}

/-- Of the scope only the document counts that paths are resolved in. -/
theorem component_sameRoot (host : Host) (c : Component) :
    Blind Scope.SameRoot (component host c) :=
  component_blind Scope.sameRoot_lasting host c fun d _ =>
    { condition := fun e _ _ => Scope.SameRoot.blind (Binding.value? (Binding.unwrap e))
      binding := fun e _ _ => Scope.SameRoot.blind (Binding.value? (Binding.unwrap e))
      source := fun loop _ => Scope.SameRoot.blind (Binding.value? (Binding.unwrap loop.source))
      text := fun t _ _ => Scope.SameRoot.blind (Binding.interpolate t)
      props := Scope.SameRoot.blind fun root => Binding.resolveMembers root (d.own.props.getD []) }

/-- Variables can be put into the data beforehand. -/
theorem component_overlay (host : Host) (c : Component) (data : Entries Json)
    {overlay : Entries Json} (distinct : overlay.Distinct) :
    component host c { data := .object data, overlay } =
      component host c { data := .object (data.putAll overlay) } := by
  refine component_sameRoot host c _ _ ⟨distinct, List.nodup_nil, ?_⟩
  cases overlay <;> rfl

/-! ### Rounds -/

/-- The condition of a component does not keep it from being rendered. -/
def Lets (own : Attributes) (scope : Scope) : Prop :=
  ∀ condition ∈ own.condition, condition ≠ "" → Binding.holds condition scope.root = .ok true

theorem passes_of_lets {scope : Scope} (lets : Lets own scope) : passes own scope = .ok true := by
  rw [passes]
  cases given : own.condition with
  | none => rfl
  | some condition =>
    by_cases empty : condition = ""
    · simp [empty]
    · simp [empty, lets condition given empty]

/-- Everything is computed in order, and what came to nothing is left out. -/
def kept {α β : Type} (f : α → Outcome (Option β)) (xs : List α) : Outcome (List β) := do
  return (← xs.mapM f).filterMap id

theorem kept_cons {α β : Type} (f : α → Outcome (Option β)) (x : α) (xs : List α) :
    kept f (x :: xs) = do
      let here ← f x
      return here.toList ++ (← kept f xs) := by
  rw [kept, kept, List.mapM_cons]
  cases f x with
  | error overflow => rfl
  | ok here =>
    cases xs.mapM f with
    | error overflow => rfl
    | ok others => cases here <;> rfl

section Kept

variable {α β : Type} {f : α → Outcome (Option β)} {xs : List α} {ys : List β}

theorem kept_cons_eq_ok {x : α} :
    kept f (x :: xs) = .ok ys ↔
      ∃ here, f x = .ok here ∧ ∃ others, kept f xs = .ok others ∧ here.toList ++ others = ys := by
  rw [kept_cons]
  simp only [Outcome.bind_eq_ok, Outcome.pure_eq_ok]

/-- Every single one came to a result. -/
theorem ok_of_kept (all : kept f xs = .ok ys) {x : α} (member : x ∈ xs) : ∃ r, f x = .ok r := by
  induction xs generalizing ys with
  | nil => cases member
  | cons x rest ih =>
    obtain ⟨here, first, others, further, _⟩ := kept_cons_eq_ok.1 all
    rcases List.mem_cons.1 member with rfl | member
    · exact ⟨here, first⟩
    · exact ih further member

theorem length_kept_le (all : kept f xs = .ok ys) : ys.length ≤ xs.length := by
  induction xs generalizing ys with
  | nil =>
    cases all
    exact Nat.le_refl 0
  | cons x xs ih =>
    obtain ⟨here, -, others, further, rfl⟩ := kept_cons_eq_ok.1 all
    have bound := ih further
    cases here <;> simp <;> omega

/-- Nothing was left out exactly if everything came to something. -/
theorem length_kept_eq_iff (all : kept f xs = .ok ys) :
    ys.length = xs.length ↔ ∀ x ∈ xs, ∃ y, f x = .ok (some y) := by
  induction xs generalizing ys with
  | nil =>
    cases all
    simp
  | cons x xs ih =>
    obtain ⟨here, first, others, further, rfl⟩ := kept_cons_eq_ok.1 all
    rw [List.forall_mem_cons, first, ← ih further]
    cases here with
    | none =>
      have short := length_kept_le further
      simp
      omega
    | some y => simp

end Kept

/-- One round is the component without its loop, with the variables of the round. -/
def roundOf (host : Host) (own : Attributes) (children : Option (List Component)) (scope : Scope)
    (loop : Loop) (entry : Json × Nat) : Outcome (Option Node) :=
  component host (.mk (round own entry.2) children)
    (scope.enter loop.itemVariable loop.indexVariable entry.1 entry.2)

theorem allRounds_eq (children : Option (List Component)) (scope : Scope) (loop : Loop)
    (index : Nat) (items : List Json) :
    allRounds host own (below host children) scope loop index items =
      kept (roundOf host own children scope loop) (items.zipIdx index) := by
  induction items generalizing index with
  | nil => rfl
  | cons item rest ih =>
    -- a round has no loop, so rendering it as a component comes to the same
    have first : single host (round own index) (below host children)
        (scope.enter loop.itemVariable loop.indexVariable item index) =
        roundOf host own children scope loop (item, index) := rfl
    rw [allRounds, first, ih, List.zipIdx_cons, kept_cons]

/-- A loop gives a fragment of its rounds; those whose condition fails are left out. -/
theorem component_loop {children : Option (List Component)} {scope : Scope} {loop : Loop}
    {items : List Json} (given : own.loop = some loop) (lets : Lets own scope)
    (source : Binding.value? (Binding.unwrap loop.source) scope.root = .ok (some (.array items))) :
    component host (.mk own children) scope = do
      let nodes ← kept (roundOf host own children scope loop) items.zipIdx
      return some (.element fragmentType own.id [] nodes) := by
  have read : loop.items scope.root = .ok items := by
    rw [Loop.items, source]
    rfl
  rw [component, expand, given]
  dsimp only
  rw [passes_of_lets lets, read]
  show (allRounds host own (below host children) scope loop 0 items >>= _) = _
  rw [allRounds_eq]

/-- The component has no condition, or an empty one. -/
def Unconditional (own : Attributes) : Prop := ∀ condition ∈ own.condition, condition = ""

theorem passes_unconditional (free : Unconditional own) (index : Nat) (scope : Scope) :
    passes (round own index) scope = .ok true :=
  passes_of_lets fun condition given some => absurd (free condition given) some

/-- A component without a condition comes to a node, if one is drawn for its type. -/
theorem isSome_roundOf (free : Unconditional own) (draws : host.Draws own.type)
    {children : Option (List Component)} {scope : Scope} {loop : Loop} {entry : Json × Nat}
    {result : Option Node} (rendered : roundOf host own children scope loop entry = .ok result) :
    result.isSome = true := by
  have alone : single host (round own entry.2) (below host children)
      (scope.enter loop.itemVariable loop.indexVariable entry.1 entry.2) = .ok result := rendered
  rw [single, passes_unconditional free] at alone
  have draws : host.Draws (round own entry.2).type := draws
  exact draws.isSome_element alone

/-- Without a condition nothing is left out, if a node is drawn for every round. -/
theorem length_rounds (free : Unconditional own) (draws : host.Draws own.type)
    {children : Option (List Component)} {scope : Scope} {loop : Loop} {entries : List (Json × Nat)}
    {nodes : List Node} (rendered : kept (roundOf host own children scope loop) entries = .ok nodes) :
    nodes.length = entries.length := by
  refine (length_kept_eq_iff rendered).2 fun entry member => ?_
  obtain ⟨result, drawn⟩ := ok_of_kept rendered member
  obtain ⟨node, rfl⟩ := Option.isSome_iff_exists.1 (isSome_roundOf free draws drawn)
  exact ⟨node, drawn⟩

/-- Children are rendered one by one, all in the same scope. -/
theorem siblings_eq (children : List Component) (scope : Scope) :
    siblings host children scope = kept (fun child => component host child scope) children := by
  induction children with
  | nil => rfl
  | cons child rest ih =>
    rw [siblings, ih, kept_cons]

/-- A loop is a fragment of its rounds, each in a scope with the variables of that round, and those
of a round are gone after it. As many nodes stand in it as there are rounds exactly if every round
comes to a node, as it does without a condition where the host draws one. A name stands for the
innermost variable, or else for a member of the data; and all variables could have been put into the
data beforehand. -/
theorem loop_and_scope (host : Host) :
    (∀ own children scope loop items, own.loop = some loop → Lets own scope →
      Binding.value? (Binding.unwrap loop.source) scope.root = .ok (some (.array items)) →
      (component host (.mk own children) scope = do
        let nodes ← kept (roundOf host own children scope loop) items.zipIdx
        return some (.element fragmentType own.id [] nodes)) ∧
      ∀ nodes, kept (roundOf host own children scope loop) items.zipIdx = .ok nodes →
        (nodes.length = items.length ↔ ∀ entry ∈ items.zipIdx, ∃ node,
          roundOf host own children scope loop entry = .ok (some node)) ∧
        (Unconditional own → host.Draws own.type → nodes.length = items.length)) ∧
    (∀ children scope,
      siblings host children scope = kept (fun child => component host child scope) children) ∧
    (∀ scope : Scope, scope.overlay.Distinct →
      (∀ name rest value, Path.resolve (.name name :: rest) scope.root = .ok (.ok value) ↔
        ∃ next, scope.look? name = some next ∧ Path.resolve rest next = .ok (.ok value)) ∧
      ∀ itemName indexName item index,
        (scope.enter itemName indexName item index).overlay.Distinct ∧
        ∀ name, (scope.enter itemName indexName item index).look? name =
          if indexName = name then some (.int index)
          else if itemName = name then some item else scope.look? name) ∧
    ∀ (c : Component) (data overlay : Entries Json), overlay.Distinct →
      component host c { data := .object data, overlay } =
        component host c { data := .object (data.putAll overlay) } := by
  refine ⟨?_, siblings_eq, ?_, fun c data overlay => component_overlay host c data⟩
  · intro own children scope loop items given lets source
    refine ⟨component_loop given lets source, fun nodes rendered => ?_⟩
    rw [← List.length_zipIdx (l := items)]
    exact ⟨length_kept_eq_iff rendered, fun free draws => length_rounds free draws rendered⟩
  · intro scope distinct
    refine ⟨Path.resolve_root distinct, fun itemName indexName item index => ?_⟩
    exact ⟨Scope.distinct_enter distinct .., fun name => Scope.look?_enter ..⟩

end Render

def tableHost : Host where
  registry := { definitions := [{ type := "Row" }, { type := "Cell" }] }
  placeholderType := "Unknown"

/-- One row for each of the rows. -/
def rowAttributes : Attributes :=
  { id := "row", type := "Row", loop := some { source := "rows", itemName := some "row" } }

/-- One cell for each item of the row. -/
def cell : Component :=
  .mk { id := "cell", type := "Cell", text := some "{{item}} {{index}}"
        loop := some { source := "row" } } none

def tableRows : List Json := [.array [.str "a", .str "b"]]

def tableScope : Scope := { data := .object [("rows", .array tableRows)] }

def tableNodes : List Node :=
  [.element "Row" "row-0" []
    [.element "Fragment" "cell" []
      [.element "Cell" "cell-0" [] [.text "a 0"], .element "Cell" "cell-1" [] [.text "b 1"]]]]

/-- The index of a cell hides that of its row. -/
theorem table_expanded :
    (Render.Lets rowAttributes tableScope ∧
      Binding.value? (Binding.unwrap "rows") tableScope.root = .ok (some (.array tableRows))) ∧
    Render.component tableHost (.mk rowAttributes (some [cell])) tableScope =
      .ok (some (.element "Fragment" "row" [] tableNodes)) ∧
    tableNodes.length = tableRows.length ∧
    Render.component tableHost cell
        { data := .object [("row", .null)], overlay := [("row", .array [.str "a"])] } =
      Render.component tableHost cell { data := .object [("row", .array [.str "a"])] } := by
  have lets : Render.Lets rowAttributes tableScope := nofun
  have source : Binding.value? (Binding.unwrap "rows") tableScope.root =
      .ok (some (.array tableRows)) := rfl
  have rounds : Render.kept (Render.roundOf tableHost rowAttributes (some [cell]) tableScope
      { source := "rows", itemName := some "row" }) tableRows.zipIdx = .ok tableNodes := rfl
  obtain ⟨loops, _, _, merged⟩ := Render.loop_and_scope tableHost
  obtain ⟨expanded, counted⟩ :=
    loops rowAttributes (some [cell]) tableScope _ tableRows rfl lets source
  have draws : tableHost.Draws "Row" := ⟨fun _ => nofun, fun _ => nofun⟩
  have distinct : ["row"].Nodup := by decide
  refine ⟨⟨lets, source⟩, ?_, (counted _ rounds).2 nofun draws, merged cell _ _ distinct⟩
  rw [expanded, rounds]
  rfl

/-- A loop with one name for the item and its index. -/
def sameName : Loop := { source := "rows", itemName := some "x", indexName := some "x" }

/-- A host that knows rows and draws nothing for them. -/
def blankHost : Host where
  registry := { definitions := [{ type := "Row" }] }
  placeholderType := "Unknown"
  drawing? := fun _ => some fun _ _ => none

/-- With one name for both, the name stands for the index; and a row that is not drawn is no child,
though it has no condition. -/
theorem item_hidden_and_row_undrawn :
    (¬ ∀ (scope : Scope) (loop : Loop) (item : Json) (index : Nat),
      (scope.enter loop.itemVariable loop.indexVariable item index).look? loop.itemVariable =
        some item) ∧
    (Render.Unconditional rowAttributes ∧
      Binding.value? (Binding.unwrap "rows") tableScope.root = .ok (some (.array tableRows))) ∧
    Render.component blankHost (.mk rowAttributes none) tableScope =
      .ok (some (.element "Fragment" "row" [] [])) ∧ tableRows.length = 1 := by
  refine ⟨fun all => ?_, ⟨nofun, rfl⟩, rfl, rfl⟩
  cases all tableScope sameName (.str "a") 0

end UiSchema
