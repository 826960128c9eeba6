import UiSchema.Proofs.Binding.Shown
import UiSchema.Proofs.Schema.Tree
import UiSchema.Render

/-! The renderer with its failures taken out: a path that leads nowhere, for whatever reason, has no
value, and every path that is looked up is written down, and so is every value that is displayed.
From the nodes, the paths and the values together one can tell what the renderer does: it stops if
an index in one of the paths or a whole number in one of the values has too many digits, and returns
the nodes otherwise. -/

set_option autoImplicit false

namespace UiSchema

variable {α β : Type}

/-- A result, the paths that are looked up on the way to it, and the values that are displayed. -/
structure Tracked (α : Type) where
  result : α
  paths : List String := []
  displays : List Json := []

namespace Tracked

instance : Monad Tracked where
  pure result := { result }
  bind first next :=
    { result := (next first.result).result
      paths := first.paths ++ (next first.result).paths
      displays := first.displays ++ (next first.result).displays }

@[simp] theorem result_pure (value : α) : (pure value : Tracked α).result = value := rfl

@[simp] theorem paths_pure (value : α) : (pure value : Tracked α).paths = [] := rfl

@[simp] theorem displays_pure (value : α) : (pure value : Tracked α).displays = [] := rfl

@[simp] theorem result_bind (first : Tracked α) (next : α → Tracked β) :
    (first >>= next).result = (next first.result).result := rfl

@[simp] theorem paths_bind (first : Tracked α) (next : α → Tracked β) :
    (first >>= next).paths = first.paths ++ (next first.result).paths := rfl

@[simp] theorem displays_bind (first : Tracked α) (next : α → Tracked β) :
    (first >>= next).displays = first.displays ++ (next first.result).displays := rfl

/-- No number on the way is too long to be read or to be written. -/
def Clear (x : Tracked α) : Prop :=
  (∀ path ∈ x.paths, ¬ Path.Overlong path) ∧ ∀ value ∈ x.displays, value.fitsText = true

instance (x : Tracked α) : Decidable x.Clear := inferInstanceAs (Decidable (_ ∧ _))

theorem clear_pure (value : α) : (pure value : Tracked α).Clear := ⟨nofun, nofun⟩

theorem clear_bind {first : Tracked α} {next : α → Tracked β} :
    (first >>= next).Clear ↔ first.Clear ∧ (next first.result).Clear := by
  simp only [Clear, paths_bind, displays_bind, List.forall_mem_append]
  exact and_and_and_comm

/-- What happens when the paths are really looked up and the values written: a number that is too
long stops everything. -/
def outcome (x : Tracked α) : Outcome α :=
  if x.Clear then .ok x.result else .error .tooManyDigits

/-- Nothing but a number that is too long stops it. -/
theorem outcome_eq_ok {x : Tracked α} {value : α} :
    x.outcome = .ok value ↔ x.Clear ∧ x.result = value := by
  unfold outcome
  split <;> simp_all

theorem outcome_eq_error {x : Tracked α} {cause : Raised} (stops : x.outcome = .error cause) :
    cause = .tooManyDigits := by
  unfold outcome at stops
  split at stops
  · cases stops
  · exact (Except.error.inj stops).symm

@[simp] theorem outcome_pure (value : α) : (pure value : Tracked α).outcome = .ok value :=
  if_pos (clear_pure value)

@[simp] theorem outcome_bind (first : Tracked α) (next : α → Tracked β) :
    (first >>= next).outcome = first.outcome >>= fun value => (next value).outcome := by
  rw [outcome, outcome]
  by_cases clear : first.Clear
  · rw [if_pos clear]
    show _ = (next first.result).outcome
    rw [outcome]
    exact if_congr (clear_bind.trans (and_iff_right clear)) rfl rfl
  · rw [if_neg clear, if_neg fun both => clear (clear_bind.1 both).1]
    rfl

theorem outcome_ite (c : Prop) [Decidable c] (first second : Tracked α) :
    (if c then first else second).outcome = if c then first.outcome else second.outcome := by
  split <;> rfl

/-- Looking up one path. -/
def find (expression : String) (data : Json) : Tracked (Option Json) :=
  { result := Path.find? expression data, paths := [expression] }

theorem outcome_find (expression : String) (data : Json) :
    (find expression data).outcome = Binding.value? expression data := by
  have only : (find expression data).Clear ↔ ¬ Path.Overlong expression := by simp [Clear, find]
  rw [outcome, if_congr only rfl rfl, ite_not, Binding.value?_eq]
  rfl

/-- Displaying one value. -/
def display (value : Json) : Tracked String :=
  { result := Binding.displayed value, displays := [value] }

theorem outcome_display (value : Json) : (display value).outcome = Binding.display value := by
  have only : (display value).Clear ↔ value.fitsText = true := by simp [Clear, display]
  rw [outcome, Binding.display]
  exact if_congr only rfl rfl

section Texts

variable (data : Json)

def ofPiece : Binding.Piece → Tracked (List Char)
  | .plain c => pure [c]
  | .binding body => do
    match ← find (String.ofList body) data with
    | some value => return (← display value).toList
    | none => return (Binding.Piece.binding body).chars

def ofPieces : List Binding.Piece → Tracked (List Char)
  | [] => pure []
  | piece :: rest => do
    let here ← ofPiece data piece
    return here ++ (← ofPieces rest)

def interpolate (template : String) : Tracked String := do
  return String.ofList (← ofPieces data (Binding.pieces template))

mutual

def resolveIn : Json → Tracked Json
  | .str text => do return .str (← interpolate data text)
  | .object members => do return .object (← resolveMembers members)
  | value => pure value

def resolveMembers : List (String × Json) → Tracked (List (String × Json))
  | [] => pure []
  | (key, value) :: rest => do
    let value ← resolveIn value
    return (key, value) :: (← resolveMembers rest)

end

end Texts

def passes (own : Attributes) (scope : Scope) : Tracked Bool :=
  match own.condition with
  | none => pure true
  | some condition =>
    if condition.isEmpty then pure true
    else do
      let value ← find (Binding.unwrap condition) scope.root
      return (value.map Binding.truthy).getD false

def items (loop : Loop) (scope : Scope) : Tracked (List Json) := do
  return Loop.itemsOf (← find (Binding.unwrap loop.source) scope.root)

def contentOf : Option Json → Tracked (List Node)
  | none | some .null => pure []
  | some value => do return [.text (← display value)]

def ownContent (own : Attributes) (scope : Scope) : Tracked (List Node) :=
  match own.text.filter (!·.isEmpty), own.binding.filter (!·.isEmpty) with
  | some text, _ => do return [.text (← interpolate scope.root text)]
  | none, some binding => do contentOf (← find (Binding.unwrap binding) scope.root)
  | none, none => pure []

/-- The props of an element once its own props have their bindings resolved. -/
def propsFrom (definition : Definition) (own : Attributes) (signals : Bool)
    (props : Entries Json) : Entries PropValue :=
  let values := Render.withClassName own.style
    (Render.withStyle (Style.cssOf own.style) (definition.defaultProps.putAll props))
  let shown : Entries PropValue := values.map fun (name, value) => (name, .value value)
  if signals then shown.putAll (Render.handlersOf own) else shown

def propsOf (definition : Definition) (own : Attributes) (signals : Bool) (scope : Scope) :
    Tracked (Entries PropValue) := do
  return propsFrom definition own signals (← resolveMembers scope.root (own.props.getD []))

def childrenOr (ownContent : Tracked (List Node)) : Option (List Node) → Tracked (List Node)
  | some nodes => pure nodes
  | none => ownContent

def element (host : Host) (own : Attributes) (below : Scope → Tracked (Option (List Node)))
    (scope : Scope) : Tracked (Option Node) :=
  match host.registry.get? own.type with
  | none => pure (Render.placeholder host own)
  | some definition => do
    let props ← propsOf definition own host.signals scope
    let content ← childrenOr (ownContent own scope) (← below scope)
    return Render.draw host own props content

def single (host : Host) (own : Attributes) (below : Scope → Tracked (Option (List Node)))
    (scope : Scope) : Tracked (Option Node) := do
  if ← passes own scope then element host own below scope else return none

def allRounds (host : Host) (own : Attributes) (below : Scope → Tracked (Option (List Node)))
    (scope : Scope) (loop : Loop) (index : Nat) : List Json → Tracked (List Node)
  | [] => pure []
  | item :: rest => do
    let inner := scope.enter loop.itemVariable loop.indexVariable item index
    let node ← single host (Render.round own index) below inner
    return node.toList ++ (← allRounds host own below scope loop (index + 1) rest)

def expand (host : Host) (own : Attributes) (below : Scope → Tracked (Option (List Node)))
    (scope : Scope) : Tracked (Option Node) :=
  match own.loop with
  | none => single host own below scope
  | some loop => do
    if ← passes own scope then
      let rounds ← allRounds host own below scope loop 0 (← items loop scope)
      return some (.element Render.fragmentType own.id [] rounds)
    else return none

mutual

def component (host : Host) : Component → Scope → Tracked (Option Node)
  | .mk own children, scope => expand host own (below host children) scope

def below (host : Host) : Option (List Component) → Scope → Tracked (Option (List Node))
  | none, _ => pure none
  | some children, scope =>
    if children.isEmpty then pure none else do return some (← siblings host children scope)

def siblings (host : Host) : List Component → Scope → Tracked (List Node)
  | [], _ => pure []
  | child :: rest, scope => do
    let node ← component host child scope
    return node.toList ++ (← siblings host rest scope)

end

section Outcome

variable (data : Json) (own : Attributes) (scope : Scope)

theorem outcome_ofPiece (piece : Binding.Piece) :
    (ofPiece data piece).outcome = piece.interpolate data := by
  cases piece with
  | plain c => exact outcome_pure _
  | binding body =>
    rw [ofPiece, outcome_bind, outcome_find, Binding.Piece.interpolate]
    refine bind_congr fun found => ?_
    cases found with
    | none => exact outcome_pure _
    | some value =>
      simp only [outcome_bind, outcome_pure, outcome_display]
      rfl

theorem outcome_ofPieces (pieces : List Binding.Piece) :
    (ofPieces data pieces).outcome = Binding.interpolatePieces data pieces := by
  induction pieces with
  | nil => exact outcome_pure _
  | cons piece rest ih =>
    rw [ofPieces, Binding.interpolatePieces]
    simp only [outcome_bind, outcome_pure, outcome_ofPiece, ih]
    rfl

theorem outcome_interpolate (template : String) :
    (interpolate data template).outcome = Binding.interpolate template data := by
  rw [interpolate, Binding.interpolate]
  simp only [outcome_bind, outcome_pure, outcome_ofPieces]
  rfl

mutual

theorem outcome_resolveIn (value : Json) :
    (resolveIn data value).outcome = Binding.resolveIn data value := by
  cases value with
  | str text =>
    rw [resolveIn, Binding.resolveIn]
    simp only [outcome_bind, outcome_pure, outcome_interpolate]
    rfl
  | object members =>
    rw [resolveIn, Binding.resolveIn]
    simp only [outcome_bind, outcome_pure, outcome_resolveMembers members]
    rfl
  | _ => simp [resolveIn, Binding.resolveIn]

theorem outcome_resolveMembers (members : List (String × Json)) :
    (resolveMembers data members).outcome = Binding.resolveMembers data members := by
  cases members with
  | nil => simp [resolveMembers, Binding.resolveMembers]
  | cons e rest =>
    obtain ⟨key, value⟩ := e
    rw [resolveMembers, Binding.resolveMembers]
    simp only [outcome_bind, outcome_pure, outcome_resolveIn value, outcome_resolveMembers rest]
    rfl

end

theorem outcome_passes : (passes own scope).outcome = Render.passes own scope := by
  rw [passes, Render.passes]
  cases own.condition with
  | none => exact outcome_pure _
  | some condition =>
    simp only [outcome_ite, outcome_bind, outcome_pure, outcome_find, Binding.holds]
    rfl

theorem outcome_items (loop : Loop) : (items loop scope).outcome = loop.items scope.root := by
  rw [items, Loop.items]
  simp only [outcome_bind, outcome_pure, outcome_find]
  rfl

theorem outcome_contentOf (found : Option Json) :
    (contentOf found).outcome = Render.contentOf found := by
  cases found with
  | none => exact outcome_pure _
  | some value =>
    cases value with
    | null => exact outcome_pure _
    | _ =>
      simp only [contentOf, Render.contentOf, outcome_bind, outcome_pure, outcome_display]
      rfl

theorem outcome_ownContent : (ownContent own scope).outcome = Render.ownContent own scope := by
  rw [ownContent, Render.ownContent]
  cases own.text.filter (!·.isEmpty) with
  | some text =>
    simp only [outcome_bind, outcome_pure, outcome_interpolate]
    rfl
  | none =>
    cases own.binding.filter (!·.isEmpty) with
    | none => exact outcome_pure _
    | some binding => simp only [outcome_bind, outcome_find, outcome_contentOf]

theorem outcome_propsOf (definition : Definition) (signals : Bool) :
    (propsOf definition own signals scope).outcome =
      Render.propsOf definition own signals scope.root := by
  rw [propsOf, Render.propsOf]
  simp only [outcome_bind, outcome_pure, outcome_resolveMembers]
  rfl

theorem outcome_childrenOr (content : Tracked (List Node)) (nodes : Option (List Node)) :
    (childrenOr content nodes).outcome = Render.childrenOr content.outcome nodes := by
  cases nodes with
  | none => rfl
  | some nodes => exact outcome_pure _

variable {own} {host : Host} {under : Scope → Tracked (Option (List Node))}
  {below : Scope → Outcome (Option (List Node))}
  (same : ∀ scope, (under scope).outcome = below scope)

include same

theorem outcome_element :
    (element host own under scope).outcome = Render.element host own below scope := by
  rw [element, Render.element]
  cases host.registry.get? own.type with
  | none => exact outcome_pure _
  | some definition =>
    simp only [outcome_bind, outcome_pure, outcome_propsOf, same, outcome_childrenOr,
      outcome_ownContent]
    rfl

theorem outcome_single :
    (single host own under scope).outcome = Render.single host own below scope := by
  rw [single, Render.single]
  simp only [outcome_bind, outcome_ite, outcome_pure, outcome_passes, outcome_element scope same]
  rfl

theorem outcome_allRounds (loop : Loop) (index : Nat) (rounds : List Json) :
    (allRounds host own under scope loop index rounds).outcome =
      Render.allRounds host own below scope loop index rounds := by
  induction rounds generalizing index with
  | nil => exact outcome_pure _
  | cons item rest ih =>
    rw [allRounds, Render.allRounds]
    simp only [outcome_bind, outcome_pure, outcome_single _ same, ih]
    rfl

theorem outcome_expand :
    (expand host own under scope).outcome = Render.expand host own below scope := by
  rw [expand, Render.expand]
  cases own.loop with
  | none => exact outcome_single scope same
  | some loop =>
    simp only [outcome_bind, outcome_ite, outcome_pure, outcome_passes, outcome_items,
      outcome_allRounds scope same]
    rfl

end Outcome

theorem outcome_siblings {host : Host} {children : List Component}
    (each : ∀ child ∈ children, ∀ scope,
      (component host child scope).outcome = Render.component host child scope) (scope : Scope) :
    (siblings host children scope).outcome = Render.siblings host children scope := by
  induction children with
  | nil => exact outcome_pure _
  | cons child rest ih =>
    obtain ⟨here, others⟩ := List.forall_mem_cons.1 each
    rw [siblings, Render.siblings]
    simp only [outcome_bind, outcome_pure, here, ih others]
    rfl

theorem outcome_below {host : Host} {children : Option (List Component)}
    (each : ∀ child ∈ children.getD [], ∀ scope,
      (component host child scope).outcome = Render.component host child scope) (scope : Scope) :
    (below host children scope).outcome = Render.below host children scope := by
  cases children with
  | none => exact outcome_pure _
  | some children =>
    have inside : (siblings host children scope).outcome = Render.siblings host children scope :=
      outcome_siblings each scope
    rw [below, Render.below]
    simp only [outcome_ite, outcome_bind, outcome_pure, inside]
    rfl

/-- The renderer does what nodes and paths say. -/
theorem outcome_component (host : Host) (c : Component) (scope : Scope) :
    (component host c scope).outcome = Render.component host c scope := by
  induction c using Component.tree_induction generalizing scope with
  | step own children ih =>
    rw [component, Render.component]
    exact outcome_expand scope (outcome_below ih)

end Tracked

end UiSchema
