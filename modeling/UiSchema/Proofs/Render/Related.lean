import UiSchema.Proofs.Schema.Tree
import UiSchema.Render

/-! Rendering in two scopes. A renderer reads its scope at a few places of each component; if none
of these can tell two scopes apart, and loops do not take them apart either, the nodes are the
same. -/

set_option autoImplicit false

namespace UiSchema

/-- The reader cannot tell related scopes apart. -/
def Blind {α : Type} (related : Scope → Scope → Prop) (read : Scope → α) : Prop :=
  ∀ s t, related s t → read s = read t

/-- Related scopes stay related in each round of a loop. -/
def Lasting (related : Scope → Scope → Prop) : Prop :=
  ∀ s t, related s t → ∀ itemName indexName item index,
    related (s.enter itemName indexName item index) (t.enter itemName indexName item index)

/-- No place where a component reads its scope tells related scopes apart. An empty text, condition
or binding is not read. -/
structure Attributes.Blind (related : Scope → Scope → Prop) (own : Attributes) : Prop where
  condition : ∀ e ∈ own.condition, e ≠ "" →
    UiSchema.Blind related fun scope => Binding.value? (Binding.unwrap e) scope.root
  binding : ∀ e ∈ own.binding, e ≠ "" →
    UiSchema.Blind related fun scope => Binding.value? (Binding.unwrap e) scope.root
  source : ∀ loop ∈ own.loop,
    UiSchema.Blind related fun scope => Binding.value? (Binding.unwrap loop.source) scope.root
  text : ∀ t ∈ own.text, t ≠ "" →
    UiSchema.Blind related fun scope => Binding.interpolate t scope.root
  props : UiSchema.Blind related fun scope =>
    Binding.resolveMembers scope.root (own.props.getD [])

namespace Render

variable {related : Scope → Scope → Prop} {own : Attributes}

theorem passes_blind (blind : own.Blind related) : Blind related (passes own) := by
  intro s t both
  rw [passes, passes]
  cases given : own.condition with
  | none => rfl
  | some condition =>
    by_cases empty : condition = ""
    · simp [empty]
    · have same := blind.condition condition given empty s t both
      simp only [Binding.holds, same]

theorem items_blind (blind : own.Blind related) {loop : Loop} (given : own.loop = some loop) :
    Blind related fun scope => loop.items scope.root := by
  intro s t both
  have same := blind.source loop given s t both
  simp only [Loop.items, same]

theorem ownContent_blind (blind : own.Blind related) : Blind related (ownContent own) := by
  intro s t both
  rw [ownContent, ownContent]
  cases text : own.text.filter (!·.isEmpty) with
  | some shown =>
    obtain ⟨given, visible⟩ := Option.filter_eq_some_iff.1 text
    have same := blind.text shown given (by simpa using visible) s t both
    simp only [same]
  | none =>
    cases binding : own.binding.filter (!·.isEmpty) with
    | none => rfl
    | some e =>
      obtain ⟨given, visible⟩ := Option.filter_eq_some_iff.1 binding
      have same := blind.binding e given (by simpa using visible) s t both
      simp only [same]

theorem propsOf_blind (blind : own.Blind related) (definition : Definition) (signals : Bool) :
    Blind related fun scope => propsOf definition own signals scope.root := by
  intro s t both
  have same := blind.props s t both
  simp only [propsOf, same]

variable {host : Host} {under : Scope → Outcome (Option (List Node))}

theorem single_blind (blind : own.Blind related) (inside : Blind related under) :
    Blind related (single host own under) := by
  intro s t both
  have sameElement : element host own under s = element host own under t := by
    rw [element, element]
    cases host.registry.get? own.type with
    | none => rfl
    | some definition =>
      have sameProps := propsOf_blind blind definition host.signals s t both
      simp only [sameProps, inside s t both, ownContent_blind blind s t both]
  rw [single, single, passes_blind blind s t both, sameElement]

/-- A round reads what the component reads, its loop apart. -/
theorem round_blind (blind : own.Blind related) (index : Nat) : (round own index).Blind related :=
  ⟨blind.condition, blind.binding, nofun, blind.text, blind.props⟩

theorem siblings_blind {children : List Component}
    (each : ∀ child ∈ children, Blind related (component host child)) :
    Blind related (siblings host children) := by
  intro s t both
  induction children with
  | nil => rfl
  | cons child rest ih =>
    obtain ⟨here, others⟩ := List.forall_mem_cons.1 each
    rw [siblings, siblings, here s t both, ih others]

theorem below_blind {children : Option (List Component)}
    (each : ∀ child ∈ children.getD [], Blind related (component host child)) :
    Blind related (below host children) := by
  intro s t both
  cases children with
  | none => rfl
  | some children =>
    have same : siblings host children s = siblings host children t := siblings_blind each s t both
    rw [below, below, same]

variable (lasting : Lasting related)
include lasting

theorem allRounds_blind (blind : own.Blind related) (inside : Blind related under) (loop : Loop)
    (index : Nat) (items : List Json) :
    Blind related fun scope => allRounds host own under scope loop index items := by
  intro s t both
  induction items generalizing index with
  | nil => rfl
  | cons item rest ih =>
    have entered := lasting s t both loop.itemVariable loop.indexVariable item index
    have inRound : Blind related (single host (round own index) under) :=
      single_blind (round_blind blind index) inside
    have others := ih (index + 1)
    simp only [allRounds, inRound _ _ entered, others]

theorem expand_blind (blind : own.Blind related) (inside : Blind related under) :
    Blind related (expand host own under) := by
  intro s t both
  rw [expand, expand]
  cases given : own.loop with
  | none => exact single_blind blind inside s t both
  | some loop =>
    have sameItems := items_blind blind given s t both
    have sameRounds (items : List Json) :
        allRounds host own under s loop 0 items = allRounds host own under t loop 0 items :=
      allRounds_blind lasting blind inside loop 0 items s t both
    simp only [passes_blind blind s t both, sameItems, sameRounds]

/-- A tree whose components all are blind to the difference has the same node in related scopes. -/
theorem component_blind (host : Host) (c : Component)
    (blind : ∀ d ∈ c.subtree, d.own.Blind related) : Blind related (component host c) := by
  induction c using Component.tree_induction with
  | step own children ih =>
    obtain ⟨here, inChildren⟩ := Component.forall_mem_subtree_mk.1 blind
    have inside : Blind related (below host children) :=
      below_blind fun child member => ih child member (inChildren child member)
    intro s t both
    rw [component, component]
    exact expand_blind lasting here inside s t both

end Render

end UiSchema
