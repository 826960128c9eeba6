import UiSchema.Proofs.Path.Followed
import UiSchema.Proofs.Render.Related

/-! Rendering over two documents. A renderer reads the data at a few places of each component; if
none of these can tell the documents apart, whatever the loop variables, the nodes are the same. -/

set_option autoImplicit false

namespace UiSchema

/-- The scope of a document within some loops. -/
def Scope.over (members overlay : Entries Json) : Scope := { data := .object members, overlay }

/-- The reader cannot tell the documents apart, whatever the loop variables. -/
def Alike {α : Type} (first second : Entries Json) (read : Scope → α) : Prop :=
  ∀ overlay, read (.over first overlay) = read (.over second overlay)

namespace Path

/-- A path leads to the same value in both documents, or nowhere in either. -/
def Agree (expression : String) (first second : Json) : Prop :=
  (∃ value, resolveText expression first = .ok (.ok value) ∧
    resolveText expression second = .ok (.ok value)) ∨
  (∃ miss other, resolveText expression first = .ok (.error (.miss miss)) ∧
    resolveText expression second = .ok (.error (.miss other)))

theorem Agree.value?_eq {expression : String} {first second : Json}
    (agree : Agree expression first second) :
    Binding.value? expression first = Binding.value? expression second := by
  rw [Binding.value?, Binding.value?]
  rcases agree with ⟨value, inFirst, inSecond⟩ | ⟨miss, other, inFirst, inSecond⟩
  · rw [inFirst, inSecond]
  · rw [inFirst, inSecond]
    rfl

/-- The first segment of a path decides who answers: a loop variable, whatever the data, or the
data, whatever the loop variables. -/
theorem resolve_over {path : Path} (nonempty : path ≠ []) (overlay : Entries Json) :
    (∃ found, ∀ members, path.get? (Scope.over members overlay).root = found) ∨
    ∀ members, path.get? (Scope.over members overlay).root = path.get? (.object members) := by
  cases path with
  | nil => exact absurd rfl nonempty
  | cons segment rest =>
    cases overlay with
    | nil => exact .inr fun _ => rfl -- outside of loops the scope is the document
    | cons e overlay =>
      have root (members : Entries Json) : (Scope.over members (e :: overlay)).root =
          .object (members.putAll (e :: overlay)) := rfl
      cases segment with
      | index i => exact .inl ⟨none, fun _ => rfl⟩
      | name key =>
        have looked (members : Entries Json) := Entries.get?_putAll_eq members (e :: overlay) key
        cases given : Entries.get? (e :: overlay).reverse key with
        | some item =>
          refine .inl ⟨get? rest item, fun members => ?_⟩
          have inLoop : Entries.get? (members.putAll (e :: overlay)) key = some item := by
            rw [looked, given]
            rfl
          rw [root, get?_cons, follow, inLoop]
          rfl
        | none =>
          refine .inr fun members => ?_
          have member : Entries.get? (members.putAll (e :: overlay)) key = members.get? key := by
            rw [looked, given]
            rfl
          rw [root, get?_cons, get?_cons, follow, follow, member]

/-- Documents that agree on a path are alike to it, also where a loop variable hides them. -/
theorem Agree.alike {expression : String} {first second : Entries Json}
    (agree : Agree expression (.object first) (.object second)) :
    Alike first second fun scope => Binding.value? expression scope.root := by
  intro overlay
  have same := agree.value?_eq
  cases parsed : parse expression with
  | error raised => simp only [Binding.value?_of_raised parsed]
  | ok read =>
    rw [Binding.value?_of_parse parsed, Binding.value?_of_parse parsed] at same
    simp only [Binding.value?_of_parse parsed]
    cases read with
    | error cause => rfl
    | ok path =>
      show Except.ok (path.get? _) = Except.ok (path.get? _)
      rcases resolve_over (parse_ne_nil parsed) overlay with ⟨found, hidden⟩ | visible
      · rw [hidden, hidden]
      · rw [visible, visible]
        exact same

end Path

/-- Every place where a component reads data finds the documents alike. An empty text, condition or
binding is not read. -/
structure Attributes.Alike (first second : Entries Json) (own : Attributes) : Prop where
  condition : ∀ e ∈ own.condition, e ≠ "" →
    UiSchema.Alike first second fun scope => Binding.value? (Binding.unwrap e) scope.root
  binding : ∀ e ∈ own.binding, e ≠ "" →
    UiSchema.Alike first second fun scope => Binding.value? (Binding.unwrap e) scope.root
  source : ∀ loop ∈ own.loop,
    UiSchema.Alike first second fun scope => Binding.value? (Binding.unwrap loop.source) scope.root
  text : ∀ t ∈ own.text, t ≠ "" →
    UiSchema.Alike first second fun scope => Binding.interpolate t scope.root
  props : UiSchema.Alike first second fun scope =>
    Binding.resolveMembers scope.root (own.props.getD [])

/-- The scopes of two documents with the same loop variables. -/
def OverSame (first second : Entries Json) (s t : Scope) : Prop :=
  ∃ overlay, s = .over first overlay ∧ t = .over second overlay

theorem Alike.blind {α : Type} {first second : Entries Json} {read : Scope → α}
    (alike : Alike first second read) : Blind (OverSame first second) read := by
  rintro _ _ ⟨overlay, rfl, rfl⟩
  exact alike overlay

/-- A round adds loop variables to the scope and leaves the document. -/
theorem overSame_lasting (first second : Entries Json) : Lasting (OverSame first second) := by
  rintro _ _ ⟨overlay, rfl, rfl⟩ itemName indexName item index
  exact ⟨_, rfl, rfl⟩

theorem Attributes.Alike.blind {first second : Entries Json} {own : Attributes}
    (alike : own.Alike first second) : own.Blind (OverSame first second) where
  condition := fun e given some => (alike.condition e given some).blind
  binding := fun e given some => (alike.binding e given some).blind
  source := fun loop given => (alike.source loop given).blind
  text := fun t given some => (alike.text t given some).blind
  props := alike.props.blind

/-- A tree whose components all find the documents alike has the same node over both. -/
theorem Render.component_alike {first second : Entries Json} (host : Host) (c : Component)
    (alike : ∀ d ∈ c.subtree, d.own.Alike first second) :
    Alike first second (component host c) := by
  have blind := component_blind (overSame_lasting first second) host c
    fun d member => (alike d member).blind
  exact fun overlay => blind _ _ ⟨overlay, rfl, rfl⟩

end UiSchema
