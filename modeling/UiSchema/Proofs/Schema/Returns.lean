import UiSchema.Proofs.Path.Overlong
import UiSchema.Proofs.Schema.Check
import UiSchema.Stream

/-! When the check of a document comes back with its issues: exactly where no expression that it
reads has an index with too many digits. Malformed expressions are issues like all others. -/

set_option autoImplicit false

namespace UiSchema

open UiSchema.Outcome

/-- The expression is no path that begins with an overlong index. -/
def Binding.Short (expression : String) : Prop := ¬ Path.Overlong (unwrap expression)

namespace Schema

variable {members : Entries Json} {path : String}

/-- The text in a field. -/
def textIn (members : Entries Json) (field : String) : List String :=
  match members.get? field with
  | some (.str text) => [text]
  | _ => []

/-- The source of the loop in a component document, if it says something. -/
def sourceIn (members : Entries Json) : List String :=
  match Json.present? members "loop" with
  | some (.object loop) => (text? loop "source").toList
  | _ => []

def ownExpressions (members : Entries Json) : List String :=
  textIn members "binding" ++ textIn members "condition" ++ sourceIn members

/-- The expression stands in a component document or below it. -/
inductive Reads : Json → String → Prop where
  | own {members : Entries Json} {e : String} (here : e ∈ ownExpressions members) :
    Reads (.object members) e
  | child {members : Entries Json} {items : List Json} {item : Json} {e : String}
    (children : members.get? "children" = some (.array items)) (member : item ∈ items)
    (below : Reads item e) : Reads (.object members) e

/-- The expression stands in the root of a schema document or below it. -/
def DocumentReads (document : Json) (e : String) : Prop :=
  ∃ members root, document = .object members ∧ Entries.get? members "root" = some root ∧
    Reads root e

theorem checkExpression_returns {text : String} :
    Returns (checkExpression text path) ↔ Binding.Short text := by
  unfold checkExpression Binding.Short
  cases parsed : Path.parse (Binding.unwrap text) with
  | error overflow =>
    exact iff_of_false (not_returns_error _) (not_not.2 (Path.overlong_of_parse parsed))
  | ok read =>
    refine iff_of_true ?_ (Path.not_overlong_of_parse parsed)
    cases read <;> exact returns_ok _

theorem checkExpressionField_returns {field : String} :
    Returns (checkExpressionField members field path) ↔
      ∀ e ∈ textIn members field, Binding.Short e := by
  unfold checkExpressionField textIn
  cases members.get? field with
  | none => exact iff_of_true (returns_ok _) nofun
  | some value =>
    cases value with
    | str text => simpa using checkExpression_returns
    | _ => exact iff_of_true (returns_ok _) nofun

theorem checkSource_returns {loop : Entries Json} :
    Returns (checkSource loop path) ↔ ∀ e ∈ (text? loop "source").toList, Binding.Short e := by
  unfold checkSource
  cases text? loop "source" with
  | none => exact iff_of_true (returns_ok _) nofun
  | some text => simpa using checkExpression_returns

theorem checkLoopField_returns :
    Returns (checkLoopField members path) ↔ ∀ e ∈ sourceIn members, Binding.Short e := by
  unfold checkLoopField sourceIn
  cases Json.present? members "loop" with
  | none => exact iff_of_true (returns_ok _) nofun
  | some loop =>
    cases loop with
    | object inner => exact returns_map checkSource_returns
    | _ => exact iff_of_true (returns_ok _) nofun

theorem checkOwn_returns {seen : List String} :
    Returns (checkOwn path seen members) ↔ ∀ e ∈ ownExpressions members, Binding.Short e := by
  unfold checkOwn ownExpressions
  rw [List.forall_mem_append, List.forall_mem_append, and_assoc]
  exact returns_bind checkExpressionField_returns fun _ =>
    returns_bind checkExpressionField_returns fun _ => returns_map checkLoopField_returns

theorem checkItems_returns {items : List Json} {index : Nat} {seen : List String}
    (each : ∀ item ∈ items, ∀ (path : String) (seen : List String),
      Returns (checkComponent path seen item) ↔ ∀ e, Reads item e → Binding.Short e) :
    Returns (checkItems path index seen items) ↔
      ∀ item ∈ items, ∀ e, Reads item e → Binding.Short e := by
  induction items generalizing index seen with
  | nil => exact iff_of_true (returns_ok _) nofun
  | cons item rest ih =>
    obtain ⟨first, others⟩ := List.forall_mem_cons.1 each
    rw [checkItems, List.forall_mem_cons]
    exact returns_bind (first _ _) fun found => returns_map (ih others)

theorem checkChildren_returns {value : Json} {seen : List String}
    (each : ∀ items, value = .array items → ∀ item ∈ items, ∀ (path : String) (seen : List String),
      Returns (checkComponent path seen item) ↔ ∀ e, Reads item e → Binding.Short e) :
    Returns (checkChildren path seen value) ↔
      ∀ items, value = .array items → ∀ item ∈ items, ∀ e, Reads item e → Binding.Short e := by
  cases value with
  | array items => simpa [checkChildren] using checkItems_returns (each items rfl)
  | _ => exact iff_of_true (returns_ok _) (by simp)

/-- The check of a component comes back unless an expression in its tree has an overlong index. -/
theorem checkComponent_returns (value : Json) (path : String) (seen : List String) :
    Returns (checkComponent path seen value) ↔ ∀ e, Reads value e → Binding.Short e := by
  induction value using Json.component_induction generalizing path seen with
  | step value ih =>
    cases value with
    | object members =>
      have children : Returns (checkChildrenIn path (remember seen members) members) ↔
          ∀ items, Entries.get? members "children" = some (.array items) →
            ∀ item ∈ items, ∀ e, Reads item e → Binding.Short e := by
        rw [checkChildrenIn_eq]
        cases given : Entries.get? members "children" with
        | none => exact iff_of_true (returns_ok _) (by simp)
        | some value =>
          simp only [Option.some.injEq]
          refine checkChildren_returns fun items same item member path seen => ?_
          exact ih members items rfl (same ▸ given) item member path seen
      rw [checkComponent]
      refine (returns_bind checkOwn_returns fun _ => returns_map children).trans ?_
      constructor
      · rintro ⟨own, below⟩ e read
        cases read with
        | own here => exact own e here
        | child given member inItem => exact below _ given _ member e inItem
      · intro all
        exact ⟨fun e here => all e (.own here), fun items given item member e inItem =>
          all e (.child given member inItem)⟩
    | _ =>
      refine iff_of_true (returns_ok _) ?_
      rintro e ⟨⟩

theorem check_returns (document : Json) :
    Returns (check document) ↔ ∀ e, DocumentReads document e → Binding.Short e := by
  cases document with
  | object members =>
    have root : Returns (checkRoot members) ↔
        ∀ e, DocumentReads (.object members) e → Binding.Short e := by
      unfold checkRoot
      cases given : Entries.get? members "root" with
      | none =>
        refine iff_of_true (returns_ok _) ?_
        rintro e ⟨_, root, ⟨rfl⟩, found, _⟩
        cases given.symm.trans found
      | some root =>
        refine (returns_map (checkComponent_returns root "root" [])).trans ?_
        constructor
        · rintro each e ⟨_, root', ⟨rfl⟩, found, read⟩
          cases given.symm.trans found
          exact each e read
        · exact fun each e read => each e ⟨members, root, rfl, given, read⟩
    exact returns_map root
  | _ =>
    refine iff_of_true (returns_ok _) ?_
    rintro e ⟨_, _, ⟨⟩, _⟩

/-- A version is no expression, so it makes no difference whether it is given. -/
theorem documentReads_withVersion {settings : Settings} {document : Json} {e : String} :
    DocumentReads (withVersion settings document) e ↔ DocumentReads document e := by
  cases document with
  | object members =>
    rw [withVersion]
    split
    · rfl
    · have root (version : Json) :
          Entries.get? (Entries.put members "version" version) "root" =
            Entries.get? members "root" := by
        rw [Entries.get?_put, if_neg (by decide)]
      simp [DocumentReads, root]
  | _ => rfl

variable {settings : Settings}

/-- A candidate with the outline of a schema that is not too deep, and has an index with too many
digits in an expression. -/
def Stumbles (settings : Settings) (block : Json.Block) : Prop :=
  ∃ document, Json.load block.content false = .ok document ∧ looksLike document = true ∧
    (withVersion settings document).depth ≤ settings.maxSchemaDepth ∧
    ∃ e, DocumentReads document e ∧ Path.Overlong (Binding.unwrap e)

theorem validate_returns (document : Json) :
    Returns (validate settings document) ↔
      (document.depth ≤ settings.maxSchemaDepth →
        ∀ e, DocumentReads document e → Binding.Short e) := by
  unfold validate Json.checkDepth
  split
  · rename_i deep
    split at deep
    · exact iff_of_true (returns_ok _) fun shallow => by omega
    · cases deep
  · rename_i shallow
    split at shallow
    · cases shallow
    · rename_i small
      refine (returns_bind_total (check_returns document) fun issues => ?_).trans ?_
      · cases issues with
        | nil => cases decode document <;> exact returns_ok _
        | cons issue rest => exact returns_ok _
      · have fits : document.depth ≤ settings.maxSchemaDepth := by omega
        exact (imp_iff_right fits).symm

theorem ofBlock?_returns (block : Json.Block) :
    Returns (ofBlock? settings block) ↔ ¬ Stumbles settings block := by
  unfold ofBlock? Stumbles
  cases loaded : Json.load block.content false with
  | error cause => exact iff_of_true (returns_ok _) (by simp)
  | ok document =>
    dsimp only
    by_cases looks : looksLike document = true
    · rw [if_pos looks]
      refine (returns_map (validate_returns _)).trans ?_
      simp [looks, documentReads_withVersion, Binding.Short]
    · rw [if_neg looks]
      exact iff_of_true (returns_ok _) (by simp [looks])

/-- Among the candidates of a text the first one that is not passed over stumbles. -/
def BlocksStumble (settings : Settings) (blocks : List Json.Block) : Prop :=
  ∃ before block after, blocks = before ++ block :: after ∧
    (∀ other ∈ before, ofBlock? settings other = .ok none) ∧ Stumbles settings block

theorem blocksStumble_cons {block : Json.Block} {rest : List Json.Block} :
    BlocksStumble settings (block :: rest) ↔
      Stumbles settings block ∨
        ofBlock? settings block = .ok none ∧ BlocksStumble settings rest := by
  constructor
  · rintro ⟨before, other, after, same, passed, stumbles⟩
    cases before with
    | nil =>
      cases same
      exact .inl stumbles
    | cons first before =>
      cases same
      obtain ⟨here, passed⟩ := List.forall_mem_cons.1 passed
      exact .inr ⟨here, before, other, after, rfl, passed, stumbles⟩
  · rintro (stumbles | ⟨here, before, other, after, rfl, passed, stumbles⟩)
    · exact ⟨[], block, rest, rfl, List.forall_mem_nil _, stumbles⟩
    · exact ⟨block :: before, other, after, rfl, List.forall_mem_cons.2 ⟨here, passed⟩, stumbles⟩

theorem firstOf?_returns (blocks : List Json.Block) :
    Returns (firstOf? settings blocks) ↔ ¬ BlocksStumble settings blocks := by
  induction blocks with
  | nil => exact iff_of_true (returns_ok _) (by simp [BlocksStumble])
  | cons block rest ih =>
    have here : Returns (ofBlock? settings block) ↔ ¬ Stumbles settings block :=
      ofBlock?_returns block
    rw [firstOf?, blocksStumble_cons]
    cases read : ofBlock? settings block with
    | error overflow =>
      rw [read] at here
      have stumbles := not_not.1 (here.not.1 (not_returns_error overflow))
      exact iff_of_false (not_returns_error overflow) (not_not.2 (.inl stumbles))
    | ok found =>
      rw [read] at here
      have passes := here.1 (returns_ok found)
      cases found with
      | some schema => exact iff_of_true (returns_ok _) (by simp [passes])
      | none => exact ih.trans (by simp [passes])

/-- The text is looked at, and a candidate in it stumbles before a schema is found. -/
def TextStumbles (settings : Settings) (text : String) : Prop :=
  '\x7b' ∈ text.toList ∧ text.utf8ByteSize ≤ settings.maxSchemaSize ∧
    BlocksStumble settings (Json.blocks text)

/-- Looking for a schema comes back with one or with nothing, unless the text stumbles. -/
theorem extract?_returns (text : String) :
    Returns (extract? settings text) ↔ ¬ TextStumbles settings text := by
  rw [extract?_eq, TextStumbles, ← and_assoc]
  by_cases looked : '\x7b' ∈ text.toList ∧ text.utf8ByteSize ≤ settings.maxSchemaSize
  · rw [if_pos looked]
    exact (firstOf?_returns _).trans (not_congr (and_iff_right looked).symm)
  · rw [if_neg looked]
    exact iff_of_true (returns_ok _) fun both => looked both.1

end Schema

end UiSchema
