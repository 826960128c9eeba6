import UiSchema.Proofs.Path.Parser
import UiSchema.Schema.Check

/-! Well-formed schema documents, said without the check: what every field may hold, and ids that
are unique over the whole tree. -/

set_option autoImplicit false

namespace UiSchema.Schema

/-- A field holds a text with something to see in it. -/
def HasText (members : Entries Json) (field : String) : Prop :=
  ∃ text, members.get? field = some (.str text) ∧ Text.Visible text

/-- A field may be left out or null; what it holds otherwise satisfies the condition. -/
def Allows (members : Entries Json) (field : String) (condition : Json → Prop) : Prop :=
  ∀ value, Json.present? members field = some value → condition value

def IsObject (value : Json) : Prop := ∃ members, value = .object members

def IsText (value : Json) : Prop := ∃ text, value = .str text

def IsExpression (value : Json) : Prop := ∃ text, value = .str text ∧ Binding.Readable text

def IsName (value : Json) : Prop := ∃ text, value = .str text ∧ Text.Visible text

inductive IsEvent : Json → Prop where
  | mk {members : Entries Json} (event : HasText members "event")
      (action : HasText members "action") : IsEvent (.object members)

inductive IsLoop : Json → Prop where
  | mk {members : Entries Json} {source : String}
      (given : members.get? "source" = some (.str source))
      (visible : Text.Visible source) (readable : Binding.Readable source)
      (itemName : Allows members "itemName" IsName)
      (indexName : Allows members "indexName" IsName) : IsLoop (.object members)

def IsEvents (value : Json) : Prop := ∃ events, value = .array events ∧ ∀ e ∈ events, IsEvent e

/-- The fields of a component, its children apart. -/
structure OwnFields (members : Entries Json) : Prop where
  id : HasText members "id"
  type : HasText members "type"
  props : Allows members "props" IsObject
  style : Allows members "style" IsObject
  text : Allows members "text" IsText
  binding : Allows members "binding" IsExpression
  condition : Allows members "condition" IsExpression
  events : Allows members "events" IsEvents
  loop : Allows members "loop" IsLoop

inductive IsComponent : Json → Prop where
  | mk {members : Entries Json} (own : OwnFields members)
      (list : Allows members "children" fun value => ∃ items, value = .array items)
      (each : ∀ items, members.get? "children" = some (.array items) →
        ∀ item ∈ items, IsComponent item) : IsComponent (.object members)

mutual

/-- The ids in a component document, each before those of the children. -/
def componentIds : Json → List String
  | .object members => (text? members "id").toList ++ childIdsIn members
  | _ => []

def childIdsIn : List (String × Json) → List String
  | [] => []
  | (key, value) :: rest => if key = "children" then childIds value else childIdsIn rest

def childIds : Json → List String
  | .array items => itemIds items
  | _ => []

def itemIds : List Json → List String
  | [] => []
  | item :: rest => componentIds item ++ itemIds rest

end

inductive IsDocument : Json → Prop where
  | mk {members : Entries Json} {root : Json} (version : HasText members "version")
      (given : members.get? "root" = some root) (component : IsComponent root)
      (ids : (componentIds root).Nodup) (data : Allows members "data" IsObject)
      (metadata : Allows members "meta" IsObject) : IsDocument (.object members)

theorem childIdsIn_eq (members : Entries Json) :
    childIdsIn members = ((members.get? "children").map childIds).getD [] := by
  induction members with
  | nil => rfl
  | cons e rest ih =>
    obtain ⟨key, value⟩ := e
    rw [childIdsIn, Entries.get?_cons, ih]
    split <;> rfl

theorem itemIds_eq (items : List Json) : itemIds items = items.flatMap componentIds := by
  induction items with
  | nil => rfl
  | cons item rest ih => rw [itemIds, ih, List.flatMap_cons]

theorem text?_eq_some_iff (members : Entries Json) (field text : String) :
    text? members field = some text ↔
      members.get? field = some (.str text) ∧ Text.Visible text := by
  rw [text?, ← Text.isBlankText_eq_false_iff]
  split
  · rename_i found given
    simp only [given, Option.some.injEq, Json.str.injEq]
    cases blank : Text.isBlankText found with
    | true =>
      simp only [if_true, reduceCtorEq, false_iff, not_and]
      rintro rfl
      simp [blank]
    | false =>
      simp only [Bool.false_eq_true, if_false, Option.some.injEq]
      exact ⟨fun same => ⟨same, same ▸ blank⟩, fun both => both.1⟩
  · rename_i other
    simp only [reduceCtorEq, false_iff, not_and]
    intro given
    exact absurd given (other text)

theorem hasText_iff (members : Entries Json) (field : String) :
    HasText members field ↔ ∃ text, text? members field = some text := by
  simp only [HasText, text?_eq_some_iff]

theorem present?_eq_some_iff (members : Entries Json) (field : String) (value : Json) :
    Json.present? members field = some value ↔
      members.get? field = some value ∧ value ≠ .null := by
  rw [Json.present?]
  split
  · rename_i absent
    simp [absent]
  · rename_i null
    simp only [null, reduceCtorEq, Option.some.injEq, false_iff, not_and, not_not]
    exact fun same => same.symm
  · rename_i found notNull given
    simp only [given, Option.some.injEq]
    constructor
    · rintro rfl
      exact ⟨rfl, notNull⟩
    · exact fun both => both.1

end UiSchema.Schema

namespace UiSchema

theorem Entries.sizeOf_lt_of_get? {members : Entries Json} {key : String} {value : Json}
    (found : members.get? key = some value) : sizeOf value < sizeOf members := by
  induction members with
  | nil => cases found
  | cons e rest ih =>
    obtain ⟨k, v⟩ := e
    rw [Entries.get?_cons] at found
    split at found
    · cases found
      simp only [List.cons.sizeOf_spec, Prod.mk.sizeOf_spec]
      omega
    · have := ih found
      simp only [List.cons.sizeOf_spec]
      omega

/-- Induction over a component document: what holds of a value if it holds of all its children
holds of every value. -/
theorem Json.component_induction {P : Json → Prop}
    (step : ∀ value, (∀ members items, value = .object members →
      Entries.get? members "children" = some (.array items) → ∀ item ∈ items, P item) → P value)
    (value : Json) : P value := by
  apply step
  intro members items same found item member
  exact Json.component_induction step item
termination_by sizeOf value
decreasing_by
  subst same
  have inItems := List.sizeOf_lt_of_mem member
  have inMembers := Entries.sizeOf_lt_of_get? found
  simp only [Json.array.sizeOf_spec, Json.object.sizeOf_spec] at inMembers ⊢
  omega

end UiSchema
