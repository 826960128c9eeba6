import UiSchema.Proofs.Binding.Shown
import UiSchema.Render

/-! Data within limits. When all its whole numbers can be written, and no array is so long that an
index cannot, then whatever a renderer finds in it can be displayed, in every round of every loop. -/

set_option autoImplicit false

namespace UiSchema

/-- Every whole number has few digits, and so has the index of every item. -/
inductive Json.Modest : Json → Prop where
  | null : Modest .null
  | bool (value : Bool) : Modest (.bool value)
  | int {value : Int} (short : value.natAbs < 10 ^ mostDigits) : Modest (.int value)
  | float (value : Float) : Modest (.float value)
  | str (text : String) : Modest (.str text)
  | array {items : List Json} (count : items.length ≤ 10 ^ mostDigits)
      (each : ∀ item ∈ items, Modest item) : Modest (.array items)
  | object {members : Entries Json} (each : ∀ member ∈ members, Modest member.2) :
      Modest (.object members)

namespace Json.Modest

theorem fitsText {v : Json} (modest : v.Modest) : v.fitsText = true := by
  induction modest with
  | null | bool | float | str => rfl
  | int short =>
    refine fitsText_iff.2 fun value member => ?_
    cases List.mem_singleton.1 member
    exact short
  | array _ _ ih => exact fitsText_array.2 ih
  | object _ ih => exact fitsText_object.2 ih

theorem members {data : Json} (modest : data.Modest) :
    ∀ member ∈ data.members?.getD [], member.2.Modest := by
  cases modest with
  | object each => exact each
  | _ => nofun

theorem follow {root next : Json} {segment : Segment} (modest : root.Modest)
    (step : Path.follow root segment = .ok next) : next.Modest := by
  cases modest with
  | object each =>
    obtain ⟨member, inside⟩ := Path.mem_of_follow_object step
    exact each _ inside
  | array _ each => exact each next (Path.mem_of_follow_array step)
  | _ => cases segment <;> cases step

theorem get? {path : Path} {root value : Json} (modest : root.Modest)
    (found : path.get? root = some value) : value.Modest := by
  induction path generalizing root with
  | nil =>
    cases found
    exact modest
  | cons segment rest ih =>
    obtain ⟨next, step, leads⟩ := Path.get?_cons_eq_some.1 found
    exact ih (modest.follow step) leads

theorem find? {expression : String} {root value : Json} (modest : root.Modest)
    (found : Path.find? expression root = some value) : value.Modest := by
  obtain ⟨path, -, leads⟩ := Path.resolveText_eq_value.1 (Path.find?_eq_some.1 found)
  exact modest.get? leads

/-- What a loop runs over is modest item by item, and can be counted. -/
theorem itemsOf {found : Option Json} (modest : ∀ value, found = some value → value.Modest) :
    (∀ item ∈ Loop.itemsOf found, item.Modest) ∧
      (Loop.itemsOf found).length ≤ 10 ^ mostDigits := by
  unfold Loop.itemsOf
  split
  · cases modest _ rfl with
    | array count each => exact ⟨each, count⟩
  · exact ⟨nofun, Nat.zero_le _⟩

end Json.Modest

namespace Scope

/-- The data and all loop variables are modest. -/
structure Modest (s : Scope) : Prop where
  data : s.data.Modest
  overlay : ∀ entry ∈ s.overlay, entry.2.Modest

theorem Modest.root {s : Scope} (modest : s.Modest) : s.root.Modest := by
  unfold Scope.root
  split
  · exact modest.data
  · exact .object fun member inside => (Entries.mem_putAll inside).elim
      (modest.data.members member) (modest.overlay member)

theorem Modest.enter {s : Scope} (modest : s.Modest) {itemName indexName : String} {item : Json}
    {index : Nat} (ofItem : item.Modest) (few : index < 10 ^ mostDigits) :
    (s.enter itemName indexName item index).Modest where
  data := modest.data
  overlay entry inside := by
    rcases Entries.mem_put inside with rfl | inside
    · exact .int few
    · rcases Entries.mem_put inside with rfl | inside
      · exact ofItem
      · exact modest.overlay entry inside

end Scope

end UiSchema
