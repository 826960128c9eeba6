import UiSchema.Proofs.Json.Reading

/-! Equality of documents compares numbers by their values and members in any order. Every document
is equal to itself, whatever numbers stand in it. -/

set_option autoImplicit false

namespace UiSchema

/-- A number is equal to itself, if it is one. -/
theorem beq_self_or_isNaN (x : Float) : (x == x || x.isNaN) = true := by
  show (x.toModel.unpack.beq x.toModel.unpack || x.toModel.unpack.isNaN) = true
  cases x.toModel.unpack with
  | infinity sign => cases sign <;> rfl
  | notANumber => rfl
  | zero sign => cases sign <;> rfl
  | finite sign mantissa exponent positive =>
    have equal : (compare exponent exponent).then (compare mantissa mantissa) = .eq := by
      rw [Std.ReflOrd.compare_self, Std.ReflOrd.compare_self]
      rfl
    cases sign with
    | negative => exact congrArg (fun order => some order.swap == some .eq || false) equal
    | positive => exact congrArg (fun order => some order == some .eq || false) equal

namespace Json

/-- What holds of arrays and objects whenever it holds of all that stands in them, and of all that
is neither, holds of every document. -/
theorem nested_induction {P : Json → Prop} (null : P .null) (bool : ∀ value, P (.bool value))
    (int : ∀ value, P (.int value)) (float : ∀ value, P (.float value))
    (str : ∀ text, P (.str text))
    (array : ∀ items, (∀ item ∈ items, P item) → P (.array items))
    (object : ∀ members : Entries Json, (∀ member ∈ members, P member.2) → P (.object members))
    (v : Json) : P v := by
  cases v with
  | null => exact null
  | bool value => exact bool value
  | int value => exact int value
  | float value => exact float value
  | str text => exact str text
  | array items =>
    exact array items fun item inside =>
      nested_induction null bool int float str array object item
  | object members =>
    exact object members fun member inside =>
      nested_induction null bool int float str array object member.2
termination_by sizeOf v
decreasing_by
  · have smaller := List.sizeOf_lt_of_mem inside
    simp only [Json.array.sizeOf_spec]
    omega
  · have smaller := List.sizeOf_lt_of_mem inside
    obtain ⟨key, value⟩ := member
    simp only [Prod.mk.sizeOf_spec] at smaller
    simp only [Json.object.sizeOf_spec]
    omega

theorem Number.same_self (n : Number) : n.same n = true := by
  cases n with
  | whole value => exact beq_self_eq_true value
  | float value =>
    rw [Number.same, Bool.and_self]
    exact beq_self_or_isNaN value

theorem sameItems_self {items : List Json} (each : ∀ item ∈ items, item.same item = true) :
    sameItems items items = true := by
  induction items with
  | nil => rfl
  | cons item rest ih =>
    obtain ⟨here, others⟩ := List.forall_mem_cons.1 each
    rw [sameItems, here, ih others, Bool.and_self]

theorem sameMembers_of_found {members all : Entries Json}
    (found : ∀ member ∈ members, all.get? member.1 = some member.2)
    (each : ∀ member ∈ members, member.2.same member.2 = true) :
    sameMembers members all = true := by
  induction members with
  | nil => rfl
  | cons member rest ih =>
    obtain ⟨key, value⟩ := member
    obtain ⟨found, foundRest⟩ := List.forall_mem_cons.1 found
    obtain ⟨here, others⟩ := List.forall_mem_cons.1 each
    rw [sameMembers, found, ih foundRest others, Bool.and_true]
    exact here

/-- Members are looked up by their keys, so no key may stand there twice. -/
theorem same_self {v : Json} (keyed : v.Keyed) : v.same v = true := by
  induction v using nested_induction with
  | null => rfl
  | bool value => exact Number.same_self (.whole value.toInt)
  | int value => exact Number.same_self (.whole value)
  | float value => exact Number.same_self (.float value)
  | str text => exact beq_self_eq_true text
  | array items ih =>
    exact sameItems_self fun item inside => ih item inside (itemsKeyed_iff.1 keyed item inside)
  | object members ih =>
    have found (member : String × Json) (inside : member ∈ members) :=
      Entries.get?_of_mem keyed.1 inside
    rw [same, beq_self_eq_true, Bool.true_and]
    exact sameMembers_of_found found fun member inside =>
      ih member inside (membersKeyed_iff.1 keyed.2 member inside)

end Json

end UiSchema
