import Mathlib.Algebra.Group.Int.Defs
import Mathlib.Algebra.Group.Nat.Defs
import Mathlib.Data.List.Forall2
import UiSchema.Decode
import UiSchema.Outcome

/-! Results taken apart: what the parts of a computation gave when the whole of it ended well. -/

set_option autoImplicit false

namespace UiSchema

variable {α β : Type}

theorem Outcome.bind_eq_ok {first : Outcome α} {next : α → Outcome β} {result : β} :
    (first >>= next) = .ok result ↔ ∃ value, first = .ok value ∧ next value = .ok result := by
  cases first with
  | error cause => simp [Bind.bind, Except.bind]
  | ok value => simp [Bind.bind, Except.bind]

theorem Outcome.pure_eq_ok {value result : α} :
    (pure value : Outcome α) = .ok result ↔ value = result := by
  simp [pure, Except.pure]

/-- The computation comes back with a result. -/
def Outcome.Returns (x : Outcome α) : Prop := ∃ result, x = .ok result

namespace Outcome

theorem returns_ok (value : α) : Returns (.ok value) := ⟨value, rfl⟩

theorem not_returns_error (cause : Raised) : ¬ Returns (.error cause : Outcome α) :=
  fun ⟨_, same⟩ => nomatch same

/-- Whether the rest comes back may not depend on what was found so far. -/
theorem returns_bind {first : Outcome α} {next : α → Outcome β} {here further : Prop}
    (ofFirst : Returns first ↔ here) (ofNext : ∀ value, Returns (next value) ↔ further) :
    Returns (first >>= next) ↔ here ∧ further := by
  rw [← ofFirst]
  cases first with
  | error cause =>
    exact iff_of_false (not_returns_error cause) fun both => not_returns_error cause both.1
  | ok value => exact (ofNext value).trans (and_iff_right (returns_ok value)).symm

/-- Only the first part of the computation can fail. -/
theorem returns_bind_total {first : Outcome α} {next : α → Outcome β} {here : Prop}
    (ofFirst : Returns first ↔ here) (total : ∀ value, Returns (next value)) :
    Returns (first >>= next) ↔ here := by
  rw [returns_bind ofFirst fun value => iff_true_intro (total value), and_true]

theorem returns_map {first : Outcome α} {f : α → β} {here : Prop}
    (ofFirst : Returns first ↔ here) : Returns (first >>= fun value => pure (f value)) ↔ here :=
  returns_bind_total ofFirst fun _ => returns_ok _

theorem returns_mapM {f : α → Outcome β} (xs : List α) :
    Returns (xs.mapM f) ↔ ∀ x ∈ xs, Returns (f x) := by
  induction xs with
  | nil => exact iff_of_true (returns_ok _) (List.forall_mem_nil _)
  | cons x xs ih =>
    rw [List.mapM_cons, List.forall_mem_cons]
    exact returns_bind Iff.rfl fun _ => returns_map ih

end Outcome

theorem fewDigits_iff {value : Int} : fewDigits value = true ↔ value.natAbs < 10 ^ mostDigits := by
  rw [fewDigits, decide_eq_true_eq, Nat.length_toDigits_le_iff (by decide) (by decide)]

namespace Decoded

theorem map_eq_ok {f : α → β} {x : Decoded α} {result : β} :
    f <$> x = .ok result ↔ ∃ value, x = .ok value ∧ f value = result := by
  cases x with
  | ok value => simp [Functor.map, map]
  | bad problems => simp [Functor.map, map]

theorem seq_eq_ok {f : Decoded (α → β)} {x : Decoded α} {result : β} :
    f <*> x = .ok result ↔ ∃ g, f = .ok g ∧ ∃ value, x = .ok value ∧ g value = result := by
  cases f <;> cases x <;> simp [Seq.seq, app]

theorem within_eq_ok {step : String} {x : Decoded α} {result : α} :
    x.within step = .ok result ↔ x = .ok result := by
  cases x <;> simp [within]

theorem check_eq_ok {test : α → Option Fault} {x : Decoded α} {result : α} :
    x.check test = .ok result ↔ x = .ok result ∧ test result = none := by
  cases x with
  | bad problems => simp [check]
  | ok value =>
    rw [check]
    cases tested : test value with
    | none =>
      simp only [ok.injEq]
      exact ⟨fun same => ⟨same, same ▸ tested⟩, fun both => both.1⟩
    | some fault =>
      simp only [Decoded.fault, reduceCtorEq, ok.injEq, false_iff, not_and]
      rintro rfl
      simp [tested]

theorem all_eq_ok {xs : List (Decoded α)} {results : List α} :
    all xs = .ok results ↔ List.Forall₂ (fun x result => x = .ok result) xs results := by
  induction xs generalizing results with
  | nil =>
    simp only [all, ok.injEq, List.forall₂_nil_left_iff]
    exact eq_comm
  | cons x rest ih =>
    rw [List.forall₂_cons_left_iff]
    constructor
    · intro good
      cases x with
      | bad problems => cases tail : all rest <;> simp [all, app, map, tail] at good
      | ok value =>
        cases tail : all rest with
        | bad problems => simp [all, app, map, tail] at good
        | ok values =>
          simp only [all, app, map, tail, ok.injEq] at good
          exact ⟨value, values, rfl, ih.1 tail, good.symm⟩
    · rintro ⟨value, values, rfl, tail, rfl⟩
      simp [all, app, map, ih.2 tail]

end Decoded

/-- What every result owes to its own source holds of all results. -/
theorem forall_mem_of_forall₂ {R : α → β → Prop} {P : β → Prop} {sources : List α}
    {results : List β} (related : List.Forall₂ R sources results)
    (each : ∀ source ∈ sources, ∀ result, R source result → P result) :
    ∀ result ∈ results, P result := by
  induction related with
  | nil => nofun
  | @cons source result sources results first _ ih =>
    exact List.forall_mem_cons.2 ⟨each source List.mem_cons_self result first,
      ih fun other member => each other (List.mem_cons_of_mem _ member)⟩

namespace Decode

theorem string_eq_ok {value : Json} {text : String} :
    string value = .ok text ↔ value = .str text := by
  cases value <;> simp [string, Decoded.fault]

theorem nonEmptyString_eq_ok {value : Json} {text : String} :
    nonEmptyString value = .ok text ↔ value = .str text ∧ text ≠ "" := by
  rw [nonEmptyString, Decoded.check_eq_ok, string_eq_ok]
  simp [String.isEmpty_iff]

theorem record_eq_ok {name : String} {decode : Entries Json → Decoded α} {value : Json}
    {result : α} :
    record name decode value = .ok result ↔
      ∃ members, value = .object members ∧ decode members = .ok result := by
  cases value <;> simp [record, Decoded.fault]

theorem list_eq_ok {decode : Decoder α} {value : Json} {results : List α} :
    list decode value = .ok results ↔
      ∃ values, value = .array values ∧
        List.Forall₂ (fun item result => decode item = .ok result) values results := by
  -- an index only tells where a problem is, so the items may be counted from anywhere
  have each : ∀ (values : List Json) (start : Nat) (results : List α),
      Decoded.all ((values.zipIdx start).map fun entry =>
        (decode entry.1).within (toString entry.2)) = .ok results ↔
      List.Forall₂ (fun item result => decode item = .ok result) values results := by
    intro values start results
    rw [Decoded.all_eq_ok]
    induction values generalizing start results with
    | nil => simp
    | cons item rest ih =>
      simp only [List.zipIdx_cons, List.map_cons, List.forall₂_cons_left_iff,
        Decoded.within_eq_ok, ih]
  cases value with
  | array values =>
    simp only [list, items, each values 0 results, Json.array.injEq, exists_eq_left']
  | _ => simp [list, Decoded.fault]

theorem required_same {members : Entries Json} {name : String} {decode : Decoder α} {result : α} :
    required members (.same name) decode = .ok result ↔
      ∃ value, members.get? name = some value ∧ decode value = .ok result := by
  rw [required, FieldName.find?, FieldName.same]
  cases members.get? name with
  | none => simp [Decoded.fault, Decoded.within]
  | some value => simp [Decoded.within_eq_ok]

theorem optional_same {members : Entries Json} {name : String} {default : α}
    {decode : Decoder α} {result : α} :
    optional members (.same name) default decode = .ok result ↔
      (members.get? name = none ∧ default = result) ∨
        ∃ value, members.get? name = some value ∧ decode value = .ok result := by
  rw [optional, FieldName.find?, FieldName.same]
  cases members.get? name with
  | none => simp
  | some value => simp [Decoded.within_eq_ok]

theorem nullable_eq_ok {decode : Decoder α} {value : Json} {result : Option α} :
    nullable decode value = .ok result ↔
      (value = .null ∧ result = none) ∨
        value ≠ .null ∧ ∃ found, decode value = .ok found ∧ result = some found := by
  have mapped (x : Decoded α) :
      x.map some = .ok result ↔ ∃ found, x = .ok found ∧ result = some found := by
    cases x <;> simp [Decoded.map, eq_comm]
  cases value <;> simp [nullable, mapped, eq_comm]

/-- A field that may be null is decoded where it is present. -/
theorem nullableField_same {members : Entries Json} {name : String} {decode : Decoder α}
    {result : Option α} :
    nullableField members (.same name) decode = .ok result ↔
      (Json.present? members name = none ∧ result = none) ∨
        ∃ value, Json.present? members name = some value ∧
          ∃ found, decode value = .ok found ∧ result = some found := by
  rw [nullableField, optional_same, Json.present?]
  cases found : members.get? name with
  | none => simp [eq_comm]
  | some value =>
    simp only [reduceCtorEq, false_and, Option.some.injEq, exists_eq_left', false_or,
      nullable_eq_ok]
    cases value <;> simp

theorem nullableField_same_some {members : Entries Json} {name : String} {decode : Decoder α}
    {found : α} (read : nullableField members (.same name) decode = .ok (some found)) :
    ∃ value, Json.present? members name = some value ∧ decode value = .ok found := by
  rcases nullableField_same.1 read with ⟨_, absent⟩ | ⟨value, present, _, decoded, same⟩
  · cases absent
  · cases same
    exact ⟨value, present, decoded⟩

end Decode

end UiSchema
