import Mathlib.Data.List.Nodup
import UiSchema.Proofs.Decimal.Spelling
import UiSchema.Proofs.Digest.Canonical
import UiSchema.Proofs.Json.Same

/-! What the canonical text says of a document. It forgets the order of the members of every object
and nothing else: two documents have the same text exactly if they become equal once their members
are sorted by their keys. -/

set_option autoImplicit false

namespace UiSchema

namespace Entries

variable {α : Type} {es fs : Entries α}

theorem Distinct.nodup (distinct : es.Distinct) : es.Nodup := List.Nodup.of_map _ distinct

theorem get?_eq_some_iff (distinct : es.Distinct) {key : String} {value : α} :
    es.get? key = some value ↔ (key, value) ∈ es :=
  ⟨mem_of_get?, get?_of_mem distinct⟩

/-- Entries without repeated keys are determined by what is found in them, up to their order. -/
theorem perm_of_get? (distinct : es.Distinct) (distinct' : fs.Distinct)
    (same : ∀ key, es.get? key = fs.get? key) : es.Perm fs := by
  rw [List.perm_ext_iff_of_nodup distinct.nodup distinct'.nodup]
  rintro ⟨key, value⟩
  rw [← get?_eq_some_iff distinct, ← get?_eq_some_iff distinct', same]

end Entries

namespace Json

/-! ### Sorted members -/

theorem pairwise_sortByKey {α : Type} (members : Entries α) :
    (sortByKey members).Pairwise fun a b => a.1 ≤ b.1 := by
  have sorted : (sortByKey members).Pairwise fun a b => decide (a.1 ≤ b.1) = true := by
    apply List.pairwise_mergeSort
    · exact fun a b c => by simpa using String.le_trans
    · exact fun a b => by simpa using String.le_total a.1 b.1
  exact sorted.imp of_decide_eq_true

/-- The order in which members are given does not matter when they are sorted. -/
theorem sortByKey_perm_eq {α : Type} {members members' : Entries α} (distinct : members.Distinct)
    (perm : members.Perm members') : sortByKey members = sortByKey members' := by
  have together : (sortByKey members).Perm (sortByKey members') :=
    (sortByKey_perm _).trans (perm.trans (sortByKey_perm _).symm)
  apply List.Perm.eq_of_pairwise _ (pairwise_sortByKey _) (pairwise_sortByKey _) together
  intro a b inFirst inSecond below above
  -- no two members share a key, so the key tells them apart
  have first := Entries.get?_of_mem distinct ((sortByKey_perm _).mem_iff.1 inFirst)
  have second := Entries.get?_of_mem distinct
    (perm.mem_iff.2 ((sortByKey_perm _).mem_iff.1 inSecond))
  have keys : a.1 = b.1 := String.le_antisymm below above
  rw [keys, second] at first
  exact Prod.ext keys (Option.some.inj first).symm

theorem normalItems_eq_map (items : List Json) : normalItems items = items.map normal := by
  induction items with
  | nil => rfl
  | cons item rest ih => rw [normalItems, ih, List.map_cons]

theorem distinct_normalMembers {members : Entries Json} :
    Entries.Distinct (normalMembers members) ↔ members.Distinct := by
  unfold Entries.Distinct
  rw [keys_normalMembers]

/-! ### Documents up to the order of members -/

/-- Two documents that only differ in the order of members: arrays hold the same items in the same
places, and objects have the same keys and the same under each of them. -/
inductive Reordered : Json → Json → Prop where
  | refl (v : Json) : Reordered v v
  | array {items items' : List Json} (length : items.length = items'.length)
      (each : ∀ (i : Nat) v w, items[i]? = some v → items'[i]? = some w → Reordered v w) :
      Reordered (.array items) (.array items')
  | object {members members' : Entries Json} (keys : members.keys.Perm members'.keys)
      (each : ∀ key v w, members.get? key = some v → members'.get? key = some w →
        Reordered v w) :
      Reordered (.object members) (.object members')

theorem map_normal_eq {items items' : List Json} (length : items.length = items'.length)
    (each : ∀ (i : Nat) v w, items[i]? = some v → items'[i]? = some w → normal v = normal w) :
    items.map normal = items'.map normal := by
  apply List.ext_getElem (by simpa using length)
  intro i inside inside'
  rw [List.length_map] at inside inside'
  rw [List.getElem_map, List.getElem_map]
  exact each i _ _ (List.getElem?_eq_getElem inside) (List.getElem?_eq_getElem inside')

/-- A key of the one object is a key of the other. -/
theorem get?_normalMembers_eq {members members' : Entries Json}
    (keys : members.keys.Perm members'.keys)
    (each : ∀ key v w, members.get? key = some v → members'.get? key = some w →
      normal v = normal w) (key : String) :
    Entries.get? (normalMembers members) key = Entries.get? (normalMembers members') key := by
  rw [get?_normalMembers, get?_normalMembers]
  have absent : members.get? key = none ↔ members'.get? key = none := by
    rw [Entries.get?_eq_none_iff, Entries.get?_eq_none_iff, keys.mem_iff]
  cases first : members.get? key with
  | none => rw [absent.1 first]
  | some v =>
    cases second : members'.get? key with
    | none => rw [absent.2 second] at first; cases first
    | some w => exact congrArg some (each key v w first second)

/-- Sorting the members takes away every difference in their order. -/
theorem Reordered.normal_eq {v w : Json} (reordered : Reordered v w) (keyed : v.Keyed)
    (keyed' : w.Keyed) : normal v = normal w := by
  induction reordered with
  | refl => rfl
  | array length each ih =>
    rw [Keyed, itemsKeyed_iff] at keyed keyed'
    rw [normal, normal, normalItems_eq_map, normalItems_eq_map]
    congr 1
    apply map_normal_eq length
    intro i v w first second
    exact ih i v w first second (keyed v (List.mem_of_getElem? first))
      (keyed' w (List.mem_of_getElem? second))
  | object keys each ih =>
    obtain ⟨distinct, below⟩ := keyed
    obtain ⟨distinct', below'⟩ := keyed'
    rw [membersKeyed_iff] at below below'
    rw [normal, normal]
    congr 1
    apply sortByKey_perm_eq (distinct_normalMembers.2 distinct)
    apply Entries.perm_of_get? (distinct_normalMembers.2 distinct)
      (distinct_normalMembers.2 distinct')
    apply get?_normalMembers_eq keys
    intro key v w first second
    exact ih key v w first second (below _ (Entries.mem_of_get? first))
      (below' _ (Entries.mem_of_get? second))

theorem keys_perm_of_normal {members members' : Entries Json}
    (same : normal (.object members) = normal (.object members')) :
    members.keys.Perm members'.keys := by
  have keys := (normalMembers_perm same).map Prod.fst
  exact keys_normalMembers members ▸ keys_normalMembers members' ▸ keys

/-- What is equal after sorting was the same before, the order of members apart. -/
theorem reordered_of_normal_eq {v : Json} (keyed : v.Keyed) {w : Json}
    (same : normal v = normal w) : Reordered v w := by
  induction v using nested_induction generalizing w with
  | null | bool | int | float | str =>
    -- a leaf is its own normal form, and that of nothing else
    cases w <;> simp_all [normal, Reordered.refl]
  | array items ih =>
    cases w with
    | array items' =>
      rw [Keyed, itemsKeyed_iff] at keyed
      have mapped : items.map normal = items'.map normal := by
        simpa [normal, normalItems_eq_map] using same
      refine .array (by simpa using congrArg List.length mapped) fun i v w first second => ?_
      have inside := List.mem_of_getElem? first
      apply ih v inside (keyed v inside)
      have there := congrArg (·[i]?) mapped
      simpa [first, second] using there
    | _ => simp [normal] at same
  | object members ih =>
    cases w with
    | object members' =>
      obtain ⟨distinct, below⟩ := keyed
      rw [membersKeyed_iff] at below
      refine .object (keys_perm_of_normal same) fun key v w first second => ?_
      have inside := Entries.mem_of_get? first
      apply ih (key, v) inside (below _ inside)
      have there := get?_of_normal distinct same key
      simpa [first, second] using there
    | _ => simp [normal] at same

/-! ### Floating-point numbers -/

/-- A word is that of a floating-point number or of a leaf of another kind. -/
theorem bare_or_float {v leaf : Json} (member : leaf ∈ words v) :
    Bare leaf ∨ ∃ x, leaf = .float x := by
  induction v using nested_induction with
  | null => exact .inl (List.mem_singleton.1 member ▸ .null)
  | bool value => exact .inl (List.mem_singleton.1 member ▸ .bool value)
  | int value => exact .inl (List.mem_singleton.1 member ▸ .int value)
  | float value => exact .inr ⟨value, List.mem_singleton.1 member⟩
  | str text => cases member
  | array items ih =>
    obtain ⟨item, inside, found⟩ := mem_itemWords.1 member
    exact ih item inside found
  | object members ih =>
    obtain ⟨entry, inside, found⟩ := mem_memberWords.1 member
    exact ih entry inside found

/-- The floating-point numbers of two documents are finite, and those that are written alike are
equal. Zero and minus zero are two numbers. -/
structure FloatsApart (v w : Json) : Prop where
  left : ∀ x, .float x ∈ words v → x.isFinite = true
  right : ∀ x, .float x ∈ words w → x.isFinite = true
  texts : ∀ x y, .float x ∈ words v → .float y ∈ words w →
    Format.compact.layout.write x = Format.compact.layout.write y → x = y

theorem FloatsApart.apart {v w : Json} (floats : FloatsApart v w) : Apart (words v) (words w) where
  left leaf member := by
    rcases bare_or_float member with bare | ⟨x, rfl⟩
    · exact bare.isWord
    · exact isWord_float (floats.left x member)
  right leaf member := by
    rcases bare_or_float member with bare | ⟨x, rfl⟩
    · exact bare.isWord
    · exact isWord_float (floats.right x member)
  texts a inFirst b inSecond same := by
    rcases bare_or_float inFirst with bare | ⟨x, rfl⟩ <;>
      rcases bare_or_float inSecond with bare' | ⟨y, rfl⟩
    · exact bare.eq_of_chars bare' same
    · exact absurd same.symm (bare.chars_ne_float (floats.right y inSecond))
    · exact absurd same (bare'.chars_ne_float (floats.left x inFirst))
    · rw [floats.texts x y inFirst inSecond (String.toList_inj.1 same)]

end Json

namespace Digest

open Json

theorem canonical_eq_ok {v : Json} {text : String} :
    canonical v = .ok text ↔ v.fitsText = true ∧ canonicalText v = text := by
  rw [canonical]
  split <;> simp_all

theorem canonical_eq_error {v : Json} {cause : Raised} :
    canonical v = .error cause ↔ v.fitsText = false ∧ cause = .tooManyDigits := by
  rw [canonical]
  split
  · simp_all
  · rename_i long
    simp [Bool.not_eq_true _ ▸ long, eq_comm]

theorem canonicalText_eq_of_normal {v w : Json} (same : normal v = normal w) :
    canonicalText v = canonicalText w := by
  rw [canonicalText, canonicalText, canonicalChars_eq 0, canonicalChars_eq 0, same]

/-- The canonical text identifies a document up to the order of members. Every document has one, but
for those with a whole number of too many digits. -/
theorem canonical_eq_iff {v w : Json} (keyed : v.Keyed) (keyed' : w.Keyed)
    (floats : FloatsApart v w) :
    ((∃ text, canonical v = .ok text ∧ canonical w = .ok text) ↔
      normal v = normal w ∧ ∀ value, .int value ∈ words v → value.natAbs < 10 ^ mostDigits) ∧
    (normal v = normal w ↔ Reordered v w) ∧
    ∀ cause, canonical v = .error cause ↔ cause = .tooManyDigits ∧
      ∃ value, .int value ∈ words v ∧ 10 ^ mostDigits ≤ value.natAbs := by
  refine ⟨?_, ⟨reordered_of_normal_eq keyed, fun reordered => reordered.normal_eq keyed keyed'⟩,
    fun cause => ?_⟩
  · simp only [canonical_eq_ok, ← fitsText_iff]
    constructor
    · rintro ⟨_, ⟨fits, rfl⟩, _, same⟩
      exact ⟨normal_eq_of_canonicalText floats.apart same.symm, fits⟩
    · rintro ⟨same, fits⟩
      exact ⟨_, ⟨fits, rfl⟩, fitsText_of_normal same fits, (canonicalText_eq_of_normal same).symm⟩
  · rw [canonical_eq_error, ← Bool.not_eq_true, fitsText_iff, and_comm]
    simp only [not_forall, Nat.not_lt, exists_prop]

/-- Options with floating-point numbers, and the same with their members in another order. -/
def optionsDocument : Json :=
  .object [("theme", .str "shadcn-ui"), ("scales", .array [.float 1.5, .float 0.25, .int 1]),
    ("examples", .object [("mode", .str "auto"), ("max", .int 100000000000000000000)])]

def shuffledDocument : Json :=
  .object [("examples", .object [("max", .int 100000000000000000000), ("mode", .str "auto")]),
    ("scales", .array [.float 1.5, .float 0.25, .int 1]), ("theme", .str "shadcn-ui")]

theorem reordered_options : Reordered optionsDocument shuffledDocument := by
  have examples : Reordered
      (.object [("mode", .str "auto"), ("max", .int 100000000000000000000)])
      (.object [("max", .int 100000000000000000000), ("mode", .str "auto")]) := by
    refine .object (.swap ..) fun key v w first second => ?_
    have inside := Entries.mem_of_get? first
    simp only [List.mem_cons, Prod.mk.injEq, List.not_mem_nil, or_false] at inside
    rcases inside with ⟨rfl, rfl⟩ | ⟨rfl, rfl⟩ <;> (cases second; exact .refl _)
  refine .object ?_ fun key v w first second => ?_
  · exact (List.reverse_perm _).symm
  · have inside := Entries.mem_of_get? first
    simp only [List.mem_cons, Prod.mk.injEq, List.not_mem_nil, or_false] at inside
    rcases inside with ⟨rfl, rfl⟩ | ⟨rfl, rfl⟩ | ⟨rfl, rfl⟩
    · cases second
      exact .refl _
    · cases second
      exact .refl _
    · cases second
      exact examples

theorem floatsApart_options : FloatsApart optionsDocument shuffledDocument := by
  have either (x : Float) (member : .float x ∈ words optionsDocument) : x = 1.5 ∨ x = 0.25 := by
    simpa [optionsDocument, words, memberWords, itemWords] using member
  have either' (x : Float) (member : .float x ∈ words shuffledDocument) : x = 1.5 ∨ x = 0.25 := by
    simpa [shuffledDocument, words, memberWords, itemWords] using member
  constructor
  · intro x member
    rcases either x member with rfl | rfl <;> decide
  · intro x member
    rcases either' x member with rfl | rfl <;> decide
  · intro x y first second same
    rcases either x first with rfl | rfl <;> rcases either' y second with rfl | rfl
    · rfl
    · exact absurd same (by decide)
    · exact absurd same (by decide)
    · rfl

/-- Members may be shuffled, but a whole number is not the floating-point number of its value. -/
theorem options_shuffled :
    (optionsDocument.Keyed ∧ shuffledDocument.Keyed ∧
      FloatsApart optionsDocument shuffledDocument) ∧
    (∃ text, canonical optionsDocument = .ok text ∧ canonical shuffledDocument = .ok text) ∧
    FloatsApart (.int 1) (.float 1) ∧
      ¬ ∃ text, canonical (.int 1) = .ok text ∧ canonical (.float 1) = .ok text := by
  have keyed : optionsDocument.Keyed := by
    refine ⟨(by decide : ["theme", "scales", "examples"].Nodup), trivial, ?_, ?_, trivial⟩
    · exact ⟨trivial, trivial, trivial, trivial⟩
    · exact ⟨(by decide : ["mode", "max"].Nodup), trivial, trivial, trivial⟩
  have keyed' : shuffledDocument.Keyed := by
    refine ⟨(by decide : ["examples", "scales", "theme"].Nodup), ?_, ?_, trivial, trivial⟩
    · exact ⟨(by decide : ["max", "mode"].Nodup), trivial, trivial, trivial⟩
    · exact ⟨trivial, trivial, trivial, trivial⟩
  have floats : FloatsApart (.int 1) (.float 1) := by
    have noFloat (x : Float) : .float x ∉ words (.int 1) :=
      fun member => nomatch List.mem_singleton.1 member
    refine ⟨fun x member => absurd member (noFloat x), fun x member => ?_,
      fun x y member => absurd member (noFloat x)⟩
    cases List.mem_singleton.1 member
    decide
  have fits : optionsDocument.fitsText = true := rfl
  obtain ⟨texts, sorted, _⟩ := canonical_eq_iff keyed keyed' floatsApart_options
  refine ⟨⟨keyed, keyed', floatsApart_options⟩,
    texts.2 ⟨sorted.2 reordered_options, fitsText_iff.1 fits⟩, floats, fun shared => ?_⟩
  obtain ⟨texts, sorted, _⟩ := canonical_eq_iff (v := .int 1) (w := .float 1) trivial trivial floats
  cases sorted.1 (texts.1 shared).1

/-- A one with so many zeros has one digit more than zeros. -/
theorem fitsText_power (zeros : Nat) :
    (Json.int (10 ^ zeros)).fitsText = true ↔ zeros < mostDigits := by
  simp [fitsText_iff, words, Int.natAbs_pow, Nat.pow_lt_pow_iff_right]

/-- A document may be without a text although it equals itself, and two zeros that count as equal
are written differently. -/
theorem canonical_not_shared :
    (Json.Keyed (.int (10 ^ 4300)) ∧ FloatsApart (.int (10 ^ 4300)) (.int (10 ^ 4300)) ∧
      canonical (.int (10 ^ 4300)) = .error .tooManyDigits) ∧
    ((0.0 : Float) == -0.0) = true ∧
      ¬ ∃ text, canonical (.float 0.0) = .ok text ∧ canonical (.float (-0.0)) = .ok text := by
  have noFloat (x : Float) : .float x ∉ words (.int (10 ^ 4300)) :=
    fun member => nomatch List.mem_singleton.1 member
  have long : (Json.int (10 ^ 4300)).fitsText = false := by
    rw [← Bool.not_eq_true, fitsText_power]
    decide
  refine ⟨⟨trivial, ⟨fun x member => absurd member (noFloat x),
    fun x member => absurd member (noFloat x), fun x y member => absurd member (noFloat x)⟩,
    canonical_eq_error.2 ⟨long, rfl⟩⟩, by decide, ?_⟩
  rintro ⟨_, first, second⟩
  obtain ⟨_, rfl⟩ := canonical_eq_ok.1 first
  exact absurd (canonical_eq_ok.1 second).2 (by decide)

end Digest

end UiSchema
