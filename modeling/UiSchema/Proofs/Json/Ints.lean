import UiSchema.Proofs.Json.Tokens
import UiSchema.Proofs.Outcome

/-! The whole numbers of a document. They are among the leaves that are written as bare words, and a
document can be written if each of them can. -/

set_option autoImplicit false

namespace UiSchema.Json

theorem mem_itemWords {leaf : Json} {items : List Json} :
    leaf ∈ itemWords items ↔ ∃ item ∈ items, leaf ∈ words item := by
  induction items with
  | nil => simp [itemWords]
  | cons item rest ih => simp [itemWords, ih]

theorem mem_memberWords {leaf : Json} {members : List (String × Json)} :
    leaf ∈ memberWords members ↔ ∃ member ∈ members, leaf ∈ words member.2 := by
  induction members with
  | nil => simp [memberWords]
  | cons member rest ih => simp [memberWords, ih]

section

variable {test : Int → Bool}

mutual

theorem allInts_iff : ∀ v : Json,
    v.allInts test = true ↔ ∀ value, .int value ∈ words v → test value = true
  | .null => by simp [allInts, words]
  | .bool _ => by simp [allInts, words]
  | .int _ => by simp [allInts, words]
  | .float _ => by simp [allInts, words]
  | .str _ => by simp [allInts, words]
  | .array items => itemsAllInts_iff items
  | .object members => membersAllInts_iff members

theorem itemsAllInts_iff : ∀ items : List Json,
    itemsAllInts test items = true ↔ ∀ value, .int value ∈ itemWords items → test value = true
  | [] => by simp [itemsAllInts, itemWords]
  | item :: rest => by
    rw [itemsAllInts, Bool.and_eq_true, allInts_iff item, itemsAllInts_iff rest]
    simp only [itemWords, List.mem_append, or_imp, forall_and]

theorem membersAllInts_iff : ∀ members : List (String × Json),
    membersAllInts test members = true ↔
      ∀ value, .int value ∈ memberWords members → test value = true
  | [] => by simp [membersAllInts, memberWords]
  | (key, value) :: rest => by
    rw [membersAllInts, Bool.and_eq_true, allInts_iff value, membersAllInts_iff rest]
    simp only [memberWords, List.mem_append, or_imp, forall_and]

end

end

theorem fitsText_iff {v : Json} :
    v.fitsText = true ↔ ∀ value, .int value ∈ words v → value.natAbs < 10 ^ mostDigits := by
  simp only [fitsText, allInts_iff, fewDigits_iff]

/-- What is written with few of the numbers of a document can be written if the document can. -/
theorem fitsText_of_subset {v w : Json} (fits : v.fitsText = true) (fewer : words w ⊆ words v) :
    w.fitsText = true :=
  fitsText_iff.2 fun value member => fitsText_iff.1 fits value (fewer member)

theorem fitsText_array {items : List Json} :
    (Json.array items).fitsText = true ↔ ∀ item ∈ items, item.fitsText = true := by
  simp only [fitsText_iff, words, mem_itemWords]
  grind

theorem fitsText_object {members : Entries Json} :
    (Json.object members).fitsText = true ↔ ∀ member ∈ members, member.2.fitsText = true := by
  simp only [fitsText_iff, words, mem_memberWords]
  grind

theorem encode_of_fits {v : Json} (fits : v.fitsText = true) (indent : Int) :
    v.encode indent = .ok (v.written indent) := if_pos fits

theorem encode_eq_ok {v : Json} {indent : Int} {text : String} :
    v.encode indent = .ok text ↔ v.fitsText = true ∧ v.written indent = text := by
  rw [encode]
  split <;> simp_all

end UiSchema.Json
