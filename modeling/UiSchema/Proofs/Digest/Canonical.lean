import UiSchema.Digest
import UiSchema.Proofs.Json.Ints
import UiSchema.Proofs.Json.Unambiguous

/-! The canonical text of a document. It is the compact text of the document with the members of
every object in the order of their keys, and so it determines the document up to that order. -/

set_option autoImplicit false

namespace UiSchema

namespace Json

/-- Members in the order of their keys. -/
def sortByKey {α : Type} (members : List (String × α)) : List (String × α) :=
  members.mergeSort fun a b => decide (a.1 ≤ b.1)

theorem sortByKey_perm {α : Type} (members : List (String × α)) :
    (sortByKey members).Perm members :=
  List.mergeSort_perm _ _

mutual

/-- The document with the members of every object in the order of their keys. -/
def normal : Json → Json
  | .array items => .array (normalItems items)
  | .object members => .object (sortByKey (normalMembers members))
  | leaf => leaf

def normalItems : List Json → List Json
  | [] => []
  | item :: rest => normal item :: normalItems rest

def normalMembers : List (String × Json) → List (String × Json)
  | [] => []
  | (key, value) :: rest => (key, normal value) :: normalMembers rest

end

theorem get?_normalMembers (members : Entries Json) (key : String) :
    Entries.get? (normalMembers members) key = (members.get? key).map normal := by
  induction members with
  | nil => rfl
  | cons member rest ih =>
    obtain ⟨k, v⟩ := member
    rw [normalMembers, Entries.get?_cons, Entries.get?_cons, ih]
    split <;> rfl

theorem keys_normalMembers (members : Entries Json) :
    Entries.keys (normalMembers members) = members.keys := by
  induction members with
  | nil => rfl
  | cons member rest ih =>
    obtain ⟨k, v⟩ := member
    rw [normalMembers, Entries.keys_cons, Entries.keys_cons, ih]

/-- The members of an object can still be told from its normal form, their order apart. -/
theorem normalMembers_perm {members members' : Entries Json}
    (same : normal (.object members) = normal (.object members')) :
    (normalMembers members).Perm (normalMembers members') := by
  have sorted : sortByKey (normalMembers members) = sortByKey (normalMembers members') := by
    simpa [normal] using same
  exact (sortByKey_perm _).symm.trans (sorted ▸ sortByKey_perm _)

/-- What an object holds under a key can still be told from its normal form. -/
theorem get?_of_normal {members members' : Entries Json} (distinct : members.Distinct)
    (same : normal (.object members) = normal (.object members')) (key : String) :
    (members.get? key).map normal = (members'.get? key).map normal := by
  rw [← get?_normalMembers, ← get?_normalMembers]
  apply Entries.get?_perm (normalMembers_perm same)
  unfold Entries.Distinct
  rw [keys_normalMembers]
  exact distinct

end Json

namespace Digest

open Json

/-- The text between the brackets. -/
theorem intercalate_items (level : Nat) (item : Json) (items : List Json) :
    [','].intercalate ((item :: items).map (Format.compact.chars level)) =
      Format.compact.chars level item ++ Format.compact.itemChars level items := by
  induction items generalizing item with
  | nil => simp [Format.itemChars]
  | cons next items ih =>
    have step : [','].intercalate ((item :: next :: items).map (Format.compact.chars level)) =
        Format.compact.chars level item ++ ',' ::
          [','].intercalate ((next :: items).map (Format.compact.chars level)) := by
      simp [List.intercalate]
    rw [step, ih, Format.itemChars]
    simp [Format.gap, Format.compact]

def memberText (level : Nat) (member : String × Json) : List Char :=
  escape member.1 ++ ':' :: Format.compact.chars level member.2

theorem intercalate_members (level : Nat) (member : String × Json)
    (members : List (String × Json)) :
    [','].intercalate ((member :: members).map (memberText level)) =
      memberText level member ++ Format.compact.memberChars level members := by
  induction members generalizing member with
  | nil => simp [Format.memberChars]
  | cons next members ih =>
    have step : [','].intercalate ((member :: next :: members).map (memberText level)) =
        memberText level member ++ ',' ::
          [','].intercalate ((next :: members).map (memberText level)) := by
      simp [List.intercalate]
    obtain ⟨key, value⟩ := next
    rw [step, ih, Format.memberChars]
    simp [Format.gap, Format.compact, memberText]

/-- The text of an array, from those of its items. -/
theorem chars_array (level : Nat) (items : List Json) :
    '[' :: [','].intercalate (items.map (Format.compact.chars (level + 1))) ++ [']'] =
      Format.compact.chars level (.array items) := by
  cases items with
  | nil => rfl
  | cons item items =>
    rw [intercalate_items, Format.chars]
    simp [Format.edge, Format.compact]

theorem chars_object (level : Nat) (members : List (String × Json)) :
    '\x7b' :: [','].intercalate (members.map (memberText (level + 1))) ++ ['\x7d'] =
      Format.compact.chars level (.object members) := by
  cases members with
  | nil => rfl
  | cons member members =>
    obtain ⟨key, value⟩ := member
    rw [intercalate_members, Format.chars]
    simp [Format.edge, Format.compact, memberText]

/-- The order of members does not depend on what they hold. -/
theorem sortMembers_map {α : Type} (write : α → List Char) (members : List (String × α)) :
    sortMembers (members.map fun member => (member.1, write member.2)) =
      (sortByKey members).map fun member => (member.1, write member.2) := by
  unfold sortMembers sortByKey
  rw [List.map_mergeSort]
  exact fun _ _ _ _ => rfl

mutual

theorem canonicalChars_eq (level : Nat) : ∀ v : Json,
    canonicalChars v = Format.compact.chars level (normal v)
  | .null => rfl
  | .bool true => rfl
  | .bool false => rfl
  | .int value => by
    show ((Json.int value).written 0).toList = _
    unfold Json.written Format.write
    rw [if_pos rfl, String.toList_ofList]
    split <;> rfl
  | .float value => by
    show ((Json.float value).written 0).toList = _
    unfold Json.written Format.write
    rw [if_pos rfl, String.toList_ofList]
    rfl
  | .str value => by
    show ((Json.str value).written 0).toList = _
    unfold Json.written Format.write
    rw [if_pos rfl, String.toList_ofList]
    rfl
  | .array items => by
    rw [canonicalChars, canonicalItems_eq (level + 1) items, normal, chars_array]
  | .object members => by
    rw [canonicalChars, canonicalMembers_eq (level + 1) members, normal, ← chars_object,
      sortMembers_map, List.map_map]
    rfl

theorem canonicalItems_eq (level : Nat) : ∀ items : List Json,
    canonicalItems items = (normalItems items).map (Format.compact.chars level)
  | [] => rfl
  | item :: items => by
    rw [canonicalItems, normalItems, List.map_cons, canonicalChars_eq level item,
      canonicalItems_eq level items]

theorem canonicalMembers_eq (level : Nat) : ∀ members : List (String × Json),
    canonicalMembers members =
      (normalMembers members).map fun member => (member.1, Format.compact.chars level member.2)
  | [] => rfl
  | (key, value) :: members => by
    rw [canonicalMembers, normalMembers, List.map_cons, canonicalChars_eq level value,
      canonicalMembers_eq level members]

end

mutual

/-- Sorting the members keeps the leaves. -/
theorem mem_words_normal {leaf : Json} : ∀ v : Json, leaf ∈ words (normal v) ↔ leaf ∈ words v
  | .null => Iff.rfl
  | .bool _ => Iff.rfl
  | .int _ => Iff.rfl
  | .float _ => Iff.rfl
  | .str _ => Iff.rfl
  | .array items => mem_itemWords_normal items
  | .object members => by
    rw [normal, words, mem_memberWords]
    simp only [(sortByKey_perm _).mem_iff]
    exact mem_memberWords.symm.trans (mem_memberWords_normal members)

theorem mem_itemWords_normal {leaf : Json} : ∀ items : List Json,
    leaf ∈ itemWords (normalItems items) ↔ leaf ∈ itemWords items
  | [] => Iff.rfl
  | item :: items => by
    rw [normalItems, itemWords, itemWords, List.mem_append, List.mem_append,
      mem_words_normal item, mem_itemWords_normal items]

theorem mem_memberWords_normal {leaf : Json} : ∀ members : List (String × Json),
    leaf ∈ memberWords (normalMembers members) ↔ leaf ∈ memberWords members
  | [] => Iff.rfl
  | (key, value) :: members => by
    rw [normalMembers, memberWords, memberWords, List.mem_append, List.mem_append,
      mem_words_normal value, mem_memberWords_normal members]

end

/-- Documents that differ only in the order of members have a text together. -/
theorem fitsText_of_normal {v w : Json} (same : normal v = normal w) (fits : v.fitsText = true) :
    w.fitsText = true :=
  fitsText_of_subset fits fun leaf member => by
    rw [← mem_words_normal, same, mem_words_normal]
    exact member

/-- Documents with the same canonical text differ only in the order of members. -/
theorem normal_eq_of_canonicalText {v w : Json} (apart : Apart (words v) (words w))
    (same : canonicalText v = canonicalText w) : normal v = normal w := by
  unfold canonicalText at same
  rw [String.ofList_inj, canonicalChars_eq 0, canonicalChars_eq 0] at same
  have apart : Apart (words (normal v)) (words (normal w)) :=
    apart.mono (fun _ => (mem_words_normal v).1) (fun _ => (mem_words_normal w).1)
  have ends : Scan.EndsWord [] := nofun
  exact (chars_determined (normal v) 0 (normal w) apart ends ends (by rw [same])).1

end Digest

end UiSchema
