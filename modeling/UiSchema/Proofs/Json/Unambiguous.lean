import UiSchema.Proofs.Json.Same

/-! Compact texts are unambiguous: a text determines the document it was written from, even with
more text after it, as long as the words in it determine their leaves. -/

set_option autoImplicit false

namespace UiSchema.Json

open Scan

/-- A quoted text ends at its closing mark. -/
theorem escape_unique {s t : String} {rest rest' : List Char}
    (same : escape s ++ rest = escape t ++ rest') : s = t ∧ rest = rest' := by
  have tokens := congrArg (Scan.tokens .strict .between) same
  rw [tokens_escape, tokens_escape] at tokens
  obtain rfl : s = t := by simpa using (List.cons.inj tokens).1
  exact ⟨rfl, List.append_cancel_left same⟩

theorem takeWhile_word {word rest : List Char} (letters : ∀ c ∈ word, isWordChar c = true)
    (ends : EndsWord rest) : (word ++ rest).takeWhile isWordChar = word := by
  have none : rest.takeWhile isWordChar = [] := by
    cases rest with
    | nil => rfl
    | cons c rest =>
      have other : isWordChar c = false := ends c rfl
      rw [List.takeWhile_cons, other]
      rfl
  rw [List.takeWhile_append_of_pos letters, none, List.append_nil]

/-- A word ends before the first character that cannot belong to it. -/
theorem word_unique {word word' rest rest' : List Char} (letters : ∀ c ∈ word, isWordChar c = true)
    (letters' : ∀ c ∈ word', isWordChar c = true) (ends : EndsWord rest) (ends' : EndsWord rest')
    (same : word ++ rest = word' ++ rest') : word = word' ∧ rest = rest' := by
  have front := congrArg (List.takeWhile isWordChar) same
  rw [takeWhile_word letters ends, takeWhile_word letters' ends'] at front
  obtain rfl := front
  exact ⟨rfl, List.append_cancel_left same⟩

/-- The words of two documents are words, and different leaves among them have different texts. -/
structure Apart (a b : List Json) : Prop where
  left : ∀ leaf ∈ a, IsWord .compact leaf
  right : ∀ leaf ∈ b, IsWord .compact leaf
  texts : ∀ x ∈ a, ∀ y ∈ b, Format.compact.chars 0 x = Format.compact.chars 0 y → x = y

theorem Apart.mono {a b a' b' : List Json} (apart : Apart a b) (left : a' ⊆ a) (right : b' ⊆ b) :
    Apart a' b' where
  left := fun leaf member => apart.left leaf (left member)
  right := fun leaf member => apart.right leaf (right member)
  texts := fun x member y member' => apart.texts x (left member) y (right member')

/-- The character that a document begins with which is no bare word. -/
def mark? : Json → Option Char
  | .str _ => some '"'
  | .array _ => some '['
  | .object _ => some '\x7b'
  | _ => none

theorem head?_of_mark {v : Json} {c : Char} (level : Nat) (marked : mark? v = some c) :
    (Format.compact.chars level v).head? = some c ∧ isWordChar c = false := by
  cases v with
  | str s =>
    cases marked
    exact ⟨rfl, by decide⟩
  | array items =>
    cases marked
    cases items <;> exact ⟨rfl, by decide⟩
  | object members =>
    cases marked
    cases members <;> exact ⟨rfl, by decide⟩
  | _ => cases marked

theorem word_of_mark {v : Json} (level : Nat) (unmarked : mark? v = none) :
    words v = [v] ∧ Format.compact.chars level v = Format.compact.chars 0 v := by
  cases v with
  | bool value => cases value <;> exact ⟨rfl, rfl⟩
  | str | array | object => cases unmarked
  | _ => exact ⟨rfl, rfl⟩

/-- A document begins with its mark or with a word. -/
theorem head?_chars {v : Json} (level : Nat)
    (word : ∀ leaf ∈ words v, IsWord .compact leaf) :
    ∃ c, (Format.compact.chars level v).head? = some c ∧
      (mark? v = some c ∨ mark? v = none ∧ isWordChar c = true) := by
  cases marked : mark? v with
  | some c => exact ⟨c, (head?_of_mark level marked).1, .inl rfl⟩
  | none =>
    obtain ⟨alone, same⟩ := word_of_mark level marked
    obtain ⟨nonempty, letters⟩ := word v (by simp [alone])
    obtain ⟨c, rest, text⟩ := List.exists_cons_of_ne_nil nonempty
    rw [same, text]
    exact ⟨c, rfl, .inr ⟨rfl, letters c (by simp [text])⟩⟩

/-- The first character tells the kinds of documents apart. -/
theorem mark?_unique {v w : Json} {level : Nat} {rest rest' : List Char}
    (apart : Apart (words v) (words w))
    (same : Format.compact.chars level v ++ rest = Format.compact.chars level w ++ rest') :
    mark? v = mark? w := by
  obtain ⟨c, first, kind⟩ := head?_chars level apart.left
  obtain ⟨c', first', kind'⟩ := head?_chars level apart.right
  have heads := congrArg List.head? same
  rw [List.head?_append, List.head?_append, first, first'] at heads
  obtain rfl : c = c' := by simpa using heads
  rcases kind with marked | ⟨unmarked, letter⟩ <;> rcases kind' with marked' | ⟨unmarked', letter'⟩
  · rw [marked, marked']
  · have other := (head?_of_mark level marked).2
    rw [letter'] at other
    cases other
  · have other := (head?_of_mark level marked').2
    rw [letter] at other
    cases other
  · rw [unmarked, unmarked']

/-- The text of a leaf ends where its word ends. -/
theorem leaf_unique {v w : Json} {level : Nat} {rest rest' : List Char}
    (apart : Apart (words v) (words w)) (left : mark? v = none) (right : mark? w = none)
    (ends : EndsWord rest) (ends' : EndsWord rest')
    (same : Format.compact.chars level v ++ rest = Format.compact.chars level w ++ rest') :
    v = w ∧ rest = rest' := by
  obtain ⟨alone, text⟩ := word_of_mark level left
  obtain ⟨alone', text'⟩ := word_of_mark level right
  rw [alone, alone'] at apart
  rw [text, text'] at same
  obtain ⟨texts, rests⟩ := word_unique (apart.left v (by simp)).2 (apart.right w (by simp)).2
    ends ends' same
  exact ⟨apart.texts v (by simp) w (by simp) texts, rests⟩

/-- A value does not begin with the end of an array or an object. -/
theorem chars_ne_close {v : Json} {level : Nat} {rest rest' : List Char} {close : Char}
    (word : ∀ leaf ∈ words v, IsWord .compact leaf)
    (closes : close = ']' ∨ close = '\x7d') :
    close :: rest ≠ Format.compact.chars level v ++ rest' := by
  intro same
  obtain ⟨c, first, kind⟩ := head?_chars level word
  have heads := congrArg List.head? same
  rw [List.head?_append, first] at heads
  obtain rfl : close = c := by simpa using heads
  rcases kind with marked | ⟨_, letter⟩
  · cases v <;> rcases closes with rfl | rfl <;> simp [mark?] at marked
  · rcases closes with rfl | rfl <;> exact absurd letter (by decide)

section Texts

variable (level : Nat) (rest : List Char)

theorem array_text (item : Json) (items : List Json) :
    Format.compact.chars level (.array (item :: items)) ++ rest =
      '[' :: (Format.compact.chars (level + 1) item ++
        (Format.compact.itemChars (level + 1) items ++ (']' :: rest))) := by
  simp [Format.chars, Format.edge, Format.compact]

theorem items_text (item : Json) (items : List Json) :
    Format.compact.itemChars level (item :: items) ++ rest =
      ',' :: (Format.compact.chars level item ++
        (Format.compact.itemChars level items ++ rest)) := by
  simp [Format.itemChars, Format.gap, Format.compact]

theorem object_text (member : String × Json) (members : List (String × Json)) :
    Format.compact.chars level (.object (member :: members)) ++ rest =
      '\x7b' :: (escape member.1 ++ (':' :: (Format.compact.chars (level + 1) member.2 ++
        (Format.compact.memberChars (level + 1) members ++ ('\x7d' :: rest))))) := by
  simp [Format.chars, Format.edge, Format.compact]

theorem members_text (member : String × Json) (members : List (String × Json)) :
    Format.compact.memberChars level (member :: members) ++ rest =
      ',' :: (escape member.1 ++ (':' :: (Format.compact.chars level member.2 ++
        (Format.compact.memberChars level members ++ rest)))) := by
  simp [Format.memberChars, Format.gap, Format.compact]

end Texts

/-- The text of a document tells which document it is and where it ends. -/
def Determined (v : Json) : Prop :=
  ∀ (level : Nat) (w : Json) {rest rest' : List Char}, Apart (words v) (words w) →
    EndsWord rest → EndsWord rest' →
    Format.compact.chars level v ++ rest = Format.compact.chars level w ++ rest' →
    v = w ∧ rest = rest'

section Parts

variable {level : Nat} {rest rest' : List Char}

theorem leaf_determined {v : Json} (unmarked : mark? v = none) : Determined v :=
  fun _ _ _ _ apart ends ends' same =>
    leaf_unique apart unmarked ((mark?_unique apart same).symm.trans unmarked) ends ends' same

theorem str_determined (s : String) : Determined (.str s) := by
  intro level w rest rest' apart _ _ same
  have kind := mark?_unique apart same
  cases w with
  | str t =>
    obtain ⟨rfl, rests⟩ := escape_unique same
    exact ⟨rfl, rests⟩
  | _ => cases kind

/-! Each part of an array ends where the next begins, and only there. -/

theorem item_unique {item item' : Json} {items items' : List Json} (determined : Determined item)
    (apart : Apart (itemWords (item :: items)) (itemWords (item' :: items')))
    (same : Format.compact.chars level item ++
        (Format.compact.itemChars level items ++ (']' :: rest)) =
      Format.compact.chars level item' ++
        (Format.compact.itemChars level items' ++ (']' :: rest'))) :
    item = item' ∧ Format.compact.itemChars level items ++ (']' :: rest) =
      Format.compact.itemChars level items' ++ (']' :: rest') :=
  determined level item' (apart.mono (by simp [itemWords]) (by simp [itemWords]))
    (Format.endsWord_items _ _ (Format.endsWord_cons (by decide) rest))
    (Format.endsWord_items _ _ (Format.endsWord_cons (by decide) rest')) same

theorem close_ne_items (item : Json) (items : List Json) :
    ']' :: rest ≠ Format.compact.itemChars level (item :: items) ++ rest' := by
  rw [items_text]
  exact fun same => absurd (List.cons.inj same).1 (by decide)

theorem itemChars_unique {items items' : List Json} (determined : ∀ item ∈ items, Determined item)
    (apart : Apart (itemWords items) (itemWords items'))
    (same : Format.compact.itemChars level items ++ (']' :: rest) =
      Format.compact.itemChars level items' ++ (']' :: rest')) :
    items = items' ∧ rest = rest' := by
  induction items generalizing items' with
  | nil =>
    cases items' with
    | nil => exact ⟨rfl, (List.cons.inj same).2⟩
    | cons item' items' => exact absurd same (close_ne_items item' items')
  | cons item items ih =>
    obtain ⟨here, others⟩ := List.forall_mem_cons.1 determined
    cases items' with
    | nil => exact absurd same.symm (close_ne_items item items)
    | cons item' items' =>
      rw [items_text, items_text] at same
      obtain ⟨rfl, behind⟩ := item_unique here apart (List.cons.inj same).2
      obtain ⟨rfl, rests⟩ := ih others
        (apart.mono (by simp [itemWords]) (by simp [itemWords])) behind
      exact ⟨rfl, rests⟩

theorem empty_ne_array {item : Json} {items : List Json}
    (word : ∀ leaf ∈ words (.array (item :: items)), IsWord .compact leaf) :
    Format.compact.chars level (.array []) ++ rest ≠
      Format.compact.chars level (.array (item :: items)) ++ rest' := by
  rw [array_text]
  exact fun same => chars_ne_close
    (fun leaf member => word leaf (by simp [words, itemWords, member])) (.inl rfl)
    (List.cons.inj same).2

theorem array_determined {items : List Json} (determined : ∀ item ∈ items, Determined item) :
    Determined (.array items) := by
  intro level w rest rest' apart _ _ same
  have kind := mark?_unique apart same
  cases w with
  | array items' =>
    cases items with
    | nil =>
      cases items' with
      | nil => exact ⟨rfl, List.append_cancel_left same⟩
      | cons item' items' => exact absurd same (empty_ne_array apart.right)
    | cons item items =>
      obtain ⟨here, others⟩ := List.forall_mem_cons.1 determined
      cases items' with
      | nil => exact absurd same.symm (empty_ne_array apart.left)
      | cons item' items' =>
        rw [array_text, array_text] at same
        obtain ⟨rfl, behind⟩ := item_unique here apart (List.cons.inj same).2
        obtain ⟨rfl, rests⟩ := itemChars_unique others
          (apart.mono (by simp [words, itemWords]) (by simp [words, itemWords])) behind
        exact ⟨rfl, rests⟩
  | _ => cases kind

/-! So does each part of an object. -/

theorem member_unique {member member' : String × Json} {members members' : List (String × Json)}
    (determined : Determined member.2)
    (apart : Apart (memberWords (member :: members)) (memberWords (member' :: members')))
    (same : escape member.1 ++ (':' :: (Format.compact.chars level member.2 ++
        (Format.compact.memberChars level members ++ ('\x7d' :: rest)))) =
      escape member'.1 ++ (':' :: (Format.compact.chars level member'.2 ++
        (Format.compact.memberChars level members' ++ ('\x7d' :: rest'))))) :
    member = member' ∧ Format.compact.memberChars level members ++ ('\x7d' :: rest) =
      Format.compact.memberChars level members' ++ ('\x7d' :: rest') := by
  obtain ⟨keys, behind⟩ := escape_unique same
  obtain ⟨values, others⟩ := determined level member'.2
    (apart.mono (by simp [memberWords]) (by simp [memberWords]))
    (Format.endsWord_members _ _ (Format.endsWord_cons (by decide) rest))
    (Format.endsWord_members _ _ (Format.endsWord_cons (by decide) rest')) (List.cons.inj behind).2
  exact ⟨Prod.ext keys values, others⟩

theorem close_ne_members (member : String × Json) (members : List (String × Json)) :
    '\x7d' :: rest ≠ Format.compact.memberChars level (member :: members) ++ rest' := by
  rw [members_text]
  exact fun same => absurd (List.cons.inj same).1 (by decide)

theorem memberChars_unique {members members' : List (String × Json)}
    (determined : ∀ member ∈ members, Determined member.2)
    (apart : Apart (memberWords members) (memberWords members'))
    (same : Format.compact.memberChars level members ++ ('\x7d' :: rest) =
      Format.compact.memberChars level members' ++ ('\x7d' :: rest')) :
    members = members' ∧ rest = rest' := by
  induction members generalizing members' with
  | nil =>
    cases members' with
    | nil => exact ⟨rfl, (List.cons.inj same).2⟩
    | cons member' members' => exact absurd same (close_ne_members member' members')
  | cons member members ih =>
    obtain ⟨here, others⟩ := List.forall_mem_cons.1 determined
    cases members' with
    | nil => exact absurd same.symm (close_ne_members member members)
    | cons member' members' =>
      rw [members_text, members_text] at same
      obtain ⟨rfl, behind⟩ := member_unique here apart (List.cons.inj same).2
      obtain ⟨rfl, rests⟩ := ih others
        (apart.mono (by simp [memberWords]) (by simp [memberWords])) behind
      exact ⟨rfl, rests⟩

theorem empty_ne_object (member : String × Json) (members : List (String × Json)) :
    Format.compact.chars level (.object []) ++ rest ≠
      Format.compact.chars level (.object (member :: members)) ++ rest' := by
  rw [object_text]
  exact fun same => absurd (List.cons.inj same).2 (by simp [escape])

theorem object_determined {members : List (String × Json)}
    (determined : ∀ member ∈ members, Determined member.2) : Determined (.object members) := by
  intro level w rest rest' apart _ _ same
  have kind := mark?_unique apart same
  cases w with
  | object members' =>
    cases members with
    | nil =>
      cases members' with
      | nil => exact ⟨rfl, List.append_cancel_left same⟩
      | cons member' members' => exact absurd same (empty_ne_object member' members')
    | cons member members =>
      obtain ⟨here, others⟩ := List.forall_mem_cons.1 determined
      cases members' with
      | nil => exact absurd same.symm (empty_ne_object member members)
      | cons member' members' =>
        rw [object_text, object_text] at same
        obtain ⟨rfl, behind⟩ := member_unique here apart (List.cons.inj same).2
        obtain ⟨rfl, rests⟩ := memberChars_unique others
          (apart.mono (by simp [words, memberWords]) (by simp [words, memberWords])) behind
        exact ⟨rfl, rests⟩
  | _ => cases kind

end Parts

theorem chars_determined (v : Json) : Determined v := by
  induction v using nested_induction with
  | null => exact leaf_determined rfl
  | bool value => exact leaf_determined rfl
  | int value => exact leaf_determined rfl
  | float value => exact leaf_determined rfl
  | str text => exact str_determined text
  | array items ih => exact array_determined ih
  | object members ih => exact object_determined ih

end UiSchema.Json
