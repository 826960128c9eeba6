import Mathlib.Data.List.TakeWhile
import UiSchema.Proofs.Json.Unambiguous

/-! Whole numbers as words. Their digits begin with no zero that could be left out, so they are read
back, and different numbers are written differently. -/

set_option autoImplicit false

namespace UiSchema.Json

/-- The digits of a positive number do not begin with a zero. -/
theorem head_toDigits {n : Nat} (positive : 0 < n) :
    ∃ c rest, Nat.toDigits 10 n = c :: rest ∧ c ≠ '0' := by
  induction n using Nat.strongRecOn with
  | _ n ih =>
    by_cases small : n < 10
    · refine ⟨n.digitChar, [], Nat.toDigits_of_lt_base small, ?_⟩
      rw [Ne, Nat.digitChar_eq_zero]
      omega
    · obtain ⟨c, rest, digits, nonzero⟩ := ih (n / 10) (by omega) (by omega)
      rw [Nat.toDigits_of_base_le (by decide) (by omega), digits]
      exact ⟨c, _, rfl, nonzero⟩

def signChars (value : Int) : List Char := if value < 0 then ['-'] else []

theorem toList_toString (value : Int) :
    (toString value).toList = signChars value ++ Nat.toDigits 10 value.natAbs := by
  cases value with
  | ofNat n =>
    have digits : toString (Int.ofNat n) = n.repr := rfl
    rw [digits, Nat.toList_repr]
    simp [signChars]
  | negSucc n =>
    have digits : toString (Int.negSucc n) = "-" ++ (n + 1).repr := rfl
    rw [digits, String.toList_append, Nat.toList_repr]
    simp [signChars, Int.negSucc_lt_zero]

theorem Numeral.isDigit_eq (c : Char) : Numeral.isDigit c = c.isDigit := rfl

theorem isDigit_of_mem {n : Nat} {c : Char} (member : c ∈ Nat.toDigits 10 n) :
    Numeral.isDigit c = true := by
  rw [Numeral.isDigit_eq]
  exact Nat.isDigit_of_mem_toDigits (by decide) (by decide) member

theorem mem_toString {value : Int} {c : Char} (member : c ∈ (toString value).toList) :
    c = '-' ∨ Numeral.isDigit c = true := by
  rw [toList_toString, List.mem_append] at member
  rcases member with sign | digit
  · unfold signChars at sign
    split at sign
    · exact .inl (List.mem_singleton.1 sign)
    · cases sign
  · exact .inr (isDigit_of_mem digit)

/-- A whole number is written as one word. -/
theorem isWord_int (f : Format) (value : Int) : IsWord f (.int value) := by
  constructor
  · show (toString value).toList ≠ []
    rw [toList_toString]
    simp [Nat.toDigits_ne_nil]
  · intro c member
    rcases mem_toString member with rfl | digit
    · decide
    · rw [Numeral.isDigit_eq] at digit
      simp [Scan.isWordChar, Char.isAlphanum, digit]

/-- A word with a letter that is no digit is not that of a whole number. -/
theorem toString_ne {value : Int} {word : List Char} {c : Char} (member : c ∈ word)
    (sign : c ≠ '-') (digit : Numeral.isDigit c = false) : (toString value).toList ≠ word := by
  rintro rfl
  rcases mem_toString member with equal | isDigit
  · exact sign equal
  · rw [digit] at isDigit
    cases isDigit

namespace Numeral

theorem digits?_toDigits (n : Nat) :
    digits? (Nat.toDigits 10 n) = some (Nat.toDigits 10 n, []) := by
  have all : (Nat.toDigits 10 n).takeWhile isDigit = Nat.toDigits 10 n := by
    rw [List.takeWhile_eq_self_iff]
    exact fun c member => isDigit_of_mem member
  have none : (Nat.toDigits 10 n).dropWhile isDigit = [] := by
    rw [List.dropWhile_eq_nil_iff]
    exact fun c member => isDigit_of_mem member
  unfold digits?
  rw [all, none]
  split
  · rename_i empty
    exact absurd empty Nat.toDigits_ne_nil
  · rfl

theorem unsigned?_toDigits (negative : Bool) (n : Nat) :
    unsigned? negative (Nat.toDigits 10 n) =
      some { negative, whole := Nat.toDigits 10 n, fraction := none, exponent := none } := by
  have whole : whole? (Nat.toDigits 10 n) = some (Nat.toDigits 10 n, []) := by
    unfold whole?
    rw [digits?_toDigits]
    rcases Nat.eq_zero_or_pos n with rfl | positive
    · rfl
    · obtain ⟨c, rest, digits, nonzero⟩ := head_toDigits positive
      rw [digits]
      cases rest <;> simp [nonzero]
  unfold unsigned?
  rw [whole]
  rfl

/-- The numeral of a whole number. -/
theorem read?_toString (value : Int) :
    read? (toString value).toList =
      some { negative := decide (value < 0), whole := Nat.toDigits 10 value.natAbs,
             fraction := none, exponent := none } := by
  rw [toList_toString, signChars]
  by_cases negative : value < 0
  · rw [if_pos negative, decide_eq_true negative]
    exact unsigned?_toDigits true value.natAbs
  · rw [if_neg negative, decide_eq_false negative, List.nil_append]
    rw [← unsigned?_toDigits]
    unfold read?
    split
    · rename_i rest text
      have sign : '-' ∈ Nat.toDigits 10 value.natAbs := by simp [text]
      exact absurd (isDigit_of_mem sign) (by decide)
    · rfl

end Numeral

/-- Different whole numbers are written differently. -/
theorem toString_injective {a b : Int} (same : (toString a).toList = (toString b).toList) :
    a = b := by
  have read := congrArg Numeral.read? same
  rw [Numeral.read?_toString, Numeral.read?_toString, Option.some.injEq, Numeral.mk.injEq] at read
  obtain ⟨negative, digits, _⟩ := read
  -- the digits give the size, and the rest of the numeral the sign
  have size := congrArg (fun cs => Nat.ofDigitChars 10 cs 0) digits
  simp only [Nat.ofDigitChars_ten_toDigits] at size
  rw [decide_eq_decide] at negative
  omega

/-- A whole number is too long for a reader. -/
def Oversized (d : Dialect) (value : Int) : Prop :=
  Numeral.isOversized d (decide (value < 0)) (Nat.toDigits 10 value.natAbs) = true

instance (d : Dialect) (value : Int) : Decidable (Oversized d value) :=
  inferInstanceAs (Decidable (_ = true))

/-- A word that is a numeral is none of the others. -/
theorem word?_of_read? {d : Dialect} {cs : List Char} {n : Numeral}
    (read : Numeral.read? cs = some n) : word? d cs = n.toJson? d := by
  have ne {word : List Char} (spelled : Numeral.read? word = none) : cs ≠ word := by
    rintro rfl
    cases spelled.symm.trans read
  have nan : (cs == "NaN".toList) = false := beq_false_of_ne (ne (by decide))
  have infinity : (cs == "Infinity".toList) = false := beq_false_of_ne (ne (by decide))
  have negative : (cs == "-Infinity".toList) = false := beq_false_of_ne (ne (by decide))
  unfold word?
  rw [if_neg (ne (by decide)), if_neg (ne (by decide)), if_neg (ne (by decide)), nan, infinity,
    negative, read]
  simp only [Bool.and_false, Bool.false_eq_true, if_false]
  rfl

/-- A whole number that is not too long is read back. -/
theorem word?_int (d : Dialect) (value : Int) :
    word? d (toString value).toList = if Oversized d value then none else some (.int value) := by
  have size : Decimal.digitsValue (Nat.toDigits 10 value.natAbs) = value.natAbs :=
    Nat.ofDigitChars_ten_toDigits
  have signed : (if value < 0 then -(value.natAbs : Int) else value.natAbs) = value := by
    split <;> omega
  rw [word?_of_read? (Numeral.read?_toString value)]
  simp only [Numeral.toJson?, size, decide_eq_true_eq, signed]
  rfl

/-- A leaf whose word tells it apart from all others of its kind: no floating-point number. -/
inductive Bare : Json → Prop where
  | null : Bare .null
  | bool (value : Bool) : Bare (.bool value)
  | int (value : Int) : Bare (.int value)

namespace Bare

theorem isWord {leaf : Json} (bare : Bare leaf) : IsWord .compact leaf := by
  cases bare with
  | null => exact ⟨nofun, List.all_eq_true.1 rfl⟩
  | bool value => cases value <;> exact ⟨nofun, List.all_eq_true.1 rfl⟩
  | int value => exact isWord_int .compact value

theorem int_eq_of_chars {value : Int} {leaf : Json} (bare : Bare leaf)
    (same : Format.compact.chars 0 (.int value) = Format.compact.chars 0 leaf) :
    .int value = leaf := by
  cases bare with
  | null => exact absurd same (toString_ne (c := 'n') (by decide) (by decide) (by decide))
  | bool flag =>
    cases flag with
    | true => exact absurd same (toString_ne (c := 't') (by decide) (by decide) (by decide))
    | false => exact absurd same (toString_ne (c := 'f') (by decide) (by decide) (by decide))
  | int other => rw [toString_injective same]

theorem eq_of_chars {a b : Json} (left : Bare a) (right : Bare b)
    (same : Format.compact.chars 0 a = Format.compact.chars 0 b) : a = b := by
  cases left with
  | int value => exact int_eq_of_chars right same
  | null =>
    cases right with
    | int other => exact (int_eq_of_chars .null same.symm).symm
    | null => rfl
    | bool flag => cases flag <;> exact absurd same (by decide)
  | bool flag =>
    cases right with
    | int other => exact (int_eq_of_chars (.bool flag) same.symm).symm
    | null => cases flag <;> exact absurd same (by decide)
    | bool other => cases flag <;> cases other <;> first | rfl | exact absurd same (by decide)

end Bare

theorem apart_of_bare {a b : List Json} (left : ∀ leaf ∈ a, Bare leaf)
    (right : ∀ leaf ∈ b, Bare leaf) : Apart a b where
  left := fun leaf member => (left leaf member).isWord
  right := fun leaf member => (right leaf member).isWord
  texts := fun x member y member' => (left x member).eq_of_chars (right y member')

end UiSchema.Json
