import UiSchema.Proofs.Json.Lossless

/-! The spelling of floating-point numbers. A finite number is written as one word of digits, signs,
points and exponent marks. There is always a point or an exponent mark in it, so that the word is
that of no other kind of leaf. -/

set_option autoImplicit false

namespace UiSchema

namespace Decimal

/-- What can stand in the text of a finite number. -/
def IsNumberChar (c : Char) : Prop := c.isDigit = true ∨ c ∈ ['+', '-', '.', 'e']

theorem isNumberChar_of_mem_toDigits {n : Nat} {c : Char} (member : c ∈ Nat.toDigits 10 n) :
    IsNumberChar c :=
  .inl (Nat.isDigit_of_mem_toDigits (by decide) (by decide) member)

theorem isNumberChar_replicate {n : Nat} {c : Char} (member : c ∈ List.replicate n '0') :
    IsNumberChar c := by
  rw [List.eq_of_mem_replicate member]
  exact .inl (by decide)

/-! ### Digits -/

theorem admits_of_nearest? {m : Measured} {digits : Nat} (found : m.nearest? = some digits) :
    m.admits digits = true := by
  unfold Measured.nearest? at found
  dsimp only at found
  split at found
  · -- both neighbours are admitted, so it does not matter which of them is taken
    rename_i below above
    have either : digits = m.value / m.unit ∨ digits = m.value / m.unit + 1 := by grind
    rcases either with rfl | rfl
    · exact below
    · exact above
  · rename_i below _
    cases found
    exact below
  · rename_i _ above
    cases found
    exact above
  · cases found

/-- The interval around a positive number does not reach down to zero. -/
theorem admits_zero {mantissa : Nat} (positive : 0 < mantissa) (exponent place : Int) :
    (measure mantissa exponent place).admits 0 = false := by
  have scale : 0 < Nat.pow 2 (exponent - 2).toNat * Nat.pow 10 (-place).toNat :=
    Nat.mul_pos (Nat.pow_pos (by decide)) (Nat.pow_pos (by decide))
  have low : 0 < (measure mantissa exponent place).low := by
    apply Nat.mul_pos _ scale
    split <;> omega
  unfold Measured.admits
  dsimp only
  split
  · exact decide_eq_false (by omega)
  · exact decide_eq_false (by omega)

theorem pos_of_nearest? {mantissa digits : Nat} {exponent place : Int} (positive : 0 < mantissa)
    (found : (measure mantissa exponent place).nearest? = some digits) : 0 < digits := by
  apply Nat.pos_of_ne_zero
  rintro rfl
  have admitted := admits_of_nearest? found
  rw [admits_zero positive] at admitted
  cases admitted

theorem dropZeros_ne_nil {n : Nat} (positive : 0 < n) : dropZeros (Nat.toDigits 10 n) ≠ [] := by
  obtain ⟨c, rest, digits, nonzero⟩ := Json.head_toDigits positive
  intro empty
  rw [dropZeros, List.reverse_eq_nil_iff, List.dropWhile_eq_nil_iff] at empty
  have zero := empty c (by simp [digits])
  exact nonzero (by simpa using zero)

/-- There are digits, unless the number stands for a whole number of one place. -/
theorem shortest_cases {mantissa : Nat} (positive : 0 < mantissa) (exponent : Int) :
    (shortest mantissa exponent).digits ≠ [] ∨ (shortest mantissa exponent).leading = 0 := by
  unfold shortest
  dsimp only
  generalize search : List.findSome? _ _ = found
  cases found with
  | none => exact .inr rfl
  | some pair =>
    obtain ⟨n, _, onGrid⟩ := List.exists_of_findSome?_eq_some search
    obtain ⟨digits, nearest, rfl⟩ := Option.map_eq_some_iff.1 onGrid
    exact .inl (dropZeros_ne_nil (pos_of_nearest? positive nearest))

theorem isNumberChar_shortest {mantissa : Nat} {exponent : Int} {c : Char}
    (member : c ∈ (shortest mantissa exponent).digits) : IsNumberChar c := by
  unfold shortest dropZeros at member
  rw [List.mem_reverse] at member
  have inDigits := (List.dropWhile_sublist _).subset member
  exact isNumberChar_of_mem_toDigits (List.mem_reverse.1 inDigits)

/-! ### Layouts -/

namespace Layout

variable {layout : Layout} {d : Digits} {c : Char}

theorem isNumberChar_positional (digits : ∀ c ∈ d.digits, IsNumberChar c)
    (member : c ∈ positional d) : IsNumberChar c := by
  have zero : IsNumberChar '0' := .inl (by decide)
  have point : IsNumberChar '.' := .inr (by decide)
  unfold positional at member
  split at member
  · simp only [List.cons_append, List.mem_cons, List.mem_append] at member
    rcases member with rfl | rfl | zeros | digit
    · exact zero
    · exact point
    · exact isNumberChar_replicate zeros
    · exact digits c digit
  · simp only [List.mem_append, List.mem_cons] at member
    rcases member with (whole | zeros) | rfl | fraction
    · exact digits c (List.mem_of_mem_take whole)
    · exact isNumberChar_replicate zeros
    · exact point
    · split at fraction
      · rw [List.mem_singleton.1 fraction]
        exact zero
      · exact digits c (List.mem_of_mem_drop fraction)

theorem isNumberChar_exponentChars {exponent : Int}
    (member : c ∈ layout.exponentChars exponent) : IsNumberChar c := by
  simp only [exponentChars, List.mem_append] at member
  rcases member with (sign | zeros) | digit
  · split at sign
    · rw [List.mem_singleton.1 sign]
      exact .inr (by decide)
    · split at sign
      · rw [List.mem_singleton.1 sign]
        exact .inr (by decide)
      · cases sign
  · exact isNumberChar_replicate zeros
  · exact isNumberChar_of_mem_toDigits digit

theorem isNumberChar_scientific (digits : ∀ c ∈ d.digits, IsNumberChar c)
    (member : c ∈ layout.scientific d) : IsNumberChar c := by
  unfold scientific at member
  split at member
  · cases member
  · rename_i first rest given
    rw [given] at digits
    obtain ⟨ofFirst, ofRest⟩ := List.forall_mem_cons.1 digits
    simp only [List.cons_append, List.mem_cons, List.mem_append] at member
    rcases member with rfl | fraction | rfl | exponent
    · exact ofFirst
    · split at fraction
      · cases fraction
      · rcases List.mem_cons.1 fraction with rfl | digit
        · exact .inr (by decide)
        · exact ofRest c digit
    · exact .inr (by decide)
    · exact isNumberChar_exponentChars exponent

theorem isNumberChar_finiteChars {mantissa : Nat} {exponent : Int}
    (member : c ∈ layout.finiteChars mantissa exponent) : IsNumberChar c := by
  unfold finiteChars at member
  split at member
  · simp only [List.mem_cons, List.not_mem_nil, or_false] at member
    rcases member with rfl | rfl | rfl
    · exact .inl rfl
    · exact .inr (by decide)
    · exact .inl rfl
  · dsimp only at member
    split at member
    · exact isNumberChar_positional (fun _ => isNumberChar_shortest) member
    · exact isNumberChar_scientific (fun _ => isNumberChar_shortest) member

/-- The layout writes numbers of one place with a point. -/
def PointsUnits (layout : Layout) : Prop := layout.least ≤ 0 ∧ 0 ≤ layout.greatest

theorem finiteChars_marked (units : layout.PointsUnits) (mantissa : Nat) (exponent : Int) :
    ∃ c ∈ layout.finiteChars mantissa exponent, c = '.' ∨ c = 'e' := by
  refine (mem_finiteChars mantissa exponent).resolve_left ?_
  unfold finiteChars
  split
  · exact List.cons_ne_nil _ _
  · rename_i nonzero
    dsimp only
    split
    · exact List.ne_nil_of_mem (mem_positional _)
    · -- only a number without digits could come to nothing, and that is written with a point
      rename_i outside
      rcases shortest_cases (Nat.pos_of_ne_zero nonzero) exponent with digits | leading
      · unfold scientific
        split
        · rename_i empty
          exact absurd empty digits
        · exact List.cons_ne_nil _ _
      · rw [leading] at outside
        exact absurd units outside

/-- What is written for a finite number. -/
theorem toList_write {x : Float} (finite : x.isFinite = true) :
    ∃ (negative : Bool) (mantissa : Nat) (exponent : Int), (layout.write x).toList =
      (if negative then ['-'] else []) ++ layout.finiteChars mantissa exponent := by
  obtain ⟨negative, mantissa, exponent, bits⟩ := ofFloat_eq_finite finite
  refine ⟨negative, mantissa, exponent, ?_⟩
  rw [write, bits]
  exact String.toList_ofList

variable {x : Float} (finite : x.isFinite = true)
include finite

theorem isNumberChar_write (member : c ∈ (layout.write x).toList) : IsNumberChar c := by
  obtain ⟨negative, mantissa, exponent, text⟩ := layout.toList_write finite
  rw [text, List.mem_append] at member
  rcases member with sign | number
  · split at sign
    · rw [List.mem_singleton.1 sign]
      exact .inr (by decide)
    · cases sign
  · exact isNumberChar_finiteChars number

/-- A finite number is written with a point or an exponent. -/
theorem write_marked (units : layout.PointsUnits) :
    ∃ c ∈ (layout.write x).toList, c = '.' ∨ c = 'e' := by
  obtain ⟨negative, mantissa, exponent, text⟩ := layout.toList_write finite
  obtain ⟨c, member, mark⟩ := finiteChars_marked units mantissa exponent
  rw [text]
  exact ⟨c, List.mem_append_right _ member, mark⟩

end Layout

end Decimal

namespace Json

open Decimal (IsNumberChar)

theorem isWordChar_of_isNumberChar {c : Char} (number : IsNumberChar c) :
    Scan.isWordChar c = true := by
  rcases number with digit | other
  · exact Numeral.isWordChar_of_isDigit digit
  · simp only [List.mem_cons, List.not_mem_nil, or_false] at other
    rcases other with rfl | rfl | rfl | rfl <;> rfl

theorem pointsUnits_compact : Format.compact.layout.PointsUnits := ⟨by decide, by decide⟩

variable {x : Float} (finite : x.isFinite = true)
include finite

theorem isWord_float : IsWord .compact (.float x) := by
  constructor
  · obtain ⟨c, member, _⟩ := Decimal.Layout.write_marked finite pointsUnits_compact
    exact List.ne_nil_of_mem member
  · exact fun c member =>
      isWordChar_of_isNumberChar (Decimal.Layout.isNumberChar_write finite member)

/-- A word that is no number is not the word of a floating-point number. -/
theorem chars_float_ne {word : List Char} {c : Char} (member : c ∈ word)
    (digit : c.isDigit = false) (other : c ∉ ['+', '-', '.', 'e']) :
    Format.compact.chars 0 (.float x) ≠ word := by
  rintro rfl
  rcases Decimal.Layout.isNumberChar_write finite member with isDigit | isOther
  · rw [digit] at isDigit
    cases isDigit
  · exact other isOther

/-- The kinds of leaves are told apart by their words. -/
theorem Bare.chars_ne_float {leaf : Json} (bare : Bare leaf) :
    Format.compact.chars 0 (.float x) ≠ Format.compact.chars 0 leaf := by
  cases bare with
  | null => exact chars_float_ne finite (c := 'n') (by decide) (by decide) (by decide)
  | bool flag =>
    cases flag with
    | true => exact chars_float_ne finite (c := 't') (by decide) (by decide) (by decide)
    | false => exact chars_float_ne finite (c := 'f') (by decide) (by decide) (by decide)
  | int value =>
    obtain ⟨c, member, mark⟩ := Decimal.Layout.write_marked finite pointsUnits_compact
    intro same
    rcases mark with rfl | rfl
    · exact toString_ne member (by decide) (by decide) same.symm
    · exact toString_ne member (by decide) (by decide) same.symm

end Json

end UiSchema
