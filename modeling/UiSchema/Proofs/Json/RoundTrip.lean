import UiSchema.Json.Load
import UiSchema.Proofs.Json.Ints
import UiSchema.Proofs.Json.Numeral
import UiSchema.Proofs.Json.Reading

/-! Encoded documents decoded again. All that a decoder can refuse in them is a whole number that is
too long and too many open arrays and objects. -/

set_option autoImplicit false

namespace UiSchema.Json

/-- What was read before the rest is made of characters of words. -/
def Passed (cs rest : List Char) : Prop :=
  ∃ front, cs = front ++ rest ∧ ∀ c ∈ front, Scan.isWordChar c = true

namespace Passed

theorem nothing (cs : List Char) : Passed cs cs := ⟨[], rfl, nofun⟩

theorem cons {c : Char} {cs rest : List Char} (letter : Scan.isWordChar c = true)
    (passed : Passed cs rest) : Passed (c :: cs) rest := by
  obtain ⟨front, rfl, letters⟩ := passed
  exact ⟨c :: front, rfl, List.forall_mem_cons.2 ⟨letter, letters⟩⟩

theorem trans {first second third : List Char} (before : Passed first second)
    (after : Passed second third) : Passed first third := by
  obtain ⟨front, rfl, letters⟩ := before
  obtain ⟨back, rfl, letters'⟩ := after
  exact ⟨front ++ back, (List.append_assoc ..).symm, List.forall_mem_append.2 ⟨letters, letters'⟩⟩

theorem letters {cs : List Char} (passed : Passed cs []) : ∀ c ∈ cs, Scan.isWordChar c = true := by
  obtain ⟨front, rfl, letters⟩ := passed
  rwa [List.append_nil]

end Passed

namespace Numeral

theorem isWordChar_of_isDigit {c : Char} (digit : isDigit c = true) : Scan.isWordChar c = true := by
  rw [isDigit_eq] at digit
  simp [Scan.isWordChar, Char.isAlphanum, digit]

variable {cs rest : List Char}

/-- Digits are read as far as they go, and there is at least one. -/
theorem digits_of_digits? {digits : List Char} (read : digits? cs = some (digits, rest)) :
    cs = digits ++ rest ∧ digits ≠ [] ∧ ∀ c ∈ digits, isDigit c = true := by
  unfold digits? at read
  split at read
  · cases read
  · rename_i some
    cases read
    exact ⟨(List.takeWhile_append_dropWhile ..).symm, some,
      fun c member => List.mem_takeWhile_imp member⟩

theorem digits_of_whole? {digits : List Char} (read : whole? cs = some (digits, rest)) :
    cs = digits ++ rest ∧ digits ≠ [] ∧ ∀ c ∈ digits, isDigit c = true := by
  obtain ⟨⟨first, after⟩, found, same⟩ := Option.bind_eq_some_iff.1 read
  dsimp only at same
  split at same
  · cases same
  · cases same
    exact digits_of_digits? found

theorem passed_digits {digits : List Char} (read : digits? cs = some (digits, rest)) :
    Passed cs rest := by
  obtain ⟨rfl, _, all⟩ := digits_of_digits? read
  exact ⟨digits, rfl, fun c member => isWordChar_of_isDigit (all c member)⟩

theorem passed_whole {digits : List Char} (read : whole? cs = some (digits, rest)) :
    Passed cs rest ∧ cs ≠ [] := by
  obtain ⟨rfl, some, all⟩ := digits_of_whole? read
  exact ⟨⟨digits, rfl, fun c member => isWordChar_of_isDigit (all c member)⟩,
    List.append_ne_nil_of_left_ne_nil some _⟩

theorem passed_fraction {fraction : Option (List Char)}
    (read : fraction? cs = some (fraction, rest)) : Passed cs rest := by
  unfold fraction? at read
  split at read
  · obtain ⟨⟨digits, after⟩, found, same⟩ := Option.map_eq_some_iff.1 read
    cases same
    exact (passed_digits found).cons (by decide)
  · cases read
    exact .nothing _

theorem passed_exponentValue {value : Int} (read : exponentValue? cs = some (value, rest)) :
    Passed cs rest := by
  unfold exponentValue? at read
  split at read <;> obtain ⟨⟨digits, after⟩, found, same⟩ := Option.map_eq_some_iff.1 read <;>
    cases same
  · exact (passed_digits found).cons (by decide)
  · exact (passed_digits found).cons (by decide)
  · exact passed_digits found

theorem passed_exponent {exponent : Option Int} (read : exponent? cs = some (exponent, rest)) :
    Passed cs rest := by
  unfold exponent? at read
  split at read
  · split at read
    · rename_i mark
      obtain ⟨⟨value, after⟩, found, same⟩ := Option.map_eq_some_iff.1 read
      cases same
      rcases mark with rfl | rfl
      · exact (passed_exponentValue found).cons (by decide)
      · exact (passed_exponentValue found).cons (by decide)
    · cases read
      exact .nothing _
  · cases read
    exact .nothing _

theorem passed_unsigned {negative : Bool} {n : Numeral} (read : unsigned? negative cs = some n) :
    Passed cs [] ∧ cs ≠ [] := by
  obtain ⟨⟨digits, afterWhole⟩, whole, read⟩ := Option.bind_eq_some_iff.1 read
  obtain ⟨⟨point, afterPoint⟩, fraction, read⟩ := Option.bind_eq_some_iff.1 read
  obtain ⟨⟨power, afterPower⟩, exponent, read⟩ := Option.bind_eq_some_iff.1 read
  dsimp only at fraction exponent read
  obtain rfl : afterPower = [] := by
    split at read
    · rename_i empty
      exact List.isEmpty_iff.1 empty
    · cases read
  obtain ⟨passed, some⟩ := passed_whole whole
  exact ⟨passed.trans ((passed_fraction fraction).trans (passed_exponent exponent)), some⟩

theorem passed_read {n : Numeral} (read : read? cs = some n) : Passed cs [] ∧ cs ≠ [] := by
  unfold read? at read
  split at read
  · exact ⟨(passed_unsigned read).1.cons (by decide), nofun⟩
  · exact passed_unsigned read

end Numeral

/-- Whatever can be read as a bare word is made of the characters of words. -/
theorem passed_word {d : Dialect} {cs : List Char} {leaf : Json} (read : word? d cs = some leaf) :
    Passed cs [] ∧ cs ≠ [] := by
  have name {word : List Char} (same : cs = word)
      (letters : word.all Scan.isWordChar = true) (some : word ≠ []) : Passed cs [] ∧ cs ≠ [] := by
    subst same
    exact ⟨⟨cs, (List.append_nil cs).symm, List.all_eq_true.1 letters⟩, some⟩
  -- the spelled words one after the other, and then the numbers
  unfold word? at read
  split at read
  · rename_i same
    exact name same rfl nofun
  split at read
  · rename_i same
    exact name same rfl nofun
  split at read
  · rename_i same
    exact name same rfl nofun
  split at read
  · rename_i named
    exact name (beq_iff_eq.1 (Bool.and_eq_true_iff.1 named).2) (by decide) (by decide)
  split at read
  · rename_i named
    exact name (beq_iff_eq.1 (Bool.and_eq_true_iff.1 named).2) (by decide) (by decide)
  split at read
  · rename_i named
    exact name (beq_iff_eq.1 (Bool.and_eq_true_iff.1 named).2) (by decide) (by decide)
  obtain ⟨n, numeral, _⟩ := Option.bind_eq_some_iff.1 read
  exact Numeral.passed_read numeral

section Words

variable {d : Dialect} {f : Format}

theorem Legible.isWord {leaf : Json} (legible : Legible d f leaf) : IsWord f leaf :=
  ⟨(passed_word legible).2, (passed_word legible).1.letters⟩

theorem Format.Plain.legible_null (plain : f.Plain) : Legible d f .null := by
  unfold Legible Format.chars
  rw [plain.null]
  rfl

theorem Format.Plain.legible_bool (plain : f.Plain) (value : Bool) : Legible d f (.bool value) := by
  unfold Legible
  cases value with
  | true =>
    rw [Format.chars, plain.yes]
    rfl
  | false =>
    rw [Format.chars, plain.no]
    rfl

theorem legible_int_iff {value : Int} : Legible d f (.int value) ↔ ¬ Oversized d value := by
  unfold Legible Format.chars
  rw [word?_int]
  split <;> simp_all

mutual

/-- Texts, arrays and objects are no words. -/
theorem mark?_of_mem_words {leaf : Json} : ∀ v : Json, leaf ∈ words v → mark? leaf = none
  | .null, member | .bool _, member | .int _, member | .float _, member => by
    cases List.mem_singleton.1 member
    rfl
  | .str _, member => nomatch member
  | .array items, member => mark?_of_mem_itemWords items member
  | .object members, member => mark?_of_mem_memberWords members member

theorem mark?_of_mem_itemWords {leaf : Json} :
    ∀ items : List Json, leaf ∈ itemWords items → mark? leaf = none
  | [], member => nomatch member
  | item :: items, member =>
    (List.mem_append.1 member).elim (mark?_of_mem_words item) (mark?_of_mem_itemWords items)

theorem mark?_of_mem_memberWords {leaf : Json} :
    ∀ members : List (String × Json), leaf ∈ memberWords members → mark? leaf = none
  | [], member => nomatch member
  | (_, value) :: members, member =>
    (List.mem_append.1 member).elim (mark?_of_mem_words value) (mark?_of_mem_memberWords members)

end

end Words

/-- The format that a document is encoded in. -/
def encoding (value : Json) (indent : Int) : Format :=
  if indent = 0 then (if value.fitsWords then .compact else .compactWide)
  else .indented indent.toNat

theorem written_eq (value : Json) (indent : Int) :
    value.written indent = (value.encoding indent).write value := by
  unfold written encoding
  split <;> rfl

theorem plain_inline (layout : Decimal.Layout) : { Format.compact with layout }.Plain where
  quote := rfl
  null := rfl
  yes := rfl
  no := rfl
  edge := fun _ => nofun
  gap := fun _ => nofun
  afterColon := nofun

theorem isSpace_newline (width : Nat) :
    ∀ c ∈ '\n' :: List.replicate width ' ', Scan.isSpace c = true := by
  intro c member
  rcases List.mem_cons.1 member with rfl | blank
  · rfl
  · rw [List.eq_of_mem_replicate blank]
    rfl

theorem plain_indented (indent : Nat) : (Format.indented indent).Plain where
  quote := rfl
  null := rfl
  yes := rfl
  no := rfl
  edge := fun level => isSpace_newline (indent * level)
  gap := fun level => isSpace_newline (indent * level)
  afterColon := List.forall_mem_singleton.2 rfl

/-- The formats of the encoders: three on one line, and those with one item a line. -/
inductive Format.Encodes : Format → Prop where
  | compact : Encodes .compact
  | wide : Encodes .compactWide
  | literal : Encodes .literal
  | indented (indent : Nat) : Encodes (.indented indent)

theorem Format.Encodes.plain {f : Format} (encodes : f.Encodes) : f.Plain := by
  cases encodes with
  | compact => exact plain_inline _
  | wide => exact plain_inline _
  | literal => exact plain_inline _
  | indented indent => exact plain_indented indent

theorem encodes_encoding (value : Json) (indent : Int) : (value.encoding indent).Encodes := by
  unfold encoding
  split
  · split
    · exact .compact
    · exact .wide
  · exact .indented _

theorem plain_encoding (value : Json) (indent : Int) : (value.encoding indent).Plain :=
  (encodes_encoding value indent).plain

/-- What a reader bears: no whole number that is too long, and not too many open arrays and
objects. -/
structure Within (d : Dialect) (v : Json) : Prop where
  whole : ∀ value, .int value ∈ words v → ¬ Oversized d value
  nesting : v.nesting ≤ d.depth

/-- A whole number that is not too long with its sign is not too long without it. -/
theorem Within.fitsText {d : Dialect} {v : Json} (within : Within d v) : v.fitsText = true := by
  refine (allInts_iff v).2 fun value member => decide_eq_true ?_
  have short : ¬ mostDigits < (Nat.toDigits 10 value.natAbs).length + _ := fun long =>
    within.whole value member (decide_eq_true long)
  omega

/-- What a format writes is read back, within what the reader bears. -/
theorem read_write_eq_ok {d : Dialect} {f : Format} (plain : f.Plain) {v found : Json}
    (keyed : Keyed v) (floats : ∀ value, .float value ∈ words v → Legible d f (.float value)) :
    read d (f.write v) = .ok found ↔ Within d v ∧ v = found := by
  have isWord : ∀ leaf ∈ words v, IsWord f leaf := by
    intro leaf member
    cases leaf with
    | null => exact plain.legible_null (d := d).isWord
    | bool value => exact (plain.legible_bool value (d := d)).isWord
    | int value => exact isWord_int f value
    | float value => exact (floats value member).isWord
    | _ => cases mark?_of_mem_words v member
  -- only a whole number can be without a reading
  have legible : ∀ leaf ∈ words v, (∀ value, leaf = .int value → ¬ Oversized d value) →
      Legible d f leaf := by
    intro leaf member short
    cases leaf with
    | null => exact plain.legible_null
    | bool value => exact plain.legible_bool value
    | int value => exact legible_int_iff.2 (short value rfl)
    | float value => exact floats value member
    | _ => cases mark?_of_mem_words v member
  have legibleOrNone : ∀ leaf ∈ words v,
      Legible d f leaf ∨ word? d (f.chars 0 leaf) = none := by
    intro leaf member
    by_cases long : ∃ value, leaf = .int value ∧ Oversized d value
    · obtain ⟨value, rfl, long⟩ := long
      right
      rw [Format.chars, word?_int, if_pos long]
    · left
      exact legible leaf member fun value same long' => long ⟨value, same, long'⟩
  rw [read, Format.write, String.toList_ofList, readChars_eq_ok plain keyed isWord legibleOrNone]
  refine and_congr_left fun _ => ?_
  constructor
  · rintro ⟨every, room⟩
    exact ⟨fun value member => legible_int_iff.1 (every _ member), room⟩
  · rintro ⟨whole, room⟩
    exact ⟨fun leaf member => legible leaf member fun value same => whole value (same ▸ member),
      room⟩

theorem load_eq_ok {text : String} {found : Json} :
    load text false = .ok found ↔ read .strict text = .ok found := by
  unfold load
  split <;> simp_all

/-- Decoding undoes encoding, within what the decoder bears. -/
theorem load_written_eq_ok {v found : Json} {indent : Int} (keyed : Keyed v)
    (floats : ∀ value, .float value ∈ words v →
      Legible .strict (v.encoding indent) (.float value)) :
    load (v.written indent) false = .ok found ↔ Within .strict v ∧ v = found := by
  rw [load_eq_ok, written_eq, read_write_eq_ok (plain_encoding v indent) keyed floats]

end UiSchema.Json
