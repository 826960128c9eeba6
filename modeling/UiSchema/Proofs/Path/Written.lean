import Mathlib.Data.List.Induction
import Mathlib.Tactic.Ring
import UiSchema.Proofs.Json.Numeral
import UiSchema.Proofs.Path.Grammar

/-! Paths written and read. What is written for a path that was read is the text that was read,
without white space around it and without the zeros in front of its indexes; and a path is read back
exactly when the grammar has a spelling for it. -/

set_option autoImplicit false

namespace UiSchema.Path

/-! ### Digits -/

theorem toNat_of_isDigit {c : Char} (digit : c.isDigit = true) : 48 ≤ c.toNat ∧ c.toNat ≤ 57 := by
  simpa [Char.isDigit, UInt32.le_iff_toNat_le] using digit

/-- What holds of ten characters holds of every digit. -/
theorem forall_isDigit {P : Char → Prop} (each : ∀ n < 10, P (Char.ofNat (n + 48))) {c : Char}
    (digit : c.isDigit = true) : P c := by
  have range := toNat_of_isDigit digit
  have found := each (c.toNat - 48) (by omega)
  rwa [Nat.sub_add_cancel range.1, Char.ofNat_toNat] at found

theorem digitChar_of_isDigit {c : Char} (digit : c.isDigit = true) :
    (c.toNat - '0'.toNat).digitChar = c :=
  forall_isDigit (P := fun c => (c.toNat - '0'.toNat).digitChar = c) (by decide) digit

theorem ofDigitChars_lt {cs : List Char} (digits : ∀ c ∈ cs, c.isDigit = true) (init : Nat) :
    Nat.ofDigitChars 10 cs init < (init + 1) * 10 ^ cs.length := by
  induction cs generalizing init with
  | nil => simp
  | cons c cs ih =>
    obtain ⟨here, others⟩ := List.forall_mem_cons.1 digits
    have small : c.toNat - '0'.toNat ≤ 9 := by
      have := toNat_of_isDigit here
      show c.toNat - 48 ≤ 9
      omega
    rw [Nat.ofDigitChars_cons, List.length_cons]
    calc Nat.ofDigitChars 10 cs (10 * init + (c.toNat - '0'.toNat))
        < (10 * init + (c.toNat - '0'.toNat) + 1) * 10 ^ cs.length := ih others _
      _ ≤ ((init + 1) * 10) * 10 ^ cs.length := Nat.mul_le_mul_right _ (by omega)
      _ = (init + 1) * 10 ^ (cs.length + 1) := by ring

/-- Digits that do not begin with a zero are those of their number. -/
theorem toDigits_ofDigitChars {c : Char} {cs : List Char} (nonzero : c ≠ '0')
    (digits : ∀ d ∈ c :: cs, d.isDigit = true) :
    Nat.toDigits 10 (Nat.ofDigitChars 10 (c :: cs) 0) = c :: cs := by
  have below {d : Char} (digit : d.isDigit = true) : d.toNat - '0'.toNat < 10 := by
    have := toNat_of_isDigit digit
    show d.toNat - 48 < 10
    omega
  -- the last digit is the remainder, and what is in front of it is not zero
  induction cs using List.reverseRecOn with
  | nil =>
    have here := digits c List.mem_cons_self
    show Nat.toDigits 10 (10 * 0 + (c.toNat - '0'.toNat)) = [c]
    rw [Nat.mul_zero, Nat.zero_add, Nat.toDigits_of_lt_base (below here), digitChar_of_isDigit here]
  | append_singleton cs d ih =>
    rw [← List.cons_append] at digits ⊢
    obtain ⟨front, last⟩ := List.forall_mem_append.1 digits
    have isDigit := last d List.mem_cons_self
    have written := ih front
    have positive : 0 < Nat.ofDigitChars 10 (c :: cs) 0 := by
      rcases Nat.eq_zero_or_pos (Nat.ofDigitChars 10 (c :: cs) 0) with zero | positive
      · rw [zero] at written
        exact absurd (List.cons.inj written).1.symm nonzero
      · exact positive
    rw [Nat.ofDigitChars_append]
    show Nat.toDigits 10 (10 * Nat.ofDigitChars 10 (c :: cs) 0 + (d.toNat - '0'.toNat)) = _
    rw [← Nat.toDigits_append_toDigits (by decide) positive (below isDigit), written,
      Nat.toDigits_of_lt_base (below isDigit), digitChar_of_isDigit isDigit]

/-! ### What is written for a path that was read -/

/-- The text without the zeros that stand between an opening bracket, or another such zero, and a
digit. -/
def plainIndexes (opened : Bool) : List Char → List Char
  | [] => []
  | c :: rest =>
    if opened && c == '0' && rest.head?.any Char.isDigit then plainIndexes true rest
    else c :: plainIndexes (c == '[') rest

theorem plainIndexes_closed (c : Char) (rest : List Char) :
    plainIndexes false (c :: rest) = c :: plainIndexes (c == '[') rest := rfl

theorem plainIndexes_identifier {cs : List Char} (name : ∀ c ∈ cs, isNameChar c = true)
    (rest : List Char) : plainIndexes false (cs ++ rest) = cs ++ plainIndexes false rest := by
  induction cs with
  | nil => rfl
  | cons c cs ih =>
    obtain ⟨here, others⟩ := List.forall_mem_cons.1 name
    have noBracket : (c == '[') = false := by
      rw [beq_eq_false_iff_ne]
      rintro rfl
      exact absurd here (by decide)
    rw [List.cons_append, plainIndexes_closed, noBracket, ih others]
    rfl

theorem isNameChar_of_isDigit {c : Char} (digit : c.isDigit = true) : isNameChar c = true :=
  forall_isDigit (P := fun c => isNameChar c = true) (by decide) digit

theorem plainIndexes_digits {cs : List Char} (digits : ∀ c ∈ cs, c.isDigit = true)
    (rest : List Char) :
    plainIndexes false (cs ++ ']' :: rest) = cs ++ ']' :: plainIndexes false rest := by
  rw [plainIndexes_identifier fun c member => isNameChar_of_isDigit (digits c member)]
  rfl

/-- Between brackets the digits of the number are left. -/
theorem plainIndexes_index (digits : Digits) (rest : List Char) :
    plainIndexes true (digits.val ++ ']' :: rest) =
      Nat.toDigits 10 (Nat.ofDigitChars 10 digits.val 0) ++ ']' :: plainIndexes false rest := by
  obtain ⟨cs, nonempty, all⟩ := digits
  show plainIndexes true (cs ++ ']' :: rest) = Nat.toDigits 10 (Nat.ofDigitChars 10 cs 0) ++ _
  induction cs with
  | nil => exact absurd rfl nonempty
  | cons c cs ih =>
    obtain ⟨here, others⟩ := List.forall_mem_cons.1 all
    have noBracket : (c == '[') = false := by
      rw [beq_eq_false_iff_ne]
      rintro rfl
      cases here
    -- only a zero can go, and only if a digit follows it
    by_cases zero : c = '0'
    · subst zero
      cases cs with
      | nil => rfl
      | cons d ds =>
        have follows : d.isDigit = true := others d List.mem_cons_self
        have dropped : plainIndexes true ('0' :: (d :: ds ++ ']' :: rest)) =
            plainIndexes true (d :: ds ++ ']' :: rest) := if_pos (by simp [follows])
        rw [List.cons_append, dropped, ih (List.cons_ne_nil d ds) others]
        rfl
    · have kept : plainIndexes true (c :: (cs ++ ']' :: rest)) =
          c :: plainIndexes false (cs ++ ']' :: rest) := by
        rw [plainIndexes, if_neg (by simp [zero]), noBracket]
      rw [List.cons_append, kept, plainIndexes_digits others, toDigits_ofDigitChars zero all]
      rfl

/-- A number is written without a sign. -/
theorem chars_index (n : Nat) : (Segment.index n).chars = '[' :: (Nat.toDigits 10 n ++ [']']) := by
  show '[' :: ((toString (n : Int)).toList ++ [']']) = _
  rw [Json.toList_toString, Int.natAbs_natCast, Json.signChars, if_neg (by omega), List.nil_append]

theorem chars_parts (parts : List Part) :
    (parts.map Part.segment).flatMap Segment.chars =
      plainIndexes false (parts.flatMap Part.chars) := by
  induction parts with
  | nil => rfl
  | cons part parts ih =>
    rw [List.map_cons, List.flatMap_cons, List.flatMap_cons, ih]
    cases part with
    | name identifier =>
      rw [Part.chars, List.cons_append, plainIndexes_closed]
      show Segment.chars (.name _) ++ _ = '.' :: plainIndexes false _
      rw [plainIndexes_identifier identifier.property.2, Segment.chars, String.toList_ofList]
      rfl
    | index digits =>
      rw [Part.chars, List.cons_append, List.append_assoc, plainIndexes_closed]
      show Segment.chars (.index _) ++ _ = '[' :: plainIndexes true (digits.val ++ ']' :: _)
      rw [plainIndexes_index, chars_index]
      simp

/-- What is written for a spelled path is its spelling without zeros in front of the indexes. -/
theorem toList_written_path (s : Spelling) :
    (written s.path).toList = plainIndexes false s.chars := by
  rw [written, String.toList_ofList, Spelling.path, Spelling.chars,
    plainIndexes_identifier s.first.property.2, List.flatMap_cons, chars_parts, Segment.chars,
    String.toList_ofList]
  rfl

/-! ### Paths that can be written -/

/-- No index has more digits than a number may have. -/
def Printable (path : Path) : Prop := ∀ segment ∈ path, segment.fewDigits = true

theorem format_of_printable {path : Path} (printable : Printable path) :
    format path = .ok path.written := if_pos (List.all_eq_true.2 printable)

theorem format_of_not_printable {path : Path} (unprintable : ¬ Printable path) :
    format path = .error .tooManyDigits :=
  if_neg fun all => unprintable (List.all_eq_true.1 all)

theorem format_eq_ok {path : Path} {text : String} :
    format path = .ok text ↔ Printable path ∧ path.written = text := by
  by_cases printable : Printable path
  · simp [format_of_printable printable, printable]
  · simp [format_of_not_printable printable, printable]

/-! ### Paths that are read back -/

/-- What may stand between dots, or between brackets. -/
def WritableSegment : Segment → Prop
  | .name key => key.toList ≠ [] ∧ ∀ c ∈ key.toList, isNameChar c = true
  | .index i => 0 ≤ i ∧ i < 10 ^ mostDigits

/-- A path that begins with a name, each segment of which can be written. -/
def Writable (path : Path) : Prop :=
  (∃ key rest, path = .name key :: rest) ∧ ∀ segment ∈ path, WritableSegment segment

theorem Part.Short.writable {part : Part} (short : part.Short) : WritableSegment part.segment := by
  cases part with
  | name identifier =>
    show (String.ofList identifier.val).toList ≠ [] ∧ _
    rw [String.toList_ofList]
    exact identifier.property
  | index digits =>
    refine ⟨Int.natCast_nonneg _, ?_⟩
    have below : Nat.ofDigitChars 10 digits.val 0 < 10 ^ mostDigits :=
      calc Nat.ofDigitChars 10 digits.val 0
          < (0 + 1) * 10 ^ digits.val.length := ofDigitChars_lt digits.property.2 0
        _ = 10 ^ digits.val.length := by rw [Nat.zero_add, Nat.one_mul]
        _ ≤ 10 ^ mostDigits := Nat.pow_le_pow_right (by decide) short
    exact_mod_cast below

theorem Spelling.Short.writable {s : Spelling} (short : s.Short) : Writable s.path := by
  refine ⟨⟨_, _, rfl⟩, List.forall_mem_cons.2 ⟨?_, ?_⟩⟩
  · have first : (Part.name s.first).Short := trivial
    exact first.writable
  · intro segment member
    obtain ⟨part, inside, rfl⟩ := List.mem_map.1 member
    exact (short part inside).writable

theorem WritableSegment.fewDigits {segment : Segment} (writable : WritableSegment segment) :
    segment.fewDigits = true := by
  cases segment with
  | name key => rfl
  | index i =>
    show UiSchema.fewDigits i = true
    obtain ⟨n, rfl⟩ := Int.eq_ofNat_of_zero_le writable.1
    rw [fewDigits_iff, Int.natAbs_natCast]
    exact_mod_cast writable.2

theorem Writable.printable {path : Path} (writable : Writable path) : Printable path :=
  fun segment member => (writable.2 segment member).fewDigits

/-- A segment that can be written is a part of the grammar. -/
theorem part_of_writable {segment : Segment} (writable : WritableSegment segment) :
    ∃ part : Part, part.Short ∧ part.segment = segment ∧ part.chars = segment.chars := by
  cases segment with
  | name key => exact ⟨.name ⟨key.toList, writable⟩, trivial, by simp [Part.segment], rfl⟩
  | index i =>
    obtain ⟨n, rfl⟩ := Int.eq_ofNat_of_zero_le writable.1
    have few : (Nat.toDigits 10 n).length ≤ mostDigits := by
      rw [Nat.length_toDigits_le_iff (by decide) (by decide)]
      exact_mod_cast writable.2
    refine ⟨.index ⟨Nat.toDigits 10 n, Nat.toDigits_ne_nil,
      fun c member => Json.isDigit_of_mem member⟩, few, ?_, (chars_index n).symm⟩
    rw [Part.segment, Nat.ofDigitChars_ten_toDigits]

theorem parts_of_writable {segments : List Segment}
    (writable : ∀ segment ∈ segments, WritableSegment segment) :
    ∃ parts : List Part, (∀ part ∈ parts, part.Short) ∧ parts.map Part.segment = segments ∧
      parts.flatMap Part.chars = segments.flatMap Segment.chars := by
  induction segments with
  | nil => exact ⟨[], nofun, rfl, rfl⟩
  | cons segment segments ih =>
    obtain ⟨here, others⟩ := List.forall_mem_cons.1 writable
    obtain ⟨part, short, read, written⟩ := part_of_writable here
    obtain ⟨parts, shorts, reads, writes⟩ := ih others
    refine ⟨part :: parts, List.forall_mem_cons.2 ⟨short, shorts⟩, ?_, ?_⟩
    · rw [List.map_cons, read, reads]
    · rw [List.flatMap_cons, List.flatMap_cons, written, writes]

theorem Writable.spelled {path : Path} (writable : Writable path) :
    ∃ s : Spelling, s.Short ∧ s.chars = (written path).toList ∧ s.path = path := by
  obtain ⟨⟨key, rest, rfl⟩, all⟩ := writable
  obtain ⟨first, others⟩ := List.forall_mem_cons.1 all
  obtain ⟨parts, shorts, reads, writes⟩ := parts_of_writable others
  refine ⟨⟨⟨key.toList, first⟩, parts⟩, shorts, ?_, ?_⟩
  · rw [Spelling.chars, writes, written, String.toList_ofList]
    rfl
  · rw [Spelling.path, reads, String.ofList_toList]

/-- A path is spelled with the characters of names, and with dots and brackets. -/
theorem Spelling.forall_mem_chars {P : Char → Prop} (name : ∀ c, isNameChar c = true → P c)
    (dot : P '.') (opening : P '[') (closing : P ']') (s : Spelling) : ∀ c ∈ s.chars, P c := by
  intro c member
  rcases List.mem_append.1 member with first | later
  · exact name c (s.first.property.2 c first)
  · obtain ⟨part, _, inside⟩ := List.mem_flatMap.1 later
    cases part with
    | name identifier =>
      rcases List.mem_cons.1 inside with rfl | letter
      · exact dot
      · exact name c (identifier.property.2 c letter)
    | index digits =>
      rcases List.mem_cons.1 inside with rfl | further
      · exact opening
      · rcases List.mem_append.1 further with digit | close
        · exact name c (isNameChar_of_isDigit (digits.property.2 c digit))
        · rw [List.mem_singleton.1 close]
          exact closing

theorem Spelling.not_blank (s : Spelling) : ∀ c ∈ s.chars, Text.isBlank c = false := by
  refine s.forall_mem_chars (fun c letter => ?_) (by decide) (by decide) (by decide)
  simpa using (Bool.and_eq_true_iff.1 letter).2

/-- No path has a brace in it. -/
theorem ne_brace_of_parse {expression : String} {path : Path}
    (read : parse expression = .ok (.ok path)) :
    ∀ c ∈ expression.toList, c ≠ '\x7b' ∧ c ≠ '\x7d' := by
  obtain ⟨s, _, spells, _⟩ := parse_eq_ok_iff.1 read
  obtain ⟨lead, trail, whole, before, after⟩ := Text.trimChars_split expression.toList
  have ofKind {kind : Char → Bool} (noBrace : kind '\x7b' = false ∧ kind '\x7d' = false) {c : Char}
      (holds : kind c = true) : c ≠ '\x7b' ∧ c ≠ '\x7d' := by
    constructor
    · rintro rfl
      cases holds.symm.trans noBrace.1
    · rintro rfl
      cases holds.symm.trans noBrace.2
  have spelled : ∀ c ∈ s.chars, c ≠ '\x7b' ∧ c ≠ '\x7d' :=
    s.forall_mem_chars (fun c => ofKind (by decide)) (by decide) (by decide) (by decide)
  intro c member
  rw [whole, ← Text.toList_trim, ← spells] at member
  rcases List.mem_append.1 member with blank | member
  · exact ofKind (by decide) (before c blank)
  · rcases List.mem_append.1 member with inside | blank
    · exact spelled c inside
    · exact ofKind (by decide) (after c blank)

theorem writable_of_parse {expression : String} {path : Path}
    (read : parse expression = .ok (.ok path)) : Writable path := by
  obtain ⟨s, short, -, rfl⟩ := parse_eq_ok_iff.1 read
  exact short.writable

/-- A path is read back from what is written for it exactly when the grammar spells it. -/
theorem parse_written_eq_ok {path : Path} :
    parse (written path) = .ok (.ok path) ↔ Writable path := by
  refine ⟨writable_of_parse, fun writable => parse_eq_ok_iff.2 ?_⟩
  obtain ⟨s, short, same, read⟩ := writable.spelled
  refine ⟨s, short, ?_, read⟩
  rw [Text.toList_trim, ← same, Text.trimChars_eq_self s.not_blank]

theorem parse_format_eq_ok {path : Path} :
    (∃ text, format path = .ok text ∧ parse text = .ok (.ok path)) ↔ Writable path := by
  rw [← parse_written_eq_ok]
  constructor
  · rintro ⟨_, formatted, read⟩
    obtain ⟨-, rfl⟩ := format_eq_ok.1 formatted
    exact read
  · intro read
    exact ⟨_, format_eq_ok.2 ⟨(parse_written_eq_ok.1 read).printable, rfl⟩, read⟩

/-! ### Texts with short indexes -/

/-- No index in brackets has more digits than a number may have. -/
def ShortIndexes (expression : String) : Prop :=
  ∀ before digits after, expression.toList = before ++ '[' :: (digits ++ ']' :: after) →
    (∀ c ∈ digits, c.isDigit = true) → digits.length ≤ mostDigits

/-- The expression without the white space around it is spelled by the grammar. -/
def Spells (s : Spelling) (expression : String) : Prop :=
  s.chars = (Text.trim expression).toList

section

variable {expression : String} (short : ShortIndexes expression)
include short

theorem ShortIndexes.trim : ShortIndexes (Text.trim expression) := by
  intro before digits after inside all
  obtain ⟨lead, trail, whole, _⟩ := Text.trimChars_split expression.toList
  refine short (lead ++ before) digits (after ++ trail) ?_ all
  rw [whole, ← Text.toList_trim, inside]
  simp

theorem ShortIndexes.not_overlong : ¬ Overlong expression := by
  rintro ⟨_, front, digits, rest, inside, _, all, many⟩
  exact absurd (short.trim front digits rest (by rw [Text.toList_trim, inside]) all)
    (Nat.not_le.2 many)

theorem ShortIndexes.spelling {s : Spelling} (spells : Spells s expression) : s.Short := by
  intro part member
  cases part with
  | name identifier => trivial
  | index digits =>
    obtain ⟨front, back, split⟩ := List.mem_iff_append.1 member
    refine short.trim (s.first.val ++ front.flatMap Part.chars) digits.val
      (back.flatMap Part.chars) ?_ digits.property.2
    rw [← show s.chars = _ from spells, Spelling.chars, split]
    simp [Part.chars]

theorem ShortIndexes.parse_eq_ok {path : Path} :
    parse expression = .ok (.ok path) ↔ ∃ s, Spells s expression ∧ s.path = path := by
  rw [parse_eq_ok_iff]
  constructor
  · rintro ⟨s, _, spells, read⟩
    exact ⟨s, spells, read⟩
  · rintro ⟨s, spells, read⟩
    exact ⟨s, short.spelling spells, spells, read⟩

/-- The parser answers every text with short indexes. -/
theorem ShortIndexes.answered :
    (∃ path, parse expression = .ok (.ok path)) ∨ ∃ e, parse expression = .ok (.error e) := by
  rcases answer : parse expression with cause | e | path
  · exact absurd (overlong_of_parse answer) short.not_overlong
  · exact .inr ⟨e, rfl⟩
  · exact .inl ⟨path, rfl⟩

theorem ShortIndexes.accepted :
    (∃ path, parse expression = .ok (.ok path)) ↔ ∃ s, Spells s expression := by
  constructor
  · rintro ⟨path, read⟩
    obtain ⟨s, spells, _⟩ := short.parse_eq_ok.1 read
    exact ⟨s, spells⟩
  · rintro ⟨s, spells⟩
    exact ⟨s.path, short.parse_eq_ok.2 ⟨s, spells, rfl⟩⟩

theorem ShortIndexes.rejected :
    (∃ e, parse expression = .ok (.error e)) ↔ ¬ ∃ s, Spells s expression := by
  rw [← short.accepted]
  constructor
  · rintro ⟨e, refused⟩ ⟨path, read⟩
    cases refused.symm.trans read
  · intro unread
    exact short.answered.resolve_left unread

end

theorem shortIndexes_of_length {expression : String}
    (few : expression.toList.length ≤ mostDigits) : ShortIndexes expression := by
  intro before digits after whole _
  have part := congrArg List.length whole
  simp only [List.length_append, List.length_cons] at part
  omega

theorem Spells.unique {s t : Spelling} {expression : String} (first : Spells s expression)
    (second : Spells t expression) : t = s :=
  Spelling.chars_injective (second.trans first.symm)

/-- The parser accepts the grammar and refuses the rest; what it reads is what the one spelling
says, and is written as that spelling without zeros in front of its indexes. The paths that are read
back from what is written for them are those of names and short indexes, with a name in front. -/
theorem parse_grammar_format :
    (∀ expression, ShortIndexes expression →
      ((∃ path, parse expression = .ok (.ok path)) ↔ ∃ s, Spells s expression) ∧
      ((∃ e, parse expression = .ok (.error e)) ↔ ¬ ∃ s, Spells s expression) ∧
      ∀ path, parse expression = .ok (.ok path) →
        ∃ s, (∀ t, Spells t expression ↔ t = s) ∧ s.path = path ∧
          ∃ text, format path = .ok text ∧
            text.toList = plainIndexes false (Text.trim expression).toList) ∧
    ∀ path, (∃ text, format path = .ok text ∧ parse text = .ok (.ok path)) ↔ Writable path := by
  refine ⟨fun expression short => ⟨short.accepted, short.rejected, ?_⟩,
    fun path => parse_format_eq_ok⟩
  intro path read
  obtain ⟨s, spells, rfl⟩ := short.parse_eq_ok.1 read
  refine ⟨s, fun t => ⟨spells.unique, ?_⟩, rfl, written s.path,
    format_eq_ok.2 ⟨(writable_of_parse read).printable, rfl⟩, ?_⟩
  · rintro rfl
    exact spells
  · rw [toList_written_path, spells]

/-- Space around the path, and zeros in front of an index. -/
theorem parse_spaced_zeros :
    ShortIndexes " a[007].b " ∧
    parse " a[007].b " = .ok (.ok [.name "a", .index 7, .name "b"]) ∧
    format [.name "a", .index 7, .name "b"] = .ok "a[7].b" ∧
    (∃ s, (∀ t, Spells t " a[007].b " ↔ t = s) ∧ s.path = [.name "a", .index 7, .name "b"] ∧
      ∃ text, format [.name "a", .index 7, .name "b"] = .ok text ∧
        text.toList = plainIndexes false (Text.trim " a[007].b ").toList) ∧
    Writable [.name "a", .index 7, .name "b"] := by
  have short : ShortIndexes " a[007].b " := shortIndexes_of_length (by decide)
  have read : parse " a[007].b " = .ok (.ok [.name "a", .index 7, .name "b"]) := by decide
  exact ⟨short, read, by decide, (parse_grammar_format.1 _ short).2.2 _ read,
    (parse_grammar_format.2 _).1 ⟨"a[7].b", by decide, by decide⟩⟩

/-- The format writes a negative index too, which no path may have. -/
theorem negative_index_unread :
    ¬ ∀ i : Int, i < 10 ^ mostDigits →
      ∃ text, format [.name "a", .index i] = .ok text ∧
        parse text = .ok (.ok [.name "a", .index i]) := by
  intro all
  have small : (-1 : Int) < 10 ^ mostDigits :=
    Int.lt_trans (by decide) (Int.pow_pos (by decide))
  obtain ⟨text, formatted, read⟩ := all (-1) small
  have written : format [.name "a", .index (-1)] = .ok "a[-1]" := by decide
  have refused : parse "a[-1]" = .ok (.error ⟨"a[-1]", 2, .badIndex "-1"⟩) := by decide
  cases written.symm.trans formatted
  cases refused.symm.trans read

end UiSchema.Path
