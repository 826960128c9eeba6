import UiSchema.Json.Load
import UiSchema.Proofs.Json.Reading
import UiSchema.Proofs.Text.Blank

/-! Scans that nothing stops, taken apart: the state after some of the characters, quoted texts that
only a quote ends, and white space that makes no difference around a text. -/

set_option autoImplicit false

namespace UiSchema.Json

variable {d : Dialect}

namespace Scan

/-- The tokens that some characters complete, and what they leave open. -/
def run (d : Dialect) : Scan → List Char → List Token × Scan
  | scan, [] => ([], scan)
  | scan, c :: rest =>
    let (here, next) := scan.step d c
    let (further, last) := run d next rest
    (here ++ further, last)

theorem tokens_cons (scan : Scan) (c : Char) (rest : List Char) :
    tokens d scan (c :: rest) = (scan.step d c).1 ++ tokens d (scan.step d c).2 rest := rfl

theorem run_cons (scan : Scan) (c : Char) (rest : List Char) :
    run d scan (c :: rest) =
      ((scan.step d c).1 ++ (run d (scan.step d c).2 rest).1,
        (run d (scan.step d c).2 rest).2) := rfl

theorem tokens_append (scan : Scan) (cs ds : List Char) :
    tokens d scan (cs ++ ds) = (run d scan cs).1 ++ tokens d (run d scan cs).2 ds := by
  induction cs generalizing scan with
  | nil => rfl
  | cons c cs ih =>
    rw [List.cons_append, tokens_cons, ih, run_cons, List.append_assoc]

/-- A scan that does not stop at anything up to the end of the text. -/
structure Clean (d : Dialect) (scan : Scan) (cs : List Char) : Prop where
  alive : scan ≠ .failed
  tokens : ∀ token ∈ Scan.tokens d scan cs, ¬ Reading.Refused token

/-- Inside of a quoted text. -/
def InText : Scan → Prop
  | .between | .word _ | .failed => False
  | _ => True

theorem finish_of_inText {scan : Scan} (inText : scan.InText) : scan.finish d = [.fault] := by
  cases scan <;> first | rfl | cases inText

/-- What a character between two tokens begins. -/
inductive Begun (c : Char) : List Token × Scan → Prop where
  | space (space : isSpace c = true) : Begun c ([], .between)
  | quote (quote : c = '"') : Begun c ([], .text [])
  | mark {token : Token} (visible : Text.isBlank c = false) (other : isWordChar c = false)
      (noQuote : c ≠ '"') (noValue : (∀ value, token ≠ .str value) ∧ ∀ value, token ≠ .leaf value)
      (brace : token = .openObject → c = '\x7b') : Begun c ([token], .between)
  | letter (letter : isWordChar c = true) (noQuote : c ≠ '"') : Begun c ([], .word [c])
  | fault (noSpace : isSpace c = false) (noQuote : c ≠ '"') (other : isWordChar c = false) :
      Begun c ([.fault], .failed)

theorem begun (c : Char) : Begun c (fromBetween c) := by
  unfold fromBetween
  split
  · exact .space ‹_›
  split
  · exact .quote ‹_›
  have noQuote : c ≠ '"' := ‹_›
  iterate 6
    split
    · subst c
      exact .mark (by decide) (by decide) (by decide) ⟨nofun, nofun⟩ (by simp)
  split
  · exact .letter ‹_› noQuote
  · exact .fault (by simpa using ‹¬ isSpace c = true›) noQuote
      (by simpa using ‹¬ isWordChar c = true›)

theorem codeRead_cases (content : List Char) (high : Option Nat) (code : Nat) :
    codeRead content high code = .failed ∨ (codeRead content high code).InText := by
  unfold codeRead
  split
  · split
    · exact .inr trivial
    · exact .inl rfl
  · split
    · exact .inr trivial
    · split
      · exact .inl rfl
      · exact .inr trivial

/-- Only a quote ends a quoted text, and only where no escape is open. -/
theorem step_inText {scan : Scan} (inText : scan.InText) (c : Char) :
    (∃ content, scan = .text content ∧ c = '"') ∨ scan.step d c = ([.fault], .failed) ∨
      (scan.step d c).1 = [] ∧ (scan.step d c).2.InText := by
  by_cases closes : ∃ content, scan = .text content ∧ c = '"'
  · exact .inl closes
  refine .inr ?_
  cases scan with
  | between | word _ | failed => cases inText
  | text content =>
    have noQuote : c ≠ '"' := fun quote => closes ⟨content, rfl, quote⟩
    simp only [step, if_neg noQuote]
    split
    · exact .inr ⟨rfl, trivial⟩
    · split
      · exact .inl rfl
      · exact .inr ⟨rfl, trivial⟩
  | escaped content =>
    simp only [step]
    split
    · exact .inr ⟨rfl, trivial⟩
    · split
      · exact .inr ⟨rfl, trivial⟩
      · exact .inl rfl
  | code content high missing value =>
    simp only [step]
    split
    · exact .inl rfl
    · split
      · split
        · exact .inl rfl
        · rename_i digit _ _ notFailed
          exact .inr ⟨rfl, (codeRead_cases ..).resolve_left fun same => notFailed same⟩
      · exact .inr ⟨rfl, trivial⟩
  | pair content high =>
    simp only [step]
    split
    · exact .inr ⟨rfl, trivial⟩
    · exact .inl rfl
  | pairEscaped content high =>
    simp only [step]
    split
    · exact .inr ⟨rfl, trivial⟩
    · exact .inl rfl

theorem step_text (content : List Char) {c : Char} (noQuote : c ≠ '"') (noBackslash : c ≠ '\\') :
    step d (.text content) c = ([.fault], .failed) ∨
      step d (.text content) c = ([], .text (c :: content)) := by
  rw [step, if_neg noQuote, if_neg noBackslash]
  split
  · exact .inl rfl
  · exact .inr rfl

theorem step_word (run : List Char) (c : Char) :
    step d (.word run) c =
      if isWordChar c then ([], .word (c :: run))
      else (wordToken d run :: (fromBetween c).1, (fromBetween c).2) := rfl

theorem fromBetween_failed {c : Char} (failed : (fromBetween c).2 = .failed) :
    .fault ∈ (fromBetween c).1 := by
  generalize began : fromBetween c = next at failed
  cases began ▸ begun c with
  | fault => exact List.mem_singleton_self _
  | _ => cases failed

/-- A scan fails with a token that says so. -/
theorem step_failed {scan : Scan} {c : Char} (alive : scan ≠ .failed)
    (failed : (scan.step d c).2 = .failed) : .fault ∈ (scan.step d c).1 := by
  have quoted (inText : scan.InText) : .fault ∈ (scan.step d c).1 := by
    rcases step_inText (d := d) inText c with ⟨content, rfl, rfl⟩ | faults | ⟨_, still⟩
    · cases failed
    · rw [faults]
      exact List.mem_singleton_self _
    · rw [failed] at still
      cases still
  cases scan with
  | failed => exact absurd rfl alive
  | between => exact fromBetween_failed failed
  | word run =>
    rw [step_word] at failed ⊢
    split at failed
    · cases failed
    · rw [if_neg ‹_›]
      exact List.mem_cons_of_mem _ (fromBetween_failed failed)
  | _ => exact quoted trivial

namespace Clean

variable {scan : Scan} {cs ds : List Char}

theorem step {c : Char} (clean : Clean d scan (c :: cs)) : Clean d (scan.step d c).2 cs where
  alive failed := clean.tokens _ (List.mem_append_left _ (step_failed clean.alive failed)) .fault
  tokens token member := clean.tokens token (List.mem_append_right _ member)

theorem here {c : Char} (clean : Clean d scan (c :: cs)) :
    ∀ token ∈ (scan.step d c).1, ¬ Reading.Refused token :=
  fun token member => clean.tokens token (List.mem_append_left _ member)

theorem append (clean : Clean d scan (cs ++ ds)) : Clean d (run d scan cs).2 ds := by
  induction cs generalizing scan with
  | nil => exact clean
  | cons c cs ih => exact ih clean.step

/-- The text does not end inside of quotes. -/
theorem not_inText_end (clean : Clean d scan []) : ¬ scan.InText := fun inText =>
  clean.tokens .fault (by simp [Scan.tokens, finish_of_inText inText]) .fault

theorem step_inText {c : Char} (clean : Clean d scan (c :: cs)) (inText : scan.InText)
    (noQuote : c ≠ '"') : (scan.step d c).1 = [] ∧ (scan.step d c).2.InText := by
  rcases Scan.step_inText (d := d) inText c with ⟨_, _, quote⟩ | faults | stays
  · exact absurd quote noQuote
  · exact absurd (by rw [faults]) clean.step.alive
  · exact stays

theorem step_text {content : List Char} {c : Char} (clean : Clean d (.text content) (c :: cs))
    (noQuote : c ≠ '"') (noBackslash : c ≠ '\\') :
    Scan.step d (.text content) c = ([], .text (c :: content)) := by
  rcases Scan.step_text (d := d) content noQuote noBackslash with stops | goes
  · exact absurd (by rw [stops]) clean.step.alive
  · exact goes

end Clean

/-- White space is no part of a token outside of quotes. -/
theorem isWordChar_of_isBlank {c : Char} (blank : Text.isBlank c = true) :
    isWordChar c = false := by
  have small : ∀ n < 128,
      Text.isBlank (Char.ofNat n) = true → isWordChar (Char.ofNat n) = false := by
    decide
  by_cases ascii : c.toNat < 128
  · simpa using small c.toNat ascii (by simpa using blank)
  · have other : ∀ x : Char, x.toNat < 128 → c ≠ x := by
      rintro x inRange rfl
      exact ascii inRange
    have past (last : Char) (inRange : last.toNat < 128) : ¬ c.val ≤ last.val := fun below =>
      ascii (Nat.lt_of_le_of_lt (UInt32.le_iff_toNat_le.1 below) inRange)
    have noLetter : c.isAlphanum = false := by
      have upper : c.isUpper = false := decide_eq_false fun range => past 'Z' (by decide) range.2
      have lower : c.isLower = false :=
        Bool.and_eq_false_imp.2 fun _ => decide_eq_false (past 'z' (by decide))
      have digit : c.isDigit = false :=
        Bool.and_eq_false_imp.2 fun _ => decide_eq_false (past '9' (by decide))
      show ((c.isUpper || c.isLower) || c.isDigit) = false
      rw [upper, lower, digit]
      rfl
    simp [isWordChar, noLetter, other '+' (by decide), other '-' (by decide), other '.' (by decide)]

theorem fromBetween_blank {c : Char} (blank : Text.isBlank c = true)
    (alive : (fromBetween c).2 ≠ .failed) : fromBetween c = ([], .between) := by
  generalize began : fromBetween c = next at alive
  cases began ▸ begun c with
  | space => rfl
  | quote quote => exact absurd (quote ▸ blank) (by decide)
  | mark visible => exact absurd blank (by simp [visible])
  | letter letter => exact absurd letter (by simp [isWordChar_of_isBlank blank])
  | fault => exact absurd rfl alive

theorem ne_quote_of_isBlank {c : Char} (blank : Text.isBlank c = true) : c ≠ '"' := by
  rintro rfl
  exact absurd blank (by decide)

namespace Clean

variable {scan : Scan} {cs ds : List Char}

/-- White space outside of quotes only ends the word in front of it. -/
theorem step_blank {c : Char} (clean : Clean d scan (c :: cs)) (blank : Text.isBlank c = true)
    (outside : ¬ scan.InText) : scan.step d c = (scan.finish d, .between) := by
  have alive := clean.step.alive
  cases scan with
  | failed => exact absurd rfl clean.alive
  | between => exact fromBetween_blank blank alive
  | word run =>
    rw [step_word, if_neg (by simp [isWordChar_of_isBlank blank])] at alive ⊢
    rw [fromBetween_blank blank alive]
    rfl
  | _ => exact absurd trivial outside

/-- White space at the end of a text only ends the word in front of it. -/
theorem tokens_blank (clean : Clean d scan cs) (blank : ∀ c ∈ cs, Text.isBlank c = true) :
    Scan.tokens d scan cs = scan.finish d := by
  induction cs generalizing scan with
  | nil => rfl
  | cons c rest ih =>
    obtain ⟨here, others⟩ := List.forall_mem_cons.1 blank
    have further := ih clean.step others
    have outside : ¬ scan.InText := fun inText => by
      obtain ⟨_, stays⟩ := clean.step_inText inText (ne_quote_of_isBlank here)
      have fault : .fault ∈ Scan.tokens d (scan.step d c).2 rest := by
        rw [further, finish_of_inText stays]
        exact List.mem_singleton_self _
      exact clean.step.tokens _ fault .fault
    rw [tokens_cons, further, clean.step_blank here outside]
    exact List.append_nil _

theorem tokens_trimEnd (clean : Clean d scan cs) :
    Scan.tokens d scan (Text.trimEnd Text.isBlank cs) = Scan.tokens d scan cs := by
  induction cs generalizing scan with
  | nil => rfl
  | cons c rest ih =>
    rw [Text.trimEnd]
    -- `c` is at the end of what is kept if all behind it is blank
    cases kept : Text.trimEnd Text.isBlank rest with
    | cons k ks =>
      show Scan.tokens d scan (c :: k :: ks) = _
      rw [tokens_cons scan c, tokens_cons scan c, ← kept, ih clean.step]
    | nil =>
      have blank := (Text.trimEnd_eq_nil_iff Text.isBlank rest).1 kept
      by_cases here : Text.isBlank c = true
      · have all : ∀ x ∈ c :: rest, Text.isBlank x = true := List.forall_mem_cons.2 ⟨here, blank⟩
        rw [clean.tokens_blank all]
        simp [here, Scan.tokens]
      · have last := clean.step.tokens_blank blank
        simp only [here]
        show Scan.tokens d scan [c] = _
        rw [tokens_cons, tokens_cons, last]
        rfl

theorem dropBlank (clean : Clean d .between cs) :
    Clean d .between (cs.dropWhile Text.isBlank) ∧
      Scan.tokens d .between (cs.dropWhile Text.isBlank) = Scan.tokens d .between cs := by
  induction cs with
  | nil => exact ⟨clean, rfl⟩
  | cons c rest ih =>
    by_cases blank : Text.isBlank c = true
    · have skipped : Scan.step d .between c = ([], .between) := clean.step_blank blank id
      have after := clean.step
      rw [skipped] at after
      rw [List.dropWhile_cons_of_pos blank, tokens_cons, skipped]
      exact ih after
    · rw [List.dropWhile_cons_of_neg blank]
      exact ⟨clean, rfl⟩

/-- White space around a text makes no difference, if nothing in the text stops a reader. -/
theorem tokens_trimChars (clean : Clean d .between cs) :
    Scan.tokens d .between (Text.trimChars cs) = Scan.tokens d .between cs := by
  obtain ⟨kept, same⟩ := clean.dropBlank
  rw [Text.trimChars, Text.trimWhere, kept.tokens_trimEnd, same]

/-- A line end behind a text is space. -/
theorem append_line (clean : Clean d scan cs) : Clean d scan (cs ++ ['\n']) := by
  have same : Scan.tokens d scan (cs ++ ['\n']) = Scan.tokens d scan cs := by
    induction cs generalizing scan with
    | nil =>
      cases scan with
      | failed => exact absurd rfl clean.alive
      | between | word _ => rfl
      | _ => exact absurd trivial clean.not_inText_end
    | cons c cs ih => rw [List.cons_append, tokens_cons, tokens_cons, ih clean.step]
  exact ⟨clean.alive, same ▸ clean.tokens⟩

theorem run_blank (clean : Clean d .between (cs ++ ds)) (blank : ∀ c ∈ cs, Text.isBlank c = true) :
    (run d .between cs).2 = .between := by
  induction cs with
  | nil => rfl
  | cons c rest ih =>
    obtain ⟨here, others⟩ := List.forall_mem_cons.1 blank
    have skipped : Scan.step d .between c = ([], .between) := clean.step_blank here id
    have after := clean.step
    rw [run_cons]
    rw [skipped] at after ⊢
    exact ih after others

/-- Backticks stand inside of quotes only. -/
theorem text_of_tick (clean : Clean d scan ('\x60' :: cs)) : ∃ content, scan = .text content := by
  have noDigit : hexValue? '\x60' = none := by decide
  have noEscape : simpleEscape? '\x60' = none := by decide
  have noWord : isWordChar '\x60' = false := by decide
  have noMark : fromBetween '\x60' = ([.fault], .failed) := by rfl
  have alive := clean.step.alive
  cases scan with
  | text content => exact ⟨content, rfl⟩
  | _ => simp_all [Scan.step]

/-- A text with a backtick behind it, and nothing but white space between, is not at its end. -/
theorem inText_of_blank_tick (clean : Clean d scan (cs ++ '\x60' :: ds))
    (blank : ∀ c ∈ cs, Text.isBlank c = true) : scan.InText := by
  induction cs generalizing scan with
  | nil =>
    obtain ⟨content, rfl⟩ := clean.text_of_tick
    trivial
  | cons c rest ih =>
    obtain ⟨here, others⟩ := List.forall_mem_cons.1 blank
    have inside := ih clean.step others
    refine Classical.byContradiction fun outside => ?_
    rw [clean.step_blank here outside] at inside
    exact inside

/-- Characters that are no quotes and no backslashes stay inside of a quoted text. -/
theorem run_text {content : List Char} (clean : Clean d (.text content) (cs ++ ds))
    (plain : ∀ c ∈ cs, c ≠ '"' ∧ c ≠ '\\') :
    ∃ content', (run d (.text content) cs).2 = .text content' := by
  induction cs generalizing content with
  | nil => exact ⟨content, rfl⟩
  | cons c rest ih =>
    obtain ⟨⟨noQuote, noBackslash⟩, others⟩ := List.forall_mem_cons.1 plain
    have after := clean.step
    rw [run_cons]
    rw [clean.step_text noQuote noBackslash] at after ⊢
    exact ih after others

end Clean

/-- Characters that stand for themselves are added to a quoted text. -/
theorem run_plain (content : List Char) {cs : List Char}
    (plain : ∀ c ∈ cs, c ≠ '"' ∧ c ≠ '\\' ∧ 0x20 ≤ c.toNat) :
    run d (.text content) cs = ([], .text (cs.reverse ++ content)) := by
  induction cs generalizing content with
  | nil => rfl
  | cons c cs ih =>
    obtain ⟨⟨noQuote, noBackslash, printed⟩, others⟩ := List.forall_mem_cons.1 plain
    have added : step d (.text content) c = ([], .text (c :: content)) := by
      rw [step, if_neg noQuote, if_neg noBackslash, if_neg (by omega)]
    rw [run_cons, added, ih (c :: content) others]
    simp

end Scan

/-- A text that was read has nothing in it that stops the reader. -/
theorem clean_of_readChars {cs : List Char} {value : Json} (read : readChars d cs = .ok value) :
    Scan.Clean d .between cs where
  alive := nofun
  tokens token member refused := by
    obtain ⟨cause, stopped⟩ := Reading.run_refused refused _ (.value []) member
    rw [readChars, tokens, stopped] at read
    cases read

theorem readChars_trimChars {cs : List Char} {value : Json} (read : readChars d cs = .ok value) :
    readChars d (Text.trimChars cs) = .ok value := by
  rw [← read, readChars, readChars, tokens, tokens,
    (clean_of_readChars read).tokens_trimChars]

end UiSchema.Json
