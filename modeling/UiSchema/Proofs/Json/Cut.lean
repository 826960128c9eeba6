import UiSchema.Proofs.Json.Fence
import UiSchema.Proofs.Json.Written

/-! Fences opened by backticks of a document. Such backticks stand inside of a quoted text, so what
is taken for the body of a fence has its quotes the other way round: the quoted texts of the
document are outside, and what is outside in the document is quoted. Nothing between two quoted
texts of a document reads `root`, so no such body is an object with this key. -/

set_option autoImplicit false

namespace UiSchema.Json

variable {d : Dialect}

namespace Scan

/-- The characters would make one word, if no other character stood among them. -/
def OneWord (run content : List Char) : Prop :=
  content = run ∨ ∃ c ∈ content, isWordChar c = false

/-- A scan of a document, and one that began inside of a quoted text of it. -/
inductive Opposite : Scan → Scan → Prop where
  | stopped (scan : Scan) : Opposite scan .failed
  | outside (content : List Char) : Opposite (.text content) .between
  | word (content run : List Char) : Opposite (.text content) (.word run)
  | quoted {content : List Char} (one : OneWord [] content) : Opposite .between (.text content)
  | quotedWord {run content : List Char} (one : OneWord run content) :
    Opposite (.word run) (.text content)

/-- No bare word reads so. -/
theorem wordToken_root : wordToken .strict "root".toList.reverse = .fault := by rfl

theorem letters_root : ∀ c ∈ "root".toList, isWordChar c = true :=
  List.all_eq_true.1 (by decide)

theorem str_ne_wordToken (run : List Char) (value : String) : .str value ≠ wordToken d run := by
  unfold wordToken
  split
  · nofun
  · split <;> nofun

theorem str_notMem_fromBetween {c : Char} (value : String) : .str value ∉ (fromBetween c).1 := by
  generalize began : fromBetween c = next
  cases began ▸ begun c with
  | space | quote | letter => nofun
  | fault => simp
  | mark _ _ _ noValue => simpa using fun same => noValue.1 value same.symm

/-- Outside of its quotes a body has the quoted texts of the document. -/
theorem Opposite.fromBetween (content : List Char) {c : Char} (noQuote : c ≠ '"') :
    Opposite (.text content) (fromBetween c).2 := by
  generalize began : Scan.fromBetween c = next
  cases began ▸ begun c with
  | space => exact .outside content
  | quote quote => exact absurd quote noQuote
  | mark => exact .outside content
  | letter => exact .word content [c]
  | fault => exact .stopped _

section Step

variable {c : Char} {rest content run : List Char}

/-- What was quoted when the quotes closed is no bare word of the document. -/
theorem ne_root (one : OneWord run content)
    (read : run = [] ∨ ¬ Reading.Refused (wordToken .strict run)) :
    .str "root" ≠ Token.str (String.ofList content.reverse) := by
  intro same
  have reversed : content = "root".toList.reverse := by
    rw [Token.str.inj same, String.toList_ofList, List.reverse_reverse]
  rcases one with rfl | ⟨c, member, other⟩
  · rw [reversed, wordToken_root] at read
    exact read.elim (by decide) fun bare => bare .fault
  · rw [reversed, List.mem_reverse] at member
    simp [letters_root c member] at other

/-- Outside of its quotes the document has the quoted texts of a body. -/
theorem opposite_text {whole : Scan} (noQuote : c ≠ '"') (noBackslash : c ≠ '\\')
    (further : Opposite whole (.text (c :: content))) :
    Opposite whole (step d (.text content) c).2 ∧ .str "root" ∉ (step d (.text content) c).1 := by
  rcases step_text (d := d) content noQuote noBackslash with stops | goes
  · rw [stops]
    exact ⟨.stopped _, by simp⟩
  · rw [goes]
    exact ⟨further, nofun⟩

/-- Both scans meet a character that belongs to no word of the document. -/
theorem opposite_fromBetween (one : OneWord run content)
    (read : run = [] ∨ ¬ Reading.Refused (wordToken .strict run)) (other : isWordChar c = false)
    (alive : (fromBetween c).2 ≠ .failed) :
    Opposite (fromBetween c).2 (step d (.text content) c).2 ∧
      .str "root" ∉ (step d (.text content) c).1 := by
  by_cases quote : c = '"'
  · subst quote
    exact ⟨.outside [], by simpa [step] using ne_root one read⟩
  have noBackslash : c ≠ '\\' := by
    rintro rfl
    exact alive rfl
  have mixed : OneWord [] (c :: content) := .inr ⟨c, List.mem_cons_self, other⟩
  generalize began : Scan.fromBetween c = next at alive
  cases began ▸ begun c with
  | space => exact opposite_text quote noBackslash (.quoted mixed)
  | quote same => exact absurd same quote
  | mark => exact opposite_text quote noBackslash (.quoted mixed)
  | letter letter => exact absurd letter (by simp [other])
  | fault => exact absurd rfl alive

theorem OneWord.cons (one : OneWord run content) (c : Char) : OneWord (c :: run) (c :: content) :=
  one.imp (congrArg (c :: ·)) fun ⟨x, member, other⟩ => ⟨x, List.mem_cons_of_mem _ member, other⟩

theorem ne_quote_of_isWordChar (letter : isWordChar c = true) : c ≠ '"' ∧ c ≠ '\\' := by
  constructor <;> rintro rfl <;> exact absurd letter (by decide)

theorem opposite_outside (clean : Clean .strict (.text content) (c :: rest)) :
    Opposite (Scan.step .strict (.text content) c).2 (fromBetween c).2 := by
  by_cases quote : c = '"'
  · subst quote
    exact .quoted (.inl rfl)
  by_cases backslash : c = '\\'
  · subst backslash
    exact .stopped _
  rw [clean.step_text quote backslash]
  exact .fromBetween _ quote

/-- One character keeps the quotes the other way round, and closes no `root` in the body. -/
theorem Opposite.step {whole part : Scan} (opposite : Opposite whole part)
    (clean : Clean .strict whole (c :: rest)) :
    Opposite (whole.step .strict c).2 (part.step .strict c).2 ∧
      .str "root" ∉ (part.step .strict c).1 := by
  have alive := clean.step.alive
  -- a quote makes the two scans change places, and any other character leaves them where they are
  cases opposite with
  | stopped => exact ⟨.stopped _, nofun⟩
  | outside content => exact ⟨opposite_outside clean, str_notMem_fromBetween _⟩
  | word content run =>
    rw [step_word]
    by_cases letter : isWordChar c = true
    · obtain ⟨noQuote, noBackslash⟩ := ne_quote_of_isWordChar letter
      rw [if_pos letter, clean.step_text noQuote noBackslash]
      exact ⟨.word _ _, nofun⟩
    · rw [if_neg letter]
      refine ⟨opposite_outside clean, fun member => ?_⟩
      rcases List.mem_cons.1 member with same | marked
      · exact str_ne_wordToken run "root" same
      · exact str_notMem_fromBetween _ marked
  | quoted one =>
    by_cases letter : isWordChar c = true
    · obtain ⟨noQuote, noBackslash⟩ := ne_quote_of_isWordChar letter
      have goes : Scan.step .strict .between c = ([], .word [c]) := fromBetween_word letter
      rw [goes]
      exact opposite_text noQuote noBackslash (.quotedWord (one.cons c))
    · exact opposite_fromBetween one (.inl rfl) (by simpa using letter) alive
  | @quotedWord run content one =>
    have read := clean.here
    rw [step_word] at alive read ⊢
    by_cases letter : isWordChar c = true
    · obtain ⟨noQuote, noBackslash⟩ := ne_quote_of_isWordChar letter
      rw [if_pos letter]
      exact opposite_text noQuote noBackslash (.quotedWord (one.cons c))
    · rw [if_neg letter] at alive read ⊢
      exact opposite_fromBetween one (.inr (read _ List.mem_cons_self)) (by simpa using letter)
        alive

/-- No quoted text of a body that begins inside of a quoted text reads `root`. -/
theorem Opposite.tokens {whole part : Scan} (opposite : Opposite whole part) {body : List Char}
    (clean : Clean .strict whole (body ++ rest)) :
    .str "root" ∉ Scan.tokens .strict part body := by
  induction body generalizing whole part with
  | nil =>
    cases part with
    | word run => simpa [Scan.tokens, finish] using str_ne_wordToken run "root"
    | _ => simp [Scan.tokens, finish]
  | cons c body ih =>
    obtain ⟨further, here⟩ := opposite.step clean
    rw [tokens_cons, List.mem_append]
    exact not_or.2 ⟨here, ih further clean.step⟩

end Step

end Scan

namespace Block

/-- Whoever reads the candidate meets no `root` in quotes. -/
def Rootless (block : Block) : Prop :=
  ∃ content, block.content = String.ofList content ∧ .str "root" ∉ tokens .strict content

theorem content_of_ofFence? {start : Nat} {fence : Fence} {block : Block}
    (found : ofFence? start fence = some block) :
    block.content = String.ofList (Text.trimChars fence.body) := by
  unfold ofFence? at found
  dsimp only at found
  split at found
  · cases found
  · split at found
    · cases found
      rfl
    · split at found <;> cases found
      rfl

variable {document : List Char} (clean : Scan.Clean .strict .between document)

include clean

/-- The body of a fence that begins in a document is read with the quotes the other way round. -/
theorem rootless_body {before cs : List Char} (whole : document = before ++ cs) {fence : Fence}
    (found : fence? (cs ++ ticks) = some fence) :
    .str "root" ∉ tokens .strict (Text.trimChars fence.body) := by
  obtain ⟨line, rest, more, same, ⟨front, rfl, plain⟩, rfl, -⟩ := fence?_eq_some found
  -- the ticks behind the body may be those behind the document, so all of it is in the document
  obtain ⟨after, rfl⟩ : ticks ++ (front ++ fence.body) <+: cs := by
    have opens : ticks ++ (front ++ fence.body) <+: cs ++ ticks := by
      refine ⟨ticks ++ more, ?_⟩
      rw [same]
      simp only [List.append_assoc]
    refine List.prefix_of_prefix_length_le opens (List.prefix_append _ _) ?_
    · have lengths := congrArg List.length same
      simp only [List.length_append] at lengths ⊢
      omega
  obtain ⟨lead, trail, split, blank, _⟩ := Text.trimChars_split fence.body
  have inBody : document = before ++ ((ticks ++ (front ++ lead)) ++
      (Text.trimChars fence.body ++ (trail ++ after))) := by
    have body : fence.body ++ after = lead ++ (Text.trimChars fence.body ++ (trail ++ after)) := by
      conv_lhs => rw [split]
      simp only [List.append_assoc]
    rw [whole]
    simp only [List.append_assoc, body]
  have plainLead : ∀ c ∈ lead, c ≠ '"' ∧ c ≠ '\\' := by
    intro c member
    constructor <;> rintro rfl <;> exact absurd (blank _ member) (by decide)
  have passed : ∀ c ∈ ticks ++ (front ++ lead), c ≠ '"' ∧ c ≠ '\\' :=
    List.forall_mem_append.2 ⟨by simp [ticks], List.forall_mem_append.2 ⟨plain, plainLead⟩⟩
  rw [inBody] at clean
  have atTicks := clean.append
  obtain ⟨content, quoted⟩ := Scan.Clean.text_of_tick atTicks
  rw [quoted] at atTicks
  obtain ⟨content', stillQuoted⟩ := atTicks.run_text passed
  have atBody := atTicks.append
  rw [stillQuoted] at atBody
  exact (Scan.Opposite.outside content').tokens atBody

theorem rootless_fencedFrom {before cs : List Char} (whole : document = before ++ cs)
    (position skip : Nat) : ∀ block ∈ fencedFrom position skip (cs ++ ticks), block.Rootless := by
  induction cs generalizing before position skip with
  | nil =>
    -- the ticks behind the document open a fence that is never closed
    have nothing : fencedFrom position skip ticks = [] := by
      match skip with
      | 0 | 1 | 2 | _ + 3 => rfl
    rw [List.nil_append, nothing]
    nofun
  | cons c cs ih =>
    have further : document = (before ++ [c]) ++ cs := by
      rw [whole, List.append_assoc]
      rfl
    rw [List.cons_append]
    cases skip with
    | succ skip => exact ih further _ _
    | zero =>
      rw [fencedFrom]
      cases found : fence? (c :: (cs ++ ticks)) with
      | none => exact ih further _ _
      | some fence =>
        refine List.forall_mem_append.2 ⟨fun block member => ?_, ih further _ _⟩
        have content := content_of_ofFence? (Option.mem_toList.1 member)
        exact ⟨_, content, rootless_body clean whole found⟩

/-- What stands in a document before three backticks ends inside of a quoted text. -/
theorem inText_of_cut {body more : List Char} (cut : document = body ++ (ticks ++ more)) :
    (Scan.run .strict .between (Text.trimChars body)).2.InText := by
  obtain ⟨lead, trail, split, blankLead, blankTrail⟩ := Text.trimChars_split body
  have inBody : document = lead ++ (Text.trimChars body ++ (trail ++ (ticks ++ more))) := by
    rw [cut]
    conv_lhs => rw [split]
    simp only [List.append_assoc]
  rw [inBody] at clean
  have atContent := clean.append
  rw [clean.run_blank blankLead] at atContent
  exact atContent.append.inText_of_blank_tick blankTrail

theorem readChars_cut_ne_ok {body more : List Char} (cut : document = body ++ (ticks ++ more))
    (value : Json) : readChars .strict (Text.trimChars body) ≠ .ok value := by
  intro read
  have whole : Scan.Clean .strict .between (Text.trimChars body ++ []) := by
    rw [List.append_nil]
    exact clean_of_readChars read
  exact whole.append.not_inText_end (inText_of_cut clean cut)

theorem visible_of_cut {body more : List Char} (cut : document = body ++ (ticks ++ more)) :
    Text.trimChars body ≠ [] := by
  intro nothing
  have inText := inText_of_cut clean cut
  rw [nothing] at inText
  exact inText

end Block

end UiSchema.Json
