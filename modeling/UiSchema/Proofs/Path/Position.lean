import UiSchema.Proofs.Path.Grammar

/-! Where the parser of paths stops. The position of a syntax error is the place of what offends,
counted from the first character that is not white space; the expression it is reported with has the
white space still in front. -/

set_option autoImplicit false

namespace UiSchema.Path

/-- The characters are a path on their own. -/
def IsPath (cs : List Char) : Prop := ∃ path, Parse.start.run 0 cs = .ok path

/-- A name has to follow, at the start or behind a path and a dot. -/
def NameDue (cs : List Char) : Prop := cs = [] ∨ ∃ front, cs = front ++ ['.'] ∧ IsPath front

/-- What is wrong at the place between two parts of an expression. -/
def Offends (before behind : List Char) : SyntaxReason → Prop
  | .empty => before = [] ∧ behind = []
  | .emptySegment =>
    NameDue before ∧ (behind.head? = some '.' ∨ before ≠ [] ∧ behind.head? = some '[')
  | .noContainer => before = [] ∧ behind.head? = some '['
  | .unmatchedOpen => IsPath before ∧ behind.head? = some '[' ∧ ']' ∉ behind
  | .unmatchedClose => (NameDue before ∨ IsPath before) ∧ behind.head? = some ']'
  | .badIndex text => ∃ front rest, before = front ++ ['['] ∧ IsPath front ∧
      behind = text.toList ++ ']' :: rest ∧ ']' ∉ text.toList ∧
      (text.toList = [] ∨ ∃ c ∈ text.toList, c.isDigit = false)
  | .missingSeparator => IsPath before ∧ ∃ c ∈ behind.head?, c ∉ ['.', '[', ']']
  | .unexpected c =>
    NameDue before ∧ behind.head? = some c ∧ isNameChar c = false ∧ c ∉ ['.', '[', ']']
  | .trailingDot => NameDue before ∧ before ≠ [] ∧ behind = []

/-- Something is wrong at a position of an expression. -/
def Located (cs : List Char) (position : Nat) (reason : SyntaxReason) : Prop :=
  ∃ before behind, cs = before ++ behind ∧ before.length = position ∧ Offends before behind reason

namespace Parse

theorem Spelled.isPath {found : List Segment} {cs : List Char} (spelled : Spelled found cs) :
    IsPath cs := by
  obtain ⟨s, short, rfl, -⟩ := spelled
  exact ⟨s.path, run_spelling short⟩

theorem BeforeName.nameDue {found : List Segment} {cs : List Char} (before : BeforeName found cs) :
    NameDue cs := by
  rcases before with ⟨rfl, -⟩ | ⟨front, rfl, spelled⟩
  · exact .inl rfl
  · exact .inr ⟨front, rfl, spelled.isPath⟩

theorem BeforeName.isEmpty_iff {found : List Segment} {cs : List Char}
    (before : BeforeName found cs) : found.isEmpty = true ↔ cs = [] := by
  rcases before with ⟨rfl, rfl⟩ | ⟨front, rfl, s, -, -, rfl⟩
  · exact iff_of_true rfl rfl
  · exact iff_of_false (by simp [Spelling.path]) (by simp)

/-- Inside brackets the position tells how far it is to the opening one. -/
def Placed (p : Parse) (position : Nat) : Prop :=
  ∀ opened run, p.scan = .inIndex opened run →
    position = opened + (run.length + 1) ∧ ']' ∉ run

theorem Placed.separator {found : List Segment} {position : Nat} {c : Char} {next : Parse}
    (stepped : separator found position c = .ok next) : Placed next (position + 1) := by
  unfold Parse.separator at stepped
  split at stepped
  · cases stepped
    rintro _ _ ⟨⟩
  · split at stepped
    · cases stepped
      rintro _ _ ⟨⟩
      exact ⟨rfl, List.not_mem_nil⟩
    · split at stepped <;> cases stepped

theorem Placed.step {p next : Parse} {position : Nat} (placed : Placed p position) {c : Char}
    (stepped : p.step position c = .ok next) : Placed next (position + 1) := by
  obtain ⟨found, scan⟩ := p
  cases scan with
  | expectName =>
    simp only [Parse.step] at stepped
    split at stepped
    · cases stepped
      rintro _ _ ⟨⟩
    · split at stepped <;> [skip; split at stepped <;> [skip; split at stepped]] <;> cases stepped
  | inName run =>
    simp only [Parse.step] at stepped
    split at stepped
    · cases stepped
      rintro _ _ ⟨⟩
    · exact Placed.separator stepped
  | inIndex opened run =>
    simp only [Parse.step] at stepped
    split at stepped
    · -- no index is open once this one has been closed
      unfold closeIndex at stepped
      dsimp only at stepped
      split at stepped <;> [skip; split at stepped] <;> cases stepped
      rintro _ _ ⟨⟩
    · rename_i other
      cases stepped
      rintro _ _ ⟨⟩
      obtain ⟨far, none⟩ := placed opened run rfl
      exact ⟨by rw [far]; rfl, by simp [Ne.symm other, none]⟩
  | afterIndex => exact Placed.separator stepped

theorem reads_after {cs : List Char} {p : Parse} (reached : start.after 0 cs = .ok p) :
    Reads p cs ∧ Placed p cs.length := by
  induction cs using List.reverseRecOn generalizing p with
  | nil =>
    cases reached
    exact ⟨.inl ⟨rfl, rfl⟩, nofun⟩
  | append_singleton front c ih =>
    rw [after_append] at reached
    cases before : start.after 0 front with
    | error stop =>
      rw [before] at reached
      cases reached
    | ok q =>
      rw [before] at reached
      have stepped : q.step (0 + front.length) c = .ok p := (after_singleton ..).symm.trans reached
      rw [Nat.zero_add] at stepped
      obtain ⟨reads, placed⟩ := ih before
      rw [List.length_append]
      exact ⟨reads.step stepped, placed.step stepped⟩

/-! ### Each way to stop -/

variable {before : List Char} {c : Char} {position : Nat} {reason : SyntaxReason}

theorem located_separator {found : List Segment} (spelled : Spelled found before)
    (stopped : separator found before.length c = .error (.malformed position reason))
    (rest : List Char) : Located (before ++ c :: rest) position reason := by
  unfold separator at stopped
  split at stopped
  · cases stopped
  · rename_i noDot
    split at stopped
    · cases stopped
    · rename_i noOpening
      split at stopped
      · rename_i closing
        cases stopped
        exact ⟨before, _, rfl, rfl, .inr spelled.isPath, congrArg some closing⟩
      · rename_i noClosing
        cases stopped
        exact ⟨before, _, rfl, rfl, spelled.isPath, c, rfl, by simp [noDot, noOpening, noClosing]⟩

theorem located_expectName {found : List Segment} (due : BeforeName found before)
    (stopped : step ⟨found, .expectName⟩ before.length c = .error (.malformed position reason))
    (rest : List Char) : Located (before ++ c :: rest) position reason := by
  simp only [step] at stopped
  split at stopped
  · cases stopped
  · rename_i noName
    split at stopped
    · rename_i dot
      cases stopped
      exact ⟨before, _, rfl, rfl, due.nameDue, .inl (congrArg some dot)⟩
    · rename_i noDot
      split at stopped
      · rename_i opening
        cases stopped
        refine ⟨before, _, rfl, rfl, ?_⟩
        split
        · rename_i first
          exact ⟨due.isEmpty_iff.1 first, congrArg some opening⟩
        · rename_i further
          exact ⟨due.nameDue, .inr ⟨mt due.isEmpty_iff.2 further, congrArg some opening⟩⟩
      · rename_i noOpening
        split at stopped
        · rename_i closing
          cases stopped
          exact ⟨before, _, rfl, rfl, .inl due.nameDue, congrArg some closing⟩
        · rename_i noClosing
          cases stopped
          exact ⟨before, _, rfl, rfl, due.nameDue, rfl, by simpa using noName,
            by simp [noDot, noOpening, noClosing]⟩

/-- An index that is none is found out at the closing bracket, and reported at its first
character. -/
theorem located_closeIndex {found : List Segment} {front run : List Char}
    (spelled : Spelled found front) (inside : ']' ∉ run)
    (stopped : closeIndex found front.length run = .error (.malformed position reason))
    (rest : List Char) :
    Located (front ++ '[' :: run.reverse ++ ']' :: rest) position reason := by
  unfold closeIndex at stopped
  dsimp only at stopped
  split at stopped
  · rename_i bad
    cases stopped
    refine ⟨front ++ ['['], run.reverse ++ ']' :: rest, by simp, by simp,
      front, rest, rfl, spelled.isPath, ?_⟩
    rw [String.toList_ofList]
    exact ⟨rfl, by simpa using inside, by simpa using bad⟩
  · split at stopped <;> cases stopped

theorem located_step {p : Parse} (reads : Reads p before) (placed : Placed p before.length)
    (stopped : p.step before.length c = .error (.malformed position reason)) (rest : List Char) :
    Located (before ++ c :: rest) position reason := by
  obtain ⟨found, scan⟩ := p
  cases scan with
  | expectName => exact located_expectName reads stopped rest
  | inName run =>
    obtain ⟨front, identifier, same, rfl, due⟩ := reads
    simp only [step] at stopped
    split at stopped
    · cases stopped
    · refine located_separator ?_ stopped rest
      rw [nameSegment, ← same]
      exact due.name identifier
  | inIndex opened run =>
    obtain ⟨far, inside⟩ := placed opened run rfl
    obtain ⟨front, rfl, spelled⟩ := reads
    simp only [step] at stopped
    split at stopped
    · rename_i closing
      have first : front.length = opened := by
        simp only [List.length_append, List.length_cons, List.length_reverse] at far
        omega
      rw [closing]
      exact located_closeIndex spelled inside (first ▸ stopped) rest
    · cases stopped
  | afterIndex => exact located_separator reads stopped rest

theorem located_finish {p : Parse} (reads : Reads p before) (placed : Placed p before.length)
    (some : before ≠ [])
    (stopped : p.finish before.length = .error (.malformed position reason)) :
    Located before position reason := by
  obtain ⟨found, scan⟩ := p
  cases scan with
  | expectName =>
    cases stopped
    exact ⟨before, [], (List.append_nil _).symm, rfl, reads.nameDue, some, rfl⟩
  | inName run => cases stopped
  | inIndex opened run =>
    obtain ⟨far, inside⟩ := placed opened run rfl
    obtain ⟨front, rfl, spelled⟩ := reads
    cases stopped
    refine ⟨front, '[' :: run.reverse, rfl, ?_, spelled.isPath, rfl, by simpa using inside⟩
    simp only [List.length_append, List.length_cons, List.length_reverse] at far
    omega
  | afterIndex => cases stopped

theorem located_run {cs : List Char} (some : cs ≠ [])
    (stopped : start.run 0 cs = .error (.malformed position reason)) :
    Located cs position reason := by
  rw [run_eq] at stopped
  cases reached : start.after 0 cs with
  | ok p =>
    obtain ⟨reads, placed⟩ := reads_after reached
    rw [reached, Nat.zero_add] at stopped
    exact located_finish reads placed some stopped
  | error stop =>
    rw [reached] at stopped
    cases stopped
    obtain ⟨front, c, rest, q, rfl, before, last⟩ := after_eq_error.1 reached
    obtain ⟨reads, placed⟩ := reads_after before
    rw [Nat.zero_add] at last
    exact located_step reads placed last rest

end Parse

theorem located_parseChars {cs : List Char} {position : Nat} {reason : SyntaxReason}
    (stopped : parseChars cs = .error (.malformed position reason)) :
    Located (Text.trimChars cs) position reason := by
  rw [parseChars] at stopped
  split at stopped
  · rename_i nothing
    cases stopped
    exact ⟨[], [], nothing, rfl, rfl, rfl⟩
  · rename_i some
    exact Parse.located_run some stopped

theorem parse_eq_malformed {expression : String} {e : SyntaxError} :
    parse expression = .ok (.error e) ↔
      e.expression = expression ∧
        parseChars expression.toList = .error (.malformed e.position e.reason) := by
  obtain ⟨reported, position, reason⟩ := e
  rw [parse]
  cases parseChars expression.toList with
  | ok path => simp
  | error stop =>
    cases stop with
    | overflow => simp
    | malformed found cause =>
      constructor
      · rintro ⟨⟩
        exact ⟨rfl, rfl⟩
      · rintro ⟨rfl, ⟨⟩⟩
        rfl

/-- White space in front of an expression that is no path moves what offends, but not the position
that is reported for it. -/
theorem malformed_behind_space {w s : String} {e : SyntaxError}
    (blank : Text.isBlankText w = true) (malformed : parse s = .ok (.error e)) :
    parse (w ++ s) = .ok (.error { e with expression := w ++ s }) ∧
      (parse (w ++ s) =
          .ok (.error { e with expression := w ++ s, position := w.length + e.position }) ↔
        w = "") ∧
      ∃ lead before behind trail, (w ++ s).toList = lead ++ ((before ++ behind) ++ trail) ∧
        (∀ c ∈ lead, Text.isBlank c = true) ∧ (∀ c ∈ trail, Text.isBlank c = true) ∧
        before ++ behind = Text.trimChars s.toList ∧ before.length = e.position ∧
        Offends before behind e.reason := by
  obtain ⟨-, stopped⟩ := parse_eq_malformed.1 malformed
  have same : Text.trimChars (w ++ s).toList = Text.trimChars s.toList := by
    rw [String.toList_append]
    exact Text.trimChars_blanks_append (List.all_eq_true.1 blank) _
  have again : parse (w ++ s) = .ok (.error { e with expression := w ++ s }) := by
    refine parse_eq_malformed.2 ⟨rfl, ?_⟩
    rw [parseChars, same]
    exact stopped
  refine ⟨again, ?_, ?_⟩
  · rw [again]
    simp
  · obtain ⟨before, behind, whole, place, offends⟩ := located_parseChars stopped
    obtain ⟨lead, trail, split, first, last⟩ := Text.trimChars_split (w ++ s).toList
    rw [same, whole] at split
    exact ⟨lead, before, behind, trail, split, first, last, whole.symm, place, offends⟩

theorem two_dots_behind_space :
    Text.isBlankText "  " = true ∧
      parse "a..b" = .ok (.error ⟨"a..b", 2, .emptySegment⟩) ∧
      parse ("  " ++ "a..b") = .ok (.error ⟨"  " ++ "a..b", 2, .emptySegment⟩) :=
  ⟨by decide, by decide, (malformed_behind_space (w := "  ") (s := "a..b")
    (e := ⟨"a..b", 2, .emptySegment⟩) (by decide) (by decide)).1⟩

/-- The second dot is the third character of the one expression and the fifth of the other. -/
theorem space_not_counted :
    parse "a..b" = .ok (.error ⟨"a..b", 2, .emptySegment⟩) ∧
      parse "  a..b" ≠ .ok (.error ⟨"  a..b", 2 + 2, .emptySegment⟩) := by
  decide

end UiSchema.Path
