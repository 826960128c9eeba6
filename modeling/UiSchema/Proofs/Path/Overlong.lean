import Mathlib.Data.List.Induction
import UiSchema.Proofs.Path.Parser

/-! The one thing in an expression that the parser of paths does not answer: an index with too many
digits, where everything in front of it is a path. -/

set_option autoImplicit false

namespace UiSchema.Path

/-- A path, an opening bracket, more digits than a number may have, and the closing bracket; nothing
is said about the rest. -/
def BeginsOverlong (cs : List Char) : Prop :=
  ∃ (path : Path) (front digits rest : List Char), cs = front ++ '[' :: (digits ++ ']' :: rest) ∧
    Parse.start.run 0 front = .ok path ∧ (∀ c ∈ digits, c.isDigit = true) ∧
    mostDigits < digits.length

/-- Space around an expression is ignored. -/
def Overlong (expression : String) : Prop := BeginsOverlong (Text.trimChars expression.toList)

namespace Parse

variable {p q : Parse} {position : Nat} {cs : List Char}

/-- The state after some characters, if the parser does not stop at one of them. -/
def after (p : Parse) (position : Nat) : List Char → Except Stop Parse
  | [] => .ok p
  | c :: rest => do after (← p.step position c) (position + 1) rest

theorem after_cons (p : Parse) (position : Nat) (c : Char) (rest : List Char) :
    p.after position (c :: rest) =
      p.step position c >>= fun q => q.after (position + 1) rest := rfl

theorem after_singleton (p : Parse) (position : Nat) (c : Char) :
    p.after position [c] = p.step position c := by
  rw [after_cons]
  cases p.step position c <;> rfl

theorem after_append (p : Parse) (position : Nat) (cs ds : List Char) :
    p.after position (cs ++ ds) =
      p.after position cs >>= fun q => q.after (position + cs.length) ds := by
  induction cs generalizing p position with
  | nil => rfl
  | cons c cs ih =>
    have further : position + (c :: cs).length = position + 1 + cs.length := by
      rw [List.length_cons]
      omega
    rw [List.cons_append, after_cons, after_cons, further]
    cases p.step position c with
    | error stop => rfl
    | ok next => exact ih next (position + 1)

/-- A run ends in the state after all characters. -/
theorem run_eq (p : Parse) (position : Nat) (cs : List Char) :
    p.run position cs = p.after position cs >>= fun q => q.finish (position + cs.length) := by
  induction cs generalizing p position with
  | nil => rfl
  | cons c cs ih =>
    have further : position + (c :: cs).length = position + 1 + cs.length := by
      rw [List.length_cons]
      omega
    rw [run, after_cons, further]
    cases p.step position c with
    | error stop => rfl
    | ok next => exact ih next (position + 1)

/-- A name or an index has just ended, or a name may end here. -/
def Complete (p : Parse) : Prop := p.scan = .afterIndex ∨ ∃ run, p.scan = .inName run

theorem complete_iff (p : Parse) (position : Nat) :
    Complete p ↔ ∃ path, p.finish position = .ok path := by
  obtain ⟨found, scan⟩ := p
  cases scan <;> simp [Complete, finish]

/-- A bracket is opened behind a path, and nowhere else. -/
theorem step_bracket (complete : Complete p) (position : Nat) :
    ∃ found, p.step position '[' = .ok ⟨found, .inIndex position []⟩ := by
  have noName : isNameChar '[' = false := by decide
  unfold step
  rcases complete with scan | ⟨run, scan⟩
  · rw [scan]
    exact ⟨_, rfl⟩
  · rw [scan]
    simp only [noName, Bool.false_eq_true, if_false]
    exact ⟨_, rfl⟩

theorem after_digits {found : List Segment} {opened : Nat} (run : List Char) {digits : List Char}
    (none : ∀ c ∈ digits, c ≠ ']') (position : Nat) :
    after ⟨found, .inIndex opened run⟩ position digits =
      .ok ⟨found, .inIndex opened (digits.reverse ++ run)⟩ := by
  induction digits generalizing run position with
  | nil => rfl
  | cons c digits ih =>
    obtain ⟨other, none⟩ := List.forall_mem_cons.1 none
    have pushed : step ⟨found, .inIndex opened run⟩ position c =
        .ok ⟨found, .inIndex opened (c :: run)⟩ := if_neg other
    rw [after_cons, pushed]
    show after _ _ digits = _
    rw [ih (c :: run) none, List.reverse_cons, List.append_assoc]
    rfl

theorem closeIndex_eq_overflow {found : List Segment} {opened : Nat} {run : List Char} :
    closeIndex found opened run = .error .overflow ↔
      (∀ c ∈ run, c.isDigit = true) ∧ mostDigits < run.length := by
  unfold closeIndex
  dsimp only
  split
  · rename_i bad
    -- no digits at all are not too many, and other characters are no digits
    simp only [reduceCtorEq, Except.error.injEq, false_iff, not_and]
    rintro digits many
    have some : run ≠ [] := by
      rintro rfl
      simp at many
    obtain ⟨c, member, other⟩ : ∃ c ∈ run, c.isDigit = false := by simpa [some] using bad
    exact absurd (digits c member) (by simp [other])
  · rename_i good
    have digits : ∀ c ∈ run, c.isDigit = true := by
      intro c member
      simp only [Bool.or_eq_true, not_or, Bool.not_eq_true', Bool.not_eq_false] at good
      exact List.all_eq_true.1 good.2 c (List.mem_reverse.2 member)
    rw [List.length_reverse]
    split
    · rename_i many
      exact iff_of_true rfl ⟨digits, many⟩
    · rename_i few
      exact iff_of_false nofun fun both => few both.2

theorem separator_scan {found : List Segment} {c : Char} {next : Parse} {opened : Nat}
    {run : List Char} (stepped : separator found position c = .ok next)
    (inside : next.scan = .inIndex opened run) : c = '[' ∧ run = [] := by
  unfold separator at stepped
  split at stepped
  · cases stepped
    cases inside
  · split at stepped
    · cases stepped
      cases inside
      exact ⟨‹_›, rfl⟩
    · split at stepped <;> cases stepped

/-- Inside brackets the last character was a part of the index, or the opening bracket behind a
path. -/
theorem step_inIndex {c : Char} {opened : Nat} {run : List Char}
    (stepped : p.step position c = .ok q) (inside : q.scan = .inIndex opened run) :
    (c = '[' ∧ run = [] ∧ Complete p) ∨
      ∃ before, p.scan = .inIndex opened before ∧ run = c :: before := by
  unfold step at stepped
  split at stepped
  case h_1 =>
    split at stepped
    · cases stepped
      cases inside
    · split at stepped
      · cases stepped
      · split at stepped
        · cases stepped
        · split at stepped <;> cases stepped
  case h_2 name scan =>
    split at stepped
    · cases stepped
      cases inside
    · obtain ⟨bracket, empty⟩ := separator_scan stepped inside
      exact .inl ⟨bracket, empty, .inr ⟨name, scan⟩⟩
  case h_3 opened' before scan =>
    split at stepped
    · unfold closeIndex at stepped
      dsimp only at stepped
      split at stepped
      · cases stepped
      · split at stepped
        · cases stepped
        · cases stepped
          cases inside
    · cases stepped
      cases inside
      exact .inr ⟨before, scan, rfl⟩
  case h_4 scan =>
    obtain ⟨bracket, empty⟩ := separator_scan stepped inside
    exact .inl ⟨bracket, empty, .inl scan⟩

/-- What was read up to a place inside brackets is a path, the opening bracket and the index so
far. -/
theorem split_inIndex {opened : Nat} {run : List Char} (reached : start.after 0 cs = .ok p)
    (inside : p.scan = .inIndex opened run) :
    ∃ path front, cs = front ++ '[' :: run.reverse ∧ start.run 0 front = .ok path := by
  -- from the end of the text back to the bracket, one character of the index after the other
  induction cs using List.reverseRecOn generalizing p run with
  | nil =>
    cases reached
    cases inside
  | append_singleton front c ih =>
    rw [after_append] at reached
    cases before : start.after 0 front with
    | error stop =>
      rw [before] at reached
      cases reached
    | ok q =>
      rw [before] at reached
      have stepped : q.step (0 + front.length) c = .ok p := (after_singleton ..).symm.trans reached
      rcases step_inIndex stepped inside with ⟨rfl, rfl, complete⟩ | ⟨run', scan, rfl⟩
      · obtain ⟨path, finished⟩ := (complete_iff q (0 + front.length)).1 complete
        refine ⟨path, front, rfl, ?_⟩
        rw [run_eq, before]
        exact finished
      · obtain ⟨path, first, rfl, read⟩ := ih before scan
        exact ⟨path, first, by simp, read⟩

theorem finish_ne_overflow (p : Parse) (position : Nat) : p.finish position ≠ .error .overflow := by
  obtain ⟨found, scan⟩ := p
  cases scan <;> simp [finish]

/-- Too many digits are noticed at the bracket that closes them. -/
theorem step_eq_overflow {c : Char} :
    p.step position c = .error .overflow ↔
      ∃ opened run, p.scan = .inIndex opened run ∧ c = ']' ∧ (∀ d ∈ run, d.isDigit = true) ∧
        mostDigits < run.length := by
  obtain ⟨found, scan⟩ := p
  have separated (found : List Segment) : separator found position c ≠ .error .overflow := by
    unfold separator
    split <;> [skip; split <;> [skip; split]] <;> simp
  cases scan with
  | expectName =>
    simp only [step, reduceCtorEq, false_and, exists_false, iff_false]
    split <;> [skip; split <;> [skip; split <;> [skip; split]]] <;> simp
  | inName run =>
    simp only [step, reduceCtorEq, false_and, exists_false, iff_false]
    split
    · simp
    · exact separated _
  | inIndex opened run =>
    simp only [step, Scan.inIndex.injEq]
    by_cases close : c = ']'
    · simp only [if_pos close, closeIndex_eq_overflow]
      exact ⟨fun both => ⟨opened, run, ⟨rfl, rfl⟩, close, both⟩, by
        rintro ⟨_, _, ⟨rfl, rfl⟩, _, both⟩
        exact both⟩
    · simp [close]
  | afterIndex => simp [step, separated]

/-- What stops a run is one step. -/
theorem after_eq_error {stop : Stop} :
    p.after position cs = .error stop ↔
      ∃ front c rest q, cs = front ++ c :: rest ∧ p.after position front = .ok q ∧
        q.step (position + front.length) c = .error stop := by
  constructor
  · intro stopped
    induction cs generalizing p position with
    | nil => cases stopped
    | cons c rest ih =>
      rw [after_cons] at stopped
      cases stepped : p.step position c with
      | error stop' =>
        rw [stepped] at stopped
        cases stopped
        exact ⟨[], c, rest, p, rfl, rfl, stepped⟩
      | ok next =>
        rw [stepped] at stopped
        obtain ⟨front, d, others, q, rfl, reached, last⟩ := ih stopped
        have further : position + (c :: front).length = position + 1 + front.length := by
          rw [List.length_cons]
          omega
        refine ⟨c :: front, d, others, q, rfl, ?_, further ▸ last⟩
        rw [after_cons, stepped]
        exact reached
  · rintro ⟨front, c, rest, q, rfl, reached, last⟩
    rw [after_append, reached, ← last]
    show q.after _ (c :: rest) = _
    rw [after_cons, last]
    rfl

/-- The parser gives up on an index exactly where it has too many digits and follows a path. -/
theorem start_run_eq_overflow : start.run 0 cs = .error .overflow ↔ BeginsOverlong cs := by
  -- at the end of the text it is too late for an overflow
  have ends : start.run 0 cs = .error .overflow ↔ start.after 0 cs = .error .overflow := by
    rw [run_eq]
    cases start.after 0 cs with
    | error stop => simp [bind, Except.bind]
    | ok q => exact iff_of_false (finish_ne_overflow q _) nofun
  rw [ends, after_eq_error]
  constructor
  · rintro ⟨seen, c, rest, q, rfl, reached, overflow⟩
    obtain ⟨opened, run, inside, rfl, digits, many⟩ := step_eq_overflow.1 overflow
    obtain ⟨path, front, rfl, read⟩ := split_inIndex reached inside
    exact ⟨path, front, run.reverse, rest, by simp, read, by simpa using digits,
      by simpa using many⟩
  · rintro ⟨path, front, digits, rest, rfl, read, all, many⟩
    rw [run_eq] at read
    cases reached : start.after 0 front with
    | error stop =>
      rw [reached] at read
      cases read
    | ok q =>
      rw [reached] at read
      obtain ⟨found, bracket⟩ := step_bracket ((complete_iff q _).2 ⟨path, read⟩)
        (0 + front.length)
      have noBracket : ∀ c ∈ digits, c ≠ ']' := by
        rintro _ member rfl
        exact absurd (all _ member) (by decide)
      refine ⟨front ++ '[' :: digits, ']', rest,
        ⟨found, .inIndex (0 + front.length) digits.reverse⟩, by simp, ?_,
        step_eq_overflow.2 ⟨_, _, rfl, rfl, by simpa using all, by simpa using many⟩⟩
      rw [after_append, reached]
      show q.after _ ('[' :: digits) = _
      rw [after_cons, bracket]
      show after _ _ digits = _
      rw [after_digits [] noBracket, List.append_nil]

end Parse

theorem parseChars_eq_overflow {expression : String} :
    parseChars expression.toList = .error .overflow ↔ Overlong expression := by
  unfold Overlong
  rw [← Parse.start_run_eq_overflow, parseChars]
  split
  · rename_i empty
    rw [empty]
    simp [Parse.run, Parse.start, Parse.finish]
  · rfl

theorem parse_eq_tooManyDigits {expression : String} :
    parse expression = .error .tooManyDigits ↔ Overlong expression := by
  rw [parse_eq_error, parseChars_eq_overflow]
  exact and_iff_right rfl

theorem overlong_of_parse {expression : String} {cause : Raised}
    (raised : parse expression = .error cause) : Overlong expression := by
  obtain ⟨rfl, -⟩ := parse_eq_error.1 raised
  exact parse_eq_tooManyDigits.1 raised

theorem not_overlong_of_parse {expression : String} {read : Except SyntaxError Path}
    (parsed : parse expression = .ok read) : ¬ Overlong expression := by
  intro overlong
  have raises : parse expression = .error .tooManyDigits := parse_eq_tooManyDigits.2 overlong
  cases parsed.symm.trans raises

/-- A name with an index in brackets. -/
def indexed (digits : List Char) : List Char := 'a' :: ('[' :: digits ++ [']'])

theorem overlong_indexed {digits : List Char} (all : ∀ c ∈ digits, c.isDigit = true)
    (many : mostDigits < digits.length) : Overlong (String.ofList (indexed digits)) := by
  have noSpace : Text.trimChars (indexed digits) = indexed digits :=
    Text.trimChars_between (by decide) (by decide) _
  rw [Overlong, String.toList_ofList, noSpace]
  exact ⟨[.name "a"], ['a'], digits, [], by simp [indexed], rfl, all, many⟩

theorem unwrap_indexed (digits : List Char) :
    Binding.unwrap (String.ofList (indexed digits)) = String.ofList (indexed digits) := by
  have noSpace : Text.trimChars (indexed digits) = indexed digits :=
    Text.trimChars_between (by decide) (by decide) _
  have bare : Binding.single? (String.ofList (indexed digits)) = none := by
    rw [Binding.single?, String.toList_ofList, noSpace]
    rfl
  rw [Binding.unwrap, bare, Option.getD_none, Text.trim, String.toList_ofList, noSpace]

/-- One digit more than an index may have. -/
def tooManyDigits : List Char := List.replicate (mostDigits + 1) '1'

theorem tooManyDigits_isDigit : ∀ c ∈ tooManyDigits, c.isDigit = true := by
  intro c member
  rw [List.eq_of_mem_replicate member]
  decide

theorem lt_length_tooManyDigits : mostDigits < tooManyDigits.length := by
  rw [tooManyDigits, List.length_replicate]
  exact Nat.lt_succ_self _

end UiSchema.Path
