import UiSchema.Proofs.Path.Overlong

/-! The grammar of paths: an identifier, then any number of dots with identifiers and of indexes in
brackets. A text is spelled by the grammar in at most one way, and the parser reads the texts that
are, unless an index has too many digits. -/

set_option autoImplicit false

namespace UiSchema.Path

/-- One character or more, all of one kind. -/
abbrev Run (kind : Char → Bool) := { cs : List Char // cs ≠ [] ∧ ∀ c ∈ cs, kind c = true }

abbrev Identifier := Run isNameChar

abbrev Digits := Run Char.isDigit

/-- What may follow the first identifier. -/
inductive Part where
  | name (identifier : Identifier)
  | index (digits : Digits)

namespace Part

def chars : Part → List Char
  | .name identifier => '.' :: identifier.val
  | .index digits => '[' :: (digits.val ++ [']'])

def segment : Part → Segment
  | .name identifier => .name (String.ofList identifier.val)
  | .index digits => .index (Nat.ofDigitChars 10 digits.val 0)

/-- An index has no more digits than a number may have. -/
def Short : Part → Prop
  | .name _ => True
  | .index digits => digits.val.length ≤ mostDigits

end Part

/-- A path as the grammar spells it. -/
structure Spelling where
  first : Identifier
  rest : List Part

namespace Spelling

def chars (s : Spelling) : List Char := s.first.val ++ s.rest.flatMap Part.chars

def path (s : Spelling) : Path :=
  .name (String.ofList s.first.val) :: s.rest.map Part.segment

def Short (s : Spelling) : Prop := ∀ part ∈ s.rest, part.Short

/-- One more part at the end. -/
def extend (s : Spelling) (part : Part) : Spelling := { s with rest := s.rest ++ [part] }

@[simp] theorem chars_extend (s : Spelling) (part : Part) :
    (s.extend part).chars = s.chars ++ part.chars := by
  simp [chars, extend]

@[simp] theorem path_extend (s : Spelling) (part : Part) :
    (s.extend part).path = s.path ++ [part.segment] := by
  simp [path, extend]

theorem Short.extend {s : Spelling} (short : s.Short) {part : Part} (last : part.Short) :
    (s.extend part).Short := by
  intro other member
  rcases List.mem_append.1 member with before | here
  · exact short other before
  · rw [List.mem_singleton.1 here]
    exact last

theorem chars_ne_nil (s : Spelling) : s.chars ≠ [] :=
  List.append_ne_nil_of_left_ne_nil s.first.property.1 _

end Spelling

/-! ### One spelling -/

/-- A run ends where its kind of character ends. -/
theorem Run.append_inj {kind : Char → Bool} {a b : Run kind} {r s : List Char}
    (endsR : ∀ c ∈ r.head?, kind c = false) (endsS : ∀ c ∈ s.head?, kind c = false)
    (same : a.val ++ r = b.val ++ s) : a = b ∧ r = s := by
  have stops {t : List Char} (ends : ∀ c ∈ t.head?, kind c = false) : t.takeWhile kind = [] := by
    cases t with
    | nil => rfl
    | cons c t => simp [ends c rfl]
  have taken := congrArg (List.takeWhile kind) same
  rw [List.takeWhile_append_of_pos a.property.2, List.takeWhile_append_of_pos b.property.2,
    stops endsR, stops endsS, List.append_nil, List.append_nil] at taken
  exact ⟨Subtype.ext taken, List.append_cancel_left (taken ▸ same)⟩

/-- Neither a dot nor a bracket belongs to a name. -/
theorem head?_parts (parts : List Part) :
    ∀ c ∈ (parts.flatMap Part.chars).head?, isNameChar c = false := by
  intro c first
  rcases parts with _ | ⟨_ | _, _⟩
  · cases first
  · cases first
    decide
  · cases first
    decide

theorem parts_injective {ps qs : List Part}
    (same : ps.flatMap Part.chars = qs.flatMap Part.chars) : ps = qs := by
  induction ps generalizing qs with
  | nil =>
    rcases qs with _ | ⟨_ | _, _⟩
    · rfl
    · cases same
    · cases same
  | cons p ps ih =>
    cases qs with
    | nil => rcases p with _ | _ <;> cases same
    | cons q qs =>
      cases p with
      | name a =>
        cases q with
        | name b =>
          obtain ⟨rfl, rest⟩ := Run.append_inj (head?_parts ps) (head?_parts qs)
            (List.cons.inj same).2
          rw [ih rest]
        | index b => cases (List.cons.inj same).1
      | index a =>
        cases q with
        | name b => cases (List.cons.inj same).1
        | index b =>
          have inside : a.val ++ ']' :: ps.flatMap Part.chars =
              b.val ++ ']' :: qs.flatMap Part.chars := by
            simpa [Part.chars] using same
          have close : ∀ r : List Char, ∀ c ∈ (']' :: r).head?, c.isDigit = false := by
            rintro r _ ⟨⟩
            decide
          obtain ⟨rfl, rest⟩ := Run.append_inj (close _) (close _) inside
          rw [ih (List.cons.inj rest).2]

theorem Spelling.chars_injective {s t : Spelling} (same : s.chars = t.chars) : s = t := by
  obtain ⟨a, ps⟩ := s
  obtain ⟨b, qs⟩ := t
  obtain ⟨rfl, rest⟩ := Run.append_inj (head?_parts ps) (head?_parts qs) same
  rw [parts_injective rest]

/-! ### A spelled text is read -/

namespace Parse

variable {p : Parse}

/-- The segments read so far, the last one first. -/
def segments (p : Parse) : List Segment :=
  match p.scan with
  | .inName run => nameSegment run :: p.found
  | _ => p.found

theorem finish_complete (complete : Complete p) (position : Nat) :
    p.finish position = .ok p.segments.reverse := by
  obtain ⟨found, scan⟩ := p
  rcases complete with (rfl : scan = _) | ⟨run, (rfl : scan = _)⟩ <;> rfl

/-- Behind a complete segment a character that is no part of a name separates. -/
theorem step_complete (complete : Complete p) {c : Char} (other : isNameChar c = false)
    (position : Nat) : p.step position c = separator p.segments position c := by
  obtain ⟨found, scan⟩ := p
  rcases complete with (rfl : scan = _) | ⟨run, (rfl : scan = _)⟩
  · rfl
  · simp [step, segments, other]

theorem after_nameChars (found : List Segment) (run : List Char) {cs : List Char}
    (name : ∀ c ∈ cs, isNameChar c = true) (position : Nat) :
    after ⟨found, .inName run⟩ position cs = .ok ⟨found, .inName (cs.reverse ++ run)⟩ := by
  induction cs generalizing run position with
  | nil => rfl
  | cons c cs ih =>
    obtain ⟨here, others⟩ := List.forall_mem_cons.1 name
    have pushed : step ⟨found, .inName run⟩ position c = .ok ⟨found, .inName (c :: run)⟩ :=
      if_pos here
    rw [after_cons, pushed]
    show after _ _ cs = _
    rw [ih (c :: run) others, List.reverse_cons, List.append_assoc]
    rfl

theorem after_identifier (found : List Segment) (identifier : Identifier) (position : Nat) :
    after ⟨found, .expectName⟩ position identifier.val =
      .ok ⟨found, .inName identifier.val.reverse⟩ := by
  obtain ⟨cs, nonempty, name⟩ := identifier
  cases cs with
  | nil => exact absurd rfl nonempty
  | cons c cs =>
    obtain ⟨here, others⟩ := List.forall_mem_cons.1 name
    have begun : step ⟨found, .expectName⟩ position c = .ok ⟨found, .inName [c]⟩ := if_pos here
    rw [after_cons, begun]
    show after _ _ cs = _
    rw [after_nameChars found [c] others, List.reverse_cons]

theorem closeIndex_digits (found : List Segment) (opened : Nat) (digits : Digits)
    (short : digits.val.length ≤ mostDigits) :
    closeIndex found opened digits.val.reverse =
      .ok ⟨.index (Nat.ofDigitChars 10 digits.val 0) :: found, .afterIndex⟩ := by
  obtain ⟨cs, nonempty, all⟩ := digits
  have some : cs.isEmpty = false := List.isEmpty_eq_false_iff.2 nonempty
  have good : cs.all Char.isDigit = true := List.all_eq_true.2 all
  simp only [closeIndex, List.reverse_reverse, some, good, Nat.not_lt.2 short]
  rfl

/-- One part of the grammar is read behind a complete segment. -/
theorem after_part (complete : Complete p) {part : Part} (short : part.Short) (position : Nat) :
    ∃ q, p.after position part.chars = .ok q ∧ Complete q ∧
      q.segments = part.segment :: p.segments := by
  cases part with
  | name identifier =>
    refine ⟨⟨p.segments, .inName identifier.val.reverse⟩, ?_, .inr ⟨_, rfl⟩, ?_⟩
    · rw [Part.chars, after_cons, step_complete complete (by decide)]
      exact after_identifier _ identifier _
    · simp [segments, nameSegment, Part.segment]
  | index digits =>
    refine ⟨⟨_, .afterIndex⟩, ?_, .inl rfl, rfl⟩
    have noBracket : ∀ c ∈ digits.val, c ≠ ']' := by
      rintro _ member rfl
      exact absurd (digits.property.2 _ member) (by decide)
    rw [Part.chars, after_cons, step_complete complete (by decide)]
    show after ⟨p.segments, .inIndex position []⟩ _ (digits.val ++ [']']) = _
    rw [after_append, after_digits [] noBracket, List.append_nil]
    show after _ _ [']'] = _
    rw [after_singleton]
    exact closeIndex_digits _ _ digits short

theorem after_parts (complete : Complete p) {parts : List Part}
    (short : ∀ part ∈ parts, part.Short) (position : Nat) :
    ∃ q, p.after position (parts.flatMap Part.chars) = .ok q ∧ Complete q ∧
      q.segments = (parts.map Part.segment).reverse ++ p.segments := by
  induction parts generalizing p position with
  | nil => exact ⟨p, rfl, complete, rfl⟩
  | cons part parts ih =>
    obtain ⟨here, others⟩ := List.forall_mem_cons.1 short
    obtain ⟨q, reached, between, first⟩ := after_part complete here position
    obtain ⟨r, reached', ends, further⟩ := ih between others (position + part.chars.length)
    refine ⟨r, ?_, ends, ?_⟩
    · rw [List.flatMap_cons, after_append, reached]
      exact reached'
    · rw [further, first]
      simp

theorem run_spelling {s : Spelling} (short : s.Short) : start.run 0 s.chars = .ok s.path := by
  obtain ⟨q, reached, complete, found⟩ := after_parts
    (p := ⟨[], .inName s.first.val.reverse⟩) (.inr ⟨_, rfl⟩) short (0 + s.first.val.length)
  rw [run_eq, Spelling.chars, after_append, start, after_identifier]
  show (after _ _ _ >>= fun q => q.finish _) = _
  rw [reached]
  show q.finish _ = _
  rw [finish_complete complete, found]
  simp [segments, Spelling.path, nameSegment]

/-! ### What is read is spelled -/

/-- Characters that spell segments, the last one of which comes first. -/
def Spelled (found : List Segment) (cs : List Char) : Prop :=
  ∃ s : Spelling, s.Short ∧ cs = s.chars ∧ found = s.path.reverse

/-- Characters in front of a name: none at all, or a spelled path with a dot. -/
def BeforeName (found : List Segment) (cs : List Char) : Prop :=
  (cs = [] ∧ found = []) ∨ ∃ front, cs = front ++ ['.'] ∧ Spelled found front

theorem BeforeName.name {found : List Segment} {front : List Char} (before : BeforeName found front)
    (identifier : Identifier) :
    Spelled (.name (String.ofList identifier.val) :: found) (front ++ identifier.val) := by
  rcases before with ⟨rfl, rfl⟩ | ⟨front, rfl, s, short, rfl, rfl⟩
  · exact ⟨⟨identifier, []⟩, nofun, by simp [Spelling.chars], rfl⟩
  · exact ⟨s.extend (.name identifier), short.extend trivial, by simp [Part.chars],
      by simp [Part.segment]⟩

theorem Spelled.index {found : List Segment} {front : List Char} (spelled : Spelled found front)
    (digits : Digits) (few : digits.val.length ≤ mostDigits) :
    Spelled (.index (Nat.ofDigitChars 10 digits.val 0) :: found)
      (front ++ '[' :: (digits.val ++ [']'])) := by
  obtain ⟨s, short, rfl, rfl⟩ := spelled
  exact ⟨s.extend (.index digits), short.extend few, by simp [Part.chars], by simp [Part.segment]⟩

/-- What the characters that led to a state are. -/
def Reads (p : Parse) (cs : List Char) : Prop :=
  match p.scan with
  | .expectName => BeforeName p.found cs
  | .inName run => ∃ (front : List Char) (identifier : Identifier), identifier.val = run.reverse ∧
      cs = front ++ identifier.val ∧ BeforeName p.found front
  | .inIndex _ run => ∃ front, cs = front ++ '[' :: run.reverse ∧ Spelled p.found front
  | .afterIndex => Spelled p.found cs

theorem Reads.separator {found : List Segment} {cs : List Char} (spelled : Spelled found cs)
    {position : Nat} {c : Char} {next : Parse}
    (stepped : separator found position c = .ok next) : Reads next (cs ++ [c]) := by
  unfold Parse.separator at stepped
  split at stepped
  · rename_i dot
    cases stepped
    exact .inr ⟨cs, by rw [dot], spelled⟩
  · split at stepped
    · rename_i bracket
      cases stepped
      exact ⟨cs, by rw [bracket]; rfl, spelled⟩
    · split at stepped <;> cases stepped

theorem Reads.closeIndex {found : List Segment} {front run : List Char}
    (spelled : Spelled found front) {opened : Nat} {next : Parse}
    (closed : closeIndex found opened run = .ok next) :
    Reads next (front ++ '[' :: (run.reverse ++ [']'])) := by
  unfold Parse.closeIndex at closed
  dsimp only at closed
  split at closed
  · cases closed
  · rename_i good
    split at closed
    · cases closed
    · rename_i few
      cases closed
      have digits : run.reverse ≠ [] ∧ ∀ c ∈ run.reverse, c.isDigit = true := by
        simpa [not_or] using good
      exact spelled.index ⟨run.reverse, digits⟩ (Nat.not_lt.1 few)

theorem Reads.step {p next : Parse} {cs : List Char} (reads : Reads p cs) {position : Nat}
    {c : Char} (stepped : p.step position c = .ok next) : Reads next (cs ++ [c]) := by
  obtain ⟨found, scan⟩ := p
  cases scan with
  | expectName =>
    have before : BeforeName found cs := reads
    simp only [Parse.step] at stepped
    split at stepped
    · rename_i letter
      cases stepped
      exact ⟨cs, ⟨[c], by simp [letter]⟩, rfl, rfl, before⟩
    · split at stepped <;> [skip; split at stepped <;> [skip; split at stepped]] <;> cases stepped
  | inName run =>
    obtain ⟨front, identifier, same, rfl, before⟩ := reads
    simp only [Parse.step] at stepped
    split at stepped
    · rename_i letter
      cases stepped
      refine ⟨front, ⟨identifier.val ++ [c], by simp, ?_⟩, by simp [same], by simp, before⟩
      intro d member
      rcases List.mem_append.1 member with old | new
      · exact identifier.property.2 d old
      · rw [List.mem_singleton.1 new]
        exact letter
    · refine Reads.separator ?_ stepped
      rw [nameSegment, ← same]
      exact before.name identifier
  | inIndex opened run =>
    obtain ⟨front, rfl, spelled⟩ := reads
    simp only [Parse.step] at stepped
    split at stepped
    · rename_i close
      rw [close, List.append_assoc]
      exact Reads.closeIndex spelled stepped
    · cases stepped
      exact ⟨front, by simp, spelled⟩
  | afterIndex => exact Reads.separator reads stepped

theorem Reads.finish {p : Parse} {cs : List Char} (reads : Reads p cs) {position : Nat}
    {path : Path} (finished : p.finish position = .ok path) : Spelled path.reverse cs := by
  obtain ⟨found, scan⟩ := p
  cases scan with
  | expectName => cases finished
  | inName run =>
    obtain ⟨front, identifier, same, rfl, before⟩ := reads
    cases finished
    rw [List.reverse_reverse, nameSegment, ← same]
    exact before.name identifier
  | inIndex opened run => cases finished
  | afterIndex =>
    cases finished
    rw [List.reverse_reverse]
    exact reads

theorem Reads.run {p : Parse} {cs ds : List Char} (reads : Reads p cs) {position : Nat}
    {path : Path} (ended : p.run position ds = .ok path) : Spelled path.reverse (cs ++ ds) := by
  induction ds generalizing p cs position with
  | nil =>
    rw [List.append_nil]
    exact reads.finish ended
  | cons d ds ih =>
    rw [Parse.run] at ended
    split at ended
    · rename_i next stepped
      rw [List.append_cons]
      exact ih (reads.step stepped) ended
    · cases ended

/-- The parser reads what the grammar spells, as long as no index has too many digits. -/
theorem start_run_eq_ok {cs : List Char} {path : Path} :
    start.run 0 cs = .ok path ↔ ∃ s : Spelling, s.Short ∧ s.chars = cs ∧ s.path = path := by
  constructor
  · intro ended
    have begun : Reads start [] := .inl ⟨rfl, rfl⟩
    obtain ⟨s, short, same, read⟩ := begun.run ended
    exact ⟨s, short, same.symm, (List.reverse_injective read).symm⟩
  · rintro ⟨s, short, rfl, rfl⟩
    exact run_spelling short

end Parse

theorem parse_eq_ok_iff {expression : String} {path : Path} :
    parse expression = .ok (.ok path) ↔
      ∃ s : Spelling, s.Short ∧ s.chars = (Text.trim expression).toList ∧ s.path = path := by
  rw [parse_eq_ok, parseChars, Text.toList_trim]
  split
  · rename_i blank
    rw [blank]
    constructor
    · intro read
      cases read
    · rintro ⟨s, _, same, _⟩
      exact absurd same s.chars_ne_nil
  · exact Parse.start_run_eq_ok

end UiSchema.Path
