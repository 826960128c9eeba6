import Mathlib.Data.List.Forall2
import UiSchema.Proofs.Json.Span

/-! Texts from a bracket to its partner. What a text leaves open is told from the text alone, bracket
by bracket; the scan for the end of a span, which knows only the closing brackets that it waits for,
finds exactly the texts that leave something open until their last character. -/

set_option autoImplicit false

namespace UiSchema.Json.Block

/-- What a text leaves open: the brackets without a partner so far, the last one first, and the
quotes. -/
structure Unclosed where
  brackets : List Char
  quoting : Quoting

namespace Unclosed

/-- A closing bracket takes away the bracket that was opened last, be it the partner or not. -/
def next (left : Unclosed) (c : Char) : Unclosed :=
  match left.quoting with
  | .escaped => { left with quoting := .inside }
  | .inside =>
    { left with quoting := if c = '\\' then .escaped else if c = '"' then .outside else .inside }
  | .outside =>
    if c = '"' then { left with quoting := .inside }
    else if c = '\x7b' ∨ c = '[' then { left with brackets := c :: left.brackets }
    else if c = '\x7d' ∨ c = ']' then { left with brackets := left.brackets.tail }
    else left

def after (left : Unclosed) (cs : List Char) : Unclosed := cs.foldl next left

/-- If the character is a closing bracket that counts, then the bracket that was opened last is its
partner. -/
def Fits (left : Unclosed) (c : Char) : Prop :=
  left.quoting = .outside → c = '\x7d' ∨ c = ']' → left.brackets.head?.bind closer? = some c

/-- A bracket is open in front of each of the characters and none behind them, and each closing
bracket among them fits. -/
structure ClosedBy (left : Unclosed) (cs : List Char) : Prop where
  isOpen : ∀ front c back, cs = front ++ c :: back → (left.after front).brackets ≠ []
  fits : ∀ front c back, cs = front ++ c :: back → (left.after front).Fits c
  closed : (left.after cs).brackets = []

variable {left : Unclosed} {c : Char} {cs : List Char} {n : Nat}

theorem closedBy_nil : left.ClosedBy [] ↔ left.brackets = [] :=
  ⟨fun closes => closes.closed, fun closed => ⟨by simp, by simp, closed⟩⟩

theorem closedBy_cons :
    left.ClosedBy (c :: cs) ↔ left.brackets ≠ [] ∧ left.Fits c ∧ (left.next c).ClosedBy cs := by
  constructor
  · rintro ⟨isOpen, fits, closed⟩
    refine ⟨isOpen [] c cs rfl, fits [] c cs rfl, fun front c' back same => ?_,
      fun front c' back same => ?_, closed⟩
    · exact isOpen (c :: front) c' back (congrArg (c :: ·) same)
    · exact fits (c :: front) c' back (congrArg (c :: ·) same)
  · rintro ⟨openHere, fitsHere, isOpen, fits, closed⟩
    -- a character of the longer text is the first one or one of the others
    refine ⟨fun front c' back same => ?_, fun front c' back same => ?_, closed⟩ <;>
      rcases List.cons_eq_append_iff.1 same with ⟨rfl, first⟩ | ⟨front, rfl, later⟩
    · exact openHere
    · exact isOpen front c' back later
    · cases first
      exact fitsHere
    · exact fits front c' back later

instance : Decidable (left.Fits c) := inferInstanceAs (Decidable (_ → _ → _))

instance decidableClosedBy : (left : Unclosed) → (cs : List Char) → Decidable (left.ClosedBy cs)
  | left, [] => decidable_of_iff (left.brackets = []) closedBy_nil.symm
  | left, c :: cs =>
    have := decidableClosedBy (left.next c) cs
    decidable_of_iff _ closedBy_cons.symm

/-- The first so many characters close what is open. -/
def ClosedAt (left : Unclosed) (cs : List Char) (n : Nat) : Prop :=
  ∃ front back, cs = front ++ back ∧ front.length = n ∧ left.ClosedBy front

theorem closedAt_of_closed (closed : left.brackets = []) : left.ClosedAt cs n ↔ n = 0 := by
  constructor
  · rintro ⟨front, _, -, rfl, closes⟩
    cases front with
    | nil => rfl
    | cons => exact absurd closed (closedBy_cons.1 closes).1
  · rintro rfl
    exact ⟨[], cs, rfl, rfl, closedBy_nil.2 closed⟩

theorem not_closedAt_nil (isOpen : left.brackets ≠ []) : ¬ left.ClosedAt [] n := by
  rintro ⟨front, _, same, -, closes⟩
  cases (List.append_eq_nil_iff.1 same.symm).1
  exact isOpen (closedBy_nil.1 closes)

theorem closedAt_cons (isOpen : left.brackets ≠ []) :
    left.ClosedAt (c :: cs) n ↔
      left.Fits c ∧ ∃ k, (left.next c).ClosedAt cs k ∧ k + 1 = n := by
  constructor
  · rintro ⟨front, back, same, rfl, closes⟩
    cases front with
    | nil => exact absurd (closedBy_nil.1 closes) isOpen
    | cons c front =>
      cases same
      obtain ⟨-, fits, closes⟩ := closedBy_cons.1 closes
      exact ⟨fits, front.length, ⟨front, back, rfl, rfl, closes⟩, rfl⟩
  · rintro ⟨fits, _, ⟨front, back, rfl, rfl, closes⟩, rfl⟩
    exact ⟨c :: front, back, rfl, rfl, closedBy_cons.2 ⟨isOpen, fits, closes⟩⟩

end Unclosed

open Unclosed

/-! ### The scan -/

/-- The closing brackets that the scan waits for are the partners of the open ones. -/
abbrev Partners (brackets pending : List Char) : Prop :=
  List.Forall₂ (fun opener closer => closer? opener = some closer) brackets pending

variable {left : Unclosed} {pending cs : List Char} {c : Char} {n : Nat}

theorem closer?_isSome_iff : (closer? c).isSome ↔ c = '\x7b' ∨ c = '[' := by
  unfold closer?
  split
  · simp_all
  · split <;> simp_all

theorem next_outside {brackets : List Char} (noQuote : c ≠ '"') :
    Unclosed.next ⟨brackets, .outside⟩ c =
      { brackets :=
          if c = '\x7b' ∨ c = '[' then c :: brackets
          else if c = '\x7d' ∨ c = ']' then brackets.tail
          else brackets
        quoting := .outside } := by
  simp only [Unclosed.next, noQuote, if_false]
  split
  · rfl
  · split <;> rfl

/-- Outside of quotes a character that fits leaves the scan waiting for the partners of what is open
then, and at any other one it stops. -/
theorem bracketStep_fits {brackets : List Char} (partners : Partners brackets pending)
    (noQuote : c ≠ '"') :
    (Unclosed.Fits ⟨brackets, .outside⟩ c ∧ ∃ pending', bracketStep pending c = some pending' ∧
      Partners (Unclosed.next ⟨brackets, .outside⟩ c).brackets pending') ∨
    (¬ Unclosed.Fits ⟨brackets, .outside⟩ c ∧ bracketStep pending c = none) := by
  rw [next_outside noQuote]
  unfold bracketStep
  cases opens : closer? c with
  | some closer =>
    have noClosing : ¬ (c = '\x7d' ∨ c = ']') := by
      rcases closer?_eq_some opens with ⟨rfl, -⟩ | ⟨rfl, -⟩ <;> decide
    rw [if_pos (closer?_isSome_iff.1 (Option.isSome_of_eq_some opens))]
    exact .inl ⟨fun _ closing => absurd closing noClosing, _, rfl, .cons opens partners⟩
  | none =>
    have noOpening : ¬ (c = '\x7b' ∨ c = '[') := fun bracket => by
      simpa [opens] using closer?_isSome_iff.2 bracket
    rw [if_neg noOpening]
    by_cases closing : c = '\x7d' ∨ c = ']'
    · simp only [if_pos closing]
      cases partners with
      | nil => exact .inr ⟨fun fits => (by cases fits rfl closing), rfl⟩
      | @cons opener closer _ _ partner others =>
        by_cases same : c = closer
        · subst same
          exact .inl ⟨fun _ _ => partner, _, if_pos rfl, others⟩
        · refine .inr ⟨fun fits => same ?_, if_neg same⟩
          exact Option.some.inj ((fits rfl closing).symm.trans partner)
    · simp only [if_neg closing]
      exact .inl ⟨fun _ bracket => absurd bracket closing, _, rfl, partners⟩

theorem balanced?_outside {closer : Char} {closers : List Char} (noQuote : c ≠ '"')
    (rest : List Char) :
    balanced? (closer :: closers) .outside (c :: rest) =
      (bracketStep (closer :: closers) c).bind fun pending =>
        (balanced? pending .outside rest).map (· + 1) := by
  simp only [balanced?, noQuote, if_false, List.isEmpty_cons, Bool.false_eq_true]
  cases bracketStep (closer :: closers) c <;> rfl

/-- While a bracket is open the scan goes on behind a character that fits, and stops at any other
one. -/
theorem balanced?_step (partners : Partners left.brackets pending) (isOpen : left.brackets ≠ [])
    (c : Char) :
    (left.Fits c ∧ ∃ pending', Partners (left.next c).brackets pending' ∧
      ∀ rest, balanced? pending left.quoting (c :: rest) =
        (balanced? pending' (left.next c).quoting rest).map (· + 1)) ∨
    (¬ left.Fits c ∧ ∀ rest, balanced? pending left.quoting (c :: rest) = none) := by
  obtain ⟨brackets, quoting⟩ := left
  obtain ⟨closer, closers, rfl⟩ : ∃ closer closers, pending = closer :: closers := by
    cases partners with
    | nil => exact absurd rfl isOpen
    | cons => exact ⟨_, _, rfl⟩
  cases quoting with
  | escaped => exact .inl ⟨nofun, _, partners, fun _ => rfl⟩
  | inside => exact .inl ⟨nofun, _, partners, fun _ => rfl⟩
  | outside =>
    by_cases quote : c = '"'
    · subst quote
      exact .inl ⟨fun _ closing => absurd closing (by decide), _, partners, fun _ => rfl⟩
    · have outside : (Unclosed.next ⟨brackets, .outside⟩ c).quoting = .outside := by
        rw [next_outside quote]
      simp only [balanced?_outside quote, outside]
      rcases bracketStep_fits partners quote with ⟨fits, pending', step, partners'⟩ | ⟨noFit, step⟩
      · exact .inl ⟨fits, pending', partners', fun _ => by rw [step]; rfl⟩
      · exact .inr ⟨noFit, fun _ => by rw [step]; rfl⟩

theorem balanced?_eq_some_iff_of_closed (partners : Partners left.brackets pending)
    (closed : left.brackets = []) :
    balanced? pending left.quoting cs = some n ↔ left.ClosedAt cs n := by
  have nothing : pending = [] := List.forall₂_nil_left_iff.1 (closed ▸ partners)
  have ends : balanced? [] left.quoting cs = some 0 := by cases cs <;> rfl
  rw [nothing, ends, closedAt_of_closed closed, Option.some_inj, eq_comm]

/-- The scan goes up to the character that closes what is open. -/
theorem balanced?_eq_some_iff (partners : Partners left.brackets pending) :
    balanced? pending left.quoting cs = some n ↔ left.ClosedAt cs n := by
  induction cs generalizing left pending n with
  | nil =>
    by_cases closed : left.brackets = []
    · exact balanced?_eq_some_iff_of_closed partners closed
    · have waiting : pending ≠ [] := by
        rintro rfl
        exact closed (List.forall₂_nil_right_iff.1 partners)
      simp [balanced?, waiting, not_closedAt_nil closed]
  | cons c cs ih =>
    by_cases closed : left.brackets = []
    · exact balanced?_eq_some_iff_of_closed partners closed
    · rw [closedAt_cons closed]
      rcases balanced?_step partners closed c with
        ⟨fits, pending', partners', goesOn⟩ | ⟨noFit, stops⟩
      · rw [goesOn, Option.map_eq_some_iff]
        simp only [fits, true_and, ih partners']
      · simp [stops, noFit]

/-! ### Spans -/

/-- What a text leaves open, read from its beginning. -/
def unclosed (cs : List Char) : Unclosed := Unclosed.after ⟨[], .outside⟩ cs

/-- A text that begins with a bracket and ends where no bracket is open any more, with each closing
bracket the partner of the bracket that was opened last. -/
structure Bracketed (cs : List Char) : Prop where
  opens : cs.head? = some '\x7b' ∨ cs.head? = some '['
  isOpen : ∀ front back, cs = front ++ back → front ≠ [] → back ≠ [] →
    (unclosed front).brackets ≠ []
  closed : (unclosed cs).brackets = []
  fits : ∀ front c back, cs = front ++ c :: back → (unclosed front).Fits c

/-- A bracketed text that may be a document: an array, or an object, which holds a colon. -/
structure IsSpan (cs : List Char) : Prop extends Bracketed cs where
  large : cs.head? = some '[' ∨ ':' ∈ cs

theorem bracketed_cons (opens : (closer? c).isSome) :
    Bracketed (c :: cs) ↔ Unclosed.ClosedBy ⟨[c], .outside⟩ cs := by
  have bracket := closer?_isSome_iff.1 opens
  have first : unclosed [c] = ⟨[c], .outside⟩ := by
    rcases bracket with rfl | rfl <;> rfl
  have further (front : List Char) : unclosed (c :: front) = Unclosed.after ⟨[c], .outside⟩ front :=
    congrArg (Unclosed.after · front) first
  constructor
  · rintro ⟨-, isOpen, closed, fits⟩
    refine ⟨fun front c' back same => ?_, fun front c' back same => ?_, further cs ▸ closed⟩
    · rw [← further]
      exact isOpen (c :: front) (c' :: back) (congrArg (c :: ·) same) nofun nofun
    · rw [← further]
      exact fits (c :: front) c' back (congrArg (c :: ·) same)
  · rintro ⟨isOpen, fits, closed⟩
    refine ⟨bracket.imp (congrArg some) (congrArg some), fun front back same begun more => ?_,
      further cs ▸ closed, fun front c' back same => ?_⟩
    · obtain ⟨_, front, rfl⟩ := List.exists_cons_of_ne_nil begun
      obtain ⟨c', back, rfl⟩ := List.exists_cons_of_ne_nil more
      cases same
      rw [further]
      exact isOpen front c' back rfl
    · rcases List.cons_eq_append_iff.1 same with ⟨rfl, here⟩ | ⟨front, rfl, later⟩
      · cases here
        -- the first character opens a bracket, so it closes none
        intro _ closing
        rcases bracket with rfl | rfl <;> exact absurd closing (by decide)
      · rw [further]
        exact fits front c' back later

instance : DecidablePred Bracketed
  | [] => isFalse fun bracketed => absurd bracketed.opens (by decide)
  | c :: _ =>
    if opens : (closer? c).isSome then decidable_of_iff _ (bracketed_cons opens).symm
    else isFalse fun bracketed =>
      opens (closer?_isSome_iff.2 (by simpa using bracketed.opens))

/-- A quoted bracket does not count, a partner of the other kind does not fit, and nothing stands
behind the bracket that ends the text. -/
example : Bracketed "\x7b\"]\" [1]\x7d".toList ∧ ¬ Bracketed "[\x7d".toList ∧
    ¬ Bracketed "[1][2]".toList := by
  decide

theorem isSpan_cons (opens : (closer? c).isSome) :
    IsSpan (c :: cs) ↔ Unclosed.ClosedBy ⟨[c], .outside⟩ cs ∧ (c = '[' ∨ ':' ∈ cs) := by
  have noColon : ':' ≠ c := by
    rintro rfl
    exact absurd opens (by decide)
  rw [← bracketed_cons opens]
  constructor
  · rintro ⟨bracketed, large⟩
    exact ⟨bracketed, by simpa [noColon] using large⟩
  · rintro ⟨bracketed, large⟩
    exact ⟨bracketed, by simpa [noColon] using large⟩

theorem span?_cons_eq_some_iff {closer : Char} (partner : closer? c = some closer) :
    span? (c :: cs) = some n ↔
      ∃ k, balanced? [closer] .outside cs = some k ∧ (c = '[' ∨ ':' ∈ cs.take k) ∧ k + 1 = n := by
  simp only [span?, partner]
  cases balanced? [closer] .outside cs with
  | none => simp
  | some k => simp

theorem Bracketed.exists_cons (bracketed : Bracketed cs) :
    ∃ c rest, cs = c :: rest ∧ (closer? c).isSome := by
  cases cs with
  | nil => exact absurd bracketed.opens (by simp)
  | cons c rest => exact ⟨c, rest, rfl, closer?_isSome_iff.2 (by simpa using bracketed.opens)⟩

/-- The scan finds all spans at the head of a text, and nothing else. -/
theorem span?_eq_some_iff :
    span? cs = some n ↔ ∃ front back, cs = front ++ back ∧ front.length = n ∧ IsSpan front := by
  have scanned {c closer : Char} (partner : closer? c = some closer) (rest : List Char) (k : Nat) :
      balanced? [closer] .outside rest = some k ↔ Unclosed.ClosedAt ⟨[c], .outside⟩ rest k :=
    @balanced?_eq_some_iff ⟨[c], .outside⟩ [closer] rest k (.cons partner .nil)
  constructor
  · intro spanned
    obtain ⟨c, rest, rfl⟩ : ∃ c rest, cs = c :: rest := by
      cases cs with
      | nil => cases spanned
      | cons c rest => exact ⟨c, rest, rfl⟩
    obtain ⟨closer, partner⟩ : ∃ closer, closer? c = some closer := by
      cases partner : closer? c with
      | none => simp [span?, partner] at spanned
      | some closer => exact ⟨closer, rfl⟩
    obtain ⟨k, found, large, rfl⟩ := (span?_cons_eq_some_iff partner).1 spanned
    obtain ⟨front, back, rfl, rfl, closes⟩ := (scanned partner rest k).1 found
    rw [List.take_left] at large
    exact ⟨c :: front, back, rfl, rfl,
      (isSpan_cons (Option.isSome_of_eq_some partner)).2 ⟨closes, large⟩⟩
  · rintro ⟨front, back, rfl, rfl, isSpan⟩
    obtain ⟨c, front, rfl, opens⟩ := isSpan.exists_cons
    obtain ⟨closer, partner⟩ := Option.isSome_iff_exists.1 opens
    obtain ⟨closes, large⟩ := (isSpan_cons opens).1 isSpan
    rw [List.cons_append]
    refine (span?_cons_eq_some_iff partner).2 ⟨front.length, ?_, ?_, rfl⟩
    · exact (scanned partner _ _).2 ⟨front, back, rfl, rfl, closes⟩
    · rwa [List.take_left]

end UiSchema.Json.Block
