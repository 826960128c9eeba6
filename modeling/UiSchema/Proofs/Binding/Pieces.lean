import Mathlib.Data.List.TakeWhile
import UiSchema.Binding

/-! Which lists of pieces a text is cut into. The scan takes the earliest opening braces that a
binding can begin with, so what matters at a place is whether a binding begins there; and two texts
are cut independently of each other unless an opening brace at the end of the first one waits for
what follows. -/

set_option autoImplicit false

namespace UiSchema.Binding

variable {body cs more rest : List Char} {c : Char} {ps qs : List Piece}

/-- What may stand between the braces of a binding. -/
def IsBody (body : List Char) : Prop := body ≠ [] ∧ '\x7d' ∉ body

/-- The written form of a list of pieces. -/
def written (ps : List Piece) : List Char := ps.flatMap Piece.chars

@[simp] theorem written_nil : written [] = [] := rfl

@[simp] theorem written_cons (piece : Piece) (ps : List Piece) :
    written (piece :: ps) = piece.chars ++ written ps := rfl

@[simp] theorem written_append (ps qs : List Piece) :
    written (ps ++ qs) = written ps ++ written qs := List.flatMap_append

@[simp] theorem written_plain (cs : List Char) : written (cs.map .plain) = cs := by
  induction cs with
  | nil => rfl
  | cons c cs ih => rw [List.map_cons, written_cons, ih]; rfl

/-! ### Bodies -/

theorem bne_close (noClose : '\x7d' ∉ cs) : ∀ c ∈ cs, (c != '\x7d') = true := by
  intro c member
  rw [bne_iff_ne]
  rintro rfl
  exact noClose member

theorem body?_eq_none_of_notMem (noClose : '\x7d' ∉ cs) : body? cs = none := by
  have dropped : cs.dropWhile (· != '\x7d') = [] := List.dropWhile_eq_nil_iff.2 (bne_close noClose)
  rw [body?, dropped]
  cases cs.takeWhile (· != '\x7d') <;> rfl

/-- A body ends at the first closing brace, which is the first of two. -/
theorem body?_close (noClose : '\x7d' ∉ cs) (more : List Char) :
    body? (cs ++ '\x7d' :: more) =
      if cs ≠ [] ∧ more.head? = some '\x7d' then some cs else none := by
  have taken : (cs ++ '\x7d' :: more).takeWhile (· != '\x7d') = cs := by
    rw [List.takeWhile_append_of_pos (bne_close noClose)]
    simp
  have dropped : (cs ++ '\x7d' :: more).dropWhile (· != '\x7d') = '\x7d' :: more := by
    rw [List.dropWhile_append_of_pos (bne_close noClose)]
    rfl
  rw [body?, taken, dropped]
  cases cs with
  | nil => rfl
  | cons c cs =>
    cases more with
    | nil => rfl
    | cons d more => by_cases close : d = '\x7d' <;> simp [close]

theorem body?_eq_some :
    body? cs = some body ↔ IsBody body ∧ ∃ rest, cs = body ++ (closeMark ++ rest) := by
  constructor
  · intro found
    by_cases closed : '\x7d' ∈ cs
    · obtain ⟨front, more, rfl, noClose⟩ := List.eq_append_cons_of_mem closed
      rw [body?_close noClose] at found
      split at found
      · rename_i ends
        cases found
        cases more with
        | nil => cases ends.2
        | cons d more =>
          cases ends.2
          exact ⟨⟨ends.1, noClose⟩, more, rfl⟩
      · cases found
    · rw [body?_eq_none_of_notMem closed] at found
      cases found
  · rintro ⟨⟨nonempty, noClose⟩, rest, rfl⟩
    exact (body?_close noClose _).trans (if_pos ⟨nonempty, rfl⟩)

/-- The body of the binding that a text begins with. -/
def leading? : List Char → Option (List Char)
  | '\x7b' :: '\x7b' :: inside => body? inside
  | _ => none

theorem leading?_eq_some :
    leading? cs = some body ↔
      IsBody body ∧ ∃ rest, cs = (Piece.binding body).chars ++ rest := by
  constructor
  · intro found
    unfold leading? at found
    split at found
    · obtain ⟨isBody, rest, rfl⟩ := body?_eq_some.1 found
      exact ⟨isBody, rest, by simp [Piece.chars, openMark]⟩
    · cases found
  · rintro ⟨isBody, rest, rfl⟩
    have inside : body? (body ++ (closeMark ++ rest)) = some body :=
      body?_eq_some.2 ⟨isBody, rest, rfl⟩
    simpa [Piece.chars, openMark, leading?] using inside

theorem leading?_eq_none_of_ne (other : c ≠ '\x7b') : leading? (c :: cs) = none := by
  rw [leading?.eq_2]
  rintro inside ⟨⟩
  exact other rfl

/-! ### Pieces -/

theorem piecesFrom_eq_drop (skip : Nat) (cs : List Char) :
    piecesFrom skip cs = piecesFrom 0 (cs.drop skip) := by
  induction skip generalizing cs with
  | zero => rfl
  | succ skip ih =>
    cases cs with
    | nil => rfl
    | cons c rest => rw [piecesFrom, ih rest, List.drop_succ_cons]

theorem piecesFrom_cons (c : Char) (cs : List Char) :
    piecesFrom 0 (c :: cs) =
      match leading? (c :: cs) with
      | some body => .binding body :: piecesFrom 0 (cs.drop (body.length + 3))
      | none => .plain c :: piecesFrom 0 cs := by
  by_cases opens : ∃ inside, c = '\x7b' ∧ cs = '\x7b' :: inside
  · obtain ⟨inside, rfl, rfl⟩ := opens
    simp only [piecesFrom, leading?]
    cases body? inside with
    | none => rfl
    | some body => exact congrArg _ (piecesFrom_eq_drop _ _)
  · have others : ∀ inside, c = '\x7b' → cs = '\x7b' :: inside → False :=
      fun inside first second => opens ⟨inside, first, second⟩
    have none : leading? (c :: cs) = none := by
      rw [leading?]
      rintro inside ⟨⟩
      exact others inside rfl rfl
    rw [none, piecesFrom]
    exact others

theorem piecesFrom_binding (isBody : IsBody body) (rest : List Char) :
    piecesFrom 0 ((Piece.binding body).chars ++ rest) = .binding body :: piecesFrom 0 rest := by
  have begins : leading? ('\x7b' :: ('\x7b' :: (body ++ closeMark) ++ rest)) = some body :=
    leading?_eq_some.2 ⟨isBody, rest, rfl⟩
  have behind : ('\x7b' :: (body ++ closeMark) ++ rest).drop (body.length + 3) = rest :=
    List.drop_left' (by simp [closeMark])
  show piecesFrom 0 ('\x7b' :: ('\x7b' :: (body ++ closeMark) ++ rest)) = _
  rw [piecesFrom_cons, begins]
  exact congrArg (fun cs => .binding body :: piecesFrom 0 cs) behind

/-- The pieces into which their own written form is cut: no plain character begins a binding. -/
inductive Cut : List Piece → Prop where
  | nil : Cut []
  | plain {c : Char} {ps : List Piece} : leading? (c :: written ps) = none → Cut ps →
      Cut (.plain c :: ps)
  | binding {body : List Char} {ps : List Piece} : IsBody body → Cut ps → Cut (.binding body :: ps)

theorem Cut.piecesFrom_written (cut : Cut ps) : piecesFrom 0 (written ps) = ps := by
  induction cut with
  | nil => rfl
  | @plain c ps quiet _ ih =>
    show piecesFrom 0 (c :: written ps) = _
    rw [piecesFrom_cons, quiet, ih]
  | binding isBody _ ih => exact (piecesFrom_binding isBody _).trans (congrArg _ ih)

/-- A text is the written form of the pieces that the scan cuts it into. -/
theorem exists_cut (cs : List Char) : ∃ ps, Cut ps ∧ written ps = cs := by
  -- a binding takes more than one character at once, so the induction is on the length
  induction size : cs.length using Nat.strong_induction_on generalizing cs with
  | _ size ih =>
    subst size
    cases cs with
    | nil => exact ⟨[], .nil, rfl⟩
    | cons c cs =>
      cases begins : leading? (c :: cs) with
      | none =>
        obtain ⟨ps, cut, rfl⟩ := ih cs.length (Nat.lt_succ_self _) cs rfl
        exact ⟨.plain c :: ps, .plain begins cut, rfl⟩
      | some body =>
        obtain ⟨isBody, rest, whole⟩ := leading?_eq_some.1 begins
        have shorter : rest.length < (c :: cs).length := by
          rw [whole, List.length_append]
          exact Nat.lt_add_of_pos_left (Nat.succ_pos _)
        obtain ⟨ps, cut, rfl⟩ := ih rest.length shorter rest rfl
        exact ⟨.binding body :: ps, .binding isBody cut, whole.symm⟩

theorem cut_pieces (text : String) :
    Cut (pieces text) ∧ written (pieces text) = text.toList := by
  obtain ⟨ps, cut, whole⟩ := exists_cut text.toList
  have same : pieces text = ps := by rw [pieces, ← whole, cut.piecesFrom_written]
  rw [same]
  exact ⟨cut, whole⟩

theorem Cut.pieces_eq (cut : Cut ps) {text : String} (whole : text.toList = written ps) :
    pieces text = ps := by
  rw [pieces, whole, cut.piecesFrom_written]

theorem Cut.isBody (cut : Cut ps) (member : .binding body ∈ ps) : IsBody body := by
  induction cut with
  | nil => cases member
  | plain _ _ ih => exact ih ((List.mem_cons.1 member).resolve_left nofun)
  | binding isBody _ ih =>
    rcases List.mem_cons.1 member with same | later
    · cases same
      exact isBody
    · exact ih later

/-- Without closing braces there are no bindings. -/
theorem cut_plain (noClose : '\x7d' ∉ cs) : Cut (cs.map .plain) := by
  induction cs with
  | nil => exact .nil
  | cons c cs ih =>
    rw [List.mem_cons, not_or] at noClose
    refine .plain ?_ (ih noClose.2)
    rw [written_plain, leading?.eq_def]
    split
    · rename_i inside opens
      obtain ⟨-, rfl⟩ := List.cons.inj opens
      exact body?_eq_none_of_notMem fun member => noClose.2 (List.mem_cons_of_mem _ member)
    · rfl

/-! ### Texts one after the other -/

/-- The text has an opening brace with no closing brace behind it, and right behind it the end of
the text or another opening brace. Whatever follows belongs to the body of a binding then. -/
def LeftOpen (cs : List Char) : Prop :=
  ∃ front inside, cs = front ++ '\x7b' :: inside ∧ '\x7d' ∉ inside ∧ ∀ c ∈ inside.head?, c = '\x7b'

theorem not_leftOpen (noOpen : '\x7b' ∉ cs) : ¬ LeftOpen cs := by
  rintro ⟨front, inside, rfl, -⟩
  exact noOpen (List.mem_append_right _ List.mem_cons_self)

theorem LeftOpen.append_left (front : List Char) (isOpen : LeftOpen cs) :
    LeftOpen (front ++ cs) := by
  obtain ⟨before, inside, rfl, rest⟩ := isOpen
  exact ⟨front ++ before, inside, (List.append_assoc ..).symm, rest⟩

/-- A binding does not reach from one text into the next one, if no brace is left open. -/
theorem leading?_append (closed : ¬ LeftOpen (c :: cs)) (quiet : leading? (c :: cs) = none)
    (other : ∀ d ∈ more.head?, d ≠ '\x7d') : leading? (c :: cs ++ more) = none := by
  rw [Option.eq_none_iff_forall_ne_some]
  intro body found
  obtain ⟨_, rest, whole⟩ := leading?_eq_some.1 found
  obtain ⟨rfl, second⟩ := List.cons.inj (whole : c :: (cs ++ more) = '\x7b' :: _)
  cases cs with
  | nil => exact closed ⟨[], [], rfl, List.not_mem_nil, nofun⟩
  | cons d inside =>
    obtain ⟨rfl, _⟩ := List.cons.inj (second : d :: (inside ++ more) = '\x7b' :: _)
    have reaches : body? (inside ++ more) = some body := found
    have ends : body? inside = none := quiet
    by_cases close : '\x7d' ∈ inside
    · -- the first closing brace is the same in both texts, so only what follows it can differ
      obtain ⟨front, tail, rfl, noClose⟩ := List.eq_append_cons_of_mem close
      rw [List.append_assoc, List.cons_append, body?_close noClose] at reaches
      rw [body?_close noClose] at ends
      cases tail with
      | nil =>
        split at reaches
        · rename_i both
          exact other _ both.2 rfl
        · cases reaches
      | cons e tail => cases ends.symm.trans reaches
    · exact closed ⟨[], '\x7b' :: inside, rfl, by simp [close], by simp⟩

theorem Cut.append (first : Cut ps) (second : Cut qs) (closed : ¬ LeftOpen (written ps))
    (other : ∀ d ∈ (written qs).head?, d ≠ '\x7d') : Cut (ps ++ qs) := by
  induction first with
  | nil => exact second
  | @plain c ps quiet _ ih =>
    have here : leading? (c :: written (ps ++ qs)) = none := by
      rw [written_append]
      exact leading?_append closed quiet other
    exact .plain here (ih fun isOpen => closed (isOpen.append_left [c]))
  | @binding body ps isBody _ ih =>
    exact .binding isBody (ih fun isOpen => closed (isOpen.append_left _))

/-- There is an earliest brace that is left open. -/
theorem LeftOpen.first (isOpen : LeftOpen cs) :
    ∃ front inside, cs = front ++ '\x7b' :: inside ∧ ¬ LeftOpen front ∧ '\x7d' ∉ inside ∧
      ∀ c ∈ inside.head?, c = '\x7b' := by
  obtain ⟨front, inside, rfl, noClose, follows⟩ := isOpen
  induction size : front.length using Nat.strong_induction_on generalizing front inside with
  | _ size ih =>
    subst size
    by_cases earlier : LeftOpen front
    · obtain ⟨before, between, rfl, noCloseBetween, followsBetween⟩ := earlier
      have := ih before.length (by simp) before (between ++ '\x7b' :: inside)
        (by simp [noCloseBetween, noClose]) (by
          cases between with
          | nil => simp
          | cons d between => exact followsBetween) rfl
      simpa using this
    · exact ⟨front, inside, rfl, earlier, noClose, follows⟩

/-! ### A binding among other text -/

/-- A path between the braces of a binding. -/
def braced (path : String) : String := String.ofList (Piece.binding path.toList).chars

@[simp] theorem toList_braced (path : String) :
    (braced path).toList = (Piece.binding path.toList).chars := String.toList_ofList

theorem pieces_around {before path after : String} (isBody : IsBody path.toList)
    (closed : ¬ LeftOpen before.toList) :
    pieces (before ++ braced path ++ after) =
      pieces before ++ .binding path.toList :: pieces after := by
  obtain ⟨cutBefore, wholeBefore⟩ := cut_pieces before
  obtain ⟨cutAfter, wholeAfter⟩ := cut_pieces after
  refine (cutBefore.append (.binding isBody cutAfter) (wholeBefore ▸ closed) ?_).pieces_eq ?_
  · rintro d ⟨⟩
    decide
  · simp [wholeBefore, wholeAfter]

end UiSchema.Binding
