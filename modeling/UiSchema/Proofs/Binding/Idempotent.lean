import UiSchema.Proofs.Binding.Shown

/-! A text that is shown twice. What is shown is cut where the text was cut, with the characters of
the values in the places of their bindings: values without braces neither begin nor end a binding,
and values that are not empty keep apart what stands on their two sides. -/

set_option autoImplicit false

namespace UiSchema.Binding

variable {data : Json} {ps : List Piece}

namespace Piece

/-- The pieces that a piece is shown as. -/
def filled (data : Json) : Piece → List Piece
  | .plain c => [.plain c]
  | .binding body =>
    match Path.find? (String.ofList body) data with
    | some value => (displayed value).toList.map .plain
    | none => [.binding body]

/-- If a binding leads to a value, this is shown as something, without braces. -/
def Braceless (data : Json) : Piece → Prop
  | .plain _ => True
  | .binding body => ∀ value, Path.find? (String.ofList body) data = some value →
      displayed value ≠ "" ∧ '\x7b' ∉ (displayed value).toList ∧ '\x7d' ∉ (displayed value).toList

theorem written_filled (data : Json) (piece : Piece) :
    written (piece.filled data) = piece.shown data := by
  cases piece with
  | plain c => rfl
  | binding body =>
    rw [filled, shown]
    cases Path.find? (String.ofList body) data with
    | some value => exact written_plain _
    | none => exact List.append_nil _

/-- A piece that was filled in stays as it is. -/
theorem shown_filled (data : Json) (piece : Piece) :
    (piece.filled data).flatMap (shown data) = piece.shown data := by
  cases piece with
  | plain c => rfl
  | binding body =>
    rw [filled, shown]
    cases found : Path.find? (String.ofList body) data with
    | some value => exact shown_plain data _
    | none => simp [shown, found]

theorem Showable.filled {piece : Piece} (showable : piece.Showable data) :
    ∀ part ∈ piece.filled data, part.Showable data := by
  cases piece with
  | plain c => exact showable_plain data [c]
  | binding body =>
    rw [Piece.filled]
    cases Path.find? (String.ofList body) data with
    | some value => exact showable_plain data _
    | none => exact List.forall_mem_singleton.2 showable

end Piece

/-- The pieces of a text as it is shown. -/
def fill (data : Json) (ps : List Piece) : List Piece := ps.flatMap (Piece.filled data)

theorem fill_plain (data : Json) (c : Char) (ps : List Piece) :
    fill data (.plain c :: ps) = .plain c :: fill data ps := rfl

theorem written_fill (data : Json) (ps : List Piece) :
    written (fill data ps) = ps.flatMap (Piece.shown data) := by
  rw [fill, written, List.flatMap_assoc]
  exact congrArg ps.flatMap (funext (Piece.written_filled data))

theorem shown_fill (data : Json) (ps : List Piece) :
    (fill data ps).flatMap (Piece.shown data) = ps.flatMap (Piece.shown data) := by
  rw [fill, List.flatMap_assoc]
  exact congrArg ps.flatMap (funext (Piece.shown_filled data))

/-- The characters that a piece is shown as, where it is not shown as it was written. -/
theorem fill_binding {body : List Char} (braceless : (Piece.binding body).Braceless data)
    (ps : List Piece) :
    fill data (.binding body :: ps) = .binding body :: fill data ps ∨
      ∃ c cs, '\x7b' ∉ c :: cs ∧ c ≠ '\x7d' ∧
        fill data (.binding body :: ps) = (c :: cs).map .plain ++ fill data ps := by
  rw [fill, List.flatMap_cons, Piece.filled, ← fill]
  cases found : Path.find? (String.ofList body) data with
  | none => exact .inl rfl
  | some value =>
    obtain ⟨nonempty, noOpen, noClose⟩ := braceless value found
    show _ ∨ ∃ c cs, _ ∧ _ ∧ (displayed value).toList.map _ ++ _ = _
    cases shown : (displayed value).toList with
    | nil => exact absurd (String.toList_eq_nil_iff.1 shown) nonempty
    | cons c cs =>
      rw [shown] at noOpen noClose
      exact .inr ⟨c, cs, noOpen, fun close => noClose (close ▸ List.mem_cons_self), rfl⟩

theorem cut_plain_append {cs : List Char} (noOpen : '\x7b' ∉ cs) (cut : Cut ps) :
    Cut (cs.map .plain ++ ps) := by
  induction cs with
  | nil => exact cut
  | cons c cs ih =>
    rw [List.mem_cons, not_or] at noOpen
    exact .plain (leading?_eq_none_of_ne (Ne.symm noOpen.1)) (ih noOpen.2)

/-- Where a closing brace comes next in the text as it is shown, it came next before. -/
theorem head_of_fill (braceless : ∀ piece ∈ ps, piece.Braceless data)
    (close : (written (fill data ps)).head? = some '\x7d') :
    (written ps).head? = some '\x7d' := by
  cases ps with
  | nil => exact close
  | cons piece ps =>
    cases piece with
    | plain c => exact close
    | binding body =>
      rcases fill_binding (braceless _ List.mem_cons_self) ps with
        same | ⟨c, cs, -, noClose, same⟩
      · rw [same] at close
        cases close
      · rw [same] at close
        exact absurd (Option.some.inj close) noClose

/-- A body that does not end in the text does not end in what the text is shown as. -/
theorem body?_fill {run : List Char} (noClose : '\x7d' ∉ run) (cut : Cut ps)
    (braceless : ∀ piece ∈ ps, piece.Braceless data) (unended : body? (run ++ written ps) = none) :
    body? (run ++ written (fill data ps)) = none := by
  induction cut generalizing run with
  | nil => exact unended
  | @plain c ps _ _ ih =>
    have later := (List.forall_mem_cons.1 braceless).2
    rw [fill_plain]
    by_cases close : c = '\x7d'
    · subst close
      refine (body?_close noClose _).trans (if_neg fun ends => ?_)
      have before := (body?_close noClose _).symm.trans unended
      rw [if_pos ⟨ends.1, head_of_fill later ends.2⟩] at before
      cases before
    · have run' : '\x7d' ∉ run ++ [c] := by simp [noClose, Ne.symm close]
      have := ih run' later (by simpa [Piece.chars] using unended)
      simpa [Piece.chars] using this
  | @binding body ps isBody _ _ =>
    -- the body would have ended with this binding
    have ends :
        body? (run ++ written (.binding body :: ps)) = some (run ++ (openMark ++ body)) := by
      refine body?_eq_some.2 ⟨⟨by simp [openMark], ?_⟩, written ps, by simp [Piece.chars]⟩
      simp [noClose, isBody.2, openMark]
    cases ends.symm.trans unended

theorem leading?_fill {c : Char} (cut : Cut ps) (braceless : ∀ piece ∈ ps, piece.Braceless data)
    (quiet : leading? (c :: written ps) = none) :
    leading? (c :: written (fill data ps)) = none := by
  by_cases first : c = '\x7b'
  · subst first
    cases cut with
    | nil => exact quiet
    | @plain d ps _ cut =>
      by_cases second : d = '\x7b'
      · subst second
        exact body?_fill List.not_mem_nil cut (List.forall_mem_cons.1 braceless).2 quiet
      · rw [leading?.eq_def]
        simp [fill_plain, Piece.chars, second]
    | @binding body ps isBody _ =>
      -- a binding would have begun one brace earlier
      have begins : leading? ('\x7b' :: written (.binding body :: ps)) = some ('\x7b' :: body) :=
        leading?_eq_some.2 ⟨⟨List.cons_ne_nil _ _, by simp [isBody.2]⟩, written ps,
          by simp [Piece.chars, openMark]⟩
      cases begins.symm.trans quiet
  · exact leading?_eq_none_of_ne first

/-- What a text is shown as is cut where the text was cut. -/
theorem Cut.fill (cut : Cut ps) (braceless : ∀ piece ∈ ps, piece.Braceless data) :
    Cut (fill data ps) := by
  induction cut with
  | nil => exact .nil
  | @plain c ps quiet cut ih =>
    have later := (List.forall_mem_cons.1 braceless).2
    exact .plain (leading?_fill cut later quiet) (ih later)
  | @binding body ps isBody _ ih =>
    obtain ⟨here, later⟩ := List.forall_mem_cons.1 braceless
    rcases fill_binding here ps with same | ⟨c, cs, noOpen, -, same⟩
    · rw [same]
      exact .binding isBody (ih later)
    · rw [same]
      exact cut_plain_append noOpen (ih later)

/-- If the values that the bindings of a text lead to are shown as something, without braces, then
nothing is left to fill in once the text has been shown: what is shown are the characters of the
text and of the values, and the bindings that are malformed or lead nowhere, which stay. -/
theorem interpolate_idempotent {template : String} {data : Json}
    (braceless : ∀ body ∈ bodies template, ∀ value,
      Path.resolveText body data = .ok (.ok value) → ∀ text, display value = .ok text →
        text ≠ "" ∧ '\x7b' ∉ text.toList ∧ '\x7d' ∉ text.toList) :
    ((interpolate template data).bind fun once => interpolate once data) =
        interpolate template data ∧
      ∀ once, interpolate template data = .ok once →
        interpolate once data = .ok once ∧ pieces once = fill data (pieces template) := by
  have again : ∀ once, interpolate template data = .ok once →
      interpolate once data = .ok once ∧ pieces once = fill data (pieces template) := by
    intro once shown
    obtain ⟨showable, rfl⟩ := interpolate_eq_ok.1 shown
    -- all values that the bindings lead to can be written, since the text is shown
    have braceless : ∀ piece ∈ pieces template, piece.Braceless data := by
      rintro (c | body) member
      · trivial
      · intro value found
        have fits := (showable (.binding body) member).fits value found
        exact braceless _ (mem_bodies.2 ⟨body, member, rfl⟩) value (Path.find?_eq_some.1 found) _
          (display_eq_ok.2 ⟨fits, rfl⟩)
    have cut := ((cut_pieces template).1.fill braceless).pieces_eq
      (String.toList_ofList.trans (written_fill data _).symm)
    refine ⟨interpolate_eq_ok.2 ?_, cut⟩
    rw [cut, shown_fill]
    refine ⟨fun part member => ?_, rfl⟩
    obtain ⟨piece, inside, part_mem⟩ := List.mem_flatMap.1 member
    exact (showable piece inside).filled part part_mem
  refine ⟨?_, again⟩
  cases shown : interpolate template data with
  | error cause => rfl
  | ok once => exact (again once shown).1

theorem letter_idempotent :
    bodies "Dear \x7b\x7bname\x7d\x7d \x7b\x7btitle\x7d\x7d" = ["name", "title"] ∧
      interpolate "Dear Ada \x7b\x7btitle\x7d\x7d" (.object [("name", .str "Ada")]) =
        .ok "Dear Ada \x7b\x7btitle\x7d\x7d" := by
  have two : bodies "Dear \x7b\x7bname\x7d\x7d \x7b\x7btitle\x7d\x7d" = ["name", "title"] := rfl
  have shown : interpolate "Dear \x7b\x7bname\x7d\x7d \x7b\x7btitle\x7d\x7d"
      (.object [("name", .str "Ada")]) = .ok "Dear Ada \x7b\x7btitle\x7d\x7d" := rfl
  refine ⟨two, ((interpolate_idempotent ?_).2 _ shown).1⟩
  rw [two]
  simp only [List.forall_mem_cons, List.not_mem_nil, false_implies, forall_const, and_true]
  refine ⟨?_, ?_⟩
  · rintro value ⟨⟩ text ⟨⟩
    decide
  · rintro value ⟨⟩

-- An empty value joins the two texts around it, and they may be the halves of a binding.
example :
    interpolate "\x7b\x7bx\x7d\x7b\x7be\x7d\x7d\x7d" (.object [("x", .int 1), ("e", .null)]) =
        .ok "\x7b\x7bx\x7d\x7d" ∧
      interpolate "\x7b\x7bx\x7d\x7d" (.object [("x", .int 1), ("e", .null)]) = .ok "1" :=
  ⟨rfl, rfl⟩

end UiSchema.Binding
