import UiSchema.Proofs.Binding.Shown
import UiSchema.Proofs.Path.Written

/-! A binding among other text. The text behind it never matters. The text in front of it does when
an opening brace is left open in it: the scan begins there, takes the binding for a part of a body,
and no path has braces in it. -/

set_option autoImplicit false

namespace UiSchema

/-- A text with a brace in it leads nowhere. -/
theorem Path.find?_eq_none_of_brace {expression : String} (brace : '\x7b' ∈ expression.toList)
    (data : Json) : find? expression data = none := by
  rw [Option.eq_none_iff_forall_ne_some]
  intro value found
  obtain ⟨path, read, -⟩ := resolveText_eq_ok.1 (find?_eq_some.1 found)
  exact (ne_brace_of_parse read _ brace).1 rfl

namespace Binding

theorem isBody_of_parse {expression : String} {path : Path}
    (read : Path.parse expression = .ok (.ok path)) : IsBody expression.toList := by
  constructor
  · intro empty
    obtain rfl := String.toList_eq_nil_iff.1 empty
    cases read
  · intro close
    exact (Path.ne_brace_of_parse read _ close).2 rfl

variable {before after path : String}

/-- A brace that is left open begins a binding with all that follows. -/
theorem exists_body_of_leftOpen {inside : List Char} (isBody : IsBody path.toList)
    (noClose : '\x7d' ∉ inside) (follows : ∀ c ∈ inside.head?, c = '\x7b') :
    ∃ body, IsBody body ∧ '\x7b' ∈ body ∧
      (Piece.binding body).chars = '\x7b' :: (inside ++ (Piece.binding path.toList).chars) := by
  cases inside with
  | nil =>
    refine ⟨'\x7b' :: path.toList, ⟨List.cons_ne_nil _ _, ?_⟩, List.mem_cons_self, rfl⟩
    simpa using isBody.2
  | cons c more =>
    obtain rfl := follows c rfl
    refine ⟨more ++ (openMark ++ path.toList), ⟨?_, ?_⟩, ?_, ?_⟩
    · simp [openMark]
    · simp_all [openMark, isBody.2]
    · simp [openMark]
    · simp [Piece.chars, openMark]

theorem pieces_of_leftOpen (isBody : IsBody path.toList) (isOpen : LeftOpen before.toList)
    (after : String) :
    ∃ front inside body, pieces before = front ++ inside.map .plain ∧ '\x7b' ∈ body ∧
      (Piece.binding body).chars = inside ++ (Piece.binding path.toList).chars ∧
      pieces (before ++ braced path ++ after) = front ++ .binding body :: pieces after := by
  obtain ⟨front, inside, whole, closed, noClose, follows⟩ := isOpen.first
  obtain ⟨ps, cut, rfl⟩ := exists_cut front
  obtain ⟨body, isBody', brace, absorbed⟩ := exists_body_of_leftOpen isBody noClose follows
  obtain ⟨cutAfter, wholeAfter⟩ := cut_pieces after
  have head {qs : List Piece} (opens : (written qs).head? = some '\x7b') :
      ∀ d ∈ (written qs).head?, d ≠ '\x7d' := by
    rw [opens]
    rintro d ⟨⟩
    decide
  refine ⟨ps, '\x7b' :: inside, body, ?_, brace, absorbed, ?_⟩
  · refine (cut.append (cut_plain ?_) closed (head ?_)).pieces_eq ?_
    · simpa using noClose
    · rw [written_plain]
      rfl
    · rw [written_append, written_plain, whole]
  · refine (cut.append (.binding isBody' cutAfter) closed (head rfl)).pieces_eq ?_
    simp [whole, wholeAfter, absorbed]

variable {data value : Json}

/-- The text with a value in the place of the binding. -/
def filledIn (before after : String) (value data : Json) : Outcome String := do
  return (← interpolate before data) ++ (← display value) ++ (← interpolate after data)

theorem filledIn_of_raised {cause : Raised} (raised : interpolate before data = .error cause)
    (after : String) (value : Json) : filledIn before after value data = .error cause := by
  rw [filledIn, raised]
  rfl

theorem interpolate_filledIn (closed : ¬ LeftOpen before.toList)
    (resolves : Path.resolveText path data = .ok (.ok value)) (after : String) :
    interpolate (before ++ braced path ++ after) data = filledIn before after value data := by
  obtain ⟨segments, read, -⟩ := Path.resolveText_eq_ok.1 resolves
  have found : value? path data = .ok (some value) := by
    rw [value?, resolves]
    rfl
  rw [interpolate_around (isBody_of_parse read) closed, shownBinding, found]
  rfl

/-- Behind a brace that is left open the binding stays as it was written. -/
theorem interpolate_of_leftOpen (isOpen : LeftOpen before.toList)
    (resolves : Path.resolveText path data = .ok (.ok value)) {text : String}
    (shown : interpolate (before ++ braced path ++ after) data = .ok text) :
    ∃ first last, interpolate before data = .ok first ∧ interpolate after data = .ok last ∧
      text = first ++ braced path ++ last := by
  obtain ⟨segments, read, -⟩ := Path.resolveText_eq_ok.1 resolves
  obtain ⟨front, inside, body, cutBefore, brace, absorbed, cutWhole⟩ :=
    pieces_of_leftOpen (isBody_of_parse read) isOpen after
  have kept : (Piece.binding body).shown data = inside ++ (braced path).toList := by
    have nowhere : Path.find? (String.ofList body) data = none :=
      Path.find?_eq_none_of_brace (by simpa using brace) data
    rw [Piece.shown, nowhere, absorbed, toList_braced]
  rw [interpolate_eq_ok, cutWhole, List.forall_mem_append, List.forall_mem_cons,
    List.flatMap_append, List.flatMap_cons, kept] at shown
  obtain ⟨⟨inFront, -, inBack⟩, rfl⟩ := shown
  refine ⟨_, _, interpolate_eq_ok.2 ⟨?_, rfl⟩, interpolate_eq_ok.2 ⟨inBack, rfl⟩, ?_⟩
  · rw [cutBefore]
    exact List.forall_mem_append.2 ⟨inFront, showable_plain data inside⟩
  · rw [cutBefore, List.flatMap_append, shown_plain]
    simp [String.ofList_append, String.append_assoc, -toList_braced]

/-- What is raised in front of a brace that is left open is raised with all that stands behind it. -/
theorem raised_of_leftOpen {cause : Raised} (isOpen : LeftOpen before.toList)
    (resolves : Path.resolveText path data = .ok (.ok value))
    (raised : interpolate before data = .error cause) (after : String) :
    interpolate (before ++ braced path ++ after) data = .error cause := by
  obtain ⟨segments, read, -⟩ := Path.resolveText_eq_ok.1 resolves
  obtain ⟨front, inside, body, cutBefore, -, -, cutWhole⟩ :=
    pieces_of_leftOpen (isBody_of_parse read) isOpen after
  -- plain characters raise nothing, so it is the part in front of the brace that does
  have inFront : interpolatePieces data front = .error cause := by
    rw [interpolate, cutBefore, interpolatePieces_append, interpolatePieces_plain] at raised
    cases shown : interpolatePieces data front with
    | error cause' =>
      rw [shown] at raised
      exact congrArg Except.error (Except.error.inj raised)
    | ok cs =>
      rw [shown] at raised
      cases raised
  rw [interpolate, cutWhole, interpolatePieces_append, inFront]
  rfl

/-- A text with an overlong index in a binding is not shown, whatever the data. -/
theorem exists_raised {body : String} (member : body ∈ bodies before)
    (overlong : Path.Overlong body) (data : Json) :
    ∃ cause, interpolate before data = .error cause := by
  cases shown : interpolate before data with
  | error cause => exact ⟨cause, rfl⟩
  | ok text =>
    exact absurd overlong (showable_iff.1 (interpolate_eq_ok.1 shown).1 body member).short

/-- Behind a text every binding that leads somewhere gives way to its value, with the two texts
shown as they are shown alone, exactly when no brace of the text in front is left open; unless the
text in front is never shown. Otherwise the binding stays as it was written. -/
theorem interpolate_around_iff (before : String) :
    ((∀ path after data value, Path.resolveText path data = .ok (.ok value) →
        interpolate (before ++ braced path ++ after) data = filledIn before after value data) ↔
      (LeftOpen before.toList → ∃ body ∈ bodies before, Path.Overlong body)) ∧
    (LeftOpen before.toList → ∀ path after data value,
      Path.resolveText path data = .ok (.ok value) →
        ∀ text, interpolate (before ++ braced path ++ after) data = .ok text →
          ∃ first last, interpolate before data = .ok first ∧ interpolate after data = .ok last ∧
            text = first ++ braced path ++ last) := by
  refine ⟨⟨?_, ?_⟩, fun isOpen _ _ _ _ resolves _ => interpolate_of_leftOpen isOpen resolves⟩
  · intro filled isOpen
    by_contra short
    -- a value that is shown as nothing makes the difference
    have resolves : Path.resolveText "a" (.object [("a", .null)]) = .ok (.ok .null) := rfl
    obtain ⟨first, shown⟩ : ∃ first, interpolate before (.object [("a", .null)]) = .ok first :=
      ⟨_, interpolate_eq_ok.2 ⟨showable_iff.2 fun body member =>
        ⟨fun overlong => short ⟨body, member, overlong⟩, fun value found =>
          Path.fitsText_of_find? (by decide) found⟩, rfl⟩⟩
    have whole : interpolate (before ++ braced "a" ++ "") (.object [("a", .null)]) =
        .ok (first ++ "" ++ "") := by
      rw [filled "a" "" _ _ resolves, filledIn, shown]
      rfl
    obtain ⟨_, last, same, -, kept⟩ := interpolate_of_leftOpen isOpen resolves whole
    cases shown.symm.trans same
    have lengths := congrArg String.length kept
    have nothing : ("" : String).length = 0 := rfl
    have five : (braced "a").length = 5 := rfl
    simp only [String.length_append, nothing, five] at lengths
    omega
  · intro harmless path after data value resolves
    by_cases isOpen : LeftOpen before.toList
    · obtain ⟨body, member, overlong⟩ := harmless isOpen
      obtain ⟨cause, raised⟩ := exists_raised member overlong data
      rw [raised_of_leftOpen isOpen resolves raised, filledIn_of_raised raised]
    · exact interpolate_filledIn isOpen resolves after

def ada : Json := .object [("name", .str "Ada")]

/-- Behind one more brace the name is not filled in. -/
theorem name_behind_brace : ¬ ∀ before path after data value,
    Path.resolveText path data = .ok (.ok value) →
      interpolate (before ++ braced path ++ after) data = filledIn before after value data := by
  intro filled
  have whole : interpolate "\x7b\x7b\x7bname\x7d\x7d" ada = .ok "\x7bAda" :=
    filled "\x7b" "name" "" ada (.str "Ada") rfl
  have kept : interpolate "\x7b\x7b\x7bname\x7d\x7d" ada = .ok "\x7b\x7b\x7bname\x7d\x7d" := by
    rfl
  exact absurd (Except.ok.inj (kept.symm.trans whole)) (by decide)

theorem greeting_filled :
    interpolate "Dear \x7b\x7bname\x7d\x7d!" ada = .ok "Dear Ada!" ∧
      ∀ text, interpolate "\x7b\x7b\x7bname\x7d\x7d" ada = .ok text →
        ∃ first last, interpolate "\x7b" ada = .ok first ∧ interpolate "" ada = .ok last ∧
          text = first ++ "\x7b\x7bname\x7d\x7d" ++ last := by
  refine ⟨?_, ?_⟩
  · have closed : ¬ LeftOpen "Dear ".toList := not_leftOpen (by decide)
    exact (interpolate_around_iff "Dear ").1.2 (fun isOpen => absurd isOpen closed)
      "name" "!" ada (.str "Ada") rfl
  · exact (interpolate_around_iff "\x7b").2 ⟨[], [], rfl, List.not_mem_nil, nofun⟩
      "name" "" ada (.str "Ada") rfl

end Binding

end UiSchema
