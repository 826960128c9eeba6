import UiSchema.Proofs.Binding.Pieces
import UiSchema.Proofs.Path.Followed

/-! Texts as they are shown: a binding that leads somewhere gives way to its value, and any other
one stays as it was written. Nothing stops this but a number with too many digits: an index in a
path, or a number in a value. -/

set_option autoImplicit false

namespace UiSchema

namespace Path

/-- The value that a path leads to, if it leads anywhere. -/
def find? (expression : String) (data : Json) : Option Json :=
  match parse expression with
  | .ok (.ok path) => path.get? data
  | _ => none

instance : DecidablePred Overlong := fun expression =>
  match parsed : parse expression with
  | .error _ => .isTrue (overlong_of_parse parsed)
  | .ok _ => .isFalse (not_overlong_of_parse parsed)

theorem find?_eq_some {expression : String} {data value : Json} :
    find? expression data = some value ↔ resolveText expression data = .ok (.ok value) := by
  rw [find?, resolveText_eq_value]
  rcases parse expression with cause | e | path <;> simp

theorem fitsText_of_find? {expression : String} {data value : Json} (fits : data.fitsText = true)
    (found : find? expression data = some value) : value.fitsText = true := by
  obtain ⟨path, -, leads⟩ := resolveText_eq_value.1 (find?_eq_some.1 found)
  exact fitsText_of_get? fits leads

end Path

namespace Binding

theorem value?_eq (expression : String) (data : Json) :
    value? expression data =
      if Path.Overlong expression then .error .tooManyDigits
      else .ok (Path.find? expression data) := by
  cases parsed : Path.parse expression with
  | error cause =>
    obtain ⟨rfl, -⟩ := Path.parse_eq_error.1 parsed
    rw [if_pos (Path.overlong_of_parse parsed), value?_of_raised parsed]
  | ok read =>
    rw [if_neg (Path.not_overlong_of_parse parsed), value?_of_parse parsed, Path.find?, parsed]
    cases read <;> rfl

theorem value?_eq_ok {expression : String} {data : Json} {found : Option Json} :
    value? expression data = .ok found ↔
      ¬ Path.Overlong expression ∧ Path.find? expression data = found := by
  rw [value?_eq]
  by_cases overlong : Path.Overlong expression
  · rw [if_pos overlong]
    constructor
    · rintro ⟨⟩
    · exact fun both => absurd overlong both.1
  · rw [if_neg overlong, and_iff_right overlong]
    exact Outcome.pure_eq_ok

theorem value?_trim (expression : String) (data : Json) :
    value? (Text.trim expression) data = value? expression data := by
  -- the two parses end alike; they differ only in the expression that an error quotes
  cases parsed : Path.parse expression with
  | error cause =>
    rw [value?_of_raised parsed, value?_of_raised (Path.parse_trim_eq_error.2 parsed)]
  | ok read =>
    cases trimmed : Path.parse (Text.trim expression) with
    | error cause =>
      cases parsed.symm.trans (Path.parse_trim_eq_error.1 trimmed)
    | ok other =>
      rw [value?_of_parse parsed, value?_of_parse trimmed]
      cases read with
      | ok path =>
        cases trimmed.symm.trans (Path.parse_trim_eq_ok.2 parsed)
        rfl
      | error cause =>
        cases other with
        | ok path => cases parsed.symm.trans (Path.parse_trim_eq_ok.1 trimmed)
        | error trimmedCause => rfl

theorem display_eq_ok {value : Json} {text : String} :
    display value = .ok text ↔ value.fitsText = true ∧ displayed value = text := by
  rw [display]
  split <;> simp_all

/-- A binding with this body does not stop a text from being shown. -/
structure Showable (data : Json) (body : String) : Prop where
  short : ¬ Path.Overlong body
  fits : ∀ value, Path.find? body data = some value → value.fitsText = true

namespace Piece

/-- How a piece of a text is shown: a binding that leads nowhere as it was written. -/
def shown (data : Json) : Piece → List Char
  | .plain c => [c]
  | .binding body =>
    match Path.find? (String.ofList body) data with
    | some value => (displayed value).toList
    | none => (Piece.binding body).chars

def Showable (data : Json) : Piece → Prop
  | .plain _ => True
  | .binding body => Binding.Showable data (String.ofList body)

theorem interpolate_eq_ok {data : Json} {piece : Piece} {cs : List Char} :
    piece.interpolate data = .ok cs ↔ piece.Showable data ∧ piece.shown data = cs := by
  cases piece with
  | plain c => simp [interpolate, Showable, shown]
  | binding body =>
    rw [interpolate, Outcome.bind_eq_ok, Showable, shown]
    simp only [value?_eq_ok]
    constructor
    · rintro ⟨_, ⟨short, rfl⟩, rest⟩
      cases found : Path.find? (String.ofList body) data with
      | some value =>
        simp only [found] at rest ⊢
        obtain ⟨text, shown, same⟩ := Outcome.bind_eq_ok.1 rest
        obtain ⟨fits, rfl⟩ := display_eq_ok.1 shown
        refine ⟨⟨short, fun other same => ?_⟩, Outcome.pure_eq_ok.1 same⟩
        cases found.symm.trans same
        exact fits
      | none =>
        simp only [found] at rest ⊢
        exact ⟨⟨short, fun other same => by cases found.symm.trans same⟩,
          Outcome.pure_eq_ok.1 rest⟩
    · rintro ⟨⟨short, fits⟩, rfl⟩
      refine ⟨_, ⟨short, rfl⟩, ?_⟩
      cases found : Path.find? (String.ofList body) data with
      | some value =>
        exact Outcome.bind_eq_ok.2 ⟨_, display_eq_ok.2 ⟨fits value found, rfl⟩, rfl⟩
      | none => rfl

end Piece

theorem shown_plain (data : Json) (cs : List Char) :
    (cs.map Piece.plain).flatMap (Piece.shown data) = cs := by
  induction cs with
  | nil => rfl
  | cons c cs ih => rw [List.map_cons, List.flatMap_cons, ih]; rfl

theorem showable_plain (data : Json) (cs : List Char) :
    ∀ piece ∈ cs.map Piece.plain, piece.Showable data :=
  List.forall_mem_map.2 fun _ _ => trivial

theorem interpolatePieces_eq_ok {data : Json} {ps : List Piece} {cs : List Char} :
    interpolatePieces data ps = .ok cs ↔
      (∀ piece ∈ ps, piece.Showable data) ∧ ps.flatMap (Piece.shown data) = cs := by
  induction ps generalizing cs with
  | nil => simp [interpolatePieces]
  | cons piece rest ih =>
    rw [interpolatePieces]
    simp only [Outcome.bind_eq_ok, Outcome.pure_eq_ok, Piece.interpolate_eq_ok, ih,
      List.forall_mem_cons, List.flatMap_cons]
    constructor
    · rintro ⟨_, ⟨here, rfl⟩, _, ⟨others, rfl⟩, rfl⟩
      exact ⟨⟨here, others⟩, rfl⟩
    · rintro ⟨⟨here, others⟩, rfl⟩
      exact ⟨_, ⟨here, rfl⟩, _, ⟨others, rfl⟩, rfl⟩

theorem interpolate_eq_ok {template text : String} {data : Json} :
    interpolate template data = .ok text ↔
      (∀ piece ∈ pieces template, piece.Showable data) ∧
        String.ofList ((pieces template).flatMap (Piece.shown data)) = text := by
  rw [interpolate]
  simp only [Outcome.bind_eq_ok, Outcome.pure_eq_ok, interpolatePieces_eq_ok]
  constructor
  · rintro ⟨_, ⟨showable, rfl⟩, rfl⟩
    exact ⟨showable, rfl⟩
  · rintro ⟨showable, rfl⟩
    exact ⟨_, ⟨showable, rfl⟩, rfl⟩

/-! ### A binding among other text -/

theorem interpolatePieces_append (data : Json) (ps qs : List Piece) :
    interpolatePieces data (ps ++ qs) = do
      return (← interpolatePieces data ps) ++ (← interpolatePieces data qs) := by
  induction ps with
  | nil =>
    show interpolatePieces data qs = interpolatePieces data qs >>= fun cs => pure ([] ++ cs)
    simp only [List.nil_append, bind_pure]
  | cons piece rest ih =>
    rw [List.cons_append, interpolatePieces, interpolatePieces, ih]
    simp only [bind_assoc, pure_bind, List.append_assoc]

theorem interpolatePieces_plain (data : Json) (cs : List Char) :
    interpolatePieces data (cs.map .plain) = .ok cs :=
  interpolatePieces_eq_ok.2 ⟨showable_plain data cs, shown_plain data cs⟩

theorem interpolate_plain {text : String} (noClose : '\x7d' ∉ text.toList) (data : Json) :
    interpolate text data = .ok text := by
  have cut := (cut_plain noClose).pieces_eq (written_plain _).symm
  rw [interpolate, cut, interpolatePieces_plain]
  exact congrArg Except.ok String.ofList_toList

/-- How a binding is shown, as a text. -/
def shownBinding (path : String) (data : Json) : Outcome String := do
  match ← value? path data with
  | some value => display value
  | none => return braced path

theorem interpolate_binding (path : String) (data : Json) :
    (Piece.binding path.toList).interpolate data = String.toList <$> shownBinding path data := by
  rw [Piece.interpolate, String.ofList_toList, shownBinding, map_bind]
  refine bind_congr fun found => ?_
  cases found with
  | some value => exact (map_eq_pure_bind ..).symm
  | none => exact congrArg Except.ok (toList_braced path).symm

/-- A binding and the texts on its two sides are shown apart, if no brace is left open in front of
it. -/
theorem interpolate_around {before path : String} (isBody : IsBody path.toList)
    (closed : ¬ LeftOpen before.toList) (after : String) (data : Json) :
    interpolate (before ++ braced path ++ after) data = do
      let first ← interpolate before data
      let middle ← shownBinding path data
      let last ← interpolate after data
      return first ++ middle ++ last := by
  rw [interpolate, pieces_around isBody closed, interpolatePieces_append, interpolatePieces,
    interpolate_binding]
  simp [interpolate, String.ofList_append, String.append_assoc]

/-! ### The paths in a text -/

theorem mem_bodies {template expression : String} :
    expression ∈ bodies template ↔
      ∃ body, .binding body ∈ pieces template ∧ String.ofList body = expression := by
  rw [bodies, List.mem_filterMap]
  constructor
  · rintro ⟨piece | body, member, same⟩
    · cases same
    · exact ⟨body, member, Option.some.inj same⟩
  · rintro ⟨body, member, same⟩
    exact ⟨.binding body, member, congrArg some same⟩

theorem showable_iff {template : String} {data : Json} :
    (∀ piece ∈ pieces template, piece.Showable data) ↔
      ∀ body ∈ bodies template, Showable data body := by
  simp only [mem_bodies, forall_exists_index, and_imp, forall_apply_eq_imp_iff₂]
  constructor
  · intro showable body member
    exact showable (.binding body) member
  · rintro showable (c | body) member
    · trivial
    · exact showable body member

end Binding

end UiSchema
