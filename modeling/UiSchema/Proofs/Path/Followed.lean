import UiSchema.Proofs.Json.Ints
import UiSchema.Proofs.Path.Written

/-! Paths that are followed, one segment after the other. Two things are raised on the way: an index
may have too many digits to be written, and it may count back past the first item. The paths that
are read from text do neither. -/

set_option autoImplicit false

namespace UiSchema

namespace Path

variable {path rest front back : Path} {segment : Segment} {root next value : Json}
  {halt : Halt} {miss : Miss}

/-! ### One segment, then the rest -/

/-- The value at the end of the path, if it leads anywhere. -/
def get? (path : Path) (root : Json) : Option Json := (followFrom 0 path root).toOption

/-- The number of the segment that fails counts from the number of the first one. -/
theorem followFrom_eq (position : Nat) (path : Path) (root : Json) :
    followFrom position path root =
      (followFrom 0 path root).mapError (Prod.map (position + ·) id) := by
  -- by induction on the path, for all positions to count from and all values to start at
  induction path generalizing position root with
  | nil => rfl
  | cons segment rest ih =>
    rw [followFrom, followFrom]
    cases follow root segment with
    | error halt => rfl
    | ok next =>
      dsimp only
      rw [ih (position + 1), ih (0 + 1)]
      cases followFrom 0 rest next with
      | ok value => rfl
      | error ends => simp [Except.mapError, Prod.map, Nat.add_assoc]

theorem get?_nil (root : Json) : get? [] root = some root := rfl

theorem get?_cons (segment : Segment) (rest : Path) (root : Json) :
    get? (segment :: rest) root = (follow root segment).toOption.bind rest.get? := by
  rw [get?, followFrom]
  cases follow root segment with
  | error halt => rfl
  | ok next =>
    dsimp only
    rw [followFrom_eq, Except.toOption, Option.bind_some, get?]
    cases followFrom 0 rest next <;> rfl

theorem get?_cons_eq_some :
    get? (segment :: rest) root = some value ↔
      ∃ next, follow root segment = .ok next ∧ rest.get? next = some value := by
  rw [get?_cons]
  cases follow root segment <;> simp [Except.toOption]

theorem get?_append (front back : Path) (root : Json) :
    get? (front ++ back) root = (get? front root).bind back.get? := by
  induction front generalizing root with
  | nil => rfl
  | cons segment front ih =>
    rw [List.cons_append, get?_cons, get?_cons, Option.bind_assoc]
    exact Option.bind_congr fun next _ => ih next

/-- What comes in front of the segment that fails leads to a value, and from this value the segment
leads nowhere. -/
theorem followFrom_eq_error {position n : Nat} :
    followFrom position path root = .error (n, halt) ↔
      ∃ front failing back value, path = front ++ failing :: back ∧ position + front.length = n ∧
        get? front root = some value ∧ follow value failing = .error halt := by
  induction path generalizing position root with
  | nil => exact iff_of_false nofun fun ⟨front, _, _, _, same, _⟩ => by cases front <;> cases same
  | cons segment rest ih =>
    rw [followFrom]
    -- either the first segment fails, or the path breaks off further on
    constructor
    · intro fails
      cases step : follow root segment with
      | error halt' =>
        rw [step] at fails
        cases fails
        exact ⟨[], segment, rest, root, rfl, rfl, rfl, step⟩
      | ok next =>
        rw [step] at fails
        obtain ⟨front, failing, back, value, rfl, rfl, leads, fails⟩ := ih.1 fails
        refine ⟨segment :: front, failing, back, value, rfl, ?_, ?_, fails⟩
        · rw [List.length_cons]
          omega
        · rw [get?_cons, step]
          exact leads
    · rintro ⟨_ | ⟨first, front⟩, failing, back, value, same, rfl, leads, fails⟩
      · cases same
        cases leads
        rw [fails]
        rfl
      · cases same
        obtain ⟨next, step, leads⟩ := get?_cons_eq_some.1 leads
        rw [step]
        refine ih.2 ⟨front, failing, back, value, rfl, ?_, leads, fails⟩
        rw [List.length_cons]
        omega

/-! ### What is answered -/

theorem resolve_of_printable (printable : Printable path) (root : Json) :
    path.resolve root = report path.written (followFrom 0 path root) := by
  rw [resolve, format_of_printable printable]
  rfl

theorem resolve_of_not_printable (unprintable : ¬ Printable path) (root : Json) :
    path.resolve root = .error .tooManyDigits := by
  rw [resolve, format_of_not_printable unprintable]
  rfl

theorem resolve_eq_value :
    path.resolve root = .ok (.ok value) ↔ Printable path ∧ path.get? root = some value := by
  by_cases printable : Printable path
  · rw [resolve_of_printable printable, get?]
    rcases followFrom 0 path root with ⟨n, cause | cause⟩ | found <;>
      simp [report, Except.toOption, printable]
  · rw [resolve_of_not_printable printable]
    exact iff_of_false nofun fun both => printable both.1

theorem resolve_eq_miss :
    path.resolve root = .ok (.error miss) ↔ Printable path ∧ path.written = miss.path ∧
      followFrom 0 path root = .error (miss.segment, .miss miss.cause) := by
  obtain ⟨text, n, cause⟩ := miss
  by_cases printable : Printable path
  · rw [resolve_of_printable printable]
    rcases followFrom 0 path root with ⟨n', cause' | cause'⟩ | found <;> simp [report, printable]
  · rw [resolve_of_not_printable printable]
    exact iff_of_false nofun fun both => printable both.1

theorem resolve_eq_raised {cause : Raised} :
    path.resolve root = .error cause ↔ ¬ Printable path ∧ cause = .tooManyDigits ∨
      Printable path ∧ ∃ n, followFrom 0 path root = .error (n, .raised cause) := by
  by_cases printable : Printable path
  · rw [resolve_of_printable printable]
    rcases followFrom 0 path root with ⟨n', cause' | cause'⟩ | found <;> simp [report, printable]
  · rw [resolve_of_not_printable printable]
    simp [printable, eq_comm]

/-! ### What is raised -/

/-- Indexes count from the beginning. -/
def Counting (path : Path) : Prop := ∀ i, .index i ∈ path → 0 ≤ i

theorem item?_eq_none {items : List Json} {i : Int} :
    item? items i = none ↔ items.length ≤ i ∨ i + items.length < 0 := by
  unfold item?
  split_ifs with forward back
  · rw [List.getElem?_eq_none_iff]
    omega
  · rw [List.getElem?_eq_none_iff]
    omega
  · exact iff_of_true rfl (by omega)

/-- Reading raises exactly when an index counts back past the first item. -/
theorem follow_eq_raised {cause : Raised} :
    follow root segment = .error (.raised cause) ↔ cause = .beforeFirst ∧
      ∃ i items, segment = .index i ∧ root = .array items ∧ i + items.length < 0 := by
  cases segment with
  | name key =>
    refine iff_of_false ?_ fun both => nomatch both.2
    cases root with
    | object members =>
      rw [follow]
      cases Entries.get? members key <;> nofun
    | _ => nofun
  | index i =>
    cases root with
    | array items =>
      rw [follow]
      have none_iff : item? items i = none ↔ items.length ≤ i ∨ i + items.length < 0 :=
        item?_eq_none
      split_ifs with beyond
      · refine iff_of_false nofun ?_
        rintro ⟨-, _, _, ⟨⟩, ⟨⟩, before⟩
        omega
      · cases found : item? items i with
        | some item =>
          refine iff_of_false nofun ?_
          rintro ⟨-, _, _, ⟨⟩, ⟨⟩, before⟩
          cases found.symm.trans (none_iff.2 (.inr before))
        | none =>
          have before := (none_iff.1 found).resolve_left beyond
          simp [before, eq_comm]
    | _ => exact iff_of_false nofun fun ⟨_, _, _, _, same, _⟩ => nomatch same

theorem Writable.counting (writable : Writable path) : Counting path :=
  fun i member => (writable.2 (.index i) member).1

/-- A path that can be written, and that only counts forward, is answered. -/
theorem exists_resolve (printable : Printable path) (counting : Counting path) (root : Json) :
    ∃ answer, path.resolve root = .ok answer := by
  cases answer : path.resolve root with
  | ok found => exact ⟨found, rfl⟩
  | error cause =>
    rcases resolve_eq_raised.1 answer with ⟨unprintable, -⟩ | ⟨-, n, ends⟩
    · exact absurd printable unprintable
    · -- what is raised on the way is an index before the first item, and there is none
      obtain ⟨front, failing, back, value, rfl, -, -, fails⟩ := followFrom_eq_error.1 ends
      obtain ⟨-, i, items, rfl, -, before⟩ := follow_eq_raised.1 fails
      have forward := counting i (List.mem_append_right _ List.mem_cons_self)
      omega

theorem toOption_of_resolve {answer : Except Miss Json} (resolved : path.resolve root = .ok answer) :
    answer.toOption = path.get? root := by
  cases answer with
  | ok value => exact (resolve_eq_value.1 resolved).2.symm
  | error miss =>
    rw [get?, (resolve_eq_miss.1 resolved).2.2]
    rfl

/-- Nothing is raised for a path that was read. -/
theorem exists_resolve_of_parse {expression : String} (read : parse expression = .ok (.ok path))
    (root : Json) : ∃ answer, path.resolve root = .ok answer ∧ answer.toOption = path.get? root := by
  have writable := writable_of_parse read
  obtain ⟨answer, resolved⟩ := exists_resolve writable.printable writable.counting root
  exact ⟨answer, resolved, toOption_of_resolve resolved⟩

/-! ### Values that can be written -/

theorem mem_of_item? {items : List Json} {i : Int} {item : Json}
    (found : item? items i = some item) : item ∈ items := by
  unfold item? at found
  split at found
  · exact List.mem_of_getElem? found
  · split at found
    · exact List.mem_of_getElem? found
    · cases found

theorem mem_of_follow_object {members : Entries Json}
    (step : follow (.object members) segment = .ok next) : ∃ key, (key, next) ∈ members := by
  cases segment with
  | name key =>
    rw [follow] at step
    split at step
    · rename_i found
      cases step
      exact ⟨key, Entries.mem_of_get? found⟩
    · cases step
  | index i => cases step

theorem mem_of_follow_array {items : List Json}
    (step : follow (.array items) segment = .ok next) : next ∈ items := by
  cases segment with
  | name key => cases step
  | index i =>
    rw [follow] at step
    split at step
    · cases step
    · split at step
      · rename_i found
        cases step
        exact mem_of_item? found
      · cases step

theorem fitsText_of_follow (step : follow root segment = .ok next) (fits : root.fitsText = true) :
    next.fitsText = true := by
  cases root with
  | object members =>
    obtain ⟨key, inside⟩ := mem_of_follow_object step
    exact Json.fitsText_object.1 fits _ inside
  | array items => exact Json.fitsText_array.1 fits next (mem_of_follow_array step)
  | _ => cases segment <;> cases step

/-- What a path leads to can be written if the whole document can. -/
theorem fitsText_of_get? (fits : root.fitsText = true) (found : path.get? root = some value) :
    value.fitsText = true := by
  induction path generalizing root with
  | nil =>
    cases found
    exact fits
  | cons segment rest ih =>
    obtain ⟨next, step, leads⟩ := get?_cons_eq_some.1 found
    exact ih (fitsText_of_follow step fits) leads

theorem resolveText_eq_value {expression : String} :
    resolveText expression root = .ok (.ok value) ↔
      ∃ path, parse expression = .ok (.ok path) ∧ path.get? root = some value := by
  rw [resolveText_eq_ok]
  refine exists_congr fun path => and_congr_right fun read => ?_
  rw [resolve_eq_value]
  exact and_iff_right (writable_of_parse read).printable

end Path

namespace Binding

/-- A path that can be read is followed; a malformed one has no value. -/
theorem value?_of_parse {expression : String} {read : Except Path.SyntaxError Path}
    (parsed : Path.parse expression = .ok read) (data : Json) :
    value? expression data = .ok (read.toOption.bind fun path => path.get? data) := by
  rw [value?, Path.resolveText, parsed]
  cases read with
  | error cause => rfl
  | ok path =>
    obtain ⟨answer, resolved, same⟩ := Path.exists_resolve_of_parse parsed data
    simp only [Bind.bind, Except.bind, resolved]
    rw [Except.toOption, Option.bind_some, ← same]
    cases answer <;> rfl

end Binding

end UiSchema
