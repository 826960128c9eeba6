import UiSchema.Proofs.Path.Followed

/-! What paths lead to. A path leads from a document to a value one segment after the other, so two
paths may be followed one after the other; and a path that leads nowhere is reported with the first
segment that fails, which stands right behind the longest part of the path that leads anywhere. It
is not reported if an index has too many digits or counts back past the first item: both raise. -/

set_option autoImplicit false

namespace UiSchema.Path

variable {path rest front back : Path} {segment : Segment} {root next value : Json} {miss : Miss}

theorem Printable.append :
    Printable (front ++ back) ↔ Printable front ∧ Printable back := List.forall_mem_append

theorem resolve_append_eq_value :
    resolve (front ++ back) root = .ok (.ok value) ↔
      ∃ between, resolve front root = .ok (.ok between) ∧
        resolve back between = .ok (.ok value) := by
  simp only [resolve_eq_value, Printable.append, get?_append, Option.bind_eq_some_iff]
  constructor
  · rintro ⟨⟨first, second⟩, between, leads, found⟩
    exact ⟨between, ⟨first, leads⟩, second, found⟩
  · rintro ⟨between, ⟨first, leads⟩, second, found⟩
    exact ⟨⟨first, second⟩, between, leads, found⟩

/-! ### The first segment that fails -/

/-- The path breaks off at the reported segment: what stands in front of it leads to a value, and
from this value the segment leads nowhere. -/
structure BreaksOff (path : Path) (root : Json) (miss : Miss) : Prop where
  path_eq : format path = .ok miss.path
  split : ∃ front failing back value, path = front ++ failing :: back ∧
    front.length = miss.segment ∧ resolve front root = .ok (.ok value) ∧
      follow value failing = .error (.miss miss.cause)

theorem breaksOff_of_resolve (missed : resolve path root = .ok (.error miss)) :
    BreaksOff path root miss := by
  obtain ⟨printable, text, ends⟩ := resolve_eq_miss.1 missed
  obtain ⟨front, failing, back, value, rfl, length, leads, fails⟩ := followFrom_eq_error.1 ends
  have inFront : Printable front := (Printable.append.1 printable).1
  exact ⟨format_eq_ok.2 ⟨printable, text⟩, front, failing, back, value, rfl, by omega,
    resolve_eq_value.2 ⟨inFront, leads⟩, fails⟩

/-- The parts of a path that lead anywhere are those in front of the segment that fails. -/
theorem BreaksOff.take_resolves_iff (breaks : BreaksOff path root miss) {n : Nat}
    (inside : n ≤ path.length) :
    (∃ value, resolve (path.take n) root = .ok (.ok value)) ↔ n ≤ miss.segment := by
  obtain ⟨front, failing, back, value, rfl, length, leads, fails⟩ := breaks.split
  rw [← length]
  constructor
  · rintro ⟨found, resolves⟩
    by_contra longer
    -- a longer part would have to lead past the segment that fails
    obtain ⟨more, size⟩ : ∃ more, n = front.length + (more + 1) := ⟨n - front.length - 1, by omega⟩
    rw [size, List.take_length_add_append, List.take_succ_cons] at resolves
    obtain ⟨_, same, onward⟩ := resolve_append_eq_value.1 resolves
    cases leads.symm.trans same
    have stops := (resolve_eq_value.1 onward).2
    rw [get?_cons, fails] at stops
    cases stops
  · intro shorter
    rw [List.take_append_of_le_length shorter]
    rw [← List.take_append_drop n front] at leads
    obtain ⟨between, resolves, -⟩ := resolve_append_eq_value.1 leads
    exact ⟨between, resolves⟩

/-! ### What is raised -/

theorem not_printable_iff :
    ¬ Printable path ↔ ∃ i, .index i ∈ path ∧ 10 ^ mostDigits ≤ i.natAbs := by
  constructor
  · intro unprintable
    obtain ⟨segment, member, long⟩ : ∃ segment ∈ path, ¬ segment.fewDigits = true := by
      simpa [Printable] using unprintable
    cases segment with
    | name key => exact absurd rfl long
    | index i => exact ⟨i, member, Nat.le_of_not_lt fun few => long (fewDigits_iff.2 few)⟩
  · rintro ⟨i, member, many⟩ printable
    have few : i.natAbs < 10 ^ mostDigits := fewDigits_iff.1 (printable (.index i) member)
    exact absurd many (Nat.not_le.2 few)

theorem resolve_eq_tooManyDigits :
    resolve path root = .error .tooManyDigits ↔
      ∃ i, .index i ∈ path ∧ 10 ^ mostDigits ≤ i.natAbs := by
  rw [resolve_eq_raised, ← not_printable_iff, and_iff_left rfl]
  refine or_iff_left ?_
  rintro ⟨-, n, ends⟩
  obtain ⟨front, failing, back, value, -, -, -, fails⟩ := followFrom_eq_error.1 ends
  cases (follow_eq_raised.1 fails).1

theorem resolve_eq_beforeFirst :
    resolve path root = .error .beforeFirst ↔
      Printable path ∧ ∃ (front : Path) (i : Int) (back : Path) (items : List Json),
        path = front ++ .index i :: back ∧
        resolve front root = .ok (.ok (.array items)) ∧ i + items.length < 0 := by
  rw [resolve_eq_raised]
  refine (or_iff_right fun both => nomatch both.2).trans (and_congr_right fun printable => ?_)
  constructor
  · rintro ⟨n, ends⟩
    obtain ⟨front, failing, back, value, rfl, -, leads, fails⟩ := followFrom_eq_error.1 ends
    obtain ⟨-, i, items, rfl, rfl, before⟩ := follow_eq_raised.1 fails
    have inFront : Printable front := (Printable.append.1 printable).1
    exact ⟨front, i, back, items, rfl, resolve_eq_value.2 ⟨inFront, leads⟩, before⟩
  · rintro ⟨front, i, back, items, rfl, leads, before⟩
    exact ⟨_, followFrom_eq_error.2 ⟨front, .index i, back, .array items, rfl, rfl,
      (resolve_eq_value.1 leads).2, follow_eq_raised.2 ⟨rfl, i, items, rfl, rfl, before⟩⟩⟩

/-! ### Documents that a path leads through -/

/-- A path leads to a value through members of objects and items of arrays. -/
inductive Reaches : Json → Path → Json → Prop where
  | here (value : Json) : Reaches value [] value
  | member {members : List (String × Json)} {key : String} {next value : Json} {rest : Path} :
      Entries.get? members key = some next → Reaches next rest value →
        Reaches (.object members) (.name key :: rest) value
  | item {items : List Json} {n : Nat} {next value : Json} {rest : Path} :
      items[n]? = some next → Reaches next rest value →
        Reaches (.array items) (.index n :: rest) value

theorem follow_name_eq_ok {key : String} :
    follow root (.name key) = .ok next ↔
      ∃ members, root = .object members ∧ Entries.get? members key = some next := by
  cases root with
  | object members =>
    rw [follow]
    cases found : Entries.get? members key <;> simp [found]
  | _ => simp [follow]

theorem follow_index_eq_ok {n : Nat} :
    follow root (.index n) = .ok next ↔
      ∃ items, root = .array items ∧ items[n]? = some next := by
  cases root with
  | array items =>
    rw [follow, item?, if_pos (Int.natCast_nonneg n), Int.toNat_natCast]
    split_ifs with beyond
    · have none : items[n]? = none := List.getElem?_eq_none (by omega)
      refine iff_of_false (by simp) ?_
      rintro ⟨_, ⟨⟩, found⟩
      cases none.symm.trans found
    · cases found : items[n]? <;> simp [found]
  | _ => simp [follow]

theorem get?_eq_some_iff_reaches (counting : Counting path) :
    get? path root = some value ↔ Reaches root path value := by
  induction path generalizing root with
  | nil =>
    constructor
    · rintro ⟨⟩
      exact .here _
    · rintro ⟨⟩
      rfl
  | cons segment rest ih =>
    have onward (next : Json) : get? rest next = some value ↔ Reaches next rest value :=
      ih fun i member => counting i (List.mem_cons_of_mem _ member)
    rw [get?_cons_eq_some]
    simp only [onward]
    constructor
    · rintro ⟨next, step, reaches⟩
      cases segment with
      | name key =>
        obtain ⟨members, rfl, found⟩ := follow_name_eq_ok.1 step
        exact .member found reaches
      | index i =>
        obtain ⟨n, rfl⟩ := Int.eq_ofNat_of_zero_le (counting i List.mem_cons_self)
        obtain ⟨items, rfl, found⟩ := follow_index_eq_ok.1 step
        exact .item found reaches
    · rintro (_ | ⟨found, reaches⟩ | ⟨found, reaches⟩)
      · exact ⟨_, follow_name_eq_ok.2 ⟨_, rfl, found⟩, reaches⟩
      · exact ⟨_, follow_index_eq_ok.2 ⟨_, rfl, found⟩, reaches⟩

/-- The smallest document in which the path leads to the leaf: objects of one member, and arrays
filled up with nulls. -/
def nested : Path → Json → Json
  | [], leaf => leaf
  | .name key :: rest, leaf => .object [(key, nested rest leaf)]
  | .index i :: rest, leaf => .array (List.replicate i.toNat .null ++ [nested rest leaf])

theorem get?_nested (counting : Counting path) (leaf : Json) :
    get? path (nested path leaf) = some leaf := by
  induction path with
  | nil => rfl
  | cons segment rest ih =>
    have onward := ih fun i member => counting i (List.mem_cons_of_mem _ member)
    rw [get?_cons_eq_some]
    refine ⟨nested rest leaf, ?_, onward⟩
    cases segment with
    | name key => exact follow_name_eq_ok.2 ⟨_, rfl, by simp [Entries.get?]⟩
    | index i =>
      obtain ⟨n, rfl⟩ := Int.eq_ofNat_of_zero_le (counting i List.mem_cons_self)
      exact follow_index_eq_ok.2 ⟨_, rfl, by simp⟩

/-- Two paths are followed one after the other. A path that does not lead to a value is reported
with the segment where it breaks off, whose number is the length of its longest part that leads
anywhere, unless one of two things is raised: an index has too many digits, or an index counts back
past the first item of the array that the path in front of it leads to. Neither happens to a path
that was read from text. And what is written for a path leads to the leaf of the smallest document
made for it. -/
theorem resolve_finds_or_breaks (path front back : Path) (root value leaf : Json) :
    (resolve (front ++ back) root = .ok (.ok value) ↔
      ∃ between, resolve front root = .ok (.ok between) ∧
        resolve back between = .ok (.ok value)) ∧
    ((∃ found, resolve path root = .ok (.ok found)) ∨
      (∃ miss, resolve path root = .ok (.error miss) ∧ BreaksOff path root miss ∧
        ∀ n ≤ path.length,
          (∃ found, resolve (path.take n) root = .ok (.ok found)) ↔ n ≤ miss.segment) ∨
      ∃ cause, resolve path root = .error cause) ∧
    (resolve path root = .error .tooManyDigits ↔
      ∃ i, .index i ∈ path ∧ 10 ^ mostDigits ≤ i.natAbs) ∧
    (resolve path root = .error .beforeFirst ↔
      Printable path ∧ ∃ (front : Path) (i : Int) (back : Path) (items : List Json),
        path = front ++ .index i :: back ∧
        resolve front root = .ok (.ok (.array items)) ∧ i + items.length < 0) ∧
    (∀ expression, parse expression = .ok (.ok path) → ∃ answer, resolve path root = .ok answer) ∧
    (Printable path → Counting path →
      (resolve path root = .ok (.ok value) ↔ Reaches root path value)) ∧
    (Writable path → ∃ text, format path = .ok text ∧
      resolveText text (nested path leaf) = .ok (.ok leaf)) := by
  refine ⟨resolve_append_eq_value, ?_, resolve_eq_tooManyDigits, resolve_eq_beforeFirst, ?_, ?_, ?_⟩
  · rcases answer : resolve path root with cause | miss | found
    · exact .inr (.inr ⟨cause, rfl⟩)
    · have breaks := breaksOff_of_resolve answer
      exact .inr (.inl ⟨miss, rfl, breaks, fun n inside => breaks.take_resolves_iff inside⟩)
    · exact .inl ⟨found, rfl⟩
  · intro expression read
    obtain ⟨answer, answered, -⟩ := exists_resolve_of_parse read root
    exact ⟨answer, answered⟩
  · intro printable counting
    rw [resolve_eq_value, and_iff_right printable, get?_eq_some_iff_reaches counting]
  · intro writable
    exact ⟨written path, format_of_printable writable.printable, resolveText_eq_value.2
      ⟨path, parse_written_eq_ok.2 writable, get?_nested writable.counting leaf⟩⟩

theorem third_title_found :
    Printable [.name "rows", .index 2] ∧ Counting [.name "rows", .index 2] ∧
      Writable [.name "rows", .index 2, .name "title"] ∧
      resolve [.name "rows", .index 2] (.object [("rows", .array [.null, .null, .int 7])]) =
        .ok (.ok (.int 7)) ∧
      (∃ text, format [.name "rows", .index 2, .name "title"] = .ok text ∧
        resolveText text (.object [("rows", .array
          [.null, .null, .object [("title", .str "Coda")]])]) = .ok (.ok (.str "Coda"))) ∧
      parse "rows[2]" = .ok (.ok [.name "rows", .index 2]) ∧
      (∃ answer, resolve [.name "rows", .index 2] .null = .ok answer) ∧
      1 ≤ [Segment.name "rows", .index 2].length ∧
      ∃ miss, resolve [.name "rows", .index 2] (.object [("rows", .int 7)]) = .ok (.error miss) ∧
        ((∃ found, resolve [.name "rows"] (.object [("rows", .int 7)]) = .ok (.ok found)) ↔
          1 ≤ miss.segment) := by
  have front : Writable [.name "rows", .index 2] := parse_written_eq_ok.1 (by decide)
  have writable : Writable [.name "rows", .index 2, .name "title"] :=
    parse_written_eq_ok.1 (by decide)
  have inside : 1 ≤ [Segment.name "rows", .index 2].length := by decide
  have missed : resolve [.name "rows", .index 2] (.object [("rows", .int 7)]) =
      .ok (.error ⟨"rows[2]", 1, .notArray 2⟩) := by rfl
  have read : parse "rows[2]" = .ok (.ok [.name "rows", .index 2]) := by decide
  obtain ⟨-, -, -, -, -, reaches, -⟩ := resolve_finds_or_breaks [.name "rows", .index 2] [] []
    (.object [("rows", .array [.null, .null, .int 7])]) (.int 7) .null
  obtain ⟨-, -, -, -, -, -, leads⟩ := resolve_finds_or_breaks
    [.name "rows", .index 2, .name "title"] [] [] .null .null (.str "Coda")
  obtain ⟨-, -, -, -, answers, -⟩ :=
    resolve_finds_or_breaks [.name "rows", .index 2] [] [] .null .null .null
  obtain ⟨-, stops, -⟩ := resolve_finds_or_breaks [.name "rows", .index 2] [] []
    (.object [("rows", .int 7)]) .null .null
  obtain ⟨found, finds⟩ | ⟨miss, stops, -, longest⟩ | ⟨cause, raised⟩ := stops
  · cases missed.symm.trans finds
  · exact ⟨front.printable, front.counting, writable,
      (reaches front.printable front.counting).2 (.member rfl (.item rfl (.here _))),
      leads writable, read, answers _ read, inside, ⟨miss, stops, longest 1 inside⟩⟩
  · cases missed.symm.trans raised

/-- An index that counts back past the first item is not reported, and neither is one with too many
digits. -/
theorem index_raises :
    resolve [.index (-5)] (.array [.int 1]) = .error .beforeFirst ∧
      resolve [.name "a", .index (10 ^ mostDigits)] (.object [("a", .array [])]) =
        .error .tooManyDigits ∧
      ¬ ∀ path root, ∃ answer, resolve path root = .ok answer := by
  have past : resolve [.index (-5)] (.array [.int 1]) = .error .beforeFirst := by rfl
  have long : 10 ^ mostDigits ≤ ((10 : Int) ^ mostDigits).natAbs := by
    simp [Int.natAbs_pow]
  have inside : Segment.index (10 ^ mostDigits) ∈ [.name "a", .index (10 ^ mostDigits)] :=
    List.mem_cons_of_mem _ List.mem_cons_self
  refine ⟨past, resolve_eq_tooManyDigits.2 ⟨_, inside, long⟩, fun all => ?_⟩
  obtain ⟨answer, answered⟩ := all [.index (-5)] (.array [.int 1])
  cases past.symm.trans answered

end UiSchema.Path
