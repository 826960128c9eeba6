import UiSchema.Proofs.Binding.Single
import UiSchema.Proofs.Render.Instances
import UiSchema.Proofs.Render.Props

/-! Loop variables in the body of their loop. An expression reads a variable by beginning with its
name, so the name has to be one that paths can spell; and a name that both variables share stands
for the index. A variable that nothing can read makes no difference to what is rendered. -/

set_option autoImplicit false

namespace UiSchema

namespace Path

/-- Names that paths can be made of. -/
def Spellable (name : String) : Prop := WritableSegment (.name name)

theorem spellable_iff (name : String) :
    (!name.toList.isEmpty && name.toList.all isNameChar) = true ↔ Spellable name := by
  simp [Spellable, WritableSegment]

instance (name : String) : Decidable (Spellable name) :=
  decidable_of_iff _ (spellable_iff name)

theorem parse_of_spellable {name : String} (spellable : Spellable name) :
    parse name = .ok (.ok [.name name]) := by
  have writable : Writable [.name name] :=
    ⟨⟨name, [], rfl⟩, List.forall_mem_singleton.2 spellable⟩
  have written : Path.written [.name name] = name := by
    simp [Path.written, Segment.chars, dropDot]
  have read := parse_written_eq_ok.2 writable
  rwa [written] at read

/-- Every path begins with such a name. -/
theorem spellable_of_parse {expression : String} {path : Path}
    (read : parse expression = .ok (.ok path)) :
    ∃ name rest, path = .name name :: rest ∧ Spellable name := by
  obtain ⟨s, short, _, rfl⟩ := parse_eq_ok_iff.1 read
  obtain ⟨⟨name, rest, same⟩, writable⟩ := short.writable
  exact ⟨name, rest, same, writable _ (same ▸ List.mem_cons_self)⟩

end Path

/-! ### Scopes that read alike -/

namespace Binding

variable {first second : Json}

/-- Every expression finds the same in both documents. -/
def FindAlike (first second : Json) : Prop :=
  ∀ expression, Path.find? expression first = Path.find? expression second

theorem FindAlike.value? (alike : FindAlike first second) (expression : String) :
    value? expression first = value? expression second := by
  rw [value?_eq, value?_eq, alike]

theorem FindAlike.interpolatePieces (alike : FindAlike first second) (ps : List Piece) :
    interpolatePieces first ps = interpolatePieces second ps := by
  induction ps with
  | nil => rfl
  | cons piece rest ih =>
    have here : piece.interpolate first = piece.interpolate second := by
      cases piece with
      | plain c => rfl
      | binding body => rw [Piece.interpolate, Piece.interpolate, alike.value?]
    rw [Binding.interpolatePieces, Binding.interpolatePieces, here, ih]

theorem FindAlike.interpolate (alike : FindAlike first second) (text : String) :
    interpolate text first = interpolate text second := by
  rw [Binding.interpolate, Binding.interpolate, alike.interpolatePieces]

mutual

theorem FindAlike.resolveIn (alike : FindAlike first second) : ∀ value : Json,
    resolveIn first value = resolveIn second value
  | .str text => by rw [Binding.resolveIn, Binding.resolveIn, alike.interpolate]
  | .object members => by rw [Binding.resolveIn, Binding.resolveIn, alike.resolveMembers members]
  | .null | .bool _ | .int _ | .float _ | .array _ => rfl

theorem FindAlike.resolveMembers (alike : FindAlike first second) :
    ∀ members : List (String × Json), resolveMembers first members = resolveMembers second members
  | [] => rfl
  | (key, value) :: rest => by
    rw [Binding.resolveMembers, Binding.resolveMembers, alike.resolveIn value,
      alike.resolveMembers rest]

end

end Binding

namespace Scope

/-- Names that paths can spell stand for the same. -/
structure ReadAlike (s t : Scope) : Prop where
  first : s.overlay.Distinct
  second : t.overlay.Distinct
  names : ∀ name, Path.Spellable name → s.look? name = t.look? name

theorem ReadAlike.findAlike {s t : Scope} (alike : ReadAlike s t) :
    Binding.FindAlike s.root t.root := by
  intro expression
  rw [Path.find?, Path.find?]
  cases parsed : Path.parse expression with
  | error raised => rfl
  | ok read =>
    cases read with
    | error cause => rfl
    | ok path =>
      -- of the scope a path asks for its first name only
      obtain ⟨name, rest, rfl, spellable⟩ := Path.spellable_of_parse parsed
      show Path.get? _ _ = Path.get? _ _
      rw [Path.get?_root alike.first, Path.get?_root alike.second, alike.names name spellable]

theorem readAlike_lasting : Lasting ReadAlike := by
  intro s t alike itemName indexName item index
  refine ⟨distinct_enter alike.first .., distinct_enter alike.second .., ?_⟩
  intro name spellable
  rw [look?_enter, look?_enter, alike.names name spellable]

/-- What an expression resolves to in both is the same. -/
theorem ReadAlike.value_unique {s t : Scope} (alike : ReadAlike s t) {expression : String}
    {first second : Json} (inFirst : Binding.resolve expression s.root = .ok (.ok first))
    (inSecond : Binding.resolve expression t.root = .ok (.ok second)) : first = second := by
  have found := Path.find?_eq_some.2 inFirst
  rw [alike.findAlike, Path.find?_eq_some.2 inSecond] at found
  exact (Option.some.inj found).symm

variable {s : Scope} {itemName indexName : String}

/-- The item is not read where its name cannot be spelled or belongs to the index. -/
theorem readAlike_enter_item (distinct : s.overlay.Distinct)
    (unread : ¬ (Path.Spellable itemName ∧ itemName ≠ indexName)) (item other : Json)
    (index : Nat) :
    ReadAlike (s.enter itemName indexName item index) (s.enter itemName indexName other index) := by
  refine ⟨distinct_enter distinct .., distinct_enter distinct .., ?_⟩
  intro name spellable
  rw [look?_enter, look?_enter]
  by_cases ofIndex : indexName = name
  · rw [if_pos ofIndex, if_pos ofIndex]
  · have notItem : itemName ≠ name := by
      rintro rfl
      exact unread ⟨spellable, Ne.symm ofIndex⟩
    rw [if_neg ofIndex, if_neg ofIndex, if_neg notItem, if_neg notItem]

theorem readAlike_enter_index (distinct : s.overlay.Distinct)
    (unread : ¬ Path.Spellable indexName) (item : Json) (index other : Nat) :
    ReadAlike (s.enter itemName indexName item index) (s.enter itemName indexName item other) := by
  refine ⟨distinct_enter distinct .., distinct_enter distinct .., ?_⟩
  intro name spellable
  have notIndex : indexName ≠ name := by
    rintro rfl
    exact unread spellable
  rw [look?_enter, look?_enter, if_neg notIndex, if_neg notIndex]

/-- A name in braces resolves to what it stands for. -/
theorem resolve_name {name : String} {value : Json} (distinct : s.overlay.Distinct)
    (spellable : Path.Spellable name) (stands : s.look? name = some value) :
    Binding.resolve (Binding.braced name) s.root = .ok (.ok value) := by
  have noClose : '\x7d' ∉ name.toList := fun member =>
    absurd (spellable.2 _ member) (by decide)
  have single : Binding.IsSingle (Binding.braced name) "" name "" :=
    ⟨by simp, ⟨spellable.1, noClose⟩, rfl, rfl⟩
  rw [Binding.resolve, single.unwrap_eq, Path.resolveText_eq_value]
  refine ⟨[.name name], Path.parse_trim_eq_ok.2 (Path.parse_of_spellable spellable), ?_⟩
  -- the name is a path of its own, so nothing is left to follow behind it
  rw [Path.get?_root distinct, stands]
  rfl

end Scope

namespace Render

/-- Of the scope only the names count that paths can spell. -/
theorem component_readAlike (host : Host) (c : Component) :
    Blind Scope.ReadAlike (component host c) :=
  component_blind Scope.readAlike_lasting host c fun d _ =>
    { condition := fun e _ _ _ _ alike => alike.findAlike.value? (Binding.unwrap e)
      binding := fun e _ _ _ _ alike => alike.findAlike.value? (Binding.unwrap e)
      source := fun loop _ _ _ alike => alike.findAlike.value? (Binding.unwrap loop.source)
      text := fun t _ _ _ _ alike => alike.findAlike.interpolate t
      props := fun _ _ alike => alike.findAlike.resolveMembers (d.own.props.getD []) }

end Render

/-! ### What a round can be read by -/

namespace Loop

/-- There is an expression for the item: paths can spell its name, and the index has another one. -/
def ItemReadable (l : Loop) : Prop :=
  Path.Spellable l.itemVariable ∧ l.itemVariable ≠ l.indexVariable

def IndexReadable (l : Loop) : Prop := Path.Spellable l.indexVariable

instance (l : Loop) : Decidable l.ItemReadable :=
  inferInstanceAs (Decidable (Path.Spellable _ ∧ _))

instance (l : Loop) : Decidable l.IndexReadable := inferInstanceAs (Decidable (Path.Spellable _))

/-- A loop that names nothing has two names that can be read. -/
theorem readable_of_unnamed {l : Loop} (item : l.itemName = none) (index : l.indexName = none) :
    l.ItemReadable ∧ l.IndexReadable := by
  rw [ItemReadable, IndexReadable, itemVariable, indexVariable, item, index]
  exact ⟨⟨by decide, by decide⟩, by decide⟩

end Loop

namespace Place

variable {host : Host} {top p : Place} {loop : Loop}

/-- On the way from the top every name is given to one variable only. -/
theorem Visited.overlay_distinct (visited : Visited host top p)
    (distinct : top.scope.overlay.Distinct) : p.scope.overlay.Distinct := by
  induction visited with
  | top => exact distinct
  | @part p q _ member ih =>
    cases given : p.own.loop with
    | some loop =>
      obtain ⟨entry, _, rfl⟩ := List.mem_map.1 (parts_loop given ▸ member)
      exact Scope.distinct_enter ih ..
    | none =>
      cases known : host.registry.has p.own.type with
      | false => simp [parts_unknown given known] at member
      | true =>
        obtain ⟨child, _, rfl⟩ := List.mem_map.1 (parts_single given known ▸ member)
        exact ih

/-- What can be read of the rounds of a loop, and what makes no difference to any component in
them. -/
structure ReadsRounds (host : Host) (p : Place) (loop : Loop) : Prop where
  rounds : ∀ q, q ∈ p.parts host ↔
    ∃ i item, (p.items loop)[i]? = some item ∧ p.round loop (item, i) = q
  item_iff : ∀ i, loop.ItemReadable ↔ ∀ item,
    Binding.resolve (Binding.braced loop.itemVariable) (p.round loop (item, i)).scope.root =
      .ok (.ok item)
  index_iff : ∀ item, loop.IndexReadable ↔ ∀ i : Nat,
    Binding.resolve (Binding.braced loop.indexVariable) (p.round loop (item, i)).scope.root =
      .ok (.ok (.int i))
  itemUnread : ¬ loop.ItemReadable → ∀ i item other c,
    Render.component host c (p.round loop (item, i)).scope =
      Render.component host c (p.round loop (other, i)).scope
  indexUnread : ¬ loop.IndexReadable → ∀ item i other c,
    Render.component host c (p.round loop (item, i)).scope =
      Render.component host c (p.round loop (item, other)).scope

theorem readsRounds_of_distinct (given : p.own.loop = some loop)
    (distinct : p.scope.overlay.Distinct) : ReadsRounds host p loop where
  rounds q := mem_parts_loop given
  item_iff i := by
    constructor
    · intro readable item
      refine Scope.resolve_name (Scope.distinct_enter distinct ..) readable.1 ?_
      exact (Scope.look?_enter ..).trans ((if_neg (Ne.symm readable.2)).trans (if_pos rfl))
    · intro resolves
      by_contra unread
      -- an expression that takes two items for one cannot resolve to both
      have alike : Scope.ReadAlike (p.round loop (.bool true, i)).scope
          (p.round loop (.bool false, i)).scope :=
        Scope.readAlike_enter_item distinct unread _ _ i
      exact absurd (alike.value_unique (resolves _) (resolves _)) (by simp)
  index_iff item := by
    constructor
    · intro readable i
      refine Scope.resolve_name (Scope.distinct_enter distinct ..) readable ?_
      exact (Scope.look?_enter ..).trans (if_pos rfl)
    · intro resolves
      by_contra unread
      have alike : Scope.ReadAlike (p.round loop (item, 0)).scope
          (p.round loop (item, 1)).scope :=
        Scope.readAlike_enter_index distinct unread item 0 1
      exact absurd (alike.value_unique (resolves _) (resolves _)) (by simp)
  itemUnread unread i item other c :=
    Render.component_readAlike host c _ _ (Scope.readAlike_enter_item distinct unread item other i)
  indexUnread unread item i other c :=
    Render.component_readAlike host c _ _ (Scope.readAlike_enter_index distinct unread item i other)

end Place

namespace Render

open Place (Visited ReadsRounds)

/-- In every round of a loop the name of the item, in braces, resolves to the item exactly if paths
can spell it and the index has another name, and the name of the index resolves to the index exactly
if paths can spell it. A variable that does not resolve makes no difference to the round. Names that
are not given can be read. -/
theorem loop_variables_read {host : Host} {schema : Schema} {data : Option Json} {p : Place}
    {loop : Loop} (visited : Visited host (schema.top data) p) (given : p.own.loop = some loop) :
    ReadsRounds host p loop ∧
      (loop.itemName = none → loop.indexName = none → loop.ItemReadable ∧ loop.IndexReadable) :=
  ⟨Place.readsRounds_of_distinct given (visited.overlay_distinct List.nodup_nil),
    Loop.readable_of_unnamed⟩

end Render

/-! ### A name with a space in it -/

/-- A list of entries with their numbers. -/
def numberedDocument : Json :=
  .object [("version", .str "1.0"), ("root", .object
    [("id", .str "line"), ("type", .str "Text"),
      ("text", .str "\x7b\x7bentry\x7d\x7d \x7b\x7bmy index\x7d\x7d"),
      ("loop", .object [("source", .str "entries"), ("itemName", .str "entry"),
        ("indexName", .str "my index")])]),
    ("data", .object [("entries", .array [.str "a", .str "b"])])]

def numberedLoop : Loop :=
  { source := "entries", itemName := some "entry", indexName := some "my index" }

def numberedSchema : Schema where
  version := some "1.0"
  root := .mk { id := "line", type := "Text", loop := some numberedLoop
                text := some "\x7b\x7bentry\x7d\x7d \x7b\x7bmy index\x7d\x7d" } none
  data := some [("entries", .array [.str "a", .str "b"])]

theorem numbered_valid :
    Schema.validate {} numberedDocument = .ok (.ok numberedSchema) := rfl

def numberedLine (index : Nat) (text : String) : Node :=
  .element "Text" s!"line-{index}" [] [.text text]

theorem numbered_rendered :
    Place.Rendered listHost (numberedSchema.top none) (numberedSchema.top none)
      (.element "Fragment" "line" [] [numberedLine 0 "a \x7b\x7bmy index\x7d\x7d",
        numberedLine 1 "b \x7b\x7bmy index\x7d\x7d"]) :=
  .top rfl

/-- The entry is shown; of its number nothing is seen, whatever it is. -/
theorem numbered_entry_read :
    (Schema.validate {} numberedDocument = .ok (.ok numberedSchema) ∧
      (numberedSchema.top none).own.loop = some numberedLoop) ∧
    (∀ item i, Binding.resolve (Binding.braced "entry")
      ((numberedSchema.top none).round numberedLoop (item, i)).scope.root = .ok (.ok item)) ∧
    ∀ item i other c,
      Render.component listHost c
          ((numberedSchema.top none).round numberedLoop (item, i)).scope =
        Render.component listHost c
          ((numberedSchema.top none).round numberedLoop (item, other)).scope := by
  have visited : Place.Visited listHost (numberedSchema.top none) (numberedSchema.top none) := .top
  have reads := (Render.loop_variables_read visited rfl).1
  refine ⟨⟨numbered_valid, rfl⟩, fun item i => ?_, reads.indexUnread (by decide)⟩
  exact (reads.item_iff i).1 (by decide) item

/-- A schema can be valid and still name a variable that no expression leads to. -/
theorem numbered_index_unread :
    ¬ ∀ document schema, Schema.validate {} document = .ok (.ok schema) →
      ∀ host data p node loop, Place.Rendered host (schema.top data) p node →
        p.own.loop = some loop → ∀ (i : Nat) item, (p.items loop)[i]? = some item →
          Binding.resolve (Binding.braced loop.itemVariable) (p.round loop (item, i)).scope.root =
            .ok (.ok item) ∧
          Binding.resolve (Binding.braced loop.indexVariable) (p.round loop (item, i)).scope.root =
            .ok (.ok (.int i)) := by
  intro usable
  have resolves := (usable _ _ numbered_valid _ _ _ _ _ numbered_rendered rfl 0 (.str "a") rfl).2
  -- the space in the name ends what could be a path
  have refused : Path.parse (Binding.unwrap (Binding.braced "my index")) =
      .ok (.error ⟨"my index", 2, .missingSeparator⟩) := by decide
  obtain ⟨path, read, _⟩ := Path.resolveText_eq_ok.1 resolves
  cases refused.symm.trans read

end UiSchema
