import UiSchema.Layer.Merge
import UiSchema.Proofs.Json.Same

/-! Objects laid over objects. A later object keeps every key where it is and puts its own new keys
at the end. Whatever it gives at the end of a path of keys counts, merged if there is an object on
both sides, and what it does not mention stays as it was. So laying it over a second time changes
nothing. -/

set_option autoImplicit false

namespace UiSchema

open Json

/-! ### One level -/

/-- A value counts as it is, unless there are objects on both sides. -/
theorem mergeValue_alone {value : Json} {current : Option Json}
    (alone : value.members? = none ∨ current.bind members? = none) :
    mergeValue current value = value := by
  cases value with
  | object members =>
    have missing : current.bind members? = none := alone.resolve_left nofun
    rcases current with _ | current
    · rfl
    · cases current with
      | object known => cases missing
      | _ => rfl
  | _ => rfl

theorem deepMerge_cons (base : Entries Json) (e : String × Json) (rest : Entries Json) :
    deepMerge base (e :: rest) =
      deepMerge (base.put e.1 (mergeValue (base.get? e.1) e.2)) rest := by
  rw [deepMerge]

/-- On one level the members of the later object are put onto the earlier ones, each merged with
the one that it replaces. -/
theorem deepMerge_eq_putAll (base : Entries Json) {later : Entries Json} (distinct : later.Distinct) :
    deepMerge base later =
      base.putAll (later.map fun e => (e.1, mergeValue (base.get? e.1) e.2)) := by
  induction later generalizing base with
  | nil => rfl
  | cons e rest ih =>
    obtain ⟨absent, others⟩ := Entries.distinct_cons.1 distinct
    rw [deepMerge_cons, ih _ others, List.map_cons, Entries.putAll_cons]
    congr 1
    -- the other members still meet what stood there before
    apply List.map_congr_left
    intro next member
    have other : e.1 ≠ next.1 := fun same => absent (same ▸ List.mem_map_of_mem member)
    rw [Entries.get?_put, if_neg other]

theorem Entries.keys_map_keyed {α β : Type} (f : String → α → β) (es : Entries α) :
    keys (es.map fun e => (e.1, f e.1 e.2)) = es.keys := by
  simp [keys, Function.comp_def]

theorem Entries.get?_map_keyed {α β : Type} (f : String → α → β) (es : Entries α) (key : String) :
    get? (es.map fun e => (e.1, f e.1 e.2)) key = (es.get? key).map (f key) := by
  induction es with
  | nil => rfl
  | cons e rest ih =>
    rw [List.map_cons, get?_cons, get?_cons, ih]
    by_cases same : e.1 = key <;> simp [same]

variable {base later : Entries Json}

/-- Known keys keep their places, and the new ones follow in their order. -/
theorem keys_deepMerge (base : Entries Json) (distinct : later.Distinct) :
    (deepMerge base later).keys = base.keys ++ later.keys.filter (· ∉ base.keys) := by
  have mapped := Entries.keys_map_keyed (fun key => mergeValue (base.get? key)) later
  have distinctMapped : Entries.Distinct
      (later.map fun e => (e.1, mergeValue (base.get? e.1) e.2)) := by
    rw [Entries.Distinct, mapped]
    exact distinct
  rw [deepMerge_eq_putAll base distinct, Entries.keys_putAll base distinctMapped, mapped]

theorem get?_deepMerge (base : Entries Json) (distinct : later.Distinct) (key : String) :
    (deepMerge base later).get? key =
      ((later.get? key).map (mergeValue (base.get? key))).or (base.get? key) := by
  have distinctMapped : Entries.Distinct
      (later.map fun e => (e.1, mergeValue (base.get? e.1) e.2)) := by
    rw [Entries.Distinct, Entries.keys_map_keyed fun key => mergeValue (base.get? key)]
    exact distinct
  rw [deepMerge_eq_putAll base distinct, Entries.get?_putAll base distinctMapped,
    Entries.get?_map_keyed fun key => mergeValue (base.get? key)]

theorem nil_deepMerge (distinct : later.Distinct) : deepMerge [] later = later := by
  have alone (value : Json) : mergeValue none value = value := mergeValue_alone (.inr rfl)
  have unmerged : later.map (fun e => (e.1, mergeValue (Entries.get? [] e.1) e.2)) = later := by
    simp [alone]
  rw [deepMerge_eq_putAll [] distinct, unmerged, Entries.nil_putAll distinct]

/-- The members that a value brings into a merge: none, unless it is an object. -/
def Json.under (current : Option Json) : Entries Json := (current.bind members?).getD []

theorem mergeValue_object (distinct : later.Distinct) (current : Option Json) :
    mergeValue current (.object later) = .object (deepMerge (under current) later) := by
  have alone : Json.object later = .object (deepMerge [] later) := by rw [nil_deepMerge distinct]
  rcases current with _ | current
  · exact alone
  · cases current with
    | object members => rfl
    | _ => exact alone

/-! ### Once and again -/

theorem deepMerge_eq_self
    (known : ∀ e ∈ later, base.get? e.1 = some (mergeValue (base.get? e.1) e.2)) :
    deepMerge base later = base := by
  induction later with
  | nil => rfl
  | cons e rest ih =>
    obtain ⟨here, others⟩ := List.forall_mem_cons.1 known
    rw [deepMerge_cons, Entries.put_eq_self here, ih others]

/-- A value that was merged already need not be merged again. -/
theorem mergeValue_mergeValue {value : Json} (keyed : value.Keyed) (current : Option Json) :
    mergeValue (some (mergeValue current value)) value = mergeValue current value := by
  induction value using nested_induction generalizing current with
  | object members ih =>
    obtain ⟨distinct, each⟩ := keyed
    rw [mergeValue_object distinct, mergeValue_object distinct]
    congr 1
    apply deepMerge_eq_self
    intro member inside
    have memberKeyed := membersKeyed_iff.1 each member inside
    have found := get?_deepMerge (under current) distinct member.1
    rw [Entries.get?_of_mem distinct inside] at found
    rw [show under (some (.object (deepMerge (under current) members))) =
      deepMerge (under current) members from rfl, found]
    exact congrArg some (ih member inside memberKeyed _).symm
  | _ => rw [mergeValue_alone (.inl rfl), mergeValue_alone (.inl rfl)]

theorem deepMerge_deepMerge (base : Entries Json) (keyed : (Json.object later).Keyed) :
    deepMerge (deepMerge base later) later = deepMerge base later := by
  have again := mergeValue_mergeValue keyed (some (.object base))
  exact Json.object.inj again

theorem deepMerge_self (keyed : (Json.object base).Keyed) : deepMerge base base = base := by
  have again := deepMerge_deepMerge [] keyed
  rwa [nil_deepMerge keyed.1] at again

/-! ### Keys stay apart -/

theorem Json.Keyed.member {members : Entries Json} (keyed : (Json.object members).Keyed)
    {key : String} {value : Json} (found : members.get? key = some value) : value.Keyed :=
  membersKeyed_iff.1 keyed.2 _ (Entries.mem_of_get? found)

theorem Json.keyed_object {members : Entries Json} (distinct : members.Distinct)
    (each : ∀ key value, members.get? key = some value → value.Keyed) :
    (Json.object members).Keyed :=
  ⟨distinct, membersKeyed_iff.2 fun member inside =>
    each member.1 member.2 (Entries.get?_of_mem distinct inside)⟩

theorem Json.Keyed.putAll (first : (Json.object base).Keyed) (second : (Json.object later).Keyed) :
    (Json.object (base.putAll later)).Keyed := by
  refine keyed_object (Entries.Distinct.putAll first.1 later) fun key value found => ?_
  rw [Entries.get?_putAll base second.1, Option.or_eq_some_iff] at found
  rcases found with found | ⟨_, found⟩
  · exact second.member found
  · exact first.member found

theorem Json.keyed_under {current : Option Json} (first : ∀ value ∈ current, value.Keyed) :
    (Json.object (under current)).Keyed := by
  have empty : (Json.object []).Keyed := ⟨List.nodup_nil, trivial⟩
  rcases current with _ | current
  · exact empty
  · cases current with
    | object members => exact first _ rfl
    | _ => exact empty

theorem keyed_mergeValue {value : Json} (second : value.Keyed) {current : Option Json}
    (first : ∀ value ∈ current, value.Keyed) : (mergeValue current value).Keyed := by
  induction value using nested_induction generalizing current with
  | object members ih =>
    have known := keyed_under first
    rw [mergeValue_object second.1]
    refine keyed_object ?_ fun key value found => ?_
    · rw [deepMerge_eq_putAll _ second.1]
      exact known.1.putAll _
    · rw [get?_deepMerge _ second.1, Option.or_eq_some_iff] at found
      rcases found with found | ⟨_, found⟩
      · obtain ⟨next, member, rfl⟩ := Option.map_eq_some_iff.1 found
        exact ih _ (Entries.mem_of_get? member) (second.member member) fun _ stood =>
          known.member stood
      · exact known.member found
  | _ =>
    rw [mergeValue_alone (.inl rfl)]
    exact second

theorem Json.Keyed.deepMerge (first : (Json.object base).Keyed)
    (second : (Json.object later).Keyed) : (Json.object (deepMerge base later)).Keyed := by
  have known : ∀ value ∈ some (Json.object base), value.Keyed := by
    rintro value ⟨⟩
    exact first
  exact keyed_mergeValue second known

/-! ### Paths of keys -/

namespace Json

/-- What stands at the end of a path of keys. -/
def at? : Json → List String → Option Json
  | value, [] => some value
  | value, key :: rest => (value.members?.bind (·.get? key)).bind (at? · rest)

/-- On the way stands a value that is no object, so that the path leads nowhere. -/
def CutsOff (value : Json) (path : List String) : Prop :=
  ∃ front back found, path = front ++ back ∧ back ≠ [] ∧ value.at? front = some found ∧
    found.members? = none

theorem at?_cons_eq_some {value found : Json} {key : String} {rest : List String} :
    value.at? (key :: rest) = some found ↔ ∃ (members : Entries Json) (next : Json),
      value = .object members ∧ members.get? key = some next ∧ next.at? rest = some found := by
  cases value with
  | object members => simp [at?, members?, Option.bind_eq_some_iff]
  | _ => simp [at?, members?]

theorem Keyed.at? {value found : Json} {path : List String} (keyed : value.Keyed)
    (stands : value.at? path = some found) : found.Keyed := by
  induction path generalizing value with
  | nil =>
    cases stands
    exact keyed
  | cons key rest ih =>
    obtain ⟨members, next, rfl, member, stands⟩ := at?_cons_eq_some.1 stands
    exact ih (keyed.member member) stands

theorem bind_at?_cons (current : Option Json) (key : String) (rest : List String) :
    current.bind (·.at? (key :: rest)) = ((under current).get? key).bind (·.at? rest) := by
  rcases current with _ | current
  · rfl
  · cases current <;> rfl

theorem not_cutsOff_nil (value : Json) : ¬ value.CutsOff [] := by
  rintro ⟨front, back, _, split, rest, _⟩
  exact rest (List.append_eq_nil_iff.1 split.symm).2

theorem cutsOff_leaf {value : Json} (leaf : value.members? = none) (key : String)
    (rest : List String) : value.CutsOff (key :: rest) :=
  ⟨[], key :: rest, value, rfl, nofun, rfl, leaf⟩

theorem cutsOff_object_iff {members : Entries Json} {key : String} {rest : List String} :
    (Json.object members).CutsOff (key :: rest) ↔
      ∃ value, members.get? key = some value ∧ value.CutsOff rest := by
  constructor
  · rintro ⟨front, back, found, split, more, stands, leaf⟩
    cases front with
    | nil =>
      cases stands
      cases leaf
    | cons first front =>
      cases split
      obtain ⟨value, member, stands⟩ := Option.bind_eq_some_iff.1 stands
      exact ⟨value, member, front, back, found, rfl, more, stands, leaf⟩
  · rintro ⟨value, member, front, back, found, rfl, more, stands, leaf⟩
    exact ⟨key :: front, back, found, rfl, more,
      Option.bind_eq_some_iff.2 ⟨value, member, stands⟩, leaf⟩

end Json

section Paths

variable {value : Json} {path : List String}

/-- One key of the path: the merged member, if there is a later one, and else the earlier one. -/
theorem at?_mergeValue_cons (distinct : later.Distinct) (current : Option Json) (key : String)
    (rest : List String) :
    (mergeValue current (.object later)).at? (key :: rest) =
      (((later.get? key).map (mergeValue ((under current).get? key))).or
        ((under current).get? key)).bind (·.at? rest) := by
  rw [mergeValue_object distinct, ← get?_deepMerge (under current) distinct]
  rfl

/-- What the later value gives at the end of a path is merged with what stood there. -/
theorem at?_mergeValue_of_given {given : Json} (keyed : value.Keyed)
    (found : value.at? path = some given) (current : Option Json) :
    (mergeValue current value).at? path =
      some (mergeValue (current.bind (·.at? path)) given) := by
  induction path generalizing value current with
  | nil =>
    cases found
    cases current <;> rfl
  | cons key rest ih =>
    obtain ⟨members, next, rfl, member, found⟩ := at?_cons_eq_some.1 found
    rw [at?_mergeValue_cons keyed.1, bind_at?_cons, member]
    exact ih (keyed.member member) found _

/-- What the later value does not mention stays as it was. -/
theorem at?_mergeValue_of_absent (keyed : value.Keyed) (absent : value.at? path = none)
    (notCut : ¬ value.CutsOff path) (current : Option Json) :
    (mergeValue current value).at? path = current.bind (·.at? path) := by
  induction path generalizing value current with
  | nil => cases absent
  | cons key rest ih =>
    cases value with
    | object members =>
      rw [at?_mergeValue_cons keyed.1, bind_at?_cons]
      cases member : Entries.get? members key with
      | none => rfl
      | some next =>
        have below : next.at? rest = none := by
          rwa [at?, members?, Option.bind_some, member, Option.bind_some] at absent
        exact ih (keyed.member member) below
          (fun cut => notCut (cutsOff_object_iff.2 ⟨next, member, cut⟩)) _
    | _ => exact absurd (cutsOff_leaf rfl key rest) notCut

/-- Where the later value is no object, nothing is left to find below it. -/
theorem at?_mergeValue_of_cutsOff (keyed : value.Keyed) (cut : value.CutsOff path)
    (current : Option Json) : (mergeValue current value).at? path = none := by
  induction path generalizing value current with
  | nil => exact absurd cut (not_cutsOff_nil value)
  | cons key rest ih =>
    cases value with
    | object members =>
      obtain ⟨next, member, cut⟩ := cutsOff_object_iff.1 cut
      rw [at?_mergeValue_cons keyed.1, member]
      exact ih (keyed.member member) cut _
    | _ => rfl

end Paths

/-- What an object makes of the one that it is laid over. -/
structure LaidOver (base later merged : Entries Json) : Prop where
  /-- A value of the later object counts, unless there are objects on both sides. -/
  replaced : ∀ {path : List String} {value : Json}, (Json.object later).at? path = some value →
    value.members? = none ∨ ((Json.object base).at? path).bind members? = none →
      (Json.object merged).at? path = some value
  /-- Where there are, the keys of the earlier one keep their places and the new ones follow. -/
  joined : ∀ {path : List String} {known given : Entries Json},
    (Json.object base).at? path = some (.object known) →
    (Json.object later).at? path = some (.object given) →
      ∃ both : Entries Json, (Json.object merged).at? path = some (.object both) ∧
        both.keys = known.keys ++ given.keys.filter (· ∉ known.keys)
  /-- What is neither set nor cut off stays as it was. -/
  kept : ∀ {path : List String}, (Json.object later).at? path = none →
    ¬ (Json.object later).CutsOff path →
      (Json.object merged).at? path = (Json.object base).at? path
  gone : ∀ {path : List String}, (Json.object later).CutsOff path →
    (Json.object merged).at? path = none

theorem laidOver_deepMerge (base : Entries Json) (keyed : (Json.object later).Keyed) :
    LaidOver base later (deepMerge base later) where
  replaced := by
    intro path value found alone
    have merged := at?_mergeValue_of_given keyed found (some (.object base))
    rw [Option.bind_some, mergeValue_alone alone] at merged
    exact merged
  joined := by
    intro path known given stood found
    have merged := at?_mergeValue_of_given keyed found (some (.object base))
    rw [Option.bind_some, stood] at merged
    exact ⟨deepMerge known given, merged, keys_deepMerge known (keyed.at? found).1⟩
  kept := fun absent notCut => at?_mergeValue_of_absent keyed absent notCut (some (.object base))
  gone := fun cut => at?_mergeValue_of_cutsOff keyed cut (some (.object base))

/-- The laws of laying one object over another. -/
theorem deepMerge_laws (base : Entries Json) (keyed : (Json.object later).Keyed) :
    (deepMerge base later).keys = base.keys ++ later.keys.filter (· ∉ base.keys) ∧
      deepMerge base [] = base ∧ deepMerge [] later = later ∧
      deepMerge (deepMerge base later) later = deepMerge base later ∧
      LaidOver base later (deepMerge base later) :=
  ⟨keys_deepMerge base keyed.1, rfl, nil_deepMerge keyed.1, deepMerge_deepMerge base keyed,
    laidOver_deepMerge base keyed⟩

/-- The data of a known visitor. -/
def visitor : Entries Json :=
  [("user", .object [("name", .str "Ada"), ("roles", strings ["editor"])]),
    ("flags", .object [("beta", .bool true)]), ("visits", .int 3)]

/-- Data that takes the name back, makes a list and an object into something else and adds an
object. -/
def anonymous : Entries Json :=
  [("theme", .object []), ("flags", .null),
    ("user", .object [("city", .object [("zip", .int 5)]), ("roles", .object []), ("name", .null)])]

theorem anonymous_over_visitor :
    (Json.object anonymous).Keyed ∧
      (deepMerge visitor anonymous).keys =
        visitor.keys ++ anonymous.keys.filter (· ∉ visitor.keys) ∧
      deepMerge visitor [] = visitor ∧ deepMerge [] anonymous = anonymous ∧
      deepMerge (deepMerge visitor anonymous) anonymous = deepMerge visitor anonymous ∧
      LaidOver visitor anonymous (deepMerge visitor anonymous) := by
  have keyed : (Json.object anonymous).Keyed := by
    simp [anonymous, Keyed, MembersKeyed, Entries.Distinct, Entries.keys]
  exact ⟨keyed, deepMerge_laws visitor keyed⟩

example : deepMerge visitor anonymous =
    [("user", .object [("name", .null), ("roles", .object []),
        ("city", .object [("zip", .int 5)])]),
      ("flags", .null), ("visits", .int 3), ("theme", .object [])] := rfl

end UiSchema
