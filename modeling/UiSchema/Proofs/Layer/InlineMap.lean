import UiSchema.Proofs.Layer.Precedence

/-! One style over another. A named field is that of the later style if it gives one, and the inline
maps are joined key by key, with one exception: a map with nothing in it takes away the whole map
below it. -/

set_option autoImplicit false

namespace UiSchema

namespace Style

/-- The later map is put onto the earlier one if neither is empty. -/
def joinInlined (base later : Entries Json) : Entries Json :=
  if base.isEmpty || later.isEmpty then later else base.putAll later

theorem mergeInlined_eq : mergeInlined = mergeOption joinInlined := by
  funext base later
  cases base with
  | none => cases later <;> rfl
  | some base =>
    cases later with
    | none => rfl
    | some later => exact (apply_ite some _ _ _).symm

theorem joinInlined_eq_putAll {base later : Entries Json} (filled : later = [] → base = [])
    (distinct : later.Distinct) : joinInlined base later = base.putAll later := by
  rw [joinInlined]
  split
  · rename_i empty
    have nothing : base = [] := by
      rcases Bool.or_eq_true_iff.1 empty with empty | empty
      · exact List.isEmpty_iff.1 empty
      · exact filled (List.isEmpty_iff.1 empty)
    rw [nothing, Entries.nil_putAll distinct]
  · rfl

theorem joinInlined_nil (base : Entries Json) : joinInlined base [] = [] := by
  simp [joinInlined]

/-- What the inline map gives a property. -/
def inlined? (s : Style) (key : String) : Option Json := s.inlined.bind (·.get? key)

/-- A map with nothing in it over one that gives something. -/
def Emptied (base later : Style) : Prop :=
  later.inlined = some [] ∧ ∃ map ∈ base.inlined, map ≠ []

variable {base later : Style}

theorem inlined_merge (base later : Style) :
    (base.merge later).inlined = mergeOption joinInlined base.inlined later.inlined := by
  rw [← mergeInlined_eq]
  rfl

theorem inlined_merge_eq_none_iff :
    (base.merge later).inlined = none ↔ base.inlined = none ∧ later.inlined = none := by
  rw [inlined_merge]
  cases base.inlined <;> cases later.inlined <;> simp [mergeOption]

theorem inlined_merge_of_emptied (emptied : Emptied base later) :
    (base.merge later).inlined = some [] := by
  obtain ⟨empty, map, under, _⟩ := emptied
  rw [inlined_merge, empty, under]
  exact congrArg some (joinInlined_nil map)

/-- A key of either map is a key of the merged one, with the later value if there are two. -/
theorem inlined?_merge (distinct : ∀ map ∈ later.inlined, map.Distinct)
    (notEmptied : ¬ Emptied base later) (key : String) :
    (base.merge later).inlined? key = (later.inlined? key).or (base.inlined? key) := by
  rw [inlined?, inlined_merge]
  refine bind_mergeOption fun map under next given => ?_
  have filled : next = [] → map = [] := by
    rintro rfl
    exact not_not.1 fun filled => notEmptied ⟨given, map, under, filled⟩
  rw [joinInlined_eq_putAll filled (distinct next given)]
  exact map.get?_putAll (distinct next given) key

/-- What one style makes of another that it is laid over. -/
structure StyledOver (base later merged : Style) : Prop where
  field : ∀ {α : Type} (field : Field α),
    merged.get? field = (later.get? field).or (base.get? field)
  absent : merged.inlined = none ↔ base.inlined = none ∧ later.inlined = none
  keyByKey : (∀ key, merged.inlined? key = (later.inlined? key).or (base.inlined? key)) ↔
    ¬ Emptied base later
  emptied : Emptied base later → merged.inlined = some []

/-- Styles are merged field by field, and their inline maps key by key exactly unless an empty map
is laid over one that is not. -/
theorem merge_styledOver (base : Style) (distinct : ∀ map ∈ later.inlined, map.Distinct) :
    StyledOver base later (base.merge later) where
  field := base.get?_merge later
  absent := inlined_merge_eq_none_iff
  keyByKey := by
    refine ⟨fun joined emptied => ?_, inlined?_merge distinct⟩
    have nothing := inlined_merge_of_emptied emptied
    obtain ⟨empty, map, under, filled⟩ := emptied
    cases map with
    | nil => exact filled rfl
    | cons e rest =>
      obtain ⟨key, value⟩ := e
      have lost := joined key
      rw [inlined?, inlined?, inlined?, nothing, empty, under] at lost
      simp [Entries.get?_cons] at lost
  emptied := inlined_merge_of_emptied

/-- A style with two properties of its own. -/
def warning : Style where
  className := some "warning"
  inlined := some [("color", .str "red"), ("cursor", .str "help")]
  width := some (.whole 80)

/-- A style that takes back one property and adds another. -/
def muted : Style where
  inlined := some [("cursor", .null), ("opacity", .int 0)]
  width := some (.text "100%")

/-- A style whose map says nothing. -/
def plain : Style where
  inlined := some []

theorem muted_over_warning :
    (∀ map ∈ muted.inlined, map.Distinct) ∧ StyledOver warning muted (warning.merge muted) := by
  have distinct : ∀ map ∈ muted.inlined, map.Distinct := by
    rintro map ⟨⟩
    exact (by decide : ["cursor", "opacity"].Nodup)
  exact ⟨distinct, merge_styledOver warning distinct⟩

/-- Maps are not always joined key by key: one with nothing in it drops what was given before. -/
theorem empty_map_drops_color :
    ¬ ∀ base later : Style, (∀ map ∈ base.inlined, map.Distinct) →
      (∀ map ∈ later.inlined, map.Distinct) → ∀ key,
        (base.merge later).inlined? key = (later.inlined? key).or (base.inlined? key) := by
  intro joined
  have distinctWarning : ∀ map ∈ warning.inlined, map.Distinct := by
    rintro map ⟨⟩
    exact (by decide : ["color", "cursor"].Nodup)
  have distinctPlain : ∀ map ∈ plain.inlined, map.Distinct := by
    rintro map ⟨⟩
    exact List.nodup_nil
  cases joined warning plain distinctWarning distinctPlain "color"

end Style

end UiSchema
