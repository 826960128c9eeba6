import UiSchema.Proofs.Layer.DeepMerge
import UiSchema.Proofs.Layer.InlineMap
import UiSchema.Proofs.Layer.Validity
import UiSchema.Proofs.Schema.Keyed

/-! A layer that is applied again. Every field has a way of its own to be merged, but each of them
absorbs what it has taken in before, so a schema is not changed by a layer that is already in it,
least of all by itself. -/

set_option autoImplicit false

namespace UiSchema

/-! ### Merging field by field -/

/-- Joined to itself, or again to what it was joined to before, the later value changes nothing. -/
structure Absorbs {α : Type} (join : α → α → α) (later : α) : Prop where
  self : join later later = later
  again : ∀ base, join (join base later) later = join base later

theorem absorbs_or {α : Type} (later : Option α) :
    Absorbs (fun base later => later.or base) later where
  self := by cases later <;> rfl
  again := fun base => by cases later <;> rfl

theorem Absorbs.option {α : Type} {join : α → α → α} {later : Option α}
    (each : ∀ value ∈ later, Absorbs join value) : Absorbs (mergeOption join) later where
  self := by
    cases later with
    | none => rfl
    | some value => exact congrArg some (each value rfl).self
  again := by
    intro base
    cases later with
    | none => cases base <;> rfl
    | some value =>
      cases base with
      | none => exact congrArg some (each value rfl).self
      | some base => exact congrArg some ((each value rfl).again base)

theorem Entries.absorbs_putAll {later : Entries Json} (distinct : later.Distinct) :
    Absorbs putAll later where
  self := putAll_self distinct
  again := fun base => base.putAll_putAll distinct

theorem absorbs_deepMerge {later : Entries Json} (keyed : (Json.object later).Keyed) :
    Absorbs deepMerge later where
  self := deepMerge_self keyed
  again := fun base => deepMerge_deepMerge base keyed

theorem Metadata.absorbs_merge (later : Metadata) : Absorbs merge later where
  self := by simp only [merge, (absorbs_or _).self]
  again := fun base => by simp only [merge, (absorbs_or _).again]

namespace Style

theorem absorbs_joinInlined {later : Entries Json} (distinct : later.Distinct) :
    Absorbs joinInlined later := by
  have self : joinInlined later later = later := by
    rw [joinInlined_eq_putAll id distinct, Entries.putAll_self distinct]
  refine ⟨self, fun base => ?_⟩
  by_cases filled : later = [] → base = []
  · have filledAgain : later = [] → base.putAll later = [] := by
      rintro rfl
      exact filled rfl
    rw [joinInlined_eq_putAll filled distinct, joinInlined_eq_putAll filledAgain distinct,
      Entries.putAll_putAll base distinct]
  · obtain ⟨rfl, _⟩ := Classical.not_imp.1 filled
    rw [joinInlined_nil, joinInlined_nil]

theorem absorbs_merge {later : Style} (distinct : ∀ map ∈ later.inlined, map.Distinct) :
    Absorbs merge later := by
  have inlined := Absorbs.option fun map given => absorbs_joinInlined (distinct map given)
  rw [← mergeInlined_eq] at inlined
  constructor
  · simp only [merge, (absorbs_or _).self, inlined.self]
  · intro base
    simp only [merge, (absorbs_or _).again, inlined.again]

end Style

theorem absorbs_unlessEmpty (later : String) :
    Absorbs (fun base later => if later.isEmpty then base else later) later where
  self := ite_self later
  again := fun base => by cases later.isEmpty <;> rfl

theorem Attributes.absorbs_merge {later : Attributes}
    (props : ∀ props ∈ later.props, props.Distinct)
    (style : ∀ style ∈ later.style, ∀ map ∈ style.inlined, map.Distinct) :
    Absorbs merge later := by
  have props := Absorbs.option fun map given => Entries.absorbs_putAll (props map given)
  have style := Absorbs.option fun value given => Style.absorbs_merge (style value given)
  constructor
  · simp only [merge, (absorbs_unlessEmpty _).self, (absorbs_or _).self, props.self, style.self]
  · intro base
    simp only [merge, (absorbs_unlessEmpty _).again, (absorbs_or _).again, props.again,
      style.again]

theorem Component.absorbs_merge {later : Component}
    (props : ∀ props ∈ later.own.props, props.Distinct)
    (style : ∀ style ∈ later.own.style, ∀ map ∈ style.inlined, map.Distinct) :
    Absorbs merge later := by
  have own := Attributes.absorbs_merge props style
  obtain ⟨_, _⟩ := later
  constructor
  · exact congrArg₂ Component.mk own.self (absorbs_or _).self
  · intro base
    exact congrArg₂ Component.mk (own.again base.own) ((absorbs_or _).again base.children)

/-! ### What the merged schema carries along -/

theorem forall_mem_mergeOption {α : Type} {P : α → Prop} {join : α → α → α} {later base : Option α}
    (inLater : ∀ a ∈ later, P a) (inBase : ∀ a ∈ base, P a)
    (joined : ∀ {a b}, P a → P b → P (join a b)) : ∀ a ∈ mergeOption join base later, P a := by
  cases base with
  | none => exact inLater
  | some a =>
    cases later with
    | none => exact inBase
    | some b =>
      rintro _ ⟨⟩
      exact joined (inBase a rfl) (inLater b rfl)

theorem Style.keyed_merge {base later : Style} (first : base.toJson.Keyed)
    (second : later.toJson.Keyed) : (base.merge later).toJson.Keyed := by
  rw [keyed_toJson] at first second ⊢
  rw [inlined_merge]
  refine forall_mem_mergeOption second first fun first second => ?_
  rw [joinInlined]
  split
  · exact second
  · exact first.putAll second

theorem Attributes.Keyed.merge {base later : Attributes} (first : base.Keyed)
    (second : later.Keyed) : (base.merge later).Keyed where
  props := forall_mem_mergeOption second.props first.props fun first second =>
    first.putAll second
  events := forall_mem_or second.events first.events
  style := forall_mem_mergeOption second.style first.style Style.keyed_merge

theorem Component.keyed_merge {base later : Component} (first : base.toJson.Keyed)
    (second : later.toJson.Keyed) : (base.merge later).toJson.Keyed := by
  obtain ⟨_, _⟩ := base
  obtain ⟨_, _⟩ := later
  obtain ⟨first, below⟩ := keyed_toJson.1 first
  obtain ⟨second, beside⟩ := keyed_toJson.1 second
  exact keyed_toJson.2 ⟨first.merge second, forall_mem_or beside below⟩

namespace Schema

theorem keyed_merge {base later : Schema} (first : base.toJson.Keyed)
    (second : later.toJson.Keyed) : (base.merge later).toJson.Keyed := by
  obtain ⟨rootFirst, dataFirst⟩ := keyed_toJson.1 first
  obtain ⟨rootSecond, dataSecond⟩ := keyed_toJson.1 second
  refine keyed_toJson.2 ⟨Component.keyed_merge rootFirst rootSecond, ?_⟩
  exact forall_mem_mergeOption dataSecond dataFirst fun first second => first.deepMerge second

theorem absorbs_merge {later : Schema} (keyed : later.toJson.Keyed) : Absorbs merge later := by
  obtain ⟨version, ⟨own, children⟩, data, metadata⟩ := later
  obtain ⟨keyedRoot, keyedData⟩ := keyed_toJson.1 keyed
  obtain ⟨keyedOwn, _⟩ := Component.keyed_toJson.1 keyedRoot
  have root : Absorbs Component.merge (.mk own children) :=
    Component.absorbs_merge (fun props given => (keyedOwn.props props given).1)
      fun style given map inStyle =>
        (Style.keyed_toJson.1 (keyedOwn.style style given) map inStyle).1
  have data := Absorbs.option fun data given => absorbs_deepMerge (keyedData data given)
  have metadata := Absorbs.option fun m (_ : m ∈ metadata) => m.absorbs_merge
  constructor
  · simp only [merge, (absorbs_or _).self, root.self, data.self, metadata.self]
  · intro base
    simp only [merge, (absorbs_or _).again, root.again, data.again, metadata.again]

theorem same_self {s : Schema} (keyed : s.toJson.Keyed) : s.same s = true := Json.same_self keyed

/-- A layer that is applied a second time changes nothing, and neither does a schema that is merged
with itself. -/
theorem merge_reapplied {base later : Schema} (keyedBase : base.toJson.Keyed)
    (keyedLater : later.toJson.Keyed) :
    ((base.merge later).merge later = base.merge later ∧
        ((base.merge later).merge later).same (base.merge later) = true) ∧
      base.merge base = base ∧ (base.merge base).same base = true := by
  have again := (absorbs_merge keyedLater).again base
  have self := (absorbs_merge keyedBase).self
  rw [again, self]
  exact ⟨⟨rfl, same_self (keyed_merge keyedBase keyedLater)⟩, rfl, same_self keyedBase⟩

/-- An article with its stock as a number. -/
def article : Schema where
  version := some "1.0"
  root := .mk
    { id := "article", type := "Card", text := some "A lamp"
      props := some [("size", .str "m"), ("sold", .bool false)]
      style := some { color := some "black", inlined := some [("cursor", .str "pointer")] }
      events := some [⟨"click", "open", .object [("page", .int 1)]⟩] }
    (some [.mk { id := "name", type := "Text", binding := some "$.name" } none])
  data := some [("name", .str "Lamp"), ("stock", .int 3), ("tags", .object [("new", .null)])]
  metadata := some { title := some "Article" }

/-- A layer that puts an object in the place of the number. -/
def restocked : Schema where
  root := .mk
    { id := "restocked", type := "Card"
      props := some [("sold", .bool true), ("size", .str "l")]
      style := some { width := some (.whole 80), inlined := some [("opacity", .int 1)] }
      loop := some { source := "$.tags" } }
    none
  data := some [("stock", .object [("left", .int 2)]), ("tags", .object [("sale", .int 1)])]
  metadata := some { description := some "Back again" }

theorem keyed_article : article.toJson.Keyed := by
  simp [article, keyed_toJson, Component.keyed_toJson, Attributes.keyed_iff, Style.keyed_toJson,
    EventBinding.toJson, Json.isNull, Json.Keyed, Json.MembersKeyed, Entries.Distinct, Entries.keys]

theorem keyed_restocked : restocked.toJson.Keyed := by
  simp [restocked, keyed_toJson, Component.keyed_toJson, Attributes.keyed_iff, Style.keyed_toJson,
    Json.Keyed, Json.MembersKeyed, Entries.Distinct, Entries.keys]

theorem restocked_again :
    article.toJson.Keyed ∧ restocked.toJson.Keyed ∧
      ((article.merge restocked).merge restocked = article.merge restocked ∧
        ((article.merge restocked).merge restocked).same (article.merge restocked) = true) ∧
      article.merge article = article ∧ (article.merge article).same article = true :=
  ⟨keyed_article, keyed_restocked, merge_reapplied keyed_article keyed_restocked⟩

example : (article.merge restocked).data =
    some [("name", .str "Lamp"), ("stock", .object [("left", .int 2)]),
      ("tags", .object [("new", .null), ("sale", .int 1)])] := rfl

end Schema

end UiSchema
