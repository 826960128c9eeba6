import UiSchema.Proofs.Layer.Precedence
import UiSchema.Proofs.Schema.Wire

/-! Layers that are valid one by one, and when they are valid together. Merging keeps every rule
about fields; only the ids need not stay apart, because the id of the root and the children may come
from different layers. -/

set_option autoImplicit false

namespace UiSchema

/-- A condition on an optional field holds after merging if it holds in both layers. -/
theorem forall_mem_or {α : Type} {P : α → Prop} {later base : Option α}
    (inLater : ∀ a ∈ later, P a) (inBase : ∀ a ∈ base, P a) : ∀ a ∈ later.or base, P a := by
  cases later with
  | none => exact inBase
  | some value => exact inLater

theorem Attributes.Sound.merge {base later : Attributes} (first : base.Sound)
    (second : later.Sound) : (base.merge later).Sound where
  id := by
    show Text.Visible (if later.id.isEmpty then base.id else later.id)
    split
    · exact first.id
    · exact second.id
  type := by
    show Text.Visible (if later.type.isEmpty then base.type else later.type)
    split
    · exact first.type
    · exact second.type
  binding := forall_mem_or second.binding first.binding
  condition := forall_mem_or second.condition first.condition
  events := forall_mem_or second.events first.events
  loop := forall_mem_or second.loop first.loop

namespace Schema

/-- The components below the root. -/
def belowRoot (s : Schema) : List Component := Component.subtreesIn s.root.children

/-- Sound, except that the root may have the id of a component below it. One layer may bring that
about and the next end it, so only this much is kept from merge to merge. -/
structure Layered (s : Schema) : Prop where
  version : Text.Visible s.versionText
  own : s.root.own.Sound
  below : ∀ c ∈ s.belowRoot, c.own.Sound
  ids : (s.belowRoot.map Component.id).Nodup

theorem subtree_root (s : Schema) : s.root.subtree = s.root :: s.belowRoot := by
  rw [belowRoot]
  cases s.root with
  | mk own children => rfl

theorem sound_iff (s : Schema) :
    s.Sound ↔ s.Layered ∧ s.root.id ∉ s.belowRoot.map Component.id := by
  constructor
  · rintro ⟨version, each, ids⟩
    rw [subtree_root] at each ids
    obtain ⟨own, below⟩ := List.forall_mem_cons.1 each
    obtain ⟨apart, ids⟩ := List.nodup_cons.1 ids
    exact ⟨⟨version, own, below, ids⟩, apart⟩
  · rintro ⟨⟨version, own, below, ids⟩, apart⟩
    refine ⟨version, ?_, ?_⟩
    · rw [subtree_root]
      exact List.forall_mem_cons.2 ⟨own, below⟩
    · rw [subtree_root]
      exact List.nodup_cons.2 ⟨apart, ids⟩

/-- One layer over another: whatever the children are, they come from one layer as a whole. -/
theorem Layered.merge {base later : Schema} (first : base.Layered) (second : later.Layered) :
    (base.merge later).Layered := by
  have whole : (base.merge later).belowRoot = later.belowRoot ∨
      (base.merge later).belowRoot = base.belowRoot := by
    rw [belowRoot, belowRoot, belowRoot]
    show Component.subtreesIn (later.root.children.or base.root.children) = _ ∨
      Component.subtreesIn (later.root.children.or base.root.children) = _
    cases later.root.children with
    | none => exact .inr rfl
    | some children => exact .inl rfl
  have version : Text.Visible (base.merge later).versionText := by
    show Text.Visible ((later.version.or base.version).getD defaultVersion)
    cases given : later.version with
    | none => exact first.version
    | some text =>
      have visible := second.version
      rw [versionText, given] at visible
      exact visible
  have own : (base.merge later).root.own.Sound := first.own.merge second.own
  rcases whole with same | same
  · exact ⟨version, own, same ▸ second.below, same ▸ second.ids⟩
  · exact ⟨version, own, same ▸ first.below, same ▸ first.ids⟩

theorem Layered.foldl {base : Schema} {layers : List Schema} (first : base.Layered)
    (others : ∀ layer ∈ layers, layer.Layered) : (layers.foldl Schema.merge base).Layered := by
  induction layers generalizing base with
  | nil => exact first
  | cons layer rest ih =>
    obtain ⟨here, below⟩ := List.forall_mem_cons.1 others
    exact ih (first.merge here) below

/-- The layer that decides on the id of the root: the last one. -/
def naming (base : Schema) (layers : List (Option Schema)) : Schema :=
  layers.reduceOption.getLastD base

/-- The children of the last layer that has some, or says that there are none. -/
def lastChildren (base : Schema) (layers : List (Option Schema)) : Option (List Component) :=
  (base :: layers.reduceOption).reverse.findSome? fun layer => layer.root.children

theorem root_id_foldl {base : Schema} {layers : List Schema}
    (visible : ∀ layer ∈ layers, Text.Visible layer.root.id) :
    (layers.foldl merge base).root.id = (layers.getLastD base).root.id :=
  foldl_eq_getLastD (·.root.id)
    (fun _ later member => root_id_merge (visible later member).ne_empty) base

theorem root_children_foldl (base : Schema) (layers : List Schema) :
    (layers.foldl merge base).root.children =
      (base :: layers).reverse.findSome? fun layer => layer.root.children :=
  foldl_eq_lastGiven (·.root.children) (fun _ _ _ => rfl) base

/-- Valid layers are valid together exactly when no component below the children given last has the
id that the last layer gives the root. -/
theorem check_mergeAll_eq_nil_iff {base : Schema} {layers : List (Option Schema)}
    (valid : ∀ layer ∈ base :: layers.reduceOption, check layer.toJson = .ok []) :
    check (mergeAll base layers).toJson = .ok [] ↔
      (naming base layers).root.id ∉
        (Component.subtreesIn (lastChildren base layers)).map Component.id := by
  have layered : ∀ layer ∈ base :: layers.reduceOption, layer.Layered := by
    intro layer member
    exact ((sound_iff layer).1 ((check_toJson_iff layer).1 (valid layer member))).1
  obtain ⟨first, others⟩ := List.forall_mem_cons.1 layered
  have visible : ∀ layer ∈ layers.reduceOption, Text.Visible layer.root.id :=
    fun layer member => (others layer member).own.id
  rw [check_toJson_iff, sound_iff, belowRoot, mergeAll_eq, root_id_foldl visible,
    root_children_foldl]
  exact and_iff_right (first.foldl others)

/-- A panel with a title in it. -/
def panelLayer : Schema where
  version := some "1.0"
  root := .mk { id := "panel", type := "Panel" }
    (some [.mk { id := "title", type := "Text" } none])

/-- A layer that only names the root. -/
def rootLayer (id : String) : Schema where
  version := some "1.0"
  root := .mk { id, type := "Panel" } none

theorem card_over_panel :
    (∀ layer ∈ panelLayer :: [none, some (rootLayer "card")].reduceOption,
      check layer.toJson = .ok []) ∧
    check (mergeAll panelLayer [none, some (rootLayer "card")]).toJson = .ok [] := by
  have valid : ∀ layer ∈ panelLayer :: [none, some (rootLayer "card")].reduceOption,
      check layer.toJson = .ok [] := by
    show ∀ layer ∈ [panelLayer, rootLayer "card"], check layer.toJson = .ok []
    simp only [List.forall_mem_cons]
    exact ⟨rfl, rfl, nofun⟩
  exact ⟨valid, (check_mergeAll_eq_nil_iff valid).2 (by decide)⟩

/-- Valid layers need not be valid together: the root of one can be called what a child in another
is called. -/
theorem title_over_panel :
    ¬ ∀ (base : Schema) (layers : List (Option Schema)),
      (∀ layer ∈ base :: layers.reduceOption, check layer.toJson = .ok []) →
        check (mergeAll base layers).toJson = .ok [] := by
  intro preserved
  have valid : ∀ layer ∈ panelLayer :: [some (rootLayer "title")].reduceOption,
      check layer.toJson = .ok [] := by
    show ∀ layer ∈ [panelLayer, rootLayer "title"], check layer.toJson = .ok []
    simp only [List.forall_mem_cons]
    exact ⟨rfl, rfl, nofun⟩
  have repeated : check (mergeAll panelLayer [some (rootLayer "title")]).toJson =
      .ok [⟨"root.children[0].id", .duplicateId "title"⟩] := rfl
  cases repeated.symm.trans (preserved panelLayer [some (rootLayer "title")] valid)

end Schema

end UiSchema
