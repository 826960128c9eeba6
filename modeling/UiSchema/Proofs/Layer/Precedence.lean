import Mathlib.Data.List.ReduceOption
import UiSchema.Layer.Merge
import UiSchema.Proofs.Schema.Faithful

/-! Which layer decides on a field. The pairwise rules differ from field to field, but over any
number of layers they all come to the same: the last layer that gives a value decides. -/

set_option autoImplicit false

namespace UiSchema

/-- What is asked of the later value first, and of the earlier one where the later one has nothing,
may be asked of both sides of a merge. -/
theorem bind_mergeOption {α β : Type} {join : α → α → α} {ask : α → Option β} {base later : Option α}
    (joined : ∀ a ∈ base, ∀ b ∈ later, ask (join a b) = (ask b).or (ask a)) :
    (mergeOption join base later).bind ask = (later.bind ask).or (base.bind ask) := by
  cases base with
  | none => cases later <;> simp [mergeOption]
  | some a =>
    cases later with
    | none => simp [mergeOption]
    | some b => exact joined a rfl b rfl

namespace Style

/-- The named fields of a style, that is all but its inline map. -/
inductive Field : Type → Type where
  | className : Field String
  | width : Field Measure
  | height : Field Measure
  | margin : Field Measure
  | padding : Field Measure
  | display : Field String
  | flexDirection : Field String
  | justifyContent : Field String
  | alignItems : Field String
  | gap : Field Measure
  | backgroundColor : Field String
  | color : Field String
  | fontSize : Field Measure
  | fontWeight : Field Measure
  | borderRadius : Field Measure
  | border : Field String

def get? {α : Type} (s : Style) : Field α → Option α
  | .className => s.className
  | .width => s.width
  | .height => s.height
  | .margin => s.margin
  | .padding => s.padding
  | .display => s.display
  | .flexDirection => s.flexDirection
  | .justifyContent => s.justifyContent
  | .alignItems => s.alignItems
  | .gap => s.gap
  | .backgroundColor => s.backgroundColor
  | .color => s.color
  | .fontSize => s.fontSize
  | .fontWeight => s.fontWeight
  | .borderRadius => s.borderRadius
  | .border => s.border

theorem get?_merge {α : Type} (base later : Style) (field : Field α) :
    (base.merge later).get? field = (later.get? field).or (base.get? field) := by
  cases field <;> rfl

end Style

namespace Component

/-- The fields of a component that a later layer replaces as a whole. -/
inductive Field : Type → Type where
  | text : Field String
  | binding : Field String
  | condition : Field String
  | loop : Field Loop
  | events : Field (List EventBinding)
  | children : Field (List Component)

def get? {α : Type} (c : Component) : Field α → Option α
  | .text => c.own.text
  | .binding => c.own.binding
  | .condition => c.own.condition
  | .loop => c.own.loop
  | .events => c.own.events
  | .children => c.children

def prop? (c : Component) (key : String) : Option Json := c.own.props.bind (·.get? key)

def styled? {α : Type} (c : Component) (field : Style.Field α) : Option α :=
  c.own.style.bind (·.get? field)

variable {base later : Component}

theorem get?_merge {α : Type} (field : Field α) :
    (base.merge later).get? field = (later.get? field).or (base.get? field) := by
  cases field <;> rfl

theorem prop?_merge (distinct : ∀ props ∈ later.own.props, props.Distinct) (key : String) :
    (base.merge later).prop? key = (later.prop? key).or (base.prop? key) :=
  bind_mergeOption fun props _ next given => props.get?_putAll (distinct next given) key

theorem styled?_merge {α : Type} (field : Style.Field α) :
    (base.merge later).styled? field = (later.styled? field).or (base.styled? field) :=
  bind_mergeOption fun style _ next _ => style.get?_merge next field

end Component

namespace Schema

/-- Absent layers do not count. -/
theorem mergeAll_eq (base : Schema) (layers : List (Option Schema)) :
    mergeAll base layers = layers.reduceOption.foldl merge base := by
  rw [mergeAll]
  induction layers generalizing base with
  | nil => rfl
  | cons layer rest ih =>
    rw [List.foldl_cons, ih]
    cases layer with
    | none => rfl
    | some later => rfl

/-- The value in the last layer that has one. -/
def lastGiven {α : Type} (value : Schema → Option α) (layers : List Schema) : Option α :=
  layers.reverse.findSome? value

theorem lastGiven_cons {α : Type} (value : Schema → Option α) (layer : Schema)
    (rest : List Schema) :
    lastGiven value (layer :: rest) = (lastGiven value rest).or (value layer) := by
  simp [lastGiven, List.findSome?_append]

theorem isSome_lastGiven_iff {α : Type} (value : Schema → Option α) (layers : List Schema) :
    (lastGiven value layers).isSome ↔ ∃ layer ∈ layers, (value layer).isSome := by
  simp [lastGiven]

/-- A field that a layer takes from the one below it only where it has none itself is taken from the
last layer that has it. -/
theorem foldl_eq_lastGiven {α : Type} (value : Schema → Option α) {layers : List Schema}
    (rule : ∀ base : Schema, ∀ later ∈ layers,
      value (base.merge later) = (value later).or (value base)) (base : Schema) :
    value (layers.foldl merge base) = lastGiven value (base :: layers) := by
  induction layers generalizing base with
  | nil => simp [lastGiven]
  | cons layer rest ih =>
    have below := ih fun base later member => rule base later (.tail layer member)
    rw [List.foldl_cons, below, lastGiven_cons, lastGiven_cons, lastGiven_cons,
      rule base layer List.mem_cons_self, Option.or_assoc]

/-- A field that a layer never takes from the one below it is that of the last layer. -/
theorem foldl_eq_getLastD {α : Type} (value : Schema → α) {layers : List Schema}
    (rule : ∀ base : Schema, ∀ later ∈ layers, value (base.merge later) = value later)
    (base : Schema) : value (layers.foldl merge base) = value (layers.getLastD base) := by
  induction layers generalizing base with
  | nil => rfl
  | cons layer rest ih =>
    rw [List.foldl_cons, ih fun base later member => rule base later (.tail layer member)]
    -- the layer counts only if it is the last one
    cases rest with
    | nil => exact rule base layer List.mem_cons_self
    | cons next others => rfl

theorem root_id_merge {base later : Schema} (given : later.root.id ≠ "") :
    (base.merge later).root.id = later.root.id := by
  have nonempty : later.root.own.id.isEmpty = false := by simpa [Component.id] using given
  show (if later.root.own.id.isEmpty then base.root.own.id else later.root.own.id) = _
  rw [nonempty]
  rfl

theorem root_type_merge {base later : Schema} (given : later.root.type ≠ "") :
    (base.merge later).root.type = later.root.type := by
  have nonempty : later.root.own.type.isEmpty = false := by simpa [Component.type] using given
  show (if later.root.own.type.isEmpty then base.root.own.type else later.root.own.type) = _
  rw [nonempty]
  rfl

/-- The root has an id and a type, and no prop stands there twice. -/
structure Proper (s : Schema) : Prop where
  id : s.root.id ≠ ""
  type : s.root.type ≠ ""
  props : ∀ props ∈ s.root.own.props, props.Distinct

/-- Every schema that was read from a document without repeated keys is proper. -/
theorem proper_of_decode {document : Json} {s : Schema} (keyed : document.Keyed)
    (read : decode document = .ok s) : s.Proper := by
  obtain ⟨version, ⟨own, children⟩, data, metadata⟩ := s
  obtain ⟨members, rfl, _, ⟨root, found, readRoot⟩, _, _⟩ := decode_eq_ok.1 read
  obtain ⟨rootMembers, rfl, readOwn, _⟩ := Component.decode_eq_ok.1 readRoot
  have rootKeyed := Json.membersKeyed_iff.1 keyed.2 _ (Entries.mem_of_get? found)
  refine ⟨readOwn.id.2, readOwn.type.2, fun props given => ?_⟩
  have readProps := readOwn.props
  rw [show own.props = some props from given] at readProps
  obtain ⟨value, present, decoded⟩ := Decode.nullableField_same_some readProps
  cases Decode.dictionary_eq_ok.1 decoded
  have member := Entries.mem_of_get? ((present?_eq_some_iff _ _ _).1 present).1
  exact (Json.membersKeyed_iff.1 rootKeyed.2 _ member).1

/-- What the last of several layers decides, and what the last one that says anything about it. -/
structure LastDecides (layers : List Schema) (merged : Schema) : Prop where
  version : merged.version = lastGiven (·.version) layers
  versionText : merged.versionText = (lastGiven (·.version) layers).getD defaultVersion
  root : ∀ last ∈ layers.getLast?,
    merged.root.id = last.root.id ∧ merged.root.type = last.root.type
  field : ∀ {α : Type} (field : Component.Field α),
    merged.root.get? field = lastGiven (·.root.get? field) layers
  prop : ∀ key, merged.root.prop? key = lastGiven (·.root.prop? key) layers
  keys : ∀ key, (merged.root.prop? key).isSome ↔
    ∃ layer ∈ layers, (layer.root.prop? key).isSome
  style : ∀ {α : Type} (field : Style.Field α),
    merged.root.styled? field = lastGiven (·.root.styled? field) layers

/-- Over any number of layers, absent ones apart, the last one that gives a field decides on it. -/
theorem mergeAll_lastDecides {base : Schema} {layers : List (Option Schema)}
    (proper : ∀ layer ∈ layers.reduceOption, layer.Proper) :
    LastDecides (base :: layers.reduceOption) (mergeAll base layers) := by
  rw [mergeAll_eq]
  generalize layers.reduceOption = layers at proper ⊢
  have version := foldl_eq_lastGiven (·.version) (fun base later (_ : later ∈ layers) => rfl) base
  have prop (key : String) := foldl_eq_lastGiven (·.root.prop? key)
    (fun _ later member => Component.prop?_merge (proper later member).props key) base
  have field {α : Type} (field : Component.Field α) := foldl_eq_lastGiven (·.root.get? field)
    (fun base later (_ : later ∈ layers) => Component.get?_merge field) base
  have style {α : Type} (field : Style.Field α) := foldl_eq_lastGiven (·.root.styled? field)
    (fun base later (_ : later ∈ layers) => Component.styled?_merge field) base
  refine ⟨version, congrArg (Option.getD · defaultVersion) version, ?_, field, prop, ?_, style⟩
  · intro last ends
    obtain rfl : layers.getLastD base = last := by
      rw [List.getLast?_cons, ← List.getLastD_eq_getLast?] at ends
      exact Option.some.inj ends
    exact ⟨foldl_eq_getLastD (·.root.id)
        (fun _ later member => root_id_merge (proper later member).id) base,
      foldl_eq_getLastD (·.root.type)
        (fun _ later member => root_type_merge (proper later member).type) base⟩
  · intro key
    rw [prop key]
    exact isSome_lastGiven_iff _ _

/-- A button of which every platform and theme may change something. -/
def buttonBase : Schema where
  version := some "1.0"
  root := .mk
    { id := "button", type := "Button", text := some "Send"
      props := some [("size", .str "m"), ("disabled", .bool false)]
      style := some { color := some "black", width := some (.whole 80) } }
    none

/-- A layer that says nothing about the version and the text. -/
def touchLayer : Schema where
  root := .mk
    { id := "touch", type := "Button", props := some [("size", .str "l")]
      style := some { width := some (.text "100%") } }
    (some [])

def darkLayer : Schema where
  root := .mk
    { id := "dark", type := "IconButton", props := some [("icon", .str "moon")]
      style := some { color := some "white" } }
    none

theorem button_lastDecides :
    (∀ layer ∈ [some touchLayer, none, some darkLayer].reduceOption, layer.Proper) ∧
      LastDecides [buttonBase, touchLayer, darkLayer]
        (mergeAll buttonBase [some touchLayer, none, some darkLayer]) := by
  have proper : ∀ layer ∈ [some touchLayer, none, some darkLayer].reduceOption, layer.Proper := by
    show ∀ layer ∈ [touchLayer, darkLayer], layer.Proper
    simp only [List.forall_mem_cons]
    refine ⟨⟨by decide, by decide, ?_⟩, ⟨by decide, by decide, ?_⟩, nofun⟩
    · rintro props ⟨⟩
      exact (by decide : ["size"].Nodup)
    · rintro props ⟨⟩
      exact (by decide : ["icon"].Nodup)
  exact ⟨proper, mergeAll_lastDecides proper⟩

end Schema

end UiSchema
