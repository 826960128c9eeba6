import UiSchema.DataField
import UiSchema.Proofs.Binding.Shown
import UiSchema.Proofs.Render.Alike

/-! The inventory of bindings is complete: two documents that agree on every listed path are
rendered to the same nodes. -/

set_option autoImplicit false

namespace UiSchema

namespace DataField

variable {first second : Entries Json} {component property : String} {fields : List DataField}

/-- The documents are alike to the path of every field. -/
def AllAlike (first second : Entries Json) (fields : List DataField) : Prop :=
  ∀ f ∈ fields, Alike first second fun scope => Binding.value? f.path scope.root

theorem allAlike_append {others : List DataField} :
    AllAlike first second (fields ++ others) ↔
      AllAlike first second fields ∧ AllAlike first second others :=
  List.forall_mem_append

/-- A path is listed unless it is malformed, and then it has no value in either document. -/
theorem ofPath_alike {binding path : String}
    (listed : ofPath binding path component property = .ok fields)
    (alike : AllAlike first second fields) :
    Alike first second fun scope => Binding.value? path scope.root := by
  rw [ofPath] at listed
  obtain ⟨read, parsed, rest⟩ := Outcome.bind_eq_ok.1 listed
  cases read with
  | error cause =>
    intro overlay
    simp only [Binding.value?_of_parse parsed]
    rfl
  | ok segments =>
    have field := Outcome.pure_eq_ok.1 rest
    subst field
    exact alike { binding, path, segments, component, property } (List.mem_singleton_self _)

theorem ofPiece_alike {piece : Binding.Piece}
    (listed : ofPiece component property piece = .ok fields)
    (alike : AllAlike first second fields) :
    Alike first second fun scope => piece.interpolate scope.root := by
  intro overlay
  cases piece with
  | plain c => rfl
  | binding body =>
    have same := ofPath_alike listed alike overlay
    simp only [Binding.value?_trim] at same
    simp only [Binding.Piece.interpolate, same]

theorem ofPieces_alike {pieces : List Binding.Piece}
    (listed : ofPieces component property pieces = .ok fields)
    (alike : AllAlike first second fields) :
    Alike first second fun scope => Binding.interpolatePieces scope.root pieces := by
  intro overlay
  induction pieces generalizing fields with
  | nil => rfl
  | cons piece rest ih =>
    obtain ⟨here, ofHere, joined⟩ := Outcome.bind_eq_ok.1 listed
    obtain ⟨others, ofOthers, same⟩ := Outcome.bind_eq_ok.1 joined
    cases same
    obtain ⟨alikeHere, alikeOthers⟩ := allAlike_append.1 alike
    have sameHere := ofPiece_alike ofHere alikeHere overlay
    have sameOthers := ih ofOthers alikeOthers
    simp only [Binding.interpolatePieces, sameHere, sameOthers]

theorem ofText_alike {text : String} (listed : ofText text component property = .ok fields)
    (alike : AllAlike first second fields) :
    Alike first second fun scope => Binding.interpolate text scope.root := by
  intro overlay
  have same := ofPieces_alike listed alike overlay
  simp only [Binding.interpolate, same]

mutual

theorem ofValue_alike (property : String) (value : Json) (fields : List DataField)
    (listed : ofValue component property value = .ok fields)
    (alike : AllAlike first second fields) :
    Alike first second fun scope => Binding.resolveIn scope.root value := by
  intro overlay
  cases value with
  | str text =>
    have same := ofText_alike listed alike overlay
    simp only [Binding.resolveIn, same]
  | object members =>
    have same := ofMembers_alike property members fields listed alike overlay
    simp only [Binding.resolveIn, same]
  | _ => rfl

theorem ofMembers_alike (property : String) (members : List (String × Json))
    (fields : List DataField) (listed : ofMembers component property members = .ok fields)
    (alike : AllAlike first second fields) :
    Alike first second fun scope => Binding.resolveMembers scope.root members := by
  intro overlay
  cases members with
  | nil => rfl
  | cons e rest =>
    obtain ⟨key, value⟩ := e
    obtain ⟨here, ofHere, joined⟩ := Outcome.bind_eq_ok.1 listed
    obtain ⟨others, ofOthers, same⟩ := Outcome.bind_eq_ok.1 joined
    cases same
    obtain ⟨alikeHere, alikeOthers⟩ := allAlike_append.1 alike
    have sameHere := ofValue_alike _ value here ofHere alikeHere overlay
    have sameOthers := ofMembers_alike property rest others ofOthers alikeOthers overlay
    simp only [Binding.resolveMembers, sameHere, sameOthers]

end

theorem ofOptional_eq_ok {expression : Option String} {read : String → Outcome (List DataField)}
    (listed : ofOptional expression read = .ok fields) :
    ∀ e ∈ expression, e ≠ "" → read e = .ok fields := by
  rintro e rfl visible
  simpa [ofOptional, visible] using listed

/-- Every place where a component reads data is in the inventory. -/
theorem ofAttributes_alike {place : String} {own : Attributes}
    (listed : ofAttributes place own = .ok fields) (alike : AllAlike first second fields) :
    own.Alike first second := by
  obtain ⟨binding, ofBinding, listed⟩ := Outcome.bind_eq_ok.1 listed
  obtain ⟨text, ofText, listed⟩ := Outcome.bind_eq_ok.1 listed
  obtain ⟨props, ofProps, listed⟩ := Outcome.bind_eq_ok.1 listed
  obtain ⟨loop, ofSource, listed⟩ := Outcome.bind_eq_ok.1 listed
  obtain ⟨condition, ofCondition, listed⟩ := Outcome.bind_eq_ok.1 listed
  cases listed
  simp only [allAlike_append, and_assoc] at alike
  obtain ⟨inBinding, inText, inProps, inLoop, inCondition⟩ := alike
  exact
    { condition := fun e given visible =>
        ofPath_alike (ofOptional_eq_ok ofCondition e given visible) inCondition
      binding := fun e given visible =>
        ofPath_alike (ofOptional_eq_ok ofBinding e given visible) inBinding
      source := by
        intro found given
        rw [ofLoop, Option.mem_def.1 given] at ofSource
        exact ofPath_alike ofSource inLoop
      text := fun t given visible =>
        ofText_alike (ofOptional_eq_ok ofText t given visible) inText
      props := ofMembers_alike _ _ props ofProps inProps }

theorem ofSiblings_each {place : String} {index : Nat} {children : List Component}
    (listed : ofSiblings place index children = .ok fields) (alike : AllAlike first second fields) :
    ∀ child ∈ children, ∃ place here, ofComponent place child = .ok here ∧
      AllAlike first second here := by
  induction children generalizing index fields with
  | nil => nofun
  | cons child rest ih =>
    obtain ⟨here, ofHere, joined⟩ := Outcome.bind_eq_ok.1 listed
    obtain ⟨others, ofOthers, same⟩ := Outcome.bind_eq_ok.1 joined
    cases same
    obtain ⟨alikeHere, alikeOthers⟩ := allAlike_append.1 alike
    exact List.forall_mem_cons.2 ⟨⟨_, here, ofHere, alikeHere⟩, ih ofOthers alikeOthers⟩

theorem ofComponent_alike (c : Component) :
    ∀ place fields, ofComponent place c = .ok fields → AllAlike first second fields →
      ∀ d ∈ c.subtree, d.own.Alike first second := by
  induction c using Component.tree_induction with
  | step own children ih =>
    intro place fields listed alike
    obtain ⟨here, ofHere, joined⟩ := Outcome.bind_eq_ok.1 listed
    obtain ⟨below, ofBelow, same⟩ := Outcome.bind_eq_ok.1 joined
    cases same
    obtain ⟨alikeHere, alikeBelow⟩ := allAlike_append.1 alike
    refine Component.forall_mem_subtree_mk.2 ⟨ofAttributes_alike ofHere alikeHere, ?_⟩
    intro child member
    cases children with
    | none => cases member
    | some children =>
      obtain ⟨childPlace, inChild, ofChild, alikeChild⟩ :=
        ofSiblings_each ofBelow alikeBelow child member
      exact ih child member childPlace inChild ofChild alikeChild

end DataField

/-- Rendering depends on the data only through the paths that the inventory lists. -/
theorem render_eq_of_agree {schema : Schema} {fields : List DataField}
    (listed : DataField.all schema = .ok fields) {first second : Entries Json}
    (agree : ∀ path ∈ DataField.uniquePaths fields,
      Path.Agree path (.object first) (.object second)) (host : Host) :
    render host schema (some (.object first)) = render host schema (some (.object second)) := by
  have alike : DataField.AllAlike first second fields := by
    intro f member
    have unique : f.path ∈ DataField.uniquePaths fields :=
      List.mem_eraseDups.2 (List.mem_map_of_mem member)
    exact (agree f.path unique).alike
  have everywhere := DataField.ofComponent_alike schema.root "" fields listed alike
  exact Render.component_alike host schema.root everywhere []

/-- A line for each guest of somebody's list. -/
def guestSchema : Schema where
  root := .mk
    { id := "guest", type := "Text", text := some "{{guest.name}} with {{owner}}"
      loop := some { source := "guests", itemName := some "guest" } } none

def guestFields : List DataField :=
  [{ binding := "{{guest.name}}", path := "guest.name", segments := [.name "guest", .name "name"]
     component := "guest", property := "text" },
   { binding := "{{owner}}", path := "owner", segments := [.name "owner"]
     component := "guest", property := "text" },
   { binding := "{{guests}}", path := "guests", segments := [.name "guests"]
     component := "guest", property := "loop.source" }]

/-- A list of one guest, with a note that no binding reads. -/
def guestData (note : Int) : Entries Json :=
  [("owner", .str "Ada"), ("guests", .array [.object [("name", .str "Bob")]]), ("note", .int note)]

def textHost : Host where
  registry := { definitions := [{ type := "Text" }] }
  placeholderType := "Unknown"

theorem guests_without_note :
    DataField.all guestSchema = .ok guestFields ∧
      render textHost guestSchema (some (.object (guestData 1))) =
        render textHost guestSchema (some (.object (guestData 2))) := by
  have listed : DataField.all guestSchema = .ok guestFields := rfl
  have agree : ∀ path ∈ DataField.uniquePaths guestFields,
      Path.Agree path (.object (guestData 1)) (.object (guestData 2)) := by
    show ∀ path ∈ ["guest.name", "owner", "guests"], _
    simp only [List.forall_mem_cons]
    exact ⟨.inr ⟨_, _, rfl, rfl⟩, .inl ⟨_, rfl, rfl⟩, .inl ⟨_, rfl, rfl⟩, nofun⟩
  exact ⟨listed, render_eq_of_agree listed agree textHost⟩

end UiSchema
