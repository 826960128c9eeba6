import UiSchema.Proofs.Render.Instances
import UiSchema.Proofs.Render.Props

/-! Which events an application hears of. A host finds one handler under each name, so events that
share the name of their handler share the handler too, and only the last of them is reported. -/

set_option autoImplicit false

namespace UiSchema

namespace Render

/-- Under the name that goes with the event stands a handler that reports the action. -/
def Reports (props : Entries PropValue) (id : String) (e : EventBinding) : Prop :=
  ∃ handler, props.get? (handlerName e.event) = some (.handler handler) ∧
    ∀ event, handler.call event = { action := e.action, event, component := id }

/-- Events with one handler name signal one action. -/
def Concordant (events : List EventBinding) : Prop :=
  ∀ e ∈ events, ∀ other ∈ events, handlerName e.event = handlerName other.event →
    e.action = other.action

end Render

namespace Attributes

variable {own : Attributes} {e last : EventBinding}

theorem lastNamed?_spec {key : String} (found : own.lastNamed? key = some last) :
    last ∈ own.events.getD [] ∧ handlerName last.event = key := by
  have named := List.find?_some found
  simp only [beq_iff_eq] at named
  exact ⟨List.mem_reverse.1 (List.mem_of_find?_eq_some found), named⟩

/-- There is a last one where there is one at all. -/
theorem exists_lastNamed? (member : e ∈ own.events.getD []) :
    ∃ last, own.lastNamed? (handlerName e.event) = some last := by
  rw [← Option.isSome_iff_exists, lastNamed?, List.find?_isSome]
  exact ⟨e, List.mem_reverse.2 member, beq_self_eq_true _⟩

end Attributes

namespace Render

variable {own : Attributes} {definition : Definition} {data : Json} {props : Entries PropValue}
  {e last : EventBinding}

theorem get?_of_lastNamed? (resolved : propsOf definition own true data = .ok props)
    {key : String} (found : own.lastNamed? key = some last) :
    props.get? key = some (.handler (handlerOf own.id last)) := by
  rw [get?_propsOf resolved, Attributes.handler?, if_pos rfl, found]
  rfl

/-- An event is reported if the last one with its handler name signals the same action. -/
theorem reports_iff (resolved : propsOf definition own true data = .ok props)
    (found : own.lastNamed? (handlerName e.event) = some last) :
    Reports props own.id e ↔ last.action = e.action := by
  have stands := get?_of_lastNamed? resolved found
  constructor
  · rintro ⟨handler, there, calls⟩
    -- there is one handler under the name, and a single call shows its action
    cases stands.symm.trans there
    exact congrArg Signal.action (calls "")
  · intro same
    refine ⟨_, stands, fun event => ?_⟩
    rw [Handler.call, ← same]
    rfl

/-- No event is lost exactly if none has to share a handler with one that signals something else. -/
theorem all_reported_iff (resolved : propsOf definition own true data = .ok props) :
    (∀ e ∈ own.events.getD [], Reports props own.id e) ↔ Concordant (own.events.getD []) := by
  constructor
  · intro reported e member other memberOther same
    -- both were told apart from the last one, and there is only one of these
    obtain ⟨last, found⟩ := Attributes.exists_lastNamed? member
    have first := (reports_iff resolved found).1 (reported e member)
    rw [same] at found
    have second := (reports_iff resolved found).1 (reported other memberOther)
    exact first.symm.trans second
  · intro concordant e member
    obtain ⟨last, found⟩ := Attributes.exists_lastNamed? member
    obtain ⟨memberLast, same⟩ := Attributes.lastNamed?_spec found
    exact (reports_iff resolved found).2 (concordant last memberLast e member same)

end Render

namespace Place

variable {host : Host} {top p : Place} {node : Node}

/-- The place of an element that the host draws itself. -/
structure Plainly (host : Host) (p : Place) : Prop where
  single : p.own.loop = none
  known : host.registry.has p.own.type = true
  undrawn : host.drawing? p.own.type = none

/-- The props of an element are those that were made for it. -/
theorem Drawn.props_of_plainly (drawn : Drawn host p node) (plainly : Plainly host p) :
    ∃ definition,
      Render.propsOf definition p.own host.signals p.scope.root = .ok node.props := by
  cases drawn with
  | fragment given => cases plainly.single.symm.trans given
  | placeholder _ unknown =>
    cases (Registry.has_of_unknown unknown).symm.trans plainly.known
  | element _ _ resolved _ _ drawn =>
    rw [Render.draw, plainly.undrawn] at drawn
    cases drawn
    exact ⟨_, resolved⟩

end Place

namespace Render

open Place (Rendered Plainly)

/-- Wherever an element is drawn for a host that listens, every event of its component has a handler
with the id of the node, which reports the last event with the same handler name. So none is lost
exactly if those with one handler name signal one action. -/
theorem events_reported_iff {host : Host} (listens : host.signals = true) {top p : Place}
    {node : Node} (reached : Rendered host top p node) (plainly : Plainly host p) :
    node.key? = some p.own.id ∧
    (∀ e ∈ p.own.events.getD [], ∃ last, p.own.lastNamed? (handlerName e.event) = some last ∧
      node.props.get? (handlerName e.event) = some (.handler (handlerOf p.own.id last)) ∧
      (Reports node.props p.own.id e ↔ last.action = e.action)) ∧
    ((∀ e ∈ p.own.events.getD [], Reports node.props p.own.id e) ↔
      Concordant (p.own.events.getD [])) := by
  obtain ⟨definition, resolved⟩ := reached.drawn.props_of_plainly plainly
  rw [listens] at resolved
  refine ⟨?_, fun e member => ?_, all_reported_iff resolved⟩
  · refine reached.drawn.key? fun _ => ⟨fun _ => plainly.undrawn, fun unknown => ?_⟩
    cases unknown.symm.trans plainly.known
  · obtain ⟨last, found⟩ := Attributes.exists_lastNamed? member
    exact ⟨last, found, get?_of_lastNamed? resolved found, reports_iff resolved found⟩

end Render

/-! ### Two actions for one click -/

/-- A button that saves a form and closes it, by two events of one kind. -/
def saveAndCloseDocument : Json :=
  .object [("version", .str "1.0"), ("root", .object
    [("id", .str "done"), ("type", .str "Button"), ("events", .array
      [.object [("event", .str "click"), ("action", .str "save")],
        .object [("event", .str "click"), ("action", .str "close")]])])]

def saving : EventBinding := { event := "click", action := "save" }

def closing : EventBinding := { event := "click", action := "close" }

def saveAndClose : Schema where
  version := some "1.0"
  root := .mk { id := "done", type := "Button", events := some [saving, closing] } none

theorem saveAndClose_valid :
    Schema.validate {} saveAndCloseDocument = .ok (.ok saveAndClose) := rfl

/-- The button as it is drawn: the handler for closing took the place of the one for saving. -/
def closeButton : Node :=
  .element "Button" "done" [("className", .value (.str "plain")), ("label", .value (.str "Button")),
    ("size", .value (.int 2)), ("onClick", .handler (Render.handlerOf "done" closing))] []

theorem closeButton_rendered :
    Place.Rendered buttonHost (saveAndClose.top none) (saveAndClose.top none) closeButton :=
  .top rfl

theorem saveAndClose_plainly : Place.Plainly buttonHost (saveAndClose.top none) :=
  ⟨rfl, rfl, rfl⟩

theorem closeButton_keeps_last :
    (buttonHost.signals = true ∧
      Place.Rendered buttonHost (saveAndClose.top none) (saveAndClose.top none) closeButton ∧
      Place.Plainly buttonHost (saveAndClose.top none)) ∧
    Render.Reports closeButton.props "done" closing ∧
    ¬ Render.Reports closeButton.props "done" saving := by
  obtain ⟨_, last, _⟩ :=
    Render.events_reported_iff rfl closeButton_rendered saveAndClose_plainly
  obtain ⟨_, ⟨⟩, _, forSaving⟩ := last saving List.mem_cons_self
  obtain ⟨_, ⟨⟩, _, forClosing⟩ := last closing (List.mem_cons_of_mem _ List.mem_cons_self)
  refine ⟨⟨rfl, closeButton_rendered, saveAndClose_plainly⟩, forClosing.2 rfl, ?_⟩
  exact fun reports => absurd (forSaving.1 reports) (by decide)

/-- A schema can be valid and still declare an event that nothing reports. -/
theorem saving_not_reported :
    ¬ ∀ document schema, Schema.validate {} document = .ok (.ok schema) →
      ∀ host : Host, host.signals = true → ∀ data p node,
        Place.Rendered host (schema.top data) p node → Place.Plainly host p →
          ∀ e ∈ p.own.events.getD [], Render.Reports node.props p.own.id e := by
  intro complete
  obtain ⟨handler, stands, calls⟩ := complete _ _ saveAndClose_valid buttonHost rfl none _ _
    closeButton_rendered saveAndClose_plainly saving List.mem_cons_self
  -- a click closes the form, and that is all the application hears of it
  have alone : closeButton.props.get? "onClick" =
      some (.handler (Render.handlerOf "done" closing)) := rfl
  cases alone.symm.trans stands
  exact absurd (congrArg Signal.action (calls "")) (by decide)

end UiSchema
