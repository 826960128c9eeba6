import UiSchema.Proofs.Layer.InlineMap
import UiSchema.Proofs.Render.Places
import UiSchema.Proofs.Render.Total
import UiSchema.Proofs.Schema.Keyed

/-! Where the props of an element come from. Handlers go before the class name and the style, these
before the props of the component, and the defaults of its type come last. Of all sources of a prop
only the first one counts, but a style is laid over the one that it finds. -/

set_option autoImplicit false

namespace UiSchema

/-! ### Entries that are picked or renamed -/

namespace Entries

variable {α β : Type}

theorem get?_map (es : Entries α) (f : α → β) (key : String) :
    get? (es.map fun (name, value) => (name, f value)) key = (es.get? key).map f := by
  induction es with
  | nil => rfl
  | cons e rest ih =>
    obtain ⟨name, value⟩ := e
    rw [List.map_cons, get?_cons, get?_cons, ih]
    split <;> rfl

theorem get?_map_find? (xs : List β) (name : β → String) (value : β → α) (key : String) :
    get? (xs.map fun x => (name x, value x)) key =
      (xs.find? fun x => name x == key).map value := by
  induction xs with
  | nil => rfl
  | cons x rest ih =>
    rw [List.map_cons, get?_cons, ih, List.find?_cons]
    by_cases same : name x = key
    · rw [if_pos same, beq_iff_eq.2 same]
      rfl
    · rw [if_neg same, beq_false_of_ne same]

theorem get?_filter {es : Entries α} (distinct : es.Distinct) (test : α → Bool) (key : String) :
    get? (es.filter fun e => test e.2) key = (es.get? key).filter test := by
  induction es with
  | nil => rfl
  | cons e rest ih =>
    obtain ⟨name, value⟩ := e
    obtain ⟨absent, others⟩ := distinct_cons.1 distinct
    rw [List.filter_cons, get?_cons]
    by_cases same : name = key
    · subst same
      -- there is no second entry that could take the place of one that is left out
      have alone := ih others
      rw [(get?_eq_none_iff rest name).2 absent, Option.filter_none] at alone
      by_cases kept : test value = true
      · rw [if_pos kept, get?_cons, if_pos rfl, if_pos rfl, Option.filter_some, if_pos kept]
      · rw [if_neg kept, alone, if_pos rfl, Option.filter_some, if_neg kept]
    · rw [if_neg same, ← ih others]
      split
      · rw [get?_cons, if_neg same]
      · rfl

theorem Distinct.filter {es : Entries α} (distinct : es.Distinct) (test : String × α → Bool) :
    Distinct (es.filter test) :=
  distinct.sublist (List.filter_sublist.map _)

theorem eq_nil_iff (es : Entries α) : es = [] ↔ ∀ key, es.get? key = none := by
  cases es with
  | nil => simp
  | cons e rest =>
    refine iff_of_false (List.cons_ne_nil _ _) fun nothing => ?_
    have found := nothing e.1
    rw [get?_cons, if_pos rfl] at found
    cases found

end Entries

/-! ### Texts in a value -/

namespace Json

mutual

/-- The value with all its texts replaced, apart from those inside of arrays. -/
def mapTexts (f : String → String) : Json → Json
  | .str text => .str (f text)
  | .object members => .object (mapTextsAmong f members)
  | value => value

def mapTextsAmong (f : String → String) : List (String × Json) → List (String × Json)
  | [] => []
  | (key, value) :: rest => (key, mapTexts f value) :: mapTextsAmong f rest

end

theorem mapTextsAmong_eq (f : String → String) (members : Entries Json) :
    mapTextsAmong f members = members.map fun (key, value) => (key, value.mapTexts f) := by
  induction members with
  | nil => rfl
  | cons e rest ih => rw [mapTextsAmong, ih, List.map_cons]

end Json

namespace Binding

/-- How a text is shown over some data. -/
def shownIn (data : Json) (text : String) : String :=
  String.ofList ((pieces text).flatMap (Piece.shown data))

variable {data : Json}

mutual

/-- Nothing stops the bindings in a value from being resolved but one that cannot be shown. -/
theorem resolveIn_eq_ok {value result : Json} :
    resolveIn data value = .ok result ↔
      (∀ body ∈ bodiesIn value, Showable data body) ∧
        value.mapTexts (shownIn data) = result := by
  cases value with
  | str text =>
    rw [resolveIn, Json.mapTexts, bodiesIn, ← showable_iff]
    simp only [Outcome.bind_eq_ok, Outcome.pure_eq_ok, interpolate_eq_ok]
    constructor
    · rintro ⟨_, ⟨showable, rfl⟩, rfl⟩
      exact ⟨showable, rfl⟩
    · rintro ⟨showable, rfl⟩
      exact ⟨_, ⟨showable, rfl⟩, rfl⟩
  | object members =>
    rw [resolveIn, Json.mapTexts, bodiesIn]
    simp only [Outcome.bind_eq_ok, Outcome.pure_eq_ok, resolveMembers_eq_ok]
    constructor
    · rintro ⟨_, ⟨showable, rfl⟩, rfl⟩
      exact ⟨showable, rfl⟩
    · rintro ⟨showable, rfl⟩
      exact ⟨_, ⟨showable, rfl⟩, rfl⟩
  | _ => simp [resolveIn, Json.mapTexts, bodiesIn]

theorem resolveMembers_eq_ok {members results : List (String × Json)} :
    resolveMembers data members = .ok results ↔
      (∀ body ∈ bodiesAmong members, Showable data body) ∧
        Json.mapTextsAmong (shownIn data) members = results := by
  cases members with
  | nil => simp [resolveMembers, Json.mapTextsAmong, bodiesAmong]
  | cons e rest =>
    rw [resolveMembers, Json.mapTextsAmong, bodiesAmong, List.forall_mem_append]
    simp only [Outcome.bind_eq_ok, Outcome.pure_eq_ok, resolveIn_eq_ok, resolveMembers_eq_ok]
    constructor
    · rintro ⟨_, ⟨here, rfl⟩, _, ⟨further, rfl⟩, rfl⟩
      exact ⟨⟨here, further⟩, rfl⟩
    · rintro ⟨⟨here, further⟩, rfl⟩
      exact ⟨_, ⟨here, rfl⟩, _, ⟨further, rfl⟩, rfl⟩

end

end Binding

/-! ### The sources of a prop -/

namespace Style

/-- A shorthand that says something. -/
def shorthand? (s : Style) (name : String) : Option Json :=
  (Entries.get? s.shorthands name).join.filter fun value => !isEmptyText value

theorem shorthands_distinct (s : Style) : Entries.Distinct s.shorthands := by
  show ["width", "height", "margin", "padding", "display", "flexDirection", "justifyContent",
    "alignItems", "gap", "backgroundColor", "color", "fontSize", "fontWeight", "borderRadius",
    "border"].Nodup
  decide

theorem distinct_given {fields : Entries (Option Json)} (distinct : fields.Distinct) :
    Entries.Distinct (given fields) :=
  distinct.sublist (keys_given_sublist fields)

theorem get?_effectiveShorthands (s : Style) (name : String) :
    s.effectiveShorthands.get? name = s.shorthand? name := by
  have picked := Entries.get?_filter (distinct_given s.shorthands_distinct)
    (fun value => !isEmptyText value) name
  rw [get?_given s.shorthands_distinct] at picked
  exact picked

theorem effectiveShorthands_distinct (s : Style) : s.effectiveShorthands.Distinct :=
  (distinct_given s.shorthands_distinct).filter _

/-- A shorthand hides what the inline map says of its property. -/
theorem get?_css (s : Style) (name : String) :
    s.css.get? name = (s.shorthand? name).or (s.inlined? name) := by
  rw [css, Entries.get?_putAll _ s.effectiveShorthands_distinct, get?_effectiveShorthands, inlined?]
  cases s.inlined <;> rfl

theorem css_distinct {s : Style} (distinct : ∀ map ∈ s.inlined, map.Distinct) :
    s.css.Distinct := by
  refine Entries.Distinct.putAll ?_ _
  cases given : s.inlined with
  | none => exact List.nodup_nil
  | some map => exact distinct map given

end Style

namespace Attributes

/-- The last of the events whose handlers have the name. -/
def lastNamed? (own : Attributes) (key : String) : Option EventBinding :=
  (own.events.getD []).reverse.find? fun e => handlerName e.event == key

/-- The handler under a name, if the host listens. -/
def handler? (own : Attributes) (signals : Bool) (key : String) : Option Handler :=
  if signals then (own.lastNamed? key).map (Render.handlerOf own.id) else none

def className? (own : Attributes) : Option String :=
  (own.style.bind (·.className)).filter (!·.isEmpty)

/-- What the style says of a property: a shorthand goes before the inline map. -/
def styled? (own : Attributes) (name : String) : Option Json :=
  own.style.bind fun s => (s.shorthand? name).or (s.inlined? name)

/-- The style says something of some property. -/
def Styled (own : Attributes) : Prop := ∃ name, own.styled? name ≠ none

/-- The prop of the component with its bindings resolved, and the default of its type where the
component has none. -/
def prop? (own : Attributes) (definition : Definition) (data : Json) (key : String) : Option Json :=
  ((Entries.get? (own.props.getD []) key).map (Json.mapTexts (Binding.shownIn data))).or
    (definition.defaultProps.get? key)

/-- The props of the component with their bindings resolved. -/
def shownProps (own : Attributes) (data : Json) : Entries Json :=
  Json.mapTextsAmong (Binding.shownIn data) (own.props.getD [])

/-- What the props of an element come from. -/
structure Provides (own : Attributes) (definition : Definition) (signals : Bool) (data : Json)
    (props : Entries PropValue) : Prop where
  handler : ∀ key, ∀ h ∈ own.handler? signals key, props.get? key = some (.handler h)
  className : own.handler? signals "className" = none → ∀ name ∈ own.className?,
    props.get? "className" = some (.value (.str name))
  /-- The style is laid over the one that stands there, if that is an object. -/
  style : own.handler? signals "style" = none → own.Styled →
    ∃ style : Entries Json, props.get? "style" = some (.value (.object style)) ∧
      ∀ name, style.get? name = (own.styled? name).or
        ((own.prop? definition data "style").bind fun value =>
          value.members?.bind fun members => Entries.get? members name)
  prop : ∀ key, own.handler? signals key = none → (key = "className" → own.className? = none) →
    (key = "style" → ¬ own.Styled) →
      props.get? key = (own.prop? definition data key).map PropValue.value

variable {own : Attributes}

theorem get?_cssOf (own : Attributes) (name : String) :
    (Style.cssOf own.style).get? name = own.styled? name := by
  rw [styled?]
  cases own.style with
  | none => rfl
  | some s => exact s.get?_css name

theorem cssOf_eq_nil_iff : Style.cssOf own.style = [] ↔ ¬ own.Styled := by
  rw [Entries.eq_nil_iff, Styled, not_exists]
  simp only [get?_cssOf, not_not]

theorem Keyed.cssOf_distinct (keyed : own.Keyed) : (Style.cssOf own.style).Distinct := by
  cases given : own.style with
  | none => exact List.nodup_nil
  | some s =>
    exact Style.css_distinct fun map inlined =>
      (Style.keyed_toJson.1 (keyed.style s given) map inlined).1

theorem Keyed.props_distinct (keyed : own.Keyed) : Entries.Distinct (own.props.getD []) := by
  cases given : own.props with
  | none => exact List.nodup_nil
  | some props => exact (keyed.props props given).1

theorem Keyed.shownProps_distinct (keyed : own.Keyed) (data : Json) :
    (own.shownProps data).Distinct := by
  rw [shownProps, Json.mapTextsAmong_eq, Entries.Distinct, Entries.keys, List.map_map]
  exact keyed.props_distinct

/-- What becomes of the props before style, class name and handlers are put over them. -/
theorem Keyed.get?_resolved (keyed : own.Keyed) (definition : Definition) (data : Json)
    (key : String) :
    (definition.defaultProps.putAll (own.shownProps data)).get? key =
      own.prop? definition data key := by
  rw [Entries.get?_putAll _ (keyed.shownProps_distinct data), shownProps, Json.mapTextsAmong_eq,
    Entries.get?_map, prop?]

theorem get?_handlersOf (own : Attributes) (key : String) :
    (Render.handlersOf own).get? key = (own.handler? true key).map PropValue.handler := by
  have last := Entries.get?_putAll_eq ([] : Entries PropValue)
    ((own.events.getD []).map fun e =>
      (handlerName e.event, .handler (Render.handlerOf own.id e))) key
  rw [← List.map_reverse, Entries.get?_map_find?, Entries.get?_nil, Option.or_none] at last
  rw [handler?, if_pos rfl, lastNamed?, Option.map_map]
  exact last

end Attributes

namespace Render

variable {props : Entries Json} {css : Entries Json} {key : String}

theorem get?_withStyle_of_ne (other : key ≠ "style") :
    (withStyle css props).get? key = props.get? key := by
  rw [withStyle]
  split
  · rfl
  · rw [Entries.get?_put, if_neg (Ne.symm other)]

theorem get?_withStyle (distinct : css.Distinct) (filled : css ≠ []) (props : Entries Json) :
    ∃ style : Entries Json, (withStyle css props).get? "style" = some (.object style) ∧
      ∀ name, style.get? name = (css.get? name).or
        ((props.get? "style").bind fun value =>
          value.members?.bind fun members => Entries.get? members name) := by
  have nonempty : ¬ css.isEmpty = true := fun empty => filled (List.isEmpty_iff.1 empty)
  rw [withStyle, if_neg nonempty, Entries.get?_put, if_pos rfl]
  refine ⟨_, rfl, fun name => ?_⟩
  split
  · rename_i existing given
    rw [given, Entries.get?_putAll existing distinct]
    rfl
  · -- what is no object has no properties
    rename_i other
    have none : (props.get? "style").bind Json.members? = none := by
      cases given : props.get? "style" with
      | none => rfl
      | some value =>
        cases value with
        | object existing => exact absurd given (other existing)
        | _ => rfl
    rw [← Option.bind_assoc, none, Option.bind_none, Option.or_none]

theorem get?_withClassName (own : Attributes) :
    (withClassName own.style props).get? key =
      (if key = "className" then own.className?.map Json.str else none).or (props.get? key) := by
  -- an empty class name is as good as none
  have chosen : withClassName own.style props =
      own.className?.elim props fun name => props.put "className" (.str name) := by
    rw [withClassName, Attributes.className?]
    cases own.style.bind (·.className) with
    | none => rfl
    | some name => by_cases empty : name.isEmpty = true <;> simp [Option.filter, empty]
  rw [chosen]
  cases own.className? with
  | none => simp
  | some name =>
    rw [Option.elim_some, Entries.get?_put]
    by_cases here : "className" = key
    · rw [if_pos here, if_pos here.symm]
      rfl
    · rw [if_neg here, if_neg (Ne.symm here), Option.none_or]

variable {definition : Definition} {own : Attributes} {signals : Bool} {data : Json}

/-- The values of the props, before there are handlers among them. -/
def valuesOf (definition : Definition) (own : Attributes) (data : Json) : Entries Json :=
  withClassName own.style
    (withStyle (Style.cssOf own.style) (definition.defaultProps.putAll (own.shownProps data)))

theorem propsOf_eq_ok {props : Entries PropValue} :
    propsOf definition own signals data = .ok props ↔
      (∀ body ∈ Binding.bodiesAmong (own.props.getD []), Binding.Showable data body) ∧
        Tracked.propsFrom definition own signals (own.shownProps data) = props := by
  rw [propsOf]
  simp only [Outcome.bind_eq_ok, Outcome.pure_eq_ok, Binding.resolveMembers_eq_ok]
  constructor
  · rintro ⟨_, ⟨showable, rfl⟩, rfl⟩
    exact ⟨showable, rfl⟩
  · rintro ⟨showable, rfl⟩
    exact ⟨_, ⟨showable, rfl⟩, rfl⟩

theorem propsOf_eq_error {scope : Scope} {cause : Raised}
    (stops : propsOf definition own signals scope.root = .error cause) : cause = .tooManyDigits :=
  Tracked.outcome_eq_error ((Tracked.outcome_propsOf own scope definition signals).trans stops)

/-- A handler goes before everything else. -/
theorem get?_propsOf {props : Entries PropValue}
    (resolved : propsOf definition own signals data = .ok props) (key : String) :
    props.get? key = ((own.handler? signals key).map PropValue.handler).or
      (((valuesOf definition own data).get? key).map PropValue.value) := by
  obtain ⟨_, rfl⟩ := propsOf_eq_ok.1 resolved
  have values := Entries.get?_map (valuesOf definition own data) PropValue.value key
  cases signals with
  | false => exact values
  | true =>
    have distinct : (handlersOf own).Distinct := Entries.ofPairs_distinct _
    rw [← own.get?_handlersOf, ← values]
    exact Entries.get?_putAll _ distinct key

/-- The layers are looked through from the outermost to the innermost. -/
theorem provides_of_propsOf (keyed : own.Keyed) {props : Entries PropValue}
    (resolved : propsOf definition own signals data = .ok props) :
    own.Provides definition signals data props where
  handler key h given := by
    rw [get?_propsOf resolved, given]
    rfl
  className unheard name given := by
    rw [get?_propsOf resolved, unheard, valuesOf, get?_withClassName, if_pos rfl, given]
    rfl
  style unheard styled := by
    have filled : Style.cssOf own.style ≠ [] := fun empty =>
      Attributes.cssOf_eq_nil_iff.1 empty styled
    obtain ⟨style, found, names⟩ := get?_withStyle keyed.cssOf_distinct filled
      (definition.defaultProps.putAll (own.shownProps data))
    refine ⟨style, ?_, fun name => ?_⟩
    · rw [get?_propsOf resolved, unheard, valuesOf, get?_withClassName, if_neg (by decide),
        Option.none_or, found]
      rfl
    · rw [names, Attributes.get?_cssOf, keyed.get?_resolved]
  prop key unheard noName noStyle := by
    -- neither the class name nor the style has anything to say under this key
    have outside : (if key = "className" then own.className?.map Json.str else none) = none := by
      split
      · rename_i here
        rw [noName here]
        rfl
      · rfl
    rw [get?_propsOf resolved, unheard, valuesOf, get?_withClassName, outside, Option.none_or,
      Option.map_none, Option.none_or, ← keyed.get?_resolved]
    by_cases here : key = "style"
    · rw [Attributes.cssOf_eq_nil_iff.2 (noStyle here)]
      rfl
    · rw [get?_withStyle_of_ne here]

/-- What is drawn for a component that has a definition, no loop and a condition that holds. -/
theorem component_known {host : Host} {own : Attributes} {definition : Definition} {scope : Scope}
    (known : host.registry.get? own.type = some definition) (single : own.loop = none)
    (passed : passes own scope = .ok true) (children : Option (List Component)) :
    component host (.mk own children) scope = do
      let props ← propsOf definition own host.signals scope.root
      let content ← childrenOr (ownContent own scope) (← below host children scope)
      return draw host own props content := by
  rw [component, expand, single]
  dsimp only
  rw [Render.single, passed]
  show element host own (below host children) scope = _
  rw [element, known]

/-- Every prop of an element comes from the first source that has it. Only a binding in the props of
the component that cannot be shown, for a number with too many digits, keeps them from the host, and
then the component as a whole is not rendered. -/
theorem element_provides {host : Host} {own : Attributes} {definition : Definition} {scope : Scope}
    (known : host.registry.get? own.type = some definition) (single : own.loop = none)
    (passed : passes own scope = .ok true) (keyed : own.Keyed)
    (children : Option (List Component)) :
    ((∀ body ∈ Binding.bodiesAmong (own.props.getD []), Binding.Showable scope.root body) →
      ∃ props, own.Provides definition host.signals scope.root props ∧
        component host (.mk own children) scope = do
          let content ← childrenOr (ownContent own scope) (← below host children scope)
          return draw host own props content) ∧
    ((∃ body ∈ Binding.bodiesAmong (own.props.getD []), ¬ Binding.Showable scope.root body) →
      component host (.mk own children) scope = .error .tooManyDigits) ∧
    (host.drawing? own.type = none → ∀ props content,
      draw host own props content = some (.element own.type own.id props content)) := by
  refine ⟨fun showable => ?_, ?_, ?_⟩
  · have resolved : propsOf definition own host.signals scope.root =
        .ok (Tracked.propsFrom definition own host.signals (own.shownProps scope.root)) :=
      propsOf_eq_ok.2 ⟨showable, rfl⟩
    refine ⟨_, provides_of_propsOf keyed resolved, ?_⟩
    rw [component_known known single passed, resolved]
    rfl
  · rintro ⟨body, member, unshown⟩
    rw [component_known known single passed]
    cases stops : propsOf definition own host.signals scope.root with
    | error cause =>
      rw [propsOf_eq_error stops]
      rfl
    | ok props => exact absurd ((propsOf_eq_ok.1 stops).1 body member) unshown
  · intro plain props content
    rw [draw, plain]

end Render

/-- A button with more than one source for most of its props. -/
def saveButton : Attributes where
  id := "save"
  type := "Button"
  props := some [("label", .str "Save \x7b\x7bname\x7d\x7d"), ("onClick", .str "nothing"),
    ("style", .object [("color", .str "red"), ("cursor", .str "help")]),
    ("hint", .object [("text", .str "\x7b\x7bname\x7d\x7d"),
      ("more", .array [.str "\x7b\x7bname\x7d\x7d"])])]
  events := some [{ event := "click", action := "ask" }, { event := "Click", action := "save" }]
  style := some
    { className := some "primary"
      inlined := some [("color", .str "blue"), ("width", .int 9)]
      width := some (.whole 0), height := some (.text "") }

def buttonDefinition : Definition where
  type := "Button"
  defaultProps := [("className", .str "plain"), ("label", .str "Button"), ("size", .int 2)]

def buttonHost : Host where
  registry := { definitions := [buttonDefinition] }
  placeholderType := "Unknown"
  signals := true

def draftScope : Scope := { data := .object [("name", .str "draft")] }

def saveProps : Entries PropValue :=
  [("className", .value (.str "primary")), ("label", .value (.str "Save draft")),
    ("size", .value (.int 2)),
    ("onClick", .handler
      { event := "Click", action := "save", component := "save", payload := .null }),
    ("style", .value (.object
      [("color", .str "blue"), ("cursor", .str "help"), ("width", .int 0)])),
    ("hint", .value (.object [("text", .str "draft"),
      ("more", .array [.str "\x7b\x7bname\x7d\x7d"])]))]

theorem saveButton_keyed : saveButton.Keyed where
  props := by
    rintro props ⟨⟩
    exact ⟨(by decide : ["label", "onClick", "style", "hint"].Nodup), trivial, trivial,
      ⟨(by decide : ["color", "cursor"].Nodup), trivial, trivial, trivial⟩,
      ⟨(by decide : ["text", "more"].Nodup), trivial, ⟨trivial, trivial⟩, trivial⟩, trivial⟩
  events := by
    rintro events ⟨⟩ e member
    rcases List.mem_pair.1 member with rfl | rfl <;>
      exact ⟨(by decide : ["event", "action"].Nodup), trivial, trivial, trivial⟩
  style := by
    rintro style ⟨⟩
    refine Style.keyed_toJson.2 ?_
    rintro map ⟨⟩
    exact ⟨(by decide : ["color", "width"].Nodup), trivial, trivial, trivial⟩

theorem saveButton_provides :
    (buttonHost.registry.get? "Button" = some buttonDefinition ∧ saveButton.loop = none ∧
      Render.passes saveButton draftScope = .ok true ∧ saveButton.Keyed) ∧
    Render.component buttonHost (.mk saveButton none) draftScope =
      .ok (some (.element "Button" "save" saveProps [])) ∧
    saveButton.Provides buttonDefinition true draftScope.root saveProps := by
  have rendered : Render.component buttonHost (.mk saveButton none) draftScope =
      .ok (some (.element "Button" "save" saveProps [])) := rfl
  have known : buttonHost.registry.get? saveButton.type = some buttonDefinition := rfl
  have passed : Render.passes saveButton draftScope = .ok true := rfl
  obtain ⟨provided, stopped, _⟩ :=
    Render.element_provides known rfl passed saveButton_keyed none
  refine ⟨⟨rfl, rfl, rfl, saveButton_keyed⟩, rendered, ?_⟩
  by_cases showable : ∀ body ∈ Binding.bodiesAmong (saveButton.props.getD []),
      Binding.Showable draftScope.root body
  · obtain ⟨props, provides, same⟩ := provided showable
    rw [rendered] at same
    cases same
    exact provides
  · simp only [not_forall, exists_prop] at showable
    rw [stopped showable] at rendered
    cases rendered

end UiSchema
