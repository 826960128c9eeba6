import UiSchema.Proofs.Schema.WellFormed

/-! The check of a document finds nothing exactly when the document is well-formed. Issues carry
their place, but whether there are any depends on the document and the ids before it alone. -/

set_option autoImplicit false

namespace UiSchema.Schema

variable {members : Entries Json} {field path : String}

theorem checkText_eq_nil : checkText members field path = [] ↔ HasText members field := by
  rw [checkText, HasText]
  split
  · rename_i absent
    simp [absent]
  · rename_i text given
    simp only [given, Option.some.injEq, Json.str.injEq, exists_eq_left',
      ← Text.isBlankText_eq_false_iff]
    cases Text.isBlankText text <;> simp
  · rename_i value other given
    simp only [given, Option.some.injEq, List.cons_ne_nil, false_iff, not_exists, not_and]
    exact fun text same => absurd same (other text)

theorem checkObject_eq_nil : checkObject members field path = [] ↔ Allows members field IsObject := by
  rw [checkObject, Allows]
  split
  · rename_i absent
    simp [absent]
  · rename_i inner given
    simp [given, IsObject]
  · rename_i value other given
    simp only [given, Option.some.injEq, List.cons_ne_nil, false_iff, forall_eq']
    rintro ⟨inner, same⟩
    exact other inner same

theorem checkOptionalText_eq_nil :
    checkOptionalText members field path = [] ↔ Allows members field IsText := by
  rw [checkOptionalText, Allows]
  split
  · rename_i absent
    simp [absent]
  · rename_i text given
    simp [given, IsText]
  · rename_i value other given
    simp only [given, Option.some.injEq, List.cons_ne_nil, false_iff, forall_eq']
    rintro ⟨text, same⟩
    exact other text same

theorem checkExpression_eq_nil {text : String} :
    checkExpression text path = .ok [] ↔ Binding.Readable text := by
  rw [checkExpression, Outcome.bind_eq_ok, Binding.Readable]
  constructor
  · rintro ⟨parsed, same, clean⟩
    cases parsed with
    | ok found => exact ⟨found, same⟩
    | error e => simp [pure, Except.pure] at clean
  · rintro ⟨found, same⟩
    exact ⟨.ok found, same, rfl⟩

/-- An expression field is fine when it holds a text and that text can be read. -/
theorem expression_clean :
    checkOptionalText members field path = [] ∧ checkExpressionField members field path = .ok [] ↔
      Allows members field IsExpression := by
  rw [checkOptionalText_eq_nil, checkExpressionField, Allows, Allows]
  constructor
  · rintro ⟨texts, clean⟩ value present
    obtain ⟨text, rfl⟩ := texts value present
    have given := ((present?_eq_some_iff members field _).1 present).1
    rw [given] at clean
    exact ⟨text, rfl, checkExpression_eq_nil.1 clean⟩
  · intro each
    constructor
    · intro value present
      obtain ⟨text, same, _⟩ := each value present
      exact ⟨text, same⟩
    · split
      · rename_i text given
        have present := (present?_eq_some_iff members field _).2 ⟨given, by simp⟩
        obtain ⟨_, same, readable⟩ := each _ present
        cases same
        exact checkExpression_eq_nil.2 readable
      · rfl

theorem checkEvent_eq_nil {event : Json} : checkEvent path event = [] ↔ IsEvent event := by
  cases event with
  | object members =>
    rw [checkEvent, List.append_eq_nil_iff, checkText_eq_nil, checkText_eq_nil]
    constructor
    · rintro ⟨event, action⟩
      exact .mk event action
    · rintro ⟨event, action⟩
      exact ⟨event, action⟩
  | _ =>
    simp only [checkEvent, List.cons_ne_nil, false_iff]
    nofun

theorem checkEvents_eq_nil {events : Json} : checkEvents path events = [] ↔ IsEvents events := by
  cases events with
  | array items =>
    simp only [checkEvents, IsEvents, List.flatMap_eq_nil_iff, checkEvent_eq_nil,
      Json.array.injEq, exists_eq_left']
    constructor
    · intro each event member
      obtain ⟨index, bound, rfl⟩ := List.getElem_of_mem member
      exact each (items[index], index) (List.mem_zipIdx_iff_getElem?.2 (by simp [bound]))
    · intro each entry member
      exact each entry.1 (List.fst_mem_of_mem_zipIdx member)
  | _ => simp [checkEvents, IsEvents]

theorem checkName_eq_nil : checkName members field path = [] ↔ Allows members field IsName := by
  rw [checkName, Allows]
  split
  · rename_i absent
    simp [absent]
  · rename_i text given
    simp only [given, Option.some.injEq, forall_eq', IsName, Json.str.injEq, exists_eq_left',
      ← Text.isBlankText_eq_false_iff]
    cases Text.isBlankText text <;> simp
  · rename_i value other given
    simp only [given, Option.some.injEq, List.cons_ne_nil, false_iff, forall_eq']
    rintro ⟨text, same, _⟩
    exact other text same

/-- The source of a loop is fine when it is a visible text that can be read. -/
theorem source_clean :
    checkText members "source" path = [] ∧ checkSource members path = .ok [] ↔
      ∃ source, members.get? "source" = some (.str source) ∧ Text.Visible source ∧
        Binding.Readable source := by
  rw [checkText_eq_nil, checkSource]
  constructor
  · rintro ⟨⟨source, given, visible⟩, clean⟩
    rw [(text?_eq_some_iff members "source" source).2 ⟨given, visible⟩] at clean
    exact ⟨source, given, visible, checkExpression_eq_nil.1 clean⟩
  · rintro ⟨source, given, visible, readable⟩
    rw [(text?_eq_some_iff members "source" source).2 ⟨given, visible⟩]
    exact ⟨⟨source, given, visible⟩, checkExpression_eq_nil.2 readable⟩

theorem checkLoop_eq_nil {loop : Json} : checkLoop path loop = .ok [] ↔ IsLoop loop := by
  cases loop with
  | object members =>
    simp only [checkLoop, Outcome.bind_eq_ok, Outcome.pure_eq_ok, List.append_eq_nil_iff,
      checkName_eq_nil]
    constructor
    · rintro ⟨_, read, ⟨⟨given, rfl⟩, itemName⟩, indexName⟩
      obtain ⟨source, given, visible, readable⟩ := source_clean.1 ⟨given, read⟩
      exact .mk given visible readable itemName indexName
    · rintro ⟨given, visible, readable, itemName, indexName⟩
      obtain ⟨given, read⟩ : checkText members "source" path = [] ∧
          checkSource members path = .ok [] := source_clean.2 ⟨_, given, visible, readable⟩
      exact ⟨[], read, ⟨⟨given, rfl⟩, itemName⟩, indexName⟩
  | _ =>
    simp only [checkLoop, Except.ok.injEq, List.cons_ne_nil, false_iff]
    nofun

theorem checkEventsField_eq_nil :
    checkEventsField members path = [] ↔ Allows members "events" IsEvents := by
  rw [checkEventsField, Allows]
  cases Json.present? members "events" with
  | none => simp
  | some events => simp [checkEvents_eq_nil]

theorem checkLoopField_eq_nil :
    checkLoopField members path = .ok [] ↔ Allows members "loop" IsLoop := by
  rw [checkLoopField, Allows]
  cases Json.present? members "loop" with
  | none => simp
  | some loop => simp [checkLoop_eq_nil]

theorem checkRepeated_eq_nil {seen : List String} :
    checkRepeated members seen path = [] ↔ ∀ id, text? members "id" = some id → id ∉ seen := by
  rw [checkRepeated]
  cases text? members "id" with
  | none => simp
  | some id => simp

theorem checkOwn_eq_nil {seen : List String} :
    checkOwn path seen members = .ok [] ↔
      OwnFields members ∧ ∀ id, text? members "id" = some id → id ∉ seen := by
  simp only [checkOwn, Outcome.bind_eq_ok, Outcome.pure_eq_ok, List.append_eq_nil_iff,
    checkText_eq_nil, checkRepeated_eq_nil, checkObject_eq_nil, List.flatMap_eq_nil_iff,
    List.forall_mem_cons, checkEventsField_eq_nil, and_assoc]
  constructor
  · rintro ⟨_, bindingRead, _, conditionRead, _, loop, id, fresh, type, props, style,
      text, binding, condition, _, rfl, rfl, events, rfl⟩
    exact ⟨⟨id, type, props, style, checkOptionalText_eq_nil.1 text,
      expression_clean.1 ⟨binding, bindingRead⟩, expression_clean.1 ⟨condition, conditionRead⟩,
      events, checkLoopField_eq_nil.1 loop⟩, fresh⟩
  · rintro ⟨own, fresh⟩
    have clean (field : String) (allowed : Allows members field IsExpression) :
        checkOptionalText members field path = [] ∧
          checkExpressionField members field path = .ok [] := expression_clean.2 allowed
    obtain ⟨binding, bindingRead⟩ := clean "binding" own.binding
    obtain ⟨condition, conditionRead⟩ := clean "condition" own.condition
    exact ⟨[], bindingRead, [], conditionRead, [], checkLoopField_eq_nil.2 own.loop, own.id, fresh,
      own.type, own.props, own.style, checkOptionalText_eq_nil.2 own.text, binding, condition,
      nofun, rfl, rfl, own.events, rfl⟩

theorem checkChildrenIn_eq (path : String) (seen : List String) (members : Entries Json) :
    checkChildrenIn path seen members =
      match members.get? "children" with
      | none => .ok ([], seen)
      | some value => checkChildren (fieldPath path "children") seen value := by
  induction members with
  | nil => rfl
  | cons e rest ih =>
    obtain ⟨key, value⟩ := e
    rw [checkChildrenIn, Entries.get?_cons, ih]
    split <;> rfl

/-- What the check of one part of the tree comes to: the part is well-formed, its ids are new, and
they are remembered in reverse order. -/
def Clean (wellFormed : Prop) (ids seen after : List String) : Prop :=
  wellFormed ∧ ids.Nodup ∧ (∀ id ∈ ids, id ∉ seen) ∧ after = ids.reverse ++ seen

theorem checkItems_eq_nil {items : List Json} {index : Nat} {seen after : List String}
    (each : ∀ item ∈ items, ∀ (path : String) (seen after : List String),
      checkComponent path seen item = .ok ([], after) ↔
        Clean (IsComponent item) (componentIds item) seen after) :
    checkItems path index seen items = .ok ([], after) ↔
      Clean (∀ item ∈ items, IsComponent item) (itemIds items) seen after := by
  -- an item is checked against the ids of those before it, so the ids seen grow along the list
  induction items generalizing index seen with
  | nil => simp [checkItems, itemIds, Clean, eq_comm]
  | cons item rest ih =>
    have first := each item List.mem_cons_self
    have others (seen : List String) :
        checkItems path (index + 1) seen rest = .ok ([], after) ↔
          Clean (∀ item ∈ rest, IsComponent item) (itemIds rest) seen after :=
      ih fun other member => each other (List.mem_cons_of_mem _ member)
    simp only [checkItems, Outcome.bind_eq_ok, Outcome.pure_eq_ok, Prod.exists, Prod.mk.injEq,
      List.append_eq_nil_iff]
    constructor
    · rintro ⟨_, middle, here, _, _, below, ⟨rfl, rfl⟩, rfl⟩
      obtain ⟨isComponent, ids, fresh, rfl⟩ := (first _ _ _).1 here
      obtain ⟨components, restIds, restFresh, rfl⟩ := (others _).1 below
      refine ⟨List.forall_mem_cons.2 ⟨isComponent, components⟩, ?_, ?_, ?_⟩
      · refine List.nodup_append.2 ⟨ids, restIds, ?_⟩
        rintro id inFirst _ inRest rfl
        exact restFresh id inRest (by simp [inFirst])
      · intro id member
        rcases List.mem_append.1 member with inFirst | inRest
        · exact fresh id inFirst
        · exact fun old => restFresh id inRest (List.mem_append_right _ old)
      · simp [itemIds]
    · rintro ⟨components, ids, fresh, rfl⟩
      obtain ⟨isComponent, components⟩ := List.forall_mem_cons.1 components
      obtain ⟨firstIds, restIds, apart⟩ := List.nodup_append.1 ids
      refine ⟨[], _, (first _ _ _).2 ⟨isComponent, firstIds, ?_, rfl⟩, [], _,
        (others _).2 ⟨components, restIds, ?_, ?_⟩, ⟨rfl, rfl⟩, rfl⟩
      · exact fun id member => fresh id (List.mem_append_left _ member)
      · intro id member
        rw [List.mem_append, List.mem_reverse, not_or]
        exact ⟨fun inFirst => apart id inFirst id member rfl,
          fresh id (List.mem_append_right _ member)⟩
      · simp [itemIds]

/-- The children of a component are listed, if there are any, and each is well-formed. -/
def ChildrenField (members : Entries Json) : Prop :=
  (Allows members "children" fun value => ∃ items, value = .array items) ∧
    ∀ items, members.get? "children" = some (.array items) → ∀ item ∈ items, IsComponent item

theorem isComponent_object_iff :
    IsComponent (.object members) ↔ OwnFields members ∧ ChildrenField members := by
  constructor
  · rintro ⟨own, list, each⟩
    exact ⟨own, list, each⟩
  · rintro ⟨own, list, each⟩
    exact .mk own list each

theorem checkChildrenIn_eq_nil {seen after : List String}
    (each : ∀ items, members.get? "children" = some (.array items) →
      ∀ item ∈ items, ∀ (path : String) (seen after : List String),
        checkComponent path seen item = .ok ([], after) ↔
          Clean (IsComponent item) (componentIds item) seen after) :
    checkChildrenIn path seen members = .ok ([], after) ↔
      Clean (ChildrenField members) (childIdsIn members) seen after := by
  rw [checkChildrenIn_eq, childIdsIn_eq]
  -- null children and no children come to the same
  have nothing (wellFormed : ChildrenField members) :
      (Except.ok ([], seen) : Outcome (List Issue × List String)) = .ok ([], after) ↔
        Clean (ChildrenField members) [] seen after := by
    simp [Clean, wellFormed, eq_comm]
  cases given : members.get? "children" with
  | none => exact nothing ⟨by simp [Allows, present?_eq_some_iff, given], by simp [given]⟩
  | some value =>
    cases value with
    | null => exact nothing ⟨by simp [Allows, present?_eq_some_iff, given], by simp [given]⟩
    | array items =>
      have wellFormed : ChildrenField members ↔ ∀ item ∈ items, IsComponent item := by
        simp [ChildrenField, Allows, present?_eq_some_iff, given]
      simp only [checkChildren, Option.map_some, Option.getD_some, childIds, Clean, wellFormed]
      exact checkItems_eq_nil (each items given)
    | _ => simp [checkChildren, Clean, ChildrenField, Allows, present?_eq_some_iff, given]

/-- The check of a component goes through exactly for a well-formed one with ids of its own. -/
theorem checkComponent_eq_nil (value : Json) (path : String) (seen after : List String) :
    checkComponent path seen value = .ok ([], after) ↔
      Clean (IsComponent value) (componentIds value) seen after := by
  induction value using Json.component_induction generalizing path seen after with
  | step value ih =>
    cases value with
    | object members =>
      have below (seen : List String) : checkChildrenIn path seen members = .ok ([], after) ↔
          Clean (ChildrenField members) (childIdsIn members) seen after :=
        checkChildrenIn_eq_nil fun items given item member => ih members items rfl given item member
      simp only [checkComponent, Outcome.bind_eq_ok, Outcome.pure_eq_ok, Prod.exists, Prod.mk.injEq,
        List.append_eq_nil_iff]
      constructor
      · rintro ⟨_, ownClean, _, _, belowClean, ⟨rfl, rfl⟩, rfl⟩
        obtain ⟨own, fresh⟩ := checkOwn_eq_nil.1 ownClean
        obtain ⟨id, known⟩ := (hasText_iff members "id").1 own.id
        obtain ⟨children, ids, belowFresh, rfl⟩ := (below _).1 belowClean
        simp only [remember, known, List.mem_cons, not_or] at belowFresh
        simp only [Clean, componentIds, remember, known, Option.toList_some, List.singleton_append]
        refine ⟨isComponent_object_iff.2 ⟨own, children⟩, List.nodup_cons.2 ⟨?_, ids⟩, ?_, by simp⟩
        · exact fun member => (belowFresh id member).1 rfl
        · exact List.forall_mem_cons.2 ⟨fresh id known, fun other member =>
            (belowFresh other member).2⟩
      · rintro ⟨component, ids, fresh, rfl⟩
        obtain ⟨own, children⟩ := isComponent_object_iff.1 component
        obtain ⟨id, known⟩ := (hasText_iff members "id").1 own.id
        simp only [componentIds, known, Option.toList_some, List.singleton_append,
          List.nodup_cons] at ids fresh
        have idFresh : ∀ other, text? members "id" = some other → other ∉ seen := by
          intro other same
          cases known.symm.trans same
          exact fresh id List.mem_cons_self
        refine ⟨[], checkOwn_eq_nil.2 ⟨own, idFresh⟩, [], _,
          (below _).2 ⟨children, ids.2, ?_, ?_⟩, ⟨rfl, rfl⟩, rfl⟩
        · intro other member
          simp only [remember, known, List.mem_cons, not_or]
          exact ⟨fun same => ids.1 (same ▸ member), fresh other (List.mem_cons_of_mem _ member)⟩
        · simp [componentIds, remember, known]
    | _ =>
      simp only [checkComponent, Except.ok.injEq, Prod.mk.injEq, List.cons_ne_nil, false_and,
        false_iff]
      rintro ⟨isComponent, _⟩
      cases isComponent

theorem checkRoot_eq_nil :
    checkRoot members = .ok [] ↔
      ∃ root, members.get? "root" = some root ∧ IsComponent root ∧ (componentIds root).Nodup := by
  rw [checkRoot]
  cases members.get? "root" with
  | none => simp
  | some root =>
    simp only [Outcome.bind_eq_ok, Outcome.pure_eq_ok, Prod.exists, Option.some.injEq,
      exists_eq_left']
    constructor
    · rintro ⟨_, after, checked, rfl⟩
      obtain ⟨component, ids, _⟩ := (checkComponent_eq_nil root _ _ _).1 checked
      exact ⟨component, ids⟩
    · rintro ⟨component, ids⟩
      exact ⟨[], _, (checkComponent_eq_nil root _ _ _).2 ⟨component, ids, nofun, rfl⟩, rfl⟩

/-- The check finds nothing exactly in a well-formed document. -/
theorem check_eq_nil_iff (document : Json) : check document = .ok [] ↔ IsDocument document := by
  cases document with
  | object members =>
    simp only [check, Outcome.bind_eq_ok, Outcome.pure_eq_ok, List.append_eq_nil_iff,
      checkText_eq_nil, checkObject_eq_nil, and_assoc]
    constructor
    · rintro ⟨_, root, version, rfl, data, metadata⟩
      obtain ⟨root, given, component, ids⟩ := checkRoot_eq_nil.1 root
      exact .mk version given component ids data metadata
    · rintro ⟨version, given, component, ids, data, metadata⟩
      exact ⟨[], checkRoot_eq_nil.2 ⟨_, given, component, ids⟩, version, rfl, data, metadata⟩
  | _ =>
    simp only [check, Except.ok.injEq, List.cons_ne_nil, false_iff]
    nofun

end UiSchema.Schema
