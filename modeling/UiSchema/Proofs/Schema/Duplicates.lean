import UiSchema.Proofs.Schema.Returns

/-! Ids that repeat. The check goes through the components of a document, each before its children,
and remembers their ids; it reports a component whose id it has met, whatever else is wrong with
the document. -/

set_option autoImplicit false

namespace UiSchema.Schema

open UiSchema.Outcome (Returns)

/-! ### Where ids are -/

/-- The id of a component in the document. The address tells which child to take at each step on
the way to it. -/
inductive HasId : Json → List Nat → String → Prop where
  | here {members : Entries Json} {id : String} (given : members.get? "id" = some (.str id))
    (visible : Text.Visible id) : HasId (.object members) [] id
  | child {members : Entries Json} {items : List Json} {i : Nat} {item : Json} {a : List Nat}
    {id : String} (children : members.get? "children" = some (.array items))
    (found : items[i]? = some item) (below : HasId item a id) : HasId (.object members) (i :: a) id

/-- The path of the component at an address, from the path that the way begins at. -/
def pathAt (path : String) : List Nat → String
  | [] => path
  | i :: rest => pathAt (indexPath (fieldPath path "children") i) rest

/-- An issue that reports the id at an address. -/
def duplicateAt (path : String) (entry : List Nat × String) : Issue :=
  ⟨fieldPath (pathAt path entry.1) "id", .duplicateId entry.2⟩

def duplicates (issues : List Issue) : List Issue :=
  issues.filter fun issue => issue.code == "DUPLICATE_ID"

/-! ### Issues of another kind -/

section

variable {members : Entries Json} {field path : String} {issues : List Issue}

@[simp] theorem duplicates_nil : duplicates [] = [] := rfl

@[simp] theorem duplicates_append (first second : List Issue) :
    duplicates (first ++ second) = duplicates first ++ duplicates second :=
  List.filter_append ..

theorem duplicates_flatMap {α : Type} {f : α → List Issue} {xs : List α}
    (each : ∀ x ∈ xs, duplicates (f x) = []) : duplicates (xs.flatMap f) = [] := by
  induction xs with
  | nil => rfl
  | cons x rest ih =>
    obtain ⟨here, others⟩ := List.forall_mem_cons.1 each
    rw [List.flatMap_cons, duplicates_append, here, ih others, List.append_nil]

@[simp] theorem duplicates_checkText : duplicates (checkText members field path) = [] := by
  rw [checkText]
  split
  · rfl
  · split <;> rfl
  · rfl

@[simp] theorem duplicates_checkObject : duplicates (checkObject members field path) = [] := by
  rw [checkObject]
  split <;> rfl

@[simp] theorem duplicates_checkOptionalText :
    duplicates (checkOptionalText members field path) = [] := by
  rw [checkOptionalText]
  split <;> rfl

@[simp] theorem duplicates_checkName : duplicates (checkName members field path) = [] := by
  rw [checkName]
  split
  · rfl
  · split <;> rfl
  · rfl

theorem duplicates_checkEvent (event : Json) : duplicates (checkEvent path event) = [] := by
  cases event with
  | object members => simp [checkEvent]
  | _ => rfl

@[simp] theorem duplicates_checkEventsField :
    duplicates (checkEventsField members path) = [] := by
  rw [checkEventsField]
  split
  · rename_i events _
    cases events with
    | array items => exact duplicates_flatMap fun entry _ => duplicates_checkEvent entry.1
    | _ => rfl
  · rfl

theorem duplicates_checkExpression {text : String}
    (checked : checkExpression text path = .ok issues) : duplicates issues = [] := by
  obtain ⟨read, _, same⟩ := Outcome.bind_eq_ok.1 checked
  cases read <;> cases same <;> rfl

theorem duplicates_checkExpressionField
    (checked : checkExpressionField members field path = .ok issues) : duplicates issues = [] := by
  rw [checkExpressionField] at checked
  split at checked
  · exact duplicates_checkExpression checked
  · cases checked
    rfl

theorem duplicates_checkSource (checked : checkSource members path = .ok issues) :
    duplicates issues = [] := by
  rw [checkSource] at checked
  split at checked
  · exact duplicates_checkExpression checked
  · cases checked
    rfl

theorem duplicates_checkLoopField (checked : checkLoopField members path = .ok issues) :
    duplicates issues = [] := by
  rw [checkLoopField] at checked
  split at checked
  · rename_i loop _
    cases loop with
    | object inner =>
      obtain ⟨source, read, same⟩ := Outcome.bind_eq_ok.1 checked
      cases same
      simp [duplicates_checkSource read]
    | _ => cases checked; rfl
  · cases checked
    rfl

/-- Of the issues of a component only one can be about an id that was met before. -/
theorem duplicates_checkOwn {seen : List String}
    (checked : checkOwn path seen members = .ok issues) :
    duplicates issues = checkRepeated members seen path := by
  obtain ⟨binding, ofBinding, checked⟩ := Outcome.bind_eq_ok.1 checked
  obtain ⟨condition, ofCondition, checked⟩ := Outcome.bind_eq_ok.1 checked
  obtain ⟨loop, ofLoop, same⟩ := Outcome.bind_eq_ok.1 checked
  cases same
  have repeated : duplicates (checkRepeated members seen path) =
      checkRepeated members seen path := by
    rw [checkRepeated]
    split
    · split <;> rfl
    · rfl
  simp [repeated, duplicates_checkExpressionField ofBinding,
    duplicates_checkExpressionField ofCondition, duplicates_checkLoopField ofLoop]

end

/-! ### What a part of the tree accounts for -/

/-- What the check owes for a part of the tree with some ids, when others were seen before it: these
and its own are seen after it, and the duplicates are its components, in their order, whose id was
seen before the part or stands at an earlier address in it. -/
structure Accounts (path : String) (ids : List Nat → String → Prop) (seen after : List String)
    (issues : List Issue) : Prop where
  seen_iff : ∀ id, id ∈ after ↔ id ∈ seen ∨ ∃ a, ids a id
  reported : ∃ repeated : List (List Nat × String), repeated.Pairwise (fun x y => x.1 < y.1) ∧
    (∀ a id, (a, id) ∈ repeated ↔ ids a id ∧ (id ∈ seen ∨ ∃ earlier < a, ids earlier id)) ∧
    duplicates issues = repeated.map (duplicateAt path)

namespace Accounts

variable {path : String} {ids ids' : List Nat → String → Prop} {seen middle after : List String}
  {issues others : List Issue}

theorem congr (accounts : Accounts path ids seen after issues)
    (same : ∀ a id, ids a id ↔ ids' a id) : Accounts path ids' seen after issues := by
  obtain rfl : ids = ids' := funext fun a => funext fun id => propext (same a id)
  exact accounts

/-- Only the duplicates among the issues count. -/
theorem of_duplicates (accounts : Accounts path ids seen after issues)
    (same : duplicates others = duplicates issues) : Accounts path ids seen after others :=
  ⟨accounts.seen_iff, same ▸ accounts.reported⟩

/-- A part without ids. -/
theorem none (plain : duplicates issues = []) :
    Accounts path (fun _ _ => False) seen seen issues where
  seen_iff := by simp
  reported := ⟨[], List.Pairwise.nil, by simp, plain⟩

/-- One part after the other. -/
theorem append (first : Accounts path ids seen middle issues)
    (second : Accounts path ids' middle after others)
    (before : ∀ a id b id', ids a id → ids' b id' → a < b) :
    Accounts path (fun a id => ids a id ∨ ids' a id) seen after (issues ++ others) where
  seen_iff id := by
    rw [second.seen_iff, first.seen_iff, or_assoc, ← exists_or]
  reported := by
    obtain ⟨xs, sortedXs, memXs, ofXs⟩ := first.reported
    obtain ⟨ys, sortedYs, memYs, ofYs⟩ := second.reported
    refine ⟨xs ++ ys, ?_, ?_, ?_⟩
    · refine List.pairwise_append.2 ⟨sortedXs, sortedYs, ?_⟩
      rintro ⟨a, id⟩ inXs ⟨b, id'⟩ inYs
      exact before a id b id' ((memXs a id).1 inXs).1 ((memYs b id').1 inYs).1
    · intro a id
      rw [List.mem_append, memXs, memYs, first.seen_iff]
      constructor
      · rintro (⟨own, old | ⟨earlier, less, there⟩⟩ |
          ⟨own, (old | ⟨earlier, there⟩) | ⟨earlier, less, there⟩⟩)
        · exact ⟨.inl own, .inl old⟩
        · exact ⟨.inl own, .inr ⟨earlier, less, .inl there⟩⟩
        · exact ⟨.inr own, .inl old⟩
        · exact ⟨.inr own, .inr ⟨earlier, before _ _ _ _ there own, .inl there⟩⟩
        · exact ⟨.inr own, .inr ⟨earlier, less, .inr there⟩⟩
      · rintro ⟨own | own, old | ⟨earlier, less, there | there⟩⟩
        · exact .inl ⟨own, .inl old⟩
        · exact .inl ⟨own, .inr ⟨earlier, less, there⟩⟩
        · -- what is in the second part does not come before the first one
          exact absurd less (List.lt_asymm (before _ _ _ _ own there))
        · exact .inr ⟨own, .inl (.inl old)⟩
        · exact .inr ⟨own, .inl (.inr ⟨earlier, there⟩)⟩
        · exact .inr ⟨own, .inr ⟨earlier, less, there⟩⟩
    · rw [duplicates_append, ofXs, ofYs, List.map_append]

/-- A child as a part of the tree around it. -/
theorem within {i : Nat}
    (accounts : Accounts (indexPath (fieldPath path "children") i) ids seen after issues) :
    Accounts path (fun a id => ∃ b, a = i :: b ∧ ids b id) seen after issues where
  seen_iff id := by
    rw [accounts.seen_iff]
    refine or_congr_right ⟨?_, ?_⟩
    · rintro ⟨b, there⟩
      exact ⟨i :: b, b, rfl, there⟩
    · rintro ⟨_, b, rfl, there⟩
      exact ⟨b, there⟩
  reported := by
    obtain ⟨xs, sorted, mem, ofXs⟩ := accounts.reported
    refine ⟨xs.map fun entry => (i :: entry.1, entry.2), ?_, ?_, ?_⟩
    · rw [List.pairwise_map]
      exact sorted.imp fun less => List.cons_lt_cons_self.2 less
    · intro a id
      simp only [List.mem_map, Prod.exists, mem, Prod.mk.injEq]
      constructor
      · rintro ⟨b, _, ⟨own, old | ⟨earlier, less, there⟩⟩, rfl, rfl⟩
        · exact ⟨⟨b, rfl, own⟩, .inl old⟩
        · exact ⟨⟨b, rfl, own⟩,
            .inr ⟨i :: earlier, List.cons_lt_cons_self.2 less, earlier, rfl, there⟩⟩
      · rintro ⟨⟨b, rfl, own⟩, old | ⟨_, less, earlier, rfl, there⟩⟩
        · exact ⟨b, id, ⟨own, .inl old⟩, rfl, rfl⟩
        · exact ⟨b, id, ⟨own, .inr ⟨earlier, List.cons_lt_cons_self.1 less, there⟩⟩, rfl, rfl⟩
    · rw [ofXs, List.map_map]
      rfl

end Accounts

/-! ### Along the tree -/

variable {members : Entries Json} {path : String} {seen after : List String} {issues : List Issue}

/-- The component itself has one id at most. -/
theorem accounts_own (checked : checkOwn path seen members = .ok issues) :
    Accounts path (fun a id => a = [] ∧ text? members "id" = some id) seen (remember seen members)
      issues := by
  have only := duplicates_checkOwn checked
  rw [checkRepeated] at only
  rw [remember]
  cases given : text? members "id" with
  | none =>
    rw [given] at only
    exact (Accounts.none only).congr (by simp)
  | some own =>
    rw [given] at only
    refine ⟨by simp [or_comm, eq_comm], ?_⟩
    -- at the empty address no other id comes first, so it depends on those seen before
    by_cases old : own ∈ seen
    · have reported : duplicates issues = [duplicateAt path ([], own)] := by
        rw [only]
        exact if_pos (by simpa using old)
      refine ⟨[([], own)], List.pairwise_singleton .., ?_, reported⟩
      intro a id
      simp only [List.mem_singleton, Prod.mk.injEq, Option.some.injEq]
      constructor
      · rintro ⟨rfl, rfl⟩
        exact ⟨⟨rfl, rfl⟩, .inl old⟩
      · rintro ⟨⟨rfl, rfl⟩, _⟩
        exact ⟨rfl, rfl⟩
    · have silent : duplicates issues = [] := by
        rw [only]
        exact if_neg (by simpa using old)
      refine ⟨[], List.Pairwise.nil, ?_, silent⟩
      intro a id
      simp only [List.not_mem_nil, Option.some.injEq, false_iff]
      rintro ⟨⟨rfl, rfl⟩, known | ⟨earlier, less, _⟩⟩
      · exact old known
      · exact List.not_lt_nil _ less

/-- Ids of the children from a number on. -/
def IdsFrom (start : Nat) (items : List Json) (a : List Nat) (id : String) : Prop :=
  ∃ i item b, items[i]? = some item ∧ a = (start + i) :: b ∧ HasId item b id

theorem idsFrom_cons (start : Nat) (item : Json) (rest : List Json) (a : List Nat) (id : String) :
    IdsFrom start (item :: rest) a id ↔
      (∃ b, a = start :: b ∧ HasId item b id) ∨ IdsFrom (start + 1) rest a id := by
  constructor
  · rintro ⟨_ | i, found, b, given, rfl, below⟩
    · cases given
      exact .inl ⟨b, rfl, below⟩
    · exact .inr ⟨i, found, b, given, by rw [Nat.add_right_comm, Nat.add_assoc], below⟩
  · rintro (⟨b, rfl, below⟩ | ⟨i, found, b, given, rfl, below⟩)
    · exact ⟨0, item, b, rfl, rfl, below⟩
    · exact ⟨i + 1, found, b, given, by rw [Nat.add_right_comm, Nat.add_assoc], below⟩

/-- What is said of one component, for whatever was seen before it. -/
def Accounted (value : Json) : Prop :=
  ∀ path seen issues after, checkComponent path seen value = .ok (issues, after) →
    Accounts path (HasId value) seen after issues

/-- The items are gone through one by one, with the ids of those before. -/
theorem accounts_items {items : List Json} {index : Nat}
    (each : ∀ item ∈ items, Accounted item)
    (checked : checkItems (fieldPath path "children") index seen items = .ok (issues, after)) :
    Accounts path (IdsFrom index items) seen after issues := by
  induction items generalizing index seen issues with
  | nil =>
    cases checked
    exact (Accounts.none rfl).congr (by simp [IdsFrom])
  | cons item rest ih =>
    obtain ⟨here, others⟩ := List.forall_mem_cons.1 each
    obtain ⟨⟨first, middle⟩, ofFirst, checked⟩ := Outcome.bind_eq_ok.1 checked
    obtain ⟨⟨further, last⟩, ofRest, same⟩ := Outcome.bind_eq_ok.1 checked
    cases same
    refine ((here _ _ _ _ ofFirst).within.append (ih others ofRest) ?_).congr
      fun a id => (idsFrom_cons index item rest a id).symm
    -- addresses in the first item begin with a smaller number than those in the others
    rintro _ _ _ _ ⟨b, rfl, _⟩ ⟨i, _, c, _, rfl, _⟩
    exact List.cons_lt_cons_iff.2 (.inl (by omega))

/-- Ids below a component with these members. -/
def IdsBelow (members : Entries Json) (a : List Nat) (id : String) : Prop :=
  ∃ items, members.get? "children" = some (.array items) ∧ IdsFrom 0 items a id

theorem accounts_below
    (each : ∀ items, members.get? "children" = some (.array items) → ∀ item ∈ items, Accounted item)
    (checked : checkChildrenIn path seen members = .ok (issues, after)) :
    Accounts path (IdsBelow members) seen after issues := by
  rw [checkChildrenIn_eq] at checked
  cases given : members.get? "children" with
  | none =>
    rw [given] at checked
    cases checked
    exact (Accounts.none rfl).congr (by simp [IdsBelow, given])
  | some value =>
    rw [given] at checked
    cases value with
    | array items =>
      refine (accounts_items (each items given) checked).congr fun a id => ?_
      simp [IdsBelow, given]
    | _ =>
      cases checked
      exact (Accounts.none rfl).congr (by simp [IdsBelow, given])

theorem hasId_object_iff (a : List Nat) (id : String) :
    HasId (.object members) a id ↔
      (a = [] ∧ text? members "id" = some id) ∨ IdsBelow members a id := by
  rw [text?_eq_some_iff]
  constructor
  · rintro (⟨given, visible⟩ | ⟨children, found, below⟩)
    · exact .inl ⟨rfl, given, visible⟩
    · exact .inr ⟨_, children, _, _, _, found, by rw [Nat.zero_add], below⟩
  · rintro (⟨rfl, given, visible⟩ | ⟨items, children, i, item, b, found, rfl, below⟩)
    · exact .here given visible
    · rw [Nat.zero_add]
      exact .child children found below

theorem component_accounted (value : Json) : Accounted value := by
  induction value using Json.component_induction with
  | step value ih =>
    intro path seen issues after checked
    cases value with
    | object members =>
      obtain ⟨own, ofOwn, checked⟩ := Outcome.bind_eq_ok.1 checked
      obtain ⟨⟨below, last⟩, ofBelow, same⟩ := Outcome.bind_eq_ok.1 checked
      cases same
      have children := accounts_below (ih members · rfl) ofBelow
      refine ((accounts_own ofOwn).append children ?_).congr
        fun a id => (hasId_object_iff a id).symm
      -- the component stands at the empty address, which comes before all others
      rintro _ _ _ _ ⟨rfl, _⟩ ⟨_, _, _, _, _, _, rfl, _⟩
      exact List.nil_lt_cons ..
    | _ =>
      cases checked
      exact (Accounts.none rfl).congr fun a id => iff_of_false not_false nofun

/-! ### Documents -/

/-- The id of a component in a schema document. -/
def DocumentHasId (document : Json) (a : List Nat) (id : String) : Prop :=
  ∃ members root, document = .object members ∧ Entries.get? members "root" = some root ∧
    HasId root a id

/-- An id that stands at an earlier component too. -/
def Repeats (document : Json) (a : List Nat) (id : String) : Prop :=
  DocumentHasId document a id ∧ ∃ earlier < a, DocumentHasId document earlier id

theorem accounts_document {document : Json} (checked : check document = .ok issues) :
    ∃ after, Accounts "root" (DocumentHasId document) [] after issues := by
  cases document with
  | object members =>
    obtain ⟨root, ofRoot, same⟩ := Outcome.bind_eq_ok.1 checked
    cases same
    rw [checkRoot] at ofRoot
    -- what the check of the other fields finds is of another kind
    have only : duplicates (checkText members "version" "" ++ root ++
        checkObject members "data" "" ++ checkObject members "meta" "") = duplicates root := by
      simp
    cases given : Entries.get? members "root" with
    | none =>
      rw [given] at ofRoot
      cases ofRoot
      refine ⟨[], (Accounts.none only).congr fun a id => ?_⟩
      simp [DocumentHasId, given]
    | some value =>
      rw [given] at ofRoot
      obtain ⟨⟨found, after⟩, ofValue, same⟩ := Outcome.bind_eq_ok.1 ofRoot
      cases same
      have accounts := (component_accounted value _ _ _ _ ofValue).of_duplicates only
      refine ⟨after, accounts.congr fun a id => ?_⟩
      simp [DocumentHasId, given]
  | _ =>
    cases checked
    refine ⟨[], (Accounts.none rfl).congr fun a id => iff_of_false not_false ?_⟩
    rintro ⟨_, _, ⟨⟩, _⟩

/-- The check finds nothing exactly in a well-formed document, and comes back unless an expression
in it has an overlong index. Then the duplicates that it reports are the components whose id an
earlier one has, each once and in the order of their addresses: that of a component is a beginning of
those of its children, and so comes before them. -/
theorem check_exact (document : Json) :
    (check document = .ok [] ↔ IsDocument document) ∧
    (Returns (check document) ↔ ∀ e, DocumentReads document e → Binding.Short e) ∧
    ∀ issues, check document = .ok issues →
      ∃ repeated : List (List Nat × String), repeated.Pairwise (fun x y => x.1 < y.1) ∧
        (∀ a id, (a, id) ∈ repeated ↔ Repeats document a id) ∧
        (issues.filter fun issue => issue.code == "DUPLICATE_ID") =
          repeated.map (duplicateAt "root") := by
  refine ⟨check_eq_nil_iff document, check_returns document, fun issues checked => ?_⟩
  obtain ⟨after, accounts⟩ := accounts_document checked
  obtain ⟨repeated, sorted, mem, reported⟩ := accounts.reported
  refine ⟨repeated, sorted, fun a id => (mem a id).trans ?_, reported⟩
  simp [Repeats]

/-- A document without a version, with an item that is no component and one without a type. -/
def brokenList : Json :=
  .object [("root", .object
    [("id", .str "list"), ("type", .str "List"), ("children", .array [
      .object [("id", .str "row"), ("type", .str "Row"), ("children", .array
        [.object [("id", .str "list"), ("type", .str "Text")]])],
      .int 5,
      .object [("id", .str "row")]])])]

def brokenListIssues : List Issue :=
  [⟨"version", .missingField "version"⟩,
    ⟨"root.children[0].children[0].id", .duplicateId "list"⟩,
    ⟨"root.children[1]", .componentNotObject⟩,
    ⟨"root.children[2].id", .duplicateId "row"⟩,
    ⟨"root.children[2].type", .missingField "type"⟩]

/-- Both components that repeat an id are found among what else is wrong. -/
theorem brokenList_duplicates :
    check brokenList = .ok brokenListIssues ∧ ¬ IsDocument brokenList ∧
      ∃ repeated : List (List Nat × String),
        (∀ a id, (a, id) ∈ repeated ↔ Repeats brokenList a id) ∧
        repeated.map (duplicateAt "root") =
          [⟨"root.children[0].children[0].id", .duplicateId "list"⟩,
            ⟨"root.children[2].id", .duplicateId "row"⟩] := by
  have checked : check brokenList = .ok brokenListIssues := rfl
  obtain ⟨clean, _, duplicates⟩ := check_exact brokenList
  obtain ⟨repeated, _, mem, reported⟩ := duplicates _ checked
  refine ⟨checked, fun isDocument => ?_, repeated, mem, reported.symm⟩
  cases checked.symm.trans (clean.2 isDocument)

end UiSchema.Schema
