import UiSchema.Proofs.Schema.Safety
import UiSchema.Render

/-! What a renderer does with a malformed condition, loop source or binding. The renderer here asks
a handler for the value of such an expression; with one that has no value to give it is the plain
renderer, and on a schema that is safe to render no handler is ever asked. -/

set_option autoImplicit false

namespace UiSchema

/-- What stands for the value of an expression that cannot be read. -/
abbrev Malformed := Path.SyntaxError → Outcome (Option Json)

/-- The value of a path, with malformed paths handed over. -/
def Binding.valueOr (malformed : Malformed) (expression : String) (data : Json) :
    Outcome (Option Json) := do
  match ← Path.parse expression with
  | .ok path => return (← path.resolve data).toOption
  | .error cause => malformed cause

namespace Malformed

variable (malformed : Malformed)

def passes (own : Attributes) (scope : Scope) : Outcome Bool :=
  match own.condition with
  | none => .ok true
  | some condition =>
    if condition.isEmpty then .ok true
    else do
      let value ← Binding.valueOr malformed (Binding.unwrap condition) scope.root
      return (value.map Binding.truthy).getD false

def items (l : Loop) (scope : Json) : Outcome (List Json) := do
  return Loop.itemsOf (← Binding.valueOr malformed (Binding.unwrap l.source) scope)

def ownContent (own : Attributes) (scope : Scope) : Outcome (List Node) :=
  match own.text.filter (!·.isEmpty), own.binding.filter (!·.isEmpty) with
  | some text, _ => do return [.text (← Binding.interpolate text scope.root)]
  | none, some binding => do
    Render.contentOf (← Binding.valueOr malformed (Binding.unwrap binding) scope.root)
  | none, none => .ok []

def element (host : Host) (own : Attributes) (below : Scope → Outcome (Option (List Node)))
    (scope : Scope) : Outcome (Option Node) :=
  match host.registry.get? own.type with
  | none => .ok (Render.placeholder host own)
  | some definition => do
    let props ← Render.propsOf definition own host.signals scope.root
    let content ← Render.childrenOr (malformed.ownContent own scope) (← below scope)
    return Render.draw host own props content

def single (host : Host) (own : Attributes) (below : Scope → Outcome (Option (List Node)))
    (scope : Scope) : Outcome (Option Node) := do
  if ← malformed.passes own scope then malformed.element host own below scope else return none

def allRounds (host : Host) (own : Attributes) (below : Scope → Outcome (Option (List Node)))
    (scope : Scope) (loop : Loop) (index : Nat) : List Json → Outcome (List Node)
  | [] => .ok []
  | item :: rest => do
    let inner := scope.enter loop.itemVariable loop.indexVariable item index
    let node ← malformed.single host (Render.round own index) below inner
    return node.toList ++ (← allRounds host own below scope loop (index + 1) rest)

def expand (host : Host) (own : Attributes) (below : Scope → Outcome (Option (List Node)))
    (scope : Scope) : Outcome (Option Node) :=
  match own.loop with
  | none => malformed.single host own below scope
  | some loop => do
    if ← malformed.passes own scope then
      let items ← malformed.items loop scope.root
      let rounds ← malformed.allRounds host own below scope loop 0 items
      return some (.element Render.fragmentType own.id [] rounds)
    else return none

mutual

def component (host : Host) : Component → Scope → Outcome (Option Node)
  | .mk own children, scope => malformed.expand host own (below host children) scope

def below (host : Host) : Option (List Component) → Scope → Outcome (Option (List Node))
  | none, _ => .ok none
  | some children, scope =>
    if children.isEmpty then .ok none else do return some (← siblings host children scope)

def siblings (host : Host) : List Component → Scope → Outcome (List Node)
  | [], _ => .ok []
  | child :: rest, scope => do
    let node ← component host child scope
    return node.toList ++ (← siblings host rest scope)

end

/-- The root node of a schema, rendered with a handler for malformed expressions. -/
def render (host : Host) (schema : Schema) (data : Option Json) : Outcome (Option Node) :=
  malformed.component host schema.root { data := Render.dataFor schema data }

/-- The handler makes no difference to an expression, whatever the data. -/
def Unasked (expression : String) : Prop :=
  ∀ data, Binding.valueOr malformed (Binding.unwrap expression) data =
    Binding.value? (Binding.unwrap expression) data

/-- An expression that can be read has the value that its path leads to. -/
theorem valueOr_of_parse {expression : String} {path : Path}
    (parsed : Path.parse expression = .ok (.ok path)) (data : Json) :
    Binding.valueOr malformed expression data = Binding.value? expression data := by
  rw [Binding.valueOr, Binding.value?, Path.resolveText, parsed]
  show (path.resolve data >>= _) = ((path.resolve data >>= _) >>= _)
  rw [bind_assoc]
  refine bind_congr fun answer => ?_
  cases answer <;> rfl

theorem unasked_of_readable {expression : String} (readable : Binding.Readable expression) :
    malformed.Unasked expression := by
  obtain ⟨path, parsed⟩ := readable
  exact malformed.valueOr_of_parse parsed

/-- With no value for a malformed expression the handler is what the renderer does by itself. -/
theorem none_unasked (expression : String) :
    Unasked (fun _ => .ok none) expression := by
  intro data
  cases parsed : Path.parse (Binding.unwrap expression) with
  | error raised =>
    rw [Binding.valueOr, Binding.value?_of_raised parsed, parsed]
    rfl
  | ok read =>
    cases read with
    | ok path => exact valueOr_of_parse _ parsed data
    | error cause =>
      rw [Binding.valueOr, Binding.value?, Path.resolveText, parsed]
      rfl

variable {malformed}

section Component

variable {own : Attributes} (unasked : ∀ e ∈ own.expressions, malformed.Unasked e)

include unasked

theorem passes_eq (scope : Scope) : malformed.passes own scope = Render.passes own scope := by
  obtain ⟨ofCondition, _, _⟩ := Attributes.forall_mem_expressions.1 unasked
  rw [passes, Render.passes]
  cases given : own.condition with
  | none => rfl
  | some condition => simp only [Binding.holds, ofCondition condition given scope.root]

theorem items_eq {loop : Loop} (given : own.loop = some loop) (scope : Json) :
    malformed.items loop scope = loop.items scope := by
  obtain ⟨_, _, ofLoop⟩ := Attributes.forall_mem_expressions.1 unasked
  rw [items, Loop.items, ofLoop loop given scope]

theorem ownContent_eq (scope : Scope) :
    malformed.ownContent own scope = Render.ownContent own scope := by
  obtain ⟨_, ofBinding, _⟩ := Attributes.forall_mem_expressions.1 unasked
  rw [ownContent, Render.ownContent]
  cases own.text.filter (!·.isEmpty) with
  | some text => rfl
  | none =>
    cases given : own.binding.filter (!·.isEmpty) with
    | none => rfl
    | some binding =>
      have ofGiven := ofBinding binding (Option.filter_eq_some_iff.1 given).1 scope.root
      simp only [ofGiven]

theorem single_eq (host : Host) (below : Scope → Outcome (Option (List Node))) (scope : Scope) :
    malformed.single host own below scope = Render.single host own below scope := by
  have sameElement : malformed.element host own below scope =
      Render.element host own below scope := by
    rw [element, Render.element]
    cases host.registry.get? own.type with
    | none => rfl
    | some definition => simp only [ownContent_eq unasked]
  rw [single, Render.single, passes_eq unasked, sameElement]

/-- A round has the expressions of the component, without those of the loop. -/
theorem round_unasked (index : Nat) :
    ∀ e ∈ (Render.round own index).expressions, malformed.Unasked e := by
  obtain ⟨ofCondition, ofBinding, _⟩ := Attributes.forall_mem_expressions.1 unasked
  exact Attributes.forall_mem_expressions.2 ⟨ofCondition, ofBinding, nofun⟩

theorem allRounds_eq (host : Host) (below : Scope → Outcome (Option (List Node))) (scope : Scope)
    (loop : Loop) (index : Nat) (items : List Json) :
    malformed.allRounds host own below scope loop index items =
      Render.allRounds host own below scope loop index items := by
  induction items generalizing index with
  | nil => rfl
  | cons item rest ih =>
    rw [allRounds, Render.allRounds]
    simp only [single_eq (round_unasked unasked index), ih]

theorem expand_eq (host : Host) (below : Scope → Outcome (Option (List Node))) (scope : Scope) :
    malformed.expand host own below scope = Render.expand host own below scope := by
  rw [expand, Render.expand]
  cases given : own.loop with
  | none => exact single_eq unasked host below scope
  | some loop =>
    simp only [passes_eq unasked, items_eq unasked given, allRounds_eq unasked]

end Component

theorem siblings_eq (host : Host) (children : List Component)
    (each : ∀ child ∈ children, malformed.component host child = Render.component host child) :
    malformed.siblings host children = Render.siblings host children := by
  funext scope
  induction children with
  | nil => rfl
  | cons child rest ih =>
    obtain ⟨first, others⟩ := List.forall_mem_cons.1 each
    rw [siblings, Render.siblings, first, ih others]

theorem below_eq (host : Host) (children : Option (List Component))
    (each : ∀ child ∈ children.getD [],
      malformed.component host child = Render.component host child) :
    malformed.below host children = Render.below host children := by
  funext scope
  cases children with
  | none => rfl
  | some children => rw [below, Render.below, siblings_eq host children each]

/-- Where the handler makes no difference to any expression of a tree it makes none to the tree. -/
theorem component_eq (host : Host) (c : Component)
    (unasked : ∀ d ∈ c.subtree, ∀ e ∈ d.own.expressions, malformed.Unasked e) :
    malformed.component host c = Render.component host c := by
  induction c using Component.tree_induction with
  | step own children ih =>
    obtain ⟨here, inChildren⟩ := Component.forall_mem_subtree_mk.1 unasked
    have sameBelow := below_eq host children fun child member =>
      ih child member (inChildren child member)
    have sameHere := expand_eq here host (Render.below host children)
    funext scope
    rw [component, Render.component, sameBelow]
    exact sameHere scope

/-- The renderer of the library is the one without a value for malformed expressions. -/
theorem render_none (host : Host) (schema : Schema) (data : Option Json) :
    render (fun _ => .ok none) host schema data = UiSchema.render host schema data := by
  rw [render, UiSchema.render, component_eq host schema.root fun _ _ e _ => none_unasked e]

theorem render_eq_of_safe (malformed : Malformed) (host : Host) {schema : Schema}
    (safe : schema.root.Safe) (data : Option Json) :
    malformed.render host schema data = UiSchema.render host schema data := by
  rw [render, UiSchema.render, component_eq host schema.root fun d member e inOwn =>
    unasked_of_readable malformed ((safe.each d member).expressions e inOwn)]

end Malformed

/-- Whatever reaches an application is safe to render: its ids tell its components apart, its names
can be seen and its expressions can be read, so no data and no round of a loop make the renderer
meet a malformed one. -/
theorem Schema.Delivered.safe_to_render {settings : Settings} {schema : Schema}
    (delivered : Schema.Delivered settings schema) :
    schema.root.Safe ∧ ∀ (malformed : Malformed) (host : Host) (data : Option Json),
      malformed.render host schema data = UiSchema.render host schema data := by
  obtain ⟨document, valid⟩ := delivered.validates
  have safe := Schema.validate_safe valid
  exact ⟨safe, fun malformed host data => malformed.render_eq_of_safe host safe data⟩

/-- A panel with a row for each item of a list, and a button in it. -/
def rowsDocument : Json :=
  .object [("version", .str "1.0"), ("root", .object
    [("id", .str "panel"), ("type", .str "Panel"), ("condition", .str "{{ open }}"),
     ("children", .array [
       .object [("id", .str "row"), ("type", .str "Text"), ("binding", .str "item.name"),
         ("loop", .object [("source", .str "rows[0].cells")])],
       .object [("id", .str "save"), ("type", .str "Button"), ("events", .array
         [.object [("event", .str "click"), ("action", .str "save")]])]])])]

def rowsSchema : Schema where
  version := some "1.0"
  root := .mk { id := "panel", type := "Panel", condition := some "{{ open }}" } (some [
    .mk { id := "row", type := "Text", binding := some "item.name"
          loop := some { source := "rows[0].cells" } } none,
    .mk { id := "save", type := "Button"
          events := some [{ event := "click", action := "save" }] } none])

theorem rows_safe_to_render :
    Schema.validate {} rowsDocument = .ok (.ok rowsSchema) ∧ rowsSchema.root.Safe ∧
      ∀ (malformed : Malformed) (host : Host) (data : Option Json),
        malformed.render host rowsSchema data = UiSchema.render host rowsSchema data :=
  have valid : Schema.validate {} rowsDocument = .ok (.ok rowsSchema) := rfl
  ⟨valid, Schema.Delivered.safe_to_render (.validated rowsDocument valid)⟩

end UiSchema
