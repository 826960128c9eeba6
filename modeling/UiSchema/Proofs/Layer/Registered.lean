import UiSchema.Layer.Template
import UiSchema.Proofs.Layer.Precedence

/-! Templates after a run of registrations. A template is kept under all its qualifiers but looked
up by that of its own layer alone. So of each layer the last template is found that has no other
qualifier, and one that has another is accepted and never found. -/

set_option autoImplicit false

namespace UiSchema

/-- No qualifier but the one that the layer asks for. -/
def Template.Plain (t : Template) : Prop :=
  (t.layer ≠ .platform → t.platform = none) ∧ (t.layer ≠ .theme → t.theme = none)

instance : DecidablePred Template.Plain := fun _ => inferInstanceAs (Decidable (_ ∧ _))

/-- What is looked for among the templates of a component. -/
inductive Slot where
  | base
  | platform (platform : Platform)
  | theme (theme : String)
  deriving DecidableEq, Repr

namespace Slot

/-- A template has the layer, and the qualifier that the layer asks for. Others do not matter. -/
def Holds (slot : Slot) (t : Template) : Prop :=
  match slot with
  | .base => t.layer = .base
  | .platform p => t.layer = .platform ∧ t.platform = some p
  | .theme id => t.layer = .theme ∧ t.theme = some id

instance (slot : Slot) : DecidablePred slot.Holds := fun t =>
  match slot with
  | .base => inferInstanceAs (Decidable (t.layer = .base))
  | .platform p => inferInstanceAs (Decidable (t.layer = .platform ∧ t.platform = some p))
  | .theme id => inferInstanceAs (Decidable (t.layer = .theme ∧ t.theme = some id))

def key (slot : Slot) (name : String) : TemplateKey :=
  match slot with
  | .base => { name, layer := .base }
  | .platform p => { name, layer := .platform, platform := some p }
  | .theme id => { name, layer := .theme, theme := some id }

theorem key_eq_iff (slot : Slot) (name given : String) (t : Template) :
    t.key given = slot.key name ↔ given = name ∧ slot.Holds t ∧ t.Plain := by
  obtain ⟨layer, platform, theme, schema, styles⟩ := t
  cases slot <;> cases layer <;>
    simp [Template.key, key, Holds, Template.Plain, and_comm]

end Slot

namespace TemplateStore

theorem get?_put (key other : TemplateKey) (t : Template)
    (templates : List (TemplateKey × Template)) :
    get? { templates := put key t templates } other =
      if key = other then some t else get? { templates } other := by
  induction templates with
  | nil => by_cases same : key = other <;> simp [get?, put, same]
  | cons e rest ih =>
    simp only [get?] at ih ⊢
    rw [put]
    by_cases replaced : e.1 = key
    · by_cases same : key = other <;> simp [replaced, same]
    · rw [if_neg replaced]
      by_cases first : e.1 = other
      · have different : key ≠ other := fun same => replaced (first.trans same.symm)
        simp [first, different]
      · simp only [List.find?_cons, first, decide_false, ih]

/-- A template that is refused leaves everything as it was. -/
def afterCall (s : TemplateStore) (call : String × Template) : TemplateStore :=
  match s.register call.1 call.2 with
  | .ok next => next
  | .error _ => s

/-- The store after registering in order what can be registered. -/
def registered (calls : List (String × Template)) : TemplateStore := calls.foldl afterCall {}

/-- The calls that are not refused. -/
def accepted (calls : List (String × Template)) : List (String × Template) :=
  calls.filter fun call => (call.2.refusal? call.1).isNone

theorem get?_afterCall (s : TemplateStore) (call : String × Template) (key : TemplateKey) :
    (s.afterCall call).get? key =
      if (call.2.refusal? call.1).isNone ∧ call.2.key call.1 = key then some call.2
      else s.get? key := by
  rw [afterCall, register]
  cases refused : call.2.refusal? call.1 with
  | some cause => simp
  | none => simp [get?_put]

theorem accepted_cons (call : String × Template) (rest : List (String × Template)) :
    accepted (call :: rest) =
      if (call.2.refusal? call.1).isNone then call :: accepted rest else accepted rest := by
  rw [accepted, List.filter_cons]
  rfl

/-- A key is answered by the last accepted template that has it. -/
theorem get?_foldl_afterCall (s : TemplateStore) (calls : List (String × Template))
    (key : TemplateKey) :
    (calls.foldl afterCall s).get? key =
      (((accepted calls).reverse.find? fun call => call.2.key call.1 = key).map (·.2)).or
        (s.get? key) := by
  induction calls generalizing s with
  | nil => simp [accepted]
  | cons call rest ih =>
    rw [List.foldl_cons, ih, get?_afterCall, accepted_cons]
    by_cases taken : (call.2.refusal? call.1).isNone = true
    · rw [if_pos taken, List.reverse_cons, List.find?_append]
      cases (accepted rest).reverse.find? fun call => call.2.key call.1 = key with
      | some later => simp
      | none => by_cases same : call.2.key call.1 = key <;> simp [taken, same]
    · rw [if_neg taken]
      simp [taken]

variable (calls : List (String × Template)) (name : String)

/-- The last accepted template of a component for a slot, whatever other qualifiers it has. -/
def lastAccepted (slot : Slot) : Option Template :=
  ((accepted calls).reverse.find? fun call => call.1 = name ∧ slot.Holds call.2).map (·.2)

/-- The last accepted template of a component for a slot that has no other qualifier. -/
def lastPlain (slot : Slot) : Option Template :=
  ((accepted calls).reverse.find? fun call =>
    call.1 = name ∧ slot.Holds call.2 ∧ call.2.Plain).map (·.2)

theorem get?_registered (slot : Slot) :
    (registered calls).get? (slot.key name) = lastPlain calls name slot := by
  rw [registered, get?_foldl_afterCall, lastPlain]
  simp [slot.key_eq_iff, get?]

/-- Looking for something more in a list finds the same exactly when what was found has it. -/
theorem map_find?_and_eq_iff {α β : Type} (l : List α) (value : α → β) (P : α → Prop)
    (Q : β → Prop) [DecidablePred P] [DecidablePred Q] :
    (l.find? fun a => P a ∧ Q (value a)).map value = (l.find? fun a => P a).map value ↔
      ∀ b ∈ (l.find? fun a => P a).map value, Q b := by
  constructor
  · intro same b found
    rw [← same] at found
    obtain ⟨a, held, rfl⟩ := Option.map_eq_some_iff.1 found
    have := List.find?_some held
    simp only [decide_eq_true_eq] at this
    exact this.2
  · intro all
    induction l with
    | nil => rfl
    | cons a rest ih =>
      by_cases holds : P a
      · have more : Q (value a) := all (value a) (by simp [holds])
        simp [holds, more]
      · simp only [List.find?_cons, holds, false_and, decide_false] at all ⊢
        exact ih all

theorem lastPlain_eq_iff (slot : Slot) :
    lastPlain calls name slot = lastAccepted calls name slot ↔
      ∀ t ∈ lastAccepted calls name slot, t.Plain := by
  have more := map_find?_and_eq_iff (accepted calls).reverse (·.2)
    (fun call => call.1 = name ∧ slot.Holds call.2) Template.Plain
  simpa only [lastPlain, lastAccepted, and_assoc] using more

/-- The base with the platform layer and the theme layer over it, where they are there. -/
def resolve (last : Slot → Option Template) (p : Platform) (theme : Option String) :
    Option Schema :=
  (last .base).map fun base => base.schema.mergeAll
    [(last (.platform p)).map (·.schema),
      (theme.bind fun id => last (.theme id)).map (·.schema)]

theorem platform?_name (p : Platform) : platform? (some p.name) = .ok (some p) := by
  cases p <;> rfl

/-- No template is accepted for a theme without a name. -/
theorem lastPlain_theme_empty : lastPlain calls name (.theme "") = none := by
  rw [lastPlain, Option.map_eq_none_iff, List.find?_eq_none]
  intro call member
  have taken := (List.mem_filter.1 (List.mem_reverse.1 member)).2
  simp only [decide_eq_true_eq, not_and]
  rintro - ⟨layer, theme⟩ -
  have unnamed : call.2.hasTheme = false := by simp [Template.hasTheme, theme]
  rw [Template.refusal?] at taken
  split at taken
  · cases taken
  · rw [layer, unnamed] at taken
    cases taken

theorem ofTheme?_registered (theme : Option String) :
    (registered calls).ofTheme? name theme =
      theme.bind fun id => lastPlain calls name (.theme id) := by
  cases theme with
  | none => rfl
  | some id =>
    rw [ofTheme?, Option.bind_some]
    split
    · rename_i empty
      rw [String.isEmpty_iff.1 empty, lastPlain_theme_empty]
    · exact get?_registered calls name (.theme id)

/-- The effective schema is that of the last accepted templates without other qualifiers. -/
theorem effective?_eq_lastPlain (p : Platform) (theme : Option String) :
    (registered calls).effective? name (some p.name) theme =
      .ok (resolve (lastPlain calls name) p theme) := by
  have base : (registered calls).base? name = lastPlain calls name .base :=
    get?_registered calls name .base
  have platform : (registered calls).ofPlatform? name (some p) =
      lastPlain calls name (.platform p) := get?_registered calls name (.platform p)
  rw [effective?, base, resolve, platform?_name]
  cases lastPlain calls name .base with
  | none => rfl
  | some base =>
    dsimp only
    rw [overrides, platform, ofTheme?_registered]
    cases lastPlain calls name (.platform p) <;>
      cases theme.bind fun id => lastPlain calls name (.theme id) <;> rfl

/-- What is looked up for a platform and a theme. -/
def slots (p : Platform) (theme : Option String) : List Slot :=
  .base :: .platform p :: (theme.map Slot.theme).toList

/-- Over every run of registrations the effective schema is that of the last accepted templates
without other qualifiers. They are the last accepted ones of their slots exactly where those have no
other qualifier, and only then nothing is lost. -/
theorem effective?_registered (p : Platform) (theme : Option String) :
    (registered calls).effective? name (some p.name) theme =
        .ok (resolve (lastPlain calls name) p theme) ∧
      (∀ slot, lastPlain calls name slot = lastAccepted calls name slot ↔
        ∀ t ∈ lastAccepted calls name slot, t.Plain) ∧
      ((∀ slot ∈ slots p theme, ∀ t ∈ lastAccepted calls name slot, t.Plain) →
        (registered calls).effective? name (some p.name) theme =
          .ok (resolve (lastAccepted calls name) p theme)) := by
  refine ⟨effective?_eq_lastPlain calls name p theme, lastPlain_eq_iff calls name, fun plain => ?_⟩
  have same (slot : Slot) (member : slot ∈ slots p theme) :
      lastPlain calls name slot = lastAccepted calls name slot :=
    (lastPlain_eq_iff calls name slot).2 (plain slot member)
  have base := same .base List.mem_cons_self
  have platform := same (.platform p) (.tail _ List.mem_cons_self)
  rw [effective?_eq_lastPlain, resolve, resolve, base, platform]
  cases theme with
  | none => rfl
  | some id =>
    have theme := same (.theme id) (.tail _ (.tail _ List.mem_cons_self))
    rw [Option.bind_some, Option.bind_some, theme]

/-- A template of a component that consists of its root alone. -/
def rootTemplate (layer : Layer) (id : String) (platform : Option Platform)
    (theme : Option String) : Template :=
  { layer, platform, theme, schema := { root := .mk { id, type := "Button" } none } }

def themedCalls : List (String × Template) :=
  [("Button", rootTemplate .base "button" none none),
    ("Button", rootTemplate .platform "web" (some .pcWeb) (some "dark"))]

/-- A platform template that names a theme too is accepted and does not count. -/
theorem themed_platform_lost :
    ¬ ∀ (calls : List (String × Template)) (name : String) (p : Platform) (theme : Option String),
      accepted calls = calls → (lastAccepted calls name .base).isSome →
        (registered calls).effective? name (some p.name) theme =
          .ok (resolve (lastAccepted calls name) p theme) := by
  intro kept
  have found : (registered themedCalls).effective? "Button" (some "pc-web") none =
      .ok (resolve (lastAccepted themedCalls "Button") .pcWeb none) :=
    kept themedCalls "Button" .pcWeb none rfl rfl
  have ids : some "button" = some "web" :=
    congrArg (fun answer => (answer.toOption.bind id).map fun s : Schema => s.root.id) found
  exact absurd ids (by decide)

end TemplateStore

end UiSchema
