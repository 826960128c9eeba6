import UiSchema.Settings
import UiSchema.Theme.Pack

/-! The set of theme packs and the active one, with its registry and templates. -/

set_option autoImplicit false

namespace UiSchema

/-- A change of the active theme. -/
structure ThemeChange where
  old : Option String
  new : String
  deriving DecidableEq, Repr

inductive ThemeError where
  | unknown (id : String)
  | noActive
  | alreadyThere (id : String)
  /-- The id is the one the refused document gives. -/
  | invalidPack (id : Json) (problems : List Problem)
  | defaultInUse (id : String)
  | noFallback (id : String)
  /-- A template of the pack cannot be registered. -/
  | badTemplate (cause : TemplateError)

namespace ThemeError

def message : ThemeError → String
  | .unknown id => s!"Theme with id \"{id}\" not found"
  | .noActive => "No active theme"
  | .alreadyThere id => s!"Theme with id \"{id}\" already exists"
  | .invalidPack _ problems => "; ".intercalate (problems.map Problem.text)
  | .defaultInUse id => s!"Cannot unregister the default theme \"{id}\""
  | .noFallback id =>
    s!"Cannot unregister active theme \"{id}\" without a default to fall back to"
  | .badTemplate cause => cause.message

def code? : ThemeError → Option String
  | .unknown _ | .noActive => some "THEME_NOT_FOUND"
  | .alreadyThere _ => some "THEME_ALREADY_EXISTS"
  | .invalidPack .. => some "INVALID_THEME_PACK"
  | .defaultInUse _ => some "CANNOT_UNINSTALL_BUILTIN"
  | .noFallback _ => some "CANNOT_UNINSTALL_ACTIVE"
  | .badTemplate _ => none

/-- The theme an error is about. -/
def themeId : ThemeError → Json
  | .unknown id | .alreadyThere id | .defaultInUse id | .noFallback id => .str id
  | .invalidPack id _ => id
  | .noActive | .badTemplate _ => .null

end ThemeError

/-- `Listener` tells listeners apart; one may be subscribed several times. -/
structure ThemeManager (Listener : Type) where
  defaultId : String
  themes : List Pack := []
  active : Option String := none
  registry : Option Registry := none
  /-- Counts the registries made so far: an earlier one is empty by now. -/
  generation : Nat := 0
  templates : Option TemplateStore := none
  listeners : List Listener := []
  /-- Counts the changes of the set of packs. -/
  revision : Nat := 0

/-- What became of a request: the manager after it, its result, and what was delivered to whom. -/
structure ThemeStep (Listener : Type) where
  manager : ThemeManager Listener
  result : Except ThemeError Unit
  delivered : List (Listener × ThemeChange) := []

/-- The theme to use where none is asked for. -/
def Settings.themeOr (s : Settings) (given : Option String) : String :=
  (given.filter (!·.isEmpty)).getD s.defaultThemeId

namespace ThemeManager

variable {Listener : Type}

def theme? (m : ThemeManager Listener) (id : String) : Option Pack :=
  m.themes.find? fun p => p.id == id

def has (m : ThemeManager Listener) (id : String) : Bool := (m.theme? id).isSome

def ids (m : ThemeManager Listener) : List String := m.themes.map (·.id)

def register (m : ThemeManager Listener) (p : Pack) :
    Except ThemeError (ThemeManager Listener) :=
  if m.has p.id then .error (.alreadyThere p.id)
  else .ok { m with themes := m.themes ++ [p], revision := m.revision + 1 }

/-- A pack given as a document. -/
def registerDocument (m : ThemeManager Listener) (document : Json) :
    Except ThemeError (Pack × ThemeManager Listener) :=
  match Pack.decode document with
  | .bad problems =>
    .error (.invalidPack (((document.members?.getD []).get? "id").getD .null) problems)
  | .ok p =>
    match m.register p with
    | .ok m => .ok (p, m)
    | .error e => .error e

/-- One listener is called with a change. The call counts also when the listener raises; whether it
does may depend on all calls up to this one. -/
def tell {Cause : Type} (raises : List (Listener × ThemeChange) → Option Cause)
    (change : ThemeChange) (listener : Listener) :
    ExceptT Cause (StateM (List (Listener × ThemeChange))) Unit := do
  modify (· ++ [(listener, change)])
  match raises (← get) with
  | some cause => throw cause
  | none => pure ()

/-- The listeners are called one after the other. What one of them raises goes to the log, and the
next one is called all the same. -/
def notify {Cause : Type} (m : ThemeManager Listener)
    (raises : List (Listener × ThemeChange) → Option Cause) (change : ThemeChange) :
    ExceptT Cause (StateM (List (Listener × ThemeChange))) Unit :=
  m.listeners.forM fun listener => tryCatch (tell raises change listener) fun _ => pure ()

/-- The registry is replaced before the templates are made. If one of them is refused, the old id
stays with the new registry and no templates. The listeners are told last, when all is done. -/
def activatePack (m : ThemeManager Listener) (p : Pack)
    (raises : List (Listener × ThemeChange) → Option String := fun _ => none) :
    ThemeStep Listener :=
  let m := { m with
    registry := some p.registry
    generation := m.generation + 1
    templates := m.templates.map TemplateStore.clear }
  match p.templateStore with
  | .error cause => { manager := m, result := .error (.badTemplate cause) }
  | .ok templates =>
    { manager := { m with templates := some templates, active := some p.id }
      result := .ok ()
      delivered := ((m.notify raises ⟨m.active, p.id⟩).run.run []).2 }

/-- The theme that is active already is not activated again. -/
def activate (m : ThemeManager Listener) (id : String)
    (raises : List (Listener × ThemeChange) → Option String := fun _ => none) :
    ThemeStep Listener :=
  match m.theme? id with
  | none => { manager := m, result := .error (.unknown id) }
  | some p =>
    if m.active = some id then { manager := m, result := .ok () } else m.activatePack p raises

def drop (m : ThemeManager Listener) (id : String) : ThemeManager Listener :=
  { m with themes := m.themes.filter fun p => p.id != id, revision := m.revision + 1 }

/-- Before the active theme goes the default one becomes active. -/
def unregister (m : ThemeManager Listener) (id : String)
    (raises : List (Listener × ThemeChange) → Option String := fun _ => none) :
    ThemeStep Listener :=
  if !m.has id then { manager := m, result := .error (.unknown id) }
  else if m.active = some id then
    if id = m.defaultId then { manager := m, result := .error (.defaultInUse id) }
    else if !m.has m.defaultId then { manager := m, result := .error (.noFallback id) }
    else
      let step := m.activate m.defaultId raises
      match step.result with
      | .error e => { step with result := .error e }
      | .ok () => { step with manager := step.manager.drop id }
  else { manager := m.drop id, result := .ok () }

def activePack (m : ThemeManager Listener) : Except ThemeError Pack :=
  match m.active.bind m.theme? with
  | some p => .ok p
  | none => .error .noActive

def activeRegistry (m : ThemeManager Listener) : Except ThemeError Registry :=
  match m.registry with
  | some r => .ok r
  | none => .error .noActive

def activeTemplates (m : ThemeManager Listener) : Except ThemeError TemplateStore :=
  match m.templates with
  | some t => .ok t
  | none => .error .noActive

/-- Whether the registry for a theme is the one in use. -/
def isLive (m : ThemeManager Listener) (id : String) : Bool :=
  m.active == some id && m.registry.isSome

/-- The registry in use for the active theme, and a fresh one for any other. -/
def registryFor (m : ThemeManager Listener) (id : String) : Except ThemeError Registry :=
  match (if m.isLive id then m.registry else none) with
  | some r => .ok r
  | none =>
    match m.theme? id with
    | some p => .ok p.registry
    | none => .error (.unknown id)

/-- The content now of the registry that was in use at some generation. -/
def registryAt (m : ThemeManager Listener) (generation : Nat) : Option Registry :=
  if generation = m.generation then m.registry else m.registry.map Registry.clear

def subscribe (m : ThemeManager Listener) (listener : Listener) : ThemeManager Listener :=
  { m with listeners := m.listeners ++ [listener] }

/-- The first subscription of the listener ends, if there is one. -/
def unsubscribe [BEq Listener] (m : ThemeManager Listener) (listener : Listener) :
    ThemeManager Listener :=
  { m with listeners := m.listeners.erase listener }

end ThemeManager

end UiSchema
