import UiSchema.Layer.Merge
import UiSchema.Registry.Definition

/-! Templates of components in three layers: the base, the platform over it, the theme on top. -/

set_option autoImplicit false

namespace UiSchema

inductive Layer where
  | base
  | platform
  | theme
  deriving DecidableEq, Repr

namespace Layer

def name : Layer → String
  | .base => "base"
  | .platform => "platform"
  | .theme => "theme"

def choices : List (String × Layer) := [.base, .platform, .theme].map fun l => (l.name, l)

end Layer

structure Template where
  layer : Layer
  platform : Option Platform := none
  theme : Option String := none
  schema : Schema
  styles : Entries String := []

/-- Templates with one key replace each other. -/
structure TemplateKey where
  name : String
  layer : Layer
  platform : Option Platform := none
  theme : Option String := none
  deriving DecidableEq, Repr

inductive TemplateError where
  | blankName
  | noPlatform (name : String)
  | noTheme (name : String)
  | qualifiedBase (name : String)
  | unknownPlatform (platform : String)
  | unknownLayer (layer : String)
  deriving DecidableEq, Repr

def TemplateError.message : TemplateError → String
  | .blankName => "Template component name cannot be empty"
  | .noPlatform name => s!"Platform template for {name} has no platform"
  | .noTheme name => s!"Theme template for {name} has no theme"
  | .qualifiedBase name => s!"Base template for {name} cannot target a platform or theme"
  | .unknownPlatform platform => s!"Unknown platform: {platform}"
  | .unknownLayer layer => s!"{Text.quote layer} is not a valid TemplateLayer"

namespace Template

def decode : Decoder Template :=
  Decode.record "ComponentTemplate" fun members =>
    Template.mk
      <$> Decode.required members (.same "layer") (Decode.choice Layer.choices)
      <*> Decode.nullableField members (.same "platform") (Decode.choice Platform.choices)
      <*> Decode.nullableField members (.same "theme") Decode.string
      <*> Decode.required members (.same "template") Schema.decode
      <*> Decode.optional members (.same "styles") [] (Decode.dictionaryOf Decode.string)

def hasTheme (t : Template) : Bool :=
  match t.theme with
  | some theme => !theme.isEmpty
  | none => false

/-- What keeps a template from being registered under a name. -/
def refusal? (t : Template) (name : String) : Option TemplateError :=
  if Text.isBlankText name then some .blankName
  else
    match t.layer with
    | .platform => if t.platform.isNone then some (.noPlatform name) else none
    | .theme => if t.hasTheme then none else some (.noTheme name)
    | .base => if t.platform.isSome || t.hasTheme then some (.qualifiedBase name) else none

def key (t : Template) (name : String) : TemplateKey :=
  { name, layer := t.layer, platform := t.platform, theme := t.theme }

end Template

/-- Templates in the order in which their keys were first used. -/
structure TemplateStore where
  templates : List (TemplateKey × Template) := []

namespace TemplateStore

def size (s : TemplateStore) : Nat := s.templates.length

def get? (s : TemplateStore) (key : TemplateKey) : Option Template :=
  (s.templates.find? fun e => e.1 = key).map (·.2)

/-- A template put over one with the same key takes its place. -/
def put (key : TemplateKey) (t : Template) :
    List (TemplateKey × Template) → List (TemplateKey × Template)
  | [] => [(key, t)]
  | e :: rest => if e.1 = key then (key, t) :: rest else e :: put key t rest

def register (s : TemplateStore) (name : String) (t : Template) :
    Except TemplateError TemplateStore :=
  match t.refusal? name with
  | some refusal => .error refusal
  | none => .ok { templates := put (t.key name) t s.templates }

/-- All of a list under one name, up to the first that is refused. -/
def registerAll (s : TemplateStore) (name : String) :
    List Template → Except TemplateError TemplateStore
  | [] => .ok s
  | t :: rest =>
    match s.register name t with
    | .ok s => registerAll s name rest
    | .error e => .error e

/-- A platform given by its name; none is given by nothing. -/
def platform? : Option String → Except TemplateError (Option Platform)
  | none => .ok none
  | some name =>
    match Platform.named? name with
    | some platform => .ok (some platform)
    | none => .error (.unknownPlatform name)

/-- The key of a template whose qualifiers are given by their names. -/
def keyNamed (name layer : String) (platform theme : Option String) :
    Except TemplateError TemplateKey :=
  match Entries.get? Layer.choices layer with
  | none => .error (.unknownLayer layer)
  | some layer =>
    match platform? platform with
    | .error e => .error e
    | .ok platform => .ok { name, layer, platform, theme }

def base? (s : TemplateStore) (name : String) : Option Template := s.get? { name, layer := .base }

def ofPlatform? (s : TemplateStore) (name : String) (platform : Option Platform) :
    Option Template :=
  s.get? { name, layer := .platform, platform }

/-- An empty theme has no templates. -/
def ofTheme? (s : TemplateStore) (name : String) (theme : Option String) : Option Template :=
  match theme with
  | some theme => if theme.isEmpty then none else s.get? { name, layer := .theme, theme }
  | none => none

/-- The platform layer and the theme layer, where there are any. -/
def overrides (s : TemplateStore) (name : String) (platform : Option Platform)
    (theme : Option String) : List Template :=
  (s.ofPlatform? name platform).toList ++ (s.ofTheme? name theme).toList

/-- The merged schema of a component, if it has a base. -/
def effective? (s : TemplateStore) (name : String) (platform theme : Option String) :
    Except TemplateError (Option Schema) :=
  match s.base? name with
  | none => .ok none
  | some base =>
    match platform? platform with
    | .error e => .error e
    | .ok platform =>
      .ok (some (base.schema.mergeAll
        ((s.overrides name platform theme).map fun t => some t.schema)))

/-- The style maps of all layers, later ones over earlier ones. -/
def styles (s : TemplateStore) (name : String) (platform theme : Option String) :
    Except TemplateError (Entries String) :=
  match platform? platform with
  | .error e => .error e
  | .ok platform =>
    .ok (((s.base? name).toList ++ s.overrides name platform theme).foldl
      (fun styles t => styles.putAll t.styles) [])

def has (s : TemplateStore) (key : TemplateKey) : Bool := (s.get? key).isSome

def remove (s : TemplateStore) (key : TemplateKey) : Bool × TemplateStore :=
  (s.has key, { templates := s.templates.filter fun e => e.1 ≠ key })

/-- The templates of a component in all layers. -/
def ofComponent (s : TemplateStore) (name : String) : List Template :=
  (s.templates.filter fun e => e.1.name == name).map (·.2)

def clear (_ : TemplateStore) : TemplateStore := {}

end TemplateStore

end UiSchema
