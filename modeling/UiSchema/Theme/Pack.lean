import UiSchema.Layer.Template
import UiSchema.Registry

/-! Theme packs: the definitions, examples, prompt texts, colors and templates of one visual
style. -/

set_option autoImplicit false

namespace UiSchema

/-- A worked example that prompts show. -/
structure Example where
  id : String
  name : String
  description : String := ""
  category : String := "general"
  tags : List String := []
  schema : Schema

/-- The texts of a prompt in one language. -/
structure PromptTexts where
  systemIntro : String
  iconGuidelines : String := ""
  negativeExamples : String := ""
  closing : String := ""
  componentsHeading : String := "## Available Components"
  examplesHeading : String := "## Examples"
  negativeHeading : String := "## Negative Examples (avoid)"
  colorsHeading : String := "## Color Scheme"

structure ColorScheme where
  id : String
  name : String
  type : String := "light"
  colors : Entries String := []

/-- Types, example ids and color scheme ids are unique within a pack. -/
structure Pack where
  id : String
  name : String
  description : String := ""
  version : String := "1.0.0"
  author : Option String := none
  components : List Definition := []
  examples : List Example := []
  prompts : Entries PromptTexts := []
  colorSchemes : List ColorScheme := []
  templates : Entries (List Template) := []
  examples_nodup : (examples.map (·.id)).Nodup := by decide
  components_nodup : (components.map (·.type)).Nodup := by decide
  colorSchemes_nodup : (colorSchemes.map (·.id)).Nodup := by decide

namespace Example

def decode : Decoder Example :=
  Decode.record "ThemeExample" fun members =>
    Example.mk
      <$> Decode.required members (.same "id") Decode.nonEmptyString
      <*> Decode.required members (.same "name") Decode.string
      <*> Decode.optional members (.same "description") "" Decode.string
      <*> Decode.optional members (.same "category") "general" Decode.string
      <*> Decode.optional members (.same "tags") [] (Decode.tuple Decode.string)
      <*> Decode.required members ⟨"schema", "ui_schema"⟩ Schema.decode

end Example

namespace PromptTexts

def toJson (p : PromptTexts) : Json :=
  .object
    [("systemIntro", .str p.systemIntro),
     ("iconGuidelines", .str p.iconGuidelines),
     ("negativeExamples", .str p.negativeExamples),
     ("closing", .str p.closing),
     ("componentsHeading", .str p.componentsHeading),
     ("examplesHeading", .str p.examplesHeading),
     ("negativeHeading", .str p.negativeHeading),
     ("colorsHeading", .str p.colorsHeading)]

def decode : Decoder PromptTexts :=
  Decode.record "PromptTemplates" fun members =>
    let start : PromptTexts := { systemIntro := "" }
    let text wire plain default := Decode.optional members ⟨wire, plain⟩ default Decode.string
    PromptTexts.mk
      <$> Decode.required members ⟨"systemIntro", "system_intro"⟩ Decode.string
      <*> text "iconGuidelines" "icon_guidelines" start.iconGuidelines
      <*> text "negativeExamples" "negative_examples" start.negativeExamples
      <*> text "closing" "closing" start.closing
      <*> text "componentsHeading" "components_heading" start.componentsHeading
      <*> text "examplesHeading" "examples_heading" start.examplesHeading
      <*> text "negativeHeading" "negative_heading" start.negativeHeading
      <*> text "colorsHeading" "colors_heading" start.colorsHeading

end PromptTexts

namespace ColorScheme

def toJson (s : ColorScheme) : Json :=
  .object
    [("id", .str s.id),
     ("name", .str s.name),
     ("type", .str s.type),
     ("colors", .object (s.colors.map fun (name, color) => (name, .str color)))]

/-- A scheme is for light or for dark surroundings. -/
def decodeType (value : Json) : Decoded String :=
  (Decode.string value).check fun type =>
    if type = "light" ∨ type = "dark" then none else some (.unmatched "^(light|dark)$")

def decode : Decoder ColorScheme :=
  Decode.record "ColorScheme" fun members =>
    ColorScheme.mk
      <$> Decode.required members (.same "id") Decode.nonEmptyString
      <*> Decode.required members (.same "name") Decode.string
      <*> Decode.optional members (.same "type") "light" decodeType
      <*> Decode.optional members (.same "colors") [] (Decode.dictionaryOf Decode.string)

end ColorScheme

namespace Pack

/-- The texts that stand more than once in a list, in order. -/
def repeated (names : List String) : List String :=
  ((names.filter fun name => 1 < names.count name).eraseDups).mergeSort fun a b => decide (a ≤ b)

def repeatedFault (id label : String) (names : List String) : Fault :=
  let listed := ", ".intercalate (repeated names)
  .rejected s!"duplicate {label} ids in theme {id}: {listed}"

/-- The fields of a pack before its lists are known to be free of repetition. -/
structure Fields where
  id : String
  name : String
  description : String
  version : String
  author : Option String
  components : List Definition
  examples : List Example
  prompts : Entries PromptTexts
  colorSchemes : List ColorScheme
  templates : Entries (List Template)

/-- Examples are looked at first, then components, then color schemes. -/
def ofFields (f : Fields) : Decoded Pack :=
  if e : (f.examples.map (·.id)).Nodup then
    if c : (f.components.map (·.type)).Nodup then
      if s : (f.colorSchemes.map (·.id)).Nodup then
        .ok
          { id := f.id, name := f.name, description := f.description, version := f.version
            author := f.author, components := f.components, examples := f.examples
            prompts := f.prompts, colorSchemes := f.colorSchemes, templates := f.templates
            examples_nodup := e, components_nodup := c, colorSchemes_nodup := s }
      else .fault (repeatedFault f.id "color scheme" (f.colorSchemes.map (·.id)))
    else .fault (repeatedFault f.id "component" (f.components.map (·.type)))
  else .fault (repeatedFault f.id "example" (f.examples.map (·.id)))

def decodeFields (members : Entries Json) : Decoded Fields :=
  Fields.mk
    <$> Decode.required members (.same "id") Decode.nonEmptyString
    <*> Decode.required members (.same "name") Decode.string
    <*> Decode.optional members (.same "description") "" Decode.string
    <*> Decode.optional members (.same "version") "1.0.0" Decode.string
    <*> Decode.nullableField members (.same "author") Decode.string
    <*> Decode.optional members (.same "components") [] (Decode.tuple Definition.decode)
    <*> Decode.optional members (.same "examples") [] (Decode.tuple Example.decode)
    <*> Decode.optional members (.same "prompts") [] (Decode.dictionaryOf PromptTexts.decode)
    <*> Decode.optional members ⟨"colorSchemes", "color_schemes"⟩ []
      (Decode.tuple ColorScheme.decode)
    <*> Decode.optional members (.same "templates") []
      (Decode.dictionaryOf (Decode.tuple Template.decode))

def decode : Decoder Pack :=
  Decode.record "ThemePack" fun members =>
    match decodeFields members with
    | .ok fields => ofFields fields
    | .bad problems => .bad problems

/-- A registry with the components of the pack. -/
def registry (p : Pack) : Registry := { name := p.id, definitions := p.components }

/-- The templates of all components, up to the first that is refused. -/
def registerTemplates (s : TemplateStore) :
    Entries (List Template) → Except TemplateError TemplateStore
  | [] => .ok s
  | (name, templates) :: rest =>
    match s.registerAll name templates with
    | .ok s => registerTemplates s rest
    | .error e => .error e

def templateStore (p : Pack) : Except TemplateError TemplateStore :=
  registerTemplates {} p.templates

/-- The prompt texts for a language, or the English ones. -/
def promptsFor? (p : Pack) (language : String) : Option PromptTexts :=
  (p.prompts.get? language).or (p.prompts.get? "en")

def example? (p : Pack) (id : String) : Option Example := p.examples.find? fun e => e.id == id

def colorScheme? (p : Pack) (id : String) : Option ColorScheme :=
  p.colorSchemes.find? fun s => s.id == id

end Pack

end UiSchema
