import UiSchema.Decode.Scalar
import UiSchema.Schema.Style

/-! Component definitions: what a theme publishes about each type of component. -/

set_option autoImplicit false

namespace UiSchema

/-- What components and templates can be made for. -/
inductive Platform where
  | pcWeb
  | mobileWeb
  | mobileNative
  | pcDesktop
  deriving DecidableEq, Repr

namespace Platform

def all : List Platform := [.pcWeb, .mobileWeb, .mobileNative, .pcDesktop]

def name : Platform → String
  | .pcWeb => "pc-web"
  | .mobileWeb => "mobile-web"
  | .mobileNative => "mobile-native"
  | .pcDesktop => "pc-desktop"

def choices : List (String × Platform) := all.map fun p => (p.name, p)

def named? (name : String) : Option Platform := Entries.get? choices name

end Platform

inductive PropType where
  | string
  | number
  | boolean
  | object
  | array
  | function
  deriving DecidableEq, Repr

namespace PropType

def name : PropType → String
  | .string => "string"
  | .number => "number"
  | .boolean => "boolean"
  | .object => "object"
  | .array => "array"
  | .function => "function"

def choices : List (String × PropType) :=
  [.string, .number, .boolean, .object, .array, .function].map fun t => (t.name, t)

/-- Documents hold no functions. -/
def admits : PropType → Json → Bool
  | .string, .str _ => true
  | .number, .int _ => true
  | .number, .float _ => true
  | .boolean, .bool _ => true
  | .object, .object _ => true
  | .array, .array _ => true
  | _, _ => false

end PropType

/-- The declared shape of one prop. -/
structure PropSchema where
  type : PropType
  required : Bool := false
  default : Json := .null
  description : String := ""
  choices : Option (List String) := none

structure Definition where
  type : String
  displayName : String := ""
  category : String := "display"
  propsSchema : Entries PropSchema := []
  defaultProps : Entries Json := []
  description : String := ""
  version : Option String := none
  platforms : List Platform := []
  tags : List String := []
  icon : Option String := none
  deprecated : Bool := false
  deprecationMessage : Option String := none

namespace PropSchema

def toJson (p : PropSchema) : Json :=
  .object
    [("type", .str p.type.name),
     ("required", .bool p.required),
     ("default", p.default),
     ("description", .str p.description),
     ("enum", Json.ofOption Json.strings p.choices)]

def decode : Decoder PropSchema :=
  Decode.record "PropSchema" fun members =>
    PropSchema.mk
      <$> Decode.required members (.same "type") (Decode.choice PropType.choices)
      <*> Decode.optional members (.same "required") false Decode.boolean
      <*> Decode.optional members (.same "default") .null Decode.anything
      <*> Decode.optional members (.same "description") "" Decode.string
      <*> Decode.nullableField members (.same "enum") (Decode.tuple Decode.string)

end PropSchema

namespace Definition

/-- The name to show, which is the type when no other is given. -/
def label (d : Definition) : String := if d.displayName.isEmpty then d.type else d.displayName

/-- A definition that names no platform is for all of them. -/
def supports (d : Definition) (platform : Platform) : Bool :=
  d.platforms.isEmpty || d.platforms.contains platform

def toJson (d : Definition) : Json :=
  .object
    [("type", .str d.type),
     ("displayName", .str d.displayName),
     ("category", .str d.category),
     ("propsSchema", .object (d.propsSchema.map fun (name, p) => (name, p.toJson))),
     ("defaultProps", .object d.defaultProps),
     ("description", .str d.description),
     ("version", Json.ofOption Json.str d.version),
     ("platforms", Json.strings (d.platforms.map Platform.name)),
     ("tags", Json.strings d.tags),
     ("icon", Json.ofOption Json.str d.icon),
     ("deprecated", .bool d.deprecated),
     ("deprecationMessage", Json.ofOption Json.str d.deprecationMessage)]

def decodeType (value : Json) : Decoded String :=
  (Decode.string value).check fun text =>
    if Text.isBlankText text then some (.rejected "component type cannot be empty") else none

def decodeVersion (value : Json) : Decoded (Option String) :=
  (Decode.nullable Decode.string value).check fun version =>
    match version with
    | some text =>
      if Text.isBlankText text then some (.rejected "version must be a non-empty string") else none
    | none => none

/-- A function that draws the component cannot stand in a document. -/
def decodeRender (value : Json) : Decoded Unit :=
  match value with
  | .null => .ok ()
  | _ => .fault .notCallable

def decode : Decoder Definition :=
  Decode.record "ComponentDefinition" fun members =>
    (fun type displayName category propsSchema defaultProps _ description version platforms tags
        icon deprecated deprecationMessage =>
      { type, displayName, category, propsSchema, defaultProps, description, version, platforms
        tags, icon, deprecated, deprecationMessage })
      <$> Decode.required members (.same "type") decodeType
      <*> Decode.optional members ⟨"displayName", "display_name"⟩ "" Decode.string
      <*> Decode.optional members (.same "category") "display" Decode.string
      <*> Decode.optional members ⟨"propsSchema", "props_schema"⟩ []
        (Decode.dictionaryOf PropSchema.decode)
      <*> Decode.optional members ⟨"defaultProps", "default_props"⟩ [] Decode.dictionary
      <*> Decode.optional members (.same "render") () decodeRender
      <*> Decode.optional members (.same "description") "" Decode.string
      <*> Decode.optional members (.same "version") none decodeVersion
      <*> Decode.optional members (.same "platforms") []
        (Decode.tuple (Decode.choice Platform.choices))
      <*> Decode.optional members (.same "tags") [] (Decode.tuple Decode.string)
      <*> Decode.nullableField members (.same "icon") Decode.string
      <*> Decode.optional members (.same "deprecated") false Decode.boolean
      <*> Decode.nullableField members ⟨"deprecationMessage", "deprecation_message"⟩ Decode.string

end Definition

end UiSchema
