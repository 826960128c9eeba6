import UiSchema.Schema.Component

/-! Schemas: a tree of components with the data it binds to. -/

set_option autoImplicit false

namespace UiSchema

structure Metadata where
  title : Option String := none
  description : Option String := none

/-- The version is kept apart from its default, which does not count as given. -/
structure Schema where
  version : Option String := none
  root : Component
  data : Option (Entries Json) := none
  metadata : Option Metadata := none

namespace Metadata

def toJson (m : Metadata) : Json :=
  .object (Style.given
    [("title", m.title.map Json.str), ("description", m.description.map Json.str)])

def decode : Decoder Metadata :=
  Decode.record "SchemaMeta" fun members =>
    Metadata.mk
      <$> Decode.nullableField members (.same "title") Decode.string
      <*> Decode.nullableField members (.same "description") Decode.string

end Metadata

namespace Schema

def defaultVersion : String := "1.0"

def versionText (s : Schema) : String := s.version.getD defaultVersion

def toJson (s : Schema) : Json :=
  .object (Style.given
    [("version", some (.str s.versionText)),
     ("root", some s.root.toJson),
     ("data", s.data.map Json.object),
     ("meta", s.metadata.map Metadata.toJson)])

def decode : Decoder Schema :=
  Decode.record "UISchema" fun members =>
    Schema.mk
      <$> Decode.optional members (.same "version") none
        (fun value => (Decode.nonEmptyString value).map some)
      <*> Decode.required members (.same "root") Component.decode
      <*> Decode.nullableField members (.same "data") Decode.dictionary
      <*> Decode.nullableField members (.same "meta") Metadata.decode

/-- Two schemas say the same: their values are equal, whichever defaults are written out. -/
def same (a b : Schema) : Bool := a.toJson.same b.toJson

/-- The schema as text, on one line when the indent is zero. -/
def encode (s : Schema) (indent : Int) : Outcome String := s.toJson.encode indent

end Schema

end UiSchema
