import Mathlib.Data.String.Basic
import UiSchema.Proofs.Json.RoundTrip
import UiSchema.Proofs.Schema.Faithful
import UiSchema.Proofs.Schema.Safety

/-! Schemas dumped and loaded again. The check looks at the names of a loop under one spelling only,
and they are written under that spelling: a blank name that came in under the other one is refused
when the text is loaded. Nothing else of a validated schema is lost. -/

set_option autoImplicit false

namespace UiSchema

namespace Schema

theorem version_eq_some {members : Entries Json} {text : String} :
    Decode.optional members (.same "version") none
        (fun value => (Decode.nonEmptyString value).map some) = .ok (some text) ↔
      members.get? "version" = some (.str text) ∧ text ≠ "" := by
  have read (value : Json) :
      (Decode.nonEmptyString value).map some = .ok (some text) ↔ value = .str text ∧ text ≠ "" := by
    rw [← Decode.nonEmptyString_eq_ok]
    cases Decode.nonEmptyString value <;> simp [Decoded.map]
  simp [Decode.optional_same, read]

/-- A schema with a version of its own is decoded again from what it is written as. -/
theorem again_and_simpler {document : Json} {s : Schema} (decoded : decode document = .ok s)
    (version : s.version = some s.versionText) :
    decode s.toJson = .ok s ∧ s.toJson.Simpler document := by
  obtain ⟨members, rfl, readVersion, ⟨root, given, decodedRoot⟩, data, metadata⟩ :=
    decode_eq_ok.1 decoded
  rw [version] at readVersion
  obtain ⟨text, some⟩ := version_eq_some.1 readVersion
  obtain ⟨again, simpler⟩ := Component.again_and_simpler root s.root decodedRoot
  have written (key : String) := Style.get?_given s.fields_distinct key
  constructor
  · refine decode_eq_ok.2 ⟨Style.given s.fields, rfl, ?_, ⟨_, written "root", again⟩,
      Decode.faithful_dictionary.nullableField data s.fields_distinct rfl (.inr rfl),
      Metadata.faithful.nullableField metadata s.fields_distinct rfl (.inr rfl)⟩
    rw [version]
    exact version_eq_some.2 ⟨written "version", some⟩
  · refine Style.simpler_given s.fields_distinct ?_
    simp only [List.forall_mem_cons]
    refine ⟨.text text, ?_, Decode.faithful_dictionary.carried data,
      Metadata.faithful.carried metadata, nofun⟩
    rintro _ ⟨⟩
    exact ⟨"root", root, given, simpler⟩

end Schema

/-- What is safe and gives visible names to its loop is sound. -/
theorem Attributes.Safe.sound {own : Attributes} (safe : own.Safe)
    (names : ∀ loop ∈ own.loop, (∀ name ∈ loop.itemName, Text.Visible name) ∧
      ∀ name ∈ loop.indexName, Text.Visible name) : own.Sound := by
  obtain ⟨condition, binding, source⟩ := forall_mem_expressions.1 safe.expressions
  refine ⟨safe.id, safe.type, binding, condition, ?_, fun loop given => ?_⟩
  · intro events given
    have visible := safe.events
    rw [Option.mem_def.1 given] at visible
    exact visible
  · exact ⟨safe.source loop given, source loop given, (names loop given).1, (names loop given).2⟩

namespace Schema

/-- The names that the loops of a schema give have something to see in them. -/
def NamesVisible (s : Schema) : Prop :=
  ∀ c ∈ s.root.subtree, ∀ loop ∈ c.own.loop,
    (∀ name ∈ loop.itemName, Text.Visible name) ∧ ∀ name ∈ loop.indexName, Text.Visible name

theorem version_of_check {document : Json} {s : Schema} (checked : check document = .ok [])
    (decoded : decode document = .ok s) :
    s.version = some s.versionText ∧ Text.Visible s.versionText := by
  obtain ⟨⟨text, given, visible⟩, _, _, _, _, _⟩ := (check_eq_nil_iff document).1 checked
  obtain ⟨_, same, read, _⟩ := decode_eq_ok.1 decoded
  cases same
  cases version : s.version with
  | none =>
    rw [version] at read
    rcases Decode.optional_same.1 read with ⟨absent, _⟩ | ⟨value, _, decoded⟩
    · rw [given] at absent
      cases absent
    · cases full : Decode.nonEmptyString value <;> rw [full] at decoded <;> cases decoded
  | some found =>
    rw [version] at read
    cases given.symm.trans (version_eq_some.1 read).1
    have same : s.versionText = text := by
      rw [versionText, version, Option.getD_some]
    rw [same]
    exact ⟨rfl, visible⟩

/-- The check finds nothing in the written form of a validated schema but blank names of loops. -/
theorem check_toJson_of_validate {settings : Settings} {document : Json} {s : Schema}
    (valid : validate settings document = .ok (.ok s)) :
    check s.toJson = .ok [] ↔ s.NamesVisible := by
  obtain ⟨checked, decoded⟩ := validate_eq_ok valid
  have safe := validate_safe valid
  rw [check_toJson_iff]
  constructor
  · intro sound c member loop given
    have sound := (sound.each c member).loop loop given
    exact ⟨sound.itemName, sound.indexName⟩
  · intro names
    exact ⟨(version_of_check checked decoded).2,
      fun c member => (safe.each c member).sound (names c member), safe.ids⟩

theorem checkDepth_of_validate {settings : Settings} {document : Json} {s : Schema}
    (valid : validate settings document = .ok (.ok s)) :
    Json.checkDepth document settings.maxSchemaDepth = .ok () := by
  unfold validate at valid
  split at valid
  · cases valid
  · assumption

/-- A validated schema that was written out is validated again, but for blank names of loops. -/
theorem validate_toJson_of_validate {settings : Settings} {document : Json} {s : Schema}
    (valid : validate settings document = .ok (.ok s)) :
    validate settings s.toJson = .ok (.ok s) ↔ s.NamesVisible := by
  rw [← check_toJson_of_validate valid]
  constructor
  · exact fun again => (validate_eq_ok again).1
  · intro clean
    obtain ⟨checked, decoded⟩ := validate_eq_ok valid
    obtain ⟨again, simpler⟩ := again_and_simpler decoded (version_of_check checked decoded).1
    have shallow : Json.checkDepth s.toJson settings.maxSchemaDepth = .ok () :=
      Json.checkDepth_of_le simpler.depth (checkDepth_of_validate valid)
    rw [validate, shallow]
    dsimp only
    rw [clean]
    simp only [again]
    rfl

theorem checkSize_of_le {settings : Settings} {text : String}
    (fits : text.utf8ByteSize ≤ settings.maxSchemaSize) :
    Json.checkSize text settings.maxSchemaSize "UI schema" = .ok () := if_neg (by omega)

/-- What is left of loading a text that was written, and that the decoder bears, is to validate the
document. -/
theorem load_written_eq_validate {settings : Settings} {s : Schema} {indent : Int}
    (keyed : s.toJson.Keyed)
    (fits : (s.toJson.written indent).utf8ByteSize ≤ settings.maxSchemaSize)
    (floats : ∀ value, .float value ∈ s.toJson.words →
      Json.Legible .strict (s.toJson.encoding indent) (.float value))
    (within : s.toJson.Within .strict) :
    load settings (s.toJson.written indent) = validate settings s.toJson := by
  rw [load, checkSize_of_le fits, (Json.load_written_eq_ok keyed floats).2 ⟨within, rfl⟩]

/-- Dumping and loading is the identity on validated schemas exactly when the loops give visible
names and the decoder bears the text. -/
theorem load_encode_iff {settings : Settings} {document : Json} {s : Schema} {indent : Int}
    (keyed : document.Keyed) (valid : validate settings document = .ok (.ok s))
    (fits : ∀ text, s.encode indent = .ok text → text.utf8ByteSize ≤ settings.maxSchemaSize)
    (floats : ∀ value, .float value ∈ s.toJson.words →
      Json.Legible .strict (s.toJson.encoding indent) (.float value)) :
    (∃ text, s.encode indent = .ok text ∧ load settings text = .ok (.ok s)) ↔
      s.NamesVisible ∧ s.toJson.Within .strict := by
  obtain ⟨checked, decoded⟩ := validate_eq_ok valid
  obtain ⟨_, simpler⟩ := again_and_simpler decoded (version_of_check checked decoded).1
  have keyed := simpler.keyed keyed
  rw [← validate_toJson_of_validate valid]
  constructor
  · rintro ⟨text, encoded, loaded⟩
    obtain ⟨_, rfl⟩ := Json.encode_eq_ok.1 encoded
    rw [load, checkSize_of_le (fits _ encoded)] at loaded
    dsimp only at loaded
    split at loaded
    · cases loaded
    · rename_i found decodedText
      obtain ⟨within, rfl⟩ := (Json.load_written_eq_ok keyed floats).1 decodedText
      exact ⟨loaded, within⟩
  · rintro ⟨again, within⟩
    have encoded := Json.encode_of_fits within.fitsText indent
    exact ⟨_, encoded, (load_written_eq_validate keyed (fits _ encoded) floats within).trans again⟩

/-- A list of songs, each of which goes by the given name. -/
def playlist (name : String) : Schema :=
  { version := some "1.0"
    root := .mk
      { id := "songs", type := "List", loop := some { source := "songs", itemName := some name } }
      none
    data := some [("songs", .array [.int 1, .bool true])] }

/-- The document of the list, with the name in the spelling that the check does not look at. -/
def playlistDocument (name : String) : Json :=
  .object [("version", .str "1.0"),
    ("root", .object [("id", .str "songs"), ("type", .str "List"),
      ("loop", .object [("source", .str "songs"), ("item_name", .str name)])]),
    ("data", .object [("songs", .array [.int 1, .bool true])])]

theorem keyed_playlistDocument (name : String) : (playlistDocument name).Keyed := by
  simp [playlistDocument, Json.Keyed, Json.MembersKeyed, Json.ItemsKeyed, Entries.Distinct,
    Entries.keys]

theorem words_playlist (name : String) : (playlist name).toJson.words = [.int 1, .bool true] := rfl

theorem float_notMem_words_playlist (name : String) (value : Float) :
    .float value ∉ (playlist name).toJson.words := by
  simp [words_playlist]

theorem within_playlist (name : String) : (playlist name).toJson.Within .strict := by
  refine ⟨fun value member => ?_, ?_⟩
  · have one : value = 1 := by simpa [words_playlist] using member
    subst one
    decide
  · have nested : (playlist name).toJson.nesting = 3 := rfl
    rw [nested]
    decide

/-- The bytes of a schema as text, counted character by character. -/
theorem utf8ByteSize_written (s : Schema) (indent : Int) :
    (s.toJson.written indent).utf8ByteSize =
      String.utf8Len ((s.toJson.encoding indent).chars 0 s.toJson) := by
  rw [Json.written_eq, Json.Format.write, String.utf8ByteSize_ofList]

theorem encode_playlist (name : String) :
    (playlist name).encode 2 = .ok ((playlist name).toJson.written 2) :=
  Json.encode_of_fits (within_playlist name).fitsText 2

theorem fits_playlist (name : String) (either : name = "song" ∨ name = " ") :
    ((playlist name).toJson.written 2).utf8ByteSize ≤ ({} : Settings).maxSchemaSize := by
  rw [utf8ByteSize_written]
  rcases either with rfl | rfl <;> decide +kernel

theorem playlist_loaded :
    validate {} (playlistDocument "song") = .ok (.ok (playlist "song")) ∧
      ∃ text, (playlist "song").encode 2 = .ok text ∧
        load {} text = .ok (.ok (playlist "song")) := by
  have valid : validate {} (playlistDocument "song") = .ok (.ok (playlist "song")) := rfl
  have fits : ∀ text, (playlist "song").encode 2 = .ok text →
      text.utf8ByteSize ≤ ({} : Settings).maxSchemaSize := by
    intro text encoded
    obtain ⟨_, rfl⟩ := Json.encode_eq_ok.1 encoded
    exact fits_playlist "song" (.inl rfl)
  have names : (playlist "song").NamesVisible := by
    intro c member loop given
    have root : c = (playlist "song").root := List.mem_singleton.1 member
    subst root
    cases given
    refine ⟨?_, nofun⟩
    rintro _ ⟨⟩
    exact (Text.isBlankText_eq_false_iff _).1 (by decide)
  exact ⟨valid, (load_encode_iff (keyed_playlistDocument "song") valid fits fun value member =>
    absurd member (float_notMem_words_playlist "song" value)).2 ⟨names, within_playlist "song"⟩⟩

/-- A blank name is let in, written out and then refused. -/
theorem blank_playlist_refused :
    validate {} (playlistDocument " ") = .ok (.ok (playlist " ")) ∧
      (playlistDocument " ").Keyed ∧
      (playlist " ").toJson.words = [.int 1, .bool true] ∧
      ∃ text, (playlist " ").encode 2 = .ok text ∧
        text.utf8ByteSize ≤ ({} : Settings).maxSchemaSize ∧
        (load {} text).map Except.toBool = .ok false ∧
        load {} text ≠ .ok (.ok (playlist " ")) := by
  have valid : validate {} (playlistDocument " ") = .ok (.ok (playlist " ")) := rfl
  have fits := fits_playlist " " (.inr rfl)
  have keyed : (playlist " ").toJson.Keyed :=
    (again_and_simpler (validate_eq_ok valid).2 rfl).2.keyed (keyed_playlistDocument " ")
  have refused :
      (load {} ((playlist " ").toJson.written 2)).map Except.toBool = .ok false := by
    rw [load_written_eq_validate keyed fits (fun value member =>
      absurd member (float_notMem_words_playlist " " value)) (within_playlist " ")]
    rfl
  refine ⟨valid, keyed_playlistDocument " ", words_playlist " ", _, encode_playlist " ", fits,
    refused, fun loaded => ?_⟩
  rw [loaded] at refused
  cases refused

end Schema

end UiSchema
