import UiSchema.Proofs.Layer.DeepMerge
import UiSchema.Proofs.Schema.Faithful

/-! Documents that are read and then merged. In the data a later null takes back what was given
before, at any depth. A null in the metadata is lost when the document is read: it cannot be told
from a field that was left out, and takes nothing back. -/

set_option autoImplicit false

namespace UiSchema

theorem Decode.of_nullableField {α : Type} {members : Entries Json} {name : String}
    {decode : Decoder α} {result : Option α} {value : Json}
    (read : nullableField members (.same name) decode = .ok result)
    (member : members.get? name = some value) (notNull : value ≠ .null) :
    ∃ found, decode value = .ok found ∧ result = some found := by
  have present := (Schema.present?_eq_some_iff members name value).2 ⟨member, notNull⟩
  rcases nullableField_same.1 read with ⟨absent, _⟩ | ⟨_, given, decoded⟩
  · cases absent.symm.trans present
  · cases given.symm.trans present
    exact decoded

/-- A text that may be null comes out as it stands in the document, null if it is left out. -/
theorem Decode.ofOption_of_nullableField {members : Entries Json} {name : String}
    {text : Option String} (read : nullableField members (.same name) string = .ok text) :
    Json.ofOption .str text = (members.get? name).getD .null := by
  cases text with
  | some text =>
    obtain ⟨value, present, decoded⟩ := nullableField_same_some read
    rw [((Schema.present?_eq_some_iff _ _ _).1 present).1, string_eq_ok.1 decoded]
    rfl
  | none =>
    rcases nullableField_same.1 read with ⟨absent, _⟩ | ⟨_, _, _, _, same⟩
    · rw [Json.present?] at absent
      split at absent
      · rename_i missing
        rw [missing]
        rfl
      · rename_i null
        rw [null]
        rfl
      · cases absent
    · cases same

namespace Metadata

inductive Field where
  | title
  | description

def Field.name : Field → String
  | .title => "title"
  | .description => "description"

def get? (m : Metadata) : Field → Option String
  | .title => m.title
  | .description => m.description

/-- The value of a field, null where it has none. -/
def value (m : Metadata) (field : Field) : Json := Json.ofOption .str (m.get? field)

/-- The later document says null where the earlier one has a text. -/
def TakesBack (known given : Entries Json) (field : Field) : Prop :=
  given.get? field.name = some .null ∧ ∃ text, known.get? field.name = some (.str text)

variable {known given : Entries Json} {base later : Metadata}

theorem get?_merge (base later : Metadata) (field : Field) :
    (base.merge later).get? field = (later.get? field).or (base.get? field) := by
  cases field <;> rfl

theorem value_of_decode (read : decode (.object known) = .ok base) (field : Field) :
    base.value field = (known.get? field.name).getD .null := by
  obtain ⟨_, same, title, description⟩ := decode_eq_ok.1 read
  cases same
  cases field with
  | title => exact Decode.ofOption_of_nullableField title
  | description => exact Decode.ofOption_of_nullableField description

/-- A later text counts, and else the earlier value. -/
theorem value_merge (base later : Metadata) (field : Field) :
    (base.merge later).value field =
      if (later.value field).isNull then base.value field else later.value field := by
  rw [value, value, value, get?_merge]
  cases later.get? field <;> rfl

section Read

variable (readBase : decode (.object known) = .ok base)
include readBase

theorem takesBack_iff {field : Field} : TakesBack known given field ↔
    given.get? field.name = some .null ∧ base.value field ≠ .null := by
  refine and_congr_right fun _ => ?_
  have held := value_of_decode readBase field
  constructor
  · rintro ⟨text, found⟩ null
    rw [null, found] at held
    cases held
  · intro notNull
    cases given : base.get? field with
    | none => exact absurd (by rw [value, given]; rfl) notNull
    | some text =>
      refine ⟨text, ?_⟩
      rw [value, given] at held
      cases found : known.get? field.name with
      | none =>
        rw [found] at held
        cases held
      | some value =>
        rw [found] at held
        exact congrArg some held.symm

variable (readLater : decode (.object given) = .ok later)
include readLater

/-- The later document decides on the fields that it mentions, except where it takes one back. -/
theorem value_merge_eq_iff (field : Field) :
    (base.merge later).value field =
        ((given.get? field.name).or (known.get? field.name)).getD .null ↔
      ¬ TakesBack known given field := by
  rw [takesBack_iff readBase, value_merge, value_of_decode readLater]
  cases given.get? field.name with
  | none => simp [value_of_decode readBase, Json.isNull]
  | some value => cases value <;> simp [Json.isNull]

theorem value_merge_of_takesBack {field : Field} (back : TakesBack known given field) :
    (base.merge later).value field = (known.get? field.name).getD .null := by
  rw [value_merge, value_of_decode readLater, value_of_decode readBase, back.1]
  rfl

end Read

end Metadata

namespace Schema

/-- A schema, and what the document that it was read from says as data and as metadata. -/
structure Documented (document : Json) (data metadata : Entries Json) (s : Schema) : Prop where
  read : decode document = .ok s
  data : document.at? ["data"] = some (.object data)
  metadata : document.at? ["meta"] = some (.object metadata)

namespace Documented

variable {document : Json} {data metadata : Entries Json} {s : Schema}

theorem data_eq (documented : Documented document data metadata s) : s.data = some data := by
  obtain ⟨members, rfl, _, _, readData, _⟩ := decode_eq_ok.1 documented.read
  obtain ⟨_, _, ⟨⟩, member, ⟨⟩⟩ := Json.at?_cons_eq_some.1 documented.data
  obtain ⟨found, decoded, given⟩ := Decode.of_nullableField readData member nofun
  cases Decode.dictionary_eq_ok.1 decoded
  exact given

theorem metadata_eq (documented : Documented document data metadata s) :
    ∃ m, Metadata.decode (.object metadata) = .ok m ∧ s.metadata = some m := by
  obtain ⟨members, rfl, _, _, _, readMeta⟩ := decode_eq_ok.1 documented.read
  obtain ⟨_, _, ⟨⟩, member, ⟨⟩⟩ := Json.at?_cons_eq_some.1 documented.metadata
  exact Decode.of_nullableField readMeta member nofun

end Documented

/-- Of two documents that are read and merged the later one decides on the data that it mentions,
null included, and on the fields of the metadata, except where it takes a text back by null: there
the earlier text stays. -/
theorem merge_documented {baseDocument laterDocument : Json} {base later : Schema}
    {baseData baseMeta laterData laterMeta : Entries Json}
    (first : Documented baseDocument baseData baseMeta base)
    (second : Documented laterDocument laterData laterMeta later)
    (keyed : laterDocument.Keyed) :
    ∃ data metadata, (base.merge later).data = some data ∧
      (base.merge later).metadata = some metadata ∧ LaidOver baseData laterData data ∧
      ∀ field : Metadata.Field,
        (metadata.value field =
            ((laterMeta.get? field.name).or (baseMeta.get? field.name)).getD .null ↔
          ¬ Metadata.TakesBack baseMeta laterMeta field) ∧
        (Metadata.TakesBack baseMeta laterMeta field →
          metadata.value field = (baseMeta.get? field.name).getD .null) := by
  obtain ⟨before, readBefore, givenBefore⟩ := first.metadata_eq
  obtain ⟨after, readAfter, givenAfter⟩ := second.metadata_eq
  refine ⟨deepMerge baseData laterData, before.merge after, ?_, ?_,
    laidOver_deepMerge baseData (keyed.at? second.data), fun field => ⟨?_, ?_⟩⟩
  · show mergeOption deepMerge base.data later.data = _
    rw [first.data_eq, second.data_eq]
    rfl
  · show mergeOption Metadata.merge base.metadata later.metadata = _
    rw [givenBefore, givenAfter]
    rfl
  · exact Metadata.value_merge_eq_iff readBefore readAfter field
  · exact Metadata.value_merge_of_takesBack readBefore readAfter

/-- The document of an empty page. -/
def pageDocument (data metadata : Entries Json) : Json :=
  .object
    [("version", .str "1.0"), ("root", .object [("id", .str "page"), ("type", .str "Page")]),
      ("data", .object data), ("meta", .object metadata)]

def page (data : Entries Json) (metadata : Metadata) : Schema where
  version := some "1.0"
  root := .mk { id := "page", type := "Page" } none
  data := some data
  metadata := some metadata

def draftData : Entries Json := [("user", .object [("name", .str "Ada"), ("age", .int 36)])]

def draftMeta : Entries Json := [("title", .str "Draft"), ("description", .null)]

def draft : Schema := page draftData { title := some "Draft" }

/-- The name is taken back, at depth two. -/
def clearedData : Entries Json := [("user", .object [("name", .null)]), ("note", .null)]

/-- The title is taken back as well. -/
def clearedMeta : Entries Json := [("title", .null), ("description", .str "Cleared")]

def cleared : Schema := page clearedData { description := some "Cleared" }

theorem draft_documented :
    Documented (pageDocument draftData draftMeta) draftData draftMeta draft := ⟨rfl, rfl, rfl⟩

theorem cleared_documented :
    Documented (pageDocument clearedData clearedMeta) clearedData clearedMeta cleared :=
  ⟨rfl, rfl, rfl⟩

theorem keyed_draft : (pageDocument draftData draftMeta).Keyed := by
  simp [pageDocument, draftData, draftMeta, Json.Keyed, Json.MembersKeyed, Entries.Distinct,
    Entries.keys]

theorem keyed_cleared : (pageDocument clearedData clearedMeta).Keyed := by
  simp [pageDocument, clearedData, clearedMeta, Json.Keyed, Json.MembersKeyed, Entries.Distinct,
    Entries.keys]

theorem cleared_over_draft :
    Documented (pageDocument draftData draftMeta) draftData draftMeta draft ∧
      Documented (pageDocument clearedData clearedMeta) clearedData clearedMeta cleared ∧
      (pageDocument clearedData clearedMeta).Keyed ∧
      ∃ data metadata, (draft.merge cleared).data = some data ∧
        (draft.merge cleared).metadata = some metadata ∧ LaidOver draftData clearedData data ∧
        ∀ field : Metadata.Field,
          (metadata.value field =
              ((clearedMeta.get? field.name).or (draftMeta.get? field.name)).getD .null ↔
            ¬ Metadata.TakesBack draftMeta clearedMeta field) ∧
          (Metadata.TakesBack draftMeta clearedMeta field →
            metadata.value field = (draftMeta.get? field.name).getD .null) :=
  ⟨draft_documented, cleared_documented, keyed_cleared,
    merge_documented draft_documented cleared_documented keyed_cleared⟩

/-- Metadata does not follow the later document in everything: a title that it takes back stays. -/
theorem null_title_stays :
    ¬ ∀ (baseDocument laterDocument : Json) (base later : Schema)
        (baseData baseMeta laterData laterMeta : Entries Json),
      Documented baseDocument baseData baseMeta base →
      Documented laterDocument laterData laterMeta later →
      baseDocument.Keyed → laterDocument.Keyed →
      ∀ metadata ∈ (base.merge later).metadata, ∀ field : Metadata.Field,
        metadata.value field =
          ((laterMeta.get? field.name).or (baseMeta.get? field.name)).getD .null := by
  intro explicit
  have lost := explicit _ _ _ _ _ _ _ _ draft_documented cleared_documented keyed_draft
    keyed_cleared { title := some "Draft", description := some "Cleared" } rfl .title
  cases lost

end Schema

end UiSchema
