import UiSchema.Schema.Load

/-! Schemas picked out of text that arrives in chunks. -/

set_option autoImplicit false

namespace UiSchema

namespace Schema

/-- An object whose root has an id and a type. -/
def looksLike : Json → Bool
  | .object members =>
    match Entries.get? members "root" with
    | some (.object root) => Entries.contains root "id" && Entries.contains root "type"
    | _ => false
  | _ => false

/-- A document without a version gets the one of the settings. -/
def withVersion (settings : Settings) : Json → Json
  | .object members =>
    if Entries.contains members "version" then .object members
    else .object (Entries.put members "version" (.str settings.schemaVersion))
  | value => value

/-- The schema in a candidate, if it is one. -/
def ofBlock? (settings : Settings) (block : Json.Block) : Outcome (Option Schema) :=
  match Json.load block.content false with
  | .error _ => .ok none
  | .ok document =>
    if looksLike document then do
      return (← validate settings (withVersion settings document)).toOption
    else .ok none

def firstOf? (settings : Settings) : List Json.Block → Outcome (Option Schema)
  | [] => .ok none
  | block :: rest => do
    match ← ofBlock? settings block with
    | some schema => return some schema
    | none => firstOf? settings rest

/-- The first schema in a text. Nothing is found in a text that is too large. -/
def extract? (settings : Settings) (text : String) : Outcome (Option Schema) :=
  if !text.contains '\x7b' then .ok none
  else
    match Json.checkSize text settings.maxSchemaSize "model output" with
    | .error _ => .ok none
    | .ok () => firstOf? settings (Json.blocks text)

/-- A text is looked at if it has a brace and is not too large. -/
theorem extract?_eq (settings : Settings) (text : String) :
    extract? settings text =
      if '\x7b' ∈ text.toList ∧ text.utf8ByteSize ≤ settings.maxSchemaSize then
        firstOf? settings (Json.blocks text)
      else .ok none := by
  unfold extract? Json.checkSize
  by_cases brace : '\x7b' ∈ text.toList
  · by_cases large : settings.maxSchemaSize < text.utf8ByteSize
    · simp [String.contains_char_eq, brace, large, Nat.not_le.2 large]
    · simp [String.contains_char_eq, brace, large, Nat.not_lt.1 large]
  · simp [String.contains_char_eq, brace]

end Schema

/-- A text so far, the number of chunks in it, and the schema found last. -/
structure Stream where
  partials : Bool := true
  text : String := ""
  chunks : Nat := 0
  last : Option Schema := none

namespace Stream

def append (s : Stream) (chunk : String) : Stream :=
  if chunk.isEmpty then s else { s with text := s.text ++ chunk, chunks := s.chunks + 1 }

def isNew (s : Stream) (schema : Schema) : Bool :=
  match s.last with
  | none => true
  | some last => !schema.same last

/-- A chunk, and the schema that is found after it if that differs from the one found last. Before
the end of the text nothing is looked for unless partial texts are. -/
def feed (settings : Settings) (s : Stream) (chunk : String) (done : Bool) :
    Outcome (Option Schema × Stream) :=
  let s := s.append chunk
  if done || s.partials then do
    match ← Schema.extract? settings s.text with
    | none => return (none, s)
    | some schema =>
      if s.isNew schema then return (some schema, { s with last := some schema })
      else return (none, s)
  else .ok (none, s)

def reset (s : Stream) : Stream := { partials := s.partials }

def feedAll (settings : Settings) (s : Stream) :
    List String → Outcome (List Schema × Stream)
  | [] => .ok ([], s)
  | chunk :: rest => do
    let (found, s) ← s.feed settings chunk false
    let (others, s) ← feedAll settings s rest
    return (found.toList ++ others, s)

/-- All chunks of a text, then its end: the schemas found on the way, and the last one. -/
def collect (settings : Settings) (partials : Bool) (chunks : List String) :
    Outcome (List Schema × Option Schema) := do
  let (found, s) ← feedAll settings { partials } chunks
  let (lastFound, s) ← s.feed settings "" true
  return (found ++ lastFound.toList, s.last)

end Stream

end UiSchema
