import UiSchema.Json.Block
import UiSchema.Json.Reader
import UiSchema.Json.Repair

/-! Documents read from text, alone or inside prose, and limits on their size and depth. -/

set_option autoImplicit false

namespace UiSchema.Json

inductive LoadError where
  | unread (cause : ReadError)
  | beyondRepair
  | noBlock
  /-- The start of every candidate, with what is wrong there. -/
  | noDocument (causes : List (Nat × ReadError))
  | oversized (name : String) (size limit : Int)
  | overdeep (depth limit : Int)

/-- The members of objects are not told apart. -/
def Turn.text : Turn → String
  | .item index => s!"[{index}]"
  | .member => "[...]"

/-- The top of the document is not named. -/
def placeText (place : List Turn) : String :=
  if place.isEmpty then "" else " - at `$" ++ String.join (place.map Turn.text) ++ "`"

def ReadError.message : ReadError → String
  | .malformed => "Invalid JSON: ..."
  | .tooDeep => "JSON nesting too deep to decode"
  | .oversized place => "Invalid JSON: Integer value out of range" ++ placeText place

def LoadError.message : LoadError → String
  | .unread cause => cause.message
  | .beyondRepair => "JSON repair failed: ..."
  | .noBlock => "No JSON object found in text"
  | .noDocument causes =>
    "Failed to parse any JSON block: " ++
      "; ".intercalate (causes.map fun (start, cause) => s!"block at {start}: {cause.message}")
  | .oversized name size limit => s!"{name} size {size} bytes exceeds maximum {limit} bytes"
  | .overdeep depth limit => s!"JSON nesting depth {depth} exceeds maximum {limit}"

/-- Mended only where a document of the tolerant dialect cannot be read either. Nothing makes up for
a number that is too long. -/
def repair? (text : String) : Option Json :=
  match read .tolerant text with
  | .ok value => some value
  | .error (.oversized _) => none
  | .error _ => Repair.read? text

/-- A text that is nested too deeply is not mended. -/
def load (text : String) (repair : Bool) : Except LoadError Json :=
  match read .strict text with
  | .ok value => .ok value
  | .error .tooDeep => .error (.unread .tooDeep)
  | .error cause =>
    if repair then
      match repair? text with
      | some value => .ok value
      | none => .error .beyondRepair
    else .error (.unread cause)

/-- The first candidate that is a document, or the failures of all. -/
def firstDocument : List Block → Except (List (Nat × ReadError)) Json
  | [] => .error []
  | block :: rest =>
    match read .strict block.content with
    | .ok value => .ok value
    | .error cause =>
      match firstDocument rest with
      | .ok value => .ok value
      | .error causes => .error ((block.start, cause) :: causes)

/-- When no candidate is a document the first one is mended, if that is asked for. -/
def extract (text : String) (repair : Bool) : Except LoadError Json :=
  match blocks (Text.trim text) with
  | [] => .error .noBlock
  | first :: rest =>
    match firstDocument (first :: rest) with
    | .ok value => .ok value
    | .error causes => if repair then load first.content true else .error (.noDocument causes)

/-- The size of a text counts the bytes of its encoding. -/
def checkSize (text : String) (limit : Int) (name : String) : Except LoadError Unit :=
  let size : Int := text.utf8ByteSize
  if limit < size then .error (.oversized name size limit) else .ok ()

/-- The depth named is the first one beyond the limit. -/
def checkDepth (value : Json) (limit : Int) : Except LoadError Unit :=
  if limit < value.depth then .error (.overdeep (max 0 (limit + 1)) limit) else .ok ()

end UiSchema.Json
