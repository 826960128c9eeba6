import UiSchema.Json.Format

/-! Documents decoded into the records of the library. Decoding does not stop at the first problem:
it reports every one, in the order of the fields. -/

set_option autoImplicit false

namespace UiSchema

/-- The shapes that a field can ask for. -/
inductive Shape where
  | string
  | integer
  | number
  | boolean
  | dictionary
  | list
  | tuple
  deriving DecidableEq, Repr

def Shape.name : Shape → String
  | .string => "string"
  | .integer => "integer"
  | .number => "number"
  | .boolean => "boolean"
  | .dictionary => "dictionary"
  | .list => "list"
  | .tuple => "tuple"

/-- What is wrong with one value. -/
inductive Fault where
  | missing
  | not (shape : Shape)
  | notRecord (name : String)
  | fractional
  | notFinite
  | unreadableInteger
  | oversizedInteger
  | unreadableNumber
  | unclearBoolean
  | tooShort
  | unmatched (pattern : String)
  | notAbove (bound : Int)
  | below (bound : Int)
  | notCallable
  | notAmong (choices : List String)
  | rejected (reason : String)
  deriving DecidableEq, Repr

/-- Choices in single quotes, with "or" before the last. -/
def listChoices (choices : List String) : String :=
  let quoted := choices.map fun choice => s!"'{choice}'"
  match quoted.reverse with
  | [] => ""
  | [only] => only
  | last :: others => ", ".intercalate others.reverse ++ " or " ++ last

def Fault.message : Fault → String
  | .missing => "Field required"
  | .not shape => s!"Input should be a valid {shape.name}"
  | .notRecord name => s!"Input should be a valid dictionary or instance of {name}"
  | .fractional => "Input should be a valid integer, got a number with a fractional part"
  | .notFinite => "Input should be a finite number"
  | .unreadableInteger =>
    "Input should be a valid integer, unable to parse string as an integer"
  | .oversizedInteger => "Unable to parse input string as an integer, exceeded maximum size"
  | .unreadableNumber => "Input should be a valid number, unable to parse string as a number"
  | .unclearBoolean => "Input should be a valid boolean, unable to interpret input"
  | .tooShort => "String should have at least 1 character"
  | .unmatched pattern => s!"String should match pattern '{pattern}'"
  | .notAbove bound => s!"Input should be greater than {bound}"
  | .below bound => s!"Input should be greater than or equal to {bound}"
  | .notCallable => "Input should be callable"
  | .notAmong choices => s!"Input should be {listChoices choices}"
  | .rejected reason => s!"Value error, {reason}"

/-- A fault and the way to it: member names as they were written, indexes, members of a choice. -/
structure Problem where
  location : List String
  fault : Fault
  deriving DecidableEq, Repr

namespace Problem

def locationText (p : Problem) : String := ".".intercalate p.location

def text (p : Problem) : String := s!"{p.locationText}: {p.fault.message}"

def within (step : String) (p : Problem) : Problem := { p with location := step :: p.location }

end Problem

/-- A decoded value, or all problems with it. -/
inductive Decoded (α : Type) where
  | ok (value : α)
  | bad (problems : List Problem)

namespace Decoded

variable {α β : Type}

def map (f : α → β) : Decoded α → Decoded β
  | .ok value => .ok (f value)
  | .bad problems => .bad problems

/-- Problems of both sides are kept, those of the left first. -/
def app (f : Decoded (α → β)) (x : Decoded α) : Decoded β :=
  match f, x with
  | .ok f, .ok value => .ok (f value)
  | .ok _, .bad problems => .bad problems
  | .bad problems, .ok _ => .bad problems
  | .bad first, .bad second => .bad (first ++ second)

instance : Applicative Decoded where
  pure := .ok
  map := map
  seq f x := app f (x ())

def fault (f : Fault) : Decoded α := .bad [⟨[], f⟩]

def within (step : String) : Decoded α → Decoded α
  | .ok value => .ok value
  | .bad problems => .bad (problems.map (Problem.within step))

/-- A further check of a value that was decoded. -/
def check (test : α → Option Fault) : Decoded α → Decoded α
  | .ok value =>
    match test value with
    | none => .ok value
    | some f => fault f
  | .bad problems => .bad problems

def toOption : Decoded α → Option α
  | .ok value => some value
  | .bad _ => none

def problems : Decoded α → List Problem
  | .ok _ => []
  | .bad problems => problems

/-- The values of a list, if all are good. -/
def all : List (Decoded α) → Decoded (List α)
  | [] => .ok []
  | x :: rest => app (map List.cons x) (all rest)

end Decoded

abbrev Decoder (α : Type) := Json → Decoded α

/-- The two spellings of a member: the wire name counts when both are given. -/
structure FieldName where
  wire : String
  plain : String

namespace FieldName

/-- A name that is spelled alike in both ways. -/
def same (name : String) : FieldName := ⟨name, name⟩

/-- The member and the spelling it was found under. -/
def find? (name : FieldName) (members : Entries Json) : Option (String × Json) :=
  match members.get? name.wire with
  | some value => some (name.wire, value)
  | none => (members.get? name.plain).map fun value => (name.plain, value)

end FieldName

namespace Decode

variable {α : Type}

/-- A member that has to be there. -/
def required (members : Entries Json) (name : FieldName) (decode : Decoder α) : Decoded α :=
  match name.find? members with
  | some (spelling, value) => (decode value).within spelling
  | none => (Decoded.fault .missing).within name.wire

/-- A member that may be left out. -/
def optional (members : Entries Json) (name : FieldName) (default : α) (decode : Decoder α) :
    Decoded α :=
  match name.find? members with
  | some (spelling, value) => (decode value).within spelling
  | none => .ok default

def nullable (decode : Decoder α) : Decoder (Option α)
  | .null => .ok none
  | value => (decode value).map some

/-- A member that may be left out or null. -/
def nullableField (members : Entries Json) (name : FieldName) (decode : Decoder α) :
    Decoded (Option α) :=
  optional members name none (nullable decode)

def anything : Decoder Json := .ok

def string : Decoder String
  | .str value => .ok value
  | _ => .fault (.not .string)

def nonEmptyString (value : Json) : Decoded String :=
  (string value).check fun text => if text.isEmpty then some .tooShort else none

def dictionary : Decoder (Entries Json)
  | .object members => .ok members
  | _ => .fault (.not .dictionary)

/-- Every member of an object, each under its key. -/
def dictionaryOf (decode : Decoder α) : Decoder (Entries α)
  | .object members =>
    Decoded.all (members.map fun (key, value) =>
      ((decode value).within key).map fun decoded => (key, decoded))
  | _ => .fault (.not .dictionary)

/-- Every item of an array, each under its index. -/
def items (decode : Decoder α) (values : List Json) : Decoded (List α) :=
  Decoded.all (values.zipIdx.map fun (value, index) => (decode value).within (toString index))

def list (decode : Decoder α) : Decoder (List α)
  | .array values => items decode values
  | _ => .fault (.not .list)

def tuple (decode : Decoder α) : Decoder (List α)
  | .array values => items decode values
  | _ => .fault (.not .tuple)

/-- The members of a record of the given name. -/
def record (name : String) (decode : Entries Json → Decoded α) : Decoder α
  | .object members => decode members
  | _ => .fault (.notRecord name)

/-- One of a fixed set of words. -/
def choice (choices : List (String × α)) : Decoder α
  | .str text =>
    match Entries.get? choices text with
    | some value => .ok value
    | none => .fault (.notAmong (choices.map (·.1)))
  | _ => .fault (.notAmong (choices.map (·.1)))

end Decode

end UiSchema
