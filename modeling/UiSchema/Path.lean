import UiSchema.Json
import UiSchema.Outcome
import UiSchema.Text.Quoted

/-! Paths into a document: member names and array indexes, as in `user.items[2].name`. -/

set_option autoImplicit false

namespace UiSchema

inductive Segment where
  | name (name : String)
  | index (index : Int)
  deriving DecidableEq, Repr

abbrev Path := List Segment

namespace Segment

def chars : Segment → List Char
  | .name key => '.' :: key.toList
  | .index i => '[' :: (toString i).toList ++ [']']

def fewDigits : Segment → Bool
  | .name _ => true
  | .index i => UiSchema.fewDigits i

end Segment

namespace Path

def dropDot : List Char → List Char
  | '.' :: rest => rest
  | cs => cs

/-- No dot stands before the first name. -/
def written (path : Path) : String := String.ofList (dropDot (path.flatMap Segment.chars))

/-- Written form. It takes numbers that can be written. -/
def format (path : Path) : Outcome String :=
  if path.all Segment.fewDigits then .ok path.written else .error .tooManyDigits

/-- Why a segment leads nowhere, as it is reported. -/
inductive MissCause where
  | notObject (name : String)
  | missingKey (name : String)
  | notArray (index : Int)
  | outOfRange (index : Int) (length : Nat)
  deriving DecidableEq, Repr

def MissCause.reason : MissCause → String
  | .notObject name => s!"cannot read {Text.quote name} of non-object"
  | .missingKey name => s!"missing key {Text.quote name}"
  | .notArray index => s!"cannot index non-array with [{index}]"
  | .outOfRange index length => s!"index {index} out of range (length {length})"

/-- A path that leads nowhere, in its written form, with the number of the segment that fails. -/
structure Miss where
  path : String
  segment : Nat
  cause : MissCause
  deriving DecidableEq, Repr

/-- What ends a walk along a path: a miss to report, or something that is raised. -/
inductive Halt where
  | miss (cause : MissCause)
  | raised (cause : Raised)
  deriving DecidableEq, Repr

/-- The item at an index; a negative index counts from the end. -/
def item? (items : List Json) (index : Int) : Option Json :=
  if 0 ≤ index then items[index.toNat]?
  else if 0 ≤ index + items.length then items[(index + items.length).toNat]?
  else none

/-- One step. Only objects have members and only arrays have items; texts have neither. An index is
only compared with the upper end of an array before the item is read. -/
def follow (value : Json) : Segment → Except Halt Json
  | .name key =>
    match value with
    | .object members =>
      match Entries.get? members key with
      | some found => .ok found
      | none => .error (.miss (.missingKey key))
    | _ => .error (.miss (.notObject key))
  | .index i =>
    match value with
    | .array items =>
      if items.length ≤ i then .error (.miss (.outOfRange i items.length))
      else
        match item? items i with
        | some found => .ok found
        | none => .error (.raised .beforeFirst)
    | _ => .error (.miss (.notArray i))

/-- The value at the end of the path, or the number of the first segment that fails. -/
def followFrom (position : Nat) : Path → Json → Except (Nat × Halt) Json
  | [], value => .ok value
  | segment :: rest, value =>
    match follow value segment with
    | .ok next => followFrom (position + 1) rest next
    | .error halt => .error (position, halt)

/-- A miss is reported with the written form of the path. -/
def report (written : String) : Except (Nat × Halt) Json → Outcome (Except Miss Json)
  | .ok value => .ok (.ok value)
  | .error (segment, .miss cause) => .ok (.error { path := written, segment, cause })
  | .error (_, .raised cause) => .error cause

/-- The path is written before it is followed. -/
def resolve (path : Path) (root : Json) : Outcome (Except Miss Json) := do
  report (← path.format) (followFrom 0 path root)

end Path

end UiSchema
