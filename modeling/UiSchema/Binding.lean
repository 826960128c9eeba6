import UiSchema.Json.Format
import UiSchema.Path.Parser

/-! Bindings: paths in double braces that stand for values of a data document. A binding that is
malformed or leads nowhere stays in the text as it was written. -/

set_option autoImplicit false

namespace UiSchema.Binding

/-- A text cut into plain characters and bindings. -/
inductive Piece where
  | plain (c : Char)
  | binding (body : List Char)
  deriving DecidableEq, Repr

def openMark : List Char := ['\x7b', '\x7b']

def closeMark : List Char := ['\x7d', '\x7d']

/-- The written form of a piece. -/
def Piece.chars : Piece → List Char
  | .plain c => [c]
  | .binding body => openMark ++ body ++ closeMark

/-- The body of a binding whose opening braces were just read: at least one character, none of them
a closing brace, up to two closing braces. -/
def body? (cs : List Char) : Option (List Char) :=
  match cs.takeWhile (· != '\x7d'), cs.dropWhile (· != '\x7d') with
  | [], _ => none
  | body, '\x7d' :: '\x7d' :: _ => some body
  | _, _ => none

/-- `skip` characters belong to the binding found last. -/
def piecesFrom (skip : Nat) : List Char → List Piece
  | [] => []
  | c :: rest =>
    match skip with
    | skip + 1 => piecesFrom skip rest
    | 0 =>
      let found :=
        match c, rest with
        | '\x7b', '\x7b' :: inside => body? inside
        | _, _ => none
      match found with
      | some body => .binding body :: piecesFrom (body.length + 3) rest
      | none => .plain c :: piecesFrom 0 rest

def pieces (text : String) : List Piece := piecesFrom 0 text.toList

/-- The bodies of the bindings in a text, in order. -/
def bodies (text : String) : List String :=
  (pieces text).filterMap fun
    | .plain _ => none
    | .binding body => some (String.ofList body)

/-- The body of a text that is one binding, with space around it. -/
def single? (text : String) : Option String :=
  match Text.trimChars text.toList with
  | '\x7b' :: '\x7b' :: inside =>
    match body? inside with
    | some body =>
      if body.length + 2 = inside.length then some (String.ofList body) else none
    | none => none
  | _ => none

def isBinding : Json → Bool
  | .str text => (single? text).isSome
  | _ => false

/-- The path of a single binding, or of an expression without braces. -/
def unwrap (expression : String) : String :=
  Text.trim ((single? expression).getD expression)

/-- How a value is shown in a text. Null is shown as nothing, and a number that is whole without a
point. -/
def displayed : Json → String
  | .null => ""
  | .bool true => "true"
  | .bool false => "false"
  | .int value => toString value
  | .float value =>
    match (Binary64.ofFloat value).toInt? with
    | some whole => toString whole
    | none => Decimal.Layout.plain.write value
  | .str value => value
  | .array items => (Json.array items).written 0
  | .object members => (Json.object members).written 0

/-- The text of a value whose whole numbers can be written. -/
def display (value : Json) : Outcome String :=
  if value.fitsText then .ok (displayed value) else .error .tooManyDigits

/-- Null, zero, "not a number", false and everything empty do not hold. -/
def truthy : Json → Bool
  | .null => false
  | .bool value => value
  | .int value => value != 0
  | .float value => !value.isNaN && value != 0
  | .str value => !value.isEmpty
  | .array items => !items.isEmpty
  | .object members => !members.isEmpty

/-- The value of a single binding or of a bare path. -/
def resolve (expression : String) (data : Json) : Outcome (Except Path.ResolveError Json) :=
  Path.resolveText (unwrap expression) data

/-- The value of a path where malformed paths and misses are alike. -/
def value? (expression : String) (data : Json) : Outcome (Option Json) := do
  return (← Path.resolveText expression data).toOption

def Piece.interpolate (data : Json) : Piece → Outcome (List Char)
  | .plain c => .ok [c]
  | .binding body => do
    match ← value? (String.ofList body) data with
    | some value => return (← display value).toList
    | none => return (Piece.binding body).chars

def interpolatePieces (data : Json) : List Piece → Outcome (List Char)
  | [] => .ok []
  | piece :: rest => do
    let here ← piece.interpolate data
    return here ++ (← interpolatePieces data rest)

/-- A text with every binding replaced by the value it leads to. -/
def interpolate (template : String) (data : Json) : Outcome String := do
  return String.ofList (← interpolatePieces data (pieces template))

mutual

/-- The bindings in a text or in the members of an object, at any depth, are replaced; arrays stay
as they are. -/
def resolveIn (data : Json) : Json → Outcome Json
  | .str text => return .str (← interpolate text data)
  | .object members => return .object (← resolveMembers data members)
  | value => .ok value

def resolveMembers (data : Json) : List (String × Json) → Outcome (List (String × Json))
  | [] => .ok []
  | (key, value) :: rest => do
    let value ← resolveIn data value
    return (key, value) :: (← resolveMembers data rest)

end

/-- Whether the value of an expression holds. A malformed path or a miss does not. -/
def holds (condition : String) (data : Json) : Outcome Bool := do
  return ((← value? (unwrap condition) data).map truthy).getD false

end UiSchema.Binding
