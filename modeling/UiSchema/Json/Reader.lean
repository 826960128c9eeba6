import UiSchema.Json.Token

/-! Tokens read as a document. The reader keeps the open arrays and objects on a stack and looks at
one token at a time. -/

set_option autoImplicit false

namespace UiSchema.Json

/-- An open array, its items in reverse, or an open object. -/
inductive Open where
  | array (items : List Json)
  | object (members : Entries Json)

/-- An open array or object that waits for a value. -/
inductive Frame where
  | array (items : List Json)
  | member (members : Entries Json) (key : String)

/-- What may come next. -/
inductive Reading where
  | value (stack : List Frame)
  /-- The first item of an array, or its end. -/
  | firstItem (stack : List Frame)
  /-- The first key of an object, or its end. -/
  | firstKey (stack : List Frame)
  | key (members : Entries Json) (stack : List Frame)
  | colon (members : Entries Json) (key : String) (stack : List Frame)
  /-- A comma, or the end of what is open. -/
  | next (inside : Open) (stack : List Frame)
  | done (value : Json)

/-- From an array or an object to a value in it. -/
inductive Turn where
  | item (index : Nat)
  | member
  deriving DecidableEq, Repr

inductive ReadError where
  | malformed
  | tooDeep
  /-- A whole number is too long. The turns lead to it from the top of the document. -/
  | oversized (place : List Turn)
  deriving DecidableEq, Repr

/-- The turn to the value that is waited for. -/
def Frame.turn : Frame → Turn
  | .array items => .item items.length
  | .member _ _ => .member

def placeIn (stack : List Frame) : List Turn := stack.reverse.map Frame.turn

namespace Reading

/-- A complete value goes into the array or object around it. -/
def complete (value : Json) : List Frame → Reading
  | [] => .done value
  | .array items :: stack => .next (.array (value :: items)) stack
  | .member members name :: stack => .next (.object (members.put name value)) stack

def close : Open → Json
  | .array items => .array items.reverse
  | .object members => .object members

/-- One more array or object is opened. -/
def opened (d : Dialect) (stack : List Frame) (inside : Reading) : Except ReadError Reading :=
  if d.depth ≤ stack.length then .error .tooDeep else .ok inside

/-- The token is the first one of a value. -/
def begin (d : Dialect) (stack : List Frame) : Token → Except ReadError Reading
  | .leaf leaf => .ok (complete leaf stack)
  | .str content => .ok (complete (.str content) stack)
  | .openArray => opened d stack (.firstItem stack)
  | .openObject => opened d stack (.firstKey stack)
  | .oversized => .error (.oversized (placeIn stack))
  | _ => .error .malformed

def step (d : Dialect) : Reading → Token → Except ReadError Reading
  | .value stack, token => begin d stack token
  | .firstItem stack, .closeArray => .ok (complete (.array []) stack)
  | .firstItem stack, token => begin d (.array [] :: stack) token
  | .firstKey stack, .closeObject => .ok (complete (.object []) stack)
  | .firstKey stack, .str name => .ok (.colon [] name stack)
  | .key members stack, .str name => .ok (.colon members name stack)
  | .colon members name stack, .colon => .ok (.value (.member members name :: stack))
  | .next (.array items) stack, .comma => .ok (.value (.array items :: stack))
  | .next (.array items) stack, .closeArray => .ok (complete (close (.array items)) stack)
  | .next (.object members) stack, .comma => .ok (.key members stack)
  | .next (.object members) stack, .closeObject => .ok (complete (close (.object members)) stack)
  | _, _ => .error .malformed

def run (d : Dialect) : Reading → List Token → Except ReadError Reading
  | reading, [] => .ok reading
  | reading, token :: rest => do run d (← reading.step d token) rest

end Reading

def readChars (d : Dialect) (cs : List Char) : Except ReadError Json := do
  match ← Reading.run d (.value []) (tokens d cs) with
  | .done value => .ok value
  | _ => .error .malformed

def read (d : Dialect) (text : String) : Except ReadError Json := readChars d text.toList

end UiSchema.Json
