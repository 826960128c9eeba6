import UiSchema.Decimal.Binary64
import UiSchema.Entries

/-! Documents: what a schema, its data and its props are made of. Whole numbers have no size limit
and are kept apart from floating-point numbers; the members of an object keep their order. -/

set_option autoImplicit false

namespace UiSchema

inductive Json where
  | null
  | bool (value : Bool)
  | int (value : Int)
  | float (value : Float)
  | str (value : String)
  | array (items : List Json)
  | object (members : List (String × Json))
  deriving Inhabited

namespace Json

/-- A signed machine word holds the numbers from minus this up to the one below it. -/
def signedWord : Int := 9223372036854775808

def members? : Json → Option (Entries Json)
  | .object members => some members
  | _ => none

def isNull : Json → Bool
  | .null => true
  | _ => false

/-- A member that is present and not null. -/
def present? (members : Entries Json) (key : String) : Option Json :=
  match members.get? key with
  | none | some .null => none
  | some value => some value

/-- An absent value is written as null. -/
def ofOption {α : Type} (write : α → Json) : Option α → Json
  | none => .null
  | some value => write value

def strings (items : List String) : Json := .array (items.map .str)

/-- The kind of a value, as problem reports name it. -/
def kind : Json → String
  | .null => "null"
  | .bool _ => "boolean"
  | .int _ | .float _ => "number"
  | .str _ => "string"
  | .array _ => "array"
  | .object _ => "object"

mutual

/-- The greatest number of arrays and objects around a value. -/
def depth : Json → Nat
  | .array items => depthItems items
  | .object members => depthMembers members
  | _ => 0

def depthItems : List Json → Nat
  | [] => 0
  | item :: rest => max (item.depth + 1) (depthItems rest)

def depthMembers : List (String × Json) → Nat
  | [] => 0
  | (_, value) :: rest => max (value.depth + 1) (depthMembers rest)

end

/-- A number, with the truth values as one and zero. -/
inductive Number where
  | whole (value : Int)
  | float (value : Float)

def number? : Json → Option Number
  | .bool value => some (.whole value.toInt)
  | .int value => some (.whole value)
  | .float value => some (.float value)
  | _ => none

/-- Equality of the exact values; no number is that of "not a number", which is only equal to
itself. -/
def Number.same : Number → Number → Bool
  | .whole a, .whole b => a == b
  | .whole a, .float b | .float b, .whole a => (Binary64.ofFloat b).toInt? == some a
  | .float a, .float b => a == b || (a.isNaN && b.isNaN)

mutual

/-- Equality of documents: `1`, `1.0` and `true` are the same number, and the order of members does
not matter. -/
def same : Json → Json → Bool
  | .null, other => other.isNull
  | .str a, other => match other with | .str b => a == b | _ => false
  | .array xs, other => match other with | .array ys => sameItems xs ys | _ => false
  | .object ms, other =>
    match other with
    | .object ns => ms.length == ns.length && sameMembers ms ns
    | _ => false
  | .bool a, other => sameNumber (.whole a.toInt) other.number?
  | .int a, other => sameNumber (.whole a) other.number?
  | .float a, other => sameNumber (.float a) other.number?

def sameItems : List Json → List Json → Bool
  | [], ys => ys.isEmpty
  | x :: xs, ys => match ys with | y :: ys => same x y && sameItems xs ys | [] => false

def sameMembers : List (String × Json) → List (String × Json) → Bool
  | [], _ => true
  | (k, v) :: ms, ns =>
    (match Entries.get? ns k with | some w => same v w | none => false) && sameMembers ms ns

def sameNumber (a : Number) : Option Number → Bool
  | some b => a.same b
  | none => false

end

end Json

end UiSchema
