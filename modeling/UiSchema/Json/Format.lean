import UiSchema.Decimal.Layout
import UiSchema.Json
import UiSchema.Outcome
import UiSchema.Text.Quoted

/-! Documents written as text. A format fixes the spelling of the leaves and the space between
tokens; the order of the tokens is the same in all formats. -/

set_option autoImplicit false

namespace UiSchema.Json

/-- Inside a text only quotes, backslashes and control characters are escaped. -/
def escapeChar (c : Char) : List Char :=
  if c = '"' then ['\\', '"']
  else if c = '\\' then ['\\', '\\']
  else if c = '\n' then ['\\', 'n']
  else if c = '\r' then ['\\', 'r']
  else if c = '\t' then ['\\', 't']
  else if c = '\x08' then ['\\', 'b']
  else if c = '\x0c' then ['\\', 'f']
  else if c.toNat < 0x20 then '\\' :: 'u' :: Text.hexDigits 4 c.toNat
  else [c]

def escape (s : String) : List Char := '"' :: s.toList.flatMap escapeChar ++ ['"']

/-- Space between the items of arrays and objects. -/
inductive Spacing where
  | inline (afterComma : List Char)
  | lines (indent : Nat)

structure Format where
  layout : Decimal.Layout
  spacing : Spacing
  afterColon : List Char
  quote : String → List Char := escape
  null : List Char := ['n', 'u', 'l', 'l']
  yes : List Char := ['t', 'r', 'u', 'e']
  no : List Char := ['f', 'a', 'l', 's', 'e']

namespace Format

/-- Space next to a bracket, inside it. -/
def edge (f : Format) (level : Nat) : List Char :=
  match f.spacing with
  | .inline _ => []
  | .lines indent => '\n' :: List.replicate (indent * level) ' '

/-- Space after a comma. -/
def gap (f : Format) (level : Nat) : List Char :=
  match f.spacing with
  | .inline afterComma => afterComma
  | .lines indent => '\n' :: List.replicate (indent * level) ' '

/-- Floating-point numbers as in single lines, but tiny ones get a point for longer. -/
def compactLayout (plus : Bool) : Decimal.Layout :=
  { least := -5, greatest := 15, plus, width := 1
    nan := "null", infinity := "null", negativeInfinity := "null" }

def literalLayout : Decimal.Layout :=
  { Decimal.Layout.plain with
    nan := "NaN", infinity := "Infinity", negativeInfinity := "-Infinity" }

/-- No space at all; numbers that are not finite become null. -/
def compact : Format := { layout := compactLayout true, spacing := .inline [], afterColon := [] }

/-- For documents with whole numbers beyond a machine word: no plus sign in exponents. -/
def compactWide : Format := { compact with layout := compactLayout false }

/-- One item a line; numbers that are not finite keep their names. -/
def indented (indent : Nat) : Format :=
  { layout := literalLayout, spacing := .lines indent, afterColon := [' '] }

/-- No space, and every number keeps its name. -/
def literal : Format := { compact with layout := literalLayout }

/-- The form of values in messages. -/
def message : Format :=
  { layout := Decimal.Layout.plain
    spacing := .inline [' ']
    afterColon := [' ']
    quote := fun s => (Text.quote s).toList
    null := ['N', 'o', 'n', 'e']
    yes := ['T', 'r', 'u', 'e']
    no := ['F', 'a', 'l', 's', 'e'] }

mutual

def chars (f : Format) (level : Nat) : Json → List Char
  | .null => f.null
  | .bool true => f.yes
  | .bool false => f.no
  | .int value => (toString value).toList
  | .float value => (f.layout.write value).toList
  | .str value => f.quote value
  | .array items =>
    match items with
    | [] => ['[', ']']
    | item :: rest =>
      '[' :: f.edge (level + 1) ++ (chars f (level + 1) item ++ itemChars f (level + 1) rest) ++
        f.edge level ++ [']']
  | .object members =>
    match members with
    | [] => ['\x7b', '\x7d']
    | (key, value) :: rest =>
      '\x7b' :: f.edge (level + 1) ++
        (f.quote key ++ ':' :: f.afterColon ++ chars f (level + 1) value ++
          memberChars f (level + 1) rest) ++
        f.edge level ++ ['\x7d']

/-- The items after the first. -/
def itemChars (f : Format) (level : Nat) : List Json → List Char
  | [] => []
  | item :: rest => ',' :: f.gap level ++ chars f level item ++ itemChars f level rest

/-- The members after the first. -/
def memberChars (f : Format) (level : Nat) : List (String × Json) → List Char
  | [] => []
  | (key, value) :: rest =>
    ',' :: f.gap level ++ f.quote key ++ ':' :: f.afterColon ++ chars f level value ++
      memberChars f level rest

end

def write (f : Format) (value : Json) : String := String.ofList (f.chars 0 value)

end Format

mutual

/-- What is asked of every whole number of a document. -/
def allInts (test : Int → Bool) : Json → Bool
  | .int value => test value
  | .array items => itemsAllInts test items
  | .object members => membersAllInts test members
  | _ => true

def itemsAllInts (test : Int → Bool) : List Json → Bool
  | [] => true
  | item :: rest => allInts test item && itemsAllInts test rest

def membersAllInts (test : Int → Bool) : List (String × Json) → Bool
  | [] => true
  | (_, value) :: rest => allInts test value && membersAllInts test rest

end

/-- Every whole number fits a signed or an unsigned machine word. -/
def fitsWords : Json → Bool :=
  allInts fun value => decide (-signedWord ≤ value ∧ value < 2 * signedWord)

/-- Every whole number can be written. -/
def fitsText : Json → Bool := allInts fewDigits

/-- On one line when the indent is zero. -/
def written (value : Json) (indent : Int) : String :=
  if indent = 0 then
    (if value.fitsWords then Format.compact else Format.compactWide).write value
  else (Format.indented indent.toNat).write value

/-- The encoded form. -/
def encode (value : Json) (indent : Int) : Outcome String :=
  if value.fitsText then .ok (value.written indent) else .error .tooManyDigits

/-- The exact form, in which every number reads back as itself. -/
def literal (value : Json) : String := Format.literal.write value

/-- The form shown in messages. -/
def shown (value : Json) : Outcome String :=
  if value.fitsText then .ok (Format.message.write value) else .error .tooManyDigits

end UiSchema.Json
