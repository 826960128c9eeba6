import UiSchema.Text.Blank
import UiSchema.Text.Case
import UiSchema.Text.Letter

/-! Candidate documents inside free text: the bodies of fenced blocks, or else the outermost spans
between matching brackets. Offsets count characters. -/

set_option autoImplicit false

namespace UiSchema.Json

/-- Where a candidate was found: in a fence that names the format, in another fence, or bare. -/
inductive BlockKind where
  | named
  | fenced
  | raw
  deriving DecidableEq, Repr

structure Block where
  content : String
  kind : BlockKind
  start : Nat
  stop : Nat
  deriving DecidableEq, Repr

namespace Block

/-- The characters before the next three backticks. -/
def untilTicks : List Char → Option (List Char)
  | [] => none
  | c :: rest =>
    match c, rest with
    | '\x60', '\x60' :: '\x60' :: _ => some []
    | _, _ => (untilTicks rest).map (c :: ·)

/-- A fence at the head of the text. -/
structure Fence where
  language : List Char
  body : List Char
  /-- All characters of the fence, the ticks on both sides included. -/
  length : Nat

def dropOne (c : Char) : List Char → List Char
  | [] => []
  | head :: rest => if head = c then rest else head :: rest

def isLanguageChar (c : Char) : Bool := Text.isWord c || c == '-'

/-- The opening ticks, a language, the end of that line, and the shortest body before more ticks. -/
def fence? : List Char → Option Fence
  | '\x60' :: '\x60' :: '\x60' :: cs =>
    let rest := (cs.dropWhile isLanguageChar).dropWhile fun c => c == ' ' || c == '\t'
    let rest := dropOne '\n' (dropOne '\r' rest)
    (untilTicks rest).map fun body =>
      { language := cs.takeWhile isLanguageChar
        body
        length := 3 + (cs.length - rest.length) + body.length + 3 }
  | _ => none

def startsWithBracket : List Char → Bool
  | c :: _ => c == '\x7b' || c == '['
  | [] => false

/-- The candidate in a fence. Without the language it has to start like a document. -/
def ofFence? (start : Nat) (fence : Fence) : Option Block :=
  let body := Text.trimChars fence.body
  let block kind : Block :=
    { content := String.ofList body, kind, start, stop := start + fence.length }
  if body.isEmpty then none
  else if Text.lower (String.ofList fence.language) = "json" then some (block .named)
  else if startsWithBracket body then some (block .fenced)
  else none

/-- `skip` characters belong to the fence found last. -/
def fencedFrom (position skip : Nat) : List Char → List Block
  | [] => []
  | c :: rest =>
    match skip with
    | skip + 1 => fencedFrom (position + 1) skip rest
    | 0 =>
      match fence? (c :: rest) with
      | none => fencedFrom (position + 1) 0 rest
      | some fence =>
        (ofFence? position fence).toList ++ fencedFrom (position + 1) (fence.length - 1) rest

def fenced (cs : List Char) : List Block := fencedFrom 0 0 cs

/-- Inside a quoted text brackets do not count, and a backslash hides the next character. -/
inductive Quoting where
  | outside
  | inside
  | escaped
  deriving DecidableEq, Repr

def closer? (c : Char) : Option Char :=
  if c = '\x7b' then some '\x7d' else if c = '[' then some ']' else none

/-- The brackets still to be closed after one more character, or nothing at a mismatch. -/
def bracketStep (pending : List Char) (c : Char) : Option (List Char) :=
  match closer? c with
  | some closer => some (closer :: pending)
  | none =>
    if c = '\x7d' ∨ c = ']' then
      match pending with
      | closer :: rest => if c = closer then some rest else none
      | [] => none
    else some pending

/-- The number of characters until every open bracket is closed. -/
def balanced? (pending : List Char) (quoting : Quoting) : List Char → Option Nat
  | [] => if pending.isEmpty then some 0 else none
  | c :: rest =>
    if pending.isEmpty then some 0
    else
      match quoting with
      | .escaped => (balanced? pending .inside rest).map (· + 1)
      | .inside =>
        let next := if c = '\\' then .escaped else if c = '"' then .outside else .inside
        (balanced? pending next rest).map (· + 1)
      | .outside =>
        if c = '"' then (balanced? pending .inside rest).map (· + 1)
        else
          match bracketStep pending c with
          | some pending => (balanced? pending .outside rest).map (· + 1)
          | none => none

/-- The length of the bracketed span at the head of the text. An object has to hold a colon. -/
def span? : List Char → Option Nat
  | [] => none
  | c :: rest =>
    match closer? c with
    | none => none
    | some closer =>
      match balanced? [closer] .outside rest with
      | none => none
      | some length =>
        if c = '[' || (rest.take length).contains ':' then some (length + 1) else none

/-- `skip` characters belong to the span found last. -/
def rawFrom (position skip : Nat) : List Char → List Block
  | [] => []
  | c :: rest =>
    match skip with
    | skip + 1 => rawFrom (position + 1) skip rest
    | 0 =>
      match span? (c :: rest) with
      | none => rawFrom (position + 1) 0 rest
      | some length =>
        { content := String.ofList ((c :: rest).take length)
          kind := .raw
          start := position
          stop := position + length } :: rawFrom (position + 1) (length - 1) rest

def raw (cs : List Char) : List Block := rawFrom 0 0 cs

end Block

/-- Bare spans count only where no fence holds a candidate. -/
def blocks (text : String) : List Block :=
  match Block.fenced text.toList with
  | [] => Block.raw text.toList
  | found => found

end UiSchema.Json
