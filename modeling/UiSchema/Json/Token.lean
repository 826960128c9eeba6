import UiSchema.Json.Numeral

/-! Texts cut into the tokens of a document. The scanner looks at one character at a time. -/

set_option autoImplicit false

namespace UiSchema.Json

inductive Token where
  | openArray
  | closeArray
  | openObject
  | closeObject
  | comma
  | colon
  | str (value : String)
  /-- Null, a truth value or a number. -/
  | leaf (value : Json)
  /-- A whole number that is too long. -/
  | oversized
  /-- Here the text is no document. Nothing follows. -/
  | fault

/-- What the characters read since the last token are part of; the last one comes first. -/
inductive Scan where
  | between
  | word (run : List Char)
  | text (content : List Char)
  /-- After a backslash. -/
  | escaped (content : List Char)
  /-- Inside a code of four hexadecimal digits; `high` is the first half of a pair. -/
  | code (content : List Char) (high : Option Nat) (missing value : Nat)
  /-- After the first half of a pair, before and after the backslash of the second. -/
  | pair (content : List Char) (high : Nat)
  | pairEscaped (content : List Char) (high : Nat)
  | failed

namespace Scan

def isSpace (c : Char) : Bool := c == ' ' || c == '\t' || c == '\n' || c == '\r'

def isWordChar (c : Char) : Bool :=
  c.isAlphanum || c == '+' || c == '-' || c == '.'

def hexValue? (c : Char) : Option Nat :=
  if '0' ≤ c ∧ c ≤ '9' then some (c.toNat - 48)
  else if 'a' ≤ c ∧ c ≤ 'f' then some (c.toNat - 87)
  else if 'A' ≤ c ∧ c ≤ 'F' then some (c.toNat - 55)
  else none

/-- What a letter after a backslash stands for. -/
def simpleEscape? (c : Char) : Option Char :=
  if c = '"' ∨ c = '\\' ∨ c = '/' then some c
  else if c = 'b' then some '\x08'
  else if c = 'f' then some '\x0c'
  else if c = 'n' then some '\n'
  else if c = 'r' then some '\r'
  else if c = 't' then some '\t'
  else none

def isHigh (code : Nat) : Bool := decide (0xD800 ≤ code ∧ code < 0xDC00)

def isLow (code : Nat) : Bool := decide (0xDC00 ≤ code ∧ code < 0xE000)

/-- The character that two halves stand for together. -/
def pairChar (high low : Nat) : Char :=
  Char.ofNat (0x10000 + (high - 0xD800) * 0x400 + (low - 0xDC00))

/-- A complete code is a character, or the half of one: a lone half is refused. -/
def codeRead (content : List Char) (high : Option Nat) (code : Nat) : Scan :=
  match high with
  | some high =>
    if isLow code then .text (pairChar high code :: content) else .failed
  | none =>
    if isHigh code then .pair content code
    else if isLow code then .failed
    else .text (Char.ofNat code :: content)

def wordToken (d : Dialect) (run : List Char) : Token :=
  match word? d run.reverse with
  | some value => .leaf value
  | none => if Numeral.beginsOversized d run.reverse then .oversized else .fault

def fromBetween (c : Char) : List Token × Scan :=
  if isSpace c then ([], .between)
  else if c = '"' then ([], .text [])
  else if c = ',' then ([.comma], .between)
  else if c = ':' then ([.colon], .between)
  else if c = '[' then ([.openArray], .between)
  else if c = ']' then ([.closeArray], .between)
  else if c = '\x7b' then ([.openObject], .between)
  else if c = '\x7d' then ([.closeObject], .between)
  else if isWordChar c then ([], .word [c])
  else ([.fault], .failed)

def step (d : Dialect) : Scan → Char → List Token × Scan
  | .between, c => fromBetween c
  | .word run, c =>
    if isWordChar c then ([], .word (c :: run))
    else
      let (tokens, next) := fromBetween c
      (wordToken d run :: tokens, next)
  | .text content, c =>
    if c = '"' then ([.str (String.ofList content.reverse)], .between)
    else if c = '\\' then ([], .escaped content)
    else if c.toNat < 0x20 then ([.fault], .failed)
    else ([], .text (c :: content))
  | .escaped content, c =>
    if c = 'u' then ([], .code content none 4 0)
    else
      match simpleEscape? c with
      | some meant => ([], .text (meant :: content))
      | none => ([.fault], .failed)
  | .code content high missing value, c =>
    match hexValue? c with
    | none => ([.fault], .failed)
    | some digit =>
      let value := value * 16 + digit
      if missing ≤ 1 then
        match codeRead content high value with
        | .failed => ([.fault], .failed)
        | next => ([], next)
      else ([], .code content high (missing - 1) value)
  | .pair content high, c =>
    if c = '\\' then ([], .pairEscaped content high) else ([.fault], .failed)
  | .pairEscaped content high, c =>
    if c = 'u' then ([], .code content (some high) 4 0) else ([.fault], .failed)
  | .failed, _ => ([], .failed)

/-- The tokens that the end of the text completes. -/
def finish (d : Dialect) : Scan → List Token
  | .between | .failed => []
  | .word run => [wordToken d run]
  | _ => [.fault]

def tokens (d : Dialect) : Scan → List Char → List Token
  | scan, [] => scan.finish d
  | scan, c :: rest =>
    let (here, next) := scan.step d c
    here ++ tokens d next rest

end Scan

def tokens (d : Dialect) (cs : List Char) : List Token := Scan.tokens d .between cs

end UiSchema.Json
