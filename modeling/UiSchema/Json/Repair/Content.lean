import UiSchema.Json.Repair.Cursor
import UiSchema.Json.Token

/-! The content of a text while it is read: codes in reverse, among them the halves that together
stand for one character. -/

set_option autoImplicit false

namespace UiSchema.Json.Repair

abbrev Content := List Nat

namespace Content

def push (content : Content) (c : Char) : Content := c.toNat :: content

def endsWith (content : Content) (c : Char) : Bool := content.head? == some c.toNat

/-- The last code gives way to another one. -/
def replaceLast (content : Content) (code : Nat) : Content := code :: content.tail

/-- Without the white space at its end. -/
def trimEnd (content : Content) : Content := content.dropWhile Text.blankRanges.holds

/-- A half without its other half is shown as the replacement character. -/
def ofCode (code : Nat) : Char :=
  if Scan.isHigh code || Scan.isLow code then '\ufffd' else Char.ofNat code

/-- Two halves in a row are one character. -/
def joined : List Nat → List Char
  | [] => []
  | [code] => [ofCode code]
  | high :: low :: rest =>
    if Scan.isHigh high && Scan.isLow low then Scan.pairChar high low :: joined rest
    else ofCode high :: joined (low :: rest)

def text (content : Content) : String := String.ofList (joined content.reverse)

end Content

/-- Backslashes in front of the closing mark or of another backslash give way to what they hide, in
a row. Counts the characters used. -/
def chained (closing : Char) : Content → List Char → Content × Nat
  | content, [] => (content, 0)
  | content, c :: rest =>
    if content.endsWith '\\' && (c == closing || c == '\\') then
      let (content, used) := chained closing (content.replaceLast c.toNat) rest
      (content, used + 1)
    else (content, 0)

/-- What a letter or mark after a backslash stands for. -/
def escapeCode? (closing c : Char) : Option Nat :=
  if c = closing ∨ c = '\\' then some c.toNat
  else if c = 't' then some 9
  else if c = 'n' then some 10
  else if c = 'r' then some 13
  else if c = 'b' then some 8
  else none

/-- A code of exactly so many hexadecimal digits. -/
def hexCode? (count : Nat) (cs : List Char) : Option Nat :=
  let digits := cs.take count
  if digits.length < count then none
  else digits.foldlM (fun value c => (Scan.hexValue? c).map (value * 16 + ·)) 0

/-- After a backslash, which is the last of the content, what the cursor is at may belong to it. -/
def escape? (closing : Char) (content : Content) (s : Cursor) : Option (Content × Cursor) := do
  let c ← s.here
  match escapeCode? closing c with
  | some code =>
    let (content, used) := chained closing (content.replaceLast code) s.next.rest
    some (content, s.next.skip used)
  | none =>
    if c = 'u' ∨ c = 'x' then
      let count := if c = 'u' then 4 else 2
      let code ← hexCode? count s.next.rest
      some (content.replaceLast code, s.next.skip count)
    else if isQuote c then some (content.replaceLast c.toNat, s.next)
    else none

end UiSchema.Json.Repair
