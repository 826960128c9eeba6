import UiSchema.Path
import UiSchema.Text.Blank

/-! Path expressions read as paths. A path is a name followed by dots with names and by indexes in
brackets; space around it is ignored. The parser looks at one character at a time. -/

set_option autoImplicit false

namespace UiSchema.Path

inductive SyntaxReason where
  | empty
  | emptySegment
  | noContainer
  | unmatchedOpen
  | unmatchedClose
  | badIndex (text : String)
  | missingSeparator
  | unexpected (c : Char)
  | trailingDot
  deriving DecidableEq, Repr

def SyntaxReason.text : SyntaxReason → String
  | .empty => "empty path"
  | .emptySegment => "empty segment"
  | .noContainer => "index without container"
  | .unmatchedOpen => "unmatched '['"
  | .unmatchedClose => "unmatched ']'"
  | .badIndex text => s!"index must be a non-negative integer, got {Text.quote text}"
  | .missingSeparator => "expected '.' or '['"
  | .unexpected c => s!"unexpected character {Text.quote (String.singleton c)}"
  | .trailingDot => "trailing '.'"

/-- The position counts characters after the space in front of the path. -/
structure SyntaxError where
  expression : String
  position : Nat
  reason : SyntaxReason
  deriving DecidableEq, Repr

def SyntaxError.message (e : SyntaxError) : String :=
  s!"Invalid path {Text.quote e.expression} at position {e.position}: {e.reason.text}"

/-- What the characters read so far leave open. -/
inductive Scan where
  /-- A name has to follow, at the start or after a dot. -/
  | expectName
  | inName (run : List Char)
  /-- After a bracket that was opened at a position. -/
  | inIndex (opened : Nat) (run : List Char)
  | afterIndex

def isDelimiter (c : Char) : Bool := ['.', '[', ']', '\x7b', '\x7d'].contains c

/-- Characters of names: all but white space and the delimiters. -/
def isNameChar (c : Char) : Bool := !isDelimiter c && !Text.isBlank c

/-- Segments found so far, the last one first. -/
structure Parse where
  found : List Segment
  scan : Scan

/-- Why parsing stops. An index with too many digits is no syntax error, and what tolerates malformed
paths does not tolerate it. -/
inductive Stop where
  | malformed (position : Nat) (reason : SyntaxReason)
  | overflow

namespace Parse

def start : Parse := ⟨[], .expectName⟩

/-- A character after a complete segment. -/
def separator (found : List Segment) (position : Nat) (c : Char) : Except Stop Parse :=
  if c = '.' then .ok ⟨found, .expectName⟩
  else if c = '[' then .ok ⟨found, .inIndex position []⟩
  else if c = ']' then .error (.malformed position .unmatchedClose)
  else .error (.malformed position .missingSeparator)

def nameSegment (run : List Char) : Segment := .name (String.ofList run.reverse)

/-- The text between two brackets. -/
def closeIndex (found : List Segment) (opened : Nat) (run : List Char) : Except Stop Parse :=
  let text := run.reverse
  if text.isEmpty || !text.all Char.isDigit then
    .error (.malformed (opened + 1) (.badIndex (String.ofList text)))
  else if mostDigits < text.length then .error .overflow
  else .ok ⟨.index (Nat.ofDigitChars 10 text 0) :: found, .afterIndex⟩

def step (p : Parse) (position : Nat) (c : Char) : Except Stop Parse :=
  match p.scan with
  | .expectName =>
    if isNameChar c then .ok ⟨p.found, .inName [c]⟩
    else if c = '.' then .error (.malformed position .emptySegment)
    else if c = '[' then
      .error (.malformed position (if p.found.isEmpty then .noContainer else .emptySegment))
    else if c = ']' then .error (.malformed position .unmatchedClose)
    else .error (.malformed position (.unexpected c))
  | .inName run =>
    if isNameChar c then .ok ⟨p.found, .inName (c :: run)⟩
    else separator (nameSegment run :: p.found) position c
  | .inIndex opened run =>
    if c = ']' then closeIndex p.found opened run else .ok ⟨p.found, .inIndex opened (c :: run)⟩
  | .afterIndex => separator p.found position c

def finish (p : Parse) (position : Nat) : Except Stop Path :=
  match p.scan with
  | .expectName => .error (.malformed position .trailingDot)
  | .inName run => .ok (nameSegment run :: p.found).reverse
  | .inIndex opened _ => .error (.malformed opened .unmatchedOpen)
  | .afterIndex => .ok p.found.reverse

def run (p : Parse) (position : Nat) : List Char → Except Stop Path
  | [] => p.finish position
  | c :: rest =>
    match p.step position c with
    | .ok next => run next (position + 1) rest
    | .error stop => .error stop

end Parse

def parseChars (cs : List Char) : Except Stop Path :=
  match Text.trimChars cs with
  | [] => .error (.malformed 0 .empty)
  | trimmed => Parse.start.run 0 trimmed

/-- The expression is reported as it was given. -/
def parse (expression : String) : Outcome (Except SyntaxError Path) :=
  match parseChars expression.toList with
  | .ok path => .ok (.ok path)
  | .error (.malformed position reason) => .ok (.error { expression, position, reason })
  | .error .overflow => .error .tooManyDigits

inductive ResolveError where
  | malformed (e : SyntaxError)
  | miss (m : Miss)

/-- The value that a written path leads to. -/
def resolveText (expression : String) (root : Json) : Outcome (Except ResolveError Json) := do
  match ← parse expression with
  | .error e => return .error (.malformed e)
  | .ok path => return (← path.resolve root).mapError .miss

end UiSchema.Path
