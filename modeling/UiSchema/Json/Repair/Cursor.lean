import UiSchema.Json
import UiSchema.Text.Blank
import UiSchema.Text.Number

/-! A place in a damaged text, and what can be seen from there. Nothing here changes the text except
for a mark that is put in front of what remains. -/

set_option autoImplicit false

namespace UiSchema.Json.Repair

/-- What is being read. -/
inductive Place where
  | key
  | value
  | item
  deriving DecidableEq

/-- The text that remains, the number of characters passed, and the places around, the innermost
first. A cursor may pass the end of the text. -/
structure Cursor where
  rest : List Char
  passed : Nat
  places : List Place
  /-- The length of the whole text. -/
  size : Nat

/-- The marks that texts are delimited by. -/
def isQuote (c : Char) : Bool := c == '"' || c == '\x27' || c == '“' || c == '”'

namespace Cursor

def ofText (text : List Char) : Cursor := ⟨text, 0, [], text.length⟩

/-- More than the rounds of any loop, which each pass a character, even where marks are put in. -/
def rounds (s : Cursor) : Nat := 2 * s.size + 2

def here (s : Cursor) : Option Char := s.rest.head?

/-- The character some places ahead. -/
def ahead (s : Cursor) (offset : Nat) : Option Char := s.rest[offset]?

def isAt (s : Cursor) (c : Char) : Bool := s.here == some c

/-- Whether the character some places ahead is one of those that satisfy the condition. -/
def sees (s : Cursor) (offset : Nat) (among : Char → Bool) : Bool := (s.ahead offset).any among

/-- Whether the innermost place is this one. -/
def reads (s : Cursor) (place : Place) : Bool := s.places.head? == some place

/-- Whether the cursor is inside such a place. -/
def isInside (s : Cursor) (place : Place) : Bool := s.places.contains place

def next (s : Cursor) : Cursor := { s with rest := s.rest.tail, passed := s.passed + 1 }

def skip (s : Cursor) (count : Nat) : Cursor :=
  { s with rest := s.rest.drop count, passed := s.passed + count }

def skipWhile (s : Cursor) (drop : Char → Bool) : Cursor := s.skip (s.rest.takeWhile drop).length

def skipBlanks (s : Cursor) : Cursor := s.skipWhile Text.isBlank

def enter (s : Cursor) (place : Place) : Cursor := { s with places := place :: s.places }

def leave (s : Cursor) : Cursor := { s with places := s.places.tail }

/-- One more mark stands in front of what remains. -/
def insert (s : Cursor) (c : Char) : Cursor := { s with rest := c :: s.rest }

/-- The first offset from the given one on without white space. -/
def pastBlanks (s : Cursor) (offset : Nat) : Nat :=
  offset + ((s.rest.drop offset).takeWhile Text.isBlank).length

end Cursor

/-- The number of characters before the first of the marks that no backslash hides, or before the
end. `hidden` tells whether a backslash stands in front. -/
def distance (marks : List Char) (hidden : Bool) : List Char → Nat
  | [] => 0
  | c :: rest =>
    if c = '\\' then distance marks (!hidden) rest + 1
    else if marks.contains c && !hidden then 0
    else distance marks false rest + 1

namespace Cursor

/-- The first offset from the given one on where one of the marks stands, or the end. -/
def seek (s : Cursor) (marks : List Char) (offset : Nat) : Nat :=
  offset + distance marks false (s.rest.drop offset)

/-- A comment to the end of the line ends before the marks of what it stands in, too. -/
def endsLine (s : Cursor) (c : Char) : Bool :=
  c == '\n' || c == '\r' || (c == ']' && s.isInside .item) || (c == '\x7d' && s.isInside .value) ||
    (c == ':' && s.isInside .key)

def skipLine (s : Cursor) : Cursor := s.skipWhile fun c => !s.endsLine c

end Cursor

/-- The length of what remains of a comment between marks. `star` tells whether a star stands in
front; that of the opening mark counts. -/
def blockLength (star : Bool) : List Char → Nat
  | [] => 0
  | c :: rest => if star && c == '/' then 1 else blockLength (c == '*') rest + 1

/-- Past the comment that begins here. A stroke that begins none is passed alone. -/
def Cursor.skipComment (s : Cursor) : Cursor :=
  match s.rest with
  | '#' :: _ => s.skipLine
  | '/' :: '/' :: _ => (s.skip 2).skipLine
  | '/' :: '*' :: rest => s.skip (2 + blockLength true rest)
  | _ => s.next

end UiSchema.Json.Repair
