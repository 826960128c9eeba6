import UiSchema.Json.Repair.Quote

/-! Texts and bare words of a damaged document. -/

set_option autoImplicit false

namespace UiSchema.Json.Repair

/-- The words that stand for values, in any case. What follows them does not matter. -/
def words : List (String × Json) :=
  [("true", .bool true), ("false", .bool false), ("null", .null), ("none", .null)]

def wordAt? (s : Cursor) : Option (Json × Cursor) :=
  words.findSome? fun (word, value) =>
    let size := word.length
    if (s.rest.take size).map Char.toLower = word.toList then some (value, s.skip size) else none

/-- What the first marks of a text say: it may be empty, or begin at the cursor. -/
inductive Opening where
  | empty (after : Cursor)
  | begins (quoting : Quoting) (first : Cursor)

/-- Two marks in a row are an empty text where the place goes on after them, two marks around a
text where two more follow, and else most often one mark too many. -/
def openTwice (q : Quoting) (s : Cursor) : Opening :=
  let endsEmpty (c : Char) : Bool :=
    (s.reads .key && c == ':') || (s.reads .value && (c == ',' || c == '\x7d')) ||
      (s.reads .item && (c == ',' || c == ']'))
  if s.sees 1 endsEmpty then .empty s.next
  else if s.sees 1 (· == q.opening) then .empty s
  else if s.sees (s.seek [q.closing] 1 + 1) (· == q.closing) then
    .begins { q with doubled := true } s.next
  else
    let after := s.pastBlanks 1
    if s.sees after (fun c => isQuote c || c == '\x7b' || c == '[') then .empty s.next
    else if s.sees after (fun c => c == ',' || c == ']' || c == '\x7d') then .begins q s
    else .begins q s.next

/-- The cursor is at a mark, or at the first character of a text without marks. -/
def opening (s : Cursor) (c : Char) : Opening :=
  let q : Quoting :=
    if c = '\x27' then ⟨c, c, false, false⟩
    else if c = '“' then ⟨c, '”', false, false⟩
    else ⟨'"', '"', !isQuote c, false⟩
  if q.bare then .begins q s
  else if s.next.isAt q.opening then openTwice q s.next
  else .begins q s.next

/-- The content of a text, and the cursor where it ends. Every round passes a character. -/
def contentFrom (q : Quoting) : Nat → Bool → Content → Cursor → Content × Cursor
  | 0, _, before, s => (before, s)
  | left + 1, paired, before, s =>
    match s.here with
    | none => (before, s)
    | some c =>
      if c = q.closing || q.endsBefore s before c then (before, s)
      else
        let after := before.push c
        let next := s.next
        match if c = '\\' then escape? q.closing after next else none with
        | some (after, s) => contentFrom q left paired after s
        | none =>
          if q.endsKey next then (after, next)
          else if next.isAt q.closing && c != '\\' then
            match q.meaning paired next with
            | .closes => (after, next)
            | .closesTwice => (after, next.next)
            | .opensNext => (after, s)
            | .belongs paired => contentFrom q left paired (after.push q.closing) next.next
          else contentFrom q left paired after next

/-- White space at the end of a text counts only in front of a closing mark, and a line end not even
there. -/
def finished (q : Quoting) (found : Content) (s : Cursor) : String × Cursor :=
  if s.isAt q.closing then
    ((if q.bare || found.endsWith '\n' then found.trimEnd else found).text, s.next)
  else (found.trimEnd.text, s)

/-- A key without marks is one word, and a colon or comma follows. -/
def delimited (q : Quoting) (s : Cursor) : String × Cursor :=
  let (found, after) := contentFrom q s.rounds false [] s
  if q.bare && s.reads .key && (after.here.any Text.isBlank) then
    let past := after.skipBlanks
    if past.isAt ':' || past.isAt ',' then (found.trimEnd.text, past) else ("", past)
  else finished q found after

/-- Begins at the first mark or letter. Where no key stands, a word may be a value. -/
def textAt (s : Cursor) : Json × Cursor :=
  if s.isAt '#' || s.isAt '/' then (.str "", s.skipComment)
  else
    let s := s.skipWhile fun c => !isQuote c && !Text.isAlphanumeric c
    match s.here with
    | none => (.str "", s)
    | some c =>
      match if !isQuote c && !s.reads .key then wordAt? s else none with
      | some found => found
      | none =>
        match opening s c with
        | .empty after => (.str "", after)
        | .begins q first =>
          let (found, after) := delimited q first
          (.str found, after)

def isNumberChar (s : Cursor) (c : Char) : Bool :=
  c.isDigit || ['-', '.', 'e', 'E', '/', '_'].contains c || (c == ',' && !s.reads .item)

/-- Digits that no number can be read from stay a text. -/
def numberValue (digits : List Char) : Json :=
  let asText := Json.str (String.ofList digits)
  if digits.contains ',' then asText
  else if digits.any fun c => c == '.' || c == 'e' || c == 'E' then
    ((Decimal.float? digits).map Json.float).getD asText
  else if mostDigits < (digits.filter Char.isDigit).length then asText
  else ((Decimal.integer? digits).map Json.int).getD asText

/-- Digits with a letter after them are a text. A mark at the end does not belong to a number. -/
def numberAt (s : Cursor) : Json × Cursor :=
  let run := s.rest.takeWhile (isNumberChar s)
  let digits := run.filter (· != '_')
  let after := s.skip run.length
  if after.here.any Text.isLetter then textAt (s.skip (run.length - digits.length))
  else
    match digits.getLast? with
    | some c =>
      if ['-', 'e', 'E', '/', ','].contains c then
        (numberValue digits.dropLast, s.skip (run.length - 1))
      else (numberValue digits, after)
    | none => (.str "", after)

end UiSchema.Json.Repair
