import UiSchema.Json.Repair.Table
import UiSchema.Json.Repair.Text

/-! Documents with mistakes: quotes of the wrong kind or none at all, missing or spare commas,
missing brackets, words for values in other spellings, comments. Where a text breaks off, everything
open is closed. Texts nested too deeply are given up. -/

set_option autoImplicit false

namespace UiSchema.Json.Repair

/-- Readers of what is nested in a value. Nothing is answered beyond their depth. -/
structure Readers where
  value : Cursor → Option (Json × Cursor)
  /-- The cursor is past the opening bracket. -/
  array : Cursor → Option (List Json × Cursor)
  /-- The cursor is past the opening brace. What has no members may turn out to be an array. -/
  object : Cursor → Option (Json × Cursor)

/-- A character that a value, or a comment in its place, begins with. Outside of everything only
brackets and comments count. -/
def startsValue (s : Cursor) (c : Char) : Bool :=
  c == '\x7b' || c == '[' || c == '#' || c == '/' ||
    (!s.places.isEmpty &&
      (isQuote c || Text.isLetter c || Text.isDigit c || c == '-' || c == '.'))

/-- The first value that begins here or later; an empty text when there is none. -/
def value (inner : Readers) (s : Cursor) : Option (Json × Cursor) :=
  let s := s.skipWhile fun c => !startsValue s c
  match s.here with
  | none => some (.str "", s)
  | some c =>
    if c = '\x7b' then inner.object s.next
    else if c = '[' then (inner.array s.next).map fun (items, s) => (.array items, s)
    else if c = '#' ∨ c = '/' then
      if s.places.isEmpty then inner.value s.skipComment else some (.str "", s.skipComment)
    else if isQuote c || Text.isLetter c then some (textAt s)
    else some (numberAt s)

/-- The text in quotes that begins here is the key of a member. -/
def namesMember (s : Cursor) (mark : Char) : Bool :=
  s.sees (s.pastBlanks (s.seek [mark] 1 + 1)) (· == ':')

def isEmptyValue : Json → Bool
  | .str text => text.isEmpty
  | .array items => items.isEmpty
  | .object members => members.isEmpty
  | _ => false

/-- Three points without quotes, which stand for items left out. -/
def isEllipsis (item : Json) (before after : Cursor) : Bool :=
  match item with
  | .str "..." => before.sees (after.passed - before.passed - 1) (· == '.')
  | _ => false

/-- Whether the cursor, past an item, is where the array goes on or ends. -/
def endsItem (s : Cursor) : Bool := s.isAt ']' || s.isAt ','

/-- The items of an array up to its end. Empty items count where they end as items do; else
the next character is passed in their place. In the value of a member, the key of the next member
ends an array, too. -/
def items (inner : Readers) : Nat → List Json → Cursor → Option (List Json × Cursor)
  | 0, _, _ => none
  | left + 1, found, s =>
    match s.here with
    | none => some (found.reverse, s.next.leave)
    | some c =>
      if c = ']' ∨ c = '\x7d' then some (found.reverse, s.next.leave)
      else
        let before := s.skipBlanks
        let isKey := isQuote c && namesMember before c
        if isKey && before.isInside .value then some (found.reverse, before.leave)
        else
          let item? :=
            if isKey then inner.object before
            else if isQuote c then some (textAt before)
            else inner.value before
          match item? with
          | none => none
          | some (item, after) =>
            let (found, after) :=
              if isEmptyValue item && !endsItem after then (found, after.next)
              else if isEllipsis item before after then (found, after)
              else (item :: found, after)
            items inner left found (after.skipWhile fun c => Text.isBlank c || c == ',')

def array (inner : Readers) (s : Cursor) : Option (List Json × Cursor) :=
  items inner s.rounds [] (s.enter .item)

/-- What is found where a key stands: the key, the members that are known then, and the cursor in
front of it and after it. -/
structure KeyFound where
  key : String
  members : Entries Json
  start : Cursor
  after : Cursor

/-- An array in the place of a key goes on with the array before it. What is no key is passed. -/
def keyFrom (inner : Readers) : Nat → Entries Json → Cursor → Cursor → Option KeyFound
  | 0, _, _, _ => none
  | left + 1, members, start, s =>
    if s.here.isNone then some ⟨"", members, start, s⟩
    else if s.isAt '[' && (extendLast? [] members).isSome then
      match inner.array s.next with
      | none => none
      | some (found, after) =>
        let after := after.skipBlanks
        let after := if after.isAt ',' then after.next else after
        keyFrom inner left ((extendLast? found members).getD members) s after.skipBlanks
    else
      match textAt s with
      | (.str "", after) =>
        let after := after.skipBlanks
        if after.isAt ':' || after.isAt '\x7d' then some ⟨"", members, s, after⟩
        else keyFrom inner left members s after
      | (.str key, after) => some ⟨key, members, s, after⟩
      | (_, after) => some ⟨"", members, s, after⟩

/-- The members of an object up to its end. Inside an array, a key that was there before begins the
next object. -/
def members (inner : Readers) : Nat → Entries Json → Cursor → Option (Entries Json × Cursor)
  | 0, _, _ => none
  | left + 1, known, s =>
    if s.here.isNone || s.isAt '\x7d' then some (known, s.next)
    else
      let s := s.skipBlanks
      let s := (if s.isAt ':' then s.next else s).enter .key
      match keyFrom inner s.rounds known s s with
      | none => none
      | some ⟨key, known, start, after⟩ =>
        if after.isInside .item && known.contains key then
          some (known, { start with places := after.places }.insert '\x7b')
        else
          let after := after.skipBlanks
          if after.here.isNone || after.isAt '\x7d' then some (known, after.next)
          else
            let s := (after.next.leave.enter .value).skipBlanks
            let value? :=
              if s.isAt ',' || s.isAt '\x7d' then some (.str "", s) else inner.value s
            match value? with
            | none => none
            | some (value, s) =>
              let s := s.leave
              let known := known.put key value
              let s := if s.sees 0 (fun c => c == ',' || c == '\x27' || c == '"') then s.next else s
              if s.isAt ']' && s.isInside .item then some (known, s)
              else members inner left known s.skipBlanks

/-- Members after the end of an outermost object belong to it. -/
def moreMembers (inner : Readers) (known : Entries Json) (s : Cursor) : Option (Json × Cursor) :=
  let s := s.skipBlanks
  if !s.isAt ',' then some (.object known, s)
  else
    let s := s.next.skipBlanks
    if !s.sees 0 isQuote then some (.object known, s)
    else
      (inner.object s).map fun
        | (.object later, s) => (.object (known.putAll later), s)
        | (_, s) => (.object known, s)

/-- What has content and no members is read once more, as an array. -/
def object (inner : Readers) (s : Cursor) : Option (Json × Cursor) :=
  match members inner s.rounds [] s with
  | none => none
  | some (known, after) =>
    if known.isEmpty && decide (s.passed + 2 < after.passed) then
      (inner.array { s with places := after.places }).map fun (items, s) => (.array items, s)
    else if after.places.isEmpty then moreMembers inner known after
    else some (.object known, after)

/-- Readers of values that are nested less than so many levels deep. -/
def readers : Nat → Readers
  | 0 => ⟨fun _ => none, fun _ => none, fun _ => none⟩
  | depth + 1 =>
    let inner := readers depth
    ⟨value inner, array inner, object inner⟩

/-- An array, an object and what is in them count one level each. -/
def mostLevels : Nat := 1000

mutual

/-- The same kinds of values in the same places. -/
def sameShape : Json → Json → Bool
  | .null, other => other.isNull
  | .bool _, other => match other with | .bool _ => true | _ => false
  | .int _, other => match other with | .int _ => true | _ => false
  | .float _, other => match other with | .float _ => true | _ => false
  | .str _, other => match other with | .str _ => true | _ => false
  | .array xs, other => match other with | .array ys => sameShapes xs ys | _ => false
  | .object ms, other =>
    match other with
    | .object ns => ms.length == ns.length && sameMemberShapes ms ns
    | _ => false

def sameShapes : List Json → List Json → Bool
  | [], ys => ys.isEmpty
  | x :: xs, ys => match ys with | y :: ys => sameShape x y && sameShapes xs ys | [] => false

def sameMemberShapes : List (String × Json) → List (String × Json) → Bool
  | [], _ => true
  | (key, x) :: ms, ns =>
    (match Entries.get? ns key with | some y => sameShape x y | none => false) &&
      sameMemberShapes ms ns

end

/-- Null, false, zero and everything empty. -/
def isVoid : Json → Bool
  | .null => true
  | .bool value => !value
  | .int value => value == 0
  | .float value => value == 0.0
  | value => isEmptyValue value

/-- One more document. It takes the place of the one before when that is void or has its shape. -/
def addDocument (found : List Json) (document : Json) : List Json :=
  match found with
  | last :: earlier =>
    if sameShape last document || isVoid last then document :: earlier else document :: found
  | [] => [document]

/-- The documents up to the end of the text, the last one first. -/
def documents : Nat → List Json → Cursor → Option (List Json)
  | 0, found, _ => some found
  | left + 1, found, s =>
    if s.rest.isEmpty then some found
    else
      match (readers mostLevels).value s.leave with
      | none => none
      | some (document, after) =>
        if isVoid document then documents left found after.next
        else documents left (addDocument found document) after

/-- Several documents in one text become an array. A text without any is not mended. -/
def read? (text : String) : Option Json := do
  let start := Cursor.ofText text.toList
  let (first, after) ← (readers mostLevels).value start
  let found ← documents start.rounds [first] after
  match found.reverse with
  | [.str ""] => none
  | [document] => some document
  | found => some (.array found)

end UiSchema.Json.Repair
