import UiSchema.Json.Repair.Content

/-! Where a text ends. Its closing mark may be missing, or stand inside without a backslash; what
follows decides. Each rule looks ahead for the shape of a document that continues. -/

set_option autoImplicit false

namespace UiSchema.Json.Repair

/-- How a text is delimited. -/
structure Quoting where
  opening : Char
  closing : Char
  /-- The text has no mark in front. -/
  bare : Bool
  /-- The mark stands twice. -/
  doubled : Bool

namespace Quoting

def isMark (q : Quoting) (c : Char) : Bool := c == q.closing || c == q.opening

/-- A text without marks ends where its place does. -/
def endsBare (q : Quoting) (s : Cursor) (c : Char) : Bool :=
  q.bare &&
    ((s.reads .key && (c == ':' || Text.isBlank c)) ||
      (s.reads .item && (c == ']' || c == ',')))

/-- The next closing mark is the end of a value, or belongs to the value of the member after. -/
def closesLater (q : Quoting) (s : Cursor) (closing : Nat) : Bool :=
  let after := s.pastBlanks (closing + 1)
  if (s.ahead after).isNone || s.sees after (fun c => c == ',' || c == '\x7d') then true
  else
    let opening := s.seek [q.opening] after
    if (s.ahead opening).isNone then true
    else s.sees (s.pastBlanks (opening + 1)) (· != ':')

/-- At a comma or closing brace in a value: whether the closing mark is missing in front of it. -/
def lacksMark (q : Quoting) (s : Cursor) (content : Content) : Bool :=
  let hidden := s.sees 1 (· == '\\')
  let closing := s.seek [q.closing] 1
  if (s.ahead closing).isSome then !hidden && !q.closesLater s closing
  else if (s.ahead (s.seek [':'] 1)).isSome then true
  else
    let after := s.pastBlanks 1
    let brace := s.seek ['\x7d'] after
    if after + 1 < brace then false
    else if (s.ahead brace).isSome && content.contains '\x7b'.toNat then false
    else !hidden

/-- A closing brace with nothing after it, or with the end of a fence. -/
def endsDocument (s : Cursor) : Bool :=
  let after := s.pastBlanks 1
  (s.ahead after).isNone || (List.range 3).all fun offset => s.sees (after + offset) (· == '\x60')

/-- Whether the text ends before the character the cursor is at, which is no closing mark. -/
def endsBefore (q : Quoting) (s : Cursor) (content : Content) (c : Char) : Bool :=
  let unmarked := !content.endsWith q.closing
  q.endsBare s c ||
    (s.reads .value && (c == ',' || c == '\x7d') && unmarked && q.lacksMark s content) ||
    (s.isInside .item && c == ']' && unmarked && (s.ahead (s.seek [q.closing] 0)).isNone) ||
    (s.reads .value && c == '\x7d' && endsDocument s)

/-- At a colon in a key: whether the closing mark is missing in front of it. -/
def lacksMarkInKey (q : Quoting) (s : Cursor) : Bool :=
  let opening := s.seek [q.opening] 1
  if (s.ahead opening).isNone then true
  else
    let closing := s.seek [q.closing] (opening + 1)
    (s.ahead closing).isSome &&
      s.sees (s.pastBlanks (closing + 1)) fun c => c == ',' || c == '\x7d'

/-- Whether the cursor is at the colon that ends a key. -/
def endsKey (q : Quoting) (s : Cursor) : Bool :=
  s.isAt ':' && s.reads .key && !q.bare && q.lacksMarkInKey s

/-- How far it is to the next mark, or to a character that can end what the text stands in. A comma
ends a value only if no letter comes before it, which `plain` tells. -/
def reach (q : Quoting) (s : Cursor) (plain : Bool) : List Char → Nat
  | [] => 0
  | c :: rest =>
    if q.isMark c then 0
    else
      let plain := plain && !Text.isLetter c
      let ends :=
        (s.isInside .key && (c == ':' || c == '\x7d')) || (s.isInside .value && c == '\x7d') ||
          (s.isInside .item && (c == ']' || c == ',')) || (plain && s.reads .value && c == ',')
      if ends then 0 else q.reach s plain rest + 1

/-- Whether a colon comes before a comma, a closing bracket and a mark that is not hidden. -/
def meetsColon (q : Quoting) (hidden : Bool) : List Char → Bool
  | [] => false
  | c :: rest =>
    if c = ':' then true
    else if c = ',' ∨ c = ']' ∨ c = '\x7d' ∨ (c = q.closing ∧ !hidden) then false
    else q.meetsColon (c == '\\') rest

/-- The closing marks before the end of an array. -/
def marksInItem (q : Quoting) (hidden : Bool) : List Char → Nat
  | [] => 0
  | c :: rest =>
    if c = '\\' then q.marksInItem (!hidden) rest
    else if !hidden && c == ']' then 0
    else if !hidden && c == q.closing then q.marksInItem false rest + 1
    else q.marksInItem false rest

/-- What a closing mark in a text means. -/
inductive Meaning where
  /-- It ends the text. -/
  | closes
  /-- It ends the text together with the mark after it. -/
  | closesTwice
  /-- It opens the next key: the text ended one character before. -/
  | opensNext
  /-- It is part of the text, and whether the next one is, too. -/
  | belongs (paired : Bool)

/-- The mark at `next` follows a closing mark inside a value. -/
def meaningInValue (q : Quoting) (s : Cursor) (next : Nat) : Meaning :=
  let after := s.pastBlanks (next + 1)
  let follower :=
    if s.sees after (· == ',') then
      let opening := s.seek [q.opening] (after + 1)
      s.pastBlanks (s.seek [q.closing] (opening + 2) + 1)
    else after
  if s.sees after (· == ',') && s.sees follower (· == ':') then .belongs false
  else
    let last := s.seek [q.closing] (follower + 1)
    if q.meetsColon false (s.rest.drop (last + 1)) then .closes else .belongs true

/-- A closing mark that another one follows at `next`. -/
def meaningBetween (q : Quoting) (s : Cursor) (next : Nat) : Meaning :=
  if ((s.rest.take next).drop 1).all Text.isBlank then .closes
  else if s.reads .value then q.meaningInValue s next
  else if s.reads .item then
    if q.marksInItem false (s.rest.drop (next + 1)) % 2 = 1 then .belongs true else .closes
  else if s.reads .key then .belongs false
  else .closes

/-- After the comma at `comma`, a closing mark follows that itself ends a member. -/
def endsMember (q : Quoting) (s : Cursor) (comma : Nat) : Bool :=
  let closing := s.seek [q.closing] (comma + 1)
  s.sees (s.pastBlanks (closing + 1)) (fun c => c == ',' || c == '\x7d')

/-- Without a mark in front, the closing mark may open the key of the next member. -/
def opensKey (q : Quoting) (s : Cursor) : Bool :=
  let next := 1 + ((s.rest.drop 1).takeWhile fun c => !q.isMark c).length
  (s.ahead next).isSome && s.sees (s.pastBlanks (next + 1)) (· == ':')

/-- The cursor is at a closing mark that no backslash hides. `paired` tells whether an earlier one
was taken as part of the text. -/
def meaning (q : Quoting) (paired : Bool) (s : Cursor) : Meaning :=
  if q.doubled && s.sees 1 (· == q.closing) then .closesTwice
  else if q.bare && s.reads .value then if q.opensKey s then .opensNext else .closes
  else if paired then .belongs false
  else
    let next := 1 + q.reach s true (s.rest.drop 1)
    if s.sees next (· == ',') && s.reads .value then
      if q.endsMember s next then .belongs false else .closes
    else if s.sees next (· == q.closing) && !s.sees (next - 1) (· == '\\') then
      q.meaningBetween s next
    else .closes

end Quoting

end UiSchema.Json.Repair
