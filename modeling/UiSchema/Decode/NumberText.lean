import UiSchema.Decode
import UiSchema.Json.Numeral
import UiSchema.Text.Blank
import UiSchema.Text.Case

/-! Numbers decoded from texts, which may pad them with space and zeros and group their digits. -/

set_option autoImplicit false

namespace UiSchema.Decode

/-- Underscores may stand inside, one at a time. -/
def withoutUnderscores (cs : List Char) : Option (List Char) :=
  if cs.head? = some '_' ∨ cs.getLast? = some '_' then none
  else if (cs.zip cs.tail).contains ('_', '_') then none
  else some (cs.filter (· != '_'))

/-- A point does not count when zeros follow it, at least one, and nothing else. -/
def withoutZeroFraction (cs : List Char) : List Char :=
  match cs.dropWhile (· != '.') with
  | '.' :: '0' :: fraction => if fraction.all (· == '0') then cs.takeWhile (· != '.') else cs
  | _ => cs

/-- What follows the zeros that pad a number, or their `last` one when no other digit follows.
Underscores between them do not count, and a minus sign may come after them. -/
def afterZeros? (last : Char) : List Char → Option (List Char)
  | [] => some [last]
  | c :: rest =>
    if c = '0' ∨ c = '_' then afterZeros? c rest
    else if c = '.' then some (last :: c :: rest)
    else if c.isDigit ∨ c = '-' then some (c :: rest)
    else none

def withoutPadding? : List Char → Option (List Char)
  | [] => none
  | c :: rest =>
    if c = '0' then afterZeros? c rest
    else if c.isDigit ∨ c = '-' then some (c :: rest)
    else none

def withoutPlus? : List Char → Option (List Char)
  | '+' :: '-' :: _ => none
  | '+' :: rest => some rest
  | cs => some cs

/-- The sign, `true` for minus, and the digits that count. -/
def signedDigits? (cs : List Char) : Option (Bool × List Char) := do
  let (negative, digits) ←
    match ← withoutPadding? (← withoutPlus? cs) with
    | '-' :: rest => (withoutPadding? rest).map (true, ·)
    | digits => some (false, digits)
  some (negative, ← withoutUnderscores (withoutZeroFraction digits))

/-- A whole number in words of digits. The minus sign counts towards the greatest length. -/
def integerText (text : String) : Decoded Int :=
  match signedDigits? (Text.trimWhere Text.isWhiteSpace text.toList) with
  | none => .fault .unreadableInteger
  | some (negative, digits) =>
    if mostDigits < digits.length + negative.toNat then .fault .oversizedInteger
    else
      match Decimal.natural? digits with
      | none => .fault .unreadableInteger
      | some size => .ok (if negative then -(size : Int) else size)

/-- The words for numbers that are not finite. -/
def floatWord? (word : String) : Option Float :=
  if word = "inf" ∨ word = "infinity" then some Json.infinity
  else if word = "nan" then some Json.nan
  else none

def floatChars? (cs : List Char) : Option Float :=
  let (negative, digits) := Decimal.sign cs
  match floatWord? (Text.asciiLower (String.ofList digits)) with
  | some size => some (if negative then -size else size)
  | none => Decimal.float? cs

/-- Space around a number and underscores inside it are let pass, but not both at once. -/
def floatText (text : String) : Decoded Float :=
  let cs := text.toList
  match floatChars? (Text.trimWhere Text.isWhiteSpace cs) with
  | some value => .ok value
  | none =>
    match (withoutUnderscores cs).bind floatChars? with
    | some value => .ok value
    | none => .fault .unreadableNumber

/-- What is not a number is not above zero either. -/
def positiveFloatText (text : String) : Decoded Float :=
  (floatText text).check fun value => if 0.0 < value then none else some (.notAbove 0)

end UiSchema.Decode
