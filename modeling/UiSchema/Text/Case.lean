import UiSchema.Text.CaseTable

/-! Upper and lower case of texts in every script. A letter may become several, and a capital sigma
has its own small form at the end of a word. -/

set_option autoImplicit false

namespace UiSchema.Text

def CaseRows.move? : CaseRows → Nat → Option Nat
  | [], _ => none
  | (low, high, stride, shift) :: rest, code =>
    if low ≤ code ∧ code ≤ high ∧ (code - low) % stride = 0 then some (code + shift).toNat
    else move? rest code

def mapCase (rows : CaseRows) (expansions : List (Nat × List Nat)) (c : Char) : List Char :=
  match expansions.lookup c.toNat with
  | some codes => codes.map Char.ofNat
  | none =>
    match rows.move? c.toNat with
    | some code => [Char.ofNat code]
    | none => [c]

def upperChar : Char → List Char := mapCase upperRows upperExpansions

def lowerChar : Char → List Char := mapCase lowerRows lowerExpansions

/-- Whether the first letter that is no case-ignorable mark has a case. -/
def meetsCased : List Char → Bool
  | [] => false
  | c :: rest =>
    if caseIgnorableRanges.holds c.toNat then meetsCased rest else casedRanges.holds c.toNat

/-- `before` holds the characters already passed, the last one first. -/
def lowerFrom (before : List Char) : List Char → List Char
  | [] => []
  | c :: rest =>
    let here :=
      if c = 'Σ' then if meetsCased before && !meetsCased rest then ['ς'] else ['σ']
      else lowerChar c
    here ++ lowerFrom (c :: before) rest

def lower (s : String) : String := String.ofList (lowerFrom [] s.toList)

/-- Only the letters from A to Z change. -/
def asciiLower (s : String) : String := s.map Char.toLower

def upper (s : String) : String := String.ofList (s.toList.flatMap upperChar)

end UiSchema.Text
