import UiSchema.Digest.Sha256
import UiSchema.Digest.Xxh64
import UiSchema.Json.Format

/-! Digests of texts and documents, as lower-case hexadecimal text. -/

set_option autoImplicit false

namespace UiSchema.Digest

inductive Algorithm where
  | xxh64
  | sha256
  deriving DecidableEq, Repr

def Algorithm.named? : String → Option Algorithm
  | "xxhash64" => some .xxh64
  | "sha256" => some .sha256
  | _ => none

/-- Only so many digits are kept; zero keeps all, and a negative count drops digits at the end. -/
def truncate (digits : List Char) : Option Int → List Char
  | none => digits
  | some (.ofNat 0) => digits
  | some (.ofNat (n + 1)) => digits.take (n + 1)
  | some (.negSucc n) => digits.take (digits.length - (n + 1))

def hexChars (algorithm : Algorithm) (data : Array UInt8) : List Char :=
  match algorithm with
  | .xxh64 => Text.hexDigits 16 (Xxh64.hash data).toNat
  | .sha256 => (Sha256.hash data).flatMap fun word => Text.hexDigits 8 word.toNat

def ofBytes (algorithm : Algorithm) (data : Array UInt8) (length : Option Int) : String :=
  String.ofList (truncate (hexChars algorithm data) length)

def ofText (algorithm : Algorithm) (text : String) (length : Option Int) : String :=
  ofBytes algorithm text.toUTF8.data length

/-- Several texts together. A NUL stands between them. -/
def joined (fields : List String) : String := "\x00".intercalate fields

def ofFields (algorithm : Algorithm) (fields : List String) : String :=
  ofText algorithm (joined fields) none

/-- Members in the order of their keys. -/
def sortMembers (members : List (String × List Char)) : List (String × List Char) :=
  members.mergeSort fun a b => decide (a.1 ≤ b.1)

mutual

/-- One text for all documents that differ only in the order of members. -/
def canonicalChars : Json → List Char
  | .array items => '[' :: [','].intercalate (canonicalItems items) ++ [']']
  | .object members =>
    let written := (sortMembers (canonicalMembers members)).map fun (key, value) =>
      Json.escape key ++ ':' :: value
    '\x7b' :: [','].intercalate written ++ ['\x7d']
  | leaf => (leaf.written 0).toList

def canonicalItems : List Json → List (List Char)
  | [] => []
  | item :: rest => canonicalChars item :: canonicalItems rest

def canonicalMembers : List (String × Json) → List (String × List Char)
  | [] => []
  | (key, value) :: rest => (key, canonicalChars value) :: canonicalMembers rest

end

def canonicalText (value : Json) : String := String.ofList (canonicalChars value)

/-- The canonical text of a document whose whole numbers can be written. -/
def canonical (value : Json) : Outcome String :=
  if value.fitsText then .ok (canonicalText value) else .error .tooManyDigits

def ofJson (algorithm : Algorithm) (value : Json) : Outcome String := do
  return ofText algorithm (← canonical value) none

end UiSchema.Digest
