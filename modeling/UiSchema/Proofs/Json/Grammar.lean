/-! The grammar of documents: which texts spell a value. It says nothing of how a text is read, and
knows no limit on the digits of a number or on the nesting. -/

set_option autoImplicit false

namespace UiSchema.Json.Grammar

def isSpace (c : Char) : Bool := c == ' ' || c == '\t' || c == '\n' || c == '\r'

/-- Any number of spaces, tabs and line ends. -/
abbrev Space (cs : List Char) : Prop := cs.all isSpace = true

def words : List (List Char) := ["null".toList, "true".toList, "false".toList]

abbrev Digits (cs : List Char) : Prop := cs ≠ [] ∧ cs.all Char.isDigit = true

/-- No digits stand behind a zero in front. -/
abbrev Whole (cs : List Char) : Prop := Digits cs ∧ (cs.head? = some '0' → cs = ['0'])

inductive Fraction : List Char → Prop where
  | none : Fraction []
  | point {digits : List Char} (given : Digits digits) : Fraction ('.' :: digits)

inductive Exponent : List Char → Prop where
  | none : Exponent []
  | power {e : Char} {sign digits : List Char} (mark : e = 'e' ∨ e = 'E')
      (signed : sign ∈ [[], ['+'], ['-']]) (given : Digits digits) :
      Exponent (e :: (sign ++ digits))

inductive Number : List Char → Prop where
  | parts {sign whole fraction exponent : List Char} (signed : sign ∈ [[], ['-']])
      (given : Whole whole) (more : Fraction fraction) (power : Exponent exponent) :
      Number (sign ++ (whole ++ (fraction ++ exponent)))

def isHex (c : Char) : Bool :=
  c.isDigit || ('a' ≤ c && c ≤ 'f') || ('A' ≤ c && c ≤ 'F')

/-- What stands behind a backslash. -/
inductive Escape : List Char → Prop where
  | letter {c : Char} (known : c ∈ ['"', '\\', '/', 'b', 'f', 'n', 'r', 't']) : Escape [c]
  | code {digits : List Char} (four : digits.length = 4) (hex : digits.all isHex = true) :
    Escape ('u' :: digits)

/-- What stands between quotes. -/
inductive Quoted : List Char → Prop where
  | nil : Quoted []
  | plain {c : Char} {cs : List Char} (printed : ' ' ≤ c) (noQuote : c ≠ '"')
      (noBackslash : c ≠ '\\') (rest : Quoted cs) : Quoted (c :: cs)
  | escape {escaped cs : List Char} (known : Escape escaped) (rest : Quoted cs) :
    Quoted ('\\' :: (escaped ++ cs))

/-- What the grammar has a rule for. Items and members have the white space around them. -/
inductive Part where
  | value
  | array
  | object
  | item
  | items
  | member
  | members

inductive Spelled : Part → List Char → Prop where
  | word {cs : List Char} (known : cs ∈ words) : Spelled .value cs
  | number {cs : List Char} (number : Number cs) : Spelled .value cs
  | text {cs : List Char} (quoted : Quoted cs) : Spelled .value ('"' :: (cs ++ ['"']))
  | ofArray {cs : List Char} (array : Spelled .array cs) : Spelled .value cs
  | ofObject {cs : List Char} (object : Spelled .object cs) : Spelled .value cs
  | emptyArray {cs : List Char} (space : Space cs) : Spelled .array ('[' :: (cs ++ [']']))
  | array {cs : List Char} (items : Spelled .items cs) : Spelled .array ('[' :: (cs ++ [']']))
  | emptyObject {cs : List Char} (space : Space cs) :
    Spelled .object ('\x7b' :: (cs ++ ['\x7d']))
  | object {cs : List Char} (members : Spelled .members cs) :
    Spelled .object ('\x7b' :: (cs ++ ['\x7d']))
  | item {before cs after : List Char} (space : Space before) (value : Spelled .value cs)
      (space' : Space after) : Spelled .item (before ++ (cs ++ after))
  | lastItem {cs : List Char} (item : Spelled .item cs) : Spelled .items cs
  | items {cs more : List Char} (item : Spelled .item cs) (items : Spelled .items more) :
    Spelled .items (cs ++ ',' :: more)
  | member {before name after cs : List Char} (space : Space before) (quoted : Quoted name)
      (space' : Space after) (item : Spelled .item cs) :
      Spelled .member (before ++ '"' :: (name ++ '"' :: (after ++ ':' :: cs)))
  | lastMember {cs : List Char} (member : Spelled .member cs) : Spelled .members cs
  | members {cs more : List Char} (member : Spelled .member cs)
      (members : Spelled .members more) : Spelled .members (cs ++ ',' :: more)

/-- An array, or an object that has a member. -/
inductive Document : List Char → Prop where
  | array {cs : List Char} (array : Spelled .array cs) : Document cs
  | object {cs : List Char} (members : Spelled .members cs) :
    Document ('\x7b' :: (cs ++ ['\x7d']))

end UiSchema.Json.Grammar
