import UiSchema.Json.Format
import UiSchema.Json.Token

/-! The tokens of a written document. Scanning the text of a document gives the tokens of the
document, in every format that a reader can follow. -/

set_option autoImplicit false

namespace UiSchema.Json

open Scan

namespace Scan

variable {d : Dialect}

theorem hexValue?_hexDigit : ∀ n < 16, hexValue? (Text.hexDigit n) = some n := by
  decide

/-- A control character is read back from its code. -/
theorem tokens_code (content rest : List Char) {c : Char} (control : c.toNat < 0x20) :
    Scan.tokens d (.code content none 4 0) (Text.hexDigits 4 c.toNat ++ rest) =
      Scan.tokens d (.text (c :: content)) rest := by
  -- two of the four digits are zeros, and the other two give the code back
  have digits : Text.hexDigits 4 c.toNat =
      ['0', '0', Text.hexDigit (c.toNat / 16), Text.hexDigit (c.toNat % 16)] := by
    have all : ∀ n < 0x20, Text.hexDigits 4 n =
        ['0', '0', Text.hexDigit (n / 16), Text.hexDigit (n % 16)] := by decide
    exact all c.toNat control
  have zero : hexValue? '0' = some 0 := by decide
  have high := hexValue?_hexDigit (c.toNat / 16) (by omega)
  have low := hexValue?_hexDigit (c.toNat % 16) (by omega)
  have value : c.toNat / 16 * 16 + c.toNat % 16 = c.toNat := by omega
  have whole : codeRead content none c.toNat = .text (c :: content) := by
    have notHigh : isHigh c.toNat = false := decide_eq_false (by omega)
    have notLow : isLow c.toNat = false := decide_eq_false (by omega)
    simp [codeRead, notHigh, notLow, Char.ofNat_toNat]
  rw [digits]
  simp [Scan.tokens, step, zero, high, low, value, whole]

theorem tokens_escapeChar (content rest : List Char) (c : Char) :
    Scan.tokens d (.text content) (escapeChar c ++ rest) =
      Scan.tokens d (.text (c :: content)) rest := by
  unfold escapeChar
  split
  · subst_vars; rfl
  split
  · subst_vars; rfl
  split
  · subst_vars; rfl
  split
  · subst_vars; rfl
  split
  · subst_vars; rfl
  split
  · subst_vars; rfl
  split
  · subst_vars; rfl
  split
  · rename_i control
    have start : Scan.tokens d (.text content) ('\\' :: 'u' :: (Text.hexDigits 4 c.toNat ++ rest)) =
        Scan.tokens d (.code content none 4 0) (Text.hexDigits 4 c.toNat ++ rest) := rfl
    exact start.trans (tokens_code content rest control)
  · rename_i quote backslash _ _ _ _ _ shown
    simp [Scan.tokens, step, quote, backslash, shown]

/-- A quoted text is one token. -/
theorem tokens_escape (s : String) (rest : List Char) :
    Scan.tokens d .between (escape s ++ rest) = .str s :: Scan.tokens d .between rest := by
  -- the scan keeps what it has read of the text in reverse
  have inside : ∀ (cs content : List Char),
      Scan.tokens d (.text content) (cs.flatMap escapeChar ++ ('"' :: rest)) =
        .str (String.ofList (content.reverse ++ cs)) :: Scan.tokens d .between rest := by
    intro cs
    induction cs with
    | nil => intro content; simp [Scan.tokens, step]
    | cons c cs ih =>
      intro content
      rw [List.flatMap_cons, List.append_assoc, tokens_escapeChar, ih]
      simp
  have start : Scan.tokens d .between (escape s ++ rest) =
      Scan.tokens d (.text []) (s.toList.flatMap escapeChar ++ ('"' :: rest)) := by
    simp [escape, Scan.tokens, step, fromBetween, isSpace]
  rw [start, inside]
  simp

theorem tokens_space {spaces : List Char} (blank : ∀ c ∈ spaces, isSpace c = true)
    (rest : List Char) :
    Scan.tokens d .between (spaces ++ rest) = Scan.tokens d .between rest := by
  induction spaces with
  | nil => rfl
  | cons c spaces ih =>
    obtain ⟨space, blank⟩ := List.forall_mem_cons.1 blank
    rw [List.cons_append, Scan.tokens]
    simp [step, fromBetween, space, ih blank]

/-- The next character ends a word. -/
def EndsWord (rest : List Char) : Prop := ∀ c ∈ rest.head?, isWordChar c = false

theorem tokens_run (run : List Char) {word rest : List Char}
    (letters : ∀ c ∈ word, isWordChar c = true) (ends : EndsWord rest) :
    Scan.tokens d (.word run) (word ++ rest) =
      wordToken d (word.reverse ++ run) :: Scan.tokens d .between rest := by
  induction word generalizing run with
  | nil =>
    cases rest with
    | nil => rfl
    | cons c rest =>
      have other : isWordChar c = false := ends c rfl
      simp [Scan.tokens, step, other]
  | cons c word ih =>
    obtain ⟨letter, letters⟩ := List.forall_mem_cons.1 letters
    rw [List.cons_append, Scan.tokens]
    simp only [step, letter, if_true, List.nil_append, ih (c :: run) letters]
    simp

theorem fromBetween_word {c : Char} (letter : isWordChar c = true) :
    fromBetween c = ([], .word [c]) := by
  have other : ∀ x, isWordChar x = false → c ≠ x := by
    rintro x no rfl
    rw [no] at letter
    cases letter
  have space : isSpace c = false := by
    simp [isSpace, other ' ' (by decide), other '\t' (by decide), other '\n' (by decide),
      other '\r' (by decide)]
  simp [fromBetween, space, letter, other '"' (by decide), other ',' (by decide),
    other ':' (by decide), other '[' (by decide), other ']' (by decide),
    other '\x7b' (by decide), other '\x7d' (by decide)]

/-- A word is one token, up to the first character that cannot belong to it. -/
theorem tokens_word {word rest : List Char} (some : word ≠ [])
    (letters : ∀ c ∈ word, isWordChar c = true) (ends : EndsWord rest) :
    Scan.tokens d .between (word ++ rest) =
      wordToken d word.reverse :: Scan.tokens d .between rest := by
  cases word with
  | nil => exact absurd rfl some
  | cons c word =>
    obtain ⟨letter, letters⟩ := List.forall_mem_cons.1 letters
    rw [List.cons_append, Scan.tokens, step, fromBetween_word letter]
    simp [tokens_run [c] letters ends]

end Scan

/-- A format whose texts a reader follows: blank space, and the usual spelling of the words. -/
structure Format.Plain (f : Format) : Prop where
  quote : f.quote = escape
  null : f.null = ['n', 'u', 'l', 'l']
  yes : f.yes = ['t', 'r', 'u', 'e']
  no : f.no = ['f', 'a', 'l', 's', 'e']
  edge : ∀ level, ∀ c ∈ f.edge level, isSpace c = true
  gap : ∀ level, ∀ c ∈ f.gap level, isSpace c = true
  afterColon : ∀ c ∈ f.afterColon, isSpace c = true

mutual

/-- The leaves of a document that are written as bare words. -/
def words : Json → List Json
  | .str _ => []
  | .array items => itemWords items
  | .object members => memberWords members
  | leaf => [leaf]

def itemWords : List Json → List Json
  | [] => []
  | item :: rest => words item ++ itemWords rest

def memberWords : List (String × Json) → List Json
  | [] => []
  | (_, value) :: rest => words value ++ memberWords rest

end

/-- The text of a leaf is one word. -/
structure IsWord (f : Format) (leaf : Json) : Prop where
  some : f.chars 0 leaf ≠ []
  letters : ∀ c ∈ f.chars 0 leaf, isWordChar c = true

section Tokens

variable (token : Json → Token)

mutual

/-- The tokens of a document; `token` is what each leaf is read as. -/
def tokenList : Json → List Token
  | .str value => [.str value]
  | .array items =>
    match items with
    | [] => [.openArray, .closeArray]
    | item :: rest => .openArray :: tokenList item ++ itemTokens rest ++ [.closeArray]
  | .object members =>
    match members with
    | [] => [.openObject, .closeObject]
    | (key, value) :: rest =>
      .openObject :: .str key :: .colon :: tokenList value ++ memberTokens rest ++ [.closeObject]
  | leaf => [token leaf]

/-- The items after the first. -/
def itemTokens : List Json → List Token
  | [] => []
  | item :: rest => .comma :: tokenList item ++ itemTokens rest

/-- The members after the first. -/
def memberTokens : List (String × Json) → List Token
  | [] => []
  | (key, value) :: rest => .comma :: .str key :: .colon :: tokenList value ++ memberTokens rest

end

end Tokens

namespace Format

variable {d : Dialect} {f : Format}

/-- What the word of a leaf is read as. -/
def leafToken (d : Dialect) (f : Format) (leaf : Json) : Token :=
  wordToken d (f.chars 0 leaf).reverse

/-- A leaf is written in the same way at all levels. -/
theorem tokens_leaf (level : Nat) {leaf : Json} (same : f.chars level leaf = f.chars 0 leaf)
    (word : IsWord f leaf) {rest : List Char} (ends : EndsWord rest) :
    Scan.tokens d .between (f.chars level leaf ++ rest) =
      f.leafToken d leaf :: Scan.tokens d .between rest := by
  rw [same, tokens_word word.some word.letters ends, leafToken]

theorem endsWord_space {spaces rest : List Char} (blank : ∀ c ∈ spaces, isSpace c = true)
    (ends : EndsWord rest) : EndsWord (spaces ++ rest) := by
  cases spaces with
  | nil => exact ends
  | cons c spaces =>
    rintro _ ⟨⟩
    have space := blank c (by simp)
    simp only [isSpace, Bool.or_eq_true, beq_iff_eq] at space
    rcases space with ((rfl | rfl) | rfl) | rfl <;> decide

theorem endsWord_cons {c : Char} (mark : isWordChar c = false) (rest : List Char) :
    EndsWord (c :: rest) := by
  rintro _ ⟨⟩
  exact mark

/-- After an item comes the comma of the next one, or what comes after them all. -/
theorem endsWord_items (level : Nat) (items : List Json) {rest : List Char}
    (ends : EndsWord rest) : EndsWord (f.itemChars level items ++ rest) := by
  cases items with
  | nil => exact ends
  | cons item others =>
    rw [itemChars]
    exact endsWord_cons (by decide) _

theorem endsWord_members (level : Nat) (members : List (String × Json)) {rest : List Char}
    (ends : EndsWord rest) : EndsWord (f.memberChars level members ++ rest) := by
  cases members with
  | nil => exact ends
  | cons member others =>
    rw [memberChars]
    exact endsWord_cons (by decide) _

theorem tokens_openArray (rest : List Char) :
    Scan.tokens d .between ('[' :: rest) = .openArray :: Scan.tokens d .between rest := rfl

theorem tokens_closeArray (rest : List Char) :
    Scan.tokens d .between (']' :: rest) = .closeArray :: Scan.tokens d .between rest := rfl

theorem tokens_openObject (rest : List Char) :
    Scan.tokens d .between ('\x7b' :: rest) = .openObject :: Scan.tokens d .between rest := rfl

theorem tokens_closeObject (rest : List Char) :
    Scan.tokens d .between ('\x7d' :: rest) = .closeObject :: Scan.tokens d .between rest := rfl

theorem tokens_comma (rest : List Char) :
    Scan.tokens d .between (',' :: rest) = .comma :: Scan.tokens d .between rest := rfl

/-- A key and the colon after it. -/
theorem tokens_key (plain : f.Plain) (key : String) (rest : List Char) :
    Scan.tokens d .between (f.quote key ++ (':' :: (f.afterColon ++ rest))) =
      .str key :: .colon :: Scan.tokens d .between rest := by
  have colon : Scan.tokens d .between (':' :: (f.afterColon ++ rest)) =
      .colon :: Scan.tokens d .between (f.afterColon ++ rest) := rfl
  rw [plain.quote, tokens_escape, colon, tokens_space plain.afterColon]

mutual

/-- A document is scanned into its tokens, whatever text comes after it. -/
theorem tokens_chars (plain : f.Plain) (level : Nat) : ∀ (v : Json) {rest : List Char},
    (∀ leaf ∈ words v, IsWord f leaf) → EndsWord rest →
    Scan.tokens d .between (f.chars level v ++ rest) =
      tokenList (f.leafToken d) v ++ Scan.tokens d .between rest
  | .null, _, isWord, ends => tokens_leaf level rfl (isWord _ (by simp [words])) ends
  | .bool true, _, isWord, ends => tokens_leaf level rfl (isWord _ (by simp [words])) ends
  | .bool false, _, isWord, ends => tokens_leaf level rfl (isWord _ (by simp [words])) ends
  | .int _, _, isWord, ends => tokens_leaf level rfl (isWord _ (by simp [words])) ends
  | .float _, _, isWord, ends => tokens_leaf level rfl (isWord _ (by simp [words])) ends
  | .str s, rest, _, _ => by
    rw [chars, plain.quote, tokens_escape]
    rfl
  | .array [], rest, _, _ => rfl
  | .array (item :: items), rest, isWord, ends => by
    have text : f.chars level (.array (item :: items)) ++ rest =
        '[' :: (f.edge (level + 1) ++ (f.chars (level + 1) item ++
          (f.itemChars (level + 1) items ++ (f.edge level ++ (']' :: rest))))) := by
      simp [chars]
    obtain ⟨first, others⟩ := List.forall_mem_append.1 isWord
    have closed : EndsWord (f.edge level ++ (']' :: rest)) :=
      endsWord_space (plain.edge level) (endsWord_cons (by decide) rest)
    rw [text, tokens_openArray, tokens_space (plain.edge _),
      tokens_chars plain (level + 1) item first (endsWord_items _ items closed),
      tokens_itemChars plain (level + 1) items others closed, tokens_space (plain.edge level),
      tokens_closeArray]
    simp [tokenList]
  | .object [], rest, _, _ => rfl
  | .object ((key, value) :: members), rest, isWord, ends => by
    have text : f.chars level (.object ((key, value) :: members)) ++ rest =
        '\x7b' :: (f.edge (level + 1) ++ (f.quote key ++ (':' :: (f.afterColon ++
          (f.chars (level + 1) value ++ (f.memberChars (level + 1) members ++
            (f.edge level ++ ('\x7d' :: rest)))))))) := by
      simp [chars]
    obtain ⟨first, others⟩ := List.forall_mem_append.1 isWord
    have closed : EndsWord (f.edge level ++ ('\x7d' :: rest)) :=
      endsWord_space (plain.edge level) (endsWord_cons (by decide) rest)
    rw [text, tokens_openObject, tokens_space (plain.edge _), tokens_key plain,
      tokens_chars plain (level + 1) value first (endsWord_members _ members closed),
      tokens_memberChars plain (level + 1) members others closed, tokens_space (plain.edge level),
      tokens_closeObject]
    simp [tokenList]

theorem tokens_itemChars (plain : f.Plain) (level : Nat) :
    ∀ (items : List Json) {rest : List Char}, (∀ leaf ∈ itemWords items, IsWord f leaf) →
    EndsWord rest →
    Scan.tokens d .between (f.itemChars level items ++ rest) =
      itemTokens (f.leafToken d) items ++ Scan.tokens d .between rest
  | [], _, _, _ => rfl
  | item :: items, rest, isWord, ends => by
    have text : f.itemChars level (item :: items) ++ rest =
        ',' :: (f.gap level ++ (f.chars level item ++ (f.itemChars level items ++ rest))) := by
      simp [itemChars]
    obtain ⟨first, others⟩ := List.forall_mem_append.1 isWord
    rw [text, tokens_comma, tokens_space (plain.gap level),
      tokens_chars plain level item first (endsWord_items level items ends),
      tokens_itemChars plain level items others ends]
    simp [itemTokens]

theorem tokens_memberChars (plain : f.Plain) (level : Nat) :
    ∀ (members : List (String × Json)) {rest : List Char},
    (∀ leaf ∈ memberWords members, IsWord f leaf) → EndsWord rest →
    Scan.tokens d .between (f.memberChars level members ++ rest) =
      memberTokens (f.leafToken d) members ++ Scan.tokens d .between rest
  | [], _, _, _ => rfl
  | (key, value) :: members, rest, isWord, ends => by
    have text : f.memberChars level ((key, value) :: members) ++ rest =
        ',' :: (f.gap level ++ (f.quote key ++ (':' :: (f.afterColon ++
          (f.chars level value ++ (f.memberChars level members ++ rest)))))) := by
      simp [memberChars]
    obtain ⟨first, others⟩ := List.forall_mem_append.1 isWord
    rw [text, tokens_comma, tokens_space (plain.gap level), tokens_key plain,
      tokens_chars plain level value first (endsWord_members level members ends),
      tokens_memberChars plain level members others ends]
    simp [memberTokens]

end

end Format

end UiSchema.Json
