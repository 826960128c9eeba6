import UiSchema.Proofs.Schema.Returns
import UiSchema.Proofs.Stream.Fenced
import UiSchema.Proofs.Stream.Latest

/-! Streams over texts of any kind. Every call comes back with a schema or with nothing, unless the
text so far is looked at and has an index with too many digits in an expression of a candidate. -/

set_option autoImplicit false

namespace UiSchema

open UiSchema.Outcome
open UiSchema.Schema (TextStumbles extract?_returns)

namespace Stream

variable {settings : Settings}

theorem feed_returns (s : Stream) (chunk : String) (done : Bool) :
    Returns (s.feed settings chunk done) ↔
      ¬ ((done || s.partials) = true ∧ TextStumbles settings (s.text ++ chunk)) := by
  by_cases looks : (done || s.partials) = true
  · have text : Returns (Schema.extract? settings (s.text ++ chunk)) ↔
        ¬ TextStumbles settings (s.text ++ chunk) := extract?_returns _
    cases extracted : Schema.extract? settings (s.text ++ chunk) with
    | error overflow =>
      rw [extracted] at text
      rw [feed_eq_error looks extracted]
      have stumbles := not_not.1 (text.not.1 (not_returns_error overflow))
      exact iff_of_false (not_returns_error overflow) (not_not.2 ⟨looks, stumbles⟩)
    | ok found =>
      rw [extracted] at text
      obtain ⟨new, next, fed, _⟩ := feed_eq_ok looks extracted
      exact iff_of_true ⟨_, fed⟩ fun both => text.1 (returns_ok found) both.2
  · obtain ⟨_, partials, _⟩ := s.append_eq chunk
    have unlooked : s.feed settings chunk done = .ok (none, s.append chunk) := by
      unfold feed
      simp [partials, looks]
    rw [unlooked]
    exact iff_of_true (returns_ok _) fun both => looks both.1

theorem collect_returns (chunks : List String) :
    Returns (collect settings true chunks) ↔
      ∀ text ∈ looked "" chunks, ¬ TextStumbles settings text := by
  have answers := finish_partials settings chunks { partials := true } rfl
  refine answers.returns_iff.trans ?_
  rw [returns_mapM]
  exact forall₂_congr fun text _ => extract?_returns text

/-- Looking for a schema in a text, one more chunk of a stream in any state, and a whole stream that
looks at every partial text: each comes back with a schema or with nothing, unless a text that is
looked at has an index with too many digits in an expression of the first candidate that is not
passed over. -/
theorem returns_unless_stumbles (settings : Settings) :
    (∀ text, Returns (Schema.extract? settings text) ↔ ¬ TextStumbles settings text) ∧
    (∀ (s : Stream) (chunk : String) (done : Bool), Returns (s.feed settings chunk done) ↔
      ¬ ((done || s.partials) = true ∧ TextStumbles settings (s.text ++ chunk))) ∧
    ∀ chunks, Returns (collect settings true chunks) ↔
      ∀ text ∈ looked "" chunks, ¬ TextStumbles settings text :=
  ⟨extract?_returns, feed_returns, collect_returns⟩

end Stream

namespace Schema

open UiSchema.Json (Scan Token)
open UiSchema.Json.Block

/-- What stands in front of the binding. -/
def boundFront : String :=
  "\x7b\"version\":\"1.0\",\"root\":\x7b\"id\":\"a\",\"type\":\"T\",\"binding\":\""

/-- The text of a schema with a binding. -/
def boundText (path : List Char) : String := boundFront ++ String.ofList path ++ "\"\x7d\x7d"

def boundDocument (path : List Char) : Json :=
  .object [("version", .str "1.0"), ("root", .object
    [("id", .str "a"), ("type", .str "T"), ("binding", .str (String.ofList path))])]

def frontTokens : List Token :=
  [.openObject, .str "version", .colon, .str "1.0", .comma, .str "root", .colon, .openObject,
   .str "id", .colon, .str "a", .comma, .str "type", .colon, .str "T", .comma, .str "binding",
   .colon]

theorem toList_boundText (path : List Char) :
    (boundText path).toList = boundFront.toList ++ (path ++ "\"\x7d\x7d".toList) := by
  simp only [boundText, String.toList_append, String.toList_ofList, List.append_assoc]

theorem readChars_boundText {path : List Char}
    (plain : ∀ c ∈ path, c ≠ '"' ∧ c ≠ '\\' ∧ 0x20 ≤ c.toNat) :
    Json.readChars .strict (boundText path).toList = .ok (boundDocument path) := by
  have front : Scan.run .strict .between boundFront.toList = (frontTokens, .text []) := by rfl
  have back (content : List Char) : Scan.tokens .strict (.text content) "\"\x7d\x7d".toList =
      [.str (String.ofList content.reverse), .closeObject, .closeObject] := by rfl
  have tokens : Json.tokens .strict (boundText path).toList =
      frontTokens ++ [.str (String.ofList path), .closeObject, .closeObject] := by
    rw [toList_boundText, Json.tokens, Scan.tokens_append, front, Scan.tokens_append,
      Scan.run_plain [] plain, back]
    simp
  rw [Json.readChars, tokens]
  rfl

section Indexed

variable {digits : List Char} (all : ∀ c ∈ digits, c.isDigit = true)

include all

/-- Digits, a letter and brackets stand for themselves. -/
theorem plain_indexed : ∀ c ∈ Path.indexed digits, c ≠ '"' ∧ c ≠ '\\' ∧ 0x20 ≤ c.toNat := by
  intro c member
  simp only [Path.indexed, List.mem_cons, List.mem_append, List.not_mem_nil, or_false] at member
  rcases member with rfl | (rfl | inDigits) | rfl
  · decide
  · decide
  · have digit := all c inDigits
    simp only [Char.isDigit, Bool.and_eq_true, decide_eq_true_eq, ge_iff_le,
      UInt32.le_iff_toNat_le] at digit
    have low : 48 ≤ c.toNat := digit.1
    have high : c.toNat ≤ 57 := digit.2
    refine ⟨?_, ?_, by omega⟩
    · rintro rfl
      exact absurd low (by decide)
    · rintro rfl
      exact absurd high (by decide)
  · decide

theorem tick_notMem_indexed : '\x60' ∉ Path.indexed digits := by
  intro member
  have inDigits : '\x60' ∈ digits := by simpa [Path.indexed] using member
  cases all _ inDigits

theorem boundText_stumbles (many : mostDigits < digits.length) (start : Nat) :
    Stumbles {} (named start ((boundText (Path.indexed digits)).toList ++ ['\n'])) := by
  have read := readChars_boundText (plain_indexed all)
  refine ⟨boundDocument (Path.indexed digits), ?_, rfl, ?_,
    String.ofList (Path.indexed digits), ?_, ?_⟩
  · rw [Json.load_eq_ok, named, Json.read, String.toList_ofList,
      Text.trimChars_append_blank (by decide)]
    exact Json.readChars_trimChars read
  · exact (by decide : 2 ≤ 64)
  · refine ⟨_, _, rfl, rfl, .own ?_⟩
    simp [ownExpressions, textIn, Entries.get?]
  · rw [Path.unwrap_indexed]
    exact Path.overlong_indexed all many

theorem noTicks_boundText : ¬ HasTicks (boundText (Path.indexed digits)).toList := by
  intro someTicks
  have member : '\x60' ∈ (boundText (Path.indexed digits)).toList :=
    someTicks.subset (by simp [ticks])
  rw [toList_boundText, List.mem_append, List.mem_append] at member
  rcases member with inFront | inPath | behind
  · exact absurd inFront (by decide)
  · exact tick_notMem_indexed all inPath
  · exact absurd behind (by decide)

end Indexed

/-- No character takes more than four bytes. -/
theorem utf8ByteSize_le (text : String) : text.utf8ByteSize ≤ 4 * text.toList.length := by
  have each (cs : List Char) : String.utf8Len cs ≤ 4 * cs.length := by
    induction cs with
    | nil => exact Nat.le_refl 0
    | cons c cs ih =>
      have one := c.utf8Size_le_four
      rw [String.utf8Len_cons, List.length_cons]
      omega
  have whole := each text.toList
  rwa [← String.utf8ByteSize_ofList, String.ofList_toList] at whole

theorem utf8ByteSize_boundText_le (path : List Char) :
    (fencedText "" (boundText path) "").utf8ByteSize ≤ 4 * (path.length + 100) := by
  refine (utf8ByteSize_le _).trans (Nat.mul_le_mul_left 4 ?_)
  have front : boundFront.toList.length ≤ 60 := by decide
  have back : "\"\x7d\x7d".toList.length = 3 := by decide
  have first : opening.length = 8 := by decide
  have last : ticks.length = 3 := rfl
  have none : "".toList.length = 0 := rfl
  rw [toList_fencedText, toList_boundText]
  simp only [List.length_append, List.length_cons, back, first, last, none]
  omega

theorem textStumbles_boundText :
    TextStumbles {} (fencedText "" (boundText (Path.indexed Path.tooManyDigits)) "") := by
  have all := Path.tooManyDigits_isDigit
  have found := untilTicks_line (noTicks_boundText all) "".toList
  have small := utf8ByteSize_boundText_le (Path.indexed Path.tooManyDigits)
  refine ⟨?_, small.trans ?_, ?_⟩
  · rw [toList_fencedText, toList_boundText]
    simp [boundFront]
  · have length : (Path.indexed Path.tooManyDigits).length = mostDigits + 4 := by
      rw [Path.indexed, List.length_cons, List.length_append, List.length_cons,
        Path.tooManyDigits, List.length_replicate]
      rfl
    rw [length]
    exact (by decide : 4 * (4300 + 4 + 100) ≤ 512 * 1024)
  · have stumbles := boundText_stumbles all Path.lt_length_tooManyDigits "".toList.length
    have visible := visible_of_readChars (readChars_boundText (plain_indexed all))
    rw [blocks_fencedText (by simp) found visible]
    exact ⟨[], _, _, rfl, List.forall_mem_nil _, stumbles⟩

/-- A schema whose binding has one digit too many stops whoever looks for it. -/
theorem boundText_raises :
    ¬ Returns (extract? {} (fencedText "" (boundText (Path.indexed Path.tooManyDigits)) "")) := by
  rw [extract?_returns, not_not]
  exact textStumbles_boundText

end Schema

end UiSchema
