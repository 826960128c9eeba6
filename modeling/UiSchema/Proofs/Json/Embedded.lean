import UiSchema.Proofs.Json.Fence
import UiSchema.Proofs.Json.Span

/-! Documents that stand in prose. The scan for bare spans finds each of them where it stands, and
nothing else: a span begins at an opening bracket, and prose has none. -/

set_option autoImplicit false

namespace UiSchema.Json.Block

/-- Text without opening brackets. It may hold quotes and closing brackets. -/
abbrev IsProse (cs : List Char) : Prop := '\x7b' ∉ cs ∧ '[' ∉ cs

/-- A document and the prose behind it. -/
structure Embedded where
  document : List Char
  prose : List Char
  isDocument : Grammar.Document document
  isProse : IsProse prose

namespace Embedded

def chars (e : Embedded) : List Char := e.document ++ e.prose

/-- The block of the document, where so many characters stand in front of it. -/
def block (e : Embedded) (start : Nat) : Block where
  content := String.ofList e.document
  kind := .raw
  start
  stop := start + e.document.length

/-- Each document as a block of its own, where so many characters stand in front of them all. -/
def blocks (start : Nat) (embedded : List Embedded) : List Block :=
  embedded.mapIdx fun i e => e.block (start + ((embedded.take i).flatMap chars).length)

theorem blocks_cons (start : Nat) (e : Embedded) (embedded : List Embedded) :
    blocks start (e :: embedded) = e.block start :: blocks (start + e.chars.length) embedded := by
  rw [blocks, List.mapIdx_cons]
  simp [blocks, Nat.add_assoc]

end Embedded

theorem rawFrom_prose {prose : List Char} (isProse : IsProse prose) (position : Nat)
    (rest : List Char) :
    rawFrom position 0 (prose ++ rest) = rawFrom (position + prose.length) 0 rest := by
  induction prose generalizing position with
  | nil => rfl
  | cons c prose ih =>
    obtain ⟨noBrace, noBracket⟩ := isProse
    obtain ⟨other, noBrace⟩ := not_or.1 (List.mem_cons.not.1 noBrace)
    obtain ⟨other', noBracket⟩ := not_or.1 (List.mem_cons.not.1 noBracket)
    have noSpan : span? (c :: (prose ++ rest)) = none := by
      simp [span?, closer?, Ne.symm other, Ne.symm other']
    rw [List.cons_append, rawFrom, noSpan]
    show rawFrom (position + 1) 0 (prose ++ rest) = _
    rw [ih ⟨noBrace, noBracket⟩, List.length_cons, Nat.add_assoc, Nat.add_comm 1]

theorem rawFrom_skip (position : Nat) (skipped rest : List Char) :
    rawFrom position skipped.length (skipped ++ rest) =
      rawFrom (position + skipped.length) 0 rest := by
  induction skipped generalizing position with
  | nil => rfl
  | cons c skipped ih =>
    rw [List.cons_append, List.length_cons, rawFrom, ih, Nat.add_assoc, Nat.add_comm 1]

theorem rawFrom_document (e : Embedded) (position : Nat) (rest : List Char) :
    rawFrom position 0 (e.document ++ rest) =
      e.block position :: rawFrom (position + e.document.length) 0 rest := by
  obtain ⟨document, prose, isDocument, _⟩ := e
  have spanned := span?_document isDocument rest
  cases document with
  | nil =>
    cases isDocument with
    | array array => cases array
  | cons c cs =>
    have taken : (c :: (cs ++ rest)).take (cs.length + 1) = c :: cs := by
      rw [List.take_succ_cons, List.take_left]
    rw [List.cons_append] at spanned ⊢
    -- the block is made at the first character, and the others are skipped
    rw [rawFrom, spanned]
    dsimp only
    rw [List.length_cons, taken, Nat.add_sub_cancel, rawFrom_skip]
    simp [Embedded.block, Nat.add_assoc, Nat.add_comm 1]

theorem rawFrom_embedded (embedded : List Embedded) (position : Nat) :
    rawFrom position 0 (embedded.flatMap Embedded.chars) = Embedded.blocks position embedded := by
  induction embedded generalizing position with
  | nil => rfl
  | cons e embedded ih =>
    rw [List.flatMap_cons, Embedded.chars, List.append_assoc, rawFrom_document,
      rawFrom_prose e.isProse, ih, Embedded.blocks_cons, Embedded.chars, List.length_append,
      Nat.add_assoc]

/-- The blocks of a text without three backticks are the documents that stand in its prose. -/
theorem blocks_embedded {before : List Char} (isProse : IsProse before) (embedded : List Embedded)
    (noTicks : ¬ HasTicks (before ++ embedded.flatMap Embedded.chars)) :
    Json.blocks (String.ofList (before ++ embedded.flatMap Embedded.chars)) =
      Embedded.blocks before.length embedded := by
  rw [Json.blocks, String.toList_ofList, fenced, fencedFrom_eq_nil noTicks, raw,
    rawFrom_prose isProse, rawFrom_embedded, Nat.zero_add]

/-- An object whose name and whose last text hold brackets and an escaped quote. -/
def noted : List Char := "\x7b\"a\\\"]\": [1, -2.5e+3, \"\x7d[\"]\x7d".toList

theorem document_noted : Grammar.Document noted := by
  have plain {c : Char} {cs : List Char} (other : ' ' ≤ c ∧ c ≠ '"' ∧ c ≠ '\\')
      (rest : Grammar.Quoted cs) : Grammar.Quoted (c :: cs) :=
    .plain other.1 other.2.1 other.2.2 rest
  have name : Grammar.Quoted ['a', '\\', '"', ']'] :=
    plain (by decide) (.escape (.letter (c := '"') (by decide)) (plain (by decide) .nil))
  have text : Grammar.Quoted ['\x7d', '['] := plain (by decide) (plain (by decide) .nil)
  have one : Grammar.Number ['1'] :=
    @Grammar.Number.parts [] ['1'] [] [] (by decide) (by decide) .none .none
  have many : Grammar.Number ['-', '2', '.', '5', 'e', '+', '3'] :=
    @Grammar.Number.parts ['-'] ['2'] ['.', '5'] ['e', '+', '3'] (by decide) (by decide)
      (.point (by decide))
      (@Grammar.Exponent.power 'e' ['+'] ['3'] (by decide) (by decide) (by decide))
  have first {cs : List Char} (value : Grammar.Spelled .value cs) :
      Grammar.Spelled .item ([] ++ (cs ++ [])) := .item (by decide) value (by decide)
  have next {cs : List Char} (value : Grammar.Spelled .value cs) :
      Grammar.Spelled .item ([' '] ++ (cs ++ [])) := .item (by decide) value (by decide)
  have items := Grammar.Spelled.items (first (.number one))
    (.items (next (.number many)) (.lastItem (next (.text text))))
  have value : Grammar.Spelled .value _ := .ofArray (.array items)
  exact .object (.lastMember
    (@Grammar.Spelled.member [] _ [] _ (by decide) name (by decide) (next value)))

/-- Two documents, with a quote and closing brackets in the prose around them. -/
def quotation : List Embedded :=
  [{ document := noted
     prose := " \x7d or \"".toList
     isDocument := document_noted
     isProse := by decide },
   { document := ['[', ' ', ']']
     prose := "\x60\x60]".toList
     isDocument := .array (.emptyArray (by decide : Grammar.Space [' ']))
     isProse := by decide }]

theorem quotation_embedded :
    IsProse "He said \"]: ".toList ∧
      ¬ HasTicks ("He said \"]: ".toList ++ quotation.flatMap Embedded.chars) ∧
      Json.blocks (String.ofList ("He said \"]: ".toList ++ quotation.flatMap Embedded.chars)) =
        [{ content := "\x7b\"a\\\"]\": [1, -2.5e+3, \"\x7d[\"]\x7d"
           kind := .raw
           start := 12
           stop := 40 },
         { content := "[ ]", kind := .raw, start := 47, stop := 50 }] := by
  have isProse : IsProse "He said \"]: ".toList := by decide
  have noTicks : ¬ HasTicks ("He said \"]: ".toList ++ quotation.flatMap Embedded.chars) := by
    decide
  exact ⟨isProse, noTicks, (blocks_embedded isProse quotation noTicks).trans (by decide)⟩

end UiSchema.Json.Block
