import UiSchema.Json.Block
import UiSchema.Proofs.Json.Grammar

/-! The scan for matching brackets, over texts that the grammar spells. Whatever brackets are open in
front of such a text, they are the ones that are open behind it; so the span of a document ends with
the document, whatever follows. -/

set_option autoImplicit false

namespace UiSchema.Json.Block

open Grammar

variable {pending cs more : List Char} {c : Char} {before between after : Quoting}

/-- While a bracket is open, the scan passes over the characters and leaves open what is open. Where
nothing is open it ends. -/
def Passes (before after : Quoting) (cs : List Char) : Prop :=
  ∀ pending, pending ≠ [] → ∀ rest,
    balanced? pending before (cs ++ rest) = (balanced? pending after rest).map (· + cs.length)

/-- Outside of quotes the scan looks at these characters only. -/
def marks : List Char := ['"', '\x7b', '[', '\x7d', ']']

theorem map_add_map_add (length? : Option Nat) (first second : Nat) :
    (length?.map (· + first)).map (· + second) = length?.map (· + (first + second)) := by
  rw [Option.map_map]
  congr 1
  funext n
  exact Nat.add_assoc n first second

namespace Passes

theorem nil : Passes before before [] := fun pending _ rest => by simp

theorem append (first : Passes before between cs) (second : Passes between after more) :
    Passes before after (cs ++ more) := by
  intro pending isOpen rest
  rw [List.append_assoc, first pending isOpen, second pending isOpen, map_add_map_add,
    List.length_append, Nat.add_comm]

theorem cons (first : Passes before between [c]) (second : Passes between after more) :
    Passes before after (c :: more) :=
  first.append second

/-- While a bracket is open its closer is pending; then a single character is one step of the
scan. -/
theorem one (step : ∀ closer closers rest, balanced? (closer :: closers) before (c :: rest) =
      (balanced? (closer :: closers) after rest).map (· + 1)) :
    Passes before after [c] := by
  rintro (_ | ⟨closer, closers⟩) isOpen rest
  · exact absurd rfl isOpen
  · exact step closer closers rest

theorem escaped (c : Char) : Passes .escaped .inside [c] := .one fun _ _ _ => rfl

theorem backslash : Passes .inside .escaped ['\\'] := .one fun _ _ _ => rfl

theorem closingQuote : Passes .inside .outside ['"'] := .one fun _ _ _ => rfl

theorem openingQuote : Passes .outside .inside ['"'] := .one fun _ _ _ => rfl

theorem inside (noQuote : c ≠ '"') (noBackslash : c ≠ '\\') : Passes .inside .inside [c] := by
  refine .one fun closer closers rest => ?_
  show (balanced? _ (if c = '\\' then _ else if c = '"' then _ else _) rest).map _ = _
  rw [if_neg noBackslash, if_neg noQuote]

theorem outside (noMark : c ∉ marks) : Passes .outside .outside [c] := by
  have other : c ≠ '"' ∧ c ≠ '\x7b' ∧ c ≠ '[' ∧ c ≠ '\x7d' ∧ c ≠ ']' := by
    simpa [marks] using noMark
  refine .one fun closer closers rest => ?_
  simp [balanced?, bracketStep, closer?, other]

theorem all (each : ∀ c ∈ cs, Passes before before [c]) : Passes before before cs := by
  induction cs with
  | nil => exact .nil
  | cons c cs ih =>
    obtain ⟨here, others⟩ := List.forall_mem_cons.1 each
    exact here.cons (ih others)

theorem ofKind {kind : Char → Bool} (noMark : marks.all (fun c => !kind c) = true)
    (given : cs.all kind = true) : Passes .outside .outside cs := by
  refine .all fun c member => .outside fun mark => ?_
  have other := List.all_eq_true.1 noMark c mark
  simp [List.all_eq_true.1 given c member] at other

end Passes

theorem closer?_eq_some {opener closer : Char} (partner : closer? opener = some closer) :
    opener = '\x7b' ∧ closer = '\x7d' ∨ opener = '[' ∧ closer = ']' := by
  unfold closer? at partner
  split at partner
  · rename_i brace
    exact .inl ⟨brace, (Option.some.inj partner).symm⟩
  · split at partner
    · rename_i bracket
      exact .inr ⟨bracket, (Option.some.inj partner).symm⟩
    · cases partner

section Bracket

variable {opener closer : Char}

theorem balanced?_open (partner : closer? opener = some closer) (isOpen : pending ≠ [])
    (rest : List Char) :
    balanced? pending .outside (opener :: rest) =
      (balanced? (closer :: pending) .outside rest).map (· + 1) := by
  obtain ⟨last, others, rfl⟩ := List.exists_cons_of_ne_nil isOpen
  rcases closer?_eq_some partner with ⟨rfl, rfl⟩ | ⟨rfl, rfl⟩ <;> rfl

theorem balanced?_close (partner : closer? opener = some closer) (rest : List Char) :
    balanced? (closer :: pending) .outside (closer :: rest) =
      (balanced? pending .outside rest).map (· + 1) := by
  rcases closer?_eq_some partner with ⟨rfl, rfl⟩ | ⟨rfl, rfl⟩ <;> rfl

/-- The scan closes the bracket that was opened last, and no other one, at its partner. -/
theorem Passes.close (partner : closer? opener = some closer) (passes : Passes .outside .outside cs)
    (rest : List Char) :
    balanced? (closer :: pending) .outside (cs ++ closer :: rest) =
      (balanced? pending .outside rest).map (· + (cs.length + 1)) := by
  rw [passes _ (List.cons_ne_nil closer pending), balanced?_close partner, map_add_map_add,
    Nat.add_comm]

theorem Passes.bracketed (partner : closer? opener = some closer)
    (passes : Passes .outside .outside cs) :
    Passes .outside .outside (opener :: (cs ++ [closer])) := by
  intro pending isOpen rest
  rw [List.cons_append, List.append_assoc, List.singleton_append, balanced?_open partner isOpen,
    passes.close partner, map_add_map_add, List.length_cons, List.length_append]
  rfl

/-- Partners with text that passes between them are a span; braces need a colon among it. -/
theorem span?_bracketed (partner : closer? opener = some closer)
    (passes : Passes .outside .outside cs) (large : opener = '[' ∨ ':' ∈ cs) (rest : List Char) :
    span? (opener :: (cs ++ [closer]) ++ rest) = some (opener :: (cs ++ [closer])).length := by
  have nothingOpen : balanced? [] .outside rest = some 0 := by cases rest <;> rfl
  have spanned : balanced? [closer] .outside (cs ++ closer :: rest) = some (cs.length + 1) := by
    rw [passes.close partner, nothingOpen, Option.map_some, Nat.zero_add]
  have taken : (cs ++ closer :: rest).take (cs.length + 1) = cs ++ [closer] := by
    rw [List.take_length_add_append]
    rfl
  have kept : (opener = '[' || (cs ++ [closer]).contains ':') = true := by
    rcases large with rfl | member
    · rfl
    · simp [member]
  rw [List.cons_append, List.append_assoc, List.singleton_append, span?, partner]
  simp only [spanned, taken, kept, if_true, List.length_cons, List.length_append, List.length_nil]

end Bracket

/-! ### What the grammar spells -/

theorem passes_space (space : Space cs) : Passes .outside .outside cs :=
  .ofKind (by decide) space

theorem passes_digits (digits : Digits cs) : Passes .outside .outside cs :=
  .ofKind (by decide) digits.2

theorem passes_sign {sign : List Char} (signed : sign ∈ [[], ['+'], ['-']]) :
    Passes .outside .outside sign := by
  have signs : ∀ sign ∈ [[], ['+'], ['-']],
      sign.all (fun c => c == '+' || c == '-') = true := by decide
  exact .ofKind (by decide) (signs sign signed)

theorem passes_fraction (fraction : Fraction cs) : Passes .outside .outside cs := by
  cases fraction with
  | none => exact .nil
  | point given => exact .cons (.outside (by decide)) (passes_digits given)

theorem passes_exponent (exponent : Exponent cs) : Passes .outside .outside cs := by
  cases exponent with
  | none => exact .nil
  | power mark signed given =>
    refine .cons (.outside ?_) ((passes_sign signed).append (passes_digits given))
    rcases mark with rfl | rfl <;> decide

theorem passes_number (number : Grammar.Number cs) : Passes .outside .outside cs := by
  cases number with
  | parts signed given more power =>
    have signs : ∀ sign ∈ [[], ['-']], sign ∈ [[], ['+'], ['-']] := by decide
    exact (passes_sign (signs _ signed)).append ((passes_digits given.1).append
      ((passes_fraction more).append (passes_exponent power)))

theorem passes_escape (escape : Escape cs) : Passes .escaped .inside cs := by
  cases escape with
  | letter => exact .escaped _
  | code _ hex =>
    refine .cons (.escaped 'u') (.all fun c member => .inside ?_ ?_)
    all_goals
      rintro rfl
      exact absurd (List.all_eq_true.1 hex _ member) (by decide)

theorem passes_quoted (quoted : Quoted cs) : Passes .inside .inside cs := by
  induction quoted with
  | nil => exact .nil
  | plain _ noQuote noBackslash _ ih => exact .cons (.inside noQuote noBackslash) ih
  | escape known _ ih => exact .cons .backslash ((passes_escape known).append ih)

theorem passes_text (quoted : Quoted cs) (passes : Passes .outside .outside more) :
    Passes .outside .outside ('"' :: (cs ++ '"' :: more)) :=
  .cons .openingQuote ((passes_quoted quoted).append (.cons .closingQuote passes))

/-- Nothing that the grammar spells opens or closes a bracket without its partner. -/
theorem passes_spelled {part : Part} (spelled : Spelled part cs) :
    Passes .outside .outside cs := by
  have comma : Passes .outside .outside [','] := .outside (by decide)
  have colon : Passes .outside .outside [':'] := .outside (by decide)
  -- one case for each rule; the brackets of an array or an object come in pairs around the rest
  induction spelled with
  | word known =>
    have letters : ∀ word ∈ words, word.all Char.isAlpha = true := by decide
    exact .ofKind (by decide) (letters _ known)
  | number number => exact passes_number number
  | text quoted => exact passes_text quoted .nil
  | ofArray _ ih | ofObject _ ih | lastItem _ ih | lastMember _ ih => exact ih
  | emptyArray space | emptyObject space => exact .bracketed rfl (passes_space space)
  | array _ ih | object _ ih => exact .bracketed rfl ih
  | item space _ space' ih => exact (passes_space space).append (ih.append (passes_space space'))
  | items _ _ ih more | members _ _ ih more => exact ih.append (comma.cons more)
  | member space quoted space' _ ih =>
    exact (passes_space space).append
      (passes_text quoted ((passes_space space').append (colon.cons ih)))

theorem colon_mem_members (members : Spelled .members cs) : ':' ∈ cs := by
  cases members with
  | lastMember member =>
    cases member
    simp
  | members member =>
    cases member
    simp

/-- The span of a document is the document, whatever follows it. -/
theorem span?_document (document : Document cs) (rest : List Char) :
    span? (cs ++ rest) = some cs.length := by
  cases document with
  | array array =>
    cases array with
    | emptyArray space => exact span?_bracketed rfl (passes_space space) (.inl rfl) rest
    | array items => exact span?_bracketed rfl (passes_spelled items) (.inl rfl) rest
  | object members =>
    exact span?_bracketed rfl (passes_spelled members) (.inr (colon_mem_members members)) rest

end UiSchema.Json.Block
