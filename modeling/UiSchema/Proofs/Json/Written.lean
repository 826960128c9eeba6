import UiSchema.Proofs.Json.Clean

/-! What a result owes to its text: every object in it was opened by a brace, and its keys stand in
the text as quoted texts. -/

set_option autoImplicit false

namespace UiSchema.Json

variable {d : Dialect}

namespace Reading

variable {seen : List Token}

/-- A brace opened the object, and its keys stand in the text. -/
structure Written (seen : List Token) (members : Entries Json) : Prop where
  brace : .openObject ∈ seen
  keys : ∀ key ∈ members.keys, .str key ∈ seen

theorem Written.put {members : Entries Json} (written : Written seen members) {key : String}
    (keySeen : .str key ∈ seen) (value : Json) : Written seen (members.put key value) where
  brace := written.brace
  keys other member := by
    rw [Entries.keys_put] at member
    split at member
    · exact written.keys other member
    · rcases List.mem_append.1 member with before | new
      · exact written.keys other before
      · exact List.mem_singleton.1 new ▸ keySeen

/-- The value is no object, or a written one. -/
def WrittenValue (seen : List Token) (value : Json) : Prop :=
  ∀ members, value = .object members → Written seen members

def WrittenFrame (seen : List Token) : Frame → Prop
  | .array _ => True
  | .member members name => Written seen members ∧ .str name ∈ seen

/-- Every object that is open, and the result, is written. -/
def FromText (seen : List Token) : Reading → Prop
  | .value stack => ∀ f ∈ stack, WrittenFrame seen f
  | .firstItem stack => ∀ f ∈ stack, WrittenFrame seen f
  | .firstKey stack => .openObject ∈ seen ∧ ∀ f ∈ stack, WrittenFrame seen f
  | .key members stack => Written seen members ∧ ∀ f ∈ stack, WrittenFrame seen f
  | .colon members name stack =>
    (Written seen members ∧ .str name ∈ seen) ∧ ∀ f ∈ stack, WrittenFrame seen f
  | .next (.array _) stack => ∀ f ∈ stack, WrittenFrame seen f
  | .next (.object members) stack => Written seen members ∧ ∀ f ∈ stack, WrittenFrame seen f
  | .done found => WrittenValue seen found

theorem FromText.complete {value : Json} (written : WrittenValue seen value) {stack : List Frame}
    (frames : ∀ f ∈ stack, WrittenFrame seen f) : FromText seen (complete value stack) := by
  cases stack with
  | nil => exact written
  | cons frame stack =>
    obtain ⟨top, others⟩ := List.forall_mem_cons.1 frames
    cases frame with
    | array items => exact others
    | member members name => exact ⟨top.1.put top.2 value, others⟩

/-- The value of a bare word is no object. -/
def Plain (token : Token) : Prop := ∀ members, token ≠ .leaf (.object members)

theorem FromText.begin {token : Token} (member : token ∈ seen) (plain : Plain token)
    {stack : List Frame} (frames : ∀ f ∈ stack, WrittenFrame seen f) {next : Reading}
    (stepped : begin d stack token = .ok next) : FromText seen next := by
  unfold Reading.begin opened at stepped
  split at stepped
  · cases stepped
    exact .complete (fun members same => absurd (same ▸ rfl) (plain members)) frames
  · cases stepped
    exact .complete (by rintro _ ⟨⟩) frames
  · split at stepped <;> cases stepped
    exact frames
  · split at stepped <;> cases stepped
    exact ⟨member, frames⟩
  · cases stepped
  · cases stepped

theorem FromText.step {reading next : Reading} (written : FromText seen reading) {token : Token}
    (member : token ∈ seen) (plain : Plain token) (stepped : reading.step d token = .ok next) :
    FromText seen next := by
  unfold Reading.step at stepped
  -- a new object has no keys yet, and a key is seen before its value is put under it
  split at stepped
  case h_1 => exact .begin member plain written stepped
  case h_2 =>
    cases stepped
    exact .complete (by rintro _ ⟨⟩) written
  case h_3 =>
    have frames : ∀ f ∈ Frame.array [] :: _, WrittenFrame seen f :=
      List.forall_mem_cons.2 ⟨trivial, written⟩
    exact .begin member plain frames stepped
  case h_4 =>
    cases stepped
    refine .complete ?_ written.2
    rintro _ ⟨rfl⟩
    exact ⟨written.1, nofun⟩
  case h_5 =>
    cases stepped
    exact ⟨⟨⟨written.1, nofun⟩, member⟩, written.2⟩
  case h_6 =>
    cases stepped
    exact ⟨⟨written.1, member⟩, written.2⟩
  case h_7 =>
    cases stepped
    exact List.forall_mem_cons.2 ⟨written.1, written.2⟩
  case h_8 items stack =>
    cases stepped
    have top : WrittenFrame seen (.array items) := trivial
    exact List.forall_mem_cons.2 ⟨top, written⟩
  case h_9 =>
    cases stepped
    exact .complete (by rintro _ ⟨⟩) written
  case h_10 =>
    cases stepped
    exact written
  case h_11 =>
    cases stepped
    refine .complete ?_ written.2
    rintro _ ⟨rfl⟩
    exact written.1
  case h_12 => cases stepped

theorem FromText.run {reading last : Reading} (written : FromText seen reading)
    {tokens : List Token} (subset : tokens ⊆ seen) (plain : ∀ token ∈ tokens, Plain token)
    (ended : reading.run d tokens = .ok last) : FromText seen last := by
  induction tokens generalizing reading with
  | nil =>
    cases ended
    exact written
  | cons token rest ih =>
    obtain ⟨member, subset⟩ := List.cons_subset.1 subset
    obtain ⟨here, others⟩ := List.forall_mem_cons.1 plain
    rw [Reading.run] at ended
    cases stepped : reading.step d token with
    | error cause =>
      rw [stepped] at ended
      cases ended
    | ok next =>
      rw [stepped] at ended
      exact ih (written.step member here stepped) subset others ended

end Reading

theorem word?_ne_object (d : Dialect) (cs : List Char) (members : Entries Json) :
    word? d cs ≠ some (.object members) := by
  unfold word?
  repeat' split
  · simp
  · simp
  · simp
  · simp
  · simp
  · simp
  · intro read
    obtain ⟨n, _, same⟩ := Option.bind_eq_some_iff.1 read
    unfold Numeral.toJson? at same
    split at same <;> dsimp only at same <;> split at same <;> cases same

namespace Scan

open Reading (Plain)

/-- Bare words are no objects, and a brace is a brace. -/
structure Ordinary (cs : List Char) (token : Token) : Prop where
  plain : Plain token
  brace : token = .openObject → '\x7b' ∈ cs

/-- Where a token comes from. -/
inductive Source (d : Dialect) (cs : List Char) : Token → Prop where
  | fault : Source d cs .fault
  | word (run : List Char) : Source d cs (wordToken d run)
  | text (content : String) : Source d cs (.str content)
  | mark {c : Char} (member : c ∈ cs) {token : Token} (made : token ∈ (fromBetween c).1) :
    Source d cs token

theorem Source.mono {cs ds : List Char} {token : Token} (source : Source d cs token)
    (subset : cs ⊆ ds) : Source d ds token := by
  cases source with
  | fault => exact .fault
  | word run => exact .word run
  | text content => exact .text content
  | mark member made => exact .mark (subset member) made

theorem source_quoted {scan : Scan} (inText : scan.InText) {c : Char} {token : Token}
    (member : token ∈ (scan.step d c).1) : Source d [c] token := by
  rcases step_inText (d := d) inText c with ⟨content, rfl, rfl⟩ | faults | ⟨nothing, _⟩
  · rw [List.mem_singleton.1 member]
    exact .text _
  · rw [faults] at member
    exact List.mem_singleton.1 member ▸ .fault
  · rw [nothing] at member
    cases member

theorem source_step {scan : Scan} {c : Char} {token : Token}
    (member : token ∈ (scan.step d c).1) : Source d [c] token := by
  have here : c ∈ [c] := List.mem_singleton_self c
  cases scan with
  | failed => cases member
  | between => exact .mark here member
  | word run =>
    rw [step_word] at member
    split at member
    · cases member
    · rcases List.mem_cons.1 member with rfl | marked
      · exact .word run
      · exact .mark here marked
  | _ =>
    refine source_quoted (d := d) ?_ member
    trivial

theorem source_tokens {scan : Scan} {cs : List Char} :
    ∀ token ∈ Scan.tokens d scan cs, Source d cs token := by
  intro token member
  induction cs generalizing scan with
  | nil =>
    cases scan with
    | between | failed => cases member
    | word run =>
      rw [List.mem_singleton.1 member]
      exact .word run
    | _ =>
      rw [List.mem_singleton.1 member]
      exact .fault
  | cons c rest ih =>
    rw [tokens_cons] at member
    rcases List.mem_append.1 member with here | later
    · exact (source_step here).mono (by simp)
    · exact (ih later).mono (List.subset_cons_self ..)

/-- Null, truth values and numbers come from bare words. -/
theorem word_of_leaf {cs : List Char} {leaf : Json} (source : Source d cs (.leaf leaf)) :
    ∃ run, word? d run = some leaf := by
  generalize same : Token.leaf leaf = token at source
  cases source with
  | fault => cases same
  | text content => cases same
  | word run =>
    unfold wordToken at same
    split at same
    · rename_i read
      cases same
      exact ⟨_, read⟩
    · split at same <;> cases same
  | @mark c _ _ made =>
    generalize began : fromBetween c = next at made
    cases began ▸ begun c with
    | space | quote | letter => cases made
    | fault => cases same.trans (List.mem_singleton.1 made)
    | mark _ _ _ noValue _ =>
      exact absurd (same.trans (List.mem_singleton.1 made)).symm (noValue.2 leaf)

theorem brace_of_openObject {cs : List Char} (source : Source d cs .openObject) : '\x7b' ∈ cs := by
  generalize same : Token.openObject = token at source
  cases source with
  | fault => cases same
  | text content => cases same
  | word run =>
    unfold wordToken at same
    split at same
    · cases same
    · split at same <;> cases same
  | @mark c member _ made =>
    generalize began : fromBetween c = next at made
    cases began ▸ begun c with
    | space | quote | letter => cases made
    | fault => cases same.trans (List.mem_singleton.1 made)
    | mark _ _ _ _ brace => exact brace (same.trans (List.mem_singleton.1 made)).symm ▸ member

theorem ordinary_tokens {scan : Scan} {cs : List Char} :
    ∀ token ∈ Scan.tokens d scan cs, Ordinary cs token := by
  intro token member
  have source := source_tokens token member
  refine ⟨?_, ?_⟩
  · rintro members rfl
    obtain ⟨run, read⟩ := word_of_leaf source
    exact word?_ne_object d run members read
  · rintro rfl
    exact brace_of_openObject source

end Scan

/-- An object that was read stands in the text, with its braces and its keys. -/
theorem written_of_readChars {cs : List Char} {members : Entries Json}
    (read : readChars d cs = .ok (.object members)) :
    '\x7b' ∈ cs ∧ ∀ key ∈ members.keys, .str key ∈ tokens d cs := by
  unfold readChars at read
  cases ended : Reading.run d (.value []) (tokens d cs) with
  | error cause =>
    rw [ended] at read
    cases read
  | ok last =>
    rw [ended] at read
    have start : Reading.FromText (tokens d cs) (.value []) := nofun
    have written := start.run (List.Subset.refl _)
      (fun token member => (Scan.ordinary_tokens token member).plain) ended
    cases last with
    | done value =>
      cases read
      obtain ⟨brace, keys⟩ := written members rfl
      exact ⟨(Scan.ordinary_tokens _ brace).brace rfl, keys⟩
    | _ => cases read

end UiSchema.Json
