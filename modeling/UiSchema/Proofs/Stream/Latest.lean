import Mathlib.Data.List.ReduceOption
import UiSchema.Proofs.Outcome
import UiSchema.Stream

/-! The schema that a stream ends with. Without partial texts it is that of the whole text; with
them it is the one found last, so that a text without a schema leaves an earlier one in place. -/

set_option autoImplicit false

namespace UiSchema

/-- One value, or two that count as equal. A number that is not equal to itself is still the same
value. -/
def Schema.Alike (a b : Schema) : Prop := a = b ∨ a.same b = true

namespace Stream

variable {settings : Settings}

/-- The texts that partial extraction looks at: one after each chunk, and the whole at the end. -/
def looked (before : String) : List String → List String
  | [] => [before]
  | chunk :: rest => (before ++ chunk) :: looked (before ++ chunk) rest

/-- What is kept after one attempt: the schema found, or what was kept before. -/
def Keeps (before found after : Option Schema) : Prop :=
  match found with
  | none => after = before
  | some schema => ∃ last, after = some last ∧ schema.Alike last

theorem Keeps.cons {before middle after found : Option Schema} {others : List (Option Schema)}
    (first : Keeps before found middle) (rest : Keeps middle others.reduceOption.getLast? after) :
    Keeps before (found :: others).reduceOption.getLast? after := by
  cases found with
  | none =>
    obtain rfl : middle = before := first
    rwa [List.reduceOption_cons_of_none]
  | some schema =>
    rw [List.reduceOption_cons_of_some, List.getLast?_cons]
    cases latest : others.reduceOption.getLast? with
    | none =>
      rw [latest] at rest
      obtain rfl : after = middle := rest
      exact first
    | some later =>
      rw [latest] at rest
      exact rest

theorem append_eq (s : Stream) (chunk : String) :
    (s.append chunk).text = s.text ++ chunk ∧ (s.append chunk).partials = s.partials ∧
      (s.append chunk).last = s.last := by
  unfold append
  split
  · rename_i empty
    simp [String.isEmpty_iff.1 empty]
  · exact ⟨rfl, rfl, rfl⟩

theorem feed_eq_error {s : Stream} {chunk : String} {done : Bool} {cause : Raised}
    (looks : (done || s.partials) = true)
    (refused : Schema.extract? settings (s.text ++ chunk) = .error cause) :
    s.feed settings chunk done = .error cause := by
  obtain ⟨text, partials, _⟩ := s.append_eq chunk
  unfold feed
  simp only [partials, looks, text, refused, if_true]
  rfl

theorem feed_eq_ok {s : Stream} {chunk : String} {done : Bool} {found : Option Schema}
    (looks : (done || s.partials) = true)
    (extracted : Schema.extract? settings (s.text ++ chunk) = .ok found) :
    ∃ new next, s.feed settings chunk done = .ok (new, next) ∧ next.text = s.text ++ chunk ∧
      next.partials = s.partials ∧ Keeps s.last found next.last := by
  obtain ⟨text, partials, last⟩ := s.append_eq chunk
  unfold feed
  simp only [partials, looks, text, extracted, if_true]
  cases found with
  | none => exact ⟨none, _, rfl, text, partials, last⟩
  | some schema =>
    by_cases new : (s.append chunk).isNew schema = true
    · refine ⟨some schema, { s.append chunk with last := some schema }, ?_, text, partials,
        schema, rfl, .inl rfl⟩
      simp only [bind, Except.bind, new, if_true, partials, text]
      rfl
    · refine ⟨none, s.append chunk, ?_, text, partials, ?_⟩
      · simp only [bind, Except.bind, if_neg new]
        rfl
      -- a schema that is not new is equal to the one kept, which stays
      unfold isNew at new
      split at new
      · exact absurd rfl new
      · rename_i kept same
        exact ⟨kept, same, .inr (by simpa using new)⟩

/-- The first schema that is found is kept as it is. -/
theorem feed_end (settings : Settings) {s : Stream} (fresh : s.last = none) (chunk : String) :
    (s.feed settings chunk true).map (fun fed => fed.2.last) =
      Schema.extract? settings (s.text ++ chunk) := by
  obtain ⟨text, _, last⟩ := s.append_eq chunk
  unfold feed
  simp only [Bool.true_or, if_true, text]
  cases Schema.extract? settings (s.text ++ chunk) with
  | error cause => rfl
  | ok found =>
    cases found with
    | none => exact congrArg Except.ok (last.trans fresh)
    | some schema =>
      have new : (s.append chunk).isNew schema = true := by
        unfold isNew
        rw [last, fresh]
      simp only [bind, Except.bind, new, if_true]
      rfl

/-- Without partial texts the chunks are only put together. -/
theorem feedAll_whole (settings : Settings) (chunks : List String) (s : Stream)
    (whole : s.partials = false) :
    ∃ next, s.feedAll settings chunks = .ok ([], next) ∧
      next.text = s.text ++ String.join chunks ∧ next.partials = false ∧ next.last = s.last := by
  induction chunks generalizing s with
  | nil => exact ⟨s, rfl, by simp, whole, rfl⟩
  | cons chunk rest ih =>
    obtain ⟨text, partials, last⟩ := s.append_eq chunk
    have fed : s.feed settings chunk false = .ok (none, s.append chunk) := by
      unfold feed
      simp [partials, whole]
    obtain ⟨next, ends, nextText, nextPartials, nextLast⟩ :=
      ih (s.append chunk) (partials.trans whole)
    refine ⟨next, ?_, ?_, nextPartials, nextLast.trans last⟩
    · unfold feedAll
      rw [fed]
      simp only [bind, Except.bind, ends]
      rfl
    · rw [nextText, text, String.join_cons, String.append_assoc]

/-- The last chunks of a text, and its end. -/
def finish (settings : Settings) (s : Stream) (chunks : List String) :
    Outcome (List Schema × Option Schema) := do
  let (found, s) ← feedAll settings s chunks
  let (lastFound, s) ← s.feed settings "" true
  return (found ++ lastFound.toList, s.last)

theorem finish_nil (s : Stream) :
    s.finish settings [] =
      (s.feed settings "" true).map fun (new, next) => (new.toList, next.last) := by
  unfold finish
  simp only [feedAll, bind, Except.bind]
  cases s.feed settings "" true with
  | error cause => rfl
  | ok ended => rfl

theorem finish_cons {s next : Stream} {chunk : String} {new : Option Schema}
    (fed : s.feed settings chunk false = .ok (new, next)) (rest : List String) :
    s.finish settings (chunk :: rest) =
      (next.finish settings rest).map fun (found, last) => (new.toList ++ found, last) := by
  have all : s.feedAll settings (chunk :: rest) =
      (next.feedAll settings rest).map fun (found, last) => (new.toList ++ found, last) := by
    rw [feedAll, fed]
    rfl
  unfold finish
  rw [all]
  cases next.feedAll settings rest with
  | error cause => rfl
  | ok result =>
    obtain ⟨found, last⟩ := result
    simp only [bind, Except.bind, Except.map]
    cases last.feed settings "" true with
    | error cause => rfl
    | ok ended => simp only [pure, Except.pure, List.append_assoc]

/-- A stream answers as its attempts do: it raises with the first attempt that raises, and else ends
with the schema found last. -/
def Answers (before : Option Schema) (attempts : Outcome (List (Option Schema)))
    (answer : Outcome (List Schema × Option Schema)) : Prop :=
  match attempts with
  | .error cause => answer = .error cause
  | .ok found =>
    ∃ emitted last, answer = .ok (emitted, last) ∧ Keeps before found.reduceOption.getLast? last

theorem Answers.cons {before middle found : Option Schema} {others : Outcome (List (Option Schema))}
    {answer : Outcome (List Schema × Option Schema)} (first : Keeps before found middle)
    (rest : Answers middle others answer) (new : List Schema) :
    Answers before (others.map (found :: ·))
      (answer.map fun (emitted, last) => (new ++ emitted, last)) := by
  cases others with
  | error cause =>
    obtain rfl : answer = .error cause := rest
    rfl
  | ok all =>
    obtain ⟨emitted, last, rfl, ends⟩ := rest
    exact ⟨new ++ emitted, last, rfl, first.cons ends⟩

theorem Answers.returns_iff {before : Option Schema} {attempts : Outcome (List (Option Schema))}
    {answer : Outcome (List Schema × Option Schema)} (answers : Answers before attempts answer) :
    answer.Returns ↔ attempts.Returns := by
  cases attempts with
  | error cause =>
    obtain rfl : answer = .error cause := answers
    exact iff_of_false (Outcome.not_returns_error cause) (Outcome.not_returns_error cause)
  | ok found =>
    obtain ⟨emitted, last, rfl, _⟩ := answers
    exact iff_of_true (Outcome.returns_ok _) (Outcome.returns_ok _)

/-- A stream answers as looking at each of its texts in turn. -/
theorem finish_partials (settings : Settings) (chunks : List String) (s : Stream)
    (partials : s.partials = true) :
    Answers s.last ((looked s.text chunks).mapM (Schema.extract? settings))
      (s.finish settings chunks) := by
  -- along the chunks: the rest of a stream starts from what the attempts before it have kept
  induction chunks generalizing s with
  | nil =>
    have looks : (true || s.partials) = true := rfl
    have whole : s.text ++ "" = s.text := String.append_empty
    rw [looked, List.mapM_cons, List.mapM_nil, finish_nil]
    cases extracted : Schema.extract? settings s.text with
    | error cause =>
      rw [feed_eq_error looks (by rwa [whole])]
      rfl
    | ok found =>
      obtain ⟨new, next, fed, _, _, keeps⟩ := feed_eq_ok looks (by rwa [whole])
      rw [fed]
      exact ⟨new.toList, next.last, rfl, keeps.cons rfl⟩
  | cons chunk rest ih =>
    have looks : (false || s.partials) = true := partials
    rw [looked, List.mapM_cons]
    cases extracted : Schema.extract? settings (s.text ++ chunk) with
    | error cause =>
      rw [finish, feedAll, feed_eq_error looks extracted]
      rfl
    | ok found =>
      obtain ⟨new, next, fed, text, nextPartials, keeps⟩ := feed_eq_ok looks extracted
      have others := ih next (nextPartials.trans partials)
      rw [text] at others
      rw [finish_cons fed rest]
      exact others.cons keeps new.toList

/-- The whole text is looked at last. -/
theorem latest_whole (chunks : List String) {before : String} {schema : Schema}
    {found : List (Option Schema)}
    (all : (looked before chunks).mapM (Schema.extract? settings) = .ok found)
    (whole : Schema.extract? settings (before ++ String.join chunks) = .ok (some schema)) :
    found.reduceOption.getLast? = some schema := by
  induction chunks generalizing before found with
  | nil =>
    rw [String.join_nil, String.append_empty] at whole
    rw [looked, List.mapM_cons, whole] at all
    cases all
    rfl
  | cons chunk rest ih =>
    rw [looked, List.mapM_cons] at all
    obtain ⟨first, _, all⟩ := Outcome.bind_eq_ok.1 all
    obtain ⟨others, looks, all⟩ := Outcome.bind_eq_ok.1 all
    cases all
    rw [String.join_cons, ← String.append_assoc] at whole
    have last := ih looks whole
    cases first with
    | none => rwa [List.reduceOption_cons_of_none]
    | some earlier => rw [List.reduceOption_cons_of_some, List.getLast?_cons, last]; rfl

/-- A stream without partial texts ends with the schema of the whole text. With them it raises where
looking at one of the texts raises, and else ends with the schema found last, which is that of the
whole text whenever there is one. -/
theorem collect_latest (settings : Settings) (chunks : List String) :
    (collect settings false chunks).map Prod.snd =
        Schema.extract? settings (String.join chunks) ∧
      match (looked "" chunks).mapM (Schema.extract? settings) with
      | .error cause => collect settings true chunks = .error cause
      | .ok found =>
        ∃ emitted last, collect settings true chunks = .ok (emitted, last) ∧
          Keeps none found.reduceOption.getLast? last ∧
          ∀ schema, Schema.extract? settings (String.join chunks) = .ok (some schema) →
            ∃ same, last = some same ∧ schema.Alike same := by
  have start : ∀ partials, collect settings partials chunks =
      ({ partials } : Stream).finish settings chunks := fun _ => rfl
  constructor
  · obtain ⟨next, fed, text, _, last⟩ :=
      feedAll_whole settings chunks { partials := false } rfl
    have ended := feed_end settings last ""
    rw [String.append_empty, text, String.empty_append] at ended
    rw [start, ← ended]
    unfold finish
    rw [fed]
    simp only [bind, Except.bind]
    cases next.feed settings "" true with
    | error cause => rfl
    | ok result => rfl
  · have answers := finish_partials settings chunks { partials := true } rfl
    cases all : (looked "" chunks).mapM (Schema.extract? settings) with
    | error cause =>
      rw [all] at answers
      exact answers
    | ok found =>
      rw [all] at answers
      obtain ⟨emitted, last, finished, kept⟩ := answers
      refine ⟨emitted, last, finished, kept, fun schema whole => ?_⟩
      rw [latest_whole chunks all (by rwa [String.empty_append])] at kept
      exact kept

/-- What can be seen of an attempt without looking at the schema. -/
def finds (settings : Settings) (text : String) : Outcome Bool :=
  (Schema.extract? settings text).map Option.isSome

theorem finds_eq {text : String} (brace : '\x7b' ∈ text.toList)
    (small : text.utf8ByteSize ≤ settings.maxSchemaSize) :
    finds settings text = (Schema.firstOf? settings (Json.blocks text)).map Option.isSome := by
  rw [finds, Schema.extract?_eq, if_pos ⟨brace, small⟩]

/-- A schema in two chunks. -/
def cutButton : List String :=
  ["\x7b\"version\":\"1.0\",\"root\":\x7b\"id\":\"a\",", "\"type\":\"Button\"\x7d\x7d"]

theorem finds_cutButton :
    finds {} "\x7b\"version\":\"1.0\",\"root\":\x7b\"id\":\"a\"," = .ok false ∧
      finds {} (String.join cutButton) = .ok true := by
  constructor
  · rw [finds_eq (by decide) (by decide)]
    decide
  · rw [finds_eq (by decide) (by decide)]
    decide +kernel

/-- One attempt tells what it finds. -/
theorem extract?_of_finds {text : String} {some : Bool} (seen : finds settings text = .ok some) :
    ∃ found, Schema.extract? settings text = .ok found ∧ found.isSome = some := by
  unfold finds at seen
  cases extracted : Schema.extract? settings text with
  | error cause =>
    rw [extracted] at seen
    cases seen
  | ok found =>
    rw [extracted] at seen
    exact ⟨found, rfl, Except.ok.inj seen⟩

theorem cutButton_found :
    ∃ schema, Schema.extract? {} (String.join cutButton) = .ok (some schema) ∧
      ∃ emitted last, collect {} true cutButton = .ok (emitted, last) ∧
        ∃ same, last = some same ∧ schema.Alike same := by
  obtain ⟨before, first, _⟩ := extract?_of_finds finds_cutButton.1
  obtain ⟨found, second, present⟩ := extract?_of_finds finds_cutButton.2
  obtain ⟨schema, rfl⟩ := Option.isSome_iff_exists.1 present
  have all : (looked "" cutButton).mapM (Schema.extract? {}) =
      .ok [before, some schema, some schema] := by
    have texts : looked "" cutButton = ["\x7b\"version\":\"1.0\",\"root\":\x7b\"id\":\"a\",",
        String.join cutButton, String.join cutButton] := by decide
    rw [texts, List.mapM_cons, List.mapM_cons, List.mapM_cons, first, second]
    rfl
  have ends := (collect_latest {} cutButton).2
  rw [all] at ends
  obtain ⟨emitted, last, collected, _, kept⟩ := ends
  exact ⟨schema, second, emitted, last, collected, kept schema second⟩

/-- A schema, and after it a fenced block without one, so that the text is no longer searched
outside of fences. -/
def buttonThenList : List String := [String.join cutButton, "```json\n[]\n```"]

/-- The stream has a schema at the end, and the whole text has none. -/
theorem button_outlives_text :
    (collect {} true buttonThenList).map (fun ended => ended.2.isSome) = .ok true ∧
      (Schema.extract? {} (String.join buttonThenList)).map Option.isSome = .ok false := by
  obtain ⟨found, first, present⟩ := extract?_of_finds finds_cutButton.2
  obtain ⟨schema, rfl⟩ := Option.isSome_iff_exists.1 present
  have none : finds {} (String.join buttonThenList) = .ok false := by
    rw [finds_eq (by decide) (by decide)]
    decide
  refine ⟨?_, none⟩
  -- both attempts on the whole text find nothing, and what the first one found is kept
  obtain ⟨nothing, second, absent⟩ := extract?_of_finds none
  obtain rfl : nothing = .none := by simpa using absent
  have all : (looked "" buttonThenList).mapM (Schema.extract? {}) =
      .ok [some schema, .none, .none] := by
    have texts : looked "" buttonThenList = [String.join cutButton, String.join buttonThenList,
        String.join buttonThenList] := by decide
    rw [texts, List.mapM_cons, List.mapM_cons, List.mapM_cons, first, second]
    rfl
  have answers := finish_partials {} buttonThenList { partials := true } rfl
  rw [all] at answers
  obtain ⟨emitted, last, collected, same, kept, _⟩ := answers
  have collected : collect {} true buttonThenList = .ok (emitted, last) := collected
  rw [collected, kept]
  rfl

end Stream

end UiSchema
