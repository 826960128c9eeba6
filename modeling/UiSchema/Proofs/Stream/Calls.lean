import Mathlib.Data.List.Chain
import Mathlib.Data.List.DropRight
import UiSchema.Proofs.Json.Distinct
import UiSchema.Proofs.Json.Same
import UiSchema.Proofs.Schema.RoundTrip
import UiSchema.Proofs.Stream.Returns

/-! Streams in use: any chunks and resets in any order, some of which may raise. What a stream
remembers is what came in and what it answered since it was last reset, and a text that it has
looked at holds nothing new for it. -/

set_option autoImplicit false

namespace UiSchema

/-! ### The schema in a text -/

namespace Schema

variable {settings : Settings}

theorem keyed_withVersion {document : Json} (keyed : document.Keyed) :
    (withVersion settings document).Keyed := by
  unfold withVersion
  split
  · split
    · exact keyed
    · exact Json.Keyed.put keyed "version" trivial
  · exact keyed

/-- What is found in a text is equal to itself, so the same text has nothing new to offer. -/
theorem same_self_of_extract? {text : String} {schema : Schema}
    (found : extract? settings text = .ok (some schema)) : schema.same schema = true := by
  obtain ⟨content, document, loaded, valid⟩ := extract?_validates found
  obtain ⟨checked, decoded⟩ := validate_eq_ok valid
  obtain ⟨-, simpler⟩ := again_and_simpler decoded (version_of_check checked decoded).1
  have keyed : document.Keyed := Json.keyed_of_readChars (Json.load_eq_ok.1 loaded)
  exact Json.same_self (simpler.keyed (keyed_withVersion keyed))

theorem Alike.same {text : String} {schema other : Schema}
    (found : extract? settings text = .ok (some schema)) (alike : schema.Alike other) :
    schema.same other = true := by
  rcases alike with rfl | same
  · exact same_self_of_extract? found
  · exact same

end Schema

/-! ### Calls and replies -/

/-- What is done with a stream. -/
inductive StreamCall where
  | feed (text : String) (done : Bool)
  | reset
  deriving DecidableEq

/-- A call and what came back from it. -/
structure StreamReply where
  call : StreamCall
  answer : Outcome (Option Schema)

namespace StreamReply

def text (r : StreamReply) : String :=
  match r.call with
  | .feed text _ => text
  | .reset => ""

def found? (r : StreamReply) : Option Schema :=
  match r.answer with
  | .ok found => found
  | .error _ => none

/-- The replies after the last reset. -/
def sinceReset (replies : List StreamReply) : List StreamReply :=
  replies.rtakeWhile fun r => r.call ≠ .reset

end StreamReply

namespace Stream

variable (settings : Settings)

/-- The chunk is in the text by the time that something is raised. -/
def call (s : Stream) : StreamCall → Outcome (Option Schema) × Stream
  | .feed text done =>
    match s.feed settings text done with
    | .ok (found, next) => (.ok found, next)
    | .error cause => (.error cause, s.append text)
  | .reset => (.ok none, s.reset)

/-- The stream after calls, those that raise among them. -/
def after (s : Stream) (calls : List StreamCall) : Stream :=
  calls.foldl (fun s c => (s.call settings c).2) s

def replies (s : Stream) : List StreamCall → List StreamReply
  | [] => []
  | c :: rest =>
    { call := c, answer := (s.call settings c).1 } :: replies (s.call settings c).2 rest

theorem after_concat (s : Stream) (calls : List StreamCall) (c : StreamCall) :
    s.after settings (calls ++ [c]) = ((s.after settings calls).call settings c).2 :=
  List.foldl_concat ..

theorem replies_concat (s : Stream) (calls : List StreamCall) (c : StreamCall) :
    s.replies settings (calls ++ [c]) =
      s.replies settings calls ++
        [{ call := c, answer := ((s.after settings calls).call settings c).1 }] := by
  induction calls generalizing s with
  | nil => rfl
  | cons first rest ih =>
    rw [List.cons_append, replies, ih]
    rfl

/-! ### One call -/

variable {settings}

/-- What a chunk does to a stream that answers with a schema or with none. -/
structure Takes (s : Stream) (chunk : String) (found : Option Schema) (next : Stream) : Prop where
  text : next.text = s.text ++ chunk
  chunks : next.chunks = s.chunks + if chunk ≠ "" then 1 else 0
  partials : next.partials = s.partials
  last : next.last = found.or s.last
  new : ∀ schema ∈ found, ∀ earlier ∈ s.last, schema.same earlier = false

theorem takes_append (s : Stream) (chunk : String) : s.Takes chunk none (s.append chunk) := by
  obtain ⟨text, partials, last⟩ := s.append_eq chunk
  refine ⟨text, ?_, partials, last, nofun⟩
  unfold append
  by_cases empty : chunk = ""
  · subst empty
    rfl
  · rw [if_neg (by simpa using empty), if_pos empty]

theorem takes_call (settings : Settings) (s : Stream) (chunk : String) (done : Bool) :
    s.Takes chunk
      (StreamReply.found? ⟨.feed chunk done, (s.call settings (.feed chunk done)).1⟩)
      (s.call settings (.feed chunk done)).2 := by
  have appended := s.takes_append chunk
  unfold call feed
  dsimp only
  split
  · rename_i found next fed
    split at fed
    · obtain ⟨extracted, -, fed⟩ := Outcome.bind_eq_ok.1 fed
      cases extracted with
      | none =>
        cases fed
        exact appended
      | some schema =>
        dsimp only at fed
        split at fed
        · rename_i new
          cases fed
          refine ⟨appended.text, appended.chunks, appended.partials, rfl, ?_⟩
          rintro _ ⟨⟩ earlier kept
          rw [isNew, appended.last, Option.none_or, Option.mem_def.1 kept] at new
          simpa using new
        · cases fed
          exact appended
    · cases fed
      exact appended
  · exact appended

/-- What a stream knows of the calls since it was last reset. -/
structure Remembers (s : Stream) (replies : List StreamReply) : Prop where
  text : s.text = String.join (replies.map StreamReply.text)
  chunks : s.chunks = replies.countP fun r => r.text ≠ ""
  last : s.last = (replies.filterMap StreamReply.found?).getLast?
  /-- No schema is returned twice in a row. -/
  new : (replies.filterMap StreamReply.found?).IsChain fun earlier later =>
    later.same earlier = false

theorem Remembers.feed {s next : Stream} {replies : List StreamReply} {r : StreamReply}
    (before : s.Remembers replies) (takes : s.Takes r.text r.found? next) :
    next.Remembers (replies ++ [r]) := by
  have found : (replies ++ [r]).filterMap StreamReply.found? =
      replies.filterMap StreamReply.found? ++ r.found?.toList := by
    rw [List.filterMap_append]
    cases found : r.found? <;> simp [found]
  constructor
  · rw [takes.text, before.text]
    simp
  · rw [takes.chunks, before.chunks, List.countP_append, List.countP_singleton]
    simp
  · rw [takes.last, found, before.last, List.getLast?_append]
    cases r.found? <;> rfl
  · rw [found, List.isChain_append]
    refine ⟨before.new, ?_, fun earlier kept schema first => ?_⟩
    · cases r.found? <;> simp
    · rw [← before.last] at kept
      refine takes.new schema ?_ earlier kept
      cases same : r.found? with
      | none =>
        rw [same] at first
        cases first
      | some other =>
        rw [same] at first
        exact first

theorem reset_eq (s : Stream) : s.reset = { partials := s.partials } := rfl

theorem partials_call (s : Stream) (c : StreamCall) :
    (s.call settings c).2.partials = s.partials := by
  cases c with
  | feed chunk done => exact (s.takes_call settings chunk done).partials
  | reset => rfl

theorem partials_after (s : Stream) (calls : List StreamCall) :
    (s.after settings calls).partials = s.partials := by
  induction calls generalizing s with
  | nil => rfl
  | cons c rest ih => exact (ih _).trans (s.partials_call c)

theorem isNew_iff (s : Stream) (schema : Schema) :
    s.isNew schema = true ↔ ¬∃ kept ∈ s.last, schema.same kept = true := by
  unfold isNew
  cases s.last <;> simp

/-- What an attempt comes to that found a schema or none. -/
def offer (s : Stream) : Option Schema → Option Schema × Stream
  | none => (none, s)
  | some schema => if s.isNew schema then (some schema, { s with last := some schema }) else (none, s)

theorem offer_eq_none (s : Stream) (found : Option Schema) :
    (s.offer found).1 = none ↔ ∀ schema ∈ found, ∃ kept ∈ s.last, schema.same kept = true := by
  cases found with
  | none => exact iff_of_true rfl nofun
  | some schema =>
    rw [offer]
    split
    · rename_i new
      exact iff_of_false nofun fun kept => (s.isNew_iff schema).1 new (kept schema rfl)
    · rename_i old
      refine iff_of_true rfl ?_
      rintro _ ⟨⟩
      exact not_not.1 (mt (s.isNew_iff schema).2 old)

theorem feed_eq_offer {s : Stream} {chunk : String} {done : Bool} {found : Option Schema}
    (looks : (done || s.partials) = true)
    (extracted : Schema.extract? settings (s.text ++ chunk) = .ok found) :
    s.feed settings chunk done = .ok ((s.append chunk).offer found) := by
  obtain ⟨text, partials, -⟩ := s.append_eq chunk
  rw [← partials] at looks
  rw [← text] at extracted
  simp only [feed, looks, extracted, if_true]
  cases found with
  | none => rfl
  | some schema =>
    simp only [bind, Except.bind, offer]
    split <;> rfl

/-- Nothing comes back from a chunk if the text is not looked at, or there is no schema in it but
the one that is kept. -/
theorem call_eq_none {s : Stream} {chunk : String} {done : Bool} :
    (s.call settings (.feed chunk done)).1 = .ok none ↔
      ((done || s.partials) = true → ∃ found,
        Schema.extract? settings (s.text ++ chunk) = .ok found ∧
          ∀ schema ∈ found, ∃ kept ∈ s.last, schema.same kept = true) := by
  obtain ⟨-, partials, last⟩ := s.append_eq chunk
  by_cases looks : (done || s.partials) = true
  · rw [forall_prop_of_true looks]
    cases extracted : Schema.extract? settings (s.text ++ chunk) with
    | error cause =>
      rw [call, feed_eq_error looks extracted]
      exact iff_of_false nofun fun ⟨_, same, _⟩ => nomatch same
    | ok found =>
      rw [call, feed_eq_offer looks extracted, ← last]
      simp only [Except.ok.injEq, exists_eq_left', offer_eq_none]
  · refine iff_of_true ?_ fun looked => absurd looked looks
    unfold call feed
    simp [partials, looks]

/-- A schema that was found is kept, or one that is equal to it. -/
theorem kept_of_call {s : Stream} {chunk : String} {done : Bool} {found : Option Schema}
    (looks : (done || s.partials) = true)
    (extracted : Schema.extract? settings (s.text ++ chunk) = .ok found) :
    ∀ schema ∈ found, ∃ kept ∈ (s.call settings (.feed chunk done)).2.last,
      schema.same kept = true := by
  rintro schema ⟨⟩
  obtain ⟨new, next, fed, -, -, kept, last, alike⟩ := feed_eq_ok looks extracted
  rw [call, fed]
  exact ⟨kept, last, alike.same extracted⟩

/-- A text that was looked at is looked at again in vain, unless it raises again. -/
theorem feed_again (s : Stream) (chunk : String) {done : Bool}
    (looks : (done || s.partials) = true) (doneAgain : Bool) :
    ((s.call settings (.feed chunk done)).2.call settings (.feed "" doneAgain)).1 = .ok none ↔
      ¬((doneAgain || s.partials) = true ∧ Schema.TextStumbles settings (s.text ++ chunk)) := by
  have next := s.takes_call settings chunk done
  have returns : Outcome.Returns (Schema.extract? settings (s.text ++ chunk)) ↔ _ :=
    Schema.extract?_returns _
  rw [call_eq_none, next.partials, next.text, String.append_empty, not_and]
  refine imp_congr_right fun _ => ?_
  constructor
  · rintro ⟨found, extracted, -⟩
    exact returns.1 ⟨found, extracted⟩
  · intro clean
    obtain ⟨found, extracted⟩ := returns.2 clean
    exact ⟨found, extracted, kept_of_call looks extracted⟩

/-! ### A run -/

theorem sinceReset_concat (replies : List StreamReply) (r : StreamReply) :
    StreamReply.sinceReset (replies ++ [r]) =
      if r.call = .reset then [] else StreamReply.sinceReset replies ++ [r] := by
  unfold StreamReply.sinceReset
  rw [List.rtakeWhile_concat]
  simp

theorem remembers_after (partials : Bool) (calls : List StreamCall) :
    (after settings { partials } calls).Remembers
      (StreamReply.sinceReset (replies settings { partials } calls)) := by
  have forgetful (partials : Bool) : Remembers { partials } [] := ⟨rfl, rfl, rfl, .nil⟩
  induction calls using List.reverseRecOn with
  | nil => exact forgetful partials
  | append_singleton calls c ih =>
    rw [after_concat, replies_concat, sinceReset_concat]
    cases c with
    | reset =>
      rw [if_pos rfl]
      exact forgetful _
    | feed chunk done =>
      rw [if_neg nofun]
      exact ih.feed (takes_call ..)

/-- A stream that is reset is as good as new. -/
theorem after_reset (partials : Bool) (calls : List StreamCall) :
    after settings { partials } (calls ++ [.reset]) = { partials } := by
  rw [after_concat]
  show Stream.reset _ = _
  rw [reset_eq, partials_after]

/-- What can be said of a stream after any calls. -/
structure Accountable (settings : Settings) (partials : Bool) (calls : List StreamCall) : Prop where
  remembers : (after settings { partials } calls).Remembers
    (StreamReply.sinceReset (replies settings { partials } calls))
  /-- No text brings up anything new right after it was looked at, unless it raises both times. -/
  again : ∀ chunk done doneAgain, (done || partials) = true →
    (((after settings { partials } (calls ++ [.feed chunk done])).call settings
        (.feed "" doneAgain)).1 = .ok none ↔
      ¬((doneAgain || partials) = true ∧
        Schema.TextStumbles settings ((after settings { partials } calls).text ++ chunk)))
  reset : ∀ further,
    replies settings (after settings { partials } (calls ++ [.reset])) further =
        replies settings { partials } further ∧
      after settings (after settings { partials } (calls ++ [.reset])) further =
        after settings { partials } further

theorem accountable (settings : Settings) (partials : Bool) (calls : List StreamCall) :
    Accountable settings partials calls where
  remembers := remembers_after partials calls
  again chunk done doneAgain looks := by
    have same : (after settings { partials } calls).partials = partials := partials_after ..
    rw [after_concat, feed_again _ chunk (by rwa [same]) doneAgain, same]
  reset further := by
    rw [after_reset]
    exact ⟨rfl, rfl⟩

/-- An index with a digit too many is come upon again and again. -/
theorem empty_chunk_raises :
    let text := Schema.fencedText "" (Schema.boundText (Path.indexed Path.tooManyDigits)) ""
    (((after {} {} [.feed text true]).call {} (.feed "" true)).1) ≠ .ok none := by
  intro text none
  have looks : (true || ({} : Stream).partials) = true := rfl
  have stumbles : Schema.TextStumbles {} ("" ++ text) := by
    rw [String.empty_append]
    exact Schema.textStumbles_boundText
  exact (feed_again {} text looks true).1 none ⟨rfl, stumbles⟩

end Stream

end UiSchema
