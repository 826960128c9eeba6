import UiSchema.Proofs.Cache.Run
import UiSchema.Proofs.Prompt.Key
import UiSchema.Proofs.Theme.Activation

/-! Prompts from the cache. Over every run of requests, a prompt that comes from the cache is the
one that would be built anew: an entry is only found again for the same options, language and choice
of negative examples, and all entries go when the set of themes has changed. -/

set_option autoImplicit false

namespace UiSchema

namespace ThemeManager

variable {Listener : Type}

/-- The packs stay the same unless the revision goes up. -/
def Tracked (m n : ThemeManager Listener) : Prop :=
  n.themes = m.themes ∧ n.revision = m.revision ∨ m.revision < n.revision

theorem activate_packs (m : ThemeManager Listener) (id : String) :
    (m.activate id).manager.themes = m.themes ∧ (m.activate id).manager.revision = m.revision := by
  unfold activate
  split
  · exact ⟨rfl, rfl⟩
  · split
    · exact ⟨rfl, rfl⟩
    · unfold activatePack
      dsimp only
      split <;> exact ⟨rfl, rfl⟩

theorem tracked_register {m n : ThemeManager Listener} {p : Pack} (added : m.register p = .ok n) :
    Tracked m n := by
  unfold register at added
  split at added
  · cases added
  · cases added
    exact .inr (Nat.lt_succ_self _)

theorem tracked_stepTo {m : ThemeManager Listener}
    {next : Except ThemeError (ThemeManager Listener)} (tracked : ∀ n, next = .ok n → Tracked m n) :
    Tracked m (m.stepTo next).manager := by
  cases next with
  | error e => exact .inl ⟨rfl, rfl⟩
  | ok n => exact tracked n rfl

theorem tracked_unregister (m : ThemeManager Listener) (id : String) :
    Tracked m (m.unregister id).manager := by
  unfold unregister
  split
  · exact .inl ⟨rfl, rfl⟩
  · split
    · split
      · exact .inl ⟨rfl, rfl⟩
      · split
        · exact .inl ⟨rfl, rfl⟩
        · obtain ⟨themes, revision⟩ := m.activate_packs m.defaultId
          dsimp only
          split
          · exact .inl ⟨themes, revision⟩
          · exact .inr (by rw [← revision]; exact Nat.lt_succ_self _)
    · exact .inr (Nat.lt_succ_self _)

theorem tracked_answer (m : ThemeManager Listener) (r : ThemeRequest) :
    Tracked m (m.answer r).manager := by
  cases r with
  | register p => exact tracked_stepTo fun n added => tracked_register added
  | registerDocument document =>
    refine tracked_stepTo fun n added => ?_
    cases registered : m.registerDocument document with
    | error e =>
      rw [registered] at added
      cases added
    | ok both =>
      rw [registered] at added
      cases added
      exact tracked_register (registerDocument_eq_ok registered)
  | unregister id => exact m.tracked_unregister id
  | activate id => exact .inl (m.activate_packs id)
  | registryFor id =>
    refine tracked_stepTo fun n same => ?_
    cases found : m.registryFor id with
    | error e =>
      rw [found] at same
      cases same
    | ok registry =>
      rw [found] at same
      cases same
      exact .inl ⟨rfl, rfl⟩

end ThemeManager

namespace PromptBuilder

variable {Listener : Type} (b : PromptBuilder) (settings : Settings) (m : ThemeManager Listener)
  (o : PromptOptions)

theorem build_of_unwritten (long : o.writable = false) :
    b.build settings m o = (.error (.raised .tooManyDigits), b.refresh m) := by
  rw [build, long]
  rfl

/-- What a builder holds in the end: a result that was kept already is kept on, and a new one is
added. -/
theorem build_cases {o : PromptOptions} (fits : o.writable = true) :
    (∃ value, ((b.refresh m).cache.get 0 ((b.refresh m).key o)).1 = some value ∧
      b.build settings m o =
        (.ok value, { b.refresh m with
          cache := ((b.refresh m).cache.get 0 ((b.refresh m).key o)).2 })) ∨
    ((b.refresh m).cache.get 0 ((b.refresh m).key o)).1 = none ∧
      (b.build settings m o).1 = (b.refresh m).buildFresh settings m o ∧
      ∃ cache, (b.build settings m o).2 = { b.refresh m with cache } ∧
        cache.slotOf = (b.refresh m).cache.slotOf ∧
        ∀ e ∈ cache.entries, e ∈ (b.refresh m).cache.entries ∨
          e.slot = (b.refresh m).cache.slotOf ((b.refresh m).key o) ∧
            (b.refresh m).buildFresh settings m o = .ok e.value := by
  unfold build
  rw [if_pos fits]
  generalize b.refresh m = b
  have kept : ∀ e ∈ (b.cache.get 0 (b.key o)).2.entries, e ∈ b.cache.entries :=
    fun e member => Cache.mem_get member
  have slots := (b.cache.sameSetup_get 0 (b.key o)).slotOf
  dsimp only
  cases found : b.cache.get 0 (b.key o) with
  | mk value cache =>
    rw [found] at kept slots
    cases value with
    | some value => exact .inl ⟨value, rfl, rfl⟩
    | none =>
      refine .inr ⟨rfl, ?_⟩
      cases fresh : b.buildFresh settings m o with
      | error cause => exact ⟨rfl, cache, rfl, slots, fun e member => .inl (kept e member)⟩
      | ok result =>
        refine ⟨rfl, _, rfl, (cache.sameSetup_set 0 _ _).slotOf.trans slots, fun e member => ?_⟩
        rcases Cache.mem_set member with old | rfl
        · exact .inl (kept e (Cache.mem_of_mem_without old))
        · exact .inr ⟨congrFun slots (b.key o), rfl⟩

theorem refresh_choices :
    (b.refresh m).language = b.language ∧ (b.refresh m).negative = b.negative ∧
      (b.refresh m).cache.slotOf = b.cache.slotOf ∧ (b.refresh m).revision = m.revision := by
  unfold refresh
  split
  · rename_i same
    exact ⟨rfl, rfl, rfl, same.symm⟩
  · exact ⟨rfl, rfl, rfl, rfl⟩

/-- The entries are those of before if the set of themes is, and none otherwise. -/
theorem mem_refresh {e : CacheEntry Nat Prompt.Result}
    (member : e ∈ (b.refresh m).cache.entries) : m.revision = b.revision ∧ e ∈ b.cache.entries := by
  unfold refresh at member
  split at member
  · rename_i same
    exact ⟨same, member⟩
  · cases member

end PromptBuilder

/-- What an application asks of a builder and its manager. -/
inductive PromptRequest where
  | themes (r : ThemeRequest)
  | language (language : String)
  | negative (included : Bool)
  | clearCache
  | build (o : PromptOptions)

/-- A builder and the manager that its themes come from. -/
structure PromptState (Listener : Type) where
  manager : ThemeManager Listener
  builder : PromptBuilder

namespace PromptState

variable {Listener : Type}

def answer (settings : Settings) (s : PromptState Listener) : PromptRequest → PromptState Listener
  | .themes r => { s with manager := (s.manager.answer r).manager }
  | .language language => { s with builder := { s.builder with language } }
  | .negative negative => { s with builder := { s.builder with negative } }
  | .clearCache => { s with builder := s.builder.clearCache }
  | .build o => { s with builder := (s.builder.build settings s.manager o).2 }

/-- The query that a request amounts to, if it asks for a prompt with options that can be written. -/
def query? (s : PromptState Listener) : PromptRequest → Option PromptQuery
  | .build o => if o.writable then some ⟨o, s.builder.language, s.builder.negative⟩ else none
  | _ => none

/-- All queries of a run. -/
def queries (settings : Settings) (s : PromptState Listener) : List PromptRequest → List PromptQuery
  | [] => []
  | r :: rest => (s.query? r).toList ++ queries settings (s.answer settings r) rest

/-- Every builder with the same choices and an empty cache gives the result that this one gives. -/
def Transparent (settings : Settings) (s : PromptState Listener) (o : PromptOptions) : Prop :=
  ∀ fresh : PromptBuilder, fresh.language = s.builder.language →
    fresh.negative = s.builder.negative → fresh.cache.entries = [] →
    (s.builder.build settings s.manager o).1 = (fresh.build settings s.manager o).1

/-- A condition on every prompt that is asked for in a run. -/
def AllBuilds (settings : Settings) (condition : PromptState Listener → PromptOptions → Prop) :
    PromptState Listener → List PromptRequest → Prop
  | _, [] => True
  | s, r :: rest =>
    (∀ o, r = .build o → condition s o) ∧ AllBuilds settings condition (s.answer settings r) rest

/-- The result for a query while the manager stays as it is. -/
def result (settings : Settings) (m : ThemeManager Listener) (q : PromptQuery) :
    Except PromptError Prompt.Result :=
  if q.options.writable then
    match m.theme? q.options.themeId with
    | none => .ok (.absent q.options)
    | some p => (Prompt.Frame.of settings q.language).build p q.negative q.options
  else .error (.raised .tooManyDigits)

/-- As long as the set of themes is the one that the cache was filled for, each entry holds the
result for one of the queries, under its slot. -/
structure Faithful (settings : Settings) (known : List PromptQuery) (s : PromptState Listener) :
    Prop where
  behind : s.builder.revision ≤ s.manager.revision
  slots : s.builder.cache.slotOf = PromptBuilder.slotOf
  kept : s.builder.revision = s.manager.revision → ∀ e ∈ s.builder.cache.entries,
    ∃ q ∈ known, e.slot = PromptBuilder.slotOf q.key ∧ result settings s.manager q = .ok e.value

variable {settings : Settings} {known : List PromptQuery} {s : PromptState Listener}

theorem buildFresh_eq (b : PromptBuilder) (m : ThemeManager Listener) {o : PromptOptions}
    (fits : o.writable = true) :
    b.buildFresh settings m o = result settings m ⟨o, b.language, b.negative⟩ :=
  (if_pos fits).symm

theorem result_of_unwritten {m : ThemeManager Listener} {q : PromptQuery}
    (long : q.options.writable = false) :
    result settings m q = .error (.raised .tooManyDigits) := by
  rw [result, long]
  rfl

/-- With an empty cache a prompt is built anew. -/
theorem build_of_empty {b : PromptBuilder} (empty : b.cache.entries = [])
    (m : ThemeManager Listener) (o : PromptOptions) :
    (b.build settings m o).1 = result settings m ⟨o, b.language, b.negative⟩ := by
  cases fits : o.writable with
  | false => rw [b.build_of_unwritten settings m o fits, result_of_unwritten fits]
  | true =>
    obtain ⟨language, negative, _, _⟩ := b.refresh_choices m
    rcases b.build_cases settings m fits with ⟨value, found, _⟩ | ⟨_, built, _⟩
    · obtain ⟨e, member, _, _⟩ := Cache.exists_of_get found
      have before := (b.mem_refresh m member).2
      rw [empty] at before
      cases before
    · rw [built, buildFresh_eq _ _ fits, language, negative]

/-- The result for a query depends on the packs only. -/
theorem result_congr {m n : ThemeManager Listener} (same : n.themes = m.themes) (q : PromptQuery) :
    result settings n q = result settings m q := by
  unfold result ThemeManager.theme?
  rw [same]

namespace Faithful

theorem themes (faithful : Faithful settings known s) (r : ThemeRequest) :
    Faithful settings known (s.answer settings (.themes r)) := by
  rcases s.manager.tracked_answer r with ⟨themes, revision⟩ | newer
  · refine ⟨?_, faithful.slots, fun current e member => ?_⟩
    · show s.builder.revision ≤ (s.manager.answer r).manager.revision
      rw [revision]
      exact faithful.behind
    · have current : s.builder.revision = (s.manager.answer r).manager.revision := current
      obtain ⟨q, asked, slot, value⟩ := faithful.kept (current.trans revision) e member
      exact ⟨q, asked, slot, (result_congr themes q).trans value⟩
  · have behind := faithful.behind
    refine ⟨Nat.le_of_lt (Nat.lt_of_le_of_lt behind newer), faithful.slots, fun current => ?_⟩
    -- the entries are older than the set of themes, and the next prompt drops them
    have current : s.builder.revision = (s.manager.answer r).manager.revision := current
    omega

theorem refresh (faithful : Faithful settings known s) :
    Faithful settings known ⟨s.manager, s.builder.refresh s.manager⟩ := by
  obtain ⟨_, _, slots, revision⟩ := s.builder.refresh_choices s.manager
  refine ⟨Nat.le_of_eq revision, slots.trans faithful.slots, fun _ e member => ?_⟩
  obtain ⟨same, before⟩ := s.builder.mem_refresh s.manager member
  exact faithful.kept same.symm e before

/-- Entries may go, and the result for a query that is asked for may come. -/
theorem store {m : ThemeManager Listener} {b : PromptBuilder} {o : PromptOptions}
    {cache : Cache Nat Prompt.Result} (faithful : Faithful settings known ⟨m, b⟩)
    (current : b.revision = m.revision) (fits : o.writable = true)
    (asked : ⟨o, b.language, b.negative⟩ ∈ known)
    (slots : cache.slotOf = b.cache.slotOf)
    (entries : ∀ e ∈ cache.entries, e ∈ b.cache.entries ∨
      e.slot = b.cache.slotOf (b.key o) ∧ b.buildFresh settings m o = .ok e.value) :
    Faithful settings known ⟨m, { b with cache }⟩ := by
  refine ⟨faithful.behind, slots.trans faithful.slots, fun _ e member => ?_⟩
  rcases entries e member with old | ⟨slot, value⟩
  · exact faithful.kept current e old
  · have same : b.cache.slotOf = PromptBuilder.slotOf := faithful.slots
    rw [same] at slot
    exact ⟨_, asked, slot, (buildFresh_eq b m fits).symm.trans value⟩

theorem build (faithful : Faithful settings known s) {o : PromptOptions}
    (asked : o.writable = true → ⟨o, s.builder.language, s.builder.negative⟩ ∈ known) :
    Faithful settings known (s.answer settings (.build o)) := by
  obtain ⟨language, negative, _, revision⟩ := s.builder.refresh_choices s.manager
  rw [← language, ← negative] at asked
  have after : s.answer settings (.build o) =
      ⟨s.manager, (s.builder.build settings s.manager o).2⟩ := rfl
  rw [after]
  cases fits : o.writable with
  | false =>
    rw [s.builder.build_of_unwritten settings s.manager o fits]
    exact faithful.refresh
  | true =>
    rcases s.builder.build_cases settings s.manager fits with
      ⟨value, _, built⟩ | ⟨_, _, cache, built, slots, entries⟩
    · rw [built]
      exact faithful.refresh.store revision fits (asked fits) (Cache.sameSetup_get _ 0 _).slotOf
        fun e member => .inl (Cache.mem_get member)
    · rw [built]
      exact faithful.refresh.store revision fits (asked fits) slots entries

theorem answer (faithful : Faithful settings known s) (r : PromptRequest)
    (asked : ∀ q, s.query? r = some q → q ∈ known) :
    Faithful settings known (s.answer settings r) := by
  cases r with
  | themes r => exact faithful.themes r
  | language language => exact ⟨faithful.behind, faithful.slots, faithful.kept⟩
  | negative included => exact ⟨faithful.behind, faithful.slots, faithful.kept⟩
  | clearCache => exact ⟨faithful.behind, faithful.slots, fun _ e member => by cases member⟩
  | build o => exact faithful.build fun fits => asked _ (if_pos fits)

theorem transparent (faithful : Faithful settings known s)
    (separated : PromptQuery.Separated known) {o : PromptOptions}
    (asked : o.writable = true → ⟨o, s.builder.language, s.builder.negative⟩ ∈ known) :
    Transparent settings s o := by
  have anew : (s.builder.build settings s.manager o).1 =
      result settings s.manager ⟨o, s.builder.language, s.builder.negative⟩ := by
    obtain ⟨language, negative, _, revision⟩ := s.builder.refresh_choices s.manager
    rw [← language, ← negative] at asked ⊢
    cases fits : o.writable with
    | false =>
      rw [s.builder.build_of_unwritten settings s.manager o fits, result_of_unwritten fits]
    | true =>
      rcases s.builder.build_cases settings s.manager fits with
        ⟨value, found, built⟩ | ⟨_, built, _⟩
      · obtain ⟨e, member, slot, same⟩ := Cache.exists_of_get found
        obtain ⟨q, known, other, value⟩ := faithful.refresh.kept revision e member
        -- the entry has the slot of this query, and so it was made for it
        have slots : (s.builder.refresh s.manager).cache.slotOf = PromptBuilder.slotOf :=
          faithful.refresh.slots
        rw [slots] at slot
        have query := PromptQuery.eq_of_slot separated (asked fits) known (slot.symm.trans other)
        rw [built, ← same, ← value, ← query]
      · rw [built, buildFresh_eq _ _ fits]
  intro fresh language negative empty
  rw [anew, build_of_empty empty, language, negative]

end Faithful

/-- What holds of a state that is faithful to the queries of a run holds all along the run. -/
theorem allBuilds_transparent (separated : PromptQuery.Separated known)
    (requests : List PromptRequest) (faithful : Faithful settings known s)
    (asked : s.queries settings requests ⊆ known) :
    AllBuilds settings (Transparent settings) s requests := by
  induction requests generalizing s with
  | nil => trivial
  | cons r rest ih =>
    rw [queries, List.append_subset] at asked
    obtain ⟨now, later⟩ := asked
    have here : ∀ q, s.query? r = some q → q ∈ known := fun q same => now (by simp [same])
    -- what the run asks for later is among the known queries too
    refine ⟨?_, ih (faithful.answer r here) later⟩
    rintro o rfl
    exact faithful.transparent separated fun fits => here _ (if_pos fits)

/-- A new cache holds nothing, and so nothing that is wrong. -/
theorem Faithful.of_create? {m : ThemeManager Listener} {language : Option String}
    {negative : Option Bool} {cacheSize : Option Int} {b : PromptBuilder}
    (created : PromptBuilder.create? settings m.revision language negative cacheSize = some b)
    (known : List PromptQuery) : Faithful settings known ⟨m, b⟩ := by
  have fresh : b.revision = m.revision ∧ b.cache.slotOf = PromptBuilder.slotOf ∧
      b.cache.entries = [] := by
    unfold PromptBuilder.create? Cache.empty? at created
    dsimp only at created
    split at created
    · cases created
      exact ⟨rfl, rfl, rfl⟩
    · cases created
  obtain ⟨revision, slots, entries⟩ := fresh
  refine ⟨Nat.le_of_eq revision, slots, fun _ e member => ?_⟩
  have member : e ∈ b.cache.entries := member
  rw [entries] at member
  cases member

/-- The cache of a builder cannot be noticed: over every run of requests to it and to its manager,
each prompt is the one that a builder with an empty cache would give, as long as none of the digests
that the run makes stands for two texts. -/
theorem builds_transparent (settings : Settings) (m : ThemeManager Listener)
    (language : Option String) (negative : Option Bool) (cacheSize : Option Int) {b : PromptBuilder}
    (created : PromptBuilder.create? settings m.revision language negative cacheSize = some b)
    (requests : List PromptRequest)
    (separated : PromptQuery.Separated (queries settings ⟨m, b⟩ requests)) :
    AllBuilds settings (Transparent settings) ⟨m, b⟩ requests :=
  allBuilds_transparent separated requests (.of_create? created _) (List.Subset.refl _)

theorem choices_build (b : PromptBuilder) (settings : Settings) (m : ThemeManager Listener)
    (o : PromptOptions) :
    (b.build settings m o).2.language = b.language ∧
      (b.build settings m o).2.negative = b.negative := by
  obtain ⟨language, negative, _, _⟩ := b.refresh_choices m
  cases fits : o.writable with
  | false =>
    rw [b.build_of_unwritten settings m o fits]
    exact ⟨language, negative⟩
  | true =>
    rcases b.build_cases settings m fits with ⟨_, _, built⟩ | ⟨_, _, _, built, _⟩
    · rw [built]
      exact ⟨language, negative⟩
    · rw [built]
      exact ⟨language, negative⟩

/-- Options for a pack called plain. -/
def plainOptions : PromptOptions := { themeId := "plain", budget := { most := 900 } }

/-- A run that comes back to a language, and to a theme id with another pack. The last prompt is one
that is kept by then. -/
def returningRun : List PromptRequest :=
  [.build plainOptions,
   .language "zh",
   .themes (.unregister "plain"),
   .themes (.register (ThemeManager.smallPack "plain" "B" .base)),
   .language "en",
   .build plainOptions,
   .themes (.activate "none"),
   .build plainOptions]

def plainManager : ThemeManager Unit :=
  { defaultId := "other", themes := [ThemeManager.smallPack "plain" "A" .base] }

theorem returningRun_transparent :
    ∃ b, PromptBuilder.create? {} plainManager.revision none none none = some b ∧
      PromptQuery.Separated (queries {} ⟨plainManager, b⟩ returningRun) ∧
      AllBuilds {} (Transparent {}) ⟨plainManager, b⟩ returningRun := by
  obtain ⟨b, created, language, negative⟩ : ∃ b,
      PromptBuilder.create? {} plainManager.revision none none none = some b ∧
        b.language = "en" ∧ b.negative = true := ⟨_, rfl, rfl, rfl⟩
  have fits : plainOptions.writable = true := by decide
  have asked : queries {} ⟨plainManager, b⟩ returningRun = [⟨plainOptions, "en", true⟩,
      ⟨plainOptions, "en", true⟩, ⟨plainOptions, "en", true⟩] := by
    simp [queries, returningRun, query?, answer, choices_build, language, negative, fits]
  have separated : PromptQuery.Separated (queries {} ⟨plainManager, b⟩ returningRun) := by
    rw [asked]
    constructor <;> simp [PromptQuery.NoCollision]
  exact ⟨b, created, separated,
    builds_transparent {} plainManager none none none created returningRun separated⟩

end PromptState

end UiSchema
