import UiSchema.Proofs.Prompt.Budget
import UiSchema.Proofs.Prompt.Cached

/-! Options that a prompt was built with in the end. No further round makes them smaller, whichever
way the rounds before have stopped, so that building with them gives the same prompt again. -/

set_option autoImplicit false

namespace UiSchema

namespace PromptOptions

theorem fitsText_names (ids : Option (List String)) : (names ids).fitsText = true := by
  cases ids with
  | none => rfl
  | some ids =>
    refine Json.fitsText_array.2 fun item member => ?_
    obtain ⟨id, -, rfl⟩ := List.mem_map.1 member
    rfl

/-- The numbers of options are a number of examples and the budget. -/
theorem writable_iff {o : PromptOptions} :
    o.writable = true ↔
      (∀ n ∈ o.examples.maxCount, n < 10 ^ mostDigits) ∧ o.budget.most < 10 ^ mostDigits := by
  have number (n : Nat) : (Json.int n).fitsText = true ↔ n < 10 ^ mostDigits := fewDigits_iff
  have text (s : String) : (Json.str s).fitsText = true := rfl
  have flag (b : Bool) : (Json.bool b).fitsText = true := rfl
  have preset : (Json.ofOption Json.str o.components.presetName).fitsText = true := by
    cases o.components.presetName <;> rfl
  have count : (Json.ofOption (fun n : Nat => Json.int n) o.examples.maxCount).fitsText = true ↔
      ∀ n ∈ o.examples.maxCount, n < 10 ^ mostDigits := by
    cases o.examples.maxCount with
    | none => exact iff_of_true rfl nofun
    | some n => simp [Json.ofOption, number]
  simp [writable, toJson, Json.fitsText_object, fitsText_names, text, flag, number, preset, count]

end PromptOptions

namespace Prompt.Frame

variable {f : Frame} {p : Pack} {o last smaller : PromptOptions}

/-- Only the choice of examples and colors is made smaller. -/
theorem round?_keeps (next : f.round? p o = .ok (some smaller)) :
    smaller.themeId = o.themeId ∧ smaller.budget = o.budget := by
  obtain ⟨e, -, -, reduced⟩ := round?_eq_some.1 next
  rcases reduce?_eq_some reduced with ⟨target, -, -, rfl⟩ | ⟨-, -, rfl⟩
  · exact ⟨rfl, rfl⟩
  · exact ⟨rfl, rfl⟩

theorem length_examples_le (f : Frame) (p : Pack) (o : PromptOptions) :
    (f.examples p o).length ≤ p.examples.length := by
  unfold examples selectExamples
  split
  · exact Nat.zero_le _
  · exact List.length_filter_le ..
  · exact List.length_take_le' ..

/-- A smaller number of examples has no more digits than the number of those that there are. -/
theorem writable_of_round? (next : f.round? p o = .ok (some smaller))
    (few : p.examples.length ≤ 10 ^ mostDigits) (fits : o.writable = true) :
    smaller.writable = true := by
  obtain ⟨e, -, -, reduced⟩ := round?_eq_some.1 next
  rw [PromptOptions.writable_iff] at fits ⊢
  rcases reduce?_eq_some reduced with ⟨target, -, fewer, rfl⟩ | ⟨-, -, rfl⟩
  · have all := f.length_examples_le p o
    refine ⟨fun n given => ?_, fits.2⟩
    unfold keepExamples at given
    dsimp only at given
    split at given
    · exact fits.1 n given
    · cases given
      exact fewer.trans_le (all.trans few)
  · exact fits

theorem writable_of_shrink (shrunk : f.shrink p o = .ok last)
    (few : p.examples.length ≤ 10 ^ mostDigits) (fits : o.writable = true) :
    last.writable = true := by
  fun_induction shrink with
  | case1 o cause refused => cases shrunk
  | case2 o done =>
    cases shrunk
    exact fits
  | case3 o smaller next ih => exact ih shrunk (writable_of_round? next few fits)

/-- The options of a result can be written if those that were asked for can. -/
theorem writable_of_build {negative : Bool} {r : Result} (built : f.build p negative o = .ok r)
    (few : p.examples.length ≤ 10 ^ mostDigits) (fits : o.writable = true) :
    r.options.writable = true := by
  obtain ⟨last, e, fitted, -, rfl⟩ := build_eq_ok.1 built
  unfold fit at fitted
  split at fitted
  · exact writable_of_shrink fitted few fits
  · cases fitted
    exact fits

theorem done_of_shrink (shrunk : f.shrink p o = .ok last) :
    f.round? p last = .ok none ∧ last.themeId = o.themeId ∧ last.budget = o.budget := by
  fun_induction shrink with
  | case1 o cause refused => cases shrunk
  | case2 o done =>
    cases shrunk
    exact ⟨done, rfl, rfl⟩
  | case3 o smaller next ih =>
    obtain ⟨done, theme, budget⟩ := ih shrunk
    obtain ⟨theme', budget'⟩ := round?_keeps next
    exact ⟨done, theme.trans theme', budget.trans budget'⟩

/-- Options that were made to fit stay as they are. -/
theorem fit_fit (fitted : f.fit p o = .ok last) :
    f.fit p last = .ok last ∧ last.themeId = o.themeId ∧ last.budget = o.budget := by
  unfold fit at fitted
  split at fitted
  · rename_i auto
    obtain ⟨done, theme, budget⟩ := done_of_shrink fitted
    have again : f.fit p last = f.shrink p last := if_pos (budget ▸ auto)
    exact ⟨again.trans (shrink_of_done done), theme, budget⟩
  · rename_i manual
    cases fitted
    exact ⟨if_neg manual, rfl, rfl⟩

/-- What a result says of its size is the estimate for its options, and building with them again
leaves nothing out. -/
theorem build_again {negative : Bool} {r : Result} (built : f.build p negative o = .ok r) :
    f.build p negative r.options = .ok { r with optimized := false } ∧
      f.estimate p r.options = .ok r.breakdown ∧ r.tokenCount = r.breakdown.total ∧
      r.withinBudget = decide (r.tokenCount ≤ o.budget.most) ∧ r.options.themeId = o.themeId := by
  obtain ⟨last, e, fitted, estimated, rfl⟩ := build_eq_ok.1 built
  obtain ⟨again, theme, budget⟩ := fit_fit fitted
  refine ⟨build_eq_ok.2 ⟨last, e, again, estimated, ?_⟩, estimated, rfl, by rw [budget], theme⟩
  simp

end Prompt.Frame

namespace PromptState

open Prompt (Result)

variable {Listener : Type} {settings : Settings} {m : ThemeManager Listener}
  {s : PromptState Listener} {o : PromptOptions} {r : Result}

/-- The state after a run of requests. -/
def after (settings : Settings) (s : PromptState Listener) (requests : List PromptRequest) :
    PromptState Listener :=
  requests.foldl (answer settings) s

theorem allBuilds_append {condition : PromptState Listener → PromptOptions → Prop}
    {front back : List PromptRequest} :
    AllBuilds settings condition s (front ++ back) ↔
      AllBuilds settings condition s front ∧
        AllBuilds settings condition (after settings s front) back := by
  induction front generalizing s with
  | nil => exact (and_iff_right trivial).symm
  | cons first rest ih =>
    show _ ∧ AllBuilds settings condition _ (rest ++ back) ↔ (_ ∧ _) ∧ _
    rw [ih, and_assoc]
    rfl

/-- The options of a result are a fixed point: the result says of them what an estimate says, and
comes back when a prompt is built with them, unless the theme has more examples than there are
numbers that can be written. -/
structure Settled (settings : Settings) (s : PromptState Listener) (o : PromptOptions)
    (r : Result) : Prop where
  estimated : s.builder.estimate settings s.manager r.options = .ok r.breakdown
  total : r.tokenCount = r.breakdown.total
  sum : r.tokenCount =
    r.breakdown.components + r.breakdown.examples + r.breakdown.colors + r.breakdown.base
  within : r.withinBudget = decide (r.tokenCount ≤ o.budget.most)
  again : (s.builder.build settings s.manager r.options).1 = .ok { r with optimized := false } ∨
    ∃ p, s.manager.theme? o.themeId = some p ∧ 10 ^ mostDigits < p.examples.length

theorem settled_of_empty (settings : Settings) {b : PromptBuilder} (empty : b.cache.entries = [])
    (registered : m.has o.themeId = true) (built : (b.build settings m o).1 = .ok r) :
    Settled settings ⟨m, b⟩ o r := by
  obtain ⟨p, found⟩ := Option.isSome_iff_exists.1 registered
  have ofPack {o : PromptOptions} (fits : o.writable = true) (found : m.theme? o.themeId = some p) :
      (b.build settings m o).1 = (b.frame settings).build p b.negative o := by
    rw [build_of_empty empty, result, if_pos fits]
    simp only [found]
    rfl
  have fits : o.writable = true := by
    by_contra long
    rw [build_of_empty empty, result_of_unwritten (Bool.eq_false_iff.2 long)] at built
    cases built
  rw [ofPack fits found] at built
  obtain ⟨again, estimated, total, within, theme⟩ := Prompt.Frame.build_again built
  have kept : m.theme? r.options.themeId = some p := theme.symm ▸ found
  refine ⟨?_, total, total, within, ?_⟩
  · simp only [PromptBuilder.estimate, kept]
    exact estimated
  · rcases Nat.lt_or_ge (10 ^ mostDigits) p.examples.length with many | few
    · exact .inr ⟨p, found, many⟩
    · have fits := Prompt.Frame.writable_of_build built few fits
      exact .inl ((ofPack fits kept).trans again)

/-- What holds for an empty cache holds for one that cannot be noticed. -/
theorem Settled.of_transparent {b b' : PromptBuilder} (settled : Settled settings ⟨m, b⟩ o r)
    (empty : b.cache.entries = []) (language : b.language = b'.language)
    (negative : b.negative = b'.negative) (transparent : Transparent settings ⟨m, b'⟩ r.options) :
    Settled settings ⟨m, b'⟩ o r where
  estimated := by
    have same : b.estimate settings m r.options = b'.estimate settings m r.options := by
      simp only [PromptBuilder.estimate, PromptBuilder.frame, language]
    exact same.symm.trans settled.estimated
  total := settled.total
  sum := settled.sum
  within := settled.within
  again := settled.again.imp_left (transparent b language negative empty).trans

/-- Whatever was asked of a builder and its manager before, the options that a prompt was built with
in the end are a fixed point: with a cache that has just been cleared, and with the cache as it is
if none of the digests stands for two texts. -/
theorem options_settled (settings : Settings) (m : ThemeManager Listener)
    (language : Option String) (negative : Option Bool) (cacheSize : Option Int) {b : PromptBuilder}
    (created : PromptBuilder.create? settings m.revision language negative cacheSize = some b)
    (requests : List PromptRequest)
    (registered : (after settings ⟨m, b⟩ requests).manager.has o.themeId = true)
    (built : ((after settings ⟨m, b⟩ requests).builder.clearCache.build settings
      (after settings ⟨m, b⟩ requests).manager o).1 = .ok r) :
    Settled settings ((after settings ⟨m, b⟩ requests).answer settings .clearCache) o r ∧
      (PromptQuery.Separated
          (queries settings ⟨m, b⟩ (requests ++ [.build o, .build r.options])) →
        ((after settings ⟨m, b⟩ requests).builder.build settings
            (after settings ⟨m, b⟩ requests).manager o).1 = .ok r ∧
          Settled settings ((after settings ⟨m, b⟩ requests).answer settings (.build o)) o r) := by
  have settled := settled_of_empty settings rfl registered built
  refine ⟨settled, fun separated => ?_⟩
  have all := allBuilds_transparent separated _ (.of_create? created _) (List.Subset.refl _)
  obtain ⟨-, first, second, -⟩ := allBuilds_append.1 all
  generalize after settings ⟨m, b⟩ requests = s at *
  obtain ⟨keptLanguage, keptNegative⟩ := choices_build s.builder settings s.manager o
  refine ⟨(first o rfl s.builder.clearCache rfl rfl rfl).trans built, ?_⟩
  exact settled.of_transparent rfl keptLanguage.symm keptNegative.symm (second r.options rfl)

/-! ### A tight budget and a wide one -/

def plainHost : ThemeManager Unit := { defaultId := "other", themes := [Prompt.plainPack] }

def plain (included : Bool) (most : Nat) : PromptOptions :=
  { themeId := "plain", colors := { included }, budget := { most } }

open Prompt (Frame plainPack)

/-- The pack has no colors, so these take no tokens even if they are included. -/
theorem estimate_plain (included : Bool) (most : Nat) :
    (Frame.of {} "en").estimate plainPack (plain included most) =
      .ok { components := 1, base := 500 } := by
  -- the budget plays no part in the size
  show (Frame.of {} "en").estimate plainPack (plain included 0) = _
  cases included <;> decide +kernel

theorem fit_plain_tight :
    (Frame.of {} "en").fit plainPack (plain true 100) = .ok (plain false 100) := by
  have first : (Frame.of {} "en").round? plainPack (plain true 100) =
      .ok (some (plain false 100)) :=
    Frame.round?_eq_some.2 ⟨_, estimate_plain true 100, by decide, rfl⟩
  have second : (Frame.of {} "en").round? plainPack (plain false 100) = .ok none := by
    rw [Frame.round?, estimate_plain]
    rfl
  exact (if_pos rfl).trans ((Frame.shrink_of_next first).trans (Frame.shrink_of_done second))

theorem fit_plain_wide :
    (Frame.of {} "en").fit plainPack (plain true 900) = .ok (plain true 900) := by
  have done : (Frame.of {} "en").round? plainPack (plain true 900) = .ok none := by
    rw [Frame.round?, estimate_plain]
    rfl
  exact (if_pos rfl).trans (Frame.shrink_of_done done)

theorem build_plain {b : PromptBuilder} (language : b.language = "en") (negative : b.negative = true)
    {included : Bool} {most : Nat} (fits : (plain included most).writable = true) :
    (b.clearCache.build {} plainHost (plain included most)).1 =
      (Frame.of {} "en").build plainPack true (plain included most) := by
  have found : plainHost.theme? (plain included most).themeId = some plainPack := rfl
  rw [build_of_empty rfl, result, if_pos fits]
  simp only [found]
  rw [← language, ← negative]
  rfl

/-- Within the tight budget the colors are left out; what fits the wide one comes from the cache. -/
theorem plain_settled :
    ∃ b, PromptBuilder.create? {} plainHost.revision none none none = some b ∧
      (∃ r, (b.clearCache.build {} plainHost (plain true 100)).1 = .ok r ∧
        r.options = plain false 100 ∧ Settled {} ⟨plainHost, b.clearCache⟩ (plain true 100) r) ∧
      ∃ r, (b.clearCache.build {} plainHost (plain true 900)).1 = .ok r ∧
        PromptQuery.Separated (queries {} ⟨plainHost, b⟩
          [.build (plain true 900), .build (plain true 900), .build r.options]) ∧
        Settled {} (after {} ⟨plainHost, b⟩ [.build (plain true 900), .build (plain true 900)])
          (plain true 900) r := by
  obtain ⟨b, created, language, negative⟩ : ∃ b,
      PromptBuilder.create? {} plainHost.revision none none none = some b ∧
        b.language = "en" ∧ b.negative = true := ⟨_, rfl, rfl, rfl⟩
  refine ⟨b, created, ?_, ?_⟩
  · obtain ⟨r, built, options, -⟩ :=
      Frame.exists_build fit_plain_tight (estimate_plain false 100) true
    rw [← build_plain language negative (by decide)] at built
    exact ⟨r, built, options,
      (options_settled {} plainHost none none none created [] rfl built).1⟩
  · obtain ⟨r, built, options, -⟩ :=
      Frame.exists_build fit_plain_wide (estimate_plain true 900) true
    obtain ⟨language', negative'⟩ := choices_build b {} plainHost (plain true 900)
    have fits : (plain true 900).writable = true := by decide
    have asked : queries {} ⟨plainHost, b⟩
        [.build (plain true 900), .build (plain true 900), .build r.options] =
          [⟨plain true 900, "en", true⟩, ⟨plain true 900, "en", true⟩,
            ⟨plain true 900, "en", true⟩] := by
      simp [queries, query?, answer, choices_build, language, negative, options, fits]
    have separated : PromptQuery.Separated (queries {} ⟨plainHost, b⟩
        [.build (plain true 900), .build (plain true 900), .build r.options]) := by
      rw [asked]
      constructor <;> simp [PromptQuery.NoCollision]
    -- the prompt has been built before, so it is kept by the time it is asked for
    have before := build_plain (language'.trans language) (negative'.trans negative) fits
    exact ⟨r, (build_plain language negative fits).trans built, separated,
      ((options_settled {} plainHost none none none created [.build (plain true 900)] rfl
        (before.trans built)).2 separated).2⟩

end PromptState

end UiSchema
