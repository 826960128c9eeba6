import UiSchema.Cache
import UiSchema.Digest
import UiSchema.Prompt.Sections
import UiSchema.Theme.Manager

/-! Prompts built for a theme within a budget of tokens, and kept for the next time. -/

set_option autoImplicit false

namespace UiSchema

/-- Why there is no prompt. -/
inductive PromptError where
  | rounding (cause : RoundingError)
  | raised (cause : Raised)
  deriving DecidableEq, Repr

namespace Prompt

/-- What the size of a prompt depends on, apart from the theme and the options. -/
structure Frame where
  language : String
  meter : Meter
  basePromptTokens : Nat
  minExamples : Nat
  maxExamples : Nat

def Frame.of (settings : Settings) (language : String) : Frame :=
  { language
    meter := .ofRatio (settings.tokensPerChar language)
    basePromptTokens := settings.basePromptTokens
    minExamples := settings.minExamples
    maxExamples := settings.maxExamples }

namespace Frame

def sections (f : Frame) (p : Pack) (o : PromptOptions) : Sections :=
  Prompt.sections p f.language f.maxExamples o

def examples (f : Frame) (p : Pack) (o : PromptOptions) : List Example :=
  selectExamples p f.maxExamples o.examples

/-- All examples are written before anything is measured. -/
def estimate (f : Frame) (p : Pack) (o : PromptOptions) : Except PromptError Estimate :=
  if (f.examples p o).all writable then
    ((f.sections p o).estimate f.meter f.basePromptTokens).mapError .rounding
  else .error (.raised .tooManyDigits)

/-- The first `target` of the examples selected. -/
def keepExamples (f : Frame) (p : Pack) (o : PromptOptions) (target : Nat) : PromptOptions :=
  let selection :=
    match o.examples.mode with
    | .selected =>
      let kept := (f.examples p o).take target
      { o.examples with selectedIds := some (kept.map (·.id)) }
    | _ => { o.examples with maxCount := some target }
  { o with examples := selection }

/-- How many examples are left when as many go as the excess asks for, at least one. -/
def target (f : Frame) (count share : Nat) : Nat := max f.minExamples (count - max 1 share)

def withoutColors (o : PromptOptions) : PromptOptions :=
  { o with colors := { o.colors with included := false } }

/-- The next smaller options: fewer examples first, then no colors. -/
def reduce? (f : Frame) (p : Pack) (o : PromptOptions) (e : Estimate) :
    Except PromptError (Option PromptOptions) :=
  let count := (f.examples p o).length
  if 0 < e.examples ∧ f.minExamples < count then
    match f.meter.share (e.total - o.budget.most) e.examples count with
    | .error cause => .error (.rounding cause)
    | .ok share => .ok (some (f.keepExamples p o (f.target count share)))
  else .ok (if o.colors.included then some (withoutColors o) else none)

/-- The options of the next round, if these are over the budget and something can be left out. -/
def round? (f : Frame) (p : Pack) (o : PromptOptions) :
    Except PromptError (Option PromptOptions) :=
  match f.estimate p o with
  | .error cause => .error cause
  | .ok e => if o.budget.most < e.total then f.reduce? p o e else .ok none

/-- The examples left are the first ones, in every mode of selection. -/
theorem examples_keepExamples (f : Frame) (p : Pack) (o : PromptOptions) {target : Nat}
    (fewer : target ≤ (f.examples p o).length) :
    f.examples p (f.keepExamples p o target) = (f.examples p o).take target := by
  cases mode : o.examples.mode with
  | none => simp [examples, keepExamples, selectExamples, mode]
  | auto =>
    simp only [examples, selectExamples, mode, List.length_take] at fewer
    simp only [examples, keepExamples, selectExamples, mode, Option.getD_some, List.take_take]
    rw [Nat.min_eq_left (by omega)]
  | selected =>
    have sub : ((f.examples p o).take target).Sublist p.examples := by
      refine (List.take_sublist _ _).trans ?_
      simp only [examples, selectExamples, mode]
      exact List.filter_sublist
    have kept := filter_ids_of_sublist p.examples_nodup sub
    simp only [examples, keepExamples, selectExamples, mode, Option.getD_some] at kept ⊢
    exact kept

/-- All that one round can do: with colors still there examples go, down to the least number, and
colors go after them. -/
theorem reduce?_eq_some {f : Frame} {p : Pack} {o smaller : PromptOptions} {e : Estimate}
    (reduced : f.reduce? p o e = .ok (some smaller)) :
    (∃ target, f.minExamples ≤ target ∧ target < (f.examples p o).length ∧
      smaller = f.keepExamples p o target) ∨
    (¬ (0 < e.examples ∧ f.minExamples < (f.examples p o).length) ∧
      o.colors.included = true ∧ smaller = withoutColors o) := by
  rw [reduce?] at reduced
  split at reduced
  · rename_i more
    cases shared : f.meter.share (e.total - o.budget.most) e.examples (f.examples p o).length with
    | error cause =>
      rw [shared] at reduced
      cases reduced
    | ok share =>
      rw [shared] at reduced
      cases reduced
      have := more.2
      refine .inl ⟨f.target (f.examples p o).length share, Nat.le_max_left _ _, ?_, rfl⟩
      rw [target]
      omega
  · rename_i enough
    split at reduced
    · rename_i included
      cases reduced
      exact .inr ⟨enough, included, rfl⟩
    · cases reduced

theorem round?_eq_some {f : Frame} {p : Pack} {o smaller : PromptOptions} :
    f.round? p o = .ok (some smaller) ↔ ∃ e, f.estimate p o = .ok e ∧ o.budget.most < e.total ∧
      f.reduce? p o e = .ok (some smaller) := by
  rw [round?]
  cases f.estimate p o with
  | error cause => simp
  | ok e => by_cases exceeded : o.budget.most < e.total <;> simp [exceeded]

/-- What can still be left out: the examples, and the colors. -/
def spare (f : Frame) (p : Pack) (o : PromptOptions) : Nat :=
  (f.examples p o).length + o.colors.included.toNat

/-- Each round leaves out an example or the colors. -/
theorem spare_lt_of_round? {f : Frame} {p : Pack} {o smaller : PromptOptions}
    (next : f.round? p o = .ok (some smaller)) : f.spare p smaller < f.spare p o := by
  obtain ⟨e, _, _, reduced⟩ := round?_eq_some.1 next
  rcases reduce?_eq_some reduced with ⟨target, _, fewer, rfl⟩ | ⟨_, included, rfl⟩
  · have colors : (f.keepExamples p o target).colors = o.colors := rfl
    simp only [spare, colors, f.examples_keepExamples p o (Nat.le_of_lt fewer), List.length_take]
    omega
  · have examples : f.examples p (withoutColors o) = f.examples p o := rfl
    have colors : (withoutColors o).colors.included = false := rfl
    simp [spare, examples, included, colors]

/-- Options are made smaller until they fit the budget or nothing is left to leave out. -/
def shrink (f : Frame) (p : Pack) (o : PromptOptions) : Except PromptError PromptOptions :=
  match _round : f.round? p o with
  | .error cause => .error cause
  | .ok none => .ok o
  | .ok (some smaller) => f.shrink p smaller
termination_by f.spare p o
decreasing_by exact spare_lt_of_round? _round

def fit (f : Frame) (p : Pack) (o : PromptOptions) : Except PromptError PromptOptions :=
  if o.budget.autoOptimize then f.shrink p o else .ok o

end Frame

/-- A prompt with its estimated size. The options are those it was built with in the end. -/
structure Result where
  prompt : String
  tokenCount : Nat
  breakdown : Estimate
  optimized : Bool
  withinBudget : Bool
  options : PromptOptions

/-- The result for a theme that is not there. -/
def Result.absent (o : PromptOptions) : Result :=
  { prompt := "", tokenCount := 0, breakdown := {}, optimized := false, withinBudget := true
    options := o }

def Frame.build (f : Frame) (p : Pack) (negative : Bool) (o : PromptOptions) :
    Except PromptError Result := do
  let fitted ← f.fit p o
  let e ← f.estimate p fitted
  return {
    prompt :=
      match p.promptsFor? f.language with
      | some texts => assemble texts (f.sections p fitted) negative
      | none => ""
    tokenCount := e.total
    breakdown := e
    optimized := fitted ≠ o
    withinBudget := e.total ≤ fitted.budget.most
    options := fitted }

end Prompt

/-- The choices of one builder and the prompts it keeps. They are dropped when the set of themes
changes. -/
structure PromptBuilder where
  language : String
  negative : Bool
  cache : Cache Nat Prompt.Result
  revision : Nat

namespace PromptBuilder

/-- Slots of the cache are short digests. -/
def slotOf (key : String) : String := Digest.ofText .xxh64 key (some 16)

/-- What is not chosen is taken from the settings. A cache has to hold something. -/
def create? (settings : Settings) (revision : Nat) (language : Option String)
    (negative : Option Bool) (cacheSize : Option Int) : Option PromptBuilder :=
  let size := (cacheSize.filter (· != 0)).getD settings.promptCacheSize
  (Cache.empty? size none slotOf).map fun cache =>
    { language := (language.filter (!·.isEmpty)).getD settings.language.code
      negative := negative.getD settings.includeNegativeExamples
      cache
      revision }

variable {Listener : Type}

def frame (b : PromptBuilder) (settings : Settings) : Prompt.Frame := .of settings b.language

/-- The size of a prompt before anything is left out. -/
def estimate (b : PromptBuilder) (settings : Settings) (m : ThemeManager Listener)
    (o : PromptOptions) : Except PromptError Prompt.Estimate :=
  match m.theme? o.themeId with
  | none => .ok { base := settings.basePromptTokens }
  | some p => (b.frame settings).estimate p o

def flagText (flag : Bool) : String := if flag then "True" else "False"

/-- The text of options that can be written. -/
def optionsText (o : PromptOptions) : String := Digest.canonicalText o.toJson

/-- Everything a prompt depends on while the set of themes stays the same. -/
def key (b : PromptBuilder) (o : PromptOptions) : String :=
  Digest.ofFields .xxh64
    [o.themeId, b.language, flagText b.negative, Digest.ofText .xxh64 (optionsText o) none]

/-- The result without the cache. -/
def buildFresh (b : PromptBuilder) (settings : Settings) (m : ThemeManager Listener)
    (o : PromptOptions) : Except PromptError Prompt.Result :=
  match m.theme? o.themeId with
  | none => .ok (.absent o)
  | some p => (b.frame settings).build p b.negative o

/-- The cache of a builder whose manager has changed is empty. -/
def refresh (b : PromptBuilder) (m : ThemeManager Listener) : PromptBuilder :=
  if m.revision = b.revision then b
  else { b with cache := b.cache.clear, revision := m.revision }

/-- A result that is not kept yet is built and kept; a refusal is not kept. Options that cannot be
written have no key to look them up with. -/
def build (b : PromptBuilder) (settings : Settings) (m : ThemeManager Listener)
    (o : PromptOptions) : Except PromptError Prompt.Result × PromptBuilder :=
  let b := b.refresh m
  if o.writable then
    let key := b.key o
    match b.cache.get 0 key with
    | (some result, cache) => (.ok result, { b with cache })
    | (none, cache) =>
      match b.buildFresh settings m o with
      | .ok result => (.ok result, { b with cache := cache.set 0 key result })
      | .error e => (.error e, { b with cache })
  else (.error (.raised .tooManyDigits), b)

def clearCache (b : PromptBuilder) : PromptBuilder := { b with cache := b.cache.clear }

end PromptBuilder

end UiSchema
