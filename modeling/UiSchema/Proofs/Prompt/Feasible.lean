import Mathlib.Algebra.Order.Floor.Semiring
import Mathlib.Data.Rat.Floor
import Mathlib.Logic.Relation
import UiSchema.Proofs.Prompt.Budget
import UiSchema.Theme.Builtin

/-! Budgets compared with each other. Prompts are made smaller along different ways, but those that
do not fit in the end have all come down to the same size, the least one there is. So a larger
budget is met whenever a smaller one is, and no prompt grows. -/

set_option autoImplicit false

namespace UiSchema

namespace Meter

/-- Tokens counted in exact fractions. Only whole tokens are rounded, and nothing is refused. -/
def exact (ratio : ℚ) : Meter where
  tokens length := .ok ⌈length * ratio⌉₊
  share excess tokens count := .ok ⌈(excess : ℚ) / (tokens / count)⌉₊

/-- A meter that always has an answer, and more tokens for a longer text. -/
structure Steady (m : Meter) : Prop where
  counts : m.Counts
  measures : ∀ length, ∃ tokens, m.tokens length = .ok tokens
  shares : ∀ excess tokens count, ∃ share, m.share excess tokens count = .ok share
  mono : ∀ {short long few many : Nat}, short ≤ long → m.tokens short = .ok few →
    m.tokens long = .ok many → few ≤ many

theorem exact_steady {ratio : ℚ} (positive : 0 < ratio) : (exact ratio).Steady where
  counts := by
    intro length tokens nonempty counted
    obtain rfl := Except.ok.inj counted
    have : (0 : ℚ) < length := Nat.cast_pos.2 nonempty
    exact Nat.ceil_pos.2 (mul_pos this positive)
  measures := fun length => ⟨_, rfl⟩
  shares := fun excess tokens count => ⟨_, rfl⟩
  mono := by
    intro short long few many shorter counted counted'
    obtain rfl := Except.ok.inj counted
    obtain rfl := Except.ok.inj counted'
    exact Nat.ceil_mono (mul_le_mul_of_nonneg_right (Nat.cast_le.2 shorter) positive.le)

end Meter

/-- The same options with another budget. -/
def PromptOptions.withBudget (o : PromptOptions) (budget : TokenBudget) : PromptOptions :=
  { o with budget }

namespace Prompt

theorem exampleDocs_length_le {fewer examples : List Example} (kept : fewer <+: examples) :
    (exampleDocs fewer).length ≤ (exampleDocs examples).length := by
  obtain ⟨rest, rfl⟩ := kept
  unfold exampleDocs
  rw [List.map_append]
  cases first : fewer.map exampleText with
  | nil => simp
  | cons text texts =>
    cases rest.map exampleText with
    | nil => simp
    | cons other others =>
      -- what is put before more examples is followed by their separator
      rw [String.intercalate_append_of_ne_nil]
      · simp only [String.length_append]
        omega
      · simp
      · simp

/-- Colors that are left out take no room. -/
theorem colorInfo_length_le (p : Pack) {less more : ColorSelection}
    (fewer : less.included = false ∨ less = more) (heading : String) :
    (colorInfo p less heading).length ≤ (colorInfo p more heading).length := by
  rcases fewer with excluded | rfl
  · simp [colorInfo, excluded]
  · exact Nat.le_refl _

theorem Sections.estimate_eq_ok {s : Sections} {meter : Meter} {base : Nat} {e : Estimate} :
    s.estimate meter base = .ok e ↔
      meter.ofText s.components = .ok e.components ∧ meter.ofText s.examples = .ok e.examples ∧
        meter.ofText s.colors = .ok e.colors ∧ base = e.base := by
  obtain ⟨components, examples, colors, base'⟩ := e
  unfold Sections.estimate
  cases meter.ofText s.components with
  | error cause => simp [bind, Except.bind]
  | ok first =>
    cases meter.ofText s.examples with
    | error cause => simp [bind, Except.bind]
    | ok second =>
      cases meter.ofText s.colors with
      | error cause => simp [bind, Except.bind]
      | ok third => simp [bind, Except.bind, pure, Except.pure]

namespace Frame

variable {f : Frame} {p : Pack}

/-- Prompts with fewer examples, or without colors, are not larger. -/
theorem estimate_total_le (steady : f.meter.Steady) {less more : PromptOptions} {e e' : Estimate}
    (components : less.components = more.components)
    (kept : f.examples p less <+: f.examples p more)
    (colors : less.colors.included = false ∨ less.colors = more.colors)
    (estimated : f.estimate p less = .ok e) (estimated' : f.estimate p more = .ok e') :
    e.total ≤ e'.total := by
  obtain ⟨-, estimated⟩ := estimate_eq_ok.1 estimated
  obtain ⟨-, estimated'⟩ := estimate_eq_ok.1 estimated'
  obtain ⟨first, second, third, base⟩ := Sections.estimate_eq_ok.1 estimated
  obtain ⟨first', second', third', base'⟩ := Sections.estimate_eq_ok.1 estimated'
  have same : (f.sections p less).components = (f.sections p more).components :=
    congrArg (fun selection => componentDocs (selectComponents p selection)) components
  have ofComponents : e.components ≤ e'.components :=
    steady.mono (Nat.le_of_eq (congrArg String.length same)) first first'
  have ofExamples : e.examples ≤ e'.examples :=
    steady.mono (exampleDocs_length_le kept) second second'
  have ofColors : e.colors ≤ e'.colors :=
    steady.mono (colorInfo_length_le p colors _) third third'
  unfold Estimate.total
  omega

theorem exists_estimate (steady : f.meter.Steady) {o : PromptOptions} (all : f.Writable p o) :
    ∃ e, f.estimate p o = .ok e := by
  obtain ⟨components, first⟩ := steady.measures (f.sections p o).components.length
  obtain ⟨examples, second⟩ := steady.measures (f.sections p o).examples.length
  obtain ⟨colors, third⟩ := steady.measures (f.sections p o).colors.length
  exact ⟨⟨components, examples, colors, f.basePromptTokens⟩,
    estimate_eq_ok.2 ⟨all, Sections.estimate_eq_ok.2 ⟨first, second, third, rfl⟩⟩⟩

theorem exists_round? (steady : f.meter.Steady) {o : PromptOptions} (all : f.Writable p o) :
    ∃ next, f.round? p o = .ok next := by
  obtain ⟨e, estimated⟩ := exists_estimate steady all
  obtain ⟨share, shared⟩ :=
    steady.shares (e.total - o.budget.most) e.examples (f.examples p o).length
  unfold round? reduce?
  simp only [estimated, shared]
  split
  · split <;> exact ⟨_, rfl⟩
  · exact ⟨_, rfl⟩

/-- A round does not change the colors, unless it leaves them out. -/
theorem round?_colors {o smaller : PromptOptions} (next : f.round? p o = .ok (some smaller)) :
    smaller.colors.included = false ∨ smaller.colors = o.colors := by
  obtain ⟨e, _, _, reduced⟩ := round?_eq_some.1 next
  rcases reduce?_eq_some reduced with ⟨target, _, _, rfl⟩ | ⟨_, _, rfl⟩
  · exact .inr rfl
  · exact .inl rfl

/-- One round of making options smaller. -/
def Round (f : Frame) (p : Pack) (o next : PromptOptions) : Prop :=
  f.round? p o = .ok (some next)

theorem steps_of_shrink {o last : PromptOptions} (shrunk : f.shrink p o = .ok last) :
    Relation.ReflTransGen (f.Round p) o last := by
  fun_induction shrink with
  | case1 o cause refused => cases shrunk
  | case2 o done =>
    cases shrunk
    exact .refl
  | case3 o smaller next ih => exact .head next (ih shrunk)

/-- With automatic budgets there is always a prompt of examples that can be written. It is made for
what is left after the last round. -/
theorem exists_build_steps (steady : f.meter.Steady) (negative : Bool) {o : PromptOptions}
    (all : f.Writable p o) (auto : o.budget.autoOptimize = true) :
    ∃ r e, f.build p negative o = .ok r ∧ Relation.ReflTransGen (f.Round p) o r.options ∧
      f.round? p r.options = .ok none ∧ f.estimate p r.options = .ok e ∧
      r.tokenCount = e.total := by
  obtain ⟨last, reduced, ⟨shrunk, done⟩ | ⟨cause, _, refused⟩⟩ :=
    exists_reduced_shrink_of_counts (p := p) steady.counts o
  · obtain ⟨e, estimated⟩ := exists_estimate steady (reduced.writable all)
    have fitted : f.fit p o = .ok last := (if_pos auto).trans shrunk
    obtain ⟨r, built, rfl, tokens⟩ := exists_build fitted estimated negative
    exact ⟨r, e, built, steps_of_shrink shrunk, done, estimated, tokens⟩
  · obtain ⟨next, found⟩ := exists_round? steady (reduced.writable all)
    cases found.symm.trans refused

/-- Less of the same: some of the first examples, with the colors or without them. -/
structure Part (f : Frame) (p : Pack) (o last : PromptOptions) : Prop where
  reduced : f.Reduced p o last
  colors : last.colors.included = false ∨ last.colors = o.colors

theorem Part.of_steps (counts : f.meter.Counts) {o last : PromptOptions}
    (steps : Relation.ReflTransGen (f.Round p) o last) : f.Part p o last := by
  induction steps with
  | refl => exact ⟨.refl o, .inr rfl⟩
  | @tail before after steps step ih =>
    refine ⟨ih.reduced.trans (.of_round? counts step), ?_⟩
    rcases round?_colors step with excluded | same
    · exact .inl excluded
    · exact same ▸ ih.colors

theorem Part.total_le (steady : f.meter.Steady) {o last : PromptOptions} {e e' : Estimate}
    (part : f.Part p o last) (estimated : f.estimate p last = .ok e)
    (estimated' : f.estimate p o = .ok e') : e.total ≤ e'.total :=
  estimate_total_le steady part.reduced.others.2.1 part.reduced.kept part.colors estimated
    estimated'

/-- With all left out that may be, nothing smaller is to be had, whatever the budgets. -/
theorem Part.total_le_of_exhausted (steady : f.meter.Steady) {o least last : PromptOptions}
    {budget budget' : TokenBudget} {e e' : Estimate}
    (smallest : f.Part p (o.withBudget budget) least) (exhausted : f.Exhausted p least)
    (part : f.Part p (o.withBudget budget') last) (estimated : f.estimate p least = .ok e)
    (estimated' : f.estimate p last = .ok e') : e.total ≤ e'.total := by
  have components : least.components = last.components :=
    smallest.reduced.others.2.1.trans part.reduced.others.2.1.symm
  have all : f.examples p (o.withBudget budget) = f.examples p (o.withBudget budget') := rfl
  -- both have kept the first examples, and one of them no more than has to be kept
  have fewer : (f.examples p least).length ≤ (f.examples p last).length := by
    have := smallest.reduced.kept.length_le
    have := part.reduced.floor
    have := exhausted.1
    rw [all] at *
    omega
  have kept : f.examples p least <+: f.examples p last :=
    List.prefix_of_prefix_length_le smallest.reduced.kept (all ▸ part.reduced.kept) fewer
  exact estimate_total_le steady components kept (.inl exhausted.2) estimated estimated'

/-- A result says of itself whether it fits the budget of its options. -/
theorem withinBudget_iff {negative : Bool} {o : PromptOptions} {r : Result}
    (built : f.build p negative o = .ok r) :
    r.withinBudget = true ↔ r.tokenCount ≤ r.options.budget.most := by
  obtain ⟨last, e, -, -, rfl⟩ := build_eq_ok.1 built
  exact decide_eq_true_iff

/-- If a prompt within an automatic budget does not fit, then there is nothing left to leave out. -/
theorem exists_build_part (steady : f.meter.Steady) (negative : Bool) {o : PromptOptions}
    (all : f.Writable p o) (auto : o.budget.autoOptimize = true) :
    ∃ r last e, f.build p negative o = .ok r ∧ f.Part p o last ∧ f.estimate p last = .ok e ∧
      r.tokenCount = e.total ∧ (r.withinBudget = true ↔ e.total ≤ o.budget.most) ∧
      (e.total ≤ o.budget.most ∨ f.Exhausted p last) := by
  obtain ⟨r, e, built, steps, done, estimated, tokens⟩ :=
    exists_build_steps steady negative all auto
  have part := Part.of_steps steady.counts steps
  obtain ⟨e', estimated', enough⟩ := fits_or_exhausted_of_counts steady.counts done
  obtain rfl := Except.ok.inj (estimated.symm.trans estimated')
  have within := withinBudget_iff built
  rw [tokens, part.reduced.others.2.2] at within
  rw [part.reduced.others.2.2] at enough
  exact ⟨r, r.options, e, built, part, estimated, tokens, within, enough⟩

/-- A budget is met whenever a smaller one is. -/
theorem exists_build_within (steady : f.meter.Steady) (negative : Bool) {o : PromptOptions}
    (all : f.Writable p o) {tight loose : Nat} (larger : tight ≤ loose) :
    ∃ first second,
      f.build p negative (o.withBudget { most := tight, autoOptimize := true }) = .ok first ∧
      f.build p negative (o.withBudget { most := loose, autoOptimize := true }) = .ok second ∧
      (first.withinBudget = true → second.withinBudget = true) := by
  obtain ⟨first, last, e, built, part, estimated, _, within, _⟩ :=
    exists_build_part steady negative
      (o := o.withBudget { most := tight, autoOptimize := true }) all rfl
  obtain ⟨second, last', e', built', part', estimated', _, within', enough⟩ :=
    exists_build_part steady negative
      (o := o.withBudget { most := loose, autoOptimize := true }) all rfl
  refine ⟨first, second, built, built', fun fits => within'.2 ?_⟩
  have tightly : e.total ≤ tight := within.1 fits
  rcases enough with loosely | exhausted
  · exact loosely
  -- the larger budget has left out all it may, so its prompt is not the larger one
  · exact (part'.total_le_of_exhausted steady exhausted part estimated' estimated).trans
      (tightly.trans larger)

/-- Leaving things out does not make a prompt larger. -/
theorem exists_build_le (steady : f.meter.Steady) (negative : Bool) {o : PromptOptions}
    (all : f.Writable p o) (most : Nat) :
    ∃ fitted whole,
      f.build p negative (o.withBudget { most, autoOptimize := true }) = .ok fitted ∧
      f.build p negative (o.withBudget { most, autoOptimize := false }) = .ok whole ∧
      fitted.tokenCount ≤ whole.tokenCount := by
  obtain ⟨fitted, last, e, built, part, estimated, tokens, _, _⟩ :=
    exists_build_part steady negative
      (o := o.withBudget { most, autoOptimize := true }) all rfl
  obtain ⟨e', estimated'⟩ :=
    exists_estimate steady (o := o.withBudget { most, autoOptimize := false }) all
  have fit : f.fit p (o.withBudget { most, autoOptimize := false }) =
      .ok (o.withBudget { most, autoOptimize := false }) := if_neg Bool.false_ne_true
  obtain ⟨whole, built', _, tokens'⟩ := exists_build fit estimated' negative
  refine ⟨fitted, whole, built, built', ?_⟩
  rw [tokens, tokens']
  exact part.total_le steady estimated estimated'

/-- If all examples can be written, then a budget is met whenever a smaller one is, and leaving
things out does not make a prompt larger. If not, then there is no prompt within any budget. -/
theorem build_monotone {f : Frame} {ratio : ℚ} (exact : f.meter = .exact ratio)
    (positive : 0 < ratio) (p : Pack) (negative : Bool) (o : PromptOptions) :
    (f.Writable p o →
      (∀ tight loose, tight ≤ loose →
        ∃ first second,
          f.build p negative (o.withBudget { most := tight, autoOptimize := true }) = .ok first ∧
          f.build p negative (o.withBudget { most := loose, autoOptimize := true }) = .ok second ∧
          (first.withinBudget = true → second.withinBudget = true)) ∧
      ∀ most, ∃ fitted whole,
        f.build p negative (o.withBudget { most, autoOptimize := true }) = .ok fitted ∧
        f.build p negative (o.withBudget { most, autoOptimize := false }) = .ok whole ∧
        fitted.tokenCount ≤ whole.tokenCount) ∧
    (¬ f.Writable p o → ∀ budget,
      f.build p negative (o.withBudget budget) = .error (.raised .tooManyDigits)) := by
  have steady : f.meter.Steady := exact ▸ Meter.exact_steady positive
  refine ⟨fun all => ⟨fun tight loose larger => ?_, fun most => ?_⟩, fun unwritten budget => ?_⟩
  · exact exists_build_within steady negative all larger
  · exact exists_build_le steady negative all most
  · exact build_of_unwritten (o := o.withBudget budget) unwritten negative

end Frame

/-- The usual settings, with a token for every four characters. -/
def quarterFrame : Frame := { Frame.of {} "en" with meter := .exact (1 / 4) }

theorem builtin_monotone :
    quarterFrame.meter = .exact (1 / 4) ∧ (0 : ℚ) < 1 / 4 ∧
      quarterFrame.Writable Builtin.theme .standard ∧ 900 ≤ 4000 ∧ ∃ first second,
        quarterFrame.build Builtin.theme true
          (PromptOptions.standard.withBudget { most := 900, autoOptimize := true }) = .ok first ∧
        quarterFrame.build Builtin.theme true
          (PromptOptions.standard.withBudget { most := 4000, autoOptimize := true }) =
            .ok second ∧
        (first.withinBudget = true → second.withinBudget = true) := by
  have positive : (0 : ℚ) < 1 / 4 := by norm_num
  have all : quarterFrame.Writable Builtin.theme .standard := by decide +kernel
  exact ⟨rfl, positive, all, by decide,
    ((Frame.build_monotone rfl positive Builtin.theme true .standard).1 all).1 900 4000
      (by decide)⟩

end Prompt

end UiSchema
