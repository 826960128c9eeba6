import Mathlib.Data.List.Nodup
import Mathlib.Data.NNRat.Floor
import UiSchema.Proofs.Prompt.Feasible

/-! How many examples are kept within different budgets. The first round goes no further down with a
larger budget. A later one may: its share is taken from the average of the examples left by then, so
it can pass over the number with which a smaller budget is content. -/

set_option autoImplicit false

namespace UiSchema

/-- On the way from where something holds to where it does not, one step makes the difference. -/
theorem exists_crossing {α : Type} {step : α → α → Prop} {P : α → Prop} {first last : α}
    (steps : Relation.ReflTransGen step first last) (holds : P first) (fails : ¬ P last) :
    ∃ before after, Relation.ReflTransGen step first before ∧ step before after ∧ P before ∧
      ¬ P after := by
  induction steps with
  | refl => exact absurd holds fails
  | @tail before after steps step ih =>
    by_cases still : P before
    · exact ⟨before, after, steps, step, still, fails⟩
    · exact ih still

namespace Prompt

/-- The tokens that some examples take. -/
def docTokens (ratio : ℚ) (examples : List Example) : Nat :=
  ⌈((exampleDocs examples).length : ℚ) * ratio⌉₊

/-- Some examples make up for an excess when their number times the average does. -/
theorem share_le_iff (excess gone : Nat) {tokens count : Nat} (some : 0 < tokens)
    (many : 0 < count) :
    ⌈(excess : ℚ) / (tokens / count)⌉₊ ≤ gone ↔ excess * count ≤ gone * tokens := by
  rw [Nat.ceil_le, div_le_iff₀ (by positivity), mul_div_assoc', le_div_iff₀ (by positivity)]
  exact_mod_cast Iff.rfl

/-- When the last of two more examples than some number makes up for an excess, at the average of
all, then the other one makes up for what is left of it. -/
theorem two_apart {count excess excess' tokens tokens' : Nat} (fewer : tokens' ≤ tokens)
    (gone : excess + tokens' = excess' + tokens)
    (enough : excess * (count + 2) + (count + 1) * tokens ≤ tokens * (count + 2)) :
    excess' * (count + 1) + count * tokens' ≤ tokens' * (count + 1) := by
  have scaled := congrArg (· * (count + 1)) gone
  have product := Nat.mul_le_mul_left count fewer
  linarith only [enough, scaled, product]

namespace Frame

def kept (f : Frame) (p : Pack) (r : Result) : Nat := (f.examples p r.options).length

/-- A round after the first leads from more examples than a number to fewer. That takes examples
which need more tokens on average than the first ones of that number, by more than one in all. -/
def PassesOver (f : Frame) (ratio : ℚ) (p : Pack) (o : PromptOptions) (count : Nat) : Prop :=
  ∃ before after, Relation.TransGen (f.Round p) o before ∧ f.Round p before after ∧
    (f.examples p after).length < count ∧ count < (f.examples p before).length ∧
    (docTokens ratio ((f.examples p before).take count) + 1) * (f.examples p before).length <
      docTokens ratio (f.examples p before) * count

/-- More of the examples do not need more tokens on average than fewer of them, up to one in all. -/
def NoGrowth (f : Frame) (ratio : ℚ) (p : Pack) (o : PromptOptions) : Prop :=
  ∀ fewer more, f.minExamples < fewer → fewer < more → more ≤ (f.examples p o).length →
    docTokens ratio ((f.examples p o).take more) * fewer ≤
      (docTokens ratio ((f.examples p o).take fewer) + 1) * more

variable {f : Frame} {p : Pack} {ratio : ℚ} {o last : PromptOptions}

/-- Rounds lead one way only, so whatever is on the way comes before the end. -/
theorem steps_of_done {middle : PromptOptions} (done : f.round? p last = .ok none)
    (steps : Relation.ReflTransGen (f.Round p) o last)
    (passed : Relation.ReflTransGen (f.Round p) o middle) :
    Relation.ReflTransGen (f.Round p) middle last := by
  have unique : Relator.RightUnique (f.Round p) := by
    intro before one other first second
    have same := Except.ok.inj (Eq.trans (Eq.symm first) second)
    exact Option.some.inj same
  rcases Relation.ReflTransGen.total_of_right_unique unique steps passed with beyond | ahead
  · obtain rfl | ⟨next, step, _⟩ := beyond.cases_head
    · exact .refl
    · cases done.symm.trans step
  · exact ahead

theorem last_unique {other : PromptOptions} (done : f.round? p last = .ok none)
    (steps : Relation.ReflTransGen (f.Round p) o last) (done' : f.round? p other = .ok none)
    (steps' : Relation.ReflTransGen (f.Round p) o other) : other = last := by
  obtain same | ⟨next, step, _⟩ := (steps_of_done done steps steps').cases_head
  · exact same
  · cases done'.symm.trans step

/-- While there are more examples than have to be kept, the colors are as they were. -/
theorem Part.colorInfo_eq (part : f.Part p o last)
    (more : f.minExamples < (f.examples p last).length) (heading : String) :
    colorInfo p last.colors heading = colorInfo p o.colors heading := by
  rcases part.colors with excluded | same
  · cases included : o.colors.included with
    | true =>
      have := part.reduced.colors included excluded
      omega
    | false => simp [colorInfo, excluded, included]
  · rw [same]

/-- Options that differ in their examples differ in the tokens of these. -/
theorem Part.total_add {budget budget' : TokenBudget} {other : PromptOptions} {e e' : Estimate}
    (part : f.Part p (o.withBudget budget) last)
    (part' : f.Part p (o.withBudget budget') other)
    (more : f.minExamples < (f.examples p last).length)
    (more' : f.minExamples < (f.examples p other).length)
    (estimated : f.estimate p last = .ok e) (estimated' : f.estimate p other = .ok e') :
    e.total + e'.examples = e'.total + e.examples := by
  obtain ⟨first, _, third, base⟩ := Sections.estimate_eq_ok.1 (estimate_eq_ok.1 estimated).2
  obtain ⟨first', _, third', base'⟩ := Sections.estimate_eq_ok.1 (estimate_eq_ok.1 estimated').2
  have components : (f.sections p last).components = (f.sections p other).components :=
    congrArg (fun selection => componentDocs (selectComponents p selection))
      (part.reduced.others.2.1.trans part'.reduced.others.2.1.symm)
  have colors : (f.sections p last).colors = (f.sections p other).colors :=
    (part.colorInfo_eq more _).trans (part'.colorInfo_eq more' _).symm
  rw [components, first'] at first
  rw [colors, third'] at third
  have sameComponents := Except.ok.inj first
  have sameColors := Except.ok.inj third
  unfold Estimate.total
  omega

theorem reduce?_of_more {e : Estimate} {share : Nat}
    (more : 0 < e.examples ∧ f.minExamples < (f.examples p o).length)
    (shared : f.meter.share (e.total - o.budget.most) e.examples (f.examples p o).length =
      .ok share) :
    f.reduce? p o e =
      .ok (some (f.keepExamples p o (f.target (f.examples p o).length share))) := by
  unfold reduce?
  dsimp only
  rw [if_pos more, shared]

/-- The more is to go, the less is left. -/
theorem target_antitone (f : Frame) (count : Nat) : Antitone (f.target count) := by
  intro share greater larger
  unfold target
  omega

/-- Whatever keeps more than another build keeps more than has to be kept. -/
theorem Part.more_of_fewer {budget budget' : TokenBudget} {other : PromptOptions}
    (part : f.Part p (o.withBudget budget) last)
    (part' : f.Part p (o.withBudget budget') other)
    (fewer : (f.examples p other).length < (f.examples p last).length) :
    f.minExamples < (f.examples p last).length := by
  have all : f.examples p (o.withBudget budget') = f.examples p (o.withBudget budget) := rfl
  have kept := part.reduced.kept.length_le
  have floor := part'.reduced.floor
  rw [all] at floor
  omega

/-- A run that ends with more examples than have to be kept has met its budget. -/
theorem fits_of_more {budget : TokenBudget} (counts : f.meter.Counts)
    (part : f.Part p (o.withBudget budget) last) (done : f.round? p last = .ok none)
    (more : f.minExamples < (f.examples p last).length) :
    ∃ e, f.estimate p last = .ok e ∧ e.total ≤ budget.most := by
  obtain ⟨e, estimated, fits⟩ := fits_or_exhausted_of_counts counts done
  rw [part.reduced.others.2.2] at fits
  exact ⟨e, estimated, fits.resolve_right fun exhausted => Nat.not_le.2 more exhausted.1⟩

section Exact

variable (exact : f.meter = .exact ratio) (positive : 0 < ratio)

include exact

theorem examples_eq_docTokens {e : Estimate} (estimated : f.estimate p o = .ok e) :
    e.examples = docTokens ratio (f.examples p o) := by
  obtain ⟨_, examples, _, _⟩ := Sections.estimate_eq_ok.1 (estimate_eq_ok.1 estimated).2
  rw [exact] at examples
  exact (Except.ok.inj examples).symm

/-- Where a prompt is larger although no examples have gone that another has, more are left. -/
theorem Part.length_lt {budget budget' : TokenBudget} {other : PromptOptions} {e e' : Estimate}
    (part : f.Part p (o.withBudget budget) last)
    (part' : f.Part p (o.withBudget budget') other)
    (more : f.minExamples < (f.examples p last).length)
    (many : (f.examples p last).length ≤ (f.examples p other).length)
    (estimated : f.estimate p last = .ok e) (estimated' : f.estimate p other = .ok e')
    (larger : e.total < e'.total) : (f.examples p last).length < (f.examples p other).length := by
  rcases many.lt_or_eq with apart | level
  · exact apart
  · have same : f.examples p last = f.examples p other :=
      (List.prefix_of_prefix_length_le part.reduced.kept part'.reduced.kept many).eq_of_length level
    have tokens : e.examples = e'.examples := by
      rw [examples_eq_docTokens exact estimated, examples_eq_docTokens exact estimated', same]
    have total := part.total_add part' more (level ▸ more) estimated estimated'
    omega

include positive

theorem steady_of_exact : f.meter.Steady := exact ▸ Meter.exact_steady positive

/-- What one round leaves of more examples than have to be kept. -/
theorem kept_of_round {next : PromptOptions} (step : f.Round p o next)
    (more : f.minExamples < (f.examples p o).length) :
    ∃ e, f.estimate p o = .ok e ∧ o.budget.most < e.total ∧ 0 < e.examples ∧
      (f.examples p next).length = f.target (f.examples p o).length
        ⌈((e.total - o.budget.most : ℕ) : ℚ) / (e.examples / (f.examples p o).length)⌉₊ := by
  have steady := steady_of_exact exact positive
  obtain ⟨e, estimated, exceeded, reduced⟩ := round?_eq_some.1 step
  have some : 0 < e.examples := by
    refine examples_pos steady.counts estimated fun none => ?_
    rw [none] at more
    exact absurd more (Nat.not_lt_zero _)
  refine ⟨e, estimated, exceeded, some, ?_⟩
  rw [reduce?_of_more ⟨some, more⟩ (congrArg (Meter.share · _ _ _) exact)] at reduced
  have left := Option.some.inj (Except.ok.inj reduced)
  have fewer : f.target (f.examples p o).length
      ⌈((e.total - o.budget.most : ℕ) : ℚ) / (e.examples / (f.examples p o).length)⌉₊ ≤
        (f.examples p o).length := by
    unfold target
    omega
  rw [← left, examples_keepExamples f p o fewer, List.length_take, Nat.min_eq_left fewer]

/-- The first round leaves no fewer examples when the budget is larger. -/
theorem first_round_mono {tight loose : TokenBudget} {next next' : PromptOptions}
    (larger : tight.most ≤ loose.most) (first : f.Round p (o.withBudget tight) next)
    (first' : f.Round p (o.withBudget loose) next')
    (more : f.minExamples < (f.examples p o).length) :
    (f.examples p next).length ≤ (f.examples p next').length := by
  obtain ⟨e, estimated, _, some, left⟩ := kept_of_round exact positive first more
  obtain ⟨e', estimated', _, _, left'⟩ := kept_of_round exact positive first' more
  obtain rfl : e = e' := Except.ok.inj (estimated.symm.trans estimated')
  have average : (0 : ℚ) ≤ e.examples / (f.examples p o).length := by positivity
  have excess : ((e.total - loose.most : ℕ) : ℚ) ≤ (e.total - tight.most : ℕ) :=
    Nat.cast_le.2 (Nat.sub_le_sub_left larger _)
  have share := Nat.ceil_mono (div_le_div_of_nonneg_right excess average)
  exact left.le.trans ((f.target_antitone _ share).trans left'.ge)

theorem length_lt_of_round {next : PromptOptions} (step : f.Round p o next)
    (more : f.minExamples < (f.examples p o).length) :
    (f.examples p next).length < (f.examples p o).length := by
  obtain ⟨_, _, _, _, left⟩ := kept_of_round exact positive step more
  rw [left, target]
  omega

/-- A round leaves a number of examples when those beyond it, at the average of all, make up for the
excess. -/
theorem le_length_of_round_iff {next : PromptOptions} {count : Nat} {e : Estimate}
    (step : f.Round p o next) (estimated : f.estimate p o = .ok e) (more : f.minExamples < count)
    (above : count < (f.examples p o).length) :
    count ≤ (f.examples p next).length ↔
      (e.total - o.budget.most) * (f.examples p o).length + count * e.examples ≤
        e.examples * (f.examples p o).length := by
  obtain ⟨e', estimated', _, some, left⟩ := kept_of_round exact positive step (more.trans above)
  obtain rfl : e = e' := Except.ok.inj (estimated.symm.trans estimated')
  obtain ⟨gone, apart⟩ := Nat.exists_eq_add_of_lt above
  have share := share_le_iff (e.total - o.budget.most) (gone + 1) some
    (count.zero_le.trans_lt above)
  have goes : count ≤ (f.examples p next).length ↔
      ⌈((e.total - o.budget.most : ℕ) : ℚ) / (e.examples / (f.examples p o).length)⌉₊ ≤
        gone + 1 := by
    rw [left, target]
    omega
  have regroup : (gone + 1) * e.examples + count * e.examples =
      e.examples * (f.examples p o).length := by
    rw [apart]
    ring
  rw [goes, share, ← regroup]
  exact Nat.add_le_add_iff_right.symm

/-- If there is room for one token more than a number of examples needs, then those that pass over
it need more on average. -/
theorem growth_of_round {before after : PromptOptions} {count tokens : Nat} {e : Estimate}
    (step : f.Round p before after) (estimated : f.estimate p before = .ok e)
    (more : f.minExamples < count) (above : count < (f.examples p before).length)
    (below : (f.examples p after).length < count)
    (room : e.total + tokens < before.budget.most + e.examples) :
    (tokens + 1) * (f.examples p before).length < e.examples * count := by
  have excess := Nat.not_le.1
    ((le_length_of_round_iff exact positive step estimated more above).not.1 (Nat.not_le.2 below))
  obtain ⟨e', estimated', exceeded, _⟩ := round?_eq_some.1 step
  obtain rfl : e = e' := Except.ok.inj (estimated.symm.trans estimated')
  have least : e.total - before.budget.most + (tokens + 1) ≤ e.examples := by
    omega
  have scaled := Nat.mul_le_mul_right (f.examples p before).length least
  linarith only [excess, scaled]

/-- Two rounds that pass over a number start from at least three examples more. -/
theorem many_of_rounds {budget : TokenBudget} {start before after : PromptOptions} {count : Nat}
    (steps : Relation.ReflTransGen (f.Round p) (o.withBudget budget) start)
    (first : f.Round p start before) (second : f.Round p before after)
    (more : f.minExamples < count) (above : count < (f.examples p before).length)
    (below : (f.examples p after).length < count) :
    count + 3 ≤ (f.examples p start).length := by
  have steady := steady_of_exact exact positive
  have part := Part.of_steps steady.counts steps
  have part' := Part.of_steps steady.counts (steps.tail first)
  have more' := more.trans above
  have kept : (f.examples p before).length ≤ (f.examples p start).length :=
    (Part.of_steps steady.counts (.single first)).reduced.kept.length_le
  have gone := length_lt_of_round exact positive first (more'.trans_le kept)
  obtain ⟨e, estimated, exceeded, _⟩ := round?_eq_some.1 first
  obtain ⟨e', estimated', exceeded', _⟩ := round?_eq_some.1 second
  have enough := (le_length_of_round_iff exact positive first estimated more' gone).1
    (Nat.le_refl _)
  have short := (le_length_of_round_iff exact positive second estimated' more above).not.1
    (Nat.not_le.2 below)
  have total := part.total_add part' (more'.trans_le kept) more' estimated estimated'
  have fewer := (Part.of_steps steady.counts (.single first)).total_le steady estimated' estimated
  rw [part.reduced.others.2.2] at exceeded enough
  rw [part'.reduced.others.2.2] at exceeded' short
  by_contra close
  have level : (f.examples p before).length = count + 1 := by omega
  have level' : (f.examples p start).length = count + 2 := by omega
  rw [level, level'] at enough
  rw [level] at short
  exact short (two_apart (by omega) (by omega) enough)

/-- The run within a larger budget comes to fewer examples by a later round, from no fewer than the
run within a smaller one keeps. -/
theorem exists_later_round {tight loose : TokenBudget} {last' : PromptOptions}
    (larger : tight.most ≤ loose.most)
    (steps : Relation.ReflTransGen (f.Round p) (o.withBudget tight) last)
    (done : f.round? p last = .ok none)
    (steps' : Relation.ReflTransGen (f.Round p) (o.withBudget loose) last')
    (fewer : (f.examples p last').length < (f.examples p last).length) :
    ∃ before after, Relation.TransGen (f.Round p) (o.withBudget loose) before ∧
      f.Round p before after ∧ (f.examples p last).length ≤ (f.examples p before).length ∧
      (f.examples p after).length < (f.examples p last).length := by
  have counts : f.meter.Counts := (steady_of_exact exact positive).counts
  have part := Part.of_steps counts steps
  have fromAll : (f.examples p last).length ≤ (f.examples p o).length :=
    part.reduced.kept.length_le
  have more := part.more_of_fewer (.of_steps counts steps') fewer
  -- the larger budget is exceeded at first, and so is the smaller one
  obtain rfl | ⟨next', first', rest'⟩ := steps'.cases_head
  · exact absurd fromAll (Nat.not_le.2 fewer)
  obtain rfl | ⟨next, first, rest⟩ := steps.cases_head
  · obtain ⟨e, estimated, fits⟩ := fits_of_more counts part done more
    obtain ⟨e', estimated', exceeded, _⟩ := round?_eq_some.1 first'
    obtain rfl : e = e' := Except.ok.inj (estimated.symm.trans estimated')
    exact absurd (fits.trans larger) (Nat.not_le.2 exceeded)
  have ordered := first_round_mono exact positive larger first first' (more.trans_le fromAll)
  have kept := (Part.of_steps counts rest).reduced.kept.length_le
  obtain ⟨before, after, way, step, above, below⟩ :=
    exists_crossing (P := fun x => (f.examples p last).length ≤ (f.examples p x).length) rest'
      (kept.trans ordered) (Nat.not_le.2 fewer)
  exact ⟨before, after, .head' first' way, step, above, Nat.not_le.1 below⟩

/-- The run within a larger budget keeps fewer examples only by passing over the number that the run
within a smaller one keeps. -/
theorem passesOver_of_fewer {tight loose : TokenBudget} {last' : PromptOptions}
    (larger : tight.most < loose.most)
    (steps : Relation.ReflTransGen (f.Round p) (o.withBudget tight) last)
    (done : f.round? p last = .ok none)
    (steps' : Relation.ReflTransGen (f.Round p) (o.withBudget loose) last')
    (fewer : (f.examples p last').length < (f.examples p last).length) :
    f.PassesOver ratio p (o.withBudget loose) (f.examples p last).length := by
  have counts : f.meter.Counts := (steady_of_exact exact positive).counts
  obtain ⟨before, after, path, step, many, below⟩ :=
    exists_later_round exact positive larger.le steps done steps' fewer
  have part := Part.of_steps counts steps
  have part' := Part.of_steps counts path.to_reflTransGen
  have more := part.more_of_fewer (.of_steps counts steps') fewer
  obtain ⟨e, estimated, fits⟩ := fits_of_more counts part done more
  obtain ⟨e', estimated', exceeded, _⟩ := round?_eq_some.1 step
  have budget : before.budget.most = loose.most :=
    congrArg TokenBudget.most part'.reduced.others.2.2
  rw [budget] at exceeded
  -- with just the number kept the larger budget would be met
  have above := part.length_lt exact part' more many estimated estimated'
    (fits.trans_lt (larger.trans exceeded))
  have total := part.total_add part' more (more.trans above) estimated estimated'
  have growth := growth_of_round exact positive step estimated' more above below
    (by omega : e'.total + e.examples < before.budget.most + e'.examples)
  have start : f.examples p last = (f.examples p before).take (f.examples p last).length :=
    List.prefix_iff_eq_take.1
      (List.prefix_of_prefix_length_le part.reduced.kept part'.reduced.kept many)
  refine ⟨before, after, path, step, below, above, ?_⟩
  rw [← start, ← examples_eq_docTokens exact estimated, ← examples_eq_docTokens exact estimated']
  exact growth

/-- Only a number far below that of all examples is passed over. -/
theorem PassesOver.many {budget : TokenBudget} {count : Nat}
    (passes : f.PassesOver ratio p (o.withBudget budget) count) (more : f.minExamples < count) :
    f.minExamples + 3 < (f.examples p o).length := by
  have counts : f.meter.Counts := (steady_of_exact exact positive).counts
  obtain ⟨before, after, path, second, below, above, _⟩ := passes
  obtain ⟨start, steps, first⟩ := Relation.TransGen.tail'_iff.1 path
  have many := many_of_rounds exact positive steps first second more above below
  have all : (f.examples p start).length ≤ (f.examples p o).length :=
    (Part.of_steps counts steps).reduced.kept.length_le
  omega

end Exact

/-- A run that has passed over a number ends with fewer. -/
theorem PassesOver.fewer {count : Nat} (counts : f.meter.Counts)
    (passes : f.PassesOver ratio p o count) (done : f.round? p last = .ok none)
    (steps : Relation.ReflTransGen (f.Round p) o last) : (f.examples p last).length < count := by
  obtain ⟨before, after, path, step, below, _⟩ := passes
  have rest := steps_of_done done steps (path.tail step).to_reflTransGen
  exact (Part.of_steps counts rest).reduced.kept.length_le.trans_lt below

/-- Where the average does not grow, no number that might be kept is passed over. -/
theorem NoGrowth.not_passesOver {count : Nat} {budget : TokenBudget} (counts : f.meter.Counts)
    (level : f.NoGrowth ratio p o) (more : f.minExamples < count) :
    ¬ f.PassesOver ratio p (o.withBudget budget) count := by
  rintro ⟨before, after, path, _, _, above, growth⟩
  have kept : f.examples p before <+: f.examples p o :=
    (Part.of_steps counts path.to_reflTransGen).reduced.kept
  have start := List.prefix_iff_eq_take.1 kept
  have average := level count (f.examples p before).length more above kept.length_le
  have first : (f.examples p before).take count = (f.examples p o).take count := by
    rw [start, List.take_take, Nat.min_eq_left above.le]
  rw [first] at growth
  rw [← start] at average
  omega

/-- A larger budget keeps no fewer examples, unless a round after the first passes over the number
that the smaller one keeps. -/
theorem exists_builds_kept {f : Frame} {p : Pack} {ratio : ℚ} (exact : f.meter = .exact ratio)
    (positive : 0 < ratio) (negative : Bool) {o : PromptOptions} (all : f.Writable p o)
    {tight loose : Nat} (larger : tight ≤ loose) :
    ∃ first second,
      f.build p negative (o.withBudget { most := tight, autoOptimize := true }) = .ok first ∧
      f.build p negative (o.withBudget { most := loose, autoOptimize := true }) = .ok second ∧
      (f.kept p first ≤ f.kept p second ↔
        ¬ f.PassesOver ratio p (o.withBudget { most := loose, autoOptimize := true })
          (f.kept p first)) ∧
      (f.NoGrowth ratio p o ∨ (f.examples p o).length ≤ f.minExamples + 3 →
        f.kept p first ≤ f.kept p second) := by
  have steady := steady_of_exact exact positive
  obtain ⟨first, _, built, steps, done, _⟩ := exists_build_steps steady negative
    (o := o.withBudget { most := tight, autoOptimize := true }) all rfl
  obtain ⟨second, _, built', steps', done', _⟩ := exists_build_steps steady negative
    (o := o.withBudget { most := loose, autoOptimize := true }) all rfl
  have passes (fewer : f.kept p second < f.kept p first) :
      f.PassesOver ratio p (o.withBudget { most := loose, autoOptimize := true })
        (f.kept p first) := by
    rcases larger.eq_or_lt with rfl | larger
    · cases built.symm.trans built'
      exact absurd fewer (Nat.lt_irrefl _)
    · exact passesOver_of_fewer exact positive larger steps done steps' fewer
  refine ⟨first, second, built, built', ⟨fun kept passed => ?_, fun unpassed => ?_⟩,
    fun level => ?_⟩
  · exact Nat.not_le.2 (passed.fewer steady.counts done' steps') kept
  · exact Nat.not_lt.1 fun fewer => unpassed (passes fewer)
  · refine Nat.not_lt.1 fun fewer => ?_
    have more := (Part.of_steps steady.counts steps).more_of_fewer
      (.of_steps steady.counts steps') fewer
    rcases level with level | few
    · exact level.not_passesOver steady.counts more (passes fewer)
    · exact Nat.not_le.2 ((passes fewer).many exact positive more) few

/-- If all examples can be written, then a larger budget keeps no fewer of them, unless a round after
the first passes over the number that the smaller one keeps. That takes an average that grows with
the number of examples, and at least four examples more than have to be kept. If not all can be
written, then there is no prompt within any budget. -/
theorem kept_le_iff {f : Frame} {ratio : ℚ} (exact : f.meter = .exact ratio) (positive : 0 < ratio)
    (p : Pack) (negative : Bool) (o : PromptOptions) {tight loose : Nat} (larger : tight ≤ loose) :
    (f.Writable p o → ∃ first second,
      f.build p negative (o.withBudget { most := tight, autoOptimize := true }) = .ok first ∧
      f.build p negative (o.withBudget { most := loose, autoOptimize := true }) = .ok second ∧
      (f.kept p first ≤ f.kept p second ↔
        ¬ f.PassesOver ratio p (o.withBudget { most := loose, autoOptimize := true })
          (f.kept p first)) ∧
      (f.NoGrowth ratio p o ∨ (f.examples p o).length ≤ f.minExamples + 3 →
        f.kept p first ≤ f.kept p second)) ∧
    (¬ f.Writable p o → ∀ budget,
      f.build p negative (o.withBudget budget) = .error (.raised .tooManyDigits)) := by
  refine ⟨fun all => exists_builds_kept exact positive negative all larger, ?_⟩
  exact fun unwritten budget => build_of_unwritten (o := o.withBudget budget) unwritten negative

end Frame

theorem length_exampleDocs_singleton (e : Example) :
    (exampleDocs [e]).length = (exampleText e).length := by
  rw [exampleDocs, List.map_cons, List.map_nil, String.intercalate_singleton]

/-- Two lines apart stands what comes next. -/
theorem length_exampleDocs_cons (e next : Example) (rest : List Example) :
    (exampleDocs (e :: next :: rest)).length =
      (exampleText e).length + 2 + (exampleDocs (next :: rest)).length := by
  have separator : "\n\n".length = 2 := by decide
  rw [exampleDocs, List.map_cons, List.map_cons, String.intercalate_cons_cons,
    String.length_append, String.length_append, separator, exampleDocs, List.map_cons]

/-- An example that takes hardly more room than its description. -/
def shortExample (id description : String) : Example where
  id
  name := "A"
  description
  schema := { version := some "1.0", root := .mk { id := "a", type := "A" } none }

theorem length_shortExample (id description : String) :
    (exampleText (shortExample id description)).length = 89 + description.length := by
  have schema : ((shortExample "" "").schema.toJson.written 2).length = 70 := by
    decide
  have frame : "### ".length + "A".length + "\n".length + ("\n".length + ("```json".length +
      "\n".length + ("\n".length + "```".length))) = 19 := by
    decide
  show ("\n".intercalate ["### " ++ "A", description, "```json",
    (shortExample "" "").schema.toJson.written 2, "```"]).length = _
  simp only [String.intercalate_cons_cons, String.intercalate_singleton, String.length_append,
    schema]
  omega

/-- Three short examples. -/
def briefPack : Pack where
  id := "brief"
  name := "Brief"
  components := [{ type := "A" }]
  examples := [shortExample "1" "", shortExample "2" "", shortExample "3" ""]
  colorSchemes := []
  examples_nodup := by simp [shortExample]
  components_nodup := List.nodup_singleton "A"
  colorSchemes_nodup := List.nodup_nil

/-- The first examples of a pack are selected, within a budget. -/
def firstOf (p : Pack) (count most : Nat) : PromptOptions :=
  { themeId := p.id, examples := { maxCount := some count }, budget := { most } }

theorem brief_noGrowth (most : Nat) :
    quarterFrame.NoGrowth (1 / 4) briefPack (firstOf briefPack 3 most) := by
  intro fewer more least apart all
  have least : 1 < fewer := least
  have all : more ≤ 3 := all
  obtain rfl : fewer = 2 := by omega
  obtain rfl : more = 3 := by omega
  have two : (exampleDocs (briefPack.examples.take 2)).length = 180 := by
    simp only [briefPack, List.take, length_exampleDocs_cons, length_exampleDocs_singleton,
      length_shortExample]
    decide
  have three : (exampleDocs (briefPack.examples.take 3)).length = 271 := by
    simp only [briefPack, List.take, length_exampleDocs_cons, length_exampleDocs_singleton,
      length_shortExample]
    decide
  show ⌈((exampleDocs (briefPack.examples.take 3)).length : ℚ) * (1 / 4)⌉₊ * 2 ≤
    (⌈((exampleDocs (briefPack.examples.take 2)).length : ℚ) * (1 / 4)⌉₊ + 1) * 3
  rw [two, three]
  norm_num

def longText : String := String.ofList (List.replicate 2000 'x')

/-- Five examples, of which the third has a long description. -/
def essayPack : Pack where
  id := "essay"
  name := "Essay"
  components := [{ type := "A" }]
  examples :=
    [shortExample "1" "", shortExample "2" "", shortExample "3" longText, shortExample "4" "",
      shortExample "5" ""]
  colorSchemes := []
  examples_nodup := by simp [shortExample]
  components_nodup := List.nodup_singleton "A"
  colorSchemes_nodup := List.nodup_nil

theorem length_essay :
    (exampleDocs (essayPack.examples.take 1)).length = 89 ∧
      (exampleDocs (essayPack.examples.take 2)).length = 180 ∧
      (exampleDocs (essayPack.examples.take 3)).length = 2271 ∧
      (exampleDocs (essayPack.examples.take 5)).length = 2453 := by
  have long : longText.length = 2000 := String.length_ofList.trans List.length_replicate
  simp only [essayPack, List.take, length_exampleDocs_cons, length_exampleDocs_singleton,
    length_shortExample, long]
  decide

/-- With three short examples no budget keeps fewer than a smaller one. -/
theorem brief_kept_le :
    quarterFrame.meter = .exact (1 / 4) ∧ (0 : ℚ) < 1 / 4 ∧ 540 ≤ 560 ∧
      quarterFrame.Writable briefPack (firstOf briefPack 3 0) ∧ ∃ first second,
        quarterFrame.build briefPack true
          ((firstOf briefPack 3 0).withBudget { most := 540, autoOptimize := true }) = .ok first ∧
        quarterFrame.build briefPack true
          ((firstOf briefPack 3 0).withBudget { most := 560, autoOptimize := true }) = .ok second ∧
        quarterFrame.kept briefPack first ≤ quarterFrame.kept briefPack second := by
  have positive : (0 : ℚ) < 1 / 4 := by norm_num
  have all : quarterFrame.Writable briefPack (firstOf briefPack 3 0) := by decide
  obtain ⟨first, second, built, built', _, ordered⟩ :=
    (Frame.kept_le_iff (f := quarterFrame) rfl positive briefPack true (firstOf briefPack 3 0)
      (by decide : 540 ≤ 560)).1 all
  exact ⟨rfl, positive, by decide, all, first, second, built, built',
    ordered (.inl (brief_noGrowth 0))⟩

/-- What the essays take: their examples, one token for the component and the base of a prompt. -/
def essayEstimate (tokens : Nat) : Estimate := { components := 1, examples := tokens, base := 500 }

theorem total_essayEstimate (tokens : Nat) : (essayEstimate tokens).total = tokens + 501 := by
  show 1 + tokens + 0 + 500 = _
  omega

theorem essay_writable (count most : Nat) :
    quarterFrame.Writable essayPack (firstOf essayPack count most) := by
  have all : ∀ e ∈ essayPack.examples, writable e = true := by decide
  exact fun e member => all e (List.mem_of_mem_take member)

theorem essay_estimate {count length tokens : Nat} (most : Nat)
    (docs : (exampleDocs (essayPack.examples.take count)).length = length)
    (rounded : ⌈(length : ℚ) * (1 / 4)⌉₊ = tokens) :
    quarterFrame.estimate essayPack (firstOf essayPack count most) =
      .ok (essayEstimate tokens) := by
  have components : ⌈(("- A".length : ℕ) : ℚ) * (1 / 4)⌉₊ = 1 := by
    decide +kernel
  have colors : ⌈(("".length : ℕ) : ℚ) * (1 / 4)⌉₊ = 0 := by
    decide +kernel
  refine Frame.estimate_eq_ok.2 ⟨essay_writable count most, Sections.estimate_eq_ok.2
    ⟨congrArg Except.ok components, ?_, congrArg Except.ok colors, rfl⟩⟩
  rw [essayEstimate, ← rounded, ← docs]
  rfl

theorem length_firstOf {count : Nat} (all : count ≤ 5) (most : Nat) :
    (quarterFrame.examples essayPack (firstOf essayPack count most)).length = count := by
  show (essayPack.examples.take count).length = count
  exact List.length_take_of_le all

theorem essay_round {count fewer tokens most : Nat} (share : Nat)
    (estimated : quarterFrame.estimate essayPack (firstOf essayPack count most) =
      .ok (essayEstimate tokens))
    (exceeded : most < tokens + 501) (more : 0 < tokens ∧ 1 < count) (all : count ≤ 5)
    (shared : ⌈((tokens + 501 - most : ℕ) : ℚ) / (tokens / count)⌉₊ = share)
    (left : quarterFrame.target count share = fewer) :
    quarterFrame.Round essayPack (firstOf essayPack count most) (firstOf essayPack fewer most) := by
  have total := total_essayEstimate tokens
  have length := length_firstOf all most
  have measured : quarterFrame.meter.share
      ((essayEstimate tokens).total - (firstOf essayPack count most).budget.most)
      (essayEstimate tokens).examples
      (quarterFrame.examples essayPack (firstOf essayPack count most)).length = .ok share := by
    rw [total, length]
    exact congrArg Except.ok shared
  refine Frame.round?_eq_some.2 ⟨_, estimated, total ▸ exceeded, ?_⟩
  rw [Frame.reduce?_of_more (length.symm ▸ more) measured, length, left]
  rfl

/-- A build with some of the essays ends where they fit. -/
theorem essay_kept {count tokens most : Nat} {negative : Bool} {r : Result} (all : count ≤ 5)
    (built : quarterFrame.build essayPack negative (firstOf essayPack 5 most) = .ok r)
    (steps : Relation.ReflTransGen (quarterFrame.Round essayPack) (firstOf essayPack 5 most)
      (firstOf essayPack count most))
    (estimated : quarterFrame.estimate essayPack (firstOf essayPack count most) =
      .ok (essayEstimate tokens))
    (fits : tokens + 501 ≤ most) : quarterFrame.kept essayPack r = count := by
  have done : quarterFrame.round? essayPack (firstOf essayPack count most) = .ok none := by
    unfold Frame.round?
    rw [estimated]
    exact if_neg (Nat.not_lt.2 (total_essayEstimate tokens ▸ fits))
  have positive : (0 : ℚ) < 1 / 4 := by norm_num
  obtain ⟨r', _, built', steps', done', _⟩ := Frame.exists_build_steps (f := quarterFrame)
    (Meter.exact_steady positive) negative (essay_writable 5 most) rfl
  obtain rfl := Except.ok.inj (built'.symm.trans built)
  rw [Frame.kept, Frame.last_unique done steps done' steps']
  exact length_firstOf all most

/-- With 850 tokens the first two essays are kept, with 875 tokens only the first: the third one,
which is long, takes the average so far up that both others go with it. -/
theorem larger_budget_keeps_fewer :
    ¬ ∀ (f : Frame) (ratio : ℚ), f.meter = .exact ratio → 0 < ratio →
      ∀ (p : Pack) (negative : Bool) (o : PromptOptions) (tight loose : Nat), tight ≤ loose →
        ∀ first second,
          f.build p negative (o.withBudget { most := tight, autoOptimize := true }) = .ok first →
          f.build p negative (o.withBudget { most := loose, autoOptimize := true }) = .ok second →
          f.kept p first ≤ f.kept p second := by
  intro all
  have positive : (0 : ℚ) < 1 / 4 := by norm_num
  obtain ⟨one, two, three, five⟩ := length_essay
  have start (most : Nat) : quarterFrame.estimate essayPack (firstOf essayPack 5 most) =
      .ok (essayEstimate 614) := essay_estimate most five (by norm_num)
  have between : quarterFrame.estimate essayPack (firstOf essayPack 3 875) =
      .ok (essayEstimate 568) := essay_estimate 875 three (by norm_num)
  have down : quarterFrame.Round essayPack (firstOf essayPack 5 850) (firstOf essayPack 2 850) :=
    essay_round 3 (start 850) (by decide) (by decide) (by decide) (by norm_num) (by decide)
  have slowly : quarterFrame.Round essayPack (firstOf essayPack 5 875) (firstOf essayPack 3 875) :=
    essay_round 2 (start 875) (by decide) (by decide) (by decide) (by norm_num) (by decide)
  have further : quarterFrame.Round essayPack (firstOf essayPack 3 875) (firstOf essayPack 1 875) :=
    essay_round 2 between (by decide) (by decide) (by decide) (by norm_num) (by decide)
  obtain ⟨first, _, built, _⟩ := Frame.exists_build_steps (f := quarterFrame)
    (Meter.exact_steady positive) true (essay_writable 5 850) rfl
  obtain ⟨second, _, built', _⟩ := Frame.exists_build_steps (f := quarterFrame)
    (Meter.exact_steady positive) true (essay_writable 5 875) rfl
  have pair : quarterFrame.kept essayPack first = 2 :=
    essay_kept (by decide) built (.single down) (essay_estimate 850 two (by norm_num))
      (by decide : 45 + 501 ≤ 850)
  have single : quarterFrame.kept essayPack second = 1 :=
    essay_kept (by decide) built' (.tail (.single slowly) further)
      (essay_estimate 875 one (by norm_num)) (by decide : 23 + 501 ≤ 875)
  have ordered := all quarterFrame (1 / 4) rfl positive essayPack true (firstOf essayPack 5 0)
    850 875 (by decide) first second built built'
  rw [pair, single] at ordered
  exact absurd ordered (by decide)

end Prompt

end UiSchema
