import Mathlib.Data.List.Nodup
import UiSchema.Prompt.Builder
import UiSchema.Proofs.Decimal.PositiveProduct

/-! Prompts that are made smaller until they fit their budget. One round leaves out the last
examples, or the colors when no more examples may go; rounds end because each leaves less to leave
out. -/

set_option autoImplicit false

namespace UiSchema

/-- A text that is not empty takes a token or more, whatever the ratio. -/
theorem estimateTokens_pos {length : Nat} {ratio : Float} {tokens : Int} (nonempty : 0 < length)
    (positive : 0 < ratio) (estimated : estimateTokens length ratio = .ok tokens) : 0 < tokens := by
  obtain ⟨bits, sign⟩ := Decimal.zero_lt_mul_bits nonempty positive
  unfold estimateTokens roundUp at estimated
  rw [if_neg (by omega)] at estimated
  split at estimated
  case h_1 whole rounded =>
    cases estimated
    exact Binary64.ceil?_pos bits sign rounded
  case h_2 => cases estimated

/-- No product rounded up is refused but one that is not finite. -/
theorem roundUp_eq_error {x : Float} {cause : RoundingError} (refused : roundUp x = .error cause) :
    (Binary64.ofFloat x).isFinite = false := by
  unfold roundUp at refused
  split at refused
  case h_1 => cases refused
  case h_2 none =>
    cases decoded : Binary64.ofFloat x with
    | finite negative mantissa exponent =>
      rw [decoded] at none
      cases exponent <;> cases none
    | infinite negative => rfl
    | nan => rfl

namespace Meter

variable {ratio : Float} {length : Nat}

theorem ofRatio_eq_ok {tokens : Nat} (counted : (ofRatio ratio).tokens length = .ok tokens) :
    ∃ whole, estimateTokens length ratio = .ok whole ∧ tokens = whole.toNat := by
  unfold ofRatio at counted
  cases estimated : estimateTokens length ratio with
  | error cause => simp [estimated, Except.map] at counted
  | ok whole =>
    simp only [estimated, Except.map] at counted
    exact ⟨whole, rfl, (Except.ok.inj counted).symm⟩

/-- No text is free unless it is empty. -/
def Counts (m : Meter) : Prop :=
  ∀ {length tokens : Nat}, 0 < length → m.tokens length = .ok tokens → 0 < tokens

theorem ofRatio_counts (positive : 0 < ratio) : (ofRatio ratio).Counts := by
  intro length tokens nonempty counted
  obtain ⟨whole, rounded, same⟩ := ofRatio_eq_ok counted
  have := estimateTokens_pos nonempty positive rounded
  omega

theorem ofRatio_eq_error {cause : RoundingError}
    (refused : (ofRatio ratio).tokens length = .error cause) :
    (Binary64.ofFloat (Float.ofNat length * ratio)).isFinite = false := by
  unfold ofRatio estimateTokens at refused
  dsimp only at refused
  split at refused
  · cases refused
  · cases rounded : roundUp (Float.ofNat length * ratio) with
    | error cause' => exact roundUp_eq_error rounded
    | ok whole => simp [rounded, Except.map] at refused

theorem ofText_eq_error {text : String} {cause : RoundingError}
    (refused : estimateTokens text.length ratio = .error cause) :
    (ofRatio ratio).ofText text = .error cause := by
  unfold ofText ofRatio
  simp only [refused, Except.map]

theorem floatShare_eq_error {excess tokens count : Nat} {cause : RoundingError}
    (refused : floatShare excess tokens count = .error cause) :
    (Binary64.ofFloat (Float.ofNat excess / (Float.ofNat tokens / Float.ofNat count))).isFinite =
      false := by
  unfold floatShare at refused
  dsimp only at refused
  cases rounded : roundUp (Float.ofNat excess / (Float.ofNat tokens / Float.ofNat count)) with
  | error cause' => exact roundUp_eq_error rounded
  | ok whole => simp [rounded, Except.map] at refused

end Meter

namespace Prompt

theorem exampleDocs_length_pos {examples : List Example} (some : examples ≠ []) :
    0 < (exampleDocs examples).length := by
  obtain ⟨first, rest, rfl⟩ := List.exists_cons_of_ne_nil some
  -- the heading of the first example is there even if its text is empty
  have heading : 0 < (exampleText first).length := by
    unfold exampleText
    rw [String.intercalate_cons_cons]
    simp only [String.length_append]
    exact Nat.add_pos_left (Nat.add_pos_left (Nat.add_pos_left (by decide) _) _) _
  unfold exampleDocs
  rw [List.map_cons]
  cases rest.map exampleText with
  | nil => simpa using heading
  | cons second others =>
    rw [String.intercalate_cons_cons]
    simp only [String.length_append]
    omega

/-- Each section is measured for itself, and one that cannot be measured is the reason for refusing
them all. -/
theorem Sections.estimate_cases (s : Sections) (meter : Meter) (base : Nat) :
    (∃ e, s.estimate meter base = .ok e ∧ meter.ofText s.examples = .ok e.examples) ∨
      ∃ cause, s.estimate meter base = .error cause ∧
        ∃ text ∈ [s.components, s.examples, s.colors], meter.ofText text = .error cause := by
  unfold Sections.estimate
  cases components : meter.ofText s.components with
  | error cause => exact .inr ⟨cause, rfl, s.components, by simp, components⟩
  | ok first =>
    cases examples : meter.ofText s.examples with
    | error cause => exact .inr ⟨cause, rfl, s.examples, by simp, examples⟩
    | ok second =>
      cases colors : meter.ofText s.colors with
      | error cause => exact .inr ⟨cause, rfl, s.colors, by simp, colors⟩
      | ok third => exact .inl ⟨_, rfl, rfl⟩

namespace Frame

variable {f : Frame} {p : Pack} {ratio : Float}

/-- What may have changed after some rounds: the last examples have gone, down to the least number,
and then the colors. -/
structure Reduced (f : Frame) (p : Pack) (o last : PromptOptions) : Prop where
  kept : f.examples p last <+: f.examples p o
  floor : min f.minExamples (f.examples p o).length ≤ (f.examples p last).length
  colors : o.colors.included = true → last.colors.included = false →
    (f.examples p last).length ≤ f.minExamples
  others : last.themeId = o.themeId ∧ last.components = o.components ∧ last.budget = o.budget

theorem Reduced.refl (o : PromptOptions) : f.Reduced p o o where
  kept := List.prefix_rfl
  floor := Nat.min_le_right _ _
  colors := fun included excluded => by simp [included] at excluded
  others := ⟨rfl, rfl, rfl⟩

theorem Reduced.trans {o next last : PromptOptions} (first : f.Reduced p o next)
    (second : f.Reduced p next last) : f.Reduced p o last where
  kept := second.kept.trans first.kept
  floor := by
    have := first.floor
    have := second.floor
    omega
  colors := by
    intro included excluded
    -- whichever rounds took the colors, no example has come back since
    cases between : next.colors.included with
    | true => exact second.colors between excluded
    | false => exact second.kept.length_le.trans (first.colors included between)
  others := by
    obtain ⟨theme, components, budget⟩ := first.others
    obtain ⟨theme', components', budget'⟩ := second.others
    exact ⟨theme'.trans theme, components'.trans components, budget'.trans budget⟩

/-- Every example that the options select can be written. -/
def Writable (f : Frame) (p : Pack) (o : PromptOptions) : Prop :=
  ∀ e ∈ f.examples p o, writable e = true

instance (f : Frame) (p : Pack) (o : PromptOptions) : Decidable (f.Writable p o) :=
  inferInstanceAs (Decidable (∀ e ∈ f.examples p o, writable e = true))

theorem Reduced.writable {o last : PromptOptions} (reduced : f.Reduced p o last)
    (all : f.Writable p o) : f.Writable p last :=
  fun e member => all e (reduced.kept.subset member)

theorem estimate_eq_ok {o : PromptOptions} {e : Estimate} :
    f.estimate p o = .ok e ↔
      f.Writable p o ∧ (f.sections p o).estimate f.meter f.basePromptTokens = .ok e := by
  rw [Frame.estimate, Writable, ← List.all_eq_true]
  split
  · rename_i all
    cases (f.sections p o).estimate f.meter f.basePromptTokens <;> simp [Except.mapError, all]
  · rename_i unwritten
    exact iff_of_false nofun fun both => unwritten both.1

theorem estimate_eq_error {o : PromptOptions} {cause : PromptError} :
    f.estimate p o = .error cause ↔
      ¬ f.Writable p o ∧ cause = .raised .tooManyDigits ∨
        f.Writable p o ∧ ∃ rounding, cause = .rounding rounding ∧
          (f.sections p o).estimate f.meter f.basePromptTokens = .error rounding := by
  rw [Frame.estimate, Writable, ← List.all_eq_true]
  split
  · rename_i all
    cases (f.sections p o).estimate f.meter f.basePromptTokens <;>
      simp [Except.mapError, all, eq_comm]
  · rename_i unwritten
    simp [unwritten, eq_comm]

/-- Examples that are there take some tokens, so that an average can be taken. -/
theorem examples_pos (counts : f.meter.Counts) {o : PromptOptions} {e : Estimate}
    (estimated : f.estimate p o = .ok e) (some : f.examples p o ≠ []) : 0 < e.examples := by
  have docs : 0 < (f.sections p o).examples.length := exampleDocs_length_pos some
  rcases (f.sections p o).estimate_cases f.meter f.basePromptTokens with
    ⟨e', estimated', tokens⟩ | ⟨cause, refused, _⟩
  · obtain rfl := Except.ok.inj ((estimate_eq_ok.1 estimated).2.symm.trans estimated')
    exact counts docs tokens
  · cases (estimate_eq_ok.1 estimated).2.symm.trans refused

/-- When no example may go, there are not more than the least number. -/
theorem examples_length_le (counts : f.meter.Counts) {o : PromptOptions} {e : Estimate}
    (estimated : f.estimate p o = .ok e)
    (enough : ¬(0 < e.examples ∧ f.minExamples < (f.examples p o).length)) :
    (f.examples p o).length ≤ f.minExamples := by
  by_contra more
  refine enough ⟨examples_pos counts estimated ?_, by omega⟩
  intro none
  simp [none] at more

theorem Reduced.of_round? (counts : f.meter.Counts) {o smaller : PromptOptions}
    (next : f.round? p o = .ok (some smaller)) : f.Reduced p o smaller := by
  obtain ⟨e, estimated, exceeded, reduced⟩ := round?_eq_some.1 next
  rcases reduce?_eq_some reduced with ⟨target, least, fewer, rfl⟩ | ⟨enough, included, rfl⟩
  · have left := f.examples_keepExamples p o (Nat.le_of_lt fewer)
    refine ⟨?_, ?_, ?_, rfl, rfl, rfl⟩
    · rw [left]
      exact List.take_prefix _ _
    · rw [left, List.length_take]
      omega
    · intro included excluded
      have same : (f.keepExamples p o target).colors = o.colors := rfl
      simp [same, included] at excluded
  · have same : f.examples p (withoutColors o) = f.examples p o := rfl
    refine ⟨List.prefix_rfl, by rw [same]; omega, fun _ _ => ?_, rfl, rfl, rfl⟩
    rw [same]
    -- more examples than the least number take tokens, and would go before the colors
    exact examples_length_le counts estimated enough

/-- What keeps a prompt from being measured: an example that cannot be written, or a section, or the
share of an excess, whose size is not a finite floating-point number. -/
inductive Unmeasured (f : Frame) (ratio : Float) (p : Pack) (o : PromptOptions) : Prop where
  | unwritten (e : Example) (selected : e ∈ f.examples p o) (long : writable e = false)
  | size (text : String)
      (part : text ∈ [(f.sections p o).components, (f.sections p o).examples,
        (f.sections p o).colors])
      (overflow : (Binary64.ofFloat (Float.ofNat text.length * ratio)).isFinite = false)
  | share (e : Estimate) (estimated : f.estimate p o = .ok e) (exceeded : o.budget.most < e.total)
      (overflow : (Binary64.ofFloat (Float.ofNat (e.total - o.budget.most) /
        (Float.ofNat e.examples / Float.ofNat (f.examples p o).length))).isFinite = false)

theorem unmeasured_of_round? (measured : f.meter = .ofRatio ratio) {o : PromptOptions}
    {cause : PromptError} (refused : f.round? p o = .error cause) : f.Unmeasured ratio p o := by
  unfold round? at refused
  cases estimated : f.estimate p o with
  | error cause' =>
    rcases estimate_eq_error.1 estimated with ⟨unwritten, _⟩ | ⟨_, rounding, _, refused'⟩
    · obtain ⟨e, selected, long⟩ : ∃ e ∈ f.examples p o, ¬ writable e = true := by
        simpa [Writable] using unwritten
      exact .unwritten e selected (Bool.eq_false_iff.2 long)
    · rcases (f.sections p o).estimate_cases f.meter f.basePromptTokens with
        ⟨e, measurable, _⟩ | ⟨_, _, text, part, unmeasured⟩
      · cases refused'.symm.trans measurable
      · rw [measured] at unmeasured
        exact .size text part (Meter.ofRatio_eq_error unmeasured)
  | ok e =>
    simp only [estimated] at refused
    split at refused
    case isTrue exceeded =>
      unfold reduce? at refused
      dsimp only at refused
      split at refused
      case isTrue more =>
        rw [measured] at refused
        split at refused
        case h_1 cause' unshared =>
          exact .share e estimated exceeded (Meter.floatShare_eq_error unshared)
        case h_2 => cases refused
      case isFalse => cases refused
    case isFalse => cases refused

/-- All is left out that may be: the colors, and the examples beyond the least number. -/
def Exhausted (f : Frame) (p : Pack) (o : PromptOptions) : Prop :=
  (f.examples p o).length ≤ f.minExamples ∧ o.colors.included = false

theorem fits_or_exhausted_of_counts (counts : f.meter.Counts) {o : PromptOptions}
    (done : f.round? p o = .ok none) :
    ∃ e, f.estimate p o = .ok e ∧ (e.total ≤ o.budget.most ∨ f.Exhausted p o) := by
  unfold round? at done
  cases estimated : f.estimate p o with
  | error cause => simp [estimated] at done
  | ok e =>
    refine ⟨e, rfl, ?_⟩
    simp only [estimated] at done
    split at done
    case isFalse fits => exact .inl (Nat.le_of_not_lt fits)
    case isTrue exceeded =>
      -- over the budget and no step left: none for the examples and none for the colors
      refine .inr ?_
      unfold reduce? at done
      dsimp only at done
      split at done
      case isTrue more => split at done <;> cases done
      case isFalse enough =>
        split at done
        case isTrue => cases done
        case isFalse excluded =>
          exact ⟨examples_length_le counts estimated enough, by simpa using excluded⟩

theorem exists_reduced_shrink_of_counts (counts : f.meter.Counts) (o : PromptOptions) :
    ∃ last, f.Reduced p o last ∧
      (f.shrink p o = .ok last ∧ f.round? p last = .ok none ∨
        ∃ cause, f.shrink p o = .error cause ∧ f.round? p last = .error cause) := by
  fun_induction shrink with
  | case1 o cause refused => exact ⟨o, .refl o, .inr ⟨cause, rfl, refused⟩⟩
  | case2 o done => exact ⟨o, .refl o, .inl ⟨rfl, done⟩⟩
  | case3 o smaller next ih =>
    obtain ⟨last, reduced, ends⟩ := ih
    exact ⟨last, (Reduced.of_round? counts next).trans reduced, ends⟩

section Ratio

variable (measured : f.meter = .ofRatio ratio) (positive : 0 < ratio)

include measured positive

theorem fits_or_exhausted {o : PromptOptions} (done : f.round? p o = .ok none) :
    ∃ e, f.estimate p o = .ok e ∧ (e.total ≤ o.budget.most ∨ f.Exhausted p o) :=
  fits_or_exhausted_of_counts (measured ▸ Meter.ofRatio_counts positive) done

theorem exists_reduced_shrink (o : PromptOptions) :
    ∃ last, f.Reduced p o last ∧
      (f.shrink p o = .ok last ∧ f.round? p last = .ok none ∨
        ∃ cause, f.shrink p o = .error cause ∧ f.round? p last = .error cause) :=
  exists_reduced_shrink_of_counts (measured ▸ Meter.ofRatio_counts positive) o

end Ratio

theorem shrink_of_next {o smaller : PromptOptions} (next : f.round? p o = .ok (some smaller)) :
    f.shrink p o = f.shrink p smaller := by
  rw [shrink]
  split
  case h_1 refused => cases next.symm.trans refused
  case h_2 done => cases next.symm.trans done
  case h_3 next' =>
    cases next.symm.trans next'
    rfl

theorem shrink_of_done {o : PromptOptions} (done : f.round? p o = .ok none) :
    f.shrink p o = .ok o := by
  rw [shrink]
  split
  case h_1 refused => cases done.symm.trans refused
  case h_2 => rfl
  case h_3 next => cases done.symm.trans next

theorem shrink_of_refused {o : PromptOptions} {cause : PromptError}
    (refused : f.round? p o = .error cause) : f.shrink p o = .error cause := by
  rw [shrink]
  split
  case h_1 refused' =>
    cases refused.symm.trans refused'
    rfl
  case h_2 done => cases refused.symm.trans done
  case h_3 next => cases refused.symm.trans next

/-- The prompt with options that are not made smaller. -/
def text (f : Frame) (p : Pack) (negative : Bool) (o : PromptOptions) : String :=
  match p.promptsFor? f.language with
  | some texts => assemble texts (f.sections p o) negative
  | none => ""

theorem build_eq_ok {negative : Bool} {o : PromptOptions} {r : Result} :
    f.build p negative o = .ok r ↔ ∃ last e, f.fit p o = .ok last ∧ f.estimate p last = .ok e ∧
      { prompt := f.text p negative last
        tokenCount := e.total
        breakdown := e
        optimized := last ≠ o
        withinBudget := e.total ≤ last.budget.most
        options := last } = r := by
  unfold build
  cases f.fit p o with
  | error cause => simp [bind, Except.bind]
  | ok last =>
    cases estimated : f.estimate p last with
    | error cause => simp [bind, Except.bind, estimated]
    | ok e =>
      simp only [bind, Except.bind, estimated]
      constructor
      · intro built
        exact ⟨last, e, rfl, estimated, Except.ok.inj built⟩
      · rintro ⟨_, _, ⟨⟩, same, rfl⟩
        cases estimated.symm.trans same
        rfl

/-- The size in a result is the estimate for the options that it was built with. -/
theorem exists_build {o last : PromptOptions} {e : Estimate} (fitted : f.fit p o = .ok last)
    (estimated : f.estimate p last = .ok e) (negative : Bool) :
    ∃ r, f.build p negative o = .ok r ∧ r.options = last ∧ r.tokenCount = e.total :=
  ⟨_, build_eq_ok.2 ⟨last, e, fitted, estimated, rfl⟩, rfl, rfl⟩

/-- What cannot be measured in the first place is not made smaller. -/
theorem build_eq_error {o : PromptOptions} {cause : PromptError}
    (refused : f.estimate p o = .error cause) (negative : Bool) :
    f.build p negative o = .error cause := by
  have round : f.round? p o = .error cause := by
    unfold round?
    rw [refused]
  unfold build fit
  by_cases auto : o.budget.autoOptimize = true
  · rw [if_pos auto, shrink_of_refused round]
    rfl
  · rw [if_neg auto]
    simp only [bind, Except.bind, refused]

theorem build_of_unwritten {o : PromptOptions} (unwritten : ¬ f.Writable p o) (negative : Bool) :
    f.build p negative o = .error (.raised .tooManyDigits) :=
  build_eq_error (estimate_eq_error.2 (.inl ⟨unwritten, rfl⟩)) negative

/-- With automatic budgets a prompt is made smaller step by step, and the steps end: with a prompt
that fits the budget or has all left out that may be, or with one that cannot be measured. -/
theorem build_fits_or_exhausted (settings : Settings) (language : String) (p : Pack)
    (negative : Bool) (o : PromptOptions) (positive : 0 < settings.tokensPerChar language)
    (auto : o.budget.autoOptimize = true) :
    ∃ last, (Frame.of settings language).Reduced p o last ∧
      ((∃ r e, (Frame.of settings language).build p negative o = .ok r ∧ r.options = last ∧
          (Frame.of settings language).estimate p last = .ok e ∧ r.tokenCount = e.total ∧
          (r.tokenCount ≤ o.budget.most ∨ (Frame.of settings language).Exhausted p last)) ∨
        (∃ cause, (Frame.of settings language).build p negative o = .error cause) ∧
          (Frame.of settings language).Unmeasured (settings.tokensPerChar language) p last) := by
  have measured : (Frame.of settings language).meter = .ofRatio (settings.tokensPerChar language) :=
    rfl
  generalize Frame.of settings language = f at measured ⊢
  have fit : f.fit p o = f.shrink p o := if_pos auto
  obtain ⟨last, reduced, ⟨shrunk, done⟩ | ⟨cause, refused, reason⟩⟩ :=
    exists_reduced_shrink (p := p) measured positive o
  · obtain ⟨e, estimated, enough⟩ := fits_or_exhausted measured positive done
    obtain ⟨r, built, options, tokens⟩ := exists_build (fit.trans shrunk) estimated negative
    refine ⟨last, reduced, .inl ⟨r, e, built, options, estimated, tokens, ?_⟩⟩
    rw [tokens, ← reduced.others.2.2]
    exact enough
  · refine ⟨last, reduced, .inr ⟨⟨cause, ?_⟩, unmeasured_of_round? measured reason⟩⟩
    unfold build
    rw [fit, refused]
    rfl

end Frame

def galleryExample (id : String) : Example where
  id := id
  name := id
  schema := { root := .mk { id := "a", type := "A" } none }

/-- A pack with three examples and a color scheme. -/
def galleryPack : Pack where
  id := "gallery"
  name := "Gallery"
  components := [{ type := "A" }]
  examples := ["one", "two", "three"].map galleryExample
  colorSchemes := [{ id := "light", name := "Light", colors := [("ink", "black")] }]
  components_nodup := List.nodup_singleton "A"

def galleryOptions (shown : Option Nat) : PromptOptions :=
  { themeId := "gallery", examples := { maxCount := shown }, budget := { most := 560 } }

/-- The last example goes, and then there is room for the colors. -/
theorem fit_gallery :
    (Frame.of {} "en").fit galleryPack (galleryOptions none) = .ok (galleryOptions (some 2)) := by
  have first : (Frame.of {} "en").round? galleryPack (galleryOptions none) =
      .ok (some (galleryOptions (some 2))) := by decide +kernel
  have second : (Frame.of {} "en").round? galleryPack (galleryOptions (some 2)) = .ok none := by
    decide +kernel
  exact (if_pos rfl).trans ((Frame.shrink_of_next first).trans (Frame.shrink_of_done second))

/-- Two of the three examples are kept, with the colors. -/
theorem gallery_fits :
    0 < ({} : Settings).tokensPerChar "en" ∧ (galleryOptions none).budget.autoOptimize = true ∧
      ∃ r, (Frame.of {} "en").build galleryPack true (galleryOptions none) = .ok r ∧
        (Frame.of {} "en").Reduced galleryPack (galleryOptions none) r.options ∧
        (Frame.of {} "en").examples galleryPack r.options = ["one", "two"].map galleryExample ∧
        r.options.colors.included = true ∧ r.tokenCount ≤ 560 := by
  have positive : 0 < ({} : Settings).tokensPerChar "en" := by decide
  refine ⟨positive, rfl, ?_⟩
  have estimated : (Frame.of {} "en").estimate galleryPack (galleryOptions (some 2)) =
      .ok { components := 1, examples := 46, colors := 9, base := 500 } := by decide +kernel
  obtain ⟨built, made, options, -⟩ := Frame.exists_build fit_gallery estimated true
  obtain ⟨last, reduced, ⟨r, e, same, rfl, -, -, enough⟩ | ⟨⟨cause, refused⟩, -⟩⟩ :=
    Frame.build_fits_or_exhausted {} "en" galleryPack true (galleryOptions none) positive rfl
  · cases made.symm.trans same
    refine ⟨built, made, options ▸ reduced, options ▸ rfl, options ▸ rfl, ?_⟩
    rw [options] at enough
    -- two examples are more than have to be kept
    exact enough.resolve_right fun exhausted => absurd exhausted.1 (by decide)
  · cases made.symm.trans refused

/-- A pack with one type of component. -/
def plainPack : Pack where
  id := "plain"
  name := "Plain"
  components := [{ type := "A" }]
  examples := []
  colorSchemes := []
  examples_nodup := List.nodup_nil
  components_nodup := List.nodup_singleton "A"
  colorSchemes_nodup := List.nodup_nil

def tightOptions : PromptOptions := { themeId := "plain", budget := { most := 100 } }

/-- A positive ratio with which three characters take more tokens than any number of 64 bits. -/
def steepSettings : Settings := { tokensPerCharEn := 1e308 }

/-- The ratio is positive, and yet there is no prompt. -/
theorem steep_ratio_without_prompt :
    0 < steepSettings.tokensPerChar "en" ∧ tightOptions.budget.autoOptimize = true ∧
      (Frame.of steepSettings "en").build plainPack true tightOptions =
        .error (.rounding .infinite) := by
  have positive : 0 < steepSettings.tokensPerChar "en" := by decide +kernel
  refine ⟨positive, rfl, ?_⟩
  apply Frame.build_eq_error
  -- three times the ratio is beyond the numbers of 64 bits
  have overflow : estimateTokens
      ((Frame.of steepSettings "en").sections plainPack tightOptions).components.length
        (steepSettings.tokensPerChar "en") = .error .infinite := by
    decide +kernel
  have first : (Frame.of steepSettings "en").meter.ofText
      ((Frame.of steepSettings "en").sections plainPack tightOptions).components =
        .error .infinite :=
    Meter.ofText_eq_error overflow
  refine Frame.estimate_eq_error.2 (.inr ⟨nofun, .infinite, rfl, ?_⟩)
  unfold Sections.estimate
  rw [first]
  rfl

end Prompt

end UiSchema
