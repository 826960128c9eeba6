import UiSchema.Proofs.Json.Bracketed
import UiSchema.Proofs.Json.Fence

/-! Where the candidates of a text stand: one behind the other, each of them where it says. A bare
one is a span of the text, character by character, and no span of a text without fenced candidates
begins outside of the bare ones. -/

set_option autoImplicit false

namespace UiSchema.Json.Block

variable {Takes : Block → List Char → Prop} {position skip : Nat} {cs here behind : List Char}
  {block : Block} {blocks : List Block}

/-- The blocks that one pass over a text finds, which begins at the position: a character is passed
over, or a block takes characters of the text, and the pass goes on behind them. -/
inductive Found (Takes : Block → List Char → Prop) : Nat → List Char → List Block → Prop where
  | done {position : Nat} : Found Takes position [] []
  | pass {position : Nat} {c : Char} {cs : List Char} {blocks : List Block}
    (others : Found Takes (position + 1) cs blocks) : Found Takes position (c :: cs) blocks
  | take {position : Nat} {here behind : List Char} {block : Block} {blocks : List Block}
    (start : block.start = position) (stop : block.stop = position + here.length)
    (nonempty : here ≠ []) (takes : Takes block here)
    (others : Found Takes (position + here.length) behind blocks) :
    Found Takes position (here ++ behind) (block :: blocks)

namespace Found

theorem pass_all (others : Found Takes (position + here.length) behind blocks) :
    Found Takes position (here ++ behind) blocks := by
  induction here generalizing position with
  | nil => exact others
  | cons c here ih =>
    refine .pass (ih ?_)
    rwa [Nat.add_assoc, Nat.add_comm 1]

theorem drop_cons {c : Char} (others : Found Takes (position + 1 + skip) (cs.drop skip) blocks) :
    Found Takes (position + (skip + 1)) ((c :: cs).drop (skip + 1)) blocks := by
  rwa [Nat.add_assoc, Nat.add_comm 1] at others

/-- When the other characters of what was taken are skipped, the pass goes on behind it. -/
theorem behind_taken {c : Char} (same : c :: cs = here ++ behind) (nonempty : here ≠ [])
    (others : Found Takes (position + 1 + (here.length - 1)) (cs.drop (here.length - 1)) blocks) :
    Found Takes (position + here.length) behind blocks := by
  have further := others.drop_cons (c := c)
  rwa [Nat.sub_add_cancel (List.length_pos_iff.2 nonempty), same, List.drop_left] at further

/-- A block stands where it says. -/
theorem stands (found : Found Takes position cs blocks) (member : block ∈ blocks) :
    ∃ before here behind, cs = before ++ (here ++ behind) ∧ here ≠ [] ∧ Takes block here ∧
      block.start = position + before.length ∧ block.stop = block.start + here.length := by
  induction found with
  | done => cases member
  | @pass position c _ _ _ ih =>
    obtain ⟨before, here, behind, rfl, nonempty, takes, start, stop⟩ := ih member
    refine ⟨c :: before, here, behind, rfl, nonempty, takes, ?_, stop⟩
    rw [start, List.length_cons, Nat.add_assoc, Nat.add_comm 1]
  | @take position here behind block _ start stop nonempty takes _ ih =>
    rcases List.mem_cons.1 member with rfl | later
    · exact ⟨[], here, behind, rfl, nonempty, takes, start, by rw [stop, start]⟩
    · obtain ⟨before, here', behind, rfl, nonempty, takes, start, stop⟩ := ih later
      refine ⟨here ++ before, here', behind, by simp, nonempty, takes, ?_, stop⟩
      rw [start, List.length_append, Nat.add_assoc]

/-- No block begins before the one in front of it ends. -/
theorem ordered (found : Found Takes position cs blocks) :
    blocks.Pairwise fun first second =>
      first.start < first.stop ∧ first.stop ≤ second.start := by
  induction found with
  | done => exact .nil
  | pass _ ih => exact ih
  | take start stop nonempty _ others ih =>
    refine .cons (fun later member => ?_) ih
    obtain ⟨before, _, _, _, _, _, start', _⟩ := others.stands member
    have := List.length_pos_iff.2 nonempty
    omega

end Found

/-! ### The two passes -/

/-- A fenced block takes up a fence, from its opening ticks to its closing ones. -/
def TakesFence (block : Block) (here : List Char) : Prop :=
  block.kind ≠ .raw ∧ ticks <+: here ∧ ticks <:+ here

/-- A bare block takes up a span, and holds it as it is. -/
def TakesSpan (block : Block) (here : List Char) : Prop :=
  block.kind = .raw ∧ block.content.toList = here ∧ IsSpan here

theorem ofFence?_eq_some {start : Nat} {fence : Fence} (found : ofFence? start fence = some block) :
    block.kind ≠ .raw ∧ block.start = start ∧ block.stop = start + fence.length := by
  unfold ofFence? at found
  dsimp only at found
  split at found
  · cases found
  · split at found
    · cases found
      exact ⟨nofun, rfl, rfl⟩
    · split at found <;> cases found
      exact ⟨nofun, rfl, rfl⟩

/-- The characters of a fence. -/
theorem fence?_takes {fence : Fence} (found : fence? cs = some fence) :
    ∃ here behind, cs = here ++ behind ∧ here.length = fence.length ∧
      ticks <+: here ∧ ticks <:+ here := by
  obtain ⟨line, rest, more, rfl, ⟨front, rfl, -⟩, rfl, length⟩ := fence?_eq_some found
  refine ⟨ticks ++ (front ++ (fence.body ++ ticks)), more, by simp, ?_, ⟨_, rfl⟩, ?_⟩
  · simp only [List.length_append] at length ⊢
    omega
  · exact ⟨ticks ++ (front ++ fence.body), by simp⟩

theorem fencedFrom_found (position skip : Nat) (cs : List Char) :
    Found TakesFence (position + skip) (cs.drop skip) (fencedFrom position skip cs) := by
  induction cs generalizing position skip with
  | nil => simpa [fencedFrom] using Found.done
  | cons c rest ih =>
    cases skip with
    | succ skip => exact .drop_cons (ih (position + 1) skip)
    | zero =>
      rw [fencedFrom]
      cases opens : fence? (c :: rest) with
      | none => exact .pass (ih (position + 1) 0)
      | some fence =>
        obtain ⟨here, behind, same, length, isFence⟩ := fence?_takes opens
        have nonempty : here ≠ [] := isFence.1.ne_nil (by decide)
        have further := Found.behind_taken same nonempty (ih (position + 1) _)
        rw [Nat.add_zero, List.drop_zero, same]
        dsimp only
        rw [← length]
        -- the fence is passed over as a whole, unless it holds a candidate
        cases candidate : ofFence? position fence with
        | none => exact .pass_all further
        | some block =>
          obtain ⟨notRaw, start, stop⟩ := ofFence?_eq_some candidate
          rw [← length] at stop
          exact .take start stop nonempty ⟨notRaw, isFence⟩ further

theorem rawFrom_found (position skip : Nat) (cs : List Char) :
    Found TakesSpan (position + skip) (cs.drop skip) (rawFrom position skip cs) := by
  induction cs generalizing position skip with
  | nil => simpa [rawFrom] using Found.done
  | cons c rest ih =>
    cases skip with
    | succ skip => exact .drop_cons (ih (position + 1) skip)
    | zero =>
      rw [rawFrom]
      cases spanned : span? (c :: rest) with
      | none => exact .pass (ih (position + 1) 0)
      | some n =>
        obtain ⟨here, behind, same, rfl, isSpan⟩ := span?_eq_some_iff.1 spanned
        have nonempty : here ≠ [] := by
          obtain ⟨_, _, rfl, -⟩ := isSpan.exists_cons
          exact List.cons_ne_nil _ _
        have further := Found.behind_taken same nonempty (ih (position + 1) _)
        rw [Nat.add_zero, List.drop_zero, same]
        dsimp only
        rw [List.take_left]
        exact .take rfl rfl nonempty ⟨rfl, String.toList_ofList, isSpan⟩ further

/-- The position is one of the block's. -/
def Covers (block : Block) (position : Nat) : Prop :=
  block.start ≤ position ∧ position < block.stop

/-- No span is overlooked: where one begins, a block begins or has not ended yet. -/
theorem rawFrom_covers {before span behind : List Char} (whole : cs = before ++ (span ++ behind))
    (isSpan : IsSpan span) (position : Nat) (skipped : skip ≤ before.length) :
    ∃ block ∈ rawFrom position skip cs, block.Covers (position + before.length) := by
  induction cs generalizing before position skip with
  | nil =>
    obtain ⟨_, _, rfl, -⟩ := isSpan.exists_cons
    simp at whole
  | cons c rest ih =>
    cases before with
    | nil =>
      cases Nat.le_zero.1 skipped
      have here : span? (c :: rest) = some span.length :=
        span?_eq_some_iff.2 ⟨span, behind, whole, rfl, isSpan⟩
      obtain ⟨_, _, rfl, -⟩ := isSpan.exists_cons
      rw [rawFrom, here]
      exact ⟨_, List.mem_cons_self, Nat.le_refl _, Nat.lt_add_of_pos_right (Nat.succ_pos _)⟩
    | cons _ before =>
      have whole := (List.cons.inj whole).2
      have later {skip : Nat} (skipped : skip ≤ before.length) :
          ∃ block ∈ rawFrom (position + 1) skip rest,
            block.Covers (position + (before.length + 1)) := by
        obtain ⟨block, member, covers⟩ := ih whole (position + 1) skipped
        rw [Nat.add_assoc, Nat.add_comm 1] at covers
        exact ⟨block, member, covers⟩
      cases skip with
      | succ skip => exact later (Nat.le_of_succ_le_succ skipped)
      | zero =>
        rw [rawFrom]
        cases spanned : span? (c :: rest) with
        | none => exact later (Nat.zero_le _)
        | some n =>
          -- the span begins in the block that is found here, or behind it
          rcases Nat.lt_or_ge (before.length + 1) n with inside | past
          · exact ⟨_, List.mem_cons_self, Nat.le_add_right _ _, Nat.add_lt_add_left inside _⟩
          · obtain ⟨block, member, covers⟩ := later (Nat.sub_le_of_le_add past)
            exact ⟨block, List.mem_cons_of_mem _ member, covers⟩

/-! ### The blocks of a text -/

/-- Candidates that stand in a text where they say they do. -/
structure WellPlaced (cs : List Char) (blocks : List Block) : Prop where
  /-- Fenced and bare blocks do not mix. -/
  alike : (∀ block ∈ blocks, block.kind ≠ .raw) ∨ ∀ block ∈ blocks, block.kind = .raw
  within : ∀ block ∈ blocks, block.start < block.stop ∧ block.stop ≤ cs.length
  rising : blocks.Pairwise fun first second => first.start < second.start
  disjoint : blocks.Pairwise fun first second => ∀ position,
    ¬ (first.Covers position ∧ second.Covers position)
  /-- A fenced block reaches from its opening ticks to its closing ones. -/
  fences : ∀ block ∈ blocks, block.kind ≠ .raw →
    ticks <+: cs.extract block.start block.stop ∧ ticks <:+ cs.extract block.start block.stop
  /-- A bare block holds what stands in the text there: a bracket, its partner and what is between. -/
  spans : ∀ block ∈ blocks, block.kind = .raw →
    block.content.toList = cs.extract block.start block.stop ∧ IsSpan block.content.toList
  /-- Where the blocks are not fenced, no span begins outside of them. -/
  complete : (∀ block ∈ blocks, block.kind = .raw) → ∀ before span behind,
    cs = before ++ (span ++ behind) → IsSpan span → ∃ block ∈ blocks, block.Covers before.length

namespace Found

variable (found : Found Takes 0 cs blocks)

include found

theorem within (member : block ∈ blocks) : block.start < block.stop ∧ block.stop ≤ cs.length := by
  obtain ⟨before, here, behind, rfl, nonempty, -, start, stop⟩ := found.stands member
  have := List.length_pos_iff.2 nonempty
  simp only [List.length_append]
  omega

theorem takes_extract (member : block ∈ blocks) :
    Takes block (cs.extract block.start block.stop) := by
  obtain ⟨before, here, behind, rfl, -, takes, start, stop⟩ := found.stands member
  rwa [List.extract, stop, Nat.add_sub_cancel_left, start, Nat.zero_add, List.drop_left,
    List.take_left]

theorem rising : blocks.Pairwise fun first second => first.start < second.start :=
  found.ordered.imp fun ⟨nonempty, before⟩ => Nat.lt_of_lt_of_le nonempty before

theorem disjoint : blocks.Pairwise fun first second => ∀ position,
    ¬ (first.Covers position ∧ second.Covers position) :=
  found.ordered.imp fun ⟨_, before⟩ _ ⟨inFirst, inSecond⟩ =>
    Nat.not_lt.2 (Nat.le_trans before inSecond.1) inFirst.2

end Found

/-- The candidates of a text are all fenced or all bare, stand in it one behind the other, and if they
are bare then they are its spans. -/
theorem blocks_wellPlaced (text : String) : WellPlaced text.toList (Json.blocks text) := by
  have inFences : Found TakesFence 0 text.toList (fenced text.toList) := fencedFrom_found 0 0 _
  have bare : Found TakesSpan 0 text.toList (raw text.toList) := rawFrom_found 0 0 _
  unfold Json.blocks
  split
  · have isRaw (block) (member : block ∈ raw text.toList) : block.kind = .raw :=
      (bare.takes_extract member).1
    exact
      { alike := .inr isRaw
        within := fun _ => bare.within
        rising := bare.rising
        disjoint := bare.disjoint
        fences := fun block member notRaw => absurd (isRaw block member) notRaw
        spans := fun block member _ => by
          obtain ⟨-, content, isSpan⟩ := bare.takes_extract member
          exact ⟨content, content.symm ▸ isSpan⟩
        complete := fun _ before span behind whole isSpan => by
          obtain ⟨block, member, covers⟩ := rawFrom_covers whole isSpan 0 (Nat.zero_le _)
          rw [Nat.zero_add] at covers
          exact ⟨block, member, covers⟩ }
  · rename_i nonempty
    have notRaw (block) (member : block ∈ fenced text.toList) : block.kind ≠ .raw :=
      (inFences.takes_extract member).1
    exact
      { alike := .inl notRaw
        within := fun _ => inFences.within
        rising := inFences.rising
        disjoint := inFences.disjoint
        fences := fun block member _ => (inFences.takes_extract member).2
        spans := fun block member isRaw => absurd isRaw (notRaw block member)
        complete := fun allRaw => by
          obtain ⟨block, member⟩ := List.exists_mem_of_ne_nil _ nonempty
          exact absurd (allRaw block member) (notRaw block member) }

/-- Neither the bracket whose closing one does not fit nor the object without a colon is a span; what
is quoted does not count. -/
example : Json.blocks "[\x7d \x7b1\x7d \x7b\"]\": [0]\x7d" =
    [{ content := "\x7b\"]\": [0]\x7d", kind := .raw, start := 7, stop := 17 }] := by
  decide

end UiSchema.Json.Block
