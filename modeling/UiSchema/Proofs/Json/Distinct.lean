import UiSchema.Proofs.Json.Written

/-! No object of a document that was read has a key twice: where a text gives a key again, the later
value takes the place of the earlier one. -/

set_option autoImplicit false

namespace UiSchema.Json

variable {d : Dialect}

theorem Keyed.put {members : Entries Json} (keyed : (Json.object members).Keyed) (key : String)
    {value : Json} (inside : value.Keyed) : (Json.object (members.put key value)).Keyed := by
  refine ⟨keyed.1.put key value, membersKeyed_iff.2 fun member held => ?_⟩
  rcases Entries.mem_put held with rfl | before
  · exact inside
  · exact membersKeyed_iff.1 keyed.2 member before

/-- There is nothing inside of a bare word. -/
theorem keyed_of_word? {cs : List Char} {value : Json} (read : word? d cs = some value) :
    value.Keyed := by
  unfold word? at read
  repeat' split at read
  · cases read
    trivial
  · cases read
    trivial
  · cases read
    trivial
  · cases read
    trivial
  · cases read
    trivial
  · cases read
    trivial
  · obtain ⟨n, _, same⟩ := Option.bind_eq_some_iff.1 read
    unfold Numeral.toJson? at same
    split at same <;> dsimp only at same <;> split at same <;> cases same <;> trivial

namespace Reading

def KeyedFrame : Frame → Prop
  | .array items => ∀ item ∈ items, item.Keyed
  | .member members _ => (Json.object members).Keyed

/-- No object that is complete, and none that is open, has a key twice. -/
def KeyedSoFar : Reading → Prop
  | .value stack | .firstItem stack | .firstKey stack => ∀ f ∈ stack, KeyedFrame f
  | .key members stack | .colon members _ stack | .next (.object members) stack =>
    (Json.object members).Keyed ∧ ∀ f ∈ stack, KeyedFrame f
  | .next (.array items) stack => (∀ item ∈ items, item.Keyed) ∧ ∀ f ∈ stack, KeyedFrame f
  | .done found => found.Keyed

theorem keyed_noMembers : (Json.object []).Keyed := ⟨List.nodup_nil, trivial⟩

theorem KeyedSoFar.complete {value : Json} (keyed : value.Keyed) {stack : List Frame}
    (frames : ∀ f ∈ stack, KeyedFrame f) : KeyedSoFar (complete value stack) := by
  cases stack with
  | nil => exact keyed
  | cons frame stack =>
    obtain ⟨top, others⟩ := List.forall_mem_cons.1 frames
    cases frame with
    | array items => exact ⟨List.forall_mem_cons.2 ⟨keyed, top⟩, others⟩
    | member members name => exact ⟨Keyed.put top name keyed, others⟩

theorem KeyedSoFar.begin {token : Token} (leaves : ∀ leaf, token = .leaf leaf → leaf.Keyed)
    {stack : List Frame} (frames : ∀ f ∈ stack, KeyedFrame f) {next : Reading}
    (stepped : begin d stack token = .ok next) : KeyedSoFar next := by
  unfold Reading.begin opened at stepped
  split at stepped
  · cases stepped
    exact .complete (leaves _ rfl) frames
  · rename_i content
    cases stepped
    have text : (Json.str content).Keyed := trivial
    exact .complete text frames
  · split at stepped <;> cases stepped
    exact frames
  · split at stepped <;> cases stepped
    exact frames
  · cases stepped
  · cases stepped

theorem KeyedSoFar.step {reading next : Reading} (keyed : KeyedSoFar reading) {token : Token}
    (leaves : ∀ leaf, token = .leaf leaf → leaf.Keyed)
    (stepped : reading.step d token = .ok next) : KeyedSoFar next := by
  unfold Reading.step at stepped
  split at stepped
  case h_1 => exact .begin leaves keyed stepped
  case h_2 =>
    cases stepped
    have noItems : (Json.array []).Keyed := trivial
    exact .complete noItems keyed
  case h_3 =>
    have frames : ∀ f ∈ Frame.array [] :: _, KeyedFrame f :=
      List.forall_mem_cons.2 ⟨List.forall_mem_nil _, keyed⟩
    exact .begin leaves frames stepped
  case h_4 =>
    cases stepped
    exact .complete keyed_noMembers keyed
  case h_5 =>
    cases stepped
    exact ⟨keyed_noMembers, keyed⟩
  case h_6 =>
    cases stepped
    exact keyed
  case h_7 =>
    cases stepped
    exact List.forall_mem_cons.2 ⟨keyed.1, keyed.2⟩
  case h_8 items stack =>
    cases stepped
    have top : KeyedFrame (.array items) := keyed.1
    exact List.forall_mem_cons.2 ⟨top, keyed.2⟩
  case h_9 items stack =>
    cases stepped
    have inside : (Json.array items.reverse).Keyed :=
      itemsKeyed_iff.2 fun item member => keyed.1 item (List.mem_reverse.1 member)
    exact .complete inside keyed.2
  case h_10 =>
    cases stepped
    exact keyed
  case h_11 members stack =>
    cases stepped
    have inside : (Json.object members).Keyed := keyed.1
    exact .complete inside keyed.2
  case h_12 => cases stepped

theorem KeyedSoFar.run {reading last : Reading} (keyed : KeyedSoFar reading) {tokens : List Token}
    (leaves : ∀ leaf, .leaf leaf ∈ tokens → leaf.Keyed)
    (ended : reading.run d tokens = .ok last) : KeyedSoFar last := by
  induction tokens generalizing reading with
  | nil =>
    cases ended
    exact keyed
  | cons token rest ih =>
    rw [Reading.run] at ended
    cases stepped : reading.step d token with
    | error cause =>
      rw [stepped] at ended
      cases ended
    | ok next =>
      rw [stepped] at ended
      have first := keyed.step (fun leaf same => leaves leaf (same ▸ List.mem_cons_self)) stepped
      exact ih first (fun leaf member => leaves leaf (List.mem_cons_of_mem _ member)) ended

end Reading

theorem keyed_of_readChars {cs : List Char} {value : Json} (read : readChars d cs = .ok value) :
    value.Keyed := by
  unfold readChars at read
  cases ended : Reading.run d (.value []) (tokens d cs) with
  | error cause =>
    rw [ended] at read
    cases read
  | ok last =>
    rw [ended] at read
    have start : Reading.KeyedSoFar (.value []) := nofun
    have keyed := start.run (fun leaf member => by
      obtain ⟨run, word⟩ := Scan.word_of_leaf (Scan.source_tokens _ member)
      exact keyed_of_word? word) ended
    cases last with
    | done found =>
      cases read
      exact keyed
    | _ => cases read

end UiSchema.Json
