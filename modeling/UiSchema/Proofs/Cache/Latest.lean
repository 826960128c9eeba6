import Mathlib.Data.List.Induction
import UiSchema.Digest
import UiSchema.Proofs.Cache.Run

/-! Where the entries of a cache come from. Whatever was asked of a cache, an entry holds what the
latest set of its key stored, at the moment of that set, and no call has ended it since. -/

set_option autoImplicit false

namespace UiSchema

variable {τ α : Type}

/-- Different keys among these have different slots. -/
def SlotsApart (slotOf : String → String) (keys : List String) : Prop :=
  ∀ a ∈ keys, ∀ b ∈ keys, slotOf a = slotOf b → a = b

instance (slotOf : String → String) (keys : List String) : Decidable (SlotsApart slotOf keys) :=
  inferInstanceAs (Decidable (∀ a ∈ keys, ∀ b ∈ keys, slotOf a = slotOf b → a = b))

theorem SlotsApart.mono {slotOf : String → String} {keys more : List String}
    (apart : SlotsApart slotOf more) (subset : keys ⊆ more) : SlotsApart slotOf keys :=
  fun a member b member' => apart a (subset member) b (subset member')

/-- The slot of a key is a short digest of it. -/
def Cache.digestSlot (key : String) : String := Digest.ofText .xxh64 key (some 16)

namespace CacheCall

def key? : CacheCall τ α → Option String
  | .get key | .set key _ | .contains key | .delete key => some key
  | .clear | .advance _ => none

/-- The call replaces or removes what is held under such keys. -/
def Ends (such : String → Prop) : CacheCall τ α → Prop
  | .set key _ | .delete key => such key
  | .clear => True
  | .get _ | .contains _ | .advance _ => False

theorem Ends.mono {such wider : String → Prop} (into : ∀ key, such key → wider key)
    {call : CacheCall τ α} (ends : call.Ends such) : call.Ends wider := by
  cases call with
  | set key value => exact into key ends
  | delete key => exact into key ends
  | clear => exact ends
  | get | contains | advance => cases ends

/-- Behind a set that nothing ends there is no other one. -/
theorem nil_of_set {such : String → Prop} {key other : String} {value value' : α}
    {after after' more : List (CacheCall τ α)} (since : ∀ call ∈ after, ¬ call.Ends such)
    (named : such other) (same : .set key value :: after = more ++ .set other value' :: after') :
    more = [] ∧ value = value' := by
  cases more with
  | nil =>
    cases same
    exact ⟨rfl, rfl⟩
  | cons first more =>
    obtain ⟨_, rest⟩ := List.cons.inj same
    have later : .set other value' ∈ after := by simp [rest]
    exact absurd named (since _ later)

end CacheCall

namespace CacheState

variable [Add τ] [Sub τ] [LE τ] [DecidableLE τ]

theorem run_append (s : CacheState τ α) (calls more : List (CacheCall τ α)) :
    s.run (calls ++ more) = (s.run calls).run more :=
  List.foldl_append

/-- The latest set of such a key stored the value at that moment, and nothing has ended it since. -/
def LastStored (s : CacheState τ α) (calls : List (CacheCall τ α)) (such : String → Prop)
    (value : α) (moment : τ) : Prop :=
  ∃ before key after, calls = before ++ .set key value :: after ∧ such key ∧
    (s.run before).now = moment ∧ ∀ call ∈ after, ¬ call.Ends such

namespace LastStored

variable {s : CacheState τ α} {calls : List (CacheCall τ α)} {such : String → Prop} {value : α}
  {moment : τ}

theorem here (s : CacheState τ α) (calls : List (CacheCall τ α)) (key : String) (value : α)
    (named : such key) : s.LastStored (calls ++ [.set key value]) such value (s.run calls).now :=
  ⟨calls, key, [], rfl, named, rfl, nofun⟩

theorem later (stored : s.LastStored calls such value moment) {call : CacheCall τ α}
    (kept : ¬ call.Ends such) : s.LastStored (calls ++ [call]) such value moment := by
  obtain ⟨before, key, after, rfl, named, clock, since⟩ := stored
  refine ⟨before, key, after ++ [call], by simp, named, clock, ?_⟩
  exact List.forall_mem_append.2 ⟨since, List.forall_mem_singleton.2 kept⟩

/-- A key with the slot is the key itself, if the slots of the keys are apart. -/
theorem of_slot {slotOf : String → String} {key : String}
    (stored : s.LastStored calls (fun other => slotOf other = slotOf key) value moment)
    (apart : SlotsApart slotOf (key :: calls.filterMap CacheCall.key?)) :
    s.LastStored calls (· = key) value moment := by
  obtain ⟨before, other, after, rfl, same, clock, since⟩ := stored
  have named : other ∈ key :: (before ++ .set other value :: after).filterMap CacheCall.key? := by
    simp [CacheCall.key?]
  refine ⟨before, other, after, rfl, apart other named key List.mem_cons_self same, clock, ?_⟩
  exact fun call member ends => since call member (ends.mono fun _ equal => congrArg slotOf equal)

/-- There is one latest set. -/
theorem unique {value' : α} {moment' : τ} (stored : s.LastStored calls such value moment)
    (stored' : s.LastStored calls such value' moment') : value = value' ∧ moment = moment' := by
  obtain ⟨before, key, after, rfl, named, rfl, since⟩ := stored
  obtain ⟨before', key', after', same, named', rfl, since'⟩ := stored'
  rcases List.append_eq_append_iff.1 same with ⟨more, rfl, rest⟩ | ⟨more, rfl, rest⟩
  · obtain ⟨rfl, values⟩ := CacheCall.nil_of_set since named' rest
    exact ⟨values, by rw [List.append_nil]⟩
  · obtain ⟨rfl, values⟩ := CacheCall.nil_of_set since' named rest
    exact ⟨values.symm, by rw [List.append_nil]⟩

end LastStored

/-- What one call does to an entry: it was there and has not been ended, or it is stored now. -/
theorem mem_step {s : CacheState τ α} {call : CacheCall τ α} {e : CacheEntry τ α}
    (member : e ∈ (s.step call).cache.entries) :
    (e ∈ s.cache.entries ∧ ¬ call.Ends fun key => s.cache.slotOf key = e.slot) ∨
      ∃ key value, call = .set key value ∧ e = ⟨s.cache.slotOf key, value, s.now⟩ := by
  cases call with
  | get key => exact .inl ⟨Cache.mem_get member, nofun⟩
  | set key value =>
    refine (Cache.mem_set member).imp (fun others => ?_) fun new => ⟨key, value, rfl, new⟩
    exact ⟨Cache.mem_of_mem_without others, (Cache.slot_ne_of_mem_without others).symm⟩
  | contains key => exact .inl ⟨member, nofun⟩
  | delete key =>
    exact .inl ⟨Cache.mem_of_mem_without member, (Cache.slot_ne_of_mem_without member).symm⟩
  | clear => cases member
  | advance time => exact .inl ⟨member, nofun⟩

/-- An entry of a cache that was empty at first comes from the latest set of its slot. -/
theorem lastStored_of_mem {s : CacheState τ α} (empty : s.cache.entries = [])
    (calls : List (CacheCall τ α)) {e : CacheEntry τ α} (member : e ∈ (s.run calls).cache.entries) :
    s.LastStored calls (fun key => s.cache.slotOf key = e.slot) e.value e.stored := by
  induction calls using List.reverseRecOn with
  | nil =>
    have none : e ∈ s.cache.entries := member
    rw [empty] at none
    cases none
  | append_singleton calls call ih =>
    rw [run_append] at member
    have slots : (s.run calls).cache.slotOf = s.cache.slotOf := (s.sameSetup_run calls).slotOf
    rcases mem_step member with ⟨held, kept⟩ | ⟨key, value, rfl, rfl⟩
    · rw [slots] at kept
      exact (ih held).later kept
    · exact .here s calls key value (congrFun slots.symm key)

/-- What is held under a key comes from the latest set of its slot. -/
theorem lastStored_of_find? {s : CacheState τ α} (empty : s.cache.entries = [])
    {calls : List (CacheCall τ α)} {key : String} {e : CacheEntry τ α}
    (held : (s.run calls).cache.find? ((s.run calls).cache.slotOf key) = some e) :
    s.LastStored calls (fun other => s.cache.slotOf other = s.cache.slotOf key)
      e.value e.stored := by
  have slot : e.slot = (s.run calls).cache.slotOf key := by simpa using List.find?_some held
  have stored := lastStored_of_mem empty calls (List.mem_of_find?_eq_some held)
  rwa [slot, (s.sameSetup_run calls).slotOf] at stored

end CacheState

end UiSchema
