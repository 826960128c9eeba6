import Mathlib.Algebra.Order.Group.Int
import UiSchema.Proofs.Cache.Latest

/-! The counts of a cache. Over every run each look-up is counted once, and the entries that came in
are those that were evicted, those that were taken away and those that are left. A value that is
found is the one stored last, and it is younger than the lifetime. -/

set_option autoImplicit false

namespace UiSchema

variable {τ α : Type}

def CacheCall.isGet : CacheCall τ α → Bool
  | .get _ => true
  | _ => false

namespace Cache

variable {c : Cache τ α}

/-- Leaving out the entry of a key makes a difference of one, if it is held. -/
theorem Sound.length_without_key (sound : c.Sound) (key : String) :
    (c.without (c.slotOf key)).length + (c.contains key).toNat = c.length := by
  unfold contains length
  cases held : c.find? (c.slotOf key) with
  | none =>
    rw [without_eq_self held]
    rfl
  | some e =>
    obtain ⟨member, slot⟩ := sound.find?_eq_some.1 held
    rw [← slot]
    exact sound.length_without member

/-- Storing adds an entry to those of the other keys, and one that has to go for it is counted. -/
theorem Sound.evicted_add_kept (sound : c.Sound) (now : τ) (key : String) (value : α) :
    (c.set now key value).evictions + (c.set now key value).length =
      c.evictions + ((c.without (c.slotOf key)).length + 1) := by
  have all : (c.stored now key value).length = (c.without (c.slotOf key)).length + 1 := by
    simp [stored]
  rw [set_eq sound]
  simp only [length, withEntries, newest, List.length_drop]
  omega

end Cache

namespace CacheState

variable [Add τ] [Sub τ]

section Counts

variable [LE τ] [DecidableLE τ]

/-- The amounts that the calls of a run come to, each in the state it meets. -/
def total (amount : CacheState τ α → CacheCall τ α → Nat) (s : CacheState τ α) :
    List (CacheCall τ α) → Nat
  | [] => 0
  | call :: rest => amount s call + total amount (s.step call) rest

/-- One for a set of a key that is not held. -/
def inserted (s : CacheState τ α) : CacheCall τ α → Nat
  | .set key _ => (!s.cache.contains key).toNat
  | _ => 0

/-- The entries that a call takes away: the one of a deleted key, a stale one that is asked for, or
all of them. -/
def removed (s : CacheState τ α) : CacheCall τ α → Nat
  | .delete key => (s.cache.contains key).toNat
  | .get key => (s.cache.stale s.now key).toNat
  | .clear => s.cache.length
  | _ => 0

variable {s : CacheState τ α}

theorem lookups_step (s : CacheState τ α) (call : CacheCall τ α) :
    (s.step call).cache.hits + (s.step call).cache.misses =
      s.cache.hits + s.cache.misses + call.isGet.toNat := by
  cases call with
  | get key =>
    have counted := s.cache.get_eq s.now key
    dsimp only [step, CacheCall.isGet] at counted ⊢
    rw [counted]
    cases s.cache.live? s.now (s.cache.slotOf key) with
    | none => simp [Nat.add_assoc]
    | some e => simp [Nat.add_right_comm]
  | set key value =>
    show (s.cache.set s.now key value).hits + (s.cache.set s.now key value).misses = _
    unfold Cache.set
    dsimp only
    split <;> rfl
  | contains key => rfl
  | delete key => rfl
  | clear => rfl
  | advance time => rfl

/-- One call keeps the balance of what came in, what went and what is left. -/
theorem balance_step (sound : s.cache.Sound) (call : CacheCall τ α) :
    (s.step call).cache.evictions + removed s call + (s.step call).cache.length =
      s.cache.evictions + s.cache.length + inserted s call := by
  cases call with
  | get key =>
    have kept := sound.length_without_key key
    have found := s.cache.found_add_stale s.now key
    have counted := s.cache.get_eq s.now key
    dsimp only [step, removed, inserted, Cache.length] at counted kept ⊢
    rw [counted]
    simp only [List.length_append]
    omega
  | set key value =>
    have kept := sound.length_without_key key
    have evicted := sound.evicted_add_kept s.now key value
    have one : (!s.cache.contains key).toNat + (s.cache.contains key).toNat = 1 := by
      cases s.cache.contains key <;> rfl
    dsimp only [step, removed, inserted]
    omega
  | contains key => exact Nat.add_right_comm ..
  | delete key =>
    have kept := sound.length_without_key key
    show s.cache.evictions + (s.cache.contains key).toNat +
      (s.cache.without (s.cache.slotOf key)).length = s.cache.evictions + s.cache.length + 0
    omega
  | clear => rfl
  | advance time => exact Nat.add_right_comm ..

theorem lookups_run (s : CacheState τ α) (calls : List (CacheCall τ α)) :
    (s.run calls).cache.hits + (s.run calls).cache.misses =
      s.cache.hits + s.cache.misses + calls.countP CacheCall.isGet := by
  induction calls generalizing s with
  | nil => rfl
  | cons call rest ih =>
    have first := s.lookups_step call
    have others := ih (s.step call)
    have counted : (call :: rest).countP CacheCall.isGet =
        rest.countP CacheCall.isGet + call.isGet.toNat := by
      rw [List.countP_cons]
      cases call.isGet <;> rfl
    show ((s.step call).run rest).cache.hits + ((s.step call).run rest).cache.misses = _
    omega

theorem balance_run (sound : s.cache.Sound) (calls : List (CacheCall τ α)) :
    (s.run calls).cache.evictions + total removed s calls + (s.run calls).cache.length =
      s.cache.evictions + s.cache.length + total inserted s calls := by
  induction calls generalizing s with
  | nil => exact Nat.add_right_comm ..
  | cons call rest ih =>
    have first := balance_step sound call
    have others := ih (sound_step sound call)
    show ((s.step call).run rest).cache.evictions + (removed s call + total removed _ rest) +
      ((s.step call).run rest).cache.length = _ + (inserted s call + total inserted _ rest)
    omega

end Counts

variable [LinearOrder τ]

/-- The state of a cache agrees with what was asked of it. -/
structure Accounted (capacity : Int) (s : CacheState τ α) (calls : List (CacheCall τ α)) :
    Prop where
  distinct : ((s.run calls).cache.entries.map (·.slot)).Nodup
  counted : (s.run calls).cache.size = (s.run calls).cache.length
  bounded : ((s.run calls).cache.size : Int) ≤ capacity
  lookups : (s.run calls).cache.hits + (s.run calls).cache.misses = calls.countP CacheCall.isGet
  evictions : (s.run calls).cache.evictions + total removed s calls + (s.run calls).cache.size =
    total inserted s calls

/-- The latest set of the key stored the value, nothing has ended it since, and less than a
lifetime has passed. -/
def Current (lifetime : Option τ) (s : CacheState τ α) (calls : List (CacheCall τ α))
    (key : String) (value : α) : Prop :=
  ∃ moment, s.LastStored calls (· = key) value moment ∧
    ∀ limit, lifetime = some limit → (s.run calls).now - moment < limit

theorem current_of_get {s : CacheState τ α} (empty : s.cache.entries = [])
    {calls : List (CacheCall τ α)} {key : String} {value : α}
    (apart : SlotsApart s.cache.slotOf (key :: calls.filterMap CacheCall.key?))
    (found : ((s.run calls).cache.get (s.run calls).now key).1 = some value) :
    Current s.cache.lifetime s calls key value := by
  rw [Cache.get_eq] at found
  obtain ⟨e, live, rfl⟩ := Option.map_eq_some_iff.1 found
  obtain ⟨held, young⟩ := Option.filter_eq_some_iff.1 live
  refine ⟨e.stored, (lastStored_of_find? empty held).of_slot apart, fun limit given => ?_⟩
  rw [← (s.sameSetup_run calls).lifetime] at given
  refine lt_of_not_ge fun past => ?_
  have expired := Cache.expired_iff.2 ⟨limit, given, past⟩
  simp [expired] at young

/-- Whatever is asked of a cache, its entries and its counts are accounted for, and what it finds is
current. -/
theorem runs_accounted {n : Int} (positive : 1 ≤ n) (lifetime : Option τ)
    (slotOf : String → String) :
    ∃ fresh : Cache τ α, Cache.empty? n lifetime slotOf = some fresh ∧
      ∀ (start : τ) (calls : List (CacheCall τ α)),
        Accounted n ⟨start, fresh⟩ calls ∧
        ∀ key value, SlotsApart slotOf (key :: calls.filterMap CacheCall.key?) →
          ((run ⟨start, fresh⟩ calls).cache.get (run ⟨start, fresh⟩ calls).now key).1 = some value →
          Current lifetime ⟨start, fresh⟩ calls key value := by
  obtain ⟨fresh, made, new⟩ := Cache.exists_fresh (α := α) positive lifetime slotOf
  refine ⟨fresh, made, fun start calls => ⟨?_, fun key value apart found => ?_⟩⟩
  · have sound : (run ⟨start, fresh⟩ calls).cache.Sound := sound_run new.sound calls
    have lookups := lookups_run ⟨start, fresh⟩ calls
    have balance := balance_run (s := ⟨start, fresh⟩) new.sound calls
    have room := (sameSetup_run ⟨start, fresh⟩ calls).capacity
    have counted : (run ⟨start, fresh⟩ calls).cache.size =
        (run ⟨start, fresh⟩ calls).cache.length := sound.counted
    have nothing : fresh.length = 0 := by
      rw [Cache.length, new.entries]
      rfl
    exact
      { distinct := sound.distinct
        counted
        bounded := by
          have within := sound.bounded
          have full := new.capacity
          rw [sound.counted]
          dsimp only at room
          omega
        lookups := by simpa [new.hits, new.misses] using lookups
        evictions := by
          rw [counted]
          simpa [new.evictions, nothing] using balance }
  · rw [← new.slotOf] at apart
    rw [← new.lifetime]
    exact current_of_get (s := ⟨start, fresh⟩) new.entries apart found

/-- An entry that is cleared, one that is overwritten, one that is evicted, one that is stale when it
is asked for, and one that is deleted. -/
def ledgerCalls : List (CacheCall Int String) :=
  [.set "d" "0", .clear, .set "a" "1", .set "b" "2", .set "a" "3", .advance 3, .set "c" "4",
   .get "a", .get "b", .advance 2, .get "a", .contains "c", .delete "c", .set "d" "5", .advance 4]

theorem ledger_accounted :
    (1 : Int) ≤ 2 ∧ SlotsApart Cache.digestSlot ("d" :: ledgerCalls.filterMap CacheCall.key?) ∧
      ∃ fresh : Cache Int String, Cache.empty? 2 (some 5) Cache.digestSlot = some fresh ∧
        (run ⟨0, fresh⟩ ledgerCalls).cache.evictions = 1 ∧
        total removed ⟨0, fresh⟩ ledgerCalls = 3 ∧ total inserted ⟨0, fresh⟩ ledgerCalls = 5 ∧
        Accounted 2 ⟨0, fresh⟩ ledgerCalls ∧
        ((run ⟨0, fresh⟩ ledgerCalls).cache.get (run ⟨0, fresh⟩ ledgerCalls).now "d").1 =
          some "5" ∧
        Current (some 5) ⟨0, fresh⟩ ledgerCalls "d" "5" := by
  have apart : SlotsApart Cache.digestSlot ("d" :: ledgerCalls.filterMap CacheCall.key?) := by
    decide +kernel
  obtain ⟨fresh, made, accounted⟩ :=
    runs_accounted (n := 2) (τ := Int) (α := String) (by decide) (some 5) Cache.digestSlot
  obtain ⟨balanced, current⟩ := accounted 0 ledgerCalls
  have found : ((run ⟨0, fresh⟩ ledgerCalls).cache.get (run ⟨0, fresh⟩ ledgerCalls).now "d").1 =
      some "5" := by
    cases made
    decide +kernel
  refine ⟨by decide, apart, fresh, made, ?_, ?_, ?_, balanced, found, current "d" "5" apart found⟩
  all_goals
    cases made
    decide +kernel

end CacheState

end UiSchema
