import Mathlib.Data.List.Dedup
import Mathlib.Data.List.DropRight
import UiSchema.Proofs.Cache.Latest

/-! Which keys a cache without a lifetime holds. Over every run of sets, gets and membership tests
they are the keys used last, as many as there is room for, in the order of their last uses, and each
has the value of its last set. -/

set_option autoImplicit false

namespace UiSchema

variable {τ α : Type}

/-- The keys used last, as many as there is room for, each once. The one used last comes last. -/
def recent (room : Nat) (uses : List String) : List String := uses.dedup.rtake room

theorem recent_nil (room : Nat) : recent room [] = [] := by
  rw [recent, List.dedup_nil, List.rtake_nil]

theorem nodup_recent (room : Nat) (uses : List String) : (recent room uses).Nodup :=
  uses.nodup_dedup.sublist (List.drop_sublist ..)

theorem recent_subset (room : Nat) (uses : List String) : recent room uses ⊆ uses :=
  fun _ member => List.mem_dedup.1 (List.mem_of_mem_drop member)

/-- A key that is used again moves to the end. -/
theorem dedup_concat (uses : List String) (key : String) :
    (uses ++ [key]).dedup = uses.dedup.erase key ++ [key] := by
  induction uses with
  | nil => rfl
  | cons first uses ih =>
    by_cases again : first ∈ uses
    · rw [List.cons_append, List.dedup_cons_of_mem (List.mem_append_left _ again),
        List.dedup_cons_of_mem again, ih]
    · rw [List.cons_append, List.dedup_cons_of_notMem again]
      by_cases same : first = key
      · subst same
        have absent : first ∉ uses.dedup := fun member => again (List.mem_dedup.1 member)
        rw [List.dedup_cons_of_mem (by simp), ih, List.erase_cons_head,
          List.erase_of_not_mem absent]
      · have fresh : first ∉ uses ++ [key] := by simp [again, same]
        rw [List.dedup_cons_of_notMem fresh, ih, List.erase_cons_tail (by simpa using same)]
        rfl

theorem rtake_append_of_le {room : Nat} {front back : List String} (full : room ≤ back.length) :
    (front ++ back).rtake room = back.rtake room := by
  have more : (front ++ back).length - room = front.length + (back.length - room) := by
    rw [List.length_append]
    omega
  rw [List.rtake, more, ← List.drop_drop, List.drop_left]
  rfl

/-- To know the recent keys after one more use, it is enough to know them before it. -/
theorem recent_concat (room : Nat) (uses : List String) (key : String) :
    recent room (uses ++ [key]) = ((recent room uses).erase key ++ [key]).rtake room := by
  have split : uses.dedup = uses.dedup.take (uses.dedup.length - room) ++ recent room uses :=
    (List.take_append_drop ..).symm
  rw [recent, dedup_concat]
  by_cases all : uses.dedup.length ≤ room
  · have whole : recent room uses = uses.dedup := by
      rw [recent, List.rtake, Nat.sub_eq_zero_of_le all, List.drop_zero]
    rw [whole]
  -- the recent keys fill the room, so nothing in front of them comes back
  · have full : (recent room uses).length = room := by
      rw [recent, List.rtake, List.length_drop]
      omega
    have few := List.le_length_erase (a := key) (l := recent room uses)
    have filled : room ≤ ((recent room uses).erase key ++ [key]).length := by
      rw [List.length_append, List.length_singleton]
      omega
    have distinct := uses.nodup_dedup
    rw [split, List.nodup_append] at distinct
    rw [split, List.erase_append]
    split
    · rename_i inFront
      have absent : key ∉ recent room uses := fun member => distinct.2.2 key inFront key member rfl
      rw [List.erase_of_not_mem absent] at filled ⊢
      rw [List.append_assoc, rtake_append_of_le filled]
    · rw [List.append_assoc, rtake_append_of_le filled]

example : recent 2 ["a", "b", "c", "a"] = ["c", "a"] := by decide

namespace Cache

variable {c : Cache τ α}

/-- The entries are those of the keys, in their order. -/
def Holds (c : Cache τ α) (keys : List String) : Prop :=
  c.entries.map (·.slot) = keys.map c.slotOf

theorem Holds.without {keys : List String} (holds : c.Holds keys) (distinct : keys.Nodup)
    {key : String} (apart : SlotsApart c.slotOf (key :: keys)) :
    (c.without (c.slotOf key)).map (·.slot) = (keys.erase key).map c.slotOf := by
  have others : ∀ other ∈ keys, (c.slotOf other != c.slotOf key) = (other != key) := by
    intro other member
    rw [Bool.eq_iff_iff, bne_iff_ne, bne_iff_ne, not_iff_not]
    exact ⟨apart other (List.mem_cons_of_mem _ member) key List.mem_cons_self, congrArg c.slotOf⟩
  have filtered : (c.entries.filter fun e => e.slot != c.slotOf key).map (·.slot) =
      (c.entries.map (·.slot)).filter (· != c.slotOf key) := by
    rw [List.filter_map]
    rfl
  rw [Cache.without, filtered, holds, List.filter_map, distinct.erase_eq_filter]
  exact congrArg (List.map c.slotOf) (List.filter_congr others)

/-- A key is held if it is one of the keys. -/
theorem Holds.contains_iff {keys : List String} (holds : c.Holds keys) {key : String}
    (apart : SlotsApart c.slotOf (key :: keys)) : c.contains key = true ↔ key ∈ keys := by
  have slots : c.slotOf key ∈ c.entries.map (·.slot) ↔ key ∈ keys := by
    rw [holds, List.mem_map]
    constructor
    · rintro ⟨other, member, same⟩
      rwa [← apart other (List.mem_cons_of_mem _ member) key List.mem_cons_self same]
    · exact fun member => ⟨key, member, rfl⟩
  rw [← slots, contains, find?, List.find?_isSome, List.mem_map]
  simp

/-- After the uses of the past, and without a lifetime, the cache holds the recent keys. -/
structure Mirrors (c : Cache τ α) (past : List String) : Prop where
  sound : c.Sound
  forever : c.lifetime = none
  holds : c.Holds (recent c.capacity past)

namespace Mirrors

variable {past : List String} {key : String}

/-- The entries with one for the key at the end. -/
theorem slots_used (mirrors : c.Mirrors past) (apart : SlotsApart c.slotOf (key :: past))
    {e : CacheEntry τ α} (slot : e.slot = c.slotOf key) :
    (c.without (c.slotOf key) ++ [e]).map (·.slot) =
      ((recent c.capacity past).erase key ++ [key]).map c.slotOf := by
  have kept := apart.mono (List.cons_subset_cons key (recent_subset c.capacity past))
  rw [List.map_append, List.map_append, mirrors.holds.without (nodup_recent ..) kept]
  simp [slot]

theorem of_setup {d : Cache τ α} (mirrors : c.Mirrors past) (setup : c.SameSetup d) (sound : d.Sound)
    {now : List String}
    (holds : d.entries.map (·.slot) = (recent c.capacity now).map c.slotOf) : d.Mirrors now := by
  refine ⟨sound, setup.lifetime.trans mirrors.forever, ?_⟩
  rw [Holds, setup.slotOf, setup.capacity]
  exact holds

theorem set (mirrors : c.Mirrors past) (apart : SlotsApart c.slotOf (key :: past)) (now : τ)
    (value : α) : (c.set now key value).Mirrors (past ++ [key]) := by
  refine mirrors.of_setup (c.sameSetup_set now key value) (mirrors.sound.set now key value) ?_
  have stored : (c.stored now key value).map (·.slot) =
      ((recent c.capacity past).erase key ++ [key]).map c.slotOf :=
    mirrors.slots_used apart rfl
  have lengths := congrArg List.length stored
  rw [List.length_map, List.length_map] at lengths
  rw [set_eq mirrors.sound, recent_concat, List.rtake, ← lengths, List.map_drop, ← stored,
    ← List.map_drop]
  rfl

section Get

variable [Sub τ] [LE τ] [DecidableLE τ]

/-- Without a lifetime what is held is found. -/
theorem live?_eq (mirrors : c.Mirrors past) (now : τ) (slot : String) :
    c.live? now slot = c.find? slot := by
  unfold live?
  cases c.find? slot with
  | none => rfl
  | some e => simp [expired, mirrors.forever]

theorem hit (mirrors : c.Mirrors past) (apart : SlotsApart c.slotOf (key :: past)) {now : τ}
    {e : CacheEntry τ α} (live : c.live? now (c.slotOf key) = some e) :
    (c.get now key).2.Mirrors (past ++ [key]) := by
  have sound := mirrors.sound.get now key
  refine mirrors.of_setup (c.sameSetup_get now key) sound ?_
  have entries : (c.get now key).2.entries = c.without (c.slotOf key) ++ [e] := by
    rw [get_eq, live]
    rfl
  have renewed := mirrors.slots_used apart (slot_of_live? live)
  -- the key was among the recent ones, so there is room for them all
  have few : ((recent c.capacity past).erase key ++ [key]).length ≤ c.capacity := by
    rw [← List.length_map (f := c.slotOf), ← renewed, List.length_map, ← entries,
      ← (c.sameSetup_get now key).capacity]
    exact sound.bounded
  rw [entries, renewed, recent_concat, List.rtake, Nat.sub_eq_zero_of_le few, List.drop_zero]

/-- A look-up that finds nothing changes only the count of them. -/
theorem entries_of_miss (mirrors : c.Mirrors past) {now : τ}
    (live : c.live? now (c.slotOf key) = none) : (c.get now key).2.entries = c.entries := by
  have absent : c.find? (c.slotOf key) = none := (mirrors.live?_eq now _).symm.trans live
  rw [get_eq, live]
  simp [without_eq_self absent]

theorem miss (mirrors : c.Mirrors past) {now : τ} (live : c.live? now (c.slotOf key) = none) :
    (c.get now key).2.Mirrors past := by
  refine mirrors.of_setup (c.sameSetup_get now key) (mirrors.sound.get now key) ?_
  rw [mirrors.entries_of_miss live]
  exact mirrors.holds

end Get

end Mirrors

end Cache

/-- The call takes nothing away on its own. -/
def CacheCall.Keeps : CacheCall τ α → Prop
  | .delete _ | .clear => False
  | _ => True

namespace CacheState

variable [Sub τ] [LE τ] [DecidableLE τ]

/-- The key that a call uses: a set uses its key, and a get does where it finds it. -/
def use? (s : CacheState τ α) : CacheCall τ α → Option String
  | .set key _ => some key
  | .get key => if (s.cache.get s.now key).1.isSome then some key else none
  | .contains _ | .delete _ | .clear | .advance _ => none

theorem use?_subset (s : CacheState τ α) (call : CacheCall τ α) :
    (s.use? call).toList ⊆ call.key?.toList := by
  cases call with
  | get key =>
    show (if _ then some key else none).toList ⊆ [key]
    split <;> simp
  | set key value => exact List.Subset.refl _
  | contains key | delete key | clear | advance time => exact List.nil_subset _

variable [Add τ]

/-- The keys that are used over a run. -/
def uses (s : CacheState τ α) : List (CacheCall τ α) → List String
  | [] => []
  | call :: rest => (s.use? call).toList ++ uses (s.step call) rest

variable {s : CacheState τ α} {past : List String}

theorem mirrors_step (mirrors : s.cache.Mirrors past) {call : CacheCall τ α} (keeps : call.Keeps)
    (apart : SlotsApart s.cache.slotOf (call.key?.toList ++ past)) :
    (s.step call).cache.Mirrors (past ++ (s.use? call).toList) := by
  cases call with
  | get key =>
    have answer : (s.cache.get s.now key).1 =
        (s.cache.live? s.now (s.cache.slotOf key)).map (·.value) := by rw [Cache.get_eq]
    show (s.cache.get s.now key).2.Mirrors (past ++ (if _ then some key else none).toList)
    cases live : s.cache.live? s.now (s.cache.slotOf key) with
    | none =>
      rw [answer, live]
      simpa using mirrors.miss live
    | some e =>
      rw [answer, live]
      exact mirrors.hit apart live
  | set key value => exact mirrors.set apart s.now value
  | contains key => rwa [use?, Option.toList_none, List.append_nil]
  | delete key => cases keeps
  | clear => cases keeps
  | advance time => rwa [use?, Option.toList_none, List.append_nil]

theorem mirrors_run (mirrors : s.cache.Mirrors past) {calls : List (CacheCall τ α)}
    (keeps : ∀ call ∈ calls, call.Keeps) {keys : List String}
    (apart : SlotsApart s.cache.slotOf keys) (named : calls.filterMap CacheCall.key? ⊆ keys)
    (before : past ⊆ keys) :
    (s.run calls).cache.Mirrors (past ++ s.uses calls) ∧ past ++ s.uses calls ⊆ keys := by
  induction calls generalizing s past with
  | nil => simpa [run, uses] using ⟨mirrors, before⟩
  | cons call rest ih =>
    obtain ⟨here, others⟩ := List.forall_mem_cons.1 keeps
    have all : call.key?.toList ++ rest.filterMap CacheCall.key? ⊆ keys := by
      cases key : call.key? <;> simpa [key] using named
    obtain ⟨first, later⟩ := List.append_subset.1 all
    have next := mirrors_step mirrors here (apart.mono (List.append_subset.2 ⟨first, before⟩))
    have used : (s.use? call).toList ⊆ keys := List.Subset.trans (s.use?_subset call) first
    rw [← (s.sameSetup_step call).slotOf] at apart
    have rest := ih next others apart later (List.append_subset.2 ⟨before, used⟩)
    rwa [List.append_assoc] at rest

/-- What the uses of a run leave in a cache, and what does not count as a use. -/
structure HoldsRecent (room : Nat) (s : CacheState τ α) (calls : List (CacheCall τ α)) :
    Prop where
  order : (s.run calls).cache.Holds (recent room (s.uses calls))
  contains : ∀ key, SlotsApart s.cache.slotOf (key :: calls.filterMap CacheCall.key?) →
    ((s.run calls).cache.contains key = true ↔ key ∈ recent room (s.uses calls))
  values : ∀ key value, SlotsApart s.cache.slotOf (key :: calls.filterMap CacheCall.key?) →
    (((s.run calls).cache.get (s.run calls).now key).1 = some value ↔
      key ∈ recent room (s.uses calls) ∧ ∃ moment, s.LastStored calls (· = key) value moment)
  test_idle : ∀ key, (s.run calls).step (.contains key) = s.run calls
  miss_idle : ∀ key, ((s.run calls).cache.get (s.run calls).now key).1 = none →
    ((s.run calls).step (.get key)).cache.entries = (s.run calls).cache.entries

theorem holdsRecent_of_fresh {n : Int} {slotOf : String → String} {fresh : Cache τ α}
    (new : fresh.Fresh n none slotOf) (start : τ) {calls : List (CacheCall τ α)}
    (keeps : ∀ call ∈ calls, call.Keeps)
    (apart : SlotsApart fresh.slotOf (calls.filterMap CacheCall.key?)) :
    HoldsRecent n.toNat ⟨start, fresh⟩ calls := by
  have start_mirrors : fresh.Mirrors [] := by
    refine ⟨new.sound, new.lifetime, ?_⟩
    rw [Cache.Holds, new.entries, recent_nil]
    rfl
  obtain ⟨mirrors, used⟩ := mirrors_run (s := ⟨start, fresh⟩) start_mirrors keeps apart
    (List.Subset.refl _) (List.nil_subset _)
  have setup := sameSetup_run ⟨start, fresh⟩ calls
  have room : (run ⟨start, fresh⟩ calls).cache.capacity = n.toNat := by
    rw [setup.capacity, ← new.capacity, Int.toNat_natCast]
  have order := mirrors.holds
  rw [List.nil_append] at used order
  rw [room] at order
  have contains : ∀ key, SlotsApart fresh.slotOf (key :: calls.filterMap CacheCall.key?) →
      ((run ⟨start, fresh⟩ calls).cache.contains key = true ↔
        key ∈ recent n.toNat (uses ⟨start, fresh⟩ calls)) := by
    intro key apart
    refine order.contains_iff ?_
    rw [setup.slotOf]
    exact apart.mono (List.cons_subset_cons key (List.Subset.trans (recent_subset _ _) used))
  refine ⟨order, contains, fun key value apart => ?_, fun key => rfl, fun key missed => ?_⟩
  · have answer : ((run ⟨start, fresh⟩ calls).cache.get (run ⟨start, fresh⟩ calls).now key).1 =
        ((run ⟨start, fresh⟩ calls).cache.find?
          ((run ⟨start, fresh⟩ calls).cache.slotOf key)).map (·.value) := by
      rw [Cache.get_eq, mirrors.live?_eq]
    rw [answer, Option.map_eq_some_iff, ← contains key apart]
    constructor
    · rintro ⟨e, held, rfl⟩
      have stored := lastStored_of_find? (s := ⟨start, fresh⟩) new.entries held
      exact ⟨by rw [Cache.contains, held]; rfl, e.stored, stored.of_slot apart⟩
    · rintro ⟨held, moment, stored⟩
      obtain ⟨e, held⟩ := Option.isSome_iff_exists.1 held
      have latest := lastStored_of_find? (s := ⟨start, fresh⟩) new.entries held
      obtain ⟨same, _⟩ := (latest.of_slot apart).unique stored
      exact ⟨e, held, same⟩
  · rw [Cache.get_eq] at missed
    exact mirrors.entries_of_miss (Option.map_eq_none_iff.1 missed)

/-- A cache without a lifetime holds exactly the keys used last, with the values of their last
sets. -/
theorem runs_hold_recent {n : Int} (positive : 1 ≤ n) (slotOf : String → String) :
    ∃ fresh : Cache τ α, Cache.empty? n none slotOf = some fresh ∧ fresh.slotOf = slotOf ∧
      ∀ (start : τ) (calls : List (CacheCall τ α)), (∀ call ∈ calls, call.Keeps) →
        SlotsApart slotOf (calls.filterMap CacheCall.key?) →
        HoldsRecent n.toNat ⟨start, fresh⟩ calls := by
  obtain ⟨fresh, made, new⟩ := Cache.exists_fresh (α := α) positive none slotOf
  refine ⟨fresh, made, new.slotOf, fun start calls keeps apart => ?_⟩
  rw [← new.slotOf] at apart
  exact holdsRecent_of_fresh new start keeps apart

/-- A key saved from eviction by a get, one that no test saves, one that comes back, and one that is
overwritten. -/
def busyCalls : List (CacheCall Int String) :=
  [.set "a" "1", .set "b" "2", .get "a", .contains "b", .set "c" "3", .get "b", .set "b" "4",
   .set "a" "5", .set "a" "6"]

theorem busy_hold_recent :
    (1 : Int) ≤ 2 ∧ (∀ call ∈ busyCalls, call.Keeps) ∧
      SlotsApart Cache.digestSlot (busyCalls.filterMap CacheCall.key?) ∧
      ∃ fresh : Cache Int String, Cache.empty? 2 none Cache.digestSlot = some fresh ∧
        uses ⟨0, fresh⟩ busyCalls = ["a", "b", "a", "c", "b", "a", "a"] ∧
        recent 2 (uses ⟨0, fresh⟩ busyCalls) = ["b", "a"] ∧
        HoldsRecent 2 ⟨0, fresh⟩ busyCalls := by
  have keeps : ∀ call ∈ busyCalls, call.Keeps := by simp [busyCalls, CacheCall.Keeps]
  have apart : SlotsApart Cache.digestSlot (busyCalls.filterMap CacheCall.key?) := by decide +kernel
  obtain ⟨fresh, made, _, holds⟩ :=
    runs_hold_recent (n := 2) (τ := Int) (α := String) (by decide) Cache.digestSlot
  refine ⟨by decide, keeps, apart, fresh, made, ?_, ?_, holds 0 busyCalls keeps apart⟩
  all_goals
    cases made
    decide +kernel

end CacheState

end UiSchema
