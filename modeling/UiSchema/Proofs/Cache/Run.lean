import Mathlib.Data.List.Nodup
import UiSchema.Cache

/-! Runs of a cache beside a clock. No slot is held twice, no more entries are held than there is
room for, and the count of the entries is their number; so an entry is found by its slot, a look-up
renews or drops the one entry of its slot, and storing keeps the entries used last. -/

set_option autoImplicit false

namespace UiSchema

variable {τ α : Type}

/-- What is asked of a cache, and the clock going on. -/
inductive CacheCall (τ α : Type) where
  | get (key : String)
  | set (key : String) (value : α)
  | contains (key : String)
  | delete (key : String)
  | clear
  | advance (time : τ)

/-- A cache at a moment. -/
structure CacheState (τ α : Type) where
  now : τ
  cache : Cache τ α

namespace CacheState

variable [Add τ] [Sub τ] [LE τ] [DecidableLE τ]

def step (s : CacheState τ α) : CacheCall τ α → CacheState τ α
  | .get key => { s with cache := (s.cache.get s.now key).2 }
  | .set key value => { s with cache := s.cache.set s.now key value }
  | .contains _ => s
  | .delete key => { s with cache := (s.cache.delete key).2 }
  | .clear => { s with cache := s.cache.clear }
  | .advance time => { s with now := s.now + time }

def run (s : CacheState τ α) (calls : List (CacheCall τ α)) : CacheState τ α := calls.foldl step s

end CacheState

namespace Cache

variable {c : Cache τ α} {slot : String} {e : CacheEntry τ α}

/-- The entries used last, as many as there is room for. -/
def newest (capacity : Nat) (entries : List (CacheEntry τ α)) : List (CacheEntry τ α) :=
  entries.drop (entries.length - capacity)

/-- No slot is held twice, the capacity is never exceeded, and the count of the entries is up to
date. -/
structure Sound (c : Cache τ α) : Prop where
  distinct : (c.entries.map (·.slot)).Nodup
  bounded : c.entries.length ≤ c.capacity
  counted : c.size = c.entries.length

theorem Sound.find?_eq_some (sound : c.Sound) :
    c.find? slot = some e ↔ e ∈ c.entries ∧ e.slot = slot := by
  constructor
  · intro found
    exact ⟨List.mem_of_find?_eq_some found, by simpa using List.find?_some found⟩
  · rintro ⟨member, rfl⟩
    cases found : c.find? e.slot with
    | none => simpa using List.find?_eq_none.1 found e member
    | some f =>
      have inF : f ∈ c.entries := List.mem_of_find?_eq_some found
      have same : f.slot = e.slot := by simpa using List.find?_some found
      rw [List.inj_on_of_nodup_map sound.distinct inF member same]

theorem mem_of_mem_without (member : e ∈ c.without slot) : e ∈ c.entries :=
  (List.mem_filter.1 member).1

theorem slot_ne_of_mem_without (member : e ∈ c.without slot) : e.slot ≠ slot := by
  simpa using (List.mem_filter.1 member).2

theorem distinct_without (distinct : (c.entries.map (·.slot)).Nodup) (slot : String) :
    ((c.without slot).map (·.slot)).Nodup :=
  distinct.sublist (List.filter_sublist.map _)

/-- An entry that takes the place of those with its slot is the only one with it. -/
theorem distinct_replaced (distinct : (c.entries.map (·.slot)).Nodup) (e : CacheEntry τ α) :
    ((c.without e.slot ++ [e]).map (·.slot)).Nodup := by
  rw [List.map_append, List.nodup_append]
  refine ⟨distinct_without distinct e.slot, List.nodup_singleton _, ?_⟩
  intro slot inOthers slot' inSingle
  obtain ⟨other, member, rfl⟩ := List.mem_map.1 inOthers
  rw [List.mem_singleton.1 inSingle]
  exact slot_ne_of_mem_without member

theorem length_without_le (c : Cache τ α) (slot : String) :
    (c.without slot).length ≤ c.entries.length :=
  List.length_filter_le ..

theorem length_without_lt (member : e ∈ c.entries) :
    (c.without e.slot).length < c.entries.length :=
  List.length_filter_lt_length_iff_exists.2 ⟨e, member, by simp⟩

/-- An entry is the only one with its slot. -/
theorem Sound.length_without (sound : c.Sound) (member : e ∈ c.entries) :
    (c.without e.slot).length + 1 = c.entries.length := by
  have once : (c.entries.map (·.slot)).count e.slot = 1 :=
    List.count_eq_one_of_mem sound.distinct (List.mem_map_of_mem member)
  have kept := List.length_eq_countP_add_countP (fun f => f.slot != e.slot) (l := c.entries)
  rw [List.count, List.countP_map] at once
  have gone : c.entries.countP (fun f => ¬ (f.slot != e.slot) = true) = 1 := by
    rw [← once]
    refine List.countP_congr fun f _ => ?_
    simp
  rw [without, ← List.countP_eq_length_filter]
  omega

theorem without_eq_self (absent : c.find? slot = none) : c.without slot = c.entries := by
  refine List.filter_eq_self.2 fun e member => ?_
  have other := List.find?_eq_none.1 absent e member
  simpa using other

/-- The entries with a new one in the place of those with its slot. -/
def stored (c : Cache τ α) (now : τ) (key : String) (value : α) : List (CacheEntry τ α) :=
  c.without (c.slotOf key) ++ [⟨c.slotOf key, value, now⟩]

theorem length_stored_le (sound : c.Sound) (now : τ) (key : String) (value : α) :
    (c.stored now key value).length ≤ c.capacity + 1 := by
  have fewer := c.length_without_le (c.slotOf key)
  have := sound.bounded
  rw [stored, List.length_append, List.length_singleton]
  omega

/-- What storing does: of the old entries and the new one those are kept that there is room for. -/
theorem set_eq (sound : c.Sound) (now : τ) (key : String) (value : α) :
    c.set now key value =
      { c.withEntries (newest c.capacity (c.stored now key value)) with
        evictions := c.evictions + ((c.stored now key value).length - c.capacity) } := by
  have few := length_stored_le sound now key value
  unfold set newest
  show (if c.capacity < (c.stored now key value).length then _ else _) = _
  split
  · rename_i full
    have one : (c.stored now key value).length - c.capacity = 1 := by omega
    rw [one, List.drop_one]
    rfl
  · rename_i room
    rw [Nat.sub_eq_zero_of_le (by omega), List.drop_zero]
    rfl

/-- Storing brings in one entry, and no other one with its slot is left. -/
theorem mem_set {now : τ} {key : String} {value : α}
    (member : e ∈ (c.set now key value).entries) :
    e ∈ c.without (c.slotOf key) ∨ e = ⟨c.slotOf key, value, now⟩ := by
  have all : e ∈ c.stored now key value := by
    unfold set at member
    dsimp only at member
    split at member
    · exact List.mem_of_mem_tail member
    · exact member
  exact (List.mem_append.1 all).imp_right List.mem_singleton.1

theorem Sound.set (sound : c.Sound) (now : τ) (key : String) (value : α) :
    (c.set now key value).Sound := by
  rw [set_eq sound]
  refine ⟨?_, ?_, rfl⟩
  · exact (distinct_replaced sound.distinct ⟨c.slotOf key, value, now⟩).sublist
      ((List.drop_sublist ..).map _)
  · show (newest c.capacity _).length ≤ c.capacity
    rw [newest, List.length_drop]
    omega

theorem Sound.delete (sound : c.Sound) (key : String) : (c.delete key).2.Sound where
  distinct := distinct_without sound.distinct _
  bounded := Nat.le_trans (c.length_without_le _) sound.bounded
  counted := rfl

theorem Sound.clear (c : Cache τ α) : c.clear.Sound where
  distinct := List.nodup_nil
  bounded := Nat.zero_le _
  counted := rfl

/-- A cache as it is made, with nothing in it and nothing counted. -/
structure Fresh (capacity : Int) (lifetime : Option τ) (slotOf : String → String)
    (c : Cache τ α) : Prop where
  sound : c.Sound
  capacity : (c.capacity : Int) = capacity
  lifetime : c.lifetime = lifetime
  slotOf : c.slotOf = slotOf
  entries : c.entries = []
  hits : c.hits = 0
  misses : c.misses = 0
  evictions : c.evictions = 0

theorem exists_fresh {capacity : Int} (positive : 1 ≤ capacity) (lifetime : Option τ)
    (slotOf : String → String) :
    ∃ c : Cache τ α, empty? capacity lifetime slotOf = some c ∧
      c.Fresh capacity lifetime slotOf := by
  have room : 0 < capacity.toNat := by omega
  have made : empty? (α := α) capacity lifetime slotOf = some _ := dif_pos room
  refine ⟨_, made, ?_⟩
  exact
    { sound := ⟨List.nodup_nil, Nat.zero_le _, rfl⟩
      capacity := Int.toNat_of_nonneg (by omega)
      lifetime := rfl
      slotOf := rfl
      entries := rfl
      hits := rfl
      misses := rfl
      evictions := rfl }

/-- The same room, lifetime and choice of slots. -/
structure SameSetup (c d : Cache τ α) : Prop where
  capacity : d.capacity = c.capacity
  lifetime : d.lifetime = c.lifetime
  slotOf : d.slotOf = c.slotOf

theorem sameSetup_set (c : Cache τ α) (now : τ) (key : String) (value : α) :
    c.SameSetup (c.set now key value) := by
  unfold set
  dsimp only
  split <;> exact ⟨rfl, rfl, rfl⟩

section Get

variable [Sub τ] [LE τ] [DecidableLE τ]

/-- The entry that a look-up finds: the one with the slot, unless it is past its lifetime. -/
def live? (c : Cache τ α) (now : τ) (slot : String) : Option (CacheEntry τ α) :=
  (c.find? slot).filter fun e => !c.expired now e

theorem expired_iff {now : τ} : c.expired now e = true ↔
    ∃ lifetime, c.lifetime = some lifetime ∧ lifetime ≤ now - e.stored := by
  unfold expired
  cases c.lifetime with
  | none => simp
  | some lifetime => simp

theorem slot_of_live? {now : τ} (live : c.live? now slot = some e) : e.slot = slot := by
  obtain ⟨found, _⟩ := Option.filter_eq_some_iff.1 live
  simpa using List.find?_some found

theorem mem_of_live? {now : τ} (live : c.live? now slot = some e) : e ∈ c.entries := by
  obtain ⟨found, _⟩ := Option.filter_eq_some_iff.1 live
  exact List.mem_of_find?_eq_some found

/-- The key is held, but its entry is past its lifetime. -/
def stale (c : Cache τ α) (now : τ) (key : String) : Bool :=
  (c.find? (c.slotOf key)).any (c.expired now)

/-- What is held is found or stale. -/
theorem found_add_stale (c : Cache τ α) (now : τ) (key : String) :
    (c.live? now (c.slotOf key)).toList.length + (c.stale now key).toNat =
      (c.contains key).toNat := by
  unfold live? stale contains
  cases c.find? (c.slotOf key) with
  | none => rfl
  | some e => by_cases past : c.expired now e = true <;> simp [past]

/-- What a look-up does: the entry it finds goes to the end, and one past its lifetime goes. Only
then are the entries counted. -/
theorem get_eq (c : Cache τ α) (now : τ) (key : String) :
    let live := c.live? now (c.slotOf key)
    c.get now key =
      (live.map (·.value),
        { c with
          entries := c.without (c.slotOf key) ++ live.toList
          size := if live.isNone && c.contains key then (c.without (c.slotOf key)).length else c.size
          hits := c.hits + live.toList.length
          misses := c.misses + (1 - live.toList.length) }) := by
  dsimp only
  unfold get live? contains
  cases found : c.find? (c.slotOf key) with
  | none => simp [without_eq_self found]
  | some e =>
    have slot : e.slot = c.slotOf key := by simpa using List.find?_some found
    by_cases past : c.expired now e = true <;> simp [Option.filter, past, slot, withEntries]

/-- Looking up brings in no entry. -/
theorem mem_get {now : τ} {key : String} (member : e ∈ (c.get now key).2.entries) :
    e ∈ c.entries := by
  rw [get_eq] at member
  rcases List.mem_append.1 member with others | renewed
  · exact mem_of_mem_without others
  · exact mem_of_live? (Option.mem_toList.1 renewed)

/-- A value that is found is that of an entry with the slot of the key. -/
theorem exists_of_get {now : τ} {key : String} {value : α}
    (found : (c.get now key).1 = some value) :
    ∃ e ∈ c.entries, e.slot = c.slotOf key ∧ e.value = value := by
  rw [get_eq] at found
  obtain ⟨e, live, given⟩ := Option.map_eq_some_iff.1 found
  exact ⟨e, mem_of_live? live, slot_of_live? live, given⟩

theorem sameSetup_get (c : Cache τ α) (now : τ) (key : String) :
    c.SameSetup (c.get now key).2 := by
  rw [get_eq]
  exact ⟨rfl, rfl, rfl⟩

theorem Sound.get (sound : c.Sound) (now : τ) (key : String) : (c.get now key).2.Sound := by
  rw [get_eq]
  cases live : c.live? now (c.slotOf key) with
  | none =>
    refine ⟨by simpa using distinct_without sound.distinct _,
      by simpa using Nat.le_trans (c.length_without_le _) sound.bounded, ?_⟩
    by_cases held : c.contains key = true
    · simp [held]
    · have absent : c.find? (c.slotOf key) = none := by simpa [contains] using held
      simp [held, without_eq_self absent, sound.counted]
  | some e =>
    have slot := slot_of_live? live
    have one := sound.length_without (mem_of_live? live)
    rw [slot] at one
    refine ⟨?_, ?_, ?_⟩
    · rw [← slot]
      exact distinct_replaced sound.distinct e
    · simpa [one] using sound.bounded
    · simpa [one] using sound.counted

end Get

end Cache

namespace CacheState

variable [Add τ] [Sub τ] [LE τ] [DecidableLE τ]

theorem sound_step {s : CacheState τ α} (sound : s.cache.Sound) (call : CacheCall τ α) :
    (s.step call).cache.Sound := by
  cases call with
  | get key => exact sound.get s.now key
  | set key value => exact sound.set s.now key value
  | contains key => exact sound
  | delete key => exact sound.delete key
  | clear => exact .clear s.cache
  | advance time => exact sound

theorem sameSetup_step (s : CacheState τ α) (call : CacheCall τ α) :
    s.cache.SameSetup (s.step call).cache := by
  cases call with
  | get key => exact s.cache.sameSetup_get s.now key
  | set key value => exact s.cache.sameSetup_set s.now key value
  | contains key => exact ⟨rfl, rfl, rfl⟩
  | delete key => exact ⟨rfl, rfl, rfl⟩
  | clear => exact ⟨rfl, rfl, rfl⟩
  | advance time => exact ⟨rfl, rfl, rfl⟩

theorem sameSetup_run (s : CacheState τ α) (calls : List (CacheCall τ α)) :
    s.cache.SameSetup (s.run calls).cache := by
  induction calls generalizing s with
  | nil => exact ⟨rfl, rfl, rfl⟩
  | cons call rest ih =>
    have first := s.sameSetup_step call
    have others := ih (s.step call)
    exact ⟨others.capacity.trans first.capacity, others.lifetime.trans first.lifetime,
      others.slotOf.trans first.slotOf⟩

/-- A cache stays within its capacity, whatever is asked of it. -/
theorem sound_run {s : CacheState τ α} (sound : s.cache.Sound) (calls : List (CacheCall τ α)) :
    (s.run calls).cache.Sound := by
  induction calls generalizing s with
  | nil => exact sound
  | cons call rest ih => exact ih (sound_step sound call)

end CacheState

end UiSchema
