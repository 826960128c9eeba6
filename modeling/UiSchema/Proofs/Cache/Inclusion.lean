import Mathlib.Data.List.Infix
import UiSchema.Proofs.Cache.Run

/-! Two caches that differ in their capacity alone. Whatever is asked of both, the entries of the
smaller one are among those of the larger one and in the same order, and the larger one is never
ahead by more than the difference of the capacities. So the larger one is only full when the smaller
one is, and what it gives up then the smaller one gives up too. -/

set_option autoImplicit false

namespace UiSchema

variable {τ α : Type}

namespace Cache

/-- The entries of one cache among those of another: in the same order, and not too few. `n` and `m`
are the capacities. -/
structure Among (n m : Nat) (small large : List (CacheEntry τ α)) : Prop where
  sublist : small.Sublist large
  ahead : large.length + n ≤ small.length + m

namespace Among

variable {n m : Nat} {small large : List (CacheEntry τ α)}

theorem filter (among : Among n m small large) (keep : CacheEntry τ α → Bool) :
    Among n m (small.filter keep) (large.filter keep) where
  sublist := among.sublist.filter keep
  ahead := by
    -- what goes from the smaller list goes from the larger one too
    have gone : small.countP (fun e => ¬ keep e) ≤ large.countP fun e => ¬ keep e :=
      among.sublist.countP_le
    have ofSmall := List.length_eq_countP_add_countP keep (l := small)
    have ofLarge := List.length_eq_countP_add_countP keep (l := large)
    have := among.ahead
    rw [← List.countP_eq_length_filter, ← List.countP_eq_length_filter]
    omega

theorem append (among : Among n m small large) (e : CacheEntry τ α) :
    Among n m (small ++ [e]) (large ++ [e]) where
  sublist := among.sublist.append_right [e]
  ahead := by
    have := among.ahead
    simp only [List.length_append, List.length_singleton]
    omega

/-- Each of the two lists keeps the entries there is room for. -/
theorem newest (among : Among n m small large) :
    Among n m (Cache.newest n small) (Cache.newest m large) where
  sublist := by
    have ahead := among.ahead
    exact (List.drop_sublist_drop_left small (by omega)).trans
      (among.sublist.drop (large.length - m))
  ahead := by
    have := among.ahead
    have := among.sublist.length_le
    simp only [Cache.newest, List.length_drop]
    omega

end Among

/-- The smaller of two caches with one lifetime and one choice of slots. -/
structure Smaller (small large : Cache τ α) : Prop where
  sound : small.Sound
  soundLarge : large.Sound
  slotOf : large.slotOf = small.slotOf
  lifetime : large.lifetime = small.lifetime
  capacity : small.capacity ≤ large.capacity
  entries : Among small.capacity large.capacity small.entries large.entries
  hits : small.hits ≤ large.hits

namespace Smaller

variable {small large : Cache τ α}

theorem find? (smaller : Smaller small large) {slot : String} {e : CacheEntry τ α}
    (found : small.find? slot = some e) : large.find? slot = some e := by
  obtain ⟨member, same⟩ := smaller.sound.find?_eq_some.1 found
  exact smaller.soundLarge.find?_eq_some.2 ⟨smaller.entries.sublist.subset member, same⟩

theorem without (smaller : Smaller small large) (slot : String) :
    Among small.capacity large.capacity (small.without slot) (large.without slot) :=
  smaller.entries.filter _

theorem set (smaller : Smaller small large) (now : τ) (key : String) (value : α) :
    Smaller (small.set now key value) (large.set now key value) := by
  have kept : Among small.capacity large.capacity
      (newest small.capacity (small.stored now key value))
      (newest large.capacity (large.stored now key value)) := by
    rw [stored, stored, smaller.slotOf]
    exact ((smaller.without _).append _).newest
  have sound := smaller.sound.set now key value
  have soundLarge := smaller.soundLarge.set now key value
  rw [set_eq smaller.sound] at sound ⊢
  rw [set_eq smaller.soundLarge] at soundLarge ⊢
  exact { smaller with sound, soundLarge, entries := kept }

theorem delete (smaller : Smaller small large) (key : String) :
    Smaller (small.delete key).2 (large.delete key).2 :=
  { smaller with
    sound := smaller.sound.delete key
    soundLarge := smaller.soundLarge.delete key
    entries := by
      unfold Cache.delete
      rw [smaller.slotOf]
      exact smaller.without _ }

theorem clear (smaller : Smaller small large) : Smaller small.clear large.clear :=
  { smaller with
    sound := .clear small
    soundLarge := .clear large
    entries := ⟨.slnil, Nat.add_le_add_left smaller.capacity 0⟩ }

section Get

variable [Sub τ] [LE τ] [DecidableLE τ]

/-- A slot that the smaller cache holds has the same entry in both. -/
theorem live?_eq (smaller : Smaller small large) {now : τ} {slot : String} {e : CacheEntry τ α}
    (held : small.find? slot = some e) : large.live? now slot = small.live? now slot := by
  simp only [Cache.live?, held, smaller.find? held, expired, smaller.lifetime]

theorem live? (smaller : Smaller small large) {now : τ} {slot : String} {e : CacheEntry τ α}
    (live : small.live? now slot = some e) : large.live? now slot = some e := by
  obtain ⟨held, _⟩ := Option.filter_eq_some_iff.1 live
  rw [smaller.live?_eq held, live]

/-- What is left after a look-up, whether it finds an entry in both caches, in the larger one, or in
neither. -/
theorem renewed (smaller : Smaller small large) (now : τ) (slot : String) :
    Among small.capacity large.capacity
      (small.without slot ++ (small.live? now slot).toList)
      (large.without slot ++ (large.live? now slot).toList) := by
  cases inSmall : small.live? now slot with
  | some e =>
    rw [smaller.live? inSmall]
    exact (smaller.without slot).append e
  | none =>
    cases inLarge : large.live? now slot with
    | none => simpa using smaller.without slot
    | some e =>
      -- the smaller cache does not hold the slot, so it stays as it is
      have absent : small.find? slot = none := by
        cases held : small.find? slot with
        | none => rfl
        | some f =>
          have both : large.live? now slot = small.live? now slot := smaller.live?_eq held
          rw [inSmall, inLarge] at both
          cases both
      have fewer := length_without_lt (mem_of_live? inLarge)
      have ahead := smaller.entries.ahead
      rw [slot_of_live? inLarge] at fewer
      constructor
      · simpa using (smaller.without slot).sublist.trans (List.sublist_append_left _ [e])
      · rw [without_eq_self absent]
        simp only [Option.toList_some, Option.toList_none, List.length_append, List.length_nil,
          List.length_singleton]
        omega

theorem hits_le (smaller : Smaller small large) (now : τ) (slot : String) :
    (small.live? now slot).toList.length ≤ (large.live? now slot).toList.length := by
  cases inSmall : small.live? now slot with
  | none => exact Nat.zero_le _
  | some e => rw [smaller.live? inSmall]

theorem get (smaller : Smaller small large) (now : τ) (key : String) :
    Smaller (small.get now key).2 (large.get now key).2 := by
  have sameSlot : large.slotOf key = small.slotOf key := by rw [smaller.slotOf]
  have sound := smaller.sound.get now key
  have soundLarge := smaller.soundLarge.get now key
  rw [get_eq] at sound soundLarge ⊢
  rw [get_eq]
  rw [sameSlot] at soundLarge ⊢
  exact { smaller with
    sound, soundLarge
    entries := smaller.renewed now (small.slotOf key)
    hits := Nat.add_le_add smaller.hits (smaller.hits_le now (small.slotOf key)) }

/-- A value that the smaller cache gives, the larger one gives too. -/
theorem answer (smaller : Smaller small large) {now : τ} {key : String} {value : α}
    (found : (small.get now key).1 = some value) : (large.get now key).1 = some value := by
  rw [get_eq] at found ⊢
  obtain ⟨e, live, given⟩ := Option.map_eq_some_iff.1 found
  rw [smaller.slotOf]
  exact Option.map_eq_some_iff.2 ⟨e, smaller.live? live, given⟩

end Get

/-- Fresh caches differ in their room alone. -/
theorem empty {n m : Int} (positive : 1 ≤ n) (le : n ≤ m) (lifetime : Option τ)
    (slotOf : String → String) :
    ∃ small large : Cache τ α, empty? n lifetime slotOf = some small ∧
      empty? m lifetime slotOf = some large ∧ Smaller small large := by
  obtain ⟨small, made, fresh⟩ := exists_fresh (α := α) positive lifetime slotOf
  obtain ⟨large, madeLarge, freshLarge⟩ :=
    exists_fresh (α := α) (Int.le_trans positive le) lifetime slotOf
  have room : small.capacity ≤ large.capacity := by
    have := fresh.capacity
    have := freshLarge.capacity
    omega
  exact ⟨small, large, made, madeLarge,
    { sound := fresh.sound
      soundLarge := freshLarge.sound
      slotOf := freshLarge.slotOf.trans fresh.slotOf.symm
      lifetime := freshLarge.lifetime.trans fresh.lifetime.symm
      capacity := room
      entries := by
        rw [fresh.entries, freshLarge.entries]
        exact ⟨.slnil, Nat.add_le_add_left room 0⟩
      hits := by rw [fresh.hits, freshLarge.hits] }⟩

end Smaller

end Cache

namespace CacheState

variable [Sub τ] [LE τ] [DecidableLE τ]

/-- What a cache owes to a smaller one: every entry that is held there, with its value and the
moment it was stored, every value that is found there, and no fewer hits so far. -/
structure Covers (large small : CacheState τ α) : Prop where
  held : ∀ key e, small.cache.find? (small.cache.slotOf key) = some e →
    large.cache.find? (large.cache.slotOf key) = some e
  found : ∀ key value, (small.cache.get small.now key).1 = some value →
    (large.cache.get large.now key).1 = some value
  hits : small.cache.hits ≤ large.cache.hits

/-- The same moment, and a larger cache. -/
structure Beside (small large : CacheState τ α) : Prop where
  now : large.now = small.now
  smaller : Cache.Smaller small.cache large.cache

namespace Beside

variable {small large : CacheState τ α}

theorem covers (beside : Beside small large) : large.Covers small where
  held key e held := by
    rw [beside.smaller.slotOf]
    exact beside.smaller.find? held
  found key value found := by
    rw [beside.now]
    exact beside.smaller.answer found
  hits := beside.smaller.hits

variable [Add τ]

theorem step (beside : Beside small large) (call : CacheCall τ α) :
    Beside (small.step call) (large.step call) := by
  obtain ⟨_, _⟩ := small
  obtain ⟨_, _⟩ := large
  obtain ⟨rfl, smaller⟩ := beside
  cases call with
  | get key => exact ⟨rfl, smaller.get _ key⟩
  | set key value => exact ⟨rfl, smaller.set _ key value⟩
  | contains key => exact ⟨rfl, smaller⟩
  | delete key => exact ⟨rfl, smaller.delete key⟩
  | clear => exact ⟨rfl, smaller.clear⟩
  | advance time => exact ⟨rfl, smaller⟩

theorem run (beside : Beside small large) (calls : List (CacheCall τ α)) :
    Beside (small.run calls) (large.run calls) := by
  induction calls generalizing small large with
  | nil => exact beside
  | cons call rest ih => exact ih (beside.step call)

end Beside

variable [Add τ]

/-- More room never loses anything: whatever is asked of two caches that differ in their capacity
alone, the larger one covers the smaller one all along. -/
theorem runs_covered {n m : Int} (positive : 1 ≤ n) (le : n ≤ m) (lifetime : Option τ)
    (slotOf : String → String) :
    ∃ small large : Cache τ α, Cache.empty? n lifetime slotOf = some small ∧
      Cache.empty? m lifetime slotOf = some large ∧
      ∀ (start : τ) (calls : List (CacheCall τ α)),
        (run ⟨start, large⟩ calls).Covers (run ⟨start, small⟩ calls) := by
  obtain ⟨small, large, made, madeLarge, smaller⟩ := Cache.Smaller.empty positive le lifetime slotOf
  refine ⟨small, large, made, madeLarge, fun start calls => ?_⟩
  have together : Beside ⟨start, small⟩ ⟨start, large⟩ := ⟨rfl, smaller⟩
  exact (together.run calls).covers

/-- The second entry takes the only place of the smaller cache, and the larger one is asked for the
first entry again before it is too old. -/
def pairCalls : List (CacheCall Nat String) :=
  [.set "a" "1", .advance 3, .set "b" "2", .get "a", .get "b", .advance 2, .get "a"]

theorem pair_covered :
    (1 : Int) ≤ 1 ∧ (1 : Int) ≤ 2 ∧ ∃ small large : Cache Nat String,
      Cache.empty? 1 (some 5) id = some small ∧ Cache.empty? 2 (some 5) id = some large ∧
      (run ⟨0, small⟩ pairCalls).cache.hits = 1 ∧ (run ⟨0, large⟩ pairCalls).cache.hits = 2 ∧
      (run ⟨0, large⟩ pairCalls).Covers (run ⟨0, small⟩ pairCalls) := by
  refine ⟨by decide, by decide, ?_⟩
  obtain ⟨small, large, made, madeLarge, covers⟩ :=
    runs_covered (n := 1) (m := 2) (α := String) (by decide) (by decide) (some 5) id
  refine ⟨small, large, made, madeLarge, ?_, ?_, covers 0 pairCalls⟩
  · cases made
    decide
  · cases madeLarge
    decide

end CacheState

end UiSchema
