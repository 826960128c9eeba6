import UiSchema.Proofs.Cache.Latest

/-! Membership beside look-up. A key that is found is contained. A key that is contained is found
unless its latest set is a lifetime ago: membership does not look at the lifetime, and only a
look-up drops what is past it. -/

set_option autoImplicit false

namespace UiSchema

variable {τ α : Type}

namespace Cache

variable [Sub τ] [LE τ] [DecidableLE τ] {c : Cache τ α} {now : τ} {key : String}

/-- The look-up counts a hit exactly when it finds an entry. -/
theorem counts_hit_iff :
    (c.get now key).2.hits = c.hits + 1 ↔ (c.live? now (c.slotOf key)).isSome = true := by
  rw [get_eq]
  cases c.live? now (c.slotOf key) <;> simp

theorem found_iff :
    (c.live? now (c.slotOf key)).isSome = true ↔
      c.contains key = true ∧ c.stale now key = false := by
  unfold live? contains stale
  cases c.find? (c.slotOf key) with
  | none => simp
  | some e => simp [Option.filter]

theorem stale_iff : c.stale now key = true ↔ ∃ e limit, c.find? (c.slotOf key) = some e ∧
    c.lifetime = some limit ∧ limit ≤ now - e.stored := by
  unfold stale
  cases c.find? (c.slotOf key) with
  | none => simp
  | some e => simp [expired_iff]

theorem contains_of_stale (stale : c.stale now key = true) : c.contains key = true := by
  obtain ⟨e, _, held, _⟩ := stale_iff.1 stale
  rw [contains, held]
  rfl

end Cache

namespace CacheState

variable [Add τ] [Sub τ] [LE τ] [DecidableLE τ]

/-- The key is contained, although the latest set of its slot is a lifetime ago. -/
def Outlived (s : CacheState τ α) (calls : List (CacheCall τ α)) (key : String) : Prop :=
  (s.run calls).cache.contains key = true ∧
    ∃ limit value moment, s.cache.lifetime = some limit ∧
      s.LastStored calls (fun other => s.cache.slotOf other = s.cache.slotOf key) value moment ∧
      limit ≤ (s.run calls).now - moment

theorem stale_iff_outlived {s : CacheState τ α} (empty : s.cache.entries = [])
    (calls : List (CacheCall τ α)) (key : String) :
    (s.run calls).cache.stale (s.run calls).now key = true ↔ s.Outlived calls key := by
  have setup := s.sameSetup_run calls
  rw [Cache.stale_iff]
  constructor
  · rintro ⟨e, limit, held, given, past⟩
    refine ⟨by rw [Cache.contains, held]; rfl, limit, e.value, e.stored, ?_,
      lastStored_of_find? empty held, past⟩
    rw [← setup.lifetime, given]
  · rintro ⟨contained, limit, value, moment, given, stored, past⟩
    obtain ⟨e, held⟩ := Option.isSome_iff_exists.1 contained
    obtain ⟨_, rfl⟩ := stored.unique (lastStored_of_find? empty held)
    exact ⟨e, limit, held, setup.lifetime.trans given, past⟩

/-- A key that is found is contained. Membership and look-up agree on a key unless it is outlived. -/
theorem contains_agrees_iff {n : Int} (positive : 1 ≤ n) (lifetime : Option τ)
    (slotOf : String → String) :
    ∃ fresh : Cache τ α, Cache.empty? n lifetime slotOf = some fresh ∧
      ∀ (start : τ) (calls : List (CacheCall τ α)) (key : String),
        let s := run ⟨start, fresh⟩ calls
        ((s.cache.get s.now key).2.hits = s.cache.hits + 1 → s.cache.contains key = true) ∧
        ((s.cache.contains key = true ↔ (s.cache.get s.now key).2.hits = s.cache.hits + 1) ↔
          ¬ Outlived ⟨start, fresh⟩ calls key) := by
  obtain ⟨fresh, made, new⟩ := Cache.exists_fresh (α := α) positive lifetime slotOf
  refine ⟨fresh, made, fun start calls key => ?_⟩
  have outlived := stale_iff_outlived (s := ⟨start, fresh⟩) new.entries calls key
  dsimp only
  rw [Cache.counts_hit_iff, Cache.found_iff, ← outlived]
  refine ⟨And.left, ?_⟩
  cases stale : (run ⟨start, fresh⟩ calls).cache.stale (run ⟨start, fresh⟩ calls).now key with
  | false => simp
  | true => simp [Cache.contains_of_stale stale]

/-- A value that is not read before its lifetime is over. -/
def unreadCalls : List (CacheCall Int String) := [.set "a" "1", .advance 15]

theorem unread_outlived :
    (1 : Int) ≤ 5 ∧ ∃ fresh : Cache Int String,
      Cache.empty? 5 (some 10) Cache.digestSlot = some fresh ∧
        Outlived ⟨0, fresh⟩ unreadCalls "a" ∧
        (((run ⟨0, fresh⟩ unreadCalls).cache.contains "a" = true ↔
          ((run ⟨0, fresh⟩ unreadCalls).cache.get (run ⟨0, fresh⟩ unreadCalls).now "a").2.hits =
            (run ⟨0, fresh⟩ unreadCalls).cache.hits + 1) ↔
          ¬ Outlived ⟨0, fresh⟩ unreadCalls "a") := by
  obtain ⟨fresh, made, agrees⟩ :=
    contains_agrees_iff (n := 5) (τ := Int) (α := String) (by decide) (some 10) Cache.digestSlot
  refine ⟨by decide, fresh, made, ?_, (agrees 0 unreadCalls "a").2⟩
  cases made
  refine ⟨by decide +kernel, 10, "1", 0, rfl, ?_, by decide⟩
  exact ⟨[], "a", [.advance 15], rfl, rfl, rfl, by simp [CacheCall.Ends]⟩

/-- What is past its lifetime and has not been asked for is contained and not found. -/
theorem unread_contained_not_found :
    ∃ fresh : Cache Int String, Cache.empty? 5 (some 10) Cache.digestSlot = some fresh ∧
      (run ⟨0, fresh⟩ unreadCalls).cache.contains "a" = true ∧
      ((run ⟨0, fresh⟩ unreadCalls).cache.get (run ⟨0, fresh⟩ unreadCalls).now "a").1 = none ∧
      ¬ ((run ⟨0, fresh⟩ unreadCalls).cache.contains "a" = true ↔
        ((run ⟨0, fresh⟩ unreadCalls).cache.get (run ⟨0, fresh⟩ unreadCalls).now "a").2.hits =
          (run ⟨0, fresh⟩ unreadCalls).cache.hits + 1) :=
  ⟨_, rfl, by decide +kernel, by decide +kernel, by decide +kernel⟩

end CacheState

end UiSchema
