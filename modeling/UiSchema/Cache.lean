import UiSchema.Entries

/-! A bounded store that forgets the entry not used for longest, and entries older than a fixed
lifetime. Time only enters through its order and its differences. -/

set_option autoImplicit false

namespace UiSchema

/-- What is held under a slot since a moment. -/
structure CacheEntry (τ α : Type) where
  slot : String
  value : α
  stored : τ

/-- The entry used last comes last. Keys are held under slots; two keys with one slot are the same
to the cache. -/
structure Cache (τ α : Type) where
  capacity : Nat
  lifetime : Option τ
  slotOf : String → String
  entries : List (CacheEntry τ α) := []
  /-- The number of entries at the last change of them. -/
  size : Nat := 0
  hits : Nat := 0
  misses : Nat := 0
  evictions : Nat := 0
  capacity_pos : 0 < capacity

namespace Cache

variable {τ α : Type}

def capacityMessage : String := "max_size must be positive"

def empty? (capacity : Int) (lifetime : Option τ) (slotOf : String → String) :
    Option (Cache τ α) :=
  if positive : 0 < capacity.toNat then
    some { capacity := capacity.toNat, lifetime, slotOf, capacity_pos := positive }
  else none

def length (c : Cache τ α) : Nat := c.entries.length

def find? (c : Cache τ α) (slot : String) : Option (CacheEntry τ α) :=
  c.entries.find? fun e => e.slot == slot

def without (c : Cache τ α) (slot : String) : List (CacheEntry τ α) :=
  c.entries.filter fun e => e.slot != slot

/-- Other entries, counted anew. -/
def withEntries (c : Cache τ α) (entries : List (CacheEntry τ α)) : Cache τ α :=
  { c with entries, size := entries.length }

/-- Neither the order nor the counts change, and an entry past its lifetime still counts as held. -/
def contains (c : Cache τ α) (key : String) : Bool := (c.find? (c.slotOf key)).isSome

section Time

variable [Sub τ] [LE τ] [DecidableLE τ]

def expired (c : Cache τ α) (now : τ) (e : CacheEntry τ α) : Bool :=
  match c.lifetime with
  | none => false
  | some lifetime => decide (lifetime ≤ now - e.stored)

/-- A hit makes the entry the one used last; an entry past its lifetime is dropped. -/
def get (c : Cache τ α) (now : τ) (key : String) : Option α × Cache τ α :=
  match c.find? (c.slotOf key) with
  | none => (none, { c with misses := c.misses + 1 })
  | some e =>
    let others := c.without e.slot
    if c.expired now e then (none, { c.withEntries others with misses := c.misses + 1 })
    else (some e.value, { c with entries := others ++ [e], hits := c.hits + 1 })

end Time

/-- A full cache loses its first entry. -/
def set (c : Cache τ α) (now : τ) (key : String) (value : α) : Cache τ α :=
  let slot := c.slotOf key
  let entries := c.without slot ++ [⟨slot, value, now⟩]
  if c.capacity < entries.length then
    { c.withEntries entries.tail with evictions := c.evictions + 1 }
  else c.withEntries entries

def delete (c : Cache τ α) (key : String) : Bool × Cache τ α :=
  (c.contains key, c.withEntries (c.without (c.slotOf key)))

def clear (c : Cache τ α) : Cache τ α := c.withEntries []

/-- The share of gets that were hits; zero before the first. -/
def hitRate (c : Cache τ α) : Float :=
  let total := c.hits + c.misses
  if total = 0 then 0.0 else Float.ofNat c.hits / Float.ofNat total

end Cache

end UiSchema
