import SheetQuery.Query.Normal
import SheetQuery.Schema.Basic

/-!
# A bounded cache

The cache remembers the values of the keys used last and forgets the key that has gone unused the
longest when it would outgrow its capacity. It counts the reads that found their key, those that did
not, and the keys it forgot.

* `Cache.make`: a new cache, if its capacity is positive;
* `Cache.read`: looks a key up and makes it the most recent one;
* `Cache.store`: sets the value of a key and makes it the most recent one;
* `Cache.Key`: what resolved filters are remembered by.
-/

namespace SheetQuery

/-- A cache: its entries from the least to the most recently used, and its counts. -/
structure Cache (κ α : Type) where
  capacity : Nat
  entries : List (κ × α)
  hits : Nat
  misses : Nat
  evictions : Nat

namespace Cache

/-- The capacity, if nothing else is said. -/
def defaultCapacity : Nat := 256

variable {κ α : Type} [BEq κ]

/-- The cache that remembers nothing yet. -/
def empty (capacity : Nat) : Cache κ α := ⟨capacity, [], 0, 0, 0⟩

/-- What is said of a capacity that is not positive. -/
def capacityRefusal : String := "max_entries must be a positive integer"

/-- A new cache of a capacity, which must be positive. -/
def make (capacity : Int) : Except String (Cache κ α) :=
  if 0 < capacity then .ok (empty capacity.toNat) else .error capacityRefusal

/-- The entries under other keys than `key`. -/
def others (cache : Cache κ α) (key : κ) : List (κ × α) :=
  cache.entries.filter fun entry => !(entry.1 == key)

/-- How many entries there are. -/
def size (cache : Cache κ α) : Nat := cache.entries.length

/-- Is the key remembered? Asking does not count as a use. -/
def contains (cache : Cache κ α) (key : κ) : Bool := (cache.entries.lookup key).isSome

/-- The value of a key, which becomes the most recent one. -/
def read (cache : Cache κ α) (key : κ) : Option α × Cache κ α :=
  match cache.entries.lookup key with
  | some value =>
    let entries := cache.others key ++ [(key, value)]
    (some value, { cache with entries, hits := cache.hits + 1 })
  | none => (none, { cache with misses := cache.misses + 1 })

/-- Forgets the oldest entries beyond the capacity. -/
def shrink (cache : Cache κ α) : Cache κ α :=
  let surplus := cache.size - cache.capacity
  { cache with entries := cache.entries.drop surplus, evictions := cache.evictions + surplus }

/-- Sets the value of a key, which becomes the most recent one. -/
def store (cache : Cache κ α) (key : κ) (value : α) : Cache κ α :=
  shrink { cache with entries := cache.others key ++ [(key, value)] }

/-- Forgets every entry, but not the counts. -/
def clear (cache : Cache κ α) : Cache κ α := { cache with entries := [] }

/-- What a resolved filter is remembered by: the entity, the columns in order and the query in
normal form. -/
structure Key where
  entity : String
  columns : List String
  query : String
deriving DecidableEq, Repr

/-- The key of a query. -/
def Key.of (entity : String) (columns : List String) (text : String) : Key :=
  ⟨entity, columns, Query.normalText text⟩

end Cache

end SheetQuery
