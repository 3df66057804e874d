import Mathlib.Data.List.Dedup
import Mathlib.Data.List.DropRight
import Mathlib.Logic.Function.Basic
import SheetQuery.Proofs.Search.Recency

/-!
# A cache as a memory of last uses

Beside the cache stands a memory that forgets nothing: it notes every use of a key, a use being a store
or a read that finds the key, and the value last stored under it. The cache is the end of that memory:
the keys used last, as many as it has room for, in the order of their last use.

* `Cache.Memory`, `Memory.recent`: the memory, and its keys used last;
* `Memory.recent_use`: what one more use does to them;
* `Mirrors.perform`, `Mirrors.run`: the cache stays the end of the memory, and answers like it;
* `Mirrors.evictions_add_size_run`: no key is lost without being counted;
* `cache_remembers_last_uses`: all of this for every run of a cache that was empty.
-/

namespace SheetQuery.Cache

variable {κ α : Type} [DecidableEq κ]

/-! ## Operations -/

/-- What can be done with a cache. -/
inductive Operation (κ α : Type) where
  | read (key : κ)
  | store (key : κ) (value : α)
  | contains (key : κ)
  | clear

/-- Is it a read? -/
def Operation.isRead : Operation κ α → Bool
  | read _ => true
  | _ => false

/-- What an operation answers. -/
inductive Answer (α : Type) where
  | value (found : Option α)
  | known (found : Bool)
  | done
deriving DecidableEq

/-- One operation: its answer and the cache after it. -/
def perform (cache : Cache κ α) : Operation κ α → Answer α × Cache κ α
  | .read key => (.value (cache.read key).1, (cache.read key).2)
  | .store key value => (.done, cache.store key value)
  | .contains key => (.known (cache.contains key), cache)
  | .clear => (.done, cache.clear)

/-- The cache after some operations. -/
def run (cache : Cache κ α) : List (Operation κ α) → Cache κ α
  | [] => cache
  | operation :: operations => run (cache.perform operation).2 operations

/-- The answers to some operations. -/
def answers (cache : Cache κ α) : List (Operation κ α) → List (Answer α)
  | [] => []
  | operation :: operations =>
    (cache.perform operation).1 :: answers (cache.perform operation).2 operations

/-- How many keys an operation stores that the cache does not have: one or none. -/
def freshBy (cache : Cache κ α) : Operation κ α → Nat
  | .store key _ => if cache.contains key then 0 else 1
  | _ => 0

/-- How many entries an operation removes by clearing the cache. -/
def clearedBy (cache : Cache κ α) : Operation κ α → Nat
  | .clear => cache.size
  | _ => 0

/-- How many keys some operations store that the cache does not have at that moment. -/
def fresh (cache : Cache κ α) : List (Operation κ α) → Nat
  | [] => 0
  | operation :: operations =>
    cache.freshBy operation + fresh (cache.perform operation).2 operations

/-- How many entries some operations remove by clearing the cache. -/
def cleared (cache : Cache κ α) : List (Operation κ α) → Nat
  | [] => 0
  | operation :: operations =>
    cache.clearedBy operation + cleared (cache.perform operation).2 operations

/-! ## The memory -/

/-- A memory that forgets nothing until it is cleared: the keys in the order of their uses, oldest
first, and the value last stored under each. -/
structure Memory (κ α : Type) where
  uses : List κ
  value? : κ → Option α

namespace Memory

/-- The memory of no use at all. -/
def blank : Memory κ α := ⟨[], fun _ => none⟩

/-- The distinct keys used last, `capacity` of them at most, in the order of their last use. -/
def recent (memory : Memory κ α) (capacity : Nat) : List κ := memory.uses.dedup.rtake capacity

/-- One more use of a key. -/
def use (memory : Memory κ α) (key : κ) : Memory κ α := { memory with uses := memory.uses ++ [key] }

/-- One operation on a memory of which only the keys used last can be reached. -/
def perform (capacity : Nat) (memory : Memory κ α) : Operation κ α → Answer α × Memory κ α
  | .read key =>
    if key ∈ memory.recent capacity then (.value (memory.value? key), memory.use key)
    else (.value none, memory)
  | .store key value =>
    (.done, { memory.use key with value? := Function.update memory.value? key (some value) })
  | .contains key => (.known (decide (key ∈ memory.recent capacity)), memory)
  | .clear => (.done, blank)

/-- The memory after some operations. -/
def run (capacity : Nat) (memory : Memory κ α) : List (Operation κ α) → Memory κ α
  | [] => memory
  | operation :: operations => run capacity (memory.perform capacity operation).2 operations

/-- The answers to some operations. -/
def answers (capacity : Nat) (memory : Memory κ α) : List (Operation κ α) → List (Answer α)
  | [] => []
  | operation :: operations => (memory.perform capacity operation).1 ::
      answers capacity (memory.perform capacity operation).2 operations

end Memory

/-! ## Keys used last -/

/-- A list of keys, with one of them put last. -/
def putLast (keys : List κ) (key : κ) : List κ :=
  keys.filter (fun other => !(other == key)) ++ [key]

section Keys

variable {keys more : List κ} {capacity : Nat}

/-- The distinct keys after one more use: its key is put last. -/
theorem dedup_concat (keys : List κ) (key : κ) : (keys ++ [key]).dedup = putLast keys.dedup key := by
  -- of equal keys `dedup` keeps the last, so a first
  -- key stays if it comes neither later nor as `key`
  induction keys with
  | nil => simp [putLast]
  | cons first keys ih =>
    rw [putLast] at ih ⊢
    by_cases hmem : first ∈ keys
    · rw [List.cons_append, List.dedup_cons_of_mem (List.mem_append_left _ hmem), ih,
        List.dedup_cons_of_mem hmem]
    · rw [List.dedup_cons_of_notMem hmem]
      by_cases hkey : first = key
      · rw [List.cons_append, List.dedup_cons_of_mem (by simp [hkey]), ih]
        simp [hkey]
      · rw [List.cons_append, List.dedup_cons_of_notMem (by simp [hmem, hkey]), ih]
        simp [hkey]

/-- Putting a key last makes a list of distinct keys longer only if the key is new. -/
theorem length_putLast (h : keys.Nodup) (key : κ) :
    (putLast keys key).length = keys.length + if key ∈ keys then 0 else 1 := by
  have herase : keys.erase key = keys.filter fun other => !(other == key) := h.erase_eq_filter key
  rw [putLast, List.length_append, ← herase, List.length_singleton]
  by_cases hmem : key ∈ keys
  · have hpositive : 0 < keys.length := List.length_pos_of_mem hmem
    rw [List.length_erase_of_mem hmem, if_pos hmem]
    omega
  · rw [List.erase_of_not_mem hmem, if_neg hmem]

omit [DecidableEq κ] in
theorem length_rtake_le (keys : List κ) (capacity : Nat) : (keys.rtake capacity).length ≤ capacity := by
  rw [List.rtake, List.length_drop]
  omega

omit [DecidableEq κ] in
theorem rtake_of_length_le (h : keys.length ≤ capacity) : keys.rtake capacity = keys := by
  rw [List.rtake, Nat.sub_eq_zero_of_le h, List.drop_zero]

omit [DecidableEq κ] in
theorem rtake_eq_of_suffix (h : keys <:+ more) (hcapacity : capacity ≤ keys.length) :
    keys.rtake capacity = more.rtake capacity := by
  obtain ⟨before, rfl⟩ := h
  have hlength : (before ++ keys).length - capacity = before.length + (keys.length - capacity) := by
    rw [List.length_append]
    omega
  rw [List.rtake, List.rtake, hlength, List.drop_length_add_append]

/-- To know the last of some distinct keys after one has been put last, it is enough to know the last
of them before. -/
theorem rtake_putLast (h : keys.Nodup) (key : κ) (capacity : Nat) :
    (putLast (keys.rtake capacity) key).rtake capacity = (putLast keys key).rtake capacity := by
  cases capacity with
  | zero => rw [List.rtake_zero, List.rtake_zero]
  | succ room =>
    by_cases hlength : keys.length ≤ room + 1
    · rw [rtake_of_length_le hlength]
    · -- of the last `room + 1` keys at most one is taken out, so `room` of them are left
      have hsuffix : keys.rtake (room + 1) <:+ keys := List.drop_suffix _ _
      have hlast : (keys.rtake (room + 1)).length = room + 1 := by
        rw [List.rtake, List.length_drop]
        omega
      have hput := length_putLast (h.sublist hsuffix.sublist) key
      rw [putLast, List.length_append, List.length_singleton] at hput
      rw [putLast, putLast, List.rtake_concat_succ, List.rtake_concat_succ,
        rtake_eq_of_suffix (hsuffix.filter _) (by omega)]

end Keys

namespace Memory

variable {memory : Memory κ α} {capacity : Nat} {key : κ}

theorem nodup_recent (memory : Memory κ α) (capacity : Nat) : (memory.recent capacity).Nodup :=
  (List.nodup_dedup memory.uses).sublist (List.drop_suffix _ _).sublist

/-- One more use puts its key last, and the oldest key goes if there are too many then. -/
theorem recent_use (memory : Memory κ α) (key : κ) (capacity : Nat) :
    (memory.use key).recent capacity = (putLast (memory.recent capacity) key).rtake capacity := by
  rw [recent, use, dedup_concat, recent, rtake_putLast (List.nodup_dedup memory.uses)]

/-- The use of a key that is among the last ones removes none of them. -/
theorem recent_use_of_mem (h : key ∈ memory.recent capacity) :
    (memory.use key).recent capacity = putLast (memory.recent capacity) key := by
  have hroom : (memory.recent capacity).length ≤ capacity := length_rtake_le _ _
  rw [recent_use, rtake_of_length_le]
  rw [length_putLast (memory.nodup_recent capacity), if_pos h]
  exact hroom

end Memory

/-! ## The cache as the end of the memory -/

theorem keys_touch (entries : List (κ × α)) (key : κ) (value : α) :
    (touch entries key value).map Prod.fst = putLast (entries.map Prod.fst) key := by
  rw [touch, List.map_append, putLast, List.filter_map]
  rfl

theorem contains_eq_decide (cache : Cache κ α) (key : κ) :
    cache.contains key = decide (key ∈ cache.entries.map Prod.fst) := by
  rw [contains, Bool.eq_iff_iff, decide_eq_true_eq]
  constructor
  · intro h
    obtain ⟨value, hvalue⟩ := Option.isSome_iff_exists.mp h
    obtain ⟨before, after, heq, -⟩ := List.lookup_eq_some_iff.mp hvalue
    simp [heq]
  · intro h
    obtain ⟨entry, hentry, rfl⟩ := List.mem_map.mp h
    rw [← Option.ne_none_iff_isSome, Ne, List.lookup_eq_none_iff]
    intro hnone
    exact absurd (hnone entry hentry) (by simp)

/-- Does a cache hold the keys that a memory has used last, each with the value last stored? -/
structure Mirrors (cache : Cache κ α) (memory : Memory κ α) : Prop where
  keys_eq : cache.entries.map Prod.fst = memory.recent cache.capacity
  value_eq : ∀ entry ∈ cache.entries, memory.value? entry.1 = some entry.2

variable {cache : Cache κ α} {memory : Memory κ α} {key : κ} {value : α}

theorem mirrors_empty (capacity : Nat) : Mirrors (empty capacity : Cache κ α) Memory.blank where
  keys_eq := by simp [empty, Memory.recent, Memory.blank, List.rtake]
  value_eq := nofun

theorem Mirrors.size_le (h : Mirrors cache memory) : cache.size ≤ cache.capacity := by
  have hlength : cache.size = (cache.entries.map Prod.fst).length := (List.length_map _).symm
  rw [hlength, h.keys_eq]
  exact length_rtake_le _ _

theorem Mirrors.contains_eq (h : Mirrors cache memory) (key : κ) :
    cache.contains key = decide (key ∈ memory.recent cache.capacity) := by
  rw [contains_eq_decide, h.keys_eq]

/-- The values of a list whose one key has been put last. -/
theorem value_of_mem_touch {value? : κ → Option α} {entries : List (κ × α)}
    (hkey : value? key = some value)
    (h : ∀ entry ∈ entries, entry.1 ≠ key → value? entry.1 = some entry.2) :
    ∀ entry ∈ touch entries key value, value? entry.1 = some entry.2 := by
  intro entry hentry
  rcases List.mem_append.mp hentry with hold | hnew
  · obtain ⟨hmem, hne⟩ := List.mem_filter.mp hold
    exact h entry hmem (by simpa using hne)
  · obtain rfl := List.mem_singleton.mp hnew
    exact hkey

/-- A read answers like the memory, and is a use if it finds its key. -/
theorem Mirrors.read (h : Mirrors cache memory) (key : κ) :
    (cache.perform (.read key)).1 = (memory.perform cache.capacity (.read key)).1 ∧
      Mirrors (cache.perform (.read key)).2 (memory.perform cache.capacity (.read key)).2 := by
  have hcontains := h.contains_eq key
  rcases hlookup : cache.entries.lookup key with _ | value
  · -- a miss: neither side changes
    have habsent : cache.contains key = false := by
      rw [contains, hlookup]
      rfl
    have hnone : key ∉ memory.recent cache.capacity := by
      rw [habsent] at hcontains
      exact of_decide_eq_false hcontains.symm
    rw [perform, Memory.perform, if_neg hnone, Cache.read, hlookup]
    exact ⟨rfl, h.keys_eq, h.value_eq⟩
  · -- a hit: the key is put last on both sides, and there is room for it as there was before
    have hmem : key ∈ memory.recent cache.capacity := by
      rw [contains, hlookup] at hcontains
      exact of_decide_eq_true hcontains.symm
    have hvalue : memory.value? key = some value := by
      obtain ⟨before, after, heq, -⟩ := List.lookup_eq_some_iff.mp hlookup
      exact h.value_eq (key, value) (by simp [heq])
    rw [perform, Memory.perform, if_pos hmem]
    refine ⟨by rw [Cache.read, hlookup, hvalue], ?_, ?_⟩
    · show (cache.read key).2.entries.map Prod.fst = _
      rw [entries_read_of_lookup hlookup, keys_touch, h.keys_eq]
      exact (capacity_read cache key).symm ▸ (Memory.recent_use_of_mem hmem).symm
    · show ∀ entry ∈ (cache.read key).2.entries, memory.value? entry.1 = some entry.2
      rw [entries_read_of_lookup hlookup]
      exact value_of_mem_touch hvalue fun entry hentry _ => h.value_eq entry hentry

/-- A store is a use, and drops the oldest key if there is no room for it. -/
theorem Mirrors.store (h : Mirrors cache memory) (key : κ) (value : α) :
    Mirrors (cache.store key value)
      { memory.use key with value? := Function.update memory.value? key (some value) } where
  keys_eq := by
    have hlength : (touch cache.entries key value).length =
        ((touch cache.entries key value).map Prod.fst).length := (List.length_map _).symm
    rw [entries_store, List.map_drop, hlength, keys_touch, h.keys_eq]
    exact (memory.recent_use key cache.capacity).symm
  value_eq := by
    intro entry hentry
    rw [entries_store] at hentry
    refine value_of_mem_touch (Function.update_self key (some value) memory.value?) ?_ entry
      (List.mem_of_mem_drop hentry)
    intro entry hentry hne
    show Function.update memory.value? key (some value) entry.1 = _
    rw [Function.update_of_ne hne]
    exact h.value_eq entry hentry

/-- Whatever is done, the cache answers like the memory and stays the end of it. -/
theorem Mirrors.perform (h : Mirrors cache memory) (operation : Operation κ α) :
    (cache.perform operation).1 = (memory.perform cache.capacity operation).1 ∧
      Mirrors (cache.perform operation).2 (memory.perform cache.capacity operation).2 := by
  cases operation with
  | read key => exact h.read key
  | store key value => exact ⟨rfl, h.store key value⟩
  | contains key => exact ⟨congrArg Answer.known (h.contains_eq key), h⟩
  | clear => exact ⟨rfl, mirrors_empty cache.capacity |>.keys_eq, nofun⟩

theorem capacity_perform (cache : Cache κ α) (operation : Operation κ α) :
    (cache.perform operation).2.capacity = cache.capacity := by
  cases operation with
  | read key => exact capacity_read cache key
  | _ => rfl

theorem Mirrors.run (h : Mirrors cache memory) (operations : List (Operation κ α)) :
    cache.answers operations = memory.answers cache.capacity operations ∧
      Mirrors (cache.run operations) (memory.run cache.capacity operations) := by
  induction operations generalizing cache memory with
  | nil => exact ⟨rfl, h⟩
  | cons operation operations ih =>
    obtain ⟨hanswer, hnext⟩ := h.perform operation
    obtain ⟨hanswers, hrun⟩ := ih hnext
    rw [capacity_perform] at hanswers hrun
    constructor
    · rw [answers, Memory.answers, hanswer, hanswers]
    · exact hrun

theorem capacity_run (cache : Cache κ α) (operations : List (Operation κ α)) :
    (cache.run operations).capacity = cache.capacity := by
  induction operations generalizing cache with
  | nil => rfl
  | cons operation operations ih => exact (ih _).trans (capacity_perform cache operation)

/-! ## Counts -/

/-- Each read counts as a hit or a miss, and nothing else does. -/
theorem hits_add_misses_perform (cache : Cache κ α) (operation : Operation κ α) :
    (cache.perform operation).2.hits + (cache.perform operation).2.misses =
      cache.hits + cache.misses + if operation.isRead then 1 else 0 := by
  cases operation with
  | read key =>
    show (cache.read key).2.hits + (cache.read key).2.misses = cache.hits + cache.misses + 1
    rw [read]
    split
    · show cache.hits + 1 + cache.misses = _
      omega
    · show cache.hits + (cache.misses + 1) = _
      omega
  | _ => rfl

theorem hits_add_misses_run (cache : Cache κ α) (operations : List (Operation κ α)) :
    (cache.run operations).hits + (cache.run operations).misses =
      cache.hits + cache.misses + operations.countP Operation.isRead := by
  induction operations generalizing cache with
  | nil => rfl
  | cons operation operations ih =>
    have hstep := cache.hits_add_misses_perform operation
    rw [run, ih, List.countP_cons]
    omega

/-- The entries become more only by a key that is new. -/
theorem Mirrors.length_touch (h : Mirrors cache memory) (key : κ) (value : α) :
    (touch cache.entries key value).length =
      cache.size + if cache.contains key then 0 else 1 := by
  have hnodup : (cache.entries.map Prod.fst).Nodup := by
    rw [h.keys_eq]
    exact memory.nodup_recent cache.capacity
  have hkeys := length_putLast hnodup key
  rw [← keys_touch _ _ value, List.length_map, List.length_map] at hkeys
  rw [hkeys, size, contains_eq_decide]
  simp only [decide_eq_true_eq]

/-- A key that comes in anew is found again among the entries, the evictions or what was cleared. -/
theorem Mirrors.evictions_add_size_perform (h : Mirrors cache memory) (operation : Operation κ α) :
    (cache.perform operation).2.evictions + (cache.perform operation).2.size +
        cache.clearedBy operation =
      cache.evictions + cache.size + cache.freshBy operation := by
  cases operation with
  | read key =>
    show (cache.read key).2.evictions + (cache.read key).2.size = cache.evictions + cache.size
    rcases hlookup : cache.entries.lookup key with _ | value
    · rw [Cache.read, hlookup]
      rfl
    · have hsize : (cache.read key).2.size = cache.size := by
        have htouch := h.length_touch key value
        rw [contains, hlookup, Option.isSome_some, if_pos rfl] at htouch
        rw [size, entries_read_of_lookup hlookup, htouch, Nat.add_zero]
      rw [hsize, Cache.read, hlookup]
  | store key value =>
    -- what does not fit is counted as evicted
    have htouch := h.length_touch key value
    have hsize : (cache.store key value).size =
        (touch cache.entries key value).length -
          ((touch cache.entries key value).length - cache.capacity) := List.length_drop
    have hevictions : (cache.store key value).evictions = cache.evictions +
        ((touch cache.entries key value).length - cache.capacity) := rfl
    show (cache.store key value).evictions + (cache.store key value).size =
      cache.evictions + cache.size + if cache.contains key then 0 else 1
    omega
  | contains key => rfl
  | clear => exact congrArg (· + cache.size) (Nat.add_zero cache.evictions)

theorem Mirrors.evictions_add_size_run (h : Mirrors cache memory)
    (operations : List (Operation κ α)) :
    (cache.run operations).evictions + (cache.run operations).size + cache.cleared operations =
      cache.evictions + cache.size + cache.fresh operations := by
  induction operations generalizing cache memory with
  | nil => rfl
  | cons operation operations ih =>
    have hstep := h.evictions_add_size_perform operation
    have hrest := ih (h.perform operation).2
    rw [Cache.run, cleared, fresh]
    omega

/-- **A cache is the end of a memory that forgets nothing.** After any operations on a cache that was
empty, and whatever its capacity:

* its keys, oldest first, are the distinct keys used last since it was cleared, as many as there is
  room for, in the order of their last use, and each has the value last stored under it;
* all answers have been those of the memory, and there are never more entries than there is room for;
* every read has been a hit or a miss;
* every key that was stored when it was not there has been evicted, has been cleared or is still there.
-/
theorem cache_remembers_last_uses (capacity : Nat) (operations : List (Operation κ α)) :
    let start : Cache κ α := empty capacity
    let cache := start.run operations
    let memory := Memory.blank.run capacity operations
    cache.entries.map Prod.fst = memory.recent capacity ∧
      (∀ entry ∈ cache.entries, memory.value? entry.1 = some entry.2) ∧
      start.answers operations = Memory.blank.answers capacity operations ∧
      cache.size ≤ capacity ∧
      cache.hits + cache.misses = operations.countP Operation.isRead ∧
      start.fresh operations = cache.evictions + cache.size + start.cleared operations := by
  intro start cache memory
  have hstart : Mirrors start Memory.blank := mirrors_empty capacity
  -- the memory mirrors the cache at every step, so the
  -- claims about keys and values hold of the memory
  obtain ⟨hanswers, hmirrors⟩ := hstart.run operations
  have hcapacity : cache.capacity = capacity := capacity_run start operations
  have hreads : cache.hits + cache.misses = 0 + operations.countP Operation.isRead :=
    start.hits_add_misses_run operations
  have hkeys : cache.evictions + cache.size + start.cleared operations =
      0 + start.fresh operations := hstart.evictions_add_size_run operations
  refine ⟨?_, hmirrors.value_eq, hanswers, ?_, ?_, ?_⟩
  · rw [hmirrors.keys_eq, hcapacity]
    rfl
  · rw [← hcapacity]
    exact hmirrors.size_le
  · omega
  · omega

/-- With room for two keys, the read of the first makes the second the one to go. -/
example : (empty 2 : Cache Nat String).answers
    [.store 1 "one", .store 2 "two", .read 1, .store 3 "three", .contains 2, .read 1] =
      [.done, .done, .value (some "one"), .done, .known false, .value (some "one")] := by decide

end SheetQuery.Cache
