import Mathlib.Data.Finset.Card
import SheetQuery.Search.Cache

/-!
# What a cache still remembers

The entries of a cache stand in the order of their last use. A key is forgotten only after as many
other keys have been used as the cache has room for.

* `Cache.Keeps`: a key has its value, and only given keys have been used since;
* `Keeps.read`, `Keeps.store`: what becomes of that when a key is looked up or stored.
-/

namespace SheetQuery.Cache

variable {κ α : Type} [DecidableEq κ]

/-- The entries of a list, with that of a key put last. -/
def touch (entries : List (κ × α)) (key : κ) (value : α) : List (κ × α) :=
  entries.filter (fun entry => !(entry.1 == key)) ++ [(key, value)]

/-- Has a key its value in a list of entries, followed only by entries of other keys, all among the
given ones? -/
def KeepsIn (entries : List (κ × α)) (key : κ) (value : α) (newer : Finset κ) : Prop :=
  ∃ before after, entries = before ++ (key, value) :: after ∧ (∀ entry ∈ before, entry.1 ≠ key) ∧
    (after.map Prod.fst).Nodup ∧ ∀ entry ∈ after, entry.1 ∈ newer.erase key

/-- Does a cache remember the value of a key, so that of all keys only the given ones have been used
after it? -/
def Keeps (cache : Cache κ α) (key : κ) (value : α) (newer : Finset κ) : Prop :=
  KeepsIn cache.entries key value newer

variable {entries : List (κ × α)} {key other : κ} {value found : α} {newer more : Finset κ}

/-! ## Lists of entries -/

theorem KeepsIn.mono (h : KeepsIn entries key value newer) (hsub : newer ⊆ more) :
    KeepsIn entries key value more := by
  obtain ⟨before, after, heq, hbefore, hnodup, hafter⟩ := h
  exact ⟨before, after, heq, hbefore, hnodup,
    fun entry hentry => Finset.erase_subset_erase key hsub (hafter entry hentry)⟩

theorem KeepsIn.lookup_eq (h : KeepsIn entries key value newer) :
    entries.lookup key = some value := by
  obtain ⟨before, after, heq, hbefore, -⟩ := h
  rw [List.lookup_eq_some_iff]
  exact ⟨before, after, heq, fun entry hentry => by simpa using (hbefore entry hentry).symm⟩

/-- A key that is put last is followed by none. -/
theorem keepsIn_touch_self (entries : List (κ × α)) (key : κ) (value : α) (newer : Finset κ) :
    KeepsIn (touch entries key value) key value newer :=
  ⟨_, [], rfl, by simp, by simp, by simp⟩

/-- A key is followed by another one that is put last. -/
theorem KeepsIn.touch_of_ne (h : KeepsIn entries key value newer) (hne : other ≠ key) (found : α) :
    KeepsIn (touch entries other found) key value (insert other newer) := by
  obtain ⟨before, after, rfl, hbefore, hnodup, hafter⟩ := h
  have hkept : (!(key == other)) = true := by simpa using hne.symm
  refine ⟨before.filter fun entry => !(entry.1 == other),
    (after.filter fun entry => !(entry.1 == other)) ++ [(other, found)], ?_, ?_, ?_, ?_⟩
  · simp [touch, hkept]
  · exact fun entry hentry => hbefore entry (List.mem_filter.mp hentry).1
  · have hfilter : ((after.filter fun entry => !(entry.1 == other)).map Prod.fst).Nodup :=
      hnodup.sublist (List.filter_sublist.map _)
    simpa [List.nodup_append] using hfilter
  · intro entry hentry
    rcases List.mem_append.mp hentry with hentry | hentry
    · have hmem := hafter entry (List.mem_filter.mp hentry).1
      exact Finset.erase_subset_erase key (Finset.subset_insert other newer) hmem
    · rw [List.mem_singleton.mp hentry]
      exact Finset.mem_erase.mpr ⟨hne, Finset.mem_insert_self other newer⟩

/-- The entries that follow a key are no more than the keys that have been used after it. -/
theorem length_le_card {after : List (κ × α)} (hnodup : (after.map Prod.fst).Nodup)
    (hafter : ∀ entry ∈ after, entry.1 ∈ newer) : after.length ≤ newer.card := by
  have hsub : (after.map Prod.fst).toFinset ⊆ newer := by
    intro name hname
    obtain ⟨entry, hentry, rfl⟩ := List.mem_map.mp (List.mem_toFinset.mp hname)
    exact hafter entry hentry
  calc after.length
      = (after.map Prod.fst).toFinset.card := by
        rw [List.toFinset_card_of_nodup hnodup, List.length_map]
    _ ≤ newer.card := Finset.card_le_card hsub

/-- A key stays in the list when the oldest entries are dropped, if fewer others have been used after
it than there is room for. -/
theorem KeepsIn.drop (h : KeepsIn entries key value newer) {capacity : Nat}
    (hroom : (newer.erase key).card < capacity) :
    KeepsIn (entries.drop (entries.length - capacity)) key value newer := by
  obtain ⟨before, after, rfl, hbefore, hnodup, hafter⟩ := h
  have hlength : after.length < capacity := (length_le_card hnodup hafter).trans_lt hroom
  have hsurplus : (before ++ (key, value) :: after).length - capacity ≤ before.length := by
    simp only [List.length_append, List.length_cons]
    omega
  refine ⟨before.drop _, after, List.drop_append_of_le_length hsurplus, ?_, hnodup, hafter⟩
  exact fun entry hentry => hbefore entry (List.mem_of_mem_drop hentry)

/-! ## Caches -/

variable {cache : Cache κ α}

theorem entries_store (cache : Cache κ α) (key : κ) (value : α) :
    (cache.store key value).entries = (touch cache.entries key value).drop
      ((touch cache.entries key value).length - cache.capacity) :=
  rfl

@[simp] theorem capacity_store (cache : Cache κ α) (key : κ) (value : α) :
    (cache.store key value).capacity = cache.capacity := rfl

@[simp] theorem capacity_read (cache : Cache κ α) (key : κ) :
    (cache.read key).2.capacity = cache.capacity := by
  unfold read
  split <;> rfl

theorem entries_read_of_lookup (h : cache.entries.lookup key = some value) :
    (cache.read key).2.entries = touch cache.entries key value := by
  rw [read, h]
  rfl

theorem entries_read_of_not_contains (h : cache.contains key = false) :
    (cache.read key).2.entries = cache.entries := by
  rw [contains, Option.isSome_eq_false_iff, Option.isNone_iff_eq_none] at h
  rw [read, h]

theorem Keeps.mono (h : cache.Keeps key value newer) (hsub : newer ⊆ more) :
    cache.Keeps key value more :=
  KeepsIn.mono h hsub

/-- A remembered key is found. -/
theorem Keeps.read_eq (h : cache.Keeps key value newer) : (cache.read key).1 = some value := by
  rw [read, KeepsIn.lookup_eq h]

/-- The keys that looking one up uses: itself, if it is found. -/
def usedByRead (cache : Cache κ α) (key : κ) : Finset κ :=
  if cache.contains key then {key} else ∅

/-- Looking a key up keeps every other one, and counts as a use of it if it is found. -/
theorem Keeps.read (h : cache.Keeps key value newer) (other : κ) :
    (cache.read other).2.Keeps key value (newer ∪ cache.usedByRead other) := by
  by_cases hsame : other = key
  · subst hsame
    rw [Keeps, entries_read_of_lookup (KeepsIn.lookup_eq h)]
    exact keepsIn_touch_self _ _ _ _
  · cases hcontains : cache.contains other with
    | false =>
      rw [Keeps, entries_read_of_not_contains hcontains]
      exact h.mono Finset.subset_union_left
    | true =>
      obtain ⟨found, hfound⟩ := Option.isSome_iff_exists.mp hcontains
      rw [Keeps, entries_read_of_lookup hfound, usedByRead, if_pos hcontains, Finset.union_comm]
      exact KeepsIn.touch_of_ne h hsame found

/-- A key that has just been stored is remembered. -/
theorem keeps_store_self (cache : Cache κ α) (key : κ) (value : α) (newer : Finset κ)
    (hroom : 0 < cache.capacity) : (cache.store key value).Keeps key value newer := by
  have hnone := (keepsIn_touch_self cache.entries key value ∅).drop (by simpa using hroom)
  rw [Keeps, entries_store]
  exact hnone.mono (Finset.empty_subset newer)

/-- Storing a key keeps another one if fewer have been used after it than there is room for. -/
theorem Keeps.store (h : cache.Keeps key value newer) (hne : other ≠ key) (found : α)
    (hroom : ((insert other newer).erase key).card < cache.capacity) :
    (cache.store other found).Keeps key value (insert other newer) := by
  rw [Keeps, entries_store]
  exact (KeepsIn.touch_of_ne h hne found).drop hroom

end SheetQuery.Cache
