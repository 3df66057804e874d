import SheetQuery.Filter.Repair

/-!
# Pruning to known columns

Pruning looks at the leaves only: it drops those on unknown columns and whatever is left empty by
that.

* `leaves_prune?`: the leaves that stay are those on known columns, in their order;
* `prune?_eq_none_iff`: nothing is left exactly if no leaf is on a known column;
* `mentions_of_prune?`: what is left mentions a known column.
-/

namespace SheetQuery.Filter

variable {columns : List String}

mutual

/-- Nothing is left of a tree exactly if none of its leaves is on a known column. -/
theorem prune?_eq_none_iff : ∀ {filter : Filter},
    filter.prune? columns = none ↔ ∀ leaf ∈ filter.leaves, leaf.field ∉ columns
  | leaf l => by simp [prune?, leaves]
  | conj children => by
    rw [prune?, leaves, ← pruneAll_eq_nil_iff]
    split <;> simp_all
  | disj children => by
    rw [prune?, leaves, ← pruneAll_eq_nil_iff]
    split <;> simp_all
  | neg child => by
    rw [prune?, leaves, Option.map_eq_none_iff]
    exact prune?_eq_none_iff

theorem pruneAll_eq_nil_iff : ∀ {children : List Filter},
    pruneAll columns children = [] ↔ ∀ leaf ∈ leavesAll children, leaf.field ∉ columns
  | [] => by simp [pruneAll, leavesAll]
  | child :: children => by
    simp only [leavesAll, List.mem_append, or_imp, forall_and]
    rw [pruneAll, ← prune?_eq_none_iff, ← pruneAll_eq_nil_iff]
    split <;> simp_all

end

mutual

/-- The leaves that stay are those on known columns. -/
theorem leaves_prune? : ∀ {filter kept : Filter}, filter.prune? columns = some kept →
    kept.leaves = filter.leaves.filter fun leaf => columns.contains leaf.field
  | leaf l, kept, h => by
    rw [prune?] at h
    split at h
    · next hknown =>
      rw [← Option.some.inj h]
      simp only [leaves, List.filter, hknown]
    · cases h
  | conj children, kept, h => by
    rw [prune?] at h
    split at h
    · cases h
    · rw [← Option.some.inj h, leaves, leavesAll_pruneAll, leaves]
  | disj children, kept, h => by
    rw [prune?] at h
    split at h
    · cases h
    · rw [← Option.some.inj h, leaves, leavesAll_pruneAll, leaves]
  | neg child, kept, h => by
    obtain ⟨inner, hinner, rfl⟩ := Option.map_eq_some_iff.mp h
    rw [leaves, leaves_prune? hinner, leaves]

theorem leavesAll_pruneAll : ∀ {children : List Filter}, leavesAll (pruneAll columns children) =
    (leavesAll children).filter fun leaf => columns.contains leaf.field
  | [] => rfl
  | child :: children => by
    rw [pruneAll, leavesAll, List.filter_append]
    split
    · next kept hkept => rw [leavesAll, leaves_prune? hkept, leavesAll_pruneAll]
    · next hnone =>
      -- a child that vanishes has no known leaf to keep
      have hunknown : child.leaves.filter (fun leaf => columns.contains leaf.field) = [] := by
        simpa [List.filter_eq_nil_iff] using prune?_eq_none_iff.mp hnone
      rw [hunknown, List.nil_append, leavesAll_pruneAll]

end

/-- What pruning leaves mentions a known column. -/
theorem mentions_of_prune? {filter kept : Filter} (h : filter.prune? columns = some kept) :
    kept.mentions columns = true := by
  have hsome : ∃ leaf ∈ filter.leaves, leaf.field ∈ columns := by
    apply Classical.byContradiction
    intro hunknown
    have hnone : filter.prune? columns = none := prune?_eq_none_iff.mpr (by simpa using hunknown)
    rw [hnone] at h
    cases h
  obtain ⟨leaf, hleaf, hknown⟩ := hsome
  rw [mentions, leaves_prune? h, List.any_eq_true]
  exact ⟨leaf, List.mem_filter.mpr ⟨hleaf, by simpa using hknown⟩, by simpa using hknown⟩

end SheetQuery.Filter
