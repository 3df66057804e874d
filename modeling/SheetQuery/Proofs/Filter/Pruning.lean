import SheetQuery.Proofs.Filter.Parts
import SheetQuery.Proofs.Filter.Prune

/-!
# What pruning leaves as it is

A tree that has only leaves on known columns and no empty composition is not touched by pruning, and
what pruning leaves of any tree is one of these.

* `prune?_eq_self`: such a tree is left as it is;
* `prune?_eq_self_iff`: and no other;
* `prune?_prune?`: what is pruned once is pruned;
* `pruning_keeps_known_leaves`: all that pruning does to a tree.
-/

namespace SheetQuery.Filter

variable {columns : List String}

/-- Are all leaves of a tree on known columns, and none of its compositions empty? -/
structure IsPruned (columns : List String) (filter : Filter) : Prop where
  known : ∀ leaf ∈ filter.leaves, leaf.field ∈ columns
  filled : ∀ part ∈ filter.parts, part.isComposite = true → part.children ≠ []

mutual

/-- A pruned tree is left as it is. -/
theorem prune?_eq_self : ∀ {filter : Filter}, filter.IsPruned columns →
    filter.prune? columns = some filter
  | leaf l, h => by
    have hknown : l.field ∈ columns := h.known l (by simp [leaves])
    rw [prune?, if_pos (List.contains_iff_mem.mpr hknown)]
  | conj children, h => by
    have hne : children ≠ [] := h.filled (conj children) List.mem_cons_self rfl
    rw [prune?, pruneAll_eq_self (by simpa only [leaves] using h.known)
      fun part hpart => h.filled part (List.mem_cons_of_mem _ hpart)]
    split
    · exact absurd rfl hne
    · rfl
  | disj children, h => by
    have hne : children ≠ [] := h.filled (disj children) List.mem_cons_self rfl
    rw [prune?, pruneAll_eq_self (by simpa only [leaves] using h.known)
      fun part hpart => h.filled part (List.mem_cons_of_mem _ hpart)]
    split
    · exact absurd rfl hne
    · rfl
  | neg child, h => by
    have hchild : child.IsPruned columns :=
      ⟨by simpa only [leaves] using h.known,
        fun part hpart => h.filled part (List.mem_cons_of_mem _ hpart)⟩
    rw [prune?, prune?_eq_self hchild, Option.map_some]

theorem pruneAll_eq_self : ∀ {children : List Filter},
    (∀ leaf ∈ leavesAll children, leaf.field ∈ columns) →
    (∀ part ∈ partsAll children, part.isComposite = true → part.children ≠ []) →
    pruneAll columns children = children
  | [], _, _ => rfl
  | child :: children, hknown, hfilled => by
    simp only [leavesAll, partsAll, List.mem_append, or_imp, forall_and] at hknown hfilled
    rw [pruneAll, prune?_eq_self ⟨hknown.1, hfilled.1⟩]
    dsimp only
    rw [pruneAll_eq_self hknown.2 hfilled.2]

end

/-- What pruning leaves is pruned. -/
theorem isPruned_of_prune? {filter kept : Filter} (h : filter.prune? columns = some kept) :
    kept.IsPruned columns := by
  refine ⟨fun leaf hleaf => ?_, children_ne_nil_of_prune? h⟩
  rw [leaves_prune? h, List.mem_filter] at hleaf
  exact List.contains_iff_mem.mp hleaf.2

/-- Pruning leaves just the pruned trees as they are. -/
theorem prune?_eq_self_iff {filter : Filter} :
    filter.prune? columns = some filter ↔ filter.IsPruned columns :=
  ⟨isPruned_of_prune?, prune?_eq_self⟩

/-- What is pruned once is pruned. -/
theorem prune?_prune? {filter kept : Filter} (h : filter.prune? columns = some kept) :
    kept.prune? columns = some kept :=
  prune?_eq_self (isPruned_of_prune? h)

theorem prune?_eq_none_iff_mentions {filter : Filter} :
    filter.prune? columns = none ↔ filter.mentions columns = false := by
  rw [prune?_eq_none_iff, mentions, List.any_eq_false]
  simp only [List.contains_iff_mem]

/-- Nothing is left of a tree exactly if it mentions no known column. What is left has the leaves on
known columns, unchanged and in order; none of its compositions is empty, each negation has one child
and is written with it alone, and pruning it again changes nothing. Pruning leaves a tree as it is
exactly if all its leaves are on known columns and none of its compositions is empty. -/
theorem pruning_keeps_known_leaves (columns : List String) (filter : Filter) :
    (filter.prune? columns = none ↔ filter.mentions columns = false) ∧
    (∀ kept, filter.prune? columns = some kept →
      kept.leaves = filter.leaves.filter (fun leaf => columns.contains leaf.field) ∧
      (∀ part ∈ kept.parts, part.isComposite = true → part.children ≠ []) ∧
      (∀ part ∈ kept.parts, ∀ child, part = .neg child → part.children = [child] ∧
        part.encode = .record [("op", .text "not"), ("children", .list [child.encode])]) ∧
      kept.prune? columns = some kept) ∧
    (filter.prune? columns = some filter ↔
      (∀ leaf ∈ filter.leaves, leaf.field ∈ columns) ∧
      ∀ part ∈ filter.parts, part.isComposite = true → part.children ≠ []) := by
  refine ⟨prune?_eq_none_iff_mentions, fun kept hkept => ?_, ?_⟩
  · refine ⟨leaves_prune? hkept, children_ne_nil_of_prune? hkept, ?_, prune?_prune? hkept⟩
    rintro part - child rfl
    exact ⟨rfl, by rw [encode]⟩
  · rw [prune?_eq_self_iff]
    exact ⟨fun h => ⟨h.known, h.filled⟩, fun h => ⟨h.1, h.2⟩⟩

/-- An empty disjunction goes, and with its only leaf a negation; the conjunction keeps the rest, and
that is not pruned further. -/
theorem emptied_parts_are_pruned :
    let kept := conj [leaf ⟨"Duration", .presence false⟩]
    let whole := conj [disj [], neg (leaf ⟨"Mood", .presence false⟩), leaf ⟨"Duration", .presence false⟩]
    whole.prune? ["Duration"] = some kept ∧
      kept.leaves = whole.leaves.filter (fun leaf => ["Duration"].contains leaf.field) ∧
      kept.prune? ["Duration"] = some kept := by
  intro kept whole
  have hkept : whole.prune? ["Duration"] = some kept := rfl
  have hall := (pruning_keeps_known_leaves ["Duration"] whole).2.1 kept hkept
  exact ⟨hkept, hall.1, hall.2.2.2⟩

end SheetQuery.Filter
