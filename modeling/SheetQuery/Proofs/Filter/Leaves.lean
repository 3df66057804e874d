import SheetQuery.Filter.Matching
import SheetQuery.Filter.Repair

/-!
# Replacing the leaves of a filter

Repair, and whatever else replaces leaves one by one, keeps the tree above them. So what is to be known
of the replaced tree is known from the leaves.

* `leaves_mapLeaves`, `mapLeaves_mapLeaves`: the leaves of the new tree, and replacing twice;
* `mapLeaves_eq_iff`: two ways of replacing agree exactly if they do on every leaf;
* `holds_mapLeaves`: leaves may be replaced by any that hold of the same row.
-/

namespace SheetQuery.Filter

mutual

theorem leaves_mapLeaves (f : Leaf → Leaf) :
    ∀ filter : Filter, (filter.mapLeaves f).leaves = filter.leaves.map f
  | leaf l => rfl
  | conj children => by rw [mapLeaves, leaves, leaves_mapLeavesAll, leaves]
  | disj children => by rw [mapLeaves, leaves, leaves_mapLeavesAll, leaves]
  | neg child => by rw [mapLeaves, leaves, leaves_mapLeaves, leaves]

theorem leaves_mapLeavesAll (f : Leaf → Leaf) :
    ∀ children : List Filter, leavesAll (mapLeavesAll f children) = (leavesAll children).map f
  | [] => rfl
  | child :: children => by
    rw [mapLeavesAll, leavesAll, leaves_mapLeaves, leaves_mapLeavesAll, leavesAll, List.map_append]

end

mutual

theorem mapLeaves_mapLeaves (f g : Leaf → Leaf) :
    ∀ filter : Filter, (filter.mapLeaves g).mapLeaves f = filter.mapLeaves fun leaf => f (g leaf)
  | leaf l => rfl
  | conj children => by simp only [mapLeaves, mapLeavesAll_mapLeavesAll]
  | disj children => by simp only [mapLeaves, mapLeavesAll_mapLeavesAll]
  | neg child => by simp only [mapLeaves, mapLeaves_mapLeaves]

theorem mapLeavesAll_mapLeavesAll (f g : Leaf → Leaf) : ∀ children : List Filter,
    mapLeavesAll f (mapLeavesAll g children) = mapLeavesAll (fun leaf => f (g leaf)) children
  | [] => rfl
  | child :: children => by
    simp only [mapLeavesAll, mapLeaves_mapLeaves, mapLeavesAll_mapLeavesAll]

end

mutual

/-- Two ways of replacing leaves give the same tree exactly if they agree on every leaf of it. -/
theorem mapLeaves_eq_iff {f g : Leaf → Leaf} : ∀ {filter : Filter},
    filter.mapLeaves f = filter.mapLeaves g ↔ ∀ leaf ∈ filter.leaves, f leaf = g leaf
  | leaf l => by simp [mapLeaves, leaves]
  | conj children => by simp [mapLeaves, leaves, mapLeavesAll_eq_iff]
  | disj children => by simp [mapLeaves, leaves, mapLeavesAll_eq_iff]
  | neg child => by simp [mapLeaves, leaves, mapLeaves_eq_iff]

theorem mapLeavesAll_eq_iff {f g : Leaf → Leaf} : ∀ {children : List Filter},
    mapLeavesAll f children = mapLeavesAll g children ↔
      ∀ leaf ∈ leavesAll children, f leaf = g leaf
  | [] => by simp [mapLeavesAll, leavesAll]
  | child :: children => by
    simp [mapLeavesAll, leavesAll, mapLeaves_eq_iff, mapLeavesAll_eq_iff, or_imp, forall_and]

end

mutual

theorem mapLeaves_id : ∀ filter : Filter, filter.mapLeaves id = filter
  | leaf l => rfl
  | conj children => by rw [mapLeaves, mapLeavesAll_id]
  | disj children => by rw [mapLeaves, mapLeavesAll_id]
  | neg child => by rw [mapLeaves, mapLeaves_id]

theorem mapLeavesAll_id : ∀ children : List Filter, mapLeavesAll id children = children
  | [] => rfl
  | child :: children => by rw [mapLeavesAll, mapLeaves_id, mapLeavesAll_id]

end

mutual

/-- Leaves may be replaced by any that hold of the same row. -/
theorem holds_mapLeaves (row : Row) {f g : Leaf → Leaf} : ∀ {filter : Filter},
    (∀ leaf ∈ filter.leaves, (f leaf).test.holds (row.cell (f leaf).field) =
      (g leaf).test.holds (row.cell (g leaf).field)) →
    (filter.mapLeaves f).holds row = (filter.mapLeaves g).holds row
  | leaf l, h => by
    simp only [mapLeaves, holds]
    exact h l (by simp [leaves])
  | conj children, h => by
    simp only [mapLeaves, holds]
    exact (holdAll_mapLeavesAll row (by simpa only [leaves] using h)).1
  | disj children, h => by
    simp only [mapLeaves, holds]
    exact (holdAll_mapLeavesAll row (by simpa only [leaves] using h)).2
  | neg child, h => by
    simp only [mapLeaves, holds]
    rw [holds_mapLeaves row (by simpa only [leaves] using h)]

theorem holdAll_mapLeavesAll (row : Row) {f g : Leaf → Leaf} : ∀ {children : List Filter},
    (∀ leaf ∈ leavesAll children, (f leaf).test.holds (row.cell (f leaf).field) =
      (g leaf).test.holds (row.cell (g leaf).field)) →
    allHold row (mapLeavesAll f children) = allHold row (mapLeavesAll g children) ∧
      anyHolds row (mapLeavesAll f children) = anyHolds row (mapLeavesAll g children)
  | [], _ => ⟨rfl, rfl⟩
  | child :: children, h => by
    simp only [leavesAll, List.mem_append] at h
    have hchild : (child.mapLeaves f).holds row = (child.mapLeaves g).holds row :=
      holds_mapLeaves row fun leaf hleaf => h leaf (.inl hleaf)
    obtain ⟨hall, hany⟩ := holdAll_mapLeavesAll row fun leaf hleaf => h leaf (.inr hleaf)
    simp only [mapLeavesAll, allHold, anyHolds, hchild, hall, hany, and_self]

end

end SheetQuery.Filter
