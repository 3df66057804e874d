import SheetQuery.Proofs.Filter.Leaves

/-!
# Filters without patterns

A filter without patterns meets no fault: evaluating it gives the rows that it holds of. Repair brings
no patterns in.

* `apply_of_isPlain`: evaluation is filtering;
* `isPlain_repaired`: repair keeps a filter free of patterns;
* `repair_congr`: repair looks at the names and the traits of columns only.
-/

namespace SheetQuery

/-- Does a test look for a pattern? -/
def Test.isPattern : Test → Bool
  | .search .regex _ => true
  | _ => false

theorem Test.fault?_eq_none {test : Test} (h : test.isPattern = false) (cell : Cell) :
    test.fault? cell = none := by
  unfold fault?
  split
  · cases h
  · rfl

theorem Test.isPattern_repaired {test : Test} (h : test.isPattern = false) (soften : Bool)
    (traits : Traits) : (test.repaired soften traits).isPattern = false := by
  have hfit : (test.fit traits.type).isPattern = false := by
    cases test with
    | search manner needle => cases manner <;> first | rfl | exact h
    | _ => rfl
  -- a test that softening puts in place of another searches for a part, never for a pattern
  have hsearch : ∀ found, (test.fit traits.type).asSearch? soften traits = some found →
      found.isPattern = false := by
    intro found hfound
    unfold asSearch? at hfound
    split at hfound
    · obtain ⟨operand, -, rfl⟩ := Option.map_eq_some_iff.mp hfound
      rfl
    · split at hfound
      · obtain ⟨operand, -, rfl⟩ := Option.map_eq_some_iff.mp hfound
        rfl
      · cases hfound
  rw [repaired]
  cases hfound : (test.fit traits.type).asSearch? soften traits with
  | none => exact hfit
  | some found => exact hsearch found hfound

namespace Filter

/-- Does no leaf look for a pattern? -/
def IsPlain (filter : Filter) : Prop := ∀ leaf ∈ filter.leaves, leaf.test.isPattern = false

/-! ## Evaluation -/

mutual

theorem fault?_eq_none (row : Row) : ∀ {filter : Filter}, filter.IsPlain → filter.fault? row = none
  | leaf l, h => by
    rw [fault?]
    exact Test.fault?_eq_none (h l (by simp [leaves])) _
  | conj children, h => by
    rw [fault?]
    exact faultWhile_eq_none true row (by simpa [IsPlain, leaves] using h)
  | disj children, h => by
    rw [fault?]
    exact faultWhile_eq_none false row (by simpa [IsPlain, leaves] using h)
  | neg child, h => by
    rw [fault?]
    exact fault?_eq_none row (by simpa [IsPlain, leaves] using h)

theorem faultWhile_eq_none (going : Bool) (row : Row) : ∀ {children : List Filter},
    (∀ leaf ∈ leavesAll children, leaf.test.isPattern = false) →
    faultWhile going row children = none
  | [], _ => rfl
  | child :: children, h => by
    simp only [leavesAll, List.mem_append] at h
    rw [faultWhile, fault?_eq_none row fun leaf hleaf => h leaf (.inl hleaf)]
    simp only
    split
    · exact faultWhile_eq_none going row fun leaf hleaf => h leaf (.inr hleaf)
    · rfl

end

/-- Without patterns, evaluation is filtering. -/
theorem apply_of_isPlain {filter : Filter} (h : filter.IsPlain) (rows : List Row) :
    filter.apply rows = .ok (rows.filter fun row => filter.holds row) := by
  have hfault : (rows.findSome? fun row => filter.fault? row) = none := by
    rw [List.findSome?_eq_none_iff]
    intro row _
    exact fault?_eq_none row h
  rw [apply, hfault]

/-! ## Repair -/

theorem isPlain_repaired {filter : Filter} (h : filter.IsPlain) (schema : Schema) (soften : Bool) :
    (filter.repaired schema soften).IsPlain := by
  intro leaf hleaf
  rw [repaired, leaves_mapLeaves] at hleaf
  obtain ⟨original, hmem, rfl⟩ := List.mem_map.mp hleaf
  exact Test.isPattern_repaired (h original hmem) _ _

theorem repair_eq_ok {filter found : Filter} {schema : Schema} {soften : Bool}
    (h : filter.repair schema soften = .ok found) : found = filter.repaired schema soften := by
  unfold repair at h
  split at h
  · cases h
  · exact (Except.ok.inj h).symm

/-- Repair looks at the names and the traits of columns only. -/
theorem repair_congr {schema other : Schema} (hnames : schema.names = other.names)
    (htraits : ∀ column, schema.traits column = other.traits column) (soften : Bool)
    (filter : Filter) : filter.repair schema soften = filter.repair other soften := by
  have hrepaired : Leaf.repaired schema soften = Leaf.repaired other soften := by
    funext leaf
    simp only [Leaf.repaired, Leaf.column, hnames, htraits]
  have hloses : Leaf.losesName schema soften = Leaf.losesName other soften := by
    funext leaf
    simp only [Leaf.losesName, Leaf.column, hnames, htraits]
  rw [repair, repair, repaired, repaired, hrepaired, hloses]

end Filter

end SheetQuery
