import SheetQuery.Proofs.Filter.Leaves
import SheetQuery.Proofs.Pattern.Tame

/-!
# When evaluation gives rows

A leaf whose pattern cannot be read holds of nothing and leaves the other leaves alone, as if a test
that nothing passes stood in its place. That much goes for text that is no pattern. A pattern that
asks for what cannot be counted, or whose switches contradict each other, ends the whole evaluation
where it is met.

* `Filter.muted`: the filter with such a test in place of every leaf that cannot be read;
* `Filter.reached`: the leaves that evaluation looks at on a row;
* `fault?_eq_findSome?`: the fault met on a row is that of the first faulty leaf looked at;
* `apply_eq_muted`: exactly when the evaluation is that of the muted filter;
* `apply_eq_muted_of_areTame`: it is, if the patterns are tame.
-/

namespace SheetQuery

namespace Test

/-- The text of the pattern that a test looks for. -/
def pattern? : Test → Option (List Char)
  | search .regex needle => some needle.render
  | _ => none

/-- Does the test look for a pattern that cannot be read? -/
def isUnreadable (test : Test) : Bool :=
  test.pattern?.any fun text => (Pattern.compile text).toOption.isNone

/-- The fault of the pattern that a test looks for, other than being none. -/
def breach? (test : Test) : Option Pattern.Fault :=
  test.pattern?.bind fun text =>
    match Pattern.compile text with
    | .error .invalid => none
    | .error fault => some fault
    | .ok _ => none

/-- The cell does not matter to the fault. -/
theorem fault?_eq_breach? (cell : Cell) (test : Test) : test.fault? cell = test.breach? := by
  cases test with
  | search manner needle =>
    cases manner with
    | regex =>
      simp only [fault?, Cell.matchesPattern, breach?, pattern?, Option.bind_some]
      cases Pattern.compile needle.render with
      | ok pattern => rfl
      | error fault => cases fault <;> rfl
    | _ => rfl
  | _ => rfl

theorem holds_of_isUnreadable {test : Test} (h : test.isUnreadable = true) (cell : Cell) :
    test.holds cell = false := by
  unfold isUnreadable pattern? at h
  split at h
  · next needle =>
    simp only [Option.any_some] at h
    simp only [holds, Cell.matchesPattern]
    cases hfound : Pattern.compile needle.render with
    | ok pattern =>
      rw [hfound] at h
      cases h
    | error fault => cases fault <;> rfl
  · cases h

theorem isUnreadable_of_breach? {test : Test} (h : test.isUnreadable = false) :
    test.breach? = none := by
  unfold isUnreadable at h
  unfold breach?
  cases htext : test.pattern? with
  | none => rfl
  | some text =>
    rw [htext, Option.any_some] at h
    rw [Option.bind_some]
    cases hfound : Pattern.compile text with
    | ok pattern => rfl
    | error fault =>
      rw [hfound] at h
      cases h

/-- No tame pattern ends an evaluation. -/
theorem breach?_of_isTame {test : Test} (h : ∀ text ∈ test.pattern?, Pattern.IsTame text) :
    test.breach? = none := by
  unfold breach?
  cases htext : test.pattern? with
  | none => rfl
  | some text =>
    rw [Option.bind_some]
    cases hfound : Pattern.compile text with
    | ok pattern => rfl
    | error fault =>
      obtain rfl := Pattern.isOrdinary_compile_of_isTame (h text htext) fault hfound
      rfl

end Test

/-- The leaf, or in place of one that cannot be read a test that nothing passes. -/
def Leaf.muted (leaf : Leaf) : Leaf :=
  if leaf.test.isUnreadable then ⟨leaf.field, .member false []⟩ else leaf

theorem Leaf.holds_muted (leaf : Leaf) (row : Row) :
    leaf.muted.test.holds (row.cell leaf.muted.field) = leaf.test.holds (row.cell leaf.field) := by
  unfold muted
  split
  · next h => rw [Test.holds_of_isUnreadable h]; rfl
  · rfl

theorem Leaf.breach?_muted (leaf : Leaf) : leaf.muted.test.breach? = none := by
  unfold muted
  split
  · rfl
  · next h => exact Test.isUnreadable_of_breach? (Bool.eq_false_iff.mpr h)

namespace Filter

/-- The filter with a test that nothing passes in place of every leaf that cannot be read. -/
def muted (filter : Filter) : Filter := filter.mapLeaves Leaf.muted

mutual

/-- The leaves that evaluation looks at on a row, looking no further than the value of the filter
needs. -/
def reached (row : Row) : Filter → List Leaf
  | leaf l => [l]
  | conj children => reachedWhile true row children
  | disj children => reachedWhile false row children
  | neg child => reached row child

/-- The leaves looked at in filters of which each next is looked at only while the value of the one
before is `going`. -/
def reachedWhile (going : Bool) (row : Row) : List Filter → List Leaf
  | [] => []
  | child :: children =>
    reached row child ++ if holds row child == going then reachedWhile going row children else []

end

mutual

theorem reached_subset (row : Row) : ∀ filter : Filter, filter.reached row ⊆ filter.leaves
  | leaf _ => List.Subset.refl _
  | conj children => reachedWhile_subset true row children
  | disj children => reachedWhile_subset false row children
  | neg child => reached_subset row child

theorem reachedWhile_subset (going : Bool) (row : Row) :
    ∀ children : List Filter, reachedWhile going row children ⊆ leavesAll children
  | [] => List.Subset.refl _
  | child :: children => by
    rw [reachedWhile, leavesAll]
    refine List.append_subset.mpr ⟨?_, ?_⟩
    · exact List.subset_append_of_subset_left _ (reached_subset row child)
    · split
      · exact List.subset_append_of_subset_right _ (reachedWhile_subset going row children)
      · exact List.nil_subset _

end

/-! ## Faults -/

mutual

/-- The fault met on a row is that of the first faulty leaf looked at. -/
theorem fault?_eq_findSome? (row : Row) : ∀ filter : Filter,
    filter.fault? row = (filter.reached row).findSome? fun leaf => leaf.test.breach?
  | leaf l => by
    rw [fault?, reached, Test.fault?_eq_breach?, List.findSome?_singleton]
  | conj children => faultWhile_eq_findSome? true row children
  | disj children => faultWhile_eq_findSome? false row children
  | neg child => fault?_eq_findSome? row child

theorem faultWhile_eq_findSome? (going : Bool) (row : Row) : ∀ children : List Filter,
    faultWhile going row children =
      (reachedWhile going row children).findSome? fun leaf => leaf.test.breach?
  | [] => rfl
  | child :: children => by
    rw [faultWhile, reachedWhile, List.findSome?_append, fault?_eq_findSome? row child]
    cases (child.reached row).findSome? fun leaf => leaf.test.breach? with
    | some fault => rfl
    | none =>
      -- no fault in the first, so it is one of those after it, if they are looked at
      simp only [Option.none_or]
      split
      · exact faultWhile_eq_findSome? going row children
      · rfl

end

/-- Evaluation fails with the fault of the first faulty leaf looked at, row by row. -/
theorem apply_eq_error_iff {filter : Filter} {rows : List Row} {fault : Pattern.Fault} :
    filter.apply rows = .error fault ↔
      (rows.findSome? fun row =>
        (filter.reached row).findSome? fun leaf => leaf.test.breach?) = some fault := by
  simp only [apply, fault?_eq_findSome?]
  split
  · next found hfound => rw [hfound, Except.error.injEq, Option.some.injEq]
  · next hfound =>
    rw [hfound]
    exact ⟨nofun, nofun⟩

theorem apply_eq_ok_iff {filter : Filter} {rows : List Row} :
    filter.apply rows = .ok (rows.filter fun row => filter.holds row) ↔
      ∀ row ∈ rows, ∀ leaf ∈ filter.reached row, leaf.test.breach? = none := by
  simp only [apply, fault?_eq_findSome?]
  split
  · next fault hfound =>
    refine ⟨nofun, fun h => ?_⟩
    rw [List.findSome?_eq_none_iff.mpr fun row hrow => List.findSome?_eq_none_iff.mpr (h row hrow)]
      at hfound
    cases hfound
  · next hfound =>
    refine ⟨fun _ row hrow => ?_, fun _ => rfl⟩
    exact List.findSome?_eq_none_iff.mp (List.findSome?_eq_none_iff.mp hfound row hrow)

/-- The muted filter is evaluated without fault, to the rows of which the filter itself holds. -/
theorem apply_muted (filter : Filter) (rows : List Row) :
    filter.muted.apply rows = .ok (rows.filter fun row => filter.holds row) := by
  have hholds : (fun row => filter.muted.holds row) = fun row => filter.holds row := by
    funext row
    have hleaves : filter.muted.holds row = (filter.mapLeaves id).holds row :=
      holds_mapLeaves row fun leaf _ => leaf.holds_muted row
    rwa [mapLeaves_id] at hleaves
  rw [← hholds, apply_eq_ok_iff]
  intro row _ leaf hleaf
  have hmem := reached_subset row _ hleaf
  rw [muted, leaves_mapLeaves] at hmem
  obtain ⟨original, -, rfl⟩ := List.mem_map.mp hmem
  exact original.breach?_muted

theorem apply_eq_muted_of_areTame {filter : Filter}
    (h : ∀ leaf ∈ filter.leaves, ∀ text ∈ leaf.test.pattern?, Pattern.IsTame text)
    (rows : List Row) : filter.apply rows = filter.muted.apply rows := by
  rw [apply_muted, apply_eq_ok_iff]
  intro row _ leaf hleaf
  exact Test.breach?_of_isTame (h leaf (reached_subset row filter hleaf))

end Filter

/-- Is the name one that repeats a letter all too often, or the number two? -/
def overRepeated : Filter :=
  .disj [.leaf ⟨"Name", .search .regex (.text "x\x7b4294967295\x7d")⟩,
    .leaf ⟨"A", .compare .eq (.int 2)⟩]

def namedX : Row := [("Name", .text "x"), ("A", .int 1)]

def namedY : Row := [("Name", .text "y"), ("A", .int 2)]

end SheetQuery
