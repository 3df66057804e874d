import SheetQuery.Filter.Matching
import SheetQuery.Filter.Repair
import SheetQuery.Proofs.Cell.Tokens
import SheetQuery.Proofs.Schema.Naming

/-!
# Laws of repair

When repair refuses nothing, and repair and evaluation of one leaf that names a column as it is.

* `repair_eq`: a filter with a column for each of its leaves is not refused;
* `repair_leaf`: a leaf that names a column is repaired in its place;
* `holds_repaired_compare_eq`: an equality stays one, or becomes a search on a column of lists;
* `repaired_includes`: a search for items stays one;
* `includes_unwrapped_iff`: a search for a list of items, as array columns have it;
* `apply_leaf`: a leaf that looks for no pattern keeps the rows whose cell passes its test.
-/

namespace SheetQuery

/-! ## Lists of items -/

namespace Cell

theorem castNumeral_ne_list (s : String) (inner : List Cell) :
    (text s).castNumeral ≠ list inner := by
  rw [castNumeral, ofNumeral?]
  split
  · simp
  · cases numberOfText? s.toList <;> simp

/-- Looking for a list of one item is looking for the item, unless that is a list itself. -/
theorem includes_unwrapped_iff {items : List Cell} (h : ∀ inner, items ≠ [list inner])
    (cell : Cell) : cell.includes (list items).unwrapped = true ↔
      items ≠ [] ∧ ∀ item ∈ items, tokensContain cell.tokens item.key = true := by
  match items with
  | [] => simp [unwrapped, includes]
  | [item] =>
    have hitem : ∀ inner, item ≠ list inner := by
      rintro inner rfl
      exact h inner rfl
    rw [unwrapped, includes.eq_2 _ _ hitem]
    simp
  | first :: second :: rest => simp [unwrapped, includes]

end Cell

/-! ## Equalities and searches for items -/

namespace Test

/-- On a column with one value per cell an equality stays one. -/
theorem repaired_compare_eq {traits : Traits} (h : traits.isList = false) (operand : Cell) :
    (compare .eq operand).repaired false traits =
      compare .eq (fitSingle traits.type operand) := by
  simp [repaired, asSearch?, h, fit]

/-- On a column of lists an equality becomes a search for an item. -/
theorem repaired_compare_eq_of_isList {traits : Traits} (h : traits.isList = true)
    (operand : Cell) : (compare .eq operand).repaired false traits =
      search .includes (fitSingle traits.type operand) := by
  simp [repaired, asSearch?, h, fit, soughtItem?, equalTo?]

theorem holds_repaired_compare_eq (traits : Traits) (operand cell : Cell) :
    ((compare .eq operand).repaired false traits).holds cell =
      if traits.isList then cell.includes (fitSingle traits.type operand)
      else cell.compares .eq (fitSingle traits.type operand) := by
  cases h : traits.isList with
  | false =>
    rw [repaired_compare_eq h, holds, if_neg Bool.false_ne_true]
  | true =>
    rw [repaired_compare_eq_of_isList h, holds, if_pos rfl]

theorem fault?_repaired_compare_eq (traits : Traits) (operand cell : Cell) :
    ((compare .eq operand).repaired false traits).fault? cell = none := by
  cases h : traits.isList with
  | false => rw [repaired_compare_eq h, fault?.eq_def]
  | true => rw [repaired_compare_eq_of_isList h, fault?.eq_def]

/-- A search for items stays one. -/
theorem asSearch?_includes (soften : Bool) (traits : Traits) (needle : Cell) :
    (search .includes needle).asSearch? soften traits = none := by
  rw [asSearch?]
  split
  · rfl
  · split <;> rfl

theorem repaired_includes (soften : Bool) (traits : Traits) (needle : Cell) :
    (search .includes needle).repaired soften traits =
      search .includes (fitSingle traits.type needle) := by
  rw [repaired, fit, asSearch?_includes, Option.getD_none]

end Test

/-! ## Leaves -/

namespace Filter

/-- A filter with a column for each of its leaves is not refused. -/
theorem repair_eq {schema : Schema} {filter : Filter}
    (h : ∀ leaf ∈ filter.leaves, leaf.column schema ≠ "") (soften : Bool) :
    filter.repair schema soften = .ok (filter.repaired schema soften) := by
  have hkept : filter.leaves.any (Leaf.losesName schema soften) = false := by
    rw [List.any_eq_false]
    intro leaf hleaf
    simp [Leaf.losesName, h leaf hleaf]
  rw [repair, hkept]
  rfl

/-- A leaf that names a column of the schema is repaired in its place. -/
theorem repair_leaf {schema : Schema} {column : String} (hmem : column ∈ schema.names)
    (hname : column ≠ "") (soften : Bool) (test : Test) :
    repair schema soften (leaf ⟨column, test⟩) =
      .ok (leaf ⟨column, test.repaired soften (schema.traits column)⟩) := by
  have hcolumn : Leaf.column schema ⟨column, test⟩ = column := Schema.resolveName_of_mem hmem
  rw [repair_eq (by simp [leaves, hcolumn, hname]), repaired, mapLeaves, Leaf.repaired, hcolumn]

/-- Without patterns no fault is met. -/
theorem apply_leaf {column : String} {test : Test} (h : ∀ cell, test.fault? cell = none)
    (rows : List Row) : apply (leaf ⟨column, test⟩) rows =
      .ok (rows.filter fun row => test.holds (row.cell column)) := by
  have hfault : (rows.findSome? fun row => fault? row (leaf ⟨column, test⟩)) = none := by
    rw [List.findSome?_eq_none_iff]
    intro row _
    rw [fault?, h]
  rw [apply, hfault]
  simp only [holds]

end Filter

end SheetQuery
