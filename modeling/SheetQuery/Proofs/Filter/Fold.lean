import SheetQuery.Proofs.Cell.Fold
import SheetQuery.Proofs.Filter.Plain
import SheetQuery.Proofs.Filter.Repair

/-!
# Filters up to case

A filter whose operands are lower-cased letter by letter keeps the same rows after repair, as long as
each operand is fitted to its column alike in any case (`Leaf.ignoresCase`).

* `Test.holds_repaired_fold`: one test on one column;
* `Filter.holds_mapLeaves`: replacing leaves by leaves that hold of the same cells;
* `Filter.apply_repaired_fold`: the whole filter.
-/

namespace SheetQuery

/-! ## Folded tests -/

/-- The test with what it looks for lower-cased letter by letter. -/
def Test.fold : Test → Test
  | compare .eq operand => compare .eq operand.fold
  | search manner needle => search manner needle.fold
  | test => test

/-- What a test looks for, by equality or in parts. -/
def Test.needle? : Test → Option Cell
  | compare .eq operand => some operand
  | search _ needle => some needle
  | _ => none

/-- Is it a test that queries ask for, looking for nothing but numbers and uniform letters? -/
def Test.IsSpoken : Test → Prop
  | compare .eq operand => operand.IsUniform
  | search .includes needle => needle.IsUniform
  | search .contains needle => needle.IsUniform
  | compare _ _ => True
  | between _ _ => True
  | _ => False

/-- Does a column type read an operand alike in any case? Week dates and the letter for UTC are upper
case only, and so may be the words of a list in brackets. -/
def FieldType.ignoresCase : FieldType → Cell → Bool
  | date, operand => operand.fold.isoDate? == operand.isoDate?
  | array, .text s => !Cell.isBracketed (Text.trim s.toList)
  | _, _ => true

/-! ## Fitted operands -/

/-- Two operands that no comparison and no search tells apart. -/
structure Cell.Alike (operand other : Cell) : Prop where
  number : operand.number? = other.number?
  key : operand.key = other.key
  includes : ∀ cell : Cell, cell.includes operand = cell.includes other

namespace Cell

theorem Alike.refl (operand : Cell) : operand.Alike operand := ⟨rfl, rfl, fun _ => rfl⟩

theorem alike_fold {operand : Cell} (h : operand.IsUniform) : operand.fold.Alike operand := by
  refine ⟨number?_fold operand, key_fold h, fun cell => ?_⟩
  cases operand with
  | text s =>
    have hkey := key_fold h
    rw [fold] at hkey ⊢
    rw [includes.eq_2 _ _ (by simp), includes.eq_2 _ _ (by simp), hkey]
  | _ => rfl

/-- Items of the same keys are looked for alike, if there are no lists among them. -/
theorem includes_unwrapped_congr {items others : List Cell} (hitems : ∀ inner, items ≠ [list inner])
    (hothers : ∀ inner, others ≠ [list inner]) (h : items.map key = others.map key) (cell : Cell) :
    cell.includes (list items).unwrapped = cell.includes (list others).unwrapped := by
  have hlength : items.length = others.length := by
    rw [← List.length_map (f := key), h, List.length_map]
  have hkeys : ∀ cells : List Cell, (∀ item ∈ cells, tokensContain cell.tokens item.key = true) ↔
      ∀ token ∈ cells.map key, tokensContain cell.tokens token = true := by
    intro cells
    rw [List.forall_mem_map]
  rw [Bool.eq_iff_iff, includes_unwrapped_iff hitems, includes_unwrapped_iff hothers, hkeys, h,
    hkeys others, ← List.length_pos_iff, hlength, List.length_pos_iff]

end Cell

namespace Test

/-- On a column with one value per cell, fitting makes no difference between an operand and the
folded one. -/
theorem alike_fitSingle_fold {type : FieldType} (harray : type ≠ .array) {operand : Cell}
    (h : operand.IsUniform) (hcase : type.ignoresCase operand = true) :
    (fitSingle type operand.fold).Alike (fitSingle type operand) := by
  have hdate : type = .date → operand.fold.isoDate? = operand.isoDate? := by
    rintro rfl
    simpa [FieldType.ignoresCase] using hcase
  have hfit : ∀ cell, fitSingle type cell = type.coerce cell := by
    intro cell
    rw [fitSingle, if_neg (by simpa using harray)]
  rw [hfit, hfit]
  rcases Cell.coerce_fold harray h hdate with heq | ⟨hcell, hfold⟩
  · rw [heq]
    exact Cell.Alike.refl _
  · rw [hcell, hfold]
    exact Cell.alike_fold h

/-- On any column, an operand and the folded one are in the same cells. -/
theorem includes_fitSingle_fold {type : FieldType} {operand : Cell} (h : operand.IsUniform)
    (hcase : type.ignoresCase operand = true) (cell : Cell) :
    cell.includes (fitSingle type operand.fold) = cell.includes (fitSingle type operand) := by
  by_cases harray : type = .array
  · subst harray
    cases operand with
    | text s =>
      have hopen : Cell.isBracketed (Text.trim s.toList) = false := by
        simpa [FieldType.ignoresCase] using hcase
      have hopen' : Cell.isBracketed (Text.trim (Text.fold s.toList)) = false := by
        rw [Text.trim_fold, Cell.isBracketed_fold, hopen]
      have hflat : ∀ parts : List (List Char), ∀ inner, (parts.map fun part =>
          (Cell.text (String.ofList part)).castNumeral) ≠ [.list inner] := by
        intro parts inner heq
        obtain ⟨part, -, hpart⟩ := List.mem_map.mp (heq ▸ List.mem_singleton_self (Cell.list inner))
        exact Cell.castNumeral_ne_list _ inner hpart
      have hkeys := Cell.map_key_items_fold h hopen
      rw [Cell.fold, Cell.items_text (by simpa using hopen'), Cell.items_text hopen] at hkeys
      simp only [fitSingle, FieldType.coerce, beq_self_eq_true, if_true, Cell.fold]
      rw [Cell.items_text (by simpa using hopen'), Cell.items_text hopen]
      exact Cell.includes_unwrapped_congr (hflat _) (hflat _) hkeys cell
    | _ => rfl
  · exact (alike_fitSingle_fold harray h hcase).includes cell

/-! ## Tests after repair -/

theorem holds_compare_congr {operand other : Cell} (h : operand.Alike other)
    (comparator : Comparator) (cell : Cell) :
    cell.compares comparator operand = cell.compares comparator other := by
  rw [Cell.compares, Cell.compares, h.number, h.key]

theorem repaired_contains (traits : Traits) (needle : Cell) :
    (search .contains needle).repaired false traits =
      search (if traits.isList then .includes else .contains) (fitSingle traits.type needle) := by
  cases h : traits.isList <;> simp [repaired, asSearch?, h, fit, soughtItem?]

/-- A folded test, repaired, holds of the same cells as the test. -/
theorem holds_repaired_fold {traits : Traits} (htraits : traits.type = .array → traits.isList = true)
    {test : Test} (h : test.IsSpoken)
    (hcase : ∀ needle ∈ test.needle?, traits.type.ignoresCase needle = true) (cell : Cell) :
    (test.fold.repaired false traits).holds cell = (test.repaired false traits).holds cell := by
  have hsingle : traits.isList = false → traits.type ≠ .array := by
    intro hlist harray
    rw [htraits harray] at hlist
    cases hlist
  -- only an equality or a search holds a text; what else queries ask for has no case
  cases test with
  | compare comparator operand =>
    cases comparator with
    | eq =>
      have hneedle := hcase operand rfl
      rw [fold, holds_repaired_compare_eq, holds_repaired_compare_eq]
      cases hlist : traits.isList with
      | true => exact includes_fitSingle_fold h hneedle cell
      | false =>
        exact holds_compare_congr (alike_fitSingle_fold (hsingle hlist) h hneedle) .eq cell
    | _ => rfl
  | search manner needle =>
    have hneedle := hcase needle rfl
    cases manner with
    | includes =>
      rw [fold, repaired_includes, repaired_includes]
      exact includes_fitSingle_fold h hneedle cell
    | contains =>
      rw [fold, repaired_contains, repaired_contains]
      cases hlist : traits.isList with
      | true => exact includes_fitSingle_fold h hneedle cell
      | false =>
        have halike := alike_fitSingle_fold (hsingle hlist) h hneedle
        rw [if_neg Bool.false_ne_true, holds, holds, halike.key]
    | _ => cases h
  | between low high => rfl
  | _ => cases h

end Test

/-! ## Folded filters -/

theorem Schema.isList_of_array {schema : Schema} {name : String}
    (h : (schema.traits name).type = .array) : (schema.traits name).isList = true := by
  unfold Schema.traits at h ⊢
  cases hfield : schema.find? name with
  | none =>
    rw [hfield] at h
    cases h
  | some field =>
    rw [hfield] at h
    simp only at h
    simp [Field.isListLike, h]

namespace Leaf

/-- The leaf with what it looks for lower-cased letter by letter. -/
def fold (leaf : Leaf) : Leaf := ⟨leaf.field, leaf.test.fold⟩

/-- Does the column of a leaf read what the leaf looks for alike in any case? -/
def ignoresCase (schema : Schema) (leaf : Leaf) : Bool :=
  leaf.test.needle?.all (schema.traits (leaf.column schema)).type.ignoresCase

theorem holds_repaired_fold {schema : Schema} {leaf : Leaf} (h : leaf.test.IsSpoken)
    (hcase : leaf.ignoresCase schema = true) (row : Row) :
    (leaf.fold.repaired schema false).test.holds (row.cell (leaf.fold.repaired schema false).field) =
      (leaf.repaired schema false).test.holds (row.cell (leaf.repaired schema false).field) := by
  apply Test.holds_repaired_fold Schema.isList_of_array h
  intro needle hneedle
  rw [ignoresCase, Option.all_eq_true] at hcase
  exact hcase needle hneedle

end Leaf

namespace Filter

/-- Does a filter have only leaves that queries ask for? -/
def IsSpoken (filter : Filter) : Prop := ∀ leaf ∈ filter.leaves, leaf.test.IsSpoken

theorem IsSpoken.isPlain {filter : Filter} (h : filter.IsSpoken) : filter.IsPlain := by
  intro leaf hleaf
  have hspoken := h leaf hleaf
  cases htest : leaf.test with
  | search manner needle =>
    rw [htest] at hspoken
    cases manner with
    | regex => cases hspoken
    | _ => rfl
  | _ => rfl

theorem isPlain_fold {filter : Filter} (h : filter.IsPlain) :
    (filter.mapLeaves Leaf.fold).IsPlain := by
  intro leaf hleaf
  rw [leaves_mapLeaves] at hleaf
  obtain ⟨original, hmem, rfl⟩ := List.mem_map.mp hleaf
  have hplain := h original hmem
  rw [Leaf.fold]
  cases htest : original.test with
  | search manner needle =>
    rw [htest] at hplain
    cases manner with
    | regex => cases hplain
    | _ => rfl
  | compare comparator operand => cases comparator <;> rfl
  | _ => rfl

/-- A folded filter, repaired, keeps the same rows as the filter. -/
theorem apply_repaired_fold {schema : Schema} {filter : Filter} (h : filter.IsSpoken)
    (hcase : ∀ leaf ∈ filter.leaves, leaf.ignoresCase schema = true) (rows : List Row) :
    ((filter.mapLeaves Leaf.fold).repaired schema false).apply rows =
      (filter.repaired schema false).apply rows := by
  rw [apply_of_isPlain (isPlain_repaired (isPlain_fold h.isPlain) schema false),
    apply_of_isPlain (isPlain_repaired h.isPlain schema false)]
  congr 2
  funext row
  rw [repaired, mapLeaves_mapLeaves, repaired]
  exact holds_mapLeaves row fun leaf hleaf =>
    Leaf.holds_repaired_fold (h leaf hleaf) (hcase leaf hleaf) row

end Filter

end SheetQuery
