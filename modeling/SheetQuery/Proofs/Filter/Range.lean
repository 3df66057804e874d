import Mathlib.Data.String.Basic
import Mathlib.Order.Interval.Set.UnorderedInterval
import SheetQuery.Proofs.Cell.Tokens
import SheetQuery.Proofs.Filter.Integers

/-!
# Ranges as pairs of comparisons

A range decides once, for the cell and both bounds, whether numbers or texts are compared. A comparison
decides that for the cell and its one operand. Where the two decide alike, a range is the pair of
comparisons with its bounds, in whichever order they stand; they can decide differently only if the
cell is a number and just one of the bounds is.

* `Cell.liesBetween_iff_of_numbers`, `Cell.liesBetween_iff_of_no_number`: a range is an interval of
  numbers or an interval of texts;
* `Cell.liesBetween_comm`: the bounds may be exchanged;
* `range_is_pair_of_comparisons`: when a range is a pair of comparisons.
-/

namespace SheetQuery

/-! ## Intervals -/

/-- In a linear order two comparisons with each bound, taken either way round, make the interval
between them. -/
theorem Comparator.holds_pair_iff {α : Type} [LinearOrder α] (x low high : α) :
    (Comparator.ge.holds x low = true ∧ Comparator.le.holds x high = true) ∨
        (Comparator.ge.holds x high = true ∧ Comparator.le.holds x low = true) ↔
      x ∈ Set.uIcc low high := by
  have hge : ∀ a b : α, Comparator.ge.holds a b = true ↔ b ≤ a := by
    intro a b
    simp [Comparator.holds]
  have hle : ∀ a b : α, Comparator.le.holds a b = true ↔ a ≤ b := by
    intro a b
    simp [Comparator.holds]
  rw [hge, hge, hle, hle, Set.mem_uIcc]

namespace Cell

variable {cell low high : Cell}

theorem liesBetween_iff_of_numbers {x a b : Number} (hcell : cell.number? = some x)
    (hlow : low.number? = some a) (hhigh : high.number? = some b) :
    cell.liesBetween low high = true ↔ x.signed ∈ Set.uIcc a.signed b.signed := by
  have hle : ∀ x y : Number, x ≤ y ↔ x.signed ≤ y.signed := fun _ _ => Iff.rfl
  rw [liesBetween, hcell, hlow, hhigh]
  simp only [decide_eq_true_eq, hle, Number.signed_min, Number.signed_max]
  exact Iff.rfl

theorem liesBetween_iff_of_no_number
    (h : cell.number? = none ∨ low.number? = none ∨ high.number? = none) :
    cell.liesBetween low high = true ↔ cell.key ∈ Set.uIcc low.key high.key := by
  have hmin : (if high.key < low.key then high.key else low.key) = low.key ⊓ high.key := by
    rw [← min_def_lt, min_comm]
  have hmax : (if low.key < high.key then high.key else low.key) = low.key ⊔ high.key := by
    rw [← max_def_lt]
  unfold liesBetween
  split
  · next x a b hcell hlow hhigh =>
    rw [hcell, hlow, hhigh] at h
    rcases h with h | h | h <;> cases h
  · rw [decide_eq_true_eq, hmin, hmax]
    exact Iff.rfl

/-- The bounds of a range may be exchanged. -/
theorem liesBetween_comm (cell low high : Cell) :
    cell.liesBetween low high = cell.liesBetween high low := by
  rw [Bool.eq_iff_iff]
  by_cases h : cell.number? = none ∨ low.number? = none ∨ high.number? = none
  · have hback : cell.number? = none ∨ high.number? = none ∨ low.number? = none :=
      h.imp_right Or.symm
    rw [liesBetween_iff_of_no_number h, liesBetween_iff_of_no_number hback, Set.uIcc_comm]
  · rw [not_or, not_or] at h
    obtain ⟨x, hx⟩ := Option.ne_none_iff_exists'.mp h.1
    obtain ⟨a, ha⟩ := Option.ne_none_iff_exists'.mp h.2.1
    obtain ⟨b, hb⟩ := Option.ne_none_iff_exists'.mp h.2.2
    rw [liesBetween_iff_of_numbers hx ha hb, liesBetween_iff_of_numbers hx hb ha, Set.uIcc_comm]

end Cell

/-! ## Pairs of comparisons -/

/-- The bounds of a range may stand in either order. If the cell and both bounds are numbers, if the
cell is none, or if neither bound is, then a range is the pair of comparisons with its bounds. -/
theorem range_is_pair_of_comparisons (cell low high : Cell) :
    (Test.between low high).holds cell = (Test.between high low).holds cell ∧
      ((cell.number?.isSome = true ∧ low.number?.isSome = true ∧ high.number?.isSome = true) ∨
          cell.number? = none ∨ (low.number? = none ∧ high.number? = none) →
        ((Test.between low high).holds cell = true ↔
          ((Test.compare .ge low).holds cell = true ∧ (Test.compare .le high).holds cell = true) ∨
            ((Test.compare .ge high).holds cell = true ∧
              (Test.compare .le low).holds cell = true))) := by
  simp only [Test.holds]
  refine ⟨cell.liesBetween_comm low high, ?_⟩
  rintro (⟨hcell, hlow, hhigh⟩ | hkeys)
  · obtain ⟨x, hx⟩ := Option.isSome_iff_exists.mp hcell
    obtain ⟨a, ha⟩ := Option.isSome_iff_exists.mp hlow
    obtain ⟨b, hb⟩ := Option.isSome_iff_exists.mp hhigh
    rw [Cell.liesBetween_iff_of_numbers hx ha hb, ← Comparator.holds_pair_iff]
    simp only [Cell.compares, hx, ha, hb]
    exact Iff.rfl
  · -- each of the four comparisons compares keys, as the range does
    have hlow : cell.number? = none ∨ low.number? = none := hkeys.imp_right And.left
    have hhigh : cell.number? = none ∨ high.number? = none := hkeys.imp_right And.right
    have hrange : cell.number? = none ∨ low.number? = none ∨ high.number? = none :=
      hlow.imp_right Or.inl
    rw [Cell.liesBetween_iff_of_no_number hrange, ← Comparator.holds_pair_iff]
    simp only [Cell.compares_of_no_number _ hlow, Cell.compares_of_no_number _ hhigh]

/-- A price between bounds in reverse order, and a blank cell that lies in a range of words. -/
theorem price_is_in_reversed_range :
    (Test.between (.text "10") (.int 5)).holds (.text " 7.5 ") = true ∧
      (Test.between (.text "mid") (.text "")).holds .null = true := by
  constructor
  · refine ((range_is_pair_of_comparisons (.text " 7.5 ") (.text "10") (.int 5)).2 (.inl ?_)).mpr ?_
    · decide +kernel
    · exact .inr (by decide +kernel)
  · refine ((range_is_pair_of_comparisons .null (.text "mid") (.text "")).2 (.inr (.inl rfl))).mpr ?_
    exact .inr (by decide +kernel)

/-- With one bound that is no number, a number is compared with the bounds as a text by the range, and
with the other bound as a number by the comparison. -/
example : (Test.between (.int 9) (.text "x")).holds (.int 10) = false ∧
    (Test.compare .ge (.int 9)).holds (.int 10) = true ∧
    (Test.compare .le (.text "x")).holds (.int 10) = true := by decide +kernel

end SheetQuery
