import Mathlib.Order.Lattice
import SheetQuery.Filter.Matching
import SheetQuery.Proofs.Numeric.Rounding

/-!
# Integers under comparisons

A test turns the integers of a cell and of its operands into binary64 numbers before it compares them.
That is the comparison of the integers rounded to 53 significant bits. Rounding keeps the order, so it
can only take two integers for equal that are not.

* `Comparator.holds_signed`: numbers compare as the integers that they are multiples of;
* `Comparator.holds_monotone`: a relation seen through a monotone function;
* `integers_are_compared_as_rounded`: comparisons and ranges of integers.
-/

namespace SheetQuery

open Binary64 (roundedInt roundedInt_mono roundedInt_of_le)

/-! ## Relations -/

namespace Comparator

theorem holds_signed (comparator : Comparator) {x y : Number} {m n : Int}
    (hx : x.signed = m * Number.unitsPerOne) (hy : y.signed = n * Number.unitsPerOne) :
    comparator.holds x y = comparator.holds m n := by
  have hunit : (0 : Int) < Number.unitsPerOne := Int.natCast_pos.mpr Number.unitsPerOne_pos
  have hless : ∀ {x y : Number} {m n : Int}, x.signed = m * Number.unitsPerOne →
      y.signed = n * Number.unitsPerOne → decide (x < y) = decide (m < n) := by
    intro x y m n hx hy
    have hlt : x < y ↔ x.signed < y.signed := Iff.rfl
    rw [decide_eq_decide, hlt, hx, hy]
    exact Int.mul_lt_mul_right hunit
  cases comparator <;> simp only [holds, hless hx hy, hless hy hx]

/-- A monotone function that keeps two members apart keeps each relation between them. -/
theorem holds_monotone {f : Int → Int} (hf : ∀ m n, m ≤ n → f m ≤ f n) {m n : Int}
    (h : m = n ∨ f m ≠ f n) (comparator : Comparator) :
    comparator.holds (f m) (f n) = comparator.holds m n := by
  have hmono : Monotone f := fun m n => hf m n
  have hless : ∀ {m n : Int}, m = n ∨ f m ≠ f n → decide (f m < f n) = decide (m < n) := by
    intro m n h
    rw [decide_eq_decide]
    refine ⟨hmono.reflect_lt, fun hlt => ?_⟩
    exact lt_of_le_of_ne (hmono hlt.le) (h.resolve_left hlt.ne)
  have hback : n = m ∨ f n ≠ f m := h.imp Eq.symm Ne.symm
  cases comparator <;> simp only [holds, hless h, hless hback]

end Comparator

/-- Through a monotone function a member lies in a range if it does, or if the function takes it for
one of the bounds. -/
theorem between_monotone {f : Int → Int} (hf : ∀ m n, m ≤ n → f m ≤ f n) (n low high : Int) :
    min (f low) (f high) ≤ f n ∧ f n ≤ max (f low) (f high) ↔
      (min low high ≤ n ∧ n ≤ max low high) ∨ f n = f low ∨ f n = f high := by
  have hmono : Monotone f := fun m n => hf m n
  rw [← hmono.map_min, ← hmono.map_max]
  constructor
  · rintro ⟨hlow, hhigh⟩
    by_cases hsame : f n = f low ∨ f n = f high
    · exact .inr hsame
    · -- the bounds are strict, and strict order is reflected
      rw [not_or] at hsame
      have hmin : f (min low high) ≠ f n := by
        rcases min_choice low high with h | h <;> rw [h]
        exacts [Ne.symm hsame.1, Ne.symm hsame.2]
      have hmax : f n ≠ f (max low high) := by
        rcases max_choice low high with h | h <;> rw [h]
        exacts [hsame.1, hsame.2]
      exact .inl ⟨(hmono.reflect_lt (lt_of_le_of_ne hlow hmin)).le,
        (hmono.reflect_lt (lt_of_le_of_ne hhigh hmax)).le⟩
  · rintro (⟨hlow, hhigh⟩ | hsame | hsame)
    · exact ⟨hmono hlow, hmono hhigh⟩
    · rw [hsame]
      exact ⟨hmono (min_le_left low high), hmono (le_max_left low high)⟩
    · rw [hsame]
      exact ⟨hmono (min_le_right low high), hmono (le_max_right low high)⟩

/-! ## Numbers -/

namespace Number

theorem signed_min (x y : Number) : (x.min y).signed = Min.min x.signed y.signed := by
  have hlt : y < x ↔ y.signed < x.signed := Iff.rfl
  rw [Number.min]
  split
  · next h => exact (min_eq_right (hlt.mp h).le).symm
  · next h => exact (min_eq_left (not_lt.mp (hlt.not.mp h))).symm

theorem signed_max (x y : Number) : (x.max y).signed = Max.max x.signed y.signed := by
  have hlt : x < y ↔ x.signed < y.signed := Iff.rfl
  rw [Number.max]
  split
  · next h => exact (max_eq_right (hlt.mp h).le).symm
  · next h => exact (max_eq_left (not_lt.mp (hlt.not.mp h))).symm

end Number

/-! ## Cells -/

namespace Cell

variable {n low high : Int}

theorem number?_int (h : n.natAbs < 10 ^ 308) : ∃ x : Number,
    (int n).number? = some x ∧ x.signed = roundedInt n * Number.unitsPerOne :=
  Binary64.signed_ofInt? h

theorem compares_int (comparator : Comparator) {m n : Int} (hm : m.natAbs < 10 ^ 308)
    (hn : n.natAbs < 10 ^ 308) : (int m).compares comparator (int n) =
      comparator.holds (roundedInt m) (roundedInt n) := by
  obtain ⟨x, hx, hxm⟩ := number?_int hm
  obtain ⟨y, hy, hyn⟩ := number?_int hn
  rw [compares, hx, hy]
  exact comparator.holds_signed hxm hyn

theorem liesBetween_int (hn : n.natAbs < 10 ^ 308) (hlow : low.natAbs < 10 ^ 308)
    (hhigh : high.natAbs < 10 ^ 308) : (int n).liesBetween (int low) (int high) = true ↔
      min (roundedInt low) (roundedInt high) ≤ roundedInt n ∧
        roundedInt n ≤ max (roundedInt low) (roundedInt high) := by
  obtain ⟨x, hx, hxn⟩ := number?_int hn
  obtain ⟨a, ha, halow⟩ := number?_int hlow
  obtain ⟨b, hb, hbhigh⟩ := number?_int hhigh
  have hunit : (0 : Int) < Number.unitsPerOne := Int.natCast_pos.mpr Number.unitsPerOne_pos
  have hle : ∀ x y : Number, x ≤ y ↔ x.signed ≤ y.signed := fun _ _ => Iff.rfl
  have hscale : Monotone fun k : Int => k * Number.unitsPerOne :=
    fun _ _ h => Int.mul_le_mul_of_nonneg_right h hunit.le
  rw [liesBetween, hx, ha, hb]
  simp only [decide_eq_true_eq, hle, Number.signed_min, Number.signed_max, hxn, halow, hbhigh]
  rw [← hscale.map_min, ← hscale.map_max]
  exact and_congr (Int.mul_le_mul_right hunit) (Int.mul_le_mul_right hunit)

end Cell

/-! ## Filters -/

/-- A cell that holds an integer is compared with an integer as if both were rounded to 53 significant
bits. The answer is that of the integers themselves exactly if the two are equal or do not round to
the same number; up to 2^53 they never do. A range with whole bounds has the integers between the
bounds, and those that round to the same number as one of them. -/
theorem integers_are_compared_as_rounded (row : Row) (column : String) (a b : Int)
    (hcell : row.cell column = .int a) (ha : a.natAbs < 10 ^ 308) (hb : b.natAbs < 10 ^ 308) :
    (∀ comparator : Comparator, (Filter.leaf ⟨column, .compare comparator (.int b)⟩).holds row =
      comparator.holds (roundedInt a) (roundedInt b)) ∧
    ((∀ comparator : Comparator, (Filter.leaf ⟨column, .compare comparator (.int b)⟩).holds row =
      comparator.holds a b) ↔ a = b ∨ roundedInt a ≠ roundedInt b) ∧
    (a.natAbs ≤ 2 ^ 53 → b.natAbs ≤ 2 ^ 53 → a = b ∨ roundedInt a ≠ roundedInt b) ∧
    ∀ c : Int, c.natAbs < 10 ^ 308 →
      ((Filter.leaf ⟨column, .between (.int b) (.int c)⟩).holds row = true ↔
        (min b c ≤ a ∧ a ≤ max b c) ∨ roundedInt a = roundedInt b ∨ roundedInt a = roundedInt c) := by
  have hcompare : ∀ comparator : Comparator,
      (Filter.leaf ⟨column, .compare comparator (.int b)⟩).holds row =
        comparator.holds (roundedInt a) (roundedInt b) := by
    intro comparator
    rw [Filter.holds, Test.holds, hcell, Cell.compares_int comparator ha hb]
  refine ⟨hcompare, ⟨fun hexact => ?_, fun hapart comparator => ?_⟩, fun hsmall hsmall' => ?_,
    fun c hc => ?_⟩
  · -- rounded alike, different integers would count as equal
    by_contra hsame
    rw [not_or, not_not] at hsame
    have heq := hexact .eq
    rw [hcompare, hsame.2] at heq
    have hne : ¬ (a < b) ∧ ¬ (b < a) := by simpa [Comparator.holds] using heq
    omega
  · rw [hcompare, Comparator.holds_monotone (fun _ _ => roundedInt_mono) hapart]
  · rw [roundedInt_of_le hsmall, roundedInt_of_le hsmall']
    exact eq_or_ne a b
  · rw [Filter.holds, Test.holds, hcell, Cell.liesBetween_int ha hb hc]
    exact between_monotone (fun _ _ => roundedInt_mono) a b c

/-- An account with a number of 17 digits. -/
def accountRow : Row := [("Account", .int 10000000000000001)]

/-- The account is compared right with one that is far enough from it, and lies in a range that ends
next to it. -/
theorem account_is_compared_as_rounded :
    accountRow.cell "Account" = .int 10000000000000001 ∧
    (Filter.leaf ⟨"Account", .compare .lt (.int 10000000000000003)⟩).holds accountRow = true ∧
    (Filter.leaf ⟨"Account", .between (.int 0) (.int 10000000000000000)⟩).holds accountRow = true := by
  have hpow : ∀ k ≥ 17, 10 ^ 17 ≤ 10 ^ k := fun k hk => Nat.pow_le_pow_right (by decide) hk
  have hsmall : ∀ n : Int, n.natAbs < 10 ^ 17 → n.natAbs < 10 ^ 308 := fun n h =>
    Nat.lt_of_lt_of_le h (hpow 308 (by decide))
  obtain ⟨-, hexact, -, -⟩ := integers_are_compared_as_rounded accountRow "Account" 10000000000000001
    10000000000000003 rfl (hsmall _ (by decide)) (hsmall _ (by decide))
  obtain ⟨-, -, -, hrange⟩ := integers_are_compared_as_rounded accountRow "Account" 10000000000000001
    0 rfl (hsmall _ (by decide)) (hsmall _ (by decide))
  refine ⟨rfl, ?_, ?_⟩
  · rw [hexact.mpr (.inr (by decide +kernel))]
    decide
  · exact (hrange 10000000000000000 (hsmall _ (by decide))).mpr (.inr (.inr (by decide +kernel)))

/-- Account numbers that differ in the last digit can count as equal. -/
theorem neighbouring_accounts_are_taken_for_equal :
    accountRow.cell "Account" = .int 10000000000000001 ∧
    (Filter.leaf ⟨"Account", .compare .eq (.int 10000000000000000)⟩).holds accountRow = true ∧
    Comparator.eq.holds (10000000000000001 : Int) 10000000000000000 = false ∧
    (Filter.leaf ⟨"Account", .between (.int 0) (.int 10000000000000000)⟩).holds accountRow = true ∧
    ¬ (10000000000000001 : Int) ≤ max 0 10000000000000000 := by
  refine ⟨rfl, ?_⟩
  decide +kernel

end SheetQuery
