import Mathlib.Algebra.Order.Group.Unbundled.Int
import Mathlib.Order.Monotone.Defs
import SheetQuery.Proofs.Numeric.Numeral

/-!
# Rounding of integers

The binary64 number of an integer is the integer itself if it has at most 53 significant bits, and
otherwise the nearest one that has.

* `IsShort`: integers of at most 53 significant bits;
* `isShort_rounded`, `rounded_nearest`: rounding gives one of them, and none is nearer;
* `rounded_mono`: rounding keeps the order, which follows from these two;
* `signed_ofInt?`: the number of an integer is the rounded integer.
-/

namespace SheetQuery

/-! ## Quotients -/

theorem roundDiv_le_succ (num den : Nat) : roundDiv num den ≤ num / den + 1 := by
  simp only [roundDiv]
  split <;> omega

/-- A quotient and its remainder without a common factor of the two numbers. -/
theorem roundDiv_mul_mul (num den : Nat) {factor : Nat} (h : 0 < factor) :
    roundDiv (num * factor) (den * factor) = roundDiv num den := by
  have hless : ∀ a b : Nat, a * factor < b * factor ↔ a < b := fun a b => Nat.mul_lt_mul_right h
  have heq : ∀ a b : Nat, a * factor = b * factor ↔ a = b := fun a b => Nat.mul_left_inj (by omega)
  simp only [roundDiv, Nat.mul_div_mul_right _ _ h, Nat.mul_mod_mul_right, ← Nat.mul_assoc, hless,
    Bool.beq_eq_decide_eq, heq]

/-- No multiple of the divisor is nearer to a number than that of its rounded quotient. -/
theorem roundDiv_nearest (num quotient : Nat) {den : Nat} (h : 0 < den) :
    ((roundDiv num den * den : Nat) - (num : Int)).natAbs ≤
      ((quotient * den : Nat) - (num : Int)).natAbs := by
  have hparts := Nat.div_add_mod' num den
  have hlast := Nat.mod_lt num h
  -- the quotient is at most the truncated one, or at least the next
  have hsides : quotient * den ≤ num / den * den ∨ (num / den + 1) * den ≤ quotient * den := by
    rcases Nat.lt_or_ge (num / den) quotient with hlt | hle
    · exact .inr (Nat.mul_le_mul_right den hlt)
    · exact .inl (Nat.mul_le_mul_right den hle)
  rw [Nat.add_mul, Nat.one_mul] at hsides
  simp only [roundDiv]
  split
  · next hup =>
    have hhalf : den ≤ 2 * (num % den) := by
      simp only [Bool.or_eq_true, Bool.and_eq_true, decide_eq_true_eq, beq_iff_eq] at hup
      omega
    rw [Nat.add_mul, Nat.one_mul]
    omega
  · next hdown =>
    have hhalf : 2 * (num % den) ≤ den := by
      simp only [Bool.or_eq_true, decide_eq_true_eq, not_or] at hdown
      omega
    omega

/-! ## Magnitudes -/

theorem Number.unitsPerOne_pos : 0 < unitsPerOne := by
  simp only [unitsPerOne, Nat.pow_eq, Nat.two_pow_pos]

namespace Binary64

/-- Has a magnitude at most 53 significant bits? -/
def IsShort (n : Nat) : Prop := ∃ significand shift, significand ≤ 2 ^ 53 ∧ n = significand * 2 ^ shift

/-- The nearest magnitude of at most 53 significant bits, of two the one with the even significand. -/
def rounded (n : Nat) : Nat := roundDiv n (2 ^ surplusBits n) * 2 ^ surplusBits n

theorem isShort_of_le {n : Nat} (h : n ≤ 2 ^ 53) : IsShort n := ⟨n, 0, h, by simp⟩

theorem isShort_rounded (n : Nat) : IsShort (rounded n) := by
  refine ⟨_, _, ?_, rfl⟩
  have hbits : n < 2 ^ (53 + surplusBits n) :=
    Nat.lt_of_lt_of_le Nat.lt_log2_self
      (Nat.pow_le_pow_right (by decide) (by unfold surplusBits; omega))
  have hquotient : n / 2 ^ surplusBits n < 2 ^ 53 := by
    rwa [Nat.div_lt_iff_lt_mul (Nat.two_pow_pos _), ← Nat.pow_add]
  exact Nat.le_trans (roundDiv_le_succ n _) hquotient

theorem rounded_nearest (n : Nat) {m : Nat} (h : IsShort m) :
    ((rounded n : Int) - n).natAbs ≤ ((m : Int) - n).natAbs := by
  obtain ⟨significand, shift, hsignificand, rfl⟩ := h
  have hgrain : 0 < 2 ^ surplusBits n := Nat.two_pow_pos _
  rcases Nat.lt_or_ge shift (surplusBits n) with hfine | hcoarse
  · -- a shorter number on a finer grid lies below the
    -- leading bit of `n`, which is on the grid of `n`
    have hsplit : 52 + surplusBits n = n.log2 := by
      unfold surplusBits at hfine ⊢
      omega
    have hne : n ≠ 0 := by
      rintro rfl
      simp [surplusBits] at hfine
    have hlead : 2 ^ 52 * 2 ^ surplusBits n ≤ n := by
      rw [← Nat.pow_add, hsplit]
      exact Nat.log2_self_le hne
    have hbelow : significand * 2 ^ shift ≤ 2 ^ 52 * 2 ^ surplusBits n :=
      calc significand * 2 ^ shift ≤ 2 ^ 53 * 2 ^ (surplusBits n - 1) :=
            Nat.mul_le_mul hsignificand (Nat.pow_le_pow_right (by decide) (by omega))
        _ = 2 ^ 52 * 2 ^ surplusBits n := by
            rw [← Nat.pow_add, ← Nat.pow_add]
            congr 1
            omega
    have hnearest := roundDiv_nearest n (2 ^ 52) hgrain
    rw [rounded]
    omega
  · have hmultiple : significand * 2 ^ shift =
        significand * 2 ^ (shift - surplusBits n) * 2 ^ surplusBits n := by
      rw [Nat.mul_assoc, ← Nat.pow_add, Nat.sub_add_cancel hcoarse]
    rw [hmultiple]
    exact roundDiv_nearest n _ hgrain

/-- What is short is not rounded. -/
theorem rounded_of_isShort {n : Nat} (h : IsShort n) : rounded n = n := by
  have hnearest := rounded_nearest n h
  omega

/-- Of two magnitudes the larger one is not rounded to less. -/
theorem rounded_mono : Monotone rounded := by
  intro m n hmn
  rcases Nat.eq_or_lt_of_le hmn with rfl | hlt
  · exact Nat.le_refl _
  · -- otherwise each of the two would be nearer to the other's rounding
    by_contra hless
    have hm := rounded_nearest m (isShort_rounded n)
    have hn := rounded_nearest n (isShort_rounded m)
    omega

theorem log2_mul_two_pow {n : Nat} (h : n ≠ 0) (shift : Nat) :
    (n * 2 ^ shift).log2 = n.log2 + shift := by
  have hne : n * 2 ^ shift ≠ 0 := Nat.mul_ne_zero h (Nat.two_pow_pos shift).ne'
  rw [Nat.log2_eq_iff hne, Nat.add_right_comm, Nat.pow_add, Nat.pow_add]
  exact ⟨Nat.mul_le_mul_right _ (Nat.log2_self_le h),
    Nat.mul_lt_mul_of_pos_right Nat.lt_log2_self (Nat.two_pow_pos shift)⟩

/-- Rounding does not hang on the unit. -/
theorem rounded_mul_pow (n shift : Nat) : rounded (n * 2 ^ shift) = rounded n * 2 ^ shift := by
  by_cases hzero : n = 0
  · subst hzero
    simp [rounded, roundDiv]
  · have hlog : (n * 2 ^ shift).log2 = n.log2 + shift := log2_mul_two_pow hzero shift
    have hpos : 0 < 2 ^ shift := Nat.two_pow_pos shift
    rcases Nat.lt_or_ge n.log2 52 with hshort | hlong
    · -- `n` is short, and so is any multiple of it by a power of two
      have hn : n ≤ 2 ^ 53 := Nat.le_of_lt (Nat.lt_of_lt_of_le Nat.lt_log2_self
        (Nat.pow_le_pow_right (by decide) (by omega)))
      rw [rounded_of_isShort (isShort_of_le hn), rounded_of_isShort ⟨n, shift, hn, rfl⟩]
    · have hsurplus : surplusBits (n * 2 ^ shift) = surplusBits n + shift := by
        unfold surplusBits
        omega
      rw [rounded, hsurplus, Nat.pow_add, roundDiv_mul_mul _ _ hpos, ← Nat.mul_assoc, rounded]

/-! ## Integers -/

/-- The nearest integer of at most 53 significant bits, of two the one with the even significand. -/
def roundedInt (n : Int) : Int := if n < 0 then -(rounded n.natAbs : Int) else rounded n.natAbs

theorem roundedInt_of_le {n : Int} (h : n.natAbs ≤ 2 ^ 53) : roundedInt n = n := by
  rw [roundedInt, rounded_of_isShort (isShort_of_le h)]
  split <;> omega

theorem roundedInt_mono {m n : Int} (h : m ≤ n) : roundedInt m ≤ roundedInt n := by
  unfold roundedInt
  split
  · split
    · have hmono := rounded_mono (show n.natAbs ≤ m.natAbs by omega)
      omega
    · omega
  · rw [if_neg (by omega)]
    have hmono := rounded_mono (show m.natAbs ≤ n.natAbs by omega)
    omega

/-- The number of an integer within range is the rounded integer. -/
theorem signed_ofInt? {n : Int} (h : n.natAbs < 10 ^ 308) : ∃ x : Number,
    ofInt? n = some x ∧ x.signed = roundedInt n * Number.unitsPerOne := by
  have hunits : rounded (n.natAbs * Number.unitsPerOne) = rounded n.natAbs * Number.unitsPerOne := by
    simp only [Number.unitsPerOne, Nat.pow_eq, rounded_mul_pow]
  have hrange : rounded n.natAbs * Number.unitsPerOne < overflowUnits := by
    have hlast : 2 * rounded (10 ^ 308) < 2 ^ 1025 := by decide +kernel
    have hlt : 2 * rounded n.natAbs < 2 ^ 1025 :=
      Nat.lt_of_le_of_lt (Nat.mul_le_mul_left 2 (rounded_mono (Nat.le_of_lt h))) hlast
    have hscaled := Nat.mul_lt_mul_of_pos_right hlt Number.unitsPerOne_pos
    rw [← two_mul_overflowUnits, Nat.mul_assoc] at hscaled
    exact Nat.lt_of_mul_lt_mul_left hscaled
  have hratio : ofRatio (n < 0) n.natAbs 1 =
      finite ⟨n < 0, rounded n.natAbs * Number.unitsPerOne⟩ := by
    simp only [ofRatio, Nat.div_one, Nat.one_mul, Nat.pow_eq]
    rw [← rounded, hunits, if_pos hrange]
  refine ⟨_, by rw [ofInt?, hratio]; rfl, ?_⟩
  -- the unit is a power too large to be written out
  generalize Number.unitsPerOne = units
  rw [Number.signed, roundedInt]
  by_cases hn : n < 0
  · simp [hn, Int.neg_mul]
  · simp [hn]

end Binary64

end SheetQuery
