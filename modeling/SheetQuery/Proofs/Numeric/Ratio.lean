import SheetQuery.Proofs.Numeric.Rounding

/-!
# Ratios up to one

The binary64 number nearest to a ratio of two counts, the first of which is no more than the second.

* `ofRatio_self`: equal counts make one;
* `exists_ofRatio_of_lt`: other counts make at most one, and less if they are not too large to be told
  apart.
-/

namespace SheetQuery

/-! ## Rounded quotients -/

theorem roundDiv_le {num den bound : Nat} (h : num ≤ bound * den) : roundDiv num den ≤ bound := by
  have hparts := Nat.div_add_mod' num den
  rcases Nat.eq_zero_or_pos den with rfl | hden
  · simp only [roundDiv, Nat.mul_zero, Nat.le_zero] at h ⊢
    simp [h]
  · have hquotient : num / den ≤ bound := (Nat.div_le_iff_le_mul_add_pred hden).mpr (by
      rw [Nat.mul_comm]; omega)
    simp only [roundDiv]
    split
    · next hup =>
      -- rounded up from the bound itself there would be a remainder beyond it
      have hne : num / den ≠ bound := by
        rintro rfl
        simp only [Bool.or_eq_true, Bool.and_eq_true, decide_eq_true_eq, beq_iff_eq] at hup
        omega
      omega
    · exact hquotient

/-- Below the middle between a bound and the number before it, a quotient is not rounded to the bound. -/
theorem roundDiv_lt {num den bound : Nat} (h : 2 * num + den < 2 * (bound * den)) :
    roundDiv num den < bound := by
  have hparts := Nat.div_add_mod' num den
  have hden : 0 < den := by
    rcases Nat.eq_zero_or_pos den with rfl | hden
    · simp at h
    · exact hden
  have hquotient : num / den < bound := (Nat.div_lt_iff_lt_mul hden).mpr (by omega)
  simp only [roundDiv]
  split
  · next hup =>
    have hne : num / den + 1 ≠ bound := by
      rintro rfl
      rw [Nat.add_mul, Nat.one_mul] at h
      simp only [Bool.or_eq_true, Bool.and_eq_true, decide_eq_true_eq, beq_iff_eq] at hup
      omega
    omega
  · exact hquotient

namespace Binary64

/-- A common factor of both counts does not matter. -/
theorem ofRatio_mul_mul (num den : Nat) {factor : Nat} (h : 0 < factor) :
    ofRatio false (num * factor) (den * factor) = ofRatio false num den := by
  have hscaled : num * factor * Number.unitsPerOne / (den * factor) =
      num * Number.unitsPerOne / den := by
    rw [Nat.mul_right_comm, Nat.mul_div_mul_right _ _ h]
  have hround : ∀ grain : Nat, roundDiv (num * factor * Number.unitsPerOne) (den * factor * grain) =
      roundDiv (num * Number.unitsPerOne) (den * grain) := by
    intro grain
    rw [Nat.mul_right_comm num, Nat.mul_right_comm den, roundDiv_mul_mul _ _ h]
  simp only [ofRatio, hscaled, hround]

theorem ofRatio_one_one : ofRatio false 1 1 = finite ⟨false, Number.unitsPerOne⟩ := by
  decide +kernel

theorem ofRatio_self {count : Nat} (h : 0 < count) :
    ofRatio false count count = finite ⟨false, Number.unitsPerOne⟩ := by
  have hfactor := ofRatio_mul_mul 1 1 h
  rwa [Nat.one_mul, ofRatio_one_one] at hfactor

/-- The number nearest to a ratio below one is at most one, and less than one if the counts are not too
large to be told apart. -/
theorem exists_ofRatio_of_lt {num den : Nat} (h : num < den) : ∃ units,
    ofRatio false num den = finite ⟨false, units⟩ ∧ units ≤ Number.unitsPerOne ∧
      (den < 2 ^ 54 → units < Number.unitsPerOne) := by
  obtain ⟨exponent, hexponent⟩ : ∃ exponent, exponent = 1074 := ⟨_, rfl⟩
  have hone : Number.unitsPerOne = 2 ^ exponent := by
    rw [Number.unitsPerOne, ← hexponent, Nat.pow_eq]
  have hrange : Number.unitsPerOne < overflowUnits := by decide +kernel
  simp only [ofRatio, Nat.pow_eq]
  generalize Number.unitsPerOne = one at hone hrange ⊢
  have hpos : 0 < one := hone ▸ Nat.two_pow_pos exponent
  have hquotient : num * one / den < one := by
    rw [Nat.div_lt_iff_lt_mul (Nat.zero_lt_of_lt h), Nat.mul_comm num]
    exact Nat.mul_lt_mul_of_pos_left h hpos
  have hbits : surplusBits (num * one / den) + 53 ≤ exponent := by
    unfold surplusBits
    by_cases hzero : num * one / den = 0
    · rw [hzero, Nat.log2_zero]
      omega
    · have hlog : (num * one / den).log2 < exponent :=
        (Nat.log2_lt hzero).mpr (Nat.lt_of_lt_of_eq hquotient hone)
      omega
  generalize surplusBits (num * one / den) = shift at hbits ⊢
  -- one is a multiple of the grain, and at least 2^53 times as large
  obtain ⟨multiple, hmultiple, hlarge⟩ : ∃ multiple, one = multiple * 2 ^ shift ∧
      2 ^ 53 ≤ multiple := by
    refine ⟨2 ^ (exponent - shift), ?_, Nat.pow_le_pow_right (by decide) (by omega)⟩
    rw [hone, ← Nat.pow_add]
    congr 1
    omega
  have hgrain : 0 < 2 ^ shift := Nat.two_pow_pos shift
  generalize 2 ^ shift = grain at hmultiple hgrain ⊢
  have hwhole : den * one = multiple * (den * grain) := by rw [hmultiple, Nat.mul_left_comm]
  have hbelow : num * one + one ≤ den * one := by
    rw [← Nat.succ_mul]
    exact Nat.mul_le_mul_right one h
  have hround : roundDiv (num * one) (den * grain) ≤ multiple := roundDiv_le (by omega)
  have hunits : roundDiv (num * one) (den * grain) * grain ≤ one :=
    Nat.le_trans (Nat.mul_le_mul_right grain hround) (Nat.le_of_eq hmultiple.symm)
  refine ⟨_, if_pos (Nat.lt_of_le_of_lt hunits hrange), hunits, fun hden => ?_⟩
  -- the distance to one is more than half a grain
  have hhalf : den * grain < 2 * one := by
    rw [hmultiple, ← Nat.mul_assoc]
    exact Nat.mul_lt_mul_of_pos_right (by omega) hgrain
  have hless : roundDiv (num * one) (den * grain) < multiple := roundDiv_lt (by omega)
  exact Nat.lt_of_lt_of_eq (Nat.mul_lt_mul_of_pos_right hless hgrain) hmultiple.symm

end Binary64

end SheetQuery
