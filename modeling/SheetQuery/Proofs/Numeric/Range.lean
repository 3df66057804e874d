import Mathlib.Data.Rat.Defs
import Mathlib.Algebra.Order.Field.Power
import Mathlib.Tactic.Linarith
import Mathlib.Tactic.Ring
import SheetQuery.Proofs.Numeric.Ratio

/-!
# The range of binary64 numbers

A magnitude is rounded to infinity from the middle between the largest finite number and the next
power of two on.

* `roundDiv_lt_iff`: which quotients are rounded to less than an even bound;
* `roundedRatio_lt_iff`: which ratios are rounded to less than a power of two;
* `ofRatio_eq_infinite_iff`, `ofDecimal_eq_infinite_iff`: what is rounded to infinity.
-/

namespace SheetQuery

/-- The middle between an even bound and the number before it is rounded to the bound. -/
theorem roundDiv_lt_iff {num den bound : Nat} (hden : 0 < den) (heven : bound % 2 = 0) :
    roundDiv num den < bound ↔ 2 * num + den < 2 * (bound * den) := by
  refine ⟨fun h => ?_, roundDiv_lt⟩
  by_contra hless
  have hparts := Nat.div_add_mod' num den
  have hlast := Nat.mod_lt num hden
  rcases Nat.lt_or_ge (num / den) bound with hlt | hge
  · -- the quotient is the odd number before the bound, with a remainder of at least a half
    have hmul : (num / den + 1) * den ≤ bound * den := Nat.mul_le_mul_right den hlt
    have hquotient : num / den + 1 = bound := by
      by_contra hne
      have hmul' : (num / den + 2) * den ≤ bound * den := Nat.mul_le_mul_right den (by omega)
      rw [Nat.add_mul] at hmul'
      omega
    have hup : den < 2 * (num % den) ∨ 2 * (num % den) = den ∧ num / den % 2 = 1 := by
      rw [← hquotient, Nat.add_mul] at hless
      omega
    have hround : roundDiv num den = bound := by
      rw [← hquotient, roundDiv]
      simp only [Bool.or_eq_true, Bool.and_eq_true, decide_eq_true_eq, beq_iff_eq]
      rw [if_pos hup]
    omega
  · have := Binary64.le_roundDiv num den
    omega

namespace Binary64

/-- A ratio rounded to 53 significant bits. -/
def roundedRatio (num den : Nat) : Nat :=
  roundDiv num (den * 2 ^ surplusBits (num / den)) * 2 ^ surplusBits (num / den)

theorem ofRatio_eq (negative : Bool) (num den : Nat) : ofRatio negative num den =
    if roundedRatio (num * Number.unitsPerOne) den < overflowUnits then
      finite ⟨negative, roundedRatio (num * Number.unitsPerOne) den⟩
    else infinite negative := rfl

theorem lt_two_pow_surplusBits (n : Nat) : n < 2 ^ 53 * 2 ^ surplusBits n := by
  rw [← Nat.pow_add]
  exact Nat.lt_of_lt_of_le Nat.lt_log2_self
    (Nat.pow_le_pow_right (by decide) (by unfold surplusBits; omega))

theorem roundedRatio_le {num den exponent : Nat} (hden : 0 < den)
    (h : num / den < 2 ^ (53 + exponent)) : roundedRatio num den ≤ 2 ^ (53 + exponent) := by
  have hnum : num < 2 ^ 53 * 2 ^ surplusBits (num / den) * den :=
    (Nat.div_lt_iff_lt_mul hden).mp (lt_two_pow_surplusBits _)
  have hround : roundDiv num (den * 2 ^ surplusBits (num / den)) ≤ 2 ^ 53 := by
    apply roundDiv_le
    rw [Nat.mul_comm den, ← Nat.mul_assoc]
    exact hnum.le
  have hbits : surplusBits (num / den) ≤ exponent := by
    by_cases hzero : num / den = 0
    · simp [hzero, surplusBits]
    · have hlog := (Nat.log2_lt hzero).mpr h
      unfold surplusBits
      omega
  rw [Nat.pow_add]
  exact Nat.mul_le_mul hround (Nat.pow_le_pow_right (by decide) hbits)

theorem le_roundedRatio {num den exponent : Nat} (h : 2 ^ exponent ≤ num / den) :
    2 ^ exponent ≤ roundedRatio num den := by
  have hzero : num / den ≠ 0 := by
    have := Nat.two_pow_pos exponent
    omega
  have hlog : exponent ≤ (num / den).log2 := (Nat.le_log2 hzero).mpr h
  obtain ⟨rest, hrest⟩ : ∃ rest, (num / den).log2 = rest + surplusBits (num / den) :=
    ⟨_, (Nat.sub_add_cancel (by unfold surplusBits; omega)).symm⟩
  have hquotient : 2 ^ rest ≤ num / den / 2 ^ surplusBits (num / den) := by
    rw [Nat.le_div_iff_mul_le (Nat.two_pow_pos _), ← Nat.pow_add, ← hrest]
    exact Nat.log2_self_le hzero
  rw [Nat.div_div_eq_div_mul] at hquotient
  calc 2 ^ exponent ≤ 2 ^ rest * 2 ^ surplusBits (num / den) := by
        rw [← Nat.pow_add, ← hrest]
        exact Nat.pow_le_pow_right (by decide) hlog
    _ ≤ roundedRatio num den :=
        Nat.mul_le_mul_right _ (hquotient.trans (le_roundDiv _ _))

/-- Between two powers of two, the number of surplus bits is known. -/
theorem surplusBits_eq {n exponent : Nat} (hlow : 2 ^ (53 + exponent) ≤ n)
    (hhigh : n < 2 ^ (54 + exponent)) : surplusBits n = exponent + 1 := by
  have hzero : n ≠ 0 := by
    have := Nat.two_pow_pos (53 + exponent)
    omega
  have hlog := (Nat.log2_lt hzero).mpr hhigh
  have hlog' := (Nat.le_log2 hzero).mpr hlow
  unfold surplusBits
  omega

/-- A ratio is rounded to less than a power of two if it is below the middle between that and the
number of 53 bits before it. -/
theorem roundedRatio_lt_iff {num den : Nat} (hden : 0 < den) (exponent : Nat) :
    roundedRatio num den < 2 ^ (54 + exponent) ↔
      num + den * 2 ^ exponent < den * 2 ^ (54 + exponent) := by
  have hnext : 2 ^ (54 + exponent) = 2 * 2 ^ (53 + exponent) := by
    rw [← Nat.pow_succ']
    congr 1
    omega
  have hmiddle : 2 ^ exponent ≤ 2 ^ (53 + exponent) := Nat.pow_le_pow_right (by decide) (by omega)
  rcases Nat.lt_or_ge (num / den) (2 ^ (53 + exponent)) with hlow | hhigh
  · -- below the last power of two, rounding reaches that power at most
    have hround := roundedRatio_le hden hlow
    have hpos : 0 < 2 ^ (53 + exponent) := Nat.two_pow_pos _
    have hnum : num < 2 ^ (53 + exponent) * den := (Nat.div_lt_iff_lt_mul hden).mp hlow
    have hhalf : den * 2 ^ exponent ≤ den * 2 ^ (53 + exponent) := Nat.mul_le_mul_left den hmiddle
    rw [Nat.mul_comm] at hnum
    refine iff_of_true (by omega) ?_
    rw [hnext, Nat.mul_left_comm]
    omega
  · rcases Nat.lt_or_ge (num / den) (2 ^ (54 + exponent)) with hbinade | hover
    · -- between the two powers, the grain of rounding is known
      have hpower : 2 ^ (54 + exponent) = 2 ^ 53 * 2 ^ (exponent + 1) := by
        rw [← Nat.pow_add]
        congr 1
        omega
      rw [roundedRatio, surplusBits_eq hhigh hbinade, hpower, Nat.mul_lt_mul_right (Nat.two_pow_pos _),
        roundDiv_lt_iff (Nat.mul_pos hden (Nat.two_pow_pos _)) (by decide), Nat.pow_succ]
      have hgrain : den * (2 ^ exponent * 2) = 2 * (den * 2 ^ exponent) := by ring
      have hbound : den * (2 ^ 53 * (2 ^ exponent * 2)) = 2 ^ 53 * (2 * (den * 2 ^ exponent)) := by
        ring
      rw [hgrain, hbound]
      omega
    · have hround := le_roundedRatio hover
      have hnum : 2 ^ (54 + exponent) * den ≤ num := (Nat.le_div_iff_mul_le hden).mp hover
      rw [Nat.mul_comm] at hnum
      exact iff_of_false (by omega) (by omega)

/-- The same for a ratio that is counted in smaller units. -/
theorem roundedRatio_mul_lt_iff {num den : Nat} (hden : 0 < den) (exponent shift : Nat) :
    roundedRatio (num * 2 ^ shift) den < 2 ^ (54 + exponent + shift) ↔
      num + den * 2 ^ exponent < den * 2 ^ (54 + exponent) := by
  rw [Nat.add_assoc, roundedRatio_lt_iff hden, ← Nat.add_assoc, Nat.pow_add 2 exponent,
    Nat.pow_add 2 (54 + exponent), ← Nat.mul_assoc, ← Nat.mul_assoc, ← Nat.add_mul,
    Nat.mul_lt_mul_right (Nat.two_pow_pos shift)]

/-- A ratio is rounded to infinity from the middle between the largest finite number and the next power
of two on. -/
theorem ofRatio_eq_infinite_iff {negative : Bool} {num den : Nat} (hden : 0 < den) :
    ofRatio negative num den = infinite negative ↔ (2 ^ 1024 - 2 ^ 970) * den ≤ num := by
  have hscaled : roundedRatio (num * Number.unitsPerOne) den < overflowUnits ↔
      num + den * 2 ^ 970 < den * 2 ^ 1024 := by
    -- with a variable in their exponents the large powers are not evaluated
    obtain ⟨shift, hshift⟩ : ∃ shift, shift = 1074 := ⟨_, rfl⟩
    have hunit : Number.unitsPerOne = 2 ^ shift := by
      rw [Number.unitsPerOne, ← hshift, Nat.pow_eq]
    have htop : overflowUnits = 2 ^ (54 + 970 + shift) := by
      rw [overflowUnits, show 2098 = 54 + 970 + shift by omega, Nat.pow_eq]
    rw [hunit, htop, show 1024 = 54 + 970 from rfl]
    exact roundedRatio_mul_lt_iff hden 970 shift
  rw [ofRatio_eq, Nat.sub_mul, Nat.sub_le_iff_le_add, Nat.mul_comm _ den, Nat.mul_comm _ den]
  split
  · next hfinite => exact iff_of_false (by simp) (Nat.not_le.mpr (hscaled.mp hfinite))
  · next hinfinite => exact iff_of_true rfl (Nat.not_lt.mp fun h => hinfinite (hscaled.mpr h))

theorem cast_bound : ((2 ^ 1024 - 2 ^ 970 : Nat) : ℚ) = 2 ^ 1024 - 2 ^ 970 := by
  have hle : ∀ low high : Nat, low ≤ high → 2 ^ low ≤ 2 ^ high :=
    fun _ _ => Nat.pow_le_pow_right (by decide)
  rw [Nat.cast_sub (hle 970 1024 (by decide)), Nat.cast_pow, Nat.cast_pow, Nat.cast_ofNat]

theorem one_lt_bound : (1 : ℚ) < 2 ^ 1024 - 2 ^ 970 := by
  have hparts : (2 : ℚ) ^ 1024 = 2 ^ 970 * 2 ^ 54 := pow_add 2 970 54
  have hone : (1 : ℚ) ≤ 2 ^ 970 := one_le_pow₀ (by norm_num)
  rw [hparts]
  generalize (2 : ℚ) ^ 970 = least at hone ⊢
  linarith

theorem bound_le_pow {exponent : Int} (h : 400 < exponent) :
    (2 : ℚ) ^ 1024 - 2 ^ 970 ≤ 10 ^ exponent := by
  calc (2 : ℚ) ^ 1024 - 2 ^ 970 ≤ 2 ^ 1024 := sub_le_self _ (pow_nonneg (by norm_num) _)
    _ ≤ 2 ^ (3 * 401) := pow_le_pow_right₀ (by norm_num) (by norm_num)
    _ = (2 ^ 3) ^ 401 := pow_mul 2 3 401
    _ ≤ 10 ^ 401 := pow_le_pow_left₀ (by norm_num) (by norm_num) 401
    _ = 10 ^ (401 : Int) := (zpow_natCast 10 401).symm
    _ ≤ 10 ^ exponent := zpow_le_zpow_right₀ (by norm_num) (by omega)

/-- A decimal whose digits and exponent are too small for any number is at most one. -/
theorem decimal_le_one {digits : Nat} {exponent : Int}
    (h : digits = 0 ∨ exponent + (digits.log2 + 1 : Nat) < -400) :
    (digits : ℚ) * 10 ^ exponent ≤ 1 := by
  rcases h with rfl | hsmall
  · simp
  · have hdigits : (digits : ℚ) ≤ 10 ^ (digits.log2 + 1) := by
      have hlog : digits ≤ 2 ^ (digits.log2 + 1) := Nat.lt_log2_self.le
      exact_mod_cast hlog.trans (Nat.pow_le_pow_left (by decide) _)
    calc (digits : ℚ) * 10 ^ exponent ≤ 10 ^ (digits.log2 + 1) * 10 ^ exponent :=
          mul_le_mul_of_nonneg_right hdigits (zpow_nonneg (by norm_num) _)
      _ = 10 ^ (exponent + (digits.log2 + 1 : Nat)) := by
          rw [zpow_add₀ (by norm_num), zpow_natCast, mul_comm]
      _ ≤ 1 := zpow_le_one_of_nonpos₀ (by norm_num) (by omega)

theorem ofRatio_whole_eq_infinite_iff {negative : Bool} {digits n : Nat} :
    ofRatio negative (digits * 10 ^ n) 1 = infinite negative ↔
      (2 : ℚ) ^ 1024 - 2 ^ 970 ≤ digits * 10 ^ (n : Int) := by
  have hcast : ((digits * 10 ^ n : Nat) : ℚ) = digits * 10 ^ n := by push_cast; rfl
  rw [← cast_bound, ofRatio_eq_infinite_iff Nat.one_pos, Nat.mul_one, zpow_natCast, ← hcast,
    Nat.cast_le]

theorem ofRatio_fraction_eq_infinite_iff {negative : Bool} {digits n : Nat} :
    ofRatio negative digits (10 ^ n) = infinite negative ↔
      (2 : ℚ) ^ 1024 - 2 ^ 970 ≤ digits * 10 ^ (-n : Int) := by
  have hpow : (0 : ℚ) < 10 ^ n := pow_pos (by norm_num) n
  rw [← cast_bound, ofRatio_eq_infinite_iff (Nat.pow_pos (by decide)), zpow_neg, zpow_natCast,
    ← div_eq_mul_inv, le_div_iff₀ hpow]
  exact_mod_cast Iff.rfl

/-- A decimal is rounded to infinity from the same bound on. -/
theorem ofDecimal_eq_infinite_iff {negative : Bool} {digits : Nat} {exponent : Int} :
    ofDecimal negative digits exponent = infinite negative ↔
      (2 : ℚ) ^ 1024 - 2 ^ 970 ≤ digits * 10 ^ exponent := by
  rw [ofDecimal]
  split
  · next hsmall =>
    have hone : (digits : ℚ) * 10 ^ exponent ≤ 1 := decimal_le_one (by simpa using hsmall)
    exact iff_of_false (by simp) (not_le.mpr (hone.trans_lt one_lt_bound))
  · next hlarge =>
    have hdigits : 1 ≤ (digits : ℚ) := by
      have hne : digits ≠ 0 := fun h => hlarge (by simp [h])
      exact_mod_cast Nat.one_le_iff_ne_zero.mpr hne
    split
    · next hhigh =>
      refine iff_of_true rfl ((bound_le_pow hhigh).trans ?_)
      exact le_mul_of_one_le_left (zpow_nonneg (by norm_num) _) hdigits
    · split
      · next hwhole =>
        obtain ⟨n, rfl⟩ := Int.eq_ofNat_of_zero_le hwhole
        exact ofRatio_whole_eq_infinite_iff
      · next hfraction =>
        obtain ⟨n, rfl⟩ : ∃ n : Nat, exponent = -n := ⟨exponent.natAbs, by omega⟩
        rw [neg_neg, Int.toNat_natCast]
        exact ofRatio_fraction_eq_infinite_iff

end Binary64

/-! ## Numerals beyond the range -/

namespace Numeral

/-- A text with its ASCII letters in lower case. -/
def folded (cs : List Char) : List Char :=
  cs.map fun c => if c.toNat < 0x80 then Text.lowerChar c else c

/-- The digits of an unsigned decimal numeral and the exponent of ten that goes with them. -/
def decimal? (cs : List Char) : Option (Nat × Int) := do
  let (mantissa, exponentText) := Text.splitAtFirst (fun c => c == 'e' || c == 'E') cs
  let (whole, fractionText) := Text.splitAtFirst (· == '.') mantissa
  let wholeDigits ← digits? whole
  let fractionDigits ← digits? (fractionText.getD [])
  let exponent ← readExponent? exponentText
  if (wholeDigits ++ fractionDigits).isEmpty then none
  else some (digitsValue (wholeDigits ++ fractionDigits), exponent - fractionDigits.length)

/-- A decimal numeral is read as the number nearest to what it says. -/
theorem readDecimal?_eq (negative : Bool) (cs : List Char) : readDecimal? negative cs =
    (decimal? cs).map fun decimal => Binary64.ofDecimal negative decimal.1 decimal.2 := by
  simp only [readDecimal?, decimal?, Option.bind_eq_bind, Option.map_bind, Function.comp_def]
  refine Option.bind_congr fun wholeDigits _ => Option.bind_congr fun fractionDigits _ =>
    Option.bind_congr fun exponent _ => ?_
  split <;> rfl

/-- Is an unsigned numeral a word for infinity, or a decimal beyond all finite numbers? -/
def IsBeyond (cs : List Char) : Prop :=
  folded cs = "inf".toList ∨ folded cs = "infinity".toList ∨ ∃ digits exponent,
    decimal? cs = some (digits, exponent) ∧ (2 : ℚ) ^ 1024 - 2 ^ 970 ≤ digits * 10 ^ exponent

/-- Is an unsigned numeral a word? -/
def IsWord (cs : List Char) : Prop :=
  folded cs = "inf".toList ∨ folded cs = "infinity".toList ∨ folded cs = "nan".toList

theorem readWord?_eq (negative : Bool) (cs : List Char) : readWord? negative cs =
    if folded cs = "inf".toList ∨ folded cs = "infinity".toList then some (.infinite negative)
    else if folded cs = "nan".toList then some .nan else none := by
  simp only [readWord?, folded, Bool.or_eq_true, beq_iff_eq]
  congr

theorem readWord?_eq_none_iff {negative : Bool} {cs : List Char} :
    readWord? negative cs = none ↔ ¬ IsWord cs := by
  rw [readWord?_eq, IsWord, ← or_assoc]
  split_ifs with hinfinite hnan
  · exact iff_of_false (by simp) (not_not_intro (.inl hinfinite))
  · exact iff_of_false (by simp) (not_not_intro (.inr hnan))
  · exact iff_of_true rfl (not_or.mpr ⟨hinfinite, hnan⟩)

/-- No decimal numeral starts with a character that is neither a digit, nor the point, nor the mark of
an exponent. -/
theorem decimal?_cons_eq_none {c : Char} (hdigit : Text.digitValue? c = none)
    (hmark : ∀ d, (d = 'e' ∨ d = 'E') ∨ d = '.' → c ≠ d) (cs : List Char) :
    decimal? (c :: cs) = none := by
  have hexponent : ∀ d ∈ [c], (d == 'e' || d == 'E') = false := by
    simp [hmark]
  have hpoint : ∀ d ∈ [c], (d == '.') = false := by
    simp [hmark]
  have hwhole : ∀ rest, digits? ([c] ++ rest) = none := by
    intro rest
    rw [List.singleton_append, digits?_cons, hdigit]
    rfl
  change decimal? ([c] ++ cs) = none
  simp only [decimal?]
  rw [splitAtFirst_append hexponent, splitAtFirst_append hpoint, hwhole]
  rfl

/-- A word is no decimal numeral. -/
theorem IsWord.decimal?_eq_none {cs : List Char} (h : IsWord cs) : decimal? cs = none := by
  cases cs with
  | nil => rfl
  | cons c cs =>
    have hletter : (if c.toNat < 0x80 then Text.lowerChar c else c) = 'i' ∨
        (if c.toNat < 0x80 then Text.lowerChar c else c) = 'n' := by
      rcases h with h | h | h
      · exact .inl (List.cons.inj h).1
      · exact .inl (List.cons.inj h).1
      · exact .inr (List.cons.inj h).1
    have hdigit : Text.digitValue? c = none := by
      rw [← Option.not_isSome_iff_eq_none]
      intro hsome
      exact readWord?_eq_none_iff.mp (readWord?_of_digit hsome false cs) h
    refine decimal?_cons_eq_none hdigit ?_ cs
    rintro d ((rfl | rfl) | rfl) rfl <;> exact absurd hletter (by decide)

/-- What an unsigned numeral is read as. -/
def readUnsigned? (negative : Bool) (cs : List Char) : Option Binary64 :=
  (readWord? negative cs).orElse fun _ => readDecimal? negative cs

theorem ofDecimal_cases (negative : Bool) (digits : Nat) (exponent : Int) :
    (∃ x, Binary64.ofDecimal negative digits exponent = .finite x) ∨
      Binary64.ofDecimal negative digits exponent = .infinite negative := by
  simp only [Binary64.ofDecimal, Binary64.ofRatio_eq]
  split_ifs <;> simp

/-- An unsigned numeral is a word for infinity, the word for "not a number", or a decimal. -/
theorem readUnsigned?_cases {negative : Bool} {cs : List Char} {x : Binary64}
    (h : readUnsigned? negative cs = some x) :
    ((folded cs = "inf".toList ∨ folded cs = "infinity".toList) ∧ x = .infinite negative) ∨
      (folded cs = "nan".toList ∧ x = .nan) ∨
      (¬ IsWord cs ∧ ∃ digits exponent, decimal? cs = some (digits, exponent) ∧
        x = Binary64.ofDecimal negative digits exponent) := by
  rw [readUnsigned?, readWord?_eq, readDecimal?_eq] at h
  split_ifs at h with hinfinite hnan
  · exact .inl ⟨hinfinite, (Option.some.inj h).symm⟩
  · exact .inr (.inl ⟨hnan, (Option.some.inj h).symm⟩)
  · obtain ⟨⟨digits, exponent⟩, hdecimal, rfl⟩ := Option.map_eq_some_iff.mp h
    refine .inr (.inr ⟨?_, digits, exponent, hdecimal, rfl⟩)
    rw [IsWord, ← or_assoc]
    exact not_or.mpr ⟨hinfinite, hnan⟩

/-- A numeral is read as "not a number" if it is that word. -/
theorem eq_nan_iff {negative : Bool} {cs : List Char} {x : Binary64}
    (h : readUnsigned? negative cs = some x) : x = .nan ↔ folded cs = "nan".toList := by
  rcases readUnsigned?_cases h with ⟨hword, rfl⟩ | ⟨hword, rfl⟩ |
    ⟨hword, digits, exponent, hdecimal, rfl⟩
  · refine iff_of_false nofun ?_
    rcases hword with hword | hword <;> rw [hword] <;> decide
  · exact iff_of_true rfl hword
  · refine iff_of_false ?_ fun hnan => hword (.inr (.inr hnan))
    rcases ofDecimal_cases negative digits exponent with ⟨x, h⟩ | h <;> rw [h] <;> nofun

/-- A numeral is read as infinity if it is a word for that or beyond all finite numbers. -/
theorem eq_infinite_iff {negative : Bool} {cs : List Char} {x : Binary64}
    (h : readUnsigned? negative cs = some x) : (∃ sign, x = .infinite sign) ↔ IsBeyond cs := by
  rcases readUnsigned?_cases h with ⟨hword, rfl⟩ | ⟨hword, rfl⟩ |
    ⟨hword, digits, exponent, hdecimal, rfl⟩
  · exact iff_of_true ⟨negative, rfl⟩ (hword.imp_right .inl)
  · refine iff_of_false (fun ⟨_, h⟩ => nomatch h) ?_
    rintro (h | h | ⟨digits, exponent, hdecimal, -⟩)
    · exact absurd (hword.symm.trans h) (by decide)
    · exact absurd (hword.symm.trans h) (by decide)
    · rw [IsWord.decimal?_eq_none (.inr (.inr hword))] at hdecimal
      cases hdecimal
  · -- only an infinity of the sign of the numeral can be found, so the sign may be fixed
    have hinfinite : (∃ sign, Binary64.ofDecimal negative digits exponent = .infinite sign) ↔
        Binary64.ofDecimal negative digits exponent = .infinite negative := by
      rcases ofDecimal_cases negative digits exponent with ⟨x, h⟩ | h <;> simp [h]
    rw [hinfinite, Binary64.ofDecimal_eq_infinite_iff]
    constructor
    · exact fun hbound => .inr (.inr ⟨digits, exponent, hdecimal, hbound⟩)
    · rintro (h | h | ⟨digits', exponent', hdecimal', hbound⟩)
      · exact absurd (.inl h) hword
      · exact absurd (.inr (.inl h)) hword
      · obtain ⟨rfl, rfl⟩ := Prod.mk.inj (Option.some.inj (hdecimal.symm.trans hdecimal'))
        exact hbound

end Numeral

end SheetQuery
