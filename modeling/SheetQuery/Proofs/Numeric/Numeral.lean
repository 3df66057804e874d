import Mathlib.Algebra.Group.Nat.Defs
import SheetQuery.Cell.Text
import SheetQuery.Numeric.Shortest
import SheetQuery.Proofs.Text.Case

/-!
# Laws of numerals

* `readInteger?_intChars`: an integer is read back from its decimal text, up to the length that
  numerals may have;
* `signed_numberOfText?`: a text that reads as an integer stands for the binary64 number nearest to
  that integer;
* `natAbs_lt_of_isSome_ofInt?`: integers with a finite binary64 value are short;
* `not_mem_render_of_bracket`: numbers are written without brackets.
-/

namespace SheetQuery

open Text (isAsciiDigit digitValue? isBlank)

/-! ## Decimal digits -/

theorem mem_digitChars {n : Nat} {c : Char} (h : c ∈ digitChars n) :
    0x30 ≤ c.toNat ∧ c.toNat ≤ 0x39 := by
  have hdigit := Nat.isDigit_of_mem_toDigits (by decide) (by decide) h
  simp only [Char.isDigit, Bool.and_eq_true, decide_eq_true_eq] at hdigit
  exact ⟨hdigit.1, hdigit.2⟩

theorem digitChars_ne_nil (n : Nat) : digitChars n ≠ [] := Nat.toDigits_ne_nil

theorem length_digitChars_le {n k : Nat} (hk : 0 < k) (h : n < 10 ^ k) :
    (digitChars n).length ≤ k :=
  (Nat.length_toDigits_le_iff (by decide) hk).mpr h

/-- The characters of a decimal integer. -/
theorem mem_intChars {n : Int} {c : Char} (h : c ∈ intChars n) :
    c = '-' ∨ (0x30 ≤ c.toNat ∧ c.toNat ≤ 0x39) := by
  unfold intChars at h
  split at h
  · rcases List.mem_cons.mp h with rfl | h
    · exact .inl rfl
    · exact .inr (mem_digitChars h)
  · exact .inr (mem_digitChars h)

theorem isBlank_eq_false_of_mem_intChars {n : Int} {c : Char} (h : c ∈ intChars n) :
    isBlank c = false := by
  rcases mem_intChars h with rfl | hc
  · decide
  · rw [Bool.eq_false_iff]
    intro hblank
    have hcode := Text.mem_blankCodes hblank
    simp only [Text.blankCodes, List.mem_cons, List.not_mem_nil, or_false] at hcode
    omega

namespace Numeral

open Text (trim isDigit)

theorem digitValue?_of_ascii {c : Char} (h : 0x30 ≤ c.toNat ∧ c.toNat ≤ 0x39) :
    digitValue? c = some (c.toNat - 0x30) := by
  have hc : isAsciiDigit c = true := by simpa [isAsciiDigit] using h
  simp [digitValue?, hc]

theorem digits?_cons (c : Char) (cs : List Char) :
    digits? (c :: cs) = (digitValue? c).bind fun d => (digits? cs).map (d :: ·) := by
  simp only [digits?, List.mapM_cons]
  cases digitValue? c <;> cases List.mapM digitValue? cs <;> rfl

theorem isDigit_of_digits? {cs : List Char} {digits : List Nat} (h : digits? cs = some digits) :
    ∀ c ∈ cs, (digitValue? c).isSome = true := by
  induction cs generalizing digits with
  | nil => simp
  | cons c cs ih =>
    rw [digits?_cons] at h
    obtain ⟨d, hd, h⟩ := Option.bind_eq_some_iff.mp h
    obtain ⟨rest, hrest, -⟩ := Option.map_eq_some_iff.mp h
    intro e he
    rcases List.mem_cons.mp he with rfl | he
    · simp [hd]
    · exact ih hrest e he

theorem digits?_of_ascii {cs : List Char} (h : ∀ c ∈ cs, 0x30 ≤ c.toNat ∧ c.toNat ≤ 0x39) :
    digits? cs = some (cs.map fun c => c.toNat - 0x30) := by
  induction cs with
  | nil => rfl
  | cons c cs ih =>
    rw [digits?_cons, digitValue?_of_ascii (h c List.mem_cons_self),
      ih fun d hd => h d (List.mem_cons_of_mem _ hd)]
    rfl

theorem digitsValue_digitChars (n : Nat) :
    digitsValue ((digitChars n).map fun c => c.toNat - 0x30) = n := by
  rw [digitsValue, List.foldl_map]
  exact Nat.ofDigitChars_ten_toDigits

theorem dropSeparators_of_not_mem {cs : List Char} (h : '_' ∉ cs) (before : Bool) :
    dropSeparators before cs = cs := by
  induction cs generalizing before with
  | nil => rfl
  | cons c cs ih =>
    have hc : c ≠ '_' := fun heq => h (heq ▸ List.mem_cons_self)
    simp [dropSeparators, hc, ih fun hmem => h (List.mem_cons_of_mem _ hmem)]

theorem splitSign_of_ne {c : Char} {cs : List Char} (hminus : c ≠ '-') (hplus : c ≠ '+') :
    splitSign (c :: cs) = (false, c :: cs) := by
  unfold splitSign
  split <;> simp_all

theorem splitSign_intChars (n : Int) :
    splitSign (intChars n) = (decide (n < 0), digitChars n.natAbs) := by
  unfold intChars
  split
  · next h => simp [splitSign, h]
  · next h =>
    obtain ⟨c, cs, hcs⟩ := List.exists_cons_of_ne_nil (digitChars_ne_nil n.natAbs)
    have hc : 0x30 ≤ c.toNat ∧ c.toNat ≤ 0x39 := mem_digitChars (hcs ▸ List.mem_cons_self)
    have hminus : c ≠ '-' := by
      rintro rfl
      exact absurd hc.1 (by decide)
    have hplus : c ≠ '+' := by
      rintro rfl
      exact absurd hc.1 (by decide)
    rw [hcs, splitSign_of_ne hminus hplus]
    simp [h]

@[simp] theorem trim_intChars (n : Int) : trim (intChars n) = intChars n := by
  apply Text.trimWith_of_isTrimmed
  constructor
  · intro c hc
    exact isBlank_eq_false_of_mem_intChars (List.mem_of_mem_head? hc)
  · intro c hc
    exact isBlank_eq_false_of_mem_intChars (List.mem_of_mem_getLast? hc)

theorem readInteger?_of_digits? {cs body : List Char} {negative : Bool} {digits : List Nat}
    (hsign : splitSign (dropSeparators false (trim cs)) = (negative, body))
    (hdigits : digits? body = some digits) (hne : digits ≠ [])
    (hlength : digits.length ≤ maxIntegerDigits) :
    readInteger? cs =
      some (if negative then -(digitsValue digits : Int) else digitsValue digits) := by
  obtain ⟨d, ds, rfl⟩ := List.exists_cons_of_ne_nil hne
  simp only [readInteger?, hsign, hdigits, if_neg (Nat.not_lt.mpr hlength)]

theorem exists_of_readInteger? {cs : List Char} {n : Int} (h : readInteger? cs = some n) :
    ∃ negative body digits, splitSign (dropSeparators false (trim cs)) = (negative, body) ∧
      digits? body = some digits ∧ digits ≠ [] ∧
      n = if negative then -(digitsValue digits : Int) else digitsValue digits := by
  simp only [readInteger?] at h
  split at h
  · cases h
  · cases h
  · next digits hne hdigits =>
    split at h
    · cases h
    · refine ⟨_, _, digits, rfl, hdigits, ?_, (Option.some.inj h).symm⟩
      rintro rfl
      exact hne rfl

/-- An integer is read back from its decimal text. -/
theorem readInteger?_intChars {n : Int} (h : n.natAbs < 10 ^ maxIntegerDigits) :
    readInteger? (intChars n) = some n := by
  have hline : '_' ∉ intChars n := by
    intro hmem
    rcases mem_intChars hmem with heq | hc
    · exact absurd heq (by decide)
    · exact absurd hc.2 (by decide)
  have hsign : splitSign (dropSeparators false (trim (intChars n))) =
      (decide (n < 0), digitChars n.natAbs) := by
    rw [trim_intChars, dropSeparators_of_not_mem hline, splitSign_intChars]
  have hlength : ((digitChars n.natAbs).map fun c => c.toNat - 0x30).length ≤ maxIntegerDigits := by
    rw [List.length_map]
    exact length_digitChars_le (by decide) h
  rw [readInteger?_of_digits? hsign (digits?_of_ascii fun c hc => mem_digitChars hc)
    (by simp [digitChars_ne_nil]) hlength, digitsValue_digitChars]
  congr 1
  by_cases hn : n < 0
  · simp only [hn, decide_true, if_true]
    omega
  · simp only [hn, decide_false, Bool.false_eq_true, if_false]
    omega

/-! ## Integers as binary64 numbers -/

theorem splitAtFirst_of_forall_not {p : Char → Bool} {cs : List Char}
    (h : ∀ c ∈ cs, p c = false) : Text.splitAtFirst p cs = (cs, none) := by
  have hdrop : cs.dropWhile (! p ·) = [] := by
    rw [List.dropWhile_eq_nil_iff]
    intro c hc
    simp [h c hc]
  rw [Text.splitAtFirst, hdrop]

theorem splitAtFirst_append {p : Char → Bool} {xs : List Char} (h : ∀ c ∈ xs, p c = false)
    (ys : List Char) : (Text.splitAtFirst p (xs ++ ys)).1 = xs ++ (Text.splitAtFirst p ys).1 := by
  have hxs : ∀ c ∈ xs, (! p c) = true := by
    intro c hc
    simp [h c hc]
  rw [Text.splitAtFirst, Text.splitAtFirst, List.dropWhile_append_of_pos hxs,
    List.takeWhile_append_of_pos hxs]
  split <;> rfl

theorem readDecimal?_of_digits? {cs : List Char} {digits : List Nat} (negative : Bool)
    (hdigits : digits? cs = some digits) (hne : digits ≠ []) :
    readDecimal? negative cs = some (Binary64.ofDecimal negative (digitsValue digits) 0) := by
  have hdigit := isDigit_of_digits? hdigits
  have hnot : ∀ c d : Char, digitValue? d = none → c ∈ cs → (c == d) = false := by
    intro c d hd hc
    rw [beq_eq_false_iff_ne]
    rintro rfl
    simpa [hd] using hdigit c hc
  have hexponent : ∀ c ∈ cs, (c == 'e' || c == 'E') = false := by
    intro c hc
    rw [hnot c 'e' (by decide) hc, hnot c 'E' (by decide) hc]
    rfl
  have hpoint : ∀ c ∈ cs, (c == '.') = false := fun c hc => hnot c '.' (by decide) hc
  have hnil : digits? [] = some [] := rfl
  simp only [readDecimal?, splitAtFirst_of_forall_not hexponent, splitAtFirst_of_forall_not hpoint,
    hdigits, Option.getD_none, hnil, readExponent?]
  simp [hne]

theorem lowerChar_of_digit {c : Char} (h : isAsciiDigit c = true) : Text.lowerChar c = c := by
  rw [Text.lowerChar_eq_iff]
  rw [Text.isPlainAscii_iff]
  simp only [isAsciiDigit, Bool.and_eq_true, decide_eq_true_eq] at h
  omega

/-- A text that starts with a digit is no word. -/
theorem readWord?_of_digit {c : Char} (h : (digitValue? c).isSome = true) (negative : Bool)
    (cs : List Char) : readWord? negative (c :: cs) = none := by
  have hfold : (if c.toNat < 0x80 then Text.lowerChar c else c) = c := by
    split
    · next hlow =>
      apply lowerChar_of_digit
      unfold digitValue? at h
      by_contra hc
      simp [hc, hlow] at h
    · rfl
  have hi : c ≠ 'i' := by
    rintro rfl
    exact absurd h (by decide)
  have hn : c ≠ 'n' := by
    rintro rfl
    exact absurd h (by decide)
  simp [readWord?, hfold, hi, hn]

theorem readWord?_of_digits? {cs : List Char} {digits : List Nat} (negative : Bool)
    (hdigits : digits? cs = some digits) (hne : digits ≠ []) : readWord? negative cs = none := by
  cases cs with
  | nil =>
    obtain rfl := Option.some.inj hdigits
    exact absurd rfl hne
  | cons c cs => exact readWord?_of_digit (isDigit_of_digits? hdigits c List.mem_cons_self) _ _

/-! ## A hyphen inside -/

theorem exists_dropSeparators_append {xs : List Char} (h : '_' ∉ xs) (before : Bool)
    (ys : List Char) : ∃ rest, dropSeparators before (xs ++ ys) = xs ++ rest := by
  induction xs generalizing before with
  | nil => exact ⟨_, rfl⟩
  | cons x xs ih =>
    obtain ⟨rest, hrest⟩ := ih (fun hmem => h (List.mem_cons_of_mem _ hmem)) (Text.isDigit x)
    have hx : x ≠ '_' := fun heq => h (heq ▸ List.mem_cons_self)
    refine ⟨rest, ?_⟩
    rw [List.cons_append, dropSeparators, if_neg (by simp [hx]), hrest]
    rfl

section Hyphen

variable {digits : List Char}

/-- Among digits and a hyphen there is no other character. -/
theorem beq_eq_false_of_mem_hyphenated (hdigits : ∀ c ∈ digits, 0x30 ≤ c.toNat ∧ c.toNat ≤ 0x39)
    (e : Char) (hhyphen : e ≠ '-') (hdigit : ¬ (0x30 ≤ e.toNat ∧ e.toNat ≤ 0x39)) :
    ∀ c ∈ digits ++ ['-'], (c == e) = false := by
  intro c hc
  rw [beq_eq_false_iff_ne]
  rintro rfl
  rcases List.mem_append.mp hc with hc | hc
  · exact hdigit (hdigits c hc)
  · exact hhyphen (List.mem_singleton.mp hc)

theorem isTrimmed_hyphenated (hne : digits ≠ [])
    (hdigits : ∀ c ∈ digits, 0x30 ≤ c.toNat ∧ c.toNat ≤ 0x39) :
    Text.IsTrimmed isBlank (digits ++ ['-']) := by
  constructor
  · intro c hc
    rw [List.head?_append_of_ne_nil _ hne] at hc
    have hdigit := hdigits c (List.mem_of_mem_head? hc)
    rw [Bool.eq_false_iff]
    intro hblank
    have hcode := Text.mem_blankCodes hblank
    simp only [Text.blankCodes, List.mem_cons, List.not_mem_nil, or_false] at hcode
    omega
  · intro c hc
    rw [Option.mem_def, List.getLast?_concat] at hc
    obtain rfl := Option.some.inj hc
    decide

/-- Trimming and dropping low lines leave digits and a hyphen at the start as they are. -/
theorem exists_dropSeparators_hyphenated (hne : digits ≠ [])
    (hdigits : ∀ c ∈ digits, 0x30 ≤ c.toNat ∧ c.toNat ≤ 0x39) (rest : List Char) :
    ∃ more, dropSeparators false (trim (digits ++ '-' :: rest)) = digits ++ ['-'] ++ more := by
  have htrim : trim (digits ++ '-' :: rest) =
      (digits ++ ['-']) ++ Text.trimEndWith isBlank rest := by
    have haround := Text.trimWith_around (isTrimmed_hyphenated hne hdigits) (by simp) [] rest
    simpa [trim] using haround
  have hline : '_' ∉ digits ++ ['-'] := fun hmem => by
    simpa using beq_eq_false_of_mem_hyphenated hdigits '_' (by decide) (by decide) '_' hmem
  rw [htrim]
  exact exists_dropSeparators_append hline false _

/-- A hyphen after digits spoils a numeral. -/
theorem readBinary64?_of_hyphen (hne : digits ≠ [])
    (hdigits : ∀ c ∈ digits, 0x30 ≤ c.toNat ∧ c.toNat ≤ 0x39) (rest : List Char) :
    readBinary64? (digits ++ '-' :: rest) = none := by
  obtain ⟨more, hmore⟩ := exists_dropSeparators_hyphenated hne hdigits rest
  obtain ⟨d, ds, rfl⟩ := List.exists_cons_of_ne_nil hne
  have hd := hdigits d List.mem_cons_self
  have hsign : splitSign (d :: ds ++ ['-'] ++ more) = (false, d :: ds ++ ['-'] ++ more) := by
    change splitSign (d :: (ds ++ ['-']) ++ more) = _
    apply splitSign_of_ne
    · rintro rfl
      exact absurd hd.1 (by decide)
    · rintro rfl
      exact absurd hd.1 (by decide)
  have hword : readWord? false (d :: ds ++ ['-'] ++ more) = none :=
    readWord?_of_digit (by simp [digitValue?_of_ascii hd]) _ _
  -- up to the hyphen there is no mark of a numeral, so all of it is taken for the whole part
  have hexponent : ∀ c ∈ d :: ds ++ ['-'], (c == 'e' || c == 'E') = false := by
    intro c hc
    rw [beq_eq_false_of_mem_hyphenated hdigits 'e' (by decide) (by decide) c hc,
      beq_eq_false_of_mem_hyphenated hdigits 'E' (by decide) (by decide) c hc]
    rfl
  have hpoint : ∀ c ∈ d :: ds ++ ['-'], (c == '.') = false :=
    beq_eq_false_of_mem_hyphenated hdigits '.' (by decide) (by decide)
  have hwhole : ∀ ys, digits? (d :: ds ++ ['-'] ++ ys) = none := by
    intro ys
    rw [Option.eq_none_iff_forall_ne_some]
    intro found hfound
    have hhyphen := isDigit_of_digits? hfound '-' (by simp)
    exact absurd hhyphen (by decide)
  rw [readBinary64?, hmore, hsign]
  simp only [hword, Option.orElse_none, readDecimal?]
  rw [splitAtFirst_append hexponent, splitAtFirst_append hpoint, hwhole]
  rfl

end Hyphen

end Numeral

namespace Binary64

theorem overflowUnits_pos : 0 < overflowUnits := Nat.two_pow_pos 2098

theorem ofRatio_zero (negative : Bool) (den : Nat) :
    ofRatio negative 0 den = finite ⟨negative, 0⟩ := by
  simp [ofRatio, roundDiv, overflowUnits_pos]

theorem ofInt?_zero : ofInt? 0 = some ⟨false, 0⟩ := by
  simp [ofInt?, ofRatio_zero, finite?]

/-- A whole decimal is rounded as the integer it is, but for the sign of zero. -/
theorem signed_ofDecimal_zero (negative : Bool) (n : Nat) :
    ((ofDecimal negative n 0).finite?).map Number.signed =
      (ofInt? (if negative then -(n : Int) else n)).map Number.signed := by
  have hlow : ¬ ((n.log2 : Int) + 1 < -400) := by omega
  by_cases hn : n = 0
  · subst hn
    have hzero : (if negative then -((0 : Nat) : Int) else ((0 : Nat) : Int)) = 0 := by simp
    rw [hzero, ofInt?_zero]
    cases negative <;> rfl
  · have hsign : decide ((if negative then -(n : Int) else n) < 0) = negative := by
      cases negative with
      | false => simp
      | true =>
        simp only [if_true, decide_eq_true_eq]
        omega
    have habs : (if negative then -(n : Int) else n).natAbs = n := by
      cases negative <;> simp
    rw [ofInt?, hsign, habs]
    simp [ofDecimal, hn, hlow]

theorem pow_surplusBits_le {units : Nat} (h : units ≠ 0) : 2 ^ surplusBits units ≤ units :=
  calc 2 ^ surplusBits units ≤ 2 ^ units.log2 :=
        Nat.pow_le_pow_right (by decide) (by unfold surplusBits; omega)
    _ ≤ units := Nat.log2_self_le h

theorem le_roundDiv (num den : Nat) : num / den ≤ roundDiv num den := by
  simp only [roundDiv]
  split <;> omega

/-- Rounding keeps at least half of a magnitude. -/
theorem lt_of_ofRatio_finite {negative : Bool} {n : Nat} {x : Number}
    (h : ofRatio negative n 1 = finite x) : n * Number.unitsPerOne < 2 * overflowUnits := by
  simp only [ofRatio, Nat.div_one, Nat.one_mul, Nat.pow_eq] at h
  split at h
  · next hlt =>
    by_cases hzero : n * Number.unitsPerOne = 0
    · have := overflowUnits_pos
      omega
    · -- the magnitude holds its grain at least once, so what rounding
      -- cuts off, less than a grain, is at most what it keeps
      generalize n * Number.unitsPerOne = scaled at hlt hzero
      have hgrain := pow_surplusBits_le hzero
      have hpos : 0 < 2 ^ surplusBits scaled := Nat.two_pow_pos _
      generalize 2 ^ surplusBits scaled = grain at hlt hgrain hpos
      have hone : 1 ≤ scaled / grain := (Nat.one_le_div_iff hpos).mpr hgrain
      have hdiv : scaled / grain * grain ≤ roundDiv scaled grain * grain :=
        Nat.mul_le_mul_right _ (le_roundDiv _ _)
      have hgrain' : 1 * grain ≤ scaled / grain * grain := Nat.mul_le_mul_right _ hone
      have hmod := Nat.div_add_mod' scaled grain
      have hlast := Nat.mod_lt scaled hpos
      omega
  · cases h

theorem two_mul_overflowUnits : 2 * overflowUnits = 2 ^ 1025 * Number.unitsPerOne := by
  rw [overflowUnits, Number.unitsPerOne, Nat.pow_eq, Nat.pow_eq, ← Nat.pow_add, ← Nat.pow_succ']

theorem lt_pow_of_mul_unitsPerOne_lt {n digits : Nat} (hdigits : 1025 ≤ digits)
    (h : n * Number.unitsPerOne < 2 * overflowUnits) : n < 10 ^ digits := by
  rw [two_mul_overflowUnits] at h
  have hlt := Nat.lt_of_mul_lt_mul_right h
  have hbase : 2 ^ digits ≤ 10 ^ digits := Nat.pow_le_pow_left (by decide) digits
  have hexponent := Nat.pow_le_pow_right (show 0 < 2 by decide) hdigits
  exact Nat.lt_of_lt_of_le hlt (Nat.le_trans hexponent hbase)

theorem finite?_eq_some_iff {x : Binary64} {y : Number} : x.finite? = some y ↔ x = finite y := by
  cases x <;> simp [finite?]

/-- Integers with a finite binary64 value have no more digits than numerals may have. -/
theorem natAbs_lt_of_isSome_ofInt? {n : Int} (h : (ofInt? n).isSome = true) :
    n.natAbs < 10 ^ Numeral.maxIntegerDigits := by
  obtain ⟨x, hx⟩ := Option.isSome_iff_exists.mp h
  exact lt_pow_of_mul_unitsPerOne_lt (by decide) (lt_of_ofRatio_finite (finite?_eq_some_iff.mp hx))

end Binary64

/-! ## Written numbers -/

theorem not_mem_intChars_of_bracket (n : Int) : '[' ∉ intChars n := by
  intro h
  rcases mem_intChars h with h | h
  · exact absurd h (by decide)
  · exact absurd h.2 (by decide)

theorem not_mem_digitChars_of_bracket (n : Nat) : '[' ∉ digitChars n :=
  fun h => absurd (mem_digitChars h).2 (by decide)

theorem not_mem_ite {c : Char} {p : Prop} [Decidable p] {xs ys : List Char} (hxs : c ∉ xs)
    (hys : c ∉ ys) : c ∉ if p then xs else ys := by
  split
  · exact hxs
  · exact hys

theorem not_mem_signed {p : Prop} [Decidable p] {body : List Char} (h : '[' ∉ body) :
    '[' ∉ if p then '-' :: body else body := by
  refine not_mem_ite ?_ h
  simp only [List.mem_cons, not_or]
  exact ⟨by decide, h⟩

theorem not_mem_render_of_bracket (x : Number) : '[' ∉ x.render := by
  have hdigits := not_mem_digitChars_of_bracket
  have htake : ∀ n k, '[' ∉ (digitChars n).take k := fun n k h => hdigits n (List.mem_of_mem_take h)
  have hdrop : ∀ n k, '[' ∉ (digitChars n).drop k := fun n k h => hdigits n (List.mem_of_mem_drop h)
  have hzeros : ∀ k, '[' ∉ List.replicate k '0' :=
    fun k h => absurd (List.eq_of_mem_replicate h) (by decide)
  have hsign : ∀ p [Decidable p], '[' ≠ if p then '-' else '+' := by
    intro p _
    split <;> decide
  rw [Number.render]
  -- the digits are out of reach of evaluation, and any others would do
  generalize Number.shortest x.units = decimal
  extract_lets shown digits point fraction power
  have hfraction : '[' ∉ fraction := by
    refine not_mem_ite (hdigits _) ?_
    simp only [List.mem_append, List.mem_cons, not_or]
    exact ⟨htake _ _, by decide, hdrop _ _⟩
  refine not_mem_signed (not_mem_ite (by decide) (not_mem_ite ?_ (not_mem_ite ?_ (not_mem_ite ?_ ?_))))
  all_goals simp only [List.mem_append, List.mem_cons, List.not_mem_nil, or_false, not_or]
  · refine ⟨⟨hfraction, by decide, hsign _⟩, not_mem_ite ?_ (hdigits _)⟩
    simp only [List.mem_cons, not_or]
    exact ⟨by decide, hdigits _⟩
  · exact ⟨⟨⟨by decide, by decide⟩, hzeros _⟩, hdigits _⟩
  · exact ⟨⟨hdigits _, hzeros _⟩, by decide, by decide⟩
  · exact ⟨htake _ _, by decide, hdrop _ _⟩

namespace Cell

open Numeral

/-- A text that reads as an integer stands for the number nearest to it. -/
theorem signed_numberOfText? {cs : List Char} {n : Int}
    (h : readInteger? (Text.trim cs) = some n) :
    (numberOfText? cs).map Number.signed = (Binary64.ofInt? n).map Number.signed := by
  obtain ⟨negative, body, digits, hsign, hdigits, hne, rfl⟩ := exists_of_readInteger? h
  rw [numberOfText?, readBinary64?, hsign]
  simp only [readWord?_of_digits? negative hdigits hne, readDecimal?_of_digits? negative hdigits hne]
  exact Binary64.signed_ofDecimal_zero negative _

end Cell

end SheetQuery
