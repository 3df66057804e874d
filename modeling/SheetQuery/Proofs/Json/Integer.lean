import SheetQuery.Proofs.Json.Writing

/-!
# Numerals of integers in JSON

* `word_intChars`: an integer that is not too long is read from its numeral;
* `writesLexeme_of_word`: a word that is read as an integer is a numeral of it.
-/

namespace SheetQuery.Json

/-! ## From the integer to its numeral and back -/

theorem isAsciiDigit_of_mem_digitChars {n : Nat} {c : Char} (h : c ∈ digitChars n) :
    Text.isAsciiDigit c = true := by
  have hc := mem_digitChars h
  simp [Text.isAsciiDigit, hc]

theorem foldl_digits_lt {digits : List Nat} (h : ∀ d ∈ digits, d < 10) {value bound : Nat}
    (hvalue : value < bound) :
    digits.foldl (fun value d => 10 * value + d) value < bound * 10 ^ digits.length := by
  induction digits generalizing value bound with
  | nil => simpa using hvalue
  | cons d digits ih =>
    have hd := h d List.mem_cons_self
    have hnext : 10 * value + d < bound * 10 := by omega
    have := ih (fun e he => h e (List.mem_cons_of_mem _ he)) hnext
    rwa [List.foldl_cons, List.length_cons, Nat.pow_succ', ← Nat.mul_assoc]

/-- Only the numeral of zero starts with the digit zero. -/
theorem eq_nil_of_digitChars_eq {n : Nat} {rest : List Char} (h : digitChars n = '0' :: rest) :
    rest = [] := by
  by_contra hne
  -- without its first digit the numeral has the same value, so it would be too long
  have hvalue : rest.foldl (fun value c => 10 * value + (c.toNat - 0x30)) 0 = n := by
    have hall := Numeral.digitsValue_digitChars n
    rw [h, Numeral.digitsValue, List.foldl_map] at hall
    exact hall
  have hdigits : ∀ d ∈ rest.map fun c => c.toNat - 0x30, d < 10 := by
    intro d hd
    obtain ⟨c, hc, rfl⟩ := List.mem_map.mp hd
    have := mem_digitChars (n := n) (h ▸ List.mem_cons_of_mem _ hc)
    omega
  have hlt : n < 10 ^ rest.length := by
    have := foldl_digits_lt hdigits Nat.zero_lt_one
    rwa [List.foldl_map, hvalue, List.length_map, Nat.one_mul] at this
  have hlength := length_digitChars_le (List.length_pos_of_ne_nil hne) hlt
  rw [h, List.length_cons] at hlength
  omega

/-- All of the numeral of an integer is its integer part. -/
theorem splitInteger?_intChars (n : Int) : splitInteger? (intChars n) = some (intChars n, []) := by
  obtain ⟨c, cs, hcs⟩ := List.exists_cons_of_ne_nil (digitChars_ne_nil n.natAbs)
  have hdigits : ∀ d ∈ c :: cs, Text.isAsciiDigit d = true := by
    rw [← hcs]
    exact fun d hd => isAsciiDigit_of_mem_digitChars hd
  have htake : (c :: cs).takeWhile Text.isAsciiDigit = c :: cs := by
    simpa [List.takeWhile_eq_self_iff] using hdigits
  have hdrop : (c :: cs).dropWhile Text.isAsciiDigit = [] := by
    simpa [List.dropWhile_eq_nil_iff] using hdigits
  have hdigit := hdigits c List.mem_cons_self
  have hminus : c ≠ '-' := by
    rintro rfl
    exact absurd hdigit (by decide)
  have hsplit : splitInteger? (c :: cs) = some (c :: cs, []) ∧
      splitInteger? ('-' :: c :: cs) = some ('-' :: c :: cs, []) := by
    -- a leading zero ends an integer of JSON; the numeral of an integer has one only if it is zero
    by_cases hc : c = '0'
    · subst hc
      rw [eq_nil_of_digitChars_eq hcs]
      exact ⟨rfl, rfl⟩
    · constructor
      · simp only [splitInteger?]
        simp [hminus, hdigit, htake, hdrop]
      · simp only [splitInteger?]
        simp [hdigit, htake, hdrop]
  rw [intChars, hcs]
  split
  · exact hsplit.2
  · exact hsplit.1

theorem length_filter_intChars (n : Int) :
    ((intChars n).filter Text.isAsciiDigit).length = (digitChars n.natAbs).length := by
  have hall : (digitChars n.natAbs).filter Text.isAsciiDigit = digitChars n.natAbs :=
    List.filter_eq_self.mpr fun c hc => isAsciiDigit_of_mem_digitChars hc
  rw [intChars]
  split
  · rw [List.filter_cons_of_neg (by decide), hall]
  · rw [hall]

/-- An integer that is not too long is read from its numeral. -/
theorem word_intChars {n : Int} (h : n.natAbs < 10 ^ Numeral.maxIntegerDigits) :
    word (intChars n) = .scalar (.int n) := by
  -- a numeral has no letters, so it is none of the words
  have hne : ∀ (c : Char) (name : List Char), c ≠ '-' → ¬ (0x30 ≤ c.toNat ∧ c.toNat ≤ 0x39) →
      c ∈ name → (intChars n == name) = false := by
    intro c name hminus hdigit hc
    rw [beq_eq_false_iff_ne]
    rintro rfl
    exact (mem_intChars hc).elim hminus hdigit
  have hlength : ¬ Numeral.maxIntegerDigits < (digitChars n.natAbs).length :=
    Nat.not_lt.mpr (length_digitChars_le (by decide) h)
  rw [word, hne 'n' _ (by decide) (by decide) (by decide),
    hne 'r' _ (by decide) (by decide) (by decide), hne 'f' _ (by decide) (by decide) (by decide),
    hne 'N' _ (by decide) (by decide) (by decide), hne 'I' _ (by decide) (by decide) (by decide),
    hne 'I' _ (by decide) (by decide) (by decide), numeral, splitInteger?_intChars]
  simp [dropFraction, dropExponent, length_filter_intChars, hlength, Numeral.readInteger?_intChars h]

/-! ## From a numeral to its integer and back -/

theorem digitChars_of_digit {c : Char} (h : Text.isAsciiDigit c = true) :
    digitChars (c.toNat - 0x30) = [c] := by
  have hall : ∀ d < 10, Nat.digitChar d = Char.ofNat (0x30 + d) := by decide
  simp only [Text.isAsciiDigit, Bool.and_eq_true, decide_eq_true_eq] at h
  have hcode : 0x30 + (c.toNat - 0x30) = c.toNat := by omega
  rw [digitChars, Nat.toDigits_of_lt_base (by omega), hall _ (by omega), hcode, Char.ofNat_toNat]

/-- A numeral without leading zeros is that of its value. -/
theorem digitChars_digitsValue {cs : List Char} (hdigits : ∀ c ∈ cs, Text.isAsciiDigit c = true)
    (hne : cs ≠ []) (hlead : cs.head? = some '0' → cs = ['0']) :
    digitChars (Numeral.digitsValue (cs.map fun c => c.toNat - 0x30)) = cs := by
  -- the value of a numeral grows at its last digit, so the induction
  -- takes that digit off; what is left has no leading zero either
  induction cs using List.reverseRecOn with
  | nil => exact absurd rfl hne
  | append_singleton cs c ih =>
    have hc : Text.isAsciiDigit c = true := hdigits c (by simp)
    have hvalue : Numeral.digitsValue ((cs ++ [c]).map fun c => c.toNat - 0x30) =
        10 * Numeral.digitsValue (cs.map fun c => c.toNat - 0x30) + (c.toNat - 0x30) := by
      simp [Numeral.digitsValue]
    have hdigit := digitChars_of_digit hc
    by_cases hcs : cs = []
    · subst hcs
      simpa [Numeral.digitsValue] using hdigit
    · have hhead : (cs ++ [c]).head? = cs.head? := List.head?_append_of_ne_nil _ hcs
      have hzero : cs.head? ≠ some '0' := by
        intro hzero
        have := congrArg List.length (hlead (hhead.trans hzero))
        simp at this
        exact hcs this
      have hinit := ih (fun d hd => hdigits d (by simp [hd])) hcs (fun h => absurd h hzero)
      -- the digits before the last are worth something, or else their numeral would be a zero
      have hpos : 0 < Numeral.digitsValue (cs.map fun c => c.toNat - 0x30) := by
        apply Nat.pos_of_ne_zero
        intro hnil
        rw [hnil] at hinit
        exact hzero (hinit ▸ rfl)
      have hlt : c.toNat - 0x30 < 10 := by
        simp only [Text.isAsciiDigit, Bool.and_eq_true, decide_eq_true_eq] at hc
        omega
      rw [hvalue, digitChars, ← Nat.toDigits_append_toDigits (by decide) hpos hlt]
      rw [digitChars] at hinit hdigit
      rw [hinit, hdigit]

/-- What is split off as the integer part: perhaps a minus, and digits without leading zeros. -/
theorem splitInteger?_cases {cs whole rest : List Char} (h : splitInteger? cs = some (whole, rest)) :
    cs = whole ++ rest ∧ ∃ sign digits, whole = sign ++ digits ∧ (sign = [] ∨ sign = ['-']) ∧
      digits ≠ [] ∧ (∀ c ∈ digits, Text.isAsciiDigit c = true) ∧
      (digits.head? = some '0' → digits = ['0']) := by
  unfold splitInteger? at h
  split at h
  next sign body hsplit =>
    obtain ⟨rfl, hsign⟩ : cs = sign ++ body ∧ (sign = [] ∨ sign = ['-']) := by
      split at hsplit
      · obtain ⟨rfl, rfl⟩ := Prod.mk.inj hsplit
        exact ⟨rfl, .inr rfl⟩
      · obtain ⟨rfl, rfl⟩ := Prod.mk.inj hsplit
        exact ⟨rfl, .inl rfl⟩
    split at h
    · obtain ⟨rfl, rfl⟩ := Prod.mk.inj (Option.some.inj h)
      exact ⟨by simp, sign, ['0'], rfl, hsign, by simp, by decide, fun _ => rfl⟩
    · next c digits hzero =>
      split at h
      · next hc =>
        obtain ⟨rfl, rfl⟩ := Prod.mk.inj (Option.some.inj h)
        refine ⟨by rw [List.append_assoc, List.takeWhile_append_dropWhile], sign, _, rfl, hsign,
          by simp [hc], fun d hd => List.mem_takeWhile_imp hd, fun hhead => ?_⟩
        rw [List.takeWhile_cons_of_pos hc, List.head?_cons, Option.some.injEq] at hhead
        exact absurd hhead hzero
      · cases h
    · cases h

/-- The integer part of a numeral, if it is not too long, writes the integer that it is read as. -/
theorem writesLexeme_of_readInteger? {sign digits : List Char} {n : Int}
    (hsign : sign = [] ∨ sign = ['-']) (hne : digits ≠ [])
    (hdigits : ∀ c ∈ digits, Text.isAsciiDigit c = true)
    (hlead : digits.head? = some '0' → digits = ['0'])
    (hlength : digits.length ≤ Numeral.maxIntegerDigits)
    (h : Numeral.readInteger? (sign ++ digits) = some n) :
    WritesLexeme (.scalar (.int n)) (sign ++ digits) ∧ n.natAbs < 10 ^ Numeral.maxIntegerDigits := by
  have hchars := digitChars_digitsValue hdigits hne hlead
  generalize hvalue : Numeral.digitsValue (digits.map fun c => c.toNat - 0x30) = value at hchars
  have hshort : value < 10 ^ Numeral.maxIntegerDigits := by
    have hall : ∀ d ∈ digits.map fun c => c.toNat - 0x30, d < 10 := by
      intro d hd
      obtain ⟨c, hc, rfl⟩ := List.mem_map.mp hd
      have := hdigits c hc
      simp only [Text.isAsciiDigit, Bool.and_eq_true, decide_eq_true_eq] at this
      omega
    have hlt := foldl_digits_lt hall Nat.zero_lt_one
    rw [← Numeral.digitsValue, hvalue, List.length_map, Nat.one_mul] at hlt
    exact Nat.lt_of_lt_of_le hlt (Nat.pow_le_pow_right (by decide) hlength)
  -- up to the sign of zero there is one numeral for an integer
  have hwritten : ∀ m : Int, m.natAbs = value → intChars m = sign ++ digits →
      WritesLexeme (.scalar (.int n)) (sign ++ digits) ∧
        n.natAbs < 10 ^ Numeral.maxIntegerDigits := by
    intro m hm hchars
    have hread := Numeral.readInteger?_intChars (hm ▸ hshort)
    rw [hchars, h] at hread
    rw [Option.some.inj hread, ← hchars]
    exact ⟨.int m, hm ▸ hshort⟩
  rcases hsign with rfl | rfl
  · apply hwritten value (Int.natAbs_natCast value)
    rw [intChars, if_neg (by omega), Int.natAbs_natCast, hchars, List.nil_append]
  · by_cases hzero : value = 0
    · obtain rfl : digits = ['0'] := by rw [← hchars, hzero]; rfl
      have hread : Numeral.readInteger? (['-'] ++ ['0']) = some 0 := by decide +kernel
      rw [hread] at h
      rw [← Option.some.inj h]
      exact ⟨.minusZero, by decide +kernel⟩
    · apply hwritten (-value) (by rw [Int.natAbs_neg, Int.natAbs_natCast])
      rw [intChars, if_pos (by omega), Int.natAbs_neg, Int.natAbs_natCast, hchars,
        List.singleton_append]

/-- A word that is read as an integer writes it, and the integer is short. -/
theorem writesLexeme_of_word {cs : List Char} {n : Int} (h : word cs = .scalar (.int n)) :
    WritesLexeme (.scalar (.int n)) cs ∧ n.natAbs < 10 ^ Numeral.maxIntegerDigits := by
  have hnumeral : numeral cs = .scalar (.int n) := by
    unfold word at h
    split_ifs at h <;> first | exact h | cases h
  unfold numeral at hnumeral
  split at hnumeral
  · cases hnumeral
  · next whole rest hsplit =>
    obtain ⟨hcs, sign, digits, hwhole, hsign, hne, hdigits, hlead⟩ := splitInteger?_cases hsplit
    dsimp only at hnumeral
    split_ifs at hnumeral with hplain hlong hall
    · -- a word is an integer only if no fraction and no exponent follow the integer part
      have hrest : rest = [] := by
        have hnil : dropExponent (dropFraction rest) = [] := by simpa using hall
        rw [hnil, List.length_nil, beq_iff_eq] at hplain
        exact List.length_eq_zero_iff.mp hplain.symm
      have hlength : digits.length ≤ Numeral.maxIntegerDigits := by
        refine Nat.le_trans (Nat.le_of_eq ?_) (Nat.not_lt.mp hlong)
        rw [hwhole, List.filter_append, List.filter_eq_self.mpr hdigits, List.length_append]
        rcases hsign with rfl | rfl <;> simp [Text.isAsciiDigit]
      rw [hcs, hrest, List.append_nil, hwhole]
      apply writesLexeme_of_readInteger? hsign hne hdigits hlead hlength
      split at hnumeral
      · next m hread =>
        rw [← hwhole, hread]
        cases hnumeral
        rfl
      · cases hnumeral
    · split at hnumeral <;> cases hnumeral

end SheetQuery.Json
