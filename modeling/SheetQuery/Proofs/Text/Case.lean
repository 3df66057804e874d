import SheetQuery.Proofs.Text.Trim

/-!
# Laws of lower-casing

Lower-casing looks at the neighbours of a sigma, so it is not a map over the characters. A neutral
character, one that is neither cased nor looked through, shields the text on one side of it from the
other: `lower_infix` lower-cases a piece between neutral characters on its own. Blanks and delimiters
are neutral. A character below U+0080 that is no letter is left alone, and nothing else becomes it
(`mem_lower_of_isPlainAscii`).
-/

namespace SheetQuery.Text

/-! ## Single characters -/

theorem mapCode_eq (runs : List CaseRun) (n : Nat) :
    mapCode runs n = n ∨ ∃ run ∈ runs, run.covers n = true ∧ mapCode runs n = run.shift n := by
  induction runs with
  | nil => exact .inl rfl
  | cons run runs ih =>
    simp only [mapCode]
    split
    · exact .inl rfl
    · split
      · next h => exact .inr ⟨run, List.mem_cons_self, h, rfl⟩
      · rcases ih with h | ⟨other, hmem, hcovers, h⟩
        · exact .inl h
        · exact .inr ⟨other, List.mem_cons_of_mem _ hmem, hcovers, h⟩

/-- Where a run leads: to characters, and from beyond U+0080 to beyond it, but for the two letters
that become `i` and `k`. -/
def CaseRun.IsSound (run : CaseRun) : Prop :=
  ((run.last : Int) + run.offset < 0xD800 ∨
    (0xE000 ≤ (run.first : Int) + run.offset ∧ (run.last : Int) + run.offset < 0x110000)) ∧
  (0x80 ≤ run.last → 0x80 ≤ (run.first : Int) + run.offset ∨
    (run.first = run.last ∧
      ((run.first : Int) + run.offset = 0x69 ∨ (run.first : Int) + run.offset = 0x6B)))

instance (run : CaseRun) : Decidable run.IsSound := inferInstanceAs (Decidable (_ ∧ _))

theorem lowerRuns_isSound : ∀ run ∈ lowerRuns, run.IsSound := by decide +kernel

theorem CaseRun.covers_iff {run : CaseRun} {n : Nat} :
    run.covers n = true ↔ run.first ≤ n ∧ n ≤ run.last ∧ (n - run.first) % run.step = 0 := by
  simp only [covers, Bool.and_eq_true, decide_eq_true_eq, beq_iff_eq, and_assoc]

theorem lowerCode_of_lt {n : Nat} (h : n < 0x80) :
    lowerCode n = if 0x41 ≤ n ∧ n ≤ 0x5A then n + 0x20 else n := by
  simp [lowerCode, h]

theorem lowerCode_of_le {n : Nat} (h : 0x80 ≤ n) :
    0x80 ≤ lowerCode n ∨ lowerCode n = 0x69 ∨ lowerCode n = 0x6B := by
  have hn : ¬ n < 0x80 := by omega
  simp only [lowerCode, if_neg hn]
  rcases mapCode_eq lowerRuns n with heq | ⟨run, hmem, hcovers, heq⟩
  · exact .inl (by omega)
  · have hrun := CaseRun.covers_iff.mp hcovers
    have hsound := (lowerRuns_isSound run hmem).2 (by omega)
    rw [heq, CaseRun.shift]
    omega

theorem isValidChar_lowerCode (c : Char) : (lowerCode c.toNat).isValidChar := by
  have hc : c.toNat.isValidChar := c.valid
  by_cases hlow : c.toNat < 0x80
  · rw [lowerCode_of_lt hlow]
    refine .inl ?_
    split <;> omega
  · simp only [lowerCode, if_neg hlow]
    rcases mapCode_eq lowerRuns c.toNat with heq | ⟨run, hmem, hcovers, heq⟩
    · rw [heq]
      exact hc
    · have hrun := CaseRun.covers_iff.mp hcovers
      have hsound := (lowerRuns_isSound run hmem).1
      rw [heq, CaseRun.shift]
      rcases hsound with hsound | hsound
      · refine .inl ?_
        omega
      · refine .inr ⟨?_, ?_⟩ <;> omega

theorem toNat_ofNat {n : Nat} (h : n.isValidChar) : (Char.ofNat n).toNat = n := by
  rw [Char.ofNat, dif_pos h]
  rfl

@[simp] theorem toNat_lowerChar (c : Char) : (lowerChar c).toNat = lowerCode c.toNat :=
  toNat_ofNat (isValidChar_lowerCode c)

theorem toNat_inj {c d : Char} (h : c.toNat = d.toNat) : c = d := by
  rw [← Char.ofNat_toNat c, ← Char.ofNat_toNat d, h]

theorem isAsciiLetter_iff {c : Char} : isAsciiLetter c = true ↔
    (0x41 ≤ c.toNat ∧ c.toNat ≤ 0x5A) ∨ (0x61 ≤ c.toNat ∧ c.toNat ≤ 0x7A) := by
  simp [isAsciiLetter]

/-- A character below U+0080 that is no letter. -/
def isPlainAscii (c : Char) : Bool := decide (c.toNat < 0x80) && !isAsciiLetter c

theorem isPlainAscii_iff {c : Char} : isPlainAscii c = true ↔
    c.toNat < 0x80 ∧ ¬ ((0x41 ≤ c.toNat ∧ c.toNat ≤ 0x5A) ∨ (0x61 ≤ c.toNat ∧ c.toNat ≤ 0x7A)) := by
  rw [← isAsciiLetter_iff]
  simp [isPlainAscii]

theorem lowerChar_eq_iff {c d : Char} (hc : isPlainAscii c = true) : lowerChar d = c ↔ d = c := by
  rw [isPlainAscii_iff] at hc
  constructor
  · intro h
    have hcode : lowerCode d.toNat = c.toNat := by rw [← h, toNat_lowerChar]
    apply toNat_inj
    by_cases hd : d.toNat < 0x80
    · rw [lowerCode_of_lt hd] at hcode
      split at hcode <;> omega
    · have hd' : 0x80 ≤ d.toNat := by omega
      have := lowerCode_of_le hd'
      omega
  · rintro rfl
    apply toNat_inj
    rw [toNat_lowerChar, lowerCode_of_lt hc.1, if_neg (by omega)]

/-- A character that is no letter and has no siblings agrees up to case with itself alone. -/
theorem eq_of_sameLetter {k c : Char} (hk : isPlainAscii k = true)
    (halone : caseClass (lowerCode k.toNat) = [k.toNat]) (h : sameLetter k c = true) : c = k := by
  rw [sameLetter, halone, List.contains_iff_mem, List.mem_singleton, ← toNat_lowerChar] at h
  exact (lowerChar_eq_iff hk).mp (toNat_inj h)

/-! ## Texts -/

/-- The characters that one character of a text is lower-cased to. -/
def lowerPiece (before : List Char) (c : Char) (rest : List Char) : List Char :=
  if c == 'Σ' then [if nextIsCased before && !nextIsCased rest then 'ς' else 'σ']
  else if c == 'İ' then ['i', Char.ofNat 0x307]
  else [lowerChar c]

theorem lowerAfter_cons (before : List Char) (c : Char) (rest : List Char) :
    lowerAfter before (c :: rest) = lowerPiece before c rest ++ lowerAfter (c :: before) rest := rfl

theorem mem_lowerPiece {before rest : List Char} {c d : Char} (hc : isPlainAscii c = true) :
    c ∈ lowerPiece before d rest ↔ d = c := by
  unfold lowerPiece
  split
  · next h =>
    rw [beq_iff_eq] at h
    subst h
    constructor
    · intro h
      rw [List.mem_singleton] at h
      split at h <;> (subst h; cases hc)
    · rintro rfl
      cases hc
  · split
    · next h =>
      rw [beq_iff_eq] at h
      subst h
      constructor
      · intro h
        rcases List.mem_cons.mp h with rfl | h
        · cases hc
        · rw [List.mem_singleton] at h
          subst h
          cases hc
      · rintro rfl
        cases hc
    · rw [List.mem_singleton, eq_comm]
      exact lowerChar_eq_iff hc

theorem mem_lowerAfter {before cs : List Char} {c : Char} (hc : isPlainAscii c = true) :
    c ∈ lowerAfter before cs ↔ c ∈ cs := by
  induction cs generalizing before with
  | nil => rfl
  | cons d cs ih =>
    rw [lowerAfter_cons, List.mem_append, List.mem_cons, ih, mem_lowerPiece hc, eq_comm]

/-- A character below U+0080 that is no letter is neither lost nor gained by lower-casing. -/
theorem mem_lower_of_isPlainAscii {cs : List Char} {c : Char} (hc : isPlainAscii c = true) :
    c ∈ lower cs ↔ c ∈ cs :=
  mem_lowerAfter hc

theorem lowerPiece_ne_nil (before : List Char) (c : Char) (rest : List Char) :
    lowerPiece before c rest ≠ [] := by
  unfold lowerPiece
  split
  · simp
  · split <;> simp

@[simp] theorem lower_eq_nil_iff {cs : List Char} : lower cs = [] ↔ cs = [] := by
  cases cs with
  | nil => simp [lower, lowerAfter]
  | cons c cs => simp [lower, lowerAfter_cons, lowerPiece_ne_nil]

/-! ## Neutral characters -/

/-- A character that is neither cased nor looked through. -/
def isNeutral (c : Char) : Bool := !isCased c && !isCaseIgnorable c

theorem nextIsCased_append {c : Char} (hc : isNeutral c = true) (before after : List Char) :
    nextIsCased (before ++ c :: after) = nextIsCased before := by
  simp only [isNeutral, Bool.and_eq_true, Bool.not_eq_true'] at hc
  unfold nextIsCased
  by_cases h : ∀ d ∈ before, isCaseIgnorable d = true
  · rw [List.dropWhile_append_of_pos h, List.dropWhile_eq_nil_iff.mpr h]
    simp [hc.1, hc.2]
  · have hne : before.dropWhile isCaseIgnorable ≠ [] := by
      intro hnil
      exact h (List.dropWhile_eq_nil_iff.mp hnil)
    obtain ⟨d, ds, hd⟩ := List.exists_cons_of_ne_nil hne
    rw [List.dropWhile_append, hd]
    rfl

/-- Is a text empty, or does it start with a neutral character? -/
def StartsNeutral (cs : List Char) : Prop := ∀ c ∈ cs.head?, isNeutral c = true

theorem nextIsCased_append_of_startsNeutral {after : List Char} (h : StartsNeutral after)
    (before : List Char) : nextIsCased (before ++ after) = nextIsCased before := by
  cases after with
  | nil => rw [List.append_nil]
  | cons c cs => exact nextIsCased_append (h c rfl) before cs

theorem lowerPiece_append {after : List Char} (h : StartsNeutral after) (before : List Char)
    (c : Char) (rest : List Char) :
    lowerPiece before c (rest ++ after) = lowerPiece before c rest := by
  simp only [lowerPiece, nextIsCased_append_of_startsNeutral h]

theorem lowerAfter_append {after : List Char} (h : StartsNeutral after) (before cs : List Char) :
    lowerAfter before (cs ++ after) =
      lowerAfter before cs ++ lowerAfter (cs.reverse ++ before) after := by
  induction cs generalizing before with
  | nil => rfl
  | cons c cs ih =>
    rw [List.cons_append, lowerAfter_cons, lowerAfter_cons, lowerPiece_append h, ih,
      List.append_assoc, List.reverse_cons, List.append_assoc]
    rfl

theorem lowerAfter_of_startsNeutral {before : List Char} (h : StartsNeutral before)
    (seen cs : List Char) : lowerAfter (seen ++ before) cs = lowerAfter seen cs := by
  induction cs generalizing seen with
  | nil => rfl
  | cons c cs ih =>
    rw [lowerAfter_cons, lowerAfter_cons, ← List.cons_append, ih]
    simp only [lowerPiece, nextIsCased_append_of_startsNeutral h]

theorem exists_lowerAfter_append (before xs ys : List Char) :
    ∃ seen, lowerAfter before (xs ++ ys) = seen ++ lowerAfter (xs.reverse ++ before) ys := by
  induction xs generalizing before with
  | nil => exact ⟨[], rfl⟩
  | cons x xs ih =>
    obtain ⟨seen, hseen⟩ := ih (x :: before)
    refine ⟨lowerPiece before x (xs ++ ys) ++ seen, ?_⟩
    rw [List.cons_append, lowerAfter_cons, hseen, List.append_assoc, List.reverse_cons,
      List.append_assoc]
    rfl

/-- A piece of a text between neutral characters is lower-cased on its own. -/
theorem lower_infix {before cs after : List Char} (hbefore : StartsNeutral before.reverse)
    (hafter : StartsNeutral after) : lower cs <:+: lower (before ++ cs ++ after) := by
  obtain ⟨seen, hseen⟩ := exists_lowerAfter_append [] before cs
  have hcs : lowerAfter (before.reverse ++ []) cs = lower cs := by
    rw [List.append_nil]
    exact lowerAfter_of_startsNeutral hbefore [] cs
  refine ⟨seen, lowerAfter ((before ++ cs).reverse ++ []) after, ?_⟩
  rw [← hcs, ← hseen, lower, lowerAfter_append hafter]

/-- The code points of the blanks. -/
def blankCodes : List Nat :=
  [0x20, 0x09, 0x0A, 0x0B, 0x0C, 0x0D, 0x1C, 0x1D, 0x1E, 0x1F, 0x85, 0xA0, 0x1680, 0x2000, 0x2001,
    0x2002, 0x2003, 0x2004, 0x2005, 0x2006, 0x2007, 0x2008, 0x2009, 0x200A, 0x2028, 0x2029, 0x202F,
    0x205F, 0x3000]

theorem mem_blankCodes {c : Char} (h : isBlank c = true) : c.toNat ∈ blankCodes := by
  simp only [isBlank, Bool.or_eq_true, Bool.and_eq_true, beq_iff_eq, decide_eq_true_eq] at h
  simp only [blankCodes, List.mem_cons, List.not_mem_nil]
  omega

/-- What holds of the characters of those code points holds of all blanks. -/
theorem of_isBlank {P : Char → Prop} (h : ∀ n ∈ blankCodes, P (Char.ofNat n)) {c : Char}
    (hc : isBlank c = true) : P c := by
  rw [← Char.ofNat_toNat c]
  exact h c.toNat (mem_blankCodes hc)

theorem isNeutral_of_isBlank {c : Char} : isBlank c = true → isNeutral c = true :=
  of_isBlank (P := fun c => isNeutral c = true) (by decide +kernel)

theorem isDigit_of_isBlank {c : Char} : isBlank c = true → isDigit c = false :=
  of_isBlank (P := fun c => isDigit c = false) (by decide)

theorem isWordChar_of_isBlank {c : Char} : isBlank c = true → isWordChar c = false :=
  of_isBlank (P := fun c => isWordChar c = false) (by decide +kernel)

theorem not_isBlank_of_isDigit {c : Char} (h : isDigit c = true) : isBlank c = false := by
  rw [← Bool.not_eq_true]
  intro hblank
  rw [isDigit_of_isBlank hblank] at h
  cases h

theorem not_isBlank_of_isWordChar {c : Char} (h : isWordChar c = true) : isBlank c = false := by
  rw [← Bool.not_eq_true]
  intro hblank
  rw [isWordChar_of_isBlank hblank] at h
  cases h

end SheetQuery.Text
