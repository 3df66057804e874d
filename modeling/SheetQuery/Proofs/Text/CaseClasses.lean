import SheetQuery.Proofs.Text.Case

/-!
# What lower-casing leaves alone

Lower-casing a character twice is lower-casing it once, and it moves no character into or out of a
class: blanks, digits with their values, word characters. Beyond U+0080 each of these is a check of
the runs of the mapping against the table of the class. The checks are long, and are made in terms of
`Nat.blt`, which is one step to evaluate, where to decide `<` is to evaluate a proof as well.

* `lowerChar_cases`: the principle by which a property of a character and its lower-case form is
  checked on the runs;
* `lowerChar_lowerChar`, `isBlank_lowerChar`, `digitValue?_lowerChar`, `isWordChar_lowerChar`,
  `sameLetter_lowerChar`: the invariances;
* `isWordChar_of_isDigit`: digits are word characters.
-/

namespace SheetQuery.Text

/-! ## Runs and their images -/

/-- What holds of a code point and itself, of upper- and lower-case letters below U+0080, and along
the runs beyond it, holds of every code point and its lower-case form. -/
theorem lowerCode_cases {P : Nat → Nat → Prop} (hself : ∀ n, P n n)
    (hletter : ∀ n, 0x41 ≤ n → n ≤ 0x5A → P n (n + 0x20))
    (hrun : ∀ run ∈ lowerRuns, ∀ n, 0x80 ≤ n → run.covers n = true → P n (run.shift n)) (n : Nat) :
    P n (lowerCode n) := by
  by_cases hlow : n < 0x80
  · rw [lowerCode_of_lt hlow]
    split
    · next h => exact hletter n h.1 h.2
    · exact hself n
  · rw [lowerCode, if_neg hlow]
    rcases mapCode_eq lowerRuns n with heq | ⟨run, hmem, hcovers, heq⟩
    · rw [heq]
      exact hself n
    · rw [heq]
      exact hrun run hmem n (by omega) hcovers

/-- Where a run sends its code points, in the order of these. -/
theorem CaseRun.shift_between {run : CaseRun} {n : Nat} (h : run.covers n = true)
    (hfirst : 0 ≤ (run.first : Int) + run.offset) :
    run.shift run.first ≤ run.shift n ∧ run.shift n ≤ run.shift run.last ∧
      run.shift n - run.shift run.first = n - run.first := by
  have hcover := covers_iff.mp h
  simp only [shift]
  omega

/-- No code point of `other` is an image of `run`: the images end before it, start after it, or fall
between its steps. -/
def CaseRun.avoids (run other : CaseRun) : Bool :=
  run.shift run.last < other.first || other.last < run.shift run.first
    || (run.step == 2 && other.step == 2 && (run.shift run.first + other.first) % 2 == 1)
    || (run.first == run.last && !other.covers (run.shift run.first))

theorem CaseRun.avoids_eq (run other : CaseRun) : run.avoids other =
    ((run.shift run.last).blt other.first || (other.last.blt (run.shift run.first) ||
      ((run.step == 2 && other.step == 2 && (run.shift run.first + other.first) % 2 == 1) ||
        (run.first == run.last && !other.covers (run.shift run.first))))) := by
  have hblt : ∀ a b : Nat, decide (a < b) = a.blt b := by
    intro a b
    rw [Bool.eq_iff_iff, decide_eq_true_iff, Nat.blt_eq]
  simp only [avoids, hblt, Bool.or_assoc]

theorem lowerRuns_avoid : ∀ run ∈ lowerRuns, 0 ≤ (run.first : Int) + run.offset ∧
    lowerRuns.all run.avoids = true := by
  simp only [funext (CaseRun.avoids_eq _)]
  decide +kernel

theorem not_covers_shift {run other : CaseRun} {n : Nat} (h : run.covers n = true)
    (hfirst : 0 ≤ (run.first : Int) + run.offset) (havoids : run.avoids other = true) :
    other.covers (run.shift n) = false := by
  have hcover := CaseRun.covers_iff.mp h
  have hbetween := CaseRun.shift_between h hfirst
  rw [Bool.eq_false_iff]
  intro hcovers
  have hother := CaseRun.covers_iff.mp hcovers
  simp only [CaseRun.avoids, Bool.or_eq_true, Bool.and_eq_true, decide_eq_true_eq, beq_iff_eq,
    Bool.not_eq_true'] at havoids
  rcases havoids with ((hbefore | hafter) | ⟨⟨hstep, hstep'⟩, hodd⟩) | ⟨hsingle, hnot⟩
  · omega
  · omega
  · rw [hstep] at hcover
    rw [hstep'] at hother
    omega
  · have hn : n = run.first := by omega
    rw [hn, hnot] at hcovers
    cases hcovers

theorem mapCode_of_not_covers {runs : List CaseRun} {n : Nat}
    (h : ∀ run ∈ runs, run.covers n = false) : mapCode runs n = n := by
  rcases mapCode_eq runs n with heq | ⟨run, hmem, hcovers, -⟩
  · exact heq
  · rw [h run hmem] at hcovers
    cases hcovers

@[simp] theorem lowerCode_lowerCode (n : Nat) : lowerCode (lowerCode n) = lowerCode n := by
  refine lowerCode_cases (P := fun n m => m = lowerCode n → lowerCode m = m) ?_ ?_ ?_ n rfl
  · intro n h
    exact h.symm
  · intro n hlow hhigh _
    rw [lowerCode_of_lt (by omega), if_neg (by omega)]
  · intro run hrun n hn hcovers _
    obtain ⟨hfirst, havoids⟩ := lowerRuns_avoid run hrun
    by_cases hlow : run.shift n < 0x80
    · -- only `i` and `k` are images from beyond U+0080
      have hsound := (lowerRuns_isSound run hrun).2
      have hcover := CaseRun.covers_iff.mp hcovers
      have hbetween := CaseRun.shift_between hcovers hfirst
      rw [lowerCode_of_lt hlow, if_neg]
      simp only [CaseRun.shift] at hbetween ⊢
      omega
    · rw [lowerCode, if_neg hlow]
      exact mapCode_of_not_covers fun other hother =>
        not_covers_shift hcovers hfirst (List.all_eq_true.mp havoids other hother)

@[simp] theorem lowerChar_lowerChar (c : Char) : lowerChar (lowerChar c) = lowerChar c := by
  apply toNat_inj
  rw [toNat_lowerChar, toNat_lowerChar, lowerCode_lowerCode]

/-- `lowerCode_cases` on characters. -/
theorem lowerChar_cases {P : Char → Char → Prop} (hself : ∀ c, P c c)
    (hletter : ∀ c d : Char, 0x41 ≤ c.toNat → c.toNat ≤ 0x5A → d.toNat = c.toNat + 0x20 → P c d)
    (hrun : ∀ run ∈ lowerRuns, ∀ c d : Char, 0x80 ≤ c.toNat → run.covers c.toNat = true →
      d.toNat = run.shift c.toNat → P c d) (c : Char) : P c (lowerChar c) := by
  refine lowerCode_cases (P := fun n m => ∀ c d : Char, c.toNat = n → d.toNat = m → P c d)
    ?_ ?_ ?_ c.toNat c (lowerChar c) rfl (toNat_lowerChar c)
  · intro n c d hc hd
    rw [toNat_inj (hd.trans hc.symm)]
    exact hself c
  · rintro n hlow hhigh c d rfl hd
    exact hletter c d hlow hhigh hd
  · rintro run hmem n hn hcovers c d rfl hd
    exact hrun run hmem c d hn hcovers hd

/-! ## Classes of characters -/

/-- Do a run and its images lie apart from `a`, ..., `b`? -/
def CaseRun.isApart (run : CaseRun) (a b : Nat) : Bool :=
  (run.last.blt a || b.blt run.first) && ((run.shift run.last).blt a || b.blt (run.shift run.first))

theorem CaseRun.isApart_iff {run : CaseRun} {a b : Nat} : run.isApart a b = true ↔
    (run.last < a ∨ b < run.first) ∧ (run.shift run.last < a ∨ b < run.shift run.first) := by
  simp only [isApart, Bool.and_eq_true, Bool.or_eq_true, Nat.blt_eq]

theorem blankCodes_avoid : ∀ run ∈ lowerRuns, ∀ n ∈ blankCodes,
    (run.last < n ∨ n < run.first) ∧ (run.shift run.last < n ∨ n < run.shift run.first) := by
  simp only [← CaseRun.isApart_iff, ← List.all_eq_true]
  decide +kernel

@[simp] theorem isBlank_lowerChar (c : Char) : isBlank (lowerChar c) = isBlank c := by
  refine lowerChar_cases (P := fun c d => isBlank d = isBlank c) (fun _ => rfl) ?_ ?_ c
  · intro c d hlow hhigh hd
    have hletter : ∀ e : Char, 0x41 ≤ e.toNat → e.toNat ≤ 0x7A → isBlank e = false := by
      intro e hlow hhigh
      rw [Bool.eq_false_iff]
      intro h
      have := mem_blankCodes h
      simp only [blankCodes, List.mem_cons, List.not_mem_nil, or_false] at this
      omega
    rw [hletter c hlow (by omega), hletter d (by omega) (by omega)]
  · intro run hrun c d _ hcovers hd
    have hcover := CaseRun.covers_iff.mp hcovers
    have hbetween := CaseRun.shift_between hcovers (lowerRuns_avoid run hrun).1
    have hc : isBlank c = false := by
      rw [Bool.eq_false_iff]
      intro h
      have := blankCodes_avoid run hrun _ (mem_blankCodes h)
      omega
    have hd : isBlank d = false := by
      rw [Bool.eq_false_iff]
      intro h
      have := blankCodes_avoid run hrun _ (mem_blankCodes h)
      omega
    rw [hc, hd]

theorem exists_not_blank_lowerPiece {c : Char} (h : isBlank c = false) (before rest : List Char) :
    ∃ d ∈ lowerPiece before c rest, isBlank d = false := by
  unfold lowerPiece
  split
  · split <;> exact ⟨_, List.mem_singleton_self _, by decide⟩
  · split
    · exact ⟨_, List.mem_cons_self, by decide⟩
    · exact ⟨_, List.mem_singleton_self _, by rwa [isBlank_lowerChar]⟩

theorem exists_not_blank_lowerAfter {before cs : List Char} (h : ∃ c ∈ cs, isBlank c = false) :
    ∃ c ∈ lowerAfter before cs, isBlank c = false := by
  induction cs generalizing before with
  | nil => simp at h
  | cons c cs ih =>
    simp only [lowerAfter_cons, List.mem_append]
    rcases List.exists_mem_cons_iff _ _ _ |>.mp h with hc | hcs
    · obtain ⟨d, hd, hblank⟩ := exists_not_blank_lowerPiece hc before cs
      exact ⟨d, .inl hd, hblank⟩
    · obtain ⟨d, hd, hblank⟩ := ih hcs
      exact ⟨d, .inr hd, hblank⟩

/-- A text that is not blank is not blank in lower case. -/
theorem exists_not_blank_lower {cs : List Char} (h : ∃ c ∈ cs, isBlank c = false) :
    ∃ c ∈ lower cs, isBlank c = false :=
  exists_not_blank_lowerAfter h

theorem zeroDigits_avoid : ∀ run ∈ lowerRuns, ∀ z ∈ zeroDigits,
    (run.last < z ∨ z + 9 < run.first) ∧ (run.shift run.last < z ∨ z + 9 < run.shift run.first) := by
  simp only [← CaseRun.isApart_iff, ← List.all_eq_true]
  decide +kernel

theorem digitValue?_eq_none {c : Char} (h : ∀ z ∈ zeroDigits, ¬ (z ≤ c.toNat ∧ c.toNat < z + 10)) :
    digitValue? c = none := by
  have hascii : isAsciiDigit c = false := by
    have hzero := h 0x30 (by decide)
    rw [Bool.eq_false_iff]
    simp only [isAsciiDigit, ne_eq, Bool.and_eq_true, decide_eq_true_eq]
    omega
  have hfind : (zeroDigits.find? fun z => decide (z ≤ c.toNat ∧ c.toNat < z + 10)) = none := by
    simpa using h
  rw [digitValue?, hascii, hfind]
  simp

/-- A character that lower-casing moves is no digit, and is not moved to one. -/
theorem lowerChar_eq_or_digitValue? (c : Char) :
    lowerChar c = c ∨ (digitValue? c = none ∧ digitValue? (lowerChar c) = none) := by
  refine lowerChar_cases (P := fun c d => d = c ∨ (digitValue? c = none ∧ digitValue? d = none))
    (fun _ => .inl rfl) ?_ ?_ c
  · intro c d hlow hhigh hd
    refine .inr ⟨?_, ?_⟩
    · rw [digitValue?, if_neg (by simp [isAsciiDigit]; omega), if_pos (by omega)]
    · rw [digitValue?, if_neg (by simp [isAsciiDigit]; omega), if_pos (by omega)]
  · intro run hrun c d _ hcovers hd
    have hcover := CaseRun.covers_iff.mp hcovers
    have hbetween := CaseRun.shift_between hcovers (lowerRuns_avoid run hrun).1
    refine .inr ⟨?_, ?_⟩
    · apply digitValue?_eq_none
      intro z hz
      have := zeroDigits_avoid run hrun z hz
      omega
    · apply digitValue?_eq_none
      intro z hz
      have := zeroDigits_avoid run hrun z hz
      omega

@[simp] theorem digitValue?_lowerChar (c : Char) : digitValue? (lowerChar c) = digitValue? c := by
  rcases lowerChar_eq_or_digitValue? c with h | ⟨hc, hlower⟩
  · rw [h]
  · rw [hc, hlower]

/-- Digits have no case. -/
theorem lowerChar_of_isDigit {c : Char} (h : isDigit c = true) : lowerChar c = c := by
  rcases lowerChar_eq_or_digitValue? c with heq | ⟨hc, -⟩
  · exact heq
  · rw [isDigit, hc] at h
    cases h

@[simp] theorem isDigit_lowerChar (c : Char) : isDigit (lowerChar c) = isDigit c := by
  rw [isDigit, digitValue?_lowerChar, isDigit]

/-- The value of `memberFrom` on all of `a`, ..., `b`, if it does not switch in between. -/
def constantFrom? (inside : Bool) : List Nat → Nat → Nat → Option Bool
  | [], _, _ => some inside
  | change :: changes, a, b =>
    if a < change then if b < change then some inside else none
    else constantFrom? (!inside) changes a b

theorem memberFrom_of_constantFrom? {inside value : Bool} {changes : List Nat} {a b n : Nat}
    (h : constantFrom? inside changes a b = some value) (ha : a ≤ n) (hb : n ≤ b) :
    memberFrom inside changes n = value := by
  induction changes generalizing inside with
  | nil => exact Option.some.inj h
  | cons change changes ih =>
    rw [constantFrom?] at h
    rw [memberFrom]
    split at h
    · split at h
      · rw [if_pos (by omega)]
        exact Option.some.inj h
      · cases h
    · rw [if_neg (by omega)]
      exact ih h

/-- `constantFrom?` by the recursor of lists itself, in the form that is quickest to evaluate. -/
def scanFrom? (inside : Bool) (changes : List Nat) (a b : Nat) : Option Bool :=
  List.rec (fun inside => some inside) (fun change _ scan inside =>
    bif a.blt change then bif b.blt change then some inside else none
    else scan (!inside)) changes inside

theorem constantFrom?_eq_scanFrom? (inside : Bool) (changes : List Nat) (a b : Nat) :
    constantFrom? inside changes a b = scanFrom? inside changes a b := by
  induction changes generalizing inside with
  | nil => rfl
  | cons change changes ih => simp only [constantFrom?, scanFrom?, cond_eq_ite, Nat.blt_eq, ih]

theorem zeroDigits_areWords : ∀ z ∈ zeroDigits,
    z + 10 ≤ 0x80 ∨ constantFrom? false wordChanges z (z + 9) = some true := by
  simp only [constantFrom?_eq_scanFrom?]
  decide +kernel

theorem isWordChar_of_isDigit {c : Char} (h : isDigit c = true) : isWordChar c = true := by
  rw [isDigit, digitValue?] at h
  split at h
  · next hascii =>
    have hrange := hascii
    simp only [isAsciiDigit, Bool.and_eq_true, decide_eq_true_eq] at hrange
    rw [isWordChar, if_pos (by omega), hascii]
    rfl
  · split at h
    · cases h
    · next hhigh =>
      rw [Option.isSome_map] at h
      obtain ⟨z, hz⟩ := Option.isSome_iff_exists.mp h
      have hbetween : z ≤ c.toNat ∧ c.toNat < z + 10 := by simpa using List.find?_some hz
      rcases zeroDigits_areWords z (List.mem_of_find?_eq_some hz) with hlow | hconstant
      · omega
      · rw [isWordChar, if_neg hhigh]
        exact memberFrom_of_constantFrom? hconstant hbetween.1 (by omega)

/-- Are the code points that a run maps word characters exactly if their images are? Mostly because
no switch lies among either; the few other runs are gone through point by point. -/
def CaseRun.keepsWords (run : CaseRun) : Bool :=
  match constantFrom? false wordChanges run.first run.last with
  | some value =>
    0x80 ≤ run.first && 0x80 ≤ run.shift run.first &&
      constantFrom? false wordChanges (run.shift run.first) (run.shift run.last) == some value
  | none => false

theorem lowerRuns_keepWords : ∀ run ∈ lowerRuns, run.keepsWords = true ∨
    ∀ k < run.last + 1 - run.first, run.covers (run.first + k) = true →
      isWordChar (Char.ofNat (run.shift (run.first + k))) =
        isWordChar (Char.ofNat (run.first + k)) := by
  simp only [CaseRun.keepsWords, constantFrom?_eq_scanFrom?]
  decide +kernel

@[simp] theorem isWordChar_lowerChar (c : Char) : isWordChar (lowerChar c) = isWordChar c := by
  refine lowerChar_cases (P := fun c d => isWordChar d = isWordChar c) (fun _ => rfl) ?_ ?_ c
  · intro c d hlow hhigh hd
    have hc : isAsciiLetter c = true := isAsciiLetter_iff.mpr (.inl ⟨hlow, hhigh⟩)
    have hd' : isAsciiLetter d = true := isAsciiLetter_iff.mpr (.inr (by omega))
    rw [isWordChar, isWordChar, if_pos (by omega), if_pos (by omega), hc, hd']
    simp
  · intro run hrun c d hc hcovers hd
    have hcover := CaseRun.covers_iff.mp hcovers
    have hbetween := CaseRun.shift_between hcovers (lowerRuns_avoid run hrun).1
    -- most runs lie within a stretch of word characters,
    -- or of others; the few that do not are gone through
    rcases lowerRuns_keepWords run hrun with h | h
    · unfold CaseRun.keepsWords at h
      split at h
      · next value hvalue =>
        simp only [Bool.and_eq_true, decide_eq_true_eq, beq_iff_eq] at h
        rw [isWordChar, if_neg (by omega), isWordChar, if_neg (by omega),
          memberFrom_of_constantFrom? hvalue hcover.1 hcover.2.1,
          memberFrom_of_constantFrom? h.2 (by omega) (by omega)]
      · cases h
    · have hpoint := h (c.toNat - run.first) (by omega)
      rw [show run.first + (c.toNat - run.first) = c.toNat by omega, ← hd, Char.ofNat_toNat,
        Char.ofNat_toNat] at hpoint
      exact hpoint hcovers

/-- A character below U+0080 that is no letter is told apart from all others in any case. -/
theorem lowerChar_beq {c : Char} (hc : isPlainAscii c = true) (d : Char) :
    (lowerChar d == c) = (d == c) := by
  rw [Bool.eq_iff_iff, beq_iff_eq, beq_iff_eq]
  exact lowerChar_eq_iff hc

@[simp] theorem sameLetter_lowerChar (expected actual : Char) :
    sameLetter expected (lowerChar actual) = sameLetter expected actual := by
  rw [sameLetter, toNat_lowerChar, lowerCode_lowerCode, sameLetter]

end SheetQuery.Text
