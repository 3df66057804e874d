import SheetQuery.Proofs.Text.Fold

/-!
# What recognisers pass over

A keyword with blanks before it can stand only where a text has a blank. So to tell that a text holds
no such keyword it is enough to look at what follows its blanks, and a keyword is ruled out there by
one letter that differs.

* `tailsAfterBlanks`: what follows each blank of a text;
* `clashes`: does a word differ from a keyword within the first letters of both?
* `firstMatch?_append_cons`: a recogniser of whole words that finds nothing on either side of a
  character between words finds nothing in the whole;
* `substituteAfter_of_firstMatch?`, `cut_eq_singleton`: a text without matches is neither changed nor
  cut.
-/

namespace SheetQuery.Text

/-! ## Blanks -/

/-- What follows each blank of a text. -/
def tailsAfterBlanks : List Char → List (List Char)
  | [] => []
  | c :: cs => if isBlank c then cs :: tailsAfterBlanks cs else tailsAfterBlanks cs

theorem tailsAfterBlanks_eq_nil {cs : List Char} (h : ∀ c ∈ cs, isBlank c = false) :
    tailsAfterBlanks cs = [] := by
  induction cs with
  | nil => rfl
  | cons c cs ih =>
    rw [tailsAfterBlanks, h c List.mem_cons_self, if_neg Bool.false_ne_true]
    exact ih fun d hd => h d (List.mem_cons_of_mem c hd)

theorem tailsAfterBlanks_append (cs rest : List Char) :
    tailsAfterBlanks (cs ++ rest) = (tailsAfterBlanks cs).map (· ++ rest) ++ tailsAfterBlanks rest := by
  induction cs with
  | nil => rfl
  | cons c cs ih =>
    rw [List.cons_append, tailsAfterBlanks, tailsAfterBlanks, ih]
    split <;> rfl

theorem tailsAfterBlanks_space_cons (cs : List Char) :
    tailsAfterBlanks (' ' :: cs) = cs :: tailsAfterBlanks cs := by
  rw [tailsAfterBlanks, if_pos (by decide)]

theorem tailsAfterBlanks_fold (cs : List Char) :
    tailsAfterBlanks (fold cs) = (tailsAfterBlanks cs).map fold := by
  induction cs with
  | nil => rfl
  | cons c cs ih =>
    rw [fold_cons, tailsAfterBlanks, tailsAfterBlanks, isBlank_lowerChar, ih]
    split <;> rfl

theorem tailsAfterBlanks_subset {cs tail : List Char} (h : tail <:+ cs) :
    tailsAfterBlanks tail ⊆ tailsAfterBlanks cs := by
  induction cs with
  | nil => rw [List.suffix_nil.mp h]; exact fun _ ht => ht
  | cons c cs ih =>
    rcases List.suffix_cons_iff.mp h with rfl | h
    · exact fun _ ht => ht
    · intro t ht
      have hmem := ih h ht
      rw [tailsAfterBlanks]
      split
      · exact List.mem_cons_of_mem cs hmem
      · exact hmem

theorem suffix_of_mem_tailsAfterBlanks {cs t : List Char} (h : t ∈ tailsAfterBlanks cs) : t <:+ cs := by
  induction cs with
  | nil => cases h
  | cons c cs ih =>
    rw [tailsAfterBlanks] at h
    split at h
    · rcases List.mem_cons.mp h with rfl | h
      · exact List.suffix_cons c t
      · exact (ih h).trans (List.suffix_cons c cs)
    · exact (ih h).trans (List.suffix_cons c cs)

/-- After each blank of a text that ends with none, something follows. -/
theorem ne_nil_of_mem_tailsAfterBlanks {cs t : List Char}
    (hlast : ∀ c ∈ cs.getLast?, isBlank c = false) (h : t ∈ tailsAfterBlanks cs) : t ≠ [] := by
  induction cs with
  | nil => cases h
  | cons c cs ih =>
    cases cs with
    | nil =>
      rw [tailsAfterBlanks_eq_nil fun d hd => hlast d (by rw [List.mem_singleton.mp hd]; rfl)] at h
      cases h
    | cons d cs =>
      rw [List.getLast?_cons_cons] at hlast
      rw [tailsAfterBlanks] at h
      split at h
      · rcases List.mem_cons.mp h with rfl | h
        · exact List.cons_ne_nil d cs
        · exact ih hlast h
      · exact ih hlast h

theorem suffix_of_afterBlanks? {cs rest : List Char} (h : afterBlanks? cs = some rest) :
    rest <:+ cs := by
  cases cs with
  | nil => cases h
  | cons c cs =>
    rw [afterBlanks?] at h
    split at h
    · rw [← Option.some.inj h]
      exact (List.dropWhile_suffix _).trans (List.suffix_cons c cs)
    · cases h

theorem mem_tailsAfterBlanks {cs rest : List Char} (h : afterBlanks? cs = some rest) :
    rest ∈ tailsAfterBlanks cs := by
  induction cs with
  | nil => cases h
  | cons c cs ih =>
    rw [afterBlanks?] at h
    split at h
    · next hc =>
      obtain rfl := Option.some.inj h
      rw [tailsAfterBlanks, if_pos hc, List.mem_cons]
      cases cs with
      | nil => exact .inl rfl
      | cons d cs =>
        cases hd : isBlank d with
        | true =>
          refine .inr (ih ?_)
          rw [afterBlanks?, if_pos hd, List.dropWhile_cons_of_pos hd]
        | false => exact .inl (List.dropWhile_cons_of_neg (by simp [hd]))
    · cases h

theorem exists_of_afterBlanks? {cs rest : List Char} (h : afterBlanks? cs = some rest) :
    ∃ before b, cs = before ++ b :: rest ∧ isBlank b = true := by
  induction cs with
  | nil => cases h
  | cons c cs ih =>
    rw [afterBlanks?] at h
    split at h
    · next hc =>
      obtain rfl := Option.some.inj h
      cases cs with
      | nil => exact ⟨[], c, rfl, hc⟩
      | cons d cs =>
        by_cases hd : isBlank d = true
        · obtain ⟨before, b, heq, hb⟩ := ih (by rw [afterBlanks?, if_pos hd, List.dropWhile_cons_of_pos hd])
          exact ⟨c :: before, b, congrArg (c :: ·) heq, hb⟩
        · exact ⟨[], c, by rw [List.dropWhile_cons_of_neg hd]; rfl, hc⟩
    · cases h

/-- Nothing is read after any run of blanks in a text if nothing is read after any of its blanks. -/
theorem bind_afterBlanks?_eq_none {α : Type} {read : List Char → Option α} {cs tail : List Char}
    (h : ∀ t ∈ tailsAfterBlanks cs, read t = none) (htail : tail <:+ cs) :
    (afterBlanks? tail).bind read = none := by
  rw [Option.bind_eq_none_iff]
  exact fun rest hrest => h rest (tailsAfterBlanks_subset htail (mem_tailsAfterBlanks hrest))

theorem head?_append_of_head? {cs : List Char} (hne : cs ≠ []) (h : ∀ c ∈ cs.head?, isBlank c = false)
    (rest : List Char) : ∀ c ∈ (cs ++ rest).head?, isBlank c = false := by
  rwa [List.head?_append_of_ne_nil _ hne]

theorem dropWhile_isBlank_of_blanks {blanks cs : List Char} (h : ∀ c ∈ blanks, isBlank c = true)
    (hcs : ∀ c ∈ cs.head?, isBlank c = false) : (blanks ++ cs).dropWhile isBlank = cs := by
  rw [List.dropWhile_append_of_pos h]
  cases cs with
  | nil => rfl
  | cons c cs => rw [List.dropWhile_cons_of_neg (by simp [hcs c rfl])]

theorem afterBlanks?_of_blanks {blanks cs : List Char} (hne : blanks ≠ [])
    (h : ∀ c ∈ blanks, isBlank c = true) (hcs : ∀ c ∈ cs.head?, isBlank c = false) :
    afterBlanks? (blanks ++ cs) = some cs := by
  obtain ⟨b, blanks, rfl⟩ := List.exists_cons_of_ne_nil hne
  obtain ⟨hb, hblanks⟩ := List.forall_mem_cons.mp h
  rw [List.cons_append, afterBlanks?, if_pos hb, dropWhile_isBlank_of_blanks hblanks hcs]

theorem afterBlanks?_space {cs : List Char} (h : ∀ c ∈ cs.head?, isBlank c = false) :
    afterBlanks? (' ' :: cs) = some cs := by
  have hspace : ∀ c ∈ [' '], isBlank c = true := by decide
  exact afterBlanks?_of_blanks (List.cons_ne_nil _ _) hspace h

theorem dropWhile_isBlank_ne_nil {cs : List Char} (hne : cs ≠ [])
    (hlast : ∀ c ∈ cs.getLast?, isBlank c = false) : cs.dropWhile isBlank ≠ [] := by
  intro hnil
  rw [List.dropWhile_eq_nil_iff] at hnil
  have hblank := hlast _ (List.getLast?_eq_getLast_of_ne_nil hne)
  rw [hnil _ (List.getLast_mem hne)] at hblank
  cases hblank

/-- A run of blanks that ends within a text ends alike whatever follows the text. -/
theorem dropWhile_isBlank_append {cs : List Char} (hne : cs ≠ [])
    (hlast : ∀ c ∈ cs.getLast?, isBlank c = false) (rest : List Char) :
    (cs ++ rest).dropWhile isBlank = cs.dropWhile isBlank ++ rest := by
  have hdrop : (cs.dropWhile isBlank).isEmpty = false :=
    List.isEmpty_eq_false_iff.mpr (dropWhile_isBlank_ne_nil hne hlast)
  rw [List.dropWhile_append, hdrop, if_neg Bool.false_ne_true]

theorem afterBlanks?_append {cs : List Char} (hne : cs ≠ [])
    (hlast : ∀ c ∈ cs.getLast?, isBlank c = false) (rest : List Char) :
    afterBlanks? (cs ++ rest) = (afterBlanks? cs).map (· ++ rest) := by
  have hdrop := dropWhile_isBlank_append hne hlast rest
  cases cs with
  | nil => exact absurd rfl hne
  | cons c cs =>
    rw [List.cons_append, afterBlanks?, afterBlanks?]
    split
    · next hc =>
      rw [List.cons_append, List.dropWhile_cons_of_pos hc, List.dropWhile_cons_of_pos hc] at hdrop
      rw [hdrop]
      rfl
    · rfl

/-! ## Keywords -/

@[simp] theorem sameLetter_self (c : Char) : sameLetter c c = true := by
  simp [sameLetter, caseClass]

/-- Whatever agrees up to case with a letter all of whose forms are word characters is one. -/
theorem isWordChar_of_sameLetter {k c : Char}
    (hk : ∀ n ∈ caseClass (lowerCode k.toNat), isWordChar (Char.ofNat n) = true)
    (h : sameLetter k c = true) : isWordChar c = true := by
  rw [sameLetter, ← toNat_lowerChar c, List.contains_iff_mem] at h
  have hlower := hk _ h
  rwa [Char.ofNat_toNat, isWordChar_lowerChar] at hlower

/-- What two keywords begin with alike is passed over. -/
theorem afterKeyword?_append_append (keyword more rest : List Char) :
    afterKeyword? (keyword ++ more) (keyword ++ rest) = afterKeyword? more rest := by
  induction keyword with
  | nil => rfl
  | cons k ks ih => simpa [afterKeyword?] using ih

theorem afterKeyword?_self (keyword rest : List Char) :
    afterKeyword? keyword (keyword ++ rest) = some rest := by
  have happend := afterKeyword?_append_append keyword [] rest
  rwa [List.append_nil] at happend

/-- A word is read as the keyword that it is in lower case. -/
theorem afterKeyword?_fold_append (word rest : List Char) :
    afterKeyword? (fold word) (word ++ rest) = some rest := by
  induction word with
  | nil => rfl
  | cons c word ih =>
    have hsame : sameLetter (lowerChar c) c = true := by
      rw [← sameLetter_lowerChar, sameLetter_self]
    rw [fold_cons, List.cons_append, afterKeyword?, if_pos hsame, ih]

/-- A keyword is not read before a character outside the class of all forms of its first letter. -/
theorem afterKeyword?_of_class {p : Char → Bool} (hp : ∀ c, p (lowerChar c) = p c) {k : Char}
    (hk : ∀ n ∈ caseClass (lowerCode k.toNat), p (Char.ofNat n) = false) (ks : List Char)
    {cs : List Char} (h : ∀ c ∈ cs.head?, p c = true) : afterKeyword? (k :: ks) cs = none := by
  cases cs with
  | nil => rfl
  | cons c cs =>
    rw [afterKeyword?, if_neg]
    intro hsame
    rw [sameLetter, ← toNat_lowerChar c, List.contains_iff_mem] at hsame
    have hdiffers := hk _ hsame
    rw [Char.ofNat_toNat, hp, h c rfl] at hdiffers
    cases hdiffers

theorem suffix_of_afterKeyword? {keyword cs rest : List Char}
    (h : afterKeyword? keyword cs = some rest) : rest <:+ cs := by
  induction keyword generalizing cs with
  | nil =>
    obtain rfl := Option.some.inj h
    exact List.suffix_refl cs
  | cons k ks ih =>
    cases cs with
    | nil => cases h
    | cons c cs =>
      rw [afterKeyword?] at h
      split at h
      · exact (ih h).trans (List.suffix_cons c cs)
      · cases h

/-- Does a word differ from a keyword within the first letters of both? -/
def clashes : List Char → List Char → Bool
  | k :: ks, c :: cs => !sameLetter k c || clashes ks cs
  | _, _ => false

theorem afterKeyword?_of_clashes {keyword word : List Char} (h : clashes keyword word = true)
    (rest : List Char) : afterKeyword? keyword (word ++ rest) = none := by
  induction keyword generalizing word with
  | nil => simp [clashes] at h
  | cons k ks ih =>
    cases word with
    | nil => simp [clashes] at h
    | cons c cs =>
      rw [List.cons_append, afterKeyword?]
      rw [clashes, Bool.or_eq_true, Bool.not_eq_true'] at h
      rcases h with h | h
      · rw [h, if_neg Bool.false_ne_true]
      · split
        · exact ih h
        · rfl

theorem clashes_append {keyword word : List Char} (h : clashes keyword word = true)
    (rest : List Char) : clashes keyword (word ++ rest) = true := by
  induction keyword generalizing word with
  | nil => simp [clashes] at h
  | cons k ks ih =>
    cases word with
    | nil => simp [clashes] at h
    | cons c cs =>
      rw [clashes, Bool.or_eq_true] at h
      rw [List.cons_append, clashes, Bool.or_eq_true]
      exact h.imp_right ih

theorem clashes_fold (keyword word : List Char) : clashes keyword (fold word) = clashes keyword word := by
  induction keyword generalizing word with
  | nil => rfl
  | cons k ks ih =>
    cases word with
    | nil => rfl
    | cons c cs => rw [fold_cons, clashes, clashes, sameLetter_lowerChar, ih]

/-- A keyword stands before a character that is none of its letters, or after it. -/
theorem afterKeyword?_append_cons {keyword : List Char} {d : Char}
    (h : ∀ k ∈ keyword, sameLetter k d = false) (cs rest : List Char) :
    afterKeyword? keyword (cs ++ d :: rest) = (afterKeyword? keyword cs).map (· ++ d :: rest) := by
  induction keyword generalizing cs with
  | nil => rfl
  | cons k ks ih =>
    cases cs with
    | nil =>
      have hk := h k List.mem_cons_self
      simp [afterKeyword?, hk]
    | cons c cs =>
      rw [List.cons_append, afterKeyword?, afterKeyword?]
      split
      · exact ih (fun k' hk' => h k' (List.mem_cons_of_mem k hk')) cs
      · rfl

/-! ## Texts without matches -/

theorem firstMatch?_cons_eq_none_iff {recognise : Recogniser} {before : Option Char} {c : Char}
    {cs : List Char} : firstMatch? recognise before (c :: cs) = none ↔
      recognise before (c :: cs) = none ∧ firstMatch? recognise (some c) cs = none := by
  rw [firstMatch?]
  cases recognise before (c :: cs) <;> simp

/-- The character before a place, past one more character of the text. -/
theorem getLast?_cons_or (c : Char) (skipped : List Char) (before : Option Char) :
    (c :: skipped).getLast?.or before = skipped.getLast?.or (some c) := by
  rw [List.getLast?_cons]
  cases skipped.getLast? <;> rfl

/-- A recogniser finds nothing in a text exactly if it succeeds at none of its places. -/
theorem firstMatch?_eq_none_iff {recognise : Recogniser} {before : Option Char} {cs : List Char} :
    firstMatch? recognise before cs = none ↔
      ∀ skipped tail, cs = skipped ++ tail → recognise (skipped.getLast?.or before) tail = none := by
  -- the character before the text changes from place to place
  induction cs generalizing before with
  | nil =>
    rw [firstMatch?, Option.map_eq_none_iff]
    constructor
    · intro h skipped tail heq
      obtain ⟨rfl, rfl⟩ := List.append_eq_nil_iff.mp heq.symm
      exact h
    · exact fun h => h [] [] rfl
  | cons c cs ih =>
    rw [firstMatch?_cons_eq_none_iff, ih]
    constructor
    · rintro ⟨hfirst, hrest⟩ skipped tail heq
      cases skipped with
      | nil =>
        rw [List.nil_append] at heq
        rwa [← heq]
      | cons d skipped =>
        obtain ⟨rfl, rfl⟩ := List.cons.inj heq
        rw [getLast?_cons_or]
        exact hrest skipped tail rfl
    · intro h
      refine ⟨h [] (c :: cs) rfl, ?_⟩
      rintro skipped tail rfl
      rw [← getLast?_cons_or c skipped before]
      exact h (c :: skipped) tail rfl

/-- Where one recogniser finds nothing, neither does one that succeeds at fewer places. -/
theorem firstMatch?_eq_none_of_imp {recognise other : Recogniser}
    (himp : ∀ before cs, recognise before cs = none → other before cs = none)
    {before : Option Char} {cs : List Char} (h : firstMatch? recognise before cs = none) :
    firstMatch? other before cs = none := by
  rw [firstMatch?_eq_none_iff] at h ⊢
  exact fun skipped tail heq => himp _ _ (h skipped tail heq)

/-- A recogniser that a character stops, and that sees no difference between it and an end. -/
def Recogniser.StopsAt (recognise : Recogniser) (d : Char) : Prop :=
  ∀ before cs rest, recognise before (cs ++ d :: rest) = (recognise before cs).map (· ++ d :: rest)

theorem firstMatch?_append_cons {recognise : Recogniser} {d : Char} (h : recognise.StopsAt d)
    {before : Option Char} {cs rest : List Char} (hcs : firstMatch? recognise before cs = none)
    (hrest : firstMatch? recognise (some d) rest = none) :
    firstMatch? recognise before (cs ++ d :: rest) = none := by
  induction cs generalizing before with
  | nil =>
    have hnil : recognise before [] = none := by simpa [firstMatch?] using hcs
    have hstop := h before [] rest
    rw [List.nil_append, hnil] at hstop
    rw [List.nil_append, firstMatch?, hstop, hrest]
    rfl
  | cons c cs ih =>
    rw [firstMatch?] at hcs
    cases hfound : recognise before (c :: cs) with
    | some found =>
      rw [hfound] at hcs
      cases hcs
    | none =>
      rw [hfound, Option.map_eq_none_iff] at hcs
      -- what is recognised before the stop does not hang on what follows it
      have hboth := h before (c :: cs) rest
      rw [hfound] at hboth
      rw [List.cons_append] at hboth ⊢
      rw [firstMatch?, hboth, ih hcs]
      rfl

/-- Nothing is replaced in a text in which a recogniser finds nothing, if pieces are taken only where
it succeeds. -/
theorem substituteAfter_of_firstMatch? {recognise : Recogniser}
    {take : Option Char → List Char → Option (Nat × List Char)}
    (himp : ∀ before cs, recognise before cs = none → take before cs = none)
    {before : Option Char} {cs : List Char} (h : firstMatch? recognise before cs = none) :
    substituteAfter take before 0 cs = cs := by
  induction cs generalizing before with
  | nil => rfl
  | cons c cs ih =>
    rw [firstMatch?] at h
    cases hfound : recognise before (c :: cs) with
    | some found =>
      rw [hfound] at h
      cases h
    | none =>
      rw [hfound, Option.map_eq_none_iff] at h
      simp only [substituteAfter, himp before (c :: cs) hfound, ih h]

theorem substituteAfter_eq_self {recognise : Option Char → List Char → Option (Nat × List Char)}
    {cs : List Char} (h : ∀ before tail, tail <:+ cs → recognise before tail = none)
    (before : Option Char) : substituteAfter recognise before 0 cs = cs := by
  induction cs generalizing before with
  | nil => rfl
  | cons c cs ih =>
    have hrest := ih fun before tail htail => h before tail (htail.trans (List.suffix_cons c cs))
    simp only [substituteAfter, h before (c :: cs) (List.suffix_refl _), hrest]

theorem cut_eq_singleton {recognise : List Char → Option Nat} {cs : List Char}
    (h : ∀ tail, tail <:+ cs → recognise tail = none) : cut recognise cs = [cs] := by
  induction cs with
  | nil => rfl
  | cons c cs ih =>
    have hrest := ih fun tail htail => h tail (htail.trans (List.suffix_cons c cs))
    rw [cut] at hrest ⊢
    simp only [cutAfter, h (c :: cs) (List.suffix_refl _), hrest]

end SheetQuery.Text
