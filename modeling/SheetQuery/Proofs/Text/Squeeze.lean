import SheetQuery.Proofs.Text.Fold
import SheetQuery.Proofs.Text.Trim
import SheetQuery.Text.Search

/-!
# Squeezing runs of blanks

A squeezed text has one space for each run of blanks. Squeezing keeps the words of a text and goes
together with trimming and with reading keywords that have no blanks in them. A keyword of several
words is found in the squeezed text wherever it is found in the text, but not the other way round
(`writes`).

* `squeeze_append`, `squeeze_append_of_not_blank`: squeezing a text in two parts;
* `trim_squeeze`, `words_squeeze`, `intercalate_words`: trimming and words;
* `afterKeyword?_squeeze`, `afterKeyword?_squeeze_of_writes`: keywords.
-/

namespace SheetQuery.Text

/-- Puts a character before a squeezed text so that the text stays squeezed. -/
def pushSqueezed (c : Char) (cs : List Char) : List Char :=
  if isBlank c then (if cs.head?.any isBlank then cs else ' ' :: cs) else c :: cs

theorem pushSqueezed_of_blank {c : Char} (h : isBlank c = true) :
    pushSqueezed c = pushSqueezed ' ' := by
  funext cs
  rw [pushSqueezed, pushSqueezed, if_pos h, if_pos (show isBlank ' ' = true by decide)]

/-- The text with one space for each run of blanks. -/
def squeeze (cs : List Char) : List Char := cs.foldr pushSqueezed []

@[simp] theorem squeeze_nil : squeeze [] = [] := rfl

theorem squeeze_cons (c : Char) (cs : List Char) :
    squeeze (c :: cs) = pushSqueezed c (squeeze cs) := rfl

theorem squeeze_append (xs ys : List Char) :
    squeeze (xs ++ ys) = xs.foldr pushSqueezed (squeeze ys) := by
  rw [squeeze, List.foldr_append, squeeze]

/-- The text before a part matters no more than the squeezed form of that part. -/
theorem squeeze_append_congr (xs : List Char) {ys zs : List Char} (h : squeeze ys = squeeze zs) :
    squeeze (xs ++ ys) = squeeze (xs ++ zs) := by
  rw [squeeze_append, h, ← squeeze_append]

theorem squeeze_cons_of_not_blank {c : Char} (h : isBlank c = false) (cs : List Char) :
    squeeze (c :: cs) = c :: squeeze cs := by
  rw [squeeze_cons, pushSqueezed, h]
  rfl

/-! ## The first character -/

theorem head?_squeeze (cs : List Char) :
    (squeeze cs).head? = cs.head?.map fun c => if isBlank c then ' ' else c := by
  have hspace : isBlank ' ' = true := by decide
  induction cs with
  | nil => rfl
  | cons c cs ih =>
    rw [squeeze_cons, pushSqueezed]
    cases hc : isBlank c with
    | false => simp [hc]
    | true =>
      cases cs with
      | nil => simp [hc]
      | cons d cs => cases hd : isBlank d <;> simp [ih, hc, hd, hspace]

@[simp] theorem any_isBlank_head?_squeeze (cs : List Char) :
    (squeeze cs).head?.any isBlank = cs.head?.any isBlank := by
  have hspace : isBlank ' ' = true := by decide
  rw [head?_squeeze]
  cases cs with
  | nil => rfl
  | cons c cs => cases hc : isBlank c <;> simp [hc, hspace]

@[simp] theorem all_isBlank_head?_squeeze (cs : List Char) :
    (squeeze cs).head?.all isBlank = cs.head?.all isBlank := by
  have hspace : isBlank ' ' = true := by decide
  rw [head?_squeeze]
  cases cs with
  | nil => rfl
  | cons c cs => cases hc : isBlank c <;> simp [hc, hspace]

theorem squeeze_eq_nil_iff {cs : List Char} : squeeze cs = [] ↔ cs = [] := by
  rw [← List.head?_eq_none_iff, head?_squeeze, Option.map_eq_none_iff, List.head?_eq_none_iff]

/-- In the middle of a run of blanks, one blank more makes no difference. -/
theorem squeeze_cons_of_blank_of_blank {c : Char} {cs : List Char} (hc : isBlank c = true)
    (hcs : cs.head?.any isBlank = true) : squeeze (c :: cs) = squeeze cs := by
  rw [squeeze_cons, pushSqueezed, any_isBlank_head?_squeeze, hcs, hc]
  rfl

theorem squeeze_cons_of_blank {c : Char} {cs : List Char} (hc : isBlank c = true)
    (hcs : cs.head?.any isBlank = false) : squeeze (c :: cs) = ' ' :: squeeze cs := by
  rw [squeeze_cons, pushSqueezed, any_isBlank_head?_squeeze, hcs, hc]
  rfl

theorem squeeze_singleton_of_blank {b : Char} (hb : isBlank b = true) : squeeze [b] = [' '] :=
  squeeze_cons_of_blank hb rfl

theorem length_squeeze_le (cs : List Char) : (squeeze cs).length ≤ cs.length := by
  induction cs with
  | nil => exact Nat.le_refl _
  | cons c cs ih =>
    rw [squeeze_cons, pushSqueezed]
    split
    · split
      · exact Nat.le_succ_of_le ih
      · exact Nat.succ_le_succ ih
    · exact Nat.succ_le_succ ih

/-- The end of a squeezed text is squeezed. -/
theorem squeeze_eq_self_of_suffix {cs rest : List Char} (h : squeeze cs = cs) (hrest : rest <:+ cs) :
    squeeze rest = rest := by
  induction cs with
  | nil => rw [List.suffix_nil.mp hrest]; rfl
  | cons c cs ih =>
    rcases List.suffix_cons_iff.mp hrest with rfl | hrest
    · exact h
    · apply ih _ hrest
      rw [squeeze_cons, pushSqueezed] at h
      split at h
      · split at h
        · -- dropping the blank would leave a text longer than what it is made of
          have hlength := length_squeeze_le cs
          rw [h, List.length_cons] at hlength
          omega
        · exact (List.cons.inj h).2
      · exact (List.cons.inj h).2

/-- The start of a squeezed text is the squeezed start of the text. -/
theorem exists_prefix_squeeze {cs start : List Char} (h : start <+: squeeze cs) :
    ∃ origin, origin <+: cs ∧ squeeze origin = start := by
  induction cs generalizing start with
  | nil => exact ⟨[], List.prefix_rfl, (List.prefix_nil.mp h).symm⟩
  | cons c cs ih =>
    cases start with
    | nil => exact ⟨[], List.nil_prefix, rfl⟩
    | cons d start =>
      have hhead : ∀ {origin : List Char}, origin <+: cs → origin ≠ [] → origin.head? = cs.head? := by
        rintro origin ⟨rest, rfl⟩ hne
        exact (List.head?_append_of_ne_nil origin hne).symm
      cases hc : isBlank c with
      | false =>
        rw [squeeze_cons_of_not_blank hc] at h
        obtain ⟨rfl, hstart⟩ := List.cons_prefix_cons.mp h
        obtain ⟨origin, horigin, rfl⟩ := ih hstart
        exact ⟨d :: origin, List.cons_prefix_cons.mpr ⟨rfl, horigin⟩, squeeze_cons_of_not_blank hc _⟩
      | true =>
        cases hcs : cs.head?.any isBlank with
        | true =>
          -- the space of the start stands for the whole run, so the run is taken as well
          rw [squeeze_cons_of_blank_of_blank hc hcs] at h
          obtain ⟨origin, horigin, heq⟩ := ih h
          have hne : origin ≠ [] := by
            rintro rfl
            cases heq
          refine ⟨c :: origin, List.cons_prefix_cons.mpr ⟨rfl, horigin⟩, ?_⟩
          rw [squeeze_cons_of_blank_of_blank hc (by rw [hhead horigin hne, hcs]), heq]
        | false =>
          rw [squeeze_cons_of_blank hc hcs] at h
          obtain ⟨rfl, hstart⟩ := List.cons_prefix_cons.mp h
          obtain ⟨origin, horigin, rfl⟩ := ih hstart
          refine ⟨c :: origin, List.cons_prefix_cons.mpr ⟨rfl, horigin⟩, ?_⟩
          apply squeeze_cons_of_blank hc
          by_cases hne : origin = []
          · rw [hne]
            rfl
          · rw [hhead horigin hne, hcs]

/-! ## Texts in two parts -/

/-- A text that ends outside blanks is squeezed on its own. -/
theorem squeeze_append_of_not_blank {xs : List Char} (h : ∀ c ∈ xs.getLast?, isBlank c = false)
    (ys : List Char) : squeeze (xs ++ ys) = squeeze xs ++ squeeze ys := by
  induction xs with
  | nil => rfl
  | cons c xs ih =>
    cases xs with
    | nil =>
      have hc : isBlank c = false := h c rfl
      rw [List.singleton_append, squeeze_cons_of_not_blank hc, squeeze_cons_of_not_blank hc]
      rfl
    | cons d xs =>
      have hrest := ih fun e he => h e (by rw [List.getLast?_cons_cons]; exact he)
      rw [List.cons_append, squeeze_cons, hrest, squeeze_cons c (d :: xs), pushSqueezed, pushSqueezed]
      -- the next character is one of the first part, which decides whether a blank is kept
      have hhead : (squeeze (d :: xs) ++ squeeze ys).head? = (squeeze (d :: xs)).head? := by
        rw [List.head?_append_of_ne_nil]
        simp [squeeze_eq_nil_iff]
      rw [hhead]
      split
      · split <;> rfl
      · rfl

theorem squeeze_append_singleton {c : Char} (hc : isBlank c = false) (cs : List Char) :
    squeeze (cs ++ [c]) = squeeze cs ++ [c] := by
  induction cs with
  | nil => exact squeeze_cons_of_not_blank hc []
  | cons d cs ih =>
    rw [List.cons_append, squeeze_cons, ih, squeeze_cons, pushSqueezed, pushSqueezed]
    cases hcs : squeeze cs with
    | nil => cases hd : isBlank d <;> simp [hc]
    | cons e es =>
      rw [List.cons_append, List.head?_cons, List.head?_cons]
      split
      · split <;> rfl
      · rfl

theorem squeeze_append_singleton_of_blank {b : Char} (hb : isBlank b = true) (cs : List Char) :
    squeeze (cs ++ [b]) =
      if cs.getLast?.any isBlank then squeeze cs else squeeze cs ++ [' '] := by
  induction cs with
  | nil => simp [squeeze_singleton_of_blank hb]
  | cons c cs ih =>
    cases cs with
    | nil =>
      cases hc : isBlank c with
      | false => simp [squeeze_cons_of_not_blank hc, squeeze_singleton_of_blank hb, hc]
      | true => simp [squeeze_cons_of_blank_of_blank hc, squeeze_singleton_of_blank, hb, hc]
    | cons d cs =>
      -- a space at the end is out of sight of the first character, since something stands between
      have hhead : (squeeze (d :: cs) ++ [' ']).head? = (squeeze (d :: cs)).head? := by
        rw [List.head?_append_of_ne_nil]
        simp [squeeze_eq_nil_iff]
      rw [List.cons_append, squeeze_cons, ih, squeeze_cons c (d :: cs), List.getLast?_cons_cons]
      split
      · rfl
      · rw [pushSqueezed, pushSqueezed, hhead]
        split
        · split <;> rfl
        · rfl

theorem squeeze_of_not_blank {cs : List Char} (h : ∀ c ∈ cs, isBlank c = false) : squeeze cs = cs := by
  induction cs with
  | nil => rfl
  | cons c cs ih =>
    rw [squeeze_cons_of_not_blank (h c List.mem_cons_self),
      ih fun d hd => h d (List.mem_cons_of_mem _ hd)]

theorem squeeze_gap {gap cs : List Char} (hne : gap ≠ []) (hgap : ∀ c ∈ gap, isBlank c = true)
    (hcs : cs.head?.any isBlank = false) : squeeze (gap ++ cs) = ' ' :: squeeze cs := by
  induction gap with
  | nil => exact absurd rfl hne
  | cons c gap ih =>
    have hc : isBlank c = true := hgap c List.mem_cons_self
    cases gap with
    | nil => exact squeeze_cons_of_blank hc hcs
    | cons d gap =>
      have hd : isBlank d = true := hgap d (by simp)
      rw [List.cons_append, squeeze_cons_of_blank_of_blank hc (by simpa using hd)]
      exact ih (List.cons_ne_nil _ _) fun e he => hgap e (List.mem_cons_of_mem _ he)

theorem takeWhile_squeeze {p : Char → Bool} (hp : ∀ c, isBlank c = true → p c = false)
    (cs : List Char) : (squeeze cs).takeWhile p = cs.takeWhile p := by
  induction cs with
  | nil => rfl
  | cons c cs ih =>
    cases hc : isBlank c with
    | true =>
      rw [List.takeWhile_cons_of_neg (by simp [hp c hc])]
      cases hcs : cs.head?.any isBlank with
      | true =>
        cases cs with
        | nil => cases hcs
        | cons d cs =>
          have hd : isBlank d = true := hcs
          rw [squeeze_cons_of_blank_of_blank hc hcs, ih, List.takeWhile_cons_of_neg (by simp [hp d hd])]
      | false =>
        rw [squeeze_cons_of_blank hc hcs, List.takeWhile_cons_of_neg (by simp [hp ' ' (by decide)])]
    | false =>
      rw [squeeze_cons_of_not_blank hc]
      cases hpc : p c <;> simp [hpc, ih]

theorem squeeze_append_of_forall_not_blank {xs : List Char} (h : ∀ c ∈ xs, isBlank c = false)
    (ys : List Char) : squeeze (xs ++ ys) = xs ++ squeeze ys := by
  rw [squeeze_append_of_not_blank fun c hc => h c (List.mem_of_getLast? hc), squeeze_of_not_blank h]

theorem dropWhile_squeeze (cs : List Char) :
    (squeeze cs).dropWhile isBlank = squeeze (cs.dropWhile isBlank) := by
  have hspace : isBlank ' ' = true := by decide
  induction cs with
  | nil => rfl
  | cons c cs ih =>
    cases hc : isBlank c with
    | false => rw [squeeze_cons_of_not_blank hc, List.dropWhile_cons_of_neg (by simp [hc]),
        List.dropWhile_cons_of_neg (by simp [hc]), squeeze_cons_of_not_blank hc]
    | true =>
      rw [List.dropWhile_cons_of_pos hc, ← ih]
      cases hcs : cs.head?.any isBlank with
      | true => rw [squeeze_cons_of_blank_of_blank hc hcs]
      | false => rw [squeeze_cons_of_blank hc hcs, List.dropWhile_cons_of_pos hspace]

theorem afterBlanks?_squeeze (cs : List Char) :
    afterBlanks? (squeeze cs) = (afterBlanks? cs).map squeeze := by
  have hspec : ∀ cs : List Char, afterBlanks? cs =
      if cs.head?.any isBlank then some (cs.dropWhile isBlank) else none := by
    intro cs
    cases cs with
    | nil => rfl
    | cons c cs =>
      rw [afterBlanks?, List.head?_cons, Option.any_some]
      cases hc : isBlank c with
      | false => rfl
      | true => rw [List.dropWhile_cons_of_pos hc]
  rw [hspec, hspec, any_isBlank_head?_squeeze, dropWhile_squeeze]
  split <;> rfl

/-! ## Case -/

theorem mem_of_mem_squeeze {c : Char} {cs : List Char} (h : c ∈ squeeze cs) : c = ' ' ∨ c ∈ cs := by
  induction cs with
  | nil => cases h
  | cons d cs ih =>
    have hrest : c ∈ squeeze cs → c = ' ' ∨ c ∈ d :: cs := fun h =>
      (ih h).imp_right (List.mem_cons_of_mem d)
    rw [squeeze_cons, pushSqueezed] at h
    split at h
    · split at h
      · exact hrest h
      · rcases List.mem_cons.mp h with rfl | h
        · exact .inl rfl
        · exact hrest h
    · rcases List.mem_cons.mp h with rfl | h
      · exact .inr List.mem_cons_self
      · exact hrest h

theorem isUniform_squeeze {cs : List Char} (h : IsUniform cs) : IsUniform (squeeze cs) := by
  intro c hc
  rcases mem_of_mem_squeeze hc with rfl | hc
  · decide
  · exact h c hc

theorem squeeze_fold (cs : List Char) : squeeze (fold cs) = fold (squeeze cs) := by
  have hspace : lowerChar ' ' = ' ' := by decide
  induction cs with
  | nil => rfl
  | cons c cs ih =>
    have hhead : (fold (squeeze cs)).head?.any isBlank = (squeeze cs).head?.any isBlank := by
      rw [head?_fold]
      cases (squeeze cs).head? with
      | none => rfl
      | some d => exact isBlank_lowerChar d
    rw [fold_cons, squeeze_cons, squeeze_cons, ih, pushSqueezed, pushSqueezed, isBlank_lowerChar,
      hhead]
    split
    · split
      · rfl
      · rw [fold_cons, hspace]
    · rw [fold_cons]

/-! ## Trimming and words -/

theorem squeeze_reverse (cs : List Char) : squeeze cs.reverse = (squeeze cs).reverse := by
  induction cs with
  | nil => rfl
  | cons c cs ih =>
    rw [List.reverse_cons]
    cases hc : isBlank c with
    | false => rw [squeeze_append_singleton hc, ih, squeeze_cons_of_not_blank hc, List.reverse_cons]
    | true =>
      rw [squeeze_append_singleton_of_blank hc, ih, List.getLast?_reverse]
      split
      · next hcs => rw [squeeze_cons_of_blank_of_blank hc hcs]
      · next hcs => rw [squeeze_cons_of_blank hc (Bool.not_eq_true _ ▸ hcs), List.reverse_cons]

@[simp] theorem trim_squeeze (cs : List Char) : trim (squeeze cs) = squeeze (trim cs) := by
  rw [trim, trimWith, trimEndWith, dropWhile_squeeze, ← squeeze_reverse, dropWhile_squeeze,
    ← squeeze_reverse]
  rfl

theorem words_cons_of_blank {c : Char} (hc : isBlank c = true) (cs : List Char) :
    words (c :: cs) = words cs := by
  simp [words, runsOutside, splitWhere, hc]

theorem words_append {w cs : List Char} (hw : w ≠ []) (hblank : ∀ c ∈ w, isBlank c = false)
    (hcs : cs.head?.all isBlank = true) : words (w ++ cs) = w :: words cs := by
  obtain ⟨first, rest, hsplit, hsplit'⟩ := splitWhere_append_left hblank cs
  have hfirst : first = [] := by
    cases cs with
    | nil => exact (List.cons.inj hsplit).1.symm
    | cons b cs =>
      rw [splitWhere, if_pos (by simpa using hcs)] at hsplit
      exact (List.cons.inj hsplit).1.symm
  subst hfirst
  rw [words, runsOutside, hsplit', List.append_nil, List.filter_cons_of_pos (by simpa using hw),
    words, runsOutside, hsplit, List.filter_cons_of_neg (by simp)]

/-- A text is made of blanks and, in front of blanks or at the end, of words. -/
theorem words_induction {P : List Char → Prop} (nil : P [])
    (blank : ∀ c cs, isBlank c = true → P cs → P (c :: cs))
    (word : ∀ w cs, w ≠ [] → (∀ c ∈ w, isBlank c = false) → cs.head?.all isBlank = true → P cs →
      P (w ++ cs)) (cs : List Char) : P cs := by
  -- a whole word is passed at once, so the induction is on the length of the text
  induction hn : cs.length using Nat.strongRecOn generalizing cs with
  | ind n ih =>
    cases cs with
    | nil => exact nil
    | cons c cs =>
      rw [List.length_cons] at hn
      cases hc : isBlank c with
      | true => exact blank c cs hc (ih cs.length (by omega) cs rfl)
      | false =>
        have hlength := (cs.dropWhile_suffix (! isBlank ·)).length_le
        have hparts := List.takeWhile_append_dropWhile (p := (! isBlank ·)) (l := cs)
        have hrest := ih _ (by omega) (cs.dropWhile (! isBlank ·)) rfl
        have hword := word (c :: cs.takeWhile (! isBlank ·)) _ (List.cons_ne_nil _ _) ?_ ?_ hrest
        · rwa [List.cons_append, hparts] at hword
        · intro d hd
          rcases List.mem_cons.mp hd with rfl | hd
          · exact hc
          · simpa using List.all_eq_true.mp List.all_takeWhile d hd
        · have hhead := List.head?_dropWhile_not (! isBlank ·) cs
          cases hdrop : (cs.dropWhile (! isBlank ·)).head? with
          | none => rfl
          | some d =>
            rw [hdrop] at hhead
            simpa using hhead

@[simp] theorem words_squeeze (cs : List Char) : words (squeeze cs) = words cs := by
  induction cs using words_induction with
  | nil => rfl
  | blank c cs hc ih =>
    rw [words_cons_of_blank hc]
    cases hcs : cs.head?.any isBlank with
    | true => rw [squeeze_cons_of_blank_of_blank hc hcs, ih]
    | false => rw [squeeze_cons_of_blank hc hcs, words_cons_of_blank (by decide), ih]
  | word w cs hw hblank hcs ih =>
    have hhead : (squeeze cs).head?.all isBlank = true := by rwa [all_isBlank_head?_squeeze]
    rw [squeeze_append_of_forall_not_blank hblank, words_append hw hblank hhead,
      words_append hw hblank hcs, ih]

theorem words_of_blank {cs : List Char} (h : ∀ c ∈ cs, isBlank c = true) : words cs = [] := by
  induction cs with
  | nil => rfl
  | cons c cs ih =>
    rw [words_cons_of_blank (h c List.mem_cons_self), ih fun d hd => h d (List.mem_cons_of_mem _ hd)]

/-- The words of a text, joined by single spaces, are the text, trimmed and squeezed. -/
theorem intercalate_words (cs : List Char) : [' '].intercalate (words cs) = squeeze (trim cs) := by
  induction cs using words_induction with
  | nil => rfl
  | blank c cs hc ih =>
    have hblank : ∀ d ∈ [c], isBlank d = true := by simpa using hc
    have htrim : trim (c :: cs) = trim cs := trimWith_append_left hblank cs
    rw [words_cons_of_blank hc, ih, htrim]
  | word w cs hw hblank hcs ih =>
    have hlast : ∀ c ∈ w.getLast?, isBlank c = false := fun c hc =>
      hblank c (List.mem_of_getLast? hc)
    have hcore : IsTrimmed isBlank w := ⟨fun c hc => hblank c (List.mem_of_head? hc), hlast⟩
    have htrim : trim (w ++ cs) = w ++ trimEndWith isBlank cs := by
      have haround := trimWith_around hcore hw [] cs
      simpa [trim] using haround
    rw [words_append hw hblank hcs, htrim, squeeze_append_of_forall_not_blank hblank]
    -- the word is the last one, or a gap and further words follow it
    by_cases hrest : trim cs = []
    · have hall := trim_eq_nil_iff.mp hrest
      have hlast' : ∀ c ∈ ([] : List Char).getLast?, isBlank c = false := by simp
      have hend : trimEndWith isBlank cs = [] := trimEndWith_append hall hlast'
      rw [words_of_blank hall, hend]
      simp
    · obtain ⟨pre, post, hpre, hpost, heq, htrimmed⟩ := exists_trimWith isBlank cs
      have hend : trimEndWith isBlank cs = pre ++ trim cs := by
        have hlast' : ∀ c ∈ (pre ++ trim cs).getLast?, isBlank c = false := by
          rw [List.getLast?_append_of_ne_nil _ hrest]
          exact htrimmed.2
        conv_lhs => rw [heq]
        exact trimEndWith_append hpost hlast'
      obtain ⟨first, rest, htext⟩ := List.exists_cons_of_ne_nil hrest
      have hfirst : isBlank first = false := htrimmed.1 first (by rw [← trim, htext]; rfl)
      have hgap : pre ≠ [] := by
        rintro rfl
        rw [heq, List.nil_append, ← trim, htext] at hcs
        simp [hfirst] at hcs
      have hsqueeze : squeeze (pre ++ trim cs) = ' ' :: squeeze (trim cs) := by
        apply squeeze_gap hgap hpre
        rw [htext]
        simpa using hfirst
      rw [hend, hsqueeze, ← ih]
      cases hwords : words cs with
      | nil =>
        rw [hwords] at ih
        exact absurd (squeeze_eq_nil_iff.mp ih.symm) hrest
      | cons v vs => simp [List.intercalate]

/-! ## Keywords -/

/-- Letters that agree up to case are blank together. -/
theorem isBlank_of_sameLetter {k c : Char} (h : sameLetter k c = true) : isBlank c = isBlank k := by
  have hsiblings : ∀ entry ∈ caseSiblings, entry.1 ∉ blankCodes ∧ ∀ n ∈ entry.2, n ∉ blankCodes := by
    decide
  have hplain : ∀ d : Char, lowerCode d.toNat ∉ blankCodes → isBlank d = false := by
    intro d hd
    rw [← isBlank_lowerChar, ← Bool.not_eq_true]
    intro hblank
    apply hd
    rw [← toNat_lowerChar]
    exact mem_blankCodes hblank
  rw [sameLetter, caseClass, List.contains_iff_mem] at h
  -- either the letters differ in case only, or they are siblings, and no sibling is a blank
  rcases List.mem_cons.mp h with heq | hmem
  · rw [← toNat_lowerChar, ← toNat_lowerChar] at heq
    rw [← isBlank_lowerChar c, toNat_inj heq, isBlank_lowerChar]
  · cases hlookup : caseSiblings.lookup (lowerCode k.toNat) with
    | none =>
      rw [hlookup] at hmem
      cases hmem
    | some siblings =>
      rw [hlookup] at hmem
      obtain ⟨before, after, hentries, -⟩ := List.lookup_eq_some_iff.mp hlookup
      have hentry : (lowerCode k.toNat, siblings) ∈ caseSiblings := by simp [hentries]
      obtain ⟨hk, hc⟩ := hsiblings _ hentry
      rw [hplain k hk, hplain c (hc _ hmem)]

theorem eq_space_of_sameLetter {c : Char} (h : sameLetter ' ' c = true) : c = ' ' :=
  eq_of_sameLetter (by decide) (by decide) h

theorem afterKeyword?_of_blank {k : Char} (hk : isBlank k = false) (ks : List Char) {cs : List Char}
    (hcs : cs.head?.any isBlank = true) : afterKeyword? (k :: ks) cs = none := by
  cases cs with
  | nil => cases hcs
  | cons c cs =>
    have hc : isBlank c = true := hcs
    have hsame : sameLetter k c = false := by
      rw [← Bool.not_eq_true]
      intro h
      rw [isBlank_of_sameLetter h, hk] at hc
      cases hc
    rw [afterKeyword?, hsame]
    rfl

/-- A keyword without blanks stands in a squeezed text as it stands in the text. -/
theorem afterKeyword?_squeeze {keyword : List Char} (h : ∀ k ∈ keyword, isBlank k = false)
    (cs : List Char) : afterKeyword? keyword (squeeze cs) = (afterKeyword? keyword cs).map squeeze := by
  induction keyword generalizing cs with
  | nil => rfl
  | cons k ks ih =>
    have hk : isBlank k = false := h k List.mem_cons_self
    cases cs with
    | nil => rfl
    | cons c cs =>
      cases hc : isBlank c with
      | true =>
        have hhead : (c :: cs).head?.any isBlank = true := hc
        have hhead' : (squeeze (c :: cs)).head?.any isBlank = true := by
          rw [any_isBlank_head?_squeeze, hhead]
        rw [afterKeyword?_of_blank hk ks hhead, afterKeyword?_of_blank hk ks hhead']
        rfl
      | false =>
        rw [squeeze_cons_of_not_blank hc, afterKeyword?, afterKeyword?,
          ih fun k hk => h k (List.mem_cons_of_mem _ hk)]
        split <;> rfl

/-- What is read as a keyword agrees with it letter by letter. -/
theorem exists_of_afterKeyword? {keyword cs rest : List Char}
    (h : afterKeyword? keyword cs = some rest) :
    ∃ piece, cs = piece ++ rest ∧ List.Forall₂ (fun k c => sameLetter k c = true) keyword piece := by
  induction keyword generalizing cs with
  | nil =>
    rw [← Option.some.inj h]
    exact ⟨[], rfl, .nil⟩
  | cons k ks ih =>
    cases cs with
    | nil => cases h
    | cons c cs =>
      rw [afterKeyword?] at h
      split at h
      · next hc =>
        obtain ⟨piece, rfl, hpiece⟩ := ih h
        exact ⟨c :: piece, rfl, .cons hc hpiece⟩
      · cases h

theorem afterKeyword?_append {keyword piece : List Char}
    (h : List.Forall₂ (fun k c => sameLetter k c = true) keyword piece) (cs : List Char) :
    afterKeyword? keyword (piece ++ cs) = some cs := by
  induction h with
  | nil => rfl
  | cons hc _ ih => rw [List.cons_append, afterKeyword?, if_pos hc, ih]

/-- Is a keyword without outer blanks written with single spaces? -/
def isSpacedSingly : List Char → Bool
  | [] => true
  | [c] => !isBlank c
  | c :: d :: cs => (!isBlank c || (c == ' ' && !isBlank d)) && isSpacedSingly (d :: cs)

/-- A keyword written with single spaces stays as it is when a text that starts with it is squeezed. -/
theorem squeeze_append_of_forall₂ {keyword piece : List Char}
    (h : List.Forall₂ (fun k c => sameLetter k c = true) keyword piece)
    (hkeyword : isSpacedSingly keyword = true) (cs : List Char) :
    squeeze (piece ++ cs) = piece ++ squeeze cs := by
  induction h with
  | nil => rfl
  | @cons k c ks piece hc hrest ih =>
    cases hrest with
    | nil =>
      have hblank : isBlank c = false := by
        rw [isBlank_of_sameLetter hc]
        simpa [isSpacedSingly] using hkeyword
      exact squeeze_cons_of_not_blank hblank cs
    | @cons l d ls ds hd hds =>
      rw [isSpacedSingly, Bool.and_eq_true, Bool.or_eq_true, Bool.and_eq_true] at hkeyword
      rw [List.cons_append]
      rcases hkeyword.1 with hplain | ⟨hspace, hnext⟩
      · have hblank : isBlank c = false := by
          rw [isBlank_of_sameLetter hc]
          simpa using hplain
        rw [squeeze_cons_of_not_blank hblank, ih hkeyword.2]
        rfl
      · have hblank : isBlank d = false := by
          rw [isBlank_of_sameLetter hd]
          simpa using hnext
        -- a space is read as this very character, so it is its own squeezed form
        rw [beq_iff_eq] at hspace
        subst hspace
        rw [eq_space_of_sameLetter hc, squeeze_cons_of_blank (by decide) (by simpa using hblank),
          ih hkeyword.2]
        rfl

/-- Does a text have a keyword wherever its squeezed form has it? -/
def writes (keyword cs : List Char) : Bool :=
  cs.tails.all fun rest =>
    (afterKeyword? keyword (squeeze rest)).isNone || (afterKeyword? keyword rest).isSome

theorem afterKeyword?_squeeze_of_writes {keyword cs rest : List Char}
    (hkeyword : isSpacedSingly keyword = true) (h : writes keyword cs = true) (hrest : rest <:+ cs) :
    afterKeyword? keyword (squeeze rest) = (afterKeyword? keyword rest).map squeeze := by
  cases hfound : afterKeyword? keyword rest with
  | some after =>
    obtain ⟨piece, rfl, hpiece⟩ := exists_of_afterKeyword? hfound
    rw [squeeze_append_of_forall₂ hpiece hkeyword, afterKeyword?_append hpiece]
    rfl
  | none =>
    have hwrites := List.all_eq_true.mp h rest ((List.mem_tails _ _).mpr hrest)
    rw [hfound, Option.isSome_none, Bool.or_false, Option.isNone_iff_eq_none] at hwrites
    rw [hwrites]
    rfl

end SheetQuery.Text
