import SheetQuery.Proofs.Text.CaseClasses

/-!
# Texts up to case

`fold` lower-cases every letter of a text on its own. Trimming, splitting and searching for keywords
go through a folded text in the way they go through the text itself.

* `lower_eq_fold`: texts of uniform letters are lower-cased letter by letter;
* `trimWith_fold`, `splitWhere_fold`, `afterKeyword?_fold`: the single operations;
* `firstMatch?_fold`, `substitute_fold`, `cut_fold`: scanning with a recogniser that reads folded
  texts alike.
-/

namespace SheetQuery.Text

/-! ## Folded texts -/

/-- A text with every letter lower-cased on its own. -/
def fold (cs : List Char) : List Char := cs.map lowerChar

@[simp] theorem fold_nil : fold [] = [] := rfl

@[simp] theorem fold_cons (c : Char) (cs : List Char) : fold (c :: cs) = lowerChar c :: fold cs := rfl

@[simp] theorem fold_append (xs ys : List Char) : fold (xs ++ ys) = fold xs ++ fold ys :=
  List.map_append

@[simp] theorem fold_reverse (cs : List Char) : fold cs.reverse = (fold cs).reverse :=
  List.map_reverse

@[simp] theorem fold_take (n : Nat) (cs : List Char) : fold (cs.take n) = (fold cs).take n :=
  List.map_take

@[simp] theorem length_fold (cs : List Char) : (fold cs).length = cs.length := List.length_map _

@[simp] theorem fold_eq_nil_iff {cs : List Char} : fold cs = [] ↔ cs = [] := List.map_eq_nil_iff

@[simp] theorem head?_fold (cs : List Char) : (fold cs).head? = cs.head?.map lowerChar :=
  List.head?_map

@[simp] theorem fold_fold (cs : List Char) : fold (fold cs) = fold cs := by
  simp [fold, Function.comp_def]

/-- A letter whose lower-case form is one letter, whatever stands around it. -/
def isUniform (c : Char) : Bool := c != 'Σ' && c != 'İ'

/-- Are all letters of a text uniform? -/
def IsUniform (cs : List Char) : Prop := ∀ c ∈ cs, isUniform c = true

theorem isUniform_lowerChar (c : Char) : isUniform (lowerChar c) = true := by
  have hne : ∀ d : Char, lowerChar d ≠ d → lowerChar c ≠ d := by
    rintro d hd rfl
    exact hd (lowerChar_lowerChar c)
  simp only [isUniform, Bool.and_eq_true, bne_iff_ne]
  exact ⟨hne 'Σ' (by decide), hne 'İ' (by decide)⟩

theorem isUniform_fold (cs : List Char) : IsUniform (fold cs) := by
  intro c hc
  obtain ⟨d, -, rfl⟩ := List.mem_map.mp hc
  exact isUniform_lowerChar d

theorem lowerAfter_eq_fold {cs : List Char} (h : IsUniform cs) (before : List Char) :
    lowerAfter before cs = fold cs := by
  induction cs generalizing before with
  | nil => rfl
  | cons c cs ih =>
    have hc := h c List.mem_cons_self
    simp only [isUniform, Bool.and_eq_true, bne_iff_ne] at hc
    rw [lowerAfter_cons, ih fun d hd => h d (List.mem_cons_of_mem _ hd), lowerPiece,
      if_neg (by simpa using hc.1), if_neg (by simpa using hc.2)]
    rfl

/-- Texts of uniform letters are lower-cased letter by letter. -/
theorem lower_eq_fold {cs : List Char} (h : IsUniform cs) : lower cs = fold cs :=
  lowerAfter_eq_fold h []

theorem lower_fold {cs : List Char} (h : IsUniform cs) : lower (fold cs) = lower cs := by
  rw [lower_eq_fold (isUniform_fold cs), lower_eq_fold h, fold_fold]

/-! ## Trimming and splitting -/

section

variable {p : Char → Bool}

theorem dropWhile_fold (hp : ∀ c, p (lowerChar c) = p c) (cs : List Char) :
    (fold cs).dropWhile p = fold (cs.dropWhile p) := by
  rw [fold, List.dropWhile_map, show p ∘ lowerChar = p from funext hp, fold]

theorem takeWhile_fold (hp : ∀ c, p (lowerChar c) = p c) (cs : List Char) :
    (fold cs).takeWhile p = fold (cs.takeWhile p) := by
  rw [fold, List.takeWhile_map, show p ∘ lowerChar = p from funext hp, fold]

theorem all_fold (hp : ∀ c, p (lowerChar c) = p c) (cs : List Char) : (fold cs).all p = cs.all p := by
  rw [fold, List.all_map, show p ∘ lowerChar = p from funext hp]

theorem trimWith_fold (hp : ∀ c, p (lowerChar c) = p c) (cs : List Char) :
    trimWith p (fold cs) = fold (trimWith p cs) := by
  rw [trimWith, trimEndWith, dropWhile_fold hp, ← fold_reverse, dropWhile_fold hp, ← fold_reverse,
    trimWith, trimEndWith]

theorem splitWhere_fold (hp : ∀ c, p (lowerChar c) = p c) (cs : List Char) :
    splitWhere p (fold cs) = (splitWhere p cs).map fold := by
  induction cs with
  | nil => rfl
  | cons c cs ih =>
    rw [fold_cons, splitWhere, splitWhere, hp, ih]
    by_cases hc : p c = true
    · simp [hc]
    · cases hsplit : splitWhere p cs <;> simp [hc]

theorem splitAtFirst_fold (hp : ∀ c, p (lowerChar c) = p c) (cs : List Char) :
    splitAtFirst p (fold cs) = (fold (splitAtFirst p cs).1, (splitAtFirst p cs).2.map fold) := by
  have hnot : ∀ c, (! p (lowerChar c)) = ! p c := fun c => by rw [hp]
  rw [splitAtFirst, splitAtFirst, dropWhile_fold hnot, takeWhile_fold hnot]
  cases cs.dropWhile (! p ·) <;> rfl

end

@[simp] theorem trim_fold (cs : List Char) : trim (fold cs) = fold (trim cs) :=
  trimWith_fold isBlank_lowerChar cs

/-! ## Searching -/

theorem afterKeyword?_fold (keyword cs : List Char) :
    afterKeyword? keyword (fold cs) = (afterKeyword? keyword cs).map fold := by
  induction keyword generalizing cs with
  | nil => rfl
  | cons k ks ih =>
    cases cs with
    | nil => rfl
    | cons c cs =>
      rw [fold_cons, afterKeyword?, afterKeyword?, sameLetter_lowerChar, ih]
      split <;> rfl

theorem mem_of_afterKeyword? {keyword cs rest : List Char}
    (h : afterKeyword? keyword cs = some rest) : ∀ c ∈ rest, c ∈ cs := by
  induction keyword generalizing cs with
  | nil =>
    rw [← Option.some.inj h]
    exact fun c hc => hc
  | cons k ks ih =>
    cases cs with
    | nil => cases h
    | cons d cs =>
      rw [afterKeyword?] at h
      split at h
      · exact fun c hc => List.mem_cons_of_mem _ (ih h c hc)
      · cases h

theorem afterAnyKeyword?_fold (keywords : List (List Char)) (cs : List Char) :
    afterAnyKeyword? keywords (fold cs) = (afterAnyKeyword? keywords cs).map fold := by
  simp only [afterAnyKeyword?, afterKeyword?_fold, List.map_findSome?, Function.comp_def]

theorem afterBlanks?_fold (cs : List Char) :
    afterBlanks? (fold cs) = (afterBlanks? cs).map fold := by
  cases cs with
  | nil => rfl
  | cons c cs =>
    rw [fold_cons, afterBlanks?, afterBlanks?, isBlank_lowerChar, dropWhile_fold isBlank_lowerChar]
    split <;> rfl

@[simp] theorem any_isWordChar_map (c : Option Char) :
    (c.map lowerChar).any isWordChar = c.any isWordChar := by
  cases c <;> simp

theorem isBoundary_map (before after : Option Char) :
    isBoundary before (after.map lowerChar) = isBoundary before after := by
  rw [isBoundary, any_isWordChar_map, isBoundary]

theorem isBoundary_map_map (before after : Option Char) :
    isBoundary (before.map lowerChar) (after.map lowerChar) = isBoundary before after := by
  rw [isBoundary_map, isBoundary, any_isWordChar_map, isBoundary]

/-- A recogniser that reads folded texts as it reads the texts themselves, and leaves a part of
them. -/
structure Recogniser.IsFolding (recognise : Recogniser) : Prop where
  reads : ∀ before cs, recognise (before.map lowerChar) (fold cs) = (recognise before cs).map fold
  rest : ∀ before cs rest, recognise before cs = some rest → ∀ c ∈ rest, c ∈ cs

theorem firstMatch?_fold {recognise : Recogniser} (h : recognise.IsFolding) (before : Option Char)
    (cs : List Char) : firstMatch? recognise (before.map lowerChar) (fold cs) =
      (firstMatch? recognise before cs).map fun found => (fold found.1, fold found.2) := by
  induction cs generalizing before with
  | nil =>
    have hnil := h.reads before []
    rw [fold_nil] at hnil
    rw [fold_nil, firstMatch?, firstMatch?, hnil]
    cases recognise before [] <;> rfl
  | cons c cs ih =>
    have hcons := h.reads before (c :: cs)
    rw [fold_cons] at hcons
    rw [fold_cons, firstMatch?, firstMatch?, hcons, ← Option.map_some, ih]
    cases recognise before (c :: cs) with
    | some rest => rfl
    | none => cases firstMatch? recognise (some c) cs <;> rfl

/-- Both the text before and that after the first match are parts of the text. -/
theorem mem_of_firstMatch? {recognise : Recogniser} (h : recognise.IsFolding)
    {before : Option Char} {cs : List Char} {found : List Char × List Char}
    (hfound : firstMatch? recognise before cs = some found) :
    (∀ c ∈ found.1, c ∈ cs) ∧ ∀ c ∈ found.2, c ∈ cs := by
  induction cs generalizing before found with
  | nil =>
    obtain ⟨rest, hrest, rfl⟩ := Option.map_eq_some_iff.mp hfound
    exact ⟨fun c hc => hc, h.rest before [] rest hrest⟩
  | cons d cs ih =>
    rw [firstMatch?] at hfound
    split at hfound
    · next rest hrest =>
      rw [← Option.some.inj hfound]
      exact ⟨by simp, h.rest before (d :: cs) rest hrest⟩
    · obtain ⟨inner, hinner, rfl⟩ := Option.map_eq_some_iff.mp hfound
      obtain ⟨hskipped, hrest⟩ := ih hinner
      refine ⟨fun c hc => ?_, fun c hc => List.mem_cons_of_mem _ (hrest c hc)⟩
      rcases List.mem_cons.mp hc with rfl | hc
      · exact List.mem_cons_self
      · exact List.mem_cons_of_mem _ (hskipped c hc)

theorem substituteAfter_fold {recognise : Option Char → List Char → Option (Nat × List Char)}
    (h : ∀ before cs, IsUniform cs → recognise (before.map lowerChar) (fold cs) =
      (recognise before cs).map fun found => (found.1, fold found.2))
    (before : Option Char) (skip : Nat) {cs : List Char} (hcs : IsUniform cs) :
    substituteAfter recognise (before.map lowerChar) skip (fold cs) =
      fold (substituteAfter recognise before skip cs) := by
  induction cs generalizing before skip with
  | nil => rfl
  | cons c cs ih =>
    have hrest : IsUniform cs := fun d hd => hcs d (List.mem_cons_of_mem _ hd)
    cases skip with
    | succ skip => exact ih (some c) skip hrest
    | zero =>
      have hcons := h before (c :: cs) hcs
      have htail := fun skip => ih (some c) skip hrest
      rw [fold_cons] at hcons
      rw [fold_cons, substituteAfter, substituteAfter, hcons, ← Option.map_some]
      simp only [htail]
      cases recognise before (c :: cs) <;> simp

theorem substitute_fold {recognise : Option Char → List Char → Option (Nat × List Char)}
    (h : ∀ before cs, IsUniform cs → recognise (before.map lowerChar) (fold cs) =
      (recognise before cs).map fun found => (found.1, fold found.2))
    {cs : List Char} (hcs : IsUniform cs) :
    substitute recognise (fold cs) = fold (substitute recognise cs) :=
  substituteAfter_fold h none 0 hcs

theorem cutAfter_fold {recognise : List Char → Option Nat}
    (h : ∀ cs, recognise (fold cs) = recognise cs) (skip : Nat) (cs : List Char) :
    cutAfter recognise skip (fold cs) = (cutAfter recognise skip cs).map fold := by
  induction cs generalizing skip with
  | nil => rfl
  | cons c cs ih =>
    cases skip with
    | succ skip => exact ih skip
    | zero =>
      have hcons := h (c :: cs)
      rw [fold_cons] at hcons
      rw [fold_cons, cutAfter, cutAfter, hcons]
      simp only [ih]
      cases recognise (c :: cs) with
      | some more => rfl
      | none => cases cutAfter recognise 0 cs <;> rfl

theorem cut_fold {recognise : List Char → Option Nat} (h : ∀ cs, recognise (fold cs) = recognise cs)
    (cs : List Char) : cut recognise (fold cs) = (cut recognise cs).map fold :=
  cutAfter_fold h 0 cs

/-! ## What scanning leaves -/

/-- What holds of the characters of a text and of those written for its pieces holds of the text with
its pieces replaced. -/
theorem forall_mem_substitute {P : Char → Prop}
    {recognise : Option Char → List Char → Option (Nat × List Char)}
    (h : ∀ before cs found, (∀ c ∈ cs, P c) → recognise before cs = some found →
      ∀ c ∈ found.2, P c)
    {cs : List Char} (hcs : ∀ c ∈ cs, P c) : ∀ c ∈ substitute recognise cs, P c := by
  -- a piece just replaced is still being skipped, so the induction is over every place in it
  have hafter : ∀ (cs : List Char) (before : Option Char) (skip : Nat), (∀ c ∈ cs, P c) →
      ∀ c ∈ substituteAfter recognise before skip cs, P c := by
    intro cs
    induction cs with
    | nil => exact fun _ _ _ c hc => by cases hc
    | cons d cs ih =>
      intro before skip hcs
      have hrest : ∀ c ∈ cs, P c := fun c hc => hcs c (List.mem_cons_of_mem _ hc)
      cases skip with
      | succ skip => exact ih (some d) skip hrest
      | zero =>
        rw [substituteAfter]
        cases hfound : recognise before (d :: cs) with
        | none =>
          intro c hc
          rcases List.mem_cons.mp hc with rfl | hc
          · exact hcs c List.mem_cons_self
          · exact ih (some d) 0 hrest c hc
        | some found =>
          intro c hc
          rcases List.mem_append.mp hc with hc | hc
          · exact h before (d :: cs) found hcs hfound c hc
          · exact ih (some d) found.1 hrest c hc
  exact hafter cs none 0 hcs

theorem mem_of_mem_cut {recognise : List Char → Option Nat} {cs piece : List Char}
    (h : piece ∈ cut recognise cs) : ∀ c ∈ piece, c ∈ cs := by
  -- in the middle of a separator nothing is kept, so the induction runs over every number of
  -- characters still to be skipped
  have hafter : ∀ (cs : List Char) (skip : Nat), ∀ piece ∈ cutAfter recognise skip cs,
      ∀ c ∈ piece, c ∈ cs := by
    intro cs
    induction cs with
    | nil => simp [cutAfter]
    | cons d cs ih =>
      have hrest : ∀ skip, ∀ piece ∈ cutAfter recognise skip cs, ∀ c ∈ piece, c ∈ d :: cs :=
        fun skip piece hpiece c hc => List.mem_cons_of_mem _ (ih skip piece hpiece c hc)
      intro skip
      cases skip with
      | succ skip => exact hrest skip
      | zero =>
        intro piece hpiece
        rw [cutAfter] at hpiece
        split at hpiece
        · rcases List.mem_cons.mp hpiece with rfl | hpiece
          · simp
          · exact hrest _ piece hpiece
        · split at hpiece
          · rw [List.mem_singleton.mp hpiece]
            simp
          · next first rest hcut =>
            have hfirst := hrest 0 first (by simp [hcut])
            rcases List.mem_cons.mp hpiece with rfl | hpiece
            · intro c hc
              rcases List.mem_cons.mp hc with rfl | hc
              · exact List.mem_cons_self
              · exact hfirst c hc
            · exact hrest 0 piece (by simp [hcut, hpiece])
  exact hafter cs 0 piece h

end SheetQuery.Text
