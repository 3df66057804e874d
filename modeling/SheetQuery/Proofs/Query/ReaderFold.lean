import SheetQuery.Proofs.Cell.Fold
import SheetQuery.Query.Clause

/-!
# Readers up to case

A reader of pieces of queries folds if it reads a folded text as it reads the text, with the letters
of what it reads folded as well. The ways of putting readers together that the forms of clauses use
keep this, and numerals are read to the very same number.

* `takeNumeral?_fold`, `numeral?_fold`: numerals have no case;
* `Folds`: the property, together with the kind of what is read from texts of uniform letters;
* `Folds.map`, `Folds.bind`, `Folds.findSome?`, `folds_afterPhrase?`, `folds_pastBlanks?`,
  `folds_spaced?`: the combinators.
-/

namespace SheetQuery.Query

open Text (fold lowerChar isBlank IsUniform)

/-! ## Numerals -/

/-- Is lower-casing of no effect on a text? -/
def IsFolded (cs : List Char) : Prop := fold cs = cs

theorem IsFolded.isUniform {cs : List Char} (h : IsFolded cs) : IsUniform cs := by
  rw [← h]
  exact Text.isUniform_fold cs

theorem IsFolded.append {xs ys : List Char} (hxs : IsFolded xs) (hys : IsFolded ys) :
    IsFolded (xs ++ ys) := by
  rw [IsFolded, Text.fold_append, hxs, hys]

theorem isFolded_of_forall {cs : List Char} (h : ∀ c ∈ cs, lowerChar c = c) : IsFolded cs := by
  rw [IsFolded, fold, List.map_congr_left h, List.map_id']

/-- The characters of numerals. -/
def isNumeralChar (c : Char) : Bool := Text.isDigit c || c == '.' || c == '-'

theorem isFolded_of_numeral {cs : List Char} (h : ∀ c ∈ cs, isNumeralChar c = true) : IsFolded cs := by
  apply isFolded_of_forall
  intro c hc
  have hchar := h c hc
  simp only [isNumeralChar, Bool.or_eq_true, beq_iff_eq] at hchar
  rcases hchar with (hdigit | rfl) | rfl
  · exact Text.lowerChar_of_isDigit hdigit
  · decide
  · decide

theorem not_isBlank_of_isNumeralChar {c : Char} (h : isNumeralChar c = true) : isBlank c = false := by
  rw [← Bool.not_eq_true]
  intro hblank
  rw [isNumeralChar, Text.isDigit_of_isBlank hblank, Bool.false_or, Bool.or_eq_true, beq_iff_eq,
    beq_iff_eq] at h
  rcases h with rfl | rfl
  · exact absurd hblank (by decide)
  · exact absurd hblank (by decide)

/-- A reader that takes a numeral off the start of a text, the same one in any case. -/
structure TakesNumeral (take : List Char → Option (List Char × List Char)) : Prop where
  fold : ∀ cs, take (Text.fold cs) = (take cs).map fun found => (found.1, Text.fold found.2)
  chars : ∀ cs found, take cs = some found → ∀ c ∈ found.1, isNumeralChar c = true
  parts : ∀ cs found, take cs = some found → found.1 ++ found.2 = cs

theorem TakesNumeral.folded {take : List Char → Option (List Char × List Char)}
    (h : TakesNumeral take) {cs : List Char} {found : List Char × List Char}
    (hfound : take cs = some found) : IsFolded found.1 :=
  isFolded_of_numeral (h.chars cs found hfound)

theorem takesNumeral_takeDigits? : TakesNumeral takeDigits? := by
  have hdigits : ∀ cs : List Char, ∀ c ∈ cs.takeWhile Text.isDigit, isNumeralChar c = true := by
    intro cs c hc
    rw [isNumeralChar, List.all_eq_true.mp List.all_takeWhile c hc]
    rfl
  constructor
  · intro cs
    have hspan : (Text.fold cs).span Text.isDigit =
        (cs.takeWhile Text.isDigit, Text.fold (cs.dropWhile Text.isDigit)) := by
      rw [List.span_eq_takeWhile_dropWhile, Text.takeWhile_fold Text.isDigit_lowerChar,
        Text.dropWhile_fold Text.isDigit_lowerChar, isFolded_of_numeral (hdigits cs)]
    rw [takeDigits?, takeDigits?, hspan, List.span_eq_takeWhile_dropWhile]
    cases cs.takeWhile Text.isDigit <;> rfl
  · intro cs found h
    rw [takeDigits?, List.span_eq_takeWhile_dropWhile] at h
    split at h
    · cases h
    · rw [← Option.some.inj h]
      exact hdigits cs
  · intro cs found h
    rw [takeDigits?, List.span_eq_takeWhile_dropWhile] at h
    split at h
    · cases h
    · rw [← Option.some.inj h]
      exact List.takeWhile_append_dropWhile

theorem head?_fold_eq_some_iff {c : Char} (hc : Text.isPlainAscii c = true) {cs : List Char} :
    (fold cs).head? = some c ↔ cs.head? = some c := by
  cases cs with
  | nil => rfl
  | cons d cs =>
    rw [Text.fold_cons, List.head?_cons, List.head?_cons, Option.some_inj, Option.some_inj,
      Text.lowerChar_eq_iff hc]

/-- Digits that no point follows are a whole numeral. -/
theorem takeUnsigned?_of_head?_ne {cs whole rest : List Char}
    (h : takeDigits? cs = some (whole, rest)) (hrest : rest.head? ≠ some '.') :
    takeUnsigned? cs = some (whole, rest) := by
  rw [takeUnsigned?, h]
  simp only
  split
  · next heq => exact absurd rfl hrest
  · rfl

/-- Without a minus sign, a signed numeral is an unsigned one. -/
theorem takeSigned?_of_head?_ne {take : List Char → Option (List Char × List Char)} {cs : List Char}
    (h : cs.head? ≠ some '-') : takeSigned? take cs = take cs := by
  unfold takeSigned?
  split
  · next heq => exact absurd rfl h
  · rfl

theorem takesNumeral_takeUnsigned? : TakesNumeral takeUnsigned? := by
  obtain ⟨hfold, hchars, hparts⟩ := takesNumeral_takeDigits?
  have hpoint : lowerChar '.' = '.' := by decide
  constructor
  · intro cs
    cases hdigits : takeDigits? cs with
    | none => rw [takeUnsigned?, takeUnsigned?, hfold, hdigits]; rfl
    | some found =>
      obtain ⟨whole, rest⟩ := found
      have hdigits' := hfold cs
      rw [hdigits] at hdigits'
      -- a point is no letter, so it follows the digits in any case
      by_cases hrest : rest.head? = some '.'
      · obtain ⟨after, rfl⟩ := List.head?_eq_some_iff.mp hrest
        rw [takeUnsigned?, takeUnsigned?, hdigits', hdigits]
        simp only [Option.map_some, Text.fold_cons, hpoint, hfold]
        cases takeDigits? after <;> simp [hpoint]
      · have hlower : (Text.fold rest).head? ≠ some '.' := by
          rwa [Ne, head?_fold_eq_some_iff (by decide)]
        rw [takeUnsigned?_of_head?_ne hdigits hrest, takeUnsigned?_of_head?_ne hdigits' hlower]
        rfl
  · intro cs found h
    unfold takeUnsigned? at h
    split at h
    · cases h
    · next whole rest hwhole =>
      split at h
      · split at h
        · next fraction after hfraction =>
          rw [← Option.some.inj h]
          intro c hc
          rcases List.mem_append.mp hc with hc | hc
          · exact hchars _ _ hwhole c hc
          · rcases List.mem_cons.mp hc with rfl | hc
            · decide
            · exact hchars _ _ hfraction c hc
        · rw [← Option.some.inj h]
          exact hchars _ _ hwhole
      · rw [← Option.some.inj h]
        exact hchars _ _ hwhole
  · intro cs found h
    unfold takeUnsigned? at h
    split at h
    · cases h
    · next whole rest hwhole =>
      have hcs := hparts _ _ hwhole
      split at h
      · split at h
        · next fraction after hfraction =>
          rw [← Option.some.inj h, ← hcs, ← hparts _ _ hfraction]
          simp
        · rw [← Option.some.inj h, hcs]
      · rw [← Option.some.inj h, hcs]

theorem takesNumeral_takeSigned? {take : List Char → Option (List Char × List Char)}
    (h : TakesNumeral take) : TakesNumeral (takeSigned? take) := by
  have hminus : lowerChar '-' = '-' := by decide
  constructor
  · intro cs
    by_cases hcs : cs.head? = some '-'
    · obtain ⟨rest, rfl⟩ := List.head?_eq_some_iff.mp hcs
      rw [Text.fold_cons, hminus, takeSigned?, takeSigned?, h.fold]
      cases take rest <;> rfl
    · have hlower : (Text.fold cs).head? ≠ some '-' := by
        rwa [Ne, head?_fold_eq_some_iff (by decide)]
      rw [takeSigned?_of_head?_ne hlower, h.fold, takeSigned?_of_head?_ne hcs]
  · intro cs found hfound
    unfold takeSigned? at hfound
    split at hfound
    · obtain ⟨inner, hinner, rfl⟩ := Option.map_eq_some_iff.mp hfound
      intro c hc
      rcases List.mem_cons.mp hc with rfl | hc
      · decide
      · exact h.chars _ _ hinner c hc
    · exact h.chars _ _ hfound
  · intro cs found hfound
    unfold takeSigned? at hfound
    split at hfound
    · obtain ⟨inner, hinner, rfl⟩ := Option.map_eq_some_iff.mp hfound
      exact congrArg ('-' :: ·) (h.parts _ _ hinner)
    · exact h.parts _ _ hfound

theorem takesNumeral_takeNumeral? : TakesNumeral takeNumeral? :=
  takesNumeral_takeSigned? takesNumeral_takeUnsigned?

/-! ## Operands -/

theorem operand_fold (cs : List Char) : operand (fold cs) = (operand cs).fold := by
  have h := Cell.castNumeral_fold (.text (String.ofList cs))
  rwa [Cell.fold, String.toList_ofList] at h

theorem isUniform_operand {cs : List Char} (h : IsUniform cs) : (operand cs).IsUniform := by
  apply Cell.isUniform_castNumeral
  rintro _ ⟨⟩
  rwa [String.toList_ofList]

theorem fold_operand {cs : List Char} (h : IsFolded cs) : (operand cs).fold = operand cs := by
  rw [← operand_fold, h]

/-- A cell that is a text without case, or no text. -/
structure IsCaseless (cell : Cell) : Prop where
  fold : cell.fold = cell
  uniform : cell.IsUniform

theorem isCaseless_operand {cs : List Char} (h : IsFolded cs) : IsCaseless (operand cs) where
  fold := fold_operand h
  uniform := isUniform_operand h.isUniform

/-! ## Readers -/

variable {α β : Type} {f : α → α} {g : β → β} {P : α → Prop} {Q : β → Prop}
  {read : List Char → Option α}

/-- Does a reader read a folded text as it reads the text, but for an `f` of what is read? And is
what it reads from a text of uniform letters of kind `P`? -/
structure Folds (f : α → α) (P : α → Prop) (read : List Char → Option α) : Prop where
  reads : ∀ cs, IsUniform cs → read (Text.fold cs) = (read cs).map f
  kind : ∀ cs, IsUniform cs → ∀ a, read cs = some a → P a

/-- A reader that looks at the start of a text and hands on the rest of it. -/
abbrev Step := List Char → Option (List Char)

theorem Folds.map {h : α → β} (hread : Folds f P read) (hfold : ∀ a, P a → h (f a) = g (h a))
    (hkind : ∀ a, P a → Q (h a)) : Folds g Q fun cs => (read cs).map h := by
  constructor
  · intro cs hcs
    rw [hread.reads cs hcs]
    cases ha : read cs with
    | none => rfl
    | some a => exact congrArg some (hfold a (hread.kind cs hcs a ha))
  · intro cs hcs b hb
    obtain ⟨a, ha, rfl⟩ := Option.map_eq_some_iff.mp hb
    exact hkind a (hread.kind cs hcs a ha)

/-- Reading on after a piece without case. -/
theorem TakesNumeral.after {take : List Char → Option (List Char × List Char)}
    {reads : List Char → List Char → Option α} (htake : TakesNumeral take)
    (hreads : ∀ piece, IsFolded piece → Folds f P (reads piece)) :
    Folds f P fun cs => (take cs).bind fun found => reads found.1 found.2 := by
  have hrest : ∀ cs found, IsUniform cs → take cs = some found → IsUniform found.2 := by
    intro cs found hcs hfound c hc
    apply hcs c
    rw [← htake.parts cs found hfound]
    exact List.mem_append_right _ hc
  constructor
  · intro cs hcs
    rw [htake.fold]
    cases hfound : take cs with
    | none => rfl
    | some found =>
      exact (hreads found.1 (htake.folded hfound)).reads found.2 (hrest cs found hcs hfound)
  · intro cs hcs a ha
    obtain ⟨found, hfound, ha⟩ := Option.bind_eq_some_iff.mp ha
    exact (hreads found.1 (htake.folded hfound)).kind found.2
      (hrest cs found hcs hfound) a ha

/-- Reading on after a step. -/
theorem Folds.after {step : Step} (hstep : Folds fold IsUniform step) (hread : Folds f P read) :
    Folds f P fun cs => (step cs).bind read := by
  constructor
  · intro cs hcs
    rw [hstep.reads cs hcs]
    cases hrest : step cs with
    | none => rfl
    | some rest => exact hread.reads rest (hstep.kind cs hcs rest hrest)
  · intro cs hcs a ha
    obtain ⟨rest, hrest, ha⟩ := Option.bind_eq_some_iff.mp ha
    exact hread.kind rest (hstep.kind cs hcs rest hrest) a ha

theorem Folds.or {other : List Char → Option α} (hread : Folds f P read)
    (hother : Folds f P other) : Folds f P fun cs => (read cs).or (other cs) := by
  constructor
  · intro cs hcs
    rw [hread.reads cs hcs, hother.reads cs hcs]
    cases read cs <;> rfl
  · intro cs hcs a ha
    rcases Option.or_eq_some_iff.mp ha with ha | ⟨-, ha⟩
    · exact hread.kind cs hcs a ha
    · exact hother.kind cs hcs a ha

/-- Trying some readers in turn. -/
theorem folds_findSome? {ι : Type} {reads : ι → List Char → Option α} {is : List ι}
    (h : ∀ i ∈ is, Folds f P (reads i)) : Folds f P fun cs => is.findSome? fun i => reads i cs := by
  induction is with
  | nil => exact ⟨fun _ _ => rfl, fun _ _ _ ha => by cases ha⟩
  | cons i is ih =>
    have hor := (h i List.mem_cons_self).or (ih fun j hj => h j (List.mem_cons_of_mem _ hj))
    have heq : (fun cs => (i :: is).findSome? fun j => reads j cs) =
        fun cs => (reads i cs).or (is.findSome? fun j => reads j cs) := by
      funext cs
      rw [List.findSome?_cons]
      cases reads i cs <;> rfl
    rw [heq]
    exact hor

/-! ## Steps -/

theorem isUniform_of_subset {cs rest : List Char} (h : ∀ c ∈ rest, c ∈ cs) (hcs : IsUniform cs) :
    IsUniform rest :=
  fun c hc => hcs c (h c hc)

theorem folds_afterKeyword? (keyword : List Char) :
    Folds fold IsUniform (Text.afterKeyword? keyword) :=
  ⟨fun cs _ => Text.afterKeyword?_fold keyword cs,
    fun _ hcs _ h => isUniform_of_subset (Text.mem_of_afterKeyword? h) hcs⟩

theorem folds_afterBlanks? : Folds fold IsUniform Text.afterBlanks? := by
  refine ⟨fun cs _ => Text.afterBlanks?_fold cs, fun cs hcs rest h => ?_⟩
  cases cs with
  | nil => cases h
  | cons c cs =>
    rw [Text.afterBlanks?] at h
    split at h
    · rw [← Option.some.inj h]
      exact fun d hd => hcs d (List.mem_cons_of_mem _ ((List.dropWhile_sublist _).subset hd))
    · cases h

theorem folds_dropBlanks : Folds fold IsUniform fun cs => some (cs.dropWhile Text.isBlank) := by
  refine ⟨fun cs _ => ?_, fun cs hcs rest h => ?_⟩
  · rw [Text.dropWhile_fold Text.isBlank_lowerChar, Option.map_some]
  · rw [← Option.some.inj h]
    exact fun d hd => hcs d ((List.dropWhile_sublist _).subset hd)

/-! ## Phrases and keywords -/

theorem isPhraseChar_lowerChar (c : Char) : isPhraseChar (lowerChar c) = isPhraseChar c := by
  rw [isPhraseChar, Text.isWordChar_lowerChar, Text.isBlank_lowerChar, isPhraseChar]

theorem IsUniform.of_cons {c : Char} {cs : List Char} (h : IsUniform (c :: cs)) : IsUniform cs :=
  fun d hd => h d (List.mem_cons_of_mem _ hd)

/-- A phrase is a part of the text, and what follows it is read. -/
theorem exists_of_afterPhrase? {cs phrase : List Char} {a : α}
    (h : afterPhrase? read cs = some (phrase, a)) :
    ∃ c tail rest, phrase = c :: tail ∧ cs = phrase ++ rest ∧ read rest = some a := by
  induction cs generalizing phrase with
  | nil => cases h
  | cons c cs ih =>
    rw [afterPhrase?] at h
    split at h
    · split at h
      · next b hb =>
        cases h
        exact ⟨c, [], cs, rfl, rfl, hb⟩
      · obtain ⟨⟨inner, b⟩, hinner, heq⟩ := Option.map_eq_some_iff.mp h
        cases heq
        obtain ⟨_, _, rest, -, hrest, hread⟩ := ih hinner
        exact ⟨c, inner, rest, rfl, by rw [hrest, List.cons_append], hread⟩
    · cases h

theorem folds_afterPhrase? (hread : Folds f P read) :
    Folds (fun found => (fold found.1, f found.2)) (fun found => IsUniform found.1 ∧ P found.2)
      (afterPhrase? read) := by
  constructor
  · intro cs
    induction cs with
    | nil => exact fun _ => rfl
    | cons c cs ih =>
      intro hcs
      have hrest := IsUniform.of_cons hcs
      rw [Text.fold_cons, afterPhrase?, afterPhrase?, isPhraseChar_lowerChar, hread.reads cs hrest,
        ih hrest]
      cases read cs with
      | some a =>
        cases isPhraseChar c <;> rfl
      | none => cases afterPhrase? read cs <;> cases isPhraseChar c <;> rfl
  · intro cs
    induction cs with
    | nil => exact fun _ _ h => by cases h
    | cons c cs ih =>
      intro hcs found hfound
      have hrest := IsUniform.of_cons hcs
      have hc := hcs c List.mem_cons_self
      rw [afterPhrase?] at hfound
      split at hfound
      · split at hfound
        · next a ha =>
          rw [← Option.some.inj hfound]
          exact ⟨fun d hd => by rwa [List.mem_singleton.mp hd], hread.kind cs hrest a ha⟩
        · obtain ⟨inner, hinner, rfl⟩ := Option.map_eq_some_iff.mp hfound
          obtain ⟨hphrase, hkind⟩ := ih hrest inner hinner
          refine ⟨fun d hd => ?_, hkind⟩
          rcases List.mem_cons.mp hd with rfl | hd
          · exact hc
          · exact hphrase d hd
      · cases hfound

theorem folds_pastBlanks? (hread : Folds f P read) : Folds f P (pastBlanks? read) := by
  constructor
  · intro cs
    induction cs with
    | nil => exact fun _ => rfl
    | cons c cs ih =>
      intro hcs
      have hrest := IsUniform.of_cons hcs
      rw [Text.fold_cons, pastBlanks?, pastBlanks?, Text.isBlank_lowerChar, ih hrest,
        hread.reads cs hrest]
      cases Text.isBlank c with
      | false => rfl
      | true => cases pastBlanks? read cs <;> rfl
  · intro cs
    induction cs with
    | nil => exact fun _ _ h => by cases h
    | cons c cs ih =>
      intro hcs a ha
      have hrest := IsUniform.of_cons hcs
      rw [pastBlanks?] at ha
      split at ha
      · rcases Option.or_eq_some_iff.mp ha with ha | ⟨-, ha⟩
        · exact ih hrest a ha
        · exact hread.kind cs hrest a ha
      · cases ha

theorem folds_afterWord? (keywords : List String) (hread : Folds f P read) :
    Folds f P (afterWord? keywords read) :=
  folds_findSome? fun keyword _ =>
    (folds_afterKeyword? keyword.toList).after (folds_pastBlanks? hread)

theorem folds_spaced? (keywords : List String) (hread : Folds f P read) :
    Folds f P (spaced? keywords read) :=
  folds_afterBlanks?.after (folds_afterWord? keywords hread)

/-! ## Values and numbers -/

/-- A numeral that is the whole text, as an operand. -/
theorem folds_whole {take : List Char → Option (List Char × List Char)} (h : TakesNumeral take) :
    Folds id IsCaseless fun cs =>
      match take cs with
      | some (digits, []) => some (operand digits)
      | _ => none := by
  constructor
  · intro cs _
    simp only [h.fold]
    cases take cs with
    | none => rfl
    | some found =>
      obtain ⟨digits, rest⟩ := found
      cases rest with
      | nil => simp only [Option.map_some, Text.fold_nil, id_eq]
      | cons c rest => rfl
  · intro cs _ a ha
    split at ha
    · next digits hdigits =>
      rw [← Option.some.inj ha]
      exact isCaseless_operand (h.folded hdigits)
    · cases ha

theorem folds_numeral? : Folds id IsCaseless numeral? := folds_whole takesNumeral_takeNumeral?

theorem folds_wholeNumeral? : Folds id IsCaseless wholeNumeral? :=
  folds_whole (takesNumeral_takeSigned? takesNumeral_takeDigits?)

/-! ## Values -/

theorem dropOne_of_head?_ne {c : Char} {cs : List Char} (h : cs.head? ≠ some c) :
    dropOne c cs = cs := by
  cases cs with
  | nil => rfl
  | cons d cs =>
    rw [dropOne, if_neg]
    intro hd
    rw [beq_iff_eq.mp hd] at h
    exact h rfl

end SheetQuery.Query
