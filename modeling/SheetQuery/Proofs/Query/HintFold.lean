import SheetQuery.Proofs.Query.ClauseFold
import SheetQuery.Query.Hint

/-!
# Hints up to case

Cues are looked for in the lower-cased text, so a hint applies to a folded text if it applies to the
text. What it reads from it is the same, but for the letters of the texts looked for.

* `folds_phraseAfter?`: the phrase after a verb;
* `folds_requestedTask?`, `folds_comparedNumber?`, ...: the tests that hints read;
* `folds_firstHint?`: the leaf of the first hint that makes one.
-/

namespace SheetQuery.Query

open Text (fold lowerChar IsUniform)

/-! ## Phrases -/

theorem isPhraseStop_lowerChar (c : Char) : isPhraseStop (lowerChar c) = isPhraseStop c := by
  rw [isPhraseStop, Text.lowerChar_beq (by decide), Text.lowerChar_beq (by decide),
    Text.lowerChar_beq (by decide), isPhraseStop]

theorem tail_fold (cs : List Char) : (fold cs).tail = fold cs.tail := by
  cases cs <;> rfl

theorem isFolding_phraseEnd : phraseEnd.IsFolding := by
  constructor
  · intro before cs
    have hstop : (fold cs).head?.any isPhraseStop = cs.head?.any isPhraseStop := by
      cases cs with
      | nil => rfl
      | cons c cs => exact isPhraseStop_lowerChar c
    rw [phraseEnd, phraseEnd, hstop, tail_fold, Text.afterAnyKeyword?_fold]
    split <;> rfl
  · intro before cs rest h
    rw [phraseEnd] at h
    split at h
    · rw [← Option.some.inj h]
      exact fun c hc => List.mem_of_mem_tail hc
    · obtain ⟨keyword, -, h⟩ := List.exists_of_findSome?_eq_some h
      exact Text.mem_of_afterKeyword? h

theorem firstPhrase_fold (cs : List Char) : firstPhrase (fold cs) = fold (firstPhrase cs) := by
  have hfirst := Text.firstMatch?_fold isFolding_phraseEnd none cs
  rw [Option.map_none] at hfirst
  rw [firstPhrase, firstPhrase, hfirst]
  cases Text.firstMatch? phraseEnd none cs <;> rfl

theorem mem_of_mem_firstPhrase {cs : List Char} {c : Char} (h : c ∈ firstPhrase cs) : c ∈ cs := by
  unfold firstPhrase at h
  split at h
  · next phrase rest hfound => exact (Text.mem_of_firstMatch? isFolding_phraseEnd hfound).1 c h
  · exact h

theorem contains_quoteMarks_lowerChar (c : Char) :
    quoteMarks.contains (lowerChar c) = quoteMarks.contains c := by
  have hmarks : ∀ mark ∈ quoteMarks, Text.isPlainAscii mark = true := by decide
  rw [Bool.eq_iff_iff, List.contains_iff_mem, List.contains_iff_mem]
  constructor
  · intro h
    have hc : c = lowerChar c := (Text.lowerChar_eq_iff (hmarks _ h)).mp rfl
    rwa [hc]
  · intro h
    rwa [(Text.lowerChar_eq_iff (hmarks _ h)).mpr rfl]

/-- `fold` on strings. -/
def foldText (s : String) : String := String.ofList (fold s.toList)

theorem folds_phraseAfter? {verb : Text.Recogniser} (h : verb.IsFolding) :
    Folds foldText (fun s => IsUniform s.toList) (phraseAfter? verb) := by
  have hmarks := Text.trimWith_fold (p := quoteMarks.contains) contains_quoteMarks_lowerChar
  constructor
  · intro cs _
    have hfirst := Text.firstMatch?_fold h none cs
    rw [Option.map_none] at hfirst
    rw [phraseAfter?, phraseAfter?, hfirst]
    cases Text.firstMatch? verb none cs with
    | none => rfl
    | some found =>
      simp only [Option.map_some, Text.trim_fold, firstPhrase_fold, hmarks]
      cases Text.trim (Text.trimWith quoteMarks.contains
          (Text.trim (firstPhrase (Text.trim found.2)))) with
      | nil => rfl
      | cons c phrase => simp only [Text.fold_cons, Option.map_some, foldText, String.toList_ofList]
  · intro cs hcs s hs
    unfold phraseAfter? at hs
    split at hs
    · cases hs
    · next skipped rest hfound =>
      -- the phrase is cut out of the text, so its letters are letters of the text
      have hrest : IsUniform rest :=
        fun c hc => hcs c ((Text.mem_of_firstMatch? h hfound).2 c hc)
      have hphrase : IsUniform (firstPhrase (Text.trim rest)) :=
        fun c hc => isUniform_trim hrest c (mem_of_mem_firstPhrase hc)
      split at hs
      · cases hs
      · rw [← Option.some.inj hs, String.toList_ofList]
        exact isUniform_trim (isUniform_trimWith (isUniform_trim hphrase))

theorem isFolding_equalsVerb : equalsVerb.IsFolding := by
  have hwords := isFolding_afterWholeWord? ["equals".toList, "is".toList]
  constructor
  · intro before cs
    have hsign : ((fold cs).head? == some '=') = (cs.head? == some '=') := by
      cases cs with
      | nil => rfl
      | cons c cs => exact Text.lowerChar_beq (by decide) c
    rw [equalsVerb, equalsVerb, hsign, tail_fold, hwords.reads]
    split <;> rfl
  · intro before cs rest h
    rw [equalsVerb] at h
    split at h
    · rw [← Option.some.inj h]
      exact fun c hc => List.mem_of_mem_tail hc
    · exact hwords.rest before cs rest h

/-! ## Numbers and identifiers -/

theorem firstNumeral?_fold (cs : List Char) : firstNumeral? (fold cs) = firstNumeral? cs := by
  induction cs with
  | nil => rfl
  | cons c cs ih =>
    have htake := takesNumeral_takeNumeral?.fold (c :: cs)
    rw [Text.fold_cons] at htake
    rw [Text.fold_cons, firstNumeral?, firstNumeral?, htake, ih]
    cases takeNumeral? (c :: cs) with
    | none => simp only [Option.map_none]
    | some found => simp only [Option.map_some]

theorem isCaseless_firstNumeral? {cs : List Char} {operand : Cell}
    (h : firstNumeral? cs = some operand) : IsCaseless operand := by
  induction cs with
  | nil => cases h
  | cons c cs ih =>
    rw [firstNumeral?] at h
    split at h
    · next digits rest hfound =>
      rw [← Option.some.inj h]
      exact isCaseless_operand (takesNumeral_takeNumeral?.folded hfound)
    · exact ih h

theorem folds_firstNumeral? : Folds id IsCaseless firstNumeral? := by
  refine ⟨fun cs _ => ?_, fun _ _ _ h => isCaseless_firstNumeral? h⟩
  rw [firstNumeral?_fold, Option.map_id_apply]

theorem likelyComparator?_fold {text : List Char} (h : IsUniform text) :
    likelyComparator? (fold text) = likelyComparator? text := by
  simp only [likelyComparator?, Text.lower_fold h]

theorem taskId?_fold (before : Option Char) (cs : List Char) :
    taskId? (before.map lowerChar) (fold cs) = (taskId? before cs).map fold := by
  rw [taskId?, taskId?, Text.head?_fold, Text.isBoundary_map_map]
  split
  · rw [Text.afterKeyword?_fold]
    cases Text.afterKeyword? ['T'] cs with
    | none => rfl
    | some rest =>
      simp only [Option.map_some, takesNumeral_takeDigits?.fold]
      cases takeDigits? rest with
      | none => rfl
      | some found =>
        simp only [Option.map_some, Text.head?_fold, Text.isBoundary_map]
        split
        · rw [Option.map_some, Text.fold_take]
        · rfl
  · rfl

theorem mem_of_taskId? {before : Option Char} {cs task : List Char}
    (h : taskId? before cs = some task) : ∀ c ∈ task, c ∈ cs := by
  unfold taskId? at h
  split at h
  · split at h
    · cases h
    · split at h
      · split at h
        · rw [← Option.some.inj h]
          exact fun c hc => List.mem_of_mem_take hc
        · cases h
      · cases h
  · cases h

theorem folds_firstTaskId? (before : Option Char) (cs : List Char) :
    firstTaskId? (before.map lowerChar) (fold cs) = (firstTaskId? before cs).map fold ∧
      ∀ task, firstTaskId? before cs = some task → ∀ c ∈ task, c ∈ cs := by
  induction cs generalizing before with
  | nil => exact ⟨rfl, fun _ h => by cases h⟩
  | cons c cs ih =>
    obtain ⟨hreads, hmem⟩ := ih (some c)
    constructor
    · have htask := taskId?_fold before (c :: cs)
      rw [Text.fold_cons] at htask
      rw [Text.fold_cons, firstTaskId?, firstTaskId?, htask, ← Option.map_some, hreads]
      cases taskId? before (c :: cs) <;> rfl
    · intro task h
      rcases Option.or_eq_some_iff.mp h with h | ⟨-, h⟩
      · exact mem_of_taskId? h
      · exact fun d hd => List.mem_cons_of_mem _ (hmem task h d hd)

/-! ## Tests -/

theorem isUniform_text {s : String} (h : IsUniform s.toList) : (Cell.text s).IsUniform := by
  rintro _ ⟨⟩
  exact h

theorem folds_comparedNumber? : Folds Test.fold Test.IsSpoken comparedNumber? := by
  constructor
  · intro cs hcs
    rw [comparedNumber?, comparedNumber?, likelyComparator?_fold hcs,
      folds_firstNumeral?.reads cs hcs, Option.map_id]
    cases likelyComparator? cs with
    | none => rfl
    | some comparator =>
      cases hoperand : firstNumeral? cs with
      | none => rfl
      | some operand =>
        have hfold := fold_compare (folds_firstNumeral?.kind cs hcs operand hoperand) comparator
        simp only [id_eq, Option.map_some, hfold]
  · intro cs hcs test h
    unfold comparedNumber? at h
    split at h
    · next comparator operand _ hoperand =>
      rw [← Option.some.inj h]
      exact isSpoken_compare (folds_firstNumeral?.kind cs hcs operand hoperand).uniform comparator
    · cases h

theorem folds_equality {verb : Text.Recogniser} (h : verb.IsFolding) :
    Folds Test.fold Test.IsSpoken fun text =>
      (phraseAfter? verb text).map fun phrase => .compare .eq (.text phrase) :=
  (folds_phraseAfter? h).map (fun _ _ => rfl) fun _ hphrase => isUniform_text hphrase

theorem folds_equalPhrase? : Folds Test.fold Test.IsSpoken equalPhrase? :=
  folds_equality isFolding_equalsVerb

theorem folds_groupPhrase? : Folds Test.fold Test.IsSpoken groupPhrase? :=
  folds_equalPhrase?.or (folds_equality (isFolding_afterWholeWord? _))

theorem folds_includedPhrase? : Folds Test.fold Test.IsSpoken includedPhrase? :=
  (folds_phraseAfter? (isFolding_afterWholeWord? _)).map (fun _ _ => rfl)
    fun _ hphrase => isUniform_text hphrase

theorem folds_includedNumber? : Folds Test.fold Test.IsSpoken includedNumber? := by
  apply folds_firstNumeral?.map
  · intro operand h
    rw [Test.fold, h.fold, id_eq]
  · exact fun operand h => h.uniform

theorem folds_exceedsNumber? : Folds Test.fold Test.IsSpoken exceedsNumber? := by
  apply folds_firstNumeral?.map
  · exact fun _ _ => rfl
  · exact fun _ _ => trivial

theorem folds_requestedTask? : Folds Test.fold Test.IsSpoken requestedTask? := by
  constructor
  · intro cs _
    have htask := (folds_firstTaskId? none cs).1
    rw [Option.map_none] at htask
    rw [requestedTask?, requestedTask?, htask]
    cases firstTaskId? none cs with
    | none => rfl
    | some task => simp only [Option.map_some, Test.fold, Cell.fold, String.toList_ofList]
  · intro cs hcs test h
    obtain ⟨task, htask, rfl⟩ := Option.map_eq_some_iff.mp h
    apply isUniform_text
    rw [String.toList_ofList]
    exact fun c hc => hcs c ((folds_firstTaskId? none cs).2 task htask c hc)

/-! ## Hints -/

theorem folds_hints (entity : Entity) : ∀ hint ∈ lastHints entity,
    Folds Test.fold Test.IsSpoken hint.read := by
  cases entity <;>
    simp only [lastHints, List.forall_mem_cons, List.not_mem_nil, false_implies, implies_true,
      and_true, folds_includedPhrase?, folds_groupPhrase?, folds_includedNumber?,
      folds_exceedsNumber?, folds_comparedNumber?, folds_requestedTask?]

theorem folds_hintLeaf? {hint : Hint} (h : Folds Test.fold Test.IsSpoken hint.read)
    (columns : List String) :
    Folds Leaf.fold (fun leaf => leaf.test.IsSpoken) (hint.leaf? columns) := by
  constructor
  · intro cs hcs
    rw [Hint.leaf?, Hint.leaf?, Text.lower_fold hcs, h.reads cs hcs, Option.map_map]
    split
    · rw [Option.map_map]
      rfl
    · rfl
  · intro cs hcs leaf hleaf
    unfold Hint.leaf? at hleaf
    split at hleaf
    · obtain ⟨test, htest, rfl⟩ := Option.map_eq_some_iff.mp hleaf
      exact h.kind cs hcs test htest
    · cases hleaf

/-- The last hints make the same leaf in any case, but for the letters of the text looked for. -/
theorem folds_lastResort? (entity : Entity) (schema : Schema) :
    Folds Leaf.fold (fun leaf => leaf.test.IsSpoken) (lastResort? entity schema) :=
  folds_findSome? fun hint hmem => folds_hintLeaf? (folds_hints entity hint hmem) schema.names

end SheetQuery.Query
