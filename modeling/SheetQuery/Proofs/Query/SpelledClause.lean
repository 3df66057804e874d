import SheetQuery.Proofs.Query.SignedClause

/-!
# Comparisons in words

A query `<phrase> <comparator> <number>`, with the comparator in words, in letters of any case, is one
clause, and its leaf is that comparison. The word `equals` is read by the form for equality, before
the comparators in words have their turn.

* `comparisonText`: a comparison with single spaces;
* `IsSpelled`: a spelling of a comparator;
* `IsSpelled.clauses_eq`: the query is one clause;
* `IsSpelled.clauseLeaf?_eq`: its leaf.
-/

namespace SheetQuery.Query

open Text (isBlank isWordChar sameLetter tailsAfterBlanks clashes)

/-- The query that compares a phrase with a number, with single spaces between its parts. -/
def comparisonText (phrase keyword number : List Char) : List Char :=
  phrase ++ ' ' :: (keyword ++ ' ' :: number)

/-- A comparison ends with a character of its number. -/
theorem getLast?_comparisonTail (keyword : List Char) {number : List Char}
    (hnumber : IsNumeral number) :
    ∀ c ∈ (' ' :: (keyword ++ ' ' :: number)).getLast?, isBlank c = false := by
  have hparts : ' ' :: (keyword ++ ' ' :: number) = (' ' :: (keyword ++ [' '])) ++ number := by simp
  rw [hparts, List.getLast?_append_of_ne_nil _ hnumber.ne_nil]
  exact hnumber.getLast?

/-- A comparator in words, in letters of any case. -/
structure IsSpelled (spelled : List Char) (entry : String × Comparator) : Prop where
  word : entry ∈ Vocabulary.spelledComparators
  fold : Text.fold spelled = entry.1.toList

namespace IsSpelled

variable {phrase spelled number : List Char} {entry : String × Comparator}

theorem ne_nil (h : IsSpelled spelled entry) : spelled ≠ [] := by
  have hall : ∀ entry ∈ Vocabulary.spelledComparators, entry.1.toList ≠ [] := by decide
  rintro rfl
  exact hall entry h.word h.fold.symm

/-- What holds of all letters of the comparators in lower case holds of their letters in any case. -/
theorem forall_mem (h : IsSpelled spelled entry) {p : Char → Bool}
    (hp : ∀ c, p (Text.lowerChar c) = p c) (hall : ∀ c ∈ entry.1.toList, p c = true) :
    ∀ c ∈ spelled, p c = true := by
  intro c hc
  rw [← hp]
  apply hall
  rw [← h.fold]
  exact List.mem_map_of_mem hc

theorem isPhraseChar (h : IsSpelled spelled entry) : ∀ c ∈ spelled, isPhraseChar c = true := by
  have hall : ∀ entry ∈ Vocabulary.spelledComparators, ∀ c ∈ entry.1.toList,
      Query.isPhraseChar c = true := by
    decide
  exact h.forall_mem isPhraseChar_lowerChar (hall entry h.word)

theorem isUniform (h : IsSpelled spelled entry) : Text.IsUniform spelled := by
  have hall : ∀ entry ∈ Vocabulary.spelledComparators,
      Text.lowerChar 'Σ' ∉ entry.1.toList ∧ Text.lowerChar 'İ' ∉ entry.1.toList := by
    decide
  obtain ⟨hsigma, hdotted⟩ := hall entry h.word
  rw [← h.fold] at hsigma hdotted
  intro c hc
  rw [Text.isUniform, Bool.and_eq_true, bne_iff_ne, bne_iff_ne]
  constructor
  · rintro rfl
    exact hsigma (List.mem_map_of_mem hc)
  · rintro rfl
    exact hdotted (List.mem_map_of_mem hc)

theorem head? (h : IsSpelled spelled entry) : ∀ c ∈ spelled.head?, isBlank c = false := by
  have hall : ∀ entry ∈ Vocabulary.spelledComparators, ∀ c ∈ entry.1.toList.head?,
      isBlank c = false := by
    decide
  intro c hc
  rw [← Text.isBlank_lowerChar]
  apply hall entry h.word
  rw [← h.fold, Text.head?_fold, Option.mem_def.mp hc]
  rfl

theorem clashes_eq (h : IsSpelled spelled entry) (keyword : List Char) :
    clashes keyword spelled = clashes keyword entry.1.toList := by
  rw [← h.fold, Text.clashes_fold]

/-- A keyword clashes with all later words of a spelling if it does so in lower case. -/
theorem clashes_of_mem_tails (h : IsSpelled spelled entry) {keyword : List Char}
    (hall : ∀ t ∈ tailsAfterBlanks entry.1.toList, clashes keyword t = true) :
    ∀ t ∈ tailsAfterBlanks spelled, clashes keyword t = true := by
  intro t ht
  rw [← Text.clashes_fold]
  apply hall
  rw [← h.fold, Text.tailsAfterBlanks_fold]
  exact List.mem_map_of_mem ht

/-! ### One clause -/

/-- A keyword that does not begin the comparator stands nowhere after a blank of what follows the
phrase. -/
theorem afterKeyword?_eq_none (h : IsSpelled spelled entry) (hnumber : IsNumeral number)
    {keyword : String} (hkeyword : keyword ∈ linkKeywords)
    (hclash : clashes keyword.toList entry.1.toList = true) :
    ∀ t ∈ tailsAfterBlanks (' ' :: (spelled ++ ' ' :: number)),
      Text.afterKeyword? keyword.toList t = none := by
  have hall : ∀ entry ∈ Vocabulary.spelledComparators, ∀ t ∈ tailsAfterBlanks entry.1.toList,
      ∀ keyword ∈ linkKeywords, clashes keyword.toList t = true := by
    decide
  rw [Text.tailsAfterBlanks_space_cons, Text.tailsAfterBlanks_append,
    Text.tailsAfterBlanks_space_cons, Text.tailsAfterBlanks_eq_nil hnumber.not_isBlank]
  intro t ht
  rcases List.mem_cons.mp ht with rfl | ht
  · exact Text.afterKeyword?_of_clashes (by rw [h.clashes_eq, hclash]) _
  · rcases List.mem_append.mp ht with ht | ht
    · obtain ⟨inner, hinner, rfl⟩ := List.mem_map.mp ht
      have htails := h.clashes_of_mem_tails fun t ht => hall entry h.word t ht keyword hkeyword
      exact Text.afterKeyword?_of_clashes (htails inner hinner) _
    · rw [List.mem_singleton.mp ht]
      simpa using hnumber.afterLink?_eq_none (List.mem_append_left spelledKeywords hkeyword) []

/-- After the phrase of a comparison in words comes no filler. -/
theorem firstMatch?_fillers (h : IsSpelled spelled entry) (hnumber : IsNumeral number) :
    Text.firstMatch? (afterWholeWord? fillers) (some ' ') (spelled ++ ' ' :: number) = none := by
  have hall : ∀ entry ∈ Vocabulary.spelledComparators,
      Text.firstMatch? (afterWholeWord? fillers) (some ' ') entry.1.toList = none := by
    decide
  have hspelled : Text.firstMatch? (afterWholeWord? fillers) (some ' ') spelled = none := by
    -- fillers are found in any case, so they are looked for in lower case
    have hfold := Text.firstMatch?_fold (isFolding_afterWholeWord? fillers) (some ' ') spelled
    have hspace : (some ' ').map Text.lowerChar = some ' ' := by decide
    rw [h.fold, hspace, hall entry h.word] at hfold
    exact Option.map_eq_none_iff.mp hfold.symm
  have hsigned : ∀ c ∈ number, isSignedChar c = true := fun c hc => by
    rw [isSignedChar, hnumber.chars c hc, Bool.or_true]
  exact Text.firstMatch?_append_cons (stopsAt_afterWholeWord? (by decide) (by decide)) hspelled
    (firstMatch?_of_isSignedChar hsigned (some ' '))

theorem mark_not_mem (h : IsSpelled spelled entry) (hnumber : IsNumeral number) :
    ∀ mark ∈ [',', ';'], mark ∉ ' ' :: (spelled ++ ' ' :: number) := by
  have hall : ∀ mark ∈ [',', ';'], mark ≠ ' ' ∧ Query.isPhraseChar mark = false ∧
      isNumeralChar mark = false := by
    decide
  intro mark hmark hmem
  obtain ⟨hspace, hword, hnumeral⟩ := hall mark hmark
  simp only [List.mem_cons, List.mem_append] at hmem
  rcases hmem with hc | hc | hc | hc
  · exact hspace hc
  · rw [h.isPhraseChar mark hc] at hword
    cases hword
  · exact hspace hc
  · rw [hnumber.chars mark hc] at hnumeral
    cases hnumeral

/-- A comparison in words is one clause. -/
theorem clauses_eq (h : IsSpelled spelled entry) (hphrase : IsWhole phrase)
    (hnumber : IsNumeral number) :
    let text := comparisonText phrase spelled number
    Text.trim text = text ∧ clauses text = [text] := by
  have hmarks := h.mark_not_mem hnumber
  have hand : ∀ entry ∈ Vocabulary.spelledComparators,
      clashes "and".toList entry.1.toList = true := by
    decide
  refine hphrase.clauses_eq (by decide) (by decide) (h.firstMatch?_fillers hnumber)
    (getLast?_comparisonTail spelled hnumber) (fun t ht => ?_)
    ⟨hmarks ',' (by decide), hmarks ';' (by decide)⟩
  rw [h.afterKeyword?_eq_none hnumber (show "and" ∈ linkKeywords by decide) (hand entry h.word) t ht]
  rfl

/-! ### The forms -/

/-- A form none of whose keywords begins the comparator does not take the comparison. -/
theorem phraseForm_eq_none (h : IsSpelled spelled entry) (hphrase : IsSteady phrase)
    (hnumber : IsNumeral number) {keywords : List String} {read : List Char → Option Test}
    (hkeywords : keywords ⊆ linkKeywords)
    (hclash : ∀ keyword ∈ keywords, clashes keyword.toList entry.1.toList = true) :
    phraseForm (spaced? keywords read) (comparisonText phrase spelled number) = none := by
  refine hphrase.phraseForm_eq_none hkeywords fun t ht => ?_
  rw [afterWord?, List.findSome?_eq_none_iff]
  intro keyword hkeyword
  rw [h.afterKeyword?_eq_none hnumber (hkeywords hkeyword) (hclash keyword hkeyword) t ht]
  rfl

theorem includesForm_eq_none (h : IsSpelled spelled entry) (hphrase : IsSteady phrase)
    (hnumber : IsNumeral number) : includesForm (comparisonText phrase spelled number) = none := by
  have hclash : ∀ entry ∈ Vocabulary.spelledComparators, ∀ keyword ∈ inclusionKeywords,
      clashes keyword.toList entry.1.toList = true := by
    decide
  have hlink : inclusionKeywords ⊆ linkKeywords := by decide
  exact h.phraseForm_eq_none hphrase hnumber hlink (hclash entry h.word)

theorem equalsForm_eq_none (h : IsSpelled spelled entry) (hphrase : IsSteady phrase)
    (hnumber : IsNumeral number) (hother : entry.1 ≠ "equals") :
    equalsForm (comparisonText phrase spelled number) = none := by
  have hclash : ∀ entry ∈ Vocabulary.spelledComparators, entry.1 ≠ "equals" →
      ∀ keyword ∈ equalityKeywords, clashes keyword.toList entry.1.toList = true := by
    decide
  have hlink : equalityKeywords ⊆ linkKeywords := by decide
  exact h.phraseForm_eq_none hphrase hnumber hlink (hclash entry h.word hother)

theorem afterKeyword?_self (h : IsSpelled spelled entry) (rest : List Char) :
    Text.afterKeyword? entry.1.toList (spelled ++ rest) = some rest := by
  rw [← h.fold, Text.afterKeyword?_fold_append]

theorem equalsForm_eq_some (h : IsSpelled spelled entry) (hphrase : IsSteady phrase)
    (hnumber : IsNumeral number) (hequals : entry.1 = "equals") :
    equalsForm (comparisonText phrase spelled number) =
      some (ofPhrase (.compare .eq (operand number)) phrase) := by
  have hfacts : "equals" ∈ equalityKeywords ∧ ∀ other ∈ equalityKeywords, other ≠ "equals" →
      clashes other.toList "equals".toList = true := by
    decide
  have hspace : ∀ c ∈ [' '], isBlank c = true := by decide
  refine hphrase.equalsForm_eq_some (List.cons_ne_nil _ _) hspace (List.cons_ne_nil _ _)
    hspace h.ne_nil h.head? hfacts.1 ?_ ?_ hnumber.head? hnumber.value?_eq
    (hphrase.equalityTest?_eq_none _)
  · rw [← hequals]
    exact h.afterKeyword?_self
  · intro other hother hdiffers
    rw [h.clashes_eq, hequals]
    exact hfacts.2 other hother hdiffers

theorem signedForm_eq_none (h : IsSpelled spelled entry) (hphrase : IsSteady phrase)
    (hnumber : IsNumeral number) : signedForm (comparisonText phrase spelled number) = none := by
  have hspace : Query.isPhraseChar ' ' = true := by decide
  apply Query.signedForm_eq_none
  intro c hc
  simp only [comparisonText, List.mem_append, List.mem_cons] at hc
  rcases hc with hc | rfl | hc | rfl | hc
  · exact .inl (hphrase.chars c hc)
  · exact .inl hspace
  · exact .inl (h.isPhraseChar c hc)
  · exact .inl hspace
  · exact .inr (hnumber.chars c hc)

theorem spelledComparator?_eq (h : IsSpelled spelled entry) :
    Vocabulary.spelledComparator? spelled = some entry.2 := by
  have hall : ∀ entry ∈ Vocabulary.spelledComparators,
      Vocabulary.spelledComparator? entry.1.toList = some entry.2 := by
    decide
  rw [← spelledComparator?_fold h.isUniform, h.fold, hall entry h.word]

theorem spelledTest?_eq (h : IsSpelled spelled entry) (hnumber : IsNumeral number) :
    spelledTest? (spelled ++ ' ' :: number) = some (some entry.2, operand number) := by
  have hfacts : ∀ entry ∈ Vocabulary.spelledComparators, entry.1 ∈ spelledKeywords ∧
      ∀ other ∈ spelledKeywords, other ≠ entry.1 →
        clashes other.toList entry.1.toList = true := by
    decide
  obtain ⟨hmem, hclash⟩ := hfacts entry h.word
  apply findSome?_eq_some hmem
  · have hlength : entry.1.length = spelled.length := by
      rw [← String.length_toList, ← h.fold, Text.length_fold]
    rw [h.afterKeyword?_self, Option.bind_some, Text.afterBlanks?_space hnumber.head?,
      Option.bind_some, hnumber.numeral?_eq, hlength, List.take_left, h.spelledComparator?_eq]
    rfl
  · intro other hother hdiffers
    have hspelled : clashes other.toList spelled = true := by
      rw [h.clashes_eq, hclash other hother hdiffers]
    rw [Text.afterKeyword?_of_clashes hspelled]
    rfl

theorem spelledForm_eq_some (h : IsSpelled spelled entry) (hphrase : IsSteady phrase)
    (hnumber : IsNumeral number) :
    spelledForm (comparisonText phrase spelled number) =
      some (ofPhrase (.compare entry.2 (operand number)) phrase) := by
  have hstart := Text.head?_append_of_head? h.ne_nil h.head? (' ' :: number)
  have hinner : ∀ t ∈ tailsAfterBlanks phrase,
      spelledTest? (t ++ ' ' :: (spelled ++ ' ' :: number)) = none := by
    intro t ht
    rw [spelledTest?, List.findSome?_eq_none_iff]
    intro keyword hkeyword
    rw [hphrase.afterKeyword?_eq_none (List.mem_append_right linkKeywords hkeyword) ht]
    rfl
  have hphrases := hphrase.afterPhrase?_eq (Text.afterBlanks?_space hstart) hinner
    (h.spelledTest?_eq hnumber)
  rw [spelledForm, comparisonText, hphrases]

/-- The leaf of a comparison in words. -/
theorem clauseLeaf?_eq (h : IsSpelled spelled entry) (hphrase : IsSteady phrase)
    (hnumber : IsNumeral number) {entity : Entity} {columns : List String} {column : String}
    (hcolumn : Vocabulary.columnOf? entity columns phrase = some column) :
    clauseLeaf? entity columns (comparisonText phrase spelled number) =
      some ⟨column, .compare entry.2 (operand number)⟩ := by
  have hleaf := leaf?_ofPhrase (.compare entry.2 (operand number)) hcolumn
  have hincludes := h.includesForm_eq_none hphrase hnumber
  -- "equals" is also a keyword of the form for equality, which comes first
  -- and reads the same comparison; every other comparator passes that form by
  by_cases hequality : entry.1 = "equals"
  · have hcomparator : ∀ entry ∈ Vocabulary.spelledComparators, entry.1 = "equals" → entry.2 = .eq := by
      decide
    have hequals := h.equalsForm_eq_some hphrase hnumber hequality
    rw [← hcomparator entry h.word hequality] at hequals
    simp only [clauseLeaf?, forms, List.findSome?_cons, hincludes, Option.bind_none, hequals,
      Option.bind_some, hleaf]
  · have hequals := h.equalsForm_eq_none hphrase hnumber hequality
    have hsigned := h.signedForm_eq_none hphrase hnumber
    have hspelled := h.spelledForm_eq_some hphrase hnumber
    simp only [clauseLeaf?, forms, List.findSome?_cons, hincludes, hequals, hsigned,
      Option.bind_none, hspelled, Option.bind_some, hleaf]

end IsSpelled

end SheetQuery.Query
