import SheetQuery.Proofs.Cell.Numbers
import SheetQuery.Proofs.Query.NumericClause

/-!
# Comparisons after a verb

A query `<phrase> is <comparator> <number>` is one clause, but does not ask for the comparison. The
form for equality takes a comparator in words, with the number, for the value that the column should
equal; and before a comparator in signs the verb is taken for a word of the phrase.

* `IsWhole.led`: a phrase and a verb make one clause with what follows them;
* `filter?_led_spelled`: what becomes of comparators in words;
* `filter?_led_signed`: what becomes of comparators in signs.
-/

namespace SheetQuery.Query

open Text (isBlank tailsAfterBlanks clashes)

/-- The verbs that may stand before a comparator. -/
def leads : List String := ["is", "must be", "should be"]

/-- A phrase, and a verb after it. -/
def ledPhrase (phrase : List Char) (lead : String) : List Char := phrase ++ ' ' :: lead.toList

section

variable {phrase number : List Char} {lead : String} {entry : String × Comparator}

/-- A verb takes nothing away from a phrase that stays in one piece with what follows it. -/
theorem IsWhole.led (h : IsWhole phrase) (hlead : lead ∈ leads) : IsWhole (ledPhrase phrase lead) := by
  have hall : ∀ lead ∈ leads, (∀ c ∈ ' ' :: lead.toList, isPhraseChar c = true) ∧
      (∀ c ∈ (' ' :: lead.toList).getLast?, isBlank c = false) ∧
      Text.firstMatch? (afterWholeWord? fillers) (some ' ') lead.toList = none ∧
      ∀ t ∈ tailsAfterBlanks (' ' :: lead.toList), clashes "and".toList t = true := by
    decide
  obtain ⟨hchars, hlast, hunfilled, hunjoined⟩ := hall lead hlead
  refine ⟨by simp [ledPhrase], fun c hc => ?_, ?_, ?_, ?_, fun t ht => ?_⟩
  · exact (List.mem_append.mp hc).elim (h.chars c) (hchars c)
  · rw [ledPhrase, List.head?_append_of_ne_nil _ h.ne_nil]
    exact h.first
  · rw [ledPhrase, List.getLast?_append_of_ne_nil _ (List.cons_ne_nil _ _)]
    exact hlast
  · exact h.firstMatch?_fillers (by decide) (by decide) hunfilled
  · rw [ledPhrase, Text.tailsAfterBlanks_append] at ht
    rcases List.mem_append.mp ht with ht | ht
    · obtain ⟨inner, hinner, rfl⟩ := List.mem_map.mp ht
      exact Text.clashes_append (h.unjoined inner hinner) _
    · exact hunjoined t ht

/-! ## Comparators in signs -/

/-- Before a comparator in signs a verb is a part of the phrase. -/
theorem filter?_led_signed (hphrase : IsWhole phrase) (hlead : lead ∈ leads)
    (hnumber : IsNumeral number) (hentry : entry ∈ Vocabulary.signedComparators) (entity : Entity)
    (columns : List String) :
    filter? entity columns (comparisonText (ledPhrase phrase lead) entry.1.toList number) =
      (Vocabulary.columnOf? entity columns (ledPhrase phrase lead)).map fun column =>
        .leaf ⟨column, .compare entry.2 (operand number)⟩ :=
  filter?_signed_eq (hphrase.led hlead) (isSigned_space hnumber hentry) entity columns

/-! ## Comparators in words -/

/-- A comparator in words and a number. -/
def spelledValue (keyword : String) (number : List Char) : List Char :=
  keyword.toList ++ ' ' :: number

/-- A comparator in words and a number make a value, which is no number. -/
theorem value?_spelledValue (hnumber : IsNumeral number)
    (hentry : entry ∈ Vocabulary.spelledComparators) : value? (spelledValue entry.1 number) =
      some (.text (String.ofList (spelledValue entry.1 number))) := by
  have hall : ∀ entry ∈ Vocabulary.spelledComparators, entry.1.toList ≠ [] ∧
      (∀ c ∈ entry.1.toList, isValueChar c = true) ∧
      ∀ c ∈ entry.1.toList.head?, isBlank c = false := by
    decide
  obtain ⟨hne, hchars, hfirst⟩ := hall entry hentry
  have hhead : ∀ c ∈ (spelledValue entry.1 number).head?, isBlank c = false :=
    Text.head?_append_of_head? hne hfirst (' ' :: number)
  have hlast : ∀ c ∈ (spelledValue entry.1 number).getLast?, isBlank c = false := by
    have hparts : spelledValue entry.1 number = (entry.1.toList ++ [' ']) ++ number := by
      simp [spelledValue]
    rw [hparts, List.getLast?_append_of_ne_nil _ hnumber.ne_nil]
    exact hnumber.getLast?
  have hvalue : ∀ c ∈ spelledValue entry.1 number, isValueChar c = true := by
    intro c hc
    rcases List.mem_append.mp hc with hc | hc
    · exact hchars c hc
    · rcases List.mem_cons.mp hc with rfl | hc
      · decide
      · exact isValueChar_of_isNumeralChar (hnumber.chars c hc)
  -- a space within is what no numeral has
  have hnone : Cell.ofNumeral? (spelledValue entry.1 number) = none :=
    Cell.ofNumeral?_of_space (Text.trimWith_of_isTrimmed ⟨hhead, hlast⟩)
      (List.mem_append_right _ List.mem_cons_self)
  rw [value?_eq_operand (by simp [spelledValue]) hvalue hhead hlast, operand, Cell.castNumeral,
    String.toList_ofList, hnone]
  rfl

theorem includesForm_led_spelled (hphrase : IsSteady phrase) (hlead : lead ∈ leads)
    (hnumber : IsNumeral number) (hentry : entry ∈ Vocabulary.spelledComparators) :
    includesForm (phrase ++ ' ' :: (lead.toList ++ ' ' :: spelledValue entry.1 number)) = none := by
  have hleads : ∀ lead ∈ leads, ∀ t ∈ tailsAfterBlanks (' ' :: lead.toList),
      ∀ keyword ∈ inclusionKeywords, clashes keyword.toList t = true := by
    decide
  have hwords : ∀ entry ∈ Vocabulary.spelledComparators, ∀ keyword ∈ inclusionKeywords,
      clashes keyword.toList entry.1.toList = true := by
    decide
  have hlink : inclusionKeywords ⊆ linkKeywords := by decide
  refine hphrase.phraseForm_eq_none hlink fun t ht => ?_
  rw [afterWord?, List.findSome?_eq_none_iff]
  intro keyword hkeyword
  have hnone : Text.afterKeyword? keyword.toList t = none := by
    rw [← List.cons_append, Text.tailsAfterBlanks_append] at ht
    rcases List.mem_append.mp ht with ht | ht
    · obtain ⟨inner, hinner, rfl⟩ := List.mem_map.mp ht
      exact Text.afterKeyword?_of_clashes (hleads lead hlead inner hinner keyword hkeyword) _
    · exact (isSpelled_self hentry).afterKeyword?_eq_none hnumber (hlink hkeyword)
        (hwords entry hentry keyword hkeyword) t ht
  rw [hnone]
  rfl

/-- The form for equality takes a comparator in words and its number for a value. -/
theorem equalsForm_led_spelled (hphrase : IsSteady phrase) (hlead : lead ∈ leads)
    (hnumber : IsNumeral number) (hentry : entry ∈ Vocabulary.spelledComparators) :
    equalsForm (phrase ++ ' ' :: (lead.toList ++ ' ' :: spelledValue entry.1 number)) =
      some (ofPhrase (.compare .eq (.text (String.ofList (spelledValue entry.1 number)))) phrase) := by
  have hall : ∀ lead ∈ leads, lead.toList ≠ [] ∧ (∀ c ∈ lead.toList.head?, isBlank c = false) ∧
      lead ∈ equalityKeywords ∧ ∀ other ∈ equalityKeywords, other ≠ lead →
        clashes other.toList lead.toList = true := by
    decide
  have hwords : ∀ entry ∈ Vocabulary.spelledComparators, entry.1.toList ≠ [] ∧
      ∀ c ∈ entry.1.toList.head?, isBlank c = false := by
    decide
  obtain ⟨hne, hfirst, hkeyword, hclash⟩ := hall lead hlead
  obtain ⟨hne', hfirst'⟩ := hwords entry hentry
  have hspace : ∀ c ∈ [' '], isBlank c = true := by decide
  -- the spaces are written as lists: the lemma about the form takes any blanks there
  have hequals : equalsForm
      (phrase ++ ([' '] ++ (lead.toList ++ ([' '] ++ spelledValue entry.1 number)))) =
        some (ofPhrase (.compare .eq (.text (String.ofList (spelledValue entry.1 number)))) phrase) :=
    hphrase.equalsForm_eq_some (List.cons_ne_nil _ _) hspace (List.cons_ne_nil _ _) hspace hne
      hfirst hkeyword (Text.afterKeyword?_self lead.toList) hclash
      (Text.head?_append_of_head? hne' hfirst' (' ' :: number)) (value?_spelledValue hnumber hentry)
      (hphrase.equalityTest?_eq_none _)
  exact hequals

/-- A comparator in words after a verb is not understood: the column should equal the words. -/
theorem filter?_led_spelled (hphrase : IsSteady phrase) (hlead : lead ∈ leads)
    (hnumber : IsNumeral number) (hentry : entry ∈ Vocabulary.spelledComparators) {entity : Entity}
    {columns : List String} {column : String}
    (hcolumn : Vocabulary.columnOf? entity columns phrase = some column) :
    filter? entity columns (comparisonText (ledPhrase phrase lead) entry.1.toList number) =
      some (.leaf ⟨column, .compare .eq (.text (String.ofList (spelledValue entry.1 number)))⟩) := by
  obtain ⟨htrim, hclauses⟩ := (isSpelled_self hentry).clauses_eq (hphrase.toIsWhole.led hlead) hnumber
  have htext : comparisonText (ledPhrase phrase lead) entry.1.toList number =
      phrase ++ ' ' :: (lead.toList ++ ' ' :: spelledValue entry.1 number) := by
    simp [comparisonText, ledPhrase, spelledValue]
  refine filter?_eq_leaf htrim hclauses ?_
  rw [htext]
  simp only [clauseLeaf?, forms, List.findSome?_cons, Option.bind_none, Option.bind_some,
    includesForm_led_spelled hphrase hlead hnumber hentry,
    equalsForm_led_spelled hphrase hlead hnumber hentry, leaf?_ofPhrase _ hcolumn]

end

end SheetQuery.Query
