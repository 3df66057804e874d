import SheetQuery.Proofs.Query.RangeClause
import SheetQuery.Proofs.Query.SpelledClause

/-!
# Queries about numbers

A query that puts a column and a number or two in one of the usual ways asks for what it spells and
for nothing else, however the forms of clauses overlap.

* `filter?_comparison`: comparisons with single spaces, in signs and in words;
* `canonical_phrasings_are_read`: signs with any blanks around them, words in any case, and ranges.
-/

namespace SheetQuery.Query

open Text (isBlank)

/-- The spellings of comparators, in signs and in words. -/
def comparatorSpellings : List (String × Comparator) :=
  Vocabulary.signedComparators ++ Vocabulary.spelledComparators

section

variable {phrase keyword number : List Char} {entry : String × Comparator}

theorem isSigned_space (hnumber : IsNumeral number) (hentry : entry ∈ Vocabulary.signedComparators) :
    IsSigned [' '] [' '] number entry :=
  ⟨by decide, by decide, hnumber, hentry⟩

theorem isSpelled_self (hentry : entry ∈ Vocabulary.spelledComparators) :
    IsSpelled entry.1.toList entry := by
  have hfold : ∀ entry ∈ Vocabulary.spelledComparators,
      Text.fold entry.1.toList = entry.1.toList := by
    decide
  exact ⟨hentry, hfold entry hentry⟩

/-- A comparison has no outer blanks. -/
theorem trim_comparison (hphrase : IsSteady phrase) (hnumber : IsNumeral number) :
    Text.trim (comparisonText phrase keyword number) = comparisonText phrase keyword number :=
  Text.trimWith_of_isTrimmed (hphrase.isTrimmed (getLast?_comparisonTail keyword hnumber))

variable {entity : Entity} {columns : List String} {column : String}

/-- A comparison in signs asks for that comparison with the column that its phrase means, if any. -/
theorem filter?_signed_eq {before after : List Char} (hphrase : IsWhole phrase)
    (h : IsSigned before after number entry) (entity : Entity) (columns : List String) :
    filter? entity columns (phrase ++ signedTail before entry.1.toList after number) =
      (Vocabulary.columnOf? entity columns phrase).map fun column =>
        .leaf ⟨column, .compare entry.2 (operand number)⟩ := by
  obtain ⟨htrim, hclauses⟩ := h.clauses_eq hphrase
  rw [filter?_eq_map htrim hclauses, h.clauseLeaf?_eq hphrase, Option.map_map]
  rfl

theorem filter?_signed {before after : List Char} (hphrase : IsFieldPhrase entity phrase)
    (h : IsSigned before after number entry)
    (hcolumn : Vocabulary.columnOf? entity columns phrase = some column) :
    filter? entity columns (phrase ++ signedTail before entry.1.toList after number) =
      some (.leaf ⟨column, .compare entry.2 (operand number)⟩) := by
  rw [filter?_signed_eq hphrase.isSteady.toIsWhole h, hcolumn]
  rfl

theorem filter?_spelled {spelled : List Char} (hphrase : IsFieldPhrase entity phrase)
    (h : IsSpelled spelled entry) (hnumber : IsNumeral number)
    (hcolumn : Vocabulary.columnOf? entity columns phrase = some column) :
    filter? entity columns (comparisonText phrase spelled number) =
      some (.leaf ⟨column, .compare entry.2 (operand number)⟩) := by
  obtain ⟨htrim, hclauses⟩ := h.clauses_eq hphrase.isSteady.toIsWhole hnumber
  exact filter?_eq_leaf htrim hclauses (h.clauseLeaf?_eq hphrase.isSteady hnumber hcolumn)

/-- A query that compares a column with a number asks for that comparison and nothing else. -/
theorem filter?_comparison (hphrase : IsFieldPhrase entity phrase) (hnumber : IsNumeral number)
    (hentry : entry ∈ comparatorSpellings)
    (hcolumn : Vocabulary.columnOf? entity columns phrase = some column) :
    filter? entity columns (comparisonText phrase entry.1.toList number) =
      some (.leaf ⟨column, .compare entry.2 (operand number)⟩) := by
  rcases List.mem_append.mp hentry with hsign | hword
  · have hsigned := filter?_signed hphrase (isSigned_space hnumber hsign) hcolumn
    rwa [signedTail] at hsigned
  · exact filter?_spelled hphrase (isSpelled_self hword) hnumber hcolumn

end

/-- The usual phrasings of conditions on numbers are read as the conditions they spell. The phrase is
a set one or a single word that is no filler, and means the column:
* `<phrase><sign><number>`, with any blanks or none on either side of the sign;
* `<phrase> <comparator> <number>`, with the comparator in words, in letters of any case;
* `<phrase> between <number> and <number>`. -/
theorem canonical_phrasings_are_read (entity : Entity) (columns : List String) (column : String)
    (phrase : List Char) (hphrase : IsFieldPhrase entity phrase)
    (hcolumn : Vocabulary.columnOf? entity columns phrase = some column) (number : List Char)
    (hnumber : IsNumeral number) :
    (∀ entry ∈ Vocabulary.signedComparators, ∀ before after : List Char,
      (∀ c ∈ before ++ after, isBlank c = true) →
      filter? entity columns (phrase ++ (before ++ (entry.1.toList ++ (after ++ number)))) =
        some (.leaf ⟨column, .compare entry.2 (operand number)⟩)) ∧
    (∀ entry ∈ Vocabulary.spelledComparators, ∀ spelled, Text.fold spelled = entry.1.toList →
      filter? entity columns (phrase ++ ' ' :: (spelled ++ ' ' :: number)) =
        some (.leaf ⟨column, .compare entry.2 (operand number)⟩)) ∧
    ∀ high, IsNumeral high →
      filter? entity columns
          (phrase ++ ' ' :: ("between".toList ++ ' ' :: (number ++ ' ' :: ("and".toList ++ ' ' :: high)))) =
        some (.leaf ⟨column, .between (operand number) (operand high)⟩) := by
  refine ⟨fun entry hentry before after hblanks => ?_, fun entry hentry spelled hfold => ?_,
    fun high hhigh => ?_⟩
  · have hsigned : IsSigned before after number entry :=
      ⟨fun c hc => hblanks c (List.mem_append_left after hc),
        fun c hc => hblanks c (List.mem_append_right before hc), hnumber, hentry⟩
    exact filter?_signed hphrase hsigned hcolumn
  · exact filter?_spelled hphrase ⟨hentry, hfold⟩ hnumber hcolumn
  · obtain ⟨htrim, hclauses⟩ := clauses_rangeText hphrase.isSteady hnumber hhigh
    exact filter?_eq_leaf htrim hclauses
      (clauseLeaf?_rangeText hphrase.isSteady hnumber hhigh hcolumn)

/-- A sign that another one begins with, close to a number; a comparator in capitals; a range down
to a negative number. -/
theorem load_phrasings_are_read :
    let filter? := filter? .workers ["MaxLoadPerPhase"]
    IsFieldPhrase .workers "max load per phase".toList ∧
    Vocabulary.columnOf? .workers ["MaxLoadPerPhase"] "max load per phase".toList =
      some "MaxLoadPerPhase" ∧
    IsNumeral "-2.50".toList ∧ IsNumeral "7".toList ∧
    filter? "max load per phase\t>=-2.50".toList =
      some (.leaf ⟨"MaxLoadPerPhase", .compare .ge (operand "-2.50".toList)⟩) ∧
    filter? "max load per phase NOT Equal To -2.50".toList =
      some (.leaf ⟨"MaxLoadPerPhase", .compare .ne (operand "-2.50".toList)⟩) ∧
    filter? "max load per phase between -2.50 and 7".toList =
      some (.leaf ⟨"MaxLoadPerPhase", .between (operand "-2.50".toList) (operand "7".toList)⟩) := by
  intro filter?
  have hphrase : IsFieldPhrase .workers "max load per phase".toList := .inl (by decide)
  have hcolumn : Vocabulary.columnOf? .workers ["MaxLoadPerPhase"] "max load per phase".toList =
      some "MaxLoadPerPhase" := by
    decide +kernel
  have hlow : IsNumeral "-2.50".toList := by
    unfold IsNumeral
    decide +kernel
  have hhigh : IsNumeral "7".toList := by
    unfold IsNumeral
    decide +kernel
  obtain ⟨hsigned, hspelled, hrange⟩ := canonical_phrasings_are_read .workers ["MaxLoadPerPhase"]
    "MaxLoadPerPhase" "max load per phase".toList hphrase hcolumn "-2.50".toList hlow
  have hge := hsigned (">=", .ge) (by decide) ['\t'] [] (by decide)
  have hne := hspelled ("not equal to", .ne) (by decide) "NOT Equal To".toList (by decide)
  have hbetween := hrange "7".toList hhigh
  exact ⟨hphrase, hcolumn, hlow, hhigh, hge, hne, hbetween⟩

end SheetQuery.Query
