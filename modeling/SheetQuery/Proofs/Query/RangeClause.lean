import SheetQuery.Proofs.Query.SentenceSqueeze
import SheetQuery.Proofs.Query.SignedClause

/-!
# Ranges

A query `<phrase> between <number> and <number>` is one clause although it holds an `and`: before the
query is cut, that `and` is turned into `to`. The leaf of the clause is the range.

* `rangeText`: a range with single spaces;
* `substitute_range_rangeText`: its `and` becomes `to`;
* `clauses_rangeText`: it is one clause;
* `clauseLeaf?_rangeText`: its leaf.
-/

namespace SheetQuery.Query

open Text (isBlank isWordChar sameLetter tailsAfterBlanks clashes)

/-! ## From `and` to `to` -/

/-- What follows the phrase of a range with single spaces, and links its numbers by a word. -/
def rangeTail (link low high : List Char) : List Char :=
  "between".toList ++ ' ' :: (low ++ ' ' :: (link ++ ' ' :: high))

theorem rangeTail_eq (link low high : List Char) :
    rangeTail link low high = "between".toList ++ ' ' :: (low ++ ' ' :: (link ++ ' ' :: high)) :=
  rfl

theorem head?_rangeTail (link low high : List Char) : (rangeTail link low high).head? = some 'b' := by
  have hfirst : "between".toList.head? = some 'b' := by decide
  rw [rangeTail_eq, List.head?_append, hfirst, Option.some_or]

/-- The query for a range. -/
def rangeText (phrase link low high : List Char) : List Char :=
  phrase ++ ' ' :: rangeTail link low high

section

variable {phrase link low high : List Char}

/-- No number follows a `between` in the phrase of a range: a word of the phrase does, or the
`between` of the range. -/
theorem takeNumeral?_eq_none_of_suffix (hphrase : IsSteady phrase) {t after : List Char}
    (ht : t <:+ phrase)
    (hafter : Text.afterBlanks? (t ++ ' ' :: rangeTail link low high) = some after) :
    takeNumeral? after = none := by
  by_cases hne : t = []
  · subst hne
    have hblanks : Text.afterBlanks? (' ' :: rangeTail link low high) =
        some (rangeTail link low high) :=
      Text.afterBlanks?_space (Text.head?_append_of_head? (by decide) (by decide) _)
    obtain ⟨cs, hcons⟩ := List.head?_eq_some_iff.mp (head?_rangeTail link low high)
    rw [List.nil_append, hblanks] at hafter
    rw [← Option.some.inj hafter, hcons]
    exact takeNumeral?_eq_none (by decide) cs
  · rw [Text.afterBlanks?_append hne (hphrase.last_of_suffix ht)] at hafter
    obtain ⟨inner, hinner, rfl⟩ := Option.map_eq_some_iff.mp hafter
    obtain ⟨c, cs, rfl, hc⟩ :=
      hphrase.worded inner (Text.tailsAfterBlanks_subset ht (Text.mem_tailsAfterBlanks hinner))
    exact takeNumeral?_eq_none hc _

/-- No range starts within the phrase of a range, or at its end. -/
theorem rangeRewriter_eq_none (hphrase : IsSteady phrase) {before : Option Char} {t : List Char}
    (ht : t <:+ phrase) : rangeRewriter before (t ++ ' ' :: rangeTail link low high) = none := by
  have hletters : ∀ k ∈ "between".toList, sameLetter k ' ' = false := by decide
  have hstop := Text.afterKeyword?_append_cons hletters t (rangeTail link low high)
  have hparts : rangeParts? (t ++ ' ' :: rangeTail link low high) = none := by
    rw [rangeParts?, hstop, Option.bind_eq_none_iff]
    intro after hafter
    -- a `between` within the phrase has no number after it
    obtain ⟨rest, hrest, hafter⟩ := Option.bind_eq_some_iff.mp hafter
    obtain ⟨inner, hinner, rfl⟩ := Option.map_eq_some_iff.mp hrest
    rw [takeNumeral?_eq_none_of_suffix hphrase ((Text.suffix_of_afterKeyword? hinner).trans ht) hafter,
      Option.bind_none]
  rw [rangeRewriter, rangeWithAnd?_eq, hparts, ite_self]
  rfl

theorem rangeRewriter_rangeTail (hlow : IsNumeral low) (hhigh : IsNumeral high) :
    rangeRewriter (some ' ') (rangeTail "and".toList low high) =
      some (rangeTail "to".toList low high, []) := by
  have hspace : isNumeralChar ' ' = false := by decide
  have hwhole : takeNumeral? high = some (high, []) := hhigh
  have hlowFirst := Text.head?_append_of_head? hlow.ne_nil hlow.head?
    (' ' :: ("and".toList ++ ' ' :: high))
  have handFirst : ∀ c ∈ ("and".toList ++ ' ' :: high).head?, isBlank c = false :=
    Text.head?_append_of_head? (by decide) (by decide) _
  have hparts : rangeParts? (rangeTail "and".toList low high) = some (low, high, []) := by
    rw [rangeParts?, rangeTail_eq, Text.afterKeyword?_self, Option.bind_some,
      Text.afterBlanks?_space hlowFirst, Option.bind_some, hlow.takeNumeral?_append hspace,
      Option.bind_some, Text.afterBlanks?_space handFirst, Option.bind_some, Text.afterKeyword?_self,
      Option.bind_some, Text.afterBlanks?_space hhigh.head?, Option.bind_some, hwhole]
    rfl
  have hstart : Text.isBoundary (some ' ') (rangeTail "and".toList low high).head? = true := by
    rw [head?_rangeTail]
    decide
  rw [rangeRewriter, rangeWithAnd?_eq, if_pos hstart, hparts]
  simp [rangeTail_eq]

/-- The `and` of a range becomes `to`. -/
theorem substitute_range_rangeText (hphrase : IsSteady phrase) (hlow : IsNumeral low)
    (hhigh : IsNumeral high) :
    Text.substitute range (rangeText phrase "and".toList low high) =
      rangeText phrase "to".toList low high := by
  have hspace : rangeRewriter phrase.getLast? (' ' :: rangeTail "and".toList low high) = none :=
    rangeRewriter_eq_none hphrase (List.nil_suffix)
  have hne : rangeTail "and".toList low high ≠ [] := by simp [rangeTail_eq]
  have hrange := Text.substituteAfter_scan_self hne (rangeRewriter_rangeTail hlow hhigh)
  rw [Text.substitute, ← scan_rangeRewriter, rangeText,
    Text.substituteAfter_append_of_none fun before t _ ht => rangeRewriter_eq_none hphrase ht,
    Option.or_none, Text.substituteAfter_of_none hspace, hrange, rangeText]

/-! ## One clause -/

theorem getLast?_rangeText (hhigh : IsNumeral high) :
    ∀ c ∈ (' ' :: rangeTail link low high).getLast?, isBlank c = false := by
  have hparts : ' ' :: rangeTail link low high =
      (' ' :: ("between".toList ++ ' ' :: (low ++ ' ' :: (link ++ [' '])))) ++ high := by
    rw [rangeTail_eq]
    simp
  rw [hparts, List.getLast?_append_of_ne_nil _ hhigh.ne_nil]
  exact hhigh.getLast?

/-- No filler stands after the phrase of a range. -/
theorem firstMatch?_rangeTail (hlow : IsNumeral low) (hhigh : IsNumeral high)
    (hlink : Text.firstMatch? (afterWholeWord? fillers) (some ' ') link = none) :
    Text.firstMatch? (afterWholeWord? fillers) (some ' ') (rangeTail link low high) = none := by
  have hstops : Text.Recogniser.StopsAt (afterWholeWord? fillers) ' ' :=
    stopsAt_afterWholeWord? (by decide) (by decide)
  have hnumber : ∀ {number : List Char}, IsNumeral number →
      Text.firstMatch? (afterWholeWord? fillers) (some ' ') number = none := by
    intro number hnumber
    exact firstMatch?_of_isSignedChar (fun c hc => by
      rw [isSignedChar, hnumber.chars c hc, Bool.or_true]) _
  have hbetween : Text.firstMatch? (afterWholeWord? fillers) (some ' ') "between".toList = none := by
    decide
  rw [rangeTail_eq]
  exact Text.firstMatch?_append_cons hstops hbetween (Text.firstMatch?_append_cons hstops (hnumber hlow)
    (Text.firstMatch?_append_cons hstops hlink (hnumber hhigh)))

/-- After its blanks, a range written with `to` has no keyword but `between`. -/
theorem afterKeyword?_rangeTail (hlow : IsNumeral low) (hhigh : IsNumeral high) {keyword : String}
    (hkeyword : keyword ∈ linkKeywords ++ spelledKeywords) (hother : keyword ≠ "between") :
    ∀ t ∈ tailsAfterBlanks (' ' :: rangeTail "to".toList low high),
      Text.afterKeyword? keyword.toList t = none := by
  have hall : ∀ keyword ∈ linkKeywords ++ spelledKeywords, keyword ≠ "between" →
      clashes keyword.toList "between".toList = true ∧ clashes keyword.toList "to".toList = true := by
    decide
  obtain ⟨hbetween, hto⟩ := hall keyword hkeyword hother
  have hwords : tailsAfterBlanks "between".toList = [] ∧ tailsAfterBlanks "to".toList = [] := by decide
  rw [Text.tailsAfterBlanks_space_cons, rangeTail_eq]
  simp only [Text.tailsAfterBlanks_append, Text.tailsAfterBlanks_space_cons,
    Text.tailsAfterBlanks_eq_nil hlow.not_isBlank, Text.tailsAfterBlanks_eq_nil hhigh.not_isBlank,
    hwords.1, hwords.2, List.map_nil, List.nil_append, List.forall_mem_cons]
  refine ⟨Text.afterKeyword?_of_clashes hbetween _, hlow.afterLink?_eq_none hkeyword _,
    Text.afterKeyword?_of_clashes hto _, ?_, fun t ht => absurd ht List.not_mem_nil⟩
  simpa using hhigh.afterLink?_eq_none hkeyword []

/-- The characters after the phrase of a range written with `to`. -/
theorem mem_rangeTail (hlow : IsNumeral low) (hhigh : IsNumeral high) :
    ∀ c ∈ ' ' :: rangeTail "to".toList low high, isPhraseChar c = true ∨ isNumeralChar c = true := by
  have hwords : (∀ c ∈ "between".toList, isPhraseChar c = true) ∧
      (∀ c ∈ "to".toList, isPhraseChar c = true) ∧ isPhraseChar ' ' = true := by
    decide
  obtain ⟨hbetween, hto, hspace⟩ := hwords
  intro c hc
  simp only [rangeTail_eq, List.mem_cons, List.mem_append] at hc
  rcases hc with rfl | hc | rfl | hc | rfl | hc | rfl | hc
  · exact .inl hspace
  · exact .inl (hbetween c hc)
  · exact .inl hspace
  · exact .inr (hlow.chars c hc)
  · exact .inl hspace
  · exact .inl (hto c hc)
  · exact .inl hspace
  · exact .inr (hhigh.chars c hc)

/-- A range is one clause, in which `to` stands for `and`. -/
theorem clauses_rangeText (hphrase : IsSteady phrase) (hlow : IsNumeral low) (hhigh : IsNumeral high) :
    Text.trim (rangeText phrase "and".toList low high) = rangeText phrase "and".toList low high ∧
      clauses (rangeText phrase "and".toList low high) = [rangeText phrase "to".toList low high] := by
  -- the `and` of the range would cut the query, had it not been made a `to` before
  have htrim : ∀ link, Text.trim (rangeText phrase link low high) = rangeText phrase link low high :=
    fun link => Text.trimWith_of_isTrimmed (hphrase.isTrimmed (getLast?_rangeText hhigh))
  have hfillers : Text.substitute filler? (rangeText phrase "and".toList low high) =
      rangeText phrase "and".toList low high :=
    Text.substituteAfter_of_firstMatch? filler?_eq_none (hphrase.firstMatch?_fillers (by decide)
      (by decide) (firstMatch?_rangeTail hlow hhigh (by decide)))
  have hmarks : ∀ mark ∈ [',', ';'], mark ∉ ' ' :: rangeTail "to".toList low high := by
    have hall : ∀ mark ∈ [',', ';'], isPhraseChar mark = false ∧ isNumeralChar mark = false := by
      decide
    intro mark hmark hmem
    obtain ⟨hword, hnumeral⟩ := hall mark hmark
    have hchar := mem_rangeTail hlow hhigh mark hmem
    rw [hword, hnumeral] at hchar
    rcases hchar with hchar | hchar <;> cases hchar
  have hand : ∀ t ∈ tailsAfterBlanks (' ' :: rangeTail "to".toList low high),
      (Text.afterKeyword? "and".toList t).bind Text.afterBlanks? = none := by
    have hlink : "and" ∈ linkKeywords ++ spelledKeywords := by decide
    intro t ht
    rw [afterKeyword?_rangeTail hlow hhigh hlink (by decide) t ht]
    rfl
  obtain ⟨hnoAnd, hnoMarks⟩ := hphrase.uncut hand ⟨hmarks ',' (by decide), hmarks ';' (by decide)⟩
  have hcut : Text.cut separator? (rangeText phrase "to".toList low high) =
      [rangeText phrase "to".toList low high] := cut_separator?_eq_singleton hnoAnd hnoMarks
  refine ⟨htrim _, ?_⟩
  rw [clauses, hfillers]
  simp only [substitute_range_rangeText hphrase hlow hhigh, hcut, List.map_singleton, htrim]
  simp [rangeText]

/-! ## The leaf -/

/-- A form none of whose keywords is `between` does not take a range. -/
theorem phraseForm_rangeText (hphrase : IsSteady phrase) (hlow : IsNumeral low)
    (hhigh : IsNumeral high) {keywords : List String} {read : List Char → Option Test}
    (hkeywords : ∀ keyword ∈ keywords, keyword ∈ linkKeywords ∧ keyword ≠ "between") :
    phraseForm (spaced? keywords read) (rangeText phrase "to".toList low high) = none := by
  refine hphrase.phraseForm_eq_none (fun keyword hmem => (hkeywords keyword hmem).1) fun t ht => ?_
  rw [afterWord?, List.findSome?_eq_none_iff]
  intro keyword hkeyword
  obtain ⟨hlink, hother⟩ := hkeywords keyword hkeyword
  rw [afterKeyword?_rangeTail hlow hhigh (List.mem_append_left spelledKeywords hlink) hother t ht]
  rfl

theorem signedForm_rangeText (hphrase : IsSteady phrase) (hlow : IsNumeral low)
    (hhigh : IsNumeral high) : signedForm (rangeText phrase "to".toList low high) = none := by
  apply signedForm_eq_none
  intro c hc
  rcases List.mem_append.mp hc with hc | hc
  · exact .inl (hphrase.chars c hc)
  · exact mem_rangeTail hlow hhigh c hc

/-- No comparator in words stands in a range. -/
theorem spelledForm_rangeText (hphrase : IsSteady phrase) (hlow : IsNumeral low)
    (hhigh : IsNumeral high) : spelledForm (rangeText phrase "to".toList low high) = none := by
  have hother : ∀ keyword ∈ spelledKeywords, keyword ≠ "between" := by decide
  have hnone : ∀ t ∈ tailsAfterBlanks (rangeText phrase "to".toList low high),
      spelledTest? t = none := by
    rw [rangeText, Text.tailsAfterBlanks_append]
    intro t ht
    rw [spelledTest?, List.findSome?_eq_none_iff]
    intro keyword hkeyword
    have hmem : keyword ∈ linkKeywords ++ spelledKeywords := List.mem_append_right _ hkeyword
    have hafter : Text.afterKeyword? keyword.toList t = none := by
      rcases List.mem_append.mp ht with ht | ht
      · obtain ⟨inner, hinner, rfl⟩ := List.mem_map.mp ht
        exact hphrase.afterKeyword?_eq_none hmem hinner
      · exact afterKeyword?_rangeTail hlow hhigh hmem (hother keyword hkeyword) t ht
    rw [hafter]
    rfl
  have hphrases : afterPhrase? (fun rest => (Text.afterBlanks? rest).bind spelledTest?)
      (rangeText phrase "to".toList low high) = none :=
    afterPhrase?_eq_none fun tail htail => Text.bind_afterBlanks?_eq_none hnone htail
  rw [spelledForm, hphrases]

theorem range?_rangeTail (hlow : IsNumeral low) (hhigh : IsNumeral high) :
    range? ["and", "to"] (low ++ ' ' :: ("to".toList ++ ' ' :: high)) =
      some (.between (operand low) (operand high)) := by
  have hand : Text.afterKeyword? "and".toList ("to".toList ++ ' ' :: high) = none :=
    Text.afterKeyword?_of_clashes (by decide) _
  have hto : ∀ c ∈ ("to".toList ++ ' ' :: high).head?, isBlank c = false :=
    Text.head?_append_of_head? (by decide) (by decide) _
  have hnumber : pastBlanks? numeral? (' ' :: high) = some (operand high) :=
    pastBlanks?_space hhigh.head? hhigh.numeral?_eq
  have hlink : spaced? ["and", "to"] numeral? (' ' :: ("to".toList ++ ' ' :: high)) =
      some (operand high) := by
    rw [spaced?, Text.afterBlanks?_space hto, Option.bind_some, afterWord?, List.findSome?_cons, hand,
      Option.bind_none, List.findSome?_cons, Text.afterKeyword?_self, Option.bind_some, hnumber]
  rw [range?, hlow.takeNumeral?_append (by decide), Option.bind_some]
  exact congrArg (Option.map (Test.between (operand low))) hlink

theorem betweenForm_rangeText (hphrase : IsSteady phrase) (hlow : IsNumeral low)
    (hhigh : IsNumeral high) : betweenForm (rangeText phrase "to".toList low high) =
      some (ofPhrase (.between (operand low) (operand high)) phrase) := by
  have hbetween : "between" ∈ linkKeywords ++ spelledKeywords := by decide
  have hstart : ∀ c ∈ (rangeTail "to".toList low high).head?, isBlank c = false := by
    rw [head?_rangeTail]
    decide
  have hlowFirst := Text.head?_append_of_head? hlow.ne_nil hlow.head?
    (' ' :: ("to".toList ++ ' ' :: high))
  have hnumbers : pastBlanks? (range? ["and", "to"])
      (' ' :: (low ++ ' ' :: ("to".toList ++ ' ' :: high))) =
      some (.between (operand low) (operand high)) :=
    pastBlanks?_space hlowFirst (range?_rangeTail hlow hhigh)
  have hread : afterWord? ["between"] (range? ["and", "to"]) (rangeTail "to".toList low high) =
      some (.between (operand low) (operand high)) := by
    rw [rangeTail_eq, afterWord?, List.findSome?_cons, Text.afterKeyword?_self, Option.bind_some,
      hnumbers]
  have hinner : ∀ t ∈ tailsAfterBlanks phrase, afterWord? ["between"] (range? ["and", "to"])
      (t ++ ' ' :: rangeTail "to".toList low high) = none := by
    intro t ht
    rw [afterWord?, List.findSome?_cons, hphrase.afterKeyword?_eq_none hbetween ht]
    rfl
  have hphrases := hphrase.afterPhrase?_eq (Text.afterBlanks?_space hstart) hinner hread
  exact congrArg (Option.map fun found => ofPhrase found.2 found.1) hphrases

/-- The leaf of a range. -/
theorem clauseLeaf?_rangeText (hphrase : IsSteady phrase) (hlow : IsNumeral low)
    (hhigh : IsNumeral high) {entity : Entity} {columns : List String} {column : String}
    (hcolumn : Vocabulary.columnOf? entity columns phrase = some column) :
    clauseLeaf? entity columns (rangeText phrase "to".toList low high) =
      some ⟨column, .between (operand low) (operand high)⟩ := by
  have hleaf := leaf?_ofPhrase (.between (operand low) (operand high)) hcolumn
  have hinclusion : ∀ keyword ∈ inclusionKeywords, keyword ∈ linkKeywords ∧ keyword ≠ "between" := by
    decide
  have hequality : ∀ keyword ∈ equalityKeywords, keyword ∈ linkKeywords ∧ keyword ≠ "between" := by
    decide
  -- a range is looked for after four other forms, which have to find nothing
  have hincludes : includesForm (rangeText phrase "to".toList low high) = none :=
    phraseForm_rangeText hphrase hlow hhigh hinclusion
  have hequals : equalsForm (rangeText phrase "to".toList low high) = none :=
    phraseForm_rangeText hphrase hlow hhigh hequality
  have hsigned := signedForm_rangeText hphrase hlow hhigh
  have hspelled := spelledForm_rangeText hphrase hlow hhigh
  have hbetween := betweenForm_rangeText hphrase hlow hhigh
  simp only [clauseLeaf?, forms, List.findSome?_cons, hincludes, hequals, hsigned, hspelled,
    Option.bind_none, hbetween, Option.bind_some, hleaf]

end

end SheetQuery.Query
