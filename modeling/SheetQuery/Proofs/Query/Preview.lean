import SheetQuery.Proofs.Query.HintFold
import SheetQuery.Proofs.Query.LedClause

/-!
# Instant answers to comparisons

The hints for an instant answer look for a comparator and a number anywhere in a text, the forms of
clauses read the whole of it. Both understand a comparison of a priority or a duration with a number,
but with a verb before the comparator only the hints do.

* `likelyComparator?_append`, `firstNumeral?_append`: what hints find before and in a number;
* `preview?_comparison`: the instant answer is the comparison;
* `columnOf?_previewed`, `columnOf?_ledPhrase_ne`: the columns that the phrases mean;
* `preview_is_translated_iff`: when the query is understood alike.
-/

namespace SheetQuery

open Text (isBlank sameLetter)

namespace Text

/-- A text without characters of a class is found in another one exactly if it is found before the
characters of that class at the end. -/
theorem occursIn_append {p : Char → Bool} {needle cs rest : List Char} (hne : needle ≠ [])
    (hneedle : ∀ c ∈ needle, p c = false) (hrest : ∀ c ∈ rest, p c = true) :
    occursIn needle (cs ++ rest) = occursIn needle cs := by
  rw [Bool.eq_iff_iff, occursIn_iff, occursIn_iff]
  constructor
  · rintro ⟨before, after, heq⟩
    rcases List.append_eq_append_iff.mp heq with ⟨between, hcs, -⟩ | ⟨between, hbefore, htail⟩
    · exact ⟨before, between, hcs.symm⟩
    · by_cases hbetween : between = []
      · rw [hbetween, List.append_nil] at hbefore
        exact ⟨before, [], by rw [hbefore, List.append_nil]⟩
      · -- else the last character would be of the class
        have hlast := congrArg List.getLast? hbefore
        rw [List.getLast?_append_of_ne_nil _ hne, List.getLast?_append_of_ne_nil _ hbetween] at hlast
        obtain ⟨c, hc⟩ := Option.isSome_iff_exists.mp (List.getLast?_isSome.mpr hne)
        have hclass := hrest c (htail ▸ List.mem_append_left after
          (List.mem_of_getLast? (hlast ▸ hc)))
        rw [hneedle c (List.mem_of_getLast? hc)] at hclass
        cases hclass
  · exact fun h => h.trans (List.prefix_append cs rest).isInfix

/-- A recogniser that a character stops finds something on one of its sides or nowhere. -/
theorem isSome_firstMatch?_append_cons {recognise : Recogniser} {d : Char} (h : recognise.StopsAt d)
    (before : Option Char) (cs rest : List Char) :
    (firstMatch? recognise before (cs ++ d :: rest)).isSome =
      ((firstMatch? recognise before cs).isSome || (firstMatch? recognise (some d) rest).isSome) := by
  induction cs generalizing before with
  | nil =>
    have hstop := h before [] rest
    rw [List.nil_append] at hstop
    rw [List.nil_append, firstMatch?, firstMatch?, hstop]
    cases recognise before [] <;> simp
  | cons c cs ih =>
    have hstop := h before (c :: cs) rest
    rw [List.cons_append] at hstop ⊢
    rw [firstMatch?, firstMatch?, hstop]
    cases recognise before (c :: cs) with
    | some found => rfl
    | none => simpa using ih (some c)

end Text

namespace Query

/-! ## What hints find -/

theorem stopsAt_equalsVerb : equalsVerb.StopsAt ' ' := by
  have hwords : (afterWholeWord? ["equals".toList, "is".toList]).StopsAt ' ' :=
    stopsAt_afterWholeWord? (by decide) (by decide)
  intro before cs rest
  cases cs with
  | nil => exact hwords before [] rest
  | cons c cs =>
    rw [List.cons_append, equalsVerb, equalsVerb, List.head?_cons, List.head?_cons]
    split
    · rfl
    · exact hwords before (c :: cs) rest

section

variable {number : List Char}

/-- No verb of equality stands in a numeral. -/
theorem isFound_equalsVerb_numeral (hnumber : IsNumeral number) (before : Option Char) :
    Text.firstMatch? equalsVerb before number = none := by
  -- the words are read in letters of any case, so each spelling of a first letter is checked
  have hclass : ∀ keyword ∈ ["equals".toList, "is".toList], keyword ≠ [] ∧
      ∀ k ∈ keyword.head?, ∀ n ∈ Text.caseClass (Text.lowerCode k.toNat),
        isNumeralChar (Char.ofNat n) = false := by
    decide
  rw [Text.firstMatch?_eq_none_iff]
  rintro skipped tail rfl
  have hhead : ∀ c ∈ tail.head?, isNumeralChar c = true := fun c hc =>
    hnumber.chars c (List.mem_append_right skipped (List.mem_of_mem_head? hc))
  have hsign : (tail.head? == some '=') = false := by
    rw [beq_eq_false_iff_ne]
    exact fun heq => absurd (hhead '=' heq) (by decide)
  rw [equalsVerb, hsign, if_neg Bool.false_ne_true, afterWholeWord?]
  split
  · rw [List.findSome?_eq_none_iff]
    intro keyword hkeyword
    obtain ⟨hne, hletters⟩ := hclass keyword hkeyword
    obtain ⟨k, ks, rfl⟩ := List.exists_cons_of_ne_nil hne
    rw [Text.afterKeyword?_of_class isNumeralChar_lowerChar (hletters k rfl) ks hhead]
  · rfl

/-- A number after a space changes nothing in the comparator that a text seems to speak of. -/
theorem likelyComparator?_append {start : List Char} (hstart : Text.IsUniform start)
    (hnumber : IsNumeral number) :
    likelyComparator? (start ++ ' ' :: number) = likelyComparator? (start ++ [' ']) := by
  have hfolded := isFolded_of_numeral hnumber.chars
  have hspace : Text.isUniform ' ' = true := by decide
  have huniform : ∀ digits, Text.IsUniform digits → Text.IsUniform (start ++ ' ' :: digits) := by
    intro digits hdigits
    exact List.forall_mem_append.mpr ⟨hstart, List.forall_mem_cons.mpr ⟨hspace, hdigits⟩⟩
  have hlower : Text.lower (start ++ ' ' :: number) = Text.fold start ++ ' ' :: number := by
    rw [Text.lower_eq_fold (huniform number hfolded.isUniform), Text.fold_append, Text.fold_cons,
      hfolded]
    rfl
  have hlower' : Text.lower (start ++ [' ']) = Text.fold start ++ [' '] := by
    rw [Text.lower_eq_fold (huniform [] fun c hc => absurd hc List.not_mem_nil), Text.fold_append]
    rfl
  -- no piece that is looked for has a character of a
  -- numeral in it, so none reaches into the number
  have hpiece : ∀ piece : List Char, piece ≠ [] → (∀ c ∈ piece, isNumeralChar c = false) →
      Text.occursIn piece (Text.fold start ++ ' ' :: number) =
        Text.occursIn piece (Text.fold start ++ [' ']) := by
    intro piece hne hpiece
    have hparts : Text.fold start ++ ' ' :: number = (Text.fold start ++ [' ']) ++ number := by simp
    rw [hparts, Text.occursIn_append hne hpiece hnumber.chars]
  have hverb : isFound equalsVerb (Text.fold start ++ ' ' :: number) =
      isFound equalsVerb (Text.fold start ++ [' ']) := by
    rw [isFound, isFound, Text.isSome_firstMatch?_append_cons stopsAt_equalsVerb,
      Text.isSome_firstMatch?_append_cons stopsAt_equalsVerb, isFound_equalsVerb_numeral hnumber]
    rfl
  simp only [likelyComparator?, hlower, hlower', hverb, hpiece ">=".toList (by decide) (by decide),
    hpiece "<=".toList (by decide) (by decide), hpiece "!=".toList (by decide) (by decide),
    hpiece ">".toList (by decide) (by decide), hpiece "<".toList (by decide) (by decide),
    hpiece "less than".toList (by decide) (by decide),
    hpiece "greater than".toList (by decide) (by decide),
    hpiece "more than".toList (by decide) (by decide)]

/-- The first number of a text that ends with one is that one, if nothing before it looks like one. -/
theorem firstNumeral?_append {start : List Char} (hstart : ∀ c ∈ start, isNumeralChar c = false)
    (hnumber : IsNumeral number) : firstNumeral? (start ++ number) = some (operand number) := by
  induction start with
  | nil =>
    obtain ⟨c, cs, rfl⟩ := List.exists_cons_of_ne_nil hnumber.ne_nil
    have hwhole : takeNumeral? (c :: cs) = some (c :: cs, []) := hnumber
    rw [List.nil_append, firstNumeral?, hwhole]
  | cons c start ih =>
    rw [List.cons_append, firstNumeral?, takeNumeral?_eq_none (hstart c List.mem_cons_self)]
    exact ih fun d hd => hstart d (List.mem_cons_of_mem c hd)

end

/-! ## Previewed comparisons -/

/-- The phrases whose comparisons with numbers are answered at once, with the column of each. -/
def previewedColumns : List (Entity × String × String) := [
  (.clients, "priority", "PriorityLevel"), (.clients, "priority level", "PriorityLevel"),
  (.tasks, "duration", "Duration")]

/-- The comparators that are understood at once. -/
def previewedComparators : List (String × Comparator) := Vocabulary.signedComparators ++ [
  ("equals", .eq), ("less than", .lt), ("more than", .gt), ("greater than", .gt)]

/-- A phrase, and perhaps a verb after it. -/
def subject (phrase : String) : (verb : Option String) → List Char
  | none => phrase.toList
  | some lead => ledPhrase phrase.toList lead

section

variable {entity : Entity} {phrase column keyword lead : String} {comparator : Comparator}
  {number : List Char}

/-- The first hint for an instant answer is about the column, and cued by the phrase. -/
theorem exists_hint (h : (entity, phrase, column) ∈ previewedColumns) : ∃ cue later,
    previewHints entity = ⟨column, mentions cue, comparedNumber?⟩ :: later ∧
      cue.toList <+: phrase.toList := by
  have hpriority : "priority".toList <+: "priority level".toList := ⟨" level".toList, by decide⟩
  simp only [previewedColumns, List.mem_cons, Prod.mk.injEq, List.not_mem_nil, or_false] at h
  rcases h with ⟨rfl, rfl, rfl⟩ | ⟨rfl, rfl, rfl⟩ | ⟨rfl, rfl, rfl⟩
  · exact ⟨"priority", _, rfl, List.prefix_rfl⟩
  · exact ⟨"priority", _, rfl, hpriority⟩
  · exact ⟨"duration", _, rfl, List.prefix_rfl⟩

/-- What a text says before its number already tells the comparator. -/
theorem likelyComparator?_opening : ∀ entry ∈ previewedColumns, ∀ verb ∈ none :: leads.map some,
    ∀ spelling ∈ previewedComparators,
      likelyComparator? ((subject entry.2.1 verb ++ ' ' :: spelling.1.toList) ++ [' ']) =
        some spelling.2 := by
  decide +kernel

theorem chars_opening : ∀ entry ∈ previewedColumns, ∀ verb ∈ none :: leads.map some,
    ∀ spelling ∈ previewedComparators, ∀ c ∈ subject entry.2.1 verb ++ ' ' :: spelling.1.toList,
      isNumeralChar c = false ∧ Text.isUniform c = true ∧ Text.lowerChar c = c := by
  decide +kernel

theorem mem_verbs {verb : Option String} (h : ∀ lead ∈ verb, lead ∈ leads) :
    verb ∈ none :: leads.map some := by
  cases verb with
  | none => exact List.mem_cons_self
  | some lead => exact List.mem_cons_of_mem _ (List.mem_map_of_mem (h lead rfl))

/-- A comparison is what it opens with, and its number. -/
theorem comparisonText_eq (verb : Option String) :
    comparisonText (subject phrase verb) keyword.toList number =
      (subject phrase verb ++ ' ' :: keyword.toList) ++ ' ' :: number := by
  simp [comparisonText]

/-- The comparison is read off the text, with or without a verb. -/
theorem comparedNumber?_comparisonText (hphrase : (entity, phrase, column) ∈ previewedColumns)
    {verb : Option String} (hverb : verb ∈ none :: leads.map some)
    (hkeyword : (keyword, comparator) ∈ previewedComparators) (hnumber : IsNumeral number) :
    comparedNumber? (comparisonText (subject phrase verb) keyword.toList number) =
      some (.compare comparator (operand number)) := by
  have hchars := chars_opening _ hphrase verb hverb _ hkeyword
  have hlikely := likelyComparator?_opening _ hphrase verb hverb _ hkeyword
  rw [← likelyComparator?_append (fun c hc => (hchars c hc).2.1) hnumber, ← comparisonText_eq]
    at hlikely
  have hspace : isNumeralChar ' ' = false := by decide
  have hstart : ∀ c ∈ (subject phrase verb ++ ' ' :: keyword.toList) ++ [' '],
      isNumeralChar c = false :=
    List.forall_mem_append.mpr
      ⟨fun c hc => (hchars c hc).1, fun c hc => by rw [List.mem_singleton.mp hc, hspace]⟩
  have hnumeral := firstNumeral?_append hstart hnumber
  rw [List.append_assoc, List.singleton_append, ← comparisonText_eq] at hnumeral
  rw [comparedNumber?, hlikely, hnumeral]

/-- What cues the hint stands at the start of the text. -/
theorem mentions_comparisonText (hphrase : (entity, phrase, column) ∈ previewedColumns)
    {verb : Option String} (hverb : verb ∈ none :: leads.map some)
    (hkeyword : (keyword, comparator) ∈ previewedComparators) (hnumber : IsNumeral number)
    {cue : String} (hcue : cue.toList <+: phrase.toList) :
    mentions cue
      (Text.lower (comparisonText (subject phrase verb) keyword.toList number)) = true := by
  have hchars := chars_opening _ hphrase verb hverb _ hkeyword
  have hspace : Text.isUniform ' ' = true := by decide
  have huniform : Text.IsUniform (comparisonText (subject phrase verb) keyword.toList number) := by
    rw [comparisonText_eq]
    exact List.forall_mem_append.mpr ⟨fun c hc => (hchars c hc).2.1, List.forall_mem_cons.mpr
      ⟨hspace, (isFolded_of_numeral hnumber.chars).isUniform⟩⟩
  have hfold : Text.fold (subject phrase verb ++ ' ' :: keyword.toList) =
      subject phrase verb ++ ' ' :: keyword.toList :=
    (List.map_congr_left fun c hc => (hchars c hc).2.2).trans (List.map_id _)
  have hsubject : phrase.toList <+: subject phrase verb := by
    cases verb with
    | none => exact List.prefix_rfl
    | some lead => exact List.prefix_append _ _
  rw [mentions, Text.lower_eq_fold huniform, comparisonText_eq, Text.fold_append, hfold,
    List.append_assoc, Text.occursIn_iff]
  exact (hcue.trans (hsubject.trans (List.prefix_append _ _))).isInfix

/-- The instant answer to a comparison is the comparison, with or without a verb. -/
theorem preview?_comparison {schema : Schema} (hphrase : (entity, phrase, column) ∈ previewedColumns)
    (hcolumn : column ∈ schema.names) {verb : Option String} (hverb : ∀ lead ∈ verb, lead ∈ leads)
    (hkeyword : (keyword, comparator) ∈ previewedComparators) (hnumber : IsNumeral number) :
    preview? entity schema (comparisonText (subject phrase verb) keyword.toList number) =
      some ⟨column, .compare comparator (operand number)⟩ := by
  obtain ⟨cue, later, hhints, hcue⟩ := exists_hint hphrase
  have hmem := mem_verbs hverb
  have hread := comparedNumber?_comparisonText hphrase hmem hkeyword hnumber
  have hmentioned := mentions_comparisonText hphrase hmem hkeyword hnumber hcue
  have hleaf : Hint.leaf? schema.names (comparisonText (subject phrase verb) keyword.toList number)
      ⟨column, mentions cue, comparedNumber?⟩ =
        some ⟨column, .compare comparator (operand number)⟩ := by
    simp only [Hint.leaf?, hmentioned, List.contains_iff_mem.mpr hcolumn, Bool.and_true, if_true,
      hread, Option.map_some]
  rw [preview?, firstHint?, hhints, List.findSome?_cons, hleaf]

/-! ## Translated comparisons -/

theorem isFieldPhrase_of_previewed (h : (entity, phrase, column) ∈ previewedColumns) :
    IsFieldPhrase entity phrase.toList := by
  have hall : ∀ entry ∈ previewedColumns, entry.2.1.toList ∈
      (Vocabulary.synonyms entry.1).map fun synonym => synonym.1.toList := by
    decide
  exact .inl (hall _ h)

/-- A phrase means its column, in the spelling of the first header that has its letters. -/
theorem columnOf?_previewed (h : (entity, phrase, column) ∈ previewedColumns)
    (columns : List String) : Vocabulary.columnOf? entity columns phrase.toList =
      some ((Vocabulary.headerLike? columns column).getD column) := by
  have hall : ∀ entry ∈ previewedColumns, ∃ words, Vocabulary.phraseWords entry.2.1.toList = words ∧
      words ≠ [] ∧ (Vocabulary.synonyms entry.1).lookup
        (String.ofList (Vocabulary.joined words)) = some entry.2.2 := by
    intro entry hentry
    exact ⟨_, rfl, by revert entry; decide +kernel⟩
  obtain ⟨words, hwords, hne, hlookup⟩ := hall _ h
  obtain ⟨w, ws, rfl⟩ := List.exists_cons_of_ne_nil hne
  simp only [Vocabulary.columnOf?, hwords, hlookup]

/-- Without a verb the translation of a comparison is that comparison. -/
theorem filter?_previewed (hphrase : (entity, phrase, column) ∈ previewedColumns)
    (hkeyword : (keyword, comparator) ∈ previewedComparators) (hnumber : IsNumeral number)
    (columns : List String) :
    filter? entity columns (comparisonText phrase.toList keyword.toList number) =
      some (.leaf ⟨(Vocabulary.headerLike? columns column).getD column,
        .compare comparator (operand number)⟩) := by
  have hlisted : ∀ spelling ∈ previewedComparators, spelling ∈ comparatorSpellings := by decide
  -- stated before it meets the goal, where comparing the two texts would unfold them
  have hfilter := filter?_comparison (isFieldPhrase_of_previewed hphrase) hnumber
    (hlisted _ hkeyword) (columnOf?_previewed hphrase columns)
  exact hfilter

/-- What a header has in common with the words that it is found by. -/
theorem headerOf?_eq_some {columns : List String} {words : List (List Char)} {found : String}
    (h : Vocabulary.headerOf? columns words = some found) :
    Text.lowerText found = Text.lowerText (String.ofList (Vocabulary.joined words)) ∨
      (Vocabulary.phraseWords found.toList).flatten = words.flatten ∨
      found = String.ofList (words.flatMap Vocabulary.capitalised) := by
  rcases Option.or_eq_some_iff.mp h with h | ⟨-, h⟩
  · rcases Option.or_eq_some_iff.mp h with h | ⟨-, h⟩
    · have heq := List.find?_some h
      exact .inl (beq_iff_eq.mp heq)
    · have heq := List.find?_some h
      exact .inr (.inl (beq_iff_eq.mp heq))
  · have heq := List.find?_some h
    exact .inr (.inr (beq_iff_eq.mp heq))

/-- A phrase with a verb after it never means the column of the phrase. -/
theorem columnOf?_ledPhrase_ne (h : (entity, phrase, column) ∈ previewedColumns)
    (hlead : lead ∈ leads) {columns : List String} {found : String}
    (hfound : Vocabulary.columnOf? entity columns (ledPhrase phrase.toList lead) = some found) :
    found ≠ column := by
  have hall : ∀ entry ∈ previewedColumns, ∀ lead ∈ leads,
      let words := Vocabulary.phraseWords (ledPhrase entry.2.1.toList lead)
      (Vocabulary.synonyms entry.1).lookup (String.ofList (Vocabulary.joined words)) = none ∧
        Text.lowerText entry.2.2 ≠ Text.lowerText (String.ofList (Vocabulary.joined words)) ∧
        (Vocabulary.phraseWords entry.2.2.toList).flatten ≠ words.flatten ∧
        entry.2.2 ≠ String.ofList (words.flatMap Vocabulary.capitalised) := by
    decide +kernel
  -- no synonym stands for the longer phrase, and a header that it names has
  -- its words, its letters or its capitals: the column has none of these
  obtain ⟨hlookup, hjoined, hflat, hcapitals⟩ := hall _ h lead hlead
  rw [Vocabulary.columnOf?] at hfound
  split at hfound
  · cases hfound
  · rw [hlookup] at hfound
    rintro rfl
    rcases headerOf?_eq_some hfound with heq | heq | heq
    · exact hjoined heq
    · exact hflat heq
    · exact hcapitals heq

/-- A number is not the text of a comparator and that number. -/
theorem operand_ne_spelledValue (keyword : String) (number : List Char) :
    operand number ≠ .text (String.ofList (spelledValue keyword number)) := by
  intro heq
  rw [operand, Cell.castNumeral, String.toList_ofList, Cell.ofNumeral?] at heq
  split at heq
  · cases heq
  · cases hnumber : Cell.numberOfText? number with
    | some x =>
      rw [hnumber] at heq
      cases heq
    | none =>
      rw [hnumber] at heq
      have hlength := congrArg List.length (String.ofList_injective (Cell.text.inj heq))
      simp only [spelledValue, List.length_append, List.length_cons] at hlength
      omega

/-- The instant answer to a comparison of a priority or a duration with a number is that comparison.
The translation of the same query agrees exactly if no verb stands before the comparator, and no
earlier header has the same letters as the column. After a verb, a comparator in words is taken with
the number for a text that the column should equal; before a comparator in signs, the verb is taken
for a part of the column's name, and the query is mostly not understood. -/
theorem preview_is_translated_iff (schema : Schema) (entity : Entity) (phrase column : String)
    (hphrase : (entity, phrase, column) ∈ previewedColumns) (hcolumn : column ∈ schema.names)
    (verb : Option String) (hverb : ∀ lead ∈ verb, lead ∈ leads) (keyword : String)
    (comparator : Comparator) (hkeyword : (keyword, comparator) ∈ previewedComparators)
    (number : List Char) (hnumber : IsNumeral number) :
    let text := comparisonText (subject phrase verb) keyword.toList number
    let header := (Vocabulary.headerLike? schema.names column).getD column
    let test := Test.compare comparator (operand number)
    preview? entity schema text = some ⟨column, test⟩ ∧
    (filter? entity schema.names text = some (.leaf ⟨column, test⟩) ↔
      verb = none ∧ header = column) ∧
    (verb = none → filter? entity schema.names text = some (.leaf ⟨header, test⟩)) ∧
    ∀ lead ∈ verb,
      ((keyword, comparator) ∈ Vocabulary.spelledComparators →
        filter? entity schema.names text = some (.leaf ⟨header,
          .compare .eq (.text (String.ofList (spelledValue keyword number)))⟩)) ∧
      ((keyword, comparator) ∈ Vocabulary.signedComparators →
        filter? entity schema.names text =
          (Vocabulary.columnOf? entity schema.names (ledPhrase phrase.toList lead)).map
            fun found => .leaf ⟨found, test⟩) := by
  intro text header test
  have hsteady := (isFieldPhrase_of_previewed hphrase).isSteady
  have hmeans := columnOf?_previewed hphrase schema.names
  have hunled : verb = none → filter? entity schema.names text = some (.leaf ⟨header, test⟩) := by
    rintro rfl
    exact filter?_previewed hphrase hkeyword hnumber schema.names
  have hspelled : ∀ lead ∈ verb, (keyword, comparator) ∈ Vocabulary.spelledComparators →
      filter? entity schema.names text = some (.leaf ⟨header,
        .compare .eq (.text (String.ofList (spelledValue keyword number)))⟩) := by
    rintro lead rfl hword
    exact filter?_led_spelled hsteady (hverb lead rfl) hnumber hword hmeans
  have hsigned : ∀ lead ∈ verb, (keyword, comparator) ∈ Vocabulary.signedComparators →
      filter? entity schema.names text =
        (Vocabulary.columnOf? entity schema.names (ledPhrase phrase.toList lead)).map
          fun found => .leaf ⟨found, test⟩ := by
    rintro lead rfl hsign
    exact filter?_led_signed hsteady.toIsWhole (hverb lead rfl) hnumber hsign entity schema.names
  refine ⟨preview?_comparison hphrase hcolumn hverb hkeyword hnumber, ⟨fun hagree => ?_, ?_⟩, hunled,
    fun lead hlead => ⟨hspelled lead hlead, hsigned lead hlead⟩⟩
  · cases verb with
    | none =>
      rw [hunled rfl] at hagree
      exact ⟨rfl, congrArg Leaf.field (Filter.leaf.inj (Option.some.inj hagree))⟩
    | some lead =>
      have hlisted : ∀ spelling ∈ previewedComparators, spelling ∈ comparatorSpellings := by decide
      rcases List.mem_append.mp (hlisted _ hkeyword) with hsign | hword
      · -- the verb is taken into the phrase, which then names another column
        rw [hsigned lead rfl hsign] at hagree
        obtain ⟨found, hfound, hleaf⟩ := Option.map_eq_some_iff.mp hagree
        exact absurd (congrArg Leaf.field (Filter.leaf.inj hleaf))
          (columnOf?_ledPhrase_ne hphrase (hverb lead rfl) hfound)
      · -- the comparator is taken into the operand, which then is no number
        rw [hspelled lead rfl hword] at hagree
        have htest := congrArg Leaf.test (Filter.leaf.inj (Option.some.inj hagree))
        exact absurd (Test.compare.inj htest).2.symm (operand_ne_spelledValue keyword number)
  · rintro ⟨hnone, hheader⟩
    rw [hunled hnone, hheader]

/-- A verb, and the comparison that was shown at once is lost: "less than 5" becomes a text, and "is"
a part of a column's name. -/
theorem verb_spoils_translation :
    let schema : Schema := [⟨"PriorityLevel", .number, []⟩]
    preview? .clients schema "priority is less than 5".toList =
      some ⟨"PriorityLevel", .compare .lt (operand "5".toList)⟩ ∧
    filter? .clients schema.names "priority is less than 5".toList =
      some (.leaf ⟨"PriorityLevel", .compare .eq (.text "less than 5")⟩) ∧
    preview? .clients schema "priority is > 5".toList =
      some ⟨"PriorityLevel", .compare .gt (operand "5".toList)⟩ ∧
    filter? .clients schema.names "priority is > 5".toList = none := by
  intro schema
  have hcolumn : "PriorityLevel" ∈ schema.names := by decide
  have hnumber : IsNumeral "5".toList := by
    unfold IsNumeral
    decide +kernel
  have hverb : ∀ lead ∈ some "is", lead ∈ leads := by decide
  have hheader : (Vocabulary.headerLike? schema.names "PriorityLevel").getD "PriorityLevel" =
      "PriorityLevel" := by
    decide +kernel
  obtain ⟨hpreview, -, -, htranslated⟩ := preview_is_translated_iff schema .clients "priority"
    "PriorityLevel" (by decide) hcolumn (some "is") hverb "less than" .lt (by decide) _ hnumber
  obtain ⟨hpreviewSigned, -, -, htranslatedSigned⟩ := preview_is_translated_iff schema .clients
    "priority" "PriorityLevel" (by decide) hcolumn (some "is") hverb ">" .gt (by decide) _ hnumber
  have hspelled := (htranslated "is" rfl).1 (by decide)
  have hsigned := (htranslatedSigned "is" rfl).2 (by decide)
  rw [hheader] at hspelled
  have hunknown : Vocabulary.columnOf? .clients schema.names (ledPhrase "priority".toList "is") =
      none := by
    decide +kernel
  rw [hunknown] at hsigned
  exact ⟨hpreview, hspelled, hpreviewSigned, hsigned⟩

end

end Query

end SheetQuery
