import SheetQuery.Proofs.Query.Numeral
import SheetQuery.Proofs.Query.Words

/-!
# Phrases

What a clause starts with. A phrase is read to its end if no rest of it is taken for the start of what
follows a phrase; no set phrase for a column has such a rest.

* `IsFieldPhrase`: a set phrase for a column, or a single word that is no filler;
* `IsWhole`, `IsWhole.clauses_eq`: phrases that make one clause with what follows them;
* `IsWhole.afterPhrase?_eq`: a phrase is read to its end if nothing is read behind its own blanks;
* `IsSteady`, `IsSteady.phraseForm_eq_none`: phrases behind whose blanks no keyword is read.
-/

namespace SheetQuery.Query

open Text (isBlank isWordChar sameLetter tailsAfterBlanks clashes)

/-! ## Phrases -/

/-- Is a text one of the set phrases for a column, or a single word that holds no filler? -/
def IsFieldPhrase (entity : Entity) (phrase : List Char) : Prop :=
  phrase ∈ (Vocabulary.synonyms entity).map (fun entry => entry.1.toList) ∨
    phrase ≠ [] ∧ (∀ c ∈ phrase, isWordChar c = true) ∧
      Text.firstMatch? (afterWholeWord? fillers) none phrase = none

section

variable {α : Type} {read : List Char → Option α}

theorem afterPhrase?_eq_none {cs : List Char} (h : ∀ tail, tail <:+ cs → read tail = none) :
    afterPhrase? read cs = none := by
  induction cs with
  | nil => rfl
  | cons c cs ih =>
    have hrest := ih fun tail htail => h tail (htail.trans (List.suffix_cons c cs))
    rw [afterPhrase?, h cs (List.suffix_cons c cs), hrest]
    split <;> rfl

/-- A phrase ends where the text after it is read, unless the text after a part of it is. -/
theorem afterPhrase?_append {phrase rest : List Char} {a : α} (hne : phrase ≠ [])
    (hchars : ∀ c ∈ phrase, isPhraseChar c = true)
    (hinner : ∀ tail, tail ≠ [] → tail <:+ phrase → read (tail ++ rest) = none)
    (h : read rest = some a) : afterPhrase? read (phrase ++ rest) = some (phrase, a) := by
  induction phrase with
  | nil => exact absurd rfl hne
  | cons c phrase ih =>
    rw [List.cons_append, afterPhrase?, if_pos (hchars c List.mem_cons_self)]
    by_cases hphrase : phrase = []
    · subst hphrase
      rw [List.nil_append, h]
    · rw [hinner phrase hphrase (List.suffix_cons c phrase)]
      have hrest := ih hphrase (fun d hd => hchars d (List.mem_cons_of_mem c hd))
        fun tail htail hsuffix => hinner tail htail (hsuffix.trans (List.suffix_cons c phrase))
      rw [hrest]
      rfl

end

/-- A form with keywords does not read a text if none of them is read behind the blanks of its parts. -/
theorem phraseForm_spaced?_eq_none {keywords : List String} {read : List Char → Option Test}
    {phrase rest : List Char}
    (hphrase : ∀ t ∈ tailsAfterBlanks phrase, afterWord? keywords read (t ++ rest) = none)
    (hrest : ∀ t ∈ tailsAfterBlanks rest, afterWord? keywords read t = none) :
    phraseForm (spaced? keywords read) (phrase ++ rest) = none := by
  have hall : ∀ t ∈ tailsAfterBlanks (phrase ++ rest), afterWord? keywords read t = none := by
    rw [Text.tailsAfterBlanks_append]
    intro t ht
    rcases List.mem_append.mp ht with ht | ht
    · obtain ⟨inner, hinner, rfl⟩ := List.mem_map.mp ht
      exact hphrase inner hinner
    · exact hrest t ht
  have hphrases : afterPhrase? (spaced? keywords read) (phrase ++ rest) = none :=
    afterPhrase?_eq_none fun tail htail => Text.bind_afterBlanks?_eq_none hall htail
  rw [phraseForm, hphrases]
  rfl

/-- The keywords of the form for inclusion. -/
def inclusionKeywords : List String := ["includes", "include", "contains", "contain"]

/-- The keywords of the form for equality. -/
def equalityKeywords : List String := ["must be", "should be", "is", "equals", "="]

/-- The keywords, other than comparators in words, that may follow a phrase. -/
def linkKeywords : List String := "and" :: "between" :: inclusionKeywords ++ equalityKeywords

/-- A phrase that stays in one piece with what follows it: it ends with a word, and after its blanks
comes neither a filler nor `and`. -/
structure IsWhole (phrase : List Char) : Prop where
  ne_nil : phrase ≠ []
  chars : ∀ c ∈ phrase, isPhraseChar c = true
  first : ∀ c ∈ phrase.head?, isBlank c = false
  last : ∀ c ∈ phrase.getLast?, isBlank c = false
  unfilled : Text.firstMatch? (afterWholeWord? fillers) none phrase = none
  unjoined : ∀ t ∈ tailsAfterBlanks phrase, clashes "and".toList t = true

/-- A phrase that is read as the phrase of a clause, to its end: none of its own words begins a
keyword. -/
structure IsSteady (phrase : List Char) : Prop extends IsWhole phrase where
  inner : ∀ t ∈ tailsAfterBlanks phrase, ∀ keyword ∈ linkKeywords ++ spelledKeywords,
    clashes keyword.toList t = true
  worded : ∀ t ∈ tailsAfterBlanks phrase, ∃ c cs, t = c :: cs ∧ isNumeralChar c = false

theorem isSteady_synonyms (entity : Entity) : ∀ entry ∈ Vocabulary.synonyms entity,
    IsSteady entry.1.toList := by
  have hall : ∀ entry ∈ Vocabulary.synonyms entity, entry.1.toList ≠ [] ∧
      (∀ c ∈ entry.1.toList, isPhraseChar c = true) ∧
      (∀ c ∈ entry.1.toList.head?, isBlank c = false) ∧
      (∀ c ∈ entry.1.toList.getLast?, isBlank c = false) ∧
      Text.firstMatch? (afterWholeWord? fillers) none entry.1.toList = none ∧
      ∀ t ∈ tailsAfterBlanks entry.1.toList,
        (∀ keyword ∈ linkKeywords ++ spelledKeywords, clashes keyword.toList t = true) ∧
          t ≠ [] ∧ ∀ c ∈ t.head?, isNumeralChar c = false := by
    cases entity <;> decide
  intro entry hentry
  obtain ⟨hne, hchars, hfirst, hlast, hunfilled, hinner⟩ := hall entry hentry
  have hand : "and" ∈ linkKeywords ++ spelledKeywords := by decide
  refine ⟨⟨hne, hchars, hfirst, hlast, hunfilled, fun t ht => (hinner t ht).1 "and" hand⟩,
    fun t ht => (hinner t ht).1, fun t ht => ?_⟩
  obtain ⟨-, htail, hhead⟩ := hinner t ht
  obtain ⟨c, cs, rfl⟩ := List.exists_cons_of_ne_nil htail
  exact ⟨c, cs, rfl, hhead c rfl⟩

theorem IsFieldPhrase.isSteady {entity : Entity} {phrase : List Char}
    (h : IsFieldPhrase entity phrase) : IsSteady phrase := by
  rcases h with h | ⟨hne, hword, hunfilled⟩
  · obtain ⟨entry, hentry, rfl⟩ := List.mem_map.mp h
    exact isSteady_synonyms entity entry hentry
  · have hblank : ∀ c ∈ phrase, isBlank c = false := fun c hc => Text.not_isBlank_of_isWordChar (hword c hc)
    have hinner : ∀ t, t ∉ tailsAfterBlanks phrase := by
      rw [Text.tailsAfterBlanks_eq_nil hblank]
      exact fun t => List.not_mem_nil
    refine ⟨⟨hne, ?_, ?_, ?_, hunfilled, fun t ht => absurd ht (hinner t)⟩,
      fun t ht => absurd ht (hinner t), fun t ht => absurd ht (hinner t)⟩
    · intro c hc
      rw [isPhraseChar, hword c hc]
      rfl
    · exact fun c hc => hblank c (List.mem_of_mem_head? hc)
    · exact fun c hc => hblank c (List.mem_of_getLast? hc)

/-! ## Phrases in one piece -/

namespace IsWhole

variable {phrase rest : List Char}

theorem last_of_suffix {tail : List Char} (h : IsWhole phrase) (htail : tail <:+ phrase) :
    ∀ c ∈ tail.getLast?, isBlank c = false := by
  obtain ⟨before, rfl⟩ := htail
  intro c hc
  apply h.last c
  rw [List.getLast?_append, Option.mem_def.mp hc]
  rfl

/-- A phrase ends before the blanks after which a keyword and a number are read. -/
theorem afterPhrase?_eq {α : Type} {read : List Char → Option α} {after : List Char} {a : α}
    (h : IsWhole phrase) (hblanks : Text.afterBlanks? rest = some after)
    (hinner : ∀ t ∈ tailsAfterBlanks phrase, read (t ++ rest) = none) (hread : read after = some a) :
    afterPhrase? (fun cs => (Text.afterBlanks? cs).bind read) (phrase ++ rest) =
      some (phrase, a) := by
  apply afterPhrase?_append h.ne_nil h.chars
  · intro tail hne hsuffix
    rw [Text.afterBlanks?_append hne (h.last_of_suffix hsuffix), Option.bind_eq_none_iff]
    intro inner hafter
    obtain ⟨t, ht, rfl⟩ := Option.map_eq_some_iff.mp hafter
    exact hinner t (Text.tailsAfterBlanks_subset hsuffix (Text.mem_tailsAfterBlanks ht))
  · rw [hblanks, Option.bind_some, hread]

section

variable {d : Char}

theorem isTrimmed (h : IsWhole phrase) (hlast : ∀ c ∈ (d :: rest).getLast?, isBlank c = false) :
    Text.IsTrimmed isBlank (phrase ++ d :: rest) := by
  obtain ⟨c, cs, rfl⟩ := List.exists_cons_of_ne_nil h.ne_nil
  refine ⟨h.first, ?_⟩
  rwa [List.getLast?_append_of_ne_nil _ (List.cons_ne_nil d rest)]

theorem firstMatch?_fillers (h : IsWhole phrase) (hd : isWordChar d = false)
    (hletters : ∀ filler ∈ fillers, ∀ k ∈ filler, sameLetter k d = false)
    (hunfilled : Text.firstMatch? (afterWholeWord? fillers) (some d) rest = none) :
    Text.firstMatch? (afterWholeWord? fillers) none (phrase ++ d :: rest) = none :=
  Text.firstMatch?_append_cons (stopsAt_afterWholeWord? hd hletters) h.unfilled hunfilled

/-- A phrase brings no `and` between blanks and no mark into a clause. -/
theorem uncut (h : IsWhole phrase)
    (hand : ∀ t ∈ tailsAfterBlanks rest,
      (Text.afterKeyword? "and".toList t).bind Text.afterBlanks? = none)
    (hmarks : ',' ∉ rest ∧ ';' ∉ rest) :
    (∀ t ∈ tailsAfterBlanks (phrase ++ rest),
      (Text.afterKeyword? "and".toList t).bind Text.afterBlanks? = none) ∧
      ',' ∉ phrase ++ rest ∧ ';' ∉ phrase ++ rest := by
  have hphraseMarks : ∀ mark ∈ [',', ';'], mark ∉ phrase := by
    have hall : ∀ mark ∈ [',', ';'], isPhraseChar mark = false := by decide
    intro mark hmark hmem
    have hchar := h.chars mark hmem
    rw [hall mark hmark] at hchar
    cases hchar
  simp only [List.mem_append, not_or]
  refine ⟨?_, ⟨hphraseMarks ',' (by decide), hmarks.1⟩, ⟨hphraseMarks ';' (by decide), hmarks.2⟩⟩
  -- an `and` would begin after blanks of the phrase or of the rest
  rw [Text.tailsAfterBlanks_append]
  intro t ht
  rcases List.mem_append.mp ht with ht | ht
  · obtain ⟨inner, hinner, rfl⟩ := List.mem_map.mp ht
    rw [Text.afterKeyword?_of_clashes (h.unjoined inner hinner)]
    rfl
  · exact hand t ht

/-- What follows a phrase makes one clause with it if it holds no filler, no mark and no `and` between
blanks. -/
theorem clauses_eq (h : IsWhole phrase) (hd : isWordChar d = false)
    (hletters : ∀ filler ∈ fillers, ∀ k ∈ filler, sameLetter k d = false)
    (hunfilled : Text.firstMatch? (afterWholeWord? fillers) (some d) rest = none)
    (hlast : ∀ c ∈ (d :: rest).getLast?, isBlank c = false)
    (hand : ∀ t ∈ tailsAfterBlanks (d :: rest),
      (Text.afterKeyword? "and".toList t).bind Text.afterBlanks? = none)
    (hmarks : ',' ∉ d :: rest ∧ ';' ∉ d :: rest) :
    Text.trim (phrase ++ d :: rest) = phrase ++ d :: rest ∧
      clauses (phrase ++ d :: rest) = [phrase ++ d :: rest] := by
  obtain ⟨hnoAnd, hnoMarks⟩ := h.uncut hand hmarks
  exact ⟨Text.trimWith_of_isTrimmed (h.isTrimmed hlast), clauses_eq_singleton (by simp)
    (h.isTrimmed hlast) (h.firstMatch?_fillers hd hletters hunfilled) hnoAnd hnoMarks⟩

end

end IsWhole

/-! ## Steady phrases -/

namespace IsSteady

variable {phrase rest : List Char}

theorem afterKeyword?_eq_none {keyword : String} (h : IsSteady phrase)
    (hkeyword : keyword ∈ linkKeywords ++ spelledKeywords) {t : List Char}
    (ht : t ∈ tailsAfterBlanks phrase) :
    Text.afterKeyword? keyword.toList (t ++ rest) = none :=
  Text.afterKeyword?_of_clashes (h.inner t ht keyword hkeyword) rest

/-- A form with keywords does not read a clause if none of them is read after its phrase. -/
theorem phraseForm_eq_none {keywords : List String} {read : List Char → Option Test}
    (h : IsSteady phrase) (hkeywords : keywords ⊆ linkKeywords)
    (hrest : ∀ t ∈ tailsAfterBlanks rest, afterWord? keywords read t = none) :
    phraseForm (spaced? keywords read) (phrase ++ rest) = none := by
  refine phraseForm_spaced?_eq_none (fun t ht => ?_) hrest
  rw [afterWord?, List.findSome?_eq_none_iff]
  intro keyword hkeyword
  rw [h.afterKeyword?_eq_none (List.mem_append_left spelledKeywords (hkeywords hkeyword)) ht]
  rfl

end IsSteady

/-- The leaf of a statement about a phrase that means a column. -/
theorem leaf?_ofPhrase {phrase : List Char} {entity : Entity} {columns : List String}
    {column : String} (test : Test)
    (h : Vocabulary.columnOf? entity columns phrase = some column) :
    (ofPhrase test phrase).leaf? entity columns = some ⟨column, test⟩ := by
  rw [Statement.leaf?, ofPhrase, Pointer.column?, h]
  rfl

/-- No keyword that may follow a phrase is read where a numeral stands. -/
theorem IsNumeral.afterLink?_eq_none {number : List Char} (h : IsNumeral number) {keyword : String}
    (hkeyword : keyword ∈ linkKeywords ++ spelledKeywords) (rest : List Char) :
    Text.afterKeyword? keyword.toList (number ++ rest) = none := by
  have hall : ∀ keyword ∈ linkKeywords ++ spelledKeywords, keyword.toList ≠ [] ∧
      ∀ k ∈ keyword.toList.head?, ∀ n ∈ Text.caseClass (Text.lowerCode k.toNat),
        isNumeralChar (Char.ofNat n) = false := by
    decide
  obtain ⟨hne, hclass⟩ := hall keyword hkeyword
  obtain ⟨k, ks, heq⟩ := List.exists_cons_of_ne_nil hne
  obtain ⟨c, cs, rfl⟩ := List.exists_cons_of_ne_nil h.ne_nil
  rw [heq] at hclass ⊢
  refine Text.afterKeyword?_of_class isNumeralChar_lowerChar (hclass k rfl) ks fun d hd => ?_
  rw [← Option.some.inj hd]
  exact h.chars c List.mem_cons_self

end SheetQuery.Query
