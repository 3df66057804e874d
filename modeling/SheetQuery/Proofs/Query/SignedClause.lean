import SheetQuery.Proofs.Query.Phrase
import SheetQuery.Proofs.Query.Shuns

/-!
# Comparisons in signs

A query `<phrase><sign><number>`, with any blanks or none on either side of the sign, is one clause,
and its leaf is that comparison, whatever the words of the phrase. Most forms read no text with a sign
in it. The sign `=` between blanks is read by the form for equality, before the signs have their turn;
the reading is the same.

* `shuns_includesForm`, `shuns_spelledForm`, …: forms that read no signs;
* `signedTail`, `IsSigned`: what follows the phrase;
* `IsSigned.clauses_eq`: the query is one clause;
* `IsSigned.clauseLeaf?_eq`: its leaf.
-/

namespace SheetQuery.Query

open Text (isBlank isWordChar sameLetter tailsAfterBlanks clashes)

/-- What a list of attempts comes to if only one of them succeeds. -/
theorem findSome?_eq_some {ι α : Type} {f : ι → Option α} {is : List ι} {i : ι} {a : α}
    (hmem : i ∈ is) (h : f i = some a) (hothers : ∀ j ∈ is, j ≠ i → f j = none) :
    is.findSome? f = some a := by
  cases hfound : is.findSome? f with
  | none =>
    rw [List.findSome?_eq_none_iff] at hfound
    rw [hfound i hmem] at h
    cases h
  | some b =>
    obtain ⟨j, hj, hb⟩ := List.exists_of_findSome?_eq_some hfound
    by_cases hij : j = i
    · rw [← hb, hij, h]
    · rw [hothers j hj hij] at hb
      cases hb

theorem any_head?_eq_false {cs : List Char} (h : ∀ c ∈ cs.head?, isBlank c = false) :
    cs.head?.any isBlank = false := by
  cases hcase : cs.head? with
  | none => rfl
  | some c => exact h c hcase

/-- What is read is read after any blanks. -/
theorem pastBlanks?_eq_some {α : Type} {read : List Char → Option α} {a : α} {blanks cs : List Char}
    (hne : blanks ≠ []) (hblanks : ∀ c ∈ blanks, isBlank c = true)
    (hfirst : ∀ c ∈ cs.head?, isBlank c = false) (hread : read cs = some a) :
    pastBlanks? read (blanks ++ cs) = some a := by
  have hlead : IgnoresLead read cs := by
    intro hnone
    rw [hread] at hnone
    cases hnone
  rw [pastBlanks?_append hne hblanks (any_head?_eq_false hfirst) hlead, hread]

theorem pastBlanks?_space {α : Type} {read : List Char → Option α} {a : α} {cs : List Char}
    (hfirst : ∀ c ∈ cs.head?, isBlank c = false) (hread : read cs = some a) :
    pastBlanks? read (' ' :: cs) = some a := by
  have hspace : ∀ c ∈ [' '], isBlank c = true := by decide
  exact pastBlanks?_eq_some (List.cons_ne_nil _ _) hspace hfirst hread

/-! ## Signs -/

/-- The characters of the signs. -/
def signChars : List Char := ['>', '<', '=', '!']

theorem eq_of_sameLetter_sign {k c : Char} (hk : k ∈ signChars) (h : sameLetter k c = true) :
    c = k := by
  have hplain : ∀ k ∈ signChars, Text.isPlainAscii k = true ∧
      Text.caseClass (Text.lowerCode k.toNat) = [k.toNat] := by
    decide
  obtain ⟨hascii, halone⟩ := hplain k hk
  exact Text.eq_of_sameLetter hascii halone h

/-- The characters that stand after the phrase of a comparison in signs. -/
def isSignedChar (c : Char) : Bool := isBlank c || signChars.contains c || isNumeralChar c

theorem isSignedChar_lowerChar (c : Char) : isSignedChar (Text.lowerChar c) = isSignedChar c := by
  have hsigns : signChars.contains (Text.lowerChar c) = signChars.contains c := by
    have hbeq : ∀ k ∈ signChars, (Text.lowerChar c == k) = (c == k) := by
      have hplain : ∀ k ∈ signChars, Text.isPlainAscii k = true := by decide
      exact fun k hk => Text.lowerChar_beq (hplain k hk) c
    simp only [signChars, List.contains_cons, List.contains_nil, hbeq '>' (by decide),
      hbeq '<' (by decide), hbeq '=' (by decide), hbeq '!' (by decide)]
  rw [isSignedChar, Text.isBlank_lowerChar, hsigns, isNumeralChar_lowerChar, isSignedChar]

/-- Of the keywords that may follow a phrase, only `=` begins with a character of a comparison in
signs, and no filler does. -/
theorem caseClass_wordKeywords :
    (∀ keyword ∈ linkKeywords, keyword ≠ "=" → keyword.toList ≠ [] ∧
      ∀ k ∈ keyword.toList.head?, ∀ n ∈ Text.caseClass (Text.lowerCode k.toNat),
        isSignedChar (Char.ofNat n) = false) ∧
    ∀ filler ∈ fillers, filler ≠ [] ∧
      ∀ k ∈ filler.head?, ∀ n ∈ Text.caseClass (Text.lowerCode k.toNat),
        isSignedChar (Char.ofNat n) = false := by
  decide

/-- No sign is read before any other character. -/
theorem afterKeyword?_of_ne_sign {k : Char} (hk : k ∈ signChars) (ks : List Char) {cs : List Char}
    (h : ∀ c ∈ cs.head?, c ≠ k) : Text.afterKeyword? (k :: ks) cs = none := by
  cases cs with
  | nil => rfl
  | cons c cs =>
    rw [Text.afterKeyword?, if_neg]
    exact fun hsame => h c rfl (eq_of_sameLetter_sign hk hsame)

theorem afterEquals?_eq_none {cs : List Char}
    (h : ∀ c ∈ cs.head?, isBlank c = true ∨ isNumeralChar c = true) :
    Text.afterKeyword? ['='] cs = none := by
  refine afterKeyword?_of_ne_sign (by decide) [] fun c hc => ?_
  rintro rfl
  have hfacts : isBlank '=' = false ∧ isNumeralChar '=' = false := by decide
  rcases h '=' hc with hblank | hchar
  · rw [hfacts.1] at hblank
    cases hblank
  · rw [hfacts.2] at hchar
    cases hchar

theorem afterKeyword?_of_isSignedChar {keyword cs : List Char} (hne : keyword ≠ [])
    (hkeyword : ∀ k ∈ keyword.head?, ∀ n ∈ Text.caseClass (Text.lowerCode k.toNat),
      isSignedChar (Char.ofNat n) = false)
    (h : ∀ c ∈ cs.head?, isSignedChar c = true) : Text.afterKeyword? keyword cs = none := by
  obtain ⟨k, ks, rfl⟩ := List.exists_cons_of_ne_nil hne
  exact Text.afterKeyword?_of_class isSignedChar_lowerChar (hkeyword k rfl) ks h

/-- No filler stands among the characters of comparisons in signs. -/
theorem firstMatch?_of_isSignedChar {cs : List Char} (h : ∀ c ∈ cs, isSignedChar c = true)
    (before : Option Char) : Text.firstMatch? (afterWholeWord? fillers) before cs = none := by
  rw [Text.firstMatch?_eq_none_iff]
  rintro skipped tail rfl
  rw [afterWholeWord?]
  split
  · rw [List.findSome?_eq_none_iff]
    intro filler hfiller
    obtain ⟨hne, hclass⟩ := caseClass_wordKeywords.2 filler hfiller
    rw [afterKeyword?_of_isSignedChar hne hclass fun c hc =>
      h c (List.mem_append_right skipped (List.mem_of_mem_head? hc))]
  · rfl

/-! ## Forms without signs -/

/-- A sign is of no phrase, number or value. -/
theorem apart_of_mem_signChars : ∀ c ∈ signChars, isPhraseChar c = false ∧ isBlank c = false ∧
    isNumeralChar c = false ∧ isValueChar c = false ∧ isSkillChar c = false ∧ c ≠ '"' := by
  decide

/-- The keywords of all forms but those in signs. -/
def wordKeywords : List String :=
  linkKeywords.filter (· != "=") ++ spelledKeywords ++ ["to", "phase", "skills", "skill"]

section

variable {c : Char}

theorem sameLetter_sign (hc : c ∈ signChars) {keywords : List String}
    (h : keywords ⊆ wordKeywords) :
    ∀ keyword ∈ keywords, ∀ k ∈ keyword.toList, sameLetter k c = false := by
  have hall : ∀ c ∈ signChars, ∀ keyword ∈ wordKeywords, ∀ k ∈ keyword.toList,
      sameLetter k c = false := by
    decide
  exact fun keyword hmem => hall c hc keyword (h hmem)

theorem shuns_value? (hc : c ∈ signChars) : Shuns c value? := by
  obtain ⟨-, -, -, hvalue, -, hquote⟩ := apart_of_mem_signChars c hc
  exact shuns_valueOf? hvalue hquote

theorem shuns_includesForm (hc : c ∈ signChars) : Shuns c includesForm := by
  obtain ⟨hphrase, hblank, -⟩ := apart_of_mem_signChars c hc
  have hletters : ∀ keyword ∈ inclusionKeywords, ∀ k ∈ keyword.toList, sameLetter k c = false :=
    sameLetter_sign hc (by decide)
  exact (((shuns_value? hc).map _).spaced? hblank hletters).phraseForm hphrase

theorem shuns_spelledForm (hc : c ∈ signChars) : Shuns c spelledForm := by
  obtain ⟨hphrase, hblank, hnumeral, -⟩ := apart_of_mem_signChars c hc
  have hletters : ∀ keyword ∈ spelledKeywords, ∀ k ∈ keyword.toList, sameLetter k c = false :=
    sameLetter_sign hc (by decide)
  have hnumber := (shuns_numeral? hnumeral).afterBlanks? hblank
  have htest : Shuns c spelledTest? := by
    intro cs hmem
    rw [spelledTest?, List.findSome?_eq_none_iff]
    intro keyword hkeyword
    rw [Option.bind_eq_none_iff]
    intro rest hrest
    rw [Option.map_eq_none_iff]
    exact hnumber rest (mem_of_afterKeyword?_eq_some (hletters keyword hkeyword) hrest hmem)
  intro cs hmem
  rw [spelledForm, (htest.afterBlanks? hblank).afterPhrase? hphrase cs hmem]

theorem shuns_betweenForm (hc : c ∈ signChars) : Shuns c betweenForm := by
  obtain ⟨hphrase, hblank, hnumeral, -⟩ := apart_of_mem_signChars c hc
  have hhigh : Shuns c (spaced? ["and", "to"] numeral?) :=
    (shuns_numeral? hnumeral).spaced? hblank (sameLetter_sign hc (by decide))
  have hrange : Shuns c (range? ["and", "to"]) := by
    intro cs hmem
    rw [range?, Option.bind_eq_none_iff]
    rintro ⟨low, rest⟩ hlow
    exact Option.map_eq_none_iff.mpr
      (hhigh rest (mem_of_takesNumeral takesNumeral_takeNumeral? hnumeral hlow hmem))
  exact (hrange.spaced? hblank (sameLetter_sign hc (by decide))).phraseForm hphrase

theorem shuns_phaseForm (hc : c ∈ signChars) : Shuns c phaseForm := by
  obtain ⟨-, hblank, hnumeral, -⟩ := apart_of_mem_signChars c hc
  have hnumber : Shuns c wholeNumeral? := by
    intro cs hmem
    rw [wholeNumeral?]
    split
    · next digits hfound =>
      exact absurd (mem_of_takesNumeral (takesNumeral_takeSigned? takesNumeral_takeDigits?) hnumeral
        hfound hmem) List.not_mem_nil
    · rfl
  exact (hnumber.afterWord? hblank (sameLetter_sign hc (by decide))).map _

theorem shuns_skillForm (hc : c ∈ signChars) (entity : Entity) : Shuns c (skillForm entity) := by
  obtain ⟨-, hblank, -, -, hskill, hquote⟩ := apart_of_mem_signChars c hc
  have hvalue := shuns_valueOf? hskill hquote
  exact (hvalue.afterWord? hblank (sameLetter_sign hc (by decide))).map _

theorem shuns_bareForm (hc : c ∈ signChars) : Shuns c bareForm := by
  obtain ⟨hphrase, hblank, -⟩ := apart_of_mem_signChars c hc
  exact (((shuns_value? hc).pastBlanks? hblank).afterPhrase? hphrase).map _

end

/-! ## What follows the phrase -/

/-- What follows the phrase of a comparison in signs. -/
def signedTail (before sign after number : List Char) : List Char :=
  before ++ (sign ++ (after ++ number))

/-- The blanks around a sign, the sign and the number of a comparison. -/
structure IsSigned (before after number : List Char) (entry : String × Comparator) : Prop where
  before : ∀ c ∈ before, isBlank c = true
  after : ∀ c ∈ after, isBlank c = true
  number : IsNumeral number
  sign : entry ∈ Vocabulary.signedComparators

theorem mem_signChars : ∀ entry ∈ Vocabulary.signedComparators, entry.1.toList ≠ [] ∧
    ∀ c ∈ entry.1.toList, c ∈ signChars := by
  decide

/-- A blank or a sign is not of a word, and is the letter of no filler. -/
theorem apart_of_sign {d : Char} (hd : isBlank d = true ∨ d ∈ signChars) :
    isWordChar d = false ∧ ∀ filler ∈ fillers, ∀ k ∈ filler, sameLetter k d = false := by
  constructor
  · rcases hd with hd | hd
    · exact Text.isWordChar_of_isBlank hd
    · have hall : ∀ d ∈ signChars, isWordChar d = false := by decide
      exact hall d hd
  · intro filler hfiller k hk
    have hall : ∀ filler ∈ fillers, ∀ k ∈ filler, isBlank k = false ∧
        ∀ d ∈ signChars, sameLetter k d = false := by
      decide
    obtain ⟨hblank, hsigns⟩ := hall filler hfiller k hk
    rcases hd with hd | hd
    · rw [← Bool.not_eq_true]
      intro hsame
      rw [Text.isBlank_of_sameLetter hsame, hblank] at hd
      cases hd
    · exact hsigns d hd

namespace IsSigned

variable {before after number phrase : List Char} {entry : String × Comparator}

theorem isSignedChar (h : IsSigned before after number entry) :
    ∀ c ∈ signedTail before entry.1.toList after number, isSignedChar c = true := by
  intro c hc
  rw [Query.isSignedChar]
  rcases List.mem_append.mp hc with hc | hc
  · rw [h.before c hc]
    rfl
  · rcases List.mem_append.mp hc with hc | hc
    · have hsign : signChars.contains c = true :=
        List.contains_iff_mem.mpr ((mem_signChars entry h.sign).2 c hc)
      rw [hsign, Bool.or_true, Bool.true_or]
    · rcases List.mem_append.mp hc with hc | hc
      · rw [h.after c hc]
        rfl
      · rw [h.number.chars c hc, Bool.or_true]

/-- Before its sign is over, a comparison in signs has blanks and signs only. -/
theorem exists_cons (h : IsSigned before after number entry) : ∃ d rest,
    signedTail before entry.1.toList after number = d :: rest ∧
      (isBlank d = true ∨ d ∈ signChars) := by
  cases before with
  | nil =>
    obtain ⟨hne, hsigns⟩ := mem_signChars entry h.sign
    obtain ⟨d, ds, heq⟩ := List.exists_cons_of_ne_nil hne
    refine ⟨d, ds ++ (after ++ number), by rw [signedTail, heq]; rfl, .inr (hsigns d ?_)⟩
    rw [heq]
    exact List.mem_cons_self
  | cons d before => exact ⟨d, _, rfl, .inl (h.before d List.mem_cons_self)⟩

/-- After a blank, a comparison in signs goes on with its sign, or with blanks or the number. -/
theorem of_mem_tailsAfterBlanks (h : IsSigned before after number entry) {t : List Char}
    (ht : t ∈ tailsAfterBlanks (signedTail before entry.1.toList after number)) :
    (before ≠ [] ∧ t = entry.1.toList ++ (after ++ number)) ∨
      ∀ c ∈ t.head?, isBlank c = true ∨ isNumeralChar c = true := by
  have hsolid : ∀ k ∈ signChars, isBlank k = false := by decide
  have hsign : tailsAfterBlanks entry.1.toList = [] := Text.tailsAfterBlanks_eq_nil fun c hc =>
    hsolid c ((mem_signChars entry h.sign).2 c hc)
  rw [signedTail, Text.tailsAfterBlanks_append, Text.tailsAfterBlanks_append, hsign, List.map_nil,
    List.nil_append] at ht
  -- the blank is one of those before the sign, or else one after it; the sign itself has none
  rcases List.mem_append.mp ht with ht | ht
  · obtain ⟨inner, hinner, rfl⟩ := List.mem_map.mp ht
    cases inner with
    | nil =>
      refine .inl ⟨?_, rfl⟩
      rintro rfl
      cases hinner
    | cons c inner =>
      have hmem : c ∈ before :=
        (Text.suffix_of_mem_tailsAfterBlanks hinner).subset List.mem_cons_self
      refine .inr fun d hd => .inl ?_
      rw [← Option.some.inj hd]
      exact h.before c hmem
  · refine .inr fun c hc => ?_
    have hmem := (Text.suffix_of_mem_tailsAfterBlanks ht).subset (List.mem_of_mem_head? hc)
    rcases List.mem_append.mp hmem with hc | hc
    · exact .inl (h.after c hc)
    · exact .inr (h.number.chars c hc)

theorem head?_after (h : IsSigned before after number entry) :
    ∀ c ∈ (after ++ number).head?, isBlank c = true ∨ isNumeralChar c = true := by
  intro c hc
  rcases List.mem_append.mp (List.mem_of_mem_head? hc) with hc | hc
  · exact .inl (h.after c hc)
  · exact .inr (h.number.chars c hc)

/-- A comparison in signs is one clause. -/
theorem clauses_eq (h : IsSigned before after number entry) (hphrase : IsWhole phrase) :
    let text := phrase ++ signedTail before entry.1.toList after number
    Text.trim text = text ∧ clauses text = [text] := by
  intro text
  obtain ⟨d, rest, heq, hd⟩ := h.exists_cons
  have hchars := h.isSignedChar
  have hlast : ∀ c ∈ (signedTail before entry.1.toList after number).getLast?, isBlank c = false := by
    rw [signedTail, ← List.append_assoc, ← List.append_assoc,
      List.getLast?_append_of_ne_nil _ h.number.ne_nil]
    exact h.number.getLast?
  have hand : ∀ t ∈ tailsAfterBlanks (signedTail before entry.1.toList after number),
      (Text.afterKeyword? "and".toList t).bind Text.afterBlanks? = none := by
    intro t ht
    obtain ⟨hne, hclass⟩ := caseClass_wordKeywords.1 "and" (by decide) (by decide)
    rw [afterKeyword?_of_isSignedChar hne hclass fun c hc => hchars c
      ((Text.suffix_of_mem_tailsAfterBlanks ht).subset (List.mem_of_mem_head? hc))]
    rfl
  have hmarks : ∀ mark ∈ [',', ';'], mark ∉ signedTail before entry.1.toList after number := by
    have hall : ∀ mark ∈ [',', ';'], Query.isSignedChar mark = false := by decide
    intro mark hmark hmem
    have hchar := hchars mark hmem
    rw [hall mark hmark] at hchar
    cases hchar
  -- whichever comes first, a blank or the sign, ends the last word of the phrase
  obtain ⟨hword, hletters⟩ := apart_of_sign hd
  rw [heq] at hchars hlast hand hmarks
  have htext : text = phrase ++ d :: rest := congrArg (phrase ++ ·) heq
  rw [htext]
  exact hphrase.clauses_eq hword hletters
    (firstMatch?_of_isSignedChar (fun c hc => hchars c (List.mem_cons_of_mem d hc)) (some d)) hlast
    hand ⟨hmarks ',' (by decide), hmarks ';' (by decide)⟩

end IsSigned

/-! ## The forms -/

/-- The keyword and the value of an equality, after its phrase and blanks. -/
def equalityTest? (cs : List Char) : Option Test :=
  afterWord? equalityKeywords (fun rest => (value? rest).map (Test.compare .eq)) cs

section

variable {phrase before word after value : List Char} {keyword : String} {operand : Cell}

/-- A phrase, one of the keywords of the form for equality and a value, with blanks between them, where
no equality is read behind the blanks of the phrase itself. -/
theorem IsWhole.equalsForm_eq_some (hphrase : IsWhole phrase)
    (hbefore : before ≠ []) (hblanks : ∀ c ∈ before, isBlank c = true)
    (hafter : after ≠ []) (hblanks' : ∀ c ∈ after, isBlank c = true)
    (hne : word ≠ []) (hfirst : ∀ c ∈ word.head?, isBlank c = false)
    (hkeyword : keyword ∈ equalityKeywords)
    (hword : ∀ rest, Text.afterKeyword? keyword.toList (word ++ rest) = some rest)
    (hclash : ∀ other ∈ equalityKeywords, other ≠ keyword → clashes other.toList word = true)
    (hstart : ∀ c ∈ value.head?, isBlank c = false) (hvalue : value? value = some operand)
    (hinner : ∀ t ∈ tailsAfterBlanks phrase,
      equalityTest? (t ++ (before ++ (word ++ (after ++ value)))) = none) :
    equalsForm (phrase ++ (before ++ (word ++ (after ++ value)))) =
      some (ofPhrase (.compare .eq operand) phrase) := by
  have htest : (value? value).map (Test.compare .eq) = some (.compare .eq operand) := by
    rw [hvalue]
    rfl
  have hread : equalityTest? (word ++ (after ++ value)) = some (.compare .eq operand) := by
    rw [equalityTest?, afterWord?]
    apply findSome?_eq_some hkeyword
    · rw [hword, Option.bind_some, pastBlanks?_eq_some hafter hblanks' hstart htest]
    · intro other hother hdiffers
      rw [Text.afterKeyword?_of_clashes (hclash other hother hdiffers)]
      rfl
  have hphrases := hphrase.afterPhrase?_eq (Text.afterBlanks?_of_blanks hbefore hblanks
    (Text.head?_append_of_head? hne hfirst (after ++ value))) hinner hread
  exact congrArg (Option.map fun found => ofPhrase found.2 found.1) hphrases

/-- Behind the blanks of a steady phrase no equality is read, whatever follows it. -/
theorem IsSteady.equalityTest?_eq_none (hphrase : IsSteady phrase) (rest : List Char) :
    ∀ t ∈ tailsAfterBlanks phrase, equalityTest? (t ++ rest) = none := by
  have hlisted : ∀ keyword ∈ equalityKeywords, keyword ∈ linkKeywords ++ spelledKeywords := by decide
  intro t ht
  rw [equalityTest?, afterWord?, List.findSome?_eq_none_iff]
  intro keyword hkeyword
  rw [hphrase.afterKeyword?_eq_none (hlisted keyword hkeyword) ht]
  rfl

end

/-- The sign and the number of a comparison, after its phrase. -/
def signedTest? (cs : List Char) : Option Test :=
  Vocabulary.signedComparators.findSome? fun entry =>
    (Text.afterKeyword? entry.1.toList (cs.dropWhile isBlank)).bind fun rest =>
      (numeral? (rest.dropWhile isBlank)).map (Test.compare entry.2)

theorem signedTest?_eq_none {cs : List Char} (h : ∀ c ∈ (cs.dropWhile isBlank).head?, c ∉ signChars) :
    signedTest? cs = none := by
  rw [signedTest?, List.findSome?_eq_none_iff]
  intro entry hentry
  obtain ⟨hne, hsigns⟩ := mem_signChars entry hentry
  obtain ⟨k, ks, heq⟩ := List.exists_cons_of_ne_nil hne
  have hk : k ∈ signChars := hsigns k (heq ▸ List.mem_cons_self)
  have hnone : Text.afterKeyword? entry.1.toList (cs.dropWhile isBlank) = none := by
    rw [heq]
    refine afterKeyword?_of_ne_sign hk ks fun c hc => ?_
    rintro rfl
    exact h c hc hk
  simp only [hnone, Option.bind_none]

theorem numeral?_eq_none {c : Char} (h : isNumeralChar c = false) (cs : List Char) :
    numeral? (c :: cs) = none := by
  rw [numeral?, takeNumeral?_eq_none h]

theorem not_mem_signChars {c : Char} (h : isPhraseChar c = true ∨ isNumeralChar c = true) :
    c ∉ signChars := by
  have hsigns : ∀ k ∈ signChars, isPhraseChar k = false ∧ isNumeralChar k = false := by
    decide
  intro hc
  obtain ⟨hphrase, hnumeral⟩ := hsigns c hc
  rw [hphrase, hnumeral] at h
  rcases h with h | h <;> cases h

/-- The form with signs takes no text without any. -/
theorem signedForm_eq_none {cs : List Char}
    (h : ∀ c ∈ cs, isPhraseChar c = true ∨ isNumeralChar c = true) : signedForm cs = none := by
  have hphrases : afterPhrase? signedTest? cs = none := by
    refine afterPhrase?_eq_none fun tail htail => signedTest?_eq_none fun c hc => ?_
    exact not_mem_signChars
      (h c (htail.subset ((List.dropWhile_sublist _).subset (List.mem_of_mem_head? hc))))
  have hform : signedForm = phraseForm signedTest? := rfl
  rw [hform, phraseForm, hphrases]
  rfl

namespace IsSigned

variable {before after number phrase : List Char} {entry : String × Comparator}

/-- After a blank, no word that may follow a phrase stands in a comparison in signs. -/
theorem afterKeyword?_eq_none (h : IsSigned before after number entry) {keyword : String}
    (hkeyword : keyword ∈ linkKeywords) (hsign : keyword ≠ "=") :
    ∀ t ∈ tailsAfterBlanks (signedTail before entry.1.toList after number),
      Text.afterKeyword? keyword.toList t = none := by
  intro t ht
  obtain ⟨hne, hclass⟩ := caseClass_wordKeywords.1 keyword hkeyword hsign
  exact afterKeyword?_of_isSignedChar hne hclass fun c hc => h.isSignedChar c
    ((Text.suffix_of_mem_tailsAfterBlanks ht).subset (List.mem_of_mem_head? hc))

/-- A comparison in signs has a sign in it. -/
theorem exists_sign (h : IsSigned before after number entry) (phrase : List Char) :
    ∃ c ∈ signChars, c ∈ phrase ++ signedTail before entry.1.toList after number := by
  obtain ⟨hne, hsigns⟩ := mem_signChars entry h.sign
  obtain ⟨c, cs, heq⟩ := List.exists_cons_of_ne_nil hne
  have hmem : c ∈ entry.1.toList := heq ▸ List.mem_cons_self
  exact ⟨c, hsigns c hmem, List.mem_append_right phrase
    (List.mem_append_right before (List.mem_append_left (after ++ number) hmem))⟩

/-- A form that shuns signs reads no comparison in signs. -/
theorem eq_none_of_shuns {form : Form} (h : IsSigned before after number entry)
    (hform : ∀ c ∈ signChars, Shuns c form) :
    form (phrase ++ signedTail before entry.1.toList after number) = none := by
  obtain ⟨c, hc, hmem⟩ := h.exists_sign phrase
  exact hform c hc _ hmem

/-- Behind the blanks of the phrase no equality is read: its value would have the sign in it. -/
theorem equalityTest?_eq_none (h : IsSigned before after number entry) (hphrase : IsWhole phrase) :
    ∀ t ∈ tailsAfterBlanks phrase,
      equalityTest? (t ++ signedTail before entry.1.toList after number) = none := by
  intro t ht
  obtain ⟨c, hc, hmem⟩ := h.exists_sign t
  obtain ⟨-, hblank, -⟩ := apart_of_mem_signChars c hc
  have hvalue := ((shuns_value? hc).map (Test.compare .eq)).pastBlanks? hblank
  rw [equalityTest?, afterWord?, List.findSome?_eq_none_iff]
  intro keyword hkeyword
  by_cases hsign : keyword = "="
  · subst hsign
    -- the phrase goes on here with a character of phrases
    obtain ⟨d, ds, rfl⟩ :=
      List.exists_cons_of_ne_nil (Text.ne_nil_of_mem_tailsAfterBlanks hphrase.last ht)
    have hphraseChar := hphrase.chars d
      ((Text.suffix_of_mem_tailsAfterBlanks ht).subset List.mem_cons_self)
    have hnone : Text.afterKeyword? ['=']
        (d :: ds ++ signedTail before entry.1.toList after number) = none := by
      refine afterKeyword?_of_ne_sign (by decide) [] fun e he => ?_
      rw [← Option.some.inj he]
      rintro rfl
      exact absurd hphraseChar (by decide)
    rw [show "=".toList = ['='] from rfl, hnone]
    rfl
  · have hwords : ∀ keyword ∈ equalityKeywords, keyword ≠ "=" → keyword ∈ wordKeywords := by decide
    have hletters := sameLetter_sign hc (List.Subset.refl wordKeywords) keyword
      (hwords keyword hkeyword hsign)
    exact hvalue.afterKeyword? hletters _ hmem

/-- The sign `=` between blanks is a keyword of the form for equality. -/
theorem equalsForm_eq_some (h : IsSigned before after number entry) (hphrase : IsWhole phrase)
    (hsign : entry.1 = "=") (hbefore : before ≠ []) (hafter : after ≠ []) :
    equalsForm (phrase ++ signedTail before entry.1.toList after number) =
      some (ofPhrase (.compare .eq (operand number)) phrase) := by
  have hclash : ∀ keyword ∈ equalityKeywords, keyword ≠ "=" →
      clashes keyword.toList "=".toList = true := by
    decide
  have hinner := h.equalityTest?_eq_none hphrase
  rw [hsign] at hinner ⊢
  exact hphrase.equalsForm_eq_some hbefore h.before hafter h.after (by decide) (by decide)
    (show "=" ∈ equalityKeywords by decide) (Text.afterKeyword?_self "=".toList) hclash
    h.number.head? h.number.value?_eq hinner

/-- The form for equality takes no other comparison in signs: a sign that stands after a blank and is
or begins with `=` is not followed by one. -/
theorem equalsForm_eq_none (h : IsSigned before after number entry) (hphrase : IsWhole phrase)
    (hother : ¬ (entry.1 = "=" ∧ before ≠ [] ∧ after ≠ [])) :
    equalsForm (phrase ++ signedTail before entry.1.toList after number) = none := by
  have hkeywords : equalityKeywords ⊆ linkKeywords := by decide
  refine phraseForm_spaced?_eq_none (h.equalityTest?_eq_none hphrase) fun t ht => ?_
  rw [afterWord?, List.findSome?_eq_none_iff]
  intro keyword hkeyword
  by_cases hsign : keyword = "="
  · subst hsign
    -- `=` is read behind a blank only at the start of the sign, which is then `=` or `==`
    rcases h.of_mem_tailsAfterBlanks ht with ⟨hbefore, rfl⟩ | hhead
    · have hcases : ∀ entry ∈ Vocabulary.signedComparators, entry.1 = "=" ∨ entry.1 = "==" ∨
          clashes "=".toList entry.1.toList = true := by
        decide
      rcases hcases entry h.sign with heq | heq | hclash
      · -- here the number follows at once
        have hafter : after = [] := by
          by_contra hafter
          exact hother ⟨heq, hbefore, hafter⟩
        have hread : Text.afterKeyword? "=".toList (entry.1.toList ++ (after ++ number)) =
            some number := by
          rw [heq, hafter, List.nil_append, Text.afterKeyword?_self]
        rw [hread, Option.bind_some]
        exact pastBlanks?_of_not_blank (any_head?_eq_false h.number.head?)
      · have hread : Text.afterKeyword? "=".toList (entry.1.toList ++ (after ++ number)) =
            some ('=' :: (after ++ number)) := by
          rw [heq]
          exact Text.afterKeyword?_self "=".toList ('=' :: (after ++ number))
        rw [hread, Option.bind_some]
        exact pastBlanks?_of_not_blank (show isBlank '=' = false by decide)
      · rw [Text.afterKeyword?_of_clashes hclash]
        rfl
    · rw [show "=".toList = ['='] from rfl, afterEquals?_eq_none hhead]
      rfl
  · rw [h.afterKeyword?_eq_none (hkeywords hkeyword) hsign t ht]
    rfl

theorem signedTest?_eq_some (h : IsSigned before after number entry) :
    signedTest? (signedTail before entry.1.toList after number) =
      some (.compare entry.2 (operand number)) := by
  -- of two signs one may begin the other; then an `=` is left over or missing
  have hfacts : ∀ entry ∈ Vocabulary.signedComparators, entry.1.toList ≠ [] ∧
      (∀ c ∈ entry.1.toList.head?, isBlank c = false) ∧
      ∀ other ∈ Vocabulary.signedComparators, other ≠ entry →
        clashes other.1.toList entry.1.toList = true ∨
          entry.1.toList = other.1.toList ++ ['='] ∨ other.1.toList = entry.1.toList ++ ['='] := by
    decide
  obtain ⟨hne, hfirst, hothers⟩ := hfacts entry h.sign
  have hstart := Text.head?_append_of_head? hne hfirst (after ++ number)
  rw [signedTest?, signedTail, Text.dropWhile_isBlank_of_blanks h.before hstart]
  apply findSome?_eq_some h.sign
  · rw [Text.afterKeyword?_self, Option.bind_some,
      Text.dropWhile_isBlank_of_blanks h.after h.number.head?, h.number.numeral?_eq]
    rfl
  · intro other hother hdiffers
    rcases hothers other hother hdiffers with hclash | hlonger | hshorter
    · rw [Text.afterKeyword?_of_clashes hclash]
      rfl
    · have hblank : isBlank '=' = false := by decide
      rw [hlonger, List.append_assoc, Text.afterKeyword?_self, Option.bind_some, List.cons_append,
        List.dropWhile_cons_of_neg (by simp [hblank]), numeral?_eq_none (by decide)]
      rfl
    · rw [hshorter, Text.afterKeyword?_append_append, afterEquals?_eq_none h.head?_after]
      rfl

theorem signedForm_eq_some (h : IsSigned before after number entry) (hphrase : IsWhole phrase) :
    signedForm (phrase ++ signedTail before entry.1.toList after number) =
      some (ofPhrase (.compare entry.2 (operand number)) phrase) := by
  have hphrases : afterPhrase? signedTest? (phrase ++ signedTail before entry.1.toList after number) =
      some (phrase, .compare entry.2 (operand number)) := by
    apply afterPhrase?_append hphrase.ne_nil hphrase.chars
    · -- within the phrase the next character that is no blank is one of the phrase
      intro tail hne hsuffix
      apply signedTest?_eq_none
      have hlast := hphrase.last_of_suffix hsuffix
      rw [Text.dropWhile_isBlank_append hne hlast]
      intro c hc
      obtain ⟨d, cs, heq⟩ := List.exists_cons_of_ne_nil (Text.dropWhile_isBlank_ne_nil hne hlast)
      rw [heq] at hc
      have hmem : c ∈ tail.dropWhile isBlank := by
        rw [heq]
        exact List.mem_of_mem_head? hc
      exact not_mem_signChars
        (.inl (hphrase.chars c (hsuffix.subset ((List.dropWhile_sublist _).subset hmem))))
    · exact h.signedTest?_eq_some
  have hform : signedForm = phraseForm signedTest? := rfl
  rw [hform, phraseForm, hphrases]
  rfl

/-- No form behind the one for signs reads a comparison in signs. -/
theorem laterForms_eq_none (h : IsSigned before after number entry) (entity : Entity) :
    ∀ form ∈ (forms entity).drop 3,
      form (phrase ++ signedTail before entry.1.toList after number) = none := by
  have hlater : (forms entity).drop 3 =
      [spelledForm, betweenForm, phaseForm, skillForm entity, bareForm] := rfl
  rw [hlater]
  simp only [List.forall_mem_cons]
  exact ⟨h.eq_none_of_shuns fun c hc => shuns_spelledForm hc,
    h.eq_none_of_shuns fun c hc => shuns_betweenForm hc,
    h.eq_none_of_shuns fun c hc => shuns_phaseForm hc,
    h.eq_none_of_shuns fun c hc => shuns_skillForm hc entity,
    h.eq_none_of_shuns fun c hc => shuns_bareForm hc, fun _ hform => absurd hform List.not_mem_nil⟩

/-- The leaf of a comparison in signs, on the column that its phrase means. -/
theorem clauseLeaf?_eq (h : IsSigned before after number entry) (hphrase : IsWhole phrase)
    (entity : Entity) (columns : List String) :
    clauseLeaf? entity columns (phrase ++ signedTail before entry.1.toList after number) =
      (Vocabulary.columnOf? entity columns phrase).map fun column =>
        ⟨column, .compare entry.2 (operand number)⟩ := by
  have hleaf : (ofPhrase (.compare entry.2 (operand number)) phrase).leaf? entity columns =
      (Vocabulary.columnOf? entity columns phrase).map fun column =>
        ⟨column, .compare entry.2 (operand number)⟩ := rfl
  have hincludes : includesForm (phrase ++ signedTail before entry.1.toList after number) = none :=
    h.eq_none_of_shuns fun c hc => shuns_includesForm hc
  have hsigned := h.signedForm_eq_some hphrase
  -- the form for equality reads the same statement, or none
  have hequals : equalsForm (phrase ++ signedTail before entry.1.toList after number) = none ∨
      equalsForm (phrase ++ signedTail before entry.1.toList after number) =
        some (ofPhrase (.compare entry.2 (operand number)) phrase) := by
    by_cases hequality : entry.1 = "=" ∧ before ≠ [] ∧ after ≠ []
    · have hcomparator : ∀ entry ∈ Vocabulary.signedComparators, entry.1 = "=" → entry.2 = .eq := by
        decide
      rw [hcomparator entry h.sign hequality.1]
      exact .inr (h.equalsForm_eq_some hphrase hequality.1 hequality.2.1 hequality.2.2)
    · exact .inl (h.equalsForm_eq_none hphrase hequality)
  have hlater : ((forms entity).drop 3).findSome? (fun form =>
      (form (phrase ++ signedTail before entry.1.toList after number)).bind fun statement =>
        statement.leaf? entity columns) = none := by
    rw [List.findSome?_eq_none_iff]
    intro form hform
    rw [h.laterForms_eq_none entity form hform]
    rfl
  have hforms : forms entity = includesForm :: equalsForm :: signedForm :: (forms entity).drop 3 := rfl
  rw [← hleaf, clauseLeaf?, hforms]
  cases hfound : (ofPhrase (.compare entry.2 (operand number)) phrase).leaf? entity columns with
  | none =>
    rcases hequals with hequals | hequals <;>
      simp only [List.findSome?_cons, hincludes, hequals, hsigned, Option.bind_none,
        Option.bind_some, hfound, hlater]
  | some leaf =>
    rcases hequals with hequals | hequals <;>
      simp only [List.findSome?_cons, hincludes, hequals, hsigned, Option.bind_none,
        Option.bind_some, hfound]

end IsSigned

end SheetQuery.Query
