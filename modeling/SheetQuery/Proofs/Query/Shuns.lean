import SheetQuery.Proofs.Query.Numeral

/-!
# Characters that are not read

What a form reads is a whole text, made of a phrase, keywords, numbers and values. A character that
stands in none of these keeps the form from reading any text that has it.

* `Shuns`: a reader takes no text with a certain character;
* `Shuns.afterPhrase?`, `Shuns.afterWord?`, …: one lemma for each way of putting readers together;
* `shuns_numeral?`, `shuns_valueOf?`: numerals and values.
-/

namespace SheetQuery.Query

open Text (isBlank sameLetter)

/-- A reader of whole texts shuns a character if it takes no text in which the character stands. -/
def Shuns {α : Type} (c : Char) (read : List Char → Option α) : Prop :=
  ∀ cs, c ∈ cs → read cs = none

/-- A character that is no letter of a keyword stands behind it, if at all. -/
theorem mem_of_afterKeyword?_eq_some {c : Char} {keyword cs rest : List Char}
    (hletters : ∀ k ∈ keyword, sameLetter k c = false)
    (h : Text.afterKeyword? keyword cs = some rest) (hc : c ∈ cs) : c ∈ rest := by
  induction keyword generalizing cs with
  | nil => rwa [← Option.some.inj h]
  | cons k ks ih =>
    cases cs with
    | nil => cases hc
    | cons d cs =>
      rw [Text.afterKeyword?] at h
      split at h
      · next hsame =>
        refine ih (fun k' hk' => hletters k' (List.mem_cons_of_mem k hk')) h ?_
        rcases List.mem_cons.mp hc with rfl | hc
        · rw [hletters k List.mem_cons_self] at hsame
          cases hsame
        · exact hc
      · cases h

/-- A character that is no blank stands behind the blanks that a text starts with. -/
theorem mem_dropWhile_isBlank {c : Char} {cs : List Char} (hc : isBlank c = false) (h : c ∈ cs) :
    c ∈ cs.dropWhile isBlank := by
  rw [← List.takeWhile_append_dropWhile (p := isBlank) (l := cs)] at h
  rcases List.mem_append.mp h with h | h
  · rw [List.all_eq_true.mp List.all_takeWhile c h] at hc
    cases hc
  · exact h

namespace Shuns

variable {α β ι : Type} {c : Char} {read : List Char → Option α}

theorem map (h : Shuns c read) (f : α → β) : Shuns c fun cs => (read cs).map f := by
  intro cs hc
  exact congrArg (Option.map f) (h cs hc)

theorem findSome? {is : List ι} {reads : ι → List Char → Option α}
    (h : ∀ i ∈ is, Shuns c (reads i)) : Shuns c fun cs => is.findSome? fun i => reads i cs := by
  intro cs hc
  rw [List.findSome?_eq_none_iff]
  exact fun i hi => h i hi cs hc

theorem afterKeyword? {keyword : List Char} (h : Shuns c read)
    (hletters : ∀ k ∈ keyword, sameLetter k c = false) :
    Shuns c fun cs => (Text.afterKeyword? keyword cs).bind read := by
  intro cs hc
  rw [Option.bind_eq_none_iff]
  exact fun rest hrest => h rest (mem_of_afterKeyword?_eq_some hletters hrest hc)

theorem afterBlanks? (h : Shuns c read) (hblank : isBlank c = false) :
    Shuns c fun cs => (Text.afterBlanks? cs).bind read := by
  intro cs hc
  rw [Option.bind_eq_none_iff]
  intro rest hrest
  apply h
  cases cs with
  | nil => cases hrest
  | cons d cs =>
    rw [Text.afterBlanks?] at hrest
    split at hrest
    · next hd =>
      rw [← Option.some.inj hrest]
      refine mem_dropWhile_isBlank hblank ((List.mem_cons.mp hc).resolve_left ?_)
      rintro rfl
      rw [hd] at hblank
      cases hblank
    · cases hrest

theorem pastBlanks? (h : Shuns c read) (hblank : isBlank c = false) :
    Shuns c (pastBlanks? read) := by
  intro cs hc
  induction cs with
  | nil => cases hc
  | cons d cs ih =>
    rw [Query.pastBlanks?]
    split
    · next hd =>
      have hmem : c ∈ cs := by
        refine (List.mem_cons.mp hc).resolve_left ?_
        rintro rfl
        rw [hd] at hblank
        cases hblank
      rw [ih hmem, h cs hmem]
      rfl
    · rfl

theorem afterWord? {keywords : List String} (h : Shuns c read) (hblank : isBlank c = false)
    (hletters : ∀ keyword ∈ keywords, ∀ k ∈ keyword.toList, sameLetter k c = false) :
    Shuns c (afterWord? keywords read) :=
  findSome? fun keyword hkeyword => (h.pastBlanks? hblank).afterKeyword? (hletters keyword hkeyword)

theorem spaced? {keywords : List String} (h : Shuns c read) (hblank : isBlank c = false)
    (hletters : ∀ keyword ∈ keywords, ∀ k ∈ keyword.toList, sameLetter k c = false) :
    Shuns c (spaced? keywords read) :=
  (h.afterWord? hblank hletters).afterBlanks? hblank

/-- A phrase cannot reach past a character that is not of phrases, and nothing is read before it. -/
theorem afterPhrase? (h : Shuns c read) (hphrase : isPhraseChar c = false) :
    Shuns c (afterPhrase? read) := by
  intro cs hc
  induction cs with
  | nil => cases hc
  | cons d cs ih =>
    rw [Query.afterPhrase?]
    rcases List.mem_cons.mp hc with rfl | hc
    · rw [hphrase, if_neg Bool.false_ne_true]
    · rw [h cs hc, ih hc]
      split <;> rfl

theorem phraseForm {read : List Char → Option Test} (h : Shuns c read)
    (hphrase : isPhraseChar c = false) : Shuns c (phraseForm read) :=
  (h.afterPhrase? hphrase).map _

end Shuns

/-! ## Numerals and values -/

variable {c : Char}

/-- What follows a numeral has all characters of the text that are not of numerals. -/
theorem mem_of_takesNumeral {take : List Char → Option (List Char × List Char)}
    (htake : TakesNumeral take) (hc : isNumeralChar c = false) {cs digits rest : List Char}
    (h : take cs = some (digits, rest)) (hmem : c ∈ cs) : c ∈ rest := by
  rw [← htake.parts cs _ h] at hmem
  refine (List.mem_append.mp hmem).resolve_left fun hdigit => ?_
  rw [htake.chars cs _ h c hdigit] at hc
  cases hc

theorem shuns_numeral? (hc : isNumeralChar c = false) : Shuns c numeral? := by
  intro cs hmem
  rw [numeral?]
  split
  · next digits hfound =>
    exact absurd (mem_of_takesNumeral takesNumeral_takeNumeral? hc hfound hmem) List.not_mem_nil
  · rfl

theorem shuns_valueOf? {p : Char → Bool} (hc : p c = false) (hquote : c ≠ '"') :
    Shuns c (valueOf? p) := by
  have hdrop : ∀ cs : List Char, c ∈ cs → c ∈ dropOne '"' cs := by
    intro cs hmem
    cases cs with
    | nil => cases hmem
    | cons d cs =>
      rw [dropOne]
      split
      · next hd =>
        refine (List.mem_cons.mp hmem).resolve_left fun heq => hquote ?_
        rw [heq, beq_iff_eq.mp hd]
      · exact hmem
  intro cs hmem
  -- quotes are dropped at either end, and the character is no quote, so it is still there
  have hbody := List.mem_reverse.mpr (hdrop _ (List.mem_reverse.mpr (hdrop cs hmem)))
  rw [valueOf?, if_neg]
  intro hvalue
  rw [isValueOf, Bool.and_eq_true, List.all_eq_true] at hvalue
  rw [hvalue.2 c hbody] at hc
  cases hc

end SheetQuery.Query
