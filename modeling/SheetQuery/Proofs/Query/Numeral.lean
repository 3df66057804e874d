import SheetQuery.Proofs.Query.ReaderSqueeze

/-!
# Numerals in queries

A numeral is read as far as it goes: it ends where a text goes on with a character that stands in no
numeral.

* `takeNumeral?_append`: where a numeral ends;
* `value?_eq_operand`: a text that is a value as a whole;
* `IsNumeral`, `isNumeral_iff`: a text that is a numeral as a whole, and its grammar;
* `IsNumeral.value?_eq`: a numeral is a value, and stands for the same number as one.
-/

namespace SheetQuery.Query

open Text (isBlank)

theorem isNumeralChar_lowerChar (c : Char) : isNumeralChar (Text.lowerChar c) = isNumeralChar c := by
  rw [isNumeralChar, Text.isDigit_lowerChar, Text.lowerChar_beq (by decide),
    Text.lowerChar_beq (by decide), isNumeralChar]

theorem takeNumeral?_eq_none {c : Char} (h : isNumeralChar c = false) (cs : List Char) :
    takeNumeral? (c :: cs) = none := by
  cases hfound : takeNumeral? (c :: cs) with
  | none => rfl
  | some found =>
    have hparts := takesNumeral_takeNumeral?.parts _ _ hfound
    obtain ⟨d, digits, hdigits⟩ :=
      List.exists_cons_of_ne_nil (takesSolid_takeNumeral?.ne_nil _ _ hfound)
    have hchar := takesNumeral_takeNumeral?.chars _ _ hfound d (hdigits ▸ List.mem_cons_self)
    rw [hdigits, List.cons_append] at hparts
    rw [(List.cons.inj hparts).1, h] at hchar
    cases hchar

/-! ## Where a numeral ends -/

section

variable {d : Char} {rest : List Char}

theorem takeDigits?_append (hd : Text.isDigit d = false) (cs : List Char) :
    takeDigits? (cs ++ d :: rest) = (takeDigits? cs).map fun found => (found.1, found.2 ++ d :: rest) := by
  have hspan : (cs ++ d :: rest).span Text.isDigit =
      ((cs.span Text.isDigit).1, (cs.span Text.isDigit).2 ++ d :: rest) := by
    simp only [List.span_eq_takeWhile_dropWhile]
    induction cs with
    | nil => simp [hd]
    | cons c cs ih =>
      cases hc : Text.isDigit c with
      | true => simpa [hc] using ih
      | false => simp [hc]
  rw [takeDigits?, takeDigits?, hspan]
  cases cs.span Text.isDigit with
  | mk digits after => cases digits <;> rfl

theorem takeUnsigned?_append (hd : isNumeralChar d = false) (cs : List Char) :
    takeUnsigned? (cs ++ d :: rest) =
      (takeUnsigned? cs).map fun found => (found.1, found.2 ++ d :: rest) := by
  have hparts : Text.isDigit d = false ∧ d ≠ '.' := by
    simp only [isNumeralChar, Bool.or_eq_false_iff, beq_eq_false_iff_ne] at hd
    exact ⟨hd.1.1, by simpa using hd.1.2⟩
  have hdigits := @takeDigits?_append d rest hparts.1
  cases hfound : takeDigits? cs with
  | none =>
    have hnone := hdigits cs
    rw [hfound] at hnone
    rw [takeUnsigned?, hnone, takeUnsigned?, hfound]
    rfl
  | some found =>
    obtain ⟨whole, after⟩ := found
    have hwhole := hdigits cs
    rw [hfound] at hwhole
    -- a point is taken only with digits after it, so the case of a point looks at them too
    by_cases hpoint : after.head? = some '.'
    · obtain ⟨fraction, rfl⟩ := List.head?_eq_some_iff.mp hpoint
      rw [takeUnsigned?, hwhole, takeUnsigned?, hfound]
      simp only [Option.map_some, List.cons_append, hdigits fraction]
      cases takeDigits? fraction <;> rfl
    · have hpoint' : (after ++ d :: rest).head? ≠ some '.' := by
        cases after with
        | nil => simpa using hparts.2
        | cons c after => exact hpoint
      rw [takeUnsigned?_of_head?_ne hfound hpoint, takeUnsigned?_of_head?_ne hwhole hpoint']
      rfl

/-- A numeral ends before a character that stands in no numeral. -/
theorem takeNumeral?_append (hd : isNumeralChar d = false) (cs : List Char) :
    takeNumeral? (cs ++ d :: rest) =
      (takeNumeral? cs).map fun found => (found.1, found.2 ++ d :: rest) := by
  cases cs with
  | nil => rw [List.nil_append, takeNumeral?_eq_none hd]; rfl
  | cons c cs =>
    by_cases hc : c = '-'
    · subst hc
      have hunsigned := @takeUnsigned?_append d rest hd cs
      simp only [takeNumeral?, takeSigned?, List.cons_append, hunsigned, Option.map_map]
      rfl
    · have hne : (c :: cs).head? ≠ some '-' := by simpa using hc
      have hne' : (c :: cs ++ d :: rest).head? ≠ some '-' := by simpa using hc
      rw [takeNumeral?, takeSigned?_of_head?_ne hne', takeNumeral?, takeSigned?_of_head?_ne hne,
        takeUnsigned?_append hd]

end

/-! ## Values -/

theorem isValueChar_of_isNumeralChar {c : Char} (h : isNumeralChar c = true) :
    isValueChar c = true := by
  simp only [isNumeralChar, Bool.or_eq_true, beq_iff_eq] at h
  rcases h with (hdigit | rfl) | rfl
  · rw [isValueChar, isSkillChar, Text.isWordChar_of_isDigit hdigit]
    rfl
  · rfl
  · rfl

/-- A text without outer blanks, made of the characters of values, is the value that it spells. -/
theorem value?_eq_operand {cs : List Char} (hne : cs ≠ []) (hchars : ∀ c ∈ cs, isValueChar c = true)
    (hfirst : ∀ c ∈ cs.head?, isBlank c = false) (hlast : ∀ c ∈ cs.getLast?, isBlank c = false) :
    value? cs = some (operand cs) := by
  have hquote : ∀ c ∈ cs, c ≠ '"' := by
    rintro c hc rfl
    exact absurd (hchars _ hc) (by decide)
  have hdrop : dropOne '"' cs = cs :=
    dropOne_of_head?_ne fun hhead => hquote _ (List.mem_of_mem_head? hhead) rfl
  have hdrop' : dropOne '"' cs.reverse = cs.reverse :=
    dropOne_of_head?_ne fun hhead =>
      hquote _ (List.mem_reverse.mp (List.mem_of_mem_head? hhead)) rfl
  have htrim : Text.trim cs = cs := Text.trimWith_of_isTrimmed ⟨hfirst, hlast⟩
  have hunquoted : Text.trimWith (· == '"') cs = cs := Text.trimWith_of_isTrimmed
    ⟨fun c hc => beq_eq_false_iff_ne.mpr (hquote c (List.mem_of_mem_head? hc)),
      fun c hc => beq_eq_false_iff_ne.mpr (hquote c (List.mem_of_getLast? hc))⟩
  -- so the text is the body of a value, and nothing is stripped off it
  have hbody : isValueOf isValueChar cs = true := by
    rw [isValueOf, hdrop, hdrop', List.reverse_reverse, Bool.and_eq_true, List.all_eq_true]
    exact ⟨by simpa using hne, hchars⟩
  rw [value?, valueOf?, if_pos hbody, valueOperand, htrim, hunquoted, htrim]

/-! ## Whole numerals -/

/-- Is a text a numeral as a whole? -/
def IsNumeral (cs : List Char) : Prop := takeNumeral? cs = some (cs, [])

/-- A run of digits. -/
def IsDigits (cs : List Char) : Prop := cs ≠ [] ∧ ∀ c ∈ cs, Text.isDigit c = true

/-- What may follow the whole part of a numeral: nothing, or a point and digits. -/
def IsFraction (cs : List Char) : Prop := cs = [] ∨ ∃ digits, cs = '.' :: digits ∧ IsDigits digits

theorem isDigits_of_takeDigits? {cs digits rest : List Char} (h : takeDigits? cs = some (digits, rest)) :
    IsDigits digits ∧ digits ++ rest = cs := by
  refine ⟨?_, takesNumeral_takeDigits?.parts cs _ h⟩
  rw [takeDigits?, List.span_eq_takeWhile_dropWhile] at h
  split at h
  · cases h
  · next hnot =>
    obtain ⟨rfl, rfl⟩ := Prod.mk.inj (Option.some.inj h)
    refine ⟨fun hnil => ?_, fun c hc => List.all_eq_true.mp List.all_takeWhile c hc⟩
    exact hnot _ (by rw [hnil])

theorem IsDigits.takeDigits?_eq {digits rest : List Char} (h : IsDigits digits)
    (hrest : ∀ c ∈ rest.head?, Text.isDigit c = false) :
    takeDigits? (digits ++ rest) = some (digits, rest) := by
  have hwhole : takeDigits? digits = some (digits, []) := by
    rw [takeDigits?, List.span_eq_takeWhile_dropWhile, List.takeWhile_eq_self_iff.mpr h.2,
      List.dropWhile_eq_nil_iff.mpr h.2]
    obtain ⟨c, cs, rfl⟩ := List.exists_cons_of_ne_nil h.1
    rfl
  cases rest with
  | nil => rw [List.append_nil, hwhole]
  | cons d rest => rw [takeDigits?_append (hrest d rfl), hwhole]; rfl

theorem takeUnsigned?_eq_self_iff {cs : List Char} : takeUnsigned? cs = some (cs, []) ↔
    ∃ whole fraction, cs = whole ++ fraction ∧ IsDigits whole ∧ IsFraction fraction := by
  have hpoint : Text.isDigit '.' = false := by decide
  constructor
  · intro h
    unfold takeUnsigned? at h
    split at h
    · cases h
    · next whole rest hwhole =>
      obtain ⟨hdigits, hparts⟩ := isDigits_of_takeDigits? hwhole
      split at h
      · split at h
        · next fraction rest' hfraction =>
          obtain ⟨heq, rfl⟩ := Prod.mk.inj (Option.some.inj h)
          exact ⟨whole, '.' :: fraction, heq.symm, hdigits,
            .inr ⟨fraction, rfl, (isDigits_of_takeDigits? hfraction).1⟩⟩
        · cases (Prod.mk.inj (Option.some.inj h)).2
      · obtain ⟨heq, rfl⟩ := Prod.mk.inj (Option.some.inj h)
        exact ⟨whole, [], hparts.symm, hdigits, .inl rfl⟩
  · rintro ⟨whole, fraction, rfl, hwhole, rfl | ⟨digits, rfl, hdigits⟩⟩
    · have htake : takeDigits? (whole ++ []) = some (whole, []) :=
        hwhole.takeDigits?_eq fun c hc => by cases hc
      rw [takeUnsigned?_of_head?_ne htake (by simp), List.append_nil]
    · have htake : takeDigits? (whole ++ '.' :: digits) = some (whole, '.' :: digits) :=
        hwhole.takeDigits?_eq fun c hc => by rw [← Option.some.inj hc, hpoint]
      have hfraction : takeDigits? (digits ++ []) = some (digits, []) :=
        hdigits.takeDigits?_eq fun c hc => by cases hc
      rw [List.append_nil] at hfraction
      rw [takeUnsigned?, htake]
      simp only [hfraction]

/-- A numeral is digits, possibly after a minus sign, and possibly with a point and more digits. -/
theorem isNumeral_iff {cs : List Char} : IsNumeral cs ↔ ∃ minus whole fraction,
    cs = minus ++ (whole ++ fraction) ∧ (minus = [] ∨ minus = ['-']) ∧ IsDigits whole ∧
      IsFraction fraction := by
  by_cases hminus : cs.head? = some '-'
  · obtain ⟨cs, rfl⟩ := List.head?_eq_some_iff.mp hminus
    have hunsigned : IsNumeral ('-' :: cs) ↔ takeUnsigned? cs = some (cs, []) := by
      rw [IsNumeral, takeNumeral?, takeSigned?]
      constructor
      · intro h
        obtain ⟨⟨digits, rest⟩, hfound, heq⟩ := Option.map_eq_some_iff.mp h
        obtain ⟨hdigits, rfl⟩ := Prod.mk.inj heq
        obtain rfl : digits = cs := (List.cons.inj hdigits).2
        exact hfound
      · intro h
        rw [h]
        rfl
    rw [hunsigned, takeUnsigned?_eq_self_iff]
    constructor
    · rintro ⟨whole, fraction, rfl, hwhole, hfraction⟩
      exact ⟨['-'], whole, fraction, rfl, .inr rfl, hwhole, hfraction⟩
    · rintro ⟨minus, whole, fraction, heq, rfl | rfl, hwhole, hfraction⟩
      · -- a minus sign is no digit
        obtain ⟨d, digits, rfl⟩ := List.exists_cons_of_ne_nil hwhole.1
        have hdigit := hwhole.2 d List.mem_cons_self
        rw [← (List.cons.inj heq).1] at hdigit
        exact absurd hdigit (by decide)
      · exact ⟨whole, fraction, (List.cons.inj heq).2, hwhole, hfraction⟩
  · rw [IsNumeral, takeNumeral?, takeSigned?_of_head?_ne hminus, takeUnsigned?_eq_self_iff]
    constructor
    · rintro ⟨whole, fraction, rfl, hwhole, hfraction⟩
      exact ⟨[], whole, fraction, rfl, .inl rfl, hwhole, hfraction⟩
    · rintro ⟨minus, whole, fraction, rfl, rfl | rfl, hwhole, hfraction⟩
      · exact ⟨whole, fraction, rfl, hwhole, hfraction⟩
      · exact absurd rfl hminus

namespace IsNumeral

variable {number : List Char}

theorem chars (h : IsNumeral number) : ∀ c ∈ number, isNumeralChar c = true :=
  takesNumeral_takeNumeral?.chars number _ h

theorem ne_nil (h : IsNumeral number) : number ≠ [] := by
  rintro rfl
  exact absurd h (by unfold IsNumeral; decide)

theorem not_isBlank (h : IsNumeral number) : ∀ c ∈ number, isBlank c = false :=
  fun c hc => not_isBlank_of_isNumeralChar (h.chars c hc)

theorem head? (h : IsNumeral number) : ∀ c ∈ number.head?, isBlank c = false :=
  fun c hc => h.not_isBlank c (List.mem_of_mem_head? hc)

theorem getLast? (h : IsNumeral number) : ∀ c ∈ number.getLast?, isBlank c = false :=
  fun c hc => h.not_isBlank c (List.mem_of_getLast? hc)

theorem numeral?_eq (h : IsNumeral number) : numeral? number = some (operand number) := by
  have hwhole : takeNumeral? number = some (number, []) := h
  rw [numeral?, hwhole]

/-- A numeral is a value, and stands for the same number as one. -/
theorem value?_eq (h : IsNumeral number) : value? number = some (operand number) :=
  value?_eq_operand h.ne_nil (fun c hc => isValueChar_of_isNumeralChar (h.chars c hc)) h.head?
    h.getLast?

theorem takeNumeral?_append (h : IsNumeral number) {d : Char} (hd : isNumeralChar d = false)
    (rest : List Char) : takeNumeral? (number ++ d :: rest) = some (number, d :: rest) := by
  have hwhole : takeNumeral? number = some (number, []) := h
  rw [Query.takeNumeral?_append hd, hwhole]
  rfl

end IsNumeral

end SheetQuery.Query
