import SheetQuery.Proofs.Cell.Tokens
import SheetQuery.Proofs.Numeric.NumeralFold
import SheetQuery.Schema.Coercion

/-!
# Cells that stand for numbers

The text of a cell that stands for a number has a digit in it, of whatever script, and lower-casing
keeps it. So such a cell is neither blank nor a truth value.

* `ofNumeral?_of_space`: a text with a space inside is no number;
* `isListLike_eq_false_of_number?`: no number is a list;
* `exists_isDigit_mem_key`: the key of a number has a digit;
* `number?_eq_none_of_truth?`: no cell is both a number and a truth value;
* `number?_fitNumber`, `exists_number?_fitNumber`: an operand fitted to a column of numbers stands for
  the number it stood for.
-/

namespace SheetQuery

open Text (isDigit)

/-! ## Digits in numerals -/

theorem isDigit_of_mem_digitChars {n : Nat} {c : Char} (h : c ∈ digitChars n) : isDigit c = true := by
  rw [isDigit, Numeral.digitValue?_of_ascii (mem_digitChars h)]
  rfl

theorem exists_isDigit_mem_ite {p : Prop} [Decidable p] {xs ys : List Char}
    (hxs : p → ∃ c ∈ xs, isDigit c = true) (hys : ¬ p → ∃ c ∈ ys, isDigit c = true) :
    ∃ c ∈ if p then xs else ys, isDigit c = true := by
  split
  · next h => exact hxs h
  · next h => exact hys h

/-- The text of a binary64 number has a digit in it. -/
theorem exists_isDigit_mem_render (x : Number) : ∃ c ∈ x.render, isDigit c = true := by
  rw [Number.render]
  -- the digits are out of reach of evaluation, and any others would do
  generalize Number.shortest x.units = decimal
  extract_lets shown digits point fraction power
  have hzero : isDigit '0' = true := by decide
  obtain ⟨d, ds, hd⟩ : ∃ d ds, digits = d :: ds :=
    List.exists_cons_of_ne_nil (digitChars_ne_nil shown.digits)
  have hdigit : isDigit d = true := by
    have hmem : d ∈ digits := hd ▸ List.mem_cons_self
    exact isDigit_of_mem_digitChars hmem
  have hfraction : ∃ c ∈ fraction, isDigit c = true := by
    refine exists_isDigit_mem_ite (fun _ => ⟨d, ?_, hdigit⟩) fun _ => ⟨d, ?_, hdigit⟩
    · exact hd ▸ List.mem_cons_self
    · exact hd ▸ List.mem_cons_self
  clear_value digits point fraction power
  subst hd
  have hsign : ∀ body : List Char, (∃ c ∈ body, isDigit c = true) →
      ∃ c ∈ (if x.negative then '-' :: body else body), isDigit c = true := by
    rintro body ⟨c, hc, hdigit⟩
    exact exists_isDigit_mem_ite (fun _ => ⟨c, List.mem_cons_of_mem _ hc, hdigit⟩)
      fun _ => ⟨c, hc, hdigit⟩
  -- each layout of the digits shows the first of them or a zero
  refine hsign _ (exists_isDigit_mem_ite (fun _ => ?_) fun _ =>
    exists_isDigit_mem_ite (fun _ => ?_) fun _ =>
    exists_isDigit_mem_ite (fun _ => ?_) fun hpoint =>
    exists_isDigit_mem_ite (fun _ => ?_) fun _ => ?_)
  · exact ⟨'0', List.mem_cons_self, hzero⟩
  · obtain ⟨c, hc, hdigit⟩ := hfraction
    exact ⟨c, List.mem_append_left _ (List.mem_append_left _ hc), hdigit⟩
  · exact ⟨'0', List.mem_append_left _ (List.mem_append_left _ List.mem_cons_self), hzero⟩
  · exact ⟨d, List.mem_append_left _ (List.mem_append_left _ List.mem_cons_self), hdigit⟩
  · obtain ⟨n, hn⟩ : ∃ n, point.toNat = n + 1 := ⟨point.toNat - 1, by omega⟩
    rw [hn, List.take_succ_cons]
    exact ⟨d, List.mem_append_left _ List.mem_cons_self, hdigit⟩

namespace Numeral

theorem mem_of_mem_dropSeparators {before : Bool} {cs : List Char} {c : Char}
    (h : c ∈ dropSeparators before cs) : c ∈ cs := by
  induction cs generalizing before with
  | nil => exact h
  | cons d cs ih =>
    rw [dropSeparators] at h
    split at h
    · exact List.mem_cons_of_mem _ (ih h)
    · rcases List.mem_cons.mp h with rfl | h
      · exact List.mem_cons_self
      · exact List.mem_cons_of_mem _ (ih h)

theorem mem_of_mem_splitSign {cs : List Char} {c : Char} (h : c ∈ (splitSign cs).2) : c ∈ cs := by
  unfold splitSign at h
  split at h
  · exact List.mem_cons_of_mem _ h
  · exact List.mem_cons_of_mem _ h
  · exact h

theorem mem_of_mem_splitAtFirst {p : Char → Bool} {cs : List Char} {c : Char}
    (h : c ∈ (Text.splitAtFirst p cs).1 ++ (Text.splitAtFirst p cs).2.getD []) : c ∈ cs := by
  unfold Text.splitAtFirst at h
  split at h
  · simpa using h
  · next d rest hrest =>
    rcases List.mem_append.mp h with h | h
    · exact (List.takeWhile_sublist _).subset h
    · apply (List.dropWhile_sublist (! p ·)).subset
      rw [hrest]
      exact List.mem_cons_of_mem _ h

theorem exists_isDigit_of_digits? {cs : List Char} {digits : List Nat}
    (h : digits? cs = some digits) (hne : digits ≠ []) : ∃ c ∈ cs, isDigit c = true := by
  cases cs with
  | nil =>
    obtain rfl := Option.some.inj h
    exact absurd rfl hne
  | cons c cs => exact ⟨c, List.mem_cons_self, isDigit_of_digits? h c List.mem_cons_self⟩

/-- A decimal numeral has a digit in it, before or after the point. -/
theorem exists_isDigit_of_readDecimal? {negative : Bool} {cs : List Char} {x : Binary64}
    (h : readDecimal? negative cs = some x) : ∃ c ∈ cs, isDigit c = true := by
  simp only [readDecimal?] at h
  generalize hmantissa : Text.splitAtFirst (fun c => c == 'e' || c == 'E') cs = mantissa at h
  generalize hparts : Text.splitAtFirst (· == '.') mantissa.1 = parts at h
  obtain ⟨whole, hwhole, h⟩ := Option.bind_eq_some_iff.mp h
  obtain ⟨fraction, hfraction, h⟩ := Option.bind_eq_some_iff.mp h
  obtain ⟨exponent, -, h⟩ := Option.bind_eq_some_iff.mp h
  -- whole and fraction cannot both be empty
  have hfound : ∃ c ∈ parts.1 ++ parts.2.getD [], isDigit c = true := by
    by_cases hempty : whole = []
    · have hne : fraction ≠ [] := by
        rintro rfl
        simp [hempty] at h
      obtain ⟨c, hc, hdigit⟩ := exists_isDigit_of_digits? hfraction hne
      exact ⟨c, List.mem_append_right _ hc, hdigit⟩
    · obtain ⟨c, hc, hdigit⟩ := exists_isDigit_of_digits? hwhole hempty
      exact ⟨c, List.mem_append_left _ hc, hdigit⟩
  obtain ⟨c, hc, hdigit⟩ := hfound
  rw [← hparts] at hc
  have hc' := mem_of_mem_splitAtFirst hc
  rw [← hmantissa] at hc'
  exact ⟨c, mem_of_mem_splitAtFirst (List.mem_append_left _ hc'), hdigit⟩

theorem splitAtFirst_cons {p : Char → Bool} {c : Char} (hc : p c = false) (cs : List Char) :
    ∃ rest, (Text.splitAtFirst p (c :: cs)).1 = c :: rest := by
  rw [Text.splitAtFirst]
  split
  · exact ⟨cs, rfl⟩
  · exact ⟨cs.takeWhile (! p ·), by simp [hc]⟩

/-- No numeral begins with a bracket. -/
theorem readDecimal?_of_bracket (negative : Bool) (cs : List Char) :
    readDecimal? negative ('[' :: cs) = none := by
  have hdigits : ∀ rest, digits? ('[' :: rest) = none := by
    intro rest
    have hvalue : Text.digitValue? '[' = none := by decide
    rw [digits?, List.mapM_cons, hvalue]
    rfl
  obtain ⟨mantissa, hmantissa⟩ := splitAtFirst_cons
    (p := fun c => c == 'e' || c == 'E') (c := '[') (by decide) cs
  obtain ⟨whole, hwhole⟩ := splitAtFirst_cons (p := (· == '.')) (c := '[') (by decide) mantissa
  simp only [readDecimal?, hmantissa, hwhole, hdigits]
  rfl

/-! ### Spaces in numerals -/

theorem mem_dropSeparators {before : Bool} {cs : List Char} {c : Char} (hc : c ≠ '_') (h : c ∈ cs) :
    c ∈ dropSeparators before cs := by
  induction cs generalizing before with
  | nil => exact h
  | cons d cs ih =>
    rw [dropSeparators]
    split
    · next hd =>
      simp only [Bool.and_eq_true, beq_iff_eq] at hd
      exact ih ((List.mem_cons.mp h).resolve_left fun heq => hc (heq.trans hd.1.1))
    · rcases List.mem_cons.mp h with rfl | h
      · exact List.mem_cons_self
      · exact List.mem_cons_of_mem _ (ih h)

theorem mem_splitSign {cs : List Char} {c : Char} (hminus : c ≠ '-') (hplus : c ≠ '+')
    (h : c ∈ cs) : c ∈ (splitSign cs).2 := by
  unfold splitSign
  split
  · exact (List.mem_cons.mp h).resolve_left hminus
  · exact (List.mem_cons.mp h).resolve_left hplus
  · exact h

theorem mem_splitAtFirst {p : Char → Bool} {cs : List Char} {c : Char} (hc : p c = false)
    (h : c ∈ cs) : c ∈ (Text.splitAtFirst p cs).1 ++ (Text.splitAtFirst p cs).2.getD [] := by
  unfold Text.splitAtFirst
  split
  · simpa using h
  · next d rest hrest =>
    rw [← List.takeWhile_append_dropWhile (p := (! p ·)) (l := cs), hrest] at h
    rcases List.mem_append.mp h with h | h
    · exact List.mem_append_left _ h
    · refine List.mem_append_right _ ((List.mem_cons.mp h).resolve_left ?_)
      rintro rfl
      have hstop := List.head?_dropWhile_not (! p ·) cs
      simp [hrest, hc] at hstop

theorem not_mem_of_digits? {cs : List Char} {digits : List Nat} (h : digits? cs = some digits) :
    ' ' ∉ cs := by
  intro hmem
  have hspace : (Text.digitValue? ' ').isSome = false := by decide
  rw [isDigit_of_digits? h ' ' hmem] at hspace
  cases hspace

/-- No numeral has a space in it. -/
theorem readDecimal?_of_space (negative : Bool) {cs : List Char} (h : ' ' ∈ cs) :
    readDecimal? negative cs = none := by
  rw [Option.eq_none_iff_forall_ne_some]
  intro x hx
  simp only [readDecimal?] at hx
  have hmem := mem_splitAtFirst (p := fun c => c == 'e' || c == 'E') (by decide) h
  generalize Text.splitAtFirst (fun c => c == 'e' || c == 'E') cs = parts at hx hmem
  obtain ⟨whole, hwhole, hx⟩ := Option.bind_eq_some_iff.mp hx
  obtain ⟨fraction, hfraction, hx⟩ := Option.bind_eq_some_iff.mp hx
  obtain ⟨exponent, hexponent, -⟩ := Option.bind_eq_some_iff.mp hx
  rcases List.mem_append.mp hmem with hmantissa | htext
  · rcases List.mem_append.mp (mem_splitAtFirst (p := (· == '.')) (by decide) hmantissa) with h | h
    · exact not_mem_of_digits? hwhole h
    · exact not_mem_of_digits? hfraction h
  · -- the exponent would be digits after its sign
    cases hcase : parts.2 with
    | none =>
      rw [hcase] at htext
      cases htext
    | some power =>
      rw [hcase] at htext hexponent
      have hbody := mem_splitSign (by decide) (by decide) htext
      simp only [readExponent?] at hexponent
      split at hexponent
      · cases hexponent
      · cases hexponent
      · next digits _ hdigits => exact not_mem_of_digits? hdigits hbody

end Numeral

namespace Cell

/-- A text with a space inside reads as no number. -/
theorem ofNumeral?_of_space {cs : List Char} (htrim : Text.trim cs = cs) (h : ' ' ∈ cs) :
    ofNumeral? cs = none := by
  have hbody : ' ' ∈ (Numeral.splitSign (Numeral.dropSeparators false (Text.trim cs))).2 := by
    rw [htrim]
    exact Numeral.mem_splitSign (by decide) (by decide) (Numeral.mem_dropSeparators (by decide) h)
  have hinteger : Numeral.readInteger? cs = none := by
    rw [Option.eq_none_iff_forall_ne_some]
    intro n hn
    obtain ⟨negative, body, digits, hsplit, hdigits, -⟩ := Numeral.exists_of_readInteger? hn
    rw [hsplit] at hbody
    exact Numeral.not_mem_of_digits? hdigits hbody
  have hnumber : numberOfText? cs = none := by
    rw [numberOfText?_eq, Numeral.readDecimal?_of_space _ hbody]
    rfl
  simp only [ofNumeral?, htrim, hinteger, hnumber, Option.map_none]

theorem exists_isDigit_of_numberOfText? {cs : List Char} {x : Number}
    (h : numberOfText? cs = some x) : ∃ c ∈ Text.trim cs, isDigit c = true := by
  rw [numberOfText?_eq] at h
  obtain ⟨y, hy, -⟩ := Option.bind_eq_some_iff.mp h
  obtain ⟨c, hc, hdigit⟩ := Numeral.exists_isDigit_of_readDecimal? hy
  exact ⟨c, Numeral.mem_of_mem_dropSeparators (Numeral.mem_of_mem_splitSign hc), hdigit⟩

/-! ## Numbers are no lists -/

/-- A cell that stands for a number is no list, be it in writing. -/
theorem isListLike_eq_false_of_number? {cell : Cell} {x : Number} (h : cell.number? = some x) :
    cell.isListLike = false := by
  cases cell with
  | text s =>
    -- no numeral begins with a bracket, so a text with a number is no list in writing
    have hbracket : (Text.trim s.toList).head? ≠ some '[' := by
      intro hhead
      have hx : numberOfText? s.toList = some x := h
      obtain ⟨rest, hrest⟩ := List.head?_eq_some_iff.mp hhead
      have hsplit : Numeral.splitSign (Numeral.dropSeparators false ('[' :: rest)) =
          (false, '[' :: Numeral.dropSeparators false rest) := rfl
      rw [numberOfText?_eq, hrest, hsplit, Numeral.readDecimal?_of_bracket] at hx
      cases hx
    have hlist : isBracketed (Text.trim s.toList) = false := by
      rw [isBracketed, beq_eq_false_iff_ne.mpr hbracket]
      rfl
    simp [isListLike, encodedList?, listOfText?, hlist]
  | list items => cases h
  | _ => rfl

/-! ## Digits in keys -/

theorem mem_lowerAfter_of_isDigit {before cs : List Char} {c : Char} (hc : isDigit c = true)
    (h : c ∈ cs) : c ∈ Text.lowerAfter before cs := by
  induction cs generalizing before with
  | nil => cases h
  | cons d cs ih =>
    rw [Text.lowerAfter_cons, List.mem_append]
    rcases List.mem_cons.mp h with rfl | h
    · left
      -- neither of the two letters with a lower case of their own is a digit
      have hsigma : (c == 'Σ') = false := by
        rw [beq_eq_false_iff_ne]
        rintro rfl
        exact absurd hc (by decide)
      have hdotted : (c == 'İ') = false := by
        rw [beq_eq_false_iff_ne]
        rintro rfl
        exact absurd hc (by decide)
      rw [Text.lowerPiece, hsigma, hdotted, Text.lowerChar_of_isDigit hc]
      exact List.mem_singleton.mpr rfl
    · exact .inr (ih h)

/-- The text of a number has a digit in it. -/
theorem exists_isDigit_of_number? {cell : Cell} {x : Number} (h : cell.number? = some x) :
    ∃ c ∈ Text.trim cell.render, isDigit c = true := by
  have hint : ∀ n : Int, ∃ c ∈ intChars n, isDigit c = true := by
    intro n
    obtain ⟨d, ds, hd⟩ := List.exists_cons_of_ne_nil (digitChars_ne_nil n.natAbs)
    refine ⟨d, ?_, isDigit_of_mem_digitChars (n := n.natAbs) (by rw [hd]; simp)⟩
    unfold intChars
    split <;> simp [hd]
  have htrim : ∀ cs : List Char, (∃ c ∈ cs, isDigit c = true) →
      ∃ c ∈ Text.trim cs, isDigit c = true := by
    rintro cs ⟨c, hc, hdigit⟩
    exact ⟨c, (Text.mem_trim (Text.not_isBlank_of_isDigit hdigit)).mpr hc, hdigit⟩
  -- infinities and "not a number" are no numbers, so every text here is written in digits
  cases cell with
  | int n =>
    rw [render_int]
    exact htrim _ (hint n)
  | float value =>
    cases value with
    | finite y =>
      rw [render]
      split
      · exact htrim _ (hint _)
      · exact htrim _ (exists_isDigit_mem_render y)
    | infinite negative => cases h
    | nan => cases h
  | text s =>
    rw [render_text]
    exact exists_isDigit_of_numberOfText? h
  | _ => cases h

/-- The key of a number has a digit in it. -/
theorem exists_isDigit_mem_key {cell : Cell} {x : Number} (h : cell.number? = some x) :
    ∃ c ∈ cell.key.toList, isDigit c = true := by
  obtain ⟨c, hc, hdigit⟩ := exists_isDigit_of_number? h
  exact ⟨c, by rw [toList_key]; exact mem_lowerAfter_of_isDigit hdigit hc, hdigit⟩

theorem key_ne_empty_of_number? {cell : Cell} {x : Number} (h : cell.number? = some x) :
    cell.key ≠ "" := by
  obtain ⟨c, hc, -⟩ := exists_isDigit_mem_key h
  intro hkey
  rw [hkey] at hc
  cases hc

/-- No cell is both a truth value and a number. -/
theorem number?_eq_none_of_truth? {cell : Cell} {b : Bool} (h : cell.truth? = some b) :
    cell.number? = none := by
  have hwords : ∀ word ∈ ["true", "false"], ∀ c ∈ word.toList, isDigit c = false := by decide
  -- a number has a digit in its key, and the words for truth values have none
  have hkey : ∀ word ∈ ["true", "false"], cell.key = word → cell.number? = none := by
    intro word hword heq
    rw [Option.eq_none_iff_forall_ne_some]
    intro x hx
    obtain ⟨c, hc, hdigit⟩ := exists_isDigit_mem_key hx
    rw [heq] at hc
    rw [hwords word hword c hc] at hdigit
    cases hdigit
  unfold truth? at h
  split at h
  · rfl
  · split at h
    · next heq => exact hkey "true" (by simp) (beq_iff_eq.mp heq)
    · split at h
      · next heq => exact hkey "false" (by simp) (beq_iff_eq.mp heq)
      · cases h

/-! ## Fitted operands -/

/-- A numeral that is turned into a number keeps its value. -/
theorem number?_castNumeral {s : String} {x : Number} (h : (text s).number? = some x) :
    ∃ y, (text s).castNumeral.number? = some y ∧ y.signed = x.signed := by
  have hx : numberOfText? s.toList = some x := h
  rw [castNumeral, ofNumeral?]
  split
  · next n hn =>
    have hsigned := signed_numberOfText? hn
    rw [hx, Option.map_some, eq_comm, Option.map_eq_some_iff] at hsigned
    exact hsigned
  · rw [hx]
    exact ⟨x, rfl, rfl⟩

/-- An operand fitted to a column of numbers is the operand as it was, or both stand for the same
number. -/
theorem number?_fitNumber (operand : Cell) : operand.fitNumber = operand ∨
    ∃ x y, operand.number? = some x ∧ operand.fitNumber.number? = some y ∧ y.signed = x.signed := by
  unfold fitNumber
  split
  · next s x hx =>
    obtain ⟨y, hy, hxy⟩ := number?_castNumeral hx
    exact .inr ⟨x, y, hx, hy, hxy⟩
  · exact .inl rfl

/-- A number stays that number when it is fitted to a column of numbers. -/
theorem exists_number?_fitNumber {operand : Cell} {x : Number} (h : operand.number? = some x) :
    ∃ y, operand.fitNumber.number? = some y ∧ y.signed = x.signed := by
  rcases number?_fitNumber operand with hkept | ⟨z, y, hz, hy, hyz⟩
  · rw [hkept]
    exact ⟨x, h, rfl⟩
  · obtain rfl : z = x := Option.some.inj (hz.symm.trans h)
    exact ⟨y, hy, hyz⟩

end Cell

end SheetQuery
