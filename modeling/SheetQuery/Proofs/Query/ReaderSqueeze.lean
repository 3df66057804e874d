import SheetQuery.Proofs.Query.ReaderFold
import SheetQuery.Proofs.Text.SqueezeSearch

/-!
# Readers and runs of blanks

Numerals are read from a squeezed text as from the text. The readers of clauses are put together from
them, from keywords and from values, and how many blanks stand between these makes no difference to
any of them; only in a value does every blank count (`isPlainValue`).

* `takeNumeral?_squeeze`, `numeral?_squeeze`: numerals;
* `afterPhrase?_squeeze`: the phrase of a clause;
* `pastBlanks?_eq_bind`, `pastBlanks?_valueOf?`: values after a run of blanks.
-/

namespace SheetQuery.Query

open Text (squeeze isBlank)

variable {α β : Type} {read : List Char → Option α}

/-! ## Numerals -/

/-- A reader that takes the same piece, not an empty one, off the start of a squeezed text as off that
of the text. -/
structure TakesSolid (take : List Char → Option (List Char × List Char)) : Prop where
  reads : ∀ cs, take (squeeze cs) = (take cs).map fun found => (found.1, squeeze found.2)
  ne_nil : ∀ cs found, take cs = some found → found.1 ≠ []

theorem takeDigits?_squeeze (cs : List Char) :
    takeDigits? (squeeze cs) = (takeDigits? cs).map fun found => (found.1, squeeze found.2) := by
  have hparts := List.takeWhile_append_dropWhile (p := Text.isDigit) (l := cs)
  have hdigits : ∀ c ∈ cs.takeWhile Text.isDigit, isBlank c = false := by
    intro c hc
    apply not_isBlank_of_isNumeralChar
    rw [isNumeralChar, List.all_eq_true.mp List.all_takeWhile c hc]
    rfl
  have htake := Text.takeWhile_squeeze (fun _ => Text.isDigit_of_isBlank) cs
  have hdrop : (squeeze cs).dropWhile Text.isDigit = squeeze (cs.dropWhile Text.isDigit) := by
    have hparts' := List.takeWhile_append_dropWhile (p := Text.isDigit) (l := squeeze cs)
    have hsqueeze := Text.squeeze_append_of_forall_not_blank hdigits (cs.dropWhile Text.isDigit)
    rw [hparts] at hsqueeze
    rw [htake] at hparts'
    exact List.append_cancel_left (hparts'.trans hsqueeze)
  rw [takeDigits?, takeDigits?, List.span_eq_takeWhile_dropWhile, List.span_eq_takeWhile_dropWhile,
    htake, hdrop]
  cases cs.takeWhile Text.isDigit <;> rfl

theorem takesSolid_takeDigits? : TakesSolid takeDigits? := by
  refine ⟨takeDigits?_squeeze, fun cs found h => ?_⟩
  unfold takeDigits? at h
  split at h
  · cases h
  · next hne =>
    obtain ⟨digits, rest⟩ := found
    rw [Option.some.injEq] at h
    rintro rfl
    exact hne rest h

theorem head?_squeeze_eq_some_iff {c : Char} (hc : isBlank c = false) (cs : List Char) :
    (squeeze cs).head? = some c ↔ cs.head? = some c := by
  rw [Text.head?_squeeze]
  cases cs with
  | nil => rfl
  | cons d cs =>
    cases hd : isBlank d with
    | false => simp [hd]
    | true =>
      have hspace : ' ' ≠ c := by
        rintro rfl
        exact absurd hc (by decide)
      have hne : d ≠ c := by
        rintro rfl
        rw [hc] at hd
        cases hd
      simp [hd, hspace, hne]

theorem takeUnsigned?_squeeze (cs : List Char) :
    takeUnsigned? (squeeze cs) = (takeUnsigned? cs).map fun found => (found.1, squeeze found.2) := by
  have hdigits' := takeDigits?_squeeze cs
  cases hdigits : takeDigits? cs with
  | none =>
    rw [hdigits] at hdigits'
    rw [takeUnsigned?, takeUnsigned?, hdigits', hdigits]
    rfl
  | some found =>
    obtain ⟨whole, rest⟩ := found
    rw [hdigits] at hdigits'
    -- a point is no blank, so it follows the digits in both texts or in neither
    by_cases hpoint : rest.head? = some '.'
    · obtain ⟨after, rfl⟩ := List.head?_eq_some_iff.mp hpoint
      rw [takeUnsigned?, takeUnsigned?, hdigits', hdigits]
      simp only [Option.map_some, Text.squeeze_cons_of_not_blank (c := '.') (by decide),
        takeDigits?_squeeze after]
      cases takeDigits? after <;> simp [Text.squeeze_cons_of_not_blank (c := '.') (by decide)]
    · have hpoint' : (squeeze rest).head? ≠ some '.' := by
        rwa [Ne, head?_squeeze_eq_some_iff (by decide)]
      rw [takeUnsigned?_of_head?_ne hdigits hpoint, takeUnsigned?_of_head?_ne hdigits' hpoint']
      rfl

theorem takesSolid_takeUnsigned? : TakesSolid takeUnsigned? := by
  refine ⟨takeUnsigned?_squeeze, fun cs found h => ?_⟩
  unfold takeUnsigned? at h
  split at h
  · cases h
  · next whole rest hwhole =>
    have hne := takesSolid_takeDigits?.ne_nil cs _ hwhole
    split at h
    · split at h
      · rw [← Option.some.inj h]
        exact List.append_ne_nil_of_left_ne_nil hne _
      · rw [← Option.some.inj h]
        exact hne
    · rw [← Option.some.inj h]
      exact hne

theorem takesSolid_takeSigned? {take : List Char → Option (List Char × List Char)}
    (h : TakesSolid take) : TakesSolid (takeSigned? take) := by
  constructor
  · intro cs
    by_cases hminus : cs.head? = some '-'
    · obtain ⟨rest, rfl⟩ := List.head?_eq_some_iff.mp hminus
      rw [Text.squeeze_cons_of_not_blank (by decide), takeSigned?, takeSigned?, h.reads]
      cases take rest <;> rfl
    · have hminus' : (squeeze cs).head? ≠ some '-' := by
        rwa [Ne, head?_squeeze_eq_some_iff (by decide)]
      rw [takeSigned?_of_head?_ne hminus, takeSigned?_of_head?_ne hminus', h.reads]
  · intro cs found hfound
    unfold takeSigned? at hfound
    split at hfound
    · obtain ⟨inner, -, rfl⟩ := Option.map_eq_some_iff.mp hfound
      exact List.cons_ne_nil _ _
    · exact h.ne_nil cs found hfound

theorem takesSolid_takeNumeral? : TakesSolid takeNumeral? :=
  takesSolid_takeSigned? takesSolid_takeUnsigned?

/-- A numeral that is the whole text is read from the squeezed text. -/
theorem whole_squeeze {take : List Char → Option (List Char × List Char)} (h : TakesSolid take)
    (cs : List Char) :
    (match take (squeeze cs) with
      | some (digits, []) => some (operand digits)
      | _ => none) =
    match take cs with
      | some (digits, []) => some (operand digits)
      | _ => none := by
  rw [h.reads]
  cases take cs with
  | none => rfl
  | some found =>
    obtain ⟨digits, rest⟩ := found
    cases rest with
    | nil => rfl
    | cons c rest =>
      obtain ⟨d, others, hcons⟩ := List.exists_cons_of_ne_nil
        (Text.squeeze_eq_nil_iff.not.mpr (List.cons_ne_nil c rest))
      simp only [Option.map_some, hcons]

theorem numeral?_squeeze (cs : List Char) : numeral? (squeeze cs) = numeral? cs :=
  whole_squeeze takesSolid_takeNumeral? cs

theorem wholeNumeral?_squeeze (cs : List Char) : wholeNumeral? (squeeze cs) = wholeNumeral? cs :=
  whole_squeeze (takesSolid_takeSigned? takesSolid_takeDigits?) cs

/-! ## Phrases -/

theorem afterPhrase?_cons (read : List Char → Option α) (c : Char) (cs : List Char) :
    afterPhrase? read (c :: cs) = if isPhraseChar c then
      ((read cs).map fun a => ([c], a)).or
        ((afterPhrase? read cs).map fun found => (c :: found.1, found.2))
    else none := by
  rw [afterPhrase?]
  cases read cs <;> rfl

/-- A phrase and what was read after it, with the phrase squeezed. -/
def squeezePhrase (found : List Char × α) : List Char × α := (squeeze found.1, found.2)

/-- Squeezing a text squeezes the phrase that is found in it, if the rests of the text are read as they
are read squeezed. -/
theorem afterPhrase?_squeeze {cs : List Char}
    (hread : ∀ rest, rest <:+ cs → read (squeeze rest) = read rest)
    (hcs : cs.head?.any isBlank = true → read cs = none) :
    (afterPhrase? read (squeeze cs)).map squeezePhrase =
      (afterPhrase? read cs).map squeezePhrase := by
  have hpush : ∀ (c : Char) (found : Option (List Char × α)),
      (found.map fun found => (c :: found.1, found.2)).map squeezePhrase =
        (found.map squeezePhrase).map fun found => (Text.pushSqueezed c found.1, found.2) := by
    intro c found
    rw [Option.map_map, Option.map_map]
    rfl
  induction cs with
  | nil => rfl
  | cons c cs ih =>
    have hrest : ∀ rest, rest <:+ cs → read (squeeze rest) = read rest := fun rest h =>
      hread rest (h.trans (List.suffix_cons c cs))
    have htail := hrest cs List.suffix_rfl
    cases hc : isBlank c with
    | false =>
      rw [Text.squeeze_cons_of_not_blank hc, afterPhrase?_cons, afterPhrase?_cons, htail]
      split
      · cases hfound : read cs with
        | some a => rfl
        | none =>
          have hind := ih hrest fun _ => hfound
          rw [Option.map_none, Option.none_or, Option.none_or, hpush, hpush, hind]
      · rfl
    | true =>
      have hphrase : ∀ {c : Char}, isBlank c = true → isPhraseChar c = true := by
        intro c hc
        rw [isPhraseChar, hc, Bool.or_true]
      have hnone := hcs hc
      rw [afterPhrase?_cons read c cs, if_pos (hphrase hc)]
      cases hhead : cs.head?.any isBlank with
      | true =>
        have hsqueeze := Text.squeeze_cons_of_blank_of_blank hc hhead
        have hmiddle : read cs = none := by
          rw [← htail, ← hsqueeze, hread _ List.suffix_rfl, hnone]
        rw [hsqueeze, ih hrest fun _ => hmiddle, hmiddle, Option.map_none, Option.none_or,
          Option.map_map]
        apply Option.map_congr
        rintro ⟨phrase, a⟩ hfound
        -- the phrase starts in the same run of blanks
        obtain ⟨d, tail, rest, rfl, rfl, -⟩ := exists_of_afterPhrase? hfound
        have hd : isBlank d = true := hhead
        exact congrArg (·, a) (Text.squeeze_cons_of_blank_of_blank hc (by simpa using hd)).symm
      | false =>
        rw [Text.squeeze_cons_of_blank hc hhead, afterPhrase?_cons, if_pos (hphrase (by decide)),
          htail]
        cases hfound : read cs with
        | some a =>
          show some (squeeze [' '], a) = some (squeeze [c], a)
          rw [Text.squeeze_singleton_of_blank hc, Text.squeeze_singleton_of_blank (by decide)]
        | none =>
          have hind := ih hrest fun _ => hfound
          rw [Option.map_none, Option.map_none, Option.none_or, Option.none_or, hpush, hpush, hind,
            Text.pushSqueezed_of_blank hc]

/-! ## After a run of blanks -/

/-- Does a reader that does not read a text read no blanks with the text after them either? -/
def IgnoresLead (read : List Char → Option α) (cs : List Char) : Prop :=
  read cs = none → ∀ gap, (∀ b ∈ gap, isBlank b = true) → read (gap ++ cs) = none

theorem IgnoresLead.map {cs : List Char} (h : IgnoresLead read cs) (f : α → β) :
    IgnoresLead (fun cs => (read cs).map f) cs := by
  intro hnone gap hgap
  rw [Option.map_eq_none_iff] at hnone
  simp only [h hnone gap hgap, Option.map_none]

theorem pastBlanks?_of_not_blank {cs : List Char} (h : cs.head?.any isBlank = false) :
    pastBlanks? read cs = none := by
  cases cs with
  | nil => rfl
  | cons c cs =>
    have hc : isBlank c = false := h
    rw [pastBlanks?, hc]
    rfl

theorem pastBlanks?_append {gap cs : List Char} (hne : gap ≠ [])
    (hgap : ∀ b ∈ gap, isBlank b = true) (hcs : cs.head?.any isBlank = false)
    (h : IgnoresLead read cs) : pastBlanks? read (gap ++ cs) = read cs := by
  induction gap with
  | nil => exact absurd rfl hne
  | cons b gap ih =>
    have hb : isBlank b = true := hgap b List.mem_cons_self
    have hrest : ∀ c ∈ gap, isBlank c = true := fun c hc => hgap c (List.mem_cons_of_mem _ hc)
    rw [List.cons_append, pastBlanks?, if_pos hb]
    -- the longest run comes first; if nothing is read after it, nothing is read after a shorter one
    cases gap with
    | nil => rw [List.nil_append, pastBlanks?_of_not_blank hcs, Option.none_or]
    | cons d gap =>
      rw [ih (List.cons_ne_nil _ _) hrest]
      cases hread : read cs with
      | some a => rfl
      | none => rw [h hread _ hrest, Option.or_none]

theorem pastBlanks?_eq_bind {cs : List Char}
    (h : ∀ rest, Text.afterBlanks? cs = some rest → IgnoresLead read rest) :
    pastBlanks? read cs = (Text.afterBlanks? cs).bind read := by
  cases cs with
  | nil => rfl
  | cons c cs =>
    rw [Text.afterBlanks?] at h ⊢
    cases hc : isBlank c with
    | false => rw [pastBlanks?, hc]; rfl
    | true =>
      rw [hc] at h
      have hparts := List.takeWhile_append_dropWhile (p := isBlank) (l := cs)
      have hhead : (cs.dropWhile isBlank).head?.any isBlank = false := by
        have hnot := List.head?_dropWhile_not isBlank cs
        cases hdrop : (cs.dropWhile isBlank).head? with
        | none => rfl
        | some d =>
          rw [hdrop] at hnot
          simpa using hnot
      -- the text splits into its blanks, of which there is at least one, and
      -- what follows: the general lemma about a gap in front of a text applies
      have hgap : ∀ b ∈ c :: cs.takeWhile isBlank, isBlank b = true := by
        intro b hb
        rcases List.mem_cons.mp hb with rfl | hb
        · exact hc
        · exact List.all_eq_true.mp List.all_takeWhile b hb
      have hpast := pastBlanks?_append (List.cons_ne_nil _ _) hgap hhead (h _ rfl)
      rw [List.cons_append, hparts] at hpast
      rw [hpast, if_pos rfl, Option.bind_some]

/-- Numerals do not start with blanks. -/
theorem take_of_blank {take : List Char → Option (List Char × List Char)}
    (hnumeral : TakesNumeral take) (hsolid : TakesSolid take) {b : Char} (hb : isBlank b = true)
    (cs : List Char) : take (b :: cs) = none := by
  cases hfound : take (b :: cs) with
  | none => rfl
  | some found =>
    obtain ⟨d, digits, hdigits⟩ := List.exists_cons_of_ne_nil (hsolid.ne_nil _ _ hfound)
    have hparts := hnumeral.parts _ _ hfound
    have hchar := hnumeral.chars _ _ hfound d (by rw [hdigits]; exact List.mem_cons_self)
    rw [hdigits] at hparts
    have hblank := not_isBlank_of_isNumeralChar hchar
    rw [(List.cons.inj hparts).1, hb] at hblank
    cases hblank

theorem ignoresLead_of_blank (h : ∀ b cs, isBlank b = true → read (b :: cs) = none) (cs : List Char) :
    IgnoresLead read cs := by
  intro hnone gap hgap
  cases gap with
  | nil => exact hnone
  | cons b gap => exact h b _ (hgap b List.mem_cons_self)

theorem ignoresLead_whole {take : List Char → Option (List Char × List Char)}
    (hnumeral : TakesNumeral take) (hsolid : TakesSolid take) (cs : List Char) :
    IgnoresLead (fun cs =>
      match take cs with
      | some (digits, []) => some (operand digits)
      | _ => none) cs := by
  apply ignoresLead_of_blank
  intro b cs hb
  rw [take_of_blank hnumeral hsolid hb]

theorem ignoresLead_numeral? (cs : List Char) : IgnoresLead numeral? cs :=
  ignoresLead_whole takesNumeral_takeNumeral? takesSolid_takeNumeral? cs

theorem ignoresLead_wholeNumeral? (cs : List Char) : IgnoresLead wholeNumeral? cs :=
  ignoresLead_whole (takesNumeral_takeSigned? takesNumeral_takeDigits?)
    (takesSolid_takeSigned? takesSolid_takeDigits?) cs

theorem ignoresLead_range? (links : List String) (cs : List Char) :
    IgnoresLead (range? links) cs := by
  apply ignoresLead_of_blank
  intro b cs hb
  rw [range?, take_of_blank takesNumeral_takeNumeral? takesSolid_takeNumeral? hb]
  rfl

/-! ## Values -/

/-- Is a text, taken for a value, written with single spaces and more than a lone double quote? -/
def isPlainValue (cs : List Char) : Bool := !cs.isEmpty && cs != ['"'] && squeeze cs == cs

theorem squeeze_of_isPlainValue {cs : List Char} (h : isPlainValue cs = true) : squeeze cs = cs := by
  rw [isPlainValue, Bool.and_eq_true, beq_iff_eq] at h
  exact h.2

theorem dropOne_append {c : Char} {xs : List Char} (h : xs ≠ []) (ys : List Char) :
    dropOne c (xs ++ ys) = dropOne c xs ++ ys := by
  obtain ⟨d, xs, rfl⟩ := List.exists_cons_of_ne_nil h
  rw [List.cons_append, dropOne, dropOne]
  split <;> rfl

theorem dropOne_suffix (c : Char) (cs : List Char) : dropOne c cs <:+ cs := by
  cases cs with
  | nil => exact List.suffix_rfl
  | cons d cs =>
    rw [dropOne]
    split
    · exact List.suffix_cons d cs
    · exact List.suffix_rfl

/-- Blanks before a text do not make a value of it, unless it is a lone double quote. -/
theorem isValueOf_of_append {p : Char → Bool} (hp : p '"' = false) {gap cs : List Char}
    (hgap : ∀ b ∈ gap, isBlank b = true) (hne : cs ≠ []) (hquote : cs ≠ ['"'])
    (h : isValueOf p (gap ++ cs) = true) : isValueOf p cs = true := by
  cases gap with
  | nil => exact h
  | cons b gap =>
    have hb : (b :: gap ++ cs).head? ≠ some '"' := by
      have hblank := hgap b List.mem_cons_self
      rintro ⟨⟩
      exact absurd hblank (by decide)
    rw [isValueOf, dropOne_of_head?_ne hb, List.reverse_append,
      dropOne_append (List.reverse_ne_nil_iff.mpr hne), List.reverse_append, List.reverse_reverse,
      Bool.and_eq_true, List.all_append, Bool.and_eq_true] at h
    -- without the blanks, the body starts with a character of the class, which is no quote
    have hstarts : (dropOne '"' cs.reverse).reverse <+: cs := by
      rw [← List.reverse_suffix, List.reverse_reverse]
      exact dropOne_suffix '"' cs.reverse
    cases hbody : (dropOne '"' cs.reverse).reverse with
    | nil =>
      rw [List.reverse_eq_nil_iff] at hbody
      obtain ⟨d, ds, hcs⟩ := List.exists_cons_of_ne_nil (List.reverse_ne_nil_iff.mpr hne)
      rw [hcs, dropOne] at hbody
      split at hbody
      · next hd =>
        rw [hbody, beq_iff_eq.mp hd] at hcs
        exact absurd (List.reverse_eq_iff.mp hcs) hquote
      · cases hbody
    | cons c body =>
      rw [hbody] at h hstarts
      have hc : p c = true := List.all_eq_true.mp h.2.2 c List.mem_cons_self
      have hhead : cs.head? ≠ some '"' := by
        obtain ⟨rest, rfl⟩ := hstarts
        rintro ⟨⟩
        rw [hp] at hc
        cases hc
      rw [isValueOf, dropOne_of_head?_ne hhead, hbody, h.2.2]
      rfl

/-- Blanks before a value do not make it one, unless it is a lone double quote. -/
theorem ignoresLead_valueOf? {p : Char → Bool} (hp : p '"' = false) {cs : List Char}
    (h : isPlainValue cs = true) : IgnoresLead (valueOf? p) cs := by
  intro hnone gap hgap
  rw [isPlainValue, Bool.and_eq_true, Bool.and_eq_true] at h
  have hne : cs ≠ [] := by
    rintro rfl
    exact absurd h.1.1 (by decide)
  rw [valueOf?, if_neg]
  intro hvalue
  rw [valueOf?, if_pos (isValueOf_of_append hp hgap hne (bne_iff_ne.mp h.1.2) hvalue)] at hnone
  cases hnone

end SheetQuery.Query
