import SheetQuery.Proofs.Json.Gain

/-!
# Stray characters in JSON

Blanks that JSON does not know, and words where a name or a mark should stand, make a text unreadable.
So how a text is read can be told from its start: either it goes on in the next state, or nothing is
read.

* `Assembly.readOn`: what is read of a text from a state on;
* `word_of_isBlank`: a word with a blank in it is faulty;
* `readOn_blanks`, `readOn_mark`, `readOn_word`: how reading goes on.
-/

namespace SheetQuery.Json

/-! ## Words with blanks -/

/-- A character of a class is none that is not in it. -/
theorem ne_of_class {p : Char → Bool} {c d : Char} (hc : p c = true) (hd : p d = false) : c ≠ d := by
  rintro rfl
  rw [hd] at hc
  cases hc

theorem mem_dropWhile {p : Char → Bool} {c : Char} {cs : List Char} (h : c ∈ cs)
    (hc : p c = false) : c ∈ cs.dropWhile p := by
  rw [← List.takeWhile_append_dropWhile (p := p) (l := cs), List.mem_append] at h
  refine h.resolve_left fun hmem => ?_
  rw [List.all_eq_true.mp List.all_takeWhile c hmem] at hc
  cases hc

section Stray

variable {c : Char} (hc : Text.isBlank c = true)

include hc

theorem isAsciiDigit_of_isBlank : Text.isAsciiDigit c = false :=
  Text.of_isBlank (P := fun c => Text.isAsciiDigit c = false) (by decide) hc

theorem mem_dropFraction {cs : List Char} (h : c ∈ cs) : c ∈ dropFraction cs := by
  unfold dropFraction
  split
  · next d rest =>
    split
    · next hd =>
      have hmem : c ∈ rest := by
        have hpoint : c ≠ '.' := ne_of_class hc (by decide)
        have hdigit : c ≠ d := (ne_of_class hd (isAsciiDigit_of_isBlank hc)).symm
        simpa [hpoint, hdigit] using h
      exact mem_dropWhile hmem (isAsciiDigit_of_isBlank hc)
    · exact h
  · exact h

theorem mem_dropExponent {cs : List Char} (h : c ∈ cs) : c ∈ dropExponent cs := by
  unfold dropExponent
  split
  · next e rest =>
    split
    · next he =>
      have hrest : c ∈ rest := by
        refine (List.mem_cons.mp h).resolve_left ?_
        rintro rfl
        have hletter : c ≠ 'e' ∧ c ≠ 'E' := ⟨ne_of_class hc (by decide), ne_of_class hc (by decide)⟩
        simp [hletter] at he
      dsimp only
      split
      · next d r hunsigned =>
        -- a sign may have been passed over, which is no blank
        have hmem : c ∈ d :: r := by
          rw [← hunsigned]
          split
          · exact (List.mem_cons.mp hrest).resolve_left (ne_of_class hc (by decide))
          · exact (List.mem_cons.mp hrest).resolve_left (ne_of_class hc (by decide))
          · exact hrest
        split
        · next hd =>
          have hdigit : c ≠ d := (ne_of_class hd (isAsciiDigit_of_isBlank hc)).symm
          exact mem_dropWhile ((List.mem_cons.mp hmem).resolve_left hdigit)
            (isAsciiDigit_of_isBlank hc)
        · exact h
      · exact h
    · exact h
  · cases h

theorem numeral_of_isBlank {cs : List Char} (h : c ∈ cs) : ∃ f, numeral cs = .fault f := by
  unfold numeral
  split
  · exact ⟨_, rfl⟩
  · next whole rest hsplit =>
    -- the blank is left over, whatever is passed over as a numeral
    obtain ⟨hcs, sign, digits, hwhole, hsign, -, hdigits, -⟩ := splitInteger?_cases hsplit
    have hrest : c ∈ rest := by
      rw [hcs, hwhole, List.mem_append, List.mem_append] at h
      refine h.resolve_left ?_
      rintro (hmem | hmem)
      · rcases hsign with rfl | rfl
        · cases hmem
        · exact ne_of_class hc (by decide) (List.mem_singleton.mp hmem)
      · exact ne_of_class (hdigits c hmem) (isAsciiDigit_of_isBlank hc) rfl
    have hleft : (dropExponent (dropFraction rest)).isEmpty = false := by
      rw [List.isEmpty_eq_false_iff]
      exact List.ne_nil_of_mem (mem_dropExponent hc (mem_dropFraction hc hrest))
    dsimp only
    rw [hleft]
    split
    · split
      · exact ⟨_, rfl⟩
      · exact ⟨_, rfl⟩
    · exact ⟨_, rfl⟩

/-- A word with a blank in it is faulty. -/
theorem word_of_isBlank {cs : List Char} (h : c ∈ cs) : ∃ f, word cs = .fault f := by
  have hne : ∀ name : List Char, (∀ d ∈ name, Text.isBlank d = false) → (cs == name) = false := by
    intro name hname
    rw [beq_eq_false_iff_ne]
    rintro rfl
    exact ne_of_class hc (hname c h) rfl
  rw [word, hne _ (by decide), hne _ (by decide), hne _ (by decide), hne _ (by decide),
    hne _ (by decide), hne _ (by decide)]
  exact numeral_of_isBlank hc h

theorem isWordish_of_isBlank (hspace : isSpace c = false) : IsWordish c :=
  ⟨hspace, ne_of_class hc (by decide),
    Text.of_isBlank (P := fun c => (mark? c).isSome = false) (by decide) hc⟩

end Stray

/-! ## Reading on -/

/-- The lexeme of a word comes first, however far the word goes on. -/
theorem exists_lex_inWord (cs collected : List Char) :
    ∃ more lexemes, lex (.inWord collected) cs = word (collected.reverse ++ more) :: lexemes := by
  induction cs generalizing collected with
  | nil => exact ⟨[], [], by simp [lex]⟩
  | cons c cs ih =>
    rw [lex]
    split
    · exact ⟨[], _, by rw [List.append_nil]⟩
    · split
      · exact ⟨[], _, by rw [List.append_nil]⟩
      · split
        · exact ⟨[], _, by rw [List.append_nil]⟩
        · obtain ⟨more, lexemes, hlex⟩ := ih (c :: collected)
          exact ⟨c :: more, lexemes, by rw [hlex]; simp⟩

/-- A word at the start of a text is the start of the first lexeme. -/
theorem exists_lex_append {cs : List Char} (hne : cs ≠ []) (h : ∀ c ∈ cs, IsWordish c)
    (rest : List Char) :
    ∃ more lexemes, lex .between (cs ++ rest) = word (cs ++ more) :: lexemes := by
  obtain ⟨c, cs, rfl⟩ := List.exists_cons_of_ne_nil hne
  obtain ⟨hspace, hquote, hmark⟩ := h c List.mem_cons_self
  rw [Option.isSome_eq_false_iff, Option.isNone_iff_eq_none] at hmark
  have hstep : lex .between (c :: cs ++ rest) = lex (.inWord [c]) (cs ++ rest) := by
    simp [lex, hspace, hquote, hmark]
  obtain ⟨more, lexemes, hlex⟩ := exists_lex_inWord rest (cs.reverse ++ [c])
  refine ⟨more, lexemes, ?_⟩
  rw [hstep, lex_inWord fun d hd => h d (List.mem_cons_of_mem _ hd), hlex]
  simp

namespace Assembly

/-- What is read of a text from a state on, if it is not faulty. -/
def readOn (a : Assembly) (cs : List Char) : Option Cell := (a.run (lex .between cs)).toOption

theorem readOn_of_error {a : Assembly} {cs : List Char} {lexeme : Lexeme} {lexemes : List Lexeme}
    {f : Fault} (hlex : lex .between cs = lexeme :: lexemes) (hstep : a.step lexeme = .error f) :
    a.readOn cs = none := by
  rw [readOn, hlex, run, hstep]
  rfl

theorem readOn_of_ok {a next : Assembly} {cs rest : List Char} {lexeme : Lexeme}
    (hlex : lex .between cs = lexeme :: lex .between rest) (hstep : a.step lexeme = .ok next) :
    a.readOn cs = next.readOn rest := by
  rw [readOn, hlex, run, hstep]
  rfl

theorem exists_step_fault (a : Assembly) (f : Fault) : ∃ g, a.step (.fault f) = .error g := by
  obtain ⟨expect, stack⟩ := a
  cases expect <;> exact ⟨_, rfl⟩

/-- A word is out of place where no value may stand. -/
theorem exists_step_word {a : Assembly} (h : ¬ TakesValue a.expect) (cs : List Char) :
    ∃ f, a.step (word cs) = .error f := by
  have hword := isWord_word cs
  obtain ⟨expect, stack⟩ := a
  match hlexeme : word cs with
  | .fault f => exact exists_step_fault _ f
  | .scalar .null | .scalar (.bool _) | .scalar (.int _) | .scalar (.float _) =>
    cases expect with
    | value => exact absurd (.inl rfl) h
    | firstItem => exact absurd (.inr rfl) h
    | firstName | name | colon | separator | finish => exact ⟨_, rfl⟩
  | .scalar (.text _) | .scalar (.list _) | .scalar (.record _) | .openList | .closeList
  | .openRecord | .closeRecord | .colon | .comma =>
    rw [hlexeme] at hword
    exact hword.elim

/-- Blanks are passed over if JSON knows them, and nothing is read otherwise. -/
theorem readOn_blanks (a : Assembly) {blanks : List Char}
    (h : ∀ c ∈ blanks, Text.isBlank c = true) (rest : List Char) :
    a.readOn (blanks ++ rest) = if blanks.all isSpace then a.readOn rest else none := by
  induction blanks with
  | nil => rfl
  | cons c blanks ih =>
    obtain ⟨hc, hblanks⟩ := List.forall_mem_cons.mp h
    rw [List.all_cons]
    cases hspace : isSpace c with
    | true =>
      have hlex : lex .between (c :: blanks ++ rest) = lex .between (blanks ++ rest) := by
        simp [lex, hspace]
      rw [Bool.true_and, ← ih hblanks, readOn, readOn, hlex]
    | false =>
      -- to JSON another blank is a letter: it begins a word, which may go on into the
      -- text after the blanks, and no word with a blank in it is one that JSON knows
      have hwordish : ∀ d ∈ [c], IsWordish d := by
        simpa using isWordish_of_isBlank hc hspace
      obtain ⟨more, lexemes, hlex⟩ := exists_lex_append (List.cons_ne_nil c []) hwordish
        (blanks ++ rest)
      have hmem : c ∈ [c] ++ more := by simp
      obtain ⟨f, hfault⟩ := word_of_isBlank hc hmem
      rw [hfault] at hlex
      obtain ⟨g, hstep⟩ := exists_step_fault a f
      rw [Bool.false_and, if_neg Bool.false_ne_true]
      exact readOn_of_error hlex hstep

theorem readOn_mark {a next : Assembly} {c : Char} {lexeme : Lexeme} (h : mark? c = some lexeme)
    (hstep : a.step lexeme = .ok next) (rest : List Char) :
    a.readOn (c :: rest) = next.readOn rest :=
  readOn_of_ok (lex_mark h rest) hstep

/-- Where no value may stand, nothing is read of what starts with a word. -/
theorem readOn_of_isWordish {a : Assembly} (h : ¬ TakesValue a.expect) {c : Char} (hc : IsWordish c)
    (rest : List Char) : a.readOn (c :: rest) = none := by
  have hwordish : ∀ d ∈ [c], IsWordish d := by simpa using hc
  obtain ⟨more, lexemes, hlex⟩ := exists_lex_append (List.cons_ne_nil c []) hwordish rest
  obtain ⟨f, hstep⟩ := exists_step_word h ([c] ++ more)
  exact readOn_of_error hlex hstep

theorem step_scalar {expect : Expect} (h : TakesValue expect) (cell : Cell) (stack : List Frame) :
    step ⟨expect, stack⟩ (.scalar cell) = .ok (deliver cell stack) := by
  rcases h with rfl | rfl <;> rfl

/-- A word is delivered before a blank or a mark. Before a blank that JSON does not know, nothing is
read, of the word neither. -/
theorem readOn_word {expect : Expect} (hexpect : TakesValue expect) {cs : List Char} {cell : Cell}
    (hne : cs ≠ []) (hwordish : ∀ c ∈ cs, IsWordish c) (hword : word cs = .scalar cell)
    {rest : List Char}
    (hrest : ∀ c ∈ rest.head?, Text.isBlank c = true ∨ (mark? c).isSome = true)
    (stack : List Frame) :
    readOn ⟨expect, stack⟩ (cs ++ rest) = (deliver cell stack).readOn rest := by
  by_cases hapart : IsApart rest
  · have hlex := lex_word hne hwordish hapart
    rw [hword] at hlex
    exact readOn_of_ok hlex (step_scalar hexpect cell stack)
  · -- the word goes on with a blank
    obtain ⟨c, tail, rfl⟩ : ∃ c tail, rest = c :: tail :=
      List.exists_cons_of_ne_nil fun hnil => hapart (by simp [hnil, IsApart])
    obtain ⟨hspace, hmark⟩ : isSpace c = false ∧ (mark? c).isSome = false := by
      simpa [IsApart] using hapart
    have hblank : Text.isBlank c = true := by
      simpa [hmark] using hrest c rfl
    have hblanks : ∀ d ∈ [c], Text.isBlank d = true := by simpa using hblank
    have hright := readOn_blanks (deliver cell stack) hblanks tail
    have hleft : readOn ⟨expect, stack⟩ (cs ++ [c] ++ tail) = none := by
      have hall : ∀ d ∈ cs ++ [c], IsWordish d := by
        intro d hd
        rcases List.mem_append.mp hd with hd | hd
        · exact hwordish d hd
        · rw [List.mem_singleton.mp hd]
          exact isWordish_of_isBlank hblank hspace
      obtain ⟨more, lexemes, hlex⟩ := exists_lex_append (by simp) hall tail
      have hmem : c ∈ cs ++ [c] ++ more := by simp
      obtain ⟨f, hfault⟩ := word_of_isBlank hblank hmem
      rw [hfault] at hlex
      obtain ⟨g, hstep⟩ := exists_step_fault ⟨expect, stack⟩ f
      exact readOn_of_error hlex hstep
    simp only [List.all_cons, hspace, Bool.false_and, if_neg Bool.false_ne_true,
      List.singleton_append] at hright
    rw [hright, ← hleft, List.append_assoc, List.singleton_append]

end Assembly

end SheetQuery.Json
