import SheetQuery.Proofs.Json.Integer

/-!
# Reading what has been written

The lexer cuts a written text into the lexemes that it writes, and the assembler puts the lexemes of a
cell together again.

* `lex_of_writesAll`: the lexer;
* `run_lexemes`: the assembler, in front of whatever follows;
* `read_of_writes`: a cell is read from each of its texts.
-/

namespace SheetQuery.Json

/-! ## Texts -/

/-- Hexadecimal digits are collected into the number that they write. -/
theorem lex_inHex {n : Nat} {digits : List Char} (h : WritesUnit n digits) (collected : List Nat)
    (rest : List Char) :
    lex (.inHex collected 0 4) (digits ++ rest) = lex (.inString (n :: collected)) rest := by
  obtain ⟨h₃, h₂, h₁, h₀⟩ := h
  simp [lex, h₃, h₂, h₁, h₀]

theorem lex_inString_unit {n : Nat} {digits : List Char} (h : WritesUnit n digits)
    (collected : List Nat) (rest : List Char) :
    lex (.inString collected) ('\\' :: 'u' :: (digits ++ rest)) =
      lex (.inString (n :: collected)) rest := by
  rw [← lex_inHex h]
  simp [lex]

theorem toNat_not_surrogate (c : Char) : ¬ (0xD800 ≤ c.toNat ∧ c.toNat < 0xE000) := by
  intro h
  have hvalid : c.toNat < 0xD800 ∨ 0xDFFF < c.toNat ∧ c.toNat < 0x110000 := c.valid
  omega

/-- The number of a character stands for the character, whatever follows. -/
theorem joinSurrogates_cons (c : Char) (units : List Nat) :
    joinSurrogates (c.toNat :: units) = c :: joinSurrogates units := by
  have hc := toNat_not_surrogate c
  have hlone : (decide (0xD800 ≤ c.toNat) && decide (c.toNat < 0xE000)) = false := by
    simpa using hc
  cases units with
  | nil => simp [joinSurrogates, hlone]
  | cons m units =>
    have hpair : (decide (0xD800 ≤ c.toNat) && decide (c.toNat < 0xDC00)) = false := by
      simp only [Bool.and_eq_false_imp, decide_eq_true_eq, decide_eq_false_iff_not]
      omega
    simp [joinSurrogates, hlone, hpair]

/-- Two halves stand for the character that they are the halves of. -/
theorem joinSurrogates_pair {c : Char} {high low : Nat} (hhigh : high < 0x400) (hlow : low < 0x400)
    (hc : c.toNat = 0x10000 + high * 0x400 + low) (units : List Nat) :
    joinSurrogates ((0xD800 + high) :: (0xDC00 + low) :: units) = c :: joinSurrogates units := by
  have hvalue : 0x10000 + (0xD800 + high - 0xD800) * 0x400 + (0xDC00 + low - 0xDC00) = c.toNat := by
    omega
  rw [joinSurrogates, if_pos, hvalue, Char.ofNat_toNat]
  simp
  omega

/-- What is written of a text is collected as numbers that stand for the text. -/
theorem exists_units_of_writesText {text cs : List Char} (h : WritesText text cs) :
    ∃ units, joinSurrogates units = text ∧ ∀ collected rest,
      lex (.inString collected) (cs ++ rest) = lex (.inString (units.reverse ++ collected)) rest := by
  -- the numbers are collected in reverse, so each case puts its own in front of what the rest
  -- collects; a pair of surrogates is two numbers, which become one character only when they are
  -- joined
  induction h with
  | nil => exact ⟨[], rfl, fun _ _ => rfl⟩
  | @plain c text cs hquote hescape hprintable _ ih =>
    obtain ⟨units, hunits, hlex⟩ := ih
    refine ⟨c.toNat :: units, by rw [joinSurrogates_cons, hunits], fun collected rest => ?_⟩
    have hlow : ¬ c.toNat < 0x20 := Nat.not_lt.mpr hprintable
    have hstep : lex (.inString collected) (c :: cs ++ rest) =
        lex (.inString (c.toNat :: collected)) (cs ++ rest) := by
      simp [lex, hquote, hescape, hlow]
    rw [hstep, hlex]
    simp
  | @escape c letter text cs hletter _ ih =>
    obtain ⟨units, hunits, hlex⟩ := ih
    refine ⟨c.toNat :: units, by rw [joinSurrogates_cons, hunits], fun collected rest => ?_⟩
    have hu : letter ≠ 'u' := by
      rintro rfl
      cases hletter
    have hstep : lex (.inString collected) ('\\' :: letter :: cs ++ rest) =
        lex (.inString (c.toNat :: collected)) (cs ++ rest) := by
      simp [lex, hu, hletter]
    rw [hstep, hlex]
    simp
  | @unit c digits text cs hdigits _ ih =>
    obtain ⟨units, hunits, hlex⟩ := ih
    refine ⟨c.toNat :: units, by rw [joinSurrogates_cons, hunits], fun collected rest => ?_⟩
    have hstep := lex_inString_unit hdigits collected (cs ++ rest)
    simp only [List.cons_append, List.append_assoc]
    rw [hstep, hlex]
    simp
  | @pair c high low highDigits lowDigits text cs hhighDigits hlowDigits hhigh hlow hc _ ih =>
    obtain ⟨units, hunits, hlex⟩ := ih
    refine ⟨(0xD800 + high) :: (0xDC00 + low) :: units,
      by rw [joinSurrogates_pair hhigh hlow hc, hunits], fun collected rest => ?_⟩
    simp only [List.cons_append, List.append_assoc]
    rw [lex_inString_unit hhighDigits, lex_inString_unit hlowDigits, hlex]
    simp

/-! ## Words -/

/-- A character that neither ends a word nor starts a text. -/
def IsWordish (c : Char) : Prop := isSpace c = false ∧ c ≠ '"' ∧ (mark? c).isSome = false

instance (c : Char) : Decidable (IsWordish c) :=
  inferInstanceAs (Decidable (isSpace c = false ∧ c ≠ '"' ∧ (mark? c).isSome = false))

theorem lex_inWord {cs : List Char} (h : ∀ c ∈ cs, IsWordish c) (collected rest : List Char) :
    lex (.inWord collected) (cs ++ rest) = lex (.inWord (cs.reverse ++ collected)) rest := by
  induction cs generalizing collected with
  | nil => rfl
  | cons c cs ih =>
    obtain ⟨hspace, hquote, hmark⟩ := h c List.mem_cons_self
    rw [Option.isSome_eq_false_iff, Option.isNone_iff_eq_none] at hmark
    have hstep : lex (.inWord collected) (c :: cs ++ rest) =
        lex (.inWord (c :: collected)) (cs ++ rest) := by
      simp [lex, hspace, hquote, hmark]
    rw [hstep, ih fun d hd => h d (List.mem_cons_of_mem _ hd)]
    simp

theorem isSpace_eq_false_of_mark {c : Char} {lexeme : Lexeme} (h : mark? c = some lexeme) :
    isSpace c = false ∧ c ≠ '"' := by
  have hsome : (mark? c).isSome = true := by rw [h]; rfl
  constructor
  · rw [Bool.eq_false_iff]
    intro hspace
    simp only [isSpace, Bool.or_eq_true, beq_iff_eq] at hspace
    rcases hspace with ((rfl | rfl) | rfl) | rfl <;> exact absurd hsome (by decide)
  · rintro rfl
    exact absurd hsome (by decide)

/-- A word ends where the text does, and before a space or a mark. -/
theorem lex_inWord_of_isApart {rest : List Char} (h : IsApart rest) (collected : List Char) :
    lex (.inWord collected) rest = word collected.reverse :: lex .between rest := by
  cases rest with
  | nil => rfl
  | cons c rest =>
    rcases h c rfl with hspace | hmark
    · simp [lex, hspace]
    · obtain ⟨lexeme, hlexeme⟩ := Option.isSome_iff_exists.mp hmark
      obtain ⟨hspace, hquote⟩ := isSpace_eq_false_of_mark hlexeme
      simp [lex, hspace, hquote, hlexeme]

/-- A word is one lexeme. -/
theorem lex_word {cs rest : List Char} (hne : cs ≠ []) (h : ∀ c ∈ cs, IsWordish c)
    (hapart : IsApart rest) : lex .between (cs ++ rest) = word cs :: lex .between rest := by
  obtain ⟨c, cs, rfl⟩ := List.exists_cons_of_ne_nil hne
  obtain ⟨hspace, hquote, hmark⟩ := h c List.mem_cons_self
  rw [Option.isSome_eq_false_iff, Option.isNone_iff_eq_none] at hmark
  have hstep : lex .between (c :: cs ++ rest) = lex (.inWord [c]) (cs ++ rest) := by
    simp [lex, hspace, hquote, hmark]
  rw [hstep, lex_inWord (fun d hd => h d (List.mem_cons_of_mem _ hd)),
    lex_inWord_of_isApart hapart]
  simp

theorem intChars_ne_nil (n : Int) : intChars n ≠ [] := by
  rw [intChars]
  split
  · exact List.cons_ne_nil _ _
  · exact digitChars_ne_nil _

theorem isWordish_of_mem_intChars {n : Int} {c : Char} (h : c ∈ intChars n) : IsWordish c := by
  have hne : ∀ d : Char, d ≠ '-' → ¬ (0x30 ≤ d.toNat ∧ d.toNat ≤ 0x39) → c ≠ d := by
    rintro d hminus hdigit rfl
    exact (mem_intChars h).elim hminus hdigit
  refine ⟨?_, hne _ (by decide) (by decide), ?_⟩
  · simp [isSpace, hne ' ' (by decide) (by decide), hne '\t' (by decide) (by decide),
      hne '\n' (by decide) (by decide), hne '\r' (by decide) (by decide)]
  · simp [mark?, hne '[' (by decide) (by decide), hne ']' (by decide) (by decide),
      hne '{' (by decide) (by decide), hne '}' (by decide) (by decide),
      hne ':' (by decide) (by decide), hne ',' (by decide) (by decide)]

/-! ## Lexemes -/

/-- Can a lexeme be read? Only long integers cannot. -/
def Lexeme.IsShort : Lexeme → Prop
  | .scalar cell => cell.IsShort
  | _ => True

theorem lex_spaces {spaces : List Char} (h : ∀ c ∈ spaces, isSpace c = true) (rest : List Char) :
    lex .between (spaces ++ rest) = lex .between rest := by
  induction spaces with
  | nil => rfl
  | cons c spaces ih =>
    have hc : isSpace c = true := h c List.mem_cons_self
    have hstep : lex .between (c :: spaces ++ rest) = lex .between (spaces ++ rest) := by
      simp [lex, hc]
    rw [hstep, ih fun d hd => h d (List.mem_cons_of_mem _ hd)]

theorem lex_mark {c : Char} {lexeme : Lexeme} (h : mark? c = some lexeme) (rest : List Char) :
    lex .between (c :: rest) = lexeme :: lex .between rest := by
  obtain ⟨hspace, hquote⟩ := isSpace_eq_false_of_mark h
  simp [lex, hspace, hquote, h]

/-- A text in quotes is one lexeme, whatever follows. -/
theorem lex_text {s : String} {cs : List Char} (h : WritesText s.toList cs) (rest : List Char) :
    lex .between ('"' :: (cs ++ ['"']) ++ rest) = .scalar (.text s) :: lex .between rest := by
  obtain ⟨units, hunits, hlex⟩ := exists_units_of_writesText h
  have hstart : lex .between ('"' :: (cs ++ ['"']) ++ rest) =
      lex (.inString []) (cs ++ '"' :: rest) := by
    simp [lex, isSpace]
  rw [hstart, hlex]
  simp [lex, hunits]

theorem lex_lexeme {lexeme : Lexeme} {cs rest : List Char} (h : WritesLexeme lexeme cs)
    (hshort : lexeme.IsShort) (hapart : (∀ cell, lexeme ≠ .scalar cell) ∨ IsApart rest) :
    lex .between (cs ++ rest) = lexeme :: lex .between rest := by
  have hscalar : ∀ cell, lexeme = .scalar cell → IsApart rest := by
    intro cell hcell
    exact hapart.resolve_left fun hnot => hnot cell hcell
  cases h with
  | mark hmark => exact lex_mark hmark rest
  | null => exact lex_word (by decide) (by decide) (hscalar _ rfl)
  | bool value =>
    cases value with
    | true => exact lex_word (by decide) (by decide) (hscalar _ rfl)
    | false => exact lex_word (by decide) (by decide) (hscalar _ rfl)
  | int n =>
    rw [lex_word (intChars_ne_nil n) (fun c hc => isWordish_of_mem_intChars hc) (hscalar _ rfl),
      word_intChars hshort]
  | minusZero => exact lex_word (by decide) (by decide) (hscalar _ rfl)
  | text htext => exact lex_text htext rest

/-- A written text is cut into the lexemes that it writes. -/
theorem lex_of_writesAll {lexemes : List Lexeme} {cs : List Char} (h : WritesAll lexemes cs)
    (hshort : ∀ lexeme ∈ lexemes, lexeme.IsShort) : lex .between cs = lexemes := by
  induction h with
  | @nil spaces hspaces =>
    have hlex := lex_spaces hspaces []
    rw [List.append_nil] at hlex
    rw [hlex]
    rfl
  | cons hspaces hlexeme hapart _ ih =>
    rw [List.append_assoc, lex_spaces hspaces,
      lex_lexeme hlexeme (hshort _ List.mem_cons_self) hapart,
      ih fun lexeme hmem => hshort lexeme (List.mem_cons_of_mem _ hmem)]

/-! ## Cells -/

theorem put_of_not_mem {name : String} {entries : Entries} (h : name ∉ entries.map Prod.fst)
    (cell : Cell) : Entries.put name cell entries = entries ++ [(name, cell)] := by
  induction entries with
  | nil => rfl
  | cons entry entries ih =>
    obtain ⟨other, old⟩ := entry
    rw [List.map_cons, List.mem_cons, not_or] at h
    rw [Entries.put, if_neg fun heq => h.1 heq.symm, ih h.2, List.cons_append]

namespace Assembly

/-- May a value come next? -/
def TakesValue (expect : Expect) : Prop := expect = .value ∨ expect = .firstItem

/-- May the name of an entry come next? -/
def TakesName (expect : Expect) : Prop := expect = .name ∨ expect = .firstName

/-- The name of an entry and its colon. -/
theorem run_name {expect : Expect} (h : TakesName expect) (before : Entries) (last name : String)
    (stack : List Frame) (more : List Lexeme) :
    run ⟨expect, .record before last :: stack⟩ (.scalar (.text name) :: .colon :: more) =
      run ⟨.value, .record before name :: stack⟩ more := by
  rcases h with rfl | rfl <;> rfl

/-- An entry whose name is new goes to the end. -/
theorem deliver_of_not_mem {before : Entries} {name : String} (h : name ∉ before.map Prod.fst)
    (cell : Cell) (stack : List Frame) :
    deliver cell (.record before name :: stack) =
      ⟨.separator, .record (before ++ [(name, cell)]) name :: stack⟩ := by
  rw [deliver, put_of_not_mem h]

theorem not_mem_names {before entries : Entries} {name : String} {cell : Cell}
    (h : ((before ++ (name, cell) :: entries).map Prod.fst).Nodup) : name ∉ before.map Prod.fst := by
  intro hmem
  rw [List.map_append, List.map_cons, List.nodup_append] at h
  exact h.2.2 name hmem name List.mem_cons_self rfl

mutual

/-- The lexemes of a cell are assembled to the cell, whatever follows. -/
theorem run_lexemes : ∀ {cell : Cell}, (∀ part ∈ cell.parts, part.HasDistinctNames) →
    ∀ {expect : Expect}, TakesValue expect → ∀ (stack : List Frame) (more : List Lexeme),
      run ⟨expect, stack⟩ (lexemes cell ++ more) = run (deliver cell stack) more
  | .list items, h, expect, hexpect, stack, more => by
    have hopen : run ⟨expect, stack⟩ (lexemes (.list items) ++ more) =
        run ⟨.firstItem, .list [] :: stack⟩ (itemLexemes items ++ .closeList :: more) := by
      rcases hexpect with rfl | rfl <;> simp [lexemes, run, step]
    rw [hopen]
    cases items with
    | nil => rfl
    | cons item items =>
      rw [run_itemLexemes (fun part hpart => h part (List.mem_cons_of_mem _ hpart))
        (List.cons_ne_nil _ _) (.inr rfl)]
      rfl
  | .record entries, h, expect, hexpect, stack, more => by
    have hopen : run ⟨expect, stack⟩ (lexemes (.record entries) ++ more) =
        run ⟨.firstName, .record [] "" :: stack⟩ (entryLexemes entries ++ .closeRecord :: more) := by
      rcases hexpect with rfl | rfl <;> simp [lexemes, run, step]
    rw [hopen]
    cases entries with
    | nil => rfl
    | cons entry entries =>
      have hnames : ((entry :: entries).map Prod.fst).Nodup := h _ List.mem_cons_self
      rw [run_entryLexemes (fun part hpart => h part (List.mem_cons_of_mem _ hpart))
        (List.cons_ne_nil _ _) (by simpa using hnames) (.inr rfl)]
      rfl
  | .null, _, expect, hexpect, stack, more | .bool _, _, expect, hexpect, stack, more
  | .int _, _, expect, hexpect, stack, more | .float _, _, expect, hexpect, stack, more
  | .text _, _, expect, hexpect, stack, more => by
    rcases hexpect with rfl | rfl <;> rfl

theorem run_itemLexemes : ∀ {items : List Cell},
    (∀ part ∈ Cell.itemParts items, part.HasDistinctNames) → items ≠ [] →
    ∀ {expect : Expect}, TakesValue expect →
    ∀ {before : List Cell} {stack : List Frame} {more : List Lexeme},
      run ⟨expect, .list before :: stack⟩ (itemLexemes items ++ .closeList :: more) =
        run (deliver (.list (before.reverse ++ items)) stack) more
  | [], _, hne, _, _, _, _, _ => absurd rfl hne
  | [item], h, _, expect, hexpect, before, stack, more => by
    rw [itemLexemes, run_lexemes (fun part hpart => h part (by simp [Cell.itemParts, hpart]))
      hexpect]
    simp [deliver, run, step]
  | item :: next :: items, h, _, expect, hexpect, before, stack, more => by
    rw [Cell.itemParts] at h
    simp only [List.mem_append] at h
    rw [itemLexemes, List.append_assoc, run_lexemes (fun part hpart => h part (.inl hpart)) hexpect]
    have hcomma : run (deliver item (.list before :: stack))
        (.comma :: itemLexemes (next :: items) ++ .closeList :: more) =
        run ⟨.value, .list (item :: before) :: stack⟩
          (itemLexemes (next :: items) ++ .closeList :: more) := rfl
    rw [hcomma, run_itemLexemes (fun part hpart => h part (.inr hpart)) (List.cons_ne_nil _ _)
      (.inl rfl)]
    simp

theorem run_entryLexemes : ∀ {entries : List (String × Cell)},
    (∀ part ∈ Cell.entryParts entries, part.HasDistinctNames) → entries ≠ [] →
    ∀ {before : Entries}, ((before ++ entries).map Prod.fst).Nodup →
    ∀ {expect : Expect}, TakesName expect →
    ∀ {last : String} {stack : List Frame} {more : List Lexeme},
      run ⟨expect, .record before last :: stack⟩ (entryLexemes entries ++ .closeRecord :: more) =
        run (deliver (.record (before ++ entries)) stack) more
  | [], _, hne, _, _, _, _, _, _, _ => absurd rfl hne
  | [(name, cell)], h, _, before, hnames, expect, hexpect, last, stack, more => by
    rw [entryLexemes, List.cons_append, List.cons_append, run_name hexpect,
      run_lexemes (fun part hpart => h part (by simp [Cell.entryParts, hpart])) (.inl rfl),
      deliver_of_not_mem (not_mem_names hnames)]
    rfl
  | (name, cell) :: next :: entries, h, _, before, hnames, expect, hexpect, last, stack, more => by
    rw [Cell.entryParts] at h
    simp only [List.mem_append] at h
    rw [entryLexemes, List.cons_append, List.cons_append, run_name hexpect, List.append_assoc,
      run_lexemes (fun part hpart => h part (.inl hpart)) (.inl rfl),
      deliver_of_not_mem (not_mem_names hnames)]
    have hcomma : run ⟨.separator, .record (before ++ [(name, cell)]) name :: stack⟩
        (.comma :: entryLexemes (next :: entries) ++ .closeRecord :: more) =
        run ⟨.name, .record (before ++ [(name, cell)]) name :: stack⟩
          (entryLexemes (next :: entries) ++ .closeRecord :: more) := rfl
    rw [hcomma, run_entryLexemes (fun part hpart => h part (.inr hpart)) (List.cons_ne_nil _ _)
      (by simpa using hnames) (.inl rfl)]
    simp

end

end Assembly

mutual

/-- The scalars among the lexemes of a cell are cells in it, or names. -/
theorem isShort_of_mem_lexemes : ∀ {cell : Cell}, (∀ part ∈ cell.parts, part.IsShort) →
    ∀ lexeme ∈ lexemes cell, lexeme.IsShort
  | .list items, h, lexeme, hlexeme => by
    simp only [lexemes, List.mem_cons, List.mem_append, List.not_mem_nil, or_false] at hlexeme
    rcases hlexeme with rfl | hlexeme | rfl
    · trivial
    · exact isShort_of_mem_itemLexemes (fun part hpart => h part (List.mem_cons_of_mem _ hpart))
        lexeme hlexeme
    · trivial
  | .record entries, h, lexeme, hlexeme => by
    simp only [lexemes, List.mem_cons, List.mem_append, List.not_mem_nil, or_false] at hlexeme
    rcases hlexeme with rfl | hlexeme | rfl
    · trivial
    · exact isShort_of_mem_entryLexemes (fun part hpart => h part (List.mem_cons_of_mem _ hpart))
        lexeme hlexeme
    · trivial
  | .null, h, lexeme, hlexeme | .bool _, h, lexeme, hlexeme | .int _, h, lexeme, hlexeme
  | .float _, h, lexeme, hlexeme | .text _, h, lexeme, hlexeme => by
    rw [List.mem_singleton.mp hlexeme]
    exact h _ List.mem_cons_self

theorem isShort_of_mem_itemLexemes : ∀ {items : List Cell},
    (∀ part ∈ Cell.itemParts items, part.IsShort) → ∀ lexeme ∈ itemLexemes items, lexeme.IsShort
  | [], _, _, hlexeme => by cases hlexeme
  | [item], h, lexeme, hlexeme =>
    isShort_of_mem_lexemes (fun part hpart => h part (by simp [Cell.itemParts, hpart])) lexeme hlexeme
  | item :: next :: items, h, lexeme, hlexeme => by
    rw [Cell.itemParts] at h
    simp only [List.mem_append] at h
    rw [itemLexemes, List.mem_append, List.mem_cons] at hlexeme
    rcases hlexeme with hlexeme | rfl | hlexeme
    · exact isShort_of_mem_lexemes (fun part hpart => h part (.inl hpart)) lexeme hlexeme
    · trivial
    · exact isShort_of_mem_itemLexemes (fun part hpart => h part (.inr hpart)) lexeme hlexeme

theorem isShort_of_mem_entryLexemes : ∀ {entries : List (String × Cell)},
    (∀ part ∈ Cell.entryParts entries, part.IsShort) →
    ∀ lexeme ∈ entryLexemes entries, lexeme.IsShort
  | [], _, _, hlexeme => by cases hlexeme
  | [(name, cell)], h, lexeme, hlexeme => by
    rw [entryLexemes, List.mem_cons, List.mem_cons] at hlexeme
    rcases hlexeme with rfl | rfl | hlexeme
    · trivial
    · trivial
    · exact isShort_of_mem_lexemes (fun part hpart => h part (by simp [Cell.entryParts, hpart]))
        lexeme hlexeme
  | (name, cell) :: next :: entries, h, lexeme, hlexeme => by
    rw [Cell.entryParts] at h
    simp only [List.mem_append] at h
    rw [entryLexemes, List.mem_cons, List.mem_cons, List.mem_append, List.mem_cons] at hlexeme
    rcases hlexeme with rfl | rfl | hlexeme | rfl | hlexeme
    · trivial
    · trivial
    · exact isShort_of_mem_lexemes (fun part hpart => h part (.inl hpart)) lexeme hlexeme
    · trivial
    · exact isShort_of_mem_entryLexemes (fun part hpart => h part (.inr hpart)) lexeme hlexeme

end

/-- A cell without long integers, whose records give every name once, is read from each of its
texts. -/
theorem read_of_writes {cell : Cell} {cs : List Char} (h : Writes cell cs)
    (hnames : ∀ part ∈ cell.parts, part.HasDistinctNames)
    (hshort : ∀ part ∈ cell.parts, part.IsShort) : read cs = .ok cell := by
  have hrun := Assembly.run_lexemes hnames (.inl rfl) [] []
  rw [List.append_nil] at hrun
  rw [read, lex_of_writesAll h (isShort_of_mem_lexemes hshort), hrun]
  rfl

end SheetQuery.Json
