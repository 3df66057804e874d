import SheetQuery.Proofs.Assistant.Cutting
import SheetQuery.Proofs.Json.Gain

/-!
# Objects that no brace or back tick cuts short

If the texts of a record have neither braces nor back ticks, its braces are those of its records, in
pairs. So it is an intact object, however it is written.

* `marks`: the braces and back ticks in the texts of a cell;
* `IsClean`: a text that leaves open what is open before it, without back ticks;
* `exists_clean_of_writesAll`: what is written of a cell without marks;
* `isIntact_of_writes`: a record without marks.
-/

namespace SheetQuery.Reply

open Json

/-! ## Clean texts -/

/-- The braces and back ticks in the texts of a cell. -/
def marks : Measure := ⟨fun c => if c = '{' ∨ c = '}' ∨ c = '`' then 1 else 0, fun _ => 0, 0⟩

theorem marks_char_eq_zero_iff {c : Char} : marks.char c = 0 ↔ c ≠ '{' ∧ c ≠ '}' ∧ c ≠ '`' := by
  simp [marks]

/-- Does a text leave open what is open before it, and hold no back tick? -/
structure IsClean (cs : List Char) : Prop where
  neutral : IsNeutral cs
  plain : '`' ∉ cs

namespace IsClean

theorem of_forall {cs : List Char} (h : ∀ c ∈ cs, marks.char c = 0) : IsClean cs := by
  constructor
  · apply isNeutral_of_not_mem
    intro c hc
    obtain ⟨hopen, hclose, -⟩ := marks_char_eq_zero_iff.mp (h c hc)
    exact ⟨hopen, hclose⟩
  · exact fun hmem => (marks_char_eq_zero_iff.mp (h _ hmem)).2.2 rfl

theorem nil : IsClean [] := of_forall (by simp)

theorem append {cs ds : List Char} (hcs : IsClean cs) (hds : IsClean ds) : IsClean (cs ++ ds) :=
  ⟨hcs.neutral.append hds.neutral, by simp [hcs.plain, hds.plain]⟩

theorem braces {inner : List Char} (h : IsClean inner) : IsClean ('{' :: (inner ++ ['}'])) :=
  ⟨h.neutral.braces, by simp [h.plain]⟩

/-- An object with a clean inside is intact. -/
theorem isIntact {inner : List Char} (h : IsClean inner) : IsIntact ('{' :: (inner ++ ['}'])) := by
  refine ⟨isBalanced_of_isNeutral h.neutral, fun hticks => ?_⟩
  exact h.braces.plain (hticks.subset (by decide))

end IsClean

/-! ## What a text without marks is written as -/

/-- What is read of some characters only, and of no brace and no back tick. -/
theorem marks_of_some {α : Type} {read : Char → Option α} {d : Char} {v : α} (h : read d = some v)
    (hnone : read '{' = none ∧ read '}' = none ∧ read '`' = none) : marks.char d = 0 := by
  rw [marks_char_eq_zero_iff]
  refine ⟨?_, ?_, ?_⟩
  all_goals
    rintro rfl
    simp [hnone] at h

theorem marks_of_hexValue? {d : Char} {v : Nat} (h : hexValue? d = some v) : marks.char d = 0 :=
  marks_of_some h (by decide)

theorem marks_of_unescape? {letter : Char} {n : Nat} (h : unescape? letter = some n) :
    marks.char letter = 0 :=
  marks_of_some h (by decide)

theorem marks_of_writesUnit {n : Nat} {digits : List Char} (h : WritesUnit n digits) :
    ∀ d ∈ digits, marks.char d = 0 := by
  obtain ⟨h₃, h₂, h₁, h₀⟩ := h
  simp [marks_of_hexValue? h₃, marks_of_hexValue? h₂, marks_of_hexValue? h₁, marks_of_hexValue? h₀]

theorem marks_of_writesText {text cs : List Char} (h : WritesText text cs)
    (htext : (text.map marks.char).sum = 0) : ∀ c ∈ cs, marks.char c = 0 := by
  have hescape : marks.char '\\' = 0 ∧ marks.char 'u' = 0 := by decide
  -- an escape is spelled with a backslash, a letter and digits, and none of these is a mark
  induction h with
  | nil => simp
  | plain _ _ _ _ ih =>
    rw [List.map_cons, List.sum_cons, Nat.add_eq_zero_iff] at htext
    simpa [htext.1] using ih htext.2
  | escape hletter _ ih =>
    rw [List.map_cons, List.sum_cons, Nat.add_eq_zero_iff] at htext
    simpa [hescape, marks_of_unescape? hletter] using ih htext.2
  | unit hdigits _ ih =>
    rw [List.map_cons, List.sum_cons, Nat.add_eq_zero_iff] at htext
    simp only [List.forall_mem_cons, List.forall_mem_append]
    exact ⟨hescape.1, hescape.2, marks_of_writesUnit hdigits, ih htext.2⟩
  | pair hhigh hlow _ _ _ _ ih =>
    rw [List.map_cons, List.sum_cons, Nat.add_eq_zero_iff] at htext
    simp only [List.forall_mem_cons, List.forall_mem_append]
    exact ⟨hescape.1, hescape.2, marks_of_writesUnit hhigh, hescape.1, hescape.2,
      marks_of_writesUnit hlow, ih htext.2⟩

/-- Besides the braces of records, only texts can have braces and back ticks. -/
theorem isClean_of_writesLexeme {lexeme : Lexeme} {cs : List Char} (h : WritesLexeme lexeme cs)
    (hopen : lexeme ≠ .openRecord) (hclose : lexeme ≠ .closeRecord)
    (hzero : ofLexeme marks lexeme = 0) : IsClean cs := by
  apply IsClean.of_forall
  cases h with
  | @mark c _ hmark =>
    have hc : marks.char c = 0 := by
      rw [marks_char_eq_zero_iff]
      refine ⟨?_, ?_, ?_⟩
      · rintro rfl
        exact hopen (Option.some.inj hmark).symm
      · rintro rfl
        exact hclose (Option.some.inj hmark).symm
      · rintro rfl
        cases hmark
    simpa using hc
  | null | minusZero => decide
  | bool value => cases value <;> decide
  | int n =>
    intro c hc
    rw [marks_char_eq_zero_iff]
    refine ⟨?_, ?_, ?_⟩
    all_goals
      rintro rfl
      exact absurd (mem_intChars hc) (by decide)
  | text htext =>
    have hquote : marks.char '"' = 0 := by decide
    simp only [List.forall_mem_cons, List.forall_mem_append]
    exact ⟨hquote, marks_of_writesText htext hzero, hquote, by simp⟩

/-- A mark is written as its one character. -/
theorem eq_of_writesLexeme_mark {c : Char} {lexeme : Lexeme} {cs : List Char}
    (hmark : mark? c = some lexeme) (hscalar : ∀ cell, lexeme ≠ .scalar cell)
    (h : WritesLexeme lexeme cs) : cs = [c] := by
  have hsame : ∀ d, mark? d = some lexeme → d = c := by
    intro d hd
    unfold mark? at hmark hd
    simp only [beq_iff_eq] at hmark hd
    split_ifs at hmark <;> cases hmark <;> split_ifs at hd <;> cases hd <;> simp_all
  cases h with
  | mark hd => rw [hsame _ hd]
  | null | bool | int | minusZero | text => exact absurd rfl (hscalar _)

theorem isClean_of_spaces {spaces : List Char} (h : ∀ c ∈ spaces, isSpace c = true) :
    IsClean spaces := by
  apply IsClean.of_forall
  intro c hc
  have hspace := h c hc
  simp only [isSpace, Bool.or_eq_true, beq_iff_eq] at hspace
  rcases hspace with ((rfl | rfl) | rfl) | rfl <;> decide

/-- A lexeme without braces and back ticks, and the lexemes after it. -/
theorem exists_of_writesAll_cons {lexeme : Lexeme} {more : List Lexeme} {cs : List Char}
    (h : WritesAll (lexeme :: more) cs) (hopen : lexeme ≠ .openRecord)
    (hclose : lexeme ≠ .closeRecord) (hzero : ofLexeme marks lexeme = 0) :
    ∃ clean rest, cs = clean ++ rest ∧ IsClean clean ∧ WritesAll more rest := by
  cases h with
  | cons hspaces hlexeme _ hrest =>
    exact ⟨_, _, rfl, (isClean_of_spaces hspaces).append
      (isClean_of_writesLexeme hlexeme hopen hclose hzero), hrest⟩

/-! ## Cells -/

mutual

/-- A cell whose texts have no braces and no back ticks is written with every brace closed. -/
theorem exists_clean_of_writesAll : ∀ {cell : Cell}, marks.total cell = 0 →
    ∀ {more : List Lexeme} {cs : List Char}, WritesAll (lexemes cell ++ more) cs →
      ∃ clean rest, cs = clean ++ rest ∧ IsClean clean ∧ WritesAll more rest
  | .list items, h, more, cs, hwritten => by
    rw [lexemes, List.cons_append, List.append_assoc] at hwritten
    obtain ⟨opening, rest, rfl, hopening, hrest⟩ :=
      exists_of_writesAll_cons hwritten (by simp) (by simp) rfl
    -- the brackets around the items are no braces, so nothing has to be closed but in the items
    obtain ⟨inner, rest, rfl, hinner, hrest⟩ := exists_clean_of_itemLexemes h hrest
    obtain ⟨closing, rest, rfl, hclosing, hrest⟩ :=
      exists_of_writesAll_cons hrest (by simp) (by simp) rfl
    exact ⟨opening ++ inner ++ closing, rest, by simp, (hopening.append hinner).append hclosing,
      hrest⟩
  | .record entries, h, more, cs, hwritten => by
    rw [Measure.total_record] at h
    obtain ⟨spaces, inner, rest, rfl, hspaces, hinner, hrest⟩ :=
      exists_inner_of_writesAll (Nat.eq_zero_of_add_eq_zero_left h) hwritten
    exact ⟨spaces ++ '{' :: (inner ++ ['}']), rest, by simp,
      (isClean_of_spaces hspaces).append hinner.braces, hrest⟩
  | .null, _, more, cs, hwritten | .bool _, _, more, cs, hwritten | .int _, _, more, cs, hwritten
  | .float _, _, more, cs, hwritten =>
    exists_of_writesAll_cons hwritten (by simp) (by simp) rfl
  | .text s, h, more, cs, hwritten => exists_of_writesAll_cons hwritten (by simp) (by simp) h

/-- A record is written with braces around a clean inside. -/
theorem exists_inner_of_writesAll {entries : List (String × Cell)}
    (h : marks.entryTotal entries = 0) {more : List Lexeme} {cs : List Char}
    (hwritten : WritesAll (lexemes (.record entries) ++ more) cs) :
    ∃ spaces inner rest, cs = spaces ++ '{' :: (inner ++ '}' :: rest) ∧
      (∀ c ∈ spaces, isSpace c = true) ∧ IsClean inner ∧ WritesAll more rest := by
  rw [lexemes, List.cons_append, List.append_assoc] at hwritten
  cases hwritten with
  | @cons _ _ spaces opening rest hspaces hopening _ hrest =>
    obtain rfl := eq_of_writesLexeme_mark (c := '{') rfl (by simp) hopening
    obtain ⟨inner, rest, rfl, hinner, hclosed⟩ := exists_clean_of_entryLexemes h hrest
    cases hclosed with
    | @cons _ _ after closing rest hafter hclosing _ hmore =>
      obtain rfl := eq_of_writesLexeme_mark (c := '}') rfl (by simp) hclosing
      exact ⟨spaces, inner ++ after, rest, by simp, hspaces,
        hinner.append (isClean_of_spaces hafter), hmore⟩

theorem exists_clean_of_itemLexemes : ∀ {items : List Cell}, marks.itemTotal items = 0 →
    ∀ {more : List Lexeme} {cs : List Char}, WritesAll (itemLexemes items ++ more) cs →
      ∃ clean rest, cs = clean ++ rest ∧ IsClean clean ∧ WritesAll more rest
  | [], _, more, cs, hwritten => ⟨[], cs, rfl, .nil, hwritten⟩
  | [item], h, more, cs, hwritten => by
    rw [marks.itemTotal_cons item, Nat.add_eq_zero_iff] at h
    exact exists_clean_of_writesAll h.1 hwritten
  | item :: next :: items, h, more, cs, hwritten => by
    rw [marks.itemTotal_cons item, Nat.add_eq_zero_iff] at h
    rw [itemLexemes, List.append_assoc] at hwritten
    obtain ⟨first, rest, rfl, hfirst, hrest⟩ := exists_clean_of_writesAll h.1 hwritten
    obtain ⟨comma, rest, rfl, hcomma, hrest⟩ :=
      exists_of_writesAll_cons hrest (by simp) (by simp) rfl
    obtain ⟨others, rest, rfl, hothers, hrest⟩ := exists_clean_of_itemLexemes h.2 hrest
    exact ⟨first ++ comma ++ others, rest, by simp, (hfirst.append hcomma).append hothers, hrest⟩

theorem exists_clean_of_entryLexemes : ∀ {entries : List (String × Cell)},
    marks.entryTotal entries = 0 →
    ∀ {more : List Lexeme} {cs : List Char}, WritesAll (entryLexemes entries ++ more) cs →
      ∃ clean rest, cs = clean ++ rest ∧ IsClean clean ∧ WritesAll more rest
  | [], _, more, cs, hwritten => ⟨[], cs, rfl, .nil, hwritten⟩
  | (name, cell) :: entries, h, more, cs, hwritten => by
    rw [marks.entryTotal_cons name, Nat.add_eq_zero_iff, Nat.add_eq_zero_iff] at h
    -- the last entry has no comma after it
    obtain ⟨tail, hlexemes, htail⟩ : ∃ tail, entryLexemes ((name, cell) :: entries) =
        .scalar (.text name) :: .colon :: (lexemes cell ++ tail) ∧
        ((entries = [] ∧ tail = []) ∨ tail = .comma :: entryLexemes entries) := by
      cases entries with
      | nil => exact ⟨[], by simp [entryLexemes], .inl ⟨rfl, rfl⟩⟩
      | cons entry entries => exact ⟨_, rfl, .inr rfl⟩
    rw [hlexemes, List.cons_append, List.cons_append, List.append_assoc] at hwritten
    obtain ⟨quoted, rest, rfl, hquoted, hrest⟩ :=
      exists_of_writesAll_cons hwritten (by simp) (by simp) h.1.1
    obtain ⟨colon, rest, rfl, hcolon, hrest⟩ :=
      exists_of_writesAll_cons hrest (by simp) (by simp) rfl
    obtain ⟨value, rest, rfl, hvalue, hrest⟩ := exists_clean_of_writesAll h.1.2 hrest
    have hentry := (hquoted.append hcolon).append hvalue
    rcases htail with ⟨-, rfl⟩ | rfl
    · exact ⟨quoted ++ colon ++ value, rest, by simp, hentry, hrest⟩
    · obtain ⟨comma, rest, rfl, hcomma, hrest⟩ :=
        exists_of_writesAll_cons hrest (by simp) (by simp) rfl
      obtain ⟨others, rest, rfl, hothers, hrest⟩ := exists_clean_of_entryLexemes h.2 hrest
      exact ⟨quoted ++ colon ++ value ++ comma ++ others, rest, by simp,
        (hentry.append hcomma).append hothers, hrest⟩

end

/-- A record whose texts have no braces and no back ticks is intact however it is written, apart from
spaces around it. -/
theorem isIntact_of_writes {entries : Entries} {object : List Char}
    (hwritten : Writes (.record entries) object) (htrimmed : Text.IsTrimmed isSpace object)
    (h : marks.total (.record entries) = 0) : IsIntact object := by
  have hentries : marks.entryTotal entries = 0 := by
    rw [Measure.total_record] at h
    exact Nat.eq_zero_of_add_eq_zero_left h
  have hnil : WritesAll (lexemes (.record entries) ++ []) object := by
    rwa [List.append_nil]
  obtain ⟨spaces, inner, rest, rfl, hspaces, hinner, hrest⟩ := exists_inner_of_writesAll hentries hnil
  -- the spaces around the braces would be at the ends of the object
  obtain rfl : spaces = [] := by
    cases spaces with
    | nil => rfl
    | cons c spaces =>
      have hspace := hspaces c List.mem_cons_self
      rw [htrimmed.1 c rfl] at hspace
      cases hspace
  cases hrest with
  | nil hrest =>
    obtain rfl : rest = [] := by
      rcases List.eq_nil_or_concat rest with rfl | ⟨front, c, rfl⟩
      · rfl
      · have hlast : '{' :: (inner ++ '}' :: front.concat c) =
            '{' :: (inner ++ '}' :: front) ++ [c] := by simp
        have hspace := hrest c (by simp)
        rw [htrimmed.2 c (by rw [List.nil_append, hlast]; exact List.getLast?_concat)] at hspace
        cases hspace
    exact hinner.isIntact

end SheetQuery.Reply
