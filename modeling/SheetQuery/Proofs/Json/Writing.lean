import SheetQuery.Json.Printer
import SheetQuery.Json.Reader
import SheetQuery.Proofs.Numeric.Numeral

/-!
# What a JSON text of a cell is

The grammar of strict JSON for cells without binary64 numbers, apart from how texts are read: a cell
comes apart into lexemes, each lexeme can be written in certain ways, and spaces may stand between
them.

* `WritesText`: the ways to write a text between quotes: characters as they are, one-letter escapes,
  and four hexadecimal digits for a character or for either half of one;
* `Writes`: the ways to write a cell;
* `writes_print`: printing a cell on one line is one of them.
-/

namespace SheetQuery

namespace Cell

mutual

/-- The cells in a cell, itself first. The names of records are none of them. -/
def parts : Cell → List Cell
  | list items => list items :: itemParts items
  | record entries => record entries :: entryParts entries
  | cell => [cell]

def itemParts : List Cell → List Cell
  | [] => []
  | item :: items => parts item ++ itemParts items

def entryParts : List (String × Cell) → List Cell
  | [] => []
  | (_, cell) :: entries => parts cell ++ entryParts entries

end

/-- If a cell is a record, does it give every name only once? -/
def HasDistinctNames : Cell → Prop
  | record entries => (entries.map Prod.fst).Nodup
  | _ => True

/-- Is a cell something else than a binary64 number? -/
def IsExact : Cell → Prop
  | float _ => False
  | _ => True

/-- If a cell is an integer, can its numeral be read? -/
def IsShort : Cell → Prop
  | int n => n.natAbs < 10 ^ Numeral.maxIntegerDigits
  | _ => True

end Cell

namespace Json

/-! ## Texts -/

/-- The ways to write a number below 2^16 with four hexadecimal digits. -/
inductive WritesUnit : Nat → List Char → Prop
  | digits {d₃ d₂ d₁ d₀ : Char} {v₃ v₂ v₁ v₀ : Nat} (h₃ : hexValue? d₃ = some v₃)
      (h₂ : hexValue? d₂ = some v₂) (h₁ : hexValue? d₁ = some v₁) (h₀ : hexValue? d₀ = some v₀) :
      WritesUnit (16 * (16 * (16 * v₃ + v₂) + v₁) + v₀) [d₃, d₂, d₁, d₀]

/-- The ways to write the characters of a text between quotes. -/
inductive WritesText : List Char → List Char → Prop
  | nil : WritesText [] []
  | plain {c : Char} {text cs : List Char} (hquote : c ≠ '"') (hescape : c ≠ '\\')
      (hprintable : 0x20 ≤ c.toNat) (rest : WritesText text cs) : WritesText (c :: text) (c :: cs)
  | escape {c letter : Char} {text cs : List Char} (hletter : unescape? letter = some c.toNat)
      (rest : WritesText text cs) : WritesText (c :: text) ('\\' :: letter :: cs)
  | unit {c : Char} {digits text cs : List Char} (hdigits : WritesUnit c.toNat digits)
      (rest : WritesText text cs) : WritesText (c :: text) ('\\' :: 'u' :: (digits ++ cs))
  | pair {c : Char} {high low : Nat} {highDigits lowDigits text cs : List Char}
      (hhigh : WritesUnit (0xD800 + high) highDigits) (hlow : WritesUnit (0xDC00 + low) lowDigits)
      (hhigh' : high < 0x400) (hlow' : low < 0x400)
      (hc : c.toNat = 0x10000 + high * 0x400 + low) (rest : WritesText text cs) :
      WritesText (c :: text) ('\\' :: 'u' :: (highDigits ++ '\\' :: 'u' :: (lowDigits ++ cs)))

/-! ## Lexemes -/

/-- The ways to write a lexeme. -/
inductive WritesLexeme : Lexeme → List Char → Prop
  | mark {c : Char} {lexeme : Lexeme} (h : mark? c = some lexeme) : WritesLexeme lexeme [c]
  | null : WritesLexeme (.scalar .null) "null".toList
  | bool (value : Bool) :
      WritesLexeme (.scalar (.bool value)) (if value then "true" else "false").toList
  | int (n : Int) : WritesLexeme (.scalar (.int n)) (intChars n)
  | minusZero : WritesLexeme (.scalar (.int 0)) ['-', '0']
  | text {s : String} {cs : List Char} (h : WritesText s.toList cs) :
      WritesLexeme (.scalar (.text s)) ('"' :: (cs ++ ['"']))

/-- An integer is written as its numeral, and zero also with a minus. -/
theorem WritesLexeme.int_cases {n : Int} {cs : List Char} (h : WritesLexeme (.scalar (.int n)) cs) :
    cs = intChars n ∨ (n = 0 ∧ cs = ['-', '0']) := by
  cases h with
  | int => exact .inl rfl
  | minusZero => exact .inr ⟨rfl, rfl⟩
  | mark hmark =>
    unfold mark? at hmark
    split_ifs at hmark <;> cases hmark

/-- Does a text end here, or go on with a space or a mark of structure? -/
def IsApart (cs : List Char) : Prop := ∀ c ∈ cs.head?, isSpace c = true ∨ (mark? c).isSome = true

/-- The ways to write lexemes one after the other, with spaces around them. A scalar is kept apart
from one after it. -/
inductive WritesAll : List Lexeme → List Char → Prop
  | nil {spaces : List Char} (hspaces : ∀ c ∈ spaces, isSpace c = true) : WritesAll [] spaces
  | cons {lexeme : Lexeme} {lexemes : List Lexeme} {spaces cs rest : List Char}
      (hspaces : ∀ c ∈ spaces, isSpace c = true) (hlexeme : WritesLexeme lexeme cs)
      (hapart : (∀ cell, lexeme ≠ .scalar cell) ∨ IsApart rest) (hrest : WritesAll lexemes rest) :
      WritesAll (lexeme :: lexemes) (spaces ++ cs ++ rest)

/-! ## Cells -/

mutual

/-- The lexemes of a cell. -/
def lexemes : Cell → List Lexeme
  | .list items => .openList :: (itemLexemes items ++ [.closeList])
  | .record entries => .openRecord :: (entryLexemes entries ++ [.closeRecord])
  | cell => [.scalar cell]

/-- The lexemes of the items of a list. -/
def itemLexemes : List Cell → List Lexeme
  | [] => []
  | [item] => lexemes item
  | item :: next :: items => lexemes item ++ .comma :: itemLexemes (next :: items)

/-- The lexemes of the entries of a record. -/
def entryLexemes : List (String × Cell) → List Lexeme
  | [] => []
  | [(name, cell)] => .scalar (.text name) :: .colon :: lexemes cell
  | (name, cell) :: next :: entries =>
    .scalar (.text name) :: .colon :: (lexemes cell ++ .comma :: entryLexemes (next :: entries))

end

/-- The ways to write a cell in strict JSON. -/
def Writes (cell : Cell) (cs : List Char) : Prop := WritesAll (lexemes cell) cs

/-! ## Printing -/

theorem hexValue?_hexDigit {n : Nat} (h : n < 16) : hexValue? (hexDigit n) = some n := by
  have hall : ∀ n < 16, hexValue? (hexDigit n) = some n := by decide
  exact hall n h

/-- The three ways to print a character of a text: a one-letter escape, four digits for other control
characters, or as it is. -/
theorem escapeChar_cases (c : Char) :
    (∃ letter, unescape? letter = some c.toNat ∧ escapeChar c = ['\\', letter]) ∨
      (c.toNat < 0x20 ∧ escapeChar c =
        ['\\', 'u', '0', '0', hexDigit (c.toNat / 16), hexDigit (c.toNat % 16)]) ∨
      (c ≠ '"' ∧ c ≠ '\\' ∧ 0x20 ≤ c.toNat ∧ escapeChar c = [c]) := by
  have hletter : ∀ {d letter : Char}, c = d → unescape? letter = some d.toNat →
      ∃ letter', unescape? letter' = some c.toNat ∧ ['\\', letter] = ['\\', letter'] := by
    rintro d letter rfl h
    exact ⟨letter, h, rfl⟩
  -- two of the characters have a code but no literal of their own, so they are known by the code
  have hcode : ∀ {n : Nat} {letter : Char}, c.toNat = n → unescape? letter = some n →
      ∃ letter', unescape? letter' = some c.toNat ∧ ['\\', letter] = ['\\', letter'] := by
    rintro n letter rfl h
    exact ⟨letter, h, rfl⟩
  unfold escapeChar
  simp only [beq_iff_eq]
  split_ifs with hquote hescape hline hreturn htab hfeed hback hlow
  · exact .inl (hletter hquote rfl)
  · exact .inl (hletter hescape rfl)
  · exact .inl (hletter hline rfl)
  · exact .inl (hletter hreturn rfl)
  · exact .inl (hletter htab rfl)
  · exact .inl (hcode hfeed rfl)
  · exact .inl (hcode hback rfl)
  · exact .inr (.inl ⟨hlow, rfl⟩)
  · exact .inr (.inr ⟨hquote, hescape, Nat.not_lt.mp hlow, rfl⟩)

/-- A character is written as it is printed. -/
theorem writesText_escapeChar (c : Char) {text cs : List Char} (rest : WritesText text cs) :
    WritesText (c :: text) (escapeChar c ++ cs) := by
  rcases escapeChar_cases c with ⟨letter, hletter, hprint⟩ | ⟨hlow, hprint⟩ |
    ⟨hquote, hescape, hprintable, hprint⟩
  · rw [hprint]
    exact .escape hletter rest
  · have hunit : WritesUnit (16 * (16 * (16 * 0 + 0) + c.toNat / 16) + c.toNat % 16)
        ['0', '0', hexDigit (c.toNat / 16), hexDigit (c.toNat % 16)] :=
      .digits rfl rfl (hexValue?_hexDigit (by omega)) (hexValue?_hexDigit (by omega))
    have hvalue : 16 * (16 * (16 * 0 + 0) + c.toNat / 16) + c.toNat % 16 = c.toNat := by omega
    rw [hvalue] at hunit
    rw [hprint]
    exact .unit hunit rest
  · rw [hprint]
    exact .plain hquote hescape hprintable rest

/-- A text without quotes, backslashes and control characters is written as it is. -/
theorem writesText_self {text : List Char} (h : ∀ c ∈ text, c ≠ '"' ∧ c ≠ '\\' ∧ 0x20 ≤ c.toNat) :
    WritesText text text := by
  induction text with
  | nil => exact .nil
  | cons c text ih =>
    obtain ⟨⟨hquote, hescape, hprintable⟩, hrest⟩ := List.forall_mem_cons.mp h
    exact .plain hquote hescape hprintable (ih hrest)

theorem writesText_flatMap_escapeChar (text : List Char) :
    WritesText text (text.flatMap escapeChar) := by
  induction text with
  | nil => exact .nil
  | cons c text ih =>
    rw [List.flatMap_cons]
    exact writesText_escapeChar c ih

theorem writesLexeme_quote (s : String) : WritesLexeme (.scalar (.text s)) (quote s) :=
  .text (writesText_flatMap_escapeChar s.toList)

/-- A lexeme in front, without spaces. -/
theorem WritesAll.cons_tight {lexeme : Lexeme} {lexemes : List Lexeme} {cs rest : List Char}
    (hlexeme : WritesLexeme lexeme cs) (hapart : (∀ cell, lexeme ≠ .scalar cell) ∨ IsApart rest)
    (hrest : WritesAll lexemes rest) : WritesAll (lexeme :: lexemes) (cs ++ rest) := by
  have hcons : WritesAll (lexeme :: lexemes) ([] ++ cs ++ rest) :=
    .cons (by simp) hlexeme hapart hrest
  exact hcons

/-- A space in front. -/
theorem WritesAll.space {lexemes : List Lexeme} {cs : List Char} (h : WritesAll lexemes cs) :
    WritesAll lexemes (' ' :: cs) := by
  cases h with
  | nil hspaces => exact .nil (by simpa [isSpace] using hspaces)
  | @cons lexeme lexemes spaces cs rest hspaces hlexeme hapart hrest =>
    have hcons : WritesAll (lexeme :: lexemes) ((' ' :: spaces) ++ cs ++ rest) :=
      .cons (by simpa [isSpace] using hspaces) hlexeme hapart hrest
    simpa using hcons

/-- A mark in front. -/
theorem WritesAll.mark {c : Char} {lexeme : Lexeme} {lexemes : List Lexeme} {cs : List Char}
    (hmark : mark? c = some lexeme) (hscalar : ∀ cell, lexeme ≠ .scalar cell)
    (h : WritesAll lexemes cs) : WritesAll (lexeme :: lexemes) (c :: cs) :=
  .cons_tight (.mark hmark) (.inl hscalar) h

theorem isApart_cons {c : Char} {cs : List Char} (h : (mark? c).isSome = true) :
    IsApart (c :: cs) := by
  intro d hd
  rw [← Option.some.inj hd]
  exact .inr h

theorem writesLexeme_scalar {cell : Cell} (hexact : cell.IsExact)
    (hlist : ∀ items, cell ≠ .list items) (hrecord : ∀ entries, cell ≠ .record entries) :
    WritesLexeme (.scalar cell) (scalar cell) := by
  cases cell with
  | null => exact .null
  | bool value => cases value <;> exact .bool _
  | int n => exact .int n
  | float x => exact hexact.elim
  | text s => exact writesLexeme_quote s
  | list items => exact absurd rfl (hlist items)
  | record entries => exact absurd rfl (hrecord entries)

mutual

/-- What is printed of a cell, and then a text that is kept apart, writes the lexemes of both. -/
theorem writesAll_print {more : List Lexeme} {rest : List Char} (hapart : IsApart rest)
    (hrest : WritesAll more rest) : ∀ {cell : Cell}, (∀ part ∈ cell.parts, part.IsExact) →
      WritesAll (lexemes cell ++ more) (print cell ++ rest)
  | .list items, h => by
    have hclose : WritesAll (.closeList :: more) (']' :: rest) := .mark rfl (by simp) hrest
    have hitems := writesAll_printItems (isApart_cons rfl) hclose
      fun part hpart => h part (List.mem_cons_of_mem _ hpart)
    simpa [lexemes, print] using hitems.mark (c := '[') rfl (by simp)
  | .record entries, h => by
    have hclose : WritesAll (.closeRecord :: more) ('}' :: rest) := .mark rfl (by simp) hrest
    have hentries := writesAll_printEntries (isApart_cons rfl) hclose
      fun part hpart => h part (List.mem_cons_of_mem _ hpart)
    simpa [lexemes, print] using hentries.mark (c := '{') rfl (by simp)
  | .null, h | .bool value, h | .int n, h | .float x, h | .text s, h => by
    rw [lexemes, print, List.singleton_append]
    · exact .cons_tight (writesLexeme_scalar (h _ List.mem_cons_self) (by simp) (by simp))
        (.inr hapart) hrest
    all_goals simp

theorem writesAll_printItems {more : List Lexeme} {rest : List Char} (hapart : IsApart rest)
    (hrest : WritesAll more rest) : ∀ {items : List Cell},
      (∀ part ∈ Cell.itemParts items, part.IsExact) →
      WritesAll (itemLexemes items ++ more) (printItems items ++ rest)
  | [], _ => hrest
  | [item], h => by
    rw [itemLexemes, printItems]
    exact writesAll_print hapart hrest fun part hpart => h part (by simp [Cell.itemParts, hpart])
  | item :: next :: items, h => by
    rw [Cell.itemParts] at h
    simp only [List.mem_append] at h
    have htail : WritesAll (itemLexemes (next :: items) ++ more)
        (printItems (next :: items) ++ rest) :=
      writesAll_printItems hapart hrest fun part hpart => h part (.inr hpart)
    have hcomma : WritesAll (.comma :: (itemLexemes (next :: items) ++ more))
        (',' :: ' ' :: (printItems (next :: items) ++ rest)) := .mark rfl (by simp) htail.space
    have hitem := writesAll_print (isApart_cons rfl) hcomma fun part hpart => h part (.inl hpart)
    simpa [itemLexemes, printItems] using hitem

theorem writesAll_printEntries {more : List Lexeme} {rest : List Char} (hapart : IsApart rest)
    (hrest : WritesAll more rest) : ∀ {entries : List (String × Cell)},
      (∀ part ∈ Cell.entryParts entries, part.IsExact) →
      WritesAll (entryLexemes entries ++ more) (printEntries entries ++ rest)
  | [], _ => hrest
  | [(name, cell)], h => by
    have hcell : WritesAll (lexemes cell ++ more) (print cell ++ rest) :=
      writesAll_print hapart hrest fun part hpart => h part (by simp [Cell.entryParts, hpart])
    have hcolon : WritesAll (.colon :: (lexemes cell ++ more)) (':' :: ' ' :: (print cell ++ rest)) :=
      .mark rfl (by simp) hcell.space
    simpa [entryLexemes, printEntries] using
      WritesAll.cons_tight (writesLexeme_quote name) (.inr (isApart_cons rfl)) hcolon
  | (name, cell) :: next :: entries, h => by
    rw [Cell.entryParts] at h
    simp only [List.mem_append] at h
    have htail : WritesAll (entryLexemes (next :: entries) ++ more)
        (printEntries (next :: entries) ++ rest) :=
      writesAll_printEntries hapart hrest fun part hpart => h part (.inr hpart)
    have hcomma : WritesAll (.comma :: (entryLexemes (next :: entries) ++ more))
        (',' :: ' ' :: (printEntries (next :: entries) ++ rest)) := .mark rfl (by simp) htail.space
    have hcell := writesAll_print (isApart_cons rfl) hcomma fun part hpart => h part (.inl hpart)
    have hcolon := hcell.space.mark (c := ':') rfl (by simp)
    simpa [entryLexemes, printEntries] using
      WritesAll.cons_tight (writesLexeme_quote name) (.inr (isApart_cons rfl)) hcolon

end

/-- Printing a cell on one line is a way to write it. -/
theorem writes_print {cell : Cell} (h : ∀ part ∈ cell.parts, part.IsExact) :
    Writes cell (print cell) := by
  have hnil : WritesAll [] [] := .nil (by simp)
  have hapart : IsApart [] := by simp [IsApart]
  have hprint := writesAll_print hapart hnil h
  simpa [Writes] using hprint

end Json

end SheetQuery
