import SheetQuery.Numeric.Shortest
import SheetQuery.Proofs.Assistant.Clean
import SheetQuery.Proofs.Json.Stray

/-!
# Drafts of JSON

The texts that small models write for JSON, as trees: with white space of any kind between tokens, with
keys in double quotes, in single ones or bare, and with commas after last parts. Scalars are written as
JSON has them, and are only such as hold nothing that could be taken for structure.

* `Draft`, `Draft.text`: a draft and its text;
* `Draft.cell`: the value that is meant;
* `Draft.fits`, `Draft.map`: conditions on keys and last commas, and changes of them;
* `Draft.isClean`: the braces in a draft are closed in it;
* `exists_draft`: what is printed of a cell with plain names and texts is a draft of it.
-/

namespace SheetQuery.Reply

open Json

/-! ## Tokens -/

/-- White space between tokens, of any script. -/
structure Gap where
  chars : List Char
  blank : ∀ c ∈ chars, Text.isBlank c = true

namespace Gap

def nothing : Gap := ⟨[], by simp⟩

/-- Is it made of the spaces that JSON knows? -/
def isStrict (gap : Gap) : Bool := gap.chars.all isSpace

@[simp] theorem isStrict_nothing : nothing.isStrict = true := rfl

end Gap

/-- A name of letters, digits and low lines. -/
structure Name where
  chars : List Char
  plain : ∀ c ∈ chars, Text.isWordChar c = true
  nonempty : chars ≠ []

/-- What stands on either side of a key. -/
inductive Quotes where
  | bare | single | double
deriving DecidableEq

def Quotes.text : Quotes → List Char
  | bare => []
  | single => ['\'']
  | double => ['"']

/-- A key with its colon: white space may stand before it, before its colon and after that. -/
structure Key where
  before : Gap
  quotes : Quotes
  name : Name
  inner : Gap
  after : Gap

namespace Key

def text (key : Key) : List Char :=
  key.before.chars ++ (key.quotes.text ++ key.name.chars ++ key.quotes.text ++ key.inner.chars ++
    ':' :: key.after.chars)

theorem text_append (key : Key) (rest : List Char) : key.text ++ rest =
    key.before.chars ++ (key.quotes.text ++ (key.name.chars ++ (key.quotes.text ++
      (key.inner.chars ++ ':' :: (key.after.chars ++ rest))))) := by
  simp [text]

/-- Does JSON know the spaces around the key? -/
def isSpaced (key : Key) : Bool := key.before.isStrict && key.after.isStrict

/-- Is the key as JSON has it? -/
def isStrict (key : Key) : Bool :=
  key.isSpaced && key.quotes == .double && key.inner.isStrict

/-- The key in double quotes, right before its colon. -/
def quoted (key : Key) : Key := { key with quotes := .double, inner := .nothing }

theorem isStrict_quoted (key : Key) : key.quoted.isStrict = key.isSpaced := by
  simp [isStrict, quoted, isSpaced]

theorem isSpaced_of_isStrict {key : Key} (h : key.isStrict = true) : key.isSpaced = true := by
  simp only [isStrict, Bool.and_eq_true] at h
  exact h.1.1

end Key

/-- Letters, digits, low lines, spaces, hyphens and points. -/
def isTextChar (c : Char) : Bool := Text.isWordChar c || c == ' ' || c == '-' || c == '.'

/-- A value without parts. An integer can be read, and a text has only plain characters. -/
inductive Scalar where
  | null
  | bool (value : Bool)
  | int (value : Int) (short : value.natAbs < 10 ^ Numeral.maxIntegerDigits)
  | string (chars : List Char) (plain : ∀ c ∈ chars, isTextChar c = true)

namespace Scalar

def cell : Scalar → Cell
  | null => .null
  | bool value => .bool value
  | int value _ => .int value
  | string chars _ => .text (String.ofList chars)

def text : Scalar → List Char
  | null => "null".toList
  | bool value => (if value then "true" else "false").toList
  | int value _ => intChars value
  | string chars _ => '"' :: (chars ++ ['"'])

end Scalar

/-! ## Trees -/

mutual

/-- A value as a model may write it. Lists and records without parts have only a gap. -/
inductive Draft where
  | scalar (scalar : Scalar)
  | emptyList (gap : Gap)
  | list (items : Items)
  | emptyRecord (gap : Gap)
  | record (fields : Fields)

/-- The items of a list. After the last one a comma may stand, with a gap of its own. -/
inductive Items where
  | last (before : Gap) (item : Draft) (after : Gap) (comma : Option Gap)
  | more (before : Gap) (item : Draft) (after : Gap) (items : Items)

/-- The fields of a record. After the last one a comma may stand, with a gap of its own. -/
inductive Fields where
  | last (key : Key) (value : Draft) (after : Gap) (comma : Option Gap)
  | more (key : Key) (value : Draft) (after : Gap) (fields : Fields)

end

/-- The text of a last comma. -/
def lastComma : Option Gap → List Char
  | none => []
  | some gap => ',' :: gap.chars

mutual

def Draft.text : Draft → List Char
  | .scalar scalar => scalar.text
  | .emptyList gap => '[' :: (gap.chars ++ [']'])
  | .list items => '[' :: (items.text ++ [']'])
  | .emptyRecord gap => '{' :: (gap.chars ++ ['}'])
  | .record fields => '{' :: (fields.text ++ ['}'])

def Items.text : Items → List Char
  | .last before item after comma => before.chars ++ item.text ++ after.chars ++ lastComma comma
  | .more before item after items => before.chars ++ item.text ++ after.chars ++ ',' :: items.text

def Fields.text : Fields → List Char
  | .last key value after comma => key.text ++ value.text ++ after.chars ++ lastComma comma
  | .more key value after fields => key.text ++ value.text ++ after.chars ++ ',' :: fields.text

end

section Append

variable (before after gap : Gap) (comma : Option Gap) (item : Draft) (key : Key) (items : Items)
  (fields : Fields) (rest : List Char)

theorem Draft.emptyList_append :
    (Draft.emptyList gap).text ++ rest = '[' :: (gap.chars ++ ']' :: rest) := by
  simp [Draft.text]

theorem Draft.list_append :
    (Draft.list items).text ++ rest = '[' :: (items.text ++ ']' :: rest) := by
  simp [Draft.text]

theorem Draft.emptyRecord_append :
    (Draft.emptyRecord gap).text ++ rest = '{' :: (gap.chars ++ '}' :: rest) := by
  simp [Draft.text]

theorem Draft.record_append :
    (Draft.record fields).text ++ rest = '{' :: (fields.text ++ '}' :: rest) := by
  simp [Draft.text]

theorem Items.last_append : (Items.last before item after comma).text ++ rest =
    before.chars ++ (item.text ++ (after.chars ++ (lastComma comma ++ rest))) := by
  simp [Items.text]

theorem Items.more_append : (Items.more before item after items).text ++ rest =
    before.chars ++ (item.text ++ (after.chars ++ ',' :: (items.text ++ rest))) := by
  simp [Items.text]

theorem Fields.last_append : (Fields.last key item after comma).text ++ rest =
    key.text ++ (item.text ++ (after.chars ++ (lastComma comma ++ rest))) := by
  simp [Fields.text]

theorem Fields.more_append : (Fields.more key item after fields).text ++ rest =
    key.text ++ (item.text ++ (after.chars ++ ',' :: (fields.text ++ rest))) := by
  simp [Fields.text]

end Append

mutual

/-- The value that a draft means. -/
def Draft.cell : Draft → Cell
  | .scalar scalar => scalar.cell
  | .emptyList _ => .list []
  | .list items => .list items.cells
  | .emptyRecord _ => .record []
  | .record fields => .record fields.entries

def Items.cells : Items → List Cell
  | .last _ item _ _ => [item.cell]
  | .more _ item _ items => item.cell :: items.cells

def Fields.entries : Fields → Entries
  | .last key value _ _ => [(String.ofList key.name.chars, value.cell)]
  | .more key value _ fields => (String.ofList key.name.chars, value.cell) :: fields.entries

end

/-! ## Conditions -/

section Fits

variable (key : Key → Bool) (comma : Option Gap → Bool)

mutual

/-- Does JSON know the spaces in a draft, apart from those of keys and last commas, and are these as
`key` and `comma` have it? -/
def Draft.fits : Draft → Bool
  | .scalar _ => true
  | .emptyList gap => gap.isStrict
  | .list items => items.fits
  | .emptyRecord gap => gap.isStrict
  | .record fields => fields.fits

def Items.fits : Items → Bool
  | .last before item after last => before.isStrict && item.fits && after.isStrict && comma last
  | .more before item after items => before.isStrict && item.fits && after.isStrict && items.fits

def Fields.fits : Fields → Bool
  | .last label value after last => key label && value.fits && after.isStrict && comma last
  | .more label value after fields => key label && value.fits && after.isStrict && fields.fits

end

end Fits

/-- Is a draft JSON already? -/
def Draft.isStrict (draft : Draft) : Bool := draft.fits Key.isStrict Option.isNone

/-- Does JSON know the spaces in a draft, apart from those before a colon and after a last comma? -/
def Draft.isSpaced (draft : Draft) : Bool := draft.fits Key.isSpaced fun _ => true

/-! ## Changes -/

section Map

variable (key : Key → Key) (comma : Option Gap → Option Gap)

mutual

/-- A draft with its keys and last commas changed. -/
def Draft.map : Draft → Draft
  | .scalar scalar => .scalar scalar
  | .emptyList gap => .emptyList gap
  | .list items => .list items.map
  | .emptyRecord gap => .emptyRecord gap
  | .record fields => .record fields.map

def Items.map : Items → Items
  | .last before item after last => .last before item.map after (comma last)
  | .more before item after items => .more before item.map after items.map

def Fields.map : Fields → Fields
  | .last label value after last => .last (key label) value.map after (comma last)
  | .more label value after fields => .more (key label) value.map after fields.map

end

variable {key comma}

mutual

theorem Draft.cell_map (h : ∀ label, (key label).name = label.name) :
    ∀ draft : Draft, (draft.map key comma).cell = draft.cell
  | .scalar _ | .emptyList _ | .emptyRecord _ => rfl
  | .list items => by rw [Draft.map, Draft.cell, Draft.cell, items.cells_map h]
  | .record fields => by rw [Draft.map, Draft.cell, Draft.cell, fields.entries_map h]

theorem Items.cells_map (h : ∀ label, (key label).name = label.name) :
    ∀ items : Items, (items.map key comma).cells = items.cells
  | .last _ item _ _ => by rw [Items.map, Items.cells, Items.cells, item.cell_map h]
  | .more _ item _ items => by
    rw [Items.map, Items.cells, Items.cells, item.cell_map h, items.cells_map h]

theorem Fields.entries_map (h : ∀ label, (key label).name = label.name) :
    ∀ fields : Fields, (fields.map key comma).entries = fields.entries
  | .last label value _ _ => by
    rw [Fields.map, Fields.entries, Fields.entries, value.cell_map h, h label]
  | .more label value _ fields => by
    rw [Fields.map, Fields.entries, Fields.entries, value.cell_map h, fields.entries_map h, h label]

end

variable {test : Key → Bool} {ending : Option Gap → Bool}

mutual

theorem Draft.fits_map : ∀ draft : Draft, (draft.map key comma).fits test ending =
    draft.fits (fun label => test (key label)) (fun last => ending (comma last))
  | .scalar _ | .emptyList _ | .emptyRecord _ => rfl
  | .list items => items.fits_map
  | .record fields => fields.fits_map

theorem Items.fits_map : ∀ items : Items, (items.map key comma).fits test ending =
    items.fits (fun label => test (key label)) (fun last => ending (comma last))
  | .last _ item _ _ => by rw [Items.map, Items.fits, Items.fits, item.fits_map]
  | .more _ item _ items => by rw [Items.map, Items.fits, Items.fits, item.fits_map, items.fits_map]

theorem Fields.fits_map : ∀ fields : Fields, (fields.map key comma).fits test ending =
    fields.fits (fun label => test (key label)) (fun last => ending (comma last))
  | .last _ value _ _ => by rw [Fields.map, Fields.fits, Fields.fits, value.fits_map]
  | .more _ value _ fields => by
    rw [Fields.map, Fields.fits, Fields.fits, value.fits_map, fields.fits_map]

end

end Map

section Mono

variable {test weaker : Key → Bool} {ending : Option Gap → Bool}

mutual

/-- What fits a condition on keys fits a weaker one. -/
theorem Draft.fits_mono (h : ∀ label, test label = true → weaker label = true) :
    ∀ draft : Draft, draft.fits test ending = true → draft.fits weaker (fun _ => true) = true
  | .scalar _, hfits | .emptyList _, hfits | .emptyRecord _, hfits => hfits
  | .list items, hfits => items.fits_mono h hfits
  | .record fields, hfits => fields.fits_mono h hfits

theorem Items.fits_mono (h : ∀ label, test label = true → weaker label = true) :
    ∀ items : Items, items.fits test ending = true → items.fits weaker (fun _ => true) = true
  | .last _ item _ _, hfits => by
    simp only [Items.fits, Bool.and_eq_true] at hfits ⊢
    exact ⟨⟨⟨hfits.1.1.1, item.fits_mono h hfits.1.1.2⟩, hfits.1.2⟩, trivial⟩
  | .more _ item _ items, hfits => by
    simp only [Items.fits, Bool.and_eq_true] at hfits ⊢
    exact ⟨⟨⟨hfits.1.1.1, item.fits_mono h hfits.1.1.2⟩, hfits.1.2⟩, items.fits_mono h hfits.2⟩

theorem Fields.fits_mono (h : ∀ label, test label = true → weaker label = true) :
    ∀ fields : Fields, fields.fits test ending = true → fields.fits weaker (fun _ => true) = true
  | .last label value _ _, hfits => by
    simp only [Fields.fits, Bool.and_eq_true] at hfits ⊢
    exact ⟨⟨⟨h label hfits.1.1.1, value.fits_mono h hfits.1.1.2⟩, hfits.1.2⟩, trivial⟩
  | .more label value _ fields, hfits => by
    simp only [Fields.fits, Bool.and_eq_true] at hfits ⊢
    exact ⟨⟨⟨h label hfits.1.1.1, value.fits_mono h hfits.1.1.2⟩, hfits.1.2⟩,
      fields.fits_mono h hfits.2⟩

end

end Mono

namespace Draft

/-- The draft with its keys in double quotes. -/
def quoted (draft : Draft) : Draft := draft.map Key.quoted id

/-- The draft without last commas. -/
def untrailed (draft : Draft) : Draft := draft.map id fun _ => none

theorem cell_untrailed_quoted (draft : Draft) : draft.quoted.untrailed.cell = draft.cell := by
  have hkept : ∀ label : Key, (id label).name = label.name := fun _ => rfl
  have hquoted : ∀ label : Key, label.quoted.name = label.name := fun _ => rfl
  rw [untrailed, quoted, cell_map hkept, cell_map hquoted]

/-- What is left to be strict about in a mended draft are the spaces. -/
theorem isStrict_untrailed_quoted (draft : Draft) :
    draft.quoted.untrailed.isStrict = draft.isSpaced := by
  simp only [isStrict, isSpaced, untrailed, quoted, fits_map, id, Key.isStrict_quoted,
    Option.isNone_none]

theorem isSpaced_of_isStrict {draft : Draft} (h : draft.isStrict = true) : draft.isSpaced = true :=
  draft.fits_mono (fun _ => Key.isSpaced_of_isStrict) h

end Draft

/-! ## Braces and back ticks -/

theorem marks_of_isBlank {c : Char} : Text.isBlank c = true → marks.char c = 0 :=
  Text.of_isBlank (P := fun c => marks.char c = 0) (by decide)

theorem marks_of_isTextChar {c : Char} (h : isTextChar c = true) : marks.char c = 0 :=
  marks_char_eq_zero_iff.mpr
    ⟨ne_of_class h (by decide), ne_of_class h (by decide), ne_of_class h (by decide)⟩

theorem isTextChar_of_isWordChar {c : Char} (h : Text.isWordChar c = true) : isTextChar c = true := by
  rw [isTextChar, h]
  rfl

theorem Gap.isClean (gap : Gap) : IsClean gap.chars :=
  .of_forall fun c hc => marks_of_isBlank (gap.blank c hc)

theorem IsClean.cons {c : Char} {cs : List Char} (hc : marks.char c = 0) (h : IsClean cs) :
    IsClean (c :: cs) :=
  (IsClean.of_forall (by simpa using hc) : IsClean [c]).append h

theorem Key.isClean (key : Key) : IsClean key.text := by
  have hname : IsClean key.name.chars :=
    .of_forall fun c hc => marks_of_isTextChar (isTextChar_of_isWordChar (key.name.plain c hc))
  have hquotes : IsClean key.quotes.text := by
    cases key.quotes <;> exact .of_forall (by decide)
  have hafter : IsClean (':' :: key.after.chars) := .cons (by decide) key.after.isClean
  exact key.before.isClean.append
    ((((hquotes.append hname).append hquotes).append key.inner.isClean).append hafter)

theorem Scalar.isClean : ∀ scalar : Scalar, IsClean scalar.text
  | null | bool true | bool false => .of_forall (by decide)
  | int value _ => by
    apply IsClean.of_forall
    intro c hc
    rw [marks_char_eq_zero_iff]
    refine ⟨?_, ?_, ?_⟩
    all_goals
      rintro rfl
      exact absurd (mem_intChars hc) (by decide)
  | string chars plain => by
    have hquote : IsClean ['"'] := .of_forall (by decide)
    have hchars : IsClean chars := .of_forall fun c hc => marks_of_isTextChar (plain c hc)
    exact .cons (by decide) (hchars.append hquote)

theorem isClean_lastComma : ∀ comma : Option Gap, IsClean (lastComma comma)
  | none => .nil
  | some gap => .cons (by decide) gap.isClean

mutual

/-- The braces of a draft close each other. -/
theorem Draft.isClean : ∀ draft : Draft, IsClean draft.text
  | .scalar scalar => by
    rw [Draft.text]
    exact scalar.isClean
  | .emptyList gap => by
    rw [Draft.text]
    exact .cons (by decide) (gap.isClean.append (.cons (by decide) .nil))
  | .list items => by
    rw [Draft.text]
    exact .cons (by decide) (items.isClean.append (.cons (by decide) .nil))
  | .emptyRecord gap => by
    rw [Draft.text]
    exact gap.isClean.braces
  | .record fields => by
    rw [Draft.text]
    exact fields.isClean.braces

theorem Items.isClean : ∀ items : Items, IsClean items.text
  | .last before item after comma => by
    rw [Items.text]
    exact ((before.isClean.append item.isClean).append after.isClean).append (isClean_lastComma comma)
  | .more before item after items => by
    rw [Items.text]
    exact ((before.isClean.append item.isClean).append after.isClean).append
      (.cons (by decide) items.isClean)

theorem Fields.isClean : ∀ fields : Fields, IsClean fields.text
  | .last key value after comma => by
    rw [Fields.text]
    exact ((key.isClean.append value.isClean).append after.isClean).append (isClean_lastComma comma)
  | .more key value after fields => by
    rw [Fields.text]
    exact ((key.isClean.append value.isClean).append after.isClean).append
      (.cons (by decide) fields.isClean)

end

/-- A draft of a record is an object that is cut out as it is. -/
theorem Draft.isIntact {draft : Draft} {entries : Entries} (h : draft.cell = .record entries) :
    IsIntact draft.text := by
  cases draft with
  | emptyRecord gap => exact gap.isClean.isIntact
  | record fields => exact fields.isClean.isIntact
  | scalar scalar => cases scalar <;> cases h
  | emptyList | list => cases h

/-! ## Printed cells -/

/-- Can a cell be drafted, apart from its parts: is it no binary64 number, an integer only if that can
be read, a text only of plain characters, and a record only with names of letters, digits and low
lines? -/
def IsDraftable : Cell → Prop
  | .null | .bool _ | .list _ => True
  | .int value => value.natAbs < 10 ^ Numeral.maxIntegerDigits
  | .float _ => False
  | .text s => ∀ c ∈ s.toList, isTextChar c = true
  | .record entries => ∀ name ∈ entries.map Prod.fst,
      name ≠ "" ∧ ∀ c ∈ name.toList, Text.isWordChar c = true

theorem plain_of_isTextChar {c : Char} (h : isTextChar c = true) :
    c ≠ '"' ∧ c ≠ '\\' ∧ 0x20 ≤ c.toNat := by
  have hcontrol : ∀ n < 0x20, isTextChar (Char.ofNat n) = false := by decide
  refine ⟨ne_of_class h (by decide), ne_of_class h (by decide), ?_⟩
  by_contra hlow
  have hnone := hcontrol c.toNat (Nat.not_le.mp hlow)
  rw [Char.ofNat_toNat, h] at hnone
  cases hnone

theorem quote_of_isTextChar {s : String} (h : ∀ c ∈ s.toList, isTextChar c = true) :
    quote s = '"' :: (s.toList ++ ['"']) := by
  have hescape : ∀ c ∈ s.toList, escapeChar c = [c] := by
    intro c hc
    obtain ⟨hquote, hescape, hprintable⟩ := plain_of_isTextChar (h c hc)
    have hne : ∀ d : Char, d.toNat < 0x20 → c ≠ d := by
      rintro d hd rfl
      omega
    have hfeed : c.toNat ≠ 0x0C ∧ c.toNat ≠ 0x08 ∧ ¬ c.toNat < 0x20 := by omega
    simp [escapeChar, hquote, hescape, hne '\n' (by decide), hne '\r' (by decide),
      hne '\t' (by decide), hfeed]
  rw [quote, List.flatMap_congr hescape, List.flatMap_singleton', List.cons_append]

/-- The key of an entry as it is printed, after a gap. -/
theorem exists_key {name : String} (hne : name ≠ "")
    (hplain : ∀ c ∈ name.toList, Text.isWordChar c = true) (before : Gap) : ∃ key : Key,
      String.ofList key.name.chars = name ∧
        key.text = before.chars ++ (quote name ++ [':', ' ']) ∧ (before.isStrict → key.isStrict) := by
  have hchars : name.toList ≠ [] := fun hnil => hne (String.toList_eq_nil_iff.mp hnil)
  refine ⟨⟨before, .double, ⟨name.toList, hplain, hchars⟩, .nothing, ⟨[' '], by decide⟩⟩, ?_, ?_, ?_⟩
  · exact String.ofList_toList
  · rw [quote_of_isTextChar fun c hc => isTextChar_of_isWordChar (hplain c hc)]
    simp [Key.text, Quotes.text, Gap.nothing]
  · intro hstrict
    have hspace : Gap.isStrict ⟨[' '], by decide⟩ = true := by decide
    simp [Key.isStrict, Key.isSpaced, hstrict, hspace]

mutual

/-- A cell printed on one line is a draft of it, and JSON already. -/
theorem exists_draft : ∀ {cell : Cell}, (∀ part ∈ cell.parts, IsDraftable part) →
    ∃ draft : Draft, draft.cell = cell ∧ draft.text = print cell ∧ draft.isStrict = true
  | .null, _ => ⟨.scalar .null, rfl, rfl, rfl⟩
  | .bool true, _ => ⟨.scalar (.bool true), rfl, rfl, rfl⟩
  | .bool false, _ => ⟨.scalar (.bool false), rfl, rfl, rfl⟩
  | .int value, h => ⟨.scalar (.int value (h _ List.mem_cons_self)), rfl, rfl, rfl⟩
  | .float _, h => (h _ List.mem_cons_self).elim
  | .text s, h => by
    have hplain : ∀ c ∈ s.toList, isTextChar c = true := h _ List.mem_cons_self
    refine ⟨.scalar (.string s.toList hplain), ?_, ?_, rfl⟩
    · rw [Draft.cell, Scalar.cell, String.ofList_toList]
    · rw [Draft.text, Scalar.text, print, scalar, quote_of_isTextChar hplain]
      all_goals simp
  | .list [], _ => ⟨.emptyList .nothing, rfl, rfl, rfl⟩
  | .record [], _ => ⟨.emptyRecord .nothing, rfl, rfl, rfl⟩
  | .list (item :: items), h => by
    obtain ⟨drafts, hcells, htext, hstrict⟩ := exists_items .nothing rfl (List.cons_ne_nil item items)
      fun part hpart => h part (List.mem_cons_of_mem _ hpart)
    refine ⟨.list drafts, ?_, ?_, hstrict⟩
    · rw [Draft.cell, hcells]
    · rw [Draft.text, htext, print]
      rfl
  | .record (entry :: entries), h => by
    have hnames := h _ List.mem_cons_self
    obtain ⟨fields, hentries, htext, hstrict⟩ := exists_fields .nothing rfl
      (List.cons_ne_nil entry entries) hnames
      fun part hpart => h part (List.mem_cons_of_mem _ hpart)
    refine ⟨.record fields, ?_, ?_, hstrict⟩
    · rw [Draft.cell, hentries]
    · rw [Draft.text, htext, print]
      rfl

theorem exists_items (before : Gap) (hbefore : before.isStrict = true) : ∀ {cells : List Cell},
    cells ≠ [] → (∀ part ∈ Cell.itemParts cells, IsDraftable part) →
    ∃ items : Items, items.cells = cells ∧ items.text = before.chars ++ printItems cells ∧
      items.fits Key.isStrict Option.isNone = true
  | [], hne, _ => absurd rfl hne
  | [cell], _, h => by
    have hparts : ∀ part ∈ cell.parts, IsDraftable part := fun part hpart =>
      h part (by simp [Cell.itemParts, hpart])
    obtain ⟨draft, hcell, htext, hstrict⟩ := exists_draft hparts
    refine ⟨.last before draft .nothing none, ?_, ?_, ?_⟩
    · rw [Items.cells, hcell]
    · simp [Items.text, htext, printItems, Gap.nothing, lastComma]
    · rw [Draft.isStrict] at hstrict
      simp [Items.fits, hbefore, hstrict]
  | cell :: next :: cells, _, h => by
    rw [Cell.itemParts] at h
    simp only [List.mem_append] at h
    obtain ⟨draft, hcell, htext, hstrict⟩ := exists_draft fun part hpart => h part (.inl hpart)
    -- the space after a comma is the gap before the next item
    obtain ⟨items, hcells, hitems, hfits⟩ := exists_items ⟨[' '], by decide⟩ rfl
      (List.cons_ne_nil next cells) fun part hpart => h part (.inr hpart)
    refine ⟨.more before draft .nothing items, ?_, ?_, ?_⟩
    · rw [Items.cells, hcell, hcells]
    · simp [Items.text, htext, hitems, printItems, Gap.nothing]
    · rw [Draft.isStrict] at hstrict
      simp [Items.fits, hbefore, hstrict, hfits]

theorem exists_fields (before : Gap) (hbefore : before.isStrict = true) :
    ∀ {entries : List (String × Cell)}, entries ≠ [] → IsDraftable (.record entries) →
    (∀ part ∈ Cell.entryParts entries, IsDraftable part) →
    ∃ fields : Fields, fields.entries = entries ∧
      fields.text = before.chars ++ printEntries entries ∧
      fields.fits Key.isStrict Option.isNone = true
  | [], hne, _, _ => absurd rfl hne
  | [(name, cell)], _, hnames, h => by
    obtain ⟨hne, hplain⟩ := hnames name List.mem_cons_self
    obtain ⟨key, hname, hkey, hkeyStrict⟩ := exists_key hne hplain before
    have hparts : ∀ part ∈ cell.parts, IsDraftable part := fun part hpart =>
      h part (by simp [Cell.entryParts, hpart])
    obtain ⟨draft, hcell, htext, hstrict⟩ := exists_draft hparts
    refine ⟨.last key draft .nothing none, ?_, ?_, ?_⟩
    · rw [Fields.entries, hname, hcell]
    · simp [Fields.text, hkey, htext, printEntries, Gap.nothing, lastComma]
    · rw [Draft.isStrict] at hstrict
      simp [Fields.fits, hkeyStrict hbefore, hstrict]
  | (name, cell) :: next :: entries, _, hnames, h => by
    rw [Cell.entryParts] at h
    simp only [List.mem_append] at h
    obtain ⟨hne, hplain⟩ := hnames name List.mem_cons_self
    obtain ⟨key, hname, hkey, hkeyStrict⟩ := exists_key hne hplain before
    obtain ⟨draft, hcell, htext, hstrict⟩ := exists_draft fun part hpart => h part (.inl hpart)
    -- the space after a comma is the gap before the next key
    obtain ⟨fields, hentries, hfields, hfits⟩ := exists_fields ⟨[' '], by decide⟩ rfl
      (List.cons_ne_nil next entries) (fun other hother => hnames other (List.mem_cons_of_mem _ hother))
      fun part hpart => h part (.inr hpart)
    refine ⟨.more key draft .nothing fields, ?_, ?_, ?_⟩
    · rw [Fields.entries, hname, hcell, hentries]
    · simp [Fields.text, hkey, htext, hfields, printEntries, Gap.nothing]
    · rw [Draft.isStrict] at hstrict
      simp [Fields.fits, hkeyStrict hbefore, hstrict, hfits]

end

end SheetQuery.Reply
