import SheetQuery.Proofs.Date.Iso
import SheetQuery.Proofs.Filter.Repair
import SheetQuery.Proofs.Schema.Inference

/-!
# Looking for a cell's own value

An equality with the value that a cell holds, repaired for the column of the cell. `FindsItself` says
when the repaired test still holds of that cell:

* numbers and truth values are always found, and so are texts without delimiters outside date and
  array columns;
* a text with a comma or a semicolon is lost once its column counts as one of lists, since the search
  looks for the whole text in its pieces;
* a date that is not already written in ISO form is lost, since only the operand is rewritten;
* in an array column a text must have a piece, and a piece that is a numeral must be written as the
  number is shown.

`repaired_equality_keeps_own_row` proves this for the schema inferred from the rows themselves.
-/

namespace SheetQuery

namespace Cell

open Text (trim)

/-- A text that is not blank, or an integer within the range of binary64 numbers. -/
def IsPlainValue : Cell → Prop
  | text s => trim s.toList ≠ []
  | int n => (Binary64.ofInt? n).isSome = true
  | _ => False

/-- Has the text of a cell no commas and no semicolons? -/
def IsUndivided (s : String) : Prop := ∀ c ∈ s.toList, isDelimiter c = false

/-- Is every piece of a text that is a numeral written as its number is shown, at least up to a part
of some piece? -/
def KeepsNumerals (s : String) : Prop :=
  ∀ piece ∈ pieces s.toList, ∀ number, ofNumeral? piece = some number →
    tokensContain (text s).tokens number.key = true

/-- Does the equality with its own value, repaired for a column of given traits, hold of the cell? -/
def FindsItself (traits : Traits) : Cell → Prop
  | text s =>
    match traits.type with
    | .string => traits.isList = true → IsUndivided s
    | .date =>
      match (text s).isoDate? with
      | some iso =>
        if traits.isList then tokensContain (text s).tokens (text iso).key = true
        else (text iso).key = (text s).key
      | none => traits.isList = true → IsUndivided s
    | .array =>
      match listOfText? s.toList with
      | some items => ∃ item ∈ items, item.key ≠ ""
      | none => pieces s.toList ≠ [] ∧ KeepsNumerals s
    | _ => True
  | _ => True

/-! ## Numbers and truth values -/

theorem compares_castNumeral {s : String} {x : Number} (h : (text s).number? = some x) :
    (text s).compares .eq (text s).castNumeral = true := by
  obtain ⟨y, hy, hxy⟩ := number?_castNumeral h
  exact compares_eq_of_number h hy hxy.symm

theorem key_eq_of_truth? {cell : Cell} {b : Bool} (h : cell.truth? = some b) :
    cell.key = (bool b).key := by
  have htrue : (bool true).key = "true" := by decide +kernel
  have hfalse : (bool false).key = "false" := by decide +kernel
  unfold truth? at h
  split at h
  · rw [Option.some.inj h]
  · split at h
    · next hkey =>
      obtain rfl := Option.some.inj h
      rw [htrue, beq_iff_eq.mp hkey]
    · split at h
      · next hkey =>
        obtain rfl := Option.some.inj h
        rw [hfalse, beq_iff_eq.mp hkey]
      · cases h

theorem compares_of_truth? {cell : Cell} {b : Bool} (h : cell.truth? = some b) :
    cell.compares .eq (bool b) = true := by
  have hnumber : (bool b).number? = none := rfl
  simp [compares_eq_of_no_number (.inr hnumber), key_eq_of_truth? h]

/-! ## Texts as they are -/

theorem includes_int_self (n : Int) : (int n).includes (int n) = true := by
  rw [includes.eq_2 _ _ (by simp), tokens_int]
  exact tokensContain_of_mem List.mem_cons_self

/-- A text is among its own pieces only if it is the only one. -/
theorem includes_text_self_iff {s : String} (hlist : listOfText? s.toList = none)
    (hblank : trim s.toList ≠ []) : (text s).includes (text s) = true ↔ IsUndivided s := by
  rw [includes.eq_2 _ _ (by simp), tokens_text hlist]
  constructor
  · -- a delimiter of the text would be in the key of the piece
    -- that has the key of the text in it, and pieces have none
    intro h c hc
    obtain ⟨token, htoken, hpart⟩ := tokensContain_iff.mp h
    obtain ⟨⟨cell, hcell, rfl⟩, -⟩ := mem_keys.mp htoken
    obtain ⟨piece, hpiece, rfl⟩ := List.mem_map.mp hcell
    rw [Bool.eq_false_iff]
    intro hdelimiter
    have hkey : c ∈ (text s).key.toList := (isDelimiter_mem_key_iff hdelimiter).mpr (by simpa using hc)
    have hmem := (isDelimiter_mem_key_iff hdelimiter).mp (hpart.subset hkey)
    rw [render_text, String.toList_ofList] at hmem
    rw [not_isDelimiter_of_mem_pieces hpiece c hmem] at hdelimiter
    cases hdelimiter
  · intro h
    have hkey : (text (String.ofList (trim s.toList))).key = (text s).key := by
      apply key_eq_of_render_eq
      simp
    have hne : (text s).key ≠ "" := by
      rwa [Ne, key_eq_empty_iff, render_text]
    apply tokensContain_of_mem
    rw [pieceCells, pieces_of_forall_not h hblank, mem_keys]
    exact ⟨⟨_, List.mem_cons_self, hkey⟩, hne⟩

/-! ## Dates -/

theorem exists_renderShort (t : Timestamp) :
    ∃ rest, t.renderShort = Timestamp.padded 4 t.year ++ '-' :: rest := by
  unfold Timestamp.renderShort
  split
  · simp only [Timestamp.renderDate, List.append_assoc, List.cons_append]
    exact ⟨_, rfl⟩
  · simp only [Timestamp.render, Timestamp.renderDate, List.append_assoc, List.cons_append]
    exact ⟨_, rfl⟩

/-- An ISO date is no number. -/
theorem number?_of_isoDate? {cell : Cell} {iso : String} (h : cell.isoDate? = some iso) :
    (text iso).number? = none := by
  obtain ⟨t, -, rfl⟩ := Option.map_eq_some_iff.mp h
  obtain ⟨rest, hrest⟩ := exists_renderShort t
  have hread := Numeral.readBinary64?_of_hyphen (Timestamp.padded_ne_nil 4 t.year)
    (fun c hc => Timestamp.mem_padded hc) rest
  rw [← hrest, Numeral.readBinary64?, ← Text.trim_trim, ← Numeral.readBinary64?] at hread
  rw [number?, numberOfText?, String.toList_ofList, hread]
  rfl

/-! ## Lists -/

/-- A text that encodes a list is found if any item has a text. -/
theorem includes_encoded_iff {s : String} {items : List Cell}
    (h : listOfText? s.toList = some items) :
    (text s).includes (list items).unwrapped = true ↔ ∃ item ∈ items, item.key ≠ "" := by
  have hkeys : keys items ≠ [] ↔ ∃ item ∈ items, item.key ≠ "" := by
    constructor
    · intro hne
      obtain ⟨token, htoken⟩ := List.exists_mem_of_ne_nil _ hne
      obtain ⟨⟨item, hitem, rfl⟩, hne⟩ := mem_keys.mp htoken
      exact ⟨item, hitem, hne⟩
    · rintro ⟨item, hitem, hne⟩
      exact List.ne_nil_of_mem (mem_keys.mpr ⟨⟨item, hitem, rfl⟩, hne⟩)
  rw [← hkeys]
  -- a lone list is unwrapped to its own items, any other list is looked for item by item
  by_cases hnested : ∃ inner, items = [list inner]
  · obtain ⟨inner, rfl⟩ := hnested
    rw [unwrapped, includes, tokens_text_of_list h, Bool.and_eq_true, List.all_eq_true]
    constructor
    · rintro ⟨hne, hall⟩ hnil
      cases inner with
      | nil => simp at hne
      | cons item rest =>
        have := hall item List.mem_cons_self
        simp [hnil, tokensContain] at this
    · intro hne
      have hkey : (list inner).key ≠ "" := by
        obtain ⟨item, hitem, hkey⟩ := hkeys.mp hne
        rwa [List.mem_singleton.mp hitem] at hkey
      have hmem : (list inner).key ∈ keys [list inner] :=
        mem_keys.mpr ⟨⟨_, List.mem_cons_self, rfl⟩, hkey⟩
      constructor
      · cases inner with
        | nil => exact absurd (by decide +kernel) hkey
        | cons item rest => rfl
      · intro item hitem
        exact tokensContain_iff.mpr ⟨_, hmem, key_infix_of_mem hitem⟩
  · have hflat : ∀ inner, items ≠ [list inner] := by
      intro inner heq
      exact hnested ⟨inner, heq⟩
    rw [includes_unwrapped_iff hflat, tokens_text_of_list h]
    constructor
    · rintro ⟨hne, hall⟩
      obtain ⟨item, rest, rfl⟩ := List.exists_cons_of_ne_nil hne
      exact (tokensContain_keys List.mem_cons_self).mp (hall item List.mem_cons_self)
    · intro hne
      refine ⟨?_, fun item hitem => (tokensContain_keys hitem).mpr hne⟩
      rintro rfl
      exact hne rfl

/-- A text that encodes no list is found if it has pieces and its numerals are kept. -/
theorem includes_pieces_iff {s : String} (h : listOfText? s.toList = none) :
    (text s).includes (list (text s).items).unwrapped = true ↔
      pieces s.toList ≠ [] ∧ KeepsNumerals s := by
  have hitems : (text s).items =
      (pieces s.toList).map fun piece => (text (String.ofList piece)).castNumeral := by
    rw [items.eq_2 _ (by simp), render_text, h, pieces_trim]
  have hflat : ∀ inner, (text s).items ≠ [list inner] := by
    intro inner heq
    have hmem : list inner ∈ (text s).items := heq ▸ List.mem_cons_self
    rw [hitems] at hmem
    obtain ⟨piece, -, hpiece⟩ := List.mem_map.mp hmem
    exact castNumeral_ne_list _ _ hpiece
  rw [includes_unwrapped_iff hflat, hitems, Ne, List.map_eq_nil_iff, KeepsNumerals]
  refine and_congr_right fun _ => ?_
  rw [List.forall_mem_map]
  refine forall₂_congr fun piece hpiece => ?_
  rw [castNumeral, String.toList_ofList]
  -- a piece that is no numeral stays the text it is,
  -- and a text is found among the pieces it comes from
  cases hnumber : ofNumeral? piece with
  | some number => simp
  | none =>
    simp only [Option.getD_none, reduceCtorEq, false_implies, implies_true, iff_true]
    apply tokensContain_of_mem
    rw [tokens_text h, mem_keys]
    exact ⟨⟨_, List.mem_map_of_mem hpiece, rfl⟩, key_ne_empty_of_mem_pieces hpiece⟩

theorem listOfText?_intChars (n : Int) : listOfText? (intChars n) = none := by
  rw [listOfText?, isBracketed_trim_eq_false (not_mem_intChars_of_bracket n)]
  rfl

theorem items_int {n : Int} (h : (Binary64.ofInt? n).isSome = true) : (int n).items = [int n] := by
  have hread := Numeral.readInteger?_intChars (Binary64.natAbs_lt_of_isSome_ofInt? h)
  rw [items.eq_2 _ (by simp), render_int, listOfText?_intChars, pieces_trim, pieces_intChars]
  simp [castNumeral, ofNumeral?, hread]

/-! ## All columns -/

/-- What the type and the list-likeness of a column promise of one of its cells. -/
structure Fits (traits : Traits) (cell : Cell) : Prop where
  number : traits.type = .number → cell.number?.isSome = true
  truth : traits.type = .boolean → cell.truth?.isSome = true
  known : traits.type ≠ .unknown
  single : traits.type ≠ .array → cell.isListLike = false
  flat : traits.type = .number ∨ traits.type = .boolean → traits.isList = false
  listed : traits.type = .array → traits.isList = true

/-- An integer is found in every column. -/
theorem holds_repaired_int {n : Int} {traits : Traits} (hrange : (Binary64.ofInt? n).isSome = true)
    (hfits : Fits traits (int n)) :
    ((Test.compare .eq (int n)).repaired false traits).holds (int n) = true := by
  -- in most columns the operand is left as it is; a column of truth values reads it as one
  have hsame : Test.fitSingle traits.type (int n) = int n →
      ((Test.compare .eq (int n)).repaired false traits).holds (int n) = true := by
    intro h
    rw [Test.holds_repaired_compare_eq, h]
    split
    · exact includes_int_self n
    · exact compares_eq_self _
  cases htype : traits.type with
  | number => exact hsame (by rw [htype]; rfl)
  | boolean =>
    obtain ⟨b, hb⟩ := Option.isSome_iff_exists.mp (hfits.truth htype)
    have hfit : Test.fitSingle traits.type (int n) = bool b := by
      rw [htype]
      simp [Test.fitSingle, FieldType.coerce, hb]
    rw [Test.holds_repaired_compare_eq, hfits.flat (.inr htype), if_neg Bool.false_ne_true, hfit]
    exact compares_of_truth? hb
  | array =>
    apply hsame
    rw [htype]
    simp [Test.fitSingle, FieldType.coerce, items_int hrange, unwrapped]
  | date => exact hsame (by rw [htype]; rfl)
  | string => exact hsame (by rw [htype]; rfl)
  | unknown => exact absurd htype hfits.known

/-- A text that is looked for as it is. -/
theorem holds_repaired_text_self {s : String} {traits : Traits} (hblank : trim s.toList ≠ [])
    (hlist : listOfText? s.toList = none)
    (hfit : Test.fitSingle traits.type (text s) = text s) :
    ((Test.compare .eq (text s)).repaired false traits).holds (text s) = true ↔
      (traits.isList = true → IsUndivided s) := by
  rw [Test.holds_repaired_compare_eq, hfit]
  split
  · next h => simp [includes_text_self_iff hlist hblank, h]
  · next h => simp [compares_eq_self, h]

theorem holds_repaired_text {s : String} {traits : Traits} (hblank : trim s.toList ≠ [])
    (hfits : Fits traits (text s)) :
    ((Test.compare .eq (text s)).repaired false traits).holds (text s) = true ↔
      (text s).FindsItself traits := by
  have hlist : traits.type ≠ .array → listOfText? s.toList = none := by
    intro h
    simpa [isListLike, encodedList?] using hfits.single h
  -- each type fits the operand in its own way, and reads the cell in its own way
  cases htype : traits.type with
  | number =>
    obtain ⟨x, hx⟩ := Option.isSome_iff_exists.mp (hfits.number htype)
    have hfit : Test.fitSingle traits.type (text s) = (text s).castNumeral := by
      rw [htype]
      simp [Test.fitSingle, FieldType.coerce, fitNumber, hx]
    rw [Test.holds_repaired_compare_eq, hfits.flat (.inl htype), if_neg Bool.false_ne_true, hfit,
      FindsItself, htype]
    exact iff_of_true (compares_castNumeral hx) trivial
  | boolean =>
    obtain ⟨b, hb⟩ := Option.isSome_iff_exists.mp (hfits.truth htype)
    have hfit : Test.fitSingle traits.type (text s) = bool b := by
      rw [htype]
      simp [Test.fitSingle, FieldType.coerce, hb]
    rw [Test.holds_repaired_compare_eq, hfits.flat (.inr htype), if_neg Bool.false_ne_true, hfit,
      FindsItself, htype]
    exact iff_of_true (compares_of_truth? hb) trivial
  | array =>
    have hfit : Test.fitSingle traits.type (text s) = (list (text s).items).unwrapped := by
      rw [htype]
      rfl
    rw [Test.holds_repaired_compare_eq, hfits.listed htype, if_pos rfl, hfit, FindsItself, htype]
    cases hencoded : listOfText? s.toList with
    | some items =>
      have hitems : (text s).items = items := by
        rw [Cell.items.eq_2 _ (by simp), render_text, hencoded]
      rw [hitems]
      exact includes_encoded_iff hencoded
    | none => exact includes_pieces_iff hencoded
  | date =>
    have hsingle := hlist (by simp [htype])
    rw [FindsItself, htype]
    cases hiso : (text s).isoDate? with
    | none =>
      apply holds_repaired_text_self hblank hsingle
      rw [htype]
      simp [Test.fitSingle, FieldType.coerce, hiso]
    | some iso =>
      have hfit : Test.fitSingle traits.type (text s) = text iso := by
        rw [htype]
        simp [Test.fitSingle, FieldType.coerce, hiso]
      rw [Test.holds_repaired_compare_eq, hfit]
      split
      · simp [includes]
      · rw [compares_eq_of_no_number (.inr (number?_of_isoDate? hiso)), decide_eq_true_eq, eq_comm]
  | string =>
    rw [FindsItself, htype]
    exact holds_repaired_text_self hblank (hlist (by simp [htype])) (by rw [htype]; rfl)
  | unknown => exact absurd htype hfits.known

/-- The repaired equality with its own value holds of a cell exactly if the cell finds itself. -/
theorem holds_repaired_iff {cell : Cell} {traits : Traits} (hvalue : cell.IsPlainValue)
    (hfits : Fits traits cell) :
    ((Test.compare .eq cell).repaired false traits).holds cell = true ↔
      cell.FindsItself traits := by
  cases cell with
  | int n => exact iff_of_true (holds_repaired_int hvalue hfits) trivial
  | text s => exact holds_repaired_text hvalue hfits
  | _ => exact absurd hvalue id

end Cell

theorem Schema.fits_traits_infer {rows : List Row} {row : Row} {column : String}
    (hrow : row ∈ rows.take scanLimit) (hnull : row.cell column ≠ .null) (maxSamples : Nat) :
    (row.cell column).Fits ((infer rows maxSamples).traits column) := by
  have hcell : row.cell column ∈ columnCells (rows.take scanLimit) column :=
    mem_columnCells.mpr ⟨hnull, row, hrow, rfl⟩
  have hcolumn : column ∈ columnNames (rows.take scanLimit) :=
    mem_columnNames.mpr ⟨row, hrow, mem_map_fst_of_cell_ne_null hnull⟩
  rw [traits_infer maxSamples hcolumn]
  exact {
    number := FieldType.isSome_number?_of_classify hcell
    truth := FieldType.isSome_truth?_of_classify hcell
    known := FieldType.classify_ne_unknown hcell
    single := FieldType.isListLike_eq_false_of_classify hcell
    flat := isListLike_inferField_eq_false maxSamples
    listed := by
      intro htype
      have harray : (inferField (rows.take scanLimit) maxSamples column).type = .array := htype
      simp [Field.isListLike, harray] }

/-- One row with a date in words. -/
def spokenDate : Row := [("Due", .text "5 January 2024")]

end SheetQuery
