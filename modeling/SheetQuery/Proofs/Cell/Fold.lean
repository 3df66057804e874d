import SheetQuery.Proofs.Cell.Tokens
import SheetQuery.Proofs.Numeric.NumeralFold
import SheetQuery.Schema.Coercion

/-!
# Operands up to case

`Cell.fold` lower-cases the letters of a text. The folded text has the key, the number and the truth
value of the text itself, provided its letters are uniform, and so it is fitted to a column type in
the same way: both become the same value, or both stay. Only two column types look at more than
that: a date column at the letters of ISO dates, and an array column at the words of JSON.

* `key_fold`, `number?_fold`, `castNumeral_fold`: the readings of a folded operand;
* `coerce_fold`: fitting it to a column type with one value per cell;
* `map_key_items_fold`: the items it stands for on an array column.
-/

namespace SheetQuery.Cell

open Text (trim lower)

/-- A text with every letter lower-cased on its own; any other cell stays as it is. -/
def fold : Cell → Cell
  | text s => text (String.ofList (Text.fold s.toList))
  | cell => cell

/-- Are the letters of the cell uniform, if it is a text? -/
def IsUniform (cell : Cell) : Prop := ∀ s, cell = text s → Text.IsUniform s.toList

theorem key_fold {cell : Cell} (h : cell.IsUniform) : cell.fold.key = cell.key := by
  cases cell with
  | text s =>
    have htrim : Text.IsUniform (trim s.toList) := fun c hc => h s rfl c (Text.mem_of_mem_trim hc)
    rw [fold, key, key, render_text, render_text, String.toList_ofList, Text.trim_fold,
      Text.lower_fold htrim]
  | _ => rfl

theorem number?_fold (cell : Cell) : cell.fold.number? = cell.number? := by
  cases cell with
  | text s => rw [fold, number?, number?, String.toList_ofList, numberOfText?_fold]
  | _ => rfl

theorem truth?_fold {cell : Cell} (h : cell.IsUniform) : cell.fold.truth? = cell.truth? := by
  cases cell with
  | text s =>
    have hkey := key_fold h
    rw [fold] at hkey
    rw [fold, truth?, truth?, hkey]
    · simp
    · simp
  | _ => rfl

/-- A folded text is turned into the same number, or both texts stay. -/
theorem castNumeral_fold_cases (cell : Cell) : cell.fold.castNumeral = cell.castNumeral ∨
    (cell.castNumeral = cell ∧ cell.fold.castNumeral = cell.fold) := by
  cases cell with
  | text s =>
    simp only [fold, castNumeral, String.toList_ofList, ofNumeral?_fold]
    cases ofNumeral? s.toList with
    | none => exact .inr ⟨rfl, rfl⟩
    | some number => exact .inl rfl
  | _ => exact .inl rfl

theorem fold_of_ofNumeral? {cs : List Char} {cell : Cell} (h : ofNumeral? cs = some cell) :
    cell.fold = cell ∧ cell.IsUniform := by
  unfold ofNumeral? at h
  split at h
  · rw [← Option.some.inj h]
    exact ⟨rfl, by rintro s ⟨⟩⟩
  · obtain ⟨x, -, rfl⟩ := Option.map_eq_some_iff.mp h
    exact ⟨rfl, by rintro s ⟨⟩⟩

theorem castNumeral_fold (cell : Cell) : cell.fold.castNumeral = cell.castNumeral.fold := by
  cases cell with
  | text s =>
    simp only [fold, castNumeral, String.toList_ofList, ofNumeral?_fold]
    cases hnumber : ofNumeral? s.toList with
    | none => rfl
    | some number => exact (fold_of_ofNumeral? hnumber).1.symm
  | _ => rfl

theorem isUniform_castNumeral {cell : Cell} (h : cell.IsUniform) : cell.castNumeral.IsUniform := by
  cases cell with
  | text s =>
    rw [castNumeral]
    cases hnumber : ofNumeral? s.toList with
    | none => exact h
    | some number => exact (fold_of_ofNumeral? hnumber).2
  | _ => exact h

/-! ## Fitting to column types -/

/-- On a column with one value per cell, a folded operand is fitted to the same value, or both the
operand and the folded one stay. -/
theorem coerce_fold {type : FieldType} (harray : type ≠ .array) {cell : Cell} (h : cell.IsUniform)
    (hdate : type = .date → cell.fold.isoDate? = cell.isoDate?) :
    type.coerce cell.fold = type.coerce cell ∨
      (type.coerce cell = cell ∧ type.coerce cell.fold = cell.fold) := by
  cases type with
  | array => exact absurd rfl harray
  | number =>
    cases cell with
    | text s =>
      have hnumber := number?_fold (text s)
      rw [fold] at hnumber
      cases hx : (text s).number? with
      | none =>
        rw [hx] at hnumber
        refine .inr ⟨?_, ?_⟩
        · simp only [FieldType.coerce, fitNumber, hx]
        · simp only [FieldType.coerce, fold, fitNumber, hnumber]
      | some x =>
        rw [hx] at hnumber
        -- a numeral is cast to the same number in either case, or both texts stay texts
        have hcast := castNumeral_fold_cases (text s)
        simp only [fold] at hcast
        simpa only [FieldType.coerce, fold, fitNumber, hx, hnumber] using hcast
    | _ => exact .inl rfl
  | boolean =>
    rw [FieldType.coerce, FieldType.coerce, truth?_fold h]
    cases cell.truth? with
    | none => exact .inr ⟨rfl, rfl⟩
    | some b => exact .inl rfl
  | date =>
    rw [FieldType.coerce, FieldType.coerce, hdate rfl]
    cases cell.isoDate? with
    | none => exact .inr ⟨rfl, rfl⟩
    | some iso => exact .inl rfl
  | string => exact .inr ⟨rfl, rfl⟩
  | unknown => exact .inr ⟨rfl, rfl⟩

/-! ## Items -/

theorem isDelimiter_lowerChar (c : Char) : isDelimiter (Text.lowerChar c) = isDelimiter c := by
  rw [isDelimiter, Text.lowerChar_beq (by decide), Text.lowerChar_beq (by decide), isDelimiter]

theorem pieces_fold (cs : List Char) : pieces (Text.fold cs) = (pieces cs).map Text.fold := by
  rw [pieces, Text.splitWhere_fold isDelimiter_lowerChar, pieces, List.map_map, List.filter_map,
    List.filter_map, List.map_map]
  simp only [Function.comp_def, Text.trim_fold, ne_eq, Text.fold_eq_nil_iff]

/-- A text that is not in brackets encodes no list. -/
theorem listOfText?_of_not_bracketed {cs : List Char} (h : isBracketed (trim cs) = false) :
    listOfText? cs = none := by
  rw [listOfText?, if_neg (by simp [h])]

theorem getLast?_fold (cs : List Char) :
    (Text.fold cs).getLast? = cs.getLast?.map Text.lowerChar := List.getLast?_map

theorem isBracketed_fold (cs : List Char) : isBracketed (Text.fold cs) = isBracketed cs := by
  have hchar : ∀ (c : Option Char) (d : Char), Text.isPlainAscii d = true →
      (c.map Text.lowerChar == some d) = (c == some d) := by
    intro c d hd
    cases c with
    | none => rfl
    | some c => exact Text.lowerChar_beq hd c
  rw [isBracketed, Text.head?_fold, getLast?_fold, hchar _ _ (by decide), hchar _ _ (by decide),
    isBracketed]

/-- The items that a text stands for on an array column, unless it is in brackets. -/
theorem items_text {s : String} (h : isBracketed (trim s.toList) = false) :
    (text s).items = (pieces s.toList).map fun piece => (text (String.ofList piece)).castNumeral := by
  have hlist : listOfText? s.toList = none := listOfText?_of_not_bracketed h
  simp only [items, render_text, hlist, pieces_trim]

/-- A folded text stands for items of the same keys, unless it is in brackets. -/
theorem map_key_items_fold {s : String} (h : (text s).IsUniform)
    (hopen : isBracketed (trim s.toList) = false) :
    (text s).fold.items.map key = (text s).items.map key := by
  have hopen' : isBracketed (trim (String.ofList (Text.fold s.toList)).toList) = false := by
    rw [String.toList_ofList, Text.trim_fold, isBracketed_fold, hopen]
  rw [fold, items_text hopen', items_text hopen, String.toList_ofList, pieces_fold, List.map_map,
    List.map_map, List.map_map]
  -- a piece and the folded piece are cast alike, since no numeral hangs on case
  apply List.map_congr_left
  intro piece hpiece
  have hpart : (text (String.ofList piece)).IsUniform := by
    obtain ⟨⟨part, hpart, rfl⟩, -⟩ := mem_pieces.mp hpiece
    rintro _ ⟨⟩ c hc
    rw [String.toList_ofList] at hc
    exact h s rfl c (Text.mem_of_mem_splitWhere hpart c (Text.mem_of_mem_trim hc))
  have hcast := castNumeral_fold (text (String.ofList piece))
  rw [fold, String.toList_ofList] at hcast
  rw [Function.comp_apply, Function.comp_apply, Function.comp_apply, hcast]
  exact key_fold (isUniform_castNumeral hpart)

end SheetQuery.Cell
