import SheetQuery.Proofs.Cell.Encodings
import SheetQuery.Proofs.Schema.Description
import SheetQuery.Schema.Coercion

/-!
# Samples of array columns

A list in a column is shown by the schema as its JSON text. Three readers take that text for a list
again: the one that guesses the types of columns, the one that fits operands to them, and the one that
reduces cells to tokens. All of them get the very list back.

* `Cell.IsLossless`: what stands in a JSON text without loss;
* `Cell.listOfText?_print`: the list that is read from its printed text;
* `Sample.ofCell_list_inj`: lists with the same sample are the same;
* `Schema.mem_or_length_samples`: a cell has its sample in the schema, or there are as many samples as
  there may be;
* `array_sample_is_read_as_its_list`: the readers of a sample.
-/

namespace SheetQuery

/-! ## Printed lists -/

namespace Cell

/-- A cell that a JSON text can hold without loss: there is no binary64 number in it, its integers have
readable numerals, and no record in it gives a name twice. Its texts are any. -/
structure IsLossless (cell : Cell) : Prop where
  exact : ∀ part ∈ cell.parts, part.IsExact
  short : ∀ part ∈ cell.parts, part.IsShort
  distinct : ∀ part ∈ cell.parts, part.HasDistinctNames

variable {items : List Cell}

theorem isBracketed_print (items : List Cell) : isBracketed (Json.print (list items)) = true := by
  have hlast : ('[' :: (Json.printItems items ++ [']'])).getLast? = some ']' := by
    rw [← List.cons_append, List.getLast?_concat]
  rw [Json.print, isBracketed, List.cons_append, hlast]
  rfl

theorem listOfText?_print (h : (list items).IsLossless) :
    listOfText? (Json.print (list items)) = some items :=
  listOfText?_of_writes (Json.writes_print h.exact) h.distinct h.short

/-- The printed text of a list, as a cell, is list-like, encodes the list, splits into its items and has
its tokens. -/
theorem readers_of_print (h : (list items).IsLossless) {cell : Cell}
    (hcell : cell = text (String.ofList (Json.print (list items)))) :
    cell.encodedList? = some items ∧ cell.isListLike = true ∧ cell.items = items ∧
      cell.tokens = (list items).tokens := by
  subst hcell
  have hlist : listOfText? (String.ofList (Json.print (list items))).toList = some items := by
    rw [String.toList_ofList, listOfText?_print h]
  refine ⟨hlist, ?_, ?_, tokens_text_of_list hlist⟩
  · rw [isListLike, encodedList?, hlist]
    · rfl
    · simp
  · rw [Cell.items.eq_2 _ (by simp), render_text, hlist]

end Cell

/-! ## Samples -/

namespace Sample

/-- Lists with the same sample are the same: where a repeated sample is dropped, it is for a repeated
list. -/
theorem ofCell_list_inj {items others : List Cell} (hitems : (Cell.list items).IsLossless)
    (hothers : (Cell.list others).IsLossless) :
    ofCell .array (.list items) = ofCell .array (.list others) ↔ items = others := by
  refine ⟨fun h => ?_, congrArg fun items => ofCell .array (.list items)⟩
  rw [ofCell, ofCell, text.injEq, String.ofList_inj] at h
  have hread := Cell.listOfText?_print hitems
  rw [h, Cell.listOfText?_print hothers] at hread
  exact (Option.some.inj hread).symm

end Sample

namespace Schema

theorem mem_distinct_of_mem {samples : List Sample} {sample : Sample} (h : sample ∈ samples) :
    sample ∈ distinct samples := by
  induction samples with
  | nil => exact h
  | cons first samples ih =>
    rw [distinct, List.mem_cons, List.mem_filter]
    by_cases hfirst : sample = first
    · exact .inl hfirst
    · have hmem : sample ∈ samples := List.mem_of_ne_of_mem hfirst h
      exact .inr ⟨ih hmem, by simpa using hfirst⟩

variable {rows : List Row} {name : String} {cell : Cell}

/-- A cell has its sample in the schema, unless there are as many samples as there may be. -/
theorem mem_or_length_samples (maxSamples : Nat) (h : cell ∈ columnCells rows name) :
    Sample.ofCell (inferField rows maxSamples name).type cell ∈
        (inferField rows maxSamples name).samples ∨
      (inferField rows maxSamples name).samples.length = maxSamples := by
  have hmem : Sample.ofCell (FieldType.classify (columnCells rows name)) cell ∈ distinct
      ((columnCells rows name).map
        (Sample.ofCell (FieldType.classify (columnCells rows name)))) :=
    mem_distinct_of_mem (List.mem_map_of_mem h)
  rw [inferField]
  rcases Nat.le_total maxSamples (distinct ((columnCells rows name).map
    (Sample.ofCell (FieldType.classify (columnCells rows name))))).length with hfull | hroom
  · exact .inr (List.length_take_of_le hfull)
  · rw [List.take_of_length_le hroom]
    exact .inl hmem

theorem inferField_mem_infer (maxSamples : Nat)
    (h : cell ∈ columnCells (rows.take scanLimit) name) :
    inferField (rows.take scanLimit) maxSamples name ∈ infer rows maxSamples := by
  obtain ⟨hnull, row, hrow, rfl⟩ := mem_columnCells.mp h
  exact List.mem_map_of_mem (mem_columnNames.mpr ⟨row, hrow, mem_map_fst_of_cell_ne_null hnull⟩)

/-- One list makes a column an array. -/
theorem type_inferField_of_list (maxSamples : Nat) {items : List Cell}
    (h : .list items ∈ columnCells rows name) :
    (inferField rows maxSamples name).type = .array := by
  by_contra hne
  exact absurd (FieldType.isListLike_eq_false_of_classify h hne) (by simp [Cell.isListLike])

end Schema

/-! ## The readers -/

/-- A list among the rows looked at makes its column an array, and its JSON text is among the samples
unless these are complete. From that text all readers get the list back: it has the look of a list, it
is list-like, it encodes the list, an operand given so is fitted to the list, and its tokens are those
of the list. -/
theorem array_sample_is_read_as_its_list (rows : List Row) (maxSamples : Nat) {name : String}
    {items : List Cell} (hcell : .list items ∈ Schema.columnCells (rows.take Schema.scanLimit) name)
    (hlossless : (Cell.list items).IsLossless) :
    ∃ field ∈ Schema.infer rows maxSamples, field.name = name ∧ field.type = .array ∧
      ∃ sample : String, Sample.ofCell field.type (.list items) = .text sample ∧
        (.text sample ∈ field.samples ∨ field.samples.length = maxSamples) ∧
        Cell.isBracketed sample.toList = true ∧ (Cell.text sample).isListLike = true ∧
        (Cell.text sample).encodedList? = some items ∧
        FieldType.array.coerce (.text sample) = .list items ∧
        (Cell.text sample).tokens = (Cell.list items).tokens := by
  have htype := Schema.type_inferField_of_list maxSamples hcell
  have hkept := Schema.mem_or_length_samples maxSamples hcell
  obtain ⟨hencoded, hlistLike, hitems, htokens⟩ := Cell.readers_of_print hlossless rfl
  refine ⟨_, Schema.inferField_mem_infer maxSamples hcell, rfl, htype, _, by rw [htype]; rfl, ?_, ?_,
    hlistLike, hencoded, ?_, htokens⟩
  · rw [htype] at hkept
    exact hkept
  · rw [String.toList_ofList, Cell.isBracketed_print]
  · rw [FieldType.coerce, hitems]

/-- Lists within a list, with marks of JSON in the texts. -/
def nestedSkills : List Cell :=
  [.text "say \"hi\"; [a,\\b]\n", .list [.int (-12), .null, .list []],
    .record [("é", .bool true), ("", .record [])]]

/-- The same list twice, and a text that is no list. -/
def skillRows : List Row :=
  [[("Skills", .list nestedSkills)], [("Skills", .text "go, sql")], [("Skills", .list nestedSkills)]]

theorem nested_skills_are_read_from_sample :
    Schema.infer skillRows 3 = [⟨"Skills", .array,
        [.text "[\"say \\\"hi\\\"; [a,\\\\b]\\n\", [-12, null, []], \x7b\"é\": true, \"\": \x7b\x7d\x7d]",
          .text "go, sql"]⟩] ∧
      .list nestedSkills ∈ Schema.columnCells (skillRows.take Schema.scanLimit) "Skills" ∧
      (Cell.list nestedSkills).IsLossless ∧
      ∃ field ∈ Schema.infer skillRows 3, ∃ sample : String,
        Sample.ofCell field.type (.list nestedSkills) = .text sample ∧
          (Cell.text sample).encodedList? = some nestedSkills ∧
          FieldType.array.coerce (.text sample) = .list nestedSkills := by
  have hcell : .list nestedSkills ∈ Schema.columnCells (skillRows.take Schema.scanLimit) "Skills" :=
    Schema.mem_columnCells.mpr ⟨nofun, _, List.mem_cons_self, rfl⟩
  have hdigits : 12 < 10 ^ Numeral.maxIntegerDigits :=
    calc 12 < 10 ^ 2 := by decide
      _ ≤ 10 ^ Numeral.maxIntegerDigits := Nat.pow_le_pow_right (by decide) (by decide)
  have hlossless : (Cell.list nestedSkills).IsLossless := by
    constructor <;>
      simp [nestedSkills, Cell.parts, Cell.itemParts, Cell.entryParts, Cell.IsExact, Cell.IsShort,
        Cell.HasDistinctNames, hdigits]
  obtain ⟨field, hfield, -, -, sample, hsample, -, -, -, hencoded, hcoerce, -⟩ :=
    array_sample_is_read_as_its_list skillRows 3 hcell hlossless
  exact ⟨by decide +kernel, hcell, hlossless, field, hfield, sample, hsample, hencoded, hcoerce⟩

end SheetQuery
