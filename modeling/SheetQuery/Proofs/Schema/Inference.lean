import SheetQuery.Filter.Repair
import SheetQuery.Proofs.Cell.Numbers
import SheetQuery.Schema.Inference

/-!
# Laws of schema inference

* `mem_columnNames`, `names_infer`, `infer_eq_nil_iff`: a schema has the columns of its rows;
* `traits_infer`: what repair learns of such a column is its inferred field;
* `isListLike_eq_false_of_classify`, `isSome_number?_of_classify`, `isSome_truth?_of_classify`: what
  the type of a column says of each of its cells;
* `classify_eq_number`: cells that are all numbers make a column of numbers;
* `isListLike_inferField_eq_false`: columns of numbers and of truth values have one value per cell.
-/

namespace SheetQuery

namespace Schema

/-! ## Column names -/

theorem mem_mergeNames {names more : List String} {name : String} :
    name ∈ mergeNames names more ↔ name ∈ names ∨ name ∈ more := by
  induction more generalizing names with
  | nil => simp [mergeNames]
  | cons other more ih =>
    change name ∈ mergeNames (if names.contains other then names else names ++ [other]) more ↔ _
    rw [ih, List.mem_cons]
    split
    · next h =>
      rw [List.contains_iff_mem] at h
      constructor
      · rintro (hmem | hmem)
        · exact .inl hmem
        · exact .inr (.inr hmem)
      · rintro (hmem | rfl | hmem)
        · exact .inl hmem
        · exact .inl h
        · exact .inr hmem
    · rw [List.mem_append, List.mem_singleton, or_assoc]

theorem mem_foldl_mergeNames {rows : List Row} {names : List String} {name : String} :
    name ∈ rows.foldl (fun names row => mergeNames names (row.map Prod.fst)) names ↔
      name ∈ names ∨ ∃ row ∈ rows, name ∈ row.map Prod.fst := by
  induction rows generalizing names with
  | nil => simp
  | cons row rows ih =>
    rw [List.foldl_cons, ih, mem_mergeNames, or_assoc, List.exists_mem_cons_iff]

/-- The columns of some rows are the names in any of them. -/
theorem mem_columnNames {rows : List Row} {name : String} :
    name ∈ columnNames rows ↔ ∃ row ∈ rows, name ∈ row.map Prod.fst := by
  rw [columnNames, mem_foldl_mergeNames]
  simp

/-- A cell that is not null stands under a name of its row. -/
theorem mem_map_fst_of_cell_ne_null {row : Row} {name : String} (h : row.cell name ≠ .null) :
    name ∈ row.map Prod.fst := by
  induction row with
  | nil => exact absurd rfl h
  | cons entry row ih =>
    rcases Decidable.em (name = entry.1) with rfl | hne
    · simp
    · refine List.mem_cons_of_mem _ (ih ?_)
      have hlookup : List.lookup name (entry :: row) = List.lookup name row := by
        rw [List.lookup_cons, beq_eq_false_iff_ne.mpr hne]
      rwa [Row.cell, Entries.get?, hlookup] at h

theorem mem_columnCells {rows : List Row} {name : String} {cell : Cell} :
    cell ∈ columnCells rows name ↔ cell ≠ .null ∧ ∃ row ∈ rows, row.cell name = cell := by
  rw [columnCells, List.mem_filter, List.mem_map, and_comm]
  cases cell <;> simp

/-! ## Fields -/

theorem names_infer (rows : List Row) (maxSamples : Nat) :
    (infer rows maxSamples).names = columnNames (rows.take scanLimit) := by
  rw [names, infer, List.map_map]
  exact List.map_id _

/-- A schema without columns is that of rows without cells. -/
theorem infer_eq_nil_iff (maxSamples : Nat) {rows : List Row} :
    infer rows maxSamples = [] ↔ ∀ row ∈ rows.take scanLimit, row = [] := by
  have hnames := names_infer rows maxSamples
  have hinfer : infer rows maxSamples = [] ↔
      columnNames (rows.take scanLimit) = [] := by
    rw [← hnames, names, List.map_eq_nil_iff]
  rw [hinfer, List.eq_nil_iff_forall_not_mem]
  constructor
  · intro h row hrow
    rw [← List.map_eq_nil_iff (f := Prod.fst), List.eq_nil_iff_forall_not_mem]
    exact fun name hname => h name (mem_columnNames.mpr ⟨row, hrow, hname⟩)
  · intro h name hname
    obtain ⟨row, hrow, hmem⟩ := mem_columnNames.mp hname
    rw [h row hrow] at hmem
    cases hmem

theorem find?_infer {rows : List Row} {name : String} (maxSamples : Nat)
    (h : name ∈ columnNames (rows.take scanLimit)) :
    (infer rows maxSamples).find? name =
      some (inferField (rows.take scanLimit) maxSamples name) := by
  cases hfind : (infer rows maxSamples).find? name with
  | none =>
    rw [find?, List.find?_eq_none] at hfind
    have hmem : inferField (rows.take scanLimit) maxSamples name ∈ infer rows maxSamples :=
      List.mem_map_of_mem h
    exact absurd (hfind _ (List.mem_reverse.mpr hmem)) (by simp [inferField])
  | some field =>
    rw [find?] at hfind
    obtain ⟨other, -, rfl⟩ := List.mem_map.mp (List.mem_reverse.mp (List.mem_of_find?_eq_some hfind))
    have hname : (inferField (rows.take scanLimit) maxSamples other).name = name := by
      simpa using List.find?_some hfind
    rw [← hname]
    rfl

/-- What repair learns of a column of the rows is its inferred field. -/
theorem traits_infer {rows : List Row} {name : String} (maxSamples : Nat)
    (h : name ∈ columnNames (rows.take scanLimit)) :
    (infer rows maxSamples).traits name =
      ⟨FieldType.classify (columnCells (rows.take scanLimit) name),
        (inferField (rows.take scanLimit) maxSamples name).isListLike⟩ := by
  rw [traits, find?_infer maxSamples h]
  rfl

theorem mem_of_mem_distinct {samples : List Sample} {sample : Sample}
    (h : sample ∈ distinct samples) : sample ∈ samples := by
  induction samples with
  | nil => exact h
  | cons first samples ih =>
    rw [distinct, List.mem_cons] at h
    rcases h with rfl | h
    · exact List.mem_cons_self
    · exact List.mem_cons_of_mem _ (ih (List.mem_of_mem_filter h))

end Schema

/-! ## Types -/

namespace FieldType

variable {cells : List Cell} {cell : Cell}

theorem classify_ne_unknown (h : cell ∈ cells) : classify cells ≠ .unknown := by
  have hne : cells.isEmpty = false := by
    rw [List.isEmpty_eq_false_iff]
    exact List.ne_nil_of_mem h
  unfold classify
  rw [if_neg (by simp [hne])]
  split
  · simp
  · split
    · simp
    · split
      · simp
      · split <;> simp

/-- Only array columns have list-like cells. -/
theorem isListLike_eq_false_of_classify (h : cell ∈ cells) (hne : classify cells ≠ .array) :
    cell.isListLike = false := by
  rw [Bool.eq_false_iff]
  intro hlist
  apply hne
  have hempty : cells.isEmpty = false := by
    rw [List.isEmpty_eq_false_iff]
    exact List.ne_nil_of_mem h
  have hany : cells.any Cell.isListLike = true := List.any_eq_true.mpr ⟨cell, h, hlist⟩
  simp [classify, hempty, hany]

/-- All cells of a number column are numbers. -/
theorem isSome_number?_of_classify (h : cell ∈ cells) (htype : classify cells = .number) :
    cell.number?.isSome = true := by
  unfold classify at htype
  split at htype
  · cases htype
  · split at htype
    · cases htype
    · split at htype
      · next hall => exact List.all_eq_true.mp hall cell h
      · split at htype
        · cases htype
        · split at htype <;> cases htype

/-- All cells of a boolean column are truth values. -/
theorem isSome_truth?_of_classify (h : cell ∈ cells) (htype : classify cells = .boolean) :
    cell.truth?.isSome = true := by
  unfold classify at htype
  split at htype
  · cases htype
  · split at htype
    · cases htype
    · split at htype
      · cases htype
      · split at htype
        · next hall => exact List.all_eq_true.mp hall cell h
        · split at htype <;> cases htype

/-- A column of numbers is taken for one. -/
theorem classify_eq_number (hne : cells ≠ []) (h : ∀ cell ∈ cells, cell.number?.isSome = true) :
    classify cells = .number := by
  have hempty : cells.isEmpty = false := List.isEmpty_eq_false_iff.mpr hne
  have hlist : cells.any Cell.isListLike = false := by
    rw [List.any_eq_false]
    intro cell hcell
    obtain ⟨x, hx⟩ := Option.isSome_iff_exists.mp (h cell hcell)
    simp [Cell.isListLike_eq_false_of_number? hx]
  rw [classify, hempty, hlist, List.all_eq_true.mpr h]
  rfl

end FieldType

theorem Sample.not_mem_render_of_bracket {type : FieldType} {cell : Cell}
    (htype : type = .number ∧ cell.number?.isSome = true ∨ type = .boolean) :
    '[' ∉ (Sample.ofCell type cell).toCell.render := by
  rcases htype with ⟨rfl, hnumber⟩ | rfl
  · obtain ⟨x, hx⟩ := Option.isSome_iff_exists.mp hnumber
    simp only [ofCell, hx]
    split
    · simpa [toCell] using not_mem_intChars_of_bracket x.toInt
    · next hwhole => simpa [toCell, Cell.render, hwhole] using SheetQuery.not_mem_render_of_bracket x
  · simp only [ofCell, toCell]
    cases cell.truth?.getD false <;> simp [Cell.render]

theorem Cell.isBracketed_trim_eq_false {cs : List Char} (h : '[' ∉ cs) :
    isBracketed (Text.trim cs) = false := by
  rw [Bool.eq_false_iff]
  intro hbracketed
  simp only [isBracketed, Bool.and_eq_true, beq_iff_eq] at hbracketed
  exact h (Text.mem_of_mem_trim (List.mem_of_mem_head? hbracketed.1))

/-- Columns of numbers and of truth values have one value per cell. -/
theorem Schema.isListLike_inferField_eq_false {rows : List Row} {name : String} (maxSamples : Nat)
    (h : FieldType.classify (columnCells rows name) = .number ∨
      FieldType.classify (columnCells rows name) = .boolean) :
    (inferField rows maxSamples name).isListLike = false := by
  have hsample : ∀ sample ∈ (inferField rows maxSamples name).samples,
      '[' ∉ sample.toCell.render := by
    intro sample hmem
    obtain ⟨cell, hcell, rfl⟩ := List.mem_map.mp (mem_of_mem_distinct (List.mem_of_mem_take hmem))
    apply Sample.not_mem_render_of_bracket
    rcases h with h | h
    · exact .inl ⟨h, FieldType.isSome_number?_of_classify hcell h⟩
    · exact .inr h
  have htype : (inferField rows maxSamples name).type = .number ∨
      (inferField rows maxSamples name).type = .boolean := h
  have harray : ((inferField rows maxSamples name).type == .array) = false := by
    rcases htype with htype | htype <;> rw [htype] <;> rfl
  have hstring : ((inferField rows maxSamples name).type == .string) = false := by
    rcases htype with htype | htype <;> rw [htype] <;> rfl
  rw [Field.isListLike, harray, Bool.false_or, List.any_eq_false]
  intro sample hmem
  simp [Cell.isBracketed_trim_eq_false (hsample sample hmem), hstring]

end SheetQuery
