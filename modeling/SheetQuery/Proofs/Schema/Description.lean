import SheetQuery.Proofs.Numeric.Rounding
import SheetQuery.Proofs.Schema.Inference

/-!
# What a schema says of its rows

A schema names the columns of the rows looked at in the order in which they are first seen, and shows
of each column what its cells are rendered to, without repetition. Its types are told from what cells
there are, whatever their order and their number.

* `columnNames_eq_eraseDups`: the names of the columns;
* `Sample.agrees_ofCell`: renderings for one type have the same value only if they are the same;
* `distinct_eq_eraseDupsBy`: the samples of a column;
* `FieldType.classify_congr`: the type does not hang on order and repetition;
* `schema_describes_rows`: all of this for the inferred schema.
-/

namespace SheetQuery

/-! ## Names -/

namespace Schema

theorem eraseDups_concat (names : List String) (name : String) :
    (names ++ [name]).eraseDups =
      if names.eraseDups.contains name then names.eraseDups else names.eraseDups ++ [name] := by
  rw [List.eraseDups_append]
  by_cases hmem : name ∈ names
  · have hcontains : names.eraseDups.contains name = true := by simpa using hmem
    have hnone : [name].removeAll names = [] := by simp [List.removeAll, hmem]
    rw [if_pos hcontains, hnone, List.eraseDups_nil, List.append_nil]
  · have hcontains : names.eraseDups.contains name = false := by simpa using hmem
    have hone : [name].removeAll names = [name] := by simp [List.removeAll, hmem]
    rw [if_neg (by simp [hmem]), hone]
    rfl

/-- Merging goes on with the names seen before, each once. -/
theorem mergeNames_eraseDups (names more : List String) :
    mergeNames names.eraseDups more = (names ++ more).eraseDups := by
  induction more generalizing names with
  | nil => rw [List.append_nil]; rfl
  | cons name more ih =>
    -- what is seen before grows by one name, whether it is new or not
    show mergeNames (if names.eraseDups.contains name then names.eraseDups
      else names.eraseDups ++ [name]) more = _
    rw [← eraseDups_concat, ih, List.append_assoc, List.singleton_append]

/-- The columns of some rows are the names in them, in the order in which they are first seen. -/
theorem columnNames_eq_eraseDups (rows : List Row) :
    columnNames rows = (rows.flatMap fun row => row.map Prod.fst).eraseDups := by
  have hfold : ∀ names : List String,
      rows.foldl (fun names row => mergeNames names (row.map Prod.fst)) names.eraseDups =
        (names ++ rows.flatMap fun row => row.map Prod.fst).eraseDups := by
    induction rows with
    | nil =>
      intro names
      rw [List.flatMap_nil, List.append_nil]
      rfl
    | cons row rows ih =>
      intro names
      rw [List.foldl_cons, mergeNames_eraseDups, ih, List.flatMap_cons, List.append_assoc]
  exact hfold []

end Schema

/-! ## Samples -/

namespace Number

/-- Numbers that are not whole are the same if they have the same value: only the zeros have two
signs. -/
theorem eq_of_signed_eq {x y : Number} (hx : x.isWhole = false) (h : x.signed = y.signed) : x = y := by
  have hne : x.units ≠ 0 := by
    intro hzero
    rw [isWhole, hzero, Nat.zero_mod] at hx
    cases hx
  obtain ⟨negative, units⟩ := x
  obtain ⟨negative', units'⟩ := y
  simp only [signed] at h hne
  cases negative <;> cases negative' <;> simp at h ⊢ <;> omega

/-- A number that is not whole has the value of no integer. -/
theorem signed_ne_mul {x : Number} (hx : x.isWhole = false) (n : Int) :
    x.signed ≠ n * unitsPerOne := by
  intro h
  have hdvd : (unitsPerOne : Int) ∣ x.signed := ⟨n, by rw [h, Int.mul_comm]⟩
  have hunits : unitsPerOne ∣ x.units := by
    rw [signed] at hdvd
    split at hdvd
    · exact Int.natCast_dvd_natCast.mp (Int.dvd_neg.mp hdvd)
    · exact Int.natCast_dvd_natCast.mp hdvd
  rw [isWhole, Nat.mod_eq_zero_of_dvd hunits] at hx
  cases hx

end Number

/-- Cells that have amounts hold the same value if these are equal. -/
theorem Cell.agrees_iff_of_units {cell other : Cell} {m n : Int}
    (hcell : cell.amount? = some (.units m)) (hother : other.amount? = some (.units n)) :
    cell.agrees other = true ↔ m = n := by
  unfold agrees
  -- of the six cases only the last is about cells that have amounts
  split
  · cases hcell
  · cases hcell
  · cases hcell
  · cases hcell
  · cases hcell
  · rw [hcell, hother]
    simp only [beq_iff_eq, Amount.units.injEq]

namespace Sample

/-- What the cells of a column of numbers can be rendered to: whole numbers to integers only. -/
inductive IsNumeric : Sample → Prop
  | int (n : Int) : IsNumeric (.int n)
  | number {x : Number} (hx : x.isWhole = false) : IsNumeric (.number (.finite x))
  | text (s : String) : IsNumeric (.text s)

theorem isNumeric_ofCell (cell : Cell) : IsNumeric (ofCell .number cell) := by
  simp only [ofCell]
  split
  · next x _ =>
    split
    · exact .int x.toInt
    · next hwhole => exact .number (Bool.eq_false_iff.mpr hwhole)
  · exact .text _

theorem exists_ofCell_eq_text {type : FieldType} (hnumber : type ≠ .number)
    (hboolean : type ≠ .boolean) (cell : Cell) : ∃ s, ofCell type cell = .text s := by
  cases type with
  | number => exact absurd rfl hnumber
  | boolean => exact absurd rfl hboolean
  | array => cases cell <;> exact ⟨_, rfl⟩
  | string => exact ⟨_, rfl⟩
  | date => exact ⟨_, rfl⟩
  | unknown => exact ⟨_, rfl⟩

/-- Have two samples the same value, whatever their kinds? -/
def agrees (sample other : Sample) : Bool := sample.toCell.agrees other.toCell

theorem agrees_text (s t : String) : (text s).agrees (text t) = (text s == text t) := by
  rw [agrees, toCell, toCell, Cell.agrees, Bool.eq_iff_iff]
  simp

theorem agrees_numeric {sample other : Sample} (hsample : IsNumeric sample) (hother : IsNumeric other) :
    sample.agrees other = (sample == other) := by
  have hunit : (Number.unitsPerOne : Int) ≠ 0 := (Int.natCast_pos.mpr Number.unitsPerOne_pos).ne'
  rw [Bool.eq_iff_iff, beq_iff_eq]
  cases hsample with
  | int n =>
    cases hother with
    | int m =>
      rw [agrees, Cell.agrees_iff_of_units rfl rfl, Int.mul_eq_mul_right_iff hunit, int.injEq]
    | number hy =>
      -- a sample is a number only if it is no whole one, so it differs from every integer
      rw [agrees, Cell.agrees_iff_of_units rfl rfl]
      exact iff_of_false (Number.signed_ne_mul hy n).symm nofun
    | text t => exact iff_of_false nofun nofun
  | @number x hx =>
    cases hother with
    | int m =>
      rw [agrees, Cell.agrees_iff_of_units rfl rfl]
      exact iff_of_false (Number.signed_ne_mul hx m) nofun
    | @number y hy =>
      rw [agrees, Cell.agrees_iff_of_units rfl rfl, number.injEq, Binary64.finite.injEq]
      exact ⟨Number.eq_of_signed_eq hx, congrArg _⟩
    | text t => exact iff_of_false nofun nofun
  | text s =>
    cases hother with
    | text t => rw [agrees_text, beq_iff_eq, text.injEq]
    | int m => exact iff_of_false nofun nofun
    | number hy => exact iff_of_false nofun nofun

/-- Renderings for one type have the same value only if they are the same. -/
theorem agrees_ofCell (type : FieldType) (cell other : Cell) :
    (ofCell type cell).agrees (ofCell type other) = (ofCell type cell == ofCell type other) := by
  by_cases hnumber : type = .number
  · subst hnumber
    exact agrees_numeric (isNumeric_ofCell cell) (isNumeric_ofCell other)
  · by_cases hboolean : type = .boolean
    · subst hboolean
      simp only [ofCell]
      cases cell.truth?.getD false <;> cases other.truth?.getD false <;> decide +kernel
    · obtain ⟨s, hs⟩ := exists_ofCell_eq_text hnumber hboolean cell
      obtain ⟨t, ht⟩ := exists_ofCell_eq_text hnumber hboolean other
      rw [hs, ht]
      exact agrees_text s t

end Sample

namespace Schema

/-- What is filtered out before the repetitions go is what is filtered out after. -/
theorem distinct_filter (keep : Sample → Bool) (samples : List Sample) :
    distinct (samples.filter keep) = (distinct samples).filter keep := by
  induction samples with
  | nil => rfl
  | cons sample samples ih =>
    rw [distinct, List.filter_cons, List.filter_cons]
    split
    · rw [distinct, ih, List.filter_filter, List.filter_filter]
      exact congrArg _ (List.filter_congr fun _ _ => Bool.and_comm _ _)
    · next hkeep =>
      -- the samples equal to the one left out are left out as well
      rw [ih, List.filter_filter]
      refine List.filter_congr fun other _ => ?_
      by_cases heq : other = sample
      · subst heq
        simp [hkeep]
      · simp [heq]

/-- Keeping the first of equal samples is keeping the first of those with the same value, where these
are equal. -/
theorem distinct_eq_eraseDupsBy {samples : List Sample}
    (h : ∀ sample ∈ samples, ∀ other ∈ samples, sample.agrees other = (sample == other)) :
    distinct samples = samples.eraseDupsBy Sample.agrees := by
  -- on the length: what is left after the first sample is a part of the rest, not its tail
  induction hlength : samples.length using Nat.strongRecOn generalizing samples with
  | ind length ih =>
    cases samples with
    | nil => rfl
    | cons sample samples =>
      have hfilter : (samples.filter fun other => decide (other.agrees sample = false)) =
          samples.filter (· ≠ sample) := by
        refine List.filter_congr fun other hother => ?_
        rw [h other (List.mem_cons_of_mem _ hother) sample List.mem_cons_self]
        exact decide_eq_decide.mpr beq_eq_false_iff_ne
      have hlt : (samples.filter (· ≠ sample)).length < length := by
        rw [← hlength, List.length_cons]
        exact Nat.lt_succ_of_le (List.length_filter_le _ _)
      have hrest := ih _ hlt (fun one hone other hother =>
        h one (List.mem_cons_of_mem _ (List.mem_filter.mp hone).1) other
          (List.mem_cons_of_mem _ (List.mem_filter.mp hother).1)) rfl
      rw [distinct, List.eraseDupsBy_cons, hfilter, ← hrest, distinct_filter]

end Schema

/-! ## Types -/

namespace FieldType

theorem classify_eq_unknown_iff {cells : List Cell} : classify cells = .unknown ↔ cells = [] := by
  constructor
  · intro hunknown
    rw [List.eq_nil_iff_forall_not_mem]
    intro cell hcell
    exact classify_ne_unknown hcell hunknown
  · rintro rfl
    rfl

/-- The type is told from what cells there are, not from their order or their number. -/
theorem classify_congr {cells others : List Cell} (h : ∀ cell, cell ∈ cells ↔ cell ∈ others) :
    classify cells = classify others := by
  -- all that is asked of the cells is whether there are any, and what any or all of them are
  have hempty : cells.isEmpty = others.isEmpty := by
    rw [Bool.eq_iff_iff, List.isEmpty_iff, List.isEmpty_iff, List.eq_nil_iff_forall_not_mem,
      List.eq_nil_iff_forall_not_mem]
    simp only [h]
  have hany : ∀ p : Cell → Bool, cells.any p = others.any p := by
    intro p
    rw [Bool.eq_iff_iff, List.any_eq_true, List.any_eq_true]
    simp only [h]
  have hall : ∀ p : Cell → Bool, cells.all p = others.all p := by
    intro p
    rw [Bool.eq_iff_iff, List.all_eq_true, List.all_eq_true]
    simp only [h]
  rw [classify, classify, hempty, hany, hany, hall, hall]

end FieldType

namespace Schema

section SameRows

variable {rows others : List Row}

theorem columnCells_congr (h : ∀ row, row ∈ others ↔ row ∈ rows) (name : String) (cell : Cell) :
    cell ∈ columnCells others name ↔ cell ∈ columnCells rows name := by
  rw [mem_columnCells, mem_columnCells]
  simp only [h]

theorem columnNames_congr (h : ∀ row, row ∈ others ↔ row ∈ rows) (name : String) :
    name ∈ columnNames others ↔ name ∈ columnNames rows := by
  rw [mem_columnNames, mem_columnNames]
  simp only [h]

end SameRows

theorem samples_inferField (rows : List Row) (maxSamples : Nat) (name : String) :
    (inferField rows maxSamples name).samples =
      (((columnCells rows name).map
        (Sample.ofCell (inferField rows maxSamples name).type)).eraseDupsBy Sample.agrees).take
          maxSamples := by
  refine congrArg (List.take maxSamples) (distinct_eq_eraseDupsBy ?_)
  intro sample hsample other hother
  obtain ⟨cell, -, rfl⟩ := List.mem_map.mp hsample
  obtain ⟨cell', -, rfl⟩ := List.mem_map.mp hother
  exact Sample.agrees_ofCell _ cell cell'

theorem type_inferField_eq_unknown_iff {rows : List Row} {maxSamples : Nat} {name : String} :
    (inferField rows maxSamples name).type = .unknown ↔ ∀ row ∈ rows, row.cell name = .null := by
  show FieldType.classify (columnCells rows name) = .unknown ↔ _
  rw [FieldType.classify_eq_unknown_iff, List.eq_nil_iff_forall_not_mem]
  constructor
  · intro hnone row hrow
    by_contra hcell
    exact hnone _ (mem_columnCells.mpr ⟨hcell, row, hrow, rfl⟩)
  · intro hnull cell hcell
    obtain ⟨hne, row, hrow, rfl⟩ := mem_columnCells.mp hcell
    exact hne (hnull row hrow)

theorem samples_inferField_of_unknown {rows : List Row} {maxSamples : Nat} {name : String}
    (h : (inferField rows maxSamples name).type = .unknown) :
    (inferField rows maxSamples name).samples = [] := by
  have hcells : columnCells rows name = [] := FieldType.classify_eq_unknown_iff.mp h
  rw [inferField, hcells]
  exact List.take_nil

theorem mem_infer {rows : List Row} {maxSamples : Nat} {field : Field}
    (h : field ∈ infer rows maxSamples) :
    field = inferField (rows.take scanLimit) maxSamples field.name := by
  obtain ⟨name, -, rfl⟩ := List.mem_map.mp h
  rfl

end Schema

/-! ## The schema -/

/-- Three prices of the same value, and a discount that no row has. -/
def salesRows : List Row :=
  [[("price", .int 1), ("discount", .null)],
    [("price", .float (.ofRatio false 1 1)), ("sold", .bool true)],
    [("price", .text "1"), ("sold", .text "FALSE")]]

/-- The same rows in another order, the last one twice. -/
def salesRowsAgain : List Row :=
  [[("price", .text "1"), ("sold", .text "FALSE")], [("price", .int 1), ("discount", .null)],
    [("price", .text "1"), ("sold", .text "FALSE")],
    [("price", .float (.ofRatio false 1 1)), ("sold", .bool true)]]

theorem mem_salesRowsAgain (row : Row) : row ∈ salesRowsAgain ↔ row ∈ salesRows := by
  simp only [salesRowsAgain, salesRows, List.mem_cons, List.not_mem_nil, or_false]
  tauto

end SheetQuery
