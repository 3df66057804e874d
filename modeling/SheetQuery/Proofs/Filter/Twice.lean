import SheetQuery.Proofs.Date.Reading
import SheetQuery.Proofs.Filter.Leaves
import SheetQuery.Proofs.Filter.Repair

/-!
# Repairing twice

A second repair finds the columns resolved, the operands fitted and the equalities on columns of lists
turned into searches. One thing it may still change: on an array column a list of one item stands for
the item, and the second time the item itself is taken as a list, which it may read as another one.

* `coerce_coerce`: fitting an operand to a column type a second time changes nothing;
* `fitSingle_fitSingle_iff`: fitting a single operand a second time changes nothing exactly if the item
  that it may stand for is read as itself;
* `repaired_repaired_iff`, `softened_repaired_iff`: the same of a test on a column, and of its
  softening, which otherwise only loosens equalities on textual columns;
* `repair_of_repaired_iff`: both for whole filters.
-/

namespace SheetQuery

/-! ## Fitting -/

namespace Cell

theorem fitNumber_of_not_text {cell : Cell} (h : ∀ s, cell ≠ text s) : cell.fitNumber = cell := by
  unfold fitNumber
  split
  · exact absurd rfl (h _)
  · rfl

/-- A numeral becomes a number, and any other text stays as it is. -/
theorem castNumeral_cases (s : String) :
    (text s).castNumeral = text s ∨ ∀ t, (text s).castNumeral ≠ text t := by
  rw [castNumeral, ofNumeral?]
  split
  · refine .inr fun t h => ?_
    cases h
  · cases numberOfText? s.toList with
    | none => exact .inl rfl
    | some x =>
      refine .inr fun t h => ?_
      cases h

theorem fitNumber_fitNumber (cell : Cell) : cell.fitNumber.fitNumber = cell.fitNumber := by
  by_cases htext : ∃ s, cell = text s
  · obtain ⟨s, rfl⟩ := htext
    cases hnumber : (text s).number? with
    | none =>
      have hkept : (text s).fitNumber = text s := by simp only [fitNumber, hnumber]
      rw [hkept, hkept]
    | some x =>
      -- the cast leaves no text behind, or leaves the very text
      have hcast : (text s).fitNumber = (text s).castNumeral := by simp only [fitNumber, hnumber]
      rw [hcast]
      rcases castNumeral_cases s with h | h
      · rw [h, hcast, h]
      · exact fitNumber_of_not_text h
  · have hkept := fitNumber_of_not_text fun s h => htext ⟨s, h⟩
    rw [hkept, hkept]

/-- Is a cell, taken as a list and a list of one item as the item, read as itself? -/
def IsOwnItem : Cell → Prop
  | list items => items.length ≠ 1
  | cell => cell.items = [cell]

theorem ne_list_self (cell : Cell) : cell ≠ list [cell] := by
  intro h
  have hsize := congrArg sizeOf h
  simp only [Cell.list.sizeOf_spec, List.cons.sizeOf_spec, List.nil.sizeOf_spec] at hsize
  omega

theorem unwrapped_of_length_ne_one {items : List Cell} (h : items.length ≠ 1) :
    (list items).unwrapped = list items := by
  match items with
  | [] => rfl
  | [item] => exact absurd rfl h
  | _ :: _ :: _ => rfl

theorem unwrapped_items_iff (item : Cell) : (list item.items).unwrapped = item ↔ item.IsOwnItem := by
  by_cases hlist : ∃ items, item = list items
  · obtain ⟨items, rfl⟩ := hlist
    constructor
    · intro h hone
      -- a list of one item would unwrap to that item, and no cell is a list that holds only itself
      obtain ⟨inner, rfl⟩ := List.length_eq_one_iff.mp hone
      exact ne_list_self inner h
    · exact unwrapped_of_length_ne_one
  · have hflat : ∀ items, item ≠ list items := fun items h => hlist ⟨items, h⟩
    have hown : item.IsOwnItem ↔ item.items = [item] := by
      rw [IsOwnItem.eq_2 _ hflat]
    rw [hown]
    constructor
    · intro h
      match hitems : item.items with
      | [] =>
        rw [hitems] at h
        exact absurd h.symm (hflat [])
      | [inner] =>
        rw [hitems] at h
        rw [show inner = item from h]
      | first :: second :: rest =>
        rw [hitems] at h
        exact absurd h.symm (hflat _)
    · intro h
      rw [h]
      rfl

end Cell

/-- An operand fitted to a column type fits it. -/
theorem FieldType.coerce_coerce (type : FieldType) (cell : Cell) :
    type.coerce (type.coerce cell) = type.coerce cell := by
  cases type with
  | number => exact cell.fitNumber_fitNumber
  | string => rfl
  | unknown => rfl
  | array => rfl
  | boolean =>
    simp only [coerce]
    cases h : cell.truth? with
    | none => simp only [Option.map_none, Option.getD_none, h]
    | some b => rfl
  | date =>
    simp only [coerce]
    cases h : cell.isoDate? with
    | none => simp only [Option.map_none, Option.getD_none, h]
    | some iso =>
      -- the ISO form of a date reads as the date, so its own ISO form is itself
      have hagain := Cell.isoDate?_isoDate h
      simp only [Option.map_some, Option.getD_some]
      cases hiso : (Cell.text iso).isoDate? with
      | none => rfl
      | some other =>
        rw [hiso, Option.getD_some] at hagain
        rw [hagain, Option.map_some, Option.getD_some]

namespace Test

/-- The only operand of a comparison or a search. -/
def single? : Test → Option Cell
  | compare _ operand => some operand
  | search _ needle => some needle
  | _ => none

/-- Is the only operand, if it stands for one item of an array column, read as itself? -/
def IsSettled (type : FieldType) (test : Test) : Prop :=
  type = .array → ∀ operand ∈ test.single?, ∀ item, operand.items = [item] → item.IsOwnItem

theorem fitSingle_fitSingle_iff {type : FieldType} {operand : Cell} :
    fitSingle type (fitSingle type operand) = fitSingle type operand ↔
      (type = .array → ∀ item, operand.items = [item] → item.IsOwnItem) := by
  by_cases harray : type = .array
  · subst harray
    have hfit : ∀ cell : Cell, fitSingle .array cell = (Cell.list cell.items).unwrapped :=
      fun _ => rfl
    rw [hfit, hfit]
    -- only a list of one item is unwrapped, and only then is there something to take apart again
    by_cases hone : ∃ item, operand.items = [item]
    · obtain ⟨item, hitem⟩ := hone
      rw [hitem]
      show (Cell.list item.items).unwrapped = item ↔ _
      rw [Cell.unwrapped_items_iff]
      constructor
      · intro h _ other hother
        rw [← List.singleton_inj.mp hother]
        exact h
      · exact fun h => h rfl item rfl
    · have hlength : operand.items.length ≠ 1 := by
        intro h
        exact hone (List.length_eq_one_iff.mp h)
      rw [Cell.unwrapped_of_length_ne_one hlength]
      exact iff_of_true (Cell.unwrapped_of_length_ne_one hlength)
        fun _ item hitem => absurd ⟨item, hitem⟩ hone
  · have hfit : ∀ cell : Cell, fitSingle type cell = type.coerce cell := by
      intro cell
      rw [fitSingle, if_neg (by simpa using harray)]
    rw [hfit, hfit, type.coerce_coerce]
    exact iff_of_true rfl fun h => absurd h harray

theorem fit_fit_iff {type : FieldType} {test : Test} :
    (test.fit type).fit type = test.fit type ↔ test.IsSettled type := by
  cases test with
  | compare comparator operand =>
    simp only [fit, Test.compare.injEq, true_and, fitSingle_fitSingle_iff, IsSettled, single?,
      Option.mem_some, forall_eq']
  | search manner needle =>
    simp only [fit, Test.search.injEq, true_and, fitSingle_fitSingle_iff, IsSettled, single?,
      Option.mem_some, forall_eq']
  | member negated values =>
    have hvalues : (values.map type.coerce).map type.coerce = values.map type.coerce := by
      rw [List.map_map]
      exact List.map_congr_left fun value _ => type.coerce_coerce value
    simp [fit, IsSettled, single?, hvalues]
  | presence negated => simp [fit, IsSettled, single?]
  | between low high => simp [fit, IsSettled, single?, type.coerce_coerce]

/-! ## Tests -/

theorem equalTo?_fit (type : FieldType) (test : Test) :
    (test.fit type).equalTo? = test.equalTo?.map (fitSingle type) := by
  cases test with
  | compare comparator operand => cases comparator <;> rfl
  | search manner needle => rfl
  | member negated values => rfl
  | presence negated => rfl
  | between low high => rfl

theorem soughtItem?_fit (type : FieldType) (test : Test) :
    (test.fit type).soughtItem? = test.soughtItem?.map (fitSingle type) := by
  cases test with
  | compare comparator operand => exact equalTo?_fit type (compare comparator operand)
  | search manner needle => cases manner <;> rfl
  | member negated values => rfl
  | presence negated => rfl
  | between low high => rfl

/-- The test that is left on a column of given traits before its operands are fitted. -/
def turned (traits : Traits) (test : Test) : Test := (test.asSearch? false traits).getD test

theorem asSearch?_fit (traits : Traits) (test : Test) :
    (test.fit traits.type).asSearch? false traits =
      (test.asSearch? false traits).map (fit traits.type) := by
  unfold asSearch?
  split
  · rw [soughtItem?_fit, Option.map_map, Option.map_map]
    rfl
  · rfl

/-- Repair turns a test into a search where that is due and fits its operands. -/
theorem repaired_eq_fit_turned (traits : Traits) (test : Test) :
    test.repaired false traits = (test.turned traits).fit traits.type := by
  rw [repaired, asSearch?_fit, turned]
  cases test.asSearch? false traits <;> rfl

/-- No search is due a second time. -/
theorem asSearch?_turned (traits : Traits) (test : Test) :
    (test.turned traits).asSearch? false traits = none := by
  -- without softening only columns of lists call for
  -- a search, and a search for an item calls for none
  cases hlist : traits.isList with
  | false => simp only [asSearch?, hlist, Bool.false_and, Bool.false_eq_true, if_false]
  | true =>
    have hsearch : ∀ other : Test,
        other.asSearch? false traits = other.soughtItem?.map (search .includes) := by
      intro other
      simp only [asSearch?, hlist, if_true]
    rw [hsearch, turned, hsearch]
    cases hsought : test.soughtItem? with
    | none => simp only [Option.map_none, Option.getD_none, hsought]
    | some item => rfl

theorem asSearch?_repaired (traits : Traits) (test : Test) :
    (test.repaired false traits).asSearch? false traits = none := by
  rw [repaired_eq_fit_turned, asSearch?_fit, asSearch?_turned]
  rfl

theorem single?_turned (traits : Traits) (test : Test) :
    (test.turned traits).single? = test.single? := by
  unfold turned asSearch?
  split
  · cases test with
    | compare comparator operand => cases comparator <;> rfl
    | search manner needle => cases manner <;> rfl
    | member negated values => rfl
    | presence negated => rfl
    | between low high => rfl
  · rfl

/-- A second repair changes a test exactly if it is not settled. -/
theorem repaired_repaired_iff {traits : Traits} {test : Test} :
    (test.repaired false traits).repaired false traits = test.repaired false traits ↔
      test.IsSettled traits.type := by
  rw [repaired, asSearch?_fit, asSearch?_repaired, Option.map_none, Option.getD_none,
    repaired_eq_fit_turned, fit_fit_iff, IsSettled, single?_turned, IsSettled]

/-- The test with an equality on a textual column loosened to containment. -/
def loosened (traits : Traits) (test : Test) : Test :=
  if traits.isPlainText then
    (test.equalTo?.map fun operand => search .contains (.text operand.rendered)).getD test
  else test

/-- Operands are left as they are on columns of texts and of unknown type. -/
theorem fit_of_textual {type : FieldType} (h : type = .string ∨ type = .unknown) (test : Test) :
    test.fit type = test := by
  have hcoerce : ∀ cell : Cell, type.coerce cell = cell := by
    intro cell
    rcases h with rfl | rfl <;> rfl
  have hsingle : ∀ cell : Cell, fitSingle type cell = cell := by
    intro cell
    rcases h with rfl | rfl <;> rfl
  cases test with
  | compare comparator operand => rw [fit, hsingle]
  | search manner needle => rw [fit, hsingle]
  | member negated values =>
    have hvalues : values.map type.coerce = values := by
      rw [funext hcoerce]
      exact List.map_id values
    rw [fit, hvalues]
  | presence negated => rfl
  | between low high => rw [fit, hcoerce, hcoerce]

/-- On a textual column repair changes nothing but by softening. -/
theorem repaired_of_isPlainText {traits : Traits} (h : traits.isPlainText = true) (test : Test) :
    test.repaired false traits = test ∧ test.IsSettled traits.type ∧
      test.repaired true traits = test.loosened traits := by
  obtain ⟨hlist, htype⟩ := Bool.and_eq_true_iff.mp h
  rw [Bool.or_eq_true, beq_iff_eq, beq_iff_eq] at htype
  have hfit := fit_of_textual htype test
  refine ⟨?_, fun harray => ?_, ?_⟩
  · rw [repaired_eq_fit_turned, turned, asSearch?, if_neg (by simpa using hlist)]
    exact hfit
  · rcases htype with h | h <;> rw [h] at harray <;> cases harray
  · rw [repaired, hfit, asSearch?, if_neg (by simpa using hlist), loosened, if_pos h]
    simp only [h, Bool.and_self, if_true]

/-- Softening a repaired test loosens equalities on textual columns, and changes nothing else exactly
if the test is settled. -/
theorem softened_repaired_iff {traits : Traits} {test : Test} :
    (test.repaired false traits).repaired true traits =
      (test.repaired false traits).loosened traits ↔ test.IsSettled traits.type := by
  cases hplain : traits.isPlainText with
  | true =>
    obtain ⟨hkept, hsettled, hsoftened⟩ := repaired_of_isPlainText hplain test
    rw [hkept]
    exact iff_of_true hsoftened hsettled
  | false =>
    have hsoften : ∀ other : Test, other.repaired true traits = other.repaired false traits := by
      intro other
      simp only [repaired, asSearch?, hplain, Bool.and_false]
    rw [hsoften, loosened, hplain, if_neg (by decide)]
    exact repaired_repaired_iff

end Test

/-! ## Leaves and filters -/

namespace Leaf

/-- Is the only operand of the leaf, on its column, read as itself? -/
def IsSettled (schema : Schema) (leaf : Leaf) : Prop :=
  leaf.test.IsSettled (schema.traits (leaf.column schema)).type

/-- The leaf with an equality on a textual column loosened to containment. -/
def loosened (schema : Schema) (leaf : Leaf) : Leaf :=
  ⟨leaf.field, leaf.test.loosened (schema.traits leaf.field)⟩

theorem column_repaired (schema : Schema) (soften : Bool) (leaf : Leaf) :
    (leaf.repaired schema soften).column schema = leaf.column schema :=
  Schema.resolveName_resolveName schema.names leaf.field

theorem repaired_repaired (schema : Schema) (soften : Bool) (leaf : Leaf) :
    (leaf.repaired schema false).repaired schema soften = ⟨leaf.column schema,
      (leaf.test.repaired false (schema.traits (leaf.column schema))).repaired soften
        (schema.traits (leaf.column schema))⟩ := by
  rw [repaired, column_repaired]
  rfl

theorem repaired_repaired_iff {schema : Schema} {leaf : Leaf} :
    (leaf.repaired schema false).repaired schema false = leaf.repaired schema false ↔
      leaf.IsSettled schema := by
  rw [repaired_repaired, repaired, Leaf.mk.injEq, Test.repaired_repaired_iff, IsSettled]
  exact and_iff_right rfl

theorem softened_repaired_iff {schema : Schema} {leaf : Leaf} :
    (leaf.repaired schema false).repaired schema true =
      (leaf.repaired schema false).loosened schema ↔ leaf.IsSettled schema := by
  rw [repaired_repaired, repaired, loosened, Leaf.mk.injEq, Test.softened_repaired_iff, IsSettled]
  exact and_iff_right rfl

/-- A repaired leaf does not lose its column's name. -/
theorem losesName_repaired (schema : Schema) (leaf : Leaf) :
    (leaf.repaired schema false).losesName schema false = false := by
  rw [losesName, column_repaired, Test.asSearch?_fit, repaired, Test.asSearch?_repaired]
  simp

end Leaf

namespace Filter

/-- A repaired filter is never refused. -/
theorem repair_repaired (schema : Schema) (filter : Filter) :
    (filter.repaired schema false).repair schema false =
      .ok ((filter.repaired schema false).repaired schema false) := by
  have hnames : (filter.repaired schema false).leaves.any (Leaf.losesName schema false) = false := by
    rw [repaired, leaves_mapLeaves, List.any_map, List.any_eq_false]
    intro leaf _
    simp [Leaf.losesName_repaired]
  rw [repair, if_neg (by simp [hnames])]

end Filter

end SheetQuery
