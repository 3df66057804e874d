import Mathlib.Algebra.Group.Nat.Defs
import SheetQuery.Proofs.Filter.Scalar
import SheetQuery.Proofs.Filter.Twice
import SheetQuery.Proofs.Query.NumericClause
import SheetQuery.Proofs.Resolution.Means
import SheetQuery.Proofs.Search.Sitting

/-!
# Comparisons with numbers, end to end

A query that compares a column of numbers with a numeral passes every stage of a search without being
bent: its only clause is read as the comparison, the column is known and taken for one of numbers,
repair turns the numeral into the number it stands for, and softening leaves a column of numbers alone.

* `HoldsNumbers.traits_eq`: what repair learns of a column of numbers;
* `HoldsNumbers.repair_compare`: what repair makes of a comparison with such a column;
* `Session.run_of_outcome`: what a search does that resolves its filter;
* `HoldsNumbers.outcome_eq`: the rows that the repaired comparison keeps;
* `comparison_is_answered_exactly`: the rows that the search shows.
-/

namespace SheetQuery

/-! ## Columns of numbers -/

/-- Is a column there in every row, with a number in it? -/
def HoldsNumbers (rows : List Row) (column : String) : Prop :=
  ∀ row ∈ rows, (row.cell column).number?.isSome = true

/-- A number agrees with itself. -/
theorem Cell.agrees_self_of_number? {cell : Cell} {x : Number} (h : cell.number? = some x) :
    cell.agrees cell = true := by
  cases cell with
  | int n => simp only [agrees, amount?, beq_self_eq_true]
  | float y =>
    cases y with
    | finite y => simp only [agrees, amount?, beq_self_eq_true]
    | infinite negative => cases h
    | nan => cases h
  | text s => simp [agrees]
  | _ => cases h

namespace HoldsNumbers

variable {rows : List Row} {column : String}

theorem cell_ne_null (h : HoldsNumbers rows column) {row : Row} (hrow : row ∈ rows) :
    row.cell column ≠ .null := by
  intro hnull
  have hnumber := h row hrow
  rw [hnull] at hnumber
  cases hnumber

theorem mem_names (h : HoldsNumbers rows column) (hne : rows ≠ [])
    (hrows : rows.length ≤ Schema.scanLimit) (samples : Nat) :
    column ∈ (Schema.infer rows samples).names := by
  obtain ⟨row, hrow⟩ := List.exists_mem_of_ne_nil rows hne
  rw [Schema.names_infer, List.take_of_length_le hrows]
  exact Schema.mem_columnNames.mpr
    ⟨row, hrow, Schema.mem_map_fst_of_cell_ne_null (h.cell_ne_null hrow)⟩

/-- Repair takes a column of numbers for one, with one value per cell. -/
theorem traits_eq (h : HoldsNumbers rows column) (hne : rows ≠ [])
    (hrows : rows.length ≤ Schema.scanLimit) (samples : Nat) :
    (Schema.infer rows samples).traits column = ⟨.number, false⟩ := by
  have hmem := h.mem_names hne hrows samples
  rw [Schema.names_infer] at hmem
  have htype : FieldType.classify (Schema.columnCells (rows.take Schema.scanLimit) column) =
      .number := by
    rw [List.take_of_length_le hrows]
    apply FieldType.classify_eq_number
    · obtain ⟨row, hrow⟩ := List.exists_mem_of_ne_nil rows hne
      exact List.ne_nil_of_mem (Schema.mem_columnCells.mpr ⟨h.cell_ne_null hrow, row, hrow, rfl⟩)
    · intro cell hcell
      obtain ⟨-, row, hrow, rfl⟩ := Schema.mem_columnCells.mp hcell
      exact h row hrow
  rw [Schema.traits_infer samples hmem, htype,
    Schema.isListLike_inferField_eq_false samples (.inl htype)]

end HoldsNumbers

/-- The number that a numeral stands for is that of its text. -/
theorem Query.number?_operand {number : List Char} {x : Number}
    (h : (Cell.text (String.ofList number)).number? = some x) :
    ∃ y, (operand number).fitNumber.number? = some y ∧ y.signed = x.signed := by
  obtain ⟨y, hy, hsigned⟩ := Cell.number?_castNumeral h
  obtain ⟨z, hz, hzy⟩ := Cell.exists_number?_fitNumber hy
  exact ⟨z, hz, hzy.trans hsigned⟩

/-- A number passes a comparison with another one exactly if the relation holds of the two. -/
theorem Cell.compares_number {cell operand : Cell} {x y : Number} (comparator : Comparator)
    (hcell : cell.number?.isSome = true) (hoperand : operand.number? = some y)
    (hsigned : y.signed = x.signed) :
    cell.compares comparator operand = cell.number?.any fun z => comparator.holds z x := by
  obtain ⟨z, hz⟩ := Option.isSome_iff_exists.mp hcell
  rw [compares, hz, hoperand]
  exact comparator.holds_congr_signed z hsigned

/-! ## The search -/

section

variable {samples : Nat} {store : Store} {entity : Entity} {text : String}

/-- A query on a sheet with rows and columns is accepted as it is, without its outer blanks. -/
theorem Search.check_eq (htext : Text.trim text.toList ≠ []) (hrows : store.rows entity ≠ [])
    (hschema : Schema.infer (store.rows entity) samples ≠ []) :
    Search.check samples store (.text entity.name) text =
      .ok ⟨entity, Text.trim text.toList, store.rows entity,
        Schema.infer (store.rows entity) samples⟩ := by
  have hentity : Entity.require (.text entity.name) = .ok entity := by
    rw [Entity.require, Entity.ofCell?, Entity.ofName?_name]
  have htext' : (Text.trim text.toList).isEmpty = false := List.isEmpty_eq_false_iff.mpr htext
  have hrows' : (store.rows entity).isEmpty = false := List.isEmpty_eq_false_iff.mpr hrows
  have hschema' : (Schema.infer (store.rows entity) samples).isEmpty = false :=
    List.isEmpty_eq_false_iff.mpr hschema
  simp [Search.check, hentity, htext', hrows', hschema', bind, Except.bind, pure, Except.pure]

/-- A search that resolves its filter, and does not find it in the cache, ends with the outcome of the
filter, and shows its rows without touching the base. -/
theorem Session.run_of_outcome {session : Session} {desk : Desk} {entity : Cell} {search : Search}
    {resolved : Resolved} {outcome : Outcome}
    (hcheck : Search.check samples desk.store entity text = .ok search)
    (hread : (desk.cache.read search.key).1 = none) (hresolution : search.resolution = .ok resolved)
    (houtcome : search.outcome (session.lastSeq + 1) resolved = .ok outcome) :
    ∃ session' desk', run (none : Option (Service Unit)) samples session desk entity text () =
        (some (.ok outcome), session', desk', ()) ∧
      desk'.store.rows = desk.store.rows ∧
      desk'.store.visible outcome.entity = outcome.rows := by
  have hconclude : ∀ (shown : Desk) (preview : Option Outcome),
      conclude shown ⟨search, session.lastSeq + 1, preview⟩ search.resolution =
        (.ok outcome,
          (shown.remember search.key ⟨outcome.filter, resolved.source⟩).present outcome) := by
    intro shown preview
    simp only [conclude, hresolution, houtcome]
  -- a preview changes the view only, so the search ends alike with one and without
  have hend : ∀ (shown : Desk) (preview : Option Outcome), shown.store.rows = desk.store.rows →
      ∃ session' desk', ((session.register search.entity).awaiting
          ⟨search, session.lastSeq + 1, preview⟩).complete (none : Option (Service Unit)) shown
            ⟨search, session.lastSeq + 1, preview⟩ () = (some (.ok outcome), session', desk', ()) ∧
        desk'.store.rows = desk.store.rows ∧
        desk'.store.visible outcome.entity = outcome.rows := by
    intro shown preview hshown
    have hcurrent : ((session.register search.entity).awaiting
        ⟨search, session.lastSeq + 1, preview⟩).isCurrent
          ⟨search, session.lastSeq + 1, preview⟩ = true := by
      simp [isCurrent, awaiting, register]
    rw [Sitting.complete_of_isCurrent hcurrent, hconclude]
    refine ⟨_, _, rfl, hshown, ?_⟩
    simp [Desk.present, Desk.remember, Store.setFiltered, Store.visible]
  have hseq : (session.register search.entity).lastSeq = session.lastSeq + 1 := rfl
  simp only [run, start, hcheck, enter, hread, await, Search.preview?_eq, hseq]
  cases hhint : search.hinted? (session.lastSeq + 1) with
  | none => exact hend _ none rfl
  | some hint => exact hend _ (some hint) rfl

end

/-! ## The answer -/

section

variable {rows : List Row} {column : String}

/-- Repair, softening or not, leaves a comparison with a column of numbers one, with a number. -/
theorem HoldsNumbers.repair_compare (h : HoldsNumbers rows column) (hne : rows ≠ [])
    (hrows : rows.length ≤ Schema.scanLimit) (hname : column ≠ "") (samples : Nat) (soften : Bool)
    (comparator : Comparator) (operand : Cell) :
    (Filter.leaf ⟨column, .compare comparator operand⟩).repair (Schema.infer rows samples) soften =
      .ok (.leaf ⟨column, .compare comparator operand.fitNumber⟩) := by
  rw [Filter.repair_leaf (h.mem_names hne hrows samples) hname, h.traits_eq hne hrows,
    Test.repaired_compare_number]

/-- The resolved comparison finds the rows whose number stands in the relation, be there any or not. -/
theorem HoldsNumbers.outcome_eq (h : HoldsNumbers rows column) (hne : rows ≠ [])
    (hrows : rows.length ≤ Schema.scanLimit) (hname : column ≠ "") (search : Search)
    (hbase : search.base = rows) {samples : Nat}
    (hschema : search.schema = Schema.infer rows samples)
    (comparator : Comparator) {operand : Cell} {x y : Number}
    (hy : operand.fitNumber.number? = some y) (hsigned : y.signed = x.signed) (source : Source)
    (seq : Nat) :
    search.outcome seq ⟨.leaf ⟨column, .compare comparator operand.fitNumber⟩, source⟩ =
      .ok ⟨search.entity, rows.filter fun row =>
          (row.cell column).number?.any fun z => comparator.holds z x,
        .leaf ⟨column, .compare comparator operand.fitNumber⟩, .resolved source, seq, false⟩ := by
  have hplain : (Filter.leaf ⟨column, .compare comparator operand.fitNumber⟩).IsPlain := by
    intro leaf hleaf
    rw [List.mem_singleton.mp hleaf]
    rfl
  have hkeeps : search.keeps (.leaf ⟨column, .compare comparator operand.fitNumber⟩) =
      rows.filter fun row => (row.cell column).number?.any fun z => comparator.holds z x := by
    rw [Search.keeps, hbase]
    apply List.filter_congr
    intro row hrow
    rw [Filter.holds, Test.holds]
    exact Cell.compares_number comparator (h row hrow) hy hsigned
  -- softening leaves the comparison as it is, so without hits there is no second chance
  have hsoftened : search.softened? (.leaf ⟨column, .compare comparator operand.fitNumber⟩) =
      .ok none := by
    have hagrees : (Filter.leaf ⟨column, .compare comparator operand.fitNumber⟩).agrees
        (.leaf ⟨column, .compare comparator operand.fitNumber⟩) = true := by
      simp [Filter.agrees, Leaf.agrees, Test.agrees, Cell.agrees_self_of_number? hy]
    rw [Search.softened?, hschema, h.repair_compare hne hrows hname samples true,
      Cell.fitNumber_fitNumber]
    simp [hagrees]
  rw [Search.outcome_eq hplain, hkeeps]
  split
  · next hnone =>
    rw [hsoftened, hnone]
    rfl
  · rfl

end

/-- **Comparisons with numbers are answered exactly.** Let every row of a sheet, of at most as many as
are scanned for its schema, have a number under a column, and let a phrase mean that column: a set
phrase, or a single word that is no filler. Let the query `<phrase> <comparator> <numeral>` be searched
for without a service and with an empty cache. Then:

* the filter is read from the clauses of the query and is not softened;
* the rows are those of the base, in their order, whose number stands in the comparator's relation to
  that of the numeral;
* they are shown, and the base rows stay. -/
theorem comparison_is_answered_exactly (samples : Nat) (session : Session) (desk : Desk)
    (hcache : desk.cache.entries = []) (entity : Entity) (hne : desk.store.rows entity ≠ [])
    (hrows : (desk.store.rows entity).length ≤ Schema.scanLimit) (column : String)
    (hcolumn : HoldsNumbers (desk.store.rows entity) column) (phrase : List Char)
    (hphrase : Query.IsFieldPhrase entity phrase)
    (hmeans : Vocabulary.columnOf? entity (Schema.infer (desk.store.rows entity) samples).names
      phrase = some column) (keyword : String) (comparator : Comparator)
    (hkeyword : (keyword, comparator) ∈ Query.comparatorSpellings) (numeral : List Char)
    (hnumeral : Query.IsNumeral numeral) (x : Number)
    (hx : (Cell.text (String.ofList numeral)).number? = some x) :
    ∃ outcome session' desk',
      session.run (none : Option (Service Unit)) samples desk (.text entity.name)
          (String.ofList (Query.comparisonText phrase keyword.toList numeral)) () =
        (some (.ok outcome), session', desk', ()) ∧
      outcome.origin = .resolved .deterministic ∧ outcome.softened = false ∧
      (outcome.rows = (desk.store.rows entity).filter fun row =>
        (row.cell column).number?.any fun y => comparator.holds y x) ∧
      desk'.store.visible entity = outcome.rows ∧ desk'.store.rows = desk.store.rows := by
  let query := Query.comparisonText phrase keyword.toList numeral
  let rows := desk.store.rows entity
  have htrim : Text.trim query = query := Query.trim_comparison hphrase.isSteady hnumeral
  have hquery : query ≠ [] := by simp [query, Query.comparisonText]
  have hfilter := Query.filter?_comparison hphrase hnumeral hkeyword hmeans
  have hmem := hcolumn.mem_names hne hrows samples
  -- a query never asks for the column without a name
  have hname : column ≠ "" := by
    have hcolumns := Query.column_ne_empty_of_filter? hfilter _ List.mem_cons_self
    rwa [Leaf.column, Schema.resolveName_of_mem hmem] at hcolumns
  obtain ⟨y, hy, hsigned⟩ := Query.number?_operand hx
  let search : Search := ⟨entity, query, rows, Schema.infer rows samples⟩
  have hcheck : Search.check samples desk.store (.text entity.name) (String.ofList query) =
      .ok search := by
    have hsame : Text.trim (String.ofList query).toList = query := by
      rw [String.toList_ofList, htrim]
    have hschema : Schema.infer rows samples ≠ [] := by
      intro hnil
      rw [Schema.names, hnil] at hmem
      cases hmem
    rw [Search.check_eq (hsame.symm ▸ hquery) hne hschema, hsame]
  have hresolution : search.resolution = .ok ⟨.leaf ⟨column, .compare comparator
      (Query.operand numeral).fitNumber⟩, .deterministic⟩ := by
    have hrepaired := Filter.repair_eq_ok (hcolumn.repair_compare hne hrows hname samples false
      comparator (Query.operand numeral))
    rw [Search.resolution, Resolution.resolve_eq none entity _ (htrim.symm ▸ hquery), htrim, hfilter,
      hrepaired]
  have houtcome := hcolumn.outcome_eq hne hrows hname search rfl rfl comparator hy hsigned
    .deterministic (session.lastSeq + 1)
  have hread : (desk.cache.read search.key).1 = none := by
    rw [Cache.read, hcache]
    rfl
  obtain ⟨session', desk', hrun, hbase, hshown⟩ :=
    Session.run_of_outcome hcheck hread hresolution houtcome
  exact ⟨_, session', desk', hrun, rfl, rfl, rfl, hshown, hbase⟩

/-- Three workers with their loads, written in three ways. -/
def loadedWorkers : List Row :=
  [[("MaxLoadPerPhase", .int 3)], [("MaxLoadPerPhase", .text " 2.5 ")],
    [("MaxLoadPerPhase", .text "1e-3")]]

/-- A set phrase of several words, a comparator in words and a numeral with a fraction. -/
theorem workers_with_load_at_least :
    let desk : Desk := ⟨Store.empty.setRows .workers loadedWorkers, .empty 256⟩
    let phrase := "max load per phase".toList
    HoldsNumbers loadedWorkers "MaxLoadPerPhase" ∧ Query.IsFieldPhrase .workers phrase ∧
    Vocabulary.columnOf? .workers (Schema.infer loadedWorkers 4).names phrase =
      some "MaxLoadPerPhase" ∧
    ("at least", .ge) ∈ Query.comparatorSpellings ∧ Query.IsNumeral "2.50".toList ∧
    ∃ outcome session' desk',
      Session.new.run (none : Option (Service Unit)) 4 desk (.text "workers")
        "max load per phase at least 2.50" () = (some (.ok outcome), session', desk', ()) ∧
      outcome.origin = .resolved .deterministic ∧ outcome.softened = false ∧
      outcome.rows = [[("MaxLoadPerPhase", .int 3)], [("MaxLoadPerPhase", .text " 2.5 ")]] := by
  intro desk phrase
  have hcolumn : HoldsNumbers loadedWorkers "MaxLoadPerPhase" := by
    unfold HoldsNumbers
    decide +kernel
  have hphrase : Query.IsFieldPhrase .workers phrase := .inl (by decide)
  have hmeans : Vocabulary.columnOf? .workers (Schema.infer loadedWorkers 4).names phrase =
      some "MaxLoadPerPhase" := by
    decide +kernel
  have hkeyword : ("at least", Comparator.ge) ∈ Query.comparatorSpellings := by decide
  have hnumeral : Query.IsNumeral "2.50".toList := by
    unfold Query.IsNumeral
    decide +kernel
  have hx : (Cell.text (String.ofList "2.50".toList)).number? = some ⟨false, 5 * 2 ^ 1073⟩ := by
    decide +kernel
  obtain ⟨outcome, session', desk', hrun, horigin, hsoftened, hrows, -, -⟩ :=
    comparison_is_answered_exactly 4 .new desk rfl .workers (by decide) (by decide)
      "MaxLoadPerPhase" hcolumn phrase hphrase hmeans "at least" .ge hkeyword "2.50".toList hnumeral
      ⟨false, 5 * 2 ^ 1073⟩ hx
  refine ⟨hcolumn, hphrase, hmeans, hkeyword, hnumeral, outcome, session', desk', hrun, horigin,
    hsoftened, ?_⟩
  have hkept : ∀ row ∈ loadedWorkers, ((row.cell "MaxLoadPerPhase").number?.any fun y =>
      Comparator.ge.holds y ⟨false, 5 * 2 ^ 1073⟩) =
        !(row.cell "MaxLoadPerPhase").rendered == "1e-3" := by
    decide +kernel
  rw [hrows]
  exact (List.filter_congr hkept).trans rfl

end SheetQuery
