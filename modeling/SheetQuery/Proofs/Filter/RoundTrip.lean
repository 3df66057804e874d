import SheetQuery.Proofs.Filter.Grammar
import SheetQuery.Proofs.Filter.Leaves
import SheetQuery.Proofs.Filter.Prune
import SheetQuery.Proofs.Filter.Repair
import SheetQuery.Proofs.Schema.Naming

/-!
# Filters that are read back from what is sent

A filter is read back from its record if its leaves name their columns, and otherwise its record is
not read at all. Filters that have been read have named leaves, and as long as every column of the
schema has a name, repair and pruning keep it so.

* `exists_decode_encode_iff`: the filters of which the records are read;
* `column_ne_empty_of_named`, `field_ne_empty_repaired`, `field_ne_empty_of_prune?`: leaves that stay
  named;
* `wire_form_is_read_back`: the round trip, before and after repair and pruning.
-/

namespace SheetQuery

theorem Test.not_isComposite_operator (test : Test) : ¬ test.operator.IsComposite := by
  cases test <;> simp [Test.operator, Operator.IsComposite]

namespace Filter

/-! ## Records of filters -/

theorem field_ne_empty_of_decode_leaf {l : Leaf} {found : Filter}
    (h : decode l.encode = .ok found) : l.field ≠ "" := by
  have hop : Operator.check l.encode (("field", .text l.field) :: ("op", .text l.test.op) ::
      l.test.operands) = .ok l.test.operator := by
    apply check_of_op
    rw [Test.name_operator]
    rfl
  obtain ⟨again, hcheck, -⟩ :=
    (readsAs_leaf_iff l.test.not_isComposite_operator).mp ((decode_of_check hop).mp h)
  obtain ⟨hfield, hne, -⟩ := Leaf.check_eq_ok_iff.mp hcheck
  have hsame : l.field = again.field := Cell.text.inj (Option.some.inj hfield)
  rwa [hsame]

mutual

/-- A filter of which the record is read has named leaves. -/
theorem field_ne_empty_of_decode_encode : ∀ {filter found : Filter},
    decode filter.encode = .ok found → ∀ leaf ∈ filter.leaves, leaf.field ≠ ""
  | leaf l, found, h => by
    rw [leaves, List.forall_mem_singleton]
    exact field_ne_empty_of_decode_leaf h
  | conj children, found, h => by
    obtain ⟨again, hmany, -⟩ :=
      readsAs_conj_iff.mp ((decode_of_check (check_of_op .conj rfl)).mp h)
    exact field_ne_empty_of_decodeAll (((children_of_items rfl).1 again).mp hmany)
  | disj children, found, h => by
    obtain ⟨again, hmany, -⟩ :=
      readsAs_disj_iff.mp ((decode_of_check (check_of_op .disj rfl)).mp h)
    exact field_ne_empty_of_decodeAll (((children_of_items rfl).1 again).mp hmany)
  | neg child, found, h => by
    obtain ⟨again, hone, -⟩ :=
      readsAs_neg_iff.mp ((decode_of_check (check_of_op .neg rfl)).mp h)
    obtain ⟨first, rest, -, hfirst, -⟩ :=
      decodeAll_cons_eq_ok_iff.mp (((children_of_items rfl).2 again).mp hone)
    rw [leaves]
    exact field_ne_empty_of_decode_encode hfirst

theorem field_ne_empty_of_decodeAll : ∀ {children found : List Filter} {index : Nat},
    decodeAll index (encodeAll children) = .ok found →
    ∀ leaf ∈ leavesAll children, leaf.field ≠ ""
  | [], _, _, _ => nofun
  | child :: children, found, index, h => by
    obtain ⟨first, rest, -, hfirst, hrest⟩ := decodeAll_cons_eq_ok_iff.mp h
    rw [leavesAll, List.forall_mem_append]
    exact ⟨field_ne_empty_of_decode_encode hfirst, field_ne_empty_of_decodeAll hrest⟩

end

/-- The record of a filter is read exactly if all its leaves name their columns. -/
theorem exists_decode_encode_iff {filter : Filter} :
    (∃ found, decode filter.encode = .ok found) ↔ ∀ leaf ∈ filter.leaves, leaf.field ≠ "" :=
  ⟨fun ⟨_, h⟩ => field_ne_empty_of_decode_encode h, fun h => ⟨filter, decode_encode h⟩⟩

/-! ## Repair and pruning -/

/-- Where every column has a name, leaves that name theirs are about a column with a name. -/
theorem column_ne_empty_of_named {schema : Schema} {filter : Filter} (hnamed : "" ∉ schema.names)
    (hfields : ∀ leaf ∈ filter.leaves, leaf.field ≠ "") :
    ∀ leaf ∈ filter.leaves, leaf.column schema ≠ "" :=
  fun leaf hleaf => Schema.resolveName_ne_empty_of_not_mem hnamed (hfields leaf hleaf)

theorem field_ne_empty_repaired {schema : Schema} {filter : Filter}
    (h : ∀ leaf ∈ filter.leaves, leaf.column schema ≠ "") (soften : Bool) :
    ∀ leaf ∈ (filter.repaired schema soften).leaves, leaf.field ≠ "" := by
  intro leaf hleaf
  rw [repaired, leaves_mapLeaves] at hleaf
  obtain ⟨original, horiginal, rfl⟩ := List.mem_map.mp hleaf
  exact h original horiginal

theorem field_ne_empty_of_prune? {columns : List String} {filter kept : Filter}
    (hfields : ∀ leaf ∈ filter.leaves, leaf.field ≠ "") (h : filter.prune? columns = some kept) :
    ∀ leaf ∈ kept.leaves, leaf.field ≠ "" := by
  rw [leaves_prune? h]
  exact fun leaf hleaf => hfields leaf (List.mem_filter.mp hleaf).1

/-- **The wire form is read back.** A filter that has been read is read back from its record. If no
column of the schema is nameless, it can be repaired, with or without softening; the repaired filter
is read back from its record too, and so is whatever pruning to any columns leaves of it. -/
theorem wire_form_is_read_back {cell : Cell} {filter : Filter} (h : decode cell = .ok filter) :
    decode filter.encode = .ok filter ∧
      ∀ schema : Schema, "" ∉ schema.names → ∀ soften,
        ∃ fixed, filter.repair schema soften = .ok fixed ∧ decode fixed.encode = .ok fixed ∧
          ∀ columns kept, fixed.prune? columns = some kept → decode kept.encode = .ok kept := by
  have hfields := field_ne_empty_of_decode h
  refine ⟨decode_encode hfields, fun schema hnamed soften => ?_⟩
  have hcolumns := column_ne_empty_of_named hnamed hfields
  have hfixed := field_ne_empty_repaired hcolumns soften
  exact ⟨_, repair_eq hcolumns soften, decode_encode hfixed,
    fun columns kept hkept => decode_encode (field_ne_empty_of_prune? hfixed hkept)⟩

/-- A range without an upper bound beside a set with a null in it, and what repair makes of them. -/
theorem open_range_is_read_back :
    let range := Cell.record
      [("op", .text "between"), ("field", .text "load"), ("from", .text "2"), ("to", .null)]
    let set := Cell.record
      [("op", .text "in"), ("field", .text "tags"), ("values", .list [.null, .text "a,b"])]
    let cell := Cell.record [("op", .text "or"), ("children", .list [range, set])]
    let schema : Schema := [⟨"Load", .number, []⟩, ⟨"Tags", .array, []⟩]
    ∃ filter fixed kept, decode cell = .ok filter ∧ filter.repair schema true = .ok fixed ∧
      fixed.prune? ["Load"] = some kept ∧ decode filter.encode = .ok filter ∧
        decode fixed.encode = .ok fixed ∧ decode kept.encode = .ok kept := by
  intro range set cell schema
  obtain ⟨filter, hfilter⟩ : ∃ filter, decode cell = .ok filter := ⟨_, rfl⟩
  obtain ⟨hback, hrepaired⟩ := wire_form_is_read_back hfilter
  obtain ⟨fixed, hfixed, hfixedBack, hpruned⟩ := hrepaired schema (by decide) true
  -- the repaired filter is named first: `decide` cannot
  -- look for a filter that is only known to exist
  obtain rfl : filter.repaired schema true = fixed := by
    have hfields := field_ne_empty_of_decode hfilter
    rw [repair_eq (column_ne_empty_of_named (by decide) hfields)] at hfixed
    exact Except.ok.inj hfixed
  have hsome : ((filter.repaired schema true).prune? ["Load"]).isSome = true := by
    obtain rfl := Except.ok.inj hfilter
    decide +kernel
  obtain ⟨kept, hkept⟩ := Option.isSome_iff_exists.mp hsome
  exact ⟨filter, _, kept, hfilter, hfixed, hkept, hback, hfixedBack, hpruned _ _ hkept⟩

end Filter

end SheetQuery
