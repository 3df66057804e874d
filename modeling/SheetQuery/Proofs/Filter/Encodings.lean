import SheetQuery.Proofs.Cell.Encodings
import SheetQuery.Proofs.Filter.Repair

/-!
# Searches for items of lists, in any encoding

On a column of lists the search for items gives the same for a list, its JSON text and its items
joined by commas or semicolons, both in the cell and in the operand.

* `Filter.repair_includes`: what repair makes of such a search;
* `Cell.includes_of_encodes`: what it finds;
* `Filter.encodings_are_interchangeable`: repair and evaluation together.
-/

namespace SheetQuery

/-- A search for items on a column of lists is never refused. -/
theorem Filter.repair_includes (schema : Schema) (soften : Bool) (name : String)
    (h : (schema.traits (Schema.resolveName schema.names name)).type = .array) (operand : Cell) :
    repair schema soften (leaf ⟨name, .search .includes operand⟩) =
      .ok (leaf ⟨Schema.resolveName schema.names name,
        .search .includes (Cell.list operand.items).unwrapped⟩) := by
  have hkept : (leaf ⟨name, .search .includes operand⟩).leaves.any (Leaf.losesName schema soften) =
      false := by
    have hfit : ∀ type, (Test.search .includes operand).fit type =
        .search .includes (Test.fitSingle type operand) := fun _ => rfl
    simp [leaves, Leaf.losesName, hfit, Test.asSearch?_includes]
  have hfit : Test.fitSingle .array operand = (Cell.list operand.items).unwrapped := rfl
  rw [repair, hkept, if_neg Bool.false_ne_true, repaired, mapLeaves, Leaf.repaired, Leaf.column,
    Test.repaired_includes, h, hfit]

namespace Cell

/-- A search for items finds them all if each is a part of an item of the cell. -/
theorem includes_of_encodes {ts ns : List String} {cell operand : Cell} (hcell : Encodes ts cell)
    (hts : ∀ t ∈ ts, IsToken t) (hoperand : Encodes ns operand) (hns : ∀ n ∈ ns, IsToken n)
    (hne : ns ≠ []) : cell.includes (list operand.items).unwrapped = true ↔
      ∀ n ∈ ns, ∃ t ∈ ts, (text n).key.toList <:+: (text t).key.toList := by
  rw [hoperand.items_eq hns, includes_unwrapped_iff, hcell.tokens_eq hts]
  · simp only [ne_eq, List.map_eq_nil_iff, hne, not_false_eq_true, true_and, tokensContain_iff,
      List.mem_map, exists_exists_and_eq_and, forall_exists_index, and_imp,
      forall_apply_eq_imp_iff₂]
  · -- a lone item is a text, and no list that would be looked into once more
    intro inner heq
    have hmem : list inner ∈ ns.map text := heq ▸ List.mem_cons_self
    obtain ⟨n, -, hn⟩ := List.mem_map.mp hmem
    cases hn

end Cell

/-- On a column of lists, let the items `ts` stand in a cell and the items `ns` in the operand of a
search for items, each as a list, as JSON text or joined by commas and semicolons. The repaired search
holds of the cell exactly if each of `ns` is a part of one of `ts`, up to case; so the encodings do not
matter. -/
theorem Filter.encodings_are_interchangeable (schema : Schema) (soften : Bool) (name : String)
    (hcolumn : (schema.traits (Schema.resolveName schema.names name)).type = .array)
    (ts ns : List String) (hts : ∀ t ∈ ts, Cell.IsToken t) (hns : ∀ n ∈ ns, Cell.IsToken n)
    (hne : ns ≠ []) (operand : Cell) (hoperand : Cell.Encodes ns operand) (row : Row)
    (hcell : Cell.Encodes ts (row.cell (Schema.resolveName schema.names name))) :
    ∃ repaired, repair schema soften (leaf ⟨name, .search .includes operand⟩) = .ok repaired ∧
      repaired.fault? row = none ∧
      (repaired.holds row = true ↔
        ∀ n ∈ ns, ∃ t ∈ ts, (Cell.text n).key.toList <:+: (Cell.text t).key.toList) := by
  refine ⟨_, repair_includes schema soften name hcolumn operand, ?_, ?_⟩
  · rw [fault?, Test.fault?.eq_def]
  · rw [holds, Test.holds]
    exact Cell.includes_of_encodes hcell hts hoperand hns hne

/-- Two skills are looked for as JSON text with an escape, in a cell where they stand between
semicolons. -/
theorem Filter.skills_in_json_are_found :
    let schema : Schema := [⟨"Skills", .array, []⟩]
    let row : Row := [("Skills", .text "Machine Learning ; SQL")]
    let operand : Cell := .text "[\"learn\", \"sq\\u006c\"]"
    (schema.traits (Schema.resolveName schema.names "skills")).type = .array ∧
    (∀ t ∈ ["Machine Learning", "SQL"], Cell.IsToken t) ∧
    (∀ n ∈ ["learn", "sql"], Cell.IsToken n) ∧ Cell.Encodes ["learn", "sql"] operand ∧
    Cell.Encodes ["Machine Learning", "SQL"]
      (row.cell (Schema.resolveName schema.names "skills")) ∧
    ∃ repaired, repair schema false (leaf ⟨"skills", .search .includes operand⟩) = .ok repaired ∧
      repaired.holds row = true := by
  intro schema row operand
  have hcolumn : (schema.traits (Schema.resolveName schema.names "skills")).type = .array := by
    decide +kernel
  have hts : ∀ t ∈ ["Machine Learning", "SQL"], Cell.IsToken t := by
    simp only [List.forall_mem_cons, List.not_mem_nil, false_implies, implies_true, and_true]
    exact ⟨⟨by decide, by decide +kernel, by decide +kernel, by decide, rfl⟩,
      ⟨by decide, by decide +kernel, by decide +kernel, by decide, rfl⟩⟩
  have hns : ∀ n ∈ ["learn", "sql"], Cell.IsToken n := by
    simp only [List.forall_mem_cons, List.not_mem_nil, false_implies, implies_true, and_true]
    exact ⟨⟨by decide, by decide +kernel, by decide +kernel, by decide, rfl⟩,
      ⟨by decide, by decide +kernel, by decide +kernel, by decide, rfl⟩⟩
  have hlearn : Json.WritesText "learn".toList "learn".toList :=
    Json.writesText_self (by decide)
  have hunit : Json.WritesUnit (16 * (16 * (16 * 0 + 0) + 6) + 12) ['0', '0', '6', 'c'] :=
    .digits rfl rfl rfl rfl
  have hsql : Json.WritesText "sql".toList
      ('s' :: 'q' :: '\\' :: 'u' :: (['0', '0', '6', 'c'] ++ [])) :=
    .plain (by decide) (by decide) (by decide) (.plain (by decide) (by decide) (by decide)
      (@Json.WritesText.unit 'l' _ _ _ hunit .nil))
  have hclose : Json.WritesAll [.closeList] [']'] := .mark rfl (by simp) (.nil (by simp))
  have hlast := (Json.WritesAll.cons_tight (.text hsql) (.inr (Json.isApart_cons rfl)) hclose).space
  have hitems := Json.WritesAll.cons_tight (.text hlearn) (.inr (Json.isApart_cons rfl))
    (hlast.mark (c := ',') rfl (by simp))
  have hoperand : Cell.Encodes ["learn", "sql"] operand :=
    .json (hitems.mark (c := '[') rfl (by simp))
  have hcell : Cell.Encodes ["Machine Learning", "SQL"]
      (row.cell (Schema.resolveName schema.names "skills")) := by
    have hjoined : Cell.Joins ["Machine Learning", "SQL"] "Machine Learning ; SQL".toList :=
      @Cell.Joins.cons "Machine Learning" ["SQL"] [' '] [' '] "SQL".toList ';' (by decide) (by decide)
        (by decide) (.single "SQL")
    have hvalue : row.cell (Schema.resolveName schema.names "skills") =
        .text "Machine Learning ; SQL" := by
      have hname : Schema.resolveName schema.names "skills" = "Skills" := by decide +kernel
      rw [hname]
      rfl
    rw [hvalue]
    exact .joined hjoined
  obtain ⟨repaired, hrepair, -, hholds⟩ := encodings_are_interchangeable schema false "skills" hcolumn
    ["Machine Learning", "SQL"] ["learn", "sql"] hts hns (by decide) operand hoperand row hcell
  refine ⟨hcolumn, hts, hns, hoperand, hcell, repaired, hrepair, hholds.mpr ?_⟩
  decide +kernel

end SheetQuery
