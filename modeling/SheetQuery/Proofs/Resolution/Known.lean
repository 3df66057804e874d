import SheetQuery.Proofs.Filter.Leaves
import SheetQuery.Proofs.Query.HintCover
import SheetQuery.Proofs.Resolution.Means

/-!
# Known columns in resolved filters

Whether what a query resolves to is about a column that the sheet has.

* What the service finds is pruned to known columns, and a hint counts only if the sheet has its
  column.
* What the clauses say is not looked at again. A phrase that means a standard column of the entity
  stands for it even if the sheet has no such header, and repair may find no column for that name.

`resolved_mentions_known_column_iff` says exactly when a resolved filter mentions no known column,
and exactly when a query is unresolved.
-/

namespace SheetQuery

namespace Vocabulary

/-- The columns that queries about an entity name whether or not the sheet has them. -/
def standardColumns (entity : Entity) : List String :=
  (synonyms entity).map Prod.snd ++ Query.ownColumns

theorem mem_of_headerOf? {columns : List String} {words : List (List Char)} {column : String}
    (h : headerOf? columns words = some column) : column ∈ columns := by
  rcases Option.or_eq_some_iff.mp h with h | ⟨-, h⟩
  · rcases Option.or_eq_some_iff.mp h with h | ⟨-, h⟩ <;> exact List.mem_of_find?_eq_some h
  · exact List.mem_of_find?_eq_some h

/-- A standard name is taken in the spelling of the headers, or stays a standard name. -/
theorem mem_getD_headerLike? {columns standard : List String} {name : String}
    (h : name ∈ standard) : (headerLike? columns name).getD name ∈ columns ++ standard := by
  cases hfound : headerLike? columns name with
  | none => exact List.mem_append_right _ h
  | some column => exact List.mem_append_left _ (List.mem_of_find?_eq_some hfound)

theorem mem_of_columnOf? {entity : Entity} {columns : List String} {phrase : List Char}
    {column : String} (h : columnOf? entity columns phrase = some column) :
    column ∈ columns ++ standardColumns entity := by
  unfold columnOf? at h
  split at h
  · cases h
  · split at h
    · next name hname =>
      rw [← Option.some.inj h]
      apply mem_getD_headerLike?
      exact List.mem_append_left _ (List.mem_map_of_mem (mem_of_lookup hname))
    · exact List.mem_append_left _ (mem_of_headerOf? h)

end Vocabulary

namespace Query

variable {entity : Entity} {columns : List String}

/-- A clause names a column of the sheet or a standard column. -/
theorem field_mem_of_clauseLeaf? {clause : List Char} {leaf : Leaf}
    (h : clauseLeaf? entity columns clause = some leaf) :
    leaf.field ∈ columns ++ Vocabulary.standardColumns entity := by
  rcases field_of_clauseLeaf? h with ⟨phrase, hphrase⟩ | ⟨name, hown, hname⟩
  · exact Vocabulary.mem_of_columnOf? hphrase
  · rw [← hname]
    exact Vocabulary.mem_getD_headerLike? (List.mem_append_right _ hown)

/-- A leaf of a query that is on no column of the sheet is on a standard column. -/
theorem field_mem_of_isForeign {text : List Char} {leaf : Leaf}
    (hleaf : leaf ∈ leaves entity columns text) (h : Schema.IsForeign columns leaf.field) :
    leaf.field ∈ Vocabulary.standardColumns entity := by
  obtain ⟨clause, -, hclause⟩ := List.mem_filterMap.mp hleaf
  rcases List.mem_append.mp (field_mem_of_clauseLeaf? hclause) with hmem | hmem
  · exact absurd hmem h.not_mem
  · exact hmem

theorem filter?_eq_none_iff {text : List Char} :
    filter? entity columns text = none ↔ leaves entity columns text = [] := by
  rw [filter?]
  cases leaves entity columns text with
  | nil => exact ⟨fun _ => rfl, fun _ => rfl⟩
  | cons leaf leaves => cases leaves <;> simp [conjunction?]

end Query

namespace Filter

/-- A repaired filter mentions a known column exactly if not all of its leaves are foreign. -/
theorem mentions_repaired_iff {schema : Schema} {soften : Bool} {filter : Filter} :
    (filter.repaired schema soften).mentions schema.names = true ↔
      ¬ ∀ leaf ∈ filter.leaves, Schema.IsForeign schema.names leaf.field := by
  rw [mentions, repaired, leaves_mapLeaves, List.any_map, List.any_eq_true]
  constructor
  · rintro ⟨leaf, hleaf, hknown⟩ hforeign
    exact Schema.resolveName_mem_iff.mp (List.contains_iff_mem.mp hknown) (hforeign leaf hleaf)
  · intro hforeign
    apply Classical.byContradiction
    intro hunknown
    apply hforeign
    intro leaf hleaf
    apply Classical.byContradiction
    intro hresolves
    -- a leaf that leads to a column is one that is mentioned
    exact hunknown ⟨leaf, hleaf, List.contains_iff_mem.mpr
      (Schema.resolveName_mem_iff.mpr hresolves)⟩

end Filter

namespace Resolution

variable {σ : Type}

/-- An empty text is refused before anything is resolved. -/
theorem resolve_of_blank (service : Option (Service σ)) (entity : Entity) (schema : Schema)
    {text : List Char} (htext : Text.trim text = []) (s : σ) :
    (resolve service entity schema text s).1 = .error (.input "empty query") := by
  rw [resolve, htext]

/-- A query is unresolved exactly if its clauses say nothing, the service has nothing to add, and no
hint applies. -/
theorem resolve_eq_unresolved_iff {service : Option (Service σ)} {entity : Entity} {schema : Schema}
    {text : List Char} {s : σ} {reason : Reason} {first retry : Option String} :
    (resolve service entity schema text s).1 = .error (.unresolved reason first retry) ↔
      Text.trim text ≠ [] ∧ Query.leaves entity schema.names (Text.trim text) = [] ∧
        Query.lastResort? entity schema (Text.trim text) = none ∧
        ∃ c, consulted service entity schema (Text.trim text) s = .ok c ∧ c.found = none ∧
          c.reason.getD .noResponse = reason ∧ c.replies[0]? = first ∧ c.replies[1]? = retry := by
  constructor
  · intro h
    have htext : Text.trim text ≠ [] := by
      intro hblank
      rw [resolve_of_blank service entity schema hblank s] at h
      cases h
    -- each of the three means must have come to nothing
    rw [resolve_eq service entity schema htext s] at h
    split at h
    · cases h
    · next hfilter =>
      split at h
      · next failure hconsulted =>
        rw [Except.error.inj h] at hconsulted
        exact absurd hconsulted (consulted_ne_unresolved service entity schema _ s _ _ _)
      · next c hconsulted =>
        split at h
        · cases h
        · next hfound =>
          rw [fallBack_eq] at h
          split at h
          · cases h
          · next hleaf =>
            cases h
            exact ⟨htext, Query.filter?_eq_none_iff.mp hfilter, hleaf, c, hconsulted, hfound, rfl,
              rfl, rfl⟩
  · rintro ⟨htext, hleaves, hleaf, c, hconsulted, hfound, rfl, rfl, rfl⟩
    simp only [resolve_eq service entity schema htext s, Query.filter?_eq_none_iff.mpr hleaves,
      hconsulted, hfound, fallBack_eq, hleaf]

/-- Where a resolved filter comes from: its clauses, the service or a hint. -/
theorem resolved_cases {service : Option (Service σ)} {entity : Entity} {schema : Schema}
    {text : List Char} {s : σ} {resolved : Resolved}
    (h : (resolve service entity schema text s).1 = .ok resolved) :
    (∃ filter, Query.filter? entity schema.names (Text.trim text) = some filter ∧
        resolved = ⟨filter.repaired schema false, .deterministic⟩) ∨
      (∃ c filter, consulted service entity schema (Text.trim text) s = .ok c ∧
        c.found = some filter ∧ resolved = ⟨filter, .ai⟩) ∨
      ∃ leaf, Query.lastResort? entity schema (Text.trim text) = some leaf ∧
        resolved = ⟨(Filter.leaf leaf).repaired schema false, .heuristic⟩ := by
  have htext : Text.trim text ≠ [] := by
    intro hblank
    rw [resolve_of_blank service entity schema hblank s] at h
    cases h
  rw [resolve_eq service entity schema htext s] at h
  split at h
  · next filter hfilter => exact .inl ⟨filter, hfilter, (Except.ok.inj h).symm⟩
  · split at h
    · cases h
    · next c hconsulted =>
      split at h
      · next filter hfound =>
        exact .inr (.inl ⟨c, filter, hconsulted, hfound, (Except.ok.inj h).symm⟩)
      · rw [fallBack_eq] at h
        split at h
        · next leaf hleaf => exact .inr (.inr ⟨leaf, hleaf, (Except.ok.inj h).symm⟩)
        · cases h

/-- A resolved filter mentions a column of the sheet, except where every clause of the query is about
a standard column that the sheet lacks, in this and every similar spelling. A query is unresolved
exactly if its clauses say nothing, the service has been consulted and found nothing, and no hint
applies. -/
theorem resolved_mentions_known_column_iff (service : Option (Service σ)) (entity : Entity)
    (schema : Schema) (text : List Char) (s : σ) :
    (∀ resolved, (resolve service entity schema text s).1 = .ok resolved →
      (resolved.filter.mentions schema.names = true ↔
        ¬ (resolved.source = .deterministic ∧
          ∀ leaf ∈ Query.leaves entity schema.names (Text.trim text),
            leaf.field ∈ Vocabulary.standardColumns entity ∧
              Schema.IsForeign schema.names leaf.field))) ∧
    ∀ reason first retry,
      (resolve service entity schema text s).1 = .error (.unresolved reason first retry) ↔
        Text.trim text ≠ [] ∧ Query.leaves entity schema.names (Text.trim text) = [] ∧
          Query.lastResort? entity schema (Text.trim text) = none ∧
          ∃ c, consulted service entity schema (Text.trim text) s = .ok c ∧ c.found = none ∧
            c.reason.getD .noResponse = reason ∧ c.replies[0]? = first ∧
            c.replies[1]? = retry := by
  refine ⟨fun resolved h => ?_, fun reason first retry => resolve_eq_unresolved_iff⟩
  rcases resolved_cases h with ⟨filter, hfilter, rfl⟩ | ⟨c, filter, hc, hfound, rfl⟩ |
    ⟨leaf, hleaf, rfl⟩
  · -- clauses are not checked against the columns, so here the leaves decide
    rw [Filter.mentions_repaired_iff, Query.leaves_filter? hfilter]
    constructor
    · rintro hknown ⟨-, hall⟩
      exact hknown fun leaf hleaf => (hall leaf hleaf).2
    · intro hall hforeign
      exact hall ⟨rfl, fun leaf hleaf =>
        ⟨Query.field_mem_of_isForeign hleaf (hforeign leaf hleaf), hforeign leaf hleaf⟩⟩
  · -- what the service finds has been pruned to known columns
    refine iff_of_true (mentions_of_consulted hc hfound) ?_
    rintro ⟨hsource, -⟩
    cases hsource
  · -- the column of a hint is one of the sheet
    have hknown := Query.field_mem_of_lastResort? hleaf
    refine iff_of_true (Filter.mentions_repaired_iff.mpr fun hforeign => ?_) ?_
    · exact (hforeign leaf List.mem_cons_self).not_mem hknown
    · rintro ⟨hsource, -⟩
      cases hsource

/-- A sheet of owners has no durations, yet a query about durations is resolved on it. -/
theorem query_about_missing_column_resolves :
    let schema : Schema := [⟨"Owner", .string, [.text "ann"]⟩]
    ∃ resolved,
      (resolve (none : Option (Service Unit)) .tasks schema "duration > 2".toList ()).1 =
        .ok resolved ∧ ¬ resolved.filter.mentions schema.names = true := by
  intro schema
  have hsource : (resolve (none : Option (Service Unit)) .tasks schema
      "duration > 2".toList ()).1.toOption.map Resolved.source = some .deterministic := by
    decide +kernel
  have hfields : ∀ field ∈ (Query.leaves .tasks schema.names
      (Text.trim "duration > 2".toList)).map Leaf.field, field = "Duration" := by
    decide +kernel
  have hforeign : Schema.IsForeign schema.names "Duration" :=
    ⟨by decide +kernel, by decide +kernel, by decide +kernel⟩
  obtain ⟨resolved, hresolved, hdeterministic⟩ := Option.map_eq_some_iff.mp hsource
  have hok : (resolve (none : Option (Service Unit)) .tasks schema "duration > 2".toList ()).1 =
      .ok resolved := by
    revert hresolved
    cases (resolve (none : Option (Service Unit)) .tasks schema "duration > 2".toList ()).1 with
    | error failure => exact fun h => nomatch h
    | ok other => exact fun h => congrArg Except.ok (Option.some.inj h)
  refine ⟨resolved, hok, fun hknown => ?_⟩
  apply ((resolved_mentions_known_column_iff none .tasks schema _ ()).1 resolved hok).mp hknown
  refine ⟨hdeterministic, fun leaf hleaf => ?_⟩
  rw [hfields _ (List.mem_map_of_mem hleaf)]
  exact ⟨by decide +kernel, hforeign⟩

end Resolution

end SheetQuery
