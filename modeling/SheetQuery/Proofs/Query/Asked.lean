import SheetQuery.Proofs.Query.ClauseFold
import SheetQuery.Proofs.Query.HintFold
import SheetQuery.Proofs.Resolution.Means

/-!
# What a query asks for

Without a service, resolving a query is reading it, clause by clause or by a hint, and repairing what
was read; the repair is never refused. So two queries that ask for the same filter up to case resolve
alike, as long as their columns read what is looked for alike in any case.

* `Query.asked?`: the filter that a query asks for, before repair;
* `Resolution.unaided_eq`: the resolution in terms of it;
* `Resolution.Agree`: two resolutions that come to the same;
* `Resolution.agree_of_asked?`: queries that ask for the same up to case.
-/

namespace SheetQuery

namespace Query

/-- The filter that a query asks for before repair, and whether its clauses or a hint told. -/
def asked? (entity : Entity) (schema : Schema) (text : List Char) : Option (Source × Filter) :=
  match filter? entity schema.names text with
  | some filter => some (.deterministic, filter)
  | none => (lastResort? entity schema text).map fun leaf => (.heuristic, .leaf leaf)

variable {entity : Entity} {schema : Schema} {text : List Char}

theorem asked?_cases {source : Source} {filter : Filter}
    (h : asked? entity schema text = some (source, filter)) :
    filter? entity schema.names text = some filter ∨
      ∃ leaf, lastResort? entity schema text = some leaf ∧ filter = .leaf leaf := by
  unfold asked? at h
  split at h
  · next found hfound =>
    cases h
    exact .inl hfound
  · obtain ⟨leaf, hleaf, heq⟩ := Option.map_eq_some_iff.mp h
    cases heq
    exact .inr ⟨leaf, hleaf, rfl⟩

/-- A query asks for the same filter in any case, but for the letters of the texts looked for. -/
theorem folds_asked? (entity : Entity) (schema : Schema) :
    Folds (fun found => (found.1, found.2.mapLeaves Leaf.fold)) (fun found => found.2.IsSpoken)
      (asked? entity schema) := by
  have hfilters := folds_filter? entity schema.names
  have hhints := folds_lastResort? entity schema
  constructor
  · intro text htext
    rw [asked?, asked?, hfilters.reads text htext, hhints.reads text htext]
    cases filter? entity schema.names text with
    | some filter => rfl
    | none => cases lastResort? entity schema text <;> rfl
  · rintro text htext ⟨source, filter⟩ h
    rcases asked?_cases h with hfilter | ⟨leaf, hleaf, rfl⟩
    · exact hfilters.kind text htext filter hfilter
    · intro other hother
      rw [List.mem_singleton.mp hother]
      exact hhints.kind text htext leaf hleaf

end Query

namespace Resolution

/-- The resolution of a query without a service. -/
def unaided (entity : Entity) (schema : Schema) (text : List Char) : Except Failure Resolved :=
  (resolve (none : Option (Service Unit)) entity schema text ()).1

/-- A query resolves to what it asks for, repaired, or to nothing. -/
theorem unaided_eq (entity : Entity) (schema : Schema) {text : List Char}
    (htext : Text.trim text ≠ []) : unaided entity schema text =
      match Query.asked? entity schema (Text.trim text) with
      | some (source, filter) => .ok ⟨filter.repaired schema false, source⟩
      | none => .error (.unresolved .noResponse none none) := by
  rw [unaided, resolve_eq none entity schema htext, Query.asked?]
  cases hfilter : Query.filter? entity schema.names (Text.trim text) with
  | some filter => rfl
  | none =>
    simp only [consulted, Consultation.none, fallBack_eq]
    cases Query.lastResort? entity schema (Text.trim text) <;> rfl

/-- Two resolutions come to the same if both find no filter, or both find, by the same means, filters
that keep the same of any rows. -/
inductive Agree : Except Failure Resolved → Except Failure Resolved → Prop where
  | unresolved (reason : Reason) :
    Agree (.error (.unresolved reason none none)) (.error (.unresolved reason none none))
  | resolved {resolved other : Resolved} (source : resolved.source = other.source)
    (rows : ∀ rows : List Row, ∃ kept,
      resolved.filter.apply rows = .ok kept ∧ other.filter.apply rows = .ok kept) :
    Agree (.ok resolved) (.ok other)

/-- Does every column that a query asks of read what is looked for alike in any case? -/
def IgnoresCase (entity : Entity) (schema : Schema) (text : List Char) : Prop :=
  ∀ found ∈ Query.asked? entity schema (Text.trim text),
    ∀ leaf ∈ found.2.leaves, leaf.ignoresCase schema = true

/-- Queries that ask for the same up to case resolve alike. -/
theorem agree_of_asked? {entity : Entity} {schema : Schema} {text other : List Char}
    (htext : Text.trim text ≠ []) (hother : Text.trim other ≠ [])
    (huniform : Text.IsUniform text) (huniform' : Text.IsUniform other)
    (hcase : IgnoresCase entity schema text) (hcase' : IgnoresCase entity schema other)
    (h : Query.asked? entity schema (Text.fold (Text.trim text)) =
      Query.asked? entity schema (Text.fold (Text.trim other))) :
    Agree (unaided entity schema text) (unaided entity schema other) := by
  have hfolds := Query.folds_asked? entity schema
  have htrim := Query.isUniform_trim huniform
  have htrim' := Query.isUniform_trim huniform'
  rw [hfolds.reads _ htrim, hfolds.reads _ htrim'] at h
  rw [unaided_eq entity schema htext, unaided_eq entity schema hother]
  cases hfound : Query.asked? entity schema (Text.trim text) with
  | none =>
    rw [hfound] at h
    rw [Option.map_eq_none_iff.mp h.symm]
    exact .unresolved .noResponse
  | some found =>
    rw [hfound] at h
    obtain ⟨again, hagain, heq⟩ := Option.map_eq_some_iff.mp h.symm
    obtain ⟨source, filter⟩ := found
    obtain ⟨source', filter'⟩ := again
    obtain ⟨rfl, hfilters⟩ := Prod.mk.inj heq
    -- the two filters are one when folded, and folding keeps what each of them keeps
    have hspoken := hfolds.kind _ htrim _ hfound
    have hspoken' := hfolds.kind _ htrim' _ hagain
    rw [hagain]
    refine .resolved rfl fun rows => ⟨_, ?_, Filter.apply_of_isPlain
      (Filter.isPlain_repaired hspoken'.isPlain schema false) rows⟩
    calc (filter.repaired schema false).apply rows
        = ((filter.mapLeaves Leaf.fold).repaired schema false).apply rows :=
          (Filter.apply_repaired_fold hspoken (hcase _ hfound) rows).symm
      _ = ((filter'.mapLeaves Leaf.fold).repaired schema false).apply rows := by rw [hfilters]
      _ = (filter'.repaired schema false).apply rows :=
          Filter.apply_repaired_fold hspoken' (hcase' _ hagain) rows
      _ = .ok (rows.filter fun row => (filter'.repaired schema false).holds row) :=
          Filter.apply_of_isPlain (Filter.isPlain_repaired hspoken'.isPlain schema false) rows

end Resolution

end SheetQuery
