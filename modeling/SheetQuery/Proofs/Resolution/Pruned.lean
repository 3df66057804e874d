import SheetQuery.Proofs.Filter.Parts
import SheetQuery.Proofs.Resolution.Dialogue
import SheetQuery.Proofs.Resolution.Known

/-!
# The columns of filters that no clause asked for

A filter that the service or a hint gives is about known columns only, down to its last leaf, and
none of its compositions is empty.

* `exists_prune?_of_consulted`: what the service finds has been pruned;
* `found_filter_uses_known_columns`: the filter of a resolved query, unless its clauses gave it.
-/

namespace SheetQuery.Resolution

variable {σ : Type} {entity : Entity} {schema : Schema}

theorem exists_prune?_of_judgeAnswer {answer : Answer} {filter : Filter}
    (h : judgeAnswer schema answer = .usable filter) :
    ∃ whole : Filter, whole.prune? schema.names = some filter := by
  unfold judgeAnswer at h
  split at h
  · unfold judge at h
    split at h
    · cases h
    · split at h
      · cases h
      · next whole _ =>
        split at h
        · next kept hkept => exact ⟨whole, hkept.trans (congrArg some (Verdict.usable.inj h))⟩
        · cases h
  · cases h
  · split at h <;> cases h

/-- Only a usable verdict leads to a filter. -/
theorem eq_usable_of_conclude {earlier : Option Reason} {replies : List String} {verdict : Verdict}
    {c : Consultation} {filter : Filter} (h : conclude earlier replies verdict = .ok c)
    (hfound : c.found = some filter) : verdict = .usable filter := by
  cases verdict with
  | usable kept =>
    rw [← Except.ok.inj h] at hfound
    rw [Option.some.inj hfound]
  | broken failure => cases h
  | unknownColumns | malformed | absent =>
    rw [← Except.ok.inj h] at hfound
    cases hfound

theorem Course.exists_prune? {probe : Except Service.Fault Service.Probe} {answers : List Answer}
    {c : Consultation} {filter : Filter} (h : Course schema probe answers (.ok c))
    (hfound : c.found = some filter) : ∃ whole : Filter, whole.prune? schema.names = some filter := by
  generalize hresult : Except.ok c = result at h
  cases h with
  | unready =>
    rw [Except.ok.inj hresult] at hfound
    cases hfound
  | failed => cases hresult
  | once =>
    exact exists_prune?_of_judgeAnswer (eq_usable_of_conclude hresult.symm hfound)
  | twice =>
    exact exists_prune?_of_judgeAnswer (eq_usable_of_conclude hresult.symm hfound)

/-- What the service finds has been pruned to known columns. -/
theorem exists_prune?_of_consulted {service : Option (Service σ)} {query : List Char} {s : σ}
    {c : Consultation} {filter : Filter}
    (h : consulted service entity schema query s = .ok c) (hfound : c.found = some filter) :
    ∃ whole : Filter, whole.prune? schema.names = some filter := by
  cases service with
  | none =>
    rw [← Except.ok.inj h] at hfound
    cases hfound
  | some service =>
    obtain ⟨probe, answers, result, after, hconsult, -, -, hcourse⟩ :=
      consult_recorded service entity schema query s
    rw [consulted, hconsult] at h
    subst h
    exact hcourse.exists_prune? hfound

/-- A filter that a query is resolved to without its clauses names known columns in all its leaves.
Each composition in it has a child, a negation exactly one, and its record lists just these. -/
theorem found_filter_uses_known_columns (service : Option (Service σ)) (entity : Entity)
    (schema : Schema) (text : List Char) (s : σ) (resolved : Resolved)
    (h : (resolve service entity schema text s).1 = .ok resolved)
    (hsource : resolved.source ≠ .deterministic) :
    (∀ leaf ∈ resolved.filter.leaves, leaf.field ∈ schema.names) ∧
      ∀ part ∈ resolved.filter.parts,
        (part.isComposite = true → part.children ≠ [] ∧
          ∃ op, part.encode =
            .record [("op", .text op), ("children", .list (part.children.map Filter.encode))]) ∧
        ∀ child, part = .neg child → part.children = [child] := by
  have hparts : (∀ part ∈ resolved.filter.parts, part.isComposite = true → part.children ≠ []) →
      ∀ part ∈ resolved.filter.parts,
        (part.isComposite = true → part.children ≠ [] ∧
          ∃ op, part.encode =
            .record [("op", .text op), ("children", .list (part.children.map Filter.encode))]) ∧
        ∀ child, part = .neg child → part.children = [child] := by
    intro hfilled part hpart
    refine ⟨fun hcomposite => ?_, fun child hneg => by rw [hneg, Filter.children]⟩
    exact ⟨hfilled part hpart hcomposite, Filter.encode_of_isComposite hcomposite⟩
  rcases resolved_cases h with ⟨filter, hfilter, rfl⟩ | ⟨c, filter, hc, hfound, rfl⟩ |
    ⟨leaf, hleaf, rfl⟩
  · exact absurd rfl hsource
  · obtain ⟨whole, hpruned⟩ := exists_prune?_of_consulted hc hfound
    refine ⟨fun leaf hleaf => ?_, hparts (Filter.children_ne_nil_of_prune? hpruned)⟩
    dsimp only at hleaf
    rw [Filter.leaves_prune? hpruned, List.mem_filter] at hleaf
    exact List.contains_iff_mem.mp hleaf.2
  · -- a hint is one leaf, on a column of the sheet
    have hknown : leaf.field ∈ schema.names := Query.field_mem_of_lastResort? hleaf
    constructor
    · intro other hother
      rw [Filter.repaired, Filter.mapLeaves, Filter.leaves, List.mem_singleton] at hother
      rw [hother, Leaf.repaired, Leaf.column, Schema.resolveName_of_mem hknown]
      exact hknown
    · apply hparts
      intro part hpart hcomposite
      rw [Filter.repaired, Filter.mapLeaves, Filter.parts, List.mem_singleton] at hpart
      rw [hpart] at hcomposite
      cases hcomposite

/-- A composition without children and a negation of a leaf on an unknown column are dropped from a
reply; a leaf on a known column, differently spelled, stays. -/
theorem empty_parts_of_reply_are_dropped :
    let schema : Schema := [⟨"Duration", .number, []⟩]
    let reply := "\x7b\"kind\":\"filter\",\"entity\":\"tasks\",\"filter\":\x7b\"op\":\"and\"," ++
      "\"children\":[\x7b\"op\":\"or\",\"children\":[]\x7d,\x7b\"op\":\"not\",\"children\":[" ++
      "\x7b\"op\":\"exists\",\"field\":\"Xyz\"\x7d]\x7d,\x7b\"op\":\"exists\",\"field\":" ++
      "\"duration\"\x7d]\x7d\x7d"
    let service := Service.scripted (.ok ⟨true, [], none⟩) [.ok reply]
    let run := resolve (some service) .tasks schema "everything".toList 0
    ∃ resolved, run.1 = .ok resolved ∧ resolved.source ≠ .deterministic ∧
      (∀ leaf ∈ resolved.filter.leaves, leaf.field ∈ schema.names) ∧
      ∀ part ∈ resolved.filter.parts,
        (part.isComposite = true → part.children ≠ [] ∧
          ∃ op, part.encode =
            .record [("op", .text op), ("children", .list (part.children.map Filter.encode))]) ∧
        ∀ child, part = .neg child → part.children = [child] := by
  intro schema reply service run
  have hsource : run.1.toOption.map Resolved.source = some .ai := by decide +kernel
  cases hrun : run.1 with
  | error failure =>
    rw [hrun] at hsource
    cases hsource
  | ok resolved =>
    rw [hrun] at hsource
    have hai : resolved.source ≠ .deterministic := by
      rw [Option.some.inj hsource]
      decide
    exact ⟨resolved, rfl, hai, found_filter_uses_known_columns _ _ _ _ _ resolved hrun hai⟩

end SheetQuery.Resolution
