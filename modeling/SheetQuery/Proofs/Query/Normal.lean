import SheetQuery.Proofs.Query.Asked
import SheetQuery.Proofs.Query.HintSqueeze
import SheetQuery.Query.Normal
import SheetQuery.Schema.Inference

/-!
# Queries of the same normal form

Normalising takes away case and runs of blanks. Reading a query takes no notice of the first, and of
the second only within keywords and values. So queries of one normal form resolve alike where they are
written with single spaces there and where their columns read what is looked for alike in any case;
otherwise they need not.

* `normal_eq_nil_iff`: only blank queries have an empty normal form;
* `IsWellSpaced`: queries with single spaces wherever their blanks count;
* `asked?_eq_of_normal_eq`: such queries of one normal form ask for the same up to case;
* `agree_of_normal_eq`: they resolve alike;
* `tab_in_value_is_not_read`: queries that do not.
-/

namespace SheetQuery

namespace Query

open Text (squeeze fold IsUniform)

/-- A query is well spaced if it has single spaces wherever its blanks count: in its clauses and, if
none of them can be read, for the hints. -/
structure IsWellSpaced (entity : Entity) (schema : Schema) (text : List Char) : Prop where
  uniform : IsUniform text
  clauses : ∀ clause ∈ clauses (Text.trim text), IsEvenlySpaced entity schema.names clause
  hints : filter? entity schema.names (Text.trim text) = none → IsPlainForHints (Text.trim text)

@[simp] theorem normal_trim (text : List Char) : normal (Text.trim text) = normal text := by
  rw [normal, normal, Text.trim_trim]

/-- Only a blank query normalises to nothing. -/
theorem normal_eq_nil_iff {text : List Char} : normal text = [] ↔ Text.trim text = [] := by
  rw [normal, Text.intercalate_words, Text.squeeze_eq_nil_iff]
  constructor
  · intro h
    rw [Text.trim_eq_nil_iff] at h ⊢
    intro c hc
    apply Classical.byContradiction
    intro hblank
    rw [Bool.not_eq_true] at hblank
    obtain ⟨d, hd, hother⟩ := Text.exists_not_blank_lower ⟨c, (Text.mem_trim hblank).mpr hc, hblank⟩
    rw [h d hd] at hother
    cases hother
  · intro h
    rw [h]
    rfl

theorem normal_eq {text : List Char} (h : IsUniform text) :
    normal text = squeeze (fold (Text.trim text)) := by
  rw [normal, Text.intercalate_words, Text.lower_eq_fold (isUniform_trim h), Text.trim_fold,
    Text.trim_trim]

variable {entity : Entity} {schema : Schema} {text other : List Char}

/-- The leaves of well-spaced queries up to case hang on the normal form only. -/
theorem filter?_eq_of_normal_eq (h : IsWellSpaced entity schema text)
    (hother : IsWellSpaced entity schema other) (hnormal : normal text = normal other) :
    filter? entity schema.names (fold (Text.trim text)) =
      filter? entity schema.names (fold (Text.trim other)) := by
  rw [normal_eq h.uniform, normal_eq hother.uniform] at hnormal
  have hleaves : ∀ {text : List Char}, IsWellSpaced entity schema text →
      leaves entity schema.names (fold (Text.trim text)) = ((clauses (fold (Text.trim text))).map
        squeeze).filterMap (clauseLeaf? entity schema.names) := by
    intro text h
    have hclauses : ∀ clause ∈ clauses (Text.trim (Text.trim text)),
        IsEvenlySpaced entity schema.names clause := by
      rw [Text.trim_trim]
      exact h.clauses
    have hsqueeze := leaves_fold_squeeze (isUniform_trim h.uniform) hclauses
    rwa [Text.trim_trim] at hsqueeze
  rw [filter?, filter?, hleaves h, hleaves hother, map_squeeze_clauses hnormal]

theorem lastResort?_eq_of_normal_eq (h : IsWellSpaced entity schema text)
    (hother : IsWellSpaced entity schema other) (hnormal : normal text = normal other)
    (hnone : filter? entity schema.names (fold (Text.trim text)) = none) :
    lastResort? entity schema (fold (Text.trim text)) =
      lastResort? entity schema (fold (Text.trim other)) := by
  have hhints : ∀ {text : List Char}, IsWellSpaced entity schema text →
      filter? entity schema.names (fold (Text.trim text)) = none →
      lastResort? entity schema (fold (Text.trim text)) = lastResort? entity schema (normal text) := by
    intro text h hnone
    have hunread : filter? entity schema.names (Text.trim text) = none := by
      rwa [(folds_filter? entity schema.names).reads _ (isUniform_trim h.uniform),
        Option.map_eq_none_iff] at hnone
    -- hints read the whole text at once, so the text itself is squeezed, not its clauses
    have hplain := h.hints hunread
    have hfolds := folds_lastResort? entity schema
    rw [hfolds.reads _ hplain.uniform, ← lastResort?_squeeze hplain,
      ← hfolds.reads _ (Text.isUniform_squeeze hplain.uniform), ← Text.squeeze_fold,
      normal_eq h.uniform]
  have hnone' := hnone
  rw [filter?_eq_of_normal_eq h hother hnormal] at hnone'
  rw [hhints h hnone, hhints hother hnone', hnormal]

/-- Well-spaced queries of one normal form ask for the same up to case. -/
theorem asked?_eq_of_normal_eq (h : IsWellSpaced entity schema text)
    (hother : IsWellSpaced entity schema other) (hnormal : normal text = normal other) :
    asked? entity schema (fold (Text.trim text)) = asked? entity schema (fold (Text.trim other)) := by
  rw [asked?, asked?, ← filter?_eq_of_normal_eq h hother hnormal]
  cases hfilter : filter? entity schema.names (fold (Text.trim text)) with
  | some filter => rfl
  | none => simp only [lastResort?_eq_of_normal_eq h hother hnormal hfilter]

end Query

namespace Resolution

theorem Agree.isSome_toOption {found other : Except Failure Resolved} (h : Agree found other) :
    found.toOption.isSome = other.toOption.isSome := by
  cases h <;> rfl

/-- A tab in a value is not read, where a space is. -/
theorem tab_in_value_is_not_read :
    let rows : List Row := [[("WorkerName", .text "Ab Cd")]]
    let schema := Schema.infer rows 3
    Query.normal "WorkerName equals Ab\tCd".toList = Query.normal "WorkerName equals Ab Cd".toList ∧
      ¬ Agree (unaided .workers schema "WorkerName equals Ab\tCd".toList)
        (unaided .workers schema "WorkerName equals Ab Cd".toList) := by
  intro rows schema
  refine ⟨by decide, fun h => ?_⟩
  have htab : (unaided .workers schema "WorkerName equals Ab\tCd".toList).toOption.isSome = false := by
    decide
  have hspace : (unaided .workers schema "WorkerName equals Ab Cd".toList).toOption.isSome = true := by
    decide
  rw [h.isSome_toOption, hspace] at htab
  cases htab

end Resolution

end SheetQuery
