import SheetQuery.Proofs.Text.Case
import SheetQuery.Schema.Naming

/-!
# Laws of matching column names

* `resolveName_mem_iff`: a name leads to a column exactly if it is not foreign to the columns;
* `resolveName_of_isForeign`: a foreign name stays as it is;
* `resolveName_ne_empty_of_not_mem`: what has a name is about a column with a name, if all have one;
* `resolveName_resolveName`: a resolved name is resolved.
-/

namespace SheetQuery.Schema

/-- Is a name neither a column up to case, nor similar to one, nor a part of one? -/
structure IsForeign (columns : List String) (name : String) : Prop where
  unlike : ∀ column ∈ columns, Text.lowerText column ≠ Text.lowerText name
  dissimilar : similarColumn? (bareName name) columns = none
  narrow : widerColumn? (bareName name) columns = none

theorem IsForeign.not_mem {columns : List String} {name : String} (h : IsForeign columns name) :
    name ∉ columns :=
  fun hmem => h.unlike name hmem rfl

theorem mem_of_best? {α : Type} {score : α → Number} {as : List α} {found : α × Number}
    (h : best? score as = some found) : found.1 ∈ as := by
  induction as generalizing found with
  | nil => cases h
  | cons a as ih =>
    rw [best?] at h
    split at h
    · rw [← Option.some.inj h]
      exact List.mem_cons_self
    · next inner hinner =>
      split at h
      · rw [← Option.some.inj h]
        exact List.mem_cons_of_mem _ (ih hinner)
      · rw [← Option.some.inj h]
        exact List.mem_cons_self

theorem mem_of_similarColumn? {bare : List Char} {columns : List String} {column : String}
    (h : similarColumn? bare columns = some column) : column ∈ columns := by
  unfold similarColumn? at h
  split at h
  · next found score hfound =>
    split at h
    · rw [← Option.some.inj h]
      exact mem_of_best? hfound
    · cases h
  · cases h

theorem mem_of_widerColumn? {bare : List Char} {columns : List String} {column : String}
    (h : widerColumn? bare columns = some column) : column ∈ columns := by
  unfold widerColumn? at h
  split at h
  · cases h
  · exact List.mem_of_find?_eq_some h

/-- The three ways in which a name that is no column itself can mean one. -/
theorem or_eq_none_iff_isForeign {columns : List String} {name : String} :
    ((columns.find? fun column => Text.lowerText column == Text.lowerText name)
      |>.or (similarColumn? (bareName name) columns)
      |>.or (widerColumn? (bareName name) columns)) = none ↔ IsForeign columns name := by
  rw [Option.or_eq_none_iff, Option.or_eq_none_iff, List.find?_eq_none]
  constructor
  · rintro ⟨⟨hunlike, hdissimilar⟩, hnarrow⟩
    exact ⟨by simpa using hunlike, hdissimilar, hnarrow⟩
  · rintro ⟨hunlike, hdissimilar, hnarrow⟩
    exact ⟨⟨by simpa using hunlike, hdissimilar⟩, hnarrow⟩

/-- A foreign name stays as it is. -/
theorem resolveName_of_isForeign {columns : List String} {name : String}
    (h : IsForeign columns name) : resolveName columns name = name := by
  rw [resolveName, or_eq_none_iff_isForeign.mpr h]
  split <;> rfl

/-- A name leads to a column exactly if it is not foreign to the columns. -/
theorem resolveName_mem_iff {columns : List String} {name : String} :
    resolveName columns name ∈ columns ↔ ¬ IsForeign columns name := by
  constructor
  · intro hmem hforeign
    rw [resolveName_of_isForeign hforeign] at hmem
    exact hforeign.not_mem hmem
  · intro hforeign
    unfold resolveName
    split
    · next h => exact List.contains_iff_mem.mp h
    · cases hfound : (columns.find? fun column => Text.lowerText column == Text.lowerText name)
          |>.or (similarColumn? (bareName name) columns)
          |>.or (widerColumn? (bareName name) columns) with
      | none => exact absurd (or_eq_none_iff_isForeign.mp hfound) hforeign
      | some column =>
        rw [Option.getD_some]
        rcases Option.or_eq_some_iff.mp hfound with h | ⟨-, h⟩
        · rcases Option.or_eq_some_iff.mp h with h | ⟨-, h⟩
          · exact List.mem_of_find?_eq_some h
          · exact mem_of_similarColumn? h
        · exact mem_of_widerColumn? h

theorem resolveName_of_mem {columns : List String} {name : String} (h : name ∈ columns) :
    resolveName columns name = name := by
  rw [resolveName, if_pos (List.contains_iff_mem.mpr h)]

/-- Without a nameless column, only a nameless phrase leads to none. -/
theorem resolveName_ne_empty_of_not_mem {columns : List String} {name : String}
    (h : "" ∉ columns) (hname : name ≠ "") : resolveName columns name ≠ "" := by
  by_cases hforeign : IsForeign columns name
  · rwa [resolveName_of_isForeign hforeign]
  · intro hempty
    rw [← resolveName_mem_iff, hempty] at hforeign
    exact h hforeign

/-- A resolved name is resolved. -/
theorem resolveName_resolveName (columns : List String) (name : String) :
    resolveName columns (resolveName columns name) = resolveName columns name := by
  by_cases h : IsForeign columns name
  · rw [resolveName_of_isForeign h, resolveName_of_isForeign h]
  · exact resolveName_of_mem (resolveName_mem_iff.mpr h)

end SheetQuery.Schema
