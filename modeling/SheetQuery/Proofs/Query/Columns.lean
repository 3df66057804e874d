import SheetQuery.Proofs.Filter.Repair
import SheetQuery.Proofs.Query.Plain

/-!
# The columns that queries name

Every leaf that a query asks for names a column that has a name, also after the name is resolved. So
repair never refuses what was read from a query.

* `resolveName_ne_empty`: resolving a proper name never leads to a column without a name;
* `isProper_columnOf?`: the columns that phrases mean are proper;
* `column_ne_empty_of_filter?`, `column_ne_empty_of_lastResort?`: the leaves of queries.
-/

namespace SheetQuery

open Text (lower)

namespace Schema

/-- A name that is a column's own, or has more in it than separators. -/
def IsProper (columns : List String) (name : String) : Prop :=
  (name ∈ columns ∧ name ≠ "") ∨ bareName name ≠ []

theorem bareName_empty : bareName "" = [] := rfl

theorem IsProper.ne_empty {columns : List String} {name : String} (h : IsProper columns name) :
    name ≠ "" := by
  rcases h with ⟨-, h⟩ | h
  · exact h
  · rintro rfl
    exact h bareName_empty

theorem lowerText_eq_empty_iff {name : String} : Text.lowerText name = "" ↔ name = "" := by
  rw [Text.lowerText, ← String.toList_eq_nil_iff, String.toList_ofList, Text.lower_eq_nil_iff,
    String.toList_eq_nil_iff]

theorem best?_eq_some {α : Type} {score : α → Number} {as : List α} {found : α × Number}
    (h : best? score as = some found) : found.2 = score found.1 := by
  induction as generalizing found with
  | nil => cases h
  | cons a as ih =>
    rw [best?] at h
    split at h
    · rw [← Option.some.inj h]
    · next inner hinner =>
      split at h
      · rw [← Option.some.inj h]
        exact ih hinner
      · rw [← Option.some.inj h]

/-- A column without a name is similar to none that has one. -/
theorem similarColumn?_ne_empty {bare : List Char} {columns : List String} {column : String}
    (hbare : bare ≠ []) (h : similarColumn? bare columns = some column) : column ≠ "" := by
  unfold similarColumn? at h
  split at h
  · next found score hfound =>
    split at h
    · next hscore =>
      obtain rfl := Option.some.inj h
      rintro rfl
      have hzero : score = fraction 0 1 := by
        have hsimilar : score = similarity bare (bareName "") := best?_eq_some hfound
        rw [hsimilar, bareName_empty, similarity, if_neg hbare]
        simp
      rw [hzero] at hscore
      exact absurd hscore (by decide +kernel)
    · cases h
  · cases h

theorem widerColumn?_ne_empty {bare : List Char} {columns : List String} {column : String}
    (h : widerColumn? bare columns = some column) : column ≠ "" := by
  unfold widerColumn? at h
  split at h
  · cases h
  · next hbare =>
    rintro rfl
    have hoccurs := List.find?_some h
    rw [bareName_empty, Text.occursIn] at hoccurs
    exact hbare hoccurs

/-- Resolving a proper name never leads to a column without a name. -/
theorem resolveName_ne_empty {columns : List String} {name : String} (h : IsProper columns name) :
    resolveName columns name ≠ "" := by
  have hname := h.ne_empty
  unfold resolveName
  split
  · exact hname
  · next hmem =>
    -- a name of a column is found as it stands, so one
    -- that is not found is proper by its bare form
    have hbare : bareName name ≠ [] := by
      rcases h with ⟨hin, -⟩ | h
      · exact absurd (List.contains_iff_mem.mpr hin) hmem
      · exact h
    cases hfound : (columns.find? fun column => Text.lowerText column == Text.lowerText name)
        |>.or (similarColumn? (bareName name) columns)
        |>.or (widerColumn? (bareName name) columns) with
    | none => exact hname
    | some column =>
      rw [Option.getD_some]
      rcases Option.or_eq_some_iff.mp hfound with hfound | ⟨-, hfound⟩
      · rcases Option.or_eq_some_iff.mp hfound with hfound | ⟨-, hfound⟩
        · have heq := List.find?_some hfound
          rw [beq_iff_eq] at heq
          rintro rfl
          rw [lowerText_eq_empty_iff.mpr rfl, eq_comm, lowerText_eq_empty_iff] at heq
          exact hname heq
        · exact similarColumn?_ne_empty hbare hfound
      · exact widerColumn?_ne_empty hfound

end Schema

namespace Vocabulary

open Schema (IsProper)

theorem headerLike?_ne_empty {columns : List String} {candidate column : String}
    (hcandidate : candidate ≠ "") (h : headerLike? columns candidate = some column) :
    column ∈ columns ∧ column ≠ "" := by
  refine ⟨List.mem_of_find?_eq_some h, ?_⟩
  have heq := List.find?_some h
  rw [beq_iff_eq] at heq
  rintro rfl
  rw [Schema.lowerText_eq_empty_iff.mpr rfl, eq_comm, Schema.lowerText_eq_empty_iff] at heq
  exact hcandidate heq

/-- A column named by the rules themselves is proper, in the spelling of the headers or its own. -/
theorem isProper_getD_headerLike? (columns : List String) {name : String}
    (h : Schema.bareName name ≠ []) : IsProper columns ((headerLike? columns name).getD name) := by
  have hproper : IsProper columns name := .inr h
  cases hfound : headerLike? columns name with
  | none => exact hproper
  | some column => exact .inl (headerLike?_ne_empty hproper.ne_empty hfound)

theorem bareName_synonyms (entity : Entity) :
    ∀ synonym ∈ synonyms entity, Schema.bareName synonym.2 ≠ [] := by
  cases entity <;> decide

theorem mem_of_lookup {α β : Type} [BEq α] [LawfulBEq α] {entries : List (α × β)} {name : α}
    {value : β} (h : entries.lookup name = some value) : (name, value) ∈ entries := by
  obtain ⟨before, after, rfl, -⟩ := List.lookup_eq_some_iff.mp h
  simp

theorem upper_ne_nil (c : Char) : Text.upper [c] ≠ [] := by
  have hexpansions : ∀ entry ∈ Text.upperExpansions, entry.2 ≠ [] := by decide
  rw [Text.upper, List.flatMap_singleton, Ne, List.map_eq_nil_iff, Text.upperCodes]
  split
  · simp
  · split
    · next codes hcodes => exact hexpansions _ (mem_of_lookup hcodes)
    · simp

/-- The words of a phrase, none of them empty. -/
theorem ne_nil_of_mem_phraseWords {phrase word : List Char} (h : word ∈ phraseWords phrase) :
    word ≠ [] := by
  have := (List.mem_filter.mp h).2
  simpa using this

theorem isProper_headerOf? {columns : List String} {words : List (List Char)} {column : String}
    (hne : words ≠ []) (hwords : ∀ word ∈ words, word ≠ [])
    (h : headerOf? columns words = some column) : IsProper columns column := by
  obtain ⟨first, rest, rfl⟩ := List.exists_cons_of_ne_nil hne
  obtain ⟨c, word, rfl⟩ := List.exists_cons_of_ne_nil (hwords first List.mem_cons_self)
  rcases Option.or_eq_some_iff.mp h with h | ⟨-, h⟩
  · rcases Option.or_eq_some_iff.mp h with h | ⟨-, h⟩
    · refine .inl (headerLike?_ne_empty ?_ h)
      rw [Ne, ← String.toList_eq_nil_iff, String.toList_ofList]
      cases rest <;> simp [joined, List.intercalate]
    · refine .inl ⟨List.mem_of_find?_eq_some h, ?_⟩
      -- the header without a name has no words, and the phrase has one
      have heq := List.find?_some h
      have hempty : phraseWords "".toList = [] := rfl
      rintro rfl
      rw [hempty] at heq
      cases heq
  · refine .inl ⟨List.mem_of_find?_eq_some h, ?_⟩
    have heq := List.find?_some h
    rw [beq_iff_eq] at heq
    rintro rfl
    rw [eq_comm, ← String.toList_eq_nil_iff, String.toList_ofList] at heq
    simp [capitalised, upper_ne_nil] at heq

/-- The columns that phrases mean are proper. -/
theorem isProper_columnOf? {entity : Entity} {columns : List String} {phrase : List Char}
    {column : String} (h : columnOf? entity columns phrase = some column) :
    IsProper columns column := by
  unfold columnOf? at h
  split at h
  · cases h
  · next hne =>
    split at h
    · next name hname =>
      rw [← Option.some.inj h]
      exact isProper_getD_headerLike? columns (bareName_synonyms entity _ (mem_of_lookup hname))
    · exact isProper_headerOf? hne (fun word hword => ne_nil_of_mem_phraseWords hword) h

end Vocabulary

namespace Query

open Schema (IsProper)

/-- The columns that forms name by themselves. -/
def ownColumns : List String := ["PreferredPhases", "Skills", "RequiredSkills"]

/-- A form points at columns by phrases, or at one of its own columns. -/
def Form.PointsProperly (form : Form) : Prop := ∀ cs statement name, form cs = some statement →
  statement.pointer = .column name → name ∈ ownColumns

theorem pointsProperly_of_mem_forms {entity : Entity} {form : Form} (h : form ∈ forms entity) :
    form.PointsProperly := by
  -- a form with a phrase names no column itself
  have hphrase : ∀ read : List Char → Option Test, Form.PointsProperly (phraseForm read) := by
    intro read cs statement name hstatement hname
    obtain ⟨found, -, rfl⟩ := Option.map_eq_some_iff.mp hstatement
    cases hname
  simp only [forms, List.mem_cons, List.not_mem_nil, or_false] at h
  rcases h with rfl | rfl | rfl | rfl | rfl | rfl | rfl | rfl
  · exact hphrase _
  · exact hphrase _
  · exact hphrase _
  · intro cs statement name hstatement hname
    unfold spelledForm at hstatement
    split at hstatement
    · rw [← Option.some.inj hstatement] at hname
      cases hname
    · cases hstatement
  · exact hphrase _
  · intro cs statement name hstatement hname
    obtain ⟨operand, -, rfl⟩ := Option.map_eq_some_iff.mp hstatement
    cases hname
    simp [ownColumns]
  · intro cs statement name hstatement hname
    obtain ⟨operand, -, rfl⟩ := Option.map_eq_some_iff.mp hstatement
    cases hname
    cases entity <;> simp [ownColumns, skillColumn]
  · intro cs statement name hstatement hname
    obtain ⟨operand, -, rfl⟩ := Option.map_eq_some_iff.mp hstatement
    cases hname

/-- A clause is about the column that a phrase of it means, or about a column of its form's own. -/
theorem field_of_clauseLeaf? {entity : Entity} {columns : List String} {clause : List Char}
    {leaf : Leaf} (h : clauseLeaf? entity columns clause = some leaf) :
    (∃ phrase, Vocabulary.columnOf? entity columns phrase = some leaf.field) ∨
      ∃ name ∈ ownColumns, (Vocabulary.headerLike? columns name).getD name = leaf.field := by
  obtain ⟨form, hform, h⟩ := List.exists_of_findSome?_eq_some h
  obtain ⟨statement, hstatement, h⟩ := Option.bind_eq_some_iff.mp h
  obtain ⟨column, hcolumn, rfl⟩ := Option.map_eq_some_iff.mp h
  cases hpointer : statement.pointer with
  | phrase words =>
    rw [hpointer] at hcolumn
    exact .inl ⟨words, hcolumn⟩
  | column name =>
    rw [hpointer] at hcolumn
    exact .inr ⟨name, pointsProperly_of_mem_forms hform clause statement name hstatement hpointer,
      Option.some.inj hcolumn⟩

theorem isProper_clauseLeaf? {entity : Entity} {columns : List String} {clause : List Char}
    {leaf : Leaf} (h : clauseLeaf? entity columns clause = some leaf) :
    IsProper columns leaf.field := by
  have hbare : ∀ name ∈ ownColumns, Schema.bareName name ≠ [] := by decide
  rcases field_of_clauseLeaf? h with ⟨phrase, hphrase⟩ | ⟨name, hown, hname⟩
  · exact Vocabulary.isProper_columnOf? hphrase
  · rw [← hname]
    exact Vocabulary.isProper_getD_headerLike? columns (hbare name hown)

/-- The leaves of a query lead to columns that have a name. -/
theorem column_ne_empty_of_filter? {entity : Entity} {schema : Schema} {text : List Char}
    {filter : Filter} (h : filter? entity schema.names text = some filter) :
    ∀ leaf ∈ filter.leaves, leaf.column schema ≠ "" := by
  intro leaf hleaf
  obtain ⟨clause, -, hclause⟩ := exists_clauseLeaf? h hleaf
  exact Schema.resolveName_ne_empty (isProper_clauseLeaf? hclause)

theorem column_ne_empty_of_lastResort? {entity : Entity} {schema : Schema} {text : List Char}
    {leaf : Leaf} (h : lastResort? entity schema text = some leaf) : leaf.column schema ≠ "" := by
  have hnames : ∀ hint ∈ lastHints entity, hint.column ≠ "" := by
    cases entity <;> simp [lastHints]
  obtain ⟨hint, hmem, h⟩ := List.exists_of_findSome?_eq_some h
  unfold Hint.leaf? at h
  split at h
  · next hcued =>
    obtain ⟨test, -, rfl⟩ := Option.map_eq_some_iff.mp h
    rw [Bool.and_eq_true, List.contains_iff_mem] at hcued
    exact Schema.resolveName_ne_empty (.inl ⟨hcued.2, hnames hint hmem⟩)
  · cases h

end Query

end SheetQuery
