import SheetQuery.Query.Hint

/-!
# What the instant answer and the last resort have in common

The hints for an instant answer are meant to be fewer than those of the last resort: where one of them
makes a leaf, the last resort should make one too. All but one are covered by a hint of the last
resort that asks about the same column, applies at least as often and reads at least as much. The one
that is not is the hint for the skills of workers: for an instant answer the word for skills and a verb
of inclusion may stand anywhere in the query, for the last resort the verb must follow the word.

* `Hint.Covers`: a hint that makes a leaf wherever another one does;
* `covered_or_skill`: which hints for an instant answer are covered;
* `AsksLooselyForSkill`, `preview_is_wider_only_for_loose_skill`: where there is an instant answer and
  no last resort.
-/

namespace SheetQuery.Query

/-! ## Hints that cover others -/

section

variable {columns : List String} {text : List Char}

theorem Hint.isSome_leaf?_iff {hint : Hint} : (hint.leaf? columns text).isSome = true ↔
    hint.isCued (Text.lower text) = true ∧ hint.column ∈ columns ∧ (hint.read text).isSome = true := by
  rw [leaf?, ← List.contains_iff_mem, ← and_assoc, ← Bool.and_eq_true]
  split
  · next h => rw [Option.isSome_map, and_iff_right h]
  · next h => exact iff_of_false Bool.false_ne_true fun hall => h hall.1

/-- A hint makes leaves about its own column, if the sheet has it. -/
theorem Hint.field_of_leaf? {hint : Hint} {leaf : Leaf} (h : hint.leaf? columns text = some leaf) :
    leaf.field = hint.column ∧ hint.column ∈ columns := by
  have hsome : (hint.leaf? columns text).isSome = true := by rw [h]; rfl
  refine ⟨?_, (isSome_leaf?_iff.mp hsome).2.1⟩
  unfold leaf? at h
  split at h
  · obtain ⟨test, -, rfl⟩ := Option.map_eq_some_iff.mp h
    rfl
  · cases h

/-- A hint asks about a column of the sheet. -/
theorem field_mem_of_firstHint? {hints : List Hint} {leaf : Leaf}
    (h : firstHint? hints columns text = some leaf) : leaf.field ∈ columns := by
  obtain ⟨hint, -, hleaf⟩ := List.exists_of_findSome?_eq_some h
  obtain ⟨hfield, hmem⟩ := Hint.field_of_leaf? hleaf
  exact hfield ▸ hmem

theorem field_mem_of_lastResort? {entity : Entity} {schema : Schema} {leaf : Leaf}
    (h : lastResort? entity schema text = some leaf) : leaf.field ∈ schema.names :=
  field_mem_of_firstHint? h

/-- Does a hint apply wherever another one does, and read a test about the same column wherever that
one reads one? -/
structure Hint.Covers (wide narrow : Hint) : Prop where
  column : wide.column = narrow.column
  isCued : ∀ lowered, narrow.isCued lowered = true → wide.isCued lowered = true
  read : ∀ text, (narrow.read text).isSome = true → (wide.read text).isSome = true

theorem Hint.Covers.refl (hint : Hint) : hint.Covers hint :=
  ⟨rfl, fun _ h => h, fun _ h => h⟩

theorem Hint.Covers.isSome_leaf? {wide narrow : Hint} (h : wide.Covers narrow)
    (hnarrow : (narrow.leaf? columns text).isSome = true) :
    (wide.leaf? columns text).isSome = true := by
  obtain ⟨hcued, hcolumn, hread⟩ := isSome_leaf?_iff.mp hnarrow
  exact isSome_leaf?_iff.mpr ⟨h.isCued _ hcued, h.column ▸ hcolumn, h.read _ hread⟩

/-- Equality with a phrase is read wherever it is read without the word `group` standing in for its
verb. -/
theorem covers_groupPhrase? (column : String) (isCued : List Char → Bool) :
    Hint.Covers ⟨column, isCued, groupPhrase?⟩ ⟨column, isCued, equalPhrase?⟩ := by
  refine ⟨rfl, fun _ h => h, fun text h => ?_⟩
  obtain ⟨test, htest⟩ := Option.isSome_iff_exists.mp h
  have htest' : equalPhrase? text = some test := htest
  show (groupPhrase? text).isSome = true
  rw [groupPhrase?, htest']
  rfl

/-- A mention of skills needs no verb of inclusion with it. -/
theorem covers_mentionedSkill (column : String) (read : List Char → Option Test) :
    Hint.Covers ⟨column, mentions "skill", read⟩ ⟨column, mentionsIncludedSkill, read⟩ :=
  ⟨rfl, fun _ h => (Bool.and_eq_true_iff.mp h).1, fun _ h => h⟩

end

/-! ## The two lists -/

/-- Every hint for an instant answer but that for the skills of workers is covered by one of the last
resort. -/
theorem covered_or_skill (entity : Entity) : ∀ hint ∈ previewHints entity,
    (∃ wide ∈ lastHints entity, wide.Covers hint) ∨
      entity = .workers ∧ hint = ⟨"Skills", mentionsIncludedSkill, includedPhrase?⟩ := by
  have hsame : ∀ {hint : Hint}, hint ∈ lastHints entity →
      (∃ wide ∈ lastHints entity, wide.Covers hint) ∨
        entity = .workers ∧ hint = ⟨"Skills", mentionsIncludedSkill, includedPhrase?⟩ :=
    fun hmem => .inl ⟨_, hmem, .refl _⟩
  intro hint hhint
  -- most hints for an instant answer stand in the list for the last resort themselves
  cases entity with
  | workers =>
    simp only [previewHints, List.mem_cons, List.not_mem_nil, or_false] at hhint
    rcases hhint with rfl | rfl | rfl
    · exact .inr ⟨rfl, rfl⟩
    · exact hsame (by simp [lastHints])
    · exact hsame (by simp [lastHints])
  | clients =>
    simp only [previewHints, List.mem_cons, List.not_mem_nil, or_false] at hhint
    rcases hhint with rfl | rfl | rfl
    · exact hsame (by simp [lastHints])
    · exact .inl ⟨_, by simp [lastHints], covers_groupPhrase? "GroupTag" (mentions "group")⟩
    · exact hsame (by simp [lastHints])
  | tasks =>
    simp only [previewHints, List.mem_cons, List.not_mem_nil, or_false] at hhint
    rcases hhint with rfl | rfl | rfl
    · exact hsame (by simp [lastHints])
    · exact hsame (by simp [lastHints])
    · exact .inl ⟨_, by simp [lastHints], covers_mentionedSkill "RequiredSkills" includedPhrase?⟩

/-- Does a query about workers ask for skills, with a phrase after a verb of inclusion that does not
follow the word for skills, while no other hint of the last resort makes a leaf of it? -/
structure AsksLooselyForSkill (columns : List String) (text : List Char) : Prop where
  column : "Skills" ∈ columns
  mentioned : mentionsIncludedSkill (Text.lower text) = true
  phrase : (includedPhrase? text).isSome = true
  detached : asksForSkill (Text.lower text) = false
  silent : ∀ hint ∈ lastHints .workers, hint.column ≠ "Skills" → hint.leaf? columns text = none

/-- Instant answers and last resorts are about columns of the sheet. Where there is an instant answer
there is a last resort too, for every query but one about workers that asks loosely for skills. -/
theorem preview_is_wider_only_for_loose_skill (entity : Entity) (schema : Schema)
    (text : List Char) :
    (∀ leaf, preview? entity schema text = some leaf ∨ lastResort? entity schema text = some leaf →
      leaf.field ∈ schema.names) ∧
    ((preview? entity schema text).isSome = true ∧ lastResort? entity schema text = none ↔
      entity = .workers ∧ AsksLooselyForSkill schema.names text) := by
  refine ⟨?_, ?_, ?_⟩
  · rintro leaf (h | h)
    · exact field_mem_of_firstHint? h
    · exact field_mem_of_lastResort? h
  · rintro ⟨hpreview, hlast⟩
    rw [lastResort?, firstHint?, List.findSome?_eq_none_iff] at hlast
    obtain ⟨leaf, hleaf⟩ := Option.isSome_iff_exists.mp hpreview
    obtain ⟨hint, hmem, hhint⟩ := List.exists_of_findSome?_eq_some hleaf
    have hsome : (hint.leaf? schema.names text).isSome = true := by rw [hhint]; rfl
    rcases covered_or_skill entity hint hmem with ⟨wide, hwide, hcovers⟩ | ⟨rfl, rfl⟩
    · -- a hint that covers the one of the instant answer is not silent
      have hloud := hcovers.isSome_leaf? hsome
      rw [hlast wide hwide] at hloud
      cases hloud
    · obtain ⟨hmentioned, hcolumn, hphrase⟩ := Hint.isSome_leaf?_iff.mp hsome
      refine ⟨rfl, hcolumn, hmentioned, hphrase, ?_, fun other hother _ => hlast other hother⟩
      rw [Bool.eq_false_iff]
      intro hasks
      have hloud : (Hint.leaf? schema.names text
          ⟨"Skills", asksForSkill, includedPhrase?⟩).isSome = true :=
        Hint.isSome_leaf?_iff.mpr ⟨hasks, hcolumn, hphrase⟩
      rw [hlast _ (by simp [lastHints])] at hloud
      cases hloud
  · rintro ⟨rfl, h⟩
    constructor
    · have hsome : (Hint.leaf? schema.names text
          ⟨"Skills", mentionsIncludedSkill, includedPhrase?⟩).isSome = true :=
        Hint.isSome_leaf?_iff.mpr ⟨h.mentioned, h.column, h.phrase⟩
      obtain ⟨leaf, hleaf⟩ := Option.isSome_iff_exists.mp hsome
      rw [preview?, firstHint?, previewHints, List.findSome?_cons, hleaf]
      rfl
    · rw [lastResort?, firstHint?, List.findSome?_eq_none_iff]
      intro hint hhint
      by_cases hcolumn : hint.column = "Skills"
      · -- only the first hint is about skills, and it does not apply
        have honly : hint = ⟨"Skills", asksForSkill, includedPhrase?⟩ := by
          simp only [lastHints, List.mem_cons, List.not_mem_nil, or_false] at hhint
          rcases hhint with rfl | rfl | rfl | rfl
          · rfl
          all_goals exact absurd hcolumn (by decide)
        simp only [honly, Hint.leaf?, h.detached, Bool.false_and, Bool.false_eq_true, if_false]
      · exact h.silent hint hhint hcolumn

/-- A word between the skills and the verb is enough for an instant answer without a last resort. -/
theorem skill_that_contains_python_is_only_previewed :
    let schema : Schema := [⟨"Skills", .array, []⟩]
    let text := "skill that contains python".toList
    (preview? .workers schema text).isSome = true ∧ lastResort? .workers schema text = none := by
  intro schema text
  have hloose : AsksLooselyForSkill schema.names text := by
    refine ⟨by decide, by decide +kernel, by decide +kernel, by decide +kernel, ?_⟩
    intro hint hhint hcolumn
    have hmissing : schema.names.contains hint.column = false := by
      simpa [schema, Schema.names] using hcolumn
    rw [Hint.leaf?, hmissing, Bool.and_false]
    rfl
  exact (preview_is_wider_only_for_loose_skill .workers schema text).2.mpr ⟨rfl, hloose⟩

end SheetQuery.Query
