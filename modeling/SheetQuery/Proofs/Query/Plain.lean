import SheetQuery.Proofs.Filter.Plain
import SheetQuery.Query.Hint

/-!
# Queries ask for no patterns

Whatever a query says, neither its clauses nor the hints make a test for a pattern out of it. So the
filter of a query can always be evaluated (`Filter.apply_of_isPlain`).

* `isPlain_filter?`: the filter read from the clauses;
* `isPlain_lastResort?`, `isPlain_preview?`: the leaves that the hints make.
-/

namespace SheetQuery.Query

/-! ## Readers -/

/-- Does every value that a reader gives have a property? -/
def Yields {α : Type} (P : α → Prop) (read : List Char → Option α) : Prop :=
  ∀ cs a, read cs = some a → P a

section

variable {α β : Type} {P : α → Prop} {Q : β → Prop} {read : List Char → Option α}

theorem yields_map {f : α → β} (hf : ∀ a, Q (f a)) (read : List Char → Option α) :
    Yields Q fun cs => (read cs).map f := by
  intro cs b h
  obtain ⟨a, -, rfl⟩ := Option.map_eq_some_iff.mp h
  exact hf a

theorem yields_afterPhrase? (h : Yields P read) :
    Yields (fun found => P found.2) (afterPhrase? read) := by
  intro cs
  induction cs with
  | nil => simp [afterPhrase?]
  | cons c cs ih =>
    intro found hfound
    rw [afterPhrase?] at hfound
    split at hfound
    · split at hfound
      · next a ha =>
        obtain rfl := Option.some.inj hfound
        exact h cs a ha
      · obtain ⟨inner, hinner, rfl⟩ := Option.map_eq_some_iff.mp hfound
        exact ih inner hinner
    · cases hfound

theorem yields_pastBlanks? (h : Yields P read) : Yields P (pastBlanks? read) := by
  intro cs
  induction cs with
  | nil => simp [pastBlanks?]
  | cons c cs ih =>
    intro a ha
    rw [pastBlanks?] at ha
    split at ha
    · rcases Option.or_eq_some_iff.mp ha with ha | ⟨-, ha⟩
      · exact ih a ha
      · exact h cs a ha
    · cases ha

theorem yields_afterWord? (keywords : List String) (h : Yields P read) :
    Yields P (afterWord? keywords read) := by
  intro cs a ha
  obtain ⟨keyword, -, ha⟩ := List.exists_of_findSome?_eq_some ha
  obtain ⟨rest, -, ha⟩ := Option.bind_eq_some_iff.mp ha
  exact yields_pastBlanks? h rest a ha

theorem yields_spaced? (keywords : List String) (h : Yields P read) :
    Yields P (spaced? keywords read) := by
  intro cs a ha
  obtain ⟨rest, -, ha⟩ := Option.bind_eq_some_iff.mp ha
  exact yields_afterWord? keywords h rest a ha

end

/-! ## Clauses -/

/-- Does a form make no tests for patterns? -/
def Form.IsPlain (form : Form) : Prop :=
  Yields (fun statement => ∀ column, (statement.test column).isPattern = false) form

theorem isPlain_phraseForm {read : List Char → Option Test}
    (h : Yields (fun test => test.isPattern = false) read) : Form.IsPlain (phraseForm read) := by
  intro cs statement hstatement
  obtain ⟨found, hfound, rfl⟩ := Option.map_eq_some_iff.mp hstatement
  intro column
  exact yields_afterPhrase? h cs found hfound

theorem isPlain_includesForm : Form.IsPlain includesForm := by
  apply isPlain_phraseForm
  apply yields_spaced?
  apply yields_map
  exact fun _ => rfl

theorem isPlain_equalsForm : Form.IsPlain equalsForm := by
  apply isPlain_phraseForm
  apply yields_spaced?
  apply yields_map
  exact fun _ => rfl

theorem isPlain_signedForm : Form.IsPlain signedForm := by
  apply isPlain_phraseForm
  intro cs test htest
  obtain ⟨sign, -, htest⟩ := List.exists_of_findSome?_eq_some htest
  obtain ⟨rest, -, htest⟩ := Option.bind_eq_some_iff.mp htest
  obtain ⟨operand, -, rfl⟩ := Option.map_eq_some_iff.mp htest
  rfl

theorem isPlain_spelledForm : Form.IsPlain spelledForm := by
  intro cs statement hstatement
  unfold spelledForm at hstatement
  split at hstatement
  · obtain rfl := Option.some.inj hstatement
    exact fun _ => rfl
  · cases hstatement

theorem isPlain_betweenForm : Form.IsPlain betweenForm := by
  apply isPlain_phraseForm
  apply yields_spaced?
  intro cs test htest
  obtain ⟨low, -, htest⟩ := Option.bind_eq_some_iff.mp htest
  obtain ⟨high, -, rfl⟩ := Option.map_eq_some_iff.mp htest
  rfl

theorem isPlain_phaseForm : Form.IsPlain phaseForm :=
  yields_map (fun _ _ => rfl) _

theorem isPlain_skillForm (entity : Entity) : Form.IsPlain (skillForm entity) :=
  yields_map (fun _ _ => rfl) _

theorem isPlain_bareForm : Form.IsPlain bareForm := by
  apply yields_map
  intro found column
  dsimp only
  split <;> rfl

theorem isPlain_of_mem_forms {entity : Entity} {form : Form} (h : form ∈ forms entity) :
    form.IsPlain := by
  simp only [forms, List.mem_cons, List.not_mem_nil, or_false] at h
  rcases h with rfl | rfl | rfl | rfl | rfl | rfl | rfl | rfl
  · exact isPlain_includesForm
  · exact isPlain_equalsForm
  · exact isPlain_signedForm
  · exact isPlain_spelledForm
  · exact isPlain_betweenForm
  · exact isPlain_phaseForm
  · exact isPlain_skillForm entity
  · exact isPlain_bareForm

theorem isPattern_of_clauseLeaf? {entity : Entity} {columns : List String} {clause : List Char}
    {leaf : Leaf} (h : clauseLeaf? entity columns clause = some leaf) :
    leaf.test.isPattern = false := by
  obtain ⟨form, hform, h⟩ := List.exists_of_findSome?_eq_some h
  obtain ⟨statement, hstatement, h⟩ := Option.bind_eq_some_iff.mp h
  obtain ⟨column, -, rfl⟩ := Option.map_eq_some_iff.mp h
  exact isPlain_of_mem_forms hform clause statement hstatement column

/-- A conjunction of leaves has these leaves. -/
theorem leaves_conjunction? {leaves : List Leaf} {filter : Filter}
    (h : conjunction? leaves = some filter) : filter.leaves = leaves := by
  unfold conjunction? at h
  split at h
  · cases h
  · rw [← Option.some.inj h, Filter.leaves]
  · rw [← Option.some.inj h, Filter.leaves]
    have hall : ∀ leaves : List Leaf, Filter.leavesAll (leaves.map Filter.leaf) = leaves := by
      intro leaves
      induction leaves with
      | nil => rfl
      | cons first rest ih => rw [List.map_cons, Filter.leavesAll, ih, Filter.leaves]; rfl
    exact hall _

/-- The leaves of the filter read from a query are what its clauses ask for. -/
theorem leaves_filter? {entity : Entity} {columns : List String} {text : List Char}
    {filter : Filter} (h : filter? entity columns text = some filter) :
    filter.leaves = leaves entity columns text :=
  leaves_conjunction? h

/-- Each leaf of the filter read from a query is that of a clause. -/
theorem exists_clauseLeaf? {entity : Entity} {columns : List String} {text : List Char}
    {filter : Filter} (h : filter? entity columns text = some filter) {leaf : Leaf}
    (hleaf : leaf ∈ filter.leaves) :
    ∃ clause ∈ clauses (Text.trim text), clauseLeaf? entity columns clause = some leaf := by
  rw [leaves_filter? h] at hleaf
  exact List.mem_filterMap.mp hleaf

/-- The filter read from the clauses of a query has no patterns. -/
theorem isPlain_filter? {entity : Entity} {columns : List String} {text : List Char}
    {filter : Filter} (h : filter? entity columns text = some filter) : filter.IsPlain := by
  intro leaf hleaf
  obtain ⟨clause, -, hclause⟩ := exists_clauseLeaf? h hleaf
  exact isPattern_of_clauseLeaf? hclause

/-! ## Hints -/

/-- Does a hint make no tests for patterns? -/
def Hint.IsPlain (hint : Hint) : Prop := Yields (fun test => test.isPattern = false) hint.read

theorem yields_comparedNumber? : Yields (fun test => test.isPattern = false) comparedNumber? := by
  intro cs test h
  unfold comparedNumber? at h
  split at h
  · obtain rfl := Option.some.inj h
    rfl
  · cases h

theorem yields_equalPhrase? : Yields (fun test => test.isPattern = false) equalPhrase? := by
  apply yields_map
  exact fun _ => rfl

theorem yields_groupPhrase? : Yields (fun test => test.isPattern = false) groupPhrase? := by
  intro cs test h
  rcases Option.or_eq_some_iff.mp h with h | ⟨-, h⟩
  · exact yields_equalPhrase? cs test h
  · obtain ⟨phrase, -, rfl⟩ := Option.map_eq_some_iff.mp h
    rfl

theorem isPlain_hints (entity : Entity) : (∀ hint ∈ previewHints entity, hint.IsPlain) ∧
    ∀ hint ∈ lastHints entity, hint.IsPlain := by
  have hphrase : Yields (fun test => test.isPattern = false) includedPhrase? := by
    apply yields_map
    exact fun _ => rfl
  have hnumber : Yields (fun test => test.isPattern = false) includedNumber? := by
    apply yields_map
    exact fun _ => rfl
  have htask : Yields (fun test => test.isPattern = false) requestedTask? := by
    apply yields_map
    exact fun _ => rfl
  have hexceeds : Yields (fun test => test.isPattern = false) exceedsNumber? := by
    apply yields_map
    exact fun _ => rfl
  cases entity <;>
    simp only [previewHints, lastHints, List.forall_mem_cons, List.not_mem_nil, false_implies,
      implies_true, and_true, Hint.IsPlain, hphrase, hnumber, htask, hexceeds,
      yields_comparedNumber?, yields_equalPhrase?, yields_groupPhrase?]

theorem isPlain_firstHint? {hints : List Hint} {columns : List String} {text : List Char}
    {leaf : Leaf} (hhints : ∀ hint ∈ hints, hint.IsPlain)
    (h : firstHint? hints columns text = some leaf) : (Filter.leaf leaf).IsPlain := by
  obtain ⟨hint, hmem, h⟩ := List.exists_of_findSome?_eq_some h
  unfold Hint.leaf? at h
  split at h
  · obtain ⟨test, htest, rfl⟩ := Option.map_eq_some_iff.mp h
    intro other hother
    rw [List.mem_singleton.mp hother]
    exact hhints hint hmem text test htest
  · cases h

theorem isPlain_preview? {entity : Entity} {schema : Schema} {text : List Char} {leaf : Leaf}
    (h : preview? entity schema text = some leaf) : (Filter.leaf leaf).IsPlain :=
  isPlain_firstHint? (isPlain_hints entity).1 h

theorem isPlain_lastResort? {entity : Entity} {schema : Schema} {text : List Char} {leaf : Leaf}
    (h : lastResort? entity schema text = some leaf) : (Filter.leaf leaf).IsPlain :=
  isPlain_firstHint? (isPlain_hints entity).2 h

end SheetQuery.Query
