import SheetQuery.Proofs.Filter.Fold
import SheetQuery.Proofs.Query.Plain
import SheetQuery.Proofs.Query.ReaderFold

/-!
# Clauses up to case

Each form of a clause reads a folded clause as it reads the clause: the phrase means the same column,
numbers are the same, and only the texts looked for have their letters folded. The same then holds of
whole queries, whose clauses are cut in the same places.

* `columnOf?_fold`: the column that a phrase means;
* `folds_clauseLeaf?`: the eight forms, tried in turn;
* `clauses_fold`: the cut;
* `folds_filter?`: the filter that a query asks for.
-/

namespace SheetQuery.Query

open Text (fold lowerChar IsUniform isUniform)

/-! ## Values -/

theorem isUniform_trimWith {p : Char → Bool} {cs : List Char} (h : IsUniform cs) :
    IsUniform (Text.trimWith p cs) := by
  obtain ⟨pre, post, -, -, heq, -⟩ := Text.exists_trimWith p cs
  intro c hc
  apply h c
  rw [heq]
  exact List.mem_append_left _ (List.mem_append_right _ hc)

theorem isUniform_trim {cs : List Char} (h : IsUniform cs) : IsUniform (Text.trim cs) :=
  isUniform_trimWith h

theorem dropOne_fold {c : Char} (hc : Text.isPlainAscii c = true) (cs : List Char) :
    dropOne c (fold cs) = fold (dropOne c cs) := by
  cases cs with
  | nil => rfl
  | cons d cs =>
    rw [Text.fold_cons, dropOne, dropOne, Text.lowerChar_beq hc]
    split <;> rfl

theorem isValueOf_fold {p : Char → Bool} (hp : ∀ c, p (lowerChar c) = p c) (cs : List Char) :
    isValueOf p (fold cs) = isValueOf p cs := by
  have hempty : ∀ body : List Char, (fold body).isEmpty = body.isEmpty := by
    intro body
    cases body <;> rfl
  simp only [isValueOf, dropOne_fold (c := '"') (by decide), ← Text.fold_reverse, hempty,
    Text.all_fold hp]

theorem isSkillChar_lowerChar (c : Char) : isSkillChar (lowerChar c) = isSkillChar c := by
  rw [isSkillChar, Text.isWordChar_lowerChar, Text.lowerChar_beq (by decide),
    Text.lowerChar_beq (by decide), isSkillChar]

theorem isValueChar_lowerChar (c : Char) : isValueChar (lowerChar c) = isValueChar c := by
  rw [isValueChar, isSkillChar_lowerChar, Text.lowerChar_beq (by decide), isValueChar]

theorem folds_valueOf? {p : Char → Bool} (hp : ∀ c, p (lowerChar c) = p c) :
    Folds Cell.fold Cell.IsUniform (valueOf? p) := by
  have hquotes := Text.trimWith_fold (p := (· == '"')) (Text.lowerChar_beq (by decide))
  constructor
  · intro cs _
    rw [valueOf?, valueOf?, isValueOf_fold hp]
    simp only [valueOperand, Text.trim_fold, hquotes, operand_fold]
    split
    · rw [Option.map_some]
    · rfl
  · intro cs hcs a ha
    unfold valueOf? at ha
    split at ha
    · rw [← Option.some.inj ha]
      apply isUniform_operand
      exact isUniform_trim (isUniform_trimWith (isUniform_trim hcs))
    · cases ha

theorem folds_value? : Folds Cell.fold Cell.IsUniform value? := folds_valueOf? isValueChar_lowerChar

/-! ## Columns -/

theorem phraseWords_fold {phrase : List Char} (h : IsUniform phrase) :
    Vocabulary.phraseWords (fold phrase) = Vocabulary.phraseWords phrase := by
  rw [Vocabulary.phraseWords, Text.lower_fold h, Vocabulary.phraseWords]

/-- A phrase means the same column in any case. -/
theorem columnOf?_fold {phrase : List Char} (h : IsUniform phrase) (entity : Entity)
    (columns : List String) : Vocabulary.columnOf? entity columns (fold phrase) =
      Vocabulary.columnOf? entity columns phrase := by
  rw [Vocabulary.columnOf?, phraseWords_fold h, Vocabulary.columnOf?]

/-! ## Statements -/

/-- The pointer with the letters of a phrase folded. -/
def Pointer.fold : Pointer → Pointer
  | phrase words => phrase (Text.fold words)
  | column name => column name

/-- The statement with the letters of its phrase and of what it looks for folded. -/
def Statement.fold (statement : Statement) : Statement :=
  ⟨statement.pointer.fold, fun column => (statement.test column).fold⟩

/-- A statement of uniform letters with tests that queries ask for. -/
structure Statement.IsSpoken (statement : Statement) : Prop where
  pointer : ∀ words, statement.pointer = .phrase words → IsUniform words
  test : ∀ column, (statement.test column).IsSpoken

theorem leaf?_fold {statement : Statement} (h : statement.IsSpoken) (entity : Entity)
    (columns : List String) :
    statement.fold.leaf? entity columns = (statement.leaf? entity columns).map Leaf.fold := by
  have hcolumn : statement.pointer.fold.column? entity columns =
      statement.pointer.column? entity columns := by
    cases hpointer : statement.pointer with
    | phrase words => exact columnOf?_fold (h.pointer words hpointer) entity columns
    | column name => rfl
  rw [Statement.leaf?, Statement.leaf?, Statement.fold, hcolumn, Option.map_map]
  rfl

/-- Does a form read folded clauses as it reads the clauses? -/
def Form.IsFolding (form : Form) : Prop := Folds Statement.fold Statement.IsSpoken form

theorem isFolding_phraseForm {read : List Char → Option Test}
    (h : Folds Test.fold Test.IsSpoken read) : Form.IsFolding (phraseForm read) := by
  apply (folds_afterPhrase? h).map
  · intro found _
    rfl
  · rintro found ⟨hphrase, htest⟩
    refine ⟨?_, fun _ => htest⟩
    rintro words ⟨⟩
    exact hphrase

/-- A comparison with a numeral is the same in any case. -/
theorem fold_compare {operand : Cell} (h : IsCaseless operand) (comparator : Comparator) :
    (Test.compare comparator operand).fold = .compare comparator operand := by
  cases comparator with
  | eq => rw [Test.fold, h.fold]
  | _ => rfl

theorem isSpoken_compare {operand : Cell} (h : operand.IsUniform) (comparator : Comparator) :
    (Test.compare comparator operand).IsSpoken := by
  cases comparator with
  | eq => exact h
  | _ => trivial

theorem isFolding_includesForm : Form.IsFolding includesForm := by
  apply isFolding_phraseForm
  apply folds_spaced?
  apply folds_value?.map
  · exact fun _ _ => rfl
  · exact fun _ h => h

theorem isFolding_equalsForm : Form.IsFolding equalsForm := by
  apply isFolding_phraseForm
  apply folds_spaced?
  apply folds_value?.map
  · exact fun _ _ => rfl
  · exact fun _ h => h

theorem isFolding_signedForm : Form.IsFolding signedForm := by
  apply isFolding_phraseForm
  apply folds_findSome?
  rintro ⟨sign, comparator⟩ _
  have hnumeral : Folds Test.fold Test.IsSpoken fun cs => (numeral? cs).map (Test.compare comparator) :=
    folds_numeral?.map (fun a ha => (fold_compare ha comparator).symm)
      fun a ha => isSpoken_compare ha.uniform comparator
  exact (folds_dropBlanks.after (folds_afterKeyword? sign.toList)).after (folds_dropBlanks.after hnumeral)

theorem spelledComparator?_fold {phrase : List Char} (h : IsUniform phrase) :
    Vocabulary.spelledComparator? (fold phrase) = Vocabulary.spelledComparator? phrase := by
  rw [Vocabulary.spelledComparator?, Text.trim_fold, Text.lower_fold (isUniform_trim h),
    Vocabulary.spelledComparator?]

theorem folds_spelledTest? : Folds id (fun found => IsCaseless found.2) spelledTest? := by
  apply folds_findSome?
  intro keyword _
  have hnumber : Folds id IsCaseless fun cs => (Text.afterBlanks? cs).bind numeral? :=
    folds_afterBlanks?.after folds_numeral?
  have hrest := (folds_afterKeyword? keyword.toList).after hnumber
  -- the comparator is told from the text itself, not from what follows the keyword
  have hmap : ∀ cs, ((Text.afterKeyword? keyword.toList cs).bind fun rest =>
      ((Text.afterBlanks? rest).bind numeral?).map fun operand =>
        (Vocabulary.spelledComparator? (cs.take keyword.length), operand)) =
      ((Text.afterKeyword? keyword.toList cs).bind fun rest =>
        (Text.afterBlanks? rest).bind numeral?).map fun operand =>
          (Vocabulary.spelledComparator? (cs.take keyword.length), operand) := by
    intro cs
    rw [Option.map_bind]
    rfl
  simp only [hmap]
  constructor
  · intro cs hcs
    have htake : IsUniform (cs.take keyword.length) := fun c hc => hcs c (List.mem_of_mem_take hc)
    rw [hrest.reads cs hcs, ← Text.fold_take, spelledComparator?_fold htake, Option.map_id,
      Option.map_id]
    rfl
  · intro cs hcs found hfound
    obtain ⟨operand, hoperand, rfl⟩ := Option.map_eq_some_iff.mp hfound
    exact hrest.kind cs hcs operand hoperand

theorem isFolding_spelledForm : Form.IsFolding spelledForm := by
  have hphrase := folds_afterPhrase? (folds_afterBlanks?.after folds_spelledTest?)
  constructor
  · intro cs hcs
    rw [spelledForm, spelledForm, hphrase.reads cs hcs]
    cases hfound : afterPhrase? (fun rest => (Text.afterBlanks? rest).bind spelledTest?) cs with
    | none => rfl
    | some found =>
      obtain ⟨phrase, comparator, operand⟩ := found
      have hcaseless := (hphrase.kind cs hcs _ hfound).2
      cases comparator with
      | none => rfl
      | some comparator =>
        have hfold := fold_compare hcaseless comparator
        simp only [Option.map_some, id_eq, Statement.fold, ofPhrase, Pointer.fold, hfold]
  · intro cs hcs statement hstatement
    unfold spelledForm at hstatement
    split at hstatement
    · next phrase comparator operand hfound =>
      obtain ⟨hwords, hcaseless⟩ := hphrase.kind cs hcs _ hfound
      rw [← Option.some.inj hstatement]
      refine ⟨?_, fun _ => isSpoken_compare hcaseless.uniform comparator⟩
      rintro words ⟨⟩
      exact hwords
    · cases hstatement

theorem folds_range? (links : List String) : Folds Test.fold Test.IsSpoken (range? links) := by
  have hhigh : ∀ low, IsFolded low → Folds Test.fold Test.IsSpoken fun rest =>
      (spaced? links numeral? rest).map fun high => .between (operand low) high := by
    intro low _
    apply (folds_spaced? links folds_numeral?).map
    · exact fun _ _ => rfl
    · exact fun _ _ => trivial
  exact takesNumeral_takeNumeral?.after hhigh

theorem isFolding_betweenForm : Form.IsFolding betweenForm :=
  isFolding_phraseForm (folds_spaced? _ (folds_range? _))

theorem isFolding_phaseForm : Form.IsFolding phaseForm := by
  apply (folds_afterWord? ["phase"] folds_wholeNumeral?).map
  · intro operand h
    simp only [Statement.fold, Pointer.fold, Test.fold, h.fold, id_eq]
  · intro operand h
    exact ⟨by rintro words ⟨⟩, fun _ => h.uniform⟩

theorem isFolding_skillForm (entity : Entity) : Form.IsFolding (skillForm entity) := by
  apply (folds_afterWord? ["skills", "skill"] (folds_valueOf? isSkillChar_lowerChar)).map
  · exact fun _ _ => rfl
  · intro operand h
    exact ⟨by rintro words ⟨⟩, fun _ => h⟩

theorem isFolding_bareForm : Form.IsFolding bareForm := by
  apply (folds_afterPhrase? (folds_pastBlanks? folds_value?)).map
  · rintro ⟨phrase, operand⟩ _
    simp only [Statement.fold, Pointer.fold, Statement.mk.injEq, true_and]
    funext column
    split <;> rfl
  · rintro ⟨phrase, operand⟩ ⟨hphrase, hoperand⟩
    refine ⟨?_, fun column => ?_⟩
    · rintro words ⟨⟩
      exact hphrase
    · dsimp only
      split
      · exact hoperand
      · exact hoperand

theorem isFolding_of_mem_forms {entity : Entity} {form : Form} (h : form ∈ forms entity) :
    form.IsFolding := by
  simp only [forms, List.mem_cons, List.not_mem_nil, or_false] at h
  rcases h with rfl | rfl | rfl | rfl | rfl | rfl | rfl | rfl
  · exact isFolding_includesForm
  · exact isFolding_equalsForm
  · exact isFolding_signedForm
  · exact isFolding_spelledForm
  · exact isFolding_betweenForm
  · exact isFolding_phaseForm
  · exact isFolding_skillForm entity
  · exact isFolding_bareForm

/-! ## Clauses -/

theorem folds_clauseLeaf? (entity : Entity) (columns : List String) :
    Folds Leaf.fold (fun leaf => leaf.test.IsSpoken) (clauseLeaf? entity columns) := by
  apply folds_findSome?
  intro form hform
  have hfolding := isFolding_of_mem_forms hform
  constructor
  · intro cs hcs
    rw [hfolding.reads cs hcs]
    cases hstatement : form cs with
    | none => rfl
    | some statement => exact leaf?_fold (hfolding.kind cs hcs statement hstatement) entity columns
  · intro cs hcs leaf hleaf
    obtain ⟨statement, hstatement, hleaf⟩ := Option.bind_eq_some_iff.mp hleaf
    obtain ⟨column, -, rfl⟩ := Option.map_eq_some_iff.mp hleaf
    exact (hfolding.kind cs hcs statement hstatement).test column

/-! ## Cutting queries into clauses -/

theorem isFolding_afterWholeWord? (keywords : List (List Char)) :
    (afterWholeWord? keywords).IsFolding := by
  constructor
  · intro before cs
    rw [afterWholeWord?, afterWholeWord?, Text.head?_fold, Text.isBoundary_map_map]
    split
    · rw [List.map_findSome?]
      congr 1
      funext keyword
      rw [Function.comp_apply, Text.afterKeyword?_fold]
      cases Text.afterKeyword? keyword cs with
      | none => rfl
      | some rest =>
        simp only [Option.map_some, Text.head?_fold, Text.isBoundary_map]
        split <;> rfl
    · rfl
  · intro before cs rest h
    unfold afterWholeWord? at h
    split at h
    · obtain ⟨keyword, -, h⟩ := List.exists_of_findSome?_eq_some h
      split at h
      · next other hother =>
        split at h
        · rw [← Option.some.inj h]
          exact Text.mem_of_afterKeyword? hother
        · cases h
      · cases h
    · cases h

theorem beyondFirst_fold (cs rest : List Char) :
    beyondFirst (fold cs) (fold rest) = beyondFirst cs rest := by
  rw [beyondFirst, Text.length_fold, Text.length_fold, beyondFirst]

theorem filler?_fold (before : Option Char) (cs : List Char) :
    filler? (before.map lowerChar) (fold cs) =
      (filler? before cs).map fun found => (found.1, fold found.2) := by
  have hspace : fold [' '] = [' '] := by decide
  rw [filler?, (isFolding_afterWholeWord? fillers).reads before cs, filler?]
  cases afterWholeWord? fillers before cs with
  | none => rfl
  | some rest => simp only [Option.map_some, beyondFirst_fold, hspace]

/-- The numerals of a range with `and`, without the word boundary before it, and the rest. -/
def rangeParts? (cs : List Char) : Option (List Char × List Char × List Char) :=
  ((Text.afterKeyword? "between".toList cs).bind Text.afterBlanks?).bind fun rest =>
    (takeNumeral? rest).bind fun low =>
      ((Text.afterBlanks? low.2).bind (Text.afterKeyword? "and".toList)).bind fun rest =>
        ((Text.afterBlanks? rest).bind takeNumeral?).map fun high => (low.1, high.1, high.2)

theorem rangeWithAnd?_eq (before : Option Char) (cs : List Char) : rangeWithAnd? before cs =
    if Text.isBoundary before cs.head? then rangeParts? cs else none := by
  simp only [rangeWithAnd?, rangeParts?, Option.map_eq_bind]
  rfl

/-- The numerals of a range are found in the same place in any case. -/
theorem folds_rangeParts? : Folds (fun found => (found.1, found.2.1, fold found.2.2))
    (fun found => IsFolded found.1 ∧ IsFolded found.2.1) rangeParts? := by
  have hnumeral : Folds (fun found => (found.1, fold found.2)) (fun found => IsFolded found.1)
      takeNumeral? :=
    ⟨fun cs _ => takesNumeral_takeNumeral?.fold cs, fun _ _ _ h => takesNumeral_takeNumeral?.folded h⟩
  have hhigh : ∀ low, IsFolded low →
      Folds (fun found => (found.1, found.2.1, fold found.2.2))
        (fun found => IsFolded found.1 ∧ IsFolded found.2.1) fun rest =>
          ((Text.afterBlanks? rest).bind (Text.afterKeyword? "and".toList)).bind fun rest =>
            ((Text.afterBlanks? rest).bind takeNumeral?).map fun found =>
              (low, found.1, found.2) := by
    intro low hlow
    apply (folds_afterBlanks?.after (folds_afterKeyword? _)).after
    apply (folds_afterBlanks?.after hnumeral).map
    · exact fun _ _ => rfl
    · exact fun found hfound => ⟨hlow, hfound⟩
  have hbetween := (folds_afterKeyword? "between".toList).after folds_afterBlanks?
  exact hbetween.after (takesNumeral_takeNumeral?.after hhigh)

theorem rangeWithAnd?_fold (before : Option Char) :
    (∀ cs, IsUniform cs → rangeWithAnd? (before.map lowerChar) (fold cs) =
      (rangeWithAnd? before cs).map fun found => (found.1, found.2.1, fold found.2.2)) ∧
    ∀ cs found, IsUniform cs → rangeWithAnd? before cs = some found →
      IsFolded found.1 ∧ IsFolded found.2.1 := by
  constructor
  · intro cs hcs
    rw [rangeWithAnd?_eq, rangeWithAnd?_eq, Text.head?_fold, Text.isBoundary_map_map]
    split
    · exact folds_rangeParts?.reads cs hcs
    · rfl
  · intro cs found hcs hfound
    rw [rangeWithAnd?_eq] at hfound
    split at hfound
    · exact folds_rangeParts?.kind cs hcs found hfound
    · cases hfound

theorem isFolded_range {low high : List Char} (hlow : IsFolded low) (hhigh : IsFolded high) :
    IsFolded ("between ".toList ++ low ++ " to ".toList ++ high) := by
  have hbetween : IsFolded "between ".toList := by
    apply isFolded_of_forall
    decide
  have hto : IsFolded " to ".toList := by
    apply isFolded_of_forall
    decide
  exact ((hbetween.append hlow).append hto).append hhigh

theorem range_fold (before : Option Char) (cs : List Char) (hcs : IsUniform cs) :
    range (before.map lowerChar) (fold cs) =
      (range before cs).map fun found => (found.1, fold found.2) := by
  obtain ⟨hreads, hkind⟩ := rangeWithAnd?_fold before
  rw [range, range, hreads cs hcs]
  cases hfound : rangeWithAnd? before cs with
  | none => rfl
  | some found =>
    obtain ⟨low, high, rest⟩ := found
    obtain ⟨hlow, hhigh⟩ := hkind cs _ hcs hfound
    have hfold := isFolded_range hlow hhigh
    rw [IsFolded] at hfold
    simp only [Option.map_some, beyondFirst_fold, hfold]

theorem separator?_fold (cs : List Char) : separator? (fold cs) = separator? cs := by
  have hand : ∀ cs : List Char, ((Text.afterBlanks? (fold cs)).bind fun rest =>
      (Text.afterKeyword? "and".toList rest).bind Text.afterBlanks?) =
      ((Text.afterBlanks? cs).bind fun rest =>
        (Text.afterKeyword? "and".toList rest).bind Text.afterBlanks?).map fold := by
    intro cs
    rw [Text.afterBlanks?_fold]
    cases Text.afterBlanks? cs with
    | none => rfl
    | some rest =>
      simp only [Option.map_some, Option.bind_some, Text.afterKeyword?_fold]
      cases Text.afterKeyword? "and".toList rest with
      | none => rfl
      | some rest => exact Text.afterBlanks?_fold rest
  have hhead : ∀ d : Char, Text.isPlainAscii d = true →
      ((fold cs).head? == some d) = (cs.head? == some d) := by
    intro d hd
    cases cs with
    | nil => rfl
    | cons c cs => exact Text.lowerChar_beq hd c
  rw [separator?, separator?, hand, hhead ',' (by decide), hhead ';' (by decide)]
  cases (Text.afterBlanks? cs).bind fun rest =>
      (Text.afterKeyword? "and".toList rest).bind Text.afterBlanks? with
  | none => rfl
  | some rest => simp only [Option.map_some, beyondFirst_fold]

theorem isUniform_unfilled {text : List Char} (h : IsUniform text) :
    IsUniform (Text.substitute filler? text) := by
  apply Text.forall_mem_substitute _ h
  intro before cs found _ hfound
  obtain ⟨rest, -, rfl⟩ := Option.map_eq_some_iff.mp hfound
  show ∀ c ∈ [' '], isUniform c = true
  decide

/-- A query is cut into the same clauses in any case. -/
theorem clauses_fold {text : List Char} (h : IsUniform text) :
    clauses (fold text) = (clauses text).map fold := by
  have hfilled := Text.substitute_fold (fun before cs _ => filler?_fold before cs) h
  have hranges := Text.substitute_fold range_fold (isUniform_unfilled h)
  simp only [clauses, hfilled, hranges, Text.cut_fold separator?_fold, List.map_map]
  rw [List.filter_map, List.filter_map, List.map_map]
  simp only [Function.comp_def, Text.trim_fold, ne_eq, Text.fold_eq_nil_iff]

theorem isUniform_of_mem_clauses {text clause : List Char} (h : IsUniform text)
    (hclause : clause ∈ clauses text) : IsUniform clause := by
  have hprepared : IsUniform (Text.substitute range (Text.substitute filler? text)) := by
    apply Text.forall_mem_substitute _ (isUniform_unfilled h)
    intro before cs found hcs hfound
    obtain ⟨numerals, hnumerals, rfl⟩ := Option.map_eq_some_iff.mp hfound
    obtain ⟨hlow, hhigh⟩ := (rangeWithAnd?_fold before).2 cs numerals hcs hnumerals
    exact (isFolded_range hlow hhigh).isUniform
  obtain ⟨piece, hpiece, rfl⟩ := List.mem_map.mp (List.mem_of_mem_filter hclause)
  exact isUniform_trim fun c hc => hprepared c (Text.mem_of_mem_cut hpiece c hc)

/-! ## The filter of a query -/

theorem leaves_fold (entity : Entity) (columns : List String) {text : List Char}
    (h : IsUniform text) :
    leaves entity columns (fold text) = (leaves entity columns text).map Leaf.fold := by
  have htrim := isUniform_trim h
  rw [leaves, leaves, Text.trim_fold, clauses_fold htrim, List.filterMap_map, List.map_filterMap]
  apply List.filterMap_congr
  intro clause hclause
  exact (folds_clauseLeaf? entity columns).reads clause (isUniform_of_mem_clauses htrim hclause)

theorem conjunction?_map (f : Leaf → Leaf) (leaves : List Leaf) :
    conjunction? (leaves.map f) = (conjunction? leaves).map (Filter.mapLeaves f) := by
  have hall : ∀ leaves : List Leaf, Filter.mapLeavesAll f (leaves.map Filter.leaf) =
      (leaves.map f).map Filter.leaf := by
    intro leaves
    induction leaves with
    | nil => rfl
    | cons leaf leaves ih => simp only [List.map_cons, Filter.mapLeavesAll, Filter.mapLeaves, ih]
  match leaves with
  | [] => rfl
  | [leaf] => rfl
  | first :: second :: rest =>
    have hmap := hall (first :: second :: rest)
    simp only [List.map_cons] at hmap
    simp only [List.map_cons, conjunction?, Option.map_some, Filter.mapLeaves, hmap]

/-- A query asks for the same filter in any case, but for the letters of the texts looked for. -/
theorem folds_filter? (entity : Entity) (columns : List String) :
    Folds (Filter.mapLeaves Leaf.fold) Filter.IsSpoken (filter? entity columns) := by
  constructor
  · intro text htext
    rw [filter?, leaves_fold entity columns htext, conjunction?_map, filter?]
  · intro text htext filter hfilter leaf hleaf
    obtain ⟨clause, hmem, hclause⟩ := exists_clauseLeaf? hfilter hleaf
    exact (folds_clauseLeaf? entity columns).kind clause
      (isUniform_of_mem_clauses (isUniform_trim htext) hmem) leaf hclause

end SheetQuery.Query
