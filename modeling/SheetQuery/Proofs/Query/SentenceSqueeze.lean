import SheetQuery.Proofs.Query.ClauseSqueeze
import SheetQuery.Query.Sentence

/-!
# Queries and runs of blanks

Filler words, ranges and separators are found in a squeezed query as in the query. So queries with the
same squeezed form are cut into clauses of the same squeezed form, and they have the same leaves if
their clauses are evenly spaced.

* `isSolid_afterWholeWord?`: whole words;
* `isSolid_fillerRewriter`, `isSolid_rangeRewriter`, `isSolid_clauseSeparator`: what a query is cut with;
* `map_squeeze_clauses`: the clauses;
* `leaves_fold_squeeze`: the leaves, by the squeezed clauses of the folded query.
-/

namespace SheetQuery.Query

open Text (squeeze isBlank IsUniform fold)

/-! ## Whole words -/

/-- Words are recognised in a squeezed text as in the text, if they are not empty and have no blanks. -/
theorem isSolid_afterWholeWord? {keywords : List (List Char)}
    (h : ∀ keyword ∈ keywords, keyword ≠ [] ∧ ∀ k ∈ keyword, isBlank k = false) :
    (afterWholeWord? keywords).IsSolid := by
  constructor
  · intro before cs hcs
    unfold afterWholeWord?
    split
    · rw [List.findSome?_eq_none_iff]
      intro keyword hkeyword
      obtain ⟨hne, hblank⟩ := h keyword hkeyword
      obtain ⟨k, ks, rfl⟩ := List.exists_cons_of_ne_nil hne
      rw [Text.afterKeyword?_of_blank (hblank k List.mem_cons_self) ks hcs]
    · rfl
  · intro before other cs hcs hbefore
    rw [afterWholeWord?, afterWholeWord?, hbefore.isBoundary_squeeze hcs]
    split
    · rw [List.map_findSome?]
      apply findSome?_congr
      intro keyword hkeyword
      rw [Text.afterKeyword?_squeeze (h keyword hkeyword).2, Function.comp_apply]
      cases Text.afterKeyword? keyword cs with
      | none => rfl
      | some rest =>
        simp only [Option.map_some, Text.isBoundary_head?_squeeze]
        split <;> rfl
    · rfl

/-- A word ends outside blanks. -/
theorem exists_last_of_afterKeyword? {keyword cs rest : List Char} (hne : keyword ≠ [])
    (hblank : ∀ k ∈ keyword, isBlank k = false) (h : Text.afterKeyword? keyword cs = some rest) :
    ∃ piece last, cs = piece ++ last :: rest ∧ isBlank last = false := by
  induction keyword generalizing cs with
  | nil => exact absurd rfl hne
  | cons k ks ih =>
    cases cs with
    | nil => cases h
    | cons c cs =>
      rw [Text.afterKeyword?] at h
      split at h
      · next hc =>
        -- only the last letter of the word matters; the earlier ones go into the piece
        cases ks with
        | nil =>
          rw [← Option.some.inj h]
          exact ⟨[], c, rfl, Text.isBlank_of_sameLetter hc ▸ hblank k List.mem_cons_self⟩
        | cons l ls =>
          obtain ⟨piece, last, rfl, hlast⟩ :=
            ih (List.cons_ne_nil l ls) (fun m hm => hblank m (List.mem_cons_of_mem k hm)) h
          exact ⟨c :: piece, last, rfl, hlast⟩
      · cases h

/-! ## Fillers and ranges -/

/-- The filler word at a place of a text, with what is written for it. -/
def fillerRewriter : Text.Rewriter := fun before cs =>
  (afterWholeWord? fillers before cs).map fun rest => ([' '], rest)

theorem scan_fillerRewriter : fillerRewriter.scan = filler? := by
  funext before cs
  rw [Text.Rewriter.scan, fillerRewriter, Option.map_map]
  rfl

theorem isSolid_fillerRewriter : fillerRewriter.IsSolid := by
  have hfillers : ∀ filler ∈ fillers, filler ≠ [] ∧ ∀ k ∈ filler, isBlank k = false := by decide
  have hsolid := isSolid_afterWholeWord? hfillers
  constructor
  · intro before cs hcs
    rw [fillerRewriter, hsolid.blank before cs hcs]
    rfl
  · intro before cs found hfound
    obtain ⟨rest, hrest, rfl⟩ := Option.map_eq_some_iff.mp hfound
    unfold afterWholeWord? at hrest
    split at hrest
    · obtain ⟨filler, hfiller, hafter⟩ := List.exists_of_findSome?_eq_some hrest
      split at hafter
      · next other hother =>
        split at hafter
        · rw [Option.some.inj hafter] at hother
          exact exists_last_of_afterKeyword? (hfillers filler hfiller).1 (hfillers filler hfiller).2
            hother
        · cases hafter
      · cases hafter
    · cases hrest
  · intro before other cs hcs hbefore
    rw [fillerRewriter, fillerRewriter, hsolid.reads before other cs hcs hbefore, Option.map_map,
      Option.map_map]
    rfl

/-- The range with `and` at a place of a text, with what is written for it. -/
def rangeRewriter : Text.Rewriter := fun before cs =>
  (rangeWithAnd? before cs).map fun (low, high, rest) =>
    ("between ".toList ++ low ++ " to ".toList ++ high, rest)

theorem scan_rangeRewriter : rangeRewriter.scan = range := by
  funext before cs
  rw [Text.Rewriter.scan, rangeRewriter, Option.map_map]
  rfl

theorem bind_squeeze_map {α : Type} (step : Step) {read : List Char → Option α} {f : α → α}
    {cs : List Char} (hstep : step (squeeze cs) = (step cs).map squeeze)
    (hread : ∀ rest, read (squeeze rest) = (read rest).map f) :
    (step (squeeze cs)).bind read = ((step cs).bind read).map f := by
  rw [hstep]
  cases step cs with
  | none => rfl
  | some rest => exact hread rest

theorem rangeParts?_squeeze (cs : List Char) : rangeParts? (squeeze cs) =
    (rangeParts? cs).map fun found => (found.1, found.2.1, squeeze found.2.2) := by
  have hafter : ∀ {keyword : String}, (∀ k ∈ keyword.toList, isBlank k = false) → ∀ cs,
      Text.afterKeyword? keyword.toList (squeeze cs) =
        (Text.afterKeyword? keyword.toList cs).map squeeze := fun h cs =>
    Text.afterKeyword?_squeeze h cs
  apply bind_squeeze_map fun cs => (Text.afterKeyword? "between".toList cs).bind Text.afterBlanks?
  · exact bind_squeeze_map _ (hafter (by decide) cs) Text.afterBlanks?_squeeze
  · intro rest
    rw [takesSolid_takeNumeral?.reads]
    cases takeNumeral? rest with
    | none => rfl
    | some low =>
      apply bind_squeeze_map fun cs => (Text.afterBlanks? cs).bind (Text.afterKeyword? "and".toList)
      · exact bind_squeeze_map _ (Text.afterBlanks?_squeeze low.2) (hafter (by decide))
      · intro rest
        have hhigh := bind_squeeze_map _ (Text.afterBlanks?_squeeze rest) takesSolid_takeNumeral?.reads
        rw [hhigh, Option.map_map, Option.map_map]
        rfl

/-- A range ends with a numeral. -/
theorem exists_last_of_rangeParts? {cs low high rest : List Char}
    (h : rangeParts? cs = some (low, high, rest)) :
    ∃ piece last, cs = piece ++ last :: rest ∧ isBlank last = false := by
  obtain ⟨r₁, h₁, h⟩ := Option.bind_eq_some_iff.mp h
  obtain ⟨found, h₂, h⟩ := Option.bind_eq_some_iff.mp h
  obtain ⟨r₃, h₃, h⟩ := Option.bind_eq_some_iff.mp h
  obtain ⟨last, h₄, heq⟩ := Option.map_eq_some_iff.mp h
  obtain ⟨r₄, h₄, hlast⟩ := Option.bind_eq_some_iff.mp h₄
  obtain ⟨rfl, rfl, rfl⟩ : found.1 = low ∧ last.1 = high ∧ last.2 = rest := by
    simpa only [Prod.mk.injEq] using heq
  -- each part is read from a rest of the text
  have hsuffix : r₄ <:+ cs := by
    obtain ⟨s₁, hs₁, h₁⟩ := Option.bind_eq_some_iff.mp h₁
    obtain ⟨s₃, hs₃, h₃⟩ := Option.bind_eq_some_iff.mp h₃
    have hfound : found.2 <:+ r₁ := ⟨found.1, takesNumeral_takeNumeral?.parts _ _ h₂⟩
    exact (Text.suffix_of_afterBlanks? h₄).trans <| (Text.suffix_of_afterKeyword? h₃).trans <|
      (Text.suffix_of_afterBlanks? hs₃).trans <| hfound.trans <|
      (Text.suffix_of_afterBlanks? h₁).trans (Text.suffix_of_afterKeyword? hs₁)
  obtain ⟨before, rfl⟩ := hsuffix
  have hne := takesSolid_takeNumeral?.ne_nil _ _ hlast
  have hchars := takesNumeral_takeNumeral?.chars _ _ hlast
  refine ⟨before ++ last.1.dropLast, last.1.getLast hne, ?_,
    not_isBlank_of_isNumeralChar (hchars _ (List.getLast_mem hne))⟩
  rw [List.append_assoc, List.append_cons, List.dropLast_append_getLast,
    takesNumeral_takeNumeral?.parts _ _ hlast]

theorem isSolid_rangeRewriter : rangeRewriter.IsSolid := by
  constructor
  · intro before cs hcs
    have hparts : rangeParts? cs = none := by
      have hbetween : Text.afterKeyword? "between".toList cs = none :=
        Text.afterKeyword?_of_blank (by decide) _ hcs
      rw [rangeParts?, hbetween]
      rfl
    rw [rangeRewriter, rangeWithAnd?_eq, hparts, ite_self]
    rfl
  · intro before cs found hfound
    obtain ⟨⟨low, high, rest⟩, hparts, rfl⟩ := Option.map_eq_some_iff.mp hfound
    rw [rangeWithAnd?_eq] at hparts
    split at hparts
    · exact exists_last_of_rangeParts? hparts
    · cases hparts
  · intro before other cs hcs hbefore
    rw [rangeRewriter, rangeRewriter, rangeWithAnd?_eq, rangeWithAnd?_eq,
      hbefore.isBoundary_squeeze hcs, rangeParts?_squeeze]
    split
    · rw [Option.map_map, Option.map_map]
      rfl
    · rfl

/-! ## Separators -/

/-- The text after the separator at a place of a text. -/
def clauseSeparator : Text.Separator := fun cs =>
  ((Text.afterBlanks? cs).bind fun rest =>
      (Text.afterKeyword? "and".toList rest).bind Text.afterBlanks?).or
    (if cs.head? == some ',' || cs.head? == some ';' then some cs.tail else none)

theorem scan_clauseSeparator : clauseSeparator.scan = separator? := by
  funext cs
  rw [Text.Separator.scan, clauseSeparator, separator?]
  cases (Text.afterBlanks? cs).bind fun rest =>
      (Text.afterKeyword? "and".toList rest).bind Text.afterBlanks? with
  | some rest => rfl
  | none =>
    rw [Option.none_or]
    split
    · cases cs with
      | nil => rfl
      | cons c cs =>
        have hlength : (c :: cs).length - (c :: cs).tail.length - 1 = 0 := by
          rw [List.tail_cons, List.length_cons]
          omega
        rw [Option.map_some, hlength]
    · rfl

/-- The text after an `and` between blanks. -/
def afterAnd? (cs : List Char) : Option (List Char) :=
  (Text.afterBlanks? cs).bind fun rest =>
    (Text.afterKeyword? "and".toList rest).bind Text.afterBlanks?

/-- The text after a mark. -/
def afterMark? (cs : List Char) : Option (List Char) :=
  if cs.head? == some ',' || cs.head? == some ';' then some cs.tail else none

theorem clauseSeparator_eq (cs : List Char) :
    clauseSeparator cs = (afterAnd? cs).or (afterMark? cs) := rfl

theorem exists_of_afterAnd? {cs rest : List Char} (h : afterAnd? cs = some rest) :
    ∃ c piece, cs = c :: piece ++ rest := by
  obtain ⟨after, hafter, hand⟩ := Option.bind_eq_some_iff.mp h
  obtain ⟨word, hword, hrest⟩ := Option.bind_eq_some_iff.mp hand
  have hsuffix : rest <:+ after :=
    (Text.suffix_of_afterBlanks? hrest).trans (Text.suffix_of_afterKeyword? hword)
  cases cs with
  | nil => cases hafter
  | cons c cs =>
    rw [Text.afterBlanks?] at hafter
    split at hafter
    · rw [← Option.some.inj hafter] at hsuffix
      obtain ⟨piece, hpiece⟩ := hsuffix.trans (List.dropWhile_suffix isBlank)
      exact ⟨c, piece, by rw [List.cons_append, hpiece]⟩
    · cases hafter

theorem exists_of_afterMark? {cs rest : List Char} (h : afterMark? cs = some rest) :
    ∃ c piece, cs = c :: piece ++ rest := by
  unfold afterMark? at h
  split at h
  · next hhead =>
    cases cs with
    | nil => simp at hhead
    | cons c cs =>
      rw [← Option.some.inj h]
      exact ⟨c, [], rfl⟩
  · cases h

theorem afterAnd?_squeeze (cs : List Char) : afterAnd? (squeeze cs) = (afterAnd? cs).map squeeze := by
  apply bind_squeeze_map _ (Text.afterBlanks?_squeeze cs)
  intro rest
  have hkeyword : Text.afterKeyword? "and".toList (squeeze rest) =
      (Text.afterKeyword? "and".toList rest).map squeeze :=
    Text.afterKeyword?_squeeze (by decide) rest
  exact bind_squeeze_map _ hkeyword Text.afterBlanks?_squeeze

/-- Neither mark is a blank. -/
theorem afterMark?_of_blank {cs : List Char} (h : cs.head?.any isBlank = true) :
    afterMark? cs = none := by
  have hhead : ∀ mark : Char, isBlank mark = false → (cs.head? == some mark) = false := by
    intro mark hmark
    rw [beq_eq_false_iff_ne]
    intro hhead
    rw [hhead, Option.any_some, hmark] at h
    cases h
  rw [afterMark?, hhead ',' (by decide), hhead ';' (by decide)]
  rfl

theorem afterMark?_squeeze (cs : List Char) :
    afterMark? (squeeze cs) = (afterMark? cs).map squeeze := by
  cases cs with
  | nil => rfl
  | cons c cs =>
    cases hc : isBlank c with
    | false =>
      rw [Text.squeeze_cons_of_not_blank hc, afterMark?, afterMark?, List.head?_cons, List.head?_cons]
      split <;> rfl
    | true =>
      have hblank : (c :: cs).head?.any isBlank = true := hc
      have hsqueezed : (squeeze (c :: cs)).head?.any isBlank = true := by
        rw [Text.any_isBlank_head?_squeeze, hblank]
      rw [afterMark?_of_blank hblank, afterMark?_of_blank hsqueezed]
      rfl

theorem isSolid_clauseSeparator : clauseSeparator.IsSolid := by
  constructor
  · intro cs rest h
    rcases Option.or_eq_some_iff.mp h with hand | ⟨-, hmark⟩
    · exact exists_of_afterAnd? hand
    · exact exists_of_afterMark? hmark
  · intro cs
    rw [clauseSeparator_eq, clauseSeparator_eq, afterAnd?_squeeze, afterMark?_squeeze]
    cases afterAnd? cs <;> rfl

/-! ## Clauses -/

/-- Queries with the same squeezed form are cut into clauses with the same squeezed forms. -/
theorem map_squeeze_clauses {text other : List Char} (h : squeeze text = squeeze other) :
    (clauses text).map squeeze = (clauses other).map squeeze := by
  have hclauses : ∀ text : List Char, (clauses text).map squeeze =
      (((Text.cut clauseSeparator.scan (Text.substitute rangeRewriter.scan
        (Text.substitute fillerRewriter.scan text))).map squeeze).map Text.trim).filter (· ≠ []) := by
    intro text
    rw [clauses, scan_clauseSeparator, scan_rangeRewriter, scan_fillerRewriter, List.map_map,
      List.filter_map, List.filter_map, List.map_map]
    simp only [Function.comp_def, Text.trim_squeeze, ne_eq, Text.squeeze_eq_nil_iff]
  -- what is written for a filler touches blanks, so only the squeezed forms agree after each pass
  have hfilled := Text.squeeze_substitute_congr isSolid_fillerRewriter h
  have hranges := Text.squeeze_substitute_congr isSolid_rangeRewriter hfilled
  rw [hclauses, hclauses, Text.map_squeeze_cut_congr isSolid_clauseSeparator hranges]

/-- Clauses do not start with blanks. -/
theorem head?_of_mem_clauses {text clause : List Char} (h : clause ∈ clauses text) :
    clause.head?.any isBlank = false := by
  obtain ⟨piece, -, rfl⟩ := List.mem_map.mp (List.mem_of_mem_filter h)
  cases hhead : (Text.trim piece).head? with
  | none => rfl
  | some c => exact (Text.isTrimmed_trim piece).1 c hhead

/-! ## Leaves -/

/-- The leaves of a query whose clauses are evenly spaced hang on the squeezed clauses only. -/
theorem leaves_fold_squeeze {entity : Entity} {columns : List String} {text : List Char}
    (huniform : IsUniform text)
    (h : ∀ clause ∈ clauses (Text.trim text), IsEvenlySpaced entity columns clause) :
    leaves entity columns (fold text) =
      ((clauses (fold (Text.trim text))).map squeeze).filterMap (clauseLeaf? entity columns) := by
  have htrim := isUniform_trim huniform
  rw [leaves, Text.trim_fold, clauses_fold htrim, List.map_map, List.filterMap_map,
    List.filterMap_map]
  apply List.filterMap_congr
  intro clause hclause
  have hplain := isUniform_of_mem_clauses htrim hclause
  have hfolds := folds_clauseLeaf? entity columns
  -- both changes of a clause are harmless, but only in this
  -- order: squeezing is shown on the clause as it is typed
  calc clauseLeaf? entity columns (fold clause)
      = (clauseLeaf? entity columns clause).map Leaf.fold := hfolds.reads clause hplain
    _ = (clauseLeaf? entity columns (squeeze clause)).map Leaf.fold := by
        rw [clauseLeaf?_squeeze (h clause hclause) hplain (head?_of_mem_clauses hclause)]
    _ = clauseLeaf? entity columns (fold (squeeze clause)) :=
        (hfolds.reads _ (Text.isUniform_squeeze hplain)).symm
    _ = clauseLeaf? entity columns (squeeze (fold clause)) := by rw [Text.squeeze_fold]

end SheetQuery.Query
