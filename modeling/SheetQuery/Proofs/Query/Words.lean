import SheetQuery.Proofs.Query.ClauseFold
import SheetQuery.Proofs.Text.Passing

/-!
# Words that cut a query

Fillers, ranges and separators are looked for in the whole query, before any clause of it is read. A
text that holds none of them goes through all three passes as it is, and is one clause.

* `stopsAt_afterWholeWord?`: a whole word lies on one side of any character that stands between words;
* `filler?_eq_none`, `range_eq_none`: fillers and ranges start with whole words;
* `clauses_eq_singleton`: a text without fillers, marks and an `and` between blanks is one clause.
-/

namespace SheetQuery.Query

open Text (isBlank isWordChar sameLetter tailsAfterBlanks)

/-! ## Whole words -/

section

variable {d : Char}

theorem isBoundary_append_cons (hd : isWordChar d = false) (before : Option Char)
    (cs rest : List Char) :
    Text.isBoundary before (cs ++ d :: rest).head? = Text.isBoundary before cs.head? := by
  cases cs with
  | nil => simp [Text.isBoundary, hd]
  | cons c cs => rfl

theorem stopsAt_afterWholeWord? {keywords : List (List Char)} (hd : isWordChar d = false)
    (h : ∀ keyword ∈ keywords, ∀ k ∈ keyword, sameLetter k d = false) :
    Text.Recogniser.StopsAt (afterWholeWord? keywords) d := by
  intro before cs rest
  rw [afterWholeWord?, afterWholeWord?, isBoundary_append_cons hd]
  split
  · -- each keyword stands before the character or not at all
    induction keywords with
    | nil => rfl
    | cons keyword keywords ih =>
      have hrest := ih fun other hother => h other (List.mem_cons_of_mem keyword hother)
      rw [List.findSome?_cons, List.findSome?_cons, hrest,
        Text.afterKeyword?_append_cons (h keyword List.mem_cons_self)]
      cases Text.afterKeyword? keyword cs with
      | none => rfl
      | some after =>
        cases hafter : Text.isBoundary keyword.getLast? after.head? with
        | true => simp only [Option.map_some, isBoundary_append_cons hd, hafter, if_true]
        | false =>
          simp only [Option.map_some, isBoundary_append_cons hd, hafter, Bool.false_eq_true, if_false]
  · rfl

end

theorem afterWholeWord?_eq_none_of_subset {keywords others : List (List Char)}
    (hsubset : others ⊆ keywords) {before : Option Char} {cs : List Char}
    (h : afterWholeWord? keywords before cs = none) : afterWholeWord? others before cs = none := by
  unfold afterWholeWord? at h ⊢
  split
  · next hstart =>
    rw [if_pos hstart, List.findSome?_eq_none_iff] at h
    rw [List.findSome?_eq_none_iff]
    exact fun keyword hkeyword => h keyword (hsubset hkeyword)
  · rfl

/-- A keyword that begins a word, where no word is found, is only a part of that word. -/
theorem isBoundary_of_afterWholeWord?_eq_none {keywords : List (List Char)} {before : Option Char}
    {cs rest keyword : List Char} (h : afterWholeWord? keywords before cs = none)
    (hkeyword : keyword ∈ keywords) (hstart : Text.isBoundary before cs.head? = true)
    (hafter : Text.afterKeyword? keyword cs = some rest) :
    Text.isBoundary keyword.getLast? rest.head? = false := by
  rw [afterWholeWord?, if_pos hstart, List.findSome?_eq_none_iff] at h
  have hnone := h keyword hkeyword
  simpa [hafter] using hnone

/-- Whether a word is found does not hang on what stands before the text, as long as that is no word
character. -/
theorem firstMatch?_afterWholeWord?_congr (keywords : List (List Char)) {before other : Option Char}
    (h : before.any isWordChar = other.any isWordChar) (cs : List Char) :
    Text.firstMatch? (afterWholeWord? keywords) before cs =
      Text.firstMatch? (afterWholeWord? keywords) other cs := by
  have hhead : Text.isBoundary before cs.head? = Text.isBoundary other cs.head? := by
    rw [Text.isBoundary, h, Text.isBoundary]
  cases cs <;> simp only [Text.firstMatch?, afterWholeWord?, hhead]

theorem filler?_eq_none (before : Option Char) (cs : List Char)
    (h : afterWholeWord? fillers before cs = none) : filler? before cs = none := by
  rw [filler?, h]
  rfl

/-- A blank follows the `between` of a range, so it is a word of its own. -/
theorem range_eq_none (before : Option Char) (cs : List Char)
    (h : afterWholeWord? ["between".toList] before cs = none) : range before cs = none := by
  have hparts : rangeWithAnd? before cs = none := by
    rw [rangeWithAnd?_eq]
    split
    · next hstart =>
      rw [rangeParts?]
      cases hafter : Text.afterKeyword? "between".toList cs with
      | none => rfl
      | some rest =>
        cases hblanks : Text.afterBlanks? rest with
        | none => simp [hblanks]
        | some after =>
          -- the blank that has to follow is a boundary after the letter
          -- `n`, and then `between` would have been read as a whole word
          have hend := isBoundary_of_afterWholeWord?_eq_none h List.mem_cons_self hstart hafter
          have hn : isWordChar 'n' = true := by decide
          cases rest with
          | nil => cases hblanks
          | cons c rest =>
            rw [Text.afterBlanks?] at hblanks
            split at hblanks
            · next hc => simp [Text.isBoundary, Text.isWordChar_of_isBlank hc, hn] at hend
            · cases hblanks
    · rfl
  rw [range, hparts]
  rfl

/-! ## One clause -/

section

variable {text : List Char}

/-- A text without an `and` between blanks holds no range. -/
theorem substitute_range_eq_self
    (hand : ∀ t ∈ tailsAfterBlanks text,
      (Text.afterKeyword? "and".toList t).bind Text.afterBlanks? = none) :
    Text.substitute range text = text := by
  refine Text.substituteAfter_eq_self (fun before tail htail => ?_) none
  have hparts : rangeParts? tail = none := by
    rw [rangeParts?]
    cases hbetween : (Text.afterKeyword? "between".toList tail).bind Text.afterBlanks? with
    | none => rfl
    | some rest =>
      obtain ⟨after, hafter, hrest⟩ := Option.bind_eq_some_iff.mp hbetween
      have hsuffix := (Text.suffix_of_afterBlanks? hrest).trans
        ((Text.suffix_of_afterKeyword? hafter).trans htail)
      cases hlow : takeNumeral? rest with
      | none => simp [hlow]
      | some low =>
        -- after its first numeral a range has an `and` between blanks
        have hlowSuffix : low.2 <:+ text :=
          (List.IsSuffix.trans ⟨low.1, takesNumeral_takeNumeral?.parts rest low hlow⟩ hsuffix)
        have hnone := Text.bind_afterBlanks?_eq_none hand hlowSuffix
        rw [Option.bind_some, hlow, Option.bind_some, Option.bind_eq_none_iff]
        intro last hlast
        obtain ⟨middle, hmiddle, hlast⟩ := Option.bind_eq_some_iff.mp hlast
        rw [hmiddle, Option.bind_some, hlast, Option.bind_some] at hnone
        rw [hnone]
        rfl
  rw [range, rangeWithAnd?_eq, hparts, ite_self]
  rfl

/-- A text without marks and without an `and` between blanks is not cut. -/
theorem cut_separator?_eq_singleton
    (hand : ∀ t ∈ tailsAfterBlanks text,
      (Text.afterKeyword? "and".toList t).bind Text.afterBlanks? = none)
    (hmarks : ',' ∉ text ∧ ';' ∉ text) : Text.cut separator? text = [text] := by
  apply Text.cut_eq_singleton
  intro tail htail
  have hhead : ∀ mark, mark ∉ text → (tail.head? == some mark) = false := by
    intro mark hmark
    rw [beq_eq_false_iff_ne]
    exact fun hmem => hmark (htail.subset (List.mem_of_mem_head? hmem))
  rw [separator?, Text.bind_afterBlanks?_eq_none hand htail]
  simp [hhead ',' hmarks.1, hhead ';' hmarks.2]

theorem clauses_eq_singleton (hne : text ≠ []) (htrimmed : Text.IsTrimmed isBlank text)
    (hunfilled : Text.firstMatch? (afterWholeWord? fillers) none text = none)
    (hand : ∀ t ∈ tailsAfterBlanks text,
      (Text.afterKeyword? "and".toList t).bind Text.afterBlanks? = none)
    (hmarks : ',' ∉ text ∧ ';' ∉ text) : clauses text = [text] := by
  have hfillers : Text.substitute filler? text = text :=
    Text.substituteAfter_of_firstMatch? filler?_eq_none hunfilled
  have htrim : Text.trim text = text := Text.trimWith_of_isTrimmed htrimmed
  rw [clauses, hfillers]
  simp only [substitute_range_eq_self hand]
  rw [cut_separator?_eq_singleton hand hmarks, List.map_singleton, htrim]
  simp [hne]

/-- The filter of a query that is one clause is the leaf of that clause. -/
theorem filter?_eq_map {clause : List Char} (htrim : Text.trim text = text)
    (hclauses : clauses text = [clause]) (entity : Entity) (columns : List String) :
    filter? entity columns text = (clauseLeaf? entity columns clause).map Filter.leaf := by
  rw [filter?, leaves, htrim, hclauses, List.filterMap_cons]
  cases clauseLeaf? entity columns clause <;> rfl

theorem filter?_eq_leaf {entity : Entity} {columns : List String} {clause : List Char} {leaf : Leaf}
    (htrim : Text.trim text = text) (hclauses : clauses text = [clause])
    (hleaf : clauseLeaf? entity columns clause = some leaf) :
    filter? entity columns text = some (.leaf leaf) := by
  rw [filter?_eq_map htrim hclauses, hleaf]
  rfl

end

end SheetQuery.Query
