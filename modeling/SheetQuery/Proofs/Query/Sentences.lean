import SheetQuery.Proofs.Query.SentenceSqueeze
import SheetQuery.Proofs.Query.Words

/-!
# Sentences of clauses

Fillers, ranges and separators are looked for in the whole query. If each of its clauses holds none of
them, then neither does the query but for the separators put between the clauses: a filler, a range or a
separator never reaches across one. So the clauses are read as they are read alone, and one that cannot
be read takes nothing from the others.

* `IsClause`: a text that is one clause wherever it stands;
* `Joint`, `sentence`: clauses joined by commas, semicolons and `and`;
* `firstMatch?_sentence`, `cut_sentence`: what the passes find in a sentence;
* `clauses_sentence`: the clauses of a sentence;
* `clauses_are_read_independently`: its leaves.
-/

namespace SheetQuery.Query

open Text (isBlank isWordChar sameLetter)

/-- The words by which queries are cut, or that are blanked before. -/
def cuttingWords : List (List Char) :=
  ["and".toList, "where".toList, "with".toList, "between".toList]

/-- A text that is one clause of a query wherever it stands in it. -/
structure IsClause (cs : List Char) : Prop where
  ne_nil : cs ≠ []
  trimmed : Text.IsTrimmed isBlank cs
  unmarked : ',' ∉ cs ∧ ';' ∉ cs
  wordless : Text.firstMatch? (afterWholeWord? cuttingWords) none cs = none

instance (cs : List Char) : Decidable (IsClause cs) :=
  decidable_of_iff (cs ≠ [] ∧ Text.IsTrimmed isBlank cs ∧ (',' ∉ cs ∧ ';' ∉ cs) ∧
      (Text.firstMatch? (afterWholeWord? cuttingWords) none cs).isNone = true)
    ⟨fun ⟨hne, htrimmed, hmarks, hwords⟩ =>
        ⟨hne, htrimmed, hmarks, Option.isNone_iff_eq_none.mp hwords⟩,
      fun h => ⟨h.ne_nil, h.trimmed, h.unmarked, Option.isNone_iff_eq_none.mpr h.wordless⟩⟩

/-- What stands between two clauses. -/
inductive Joint where
  | comma | semicolon | and
deriving DecidableEq, Repr

def Joint.text : Joint → List Char
  | comma => [',']
  | semicolon => [';']
  | and => " and ".toList

/-- Clauses, each after its joint. -/
def continued (parts : List (Joint × List Char)) : List Char :=
  parts.flatMap fun part => part.1.text ++ part.2

/-- Clauses with joints between them; there is none before the first clause. -/
def sentence : List (Joint × List Char) → List Char
  | [] => []
  | first :: rest => first.2 ++ continued rest

@[simp] theorem continued_nil : continued [] = [] := rfl

@[simp] theorem continued_cons (joint : Joint) (clause : List Char)
    (rest : List (Joint × List Char)) :
    continued ((joint, clause) :: rest) = joint.text ++ (clause ++ continued rest) := by
  simp [continued]

/-- The first characters of joints. -/
def jointMarks : List Char := [',', ';', ' ']

theorem isWordChar_of_mem_jointMarks : ∀ d ∈ jointMarks, isWordChar d = false := by decide

theorem Joint.exists_cons (joint : Joint) : ∃ d more, joint.text = d :: more ∧ d ∈ jointMarks := by
  cases joint with
  | comma => exact ⟨',', [], rfl, by decide⟩
  | semicolon => exact ⟨';', [], rfl, by decide⟩
  | and => exact ⟨' ', "and ".toList, rfl, by decide⟩

/-! ## Fillers and ranges -/

/-- The words with which fillers and ranges start. -/
def rewrittenWords : List (List Char) := ["where".toList, "with".toList, "between".toList]

theorem IsClause.firstMatch?_rewrittenWords {clause : List Char} (h : IsClause clause)
    {before : Option Char} (hbefore : before.any isWordChar = false) :
    Text.firstMatch? (afterWholeWord? rewrittenWords) before clause = none := by
  have hsubset : rewrittenWords ⊆ cuttingWords := List.subset_cons_self _ _
  have hnone : before.any isWordChar = (none : Option Char).any isWordChar := hbefore
  rw [firstMatch?_afterWholeWord?_congr rewrittenWords hnone]
  exact Text.firstMatch?_eq_none_of_imp
    (fun _ _ hnone => afterWholeWord?_eq_none_of_subset hsubset hnone) h.wordless

theorem stopsAt_rewrittenWords {d : Char} (hd : d ∈ jointMarks) :
    Text.Recogniser.StopsAt (afterWholeWord? rewrittenWords) d := by
  have hletters : ∀ d ∈ jointMarks, ∀ keyword ∈ rewrittenWords, ∀ k ∈ keyword,
      sameLetter k d = false := by
    decide
  exact stopsAt_afterWholeWord? (isWordChar_of_mem_jointMarks d hd) (hletters d hd)

/-- No filler and no range starts anywhere in a clause with others after it. -/
theorem firstMatch?_continued {parts : List (Joint × List Char)}
    (h : ∀ part ∈ parts, IsClause part.2) {clause : List Char} (hclause : IsClause clause)
    {before : Option Char} (hbefore : before.any isWordChar = false) :
    Text.firstMatch? (afterWholeWord? rewrittenWords) before (clause ++ continued parts) = none := by
  induction parts generalizing clause before with
  | nil =>
    rw [continued_nil, List.append_nil]
    exact hclause.firstMatch?_rewrittenWords hbefore
  | cons part parts ih =>
    obtain ⟨joint, next⟩ := part
    obtain ⟨hnext, hparts⟩ := List.forall_mem_cons.mp h
    have hfirst := hclause.firstMatch?_rewrittenWords hbefore
    have hrest : ∀ d ∈ jointMarks, Text.firstMatch? (afterWholeWord? rewrittenWords) (some d)
        (next ++ continued parts) = none := fun d hd =>
      ih hparts hnext (isWordChar_of_mem_jointMarks d hd)
    have hjoin : ∀ d ∈ jointMarks, ∀ after,
        Text.firstMatch? (afterWholeWord? rewrittenWords) (some d) after = none →
          Text.firstMatch? (afterWholeWord? rewrittenWords) before (clause ++ d :: after) = none :=
      fun d hd after hafter => Text.firstMatch?_append_cons (stopsAt_rewrittenWords hd) hfirst hafter
    rw [continued_cons]
    cases joint with
    | comma => exact hjoin ',' (by decide) _ (hrest ',' (by decide))
    | semicolon => exact hjoin ';' (by decide) _ (hrest ';' (by decide))
    | and =>
      -- the word of the joint itself is none of those looked for
      refine hjoin ' ' (by decide) ("and".toList ++ ' ' :: (next ++ continued parts)) ?_
      exact Text.firstMatch?_append_cons (stopsAt_rewrittenWords (by decide)) (by decide)
        (hrest ' ' (by decide))

/-! ## Separators -/

/-- An `and` behind a blank of a clause is only the start of a longer word. -/
theorem IsClause.isWordChar_of_and {clause skipped rest after : List Char} {b : Char}
    (h : IsClause clause) (heq : clause = skipped ++ b :: rest) (hb : isBlank b = true)
    (hand : Text.afterKeyword? "and".toList rest = some after) :
    after.head?.any isWordChar = true := by
  have hwordless := Text.firstMatch?_eq_none_iff.mp h.wordless (skipped ++ [b]) rest (by simp [heq])
  rw [List.getLast?_concat, Option.some_or] at hwordless
  have hstart : Text.isBoundary (some b) rest.head? = true := by
    cases rest with
    | nil => cases hand
    | cons c rest =>
      have hc : sameLetter 'a' c = true := by
        by_contra hc
        rw [show "and".toList = ['a', 'n', 'd'] from rfl, Text.afterKeyword?, if_neg hc] at hand
        cases hand
      have hword : isWordChar c = true := Text.isWordChar_of_sameLetter (by decide) hc
      simp [Text.isBoundary, hword, Text.isWordChar_of_isBlank hb]
  -- the `and` begins a word, since a blank is before it;
  -- it would be a whole word if the word ended there
  have hend := isBoundary_of_afterWholeWord?_eq_none hwordless List.mem_cons_self hstart hand
  have hd : ("and".toList.getLast?).any isWordChar = true := by decide
  rw [Text.isBoundary, hd] at hend
  simpa using hend

/-- The word that joins clauses does not start within a clause, whatever is joined to it. -/
theorem IsClause.afterAnd_eq_none {clause skipped tail after : List Char} (h : IsClause clause)
    (heq : clause = skipped ++ tail) (hne : tail ≠ [])
    (hafter : ∀ d ∈ after.head?, d ∈ jointMarks) :
    ((Text.afterBlanks? (tail ++ after)).bind fun rest =>
      (Text.afterKeyword? "and".toList rest).bind Text.afterBlanks?) = none := by
  have hlast : ∀ c ∈ tail.getLast?, isBlank c = false := by
    intro c hc
    apply h.trimmed.2 c
    rw [heq, List.getLast?_append, Option.mem_def.mp hc]
    rfl
  rw [Text.afterBlanks?_append hne hlast, Option.bind_eq_none_iff]
  intro rest hrest
  obtain ⟨inner, hinner, rfl⟩ := Option.map_eq_some_iff.mp hrest
  obtain ⟨before, b, htail, hb⟩ := Text.exists_of_afterBlanks? hinner
  -- the blanks end within the clause, and so does the keyword, if it is there
  have hkeyword : Text.afterKeyword? "and".toList (inner ++ after) =
      (Text.afterKeyword? "and".toList inner).map (· ++ after) := by
    cases after with
    | nil => simp
    | cons d after =>
      have hletters : ∀ d ∈ jointMarks, ∀ k ∈ "and".toList, sameLetter k d = false := by decide
      exact Text.afterKeyword?_append_cons (hletters d (hafter d rfl)) inner after
  rw [hkeyword, Option.bind_eq_none_iff]
  intro rest hrest
  obtain ⟨behind, hbehind, rfl⟩ := Option.map_eq_some_iff.mp hrest
  have hparts : clause = (skipped ++ before) ++ b :: inner := by
    rw [heq, htail, List.append_assoc]
  have hword := h.isWordChar_of_and hparts hb hbehind
  cases behind with
  | nil => cases hword
  | cons c behind =>
    rw [List.cons_append, Text.afterBlanks?, if_neg]
    intro hc
    have hnot := Text.isWordChar_of_isBlank hc
    rw [List.head?_cons, Option.any_some, hnot] at hword
    cases hword

/-- A separator does not start within a clause, whatever is joined to it. -/
theorem IsClause.clauseSeparator_eq_none {clause skipped tail after : List Char} (h : IsClause clause)
    (heq : clause = skipped ++ tail) (hne : tail ≠ [])
    (hafter : ∀ d ∈ after.head?, d ∈ jointMarks) : clauseSeparator (tail ++ after) = none := by
  have hmarks : ∀ mark, mark ∉ clause → ((tail ++ after).head? == some mark) = false := by
    intro mark hmark
    obtain ⟨c, cs, rfl⟩ := List.exists_cons_of_ne_nil hne
    rw [beq_eq_false_iff_ne]
    intro hc
    apply hmark
    rw [heq, ← Option.some.inj hc]
    exact List.mem_append_right skipped List.mem_cons_self
  rw [clauseSeparator, h.afterAnd_eq_none heq hne hafter, hmarks ',' h.unmarked.1,
    hmarks ';' h.unmarked.2]
  rfl

/-- A joint is a separator, and nothing of the clause after it is part of that. -/
theorem clauseSeparator_joint (joint : Joint) {next : List Char}
    (hnext : ∀ c ∈ next.head?, isBlank c = false) :
    clauseSeparator (joint.text ++ next) = some next := by
  cases joint with
  | comma => rfl
  | semicolon => rfl
  | and =>
    have hand : Text.afterKeyword? "and".toList ("and".toList ++ ' ' :: next) = some (' ' :: next) :=
      Text.afterKeyword?_self _ _
    have hfirst : ∀ c ∈ ("and".toList ++ ' ' :: next).head?, isBlank c = false := by
      intro c hc
      obtain rfl : 'a' = c := Option.some.inj hc
      decide
    have htext : Joint.and.text ++ next = ' ' :: ("and".toList ++ ' ' :: next) := rfl
    rw [htext, clauseSeparator, Text.afterBlanks?_space hfirst, Option.bind_some, hand,
      Option.bind_some, Text.afterBlanks?_space hnext]
    rfl

theorem IsClause.head?_append {clause : List Char} (h : IsClause clause) (after : List Char) :
    ∀ c ∈ (clause ++ after).head?, isBlank c = false := by
  obtain ⟨c, cs, rfl⟩ := List.exists_cons_of_ne_nil h.ne_nil
  exact h.trimmed.1

theorem head?_continued (parts : List (Joint × List Char)) :
    ∀ d ∈ (continued parts).head?, d ∈ jointMarks := by
  cases parts with
  | nil => exact nofun
  | cons part parts =>
    obtain ⟨d, more, htext, hd⟩ := part.1.exists_cons
    rw [continued_cons, htext]
    intro e he
    rwa [← Option.some.inj he]

theorem cut_continued {parts : List (Joint × List Char)} (h : ∀ part ∈ parts, IsClause part.2)
    {clause : List Char} (hclause : IsClause clause) :
    Text.cut clauseSeparator.scan (clause ++ continued parts) = clause :: parts.map Prod.snd := by
  have hwhole : ∀ skipped tail, clause = skipped ++ tail → tail ≠ [] →
      clauseSeparator (tail ++ continued parts) = none := fun _ _ heq hne =>
    hclause.clauseSeparator_eq_none heq hne (head?_continued parts)
  -- clause by clause: the first separator is the first joint, and the rest is cut in the same way
  induction parts generalizing clause with
  | nil =>
    have hend : Text.cut clauseSeparator.scan (continued []) = [] :: [] := rfl
    rw [Text.cut_append hwhole hend, List.append_nil, List.map_nil]
  | cons part parts ih =>
    obtain ⟨hnext, hparts⟩ := List.forall_mem_cons.mp h
    have hrest := ih hparts hnext fun _ _ heq hne =>
      hnext.clauseSeparator_eq_none heq hne (head?_continued parts)
    have hjoint := clauseSeparator_joint part.1 (hnext.head?_append (continued parts))
    obtain ⟨d, more, htext, -⟩ := part.1.exists_cons
    have hcut : Text.cut clauseSeparator.scan (continued (part :: parts)) =
        [] :: part.2 :: parts.map Prod.snd := by
      rw [htext] at hjoint
      rw [continued_cons, htext, Text.cut_scan hjoint, hrest]
    have happend := Text.cut_append hwhole hcut
    simpa using happend

/-! ## Sentences -/

section

variable {parts : List (Joint × List Char)}

theorem getLast?_continued (h : ∀ part ∈ parts, IsClause part.2) {clause : List Char}
    (hclause : IsClause clause) :
    ∀ c ∈ (clause ++ continued parts).getLast?, isBlank c = false := by
  induction parts generalizing clause with
  | nil =>
    rw [continued_nil, List.append_nil]
    exact hclause.trimmed.2
  | cons part parts ih =>
    obtain ⟨hnext, hparts⟩ := List.forall_mem_cons.mp h
    have hne : part.2 ++ continued parts ≠ [] := by simp [hnext.ne_nil]
    intro c hc
    rw [continued_cons, List.getLast?_append_of_ne_nil _ (by simp [hne]),
      List.getLast?_append_of_ne_nil _ hne] at hc
    exact ih hparts hnext c hc

theorem trim_sentence (h : ∀ part ∈ parts, IsClause part.2) :
    Text.trim (sentence parts) = sentence parts := by
  cases parts with
  | nil => rfl
  | cons first rest =>
    obtain ⟨hfirst, hrest⟩ := List.forall_mem_cons.mp h
    exact Text.trimWith_of_isTrimmed ⟨hfirst.head?_append _, getLast?_continued hrest hfirst⟩

/-- The clauses of a sentence are those that it was made of. -/
theorem clauses_sentence (h : ∀ part ∈ parts, IsClause part.2) :
    clauses (sentence parts) = parts.map Prod.snd := by
  cases parts with
  | nil => rfl
  | cons first rest =>
    obtain ⟨hfirst, hrest⟩ := List.forall_mem_cons.mp h
    have hstart : (none : Option Char).any isWordChar = false := rfl
    -- no filler and no range stands in the sentence,
    -- so neither rewriting changes it before it is cut
    have hnone := firstMatch?_continued hrest hfirst hstart
    have hfillers : Text.substitute filler? (sentence (first :: rest)) = sentence (first :: rest) := by
      refine Text.substituteAfter_of_firstMatch? (fun before cs hword => ?_) hnone
      exact filler?_eq_none before cs (afterWholeWord?_eq_none_of_subset (by decide) hword)
    have hranges : Text.substitute range (sentence (first :: rest)) = sentence (first :: rest) := by
      refine Text.substituteAfter_of_firstMatch? (fun before cs hword => ?_) hnone
      exact range_eq_none before cs (afterWholeWord?_eq_none_of_subset (by decide) hword)
    have hpieces : ∀ piece ∈ first.2 :: rest.map Prod.snd, IsClause piece := by
      intro piece hpiece
      rw [← List.map_cons (f := Prod.snd)] at hpiece
      obtain ⟨part, hpart, rfl⟩ := List.mem_map.mp hpiece
      exact h part hpart
    have htrim : (first.2 :: rest.map Prod.snd).map Text.trim = first.2 :: rest.map Prod.snd := by
      refine List.map_congr_left (g := id) (fun piece hpiece => ?_) |>.trans (List.map_id _)
      exact Text.trimWith_of_isTrimmed (hpieces piece hpiece).trimmed
    rw [clauses, hfillers]
    simp only [hranges]
    rw [← scan_clauseSeparator, sentence, cut_continued hrest hfirst, htrim, List.map_cons,
      List.filter_eq_self]
    exact fun piece hpiece => decide_eq_true (hpieces piece hpiece).ne_nil

/-! ## Leaves -/

/-- The leaves of the filter that a query asks for, in order; there are none if it asks for none. -/
def askedLeaves (entity : Entity) (columns : List String) (text : List Char) : List Leaf :=
  (filter? entity columns text).elim [] Filter.leaves

variable {entity : Entity} {columns : List String}

theorem askedLeaves_eq_leaves (text : List Char) :
    askedLeaves entity columns text = leaves entity columns text := by
  rw [askedLeaves]
  cases hfilter : filter? entity columns text with
  | some filter => exact leaves_filter? hfilter
  | none =>
    rw [filter?] at hfilter
    cases hleaves : leaves entity columns text with
    | nil => rfl
    | cons leaf rest =>
      rw [hleaves] at hfilter
      cases rest <;> cases hfilter

theorem leaves_sentence (h : ∀ part ∈ parts, IsClause part.2) :
    leaves entity columns (sentence parts) =
      parts.flatMap fun part => (clauseLeaf? entity columns part.2).toList := by
  rw [leaves, trim_sentence h, clauses_sentence h, List.filterMap_map, List.filterMap_eq_flatMap_toList]
  rfl

theorem IsClause.askedLeaves_eq {clause : List Char} (h : IsClause clause) :
    askedLeaves entity columns clause = (clauseLeaf? entity columns clause).toList := by
  have halone : leaves entity columns (sentence [(.comma, clause)]) =
      [(Joint.comma, clause)].flatMap fun part => (clauseLeaf? entity columns part.2).toList :=
    leaves_sentence (by simpa using h)
  simpa [askedLeaves_eq_leaves, sentence] using halone

end

/-- **Clauses are read independently of each other.** Let clauses be joined by commas, semicolons and
`and` in any mix, where no clause holds one of these marks or a word by which queries are cut. Then:

* the leaves of the whole are those of its clauses, each taken alone, in order;
* the filter is the conjunction of them: none at all, a lone leaf or an `and`;
* a clause that asks for nothing may be left out. -/
theorem clauses_are_read_independently (entity : Entity) (columns : List String)
    (parts : List (Joint × List Char)) (h : ∀ part ∈ parts, IsClause part.2) :
    askedLeaves entity columns (sentence parts) =
        parts.flatMap (fun part => askedLeaves entity columns part.2) ∧
      filter? entity columns (sentence parts) =
        conjunction? (parts.flatMap fun part => askedLeaves entity columns part.2) ∧
      ∀ before part after, parts = before ++ part :: after →
        filter? entity columns part.2 = none →
          filter? entity columns (sentence parts) =
            filter? entity columns (sentence (before ++ after)) := by
  have hleaves : ∀ parts : List (Joint × List Char), (∀ part ∈ parts, IsClause part.2) →
      leaves entity columns (sentence parts) =
        parts.flatMap fun part => askedLeaves entity columns part.2 := by
    intro parts h
    rw [leaves_sentence h]
    exact List.flatMap_congr fun part hpart => (h part hpart).askedLeaves_eq.symm
  refine ⟨?_, ?_, ?_⟩
  · rw [askedLeaves_eq_leaves, hleaves parts h]
  · rw [filter?, hleaves parts h]
  · rintro before part after rfl hnone
    have hsilent : askedLeaves entity columns part.2 = [] := by
      rw [askedLeaves, hnone]
      rfl
    have hothers : ∀ part ∈ before ++ after, IsClause part.2 := by
      intro other hother
      apply h other
      rcases List.mem_append.mp hother with hother | hother
      · exact List.mem_append_left _ hother
      · exact List.mem_append_right _ (List.mem_cons_of_mem part hother)
    rw [filter?, filter?, hleaves _ h, hleaves _ hothers, List.flatMap_append, List.flatMap_append,
      List.flatMap_cons, hsilent, List.nil_append]

/-- The clause in the middle cannot be read; the two around it are read as if it were not there. The
name in it begins with a word that joins clauses. -/
theorem unreadable_clause_drops_out :
    let parts : List (Joint × List Char) := [(.comma, "Duration > 2".toList),
      (.and, "android tablets".toList), (.semicolon, "phase 3".toList)]
    (∀ part ∈ parts, IsClause part.2) ∧
      sentence parts = "Duration > 2 and android tablets;phase 3".toList ∧
      (filter? .tasks ["Duration"] "android tablets".toList).isNone = true ∧
      (askedLeaves .tasks ["Duration"] (sentence parts)).map Leaf.field =
        ["Duration", "PreferredPhases"] := by
  intro parts
  have hclauses : ∀ part ∈ parts, IsClause part.2 := by decide +kernel
  have hleaves := (clauses_are_read_independently .tasks ["Duration"] parts hclauses).1
  refine ⟨hclauses, by decide, by decide +kernel, ?_⟩
  rw [hleaves]
  decide +kernel

end SheetQuery.Query
