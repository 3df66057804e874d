import SheetQuery.Proofs.Query.HintFold
import SheetQuery.Proofs.Query.SentenceSqueeze

/-!
# Hints and runs of blanks

Cues are single words, and so are the verbs that a phrase follows: they are found in a squeezed text as
in the text, and so are numbers and task identifiers. In the phrases themselves, and in comparators of
several words, every blank counts: there a text must be written with single spaces (`IsPlainForHints`).

* `phraseAfter?_squeeze`: the phrase after a verb;
* `firstNumeral?_squeeze`, `firstTaskId?_squeeze`, `likelyComparator?_squeeze`: what else hints read;
* `lastResort?_squeeze`: the leaf of the first hint that makes one.
-/

namespace SheetQuery.Query

open Text (squeeze isBlank IsUniform)

/-! ## Verbs -/

theorem isSolid_includeVerb : includeVerb.IsSolid := isSolid_afterWholeWord? (by decide)

theorem isSolid_groupWord : groupWord.IsSolid := isSolid_afterWholeWord? (by decide)

theorem isSolid_equalsVerb : equalsVerb.IsSolid := by
  have hwords : (afterWholeWord? ["equals".toList, "is".toList]).IsSolid :=
    isSolid_afterWholeWord? (by decide)
  constructor
  · intro before cs hcs
    have hsign : (cs.head? == some '=') = false := by
      rw [beq_eq_false_iff_ne]
      intro hhead
      rw [hhead] at hcs
      exact absurd hcs (by decide)
    rw [equalsVerb, hsign, hwords.blank before cs hcs]
    rfl
  · intro before other cs hcs hbefore
    -- the sign needs no boundary before it; the words do, and are solid as such
    by_cases hsign : cs.head? = some '='
    · obtain ⟨rest, rfl⟩ := List.head?_eq_some_iff.mp hsign
      rw [Text.squeeze_cons_of_not_blank (by decide)]
      rfl
    · have hsign' : (squeeze cs).head? ≠ some '=' := by
        rwa [Ne, head?_squeeze_eq_some_iff (by decide)]
      rw [equalsVerb, equalsVerb, beq_eq_false_iff_ne.mpr hsign, beq_eq_false_iff_ne.mpr hsign']
      exact hwords.reads before other cs hcs hbefore

theorem isFound_squeeze {verb : Text.Recogniser} (h : verb.IsSolid) (cs : List Char) :
    isFound verb (squeeze cs) = isFound verb cs := by
  have hfirst := Text.firstMatch?_squeeze h (Text.Exchangeable.refl cs none)
  have hsome := congrArg Option.isSome hfirst
  rwa [Option.isSome_map, Option.isSome_map, Option.isSome_map] at hsome

/-- Is the text after the first place of a verb written with single spaces? -/
def isPlainAfter (verb : Text.Recogniser) (text : List Char) : Bool :=
  (Text.firstMatch? verb none text).all fun found =>
    squeeze (Text.trim found.2) == Text.trim found.2

theorem phraseAfter?_squeeze {verb : Text.Recogniser} (h : verb.IsSolid) {text : List Char}
    (hplain : isPlainAfter verb text = true) :
    phraseAfter? verb (squeeze text) = phraseAfter? verb text := by
  have hfirst := Text.firstMatch?_squeeze h (Text.Exchangeable.refl text none)
  rw [phraseAfter?, phraseAfter?]
  cases hfound : Text.firstMatch? verb none text with
  | none =>
    rw [hfound, Option.map_none, Option.map_none, Option.map_eq_none_iff] at hfirst
    rw [hfirst]
  | some found =>
    rw [hfound] at hfirst
    obtain ⟨found', hfound', hrest⟩ := Option.map_eq_some_iff.mp hfirst
    rw [isPlainAfter, hfound, Option.all_some, beq_iff_eq] at hplain
    simp only [hfound', hrest, Text.trim_squeeze, hplain]

/-! ## Numbers and identifiers -/

theorem firstNumeral?_squeeze (cs : List Char) : firstNumeral? (squeeze cs) = firstNumeral? cs := by
  have hblank : ∀ {b : Char}, isBlank b = true → ∀ cs, firstNumeral? (b :: cs) = firstNumeral? cs := by
    intro b hb cs
    rw [firstNumeral?, take_of_blank takesNumeral_takeNumeral? takesSolid_takeNumeral? hb]
  induction cs with
  | nil => rfl
  | cons c cs ih =>
    cases hc : isBlank c with
    | false =>
      have hreads := takesSolid_takeNumeral?.reads (c :: cs)
      rw [Text.squeeze_cons_of_not_blank hc] at hreads ⊢
      rw [firstNumeral?, firstNumeral?, hreads, ih]
      cases takeNumeral? (c :: cs) <;> rfl
    | true =>
      rw [hblank hc]
      cases hcs : cs.head?.any isBlank with
      | true => rw [Text.squeeze_cons_of_blank_of_blank hc hcs, ih]
      | false => rw [Text.squeeze_cons_of_blank hc hcs, hblank (by decide), ih]

theorem taskId?_of_blank (before : Option Char) {cs : List Char} (h : cs.head?.any isBlank = true) :
    taskId? before cs = none := by
  have hkeyword : Text.afterKeyword? ['T'] cs = none := Text.afterKeyword?_of_blank (by decide) [] h
  rw [taskId?, hkeyword, ite_self]

theorem taskId?_squeeze {before other : Option Char} {cs : List Char}
    (hcs : cs.head?.any isBlank = false) (hbefore : Text.Exchangeable cs before other) :
    taskId? other (squeeze cs) = taskId? before cs := by
  rw [taskId?, taskId?, hbefore.isBoundary_squeeze hcs, Text.afterKeyword?_squeeze (by decide)]
  cases hkeyword : Text.afterKeyword? ['T'] cs with
  | none => rfl
  | some rest =>
    obtain ⟨piece, rfl, hpiece⟩ := Text.exists_of_afterKeyword? hkeyword
    simp only [Option.map_some, takeDigits?_squeeze]
    cases hdigits : takeDigits? rest with
    | none => rfl
    | some found =>
      obtain ⟨digits, after⟩ := found
      obtain rfl := takesNumeral_takeDigits?.parts _ _ hdigits
      have hplain : ∀ d ∈ digits, isBlank d = false := fun d hd =>
        not_isBlank_of_isNumeralChar (takesNumeral_takeDigits?.chars _ _ hdigits d hd)
      -- the identifier is cut out of the text by its length, and holds no blank
      have hlength : digits.length + 1 = (piece ++ digits).length := by
        rw [List.length_append, ← hpiece.length_eq, List.length_singleton, Nat.add_comm]
      simp only [Option.map_some, Text.isBoundary_head?_squeeze]
      rw [Text.squeeze_append_of_forall₂ hpiece (by decide),
        Text.squeeze_append_of_forall_not_blank hplain, hlength, ← List.append_assoc,
        ← List.append_assoc, List.take_left, List.take_left]

theorem firstTaskId?_squeeze {cs : List Char} {before other : Option Char}
    (hbefore : Text.Exchangeable cs before other) :
    firstTaskId? other (squeeze cs) = firstTaskId? before cs := by
  induction cs generalizing before other with
  | nil => rfl
  | cons c cs ih =>
    cases hc : isBlank c with
    | false =>
      have hhead : (c :: cs).head?.any isBlank = false := hc
      have htask := taskId?_squeeze hhead hbefore
      rw [Text.squeeze_cons_of_not_blank hc] at htask ⊢
      rw [firstTaskId?, firstTaskId?, htask, ih (Text.Exchangeable.refl cs (some c))]
    | true =>
      have hhead : (c :: cs).head?.any isBlank = true := hc
      rw [firstTaskId?, taskId?_of_blank before hhead, Option.none_or]
      -- of a run of blanks the last is kept, as a space; nothing begins at any of them
      cases hcs : cs.head?.any isBlank with
      | true =>
        rw [Text.squeeze_cons_of_blank_of_blank hc hcs]
        exact ih (Text.Exchangeable.of_blank hcs (some c) other)
      | false =>
        rw [Text.squeeze_cons_of_blank hc hcs, firstTaskId?,
          taskId?_of_blank other (Text.isBlank_head?_space _), Option.none_or]
        exact ih (Text.exchangeable_space hc cs)

/-! ## Comparators -/

theorem lower_squeeze {cs : List Char} (h : IsUniform cs) :
    Text.lower (squeeze cs) = squeeze (Text.lower cs) := by
  rw [Text.lower_eq_fold (Text.isUniform_squeeze h), Text.lower_eq_fold h, Text.squeeze_fold]

/-- The comparators of several words. -/
def longComparators : List String := ["less than", "greater than", "more than"]

/-- Does a lower-cased text have a comparator of several words wherever its squeezed form has it? -/
def hasPlainComparators (lowered : List Char) : Bool :=
  longComparators.all fun words =>
    !Text.occursIn words.toList (squeeze lowered) || Text.occursIn words.toList lowered

theorem likelyComparator?_squeeze {text : List Char} (huniform : IsUniform text)
    (h : hasPlainComparators (Text.lower text) = true) :
    likelyComparator? (squeeze text) = likelyComparator? text := by
  have hsigns : ∀ sign ∈ [">=", "<=", "!=", ">", "<"],
      Text.occursIn sign.toList (squeeze (Text.lower text)) =
        Text.occursIn sign.toList (Text.lower text) := by
    have hplain : ∀ sign ∈ [">=", "<=", "!=", ">", "<"],
        sign.toList ≠ [] ∧ ∀ k ∈ sign.toList, isBlank k = false := by decide
    exact fun sign hsign => Text.occursIn_squeeze (hplain sign hsign).1 (hplain sign hsign).2 _
  have hwords : ∀ words ∈ longComparators,
      Text.occursIn words.toList (squeeze (Text.lower text)) =
        Text.occursIn words.toList (Text.lower text) := by
    have hsingly : ∀ words ∈ longComparators, Text.isSpacedSingly words.toList = true := by decide
    intro words hmem
    have hplain := List.all_eq_true.mp h words hmem
    -- squeezing may only create such words, and `hplain` rules this out
    cases hoccurs : Text.occursIn words.toList (Text.lower text) with
    | true => exact Text.occursIn_squeeze_of_occursIn (hsingly words hmem) hoccurs
    | false => rwa [hoccurs, Bool.or_false, Bool.not_eq_true'] at hplain
  simp only [likelyComparator?, lower_squeeze huniform, isFound_squeeze isSolid_equalsVerb,
    hsigns ">=" (by decide), hsigns "<=" (by decide), hsigns "!=" (by decide), hsigns ">" (by decide),
    hsigns "<" (by decide), hwords "less than" (by decide), hwords "greater than" (by decide),
    hwords "more than" (by decide)]

/-! ## Tests -/

/-- A text is plain for the hints if it is written with single spaces after its verbs and in its
comparators. -/
structure IsPlainForHints (text : List Char) : Prop where
  uniform : IsUniform text
  included : isPlainAfter includeVerb text = true
  equal : isPlainAfter equalsVerb text = true
  group : isPlainAfter groupWord text = true
  comparators : hasPlainComparators (Text.lower text) = true

variable {text : List Char}

theorem comparedNumber?_squeeze (h : IsPlainForHints text) :
    comparedNumber? (squeeze text) = comparedNumber? text := by
  rw [comparedNumber?, comparedNumber?, likelyComparator?_squeeze h.uniform h.comparators,
    firstNumeral?_squeeze]

theorem equalPhrase?_squeeze (h : IsPlainForHints text) :
    equalPhrase? (squeeze text) = equalPhrase? text := by
  rw [equalPhrase?, equalPhrase?, phraseAfter?_squeeze isSolid_equalsVerb h.equal]

theorem groupPhrase?_squeeze (h : IsPlainForHints text) :
    groupPhrase? (squeeze text) = groupPhrase? text := by
  rw [groupPhrase?, groupPhrase?, equalPhrase?_squeeze h,
    phraseAfter?_squeeze isSolid_groupWord h.group]

theorem includedPhrase?_squeeze (h : IsPlainForHints text) :
    includedPhrase? (squeeze text) = includedPhrase? text := by
  rw [includedPhrase?, includedPhrase?, phraseAfter?_squeeze isSolid_includeVerb h.included]

theorem includedNumber?_squeeze (text : List Char) :
    includedNumber? (squeeze text) = includedNumber? text := by
  rw [includedNumber?, includedNumber?, firstNumeral?_squeeze]

theorem exceedsNumber?_squeeze (text : List Char) :
    exceedsNumber? (squeeze text) = exceedsNumber? text := by
  rw [exceedsNumber?, exceedsNumber?, firstNumeral?_squeeze]

theorem requestedTask?_squeeze (text : List Char) :
    requestedTask? (squeeze text) = requestedTask? text := by
  rw [requestedTask?, requestedTask?, firstTaskId?_squeeze (Text.Exchangeable.refl text none)]

/-! ## Cues -/

theorem mentions_squeeze {word : String} (hne : word.toList ≠ [])
    (h : ∀ k ∈ word.toList, isBlank k = false) (lowered : List Char) :
    mentions word (squeeze lowered) = mentions word lowered :=
  Text.occursIn_squeeze hne h lowered

theorem afterExactWord?_squeeze {keywords : List String}
    (h : ∀ keyword ∈ keywords, ∀ k ∈ keyword.toList, isBlank k = false) (cs : List Char) :
    afterExactWord? keywords (squeeze cs) = (afterExactWord? keywords cs).map squeeze := by
  rw [afterExactWord?, afterExactWord?, List.map_findSome?]
  apply findSome?_congr
  intro keyword hkeyword
  rw [Text.isPrefixOf_squeeze (h keyword hkeyword), Function.comp_apply]
  split
  · next hstarts =>
    obtain ⟨rest, rfl⟩ := List.isPrefixOf_iff_prefix.mp hstarts
    rw [Text.squeeze_append_of_forall_not_blank (h keyword hkeyword), ← String.length_toList,
      List.drop_left, List.drop_left, Text.afterBlanks?_squeeze]
  · rfl

theorem asksForSkill_squeeze (lowered : List Char) :
    asksForSkill (squeeze lowered) = asksForSkill lowered := by
  have hskill : ∀ keyword ∈ ["skills", "skill"], ∀ k ∈ keyword.toList, isBlank k = false := by decide
  have hverb : ∀ keyword ∈ ["includes", "include", "contains", "contain"],
      ∀ k ∈ keyword.toList, isBlank k = false := by decide
  apply isFound_squeeze
  constructor
  · intro _ cs hcs
    have hnone : afterExactWord? ["skills", "skill"] cs = none := by
      rw [afterExactWord?, List.findSome?_eq_none_iff]
      intro keyword hkeyword
      simp only [List.mem_cons, List.not_mem_nil, or_false] at hkeyword
      have hstarts : keyword.toList.isPrefixOf cs = false := by
        rcases hkeyword with rfl | rfl
        · exact Text.isPrefixOf_of_blank (by decide) _ hcs
        · exact Text.isPrefixOf_of_blank (by decide) _ hcs
      rw [hstarts]
      rfl
    rw [hnone, Option.bind_none]
  · intro _ _ cs _ _
    exact bind_squeeze_map _ (afterExactWord?_squeeze hskill cs) (afterExactWord?_squeeze hverb)

/-! ## Hints -/

theorem hintLeaf?_squeeze {hint : Hint} (huniform : IsUniform text)
    (hcue : ∀ lowered, hint.isCued (squeeze lowered) = hint.isCued lowered)
    (hread : hint.read (squeeze text) = hint.read text) (columns : List String) :
    hint.leaf? columns (squeeze text) = hint.leaf? columns text := by
  rw [Hint.leaf?, Hint.leaf?, lower_squeeze huniform, hcue, hread]

theorem squeeze_hints (h : IsPlainForHints text) (entity : Entity) : ∀ hint ∈ lastHints entity,
    (∀ lowered, hint.isCued (squeeze lowered) = hint.isCued lowered) ∧
      hint.read (squeeze text) = hint.read text := by
  have hmentions : ∀ word ∈ ["group", "slot", "qual", "priority", "requested", "duration", "phase",
      "skill"], ∀ lowered, mentions word (squeeze lowered) = mentions word lowered := by
    have hplain : ∀ word ∈ ["group", "slot", "qual", "priority", "requested", "duration", "phase",
      "skill"], word.toList ≠ [] ∧ ∀ k ∈ word.toList, isBlank k = false := by decide
    exact fun word hword => mentions_squeeze (hplain word hword).1 (hplain word hword).2
  cases entity <;>
    simp [lastHints, hmentions, asksForSkill_squeeze, comparedNumber?_squeeze h,
      groupPhrase?_squeeze h, includedPhrase?_squeeze h, includedNumber?_squeeze,
      exceedsNumber?_squeeze, requestedTask?_squeeze]

/-- The last hints make the same leaf of a squeezed text. -/
theorem lastResort?_squeeze (h : IsPlainForHints text) (entity : Entity) (schema : Schema) :
    lastResort? entity schema (squeeze text) = lastResort? entity schema text := by
  apply findSome?_congr
  intro hint hhint
  obtain ⟨hcue, hread⟩ := squeeze_hints h entity hint hhint
  exact hintLeaf?_squeeze h.uniform hcue hread schema.names

end SheetQuery.Query
