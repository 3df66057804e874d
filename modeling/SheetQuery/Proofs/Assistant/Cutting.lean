import SheetQuery.Assistant.Reply
import SheetQuery.Proofs.Text.Passing
import SheetQuery.Proofs.Text.Trim

/-!
# Cutting the object out of a reply

What taking away the fences and looking for balanced braces makes of an object with text around it.

* `IsIntact`: an object that the cutting leaves as it is;
* `firstObject?_unfenced`: such an object is cut out of any text that has no opening brace before it;
* `exists_of_firstObject?`: whatever is cut out closes its braces;
* `isBalanced_of_isNeutral`: an object whose texts have no braces closes them;
* `countP_unfenced_lt`: taking away a fence takes away back ticks.
-/

namespace SheetQuery.Reply

/-! ## Balanced braces -/

/-- Do the braces of a text close `depth` open ones besides its own, the last of them with the last
character? -/
structure Closes (depth : Nat) (cs : List Char) : Prop where
  balance : cs.count '}' = depth + cs.count '{'
  earlier : ∀ before after, cs = before ++ after → after ≠ [] →
    before.count '}' < depth + before.count '{'

/-- Does a text start with a brace that its last character closes? -/
def IsBalanced (cs : List Char) : Prop := ∃ tail, cs = '{' :: tail ∧ Closes 1 tail

/-- A further character in front, which makes `closing` closing braces and `opening` opening ones. -/
theorem closes_cons {depth rest closing opening : Nat} {c : Char} {cs : List Char}
    (hclosing : [c].count '}' = closing) (hopening : [c].count '{' = opening) (hdepth : 0 < depth)
    (hrest : rest + closing = depth + opening) : Closes depth (c :: cs) ↔ Closes rest cs := by
  -- in front of any text the character makes the same difference to both counts
  have hclose : ∀ ds : List Char, (c :: ds).count '}' = ds.count '}' + closing := by
    intro ds
    rw [← hclosing, List.count_cons, List.count_singleton]
  have hopen : ∀ ds : List Char, (c :: ds).count '{' = ds.count '{' + opening := by
    intro ds
    rw [← hopening, List.count_cons, List.count_singleton]
  constructor
  · rintro ⟨hbalance, hearlier⟩
    rw [hclose, hopen] at hbalance
    refine ⟨by omega, fun before after hcs hafter => ?_⟩
    have := hearlier (c :: before) after (by rw [hcs, List.cons_append]) hafter
    rw [hclose, hopen] at this
    omega
  · rintro ⟨hbalance, hearlier⟩
    refine ⟨by rw [hclose, hopen]; omega, fun before after hcs hafter => ?_⟩
    cases before with
    | nil => simpa using hdepth
    | cons b before =>
      obtain ⟨hb, hcs⟩ := List.cons.inj hcs
      have := hearlier before after hcs hafter
      rw [← hb, hclose, hopen]
      omega

/-- The last open brace is closed by the last character. -/
theorem closes_one_close {cs : List Char} : Closes 1 ('}' :: cs) ↔ cs = [] := by
  constructor
  · rintro ⟨-, hearlier⟩
    by_contra hne
    exact absurd (hearlier ['}'] cs rfl hne) (by decide)
  · rintro rfl
    refine ⟨by decide, fun before after hcs hafter => ?_⟩
    cases before with
    | nil => decide
    | cons b before =>
      rw [List.cons_append] at hcs
      have := (List.append_eq_nil_iff.mp (List.cons.inj hcs).2.symm).2
      exact absurd this hafter

theorem not_closes_nil {depth : Nat} (h : 0 < depth) : ¬ Closes depth [] := by
  rintro ⟨hbalance, -⟩
  simp at hbalance
  omega

/-- What is taken up to the brace that closes the open ones is the start of the text that closes
them. -/
theorem balanced?_eq_some_iff {depth : Nat} (hdepth : 0 < depth) {cs taken : List Char} :
    balanced? depth cs = some taken ↔ Closes depth taken ∧ taken <+: cs := by
  induction cs generalizing depth taken with
  | nil =>
    rw [balanced?, List.prefix_nil]
    constructor
    · intro h
      cases h
    · rintro ⟨hcloses, rfl⟩
      exact absurd hcloses (not_closes_nil hdepth)
  | cons c cs ih =>
    -- a first character, and then what is taken of the rest
    have hstep : ∀ {rest : Nat}, 0 < rest →
        (∀ ds, Closes depth (c :: ds) ↔ Closes rest ds) →
        ((balanced? rest cs).map (c :: ·) = some taken ↔
          Closes depth taken ∧ taken <+: c :: cs) := by
      intro rest hrest hcloses
      rw [Option.map_eq_some_iff]
      constructor
      · rintro ⟨ds, hds, rfl⟩
        obtain ⟨hclosed, hstarts⟩ := (ih hrest).mp hds
        exact ⟨(hcloses ds).mpr hclosed, List.cons_prefix_cons.mpr ⟨rfl, hstarts⟩⟩
      · rintro ⟨hclosed, hstarts⟩
        cases taken with
        | nil => exact absurd hclosed (not_closes_nil hdepth)
        | cons d ds =>
          obtain ⟨rfl, htail⟩ := List.cons_prefix_cons.mp hstarts
          exact ⟨ds, (ih hrest).mpr ⟨(hcloses ds).mp hclosed, htail⟩, rfl⟩
    rw [balanced?]
    split
    · next hclose =>
      subst hclose
      split
      · next hlast =>
        obtain rfl : depth = 1 := by omega
        rw [Option.some.injEq]
        constructor
        · rintro rfl
          exact ⟨closes_one_close.mpr rfl, List.cons_prefix_cons.mpr ⟨rfl, List.nil_prefix⟩⟩
        · rintro ⟨hclosed, hstarts⟩
          cases taken with
          | nil => exact absurd hclosed (not_closes_nil hdepth)
          | cons d ds =>
            obtain ⟨rfl, -⟩ := List.cons_prefix_cons.mp hstarts
            rw [closes_one_close.mp hclosed]
      · next hlast =>
        exact hstep (by omega) fun ds => closes_cons rfl rfl hdepth (by simp; omega)
    · next hclose =>
      split
      · next hopen =>
        subst hopen
        exact hstep (by omega) fun ds => closes_cons rfl rfl hdepth (by simp)
      · next hopen =>
        exact hstep hdepth fun ds => closes_cons rfl rfl hdepth (by simp [hclose, hopen])

theorem firstObject?_append {before object after : List Char} (hbefore : '{' ∉ before)
    (hobject : IsBalanced object) : firstObject? (before ++ object ++ after) = some object := by
  obtain ⟨tail, rfl, hcloses⟩ := hobject
  induction before with
  | nil =>
    have hbalanced := (balanced?_eq_some_iff Nat.one_pos).mpr
      ⟨hcloses, List.prefix_append tail after⟩
    simp [firstObject?, hbalanced]
  | cons c before ih =>
    have hc : c ≠ '{' := fun heq => hbefore (heq ▸ List.mem_cons_self)
    rw [List.cons_append, List.cons_append, firstObject?, if_neg hc]
    exact ih fun hmem => hbefore (List.mem_cons_of_mem _ hmem)

/-- What is cut out of a text is balanced, and no opening brace stands before it. -/
theorem exists_of_firstObject? {cs object : List Char} (h : firstObject? cs = some object) :
    IsBalanced object ∧ ∃ before after, cs = before ++ object ++ after ∧ '{' ∉ before := by
  induction cs with
  | nil => cases h
  | cons c cs ih =>
    rw [firstObject?] at h
    split at h
    · next hopen =>
      subst hopen
      obtain ⟨tail, htail, rfl⟩ := Option.map_eq_some_iff.mp h
      obtain ⟨hcloses, after, rfl⟩ := (balanced?_eq_some_iff Nat.one_pos).mp htail
      exact ⟨⟨tail, rfl, hcloses⟩, [], after, rfl, by simp⟩
    · next hopen =>
      obtain ⟨hbalanced, before, after, rfl, hbefore⟩ := ih h
      refine ⟨hbalanced, c :: before, after, rfl, ?_⟩
      rw [List.mem_cons, not_or]
      exact ⟨fun heq => hopen heq.symm, hbefore⟩

/-- Does a text leave open what is open before it? -/
def IsNeutral (cs : List Char) : Prop :=
  ∀ depth rest, 0 < depth → (Closes depth (cs ++ rest) ↔ Closes depth rest)

theorem IsNeutral.nil : IsNeutral [] := fun _ _ _ => Iff.rfl

theorem IsNeutral.append {cs ds : List Char} (hcs : IsNeutral cs) (hds : IsNeutral ds) :
    IsNeutral (cs ++ ds) := by
  intro depth rest hdepth
  rw [List.append_assoc, hcs depth (ds ++ rest) hdepth, hds depth rest hdepth]

theorem isNeutral_of_not_mem {cs : List Char} (h : ∀ c ∈ cs, c ≠ '{' ∧ c ≠ '}') :
    IsNeutral cs := by
  induction cs with
  | nil => exact .nil
  | cons c cs ih =>
    intro depth rest hdepth
    obtain ⟨hopen, hclose⟩ := h c List.mem_cons_self
    have hneither : [c].count '}' = 0 ∧ [c].count '{' = 0 := by simp [hopen, hclose]
    rw [List.cons_append, closes_cons hneither.1 hneither.2 hdepth rfl]
    exact ih (fun d hd => h d (List.mem_cons_of_mem _ hd)) depth rest hdepth

/-- Braces around a text close each other if it does not touch them. -/
theorem IsNeutral.braces {inner : List Char} (h : IsNeutral inner) :
    IsNeutral ('{' :: (inner ++ ['}'])) := by
  intro depth rest hdepth
  have hinner := h (depth + 1) ('}' :: rest) (Nat.succ_pos depth)
  simp only [List.cons_append, List.append_assoc, List.nil_append]
  have hopen : ['{'].count '}' = 0 ∧ ['{'].count '{' = 1 := by decide
  have hclose : ['}'].count '}' = 1 ∧ ['}'].count '{' = 0 := by decide
  rw [closes_cons hopen.1 hopen.2 hdepth rfl, hinner,
    closes_cons hclose.1 hclose.2 (Nat.succ_pos depth) rfl]

theorem isBalanced_of_isNeutral {inner : List Char} (h : IsNeutral inner) :
    IsBalanced ('{' :: (inner ++ ['}'])) :=
  ⟨_, rfl, (h 1 ['}'] Nat.one_pos).mpr (closes_one_close.mpr rfl)⟩

/-! ## Fences -/

/-- The recogniser that fences are taken away with. -/
def fencePiece (_ : Option Char) (cs : List Char) : Option (Nat × List Char) :=
  (fence? cs).map fun rest => (cs.length - rest.length - 1, [])

theorem unfenced_eq (cs : List Char) : unfenced cs = Text.substitute fencePiece cs := rfl

/-- Back ticks are read as they are. -/
theorem sameLetter_tick_iff {c : Char} : Text.sameLetter '`' c = true ↔ c = '`' :=
  ⟨Text.eq_of_sameLetter (by decide) (by decide), fun h => h ▸ Text.sameLetter_self '`'⟩

/-- A fence starts with three back ticks. -/
theorem fence?_isSome_iff {cs : List Char} : (fence? cs).isSome = true ↔ "```".toList <+: cs := by
  have hticks : "```".toList = ['`', '`', '`'] := rfl
  have hread : (fence? cs).isSome = (Text.afterKeyword? ['`', '`', '`'] cs).isSome := by
    rw [fence?, Option.isSome_map, hticks]
  rw [hread, hticks]
  constructor
  · intro h
    match cs with
    | [] | [_] | [_, _] => simp [Text.afterKeyword?] at h
    | a :: b :: c :: cs =>
      simp only [Text.afterKeyword?, sameLetter_tick_iff] at h
      split_ifs at h with ha hb hc
      · simp [ha, hb, hc]
      all_goals cases h
  · rintro ⟨rest, rfl⟩
    rw [Text.afterKeyword?_self]
    rfl

/-- What stands before a brace is read without it. -/
theorem fence?_append {d : Char} (hd : d = '{' ∨ d = '}') (cs rest : List Char) :
    fence? (cs ++ d :: rest) = (fence? cs).map (· ++ d :: rest) := by
  have hticks : ∀ k ∈ "```".toList, Text.sameLetter k d = false := by
    rcases hd with rfl | rfl <;> decide
  have hword : ∀ k ∈ "json".toList, Text.sameLetter k d = false := by
    rcases hd with rfl | rfl <;> decide
  rw [fence?, fence?, Text.afterKeyword?_append_cons hticks]
  cases Text.afterKeyword? "```".toList cs with
  | none => rfl
  | some ticked =>
    simp only [Option.map_some, Text.afterKeyword?_append_cons hword]
    cases Text.afterKeyword? "json".toList ticked <;> rfl

theorem fencePiece_append {d : Char} (hd : d = '{' ∨ d = '}') (before : Option Char)
    (cs rest : List Char) : fencePiece before (cs ++ d :: rest) = fencePiece before cs := by
  rw [fencePiece, fencePiece, fence?_append hd]
  cases fence? cs with
  | none => rfl
  | some left =>
    simp only [Option.map_some, List.length_append, List.length_cons, Option.some.injEq,
      Prod.mk.injEq, and_true]
    omega

/-- A fence is not longer than the text that it is read from, and nothing is written for it. -/
theorem le_of_fencePiece {before : Option Char} {c : Char} {cs : List Char} {more : Nat}
    {new : List Char} (h : fencePiece before (c :: cs) = some (more, new)) :
    more ≤ cs.length ∧ new = [] := by
  obtain ⟨left, hleft, heq⟩ := Option.map_eq_some_iff.mp h
  obtain ⟨hmore, hnew⟩ := Prod.mk.inj heq
  rw [List.length_cons] at hmore
  exact ⟨by omega, hnew.symm⟩

/-- Taking away fences does not look at what is before them. -/
theorem substituteAfter_fencePiece (before other : Option Char) (skip : Nat) (cs : List Char) :
    Text.substituteAfter fencePiece before skip cs = Text.substituteAfter fencePiece other skip cs := by
  cases cs with
  | nil => rfl
  | cons c cs => cases skip <;> rfl

/-- Fences are taken away from what stands before a brace, and from the rest. -/
theorem substituteAfter_append {d : Char} (hd : d = '{' ∨ d = '}') (rest : List Char) :
    ∀ (cs : List Char) (before : Option Char) (skip : Nat), skip ≤ cs.length →
      Text.substituteAfter fencePiece before skip (cs ++ d :: rest) =
        Text.substituteAfter fencePiece before skip cs ++ unfenced (d :: rest)
  | [], before, skip, h => by
    obtain rfl : skip = 0 := Nat.le_zero.mp h
    rw [List.nil_append, substituteAfter_fencePiece before none]
    rfl
  | c :: cs, before, skip, h => by
    cases skip with
    | succ skip => exact substituteAfter_append hd rest cs (some c) skip (Nat.le_of_succ_le_succ h)
    | zero =>
      -- no fence has a brace in it, so what is found before the brace does not hang on the rest
      have happend := fencePiece_append hd before (c :: cs) rest
      rw [List.cons_append] at happend
      rw [List.cons_append, Text.substituteAfter, Text.substituteAfter, happend]
      cases hpiece : fencePiece before (c :: cs) with
      | none =>
        dsimp only
        rw [substituteAfter_append hd rest cs (some c) 0 (Nat.zero_le _), List.cons_append]
      | some found =>
        obtain ⟨more, new⟩ := found
        dsimp only
        rw [substituteAfter_append hd rest cs (some c) more (le_of_fencePiece hpiece).1,
          List.append_assoc]

/-- Without three back ticks in a row nothing is taken away. -/
theorem unfenced_of_unticked {cs : List Char} (h : ¬ "```".toList <:+: cs) : unfenced cs = cs := by
  apply Text.substituteAfter_eq_self
  intro before tail htail
  rw [Option.map_eq_none_iff, ← Option.not_isSome_iff_eq_none, fence?_isSome_iff]
  intro hstarts
  exact h (hstarts.isInfix.trans htail.isInfix)

/-! ## Intact objects -/

/-- Is a text an object that neither its braces nor fences cut short? -/
structure IsIntact (object : List Char) : Prop where
  balanced : IsBalanced object
  whole : ¬ "```".toList <:+: object

theorem IsBalanced.exists_braces {object : List Char} (h : IsBalanced object) :
    ∃ inner, object = '{' :: (inner ++ ['}']) := by
  obtain ⟨tail, rfl, hcloses⟩ := h
  obtain ⟨inner, last, rfl⟩ : ∃ inner last, tail = inner ++ [last] := by
    rcases List.eq_nil_or_concat tail with rfl | ⟨inner, last, htail⟩
    · exact absurd hcloses (not_closes_nil Nat.one_pos)
    · exact ⟨inner, last, htail.trans List.concat_eq_append⟩
  refine ⟨inner, ?_⟩
  -- up to its last character not all braces are closed, so that one closes a brace
  have hbalance := hcloses.balance
  have hearlier := hcloses.earlier inner [last] rfl (List.cons_ne_nil _ _)
  by_cases hlast : last = '}'
  · rw [hlast]
  · rw [List.count_append, List.count_append, List.count_singleton] at hbalance
    simp [hlast] at hbalance
    omega

theorem unfenced_brace (cs : List Char) : unfenced ('}' :: cs) = '}' :: unfenced cs := by
  have hpiece : fencePiece none ('}' :: cs) = none := fencePiece_append (.inr rfl) none [] cs
  rw [unfenced_eq, Text.substitute, Text.substituteAfter, hpiece]
  dsimp only
  rw [substituteAfter_fencePiece (some '}') none]
  rfl

/-- Around an intact object fences are taken away apart from it. -/
theorem unfenced_around {object : List Char} (h : IsIntact object) (before after : List Char) :
    unfenced (before ++ object ++ after) = unfenced before ++ object ++ unfenced after := by
  obtain ⟨inner, hinner⟩ := h.balanced.exists_braces
  have hwhole : ¬ "```".toList <:+: '{' :: inner := by
    intro hticks
    apply h.whole
    rw [hinner]
    exact hticks.trans (List.prefix_append ('{' :: inner) ['}']).isInfix
  -- the text is cut before its first brace and before its last, with no fence in between
  have hopen : unfenced (before ++ '{' :: (inner ++ '}' :: after)) =
      unfenced before ++ unfenced ('{' :: (inner ++ '}' :: after)) :=
    substituteAfter_append (.inl rfl) _ before none 0 (Nat.zero_le _)
  have hclose : unfenced ('{' :: inner ++ '}' :: after) =
      unfenced ('{' :: inner) ++ unfenced ('}' :: after) :=
    substituteAfter_append (.inr rfl) _ ('{' :: inner) none 0 (Nat.zero_le _)
  rw [List.cons_append, unfenced_of_unticked hwhole, unfenced_brace] at hclose
  calc unfenced (before ++ object ++ after)
      = unfenced (before ++ '{' :: (inner ++ '}' :: after)) := by simp [hinner]
    _ = unfenced before ++ ('{' :: inner ++ '}' :: unfenced after) := by rw [hopen, hclose]
    _ = unfenced before ++ object ++ unfenced after := by simp [hinner]

theorem isTrimmed_of_braces (inner : List Char) :
    Text.IsTrimmed Text.isBlank ('{' :: (inner ++ ['}'])) := by
  constructor
  · intro c hc
    obtain rfl := Option.some.inj hc
    decide
  · intro c hc
    rw [Option.mem_def, ← List.cons_append, List.getLast?_concat] at hc
    obtain rfl := Option.some.inj hc
    decide

theorem isTrimmed_of_isBalanced {object : List Char} (h : IsBalanced object) :
    Text.IsTrimmed Text.isBlank object := by
  obtain ⟨inner, rfl⟩ := h.exists_braces
  exact isTrimmed_of_braces inner

/-- Taking away fences leaves out characters, and adds none. -/
theorem sublist_substituteAfter (before : Option Char) (skip : Nat) (cs : List Char) :
    (Text.substituteAfter fencePiece before skip cs).Sublist cs := by
  induction cs generalizing before skip with
  | nil => exact List.Sublist.refl _
  | cons c cs ih =>
    cases skip with
    | succ skip => exact (ih (some c) skip).cons c
    | zero =>
      rw [Text.substituteAfter]
      cases hpiece : fencePiece before (c :: cs) with
      | none => exact (ih (some c) 0).cons_cons c
      | some found =>
        obtain ⟨more, new⟩ := found
        obtain ⟨-, rfl⟩ := le_of_fencePiece hpiece
        exact (ih (some c) more).cons c

theorem sublist_unfenced (cs : List Char) : (unfenced cs).Sublist cs :=
  sublist_substituteAfter none 0 cs

/-- An intact object is cut out of any text without an opening brace before it. -/
theorem firstObject?_unfenced {object : List Char} (h : IsIntact object) {before : List Char}
    (hbefore : '{' ∉ before) (after : List Char) :
    firstObject? (Text.trim (unfenced (before ++ object ++ after))) = some object := by
  have hne : object ≠ [] := by
    obtain ⟨inner, rfl⟩ := h.balanced.exists_braces
    exact List.cons_ne_nil _ _
  rw [unfenced_around h, Text.trim, Text.trimWith_around (isTrimmed_of_isBalanced h.balanced) hne]
  apply firstObject?_append _ h.balanced
  intro hmem
  have hkept : '{' ∈ unfenced before := (List.dropWhile_suffix _).subset hmem
  exact hbefore ((sublist_unfenced before).subset hkept)

/-! ## What fences take away -/

/-- Taking away a fence takes away back ticks. -/
theorem countP_unfenced_lt {p : Char → Bool} (hp : p '`' = true) {cs : List Char}
    (h : "```".toList <:+: cs) : (unfenced cs).countP p < cs.countP p := by
  have hafter : ∀ (cs : List Char) (before : Option Char), "```".toList <:+: cs →
      (Text.substituteAfter fencePiece before 0 cs).countP p < cs.countP p := by
    intro cs
    induction cs with
    | nil =>
      intro before h
      exact absurd (List.infix_nil.mp h) (by decide)
    | cons c cs ih =>
      intro before h
      rw [Text.substituteAfter]
      cases hpiece : fencePiece before (c :: cs) with
      | none =>
        -- here no fence begins, so the back ticks stand further on
        have hstarts : ¬ "```".toList <+: c :: cs := by
          rw [← fence?_isSome_iff, ← Option.isSome_map, ← fencePiece, hpiece]
          exact Bool.false_ne_true
        have hrest := ih (some c) ((List.infix_cons_iff.mp h).resolve_left hstarts)
        simp only [List.countP_cons]
        omega
      | some found =>
        obtain ⟨more, new⟩ := found
        obtain ⟨-, rfl⟩ := le_of_fencePiece hpiece
        -- here one does, and its first back tick goes
        have hstarts : "```".toList <+: c :: cs := by
          rw [← fence?_isSome_iff, ← Option.isSome_map, ← fencePiece, hpiece]
          rfl
        obtain rfl : '`' = c := (List.cons_prefix_cons.mp hstarts).1
        rw [List.countP_cons_of_pos hp]
        exact Nat.lt_succ_of_le (sublist_substituteAfter _ more cs).countP_le
  exact hafter cs none h

/-! ## What the object holds -/

theorem envelopeOf?_eq_some_iff {cell : Cell} {envelope : Envelope} :
    envelopeOf? cell = some envelope ↔ Envelope.decode cell = .ok envelope := by
  cases cell with
  | record entries =>
    rw [envelopeOf?]
    cases Envelope.decode (.record entries) <;> simp [Except.toOption]
  | _ => simp [envelopeOf?, Envelope.decode, Checked.fail]

end SheetQuery.Reply
