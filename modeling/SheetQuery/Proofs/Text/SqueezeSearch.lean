import Mathlib.Data.List.Forall2
import SheetQuery.Proofs.Text.Passing
import SheetQuery.Proofs.Text.Squeeze

/-!
# Searching squeezed texts

Searching, replacing and cutting commute with squeezing, as long as the pieces looked for do not start
in the middle of a run of blanks. What is written for a piece may touch blanks around it, so replacing
gives the same text up to one more squeezing, and so does cutting.

* `Recogniser.IsSolid`, `firstMatch?_squeeze`: the first place where a word is found;
* `Rewriter.IsSolid`, `squeeze_substitute`: replacing;
* `map_squeeze_cut`: cutting.
-/

namespace SheetQuery.Text

/-! ## Word boundaries -/

theorem isBlank_head?_space (cs : List Char) : (' ' :: cs).head?.any isBlank = true := by
  rw [List.head?_cons]
  decide

theorem isBoundary_head?_squeeze (before : Option Char) (cs : List Char) :
    isBoundary before (squeeze cs).head? = isBoundary before cs.head? := by
  have hspace : isWordChar ' ' = false := by decide
  rw [isBoundary, isBoundary, head?_squeeze]
  cases cs with
  | nil => rfl
  | cons c cs => cases hc : isBlank c <;> simp [hc, hspace, isWordChar_of_isBlank]

theorem isBoundary_congr {before other : Option Char}
    (h : before.any isWordChar = other.any isWordChar) (after : Option Char) :
    isBoundary before after = isBoundary other after := by
  rw [isBoundary, h, isBoundary]

/-- In front of a text, two characters may be taken for each other: before blanks any two, before
others those that are both word characters or both not. -/
def Exchangeable (cs : List Char) (before other : Option Char) : Prop :=
  cs.head?.any isBlank = false → before.any isWordChar = other.any isWordChar

theorem Exchangeable.refl (cs : List Char) (before : Option Char) : Exchangeable cs before before :=
  fun _ => rfl

theorem Exchangeable.of_blank {cs : List Char} (h : cs.head?.any isBlank = true)
    (before other : Option Char) : Exchangeable cs before other := by
  intro hcs
  rw [h] at hcs
  cases hcs

theorem exchangeable_space {c : Char} (h : isBlank c = true) (cs : List Char) :
    Exchangeable cs (some c) (some ' ') := by
  intro _
  rw [Option.any_some, Option.any_some, isWordChar_of_isBlank h]
  decide

theorem Exchangeable.isBoundary_squeeze {cs : List Char} {before other : Option Char}
    (h : Exchangeable cs before other) (hcs : cs.head?.any isBlank = false) :
    isBoundary other (squeeze cs).head? = isBoundary before cs.head? := by
  rw [isBoundary_head?_squeeze, isBoundary_congr (h hcs).symm]

/-! ## Occurrences -/

theorem isPrefixOf_of_blank {k : Char} (hk : isBlank k = false) (ks : List Char) {cs : List Char}
    (hcs : cs.head?.any isBlank = true) : (k :: ks).isPrefixOf cs = false := by
  cases cs with
  | nil => cases hcs
  | cons c cs =>
    have hne : k ≠ c := by
      rintro rfl
      have hblank : isBlank k = true := hcs
      rw [hk] at hblank
      cases hblank
    rw [List.isPrefixOf, beq_eq_false_iff_ne.mpr hne, Bool.false_and]

theorem isPrefixOf_squeeze {needle : List Char} (h : ∀ k ∈ needle, isBlank k = false)
    (cs : List Char) : needle.isPrefixOf (squeeze cs) = needle.isPrefixOf cs := by
  induction needle generalizing cs with
  | nil => rfl
  | cons k ks ih =>
    have hk := h k List.mem_cons_self
    cases hcs : cs.head?.any isBlank with
    | true =>
      rw [isPrefixOf_of_blank hk ks hcs,
        isPrefixOf_of_blank hk ks (by rwa [any_isBlank_head?_squeeze])]
    | false =>
      cases cs with
      | nil => rfl
      | cons c cs =>
        have hc : isBlank c = false := hcs
        rw [squeeze_cons_of_not_blank hc, List.isPrefixOf, List.isPrefixOf,
          ih fun l hl => h l (List.mem_cons_of_mem k hl)]

/-- A word occurs in a squeezed text if it occurs in the text. -/
theorem occursIn_squeeze {needle : List Char} (hne : needle ≠ [])
    (h : ∀ k ∈ needle, isBlank k = false) (cs : List Char) :
    occursIn needle (squeeze cs) = occursIn needle cs := by
  obtain ⟨k, ks, rfl⟩ := List.exists_cons_of_ne_nil hne
  have hk := h k List.mem_cons_self
  induction cs with
  | nil => rfl
  | cons c cs ih =>
    have hstarts := isPrefixOf_squeeze h (c :: cs)
    cases hc : isBlank c with
    | false =>
      rw [squeeze_cons_of_not_blank hc] at hstarts ⊢
      rw [occursIn, occursIn, hstarts, ih]
    | true =>
      -- the word starts at no blank, be it kept by squeezing or not
      have hhead : (c :: cs).head?.any isBlank = true := hc
      rw [occursIn, isPrefixOf_of_blank hk ks hhead, Bool.false_or, ← ih]
      cases hcs : cs.head?.any isBlank with
      | true => rw [squeeze_cons_of_blank_of_blank hc hcs]
      | false =>
        rw [squeeze_cons_of_blank hc hcs, occursIn, isPrefixOf_of_blank hk ks (isBlank_head?_space _),
          Bool.false_or]

theorem suffix_pushSqueezed (c : Char) (cs : List Char) : cs <:+ pushSqueezed c cs := by
  rw [pushSqueezed]
  split
  · split
    · exact List.suffix_rfl
    · exact List.suffix_cons ' ' cs
  · exact List.suffix_cons c cs

/-- Some words with single spaces between them occur in a squeezed text if they occur in the text. -/
theorem occursIn_squeeze_of_occursIn {needle cs : List Char} (hneedle : isSpacedSingly needle = true)
    (h : occursIn needle cs = true) : occursIn needle (squeeze cs) = true := by
  rw [occursIn_iff] at h ⊢
  obtain ⟨before, after, rfl⟩ := h
  have hsame : List.Forall₂ (fun k c => sameLetter k c = true) needle needle :=
    List.forall₂_same.mpr fun k _ => sameLetter_self k
  have hsuffix : ∀ xs ys : List Char, ys <:+ xs.foldr pushSqueezed ys := by
    intro xs ys
    induction xs with
    | nil => exact List.suffix_rfl
    | cons x xs ih => exact ih.trans (suffix_pushSqueezed x _)
  rw [List.append_assoc, squeeze_append, squeeze_append_of_forall₂ hsame hneedle]
  exact (List.prefix_append needle _).isInfix.trans (hsuffix before _).isInfix

/-! ## The first match -/

/-- A recogniser of pieces that start outside blanks, and that stand in a squeezed text as they stand
in the text. -/
structure Recogniser.IsSolid (recognise : Recogniser) : Prop where
  blank : ∀ before cs, cs.head?.any isBlank = true → recognise before cs = none
  reads : ∀ before other cs, cs.head?.any isBlank = false → Exchangeable cs before other →
    recognise other (squeeze cs) = (recognise before cs).map squeeze

theorem snd_firstMatch?_cons (recognise : Recogniser) (before : Option Char) (c : Char)
    (cs : List Char) : (firstMatch? recognise before (c :: cs)).map Prod.snd =
      (recognise before (c :: cs)).or ((firstMatch? recognise (some c) cs).map Prod.snd) := by
  rw [firstMatch?]
  cases recognise before (c :: cs) with
  | some rest => rfl
  | none => exact Option.map_map _ _ _

/-- The text after the first match, squeezed, follows the first match in the squeezed text. -/
theorem firstMatch?_squeeze {recognise : Recogniser} (h : recognise.IsSolid) {cs : List Char}
    {before other : Option Char} (hbefore : Exchangeable cs before other) :
    (firstMatch? recognise other (squeeze cs)).map Prod.snd =
      ((firstMatch? recognise before cs).map Prod.snd).map squeeze := by
  induction cs generalizing before other with
  | nil =>
    have hnil := h.reads before other [] rfl hbefore
    rw [squeeze_nil] at hnil ⊢
    rw [firstMatch?, firstMatch?, hnil]
    cases recognise before [] <;> rfl
  | cons c cs ih =>
    rw [snd_firstMatch?_cons]
    cases hc : isBlank c with
    | false =>
      have hhead : (c :: cs).head?.any isBlank = false := hc
      have hreads := h.reads before other (c :: cs) hhead hbefore
      rw [squeeze_cons_of_not_blank hc] at hreads ⊢
      rw [snd_firstMatch?_cons, hreads, ih (Exchangeable.refl cs (some c))]
      cases recognise before (c :: cs) <;> rfl
    | true =>
      -- what stands before the rest of a run of blanks does not matter, nothing starts there
      rw [h.blank before (c :: cs) hc, Option.none_or]
      cases hcs : cs.head?.any isBlank with
      | true =>
        rw [squeeze_cons_of_blank_of_blank hc hcs]
        exact ih (Exchangeable.of_blank hcs (some c) other)
      | false =>
        rw [squeeze_cons_of_blank hc hcs, snd_firstMatch?_cons, h.blank other _ (isBlank_head?_space _),
          Option.none_or]
        exact ih (exchangeable_space hc cs)

/-! ## Replacing -/

/-- What to write for the piece at a place of a text, and the text after the piece. -/
abbrev Rewriter := Option Char → List Char → Option (List Char × List Char)

/-- The rewriter in the form in which texts are scanned with it. -/
def Rewriter.scan (rewrite : Rewriter) (before : Option Char) (cs : List Char) :
    Option (Nat × List Char) :=
  (rewrite before cs).map fun found => (cs.length - found.2.length - 1, found.1)

/-- A rewriter of pieces that start and end outside blanks, and that stand in a squeezed text as they
stand in the text. -/
structure Rewriter.IsSolid (rewrite : Rewriter) : Prop where
  blank : ∀ before cs, cs.head?.any isBlank = true → rewrite before cs = none
  piece : ∀ before cs found, rewrite before cs = some found →
    ∃ piece last, cs = piece ++ last :: found.2 ∧ isBlank last = false
  reads : ∀ before other cs, cs.head?.any isBlank = false → Exchangeable cs before other →
    rewrite other (squeeze cs) = (rewrite before cs).map fun found => (found.1, squeeze found.2)

theorem substituteAfter_skip (recognise : Option Char → List Char → Option (Nat × List Char))
    (before : Option Char) (last : Char) (xs ys : List Char) :
    substituteAfter recognise before (xs.length + 1) (xs ++ last :: ys) =
      substituteAfter recognise (some last) 0 ys := by
  induction xs generalizing before with
  | nil => rfl
  | cons x xs ih => exact ih (some x)

/-- A piece that is found is written anew, and the scan goes on after it. -/
theorem substituteAfter_scan {rewrite : Rewriter} {before : Option Char} {new rest piece : List Char}
    {last : Char} (h : rewrite before (piece ++ last :: rest) = some (new, rest)) :
    substituteAfter rewrite.scan before 0 (piece ++ last :: rest) =
      new ++ substituteAfter rewrite.scan (some last) 0 rest := by
  have hscan : rewrite.scan before (piece ++ last :: rest) = some (piece.length, new) := by
    have hlength : (piece ++ last :: rest).length - rest.length - 1 = piece.length := by
      rw [List.length_append, List.length_cons]
      omega
    rw [Rewriter.scan, h, Option.map_some, hlength]
  cases piece with
  | nil =>
    rw [List.nil_append] at hscan ⊢
    rw [substituteAfter, hscan]
    rfl
  | cons c piece =>
    rw [List.cons_append] at hscan ⊢
    rw [substituteAfter, hscan]
    show new ++ substituteAfter rewrite.scan (some c) (piece.length + 1) (piece ++ last :: rest) = _
    rw [substituteAfter_skip]

theorem substituteAfter_scan_self {rewrite : Rewriter} {before : Option Char} {new cs : List Char}
    (hne : cs ≠ []) (h : rewrite before cs = some (new, [])) :
    substituteAfter rewrite.scan before 0 cs = new := by
  have hparts : cs.dropLast ++ [cs.getLast hne] = cs := List.dropLast_append_getLast hne
  rw [← hparts] at h ⊢
  rw [substituteAfter_scan h, substituteAfter, List.append_nil]

theorem substituteAfter_of_none {rewrite : Rewriter} {before : Option Char} {c : Char}
    {cs : List Char} (h : rewrite before (c :: cs) = none) :
    substituteAfter rewrite.scan before 0 (c :: cs) =
      c :: substituteAfter rewrite.scan (some c) 0 cs := by
  have hscan : rewrite.scan before (c :: cs) = none := by rw [Rewriter.scan, h]; rfl
  rw [substituteAfter, hscan]

/-- What stands before the first piece is kept. -/
theorem substituteAfter_append_of_none {rewrite : Rewriter} {before : Option Char}
    {cs rest : List Char}
    (h : ∀ before t, t ≠ [] → t <:+ cs → rewrite before (t ++ rest) = none) :
    substituteAfter rewrite.scan before 0 (cs ++ rest) =
      cs ++ substituteAfter rewrite.scan (cs.getLast?.or before) 0 rest := by
  induction cs generalizing before with
  | nil => rfl
  | cons c cs ih =>
    have hrest : substituteAfter rewrite.scan (some c) 0 (cs ++ rest) =
        cs ++ substituteAfter rewrite.scan (cs.getLast?.or (some c)) 0 rest :=
      ih fun before t hne ht => h before t hne (ht.trans (List.suffix_cons c cs))
    have hlast : (c :: cs).getLast?.or before = cs.getLast?.or (some c) := by
      rw [List.getLast?_cons]
      cases cs.getLast? <;> rfl
    have hfirst : rewrite before (c :: (cs ++ rest)) = none :=
      h before (c :: cs) (List.cons_ne_nil c cs) (List.suffix_refl _)
    rw [List.cons_append, substituteAfter_of_none hfirst, hrest, hlast, List.cons_append]

theorem squeeze_substituteAfter {rewrite : Rewriter} (h : rewrite.IsSolid) {cs : List Char}
    {before other : Option Char} (hbefore : Exchangeable cs before other) :
    squeeze (substituteAfter rewrite.scan other 0 (squeeze cs)) =
      squeeze (substituteAfter rewrite.scan before 0 cs) := by
  -- the pieces found are skipped at once, so the induction is on the length of the text
  induction hn : cs.length using Nat.strongRecOn generalizing cs before other with
  | ind n ih =>
    subst hn
    cases cs with
    | nil => rfl
    | cons c cs =>
      have hlength : cs.length < (c :: cs).length := Nat.lt_succ_self _
      cases hc : isBlank c with
      | true =>
        rw [substituteAfter_of_none (h.blank before (c :: cs) hc)]
        cases hcs : cs.head?.any isBlank with
        | true =>
          rw [squeeze_cons_of_blank_of_blank hc hcs,
            ih _ hlength (Exchangeable.of_blank hcs (some c) other) rfl]
          cases cs with
          | nil => cases hcs
          | cons d cs =>
            rw [substituteAfter_of_none (h.blank (some c) (d :: cs) hcs)]
            have hd : isBlank d = true := hcs
            exact (squeeze_cons_of_blank_of_blank hc (by simpa using hd)).symm
        | false =>
          rw [squeeze_cons_of_blank hc hcs, substituteAfter_of_none (h.blank other _ (isBlank_head?_space _)),
            squeeze_cons, squeeze_cons, ih _ hlength (exchangeable_space hc cs) rfl,
            pushSqueezed_of_blank hc]
      | false =>
        have hreads := h.reads before other (c :: cs) hc hbefore
        cases hfound : rewrite before (c :: cs) with
        | none =>
          rw [hfound, squeeze_cons_of_not_blank hc] at hreads
          rw [substituteAfter_of_none hfound, squeeze_cons_of_not_blank hc,
            substituteAfter_of_none hreads, squeeze_cons, squeeze_cons,
            ih _ hlength (Exchangeable.refl cs (some c)) rfl]
        | some found =>
          obtain ⟨new, rest⟩ := found
          obtain ⟨piece, last, heq, hlast⟩ := h.piece before (c :: cs) _ hfound
          have hsqueeze : squeeze (piece ++ last :: rest) = squeeze piece ++ last :: squeeze rest := by
            rw [List.append_cons, squeeze_append_of_not_blank, squeeze_append_singleton hlast,
              ← List.append_cons]
            intro d hd
            rw [List.getLast?_concat] at hd
            rwa [← Option.some.inj hd]
          have hrest : rest.length < (c :: cs).length := by
            simp only [heq, List.length_append, List.length_cons]
            omega
          rw [heq] at hfound hreads ⊢
          rw [hfound, hsqueeze] at hreads
          rw [substituteAfter_scan hfound, hsqueeze, substituteAfter_scan hreads]
          exact squeeze_append_congr new (ih _ hrest (Exchangeable.refl rest (some last)) rfl)

/-- Replacing in a squeezed text gives the same, up to one more squeezing. -/
theorem squeeze_substitute {rewrite : Rewriter} (h : rewrite.IsSolid) (cs : List Char) :
    squeeze (substitute rewrite.scan (squeeze cs)) = squeeze (substitute rewrite.scan cs) :=
  squeeze_substituteAfter h (Exchangeable.refl cs none)

theorem squeeze_substitute_congr {rewrite : Rewriter} (h : rewrite.IsSolid) {cs ds : List Char}
    (heq : squeeze cs = squeeze ds) :
    squeeze (substitute rewrite.scan cs) = squeeze (substitute rewrite.scan ds) := by
  rw [← squeeze_substitute h cs, heq, squeeze_substitute h ds]

/-! ## Cutting -/

/-- The text after the separator at a place of a text. -/
abbrev Separator := List Char → Option (List Char)

/-- The separator in the form in which texts are cut with it. -/
def Separator.scan (separate : Separator) (cs : List Char) : Option Nat :=
  (separate cs).map fun rest => cs.length - rest.length - 1

/-- A separator that stands in a squeezed text as it stands in the text. -/
structure Separator.IsSolid (separate : Separator) : Prop where
  suffix : ∀ cs rest, separate cs = some rest → ∃ c piece, cs = c :: piece ++ rest
  reads : ∀ cs, separate (squeeze cs) = (separate cs).map squeeze

theorem cutAfter_skip (recognise : List Char → Option Nat) (xs ys : List Char) :
    cutAfter recognise xs.length (xs ++ ys) = cutAfter recognise 0 ys := by
  induction xs with
  | nil => rfl
  | cons x xs ih => exact ih

theorem cut_scan {separate : Separator} {c : Char} {piece rest : List Char}
    (h : separate (c :: piece ++ rest) = some rest) :
    cut separate.scan (c :: piece ++ rest) = [] :: cut separate.scan rest := by
  have hscan : separate.scan (c :: (piece ++ rest)) = some piece.length := by
    rw [← List.cons_append, Separator.scan, h, Option.map_some, List.length_append, List.length_cons]
    congr 1
    omega
  rw [List.cons_append, cut, cutAfter, hscan]
  show [] :: cutAfter separate.scan piece.length (piece ++ rest) = _
  rw [cutAfter_skip, cut]

theorem cut_ne_nil (recognise : List Char → Option Nat) (cs : List Char) :
    cut recognise cs ≠ [] := by
  have hafter : ∀ (cs : List Char) (skip : Nat), cutAfter recognise skip cs ≠ [] := by
    intro cs
    induction cs with
    | nil => simp [cutAfter]
    | cons c cs ih =>
      intro skip
      cases skip with
      | succ skip => exact ih skip
      | zero =>
        rw [cutAfter]
        split
        · simp
        · split <;> simp
  exact hafter cs 0

/-- Outside separators a character begins the first piece. -/
theorem cut_of_none {separate : Separator} {c : Char} {cs : List Char}
    (h : separate (c :: cs) = none) : ∃ piece pieces, cut separate.scan cs = piece :: pieces ∧
      cut separate.scan (c :: cs) = (c :: piece) :: pieces := by
  have hscan : separate.scan (c :: cs) = none := by rw [Separator.scan, h]; rfl
  obtain ⟨piece, pieces, hcut⟩ := List.exists_cons_of_ne_nil (cut_ne_nil separate.scan cs)
  refine ⟨piece, pieces, hcut, ?_⟩
  rw [cut] at hcut
  rw [cut, cutAfter, hscan]
  simp only [hcut]

/-- What holds no separator, with what follows it, begins the first piece. -/
theorem cut_append {separate : Separator} {cs after first : List Char} {pieces : List (List Char)}
    (h : ∀ skipped tail, cs = skipped ++ tail → tail ≠ [] → separate (tail ++ after) = none)
    (hafter : cut separate.scan after = first :: pieces) :
    cut separate.scan (cs ++ after) = (cs ++ first) :: pieces := by
  induction cs with
  | nil => exact hafter
  | cons c cs ih =>
    have hrest := ih fun skipped tail heq => h (c :: skipped) tail (by rw [heq]; rfl)
    obtain ⟨piece, others, hcut, hcons⟩ := cut_of_none (h [] (c :: cs) rfl (List.cons_ne_nil c cs))
    obtain ⟨rfl, rfl⟩ := List.cons.inj (hrest.symm.trans hcut)
    exact hcons

/-- A squeezed text is cut into the squeezed pieces, up to one more squeezing. -/
theorem map_squeeze_cut {separate : Separator} (h : separate.IsSolid) (cs : List Char) :
    (cut separate.scan (squeeze cs)).map squeeze = (cut separate.scan cs).map squeeze := by
  induction hn : cs.length using Nat.strongRecOn generalizing cs with
  | ind n ih =>
    subst hn
    cases hfound : separate cs with
    | some rest =>
      have hreads := h.reads cs
      rw [hfound, Option.map_some] at hreads
      obtain ⟨c, piece, rfl⟩ := h.suffix cs rest hfound
      obtain ⟨d, other, heq⟩ := h.suffix _ _ hreads
      have hlength : rest.length < (c :: piece ++ rest).length := by
        simp only [List.length_append, List.length_cons]
        omega
      rw [heq] at hreads ⊢
      rw [cut_scan hfound, cut_scan hreads, List.map_cons, List.map_cons, ih _ hlength rest rfl]
    | none =>
      have hreads := h.reads cs
      rw [hfound, Option.map_none] at hreads
      cases cs with
      | nil => rfl
      | cons c cs =>
        have hrest := ih _ (Nat.lt_succ_self cs.length) cs rfl
        obtain ⟨piece, pieces, hcut, hcons⟩ := cut_of_none hfound
        rw [hcut, List.map_cons] at hrest
        rw [hcons, List.map_cons]
        cases hc : isBlank c with
        | false =>
          rw [squeeze_cons_of_not_blank hc] at hreads ⊢
          obtain ⟨first, others, hcut', hcons'⟩ := cut_of_none hreads
          rw [hcut', List.map_cons] at hrest
          rw [hcons', List.map_cons, squeeze_cons, squeeze_cons, (List.cons.inj hrest).1,
            (List.cons.inj hrest).2]
        | true =>
          cases hcs : cs.head?.any isBlank with
          | true =>
            rw [squeeze_cons_of_blank_of_blank hc hcs] at hreads ⊢
            rw [hrest]
            have hnone : separate cs = none := by
              rw [h.reads cs, Option.map_eq_none_iff] at hreads
              exact hreads
            -- the first piece starts in the same run of blanks
            cases cs with
            | nil => cases hcs
            | cons d cs =>
              have hd : isBlank d = true := hcs
              obtain ⟨inner, others, -, hinner⟩ := cut_of_none hnone
              obtain ⟨rfl, rfl⟩ := List.cons.inj (hcut.symm.trans hinner)
              rw [squeeze_cons_of_blank_of_blank hc (by simpa using hd)]
          | false =>
            rw [squeeze_cons_of_blank hc hcs] at hreads ⊢
            obtain ⟨first, others, hcut', hcons'⟩ := cut_of_none hreads
            rw [hcut', List.map_cons] at hrest
            rw [hcons', List.map_cons, squeeze_cons, squeeze_cons, (List.cons.inj hrest).1,
              (List.cons.inj hrest).2, pushSqueezed_of_blank hc]

theorem map_squeeze_cut_congr {separate : Separator} (h : separate.IsSolid) {cs ds : List Char}
    (heq : squeeze cs = squeeze ds) :
    (cut separate.scan cs).map squeeze = (cut separate.scan ds).map squeeze := by
  rw [← map_squeeze_cut h cs, heq, map_squeeze_cut h ds]

end SheetQuery.Text
