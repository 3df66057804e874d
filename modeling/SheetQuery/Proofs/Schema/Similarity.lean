import Mathlib.Data.Finset.Card
import SheetQuery.Proofs.Numeric.Ratio
import SheetQuery.Schema.Naming

/-!
# Similarity of names

Two texts are compared by the sets of their pieces: the runs of three neighbouring characters, or the
whole text if it is shorter.

* `mem_pieces_iff`: what the pieces of a text are;
* `similarity_eq_fraction`: the share of common pieces among all pieces;
* `similarity_comm`, `similarity_le_one`: similarity is symmetric and lies between zero and one;
* `similarity_eq_one_iff`: wholly similar are the texts with the same pieces, equal or not.
-/

namespace SheetQuery.Schema

/-! ## Pieces -/

theorem nodup_eraseDups {α : Type} [BEq α] [LawfulBEq α] : ∀ as : List α, as.eraseDups.Nodup
  | [] => List.nodup_nil
  | a :: as => by
    rw [List.eraseDups_cons, List.nodup_cons]
    exact ⟨by simp, nodup_eraseDups _⟩
termination_by as => as.length
decreasing_by exact Nat.lt_succ_of_le (List.length_filter_le _ _)

theorem mem_trigrams_iff {cs piece : List Char} :
    piece ∈ trigrams cs ↔ piece.length = 3 ∧ piece <:+: cs := by
  induction cs using trigrams.induct with
  | case1 a b c rest ih =>
    have hcons : piece <:+: a :: b :: c :: rest ↔ piece <+: a :: b :: c :: rest ∨
        piece <:+: b :: c :: rest := List.infix_cons_iff
    rw [trigrams, List.mem_cons, ih, hcons]
    constructor
    · rintro (rfl | ⟨hlength, hinfix⟩)
      · exact ⟨rfl, .inl (List.prefix_append [a, b, c] rest)⟩
      · exact ⟨hlength, .inr hinfix⟩
    · rintro ⟨hlength, hprefix | hinfix⟩
      · -- a run of three at the start is made of the first three characters
        left
        obtain ⟨x, y, z, rfl⟩ := List.length_eq_three.mp hlength
        simpa using hprefix
      · exact .inr ⟨hlength, hinfix⟩
  | case2 cs hshort =>
    rw [trigrams]
    · simp only [List.not_mem_nil, false_iff, not_and]
      intro hlength hinfix
      have hle := hinfix.length_le
      rcases cs with _ | ⟨a, _ | ⟨b, _ | ⟨c, rest⟩⟩⟩
      iterate 3 simp [hlength] at hle
      exact hshort a b c rest rfl
    · exact hshort

theorem trigrams_eq_nil_iff {cs : List Char} : trigrams cs = [] ↔ cs.length < 3 := by
  rcases cs with _ | ⟨a, _ | ⟨b, _ | ⟨c, rest⟩⟩⟩ <;> simp [trigrams]

/-- The pieces of a text are its runs of three characters, and a shorter text is its only piece. -/
theorem mem_grams_iff {cs piece : List Char} :
    piece ∈ grams cs ↔
      if cs.length < 3 then piece = cs else piece.length = 3 ∧ piece <:+: cs := by
  unfold grams
  split
  · next h => rw [if_pos (trigrams_eq_nil_iff.mp h), List.mem_singleton]
  · next h =>
    rw [if_neg fun hshort => h (trigrams_eq_nil_iff.mpr hshort), List.mem_eraseDups,
      mem_trigrams_iff]

theorem nodup_grams (cs : List Char) : (grams cs).Nodup := by
  unfold grams
  split
  · exact List.nodup_singleton cs
  · exact nodup_eraseDups _

/-- The set of the pieces of a text. -/
def pieces (cs : List Char) : Finset (List Char) := (grams cs).toFinset

theorem mem_pieces_iff {cs piece : List Char} :
    piece ∈ pieces cs ↔
      if cs.length < 3 then piece = cs else piece.length = 3 ∧ piece <:+: cs := by
  rw [pieces, List.mem_toFinset, mem_grams_iff]

theorem card_pieces (cs : List Char) : (pieces cs).card = (grams cs).length :=
  List.toFinset_card_of_nodup (nodup_grams cs)

theorem pieces_nonempty (cs : List Char) : (pieces cs).Nonempty := by
  rw [← Finset.card_pos, card_pieces, List.length_pos_iff]
  unfold grams
  split
  · exact List.cons_ne_nil _ _
  · next h =>
    intro hnil
    obtain ⟨run, runs, hruns⟩ := List.exists_cons_of_ne_nil h
    rw [hruns, List.eraseDups_cons] at hnil
    cases hnil

theorem length_trigrams_le (cs : List Char) : (trigrams cs).length ≤ cs.length := by
  induction cs using trigrams.induct with
  | case1 a b c rest ih => simpa [trigrams] using ih
  | case2 cs hshort =>
    rw [trigrams]
    · exact Nat.zero_le _
    · exact hshort

theorem card_pieces_le (cs : List Char) : (pieces cs).card ≤ cs.length + 1 := by
  have hset : pieces cs ⊆ insert cs (trigrams cs).toFinset := by
    intro piece hpiece
    rw [mem_pieces_iff] at hpiece
    rw [Finset.mem_insert, List.mem_toFinset, mem_trigrams_iff]
    split at hpiece
    · exact .inl hpiece
    · exact .inr hpiece
  have hruns := (trigrams cs).toFinset_card_le
  have hlength := length_trigrams_le cs
  have hcard := Finset.card_le_card hset
  have hinsert := Finset.card_insert_le cs (trigrams cs).toFinset
  omega

/-! ## Fractions -/

theorem mk_le_mk_iff {m n : Nat} : (⟨false, m⟩ : Number) ≤ ⟨false, n⟩ ↔ m ≤ n := by
  show (m : Int) ≤ n ↔ _
  exact Int.ofNat_le

/-- The greatest similarity. -/
def one : Number := ⟨false, Number.unitsPerOne⟩

theorem fraction_zero : fraction 0 1 = ⟨false, 0⟩ := by
  rw [fraction, Binary64.ofRatio_zero]
  rfl

theorem fraction_self {count : Nat} (h : 0 < count) : fraction count count = one := by
  rw [fraction, Binary64.ofRatio_self h]
  rfl

/-- The share of a part is no more than one, and one only for the whole, unless the counts are too large
to be told apart. -/
theorem fraction_of_le {part whole : Nat} (h : part ≤ whole) (hpos : 0 < whole) :
    ∃ units, fraction part whole = ⟨false, units⟩ ∧ units ≤ Number.unitsPerOne ∧
      (whole < 2 ^ 54 → (fraction part whole = one ↔ part = whole)) := by
  rcases Nat.eq_or_lt_of_le h with rfl | hlt
  · exact ⟨_, fraction_self hpos, Nat.le_refl _, fun _ => iff_of_true (fraction_self hpos) rfl⟩
  · obtain ⟨units, hratio, hle, hless⟩ := Binary64.exists_ofRatio_of_lt hlt
    have hfraction : fraction part whole = ⟨false, units⟩ := by
      rw [fraction, hratio]
      rfl
    refine ⟨units, hfraction, hle, fun hwhole => iff_of_false ?_ (Nat.ne_of_lt hlt)⟩
    rw [hfraction, one, Number.mk.injEq]
    exact fun heq => absurd heq.2 (Nat.ne_of_lt (hless hwhole))

/-! ## Similarity -/

theorem similarity_self (cs : List Char) : similarity cs cs = one := by
  rw [similarity, if_pos rfl, fraction_self Nat.one_pos]

/-- The similarity of two texts is the share of common pieces among all their pieces. -/
theorem similarity_eq_fraction {left right : List Char} (hleft : left ≠ []) (hright : right ≠ []) :
    similarity left right =
      fraction (pieces left ∩ pieces right).card (pieces left ∪ pieces right).card := by
  by_cases heq : left = right
  · subst heq
    rw [similarity_self, Finset.inter_self, Finset.union_self,
      fraction_self (Finset.card_pos.mpr (pieces_nonempty left))]
  · have hshared : ((grams left).filter (grams right).contains).length =
        (pieces left ∩ pieces right).card := by
      rw [← List.toFinset_card_of_nodup ((nodup_grams left).filter _)]
      congr 1
      ext piece
      simp [pieces]
    have hnone : (left.isEmpty || right.isEmpty) = false := by simp [hleft, hright]
    rw [similarity, if_neg heq, hnone, if_neg Bool.false_ne_true]
    simp only [hshared, Finset.card_union, card_pieces]

/-- An empty text is similar to no other. -/
theorem similarity_of_nil {left right : List Char} (hne : left ≠ right)
    (h : left = [] ∨ right = []) : similarity left right = ⟨false, 0⟩ := by
  have hempty : (left.isEmpty || right.isEmpty) = true := by simpa using h
  rw [similarity, if_neg hne, if_pos hempty, fraction_zero]

theorem similarity_comm (left right : List Char) : similarity left right = similarity right left := by
  by_cases hne : left = right
  · rw [hne]
  · by_cases h : left = [] ∨ right = []
    · rw [similarity_of_nil hne h, similarity_of_nil (Ne.symm hne) h.symm]
    · obtain ⟨hleft, hright⟩ := not_or.mp h
      rw [similarity_eq_fraction hleft hright, similarity_eq_fraction hright hleft,
        Finset.inter_comm, Finset.union_comm]

theorem card_union_pos (left right : List Char) : 0 < (pieces left ∪ pieces right).card :=
  Finset.card_pos.mpr ((pieces_nonempty left).mono Finset.subset_union_left)

/-- Similarity lies between zero and one. -/
theorem exists_similarity (left right : List Char) :
    ∃ units, similarity left right = ⟨false, units⟩ ∧ units ≤ Number.unitsPerOne := by
  by_cases hne : left = right
  · rw [hne, similarity_self]
    exact ⟨_, rfl, Nat.le_refl _⟩
  · by_cases h : left = [] ∨ right = []
    · rw [similarity_of_nil hne h]
      exact ⟨0, rfl, Nat.zero_le _⟩
    · obtain ⟨hleft, hright⟩ := not_or.mp h
      obtain ⟨units, hunits, hle, -⟩ := fraction_of_le
        (Finset.card_le_card (Finset.inter_subset_union (s := pieces left) (t := pieces right)))
        (card_union_pos left right)
      rw [similarity_eq_fraction hleft hright]
      exact ⟨units, hunits, hle⟩

theorem zero_le_similarity (left right : List Char) : fraction 0 1 ≤ similarity left right := by
  obtain ⟨units, hunits, -⟩ := exists_similarity left right
  rw [hunits, fraction_zero]
  exact mk_le_mk_iff.mpr (Nat.zero_le units)

theorem similarity_le_one (left right : List Char) : similarity left right ≤ one := by
  obtain ⟨units, hunits, hle⟩ := exists_similarity left right
  rw [hunits]
  exact mk_le_mk_iff.mpr hle

/-- Texts are wholly similar if and, unless they are too long for their pieces to be counted, only if
they have the same pieces. -/
theorem similarity_eq_one_iff {left right : List Char} (h : left ≠ [])
    (hlength : left.length + right.length < 2 ^ 53) :
    similarity left right = one ↔ pieces left = pieces right := by
  -- nothing is similar to an empty text, which by the definition has a piece all the same
  by_cases hright : right = []
  · subst hright
    have hpieces : pieces left ≠ pieces [] := by
      intro heq
      have hmem : ([] : List Char) ∈ pieces left := by rw [heq, mem_pieces_iff]; rfl
      rw [mem_pieces_iff] at hmem
      split at hmem
      · exact h hmem.symm
      · exact absurd hmem.1 (by decide)
    rw [similarity_of_nil h (.inr rfl)]
    refine iff_of_false ?_ hpieces
    rw [one, Number.mk.injEq]
    exact fun heq => absurd heq.2 (Nat.ne_of_lt Number.unitsPerOne_pos)
  · have hbound : (pieces left ∪ pieces right).card < 2 ^ 54 := by
      have hunion := Finset.card_union_le (pieces left) (pieces right)
      have hcardleft := card_pieces_le left
      have hcardright := card_pieces_le right
      omega
    obtain ⟨units, -, -, hone⟩ := fraction_of_le
      (Finset.card_le_card (Finset.inter_subset_union (s := pieces left) (t := pieces right)))
      (card_union_pos left right)
    rw [similarity_eq_fraction h hright, hone hbound]
    constructor
    · intro hcard
      have hsame := Finset.eq_of_subset_of_card_le Finset.inter_subset_union (Nat.le_of_eq hcard.symm)
      exact inf_eq_sup.mp hsame
    · intro heq
      rw [heq, Finset.inter_self, Finset.union_self]

end SheetQuery.Schema
