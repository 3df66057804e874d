import SheetQuery.Proofs.Schema.Naming
import SheetQuery.Proofs.Schema.Similarity
import SheetQuery.Proofs.Text.Trim

/-!
# The column that a name means

* `best?_eq_some_iff`: the search for the best finds the first of those that nothing surpasses;
* `Means`: the rules by which a name means a column, each for what the earlier ones leave;
* `resolveName_eq_iff_means`: a name is resolved to what it means;
* `name_means_best_acceptable_column`: so the column is the best acceptable one;
* `spelling_variant_is_found_iff`: when a name leads to a column of its own spelling.
-/

namespace SheetQuery

/-! ## The order of numbers -/

theorem Number.le_refl (x : Number) : x ≤ x := Int.le_refl x.signed

theorem Number.le_trans {x y z : Number} (hxy : x ≤ y) (hyz : y ≤ z) : x ≤ z := Int.le_trans hxy hyz

theorem Number.not_lt {x y : Number} : ¬ x < y ↔ y ≤ x := Int.not_lt

theorem Number.not_le {x y : Number} : ¬ x ≤ y ↔ y < x := Int.not_le

namespace Schema

/-! ## The first of a list -/

/-- Is `a` the first member of a list with the property `p`? -/
def IsFirst {α : Type} (p : α → Prop) (as : List α) (a : α) : Prop :=
  p a ∧ ∃ before after, as = before ++ a :: after ∧ ∀ b ∈ before, ¬ p b

/-- Is the score of `a` surpassed by none in the list? -/
def IsBest {α : Type} (score : α → Number) (as : List α) (a : α) : Prop :=
  ∀ b ∈ as, score b ≤ score a

section First

variable {α : Type} {p q : α → Prop} {score : α → Number} {as : List α} {a b : α}

theorem find?_eq_some_iff_isFirst {test : α → Bool} (htest : ∀ a, test a = true ↔ p a) :
    as.find? test = some a ↔ IsFirst p as a := by
  simp only [List.find?_eq_some_iff_append, IsFirst, htest, Bool.not_eq_true', ← Bool.not_eq_true]

theorem IsFirst.mem (h : IsFirst p as a) : a ∈ as := by
  obtain ⟨-, before, after, rfl, -⟩ := h
  exact List.mem_append_right _ List.mem_cons_self

theorem IsFirst.eq (ha : IsFirst p as a) (hb : IsFirst p as b) : a = b := by
  classical
  have hfind : ∀ c, as.find? (fun c => decide (p c)) = some c ↔ IsFirst p as c := fun c =>
    find?_eq_some_iff_isFirst fun _ => decide_eq_true_iff
  exact Option.some.inj (((hfind a).mpr ha).symm.trans ((hfind b).mpr hb))

theorem exists_isFirst (h : ∃ a ∈ as, p a) : ∃ a, IsFirst p as a := by
  classical
  obtain ⟨a, hmem, ha⟩ := h
  have hsome : (as.find? fun a => decide (p a)).isSome :=
    List.find?_isSome.mpr ⟨a, hmem, decide_eq_true ha⟩
  obtain ⟨first, hfirst⟩ := Option.isSome_iff_exists.mp hsome
  exact ⟨first, (find?_eq_some_iff_isFirst fun _ => decide_eq_true_iff).mp hfirst⟩

/-- What is first of a list is so by any property that says the same of the members. -/
theorem isFirst_congr (h : ∀ a ∈ as, p a ↔ q a) : IsFirst p as a ↔ IsFirst q as a := by
  constructor <;> rintro ⟨ha, before, after, rfl, hbefore⟩
  · refine ⟨(h a (by simp)).mp ha, before, after, rfl, fun b hb hq => ?_⟩
    exact hbefore b hb ((h b (List.mem_append_left _ hb)).mpr hq)
  · refine ⟨(h a (by simp)).mpr ha, before, after, rfl, fun b hb hp => ?_⟩
    exact hbefore b hb ((h b (List.mem_append_left _ hb)).mp hp)

theorem best?_eq_none_iff : best? score as = none ↔ as = [] := by
  cases as with
  | nil => exact iff_of_true rfl rfl
  | cons a as =>
    rw [best?]
    refine iff_of_false ?_ (List.cons_ne_nil a as)
    split
    · exact Option.some_ne_none _
    · split <;> exact Option.some_ne_none _

/-- The invariant of the search, from the end of the list to its start: what is found is the first of
the best so far. -/
theorem isFirst_of_best? {found : α × Number} (h : best? score as = some found) :
    found.2 = score found.1 ∧ IsFirst (IsBest score as) as found.1 := by
  induction as generalizing found with
  | nil => cases h
  | cons a as ih =>
    rw [best?] at h
    split at h
    · next hnone =>
      obtain rfl := best?_eq_none_iff.mp hnone
      obtain rfl := Option.some.inj h
      exact ⟨rfl, fun b hb => by rw [List.mem_singleton.mp hb]; exact Number.le_refl _, [], [], rfl,
        by simp⟩
    · next best hbest =>
      obtain ⟨hscore, hgreatest, before, after, has, hbefore⟩ := ih hbest
      split at h
      · next hless =>
        -- the new head is surpassed, so it only joins those before the best
        obtain rfl := Option.some.inj h
        rw [hscore] at hless
        refine ⟨hscore, ?_, a :: before, after, by rw [has]; rfl, ?_⟩
        · rintro b (_ | ⟨_, hb⟩)
          · exact Int.le_of_lt hless
          · exact hgreatest b hb
        · rintro b (_ | ⟨_, hb⟩) hbest'
          · have hmem : best.1 ∈ a :: as := by rw [has]; simp
            exact Number.not_lt.mpr (hbest' best.1 hmem) hless
          · exact hbefore b hb fun c hc => hbest' c (List.mem_cons_of_mem _ hc)
      · next hless =>
        -- the new head is as good as the best, and stands before it
        obtain rfl := Option.some.inj h
        rw [hscore] at hless
        refine ⟨rfl, ?_, [], as, rfl, by simp⟩
        rintro b (_ | ⟨_, hb⟩)
        · exact Number.le_refl _
        · exact Number.le_trans (hgreatest b hb) (Number.not_lt.mp hless)

/-- The search for the best finds the first of those that nothing surpasses. -/
theorem best?_eq_some_iff {best : Number} :
    best? score as = some (a, best) ↔ best = score a ∧ IsFirst (IsBest score as) as a := by
  constructor
  · exact isFirst_of_best?
  · rintro ⟨rfl, hfirst⟩
    cases hfound : best? score as with
    | none =>
      rw [best?_eq_none_iff.mp hfound] at hfirst
      cases hfirst.mem
    | some found =>
      obtain ⟨hscore, hfirst'⟩ := isFirst_of_best? hfound
      obtain rfl := hfirst.eq hfirst'
      rw [← hscore]

end First

/-! ## The rules -/

/-- How similar a column is to a name. -/
def likeness (name column : String) : Number := similarity (bareName name) (bareName column)

/-- Is a column equal to a name up to case? -/
def IsAlike (name column : String) : Prop := Text.lowerText column = Text.lowerText name

/-- Does the bare name of a column contain that of a name? -/
def IsWider (name column : String) : Prop := bareName name <:+: bareName column

variable {columns : List String} {name column : String}

theorem similarColumn?_eq_some_iff : similarColumn? (bareName name) columns = some column ↔
    IsFirst (IsBest (likeness name) columns) columns column ∧
      similarityThreshold ≤ likeness name column := by
  have hscore : (fun column => similarity (bareName name) (bareName column)) = likeness name := rfl
  rw [similarColumn?, hscore]
  constructor
  · intro h
    split at h
    · next found score hfound =>
      split at h
      · next hle =>
        obtain rfl := Option.some.inj h
        obtain ⟨rfl, hfirst⟩ := best?_eq_some_iff.mp hfound
        exact ⟨hfirst, hle⟩
      · cases h
    · cases h
  · rintro ⟨hfirst, hle⟩
    rw [best?_eq_some_iff.mpr ⟨rfl, hfirst⟩]
    exact if_pos hle

theorem similarColumn?_eq_none_iff : similarColumn? (bareName name) columns = none ↔
    ∀ column ∈ columns, likeness name column < similarityThreshold := by
  constructor
  · intro h
    cases hfound : best? (likeness name) columns with
    | none =>
      rw [best?_eq_none_iff.mp hfound]
      exact fun _ hmem => nomatch hmem
    | some found =>
      obtain ⟨-, hfirst⟩ := best?_eq_some_iff.mp hfound
      intro column hcolumn
      rw [← Number.not_le]
      intro hle
      have hsome := similarColumn?_eq_some_iff.mpr
        ⟨hfirst, Number.le_trans hle (hfirst.1 column hcolumn)⟩
      rw [h] at hsome
      cases hsome
  · intro h
    rw [Option.eq_none_iff_forall_ne_some]
    intro column hsome
    obtain ⟨hfirst, hle⟩ := similarColumn?_eq_some_iff.mp hsome
    exact Number.not_le.mpr (h column hfirst.mem) hle

theorem widerColumn?_eq_some_iff : widerColumn? (bareName name) columns = some column ↔
    bareName name ≠ [] ∧ IsFirst (IsWider name) columns column := by
  have hfind : (columns.find? fun column => Text.occursIn (bareName name) (bareName column)) =
      some column ↔ IsFirst (IsWider name) columns column :=
    find?_eq_some_iff_isFirst fun _ => Text.occursIn_iff
  rw [widerColumn?]
  split
  · next h =>
    rw [List.isEmpty_iff] at h
    exact iff_of_false (fun hnone => nomatch hnone) fun hname => hname.1 h
  · next h =>
    rw [List.isEmpty_iff] at h
    rw [hfind]
    exact (and_iff_right h).symm

theorem widerColumn?_eq_none_iff : widerColumn? (bareName name) columns = none ↔
    bareName name = [] ∨ ∀ column ∈ columns, ¬ IsWider name column := by
  rw [widerColumn?]
  split
  · next h => exact iff_of_true rfl (.inl (List.isEmpty_iff.mp h))
  · next h =>
    rw [List.isEmpty_iff] at h
    simp only [List.find?_eq_none, Text.occursIn_iff, IsWider, or_iff_right h]

/-- The rules by which a name means a column, or nothing but itself. -/
inductive Means (columns : List String) (name : String) : String → Prop
  /-- It is a column. -/
  | itself (mem : name ∈ columns) : Means columns name name
  /-- It is no column, and this is the first one equal to it up to case. -/
  | alike {column : String} (not_mem : name ∉ columns)
      (first : IsFirst (IsAlike name) columns column) : Means columns name column
  /-- No column is equal to it up to case, and this is the first of the most similar ones, which are
  similar enough. -/
  | similar {column : String} (unlike : ∀ other ∈ columns, ¬ IsAlike name other)
      (first : IsFirst (IsBest (likeness name) columns) columns column)
      (acceptable : similarityThreshold ≤ likeness name column) : Means columns name column
  /-- No column is similar enough, and this is the first one that contains the name, which is not
  bare of everything. -/
  | wider {column : String} (unlike : ∀ other ∈ columns, ¬ IsAlike name other)
      (dissimilar : ∀ other ∈ columns, likeness name other < similarityThreshold)
      (named : bareName name ≠ []) (first : IsFirst (IsWider name) columns column) :
      Means columns name column
  /-- No rule finds a column. -/
  | foreign (unlike : ∀ other ∈ columns, ¬ IsAlike name other)
      (dissimilar : ∀ other ∈ columns, likeness name other < similarityThreshold)
      (narrow : bareName name = [] ∨ ∀ other ∈ columns, ¬ IsWider name other) :
      Means columns name name

theorem find?_alike_eq_some_iff :
    (columns.find? fun column => Text.lowerText column == Text.lowerText name) = some column ↔
      IsFirst (IsAlike name) columns column :=
  find?_eq_some_iff_isFirst fun _ => beq_iff_eq

theorem find?_alike_eq_none_iff :
    (columns.find? fun column => Text.lowerText column == Text.lowerText name) = none ↔
      ∀ column ∈ columns, ¬ IsAlike name column := by
  simp only [List.find?_eq_none, beq_iff_eq, IsAlike]

theorem resolveName_of_not_mem (h : name ∉ columns) : resolveName columns name =
    ((columns.find? fun column => Text.lowerText column == Text.lowerText name)
      |>.or (similarColumn? (bareName name) columns)
      |>.or (widerColumn? (bareName name) columns)).getD name :=
  if_neg fun hcontains => h (List.contains_iff_mem.mp hcontains)

theorem resolveName_of_means (h : Means columns name column) : resolveName columns name = column := by
  cases h with
  | itself mem => exact resolveName_of_mem mem
  | alike not_mem first =>
    rw [resolveName_of_not_mem not_mem, find?_alike_eq_some_iff.mpr first]
    rfl
  | similar unlike first acceptable =>
    rw [resolveName_of_not_mem fun mem => unlike name mem rfl, find?_alike_eq_none_iff.mpr unlike,
      similarColumn?_eq_some_iff.mpr ⟨first, acceptable⟩]
    rfl
  | wider unlike dissimilar named first =>
    rw [resolveName_of_not_mem fun mem => unlike name mem rfl, find?_alike_eq_none_iff.mpr unlike,
      similarColumn?_eq_none_iff.mpr dissimilar, widerColumn?_eq_some_iff.mpr ⟨named, first⟩]
    rfl
  | foreign unlike dissimilar narrow =>
    exact resolveName_of_isForeign ⟨unlike, similarColumn?_eq_none_iff.mpr dissimilar,
      widerColumn?_eq_none_iff.mpr narrow⟩

/-- The rules leave no name without a meaning. -/
theorem exists_means (columns : List String) (name : String) : ∃ column, Means columns name column := by
  by_cases mem : name ∈ columns
  · exact ⟨name, .itself mem⟩
  cases halike : columns.find? fun column => Text.lowerText column == Text.lowerText name with
  | some column => exact ⟨column, .alike mem (find?_alike_eq_some_iff.mp halike)⟩
  | none =>
    have unlike := find?_alike_eq_none_iff.mp halike
    cases hsimilar : similarColumn? (bareName name) columns with
    | some column =>
      obtain ⟨first, acceptable⟩ := similarColumn?_eq_some_iff.mp hsimilar
      exact ⟨column, .similar unlike first acceptable⟩
    | none =>
      have dissimilar := similarColumn?_eq_none_iff.mp hsimilar
      cases hwider : widerColumn? (bareName name) columns with
      | some column =>
        obtain ⟨named, first⟩ := widerColumn?_eq_some_iff.mp hwider
        exact ⟨column, .wider unlike dissimilar named first⟩
      | none => exact ⟨name, .foreign unlike dissimilar (widerColumn?_eq_none_iff.mp hwider)⟩

/-- A name is resolved to what it means. -/
theorem resolveName_eq_iff_means : resolveName columns name = column ↔ Means columns name column := by
  constructor
  · rintro rfl
    obtain ⟨column, hmeans⟩ := exists_means columns name
    rwa [resolveName_of_means hmeans]
  · exact resolveName_of_means

/-- A name is resolved to the best acceptable column, by a similarity that is symmetric and lies between
zero and one, where equal names are; and what it is resolved to is resolved. -/
theorem name_means_best_acceptable_column (columns : List String) (name column : String)
    (left right : List Char) :
    (resolveName columns name = column ↔ Means columns name column) ∧
      resolveName columns (resolveName columns name) = resolveName columns name ∧
      similarity left right = similarity right left ∧
      fraction 0 1 ≤ similarity left right ∧ similarity left right ≤ fraction 1 1 ∧
      similarity left left = fraction 1 1 := by
  rw [fraction_self Nat.one_pos]
  exact ⟨resolveName_eq_iff_means, resolveName_resolveName columns name, similarity_comm left right,
    zero_le_similarity left right, similarity_le_one left right, similarity_self left⟩

example : resolveName ["ClientName", "PriorityLevel"] "priority level" = "PriorityLevel" := by
  decide +kernel

/-! ## Variants in spelling -/

/-- Is a column the name in another spelling: with other case, blanks, underscores and hyphens? -/
def IsSpelling (name column : String) : Prop := bareName column = bareName name

instance (name column : String) : Decidable (IsSpelling name column) :=
  inferInstanceAs (Decidable (_ = _))

theorem IsAlike.isSpelling (h : IsAlike name column) : IsSpelling name column := by
  have hlower : Text.lower column.toList = Text.lower name.toList := by
    have hlist := congrArg String.toList h
    simpa [Text.lowerText] using hlist
  rw [IsSpelling, bareName, bareName, hlower]

theorem IsSpelling.likeness_eq_one (h : IsSpelling name column) : likeness name column = one := by
  rw [likeness, h, similarity_self]

theorem one_eq_of_le {left right : List Char} (h : one ≤ similarity left right) :
    similarity left right = one := by
  obtain ⟨units, hunits, hle⟩ := exists_similarity left right
  rw [hunits, one] at h ⊢
  rw [Nat.le_antisymm hle (mk_le_mk_iff.mp h)]

theorem similarityThreshold_le_one : similarityThreshold ≤ one := by
  have hpart : 13 ≤ 20 := by decide
  obtain ⟨units, hunits, hle, -⟩ := fraction_of_le hpart (by decide)
  rw [similarityThreshold, hunits]
  exact mk_le_mk_iff.mpr hle

/-- Where a column is wholly similar to a name, the best columns are those that are so. -/
theorem isBest_iff_of_mem (hmem : column ∈ columns) (hone : likeness name column = one)
    (other : String) : IsBest (likeness name) columns other ↔ likeness name other = one := by
  constructor
  · intro hbest
    have hle := hbest column hmem
    rw [hone] at hle
    exact one_eq_of_le hle
  · intro hother another _
    rw [hother]
    exact similarity_le_one _ _

/-- A name with a spelling among the columns, but with none that is equal up to case, is resolved to the
first column of similarity one. -/
theorem isFirst_resolveName (hmem : column ∈ columns) (hspelling : IsSpelling name column)
    (hunlike : ∀ other ∈ columns, ¬ IsAlike name other) :
    IsFirst (fun other => likeness name other = one) columns (resolveName columns name) := by
  have hone := hspelling.likeness_eq_one
  obtain ⟨first, hfirst⟩ :=
    exists_isFirst (p := fun other => likeness name other = one) ⟨column, hmem, hone⟩
  have hbest : IsFirst (IsBest (likeness name) columns) columns first :=
    (isFirst_congr fun other _ => isBest_iff_of_mem hmem hone other).mpr hfirst
  have hacceptable : similarityThreshold ≤ likeness name first := by
    rw [hfirst.1]
    exact similarityThreshold_le_one
  rwa [resolveName_of_means (.similar hunlike hbest hacceptable)]

/-- A name with a spelling among the columns leads to a column of similarity one. It is a spelling of the
name exactly if there is a column equal to the name up to case, or the first column of similarity one is
such a spelling. Other names of similarity one are those with the same runs of three characters. -/
theorem spelling_variant_is_found_iff (named : bareName name ≠ [])
    (spelled : ∃ column ∈ columns, IsSpelling name column) :
    resolveName columns name ∈ columns ∧ likeness name (resolveName columns name) = one ∧
      (IsSpelling name (resolveName columns name) ↔
        (∃ column ∈ columns, IsAlike name column) ∨
          ∃ column, IsFirst (fun other => likeness name other = one) columns column ∧
            IsSpelling name column) ∧
      ∀ column ∈ columns, (bareName name).length + (bareName column).length < 2 ^ 53 →
        (likeness name column = one ↔ pieces (bareName name) = pieces (bareName column)) := by
  obtain ⟨column, hmem, hspelling⟩ := spelled
  rw [← and_assoc, ← and_assoc]
  refine ⟨?_, fun _ _ hlength => similarity_eq_one_iff named hlength⟩
  -- equality up to case goes before likeness, so it decides whether a spelling is sure to be found
  by_cases halike : ∃ column ∈ columns, IsAlike name column
  · have hfound : resolveName columns name ∈ columns ∧ IsAlike name (resolveName columns name) := by
      by_cases hitself : name ∈ columns
      · rw [resolveName_of_mem hitself]
        exact ⟨hitself, rfl⟩
      · obtain ⟨first, hfirst⟩ := exists_isFirst halike
        rw [resolveName_of_means (.alike hitself hfirst)]
        exact ⟨hfirst.mem, hfirst.1⟩
    exact ⟨⟨hfound.1, hfound.2.isSpelling.likeness_eq_one⟩,
      iff_of_true hfound.2.isSpelling (.inl halike)⟩
  · have hfirst := isFirst_resolveName hmem hspelling fun other hother h => halike ⟨other, hother, h⟩
    refine ⟨⟨hfirst.mem, hfirst.1⟩, ?_⟩
    rw [or_iff_right halike]
    constructor
    · exact fun h => ⟨_, hfirst, h⟩
    · rintro ⟨other, hother, h⟩
      rwa [← hother.eq hfirst]

/-- A code is taken for the one with one more zero, which has the same runs of three characters and
stands before it. -/
theorem padded_code_is_taken_for_another :
    let columns := ["Code 00000", "Code 0000"]
    bareName "code_0000" ≠ [] ∧ (∃ column ∈ columns, IsSpelling "code_0000" column) ∧
      resolveName columns "code_0000" = "Code 00000" ∧
      ¬ ((∃ column ∈ columns, IsAlike "code_0000" column) ∨
        ∃ column, IsFirst (fun other => likeness "code_0000" other = one) columns column ∧
          IsSpelling "code_0000" column) ∧
      pieces (bareName "code_0000") = pieces (bareName "Code 00000") := by
  have hnamed : bareName "code_0000" ≠ [] := by decide +kernel
  have hspelled : ∃ column ∈ ["Code 00000", "Code 0000"], IsSpelling "code_0000" column := by
    decide +kernel
  obtain ⟨-, -, hfound, hpieces⟩ := spelling_variant_is_found_iff hnamed hspelled
  refine ⟨hnamed, hspelled, by decide +kernel, ?_, ?_⟩
  · exact fun h => absurd (hfound.mpr h) (by decide +kernel)
  · exact (hpieces "Code 00000" (by simp) (by decide +kernel)).mp (by decide +kernel)

end Schema

end SheetQuery
