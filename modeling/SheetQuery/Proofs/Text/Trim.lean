import Mathlib.Data.List.Infix
import Mathlib.Data.List.TakeWhile
import SheetQuery.Text.Search
import SheetQuery.Text.Trim

/-!
# Laws of trimming and splitting

* `exists_trimWith`, `trimWith_append`: a trimmed text is what is left between two runs of the class,
  and there is only one such text;
* `trimEndWith_append_left`, `trimWith_around`: trimming keeps a piece that neither starts nor ends in
  the class, and trims what stands around it;
* `splitWhere_of_forall_not`, `not_of_mem_splitWhere`: a text without separators is one piece, and no
  piece holds a separator;
* `splitWhere_append_cons`: splitting goes on either side of a separator;
* `occursIn_iff`: occurring is being an infix.
-/

namespace SheetQuery.Text

/-- What holds of all members of a list is decided on the list, and never by going through all values
of the type, even if there are finitely many, as there are characters. -/
instance (priority := high) decidableForallMem {α : Type} (l : List α) (p : α → Prop)
    [DecidablePred p] : Decidable (∀ a ∈ l, p a) :=
  List.decidableBAll p l

/-- So is what holds of the value there may be. -/
instance (priority := high) decidableForallMemOption {α : Type} (o : Option α) (p : α → Prop)
    [DecidablePred p] : Decidable (∀ a ∈ o, p a) :=
  Option.decidableForallMem o

variable {p : Char → Bool}

/-! ## Trimming -/

/-- Is neither the first nor the last character of a text of class `p`? -/
def IsTrimmed (p : Char → Bool) (cs : List Char) : Prop :=
  (∀ c ∈ cs.head?, p c = false) ∧ ∀ c ∈ cs.getLast?, p c = false

instance (p : Char → Bool) (cs : List Char) : Decidable (IsTrimmed p cs) :=
  inferInstanceAs (Decidable (_ ∧ _))

theorem exists_trimEndWith (p : Char → Bool) (cs : List Char) :
    ∃ post, (∀ c ∈ post, p c = true) ∧ cs = trimEndWith p cs ++ post ∧
      ∀ c ∈ (trimEndWith p cs).getLast?, p c = false := by
  refine ⟨(cs.reverse.takeWhile p).reverse, ?_, ?_, ?_⟩
  · intro c hc
    rw [List.mem_reverse] at hc
    exact List.all_eq_true.mp List.all_takeWhile c hc
  · rw [trimEndWith, ← List.reverse_append, List.takeWhile_append_dropWhile, List.reverse_reverse]
  · intro c hc
    rw [trimEndWith, List.getLast?_reverse] at hc
    have h := List.head?_dropWhile_not p cs.reverse
    rw [Option.mem_def] at hc
    rw [hc] at h
    exact h

theorem trimEndWith_append {core post : List Char} (hpost : ∀ c ∈ post, p c = true)
    (hlast : ∀ c ∈ core.getLast?, p c = false) : trimEndWith p (core ++ post) = core := by
  rw [trimEndWith, List.reverse_append, List.dropWhile_append_of_pos]
  · have hcore : core.reverse.dropWhile p = core.reverse := by
      cases hrev : core.reverse with
      | nil => rfl
      | cons c cs =>
        have hc : p c = false := hlast c (by simp [← List.head?_reverse, hrev])
        simp [hc]
    rw [hcore, List.reverse_reverse]
  · intro c hc
    exact hpost c (List.mem_reverse.mp hc)

/-- What follows a piece that does not end in the class is trimmed by itself. -/
theorem trimEndWith_append_left {core : List Char} (hlast : ∀ c ∈ core.getLast?, p c = false)
    (cs : List Char) : trimEndWith p (core ++ cs) = core ++ trimEndWith p cs := by
  obtain ⟨post, hpost, hcs, hend⟩ := exists_trimEndWith p cs
  conv_lhs => rw [hcs, ← List.append_assoc]
  refine trimEndWith_append hpost fun c hc => ?_
  -- the last character is one of what follows the
  -- piece or, if nothing is left of that, of the piece
  rw [Option.mem_def, List.getLast?_append, Option.or_eq_some_iff] at hc
  rcases hc with hc | ⟨-, hc⟩
  · exact hend c hc
  · exact hlast c hc

/-- A text is its trimmed form between two runs of the class. -/
theorem exists_trimWith (p : Char → Bool) (cs : List Char) :
    ∃ pre post, (∀ c ∈ pre, p c = true) ∧ (∀ c ∈ post, p c = true) ∧
      cs = pre ++ trimWith p cs ++ post ∧ IsTrimmed p (trimWith p cs) := by
  obtain ⟨post, hpost, heq, hlast⟩ := exists_trimEndWith p (cs.dropWhile p)
  refine ⟨cs.takeWhile p, post, ?_, hpost, ?_, ?_, hlast⟩
  · exact fun c hc => List.all_eq_true.mp List.all_takeWhile c hc
  · rw [trimWith, List.append_assoc, ← heq, List.takeWhile_append_dropWhile]
  · intro c hc
    have hhead : (cs.dropWhile p).head? = some c := by
      rw [heq]
      rw [Option.mem_def, trimWith] at hc
      simp [List.head?_append, hc]
    have h := List.head?_dropWhile_not p cs
    rw [hhead] at h
    exact h

/-- What lies between two runs of the class, and neither starts nor ends in the class, is the trimmed
form. -/
theorem trimWith_append {pre core post : List Char} (hpre : ∀ c ∈ pre, p c = true)
    (hpost : ∀ c ∈ post, p c = true) (hcore : IsTrimmed p core) (hne : core ≠ []) :
    trimWith p (pre ++ core ++ post) = core := by
  obtain ⟨c, cs, rfl⟩ := List.exists_cons_of_ne_nil hne
  have hc : p c = false := hcore.1 c rfl
  have hdrop : (pre ++ (c :: cs) ++ post).dropWhile p = (c :: cs) ++ post := by
    rw [List.append_assoc, List.dropWhile_append_of_pos hpre]
    simp [hc]
  rw [trimWith, hdrop]
  exact trimEndWith_append hpost hcore.2

theorem trimWith_of_isTrimmed {cs : List Char} (h : IsTrimmed p cs) : trimWith p cs = cs := by
  by_cases hne : cs = []
  · subst hne
    rfl
  · have hnil : ∀ c ∈ ([] : List Char), p c = true := by simp
    simpa using trimWith_append hnil hnil h hne

theorem trimWith_of_forall_not {cs : List Char} (h : ∀ c ∈ cs, p c = false) :
    trimWith p cs = cs :=
  trimWith_of_isTrimmed ⟨fun c hc => h c (List.mem_of_mem_head? hc),
    fun c hc => h c (List.mem_of_mem_getLast? hc)⟩

theorem trimWith_append_left {pre : List Char} (h : ∀ c ∈ pre, p c = true) (cs : List Char) :
    trimWith p (pre ++ cs) = trimWith p cs := by
  rw [trimWith, List.dropWhile_append_of_pos h, trimWith]

theorem trimEndWith_append_right {post : List Char} (h : ∀ c ∈ post, p c = true) (cs : List Char) :
    trimEndWith p (cs ++ post) = trimEndWith p cs := by
  rw [trimEndWith, List.reverse_append, List.dropWhile_append_of_pos, trimEndWith]
  exact fun c hc => h c (List.mem_reverse.mp hc)

theorem trimWith_append_right {post : List Char} (h : ∀ c ∈ post, p c = true) (cs : List Char) :
    trimWith p (cs ++ post) = trimWith p cs := by
  rw [trimWith, trimWith, List.dropWhile_append]
  split
  · next hempty =>
    rw [List.isEmpty_iff] at hempty
    rw [hempty, List.dropWhile_eq_nil_iff.mpr h]
  · exact trimEndWith_append_right h _

/-- Around a piece that neither starts nor ends in the class, trimming goes on either side of it. -/
theorem trimWith_around {core : List Char} (hcore : IsTrimmed p core) (hne : core ≠ [])
    (before after : List Char) : trimWith p (before ++ core ++ after) =
      before.dropWhile p ++ core ++ trimEndWith p after := by
  obtain ⟨c, cs, rfl⟩ := List.exists_cons_of_ne_nil hne
  have hc : p c = false := hcore.1 c rfl
  have hdrop : (before ++ (c :: cs) ++ after).dropWhile p =
      before.dropWhile p ++ (c :: cs) ++ after := by
    rw [List.append_assoc, List.dropWhile_append]
    split
    · next hempty =>
      rw [List.isEmpty_iff] at hempty
      simp [hempty, hc]
    · rw [List.append_assoc]
  have hlast : ∀ d ∈ (before.dropWhile p ++ (c :: cs)).getLast?, p d = false := by
    rw [List.getLast?_append_of_ne_nil _ hne]
    exact hcore.2
  rw [trimWith, hdrop, trimEndWith_append_left hlast]

theorem trimWith_eq_nil_iff {cs : List Char} : trimWith p cs = [] ↔ ∀ c ∈ cs, p c = true := by
  constructor
  · intro h
    obtain ⟨pre, post, hpre, hpost, heq, -⟩ := exists_trimWith p cs
    rw [h, List.append_nil] at heq
    intro c hc
    rw [heq] at hc
    rcases List.mem_append.mp hc with hc | hc
    · exact hpre c hc
    · exact hpost c hc
  · intro h
    rw [trimWith, List.dropWhile_eq_nil_iff.mpr h]
    rfl

theorem isTrimmed_trim (cs : List Char) : IsTrimmed isBlank (trim cs) := by
  obtain ⟨-, -, -, -, -, h⟩ := exists_trimWith isBlank cs
  exact h

@[simp] theorem trim_trim (cs : List Char) : trim (trim cs) = trim cs :=
  trimWith_of_isTrimmed (isTrimmed_trim cs)

theorem trim_eq_nil_iff {cs : List Char} : trim cs = [] ↔ ∀ c ∈ cs, isBlank c = true :=
  trimWith_eq_nil_iff

/-- Trimming keeps the characters that are not of the class. -/
theorem mem_trimWith {cs : List Char} {c : Char} (hc : p c = false) :
    c ∈ trimWith p cs ↔ c ∈ cs := by
  obtain ⟨pre, post, hpre, hpost, heq, -⟩ := exists_trimWith p cs
  constructor
  · intro h
    rw [heq]
    simp [h]
  · intro h
    rw [heq] at h
    rcases List.mem_append.mp h with h | h
    · rcases List.mem_append.mp h with h | h
      · rw [hpre c h] at hc
        cases hc
      · exact h
    · rw [hpost c h] at hc
      cases hc

theorem mem_trim {cs : List Char} {c : Char} (hc : isBlank c = false) : c ∈ trim cs ↔ c ∈ cs :=
  mem_trimWith hc

theorem mem_of_mem_trim {cs : List Char} {c : Char} (h : c ∈ trim cs) : c ∈ cs := by
  obtain ⟨pre, post, -, -, heq, -⟩ := exists_trimWith isBlank cs
  rw [heq]
  exact List.mem_append_left _ (List.mem_append_right _ h)

/-! ## Splitting -/

theorem splitWhere_ne_nil (p : Char → Bool) (cs : List Char) : splitWhere p cs ≠ [] := by
  cases cs with
  | nil => simp [splitWhere]
  | cons c cs =>
    simp only [splitWhere]
    split
    · simp
    · split <;> simp

theorem splitWhere_of_forall_not {cs : List Char} (h : ∀ c ∈ cs, p c = false) :
    splitWhere p cs = [cs] := by
  induction cs with
  | nil => rfl
  | cons c cs ih =>
    have hc : p c = false := h c List.mem_cons_self
    simp [splitWhere, hc, ih fun d hd => h d (List.mem_cons_of_mem _ hd)]

/-- The pieces hold the characters of the text, except the separators. -/
theorem spec_of_mem_splitWhere {cs piece : List Char} (h : piece ∈ splitWhere p cs) :
    ∀ c ∈ piece, c ∈ cs ∧ p c = false := by
  induction cs generalizing piece with
  | nil =>
    simp only [splitWhere, List.mem_singleton] at h
    simp [h]
  | cons d cs ih =>
    have hrest : ∀ part ∈ splitWhere p cs, ∀ c ∈ part, c ∈ d :: cs ∧ p c = false :=
      fun part hpart c hc => (ih hpart c hc).imp_left (List.mem_cons_of_mem d)
    simp only [splitWhere] at h
    split at h
    · rcases List.mem_cons.mp h with rfl | h
      · simp
      · exact hrest piece h
    · next hd =>
      split at h
      · next heq => exact absurd heq (splitWhere_ne_nil p cs)
      · next first rest heq =>
        rw [heq] at hrest
        obtain ⟨hfirst, hrest⟩ := List.forall_mem_cons.mp hrest
        rcases List.mem_cons.mp h with rfl | h
        · exact List.forall_mem_cons.mpr ⟨⟨List.mem_cons_self, by simpa using hd⟩, hfirst⟩
        · exact hrest piece h

theorem not_of_mem_splitWhere {cs piece : List Char} (h : piece ∈ splitWhere p cs) :
    ∀ c ∈ piece, p c = false :=
  fun c hc => (spec_of_mem_splitWhere h c hc).2

theorem mem_of_mem_splitWhere {cs piece : List Char} (h : piece ∈ splitWhere p cs) :
    ∀ c ∈ piece, c ∈ cs :=
  fun c hc => (spec_of_mem_splitWhere h c hc).1

/-- A text without separators lengthens the first piece that it is put before. -/
theorem splitWhere_append_left {pre : List Char} (h : ∀ c ∈ pre, p c = false) (cs : List Char) :
    ∃ first rest, splitWhere p cs = first :: rest ∧
      splitWhere p (pre ++ cs) = (pre ++ first) :: rest := by
  induction pre with
  | nil =>
    obtain ⟨first, rest, hsplit⟩ := List.exists_cons_of_ne_nil (splitWhere_ne_nil p cs)
    exact ⟨first, rest, hsplit, hsplit⟩
  | cons d pre ih =>
    obtain ⟨first, rest, hsplit, hpre⟩ := ih fun c hc => h c (List.mem_cons_of_mem _ hc)
    refine ⟨first, rest, hsplit, ?_⟩
    rw [List.cons_append, splitWhere, if_neg (by simp [h d List.mem_cons_self]), hpre]
    rfl

/-- A text without separators lengthens the last piece that it is put after. -/
theorem splitWhere_append_right {post : List Char} (h : ∀ c ∈ post, p c = false)
    (cs : List Char) : ∃ rest last, splitWhere p cs = rest ++ [last] ∧
      splitWhere p (cs ++ post) = rest ++ [last ++ post] := by
  induction cs with
  | nil => exact ⟨[], [], rfl, splitWhere_of_forall_not h⟩
  | cons c cs ih =>
    obtain ⟨rest, last, hsplit, hpost⟩ := ih
    by_cases hc : p c = true
    · refine ⟨[] :: rest, last, ?_, ?_⟩
      · rw [splitWhere, if_pos hc, hsplit]
        rfl
      · rw [List.cons_append, splitWhere, if_pos hc, hpost]
        rfl
    · -- without a separator the first character goes to the first piece, which may be the last too
      cases rest with
      | nil =>
        refine ⟨[], c :: last, ?_, ?_⟩
        · rw [splitWhere, if_neg hc, hsplit]
          rfl
        · rw [List.cons_append, splitWhere, if_neg hc, hpost]
          rfl
      | cons first rest =>
        refine ⟨(c :: first) :: rest, last, ?_, ?_⟩
        · rw [splitWhere, if_neg hc, hsplit]
          rfl
        · rw [List.cons_append, splitWhere, if_neg hc, hpost]
          rfl

/-- The pieces of a text are those before one of its separators and those after it. -/
theorem splitWhere_append_cons {d : Char} (hd : p d = true) (before after : List Char) :
    splitWhere p (before ++ d :: after) = splitWhere p before ++ splitWhere p after := by
  induction before with
  | nil => simp [splitWhere, hd]
  | cons c before ih =>
    by_cases hc : p c = true
    · rw [List.cons_append, splitWhere, if_pos hc, ih, splitWhere, if_pos hc, List.cons_append]
    · obtain ⟨first, rest, hsplit⟩ := List.exists_cons_of_ne_nil (splitWhere_ne_nil p before)
      rw [List.cons_append, splitWhere, if_neg hc, ih, splitWhere, if_neg hc, hsplit]
      rfl

/-- There is one piece more than there are separators. -/
theorem length_splitWhere (p : Char → Bool) (cs : List Char) :
    (splitWhere p cs).length = cs.countP p + 1 := by
  induction cs with
  | nil => rfl
  | cons c cs ih =>
    by_cases hc : p c = true
    · rw [splitWhere, if_pos hc, List.length_cons, ih, List.countP_cons_of_pos hc]
    · obtain ⟨first, rest, hsplit⟩ := List.exists_cons_of_ne_nil (splitWhere_ne_nil p cs)
      rw [hsplit] at ih
      rw [splitWhere, if_neg hc, hsplit, List.countP_cons_of_neg hc, ← ih]
      rfl

/-! ## Occurring -/

theorem occursIn_iff {needle cs : List Char} : occursIn needle cs = true ↔ needle <:+: cs := by
  induction cs with
  | nil => simp [occursIn]
  | cons c cs ih => simp [occursIn, ih, List.infix_cons_iff]

@[simp] theorem occursIn_nil_left (cs : List Char) : occursIn [] cs = true :=
  occursIn_iff.mpr List.nil_infix

@[simp] theorem occursIn_self (cs : List Char) : occursIn cs cs = true :=
  occursIn_iff.mpr List.infix_rfl

end SheetQuery.Text
