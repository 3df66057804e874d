import Mathlib.Data.List.Forall2
import SheetQuery.Proofs.Query.ClauseFold
import SheetQuery.Proofs.Query.Phrase
import SheetQuery.Proofs.Query.ReaderSqueeze

/-!
# Clauses and runs of blanks

How many blanks stand between the parts of a clause, and of which kind they are, makes no difference
to its leaf. In a keyword of several words and in a value it does: there a clause must be written with
single spaces (`IsEvenlySpaced`).

* `columnOf?_squeeze`: the column that a phrase means;
* `leaf?_squeeze_of_mem_boundForms`: the forms with a keyword after the phrase, and `phase <number>`;
* `clauseLeaf?_squeeze`: all forms.
-/

namespace SheetQuery.Query

open Text (squeeze isBlank IsUniform)

variable {α β : Type} {read : List Char → Option α}

/-! ## Columns -/

theorem phraseWords_squeeze {phrase : List Char} (h : IsUniform phrase) :
    Vocabulary.phraseWords (squeeze phrase) = Vocabulary.phraseWords phrase := by
  rw [Vocabulary.phraseWords, Text.lower_eq_fold (Text.isUniform_squeeze h), ← Text.squeeze_fold,
    Text.words_squeeze, Vocabulary.phraseWords, Text.lower_eq_fold h]

/-- A phrase means the same column however many blanks stand between its words. -/
theorem columnOf?_squeeze {phrase : List Char} (h : IsUniform phrase) (entity : Entity)
    (columns : List String) : Vocabulary.columnOf? entity columns (squeeze phrase) =
      Vocabulary.columnOf? entity columns phrase := by
  rw [Vocabulary.columnOf?, phraseWords_squeeze h, Vocabulary.columnOf?]

/-! ## Readers of the rests of a clause -/

/-- Does a reader read every rest of a text as it reads it squeezed? -/
def SteadyOn (read : List Char → Option α) (cs : List Char) : Prop :=
  ∀ rest, rest <:+ cs → read (squeeze rest) = read rest

theorem steadyOn_of_forall (h : ∀ cs, read (squeeze cs) = read cs) (cs : List Char) :
    SteadyOn read cs :=
  fun rest _ => h rest

theorem findSome?_congr {ι : Type} {f g : ι → Option α} {is : List ι} (h : ∀ i ∈ is, f i = g i) :
    is.findSome? f = is.findSome? g := by
  induction is with
  | nil => rfl
  | cons i is ih =>
    rw [List.findSome?_cons, List.findSome?_cons, h i List.mem_cons_self,
      ih fun j hj => h j (List.mem_cons_of_mem _ hj)]

theorem bind_squeeze {step : Step} {cs : List Char}
    (hstep : step (squeeze cs) = (step cs).map squeeze)
    (hread : ∀ rest, step cs = some rest → read (squeeze rest) = read rest) :
    (step (squeeze cs)).bind read = (step cs).bind read := by
  rw [hstep]
  cases hrest : step cs with
  | none => rfl
  | some rest => exact hread rest hrest

/-- What a phrase and the test after it amount to depends on the words of the phrase, so it is the same
in a squeezed clause. -/
theorem bind_afterPhrase?_squeeze {G : List Char × α → Option β} {cs : List Char}
    (hG : ∀ phrase a, IsUniform phrase → G (squeeze phrase, a) = G (phrase, a))
    (hcs : IsUniform cs) (hhead : cs.head?.any isBlank = false) (hread : SteadyOn read cs) :
    (afterPhrase? read (squeeze cs)).bind G = (afterPhrase? read cs).bind G := by
  have huniform : ∀ cs, IsUniform cs → ∀ found ∈ afterPhrase? read cs,
      G (squeezePhrase found) = G found := by
    rintro cs hcs ⟨phrase, a⟩ hfound
    obtain ⟨_, _, rest, -, rfl, -⟩ := exists_of_afterPhrase? hfound
    exact hG phrase a fun c hc => hcs c (List.mem_append_left _ hc)
  -- so `G` may look at the squeezed phrase, which both texts share
  have hbind : ∀ cs, IsUniform cs →
      (afterPhrase? read cs).bind G = ((afterPhrase? read cs).map squeezePhrase).bind G := by
    intro cs hcs
    cases hfound : afterPhrase? read cs with
    | none => rfl
    | some found => exact (huniform cs hcs found hfound).symm
  have hsqueeze := afterPhrase?_squeeze hread fun hblank => by
    rw [hhead] at hblank
    cases hblank
  rw [hbind _ (Text.isUniform_squeeze hcs), hsqueeze, ← hbind cs hcs]

/-! ## Evenly spaced clauses -/

/-- The keywords of several words. -/
def longKeywords : List String :=
  ["must be", "should be", "not equal to", "equal to", "less than", "more than", "greater than",
    "at least", "at most"]

/-- The keywords that a value follows. -/
def valueKeywords : List String := inclusionKeywords ++ equalityKeywords

/-- The forms that are told by a keyword and do not take what follows their first word for a value. -/
def boundForms : List Form :=
  [includesForm, equalsForm, signedForm, spelledForm, betweenForm, phaseForm]

/-- The leaf of a clause by a form of `boundForms`. -/
def boundLeaf? (entity : Entity) (columns : List String) (clause : List Char) : Option Leaf :=
  boundForms.findSome? fun form => (form clause).bind fun statement => statement.leaf? entity columns

/-- Is every text plain that follows a keyword of values in a clause? -/
def hasPlainValues (clause : List Char) : Bool :=
  clause.tails.all fun rest => valueKeywords.all fun keyword =>
    (((Text.afterBlanks? rest).bind (Text.afterKeyword? keyword.toList)).bind
      Text.afterBlanks?).all isPlainValue

/-- Is the text plain that follows the first word of a clause? -/
def hasPlainTail (clause : List Char) : Bool :=
  (Text.afterBlanks? (clause.dropWhile (! isBlank ·))).all isPlainValue

/-- Does a clause speak of skills, or start with a phrase that means a column? -/
def pointsSomewhere (entity : Entity) (columns : List String) (clause : List Char) : Bool :=
  (["skills", "skill"].any fun keyword =>
    ((Text.afterKeyword? keyword.toList clause).bind Text.afterBlanks?).isSome) ||
  clause.inits.any fun phrase => (Vocabulary.columnOf? entity columns phrase).isSome

/-- A clause is evenly spaced if it is written with single spaces wherever its blanks count: in its
keywords, in the values after them and, unless a keyword makes sense of it or it points nowhere, after
its first word. -/
structure IsEvenlySpaced (entity : Entity) (columns : List String) (clause : List Char) : Prop where
  keywords : ∀ keyword ∈ longKeywords, Text.writes keyword.toList clause = true
  values : hasPlainValues clause = true
  tail : hasPlainTail clause = true ∨ (boundLeaf? entity columns clause).isSome = true ∨
    pointsSomewhere entity columns clause = false

instance (entity : Entity) (columns : List String) (clause : List Char) :
    Decidable (IsEvenlySpaced entity columns clause) :=
  decidable_of_iff ((∀ keyword ∈ longKeywords, Text.writes keyword.toList clause = true) ∧
      hasPlainValues clause = true ∧ (hasPlainTail clause = true ∨
        (boundLeaf? entity columns clause).isSome = true ∨
        pointsSomewhere entity columns clause = false))
    ⟨fun ⟨keywords, values, tail⟩ => ⟨keywords, values, tail⟩,
      fun h => ⟨h.keywords, h.values, h.tail⟩⟩

/-! ## Keywords and values in evenly spaced clauses -/

section

variable {entity : Entity} {columns : List String} {clause : List Char}

/-- A keyword is found in the squeezed rests of a clause as it is found in the rests. -/
def IsFoundIn (clause : List Char) (keyword : String) : Prop :=
  ∀ rest, rest <:+ clause → Text.afterKeyword? keyword.toList (squeeze rest) =
    (Text.afterKeyword? keyword.toList rest).map squeeze

theorem isFoundIn_of_not_blank {keyword : String} (h : ∀ k ∈ keyword.toList, isBlank k = false)
    (clause : List Char) : IsFoundIn clause keyword :=
  fun rest _ => Text.afterKeyword?_squeeze h rest

theorem IsEvenlySpaced.isFoundIn (h : IsEvenlySpaced entity columns clause) {keyword : String}
    (hkeyword : (keyword.toList.all fun k => !isBlank k) = true ∨ keyword ∈ longKeywords) :
    IsFoundIn clause keyword := by
  rcases hkeyword with hplain | hlong
  · apply isFoundIn_of_not_blank
    intro k hk
    simpa using List.all_eq_true.mp hplain k hk
  · have hspaced : ∀ keyword ∈ longKeywords, Text.isSpacedSingly keyword.toList = true := by decide
    exact fun rest hrest =>
      Text.afterKeyword?_squeeze_of_writes (hspaced keyword hlong) (h.keywords keyword hlong) hrest

theorem spaced?_squeeze {keywords : List String} {cs : List Char} (hsuffix : cs <:+ clause)
    (hkeywords : ∀ keyword ∈ keywords, IsFoundIn clause keyword)
    (hread : ∀ keyword ∈ keywords, ∀ rest,
      (Text.afterBlanks? cs).bind (Text.afterKeyword? keyword.toList) = some rest →
        pastBlanks? read (squeeze rest) = pastBlanks? read rest) :
    spaced? keywords read (squeeze cs) = spaced? keywords read cs := by
  apply bind_squeeze (Text.afterBlanks?_squeeze cs)
  intro after hafter
  rw [afterWord?, afterWord?]
  apply findSome?_congr
  intro keyword hkeyword
  apply bind_squeeze
  · exact hkeywords keyword hkeyword after ((Text.suffix_of_afterBlanks? hafter).trans hsuffix)
  · intro rest hrest
    apply hread keyword hkeyword
    rw [hafter, Option.bind_some, hrest]

/-- A plain value is read the same after any run of blanks. -/
theorem pastBlanks?_valueOf?_squeeze {p : Char → Bool} (hp : p '"' = false) (f : Cell → β)
    {cs : List Char} (h : (Text.afterBlanks? cs).all isPlainValue = true) :
    pastBlanks? (fun cs => (valueOf? p cs).map f) (squeeze cs) =
      pastBlanks? (fun cs => (valueOf? p cs).map f) cs := by
  have hplain : ∀ rest, Text.afterBlanks? cs = some rest → isPlainValue rest = true := by
    intro rest hrest
    rw [hrest] at h
    exact h
  have hsqueeze : Text.afterBlanks? (squeeze cs) = Text.afterBlanks? cs := by
    rw [Text.afterBlanks?_squeeze]
    cases hrest : Text.afterBlanks? cs with
    | none => rfl
    | some rest => rw [Option.map_some, squeeze_of_isPlainValue (hplain rest hrest)]
  have hlead : ∀ rest, Text.afterBlanks? cs = some rest →
      IgnoresLead (fun cs => (valueOf? p cs).map f) rest := fun rest hrest =>
    (ignoresLead_valueOf? hp (hplain rest hrest)).map f
  rw [pastBlanks?_eq_bind (by rw [hsqueeze]; exact hlead), pastBlanks?_eq_bind hlead, hsqueeze]

theorem steadyOn_spacedValue (h : IsEvenlySpaced entity columns clause) {keywords : List String}
    (hkeywords : keywords ⊆ valueKeywords) (f : Cell → Test) :
    SteadyOn (spaced? keywords fun cs => (value? cs).map f) clause := by
  have hfound : ∀ keyword ∈ valueKeywords,
      (keyword.toList.all fun k => !isBlank k) = true ∨ keyword ∈ longKeywords := by decide
  intro rest hrest
  apply spaced?_squeeze hrest
  · exact fun keyword hkeyword => h.isFoundIn (hfound keyword (hkeywords hkeyword))
  · intro keyword hkeyword after hafter
    apply pastBlanks?_valueOf?_squeeze (by decide)
    have hvalues := List.all_eq_true.mp h.values rest ((List.mem_tails _ _).mpr hrest)
    have hvalue := List.all_eq_true.mp hvalues keyword (hkeywords hkeyword)
    rwa [hafter, Option.bind_some] at hvalue

/-! ## The forms with a keyword -/

theorem pastBlanks?_squeeze (hread : ∀ cs, read (squeeze cs) = read cs)
    (hlead : ∀ cs, IgnoresLead read cs) (cs : List Char) :
    pastBlanks? read (squeeze cs) = pastBlanks? read cs := by
  rw [pastBlanks?_eq_bind fun rest _ => hlead rest, pastBlanks?_eq_bind fun rest _ => hlead rest]
  exact bind_squeeze (Text.afterBlanks?_squeeze cs) fun rest _ => hread rest

/-- Does a form make the same leaf of the squeezed clause as of the clause? -/
def Form.IsSteady (form : Form) (entity : Entity) (columns : List String) (clause : List Char) : Prop :=
  ((form (squeeze clause)).bind fun statement => statement.leaf? entity columns) =
    (form clause).bind fun statement => statement.leaf? entity columns

theorem isSteady_afterPhrase (test : α → String → Test) (hclause : IsUniform clause)
    (hhead : clause.head?.any isBlank = false) (hread : SteadyOn read clause) :
    Form.IsSteady (fun cs => (afterPhrase? read cs).map fun found => ⟨.phrase found.1, test found.2⟩)
      entity columns clause := by
  rw [Form.IsSteady, Option.bind_map, Option.bind_map]
  apply bind_afterPhrase?_squeeze _ hclause hhead hread
  intro phrase a hphrase
  simp only [Function.comp_apply, Statement.leaf?, Pointer.column?, columnOf?_squeeze hphrase]

theorem isSteady_phraseForm {test : List Char → Option Test} (hclause : IsUniform clause)
    (hhead : clause.head?.any isBlank = false) (htest : SteadyOn test clause) :
    (phraseForm test).IsSteady entity columns clause :=
  isSteady_afterPhrase (fun test _ => test) hclause hhead htest

theorem isSteady_includesForm (h : IsEvenlySpaced entity columns clause) (hclause : IsUniform clause)
    (hhead : clause.head?.any isBlank = false) : includesForm.IsSteady entity columns clause :=
  isSteady_phraseForm hclause hhead (steadyOn_spacedValue h (by decide) _)

theorem isSteady_equalsForm (h : IsEvenlySpaced entity columns clause) (hclause : IsUniform clause)
    (hhead : clause.head?.any isBlank = false) : equalsForm.IsSteady entity columns clause :=
  isSteady_phraseForm hclause hhead (steadyOn_spacedValue h (by decide) _)

theorem isSteady_signedForm (hclause : IsUniform clause) (hhead : clause.head?.any isBlank = false) :
    signedForm.IsSteady entity columns clause := by
  apply isSteady_phraseForm hclause hhead
  apply steadyOn_of_forall
  intro cs
  have hsigns : ∀ signed ∈ Vocabulary.signedComparators, ∀ k ∈ signed.1.toList, isBlank k = false := by
    decide
  apply findSome?_congr
  rintro ⟨sign, comparator⟩ hsign
  rw [Text.dropWhile_squeeze]
  apply bind_squeeze (Text.afterKeyword?_squeeze (hsigns _ hsign) _)
  intro rest _
  rw [Text.dropWhile_squeeze, numeral?_squeeze]

/-- The words of a comparator are told from a squeezed text as from the text. -/
theorem spelledTest?_squeeze (h : IsEvenlySpaced entity columns clause) {cs : List Char}
    (hsuffix : cs <:+ clause) : spelledTest? (squeeze cs) = spelledTest? cs := by
  have hkeywords : ∀ keyword ∈ spelledKeywords,
      (keyword.toList.all fun k => !isBlank k) = true ∨ keyword ∈ longKeywords := by decide
  have hsingly : ∀ keyword ∈ spelledKeywords, Text.isSpacedSingly keyword.toList = true := by decide
  apply findSome?_congr
  intro keyword hkeyword
  have hreads := h.isFoundIn (hkeywords keyword hkeyword) cs hsuffix
  rw [hreads]
  cases hfound : Text.afterKeyword? keyword.toList cs with
  | none => rw [Option.map_none, Option.bind_none, Option.bind_none]
  | some rest =>
    -- the comparator is told from the letters of the keyword, which squeezing keeps
    obtain ⟨piece, rfl, hpiece⟩ := Text.exists_of_afterKeyword? hfound
    have hlength : piece.length = keyword.length := by
      rw [← hpiece.length_eq, String.length_toList]
    have hnumeral : (Text.afterBlanks? (squeeze rest)).bind numeral? =
        (Text.afterBlanks? rest).bind numeral? :=
      bind_squeeze (Text.afterBlanks?_squeeze rest) fun rest _ => numeral?_squeeze rest
    rw [Text.squeeze_append_of_forall₂ hpiece (hsingly keyword hkeyword), Option.map_some,
      Option.bind_some, Option.bind_some, hnumeral, ← hlength, List.take_left, List.take_left]

theorem isSteady_spelledForm (h : IsEvenlySpaced entity columns clause) (hclause : IsUniform clause)
    (hhead : clause.head?.any isBlank = false) : spelledForm.IsSteady entity columns clause := by
  have hleaf : ∀ cs, ((spelledForm cs).bind fun statement => statement.leaf? entity columns) =
      (afterPhrase? (fun rest => (Text.afterBlanks? rest).bind spelledTest?) cs).bind fun found =>
        found.2.1.bind fun comparator =>
          (ofPhrase (.compare comparator found.2.2) found.1).leaf? entity columns := by
    intro cs
    rw [spelledForm]
    rcases afterPhrase? (fun rest => (Text.afterBlanks? rest).bind spelledTest?) cs with
      _ | ⟨phrase, _ | comparator, operand⟩
    · rfl
    · rfl
    · rfl
  rw [Form.IsSteady, hleaf, hleaf]
  apply bind_afterPhrase?_squeeze _ hclause hhead
  · intro rest hrest
    apply bind_squeeze (Text.afterBlanks?_squeeze rest)
    exact fun after hafter =>
      spelledTest?_squeeze h ((Text.suffix_of_afterBlanks? hafter).trans hrest)
  · rintro phrase ⟨comparator, operand⟩ hphrase
    simp only [Statement.leaf?, ofPhrase, Pointer.column?, columnOf?_squeeze hphrase]

theorem spacedNumeral?_squeeze {links : List String}
    (hlinks : ∀ link ∈ links, ∀ k ∈ link.toList, isBlank k = false) (cs : List Char) :
    spaced? links numeral? (squeeze cs) = spaced? links numeral? cs :=
  spaced?_squeeze List.suffix_rfl (fun link hlink => isFoundIn_of_not_blank (hlinks link hlink) cs)
    fun _ _ _ _ => pastBlanks?_squeeze numeral?_squeeze ignoresLead_numeral? _

theorem range?_squeeze {links : List String}
    (hlinks : ∀ link ∈ links, ∀ k ∈ link.toList, isBlank k = false) (cs : List Char) :
    range? links (squeeze cs) = range? links cs := by
  rw [range?, range?, takesSolid_takeNumeral?.reads]
  cases takeNumeral? cs with
  | none => rfl
  | some found => simp only [Option.map_some, Option.bind_some, spacedNumeral?_squeeze hlinks]

theorem isSteady_betweenForm (hclause : IsUniform clause) (hhead : clause.head?.any isBlank = false) :
    betweenForm.IsSteady entity columns clause := by
  have hlinks : ∀ link ∈ ["and", "to"], ∀ k ∈ link.toList, isBlank k = false := by decide
  apply isSteady_phraseForm hclause hhead
  apply steadyOn_of_forall
  intro cs
  apply spaced?_squeeze List.suffix_rfl
  · intro keyword hkeyword
    rw [List.mem_singleton.mp hkeyword]
    exact isFoundIn_of_not_blank (by decide) cs
  · exact fun _ _ _ _ => pastBlanks?_squeeze (range?_squeeze hlinks) (ignoresLead_range? _) _

theorem afterWord?_squeeze (keywords : List String) (cs : List Char)
    (hkeywords : ∀ keyword ∈ keywords, ∀ k ∈ keyword.toList, isBlank k = false)
    (hread : ∀ keyword ∈ keywords, ∀ rest, Text.afterKeyword? keyword.toList cs = some rest →
      pastBlanks? read (squeeze rest) = pastBlanks? read rest) :
    afterWord? keywords read (squeeze cs) = afterWord? keywords read cs := by
  apply findSome?_congr
  intro keyword hkeyword
  exact bind_squeeze (Text.afterKeyword?_squeeze (hkeywords keyword hkeyword) cs)
    (hread keyword hkeyword)

theorem isSteady_phaseForm : phaseForm.IsSteady entity columns clause := by
  have hword := afterWord?_squeeze ["phase"] clause (by decide)
    fun _ _ rest _ => pastBlanks?_squeeze wholeNumeral?_squeeze ignoresLead_wholeNumeral? rest
  rw [Form.IsSteady, phaseForm, phaseForm, hword]

/-- The forms with a keyword make the same leaf of a squeezed clause. -/
theorem boundLeaf?_squeeze (h : IsEvenlySpaced entity columns clause) (hclause : IsUniform clause)
    (hhead : clause.head?.any isBlank = false) :
    boundLeaf? entity columns (squeeze clause) = boundLeaf? entity columns clause := by
  apply findSome?_congr
  intro form hform
  simp only [boundForms, List.mem_cons, List.not_mem_nil, or_false] at hform
  rcases hform with rfl | rfl | rfl | rfl | rfl | rfl
  · exact isSteady_includesForm h hclause hhead
  · exact isSteady_equalsForm h hclause hhead
  · exact isSteady_signedForm hclause hhead
  · exact isSteady_spelledForm h hclause hhead
  · exact isSteady_betweenForm hclause hhead
  · exact isSteady_phaseForm

/-! ## The forms without a keyword -/

/-- Wherever a blank starts in a text, the text after the first word and its blanks follows, or what
starts there lies within it. -/
theorem exists_tail_of_blank {cs rest : List Char} (h : rest <:+ cs)
    (hrest : rest.head?.any isBlank = true) :
    ∃ tail, Text.afterBlanks? (cs.dropWhile (! isBlank ·)) = some tail ∧
      (Text.afterBlanks? rest = some tail ∨ rest <:+ tail) := by
  induction cs with
  | nil =>
    rw [List.suffix_nil.mp h] at hrest
    cases hrest
  | cons c cs ih =>
    cases hc : isBlank c with
    | false =>
      rw [List.dropWhile_cons_of_pos (by simp [hc])]
      rcases List.suffix_cons_iff.mp h with rfl | h
      · have hblank : isBlank c = true := hrest
        rw [hc] at hblank
        cases hblank
      · exact ih h
    | true =>
      rw [List.dropWhile_cons_of_neg (by simp [hc]), Text.afterBlanks?, if_pos hc]
      refine ⟨_, rfl, ?_⟩
      rcases List.suffix_cons_iff.mp h with rfl | h
      · exact .inl (by rw [Text.afterBlanks?, if_pos hc])
      · -- the gap goes on, with the same text after it, or it ends here
        cases cs with
        | nil => exact .inr (List.suffix_nil.mp h ▸ List.nil_suffix)
        | cons d cs =>
          cases hd : isBlank d with
          | false => exact .inr (by rwa [List.dropWhile_cons_of_neg (by simp [hd])])
          | true =>
            obtain ⟨tail, htail, hcases⟩ := ih h
            rw [List.dropWhile_cons_of_neg (by simp [hd]), Text.afterBlanks?, if_pos hd,
              Option.some.injEq] at htail
            rwa [List.dropWhile_cons_of_pos hd, htail]

theorem steadyOn_pastBlanks?_valueOf? {p : Char → Bool} (hp : p '"' = false)
    (h : hasPlainTail clause = true) : SteadyOn (pastBlanks? (valueOf? p)) clause := by
  intro rest hrest
  cases hhead : rest.head?.any isBlank with
  | false =>
    rw [pastBlanks?_of_not_blank hhead,
      pastBlanks?_of_not_blank (by rwa [Text.any_isBlank_head?_squeeze])]
  | true =>
    obtain ⟨tail, htail, hcases⟩ := exists_tail_of_blank hrest hhead
    rw [hasPlainTail, htail, Option.all_some] at h
    -- the value follows the first gap, or it lies within a text that squeezing leaves alone
    rcases hcases with hafter | hsuffix
    · have hplain : (Text.afterBlanks? rest).all isPlainValue = true := by rwa [hafter]
      have hvalue := pastBlanks?_valueOf?_squeeze hp id hplain
      simpa only [Option.map_id_fun, id_eq] using hvalue
    · rw [Text.squeeze_eq_self_of_suffix (squeeze_of_isPlainValue h) hsuffix]

theorem isSteady_skillForm (h : hasPlainTail clause = true) :
    (skillForm entity).IsSteady entity columns clause := by
  have hsteady := steadyOn_pastBlanks?_valueOf? (p := isSkillChar) (by decide) h
  have hword := afterWord?_squeeze ["skills", "skill"] clause (by decide)
    fun _ _ rest hrest => hsteady rest (Text.suffix_of_afterKeyword? hrest)
  rw [Form.IsSteady, skillForm, skillForm, hword]

theorem isSteady_bareForm (h : hasPlainTail clause = true) (hclause : IsUniform clause)
    (hhead : clause.head?.any isBlank = false) : bareForm.IsSteady entity columns clause := by
  have hsteady := steadyOn_pastBlanks?_valueOf? (p := isValueChar) (by decide) h
  exact isSteady_afterPhrase (fun operand column => if Vocabulary.namesList column then
    .search .includes operand else .compare .eq operand) hclause hhead hsteady

/-- A clause that points nowhere has no leaf by the forms without a keyword. -/
theorem looseLeaf?_eq_none (h : pointsSomewhere entity columns clause = false) :
    ([skillForm entity, bareForm].findSome? fun form =>
      (form clause).bind fun statement => statement.leaf? entity columns) = none := by
  rw [pointsSomewhere, Bool.or_eq_false_iff, List.any_eq_false, List.any_eq_false] at h
  obtain ⟨hskill, hphrases⟩ := h
  -- no blank follows the keywords for skills, and no start of the clause means a column
  have hskillForm : skillForm entity clause = none := by
    rw [skillForm, Option.map_eq_none_iff, afterWord?, List.findSome?_eq_none_iff]
    intro keyword hkeyword
    rw [Option.bind_eq_none_iff]
    intro rest hrest
    apply pastBlanks?_of_not_blank
    have hblanks := hskill keyword hkeyword
    rw [hrest, Option.bind_some] at hblanks
    cases rest with
    | nil => rfl
    | cons c rest =>
      rw [List.head?_cons, Option.any_some, ← Bool.not_eq_true]
      intro hc
      exact hblanks (by rw [Text.afterBlanks?, if_pos hc, Option.isSome_some])
  have hbareForm : ((bareForm clause).bind fun statement => statement.leaf? entity columns) = none := by
    rw [Option.bind_eq_none_iff]
    intro statement hstatement
    obtain ⟨⟨phrase, operand⟩, hfound, rfl⟩ := Option.map_eq_some_iff.mp hstatement
    obtain ⟨_, _, rest, -, rfl, -⟩ := exists_of_afterPhrase? hfound
    have hcolumn := hphrases phrase ((List.mem_inits _ _).mpr (List.prefix_append phrase rest))
    rw [Bool.not_eq_true, Option.isSome_eq_false_iff, Option.isNone_iff_eq_none] at hcolumn
    rw [Statement.leaf?, Pointer.column?, hcolumn, Option.map_none]
  rw [List.findSome?_cons, hskillForm, Option.bind_none, List.findSome?_cons, hbareForm]
  rfl

theorem pointsSomewhere_squeeze (hclause : IsUniform clause)
    (h : pointsSomewhere entity columns clause = false) :
    pointsSomewhere entity columns (squeeze clause) = false := by
  rw [pointsSomewhere, Bool.or_eq_false_iff, List.any_eq_false, List.any_eq_false] at h ⊢
  obtain ⟨hskill, hphrases⟩ := h
  constructor
  · have hkeywords : ∀ keyword ∈ ["skills", "skill"], ∀ k ∈ keyword.toList, isBlank k = false := by
      decide
    intro keyword hkeyword
    have hnone := hskill keyword hkeyword
    rw [Text.afterKeyword?_squeeze (hkeywords keyword hkeyword)]
    cases hrest : Text.afterKeyword? keyword.toList clause with
    | none => simp
    | some rest =>
      rw [hrest, Option.bind_some] at hnone
      rwa [Option.map_some, Option.bind_some, Text.afterBlanks?_squeeze, Option.isSome_map]
  · intro phrase hphrase
    -- a beginning of the squeezed clause is a squeezed beginning of the clause
    obtain ⟨origin, horigin, rfl⟩ := Text.exists_prefix_squeeze ((List.mem_inits _ _).mp hphrase)
    rw [columnOf?_squeeze fun c hc => hclause c (horigin.subset hc)]
    exact hphrases origin ((List.mem_inits _ _).mpr horigin)

/-! ## Clauses -/

/-- An evenly spaced clause has the same leaf with one space for each run of blanks. -/
theorem clauseLeaf?_squeeze (h : IsEvenlySpaced entity columns clause) (hclause : IsUniform clause)
    (hhead : clause.head?.any isBlank = false) :
    clauseLeaf? entity columns (squeeze clause) = clauseLeaf? entity columns clause := by
  have hforms : ∀ cs, clauseLeaf? entity columns cs = (boundLeaf? entity columns cs).or
      ([skillForm entity, bareForm].findSome? fun form =>
        (form cs).bind fun statement => statement.leaf? entity columns) := by
    intro cs
    rw [boundLeaf?, ← List.findSome?_append]
    rfl
  rw [hforms, hforms, boundLeaf?_squeeze h hclause hhead]
  -- the text after the first word counts only where no keyword makes sense of the clause
  rcases h.tail with htail | hbound | hnowhere
  · congr 1
    apply findSome?_congr
    intro form hform
    simp only [List.mem_cons, List.not_mem_nil, or_false] at hform
    rcases hform with rfl | rfl
    · exact isSteady_skillForm htail
    · exact isSteady_bareForm htail hclause hhead
  · obtain ⟨leaf, hleaf⟩ := Option.isSome_iff_exists.mp hbound
    rw [hleaf, Option.some_or, Option.some_or]
  · rw [looseLeaf?_eq_none hnowhere, looseLeaf?_eq_none (pointsSomewhere_squeeze hclause hnowhere)]

end

end SheetQuery.Query
