import SheetQuery.Filter.Matching
import SheetQuery.Proofs.Numeric.Numeral

/-!
# Keys and tokens of cells

* `isDelimiter_mem_key_iff`: the key of a cell has the delimiters of its text, and no others;
* `tokens_text`, `tokens_int`: the tokens of a text that encodes no list are the keys of its pieces;
* `key_infix_of_mem`: the key of an item is a part of the key of its list;
* `compares_eq_self`: a cell equals itself.
-/

namespace SheetQuery.Cell

open Text (trim lower isBlank isNeutral IsTrimmed StartsNeutral)

/-! ## Keys -/

@[simp] theorem render_text (s : String) : (text s).render = s.toList := by simp [render]

@[simp] theorem render_int (n : Int) : (int n).render = intChars n := by simp [render]

theorem toList_key (cell : Cell) : cell.key.toList = lower (trim cell.render) := by
  rw [key, String.toList_ofList]

theorem key_eq_of_render_eq {cell other : Cell} (h : trim cell.render = trim other.render) :
    cell.key = other.key := by
  rw [key, h, key]

theorem key_eq_empty_iff {cell : Cell} : cell.key = "" ↔ trim cell.render = [] := by
  rw [← String.toList_eq_nil_iff, toList_key, Text.lower_eq_nil_iff]

theorem key_int_ne_empty (n : Int) : (int n).key ≠ "" := by
  rw [Ne, key_eq_empty_iff, render_int, Numeral.trim_intChars]
  unfold intChars
  split
  · simp
  · exact digitChars_ne_nil _

theorem isDelimiter_iff {c : Char} : isDelimiter c = true ↔ c = ',' ∨ c = ';' := by
  simp [isDelimiter]

theorem isPlainAscii_of_isDelimiter {c : Char} (h : isDelimiter c = true) :
    Text.isPlainAscii c = true := by
  rcases isDelimiter_iff.mp h with rfl | rfl <;> decide

theorem isBlank_of_isDelimiter {c : Char} (h : isDelimiter c = true) : isBlank c = false := by
  rcases isDelimiter_iff.mp h with rfl | rfl <;> decide

theorem isDelimiter_of_isBlank {c : Char} (h : isBlank c = true) : isDelimiter c = false := by
  rw [Bool.eq_false_iff]
  intro hc
  rw [isBlank_of_isDelimiter hc] at h
  cases h

/-- The key of a cell has the delimiters of its text, and no others. -/
theorem isDelimiter_mem_key_iff {cell : Cell} {c : Char} (hc : isDelimiter c = true) :
    c ∈ cell.key.toList ↔ c ∈ cell.render := by
  rw [toList_key, Text.mem_lower_of_isPlainAscii (isPlainAscii_of_isDelimiter hc),
    Text.mem_trim (isBlank_of_isDelimiter hc)]

/-! ## Comparing -/

theorem holds_eq_text (a b : String) : Comparator.eq.holds a b = decide (a = b) := by
  rw [Bool.eq_iff_iff]
  simp only [Comparator.holds, Bool.and_eq_true, Bool.not_eq_true', decide_eq_false_iff_not,
    decide_eq_true_eq]
  constructor
  · rintro ⟨hab, hba⟩
    exact String.le_antisymm (String.not_lt.mp hba) (String.not_lt.mp hab)
  · rintro rfl
    exact ⟨String.lt_irrefl a, String.lt_irrefl a⟩

theorem holds_eq_number (a b : Number) :
    Comparator.eq.holds a b = decide (a.signed = b.signed) := by
  rw [Bool.eq_iff_iff]
  simp only [Comparator.holds, Bool.and_eq_true, Bool.not_eq_true', decide_eq_false_iff_not,
    decide_eq_true_eq]
  change ¬ a.signed < b.signed ∧ ¬ b.signed < a.signed ↔ a.signed = b.signed
  omega

/-- A cell that is no number, or is compared with none, is compared by its key. -/
theorem compares_of_no_number {cell operand : Cell} (comparator : Comparator)
    (h : cell.number? = none ∨ operand.number? = none) :
    cell.compares comparator operand = comparator.holds cell.key operand.key := by
  unfold compares
  split
  · next hcell hoperand => rcases h with h | h <;> simp_all
  · rfl

theorem compares_eq_of_no_number {cell operand : Cell}
    (h : cell.number? = none ∨ operand.number? = none) :
    cell.compares .eq operand = decide (cell.key = operand.key) := by
  rw [compares_of_no_number .eq h, holds_eq_text]

theorem compares_eq_of_number {cell operand : Cell} {a b : Number} (ha : cell.number? = some a)
    (hb : operand.number? = some b) (h : a.signed = b.signed) :
    cell.compares .eq operand = true := by
  rw [compares, ha, hb]
  simp [holds_eq_number, h]

/-- A cell equals itself. -/
theorem compares_eq_self (cell : Cell) : cell.compares .eq cell = true := by
  cases h : cell.number? with
  | none => simp [compares_eq_of_no_number (.inl h)]
  | some a => exact compares_eq_of_number h h rfl

/-! ## Tokens -/

theorem mem_keys {cells : List Cell} {token : String} :
    token ∈ keys cells ↔ (∃ cell ∈ cells, cell.key = token) ∧ token ≠ "" := by
  simp [keys]

theorem tokensContain_iff {tokens : List String} {needle : String} :
    tokensContain tokens needle = true ↔ ∃ token ∈ tokens, needle.toList <:+: token.toList := by
  simp [tokensContain, Text.occursIn_iff]

theorem tokensContain_of_mem {tokens : List String} {needle : String} (h : needle ∈ tokens) :
    tokensContain tokens needle = true :=
  tokensContain_iff.mpr ⟨needle, h, List.infix_rfl⟩

/-- The empty needle is in any token, but there must be one. -/
theorem tokensContain_empty {tokens : List String} :
    tokensContain tokens "" = true ↔ tokens ≠ [] := by
  rw [tokensContain_iff]
  constructor
  · rintro ⟨token, hmem, -⟩
    exact List.ne_nil_of_mem hmem
  · intro h
    obtain ⟨token, rest, rfl⟩ := List.exists_cons_of_ne_nil h
    exact ⟨token, List.mem_cons_self, List.nil_infix⟩

/-- A list of cells contains the key of each of its items, if it has any token at all. -/
theorem tokensContain_keys {cells : List Cell} {cell : Cell} (h : cell ∈ cells) :
    tokensContain (keys cells) cell.key = true ↔ keys cells ≠ [] := by
  by_cases hkey : cell.key = ""
  · rw [hkey, tokensContain_empty]
  · have hmem : cell.key ∈ keys cells := mem_keys.mpr ⟨⟨cell, h, rfl⟩, hkey⟩
    exact iff_of_true (tokensContain_of_mem hmem) (List.ne_nil_of_mem hmem)

/-- The cells that the pieces of a text make. -/
def pieceCells (cs : List Char) : List Cell :=
  (pieces cs).map fun piece => text (String.ofList piece)

theorem tokens_text {s : String} (h : listOfText? s.toList = none) :
    (text s).tokens = keys (pieceCells s.toList) := by
  simp [tokens, encodedList?, h, pieceCells]

theorem tokens_text_of_list {s : String} {items : List Cell}
    (h : listOfText? s.toList = some items) : (text s).tokens = keys items := by
  simp [tokens, encodedList?, h]

theorem mem_pieces {cs piece : List Char} : piece ∈ pieces cs ↔
    (∃ part ∈ Text.splitWhere isDelimiter cs, trim part = piece) ∧ piece ≠ [] := by
  simp [pieces]

theorem trim_of_mem_pieces {cs piece : List Char} (h : piece ∈ pieces cs) : trim piece = piece := by
  obtain ⟨⟨part, -, rfl⟩, -⟩ := mem_pieces.mp h
  exact Text.trim_trim part

theorem key_ne_empty_of_mem_pieces {cs piece : List Char} (h : piece ∈ pieces cs) :
    (text (String.ofList piece)).key ≠ "" := by
  rw [Ne, key_eq_empty_iff, render_text, String.toList_ofList, trim_of_mem_pieces h]
  exact (mem_pieces.mp h).2

/-- No piece holds a delimiter. -/
theorem not_isDelimiter_of_mem_pieces {cs piece : List Char} (h : piece ∈ pieces cs) :
    ∀ c ∈ piece, isDelimiter c = false := by
  obtain ⟨⟨part, hpart, rfl⟩, -⟩ := mem_pieces.mp h
  intro c hc
  exact Text.not_of_mem_splitWhere hpart c (Text.mem_of_mem_trim hc)

/-- A text without delimiters is one piece. -/
theorem pieces_of_forall_not {cs : List Char} (h : ∀ c ∈ cs, isDelimiter c = false)
    (hne : trim cs ≠ []) : pieces cs = [trim cs] := by
  simp [pieces, Text.splitWhere_of_forall_not h, hne]

/-- Blanks around a text do not change its pieces. -/
theorem pieces_trim (cs : List Char) : pieces (trim cs) = pieces cs := by
  obtain ⟨pre, post, hpre, hpost, heq, -⟩ := Text.exists_trimWith isBlank cs
  change cs = pre ++ trim cs ++ post at heq
  have hleft : pieces (trim cs ++ post) = pieces (trim cs) := by
    obtain ⟨rest, last, hsplit, happend⟩ :=
      Text.splitWhere_append_right (fun c hc => isDelimiter_of_isBlank (hpost c hc)) (trim cs)
    rw [pieces, pieces, hsplit, happend]
    simp only [List.map_append, List.map_cons, List.map_nil]
    rw [trim, Text.trimWith_append_right hpost, trim]
  have hright : pieces (pre ++ (trim cs ++ post)) = pieces (trim cs ++ post) := by
    obtain ⟨first, rest, hsplit, happend⟩ :=
      Text.splitWhere_append_left (fun c hc => isDelimiter_of_isBlank (hpre c hc))
        (trim cs ++ post)
    rw [pieces, pieces, hsplit, happend]
    simp only [List.map_cons]
    rw [trim, Text.trimWith_append_left hpre, trim]
  conv_rhs => rw [heq, List.append_assoc, hright, hleft]

/-- The text of an integer is one piece. -/
theorem pieces_intChars (n : Int) : pieces (intChars n) = [intChars n] := by
  have hdelimiter : ∀ c ∈ intChars n, isDelimiter c = false := by
    intro c hc
    rcases mem_intChars hc with rfl | hc
    · rfl
    · rw [Bool.eq_false_iff]
      intro hd
      rcases isDelimiter_iff.mp hd with rfl | rfl
      · exact absurd hc.1 (by decide)
      · exact absurd hc.2 (by decide)
  have hne : trim (intChars n) ≠ [] := by
    have hkey := key_int_ne_empty n
    rwa [Ne, key_eq_empty_iff, render_int] at hkey
  rw [pieces_of_forall_not hdelimiter hne, Numeral.trim_intChars]

theorem tokens_int (n : Int) : (int n).tokens = [(int n).key] := by
  have hkey : (text (String.ofList (intChars n))).key = (int n).key := by
    apply key_eq_of_render_eq
    rw [render_text, String.toList_ofList, render_int]
  simp [tokens, encodedList?, pieces_intChars, keys, hkey, key_int_ne_empty]

/-! ## Items of lists -/

theorem isNeutral_comma : isNeutral ',' = true := by decide

/-- An item stands in the text of its list between commas or the ends. -/
theorem exists_renderItems {items : List Cell} {item : Cell} (h : item ∈ items) :
    ∃ before after, renderItems items = before ++ item.render ++ after ∧
      (∀ c ∈ before.getLast?, c = ',') ∧ ∀ c ∈ after.head?, c = ',' := by
  induction items with
  | nil => cases h
  | cons first rest ih =>
    cases rest with
    | nil =>
      obtain rfl := List.mem_singleton.mp h
      exact ⟨[], [], by simp [renderItems], by simp, by simp⟩
    | cons next rest =>
      rcases List.mem_cons.mp h with rfl | h
      · exact ⟨[], ',' :: renderItems (next :: rest), by simp [renderItems], by simp, by simp⟩
      · obtain ⟨before, after, heq, hbefore, hafter⟩ := ih h
        refine ⟨first.render ++ ',' :: before, after, ?_, ?_, hafter⟩
        · rw [renderItems, heq]
          simp
        · intro c hc
          cases before with
          | nil => simpa [eq_comm] using hc
          | cons d ds =>
            apply hbefore
            rwa [List.getLast?_append_of_ne_nil _ (by simp), List.getLast?_cons_cons] at hc

theorem startsNeutral_of_head? {cs : List Char}
    (h : ∀ c ∈ cs.head?, c = ',' ∨ isBlank c = true) : StartsNeutral cs := by
  intro c hc
  rcases h c hc with rfl | hblank
  · exact isNeutral_comma
  · exact Text.isNeutral_of_isBlank hblank

/-- The key of an item is a part of the key of its list. -/
theorem key_infix_of_mem {items : List Cell} {item : Cell} (h : item ∈ items) :
    item.key.toList <:+: (list items).key.toList := by
  rw [toList_key, toList_key]
  by_cases hcore : trim item.render = []
  · rw [hcore]
    exact List.nil_infix
  · obtain ⟨before, after, heq, hbefore, hafter⟩ := exists_renderItems h
    obtain ⟨pre, post, hpre, hpost, hitem, htrimmed⟩ := Text.exists_trimWith isBlank item.render
    change item.render = pre ++ trim item.render ++ post at hitem
    have hlist : trim (list items).render =
        (before ++ pre).dropWhile isBlank ++ trim item.render ++
          Text.trimEndWith isBlank (post ++ after) := by
      have hrender : (list items).render =
          (before ++ pre) ++ trim item.render ++ (post ++ after) := by
        rw [render, heq]
        conv_lhs => rw [hitem]
        simp only [List.append_assoc]
      rw [hrender]
      exact Text.trimWith_around htrimmed hcore _ _
    rw [hlist]
    -- lower-casing looks beyond the piece only past
    -- neutral characters, and those next to it are such
    apply Text.lower_infix
    · apply startsNeutral_of_head?
      intro c hc
      rw [List.head?_reverse] at hc
      have hwhole : (before ++ pre).getLast? = some c := by
        rw [← List.takeWhile_append_dropWhile (p := isBlank) (l := before ++ pre),
          List.getLast?_append, hc, Option.some_or]
      rw [List.getLast?_append, Option.or_eq_some_iff] at hwhole
      rcases hwhole with hlast | ⟨-, hlast⟩
      · exact .inr (hpre c (List.mem_of_getLast? hlast))
      · exact .inl (hbefore c hlast)
    · apply startsNeutral_of_head?
      intro c hc
      obtain ⟨blanks, -, hsplit, -⟩ := Text.exists_trimEndWith isBlank (post ++ after)
      have hwhole : (post ++ after).head? = some c := by
        rw [hsplit, List.head?_append, hc, Option.some_or]
      rw [List.head?_append, Option.or_eq_some_iff] at hwhole
      rcases hwhole with hhead | ⟨-, hhead⟩
      · exact .inr (hpost c (List.mem_of_mem_head? hhead))
      · exact .inl (hafter c hhead)

end SheetQuery.Cell
