import SheetQuery.Proofs.Cell.Fold
import SheetQuery.Proofs.Json.Reading
import SheetQuery.Schema.Coercion

/-!
# Ways to put a list into a cell

A list of texts stands in a cell as a list, as its JSON text, or as one text with a comma or a
semicolon between its items. Cells are read as lists in two ways: what a filter looks into is reduced
to tokens, what it looks for is split into items. Both read the three ways alike.

* `Json.WritesAll.trim`: a JSON text that ends with a mark goes from its first lexeme to that mark;
* `Encodes`: the three ways;
* `Encodes.tokens_eq`, `Encodes.items_eq`: what they are read as.
-/

namespace SheetQuery

open Text (isBlank)

/-! ## JSON texts without outer spaces -/

namespace Json

theorem isBlank_of_isSpace {c : Char} (h : isSpace c = true) : isBlank c = true := by
  simp only [isSpace, Bool.or_eq_true, beq_iff_eq] at h
  rcases h with ((rfl | rfl) | rfl) | rfl <;> decide

theorem isBlank_of_mark {c : Char} {lexeme : Lexeme} (h : mark? c = some lexeme) :
    isBlank c = false := by
  unfold mark? at h
  split_ifs at h <;> simp_all <;> decide

/-- The one way to write a mark. -/
theorem WritesLexeme.mark_cases {lexeme : Lexeme} {cs : List Char} (h : WritesLexeme lexeme cs)
    (hscalar : ∀ cell, lexeme ≠ .scalar cell) : ∃ c, cs = [c] ∧ mark? c = some lexeme := by
  cases h with
  | mark h => exact ⟨_, rfl, h⟩
  | _ => exact absurd rfl (hscalar _)

theorem IsApart.of_head? {cs rest : List Char} (h : IsApart cs) (hhead : rest.head? = cs.head?) :
    IsApart rest := by
  rwa [IsApart, hhead]

/-- A JSON text that ends with a mark goes on with nothing but spaces. -/
theorem WritesAll.exists_end {last : Lexeme} (hlast : ∀ cell, last ≠ .scalar cell) :
    ∀ {lexemes : List Lexeme} {cs : List Char}, WritesAll (lexemes ++ [last]) cs →
      ∃ core c spaces, cs = core ++ c :: spaces ∧ mark? c = some last ∧
        (∀ d ∈ spaces, isSpace d = true) ∧ WritesAll (lexemes ++ [last]) (core ++ [c])
  | [], _, @WritesAll.cons _ _ before _ after hspaces hlexeme _ (.nil hafter) => by
    obtain ⟨c, rfl, hmark⟩ := hlexeme.mark_cases hlast
    refine ⟨before, c, after, by simp, hmark, hafter, ?_⟩
    have hwrites : WritesAll [last] (before ++ [c] ++ []) :=
      .cons hspaces (.mark hmark) (.inl hlast) (.nil (by simp))
    simpa using hwrites
  | lexeme :: lexemes, _, @WritesAll.cons _ _ before piece _ hspaces hlexeme hapart hrest => by
    obtain ⟨core, c, spaces, rfl, hmark, hafter, hwrites⟩ := hrest.exists_end hlast
    refine ⟨before ++ piece ++ core, c, spaces, by simp, hmark, hafter, ?_⟩
    -- whether two lexemes touch is seen from the next character alone, which stays
    have hhead : (core ++ [c]).head? = (core ++ c :: spaces).head? := by
      cases core <;> rfl
    have hall : WritesAll (lexeme :: (lexemes ++ [last])) (before ++ piece ++ (core ++ [c])) :=
      .cons hspaces hlexeme (hapart.imp id fun h => h.of_head? hhead) hwrites
    simpa using hall

/-- A JSON text that starts and ends with a mark is one without its outer blanks too, from mark to
mark. -/
theorem WritesAll.trim {first last : Lexeme} {lexemes : List Lexeme} {cs : List Char}
    (h : WritesAll (first :: (lexemes ++ [last])) cs) (hfirst : ∀ cell, first ≠ .scalar cell)
    (hlast : ∀ cell, last ≠ .scalar cell) :
    WritesAll (first :: (lexemes ++ [last])) (Text.trim cs) ∧
      (∃ c ∈ (Text.trim cs).head?, mark? c = some first) ∧
      ∃ c ∈ (Text.trim cs).getLast?, mark? c = some last := by
  cases h with
  | @cons _ _ before piece rest hspaces hlexeme hapart hrest =>
    obtain ⟨c, rfl, hc⟩ := hlexeme.mark_cases hfirst
    obtain ⟨core, d, after, rfl, hd, hafter, hwrites⟩ := hrest.exists_end hlast
    have hend : (c :: (core ++ [d])).getLast? = some d := by
      rw [← List.cons_append, List.getLast?_append_of_ne_nil _ (by simp)]
      rfl
    -- JSON spaces are blanks and marks are not, so trimming stops right at the marks
    have htrim : Text.trim (before ++ [c] ++ (core ++ d :: after)) = c :: (core ++ [d]) := by
      have hparts : before ++ [c] ++ (core ++ d :: after) =
          before ++ (c :: (core ++ [d])) ++ after := by
        simp
      rw [hparts]
      refine Text.trimWith_append (fun b hb => isBlank_of_isSpace (hspaces b hb))
        (fun b hb => isBlank_of_isSpace (hafter b hb)) ⟨?_, ?_⟩ (List.cons_ne_nil _ _)
      · intro b hb
        rw [← Option.some.inj hb, isBlank_of_mark hc]
      · intro b hb
        rw [hend] at hb
        rw [← Option.some.inj hb, isBlank_of_mark hd]
    rw [htrim]
    exact ⟨.mark hc hfirst hwrites, ⟨c, rfl, hc⟩, ⟨d, hend, hd⟩⟩

end Json

namespace Cell

/-! ## A list as JSON text -/

/-- The list that is read from its JSON text, with any blanks around it. -/
theorem listOfText?_of_writes {items : List Cell} {cs : List Char} (h : Json.Writes (list items) cs)
    (hnames : ∀ part ∈ (list items).parts, part.HasDistinctNames)
    (hshort : ∀ part ∈ (list items).parts, part.IsShort) : listOfText? cs = some items := by
  obtain ⟨hwrites, ⟨c, hhead, hc⟩, d, hlast, hd⟩ := h.trim (by simp) (by simp)
  have hopen : ∀ {c : Char}, Json.mark? c = some .openList → c = '[' := by
    intro c hc
    unfold Json.mark? at hc
    split_ifs at hc <;> simp_all
  have hclose : ∀ {c : Char}, Json.mark? c = some .closeList → c = ']' := by
    intro c hc
    unfold Json.mark? at hc
    split_ifs at hc <;> simp_all
  have hbracketed : isBracketed (Text.trim cs) = true := by
    obtain rfl := hopen hc
    obtain rfl := hclose hd
    rw [isBracketed, Option.mem_def.mp hhead, Option.mem_def.mp hlast]
    rfl
  have hread : Json.read (Text.trim cs) = .ok (list items) := Json.read_of_writes hwrites hnames hshort
  rw [listOfText?, if_pos hbracketed, Json.read?, hread]
  rfl

/-! ## A list as one text -/

/-- A text made of items with a comma or a semicolon between them, and any blanks beside those. -/
inductive Joins : List String → List Char → Prop
  | single (item : String) : Joins [item] item.toList
  | cons (item : String) {items : List String} {before after cs : List Char} {d : Char}
      (hbefore : ∀ c ∈ before, isBlank c = true) (hd : isDelimiter d = true)
      (hafter : ∀ c ∈ after, isBlank c = true) (rest : Joins items cs) :
      Joins (item :: items) (item.toList ++ before ++ d :: (after ++ cs))

/-- A text that can stand as an item of a list in each of its encodings: a trimmed one that is not
blank, holds no delimiter, starts no list and reads as no number. -/
structure IsToken (token : String) : Prop where
  ne_empty : token ≠ ""
  trimmed : Text.trim token.toList = token.toList
  undivided : ∀ c ∈ token.toList, isDelimiter c = false
  unopened : token.toList.head? ≠ some '['
  wordy : (text token).castNumeral = text token

theorem pieces_append_cons {piece : List Char} (h : ∀ c ∈ piece, isDelimiter c = false) {d : Char}
    (hd : isDelimiter d = true) (cs : List Char) (hne : Text.trim piece ≠ []) :
    pieces (piece ++ d :: cs) = Text.trim piece :: pieces cs := by
  obtain ⟨first, rest, hsplit, happend⟩ := Text.splitWhere_append_left h (d :: cs)
  rw [Text.splitWhere, if_pos hd] at hsplit
  obtain ⟨rfl, rfl⟩ := List.cons.inj hsplit
  rw [pieces, happend, List.append_nil, List.map_cons, List.filter_cons_of_pos (by simpa using hne),
    pieces]

theorem pieces_append_left {blanks : List Char} (h : ∀ c ∈ blanks, isBlank c = true)
    (cs : List Char) : pieces (blanks ++ cs) = pieces cs := by
  rw [← pieces_trim, Text.trim, Text.trimWith_append_left h, ← Text.trim, pieces_trim]

theorem IsToken.toList_ne_nil {token : String} (h : IsToken token) : token.toList ≠ [] :=
  fun hnil => h.ne_empty (String.toList_eq_nil_iff.mp hnil)

/-- The pieces of a joined text are its items. -/
theorem pieces_of_joins {items : List String} {cs : List Char} (h : Joins items cs)
    (hitems : ∀ item ∈ items, IsToken item) : pieces cs = items.map String.toList := by
  induction h with
  | single item =>
    have hitem := hitems item List.mem_cons_self
    have hne : Text.trim item.toList ≠ [] := by
      rw [hitem.trimmed]
      exact hitem.toList_ne_nil
    rw [pieces_of_forall_not hitem.undivided hne, hitem.trimmed]
    rfl
  | @cons item items before after cs d hbefore hd hafter _ ih =>
    obtain ⟨hitem, hrest⟩ := List.forall_mem_cons.mp hitems
    -- the blanks before a delimiter belong to the item before it
    have hpiece : ∀ c ∈ item.toList ++ before, isDelimiter c = false := by
      intro c hc
      rcases List.mem_append.mp hc with hc | hc
      · exact hitem.undivided c hc
      · exact isDelimiter_of_isBlank (hbefore c hc)
    have htrim : Text.trim (item.toList ++ before) = item.toList := by
      rw [Text.trim, Text.trimWith_append_right hbefore, ← Text.trim, hitem.trimmed]
    have hne : Text.trim (item.toList ++ before) ≠ [] := by
      rw [htrim]
      exact hitem.toList_ne_nil
    rw [pieces_append_cons hpiece hd _ hne, htrim, pieces_append_left hafter, ih hrest, List.map_cons]

theorem Joins.exists_append {items : List String} {cs : List Char} (h : Joins items cs) :
    ∃ item ∈ items, ∃ rest, cs = item.toList ++ rest := by
  cases h with
  | single item => exact ⟨item, List.mem_cons_self, [], by simp⟩
  | cons item => exact ⟨item, List.mem_cons_self, _, by rw [List.append_assoc]⟩

/-- A joined text starts no list. -/
theorem isBracketed_of_joins {items : List String} {cs : List Char} (h : Joins items cs)
    (hitems : ∀ item ∈ items, IsToken item) : isBracketed (Text.trim cs) = false := by
  obtain ⟨item, hmem, rest, rfl⟩ := h.exists_append
  have hitem := hitems item hmem
  have htrimmed : Text.IsTrimmed isBlank item.toList := by
    rw [← hitem.trimmed]
    exact Text.isTrimmed_trim item.toList
  have htrim := Text.trimWith_around htrimmed hitem.toList_ne_nil [] rest
  have hhead : (Text.trim (item.toList ++ rest)).head? = item.toList.head? := by
    rw [List.nil_append] at htrim
    rw [Text.trim, htrim, List.dropWhile_nil, List.nil_append,
      List.head?_append_of_ne_nil _ hitem.toList_ne_nil]
  rw [isBracketed, hhead, beq_eq_false_iff_ne.mpr hitem.unopened, Bool.false_and]

/-! ## The three encodings -/

/-- The ways to put a list of texts into a cell. -/
inductive Encodes (items : List String) : Cell → Prop
  | native : Encodes items (list (items.map text))
  | json {s : String} (h : Json.Writes (list (items.map text)) s.toList) : Encodes items (text s)
  | joined {s : String} (h : Joins items s.toList) : Encodes items (text s)

theorem parts_map_text (items : List String) :
    (list (items.map text)).parts = list (items.map text) :: items.map text := by
  have hitems : ∀ items : List String, itemParts (items.map text) = items.map text := by
    intro items
    induction items with
    | nil => rfl
    | cons item items ih => simp [itemParts, parts, ih]
  rw [parts, hitems]

theorem listOfText?_of_writes_text {items : List String} {cs : List Char}
    (h : Json.Writes (list (items.map text)) cs) : listOfText? cs = some (items.map text) := by
  have hpart : ∀ part ∈ (list (items.map text)).parts, part.HasDistinctNames ∧ part.IsShort := by
    rw [parts_map_text]
    intro part hpart
    rcases List.mem_cons.mp hpart with rfl | hpart
    · exact ⟨trivial, trivial⟩
    · obtain ⟨item, -, rfl⟩ := List.mem_map.mp hpart
      exact ⟨trivial, trivial⟩
  exact listOfText?_of_writes h (fun part hmem => (hpart part hmem).1)
    fun part hmem => (hpart part hmem).2

theorem pieces_map_text {items : List String} {s : String} (h : Joins items s.toList)
    (hitems : ∀ item ∈ items, IsToken item) : pieceCells s.toList = items.map text := by
  rw [pieceCells, pieces_of_joins h hitems, List.map_map]
  exact List.map_congr_left fun item _ => congrArg text String.ofList_toList

theorem keys_map_text {items : List String} (hitems : ∀ item ∈ items, IsToken item) :
    keys (items.map text) = items.map fun item => (text item).key := by
  have hkey : ∀ item ∈ items, (text item).key ≠ "" := by
    intro item hmem
    rw [Ne, key_eq_empty_iff, render_text, (hitems item hmem).trimmed]
    exact (hitems item hmem).toList_ne_nil
  rw [keys, List.map_map]
  exact List.filter_eq_self.mpr (by simpa using hkey)

namespace Encodes

variable {items : List String} {cell : Cell}

/-- What a filter looks into: the normalised items. -/
theorem tokens_eq (h : Encodes items cell) (hitems : ∀ item ∈ items, IsToken item) :
    cell.tokens = items.map fun item => (text item).key := by
  rw [← keys_map_text hitems]
  cases h with
  | native => rfl
  | json h => rw [tokens_text_of_list (listOfText?_of_writes_text h)]
  | joined h =>
    rw [tokens_text (listOfText?_of_not_bracketed (isBracketed_of_joins h hitems)),
      pieces_map_text h hitems]

/-- What a filter looks for: the items as they are. -/
theorem items_eq (h : Encodes items cell) (hitems : ∀ item ∈ items, IsToken item) :
    cell.items = items.map text := by
  cases h with
  | native => rfl
  | json h =>
    have hlist := listOfText?_of_writes_text h
    rw [Cell.items.eq_2 _ (by simp), render_text, hlist]
  | joined h =>
    rw [items_text (isBracketed_of_joins h hitems), pieces_of_joins h hitems, List.map_map]
    apply List.map_congr_left
    intro item hmem
    rw [Function.comp_apply, String.ofList_toList, (hitems item hmem).wordy]

end Encodes

end Cell

end SheetQuery
