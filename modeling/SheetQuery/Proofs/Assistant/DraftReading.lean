import SheetQuery.Proofs.Assistant.DraftMending
import SheetQuery.Proofs.Json.Stray

/-!
# Reading drafts

Strict JSON reads a draft if the draft is JSON already, and nothing else of it. A reply is read as it
stands, and then mended; so what a draft in a reply means is read exactly if JSON knows the spaces that
mending leaves in it.

* `Draft.readOn_text`: what is read of a draft in front of what follows;
* `draft_is_read_iff_isSpaced`: drafts in replies.
-/

namespace SheetQuery.Reply

open Json Assembly

/-! ## Tokens -/

theorem ite_ite_none (p q : Bool) (found : Option Cell) :
    (if p then (if q then found else none) else none) = if p && q then found else none := by
  cases p <;> rfl

theorem readOn_gap (a : Assembly) (gap : Gap) (rest : List Char) :
    a.readOn (gap.chars ++ rest) = if gap.isStrict then a.readOn rest else none :=
  readOn_blanks a gap.blank rest

theorem lex_plain {cs : List Char} (h : ∀ c ∈ cs, isTextChar c = true) (rest : List Char) :
    lex .between ('"' :: (cs ++ ['"']) ++ rest) =
      .scalar (.text (String.ofList cs)) :: lex .between rest := by
  apply lex_text
  rw [String.toList_ofList]
  exact writesText_self fun c hc => plain_of_isTextChar (h c hc)

/-- A scalar is delivered, if it ends as values do. -/
theorem readOn_scalar {expect : Expect} (hexpect : TakesValue expect) (scalar : Scalar)
    {rest : List Char} (hrest : EndsValue rest) (stack : List Frame) :
    readOn ⟨expect, stack⟩ (scalar.text ++ rest) = (deliver scalar.cell stack).readOn rest := by
  have hhead : ∀ c ∈ rest.head?, Text.isBlank c = true ∨ (mark? c).isSome = true := by
    intro c hc
    rcases hrest.head? hc with hblank | rfl | rfl | rfl
    · exact .inl hblank
    all_goals exact .inr (by decide)
  cases scalar with
  | null => exact readOn_word hexpect (by decide) (by decide) rfl hhead stack
  | bool value =>
    cases value <;> exact readOn_word hexpect (by decide) (by decide) rfl hhead stack
  | int value short =>
    exact readOn_word hexpect (intChars_ne_nil value) (fun c => isWordish_of_mem_intChars)
      (word_intChars short) hhead stack
  | string chars plain => exact readOn_of_ok (lex_plain plain rest) (step_scalar hexpect _ stack)

theorem isWordish_of_isWordChar {c : Char} (h : Text.isWordChar c = true) : IsWordish c := by
  have hne : ∀ d : Char, Text.isWordChar d = false → c ≠ d := fun _ => ne_of_class h
  refine ⟨?_, hne _ (by decide), ?_⟩
  · simp [isSpace, hne ' ' (by decide), hne '\t' (by decide), hne '\n' (by decide),
      hne '\r' (by decide)]
  · simp [mark?, hne '[' (by decide), hne ']' (by decide), hne '{' (by decide),
      hne '}' (by decide), hne ':' (by decide), hne ',' (by decide)]

theorem not_takesValue {expect : Expect} (h : TakesName expect) : ¬ TakesValue expect := by
  rcases h with rfl | rfl <;> simp [TakesValue]

/-- A key names the value to come if it is as JSON has it; other keys are not read. -/
theorem readOn_key {expect : Expect} (hexpect : TakesName expect) (key : Key) (entries : Entries)
    (last : String) (stack : List Frame) (rest : List Char) :
    readOn ⟨expect, .record entries last :: stack⟩ (key.text ++ rest) =
      if key.isStrict then
        readOn ⟨.value, .record entries (String.ofList key.name.chars) :: stack⟩ rest
      else none := by
  rw [key.text_append, readOn_gap]
  cases hquotes : key.quotes with
  | double =>
    have hname : readOn ⟨expect, .record entries last :: stack⟩ ('"' :: (key.name.chars ++ ['"']) ++
        (key.inner.chars ++ ':' :: (key.after.chars ++ rest))) =
        readOn ⟨.colon, .record entries (String.ofList key.name.chars) :: stack⟩
          (key.inner.chars ++ ':' :: (key.after.chars ++ rest)) := by
      refine readOn_of_ok (lex_plain (fun c hc => ?_) _) ?_
      · exact isTextChar_of_isWordChar (key.name.plain c hc)
      · rcases hexpect with rfl | rfl <;> rfl
    have hcolon : readOn ⟨.colon, .record entries (String.ofList key.name.chars) :: stack⟩
        (':' :: (key.after.chars ++ rest)) =
        readOn ⟨.value, .record entries (String.ofList key.name.chars) :: stack⟩
          (key.after.chars ++ rest) := readOn_mark rfl rfl _
    -- a key in double quotes is a text and a colon, each followed by its gap
    have hjoin : Quotes.double.text ++ (key.name.chars ++ (Quotes.double.text ++ (key.inner.chars ++
        ':' :: (key.after.chars ++ rest)))) = '"' :: (key.name.chars ++ ['"']) ++
          (key.inner.chars ++ ':' :: (key.after.chars ++ rest)) := by
      simp [Quotes.text]
    have hstrict : key.isStrict =
        (key.before.isStrict && key.inner.isStrict && key.after.isStrict) := by
      rw [Key.isStrict, Key.isSpaced, hquotes]
      cases key.before.isStrict <;> cases key.inner.isStrict <;> cases key.after.isStrict <;> rfl
    rw [hjoin, hname, readOn_gap, hcolon, readOn_gap, ite_ite_none, ite_ite_none, hstrict]
  | single =>
    -- to JSON a single quote begins a word, and where a name is due no word can stand
    have hnone := readOn_of_isWordish (a := ⟨expect, .record entries last :: stack⟩)
      (not_takesValue hexpect) (c := '\'') (by decide)
    have hstrict : key.isStrict = false := by simp [Key.isStrict, hquotes]
    simp [Quotes.text, hnone, hstrict]
  | bare =>
    obtain ⟨c, tail, hname, hc⟩ := isWordChar_name key.name
      (key.inner.chars ++ ':' :: (key.after.chars ++ rest))
    have hnone := readOn_of_isWordish (a := ⟨expect, .record entries last :: stack⟩)
      (not_takesValue hexpect) (isWordish_of_isWordChar hc) tail
    have hstrict : key.isStrict = false := by simp [Key.isStrict, hquotes]
    simp [Quotes.text, hname, hnone, hstrict]

/-! ## Trees -/

theorem readOn_openList {expect : Expect} (h : TakesValue expect) (stack : List Frame)
    (rest : List Char) : readOn ⟨expect, stack⟩ ('[' :: rest) =
      readOn ⟨.firstItem, .list [] :: stack⟩ rest := by
  rcases h with rfl | rfl <;> exact readOn_mark rfl rfl rest

theorem readOn_openRecord {expect : Expect} (h : TakesValue expect) (stack : List Frame)
    (rest : List Char) : readOn ⟨expect, stack⟩ ('{' :: rest) =
      readOn ⟨.firstName, .record [] "" :: stack⟩ rest := by
  rcases h with rfl | rfl <;> exact readOn_mark rfl rfl rest

/-- A last comma is not read, and without it the list or record is closed. -/
theorem readOn_lastComma {a next value : Assembly} {c : Char} {lexeme : Lexeme}
    (hmark : mark? c = some lexeme) (hclose : a.step lexeme = .ok next)
    (hcomma : a.step .comma = .ok value) (hopen : ∃ f, value.step lexeme = .error f)
    (comma : Option Gap) (rest : List Char) :
    a.readOn (lastComma comma ++ c :: rest) =
      if comma.isNone then next.readOn rest else none := by
  cases comma with
  | none => exact readOn_mark hmark hclose rest
  | some gap =>
    obtain ⟨f, hfault⟩ := hopen
    have hnone : value.readOn (c :: rest) = none := readOn_of_error (lex_mark hmark rest) hfault
    rw [lastComma, List.cons_append, readOn_mark rfl hcomma, readOn_gap, hnone]
    simp

-- By induction on the draft. It may stand in front of any text that can end a value, so that the
-- hypothesis applies to each part in front of the rest of the draft.
mutual

/-- A draft is delivered if it is JSON already; of other drafts nothing is read. -/
theorem Draft.readOn_text : ∀ (draft : Draft), (∀ part ∈ draft.cell.parts, part.HasDistinctNames) →
    ∀ {rest : List Char}, EndsValue rest → ∀ {expect : Expect}, TakesValue expect →
    ∀ stack : List Frame, readOn ⟨expect, stack⟩ (draft.text ++ rest) =
      if draft.isStrict then (deliver draft.cell stack).readOn rest else none
  | .scalar scalar, _, rest, hrest, expect, hexpect, stack => readOn_scalar hexpect scalar hrest stack
  | .emptyList gap, _, rest, _, expect, hexpect, stack => by
    have hclose : readOn ⟨.firstItem, .list [] :: stack⟩ (']' :: rest) =
        (deliver (.list []) stack).readOn rest := readOn_mark rfl rfl rest
    rw [Draft.emptyList_append, readOn_openList hexpect, readOn_gap, hclose]
    rfl
  | .emptyRecord gap, _, rest, _, expect, hexpect, stack => by
    have hclose : readOn ⟨.firstName, .record [] "" :: stack⟩ ('}' :: rest) =
        (deliver (.record []) stack).readOn rest := readOn_mark rfl rfl rest
    rw [Draft.emptyRecord_append, readOn_openRecord hexpect, readOn_gap, hclose]
    rfl
  | .list items, h, rest, _, expect, hexpect, stack => by
    rw [Draft.list_append, readOn_openList hexpect,
      items.readOn_text (fun part hpart => h part (List.mem_cons_of_mem _ hpart)) (.inr rfl)]
    rfl
  | .record fields, h, rest, _, expect, hexpect, stack => by
    have hnames : (([] ++ fields.entries).map Prod.fst).Nodup := h _ List.mem_cons_self
    rw [Draft.record_append, readOn_openRecord hexpect,
      fields.readOn_text (fun part hpart => h part (List.mem_cons_of_mem _ hpart)) hnames (.inr rfl)]
    rfl

theorem Items.readOn_text : ∀ (items : Items),
    (∀ part ∈ Cell.itemParts items.cells, part.HasDistinctNames) →
    ∀ {expect : Expect}, TakesValue expect →
    ∀ (earlier : List Cell) (stack : List Frame) (rest : List Char),
      readOn ⟨expect, .list earlier :: stack⟩ (items.text ++ ']' :: rest) =
        if items.fits Key.isStrict Option.isNone then
          (deliver (.list (earlier.reverse ++ items.cells)) stack).readOn rest
        else none
  | .last before item after comma, h, expect, hexpect, earlier, stack, rest => by
    have hitem : ∀ part ∈ item.cell.parts, part.HasDistinctNames := fun part hpart =>
      h part (by simp [Items.cells, Cell.itemParts, hpart])
    have hend := endsValue_last after comma (c := ']') (.inl rfl) rest
    have hcomma : readOn (deliver item.cell (.list earlier :: stack)) (lastComma comma ++ ']' :: rest) =
        if comma.isNone then (deliver (.list (item.cell :: earlier).reverse) stack).readOn rest
        else none :=
      readOn_lastComma rfl rfl rfl ⟨_, rfl⟩ comma rest
    -- gap, item, gap and last comma are read in turn, and each has to be as JSON has it
    rw [Items.last_append, readOn_gap, item.readOn_text hitem hend hexpect, readOn_gap, hcomma,
      ite_ite_none, ite_ite_none, ite_ite_none]
    simp [Items.fits, Items.cells, Draft.isStrict, Bool.and_assoc]
  | .more before item after items, h, expect, hexpect, earlier, stack, rest => by
    rw [Items.cells, Cell.itemParts] at h
    simp only [List.mem_append] at h
    have hend := endsValue_more after (items.text ++ ']' :: rest)
    have hcomma : readOn (deliver item.cell (.list earlier :: stack))
        (',' :: (items.text ++ ']' :: rest)) =
        readOn ⟨.value, .list (item.cell :: earlier) :: stack⟩ (items.text ++ ']' :: rest) :=
      readOn_mark rfl rfl _
    rw [Items.more_append, readOn_gap,
      item.readOn_text (fun part hpart => h part (.inl hpart)) hend hexpect, readOn_gap, hcomma,
      items.readOn_text (fun part hpart => h part (.inr hpart)) (.inl rfl), ite_ite_none,
      ite_ite_none, ite_ite_none]
    simp [Items.fits, Items.cells, Draft.isStrict, Bool.and_assoc]

theorem Fields.readOn_text : ∀ (fields : Fields),
    (∀ part ∈ Cell.entryParts fields.entries, part.HasDistinctNames) →
    ∀ {earlier : Entries}, ((earlier ++ fields.entries).map Prod.fst).Nodup →
    ∀ {expect : Expect}, TakesName expect →
    ∀ (last : String) (stack : List Frame) (rest : List Char),
      readOn ⟨expect, .record earlier last :: stack⟩ (fields.text ++ '}' :: rest) =
        if fields.fits Key.isStrict Option.isNone then
          (deliver (.record (earlier ++ fields.entries)) stack).readOn rest
        else none
  | .last key value after comma, h, earlier, hnames, expect, hexpect, last, stack, rest => by
    have hvalue : ∀ part ∈ value.cell.parts, part.HasDistinctNames := fun part hpart =>
      h part (by simp [Fields.entries, Cell.entryParts, hpart])
    have hend := endsValue_last after comma (c := '}') (.inr rfl) rest
    -- the name is new, so the value goes to the end of the entries
    have hdeliver := deliver_of_not_mem (not_mem_names hnames) value.cell stack
    have hcomma : readOn (deliver value.cell (.record earlier (String.ofList key.name.chars) :: stack))
        (lastComma comma ++ '}' :: rest) =
        if comma.isNone then (deliver (.record (earlier ++ (Fields.last key value after comma).entries))
          stack).readOn rest else none := by
      rw [hdeliver]
      exact readOn_lastComma rfl rfl rfl ⟨_, rfl⟩ comma rest
    rw [Fields.last_append, readOn_key hexpect, value.readOn_text hvalue hend (.inl rfl), readOn_gap,
      hcomma, ite_ite_none, ite_ite_none, ite_ite_none]
    simp [Fields.fits, Draft.isStrict, Bool.and_assoc]
  | .more key value after fields, h, earlier, hnames, expect, hexpect, last, stack, rest => by
    rw [Fields.entries, Cell.entryParts] at h
    simp only [List.mem_append] at h
    have hend := endsValue_more after (fields.text ++ '}' :: rest)
    have hdeliver := deliver_of_not_mem (not_mem_names hnames) value.cell stack
    have hcomma : readOn (deliver value.cell (.record earlier (String.ofList key.name.chars) :: stack))
        (',' :: (fields.text ++ '}' :: rest)) =
        readOn ⟨.name, .record (earlier ++ [(String.ofList key.name.chars, value.cell)])
          (String.ofList key.name.chars) :: stack⟩ (fields.text ++ '}' :: rest) := by
      rw [hdeliver]
      exact readOn_mark rfl rfl _
    have hrest : ((earlier ++ [(String.ofList key.name.chars, value.cell)] ++
        fields.entries).map Prod.fst).Nodup := by
      simpa [Fields.entries] using hnames
    rw [Fields.more_append, readOn_key hexpect,
      value.readOn_text (fun part hpart => h part (.inl hpart)) hend (.inl rfl), readOn_gap, hcomma,
      fields.readOn_text (fun part hpart => h part (.inr hpart)) hrest (.inl rfl), ite_ite_none,
      ite_ite_none, ite_ite_none]
    simp [Fields.fits, Fields.entries, Draft.isStrict, Bool.and_assoc]

end

/-- Strict JSON reads a draft exactly if it is JSON already. -/
theorem Draft.read?_text (draft : Draft)
    (hdistinct : ∀ part ∈ draft.cell.parts, part.HasDistinctNames) :
    Json.read? draft.text = if draft.isStrict then some draft.cell else none := by
  have hread := draft.readOn_text hdistinct endsValue_nil (.inl rfl) []
  rw [List.append_nil] at hread
  exact hread

/-- A draft of a record is read from a reply around it exactly if JSON knows the spaces that mending
leaves in it, and it is read as it is meant. -/
theorem draft_is_read_iff_isSpaced {draft : Draft} {entries : Entries}
    (hrecord : draft.cell = .record entries)
    (hdistinct : ∀ part ∈ draft.cell.parts, part.HasDistinctNames) {before : List Char}
    (hbefore : '{' ∉ before) (after : List Char) :
    read? (.text (String.ofList (before ++ draft.text ++ after))) =
      if draft.isSpaced then some (.record entries) else none := by
  have hmended : Json.read? (mended draft.text) =
      if draft.isSpaced then some draft.cell else none := by
    rw [mended_text, Draft.read?_text, draft.cell_untrailed_quoted, draft.isStrict_untrailed_quoted]
    rwa [draft.cell_untrailed_quoted]
  have htext : read? (.text (String.ofList (before ++ draft.text ++ after))) =
      ofText? (String.ofList (before ++ draft.text ++ after)).toList := rfl
  rw [htext, String.toList_ofList, ofText?, firstObject?_unfenced (Draft.isIntact hrecord) hbefore,
    Option.bind_some, draft.read?_text hdistinct, hmended, hrecord]
  cases hstrict : draft.isStrict with
  | true => simp [Draft.isSpaced_of_isStrict hstrict]
  | false => simp

/-- A fenced draft with a bare key and a key in single quotes, and with last commas at every level, is
read as it is meant. -/
theorem fenced_draft_is_read :
    ∃ draft : Draft, draft.text = "\x7ba : 1, 'b_2':\n[true, \"x y\",],\x7d".toList ∧
      draft.cell = .record [("a", .int 1), ("b_2", .list [.bool true, .text "x y"])] ∧
      (∀ part ∈ draft.cell.parts, part.HasDistinctNames) ∧ '{' ∉ "Sure:\n```json\n".toList ∧
      draft.isSpaced = true ∧
      read? (.text (String.ofList ("Sure:\n```json\n".toList ++ draft.text ++ "\n```".toList))) =
        some draft.cell := by
  let space : Gap := ⟨[' '], by decide⟩
  let line : Gap := ⟨['\n'], by decide⟩
  let list : Items := .more .nothing (.scalar (.bool true)) .nothing
    (.last space (.scalar (.string "x y".toList (by decide))) .nothing (some .nothing))
  let draft : Draft := .record
    (.more ⟨.nothing, .bare, ⟨['a'], by decide, by decide⟩, space, space⟩
      (.scalar (.int 1 (by decide +kernel))) .nothing
      (.last ⟨space, .single, ⟨"b_2".toList, by decide, by decide⟩, .nothing, line⟩
        (.list list) .nothing (some .nothing)))
  have hcell : draft.cell = .record [("a", .int 1), ("b_2", .list [.bool true, .text "x y"])] := rfl
  have hdistinct : ∀ part ∈ draft.cell.parts, part.HasDistinctNames := by
    rw [hcell]
    simp [Cell.parts, Cell.entryParts, Cell.itemParts, Cell.HasDistinctNames]
  have hbefore : '{' ∉ "Sure:\n```json\n".toList := by decide
  have hspaced : draft.isSpaced = true := by decide
  refine ⟨draft, rfl, hcell, hdistinct, hbefore, hspaced, ?_⟩
  rw [draft_is_read_iff_isSpaced hcell hdistinct hbefore, if_pos hspaced, hcell]

/-- A no-break space after a colon stays, and strict JSON does not know it. -/
theorem no_break_space_is_not_read :
    ∃ draft : Draft, draft.text = ['{', '"', 'a', '"', ':', '\u00a0', '1', '}'] ∧
      draft.cell = .record [("a", .int 1)] ∧
      (∀ part ∈ draft.cell.parts, part.HasDistinctNames) ∧
      read? (.text (String.ofList draft.text)) = none := by
  let draft : Draft := .record (.last
    ⟨.nothing, .double, ⟨['a'], by decide, by decide⟩, .nothing, ⟨['\u00a0'], by decide⟩⟩
    (.scalar (.int 1 (by decide +kernel))) .nothing none)
  have hcell : draft.cell = .record [("a", .int 1)] := rfl
  have hdistinct : ∀ part ∈ draft.cell.parts, part.HasDistinctNames := by
    rw [hcell]
    simp [Cell.parts, Cell.entryParts, Cell.HasDistinctNames]
  have hread : read? (.text (String.ofList draft.text)) = none := by decide +kernel
  exact ⟨draft, rfl, hcell, hdistinct, hread⟩

end SheetQuery.Reply
