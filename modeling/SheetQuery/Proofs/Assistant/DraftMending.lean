import SheetQuery.Proofs.Assistant.Draft
import SheetQuery.Proofs.Assistant.Mending
import SheetQuery.Proofs.Text.SqueezeSearch

/-!
# Mending drafts

The two mendings go through the characters of an object without knowing its structure. On a draft they
do what is meant: the first quotes each key and changes nothing else, the second drops each last comma
and nothing else.

* `Draft.quoteKeys_text`, `Draft.dropTrailingCommas_text`: either mending, in front of any rest that can
  stand after a value;
* `mended_text`: both, on a whole draft.
-/

namespace SheetQuery.Reply

open Json
open Text (isBlank isWordChar)

/-! ## Around values -/

/-- Does a text end, or go on with a comma or a closing bracket, apart from blanks? -/
def EndsValue (cs : List Char) : Prop :=
  ∀ c ∈ (cs.dropWhile isBlank).head?, c = ',' ∨ c = ']' ∨ c = '}'

theorem endsValue_nil : EndsValue [] := by simp [EndsValue]

theorem endsValue_cons {c : Char} (h : c = ',' ∨ c = ']' ∨ c = '}') (cs : List Char) :
    EndsValue (c :: cs) := by
  have hblank : isBlank c = false := by rcases h with rfl | rfl | rfl <;> decide
  intro d hd
  rw [List.dropWhile_cons_of_neg (Bool.eq_false_iff.mp hblank)] at hd
  rwa [← Option.some.inj hd]

theorem EndsValue.gap {cs : List Char} (h : EndsValue cs) (gap : Gap) :
    EndsValue (gap.chars ++ cs) := by
  rwa [EndsValue, List.dropWhile_append_of_pos gap.blank]

theorem endsValue_more (gap : Gap) (cs : List Char) : EndsValue (gap.chars ++ ',' :: cs) :=
  (endsValue_cons (.inl rfl) cs).gap gap

theorem endsValue_last (gap : Gap) (comma : Option Gap) {c : Char} (h : c = ']' ∨ c = '}')
    (cs : List Char) : EndsValue (gap.chars ++ (lastComma comma ++ c :: cs)) := by
  apply EndsValue.gap
  cases comma with
  | none => exact endsValue_cons (.inr h) cs
  | some gap => exact endsValue_cons (.inl rfl) _

/-- What stands after a value starts with a blank, a comma or a closing bracket. -/
theorem EndsValue.head? {cs : List Char} (h : EndsValue cs) {c : Char} (hc : c ∈ cs.head?) :
    isBlank c = true ∨ c = ',' ∨ c = ']' ∨ c = '}' := by
  cases cs with
  | nil => cases hc
  | cons d cs =>
    obtain rfl := Option.some.inj hc
    by_cases hblank : isBlank d = true
    · exact .inl hblank
    · refine .inr (h d ?_)
      rw [List.dropWhile_cons_of_neg hblank]
      rfl

/-! ## Finding keys -/

/-- The characters that a key with the blanks after it is made of. -/
def isKeyChar (c : Char) : Bool := isWordChar c || isBlank c || c == '"' || c == '\''

theorem dropWhile_append_colon {cs : List Char} (h : ∀ c ∈ cs, isKeyChar c = true)
    (rest : List Char) : (cs ++ ':' :: rest).dropWhile isKeyChar = ':' :: rest := by
  rw [List.dropWhile_append_of_pos h]
  exact List.dropWhile_cons_of_neg (by decide)

/-- After a key with its blanks a colon stands, right before the rest. -/
theorem dropWhile_of_key? {before : Option Char} {cs word rest : List Char}
    (h : key? before cs = some (word, rest)) : cs.dropWhile isKeyChar = ':' :: rest := by
  obtain ⟨quotes, blanks, hkey⟩ := exists_key? h
  have hquotes : ∀ c ∈ quotes, isKeyChar c = true := by
    intro c hc
    rcases hkey.quote c hc with rfl | rfl <;> decide
  have hword : ∀ c ∈ word, isKeyChar c = true := fun c hc => by simp [isKeyChar, hkey.plain c hc]
  have hblanks : ∀ c ∈ blanks, isKeyChar c = true := fun c hc => by simp [isKeyChar, hkey.blank c hc]
  rw [hkey.text]
  apply dropWhile_append_colon
  simp only [List.forall_mem_append]
  exact ⟨⟨⟨hquotes, hword⟩, hquotes⟩, hblanks⟩

/-- In a text without colons there is no key if it ends as values do. -/
theorem key?_eq_none {cs rest : List Char} (hcolon : ':' ∉ cs) (hrest : EndsValue rest)
    (before : Option Char) : key? before (cs ++ rest) = none := by
  rw [Option.eq_none_iff_forall_ne_some]
  rintro ⟨word, left⟩ hkey
  have hdrop := dropWhile_of_key? hkey
  rw [List.dropWhile_append] at hdrop
  split at hdrop
  · -- the colon would be the first of the rest that is no blank
    have hsplit := List.takeWhile_append_dropWhile (p := isBlank) (l := rest)
    have hblank : ∀ c ∈ rest.takeWhile isBlank, isKeyChar c = true := by
      intro c hc
      simp [isKeyChar, List.all_eq_true.mp List.all_takeWhile c hc]
    rw [← hsplit, List.dropWhile_append_of_pos hblank] at hdrop
    cases hend : rest.dropWhile isBlank with
    | nil =>
      rw [hend] at hdrop
      cases hdrop
    | cons c tail =>
      have hc := hrest c (by rw [hend]; rfl)
      have hkeychar : isKeyChar c = false := by rcases hc with rfl | rfl | rfl <;> decide
      rw [hend, List.dropWhile_cons_of_neg (Bool.eq_false_iff.mp hkeychar)] at hdrop
      obtain ⟨rfl, -⟩ := List.cons.inj hdrop
      exact absurd hc (by decide)
  · next hne =>
    have hmem : ':' ∈ cs.dropWhile isKeyChar ++ rest := hdrop ▸ List.mem_cons_self
    cases hkept : cs.dropWhile isKeyChar with
    | nil => simp [hkept] at hne
    | cons c tail =>
      rw [hkept, List.cons_append] at hdrop
      obtain ⟨rfl, -⟩ := List.cons.inj hdrop
      exact hcolon ((List.dropWhile_suffix _).subset (hkept ▸ List.mem_cons_self))

theorem takeWord?_name (name : Name) {rest : List Char} (h : rest.head?.any isWordChar = false) :
    takeWord? (name.chars ++ rest) = some (name.chars, rest) := by
  have hspan : (name.chars ++ rest).span isWordChar = (name.chars, rest) := by
    rw [List.span_eq_takeWhile_dropWhile, List.takeWhile_append_of_pos name.plain,
      List.dropWhile_append_of_pos name.plain]
    cases rest with
    | nil => simp
    | cons c rest =>
      have hc : isWordChar c = false := h
      simp [hc]
  rw [takeWord?, hspan]
  split
  · next hnil => exact absurd (Prod.mk.inj hnil).1 name.nonempty
  · rfl

theorem afterColon?_gap (gap : Gap) (rest : List Char) :
    afterColon? (gap.chars ++ ':' :: rest) = some rest := by
  have hdrop : (gap.chars ++ ':' :: rest).dropWhile isBlank = ':' :: rest := by
    rw [List.dropWhile_append_of_pos gap.blank]
    exact List.dropWhile_cons_of_neg (by decide)
  rw [afterColon?, hdrop]
  rfl

/-- No word goes on into blanks before a colon. -/
theorem any_isWordChar_gap (gap : Gap) (rest : List Char) :
    (gap.chars ++ ':' :: rest).head?.any isWordChar = false := by
  cases hchars : gap.chars with
  | nil => exact (by decide : isWordChar ':' = false)
  | cons c chars => exact Text.isWordChar_of_isBlank (gap.blank c (hchars ▸ List.mem_cons_self))

theorem isWordChar_name (name : Name) (rest : List Char) :
    ∃ c tail, name.chars ++ rest = c :: tail ∧ isWordChar c = true := by
  obtain ⟨c, chars, hname⟩ := List.exists_cons_of_ne_nil name.nonempty
  exact ⟨c, chars ++ rest, by rw [hname]; rfl, name.plain c (hname ▸ List.mem_cons_self)⟩

theorem quotedKey?_of_ne {mark c : Char} (h : c ≠ mark) (cs : List Char) :
    quotedKey? mark (c :: cs) = none := by
  rw [quotedKey?, if_neg h]

theorem quotedKey?_name {mark : Char} (hmark : isWordChar mark = false) (name : Name)
    (rest : List Char) : quotedKey? mark (name.chars ++ rest) = none := by
  obtain ⟨c, tail, hname, hc⟩ := isWordChar_name name rest
  rw [hname, quotedKey?_of_ne (ne_of_class hc hmark)]

theorem quotedKey?_marked {mark : Char} (hmark : isWordChar mark = false) (name : Name) (gap : Gap)
    (rest : List Char) :
    quotedKey? mark (mark :: (name.chars ++ mark :: (gap.chars ++ ':' :: rest))) =
      some (name.chars, rest) := by
  have htake : takeWord? (name.chars ++ mark :: (gap.chars ++ ':' :: rest)) =
      some (name.chars, mark :: (gap.chars ++ ':' :: rest)) := takeWord?_name name hmark
  simp [quotedKey?, htake, afterColon?_gap]

theorem bareKey?_name (name : Name) (gap : Gap) (rest : List Char) :
    bareKey? none (name.chars ++ (gap.chars ++ ':' :: rest)) = some (name.chars, rest) := by
  have htake := takeWord?_name name (any_isWordChar_gap gap rest)
  have hboundary : Text.isBoundary none (name.chars ++ (gap.chars ++ ':' :: rest)).head? = true := by
    obtain ⟨c, tail, hname, hc⟩ := isWordChar_name name (gap.chars ++ ':' :: rest)
    rw [hname, List.head?_cons, Text.isBoundary, Option.any_some, hc]
    rfl
  rw [bareKey?, if_pos hboundary, htake, Option.bind_some]
  dsimp only
  rw [afterColon?_gap]
  rfl

/-- A key is found in any quotes. -/
theorem key?_text (quotes : Quotes) (name : Name) (gap : Gap) (rest : List Char) :
    key? none (quotes.text ++ name.chars ++ quotes.text ++ gap.chars ++ ':' :: rest) =
      some (name.chars, rest) := by
  have hdouble : isWordChar '"' = false := by decide
  have hsingle : isWordChar '\'' = false := by decide
  cases quotes with
  | double => simp [key?, Quotes.text, quotedKey?_marked hdouble]
  | single =>
    have hother : ∀ cs, quotedKey? '"' ('\'' :: cs) = none := quotedKey?_of_ne (by decide)
    simp [key?, Quotes.text, quotedKey?_marked hsingle, hother]
  | bare =>
    simp [key?, Quotes.text, quotedKey?_name hdouble, quotedKey?_name hsingle, bareKey?_name]

/-! ## Quoting keys -/

/-- What a key is written as. -/
def keyRewriter : Text.Rewriter := fun before cs =>
  (key? before cs).map fun found => ('"' :: found.1 ++ ['"', ':'], found.2)

theorem quoteKeys_eq (cs : List Char) :
    quoteKeys cs = Text.substituteAfter keyRewriter.scan none 0 cs := by
  rw [quoteKeys, Text.substitute]
  congr 1
  funext before cs
  rw [Text.Rewriter.scan, keyRewriter, Option.map_map]
  rfl

/-- Whether a word goes on does not matter where none can. -/
theorem key?_of_any {before : Option Char} {cs : List Char}
    (h : before.any isWordChar = false ∨ cs.head?.any isWordChar = false) :
    key? before cs = key? none cs := by
  have hbare : bareKey? before cs = bareKey? none cs := by
    rcases h with h | h
    · have hnone : before.any isWordChar = (none : Option Char).any isWordChar := h
      rw [bareKey?, bareKey?, Text.isBoundary_congr hnone]
    · have htake : takeWord? cs = none := by
        cases cs with
        | nil => rfl
        | cons c cs =>
          have hc : isWordChar c = false := h
          simp [takeWord?, List.span_eq_takeWhile_dropWhile, hc]
      simp [bareKey?, htake]
  rw [key?, key?, hbare]

theorem substituteAfter_keyRewriter {before : Option Char} {cs : List Char}
    (h : before.any isWordChar = false ∨ cs.head?.any isWordChar = false) :
    Text.substituteAfter keyRewriter.scan before 0 cs = quoteKeys cs := by
  rw [quoteKeys_eq]
  cases cs with
  | nil => rfl
  | cons c cs =>
    have hscan : keyRewriter.scan before (c :: cs) = keyRewriter.scan none (c :: cs) := by
      rw [Text.Rewriter.scan, Text.Rewriter.scan, keyRewriter, keyRewriter, key?_of_any h]
    rw [Text.substituteAfter, Text.substituteAfter, hscan]

/-- What has no colon, and ends as values do, is kept. -/
theorem quoteKeys_append {cs rest : List Char} (hcolon : ':' ∉ cs) (hrest : EndsValue rest) :
    quoteKeys (cs ++ rest) = cs ++ quoteKeys rest := by
  have hhead : rest.head?.any isWordChar = false := by
    rw [Option.any_eq_false]
    intro c hc
    rcases hrest.head? hc with hblank | rfl | rfl | rfl
    · simp [Text.isWordChar_of_isBlank hblank]
    all_goals decide
  rw [quoteKeys_eq, Text.substituteAfter_append_of_none, substituteAfter_keyRewriter (.inr hhead)]
  intro before tail _ htail
  rw [keyRewriter, key?_eq_none (fun hmem => hcolon (htail.subset hmem)) hrest]
  rfl

/-- A blank or a mark of structure is kept. -/
theorem quoteKeys_cons {c : Char} (hword : isWordChar c = false) (hdouble : c ≠ '"')
    (hsingle : c ≠ '\'') (cs : List Char) : quoteKeys (c :: cs) = c :: quoteKeys cs := by
  have hkey : key? none (c :: cs) = none := by
    have hbare : bareKey? none (c :: cs) = none := by
      simp [bareKey?, Text.isBoundary, hword]
    rw [key?, quotedKey?_of_ne hdouble, quotedKey?_of_ne hsingle, hbare]
    rfl
  have hnone : keyRewriter none (c :: cs) = none := by rw [keyRewriter, hkey]; rfl
  rw [quoteKeys_eq, Text.substituteAfter_of_none hnone,
    substituteAfter_keyRewriter (.inl (Option.any_some.trans hword))]

theorem quoteKeys_gap (gap : Gap) (cs : List Char) :
    quoteKeys (gap.chars ++ cs) = gap.chars ++ quoteKeys cs := by
  obtain ⟨chars, blank⟩ := gap
  induction chars with
  | nil => rfl
  | cons c chars ih =>
    obtain ⟨hc, hchars⟩ := List.forall_mem_cons.mp blank
    rw [List.cons_append, quoteKeys_cons (Text.isWordChar_of_isBlank hc)
      (ne_of_class hc (by decide)) (ne_of_class hc (by decide)), ih hchars]
    rfl

/-- A key is put into double quotes, right before its colon. -/
theorem quoteKeys_key (key : Key) (cs : List Char) :
    quoteKeys (key.text ++ cs) = key.quoted.text ++ quoteKeys cs := by
  have hfound : keyRewriter none (key.quotes.text ++ key.name.chars ++ key.quotes.text ++
      key.inner.chars ++ ':' :: (key.after.chars ++ cs)) =
      some ('"' :: key.name.chars ++ ['"', ':'], key.after.chars ++ cs) := by
    rw [keyRewriter, key?_text]
    rfl
  have hcolon : (some ':').any isWordChar = false := by decide
  have hrewritten := Text.substituteAfter_scan hfound
  rw [← quoteKeys_eq, substituteAfter_keyRewriter (.inl hcolon), quoteKeys_gap] at hrewritten
  calc quoteKeys (key.text ++ cs)
      = key.before.chars ++ quoteKeys (key.quotes.text ++ key.name.chars ++ key.quotes.text ++
          key.inner.chars ++ ':' :: (key.after.chars ++ cs)) := by
        rw [← quoteKeys_gap]
        simp [Key.text]
    _ = key.quoted.text ++ quoteKeys cs := by
        rw [hrewritten]
        simp [Key.text, Key.quoted, Quotes.text, Gap.nothing]

theorem quoteKeys_mark {c : Char} (h : c = '[' ∨ c = '{' ∨ c = ',' ∨ c = ']' ∨ c = '}')
    (cs : List Char) : quoteKeys (c :: cs) = c :: quoteKeys cs := by
  rcases h with rfl | rfl | rfl | rfl | rfl <;>
    exact quoteKeys_cons (by decide) (by decide) (by decide) cs

/-- A scalar holds neither a colon nor a comma. -/
theorem Scalar.not_mem {c : Char} (h : c = ':' ∨ c = ',') : ∀ scalar : Scalar, c ∉ scalar.text
  | null | bool true | bool false => by rcases h with rfl | rfl <;> decide
  | int value _ => by
    rcases h with rfl | rfl <;> exact fun hmem => absurd (mem_intChars hmem) (by decide)
  | string chars plain => by
    have hplain : isTextChar c = false ∧ c ≠ '"' := by rcases h with rfl | rfl <;> decide
    have hchars : c ∉ chars := fun hmem => ne_of_class (plain c hmem) hplain.1 rfl
    simp [text, hchars, hplain.2]

theorem not_mem_gap {c : Char} (hc : isBlank c = false) (gap : Gap) : c ∉ gap.chars :=
  fun hmem => ne_of_class (gap.blank c hmem) hc rfl

theorem quoteKeys_lastComma {c : Char} (h : c = ']' ∨ c = '}') (comma : Option Gap) (cs : List Char) :
    quoteKeys (lastComma comma ++ c :: cs) = lastComma comma ++ c :: quoteKeys cs := by
  have hclose : ∀ cs, quoteKeys (c :: cs) = c :: quoteKeys cs := quoteKeys_mark (.inr (.inr (.inr h)))
  cases comma with
  | none => exact hclose cs
  | some gap =>
    rw [lastComma, List.cons_append, quoteKeys_mark (by simp), quoteKeys_gap, hclose]
    rfl

-- by induction on the draft: each part is quoted in front of the rest of the draft,
-- and what goes on there starts with no word, so that the scan can begin anew
mutual

/-- Quoting the keys of a text that starts with a draft quotes those of the draft. -/
theorem Draft.quoteKeys_text : ∀ (draft : Draft) {rest : List Char}, EndsValue rest →
    quoteKeys (draft.text ++ rest) = draft.quoted.text ++ quoteKeys rest
  | .scalar scalar, rest, hrest => quoteKeys_append (scalar.not_mem (.inl rfl)) hrest
  | .emptyList gap, rest, _ => by
    rw [Draft.emptyList_append, quoteKeys_mark (by simp), quoteKeys_gap, quoteKeys_mark (by simp)]
    simp [Draft.quoted, Draft.map, Draft.text]
  | .emptyRecord gap, rest, _ => by
    rw [Draft.emptyRecord_append, quoteKeys_mark (by simp), quoteKeys_gap, quoteKeys_mark (by simp)]
    simp [Draft.quoted, Draft.map, Draft.text]
  | .list items, rest, _ => by
    rw [Draft.list_append, quoteKeys_mark (by simp), items.quoteKeys_text]
    simp [Draft.quoted, Draft.map, Draft.text]
  | .record fields, rest, _ => by
    rw [Draft.record_append, quoteKeys_mark (by simp), fields.quoteKeys_text]
    simp [Draft.quoted, Draft.map, Draft.text]

theorem Items.quoteKeys_text : ∀ (items : Items) (rest : List Char),
    quoteKeys (items.text ++ ']' :: rest) = (items.map Key.quoted id).text ++ ']' :: quoteKeys rest
  | .last before item after comma, rest => by
    have hend := endsValue_last after comma (c := ']') (.inl rfl) rest
    rw [Items.last_append, quoteKeys_gap, item.quoteKeys_text hend, quoteKeys_gap,
      quoteKeys_lastComma (.inl rfl)]
    simp [Items.map, Items.text, Draft.quoted]
  | .more before item after items, rest => by
    have hend := endsValue_more after (items.text ++ ']' :: rest)
    rw [Items.more_append, quoteKeys_gap, item.quoteKeys_text hend, quoteKeys_gap,
      quoteKeys_mark (by simp), items.quoteKeys_text]
    simp [Items.map, Items.text, Draft.quoted]

theorem Fields.quoteKeys_text : ∀ (fields : Fields) (rest : List Char),
    quoteKeys (fields.text ++ '}' :: rest) =
      (fields.map Key.quoted id).text ++ '}' :: quoteKeys rest
  | .last key value after comma, rest => by
    have hend := endsValue_last after comma (c := '}') (.inr rfl) rest
    rw [Fields.last_append, quoteKeys_key, value.quoteKeys_text hend, quoteKeys_gap,
      quoteKeys_lastComma (.inr rfl)]
    simp [Fields.map, Fields.text, Draft.quoted]
  | .more key value after fields, rest => by
    have hend := endsValue_more after (fields.text ++ '}' :: rest)
    rw [Fields.more_append, quoteKeys_key, value.quoteKeys_text hend, quoteKeys_gap,
      quoteKeys_mark (by simp), fields.quoteKeys_text]
    simp [Fields.map, Fields.text, Draft.quoted]

end

/-! ## Dropping commas -/

/-- Does a text go on, after blanks, with something that is no closing bracket? -/
def Opens (cs : List Char) : Prop :=
  ∃ c tail, cs.dropWhile isBlank = c :: tail ∧ c ≠ '}' ∧ c ≠ ']'

theorem opens_cons {c : Char} (hblank : isBlank c = false) (hrecord : c ≠ '}') (hlist : c ≠ ']')
    (cs : List Char) : Opens (c :: cs) :=
  ⟨c, cs, List.dropWhile_cons_of_neg (Bool.eq_false_iff.mp hblank), hrecord, hlist⟩

theorem Opens.gap {cs : List Char} (h : Opens cs) (gap : Gap) : Opens (gap.chars ++ cs) := by
  rwa [Opens, List.dropWhile_append_of_pos gap.blank]

/-- The recogniser of commas looks at nothing before them. -/
theorem substituteAfter_trailingComma? (before : Option Char) (cs : List Char) :
    Text.substituteAfter (fun _ cs => trailingComma? cs) before 0 cs = dropTrailingCommas cs := by
  rw [dropTrailingCommas, Text.substitute]
  cases cs <;> rfl

theorem dropTrailingCommas_of_none {c : Char} {cs : List Char} (h : trailingComma? (c :: cs) = none) :
    dropTrailingCommas (c :: cs) = c :: dropTrailingCommas cs := by
  rw [dropTrailingCommas, Text.substitute, Text.substituteAfter, h,
    substituteAfter_trailingComma?]

theorem dropTrailingCommas_cons {c : Char} (h : c ≠ ',') (cs : List Char) :
    dropTrailingCommas (c :: cs) = c :: dropTrailingCommas cs := by
  apply dropTrailingCommas_of_none
  unfold trailingComma?
  split
  · next heq => exact absurd (List.cons.inj heq).1 h
  · rfl

theorem dropTrailingCommas_append {cs : List Char} (h : ',' ∉ cs) (rest : List Char) :
    dropTrailingCommas (cs ++ rest) = cs ++ dropTrailingCommas rest := by
  induction cs with
  | nil => rfl
  | cons c cs ih =>
    rw [List.mem_cons, not_or] at h
    rw [List.cons_append, dropTrailingCommas_cons (Ne.symm h.1), ih h.2, List.cons_append]

theorem dropTrailingCommas_gap (gap : Gap) (rest : List Char) :
    dropTrailingCommas (gap.chars ++ rest) = gap.chars ++ dropTrailingCommas rest :=
  dropTrailingCommas_append (not_mem_gap (by decide) gap) rest

/-- A comma before something else than a closing bracket is kept. -/
theorem dropTrailingCommas_comma {cs : List Char} (h : Opens cs) :
    dropTrailingCommas (',' :: cs) = ',' :: dropTrailingCommas cs := by
  obtain ⟨c, tail, hdrop, hrecord, hlist⟩ := h
  apply dropTrailingCommas_of_none
  simp [trailingComma?, List.span_eq_takeWhile_dropWhile, hdrop, hrecord, hlist]

/-- A last comma goes with its gap. -/
theorem dropTrailingCommas_last {c : Char} (h : c = ']' ∨ c = '}') (comma : Option Gap)
    (cs : List Char) :
    dropTrailingCommas (lastComma comma ++ c :: cs) = c :: dropTrailingCommas cs := by
  have hclose : dropTrailingCommas (c :: cs) = c :: dropTrailingCommas cs := by
    have hcomma : c ≠ ',' := by rcases h with rfl | rfl <;> decide
    exact dropTrailingCommas_cons hcomma cs
  cases comma with
  | none => exact hclose
  | some gap =>
    have hblank : isBlank c = false := by rcases h with rfl | rfl <;> decide
    -- the comma, its gap and the bracket are one piece, of which the bracket stays
    have htaken : trailingComma? (',' :: (gap.chars ++ c :: cs)) =
        some (gap.chars.length + 1, [c]) := by
      have htake : (gap.chars ++ c :: cs).takeWhile isBlank = gap.chars := by
        simp [List.takeWhile_append_of_pos gap.blank, hblank]
      have hdrop : (gap.chars ++ c :: cs).dropWhile isBlank = c :: cs := by
        simp [List.dropWhile_append_of_pos gap.blank, hblank]
      simp [trailingComma?, List.span_eq_takeWhile_dropWhile, htake, hdrop, h.symm]
    rw [lastComma, List.cons_append, dropTrailingCommas, Text.substitute, Text.substituteAfter, htaken]
    dsimp only
    rw [Text.substituteAfter_skip, substituteAfter_trailingComma?]
    rfl

theorem Key.not_mem_comma (key : Key) : ',' ∉ key.text := by
  have hname : ',' ∉ key.name.chars := fun hmem =>
    ne_of_class (key.name.plain ',' hmem) (by decide) rfl
  have hquotes : ',' ∉ key.quotes.text := by cases key.quotes <;> decide
  have hgap : ∀ gap : Gap, ',' ∉ gap.chars := not_mem_gap (by decide)
  simp [Key.text, hname, hquotes, hgap]

theorem Key.opens (key : Key) (rest : List Char) : Opens (key.text ++ rest) := by
  rw [key.text_append]
  apply Opens.gap
  cases key.quotes with
  | single => exact opens_cons (by decide) (by decide) (by decide) _
  | double => exact opens_cons (by decide) (by decide) (by decide) _
  | bare =>
    obtain ⟨c, tail, hname, hc⟩ := isWordChar_name key.name
      (key.inner.chars ++ ':' :: (key.after.chars ++ rest))
    rw [Quotes.text, List.nil_append, List.nil_append, hname]
    exact opens_cons (Text.not_isBlank_of_isWordChar hc) (ne_of_class hc (by decide))
      (ne_of_class hc (by decide)) tail

theorem Scalar.opens (scalar : Scalar) (rest : List Char) : Opens (scalar.text ++ rest) := by
  cases scalar with
  | null => exact opens_cons (by decide) (by decide) (by decide) _
  | string chars plain => exact opens_cons (by decide) (by decide) (by decide) _
  | bool value => cases value <;> exact opens_cons (by decide) (by decide) (by decide) _
  | int value short =>
    obtain ⟨c, chars, hchars⟩ := List.exists_cons_of_ne_nil (intChars_ne_nil value)
    have hc : c ∈ intChars value := hchars ▸ List.mem_cons_self
    rw [Scalar.text, hchars]
    refine opens_cons (isBlank_eq_false_of_mem_intChars hc) ?_ ?_ _
    all_goals
      rintro rfl
      exact absurd (mem_intChars hc) (by decide)

/-- A draft starts with no closing bracket. -/
theorem Draft.opens (draft : Draft) (rest : List Char) : Opens (draft.text ++ rest) := by
  cases draft with
  | scalar scalar => exact scalar.opens rest
  | emptyList | list | emptyRecord | record =>
    rw [Draft.text]
    exact opens_cons (by decide) (by decide) (by decide) _

theorem Items.opens (items : Items) (rest : List Char) : Opens (items.text ++ rest) := by
  cases items with
  | last before item after comma | more before item after items =>
    rw [Items.text, List.append_assoc, List.append_assoc, List.append_assoc]
    exact (item.opens _).gap before

theorem Fields.opens (fields : Fields) (rest : List Char) : Opens (fields.text ++ rest) := by
  cases fields with
  | last key value after comma | more key value after fields =>
    rw [Fields.text, List.append_assoc, List.append_assoc, List.append_assoc]
    exact key.opens _

mutual

/-- Dropping the last commas of a text that starts with a draft drops those of the draft. -/
theorem Draft.dropTrailingCommas_text : ∀ (draft : Draft) (rest : List Char),
    dropTrailingCommas (draft.text ++ rest) = draft.untrailed.text ++ dropTrailingCommas rest
  | .scalar scalar, rest => dropTrailingCommas_append (scalar.not_mem (.inr rfl)) rest
  | .emptyList gap, rest => by
    have hgap : ',' ∉ (Draft.emptyList gap).text := by
      simp [Draft.text, not_mem_gap (by decide : isBlank ',' = false)]
    exact dropTrailingCommas_append hgap rest
  | .emptyRecord gap, rest => by
    have hgap : ',' ∉ (Draft.emptyRecord gap).text := by
      simp [Draft.text, not_mem_gap (by decide : isBlank ',' = false)]
    exact dropTrailingCommas_append hgap rest
  | .list items, rest => by
    rw [Draft.list_append, dropTrailingCommas_cons (by decide), items.dropTrailingCommas_text]
    simp [Draft.untrailed, Draft.map, Draft.text]
  | .record fields, rest => by
    rw [Draft.record_append, dropTrailingCommas_cons (by decide), fields.dropTrailingCommas_text]
    simp [Draft.untrailed, Draft.map, Draft.text]

theorem Items.dropTrailingCommas_text : ∀ (items : Items) (rest : List Char),
    dropTrailingCommas (items.text ++ ']' :: rest) =
      (items.map id fun _ => none).text ++ ']' :: dropTrailingCommas rest
  | .last before item after comma, rest => by
    rw [Items.last_append, dropTrailingCommas_gap, item.dropTrailingCommas_text,
      dropTrailingCommas_gap, dropTrailingCommas_last (.inl rfl)]
    simp [Items.map, Items.text, Draft.untrailed, lastComma]
  | .more before item after items, rest => by
    rw [Items.more_append, dropTrailingCommas_gap, item.dropTrailingCommas_text,
      dropTrailingCommas_gap, dropTrailingCommas_comma (items.opens _), items.dropTrailingCommas_text]
    simp [Items.map, Items.text, Draft.untrailed]

theorem Fields.dropTrailingCommas_text : ∀ (fields : Fields) (rest : List Char),
    dropTrailingCommas (fields.text ++ '}' :: rest) =
      (fields.map id fun _ => none).text ++ '}' :: dropTrailingCommas rest
  | .last key value after comma, rest => by
    rw [Fields.last_append, dropTrailingCommas_append key.not_mem_comma,
      value.dropTrailingCommas_text, dropTrailingCommas_gap, dropTrailingCommas_last (.inr rfl)]
    simp [Fields.map, Fields.text, Draft.untrailed, lastComma]
  | .more key value after fields, rest => by
    rw [Fields.more_append, dropTrailingCommas_append key.not_mem_comma,
      value.dropTrailingCommas_text, dropTrailingCommas_gap,
      dropTrailingCommas_comma (fields.opens _), fields.dropTrailingCommas_text]
    simp [Fields.map, Fields.text, Draft.untrailed]

end

/-- Mending a draft quotes its keys and drops its last commas. -/
theorem mended_text (draft : Draft) : mended draft.text = draft.quoted.untrailed.text := by
  have hkeys := draft.quoteKeys_text endsValue_nil
  have hcommas := draft.quoted.dropTrailingCommas_text []
  have hkeysNil : quoteKeys [] = [] := rfl
  have hcommasNil : dropTrailingCommas [] = [] := rfl
  rw [hkeysNil, List.append_nil, List.append_nil] at hkeys
  rw [hcommasNil, List.append_nil, List.append_nil] at hcommas
  rw [mended, hkeys, hcommas]

end SheetQuery.Reply
