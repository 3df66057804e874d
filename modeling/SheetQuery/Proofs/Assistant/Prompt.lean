import SheetQuery.Assistant.Prompt
import SheetQuery.Proofs.Json.Reading
import SheetQuery.Proofs.Text.Trim

/-!
# What stands in a prompt

The column names and the query of a prompt stand in it as JSON texts, each within one line of its own.
The other lines are the same for all column names and queries: JSON texts have no line feeds in them,
the template is cut into its parts before anything is put in, and what is trimmed off at the end is a
line feed after the query.

* `template_eq`: the parts of the template;
* `toList_user`: the characters of a prompt;
* `lines_user`: its lines;
* `user_keeps_slots`: what is put in can be read back, and nothing else depends on it.
-/

namespace SheetQuery

namespace Template

variable {σ : Type} (values : σ → List Char)

@[simp] theorem fill_append (parts parts' : List (Part σ)) :
    fill values (parts ++ parts') = fill values parts ++ fill values parts' :=
  List.flatMap_append

@[simp] theorem fill_plain (c : Char) (parts : List (Part σ)) :
    fill values (.plain c :: parts) = c :: fill values parts := rfl

@[simp] theorem fill_map_plain (cs : List Char) : fill values (cs.map .plain) = cs := by
  rw [fill, List.flatMap_map]
  exact List.flatMap_singleton' cs

@[simp] theorem fill_slot (place : σ) (parts : List (Part σ)) :
    fill values (.slot place :: parts) = values place ++ fill values parts := rfl

@[simp] theorem fill_nil : fill values ([] : List (Part σ)) = [] := rfl

end Template

namespace Json

/-! ## JSON texts on one line -/

theorem newline_notMem_escapeChar (c : Char) : '\n' ∉ escapeChar c := by
  have hhex : ∀ n < 16, '\n' ≠ hexDigit n := by decide
  rcases escapeChar_cases c with ⟨letter, hletter, hprint⟩ | ⟨hlow, hprint⟩ |
    ⟨-, -, hprintable, hprint⟩
  · rw [hprint]
    have hne : '\n' ≠ letter := by
      rintro rfl
      cases hletter
    simp [hne]
  · rw [hprint]
    simp [hhex (c.toNat / 16) (by omega), hhex (c.toNat % 16) (by omega)]
  · rw [hprint, List.mem_singleton]
    rintro rfl
    exact absurd hprintable (by decide)

theorem newline_notMem_quote (s : String) : '\n' ∉ quote s := by
  simp [quote, newline_notMem_escapeChar]

theorem newline_notMem_printItems (texts : List String) :
    '\n' ∉ printItems (texts.map .text) := by
  induction texts with
  | nil => simp [printItems]
  | cons s texts ih =>
    cases texts with
    | nil => exact newline_notMem_quote s
    | cons next texts =>
      rw [List.map_cons, List.map_cons, printItems, List.mem_append, List.mem_append]
      rintro ((h | h) | h)
      · exact newline_notMem_quote s h
      · exact absurd h (by decide)
      · exact ih h

theorem isTrimmed_quote (s : String) : Text.IsTrimmed Text.isBlank (quote s) := by
  have hlast : (quote s).getLast? = some '"' := List.getLast?_concat
  constructor
  · simp [quote, Text.isBlank]
  · simp [hlast, Text.isBlank]

theorem read_quote (s : String) : read (quote s) = .ok (.text s) := by
  have hwrites : Writes (.text s) (quote s) :=
    writes_print (by simp [Cell.parts, Cell.IsExact])
  exact read_of_writes hwrites (by simp [Cell.parts, Cell.HasDistinctNames])
    (by simp [Cell.parts, Cell.IsShort])

theorem mem_itemParts_texts {texts : List String} {part : Cell}
    (h : part ∈ Cell.itemParts (texts.map .text)) : ∃ s, part = .text s := by
  induction texts with
  | nil => cases h
  | cons s texts ih =>
    rw [List.map_cons, Cell.itemParts, List.mem_append] at h
    rcases h with h | h
    · exact ⟨s, List.mem_singleton.mp h⟩
    · exact ih h

theorem read_print_texts (texts : List String) :
    read (print (.list (texts.map .text))) = .ok (.list (texts.map .text)) := by
  have hparts : ∀ part ∈ (Cell.list (texts.map .text)).parts,
      part = .list (texts.map .text) ∨ ∃ s, part = .text s := by
    intro part hpart
    rcases List.mem_cons.mp hpart with rfl | hpart
    · exact .inl rfl
    · exact .inr (mem_itemParts_texts hpart)
  refine read_of_writes (writes_print fun part hpart => ?_) (fun part hpart => ?_)
    fun part hpart => ?_
  all_goals
    obtain rfl | ⟨s, rfl⟩ := hparts part hpart <;> trivial

end Json

namespace Prompt

/-! ## The template -/

def beforeEntity : List Char :=
  joined (shape ++ ["", "STRICT RULES:", "- Target entity is \""])

/-- What the line of the column names starts with. -/
def columnLead : List Char := "- Use ONLY these column names: ".toList

def beforeQuery : List Char := joined (rules.drop 3 ++ ["", "User query:"])

theorem template_eq : template =
    beforeEntity.map .plain ++ .slot .entity ::
      ("\".".toList ++ '\n' :: columnLead).map .plain ++ .slot .columns ::
        ('\n' :: beforeQuery ++ ['\n']).map .plain ++ .slot .query :: ['\n'].map .plain :=
  Option.get_of_eq_some _ (by decide +kernel)

theorem fill_template (values : Slot → List Char) : Template.fill values template =
    beforeEntity ++ values .entity ++ "\".".toList ++ '\n' :: (columnLead ++ values .columns) ++
      '\n' :: beforeQuery ++ '\n' :: values .query ++ ['\n'] := by
  rw [template_eq]
  simp

/-! ## The prompt -/

/-- The lines of a text. -/
def lines (text : String) : List (List Char) := Text.splitWhere (· == '\n') text.toList

/-- What stands before the line of the column names. -/
def opening (entity : String) : List Char := beforeEntity ++ entity.toList ++ "\".".toList

/-- What stands after the line of the query, if the prompt has worked examples. -/
def closing (withExamples : Bool) : List Char :=
  if withExamples then '\n' :: '\n' :: joined examples else []

/-- The characters of a prompt. -/
theorem toList_user (entity : String) (columns : List String) (query : String)
    (withExamples : Bool) : (user entity columns query withExamples).toList =
      opening entity ++ '\n' :: (columnLead ++ Json.print (.list (columns.map .text))) ++
        '\n' :: beforeQuery ++ '\n' :: (Json.quote query ++ closing withExamples) := by
  let filled := opening entity ++ '\n' :: (columnLead ++ Json.print (.list (columns.map .text))) ++
    '\n' :: beforeQuery ++ '\n' :: Json.quote query
  have hhead : beforeEntity.head? = some 'R' := by decide +kernel
  -- the text starts with the template's first letter and ends with a quotation mark
  have hfirst : filled.head? = some 'R' := by simp [filled, opening, List.head?_append, hhead]
  have hlast : filled.getLast? = (Json.quote query).getLast? := by
    rw [List.getLast?_append_of_ne_nil _ (by simp)]
    exact List.getLast?_append_of_ne_nil ['\n'] (by simp)
  have hfilled : Text.IsTrimmed Text.isBlank filled := by
    constructor
    · simp [hfirst, Text.isBlank]
    · rw [hlast]
      exact (Json.isTrimmed_quote query).2
  have hfill : Template.fill (value entity columns query) template = filled ++ ['\n'] := by
    rw [fill_template]
    simp only [filled, opening, value, Json.print, Json.scalar]
  have htrim : Text.trim (filled ++ ['\n']) = filled := by
    rw [Text.trim, Text.trimWith_append_right (by decide), Text.trimWith_of_isTrimmed hfilled]
  rw [user, hfill, htrim, String.toList_ofList]
  simp [filled, closing]

theorem splitWhere_of_notMem {cs : List Char} (h : '\n' ∉ cs) :
    Text.splitWhere (· == '\n') cs = [cs] :=
  Text.splitWhere_of_forall_not fun _ hc => beq_false_of_ne fun heq => h (heq ▸ hc)

theorem exists_lines_closing (withExamples : Bool) : ∃ below, ∀ query,
    Text.splitWhere (· == '\n') (Json.quote query ++ closing withExamples) =
      Json.quote query :: below := by
  cases withExamples with
  | false =>
    refine ⟨[], fun query => ?_⟩
    rw [closing, if_neg Bool.false_ne_true, List.append_nil]
    exact splitWhere_of_notMem (Json.newline_notMem_quote query)
  | true =>
    refine ⟨Text.splitWhere (· == '\n') ('\n' :: joined examples), fun query => ?_⟩
    rw [closing, if_pos rfl, Text.splitWhere_append_cons rfl,
      splitWhere_of_notMem (Json.newline_notMem_quote query)]
    rfl

/-- The lines of a prompt: those before and after the two slots depend on the entity and the variant
only. -/
theorem exists_lines_user (entity : String) (withExamples : Bool) :
    ∃ above between below, ∀ columns query, lines (user entity columns query withExamples) =
      above ++ (columnLead ++ Json.print (.list (columns.map .text))) ::
        (between ++ Json.quote query :: below) := by
  obtain ⟨below, hbelow⟩ := exists_lines_closing withExamples
  refine ⟨Text.splitWhere (· == '\n') (opening entity), Text.splitWhere (· == '\n') beforeQuery,
    below, fun columns query => ?_⟩
  have hcolumns : '\n' ∉ columnLead ++ Json.print (.list (columns.map .text)) := by
    have hlead : '\n' ∉ columnLead := by decide
    simp [Json.print, hlead, Json.newline_notMem_printItems]
  rw [lines, toList_user, Text.splitWhere_append_cons rfl, Text.splitWhere_append_cons rfl,
    Text.splitWhere_append_cons rfl, splitWhere_of_notMem hcolumns, hbelow]
  simp

theorem count_newline (text : String) : text.toList.count '\n' + 1 = (lines text).length := by
  rw [lines, Text.length_splitWhere]
  rfl

/-- Different column names or queries have different JSON texts. -/
theorem print_texts_inj {columns columns' : List String}
    (h : Json.print (.list (columns.map .text)) = Json.print (.list (columns'.map .text))) :
    columns = columns' := by
  have hread := Json.read_print_texts columns
  rw [h, Json.read_print_texts] at hread
  have hcells : columns'.map Cell.text = columns.map .text := by simpa using hread
  exact (List.map_injective_iff.mpr (fun _ _ => Cell.text.inj) hcells).symm

theorem quote_inj {query query' : String} (h : Json.quote query = Json.quote query') :
    query = query' := by
  have hread := Json.read_quote query
  rw [h, Json.read_quote] at hread
  exact (by simpa using hread : query' = query).symm

/-- **Column names and queries stay in their slots.** For each entity and variant there are lines
above, between and below such that every prompt is made of them, of one line with the JSON text of the
column names, and of one with that of the query. So all these prompts have equally many line feeds,
both JSON texts are read as what was put in, and prompts differ if column names or queries do. -/
theorem user_keeps_slots (entity : String) (withExamples : Bool) :
    ∃ above between below : List (List Char),
      (∀ columns query, lines (user entity columns query withExamples) =
        above ++ (columnLead ++ Json.print (.list (columns.map .text))) ::
          (between ++ Json.print (.text query) :: below)) ∧
      (∀ columns query, (user entity columns query withExamples).toList.count '\n' =
        above.length + between.length + below.length + 1) ∧
      (∀ columns : List String, Json.read (Json.print (.list (columns.map .text))) =
        .ok (.list (columns.map .text))) ∧
      (∀ query, Json.read (Json.print (.text query)) = .ok (.text query)) ∧
      ∀ columns query columns' query',
        user entity columns query withExamples = user entity columns' query' withExamples ↔
          columns = columns' ∧ query = query' := by
  obtain ⟨above, between, below, hlines⟩ := exists_lines_user entity withExamples
  refine ⟨above, between, below, hlines, fun columns query => ?_, Json.read_print_texts,
    Json.read_quote, fun columns query columns' query' => ⟨fun heq => ?_, ?_⟩⟩
  · have hcount := count_newline (user entity columns query withExamples)
    rw [hlines] at hcount
    simp only [List.length_append, List.length_cons] at hcount
    omega
  · -- the lines around the slots are the same in both and cancel
    have hsame : lines (user entity columns query withExamples) =
        lines (user entity columns' query' withExamples) := by rw [heq]
    rw [hlines, hlines] at hsame
    obtain ⟨hcolumns, hrest⟩ := List.cons.inj (List.append_cancel_left hsame)
    obtain ⟨hquery, -⟩ := List.cons.inj (List.append_cancel_left hrest)
    exact ⟨print_texts_inj (List.append_cancel_left hcolumns), quote_inj hquery⟩
  · rintro ⟨rfl, rfl⟩
    rfl

end Prompt

end SheetQuery
