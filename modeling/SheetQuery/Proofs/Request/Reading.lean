import Mathlib.Data.List.Forall2
import SheetQuery.Proofs.Filter.Wire
import SheetQuery.Request

/-!
# Requests that are read

What a payload must look like to be read as a request, entry by entry, without the issues that are
reported otherwise.

* `Field.check_eq_ok_iff`: the descriptions of columns;
* `Request.check_eq_ok_iff`: requests.
-/

namespace SheetQuery

/-- Members that are checked side by side pass if each of them does. -/
theorem Checked.each_eq_ok_iff {α β : Type} {check : α → Checked β} {as : List α} {bs : List β}
    {index : Nat} :
    each check index as = .ok bs ↔ List.Forall₂ (fun a b => check a = .ok b) as bs := by
  induction as generalizing index bs with
  | nil => simp [each, eq_comm]
  | cons a as ih =>
    rw [each, List.forall₂_cons_left_iff]
    constructor
    · intro h
      split at h
      · next b rest hboth =>
        obtain ⟨hcheck, hrest⟩ := both_eq_ok_iff.mp hboth
        exact ⟨b, rest, under_eq_ok_iff.mp hcheck, ih.mp hrest, (Except.ok.inj h).symm⟩
      · cases h
    · rintro ⟨b, rest, hcheck, hrest, rfl⟩
      rw [both_eq_ok_iff.mpr ⟨under_eq_ok_iff.mpr hcheck, ih.mpr hrest⟩]

/-! ## Columns -/

namespace Field

theorem checkSample_eq_ok_iff {cell : Cell} {sample : Sample} :
    checkSample cell = .ok sample ↔ sample.toCell = cell := by
  cases cell <;> cases sample <;> simp [checkSample, Sample.toCell, eq_comm]

/-- Do the entries of a record describe the given column? A type that is missing or unheard of is
unknown, and without samples there are none. -/
structure Describes (entries : Entries) (field : Field) : Prop where
  name : Entries.get? entries "name" = some (.text field.name)
  type : (Entries.get? entries "type" = none ∧ field.type = .unknown) ∨
    ∃ label, Entries.get? entries "type" = some (.text label) ∧
      (FieldType.ofName? label).getD .unknown = field.type
  samples : (Entries.get? entries "samples" = none ∧ field.samples = []) ∨
    Entries.get? entries "samples" = some (.list (field.samples.map Sample.toCell))

theorem checkName_eq_ok_iff {whole : Cell} {found : Option Cell} {name : String} :
    checkName whole found = .ok name ↔ found = some (.text name) := by
  unfold checkName
  split <;> simp_all [Checked.fail]

theorem checkType_eq_ok_iff {found : Option Cell} {type : FieldType} :
    checkType found = .ok type ↔ (found = none ∧ type = .unknown) ∨
      ∃ label, found = some (.text label) ∧ (FieldType.ofName? label).getD .unknown = type := by
  unfold checkType
  split <;> simp_all [Checked.fail, eq_comm]

theorem checkSamples_eq_ok_iff {found : Option Cell} {samples : List Sample} :
    checkSamples found = .ok samples ↔ (found = none ∧ samples = []) ∨
      found = some (.list (samples.map Sample.toCell)) := by
  have hitems : ∀ {items : List Cell}, Checked.each checkSample 0 items = .ok samples ↔
      items = samples.map Sample.toCell := by
    intro items
    simp only [Checked.each_eq_ok_iff, checkSample_eq_ok_iff]
    rw [← List.forall₂_eq_eq_eq, List.forall₂_map_right_iff]
    simp only [eq_comm]
  unfold checkSamples
  split
  · simp [hitems]
  · next other hlist =>
    simpa [Checked.fail] using hlist (samples.map Sample.toCell)
  · simp [eq_comm]

/-- A column is read from a record that describes it. -/
theorem check_eq_ok_iff {cell : Cell} {field : Field} :
    check cell = .ok field ↔ ∃ entries, cell = .record entries ∧ Describes entries field := by
  cases cell with
  | record entries =>
    rw [check]
    -- the three checks are made whatever the others say, so they are taken as one
    generalize hparts : (Checked.under (.name "name") _).both _ = parts
    -- the parts of a column are checked side by side, and put together if all of them pass
    have hdescribes : parts = .ok (field.name, field.type, field.samples) ↔
        Describes entries field := by
      rw [← hparts, Checked.both_eq_ok_iff, Checked.both_eq_ok_iff, Checked.under_eq_ok_iff,
        Checked.under_eq_ok_iff, Checked.under_eq_ok_iff, checkName_eq_ok_iff, checkType_eq_ok_iff,
        checkSamples_eq_ok_iff]
      constructor
      · rintro ⟨hname, htype, hsamples⟩
        exact ⟨hname, htype, hsamples⟩
      · rintro ⟨hname, htype, hsamples⟩
        exact ⟨hname, htype, hsamples⟩
    simp only [Cell.record.injEq, exists_eq_left', ← hdescribes]
    cases parts with
    | error issues => simp
    | ok found =>
      obtain ⟨name, type, samples⟩ := found
      cases field
      simp
  | _ => simp [check, Checked.fail]

end Field

/-! ## Requests -/

namespace Request

/-- Do the entries of a record make the given request? Its text is trimmed and must not be blank, and
its columns may be missing. -/
structure IsMadeOf (entries : Entries) (request : Request) : Prop where
  entity : Entries.get? entries "entity" = some (.text request.entity.name)
  text : ∃ s, Entries.get? entries "text" = some (.text s) ∧
    Text.trimWith Text.isWhiteSpace s.toList = request.text.toList ∧ request.text ≠ ""
  schema : (Entries.get? entries "schema" = none ∧ Entries.get? entries "columns" = none ∧
      request.schema = []) ∨
    ∃ items, (Entries.get? entries "schema").or (Entries.get? entries "columns") =
        some (.list items) ∧
      List.Forall₂ (fun item field => ∃ described, item = .record described ∧
        Field.Describes described field) items request.schema

theorem checkEntity_eq_ok_iff {whole : Cell} {found : Option Cell} {entity : Entity} :
    checkEntity whole found = .ok entity ↔ found = some (.text entity.name) := by
  have hname : ∀ {label : String}, Entity.ofName? label = some entity ↔ label = entity.name := by
    intro label
    constructor
    · intro h
      exact (by simpa using List.find?_some h : entity.name = label).symm
    · rintro rfl
      exact Entity.ofName?_name entity
  unfold checkEntity
  split
  · simp [Checked.fail]
  · next cell =>
    cases cell with
    | text label =>
      rw [Entity.ofCell?, Option.some.injEq, Cell.text.injEq, ← hname]
      cases Entity.ofName? label <;> simp [Checked.fail]
    | _ => simp [Entity.ofCell?, Checked.fail]

theorem checkText_eq_ok_iff {whole : Cell} {found : Option Cell} {text : String} :
    checkText whole found = .ok text ↔ ∃ s, found = some (.text s) ∧
      Text.trimWith Text.isWhiteSpace s.toList = text.toList ∧ text ≠ "" := by
  unfold checkText
  split
  · simp [Checked.fail]
  · next s =>
    split
    · next hblank =>
      simp only [Checked.fail, reduceCtorEq, false_iff]
      rintro ⟨other, hother, htrimmed, hne⟩
      cases hother
      exact hne (String.toList_eq_nil_iff.mp (htrimmed.symm.trans hblank))
    · next hne =>
      rw [Except.ok.injEq]
      constructor
      · rintro rfl
        refine ⟨s, rfl, String.toList_ofList.symm, fun hempty => hne ?_⟩
        rwa [← String.toList_eq_nil_iff, String.toList_ofList] at hempty
      · rintro ⟨other, hother, htrimmed, -⟩
        cases hother
        rw [htrimmed, String.ofList_toList]
  · next other htext =>
    simp only [Checked.fail, reduceCtorEq, false_iff]
    rintro ⟨s, hs, -⟩
    exact htext s (Option.some.inj hs)

theorem checkSchema_eq_ok_iff {cell : Cell} {schema : Schema} :
    checkSchema cell = .ok schema ↔ ∃ items, cell = .list items ∧
      List.Forall₂ (fun item field => ∃ described, item = .record described ∧
        Field.Describes described field) items schema := by
  cases cell <;> simp [checkSchema, Checked.fail, Checked.each_eq_ok_iff, Field.check_eq_ok_iff]

/-- The columns are those of the entry `schema`, in the absence of one of the entry `columns`. -/
theorem checkColumns_eq_ok_iff {entries : Entries} {schema : Schema} :
    (match columnsName entries with
      | some name => (checkSchema ((Entries.get? entries name).getD .null)).under (.name name)
      | none => .ok []) = .ok schema ↔
    (Entries.get? entries "schema" = none ∧ Entries.get? entries "columns" = none ∧ schema = []) ∨
      ∃ items, (Entries.get? entries "schema").or (Entries.get? entries "columns") =
          some (.list items) ∧
        List.Forall₂ (fun item field => ∃ described, item = .record described ∧
          Field.Describes described field) items schema := by
  unfold columnsName
  cases hschema : Entries.get? entries "schema" with
  | some cell => simp [hschema, checkSchema_eq_ok_iff]
  | none =>
    cases hcolumns : Entries.get? entries "columns" with
    | some cell => simp [hschema, hcolumns, checkSchema_eq_ok_iff]
    | none => simp [hschema, hcolumns, eq_comm]

/-- A request is read from a record that makes it. -/
theorem check_eq_ok_iff {payload : Cell} {request : Request} :
    check payload = .ok request ↔
      ∃ entries, payload = .record entries ∧ IsMadeOf entries request := by
  cases payload with
  | record entries =>
    rw [check]
    generalize hparts : (Checked.under (.name "entity") _).both _ = parts
    have hmakes : parts = .ok (request.entity, request.text, request.schema) ↔
        IsMadeOf entries request := by
      rw [← hparts, Checked.both_eq_ok_iff, Checked.both_eq_ok_iff, Checked.under_eq_ok_iff,
        Checked.under_eq_ok_iff, checkEntity_eq_ok_iff, checkText_eq_ok_iff]
      constructor
      · rintro ⟨hentity, htext, hschema⟩
        exact ⟨hentity, htext, checkColumns_eq_ok_iff.mp hschema⟩
      · rintro ⟨hentity, htext, hschema⟩
        exact ⟨hentity, htext, checkColumns_eq_ok_iff.mpr hschema⟩
    simp only [Cell.record.injEq, exists_eq_left', ← hmakes]
    cases parts with
    | error issues => simp
    | ok found =>
      obtain ⟨entity, text, schema⟩ := found
      cases request
      simp
  | _ => simp [check, Checked.fail]

end Request

end SheetQuery
