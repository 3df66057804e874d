import SheetQuery.Cell.Text
import SheetQuery.Issue

/-!
# Column schemas

What is known of a column without its rows: its name, a guess at the type of its cells and a few
distinct samples. Queries, repair and prompts work with schemas instead of the full data.
-/

namespace SheetQuery

/-- The type guessed for a column. -/
inductive FieldType where
  | number | string | array | boolean | date | unknown
deriving DecidableEq, Repr

namespace FieldType

def all : List FieldType := [number, string, array, boolean, date, unknown]

def name : FieldType → String
  | number => "number"
  | string => "string"
  | array => "array"
  | boolean => "boolean"
  | date => "date"
  | unknown => "unknown"

def ofName? (label : String) : Option FieldType := all.find? fun type => type.name == label

/-- What is said of a value that names no type. -/
def refusal (cell : Cell) : String := String.ofList cell.display ++ " is not a valid FieldType"

end FieldType

/-- A sample value of a column. -/
inductive Sample where
  | text (value : String)
  | int (value : Int)
  | number (value : Binary64)
  | truth (value : Bool)
deriving DecidableEq, Repr

/-- The sample as a cell. -/
def Sample.toCell : Sample → Cell
  | text s => .text s
  | int n => .int n
  | number x => .float x
  | truth b => .bool b

/-- A column: its name, type and samples. -/
structure Field where
  name : String
  type : FieldType
  samples : List Sample
deriving DecidableEq, Repr

/-- The columns of a sheet, in order. -/
abbrev Schema := List Field

/-- The column names of a schema, in order. -/
def Schema.names (schema : Schema) : List String := schema.map Field.name

/-- The column with a given name; if several share it, the last. -/
def Schema.find? (schema : Schema) (name : String) : Option Field :=
  schema.reverse.find? fun field => field.name == name

namespace Field

/-- The field as a record, for output. -/
def toCell (field : Field) : Cell :=
  .record [("name", .text field.name), ("type", .text field.type.name),
    ("samples", .list (field.samples.map Sample.toCell))]

/-- Checks a sample: a text, an integer, a number or a truth value. -/
def checkSample (cell : Cell) : Checked Sample :=
  match cell with
  | .text s => .ok (.text s)
  | .int n => .ok (.int n)
  | .float x => .ok (.number x)
  | .bool b => .ok (.truth b)
  | _ =>
    .error [⟨.notText, [.name "str"], cell⟩, ⟨.notInteger, [.name "int"], cell⟩,
      ⟨.notNumber, [.name "float"], cell⟩, ⟨.notTruth, [.name "bool"], cell⟩]

/-- Checks a column name. -/
def checkName (whole : Cell) : Option Cell → Checked String
  | some (.text s) => .ok s
  | some other => .fail .notText other
  | none => .fail .missing whole

/-- Checks a type label; an unknown label means an unknown type. -/
def checkType : Option Cell → Checked FieldType
  | some (.text s) => .ok ((FieldType.ofName? s).getD .unknown)
  | some other => .fail (.notMember (FieldType.all.map FieldType.name)) other
  | none => .ok .unknown

def checkSamples : Option Cell → Checked (List Sample)
  | some (.list items) => Checked.each checkSample 0 items
  | some other => .fail .notList other
  | none => .ok []

/-- Checks a column description. Further entries are ignored. -/
def check (cell : Cell) : Checked Field :=
  match cell with
  | .record entries =>
    let name := (checkName cell (Entries.get? entries "name")).under (.name "name")
    let type := (checkType (Entries.get? entries "type")).under (.name "type")
    let samples := (checkSamples (Entries.get? entries "samples")).under (.name "samples")
    match name.both (type.both samples) with
    | .ok (name, type, samples) => .ok ⟨name, type, samples⟩
    | .error issues => .error issues
  | _ => .fail (.notModel "FieldSchema") cell

end Field

end SheetQuery
