import SheetQuery.Schema.Basic
import SheetQuery.Cell.Tokens
import SheetQuery.Cell.Display
import SheetQuery.Date.Reading

/-!
# Schema inference

The schema of a list of rows. Only the first `scanLimit` rows are looked at; null cells say nothing.

* One list-like cell makes a column an array.
* Number and boolean need the agreement of all cells.
* One date among other texts makes a date column.
* Samples are the distinct renderings of the cells, in order, up to a maximum.
-/

namespace SheetQuery

namespace Schema

/-- How many rows are looked at. -/
def scanLimit : Nat := 200

/-- Adds to `names` the new ones of `more`, in order. -/
def mergeNames (names more : List String) : List String :=
  more.foldl (fun names name => if names.contains name then names else names ++ [name]) names

/-- The column names of some rows, each once, in the order they first appear. -/
def columnNames (rows : List Row) : List String :=
  rows.foldl (fun names row => mergeNames names (row.map Prod.fst)) []

end Schema

namespace FieldType

/-- The type of a column with the given cells, none of them null. -/
def classify (cells : List Cell) : FieldType :=
  if cells.isEmpty then .unknown
  else if cells.any Cell.isListLike then .array
  else if cells.all fun cell => cell.number?.isSome then .number
  else if cells.all fun cell => cell.truth?.isSome then .boolean
  else if cells.any Cell.isDate then .date
  else .string

end FieldType

/-- The sample that stands for a cell of a column of the given type. -/
def Sample.ofCell (type : FieldType) (cell : Cell) : Sample :=
  match type with
  | .array =>
    match cell with
    | .list _ => .text (String.ofList (Json.print cell))
    | other => .text other.plain
  | .number =>
    match cell.number? with
    | some x => if x.isWhole then .int x.toInt else .number (.finite x)
    | none => .text cell.rendered
  | .boolean => .truth (cell.truth?.getD false)
  | _ => .text cell.rendered

namespace Schema

/-- Keeps the first occurrence of each sample. -/
def distinct : List Sample → List Sample
  | [] => []
  | sample :: samples => sample :: (distinct samples).filter (· ≠ sample)

/-- The cells of a column that are not null. -/
def columnCells (rows : List Row) (name : String) : List Cell :=
  (rows.map fun row => row.cell name).filter fun
    | .null => false
    | _ => true

/-- The field inferred for one column. -/
def inferField (rows : List Row) (maxSamples : Nat) (name : String) : Field :=
  let cells := columnCells rows name
  let type := FieldType.classify cells
  ⟨name, type, (distinct (cells.map (Sample.ofCell type))).take maxSamples⟩

/-- The schema of a list of rows, with at most `maxSamples` samples per column. -/
def infer (rows : List Row) (maxSamples : Nat) : Schema :=
  let scanned := rows.take scanLimit
  (columnNames scanned).map (inferField scanned maxSamples)

end Schema

end SheetQuery
