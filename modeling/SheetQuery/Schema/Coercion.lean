import SheetQuery.Cell.Tokens
import SheetQuery.Date.Reading
import SheetQuery.Schema.Basic

/-!
# Fitting operands to column types

An operand written loosely (a number as text, a list as text, a date in words) is turned into a
value of the type guessed for its column. What does not fit stays as it is.
-/

namespace SheetQuery

/-- The items of a cell taken as a list: its own, those that its text encodes, or its pieces between
commas and semicolons. -/
def Cell.items : Cell → List Cell
  | .list items => items
  | cell =>
    match Cell.listOfText? cell.render with
    | some items => items
    | none => (Cell.pieces (Text.trim cell.render)).map fun piece =>
        (Cell.text (String.ofList piece)).castNumeral

/-- A cell that is a text standing for a number becomes the number. -/
def Cell.fitNumber (cell : Cell) : Cell :=
  match cell, cell.number? with
  | .text _, some _ => cell.castNumeral
  | _, _ => cell

/-- Fits an operand to a column type. -/
def FieldType.coerce : FieldType → Cell → Cell
  | number, cell => cell.fitNumber
  | boolean, cell => (cell.truth?.map Cell.bool).getD cell
  | array, cell => .list cell.items
  | date, cell => (cell.isoDate?.map Cell.text).getD cell
  | string, cell => cell
  | unknown, cell => cell

end SheetQuery
