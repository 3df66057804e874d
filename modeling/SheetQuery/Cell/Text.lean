import SheetQuery.Cell.Basic
import SheetQuery.Json.Printer
import SheetQuery.Numeric.Numeral
import SheetQuery.Text.Case
import SheetQuery.Text.Trim

/-!
# Cells as text and as numbers

The readings of a loosely typed cell that filters compare.

* `render`: the text a cell is shown with;
* `key`: that text trimmed and lower-cased, for comparisons that ignore case;
* `number?`: the finite number a cell stands for, be it native or written as text;
* `truth?`: the truth value it stands for;
* `castNumeral`: a text that reads as a number, turned into one.
-/

namespace SheetQuery.Cell

mutual

/-- The text a cell is shown with: nothing for null, a whole number without a point, the items of a
list joined by commas, and JSON for a record. -/
def render : Cell → List Char
  | null => []
  | bool true => "true".toList
  | bool false => "false".toList
  | int n => intChars n
  | float (.finite x) => if x.isWhole then intChars x.toInt else x.render
  | float x => x.render
  | text s => s.toList
  | list items => renderItems items
  | record entries => Json.print (record entries)

/-- The texts of a list of cells, joined by commas. -/
def renderItems : List Cell → List Char
  | [] => []
  | [item] => render item
  | item :: next :: items => render item ++ ',' :: renderItems (next :: items)

end

/-- `render` as a string. -/
def rendered (cell : Cell) : String := String.ofList cell.render

/-- The text of a cell, trimmed and lower-cased. -/
def key (cell : Cell) : String := String.ofList (Text.lower (Text.trim cell.render))

/-- The finite number that a text reads as. -/
def numberOfText? (cs : List Char) : Option Number :=
  (Numeral.readBinary64? (Text.trim cs)).bind Binary64.finite?

/-- The finite number a cell stands for. Truth values and blank texts are no numbers. -/
def number? : Cell → Option Number
  | int n => Binary64.ofInt? n
  | float x => x.finite?
  | text s => numberOfText? s.toList
  | _ => none

/-- The cell that a text reads as: an integer if it reads as one, else a finite number. -/
def ofNumeral? (cs : List Char) : Option Cell :=
  match Numeral.readInteger? (Text.trim cs) with
  | some n => some (int n)
  | none => (numberOfText? cs).map fun x => float (.finite x)

/-- A text that reads as a number becomes that number; any other cell stays as it is. -/
def castNumeral : Cell → Cell
  | text s => (ofNumeral? s.toList).getD (text s)
  | cell => cell

/-- The truth value a cell stands for: its own, or the one its text names. -/
def truth? : Cell → Option Bool
  | bool b => some b
  | cell =>
    if cell.key == "true" then some true else if cell.key == "false" then some false else none

end SheetQuery.Cell
