import SheetQuery.Date.Iso
import SheetQuery.Date.Spoken
import SheetQuery.Cell.Basic

/-!
# Dates in cells

Which texts are taken for dates, and the ISO form they are normalised to. Long texts and texts
without a digit are never dates.
-/

namespace SheetQuery.Cell

/-- Longer texts are not looked at. -/
def maxDateLength : Nat := 40

/-- The trimmed text of a cell, if it may be a date at all. -/
def dateText? : Cell → Option (List Char)
  | text s =>
    let trimmed := Text.trim s.toList
    if trimmed.length ≤ maxDateLength && trimmed.any Text.isDigit then some trimmed else none
  | _ => none

/-- The point in time a cell names. -/
def timestamp? (cell : Cell) : Option Timestamp := do
  let cs ← cell.dateText?
  (Timestamp.readIso? cs).orElse fun _ => Spoken.read? cs

/-- Does the cell name a point in time, be it only relative to the present? -/
def isDate (cell : Cell) : Bool :=
  cell.timestamp?.isSome || cell.dateText?.any Spoken.isSpan

/-- The ISO form of the point in time a cell names. -/
def isoDate? (cell : Cell) : Option String :=
  cell.timestamp?.map fun t => String.ofList t.renderShort

end SheetQuery.Cell
