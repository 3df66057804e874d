import SheetQuery.Cell.Text
import SheetQuery.Entity

/-!
# Listings

How a search result is shown in a chat: a head line with the number of matches and where they come
from, then one line for each of the first rows, then how many more there are. Long cells are cut.
-/

namespace SheetQuery.Listing

/-- The longest text that a cell is shown with. -/
def maxCellLength : Nat := 40

/-- A text that is too long ends in an ellipsis at the greatest length. -/
def cutCell (cs : List Char) : List Char :=
  if maxCellLength < cs.length then cs.take (maxCellLength - 1) ++ ['…'] else cs

/-- A cell of a row, with its name. -/
def entry (name : String) (cell : Cell) : String :=
  name ++ "=" ++ String.ofList (cutCell cell.render)

/-- The line of a row. -/
def line (row : Row) : String := "; ".intercalate (row.map fun (name, cell) => entry name cell)

/-- A count of matches. -/
def matchCount (count : Nat) : String :=
  if count = 1 then "1 match" else toString count ++ " matches"

/-- The head line. -/
def head (entity : Entity) (count : Nat) (source : String) (softened : Bool) : String :=
  entity.name ++ ": " ++ matchCount count ++ " (" ++ source
    ++ if softened then ", relaxed)" else ")"

/-- The last line, if some rows are left out although any are shown. -/
def more (count limit : Nat) : List String :=
  if 0 < limit && limit < count then ["… and " ++ toString (count - limit) ++ " more"] else []

/-- The listing of the first `limit` rows; a negative limit shows none. -/
def text (entity : Entity) (rows : List Row) (source : String) (limit : Int) (softened : Bool) :
    String :=
  "\n".intercalate (head entity rows.length source softened :: (rows.take limit.toNat).map line
    ++ more rows.length limit.toNat)

end SheetQuery.Listing
