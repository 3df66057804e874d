import SheetQuery.Cell.Text
import SheetQuery.Json.Reader

/-!
# Multi-valued cells

A cell may hold several values: as a list, as the text of a JSON list, or as a text with commas or
semicolons. `tokens` reduces all three to a list of normalised texts.
-/

namespace SheetQuery.Cell

/-- Does a text begin with `[` and end with `]`? A lone bracket cannot do both. -/
def isBracketed (cs : List Char) : Bool := cs.head? == some '[' && cs.getLast? == some ']'

/-- The list that a text encodes in JSON. -/
def listOfText? (cs : List Char) : Option (List Cell) :=
  let trimmed := Text.trim cs
  if isBracketed trimmed then
    match Json.read? trimmed with
    | some (list items) => some items
    | _ => none
  else none

/-- The list that a cell encodes as JSON text. -/
def encodedList? : Cell → Option (List Cell)
  | text s => listOfText? s.toList
  | _ => none

/-- Is the cell a list, or a text that encodes one? -/
def isListLike : Cell → Bool
  | list _ => true
  | cell => cell.encodedList?.isSome

def isDelimiter (c : Char) : Bool := c == ',' || c == ';'

/-- The trimmed pieces of a text between commas and semicolons, without the blank ones. -/
def pieces (cs : List Char) : List (List Char) :=
  ((Text.splitWhere isDelimiter cs).map Text.trim).filter (· ≠ [])

/-- The non-empty normalised texts of some cells. -/
def keys (cells : List Cell) : List String := (cells.map key).filter (· ≠ "")

/-- The normalised values of a possibly multi-valued cell. -/
def tokens : Cell → List String
  | null => []
  | list items => keys items
  | cell =>
    match cell.encodedList? with
    | some items => keys items
    | none => keys ((pieces cell.render).map fun piece => text (String.ofList piece))

end SheetQuery.Cell
