import SheetQuery.Cell.Basic
import SheetQuery.Json.Printer
import SheetQuery.Text.Classes

/-!
# Quoted display of cells

The display that error texts and samples show a cell with: texts in single quotes (in double quotes
if they hold a single quote and no double one), unprintable characters as numbered escapes, `None`
for null, `True` and `False`, lists in square brackets and records in braces.
-/

namespace SheetQuery

/-- The lower-case hexadecimal digits of `n`, `count` of them. -/
def hexDigits : (count : Nat) → Nat → List Char
  | 0, _ => []
  | count + 1, n => hexDigits count (n / 16) ++ [Json.hexDigit (n % 16)]

/-- The display of one character between two marks of the kind `mark`. -/
def displayChar (mark c : Char) : List Char :=
  if c == mark || c == '\\' then ['\\', c]
  else if c == '\n' then ['\\', 'n']
  else if c == '\r' then ['\\', 'r']
  else if c == '\t' then ['\\', 't']
  else if Text.isPrintable c then [c]
  else if c.toNat < 0x100 then ['\\', 'x'] ++ hexDigits 2 c.toNat
  else if c.toNat < 0x10000 then ['\\', 'u'] ++ hexDigits 4 c.toNat
  else ['\\', 'U'] ++ hexDigits 8 c.toNat

/-- The display of a text. -/
def displayText (s : String) : List Char :=
  let cs := s.toList
  let mark := if cs.contains '\'' && !cs.contains '"' then '"' else '\''
  mark :: cs.flatMap (displayChar mark) ++ [mark]

namespace Cell

mutual

/-- The display of a cell. -/
def display : Cell → List Char
  | null => "None".toList
  | bool true => "True".toList
  | bool false => "False".toList
  | int n => intChars n
  | float x => x.render
  | text s => displayText s
  | list items => '[' :: displayItems items ++ [']']
  | record entries => '{' :: displayEntries entries ++ ['}']

/-- The display of the items of a list. -/
def displayItems : List Cell → List Char
  | [] => []
  | [item] => display item
  | item :: next :: items => display item ++ [',', ' '] ++ displayItems (next :: items)

/-- The display of the entries of a record. -/
def displayEntries : List (String × Cell) → List Char
  | [] => []
  | [(name, cell)] => displayText name ++ [':', ' '] ++ display cell
  | (name, cell) :: next :: entries =>
    displayText name ++ [':', ' '] ++ display cell ++ [',', ' '] ++ displayEntries (next :: entries)

end

/-- A text as it is, any other cell by its display. -/
def plain : Cell → String
  | text s => s
  | cell => String.ofList cell.display

end Cell

end SheetQuery
