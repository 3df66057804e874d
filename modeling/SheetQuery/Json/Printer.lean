import SheetQuery.Cell.Basic
import SheetQuery.Numeric.Shortest

/-!
# Writing JSON

The JSON text of a cell. Only what JSON requires is escaped; characters beyond ASCII are written as
they are. Numbers that JSON has no form for are written `NaN`, `Infinity` and `-Infinity`.

* `print`: on one line, with a space after each comma and colon;
* `printIndented`: two spaces of indentation per level.
-/

namespace SheetQuery.Json

def hexDigit (n : Nat) : Char := if n < 10 then Char.ofNat (0x30 + n) else Char.ofNat (0x57 + n)

/-- The text of one character inside a quoted string. -/
def escapeChar (c : Char) : List Char :=
  if c == '"' then ['\\', '"']
  else if c == '\\' then ['\\', '\\']
  else if c == '\n' then ['\\', 'n']
  else if c == '\r' then ['\\', 'r']
  else if c == '\t' then ['\\', 't']
  else if c.toNat == 0x0C then ['\\', 'f']
  else if c.toNat == 0x08 then ['\\', 'b']
  else if c.toNat < 0x20 then
    ['\\', 'u', '0', '0', hexDigit (c.toNat / 16), hexDigit (c.toNat % 16)]
  else [c]

/-- A string in double quotes. -/
def quote (s : String) : List Char := '"' :: s.toList.flatMap escapeChar ++ ['"']

/-- The text of a number; it always has a point or an exponent. -/
def float : Binary64 → List Char
  | .finite x => x.render
  | .infinite false => "Infinity".toList
  | .infinite true => "-Infinity".toList
  | .nan => "NaN".toList

/-- The text of a cell without parts. -/
def scalar : Cell → List Char
  | .null => "null".toList
  | .bool true => "true".toList
  | .bool false => "false".toList
  | .int n => intChars n
  | .float x => float x
  | .text s => quote s
  | .list _ => ['[', ']']
  | .record _ => ['{', '}']

mutual

/-- JSON on one line. -/
def print : Cell → List Char
  | .list items => '[' :: printItems items ++ [']']
  | .record entries => '{' :: printEntries entries ++ ['}']
  | cell => scalar cell

/-- The items of a list, separated. -/
def printItems : List Cell → List Char
  | [] => []
  | [item] => print item
  | item :: next :: items => print item ++ [',', ' '] ++ printItems (next :: items)

/-- The entries of a record, separated. -/
def printEntries : List (String × Cell) → List Char
  | [] => []
  | [(name, cell)] => quote name ++ [':', ' '] ++ print cell
  | (name, cell) :: next :: entries =>
    quote name ++ [':', ' '] ++ print cell ++ [',', ' '] ++ printEntries (next :: entries)

end

/-- A new line, indented for the given level. -/
def newLine (level : Nat) : List Char := '\n' :: List.replicate (2 * level) ' '

mutual

/-- JSON over several lines, at the given level of nesting. Empty lists and records stay on one. -/
def printAt (level : Nat) : Cell → List Char
  | .list [] => ['[', ']']
  | .record [] => ['{', '}']
  | .list (item :: items) =>
    '[' :: newLine (level + 1) ++ printAt (level + 1) item ++ printItemsAt (level + 1) items
      ++ newLine level ++ [']']
  | .record ((name, cell) :: entries) =>
    '{' :: newLine (level + 1) ++ quote name ++ [':', ' '] ++ printAt (level + 1) cell
      ++ printEntriesAt (level + 1) entries ++ newLine level ++ ['}']
  | cell => scalar cell

/-- The items after the first. -/
def printItemsAt (level : Nat) : List Cell → List Char
  | [] => []
  | item :: items => ',' :: newLine level ++ printAt level item ++ printItemsAt level items

/-- The entries after the first. -/
def printEntriesAt (level : Nat) : List (String × Cell) → List Char
  | [] => []
  | (name, cell) :: entries =>
    ',' :: newLine level ++ quote name ++ [':', ' '] ++ printAt level cell
      ++ printEntriesAt level entries

end

/-- JSON over several lines. -/
def printIndented (cell : Cell) : List Char := printAt 0 cell

end SheetQuery.Json
