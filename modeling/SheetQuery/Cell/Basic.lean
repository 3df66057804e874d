import SheetQuery.Numeric.Binary64

/-!
# Cells and rows

A cell is a loosely typed value: nothing, a truth value, an integer of any size, a binary64 number,
a text, a list of cells or a record. A record keeps its entries in order. A row of a sheet is a list
of named cells.

Beside structural equality there is `Cell.agrees`, the equality of values that looks through the
numeric kinds (`1`, `1.0` and `true` agree) and through the order of record entries.
-/

namespace SheetQuery

/-- A value of a sheet, of a filter operand or of a JSON document. -/
inductive Cell where
  | null
  | bool (value : Bool)
  | int (value : Int)
  | float (value : Binary64)
  | text (value : String)
  | list (items : List Cell)
  | record (entries : List (String × Cell))
deriving Repr

instance : Inhabited Cell := ⟨.null⟩

/-- Named entries in order. -/
abbrev Entries := List (String × Cell)

/-- A row of a sheet: its cells by column name. -/
abbrev Row := Entries

namespace Entries

/-- The cell under a name. -/
def get? (entries : Entries) (name : String) : Option Cell := entries.lookup name

/-- Sets the cell under a name: in place if the name is there, at the end otherwise. -/
def put (name : String) (cell : Cell) : Entries → Entries
  | [] => [(name, cell)]
  | (other, old) :: rest =>
    if other = name then (name, cell) :: rest else (other, old) :: put name cell rest

end Entries

/-- The cell of a row under a column name; absent counts as null. -/
def Row.cell (row : Row) (column : String) : Cell := (Entries.get? row column).getD .null

/-- A numeric value, for comparing cells of different numeric kinds: units of 2^-1074, or an
infinity by its sign. -/
inductive Cell.Amount where
  | units (count : Int)
  | infinite (negative : Bool)
deriving DecidableEq

namespace Cell

/-- The numeric value of a cell that has one. -/
def amount? : Cell → Option Amount
  | bool b => some (.units (if b then Number.unitsPerOne else 0))
  | int n => some (.units (n * Number.unitsPerOne))
  | float (.finite x) => some (.units x.signed)
  | float (.infinite negative) => some (.infinite negative)
  | _ => none

mutual

/-- Do two cells hold the same value, whatever the numeric kind and the order of record entries?
"Not a number" agrees with itself. -/
def agrees : Cell → Cell → Bool
  | null, null => true
  | text a, text b => a == b
  | list a, list b => agreesAll a b
  | record a, record b => a.length == b.length && agreesEntries a b
  | float .nan, float .nan => true
  | a, b =>
    match a.amount?, b.amount? with
    | some x, some y => x == y
    | _, _ => false

/-- Do two lists agree cell by cell? -/
def agreesAll : List Cell → List Cell → Bool
  | [], [] => true
  | a :: as, b :: bs => agrees a b && agreesAll as bs
  | _, _ => false

/-- Has the second record an agreeing entry for each entry of the first? -/
def agreesEntries : Entries → Entries → Bool
  | [], _ => true
  | (name, a) :: rest, other =>
    (match Entries.get? other name with
      | some b => agrees a b
      | none => false) && agreesEntries rest other

end

end Cell

end SheetQuery
