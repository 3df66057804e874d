import SheetQuery.Cell.Text
import SheetQuery.Text.Search

/-!
# Numerals in queries

A numeral is an optional minus sign, digits, and optionally a point followed by digits. The digits
may be of any script.
-/

namespace SheetQuery.Query

/-- The digits at the start of a text, at least one, and the rest. -/
def takeDigits? (cs : List Char) : Option (List Char × List Char) :=
  match cs.span Text.isDigit with
  | ([], _) => none
  | found => some found

/-- The unsigned numeral at the start of a text, and the rest. -/
def takeUnsigned? (cs : List Char) : Option (List Char × List Char) :=
  match takeDigits? cs with
  | none => none
  | some (whole, rest) =>
    match rest with
    | '.' :: afterPoint =>
      match takeDigits? afterPoint with
      | some (fraction, rest) => some (whole ++ '.' :: fraction, rest)
      | none => some (whole, '.' :: afterPoint)
    | _ => some (whole, rest)

/-- What `take` finds at the start of a text, possibly after a minus sign. -/
def takeSigned? (take : List Char → Option (List Char × List Char)) :
    List Char → Option (List Char × List Char)
  | '-' :: cs => (take cs).map fun found => ('-' :: found.1, found.2)
  | cs => take cs

/-- The numeral at the start of a text, as long as possible, and the rest. -/
def takeNumeral? (cs : List Char) : Option (List Char × List Char) := takeSigned? takeUnsigned? cs

/-- The cell that a piece of a query stands for: a number if it reads as one, else the text. -/
def operand (cs : List Char) : Cell := (Cell.text (String.ofList cs)).castNumeral

/-- A whole text that is a numeral, as an operand. -/
def numeral? (cs : List Char) : Option Cell :=
  match takeNumeral? cs with
  | some (digits, []) => some (operand digits)
  | _ => none

/-- The first numeral anywhere in a text. -/
def firstNumeral? : List Char → Option Cell
  | [] => none
  | c :: cs =>
    match takeNumeral? (c :: cs) with
    | some (digits, _) => some (operand digits)
    | none => firstNumeral? cs

end SheetQuery.Query
