import SheetQuery.Date.Calendar
import SheetQuery.Numeric.Numeral
import SheetQuery.Text.Trim
import SheetQuery.Text.Case

/-!
# Dates as people write them

Day, month name and year in the usual orders, numeric dates with slashes or points, and seconds
since 1970. A date needs its year, month and day; nothing is guessed. Spans such as `4 hours` are
told apart: they name a point in time only relative to the present.
-/

namespace SheetQuery.Spoken

/-- The months in order: the names each is known by. -/
def monthNames : List (List String) := [
  ["january", "jan"], ["february", "feb"], ["march", "mar"], ["april", "apr"], ["may"],
  ["june", "jun"], ["july", "jul"], ["august", "aug"], ["september", "sep", "sept"],
  ["october", "oct"], ["november", "nov"], ["december", "dec"]]

/-- The names of the days of the week. -/
def weekdayNames : List String := [
  "monday", "mon", "tuesday", "tue", "tues", "wednesday", "wed", "thursday", "thu", "thur", "thurs",
  "friday", "fri", "saturday", "sat", "sunday", "sun"]

/-- The number of a month, from its name. -/
def month? (word : List Char) : Option Nat :=
  (monthNames.findIdx? fun names => names.contains (String.ofList word)).map (· + 1)

/-- Reads a number written with ASCII digits, of `low` to `high` characters. -/
def number? (low high : Nat) (word : List Char) : Option Nat :=
  if low ≤ word.length && word.length ≤ high && word.all Text.isAsciiDigit then
    (Numeral.digits? word).map Numeral.digitsValue
  else none

def year? : List Char → Option Nat := number? 4 4

/-- A day of the month, with or without the ending of an ordinal. -/
def day? (word : List Char) : Option Nat :=
  let digits := word.takeWhile Text.isAsciiDigit
  let ending := String.ofList (word.drop digits.length)
  if ["", "st", "nd", "rd", "th"].contains ending then number? 1 2 digits else none

/-- Year, month and day from words in one of the known orders. -/
def named? : List (List Char) → Option (Nat × Nat × Nat)
  | [a, b, c] =>
    (do return (← year? c, ← month? b, ← day? a))
      <|> (do return (← year? c, ← month? a, ← day? b))
      <|> (do return (← year? a, ← month? b, ← day? c))
  | [a, of, b, c] =>
    if of == "of".toList then do return (← year? c, ← month? b, ← day? a) else none
  | _ => none

/-- Year, month and day from a numeric date: year first, or month first unless that number can only
be a day. -/
def numeric? (separator : Char) (cs : List Char) : Option (Nat × Nat × Nat) :=
  match Text.splitWhere (· == separator) cs with
  | [a, b, c] =>
    (do return (← year? a, ← number? 1 2 b, ← number? 1 2 c))
      <|> (if separator == '-' then none
        else do
          let first ← number? 1 2 a
          let second ← number? 1 2 b
          let year ← year? c
          return if 12 < first then (year, second, first) else (year, first, second))
  | _ => none

/-- The words of a text without commas and closing points, and without a weekday in front. -/
def dateWords (cs : List Char) : List (List Char) :=
  let words := Text.runsOutside (fun c => Text.isBlank c || c == ',') cs
  let words := words.map (Text.trimEndWith (· == '.'))
  match words with
  | first :: rest => if weekdayNames.contains (String.ofList first) then rest else words
  | [] => []

/-- Reads a date. -/
def read? (cs : List Char) : Option Timestamp :=
  let folded := Text.lower cs
  match number? 10 10 folded with
  | some seconds => some (Timestamp.ofUnixSeconds seconds)
  | none =>
    let found := named? (dateWords folded)
      <|> named? (Text.splitWhere (· == '-') folded)
      <|> numeric? '/' folded <|> numeric? '.' folded <|> numeric? '-' folded
    found.bind fun (year, month, day) => Timestamp.ofDate? year month day

/-- A span of hours or days, counted from the present. -/
def isSpan (cs : List Char) : Bool :=
  match Text.words (Text.lower cs) with
  | [count, unit] =>
    count.all Text.isAsciiDigit
      && ["hour", "hours", "day", "days"].contains (String.ofList unit)
  | _ => false

end SheetQuery.Spoken
