import SheetQuery.Date.Calendar
import SheetQuery.Numeric.Shortest
import SheetQuery.Text.Classes

/-!
# ISO 8601 dates and times

Writing a timestamp in the extended form, and reading the calendar and week forms, basic or
extended, with an optional time after any one separator character.

Reading works on the UTF-8 bytes of the text; only the separator may be a longer character. The
length of the date part follows from its first characters, so that the separator needs no
particular value.

* `Timestamp.render`: full date and time;
* `Timestamp.renderShort`: the date alone for a plain midnight;
* `Timestamp.readIso?`: the reader.
-/

namespace SheetQuery

namespace Timestamp

/-- A number in decimal, filled up with zeros on the left. -/
def padded (width n : Nat) : List Char :=
  let digits := digitChars n
  List.replicate (width - digits.length) '0' ++ digits

def renderDate (t : Timestamp) : List Char :=
  padded 4 t.year ++ '-' :: padded 2 t.month ++ '-' :: padded 2 t.day

/-- An offset from UTC in microseconds: hours and minutes, then seconds and their fraction only if
they are not zero. -/
def renderOffset (offset : Int) : List Char :=
  let size := offset.natAbs
  let seconds := size / 1000000
  let micro := size % 1000000
  (if offset < 0 then '-' else '+') :: padded 2 (seconds / 3600)
    ++ ':' :: padded 2 (seconds / 60 % 60)
    ++ (if seconds % 60 == 0 && micro == 0 then [] else ':' :: padded 2 (seconds % 60))
    ++ (if micro == 0 then [] else '.' :: padded 6 micro)

/-- Date and time, with a fraction only if there is one, and the offset if there is one. -/
def render (t : Timestamp) : List Char :=
  t.renderDate ++ 'T' :: padded 2 t.hour ++ ':' :: padded 2 t.minute ++ ':' :: padded 2 t.second
    ++ (if t.micro == 0 then [] else '.' :: padded 6 t.micro)
    ++ (match t.offset with
      | none => []
      | some offset => renderOffset offset)

/-- The date alone if it says everything, else `render`. -/
def renderShort (t : Timestamp) : List Char := if t.isPlainDate then t.renderDate else t.render

end Timestamp

namespace Iso

/-- The value of an ASCII digit byte. -/
def digit? (byte : Nat) : Option Nat :=
  if 0x30 ≤ byte && byte ≤ 0x39 then some (byte - 0x30) else none

def isDigit (byte : Nat) : Bool := (digit? byte).isSome

/-- Reads exactly `count` digits, after the digits with value `value`. -/
def digits? (value : Nat) : (count : Nat) → List Nat → Option (Nat × List Nat)
  | 0, bytes => some (value, bytes)
  | _ + 1, [] => none
  | count + 1, byte :: bytes =>
    match digit? byte with
    | some d => digits? (10 * value + d) count bytes
    | none => none

def hyphen : Nat := 0x2D
def plus : Nat := 0x2B
def colon : Nat := 0x3A
def letterW : Nat := 0x57

/-! ## The date part -/

/-- The number of bytes of the date part, told from the first bytes of the text; `none` if no date
part fits. -/
def dateLength? (bytes : List Nat) : Option Nat :=
  let length := bytes.length
  let is (index byte : Nat) : Bool := bytes[index]? == some byte
  if length < 7 then none
  else if length == 7 then some 7
  else if is 4 hyphen then
    if is 5 letterW then
      if is 8 hyphen then
        if length == 9 then none
        else if (bytes[10]?).any isDigit then some 8
        else some 10
      else some 8
    else some 10
  else if is 4 letterW then
    let stop := 7 + ((bytes.drop 7).takeWhile isDigit).length
    if stop < 9 then some stop else if stop % 2 == 0 then some 7 else some 8
  else some 8

/-- Drops a hyphen if `expected`; it must then be there. -/
def dropHyphen? (expected : Bool) (bytes : List Nat) : Option (List Nat) :=
  if expected then
    match bytes with
    | byte :: rest => if byte == hyphen then some rest else none
    | [] => none
  else some bytes

/-- Reads a date part: year, month and day. -/
def readDate? (bytes : List Nat) : Option (Int × Nat × Nat) := do
  let (year, afterYear) ← digits? 0 4 bytes
  let extended := afterYear.head? == some hyphen
  let body := if extended then afterYear.drop 1 else afterYear
  if body.head? == some letterW then
    let (week, afterWeek) ← digits? 0 2 (body.drop 1)
    if afterWeek.isEmpty then Calendar.ofWeek? year week 1
    else
      let (day, _) ← digits? 0 1 (← dropHyphen? extended afterWeek)
      Calendar.ofWeek? year week day
  else
    let (month, afterMonth) ← digits? 0 2 body
    let (day, rest) ← digits? 0 2 (← dropHyphen? extended afterMonth)
    if rest.isEmpty then some (year, month, day) else none

/-! ## The time part -/

/-- A time of day as written, and whether the text goes on after it by one more byte. -/
structure Clock where
  hour : Nat
  minute : Nat
  second : Nat
  micro : Nat
  goesOn : Bool

/-- Reads a fraction of a second: six digits count, fewer are scaled, more are passed over. -/
def readFraction? (bytes : List Nat) : Option (Nat × Bool) := do
  let count := min 6 bytes.length
  let (value, rest) ← digits? 0 count bytes
  if count == 0 then none
  else some (value * Nat.pow 10 (6 - count), !(rest.dropWhile isDigit).isEmpty)

/-- Reads at most `left` components of two digits, then the fraction. Colons stand between all of
them or none, as the end of the first one tells; the fraction follows a point or comma after any
component, or the last one directly or after a colon. `next` is the byte that follows the segment,
if any: where a segment ends after a complete component, one surplus byte or a following byte is
reported rather than refused. -/
def readParts? (next : Option Nat) : (left : Nat) → (separated : Option Bool) → List Nat →
    Option (List Nat × Nat × Bool)
  | 0, _, bytes =>
    (readFraction? bytes).map fun (micro, goesOn) => ([], micro, goesOn || next.isSome)
  | left + 1, separated, bytes => do
    let (value, rest) ← digits? 0 2 bytes
    match rest with
    | [] => some ([value], 0, next.isSome)
    | [_] => some ([value], 0, true)
    | c :: after =>
      let separated := separated.getD (c == colon)
      let parts ←
        if separated && c == colon then readParts? next left (some true) after
        else if c == 0x2E || c == 0x2C then readParts? next 0 none after
        else if separated then none
        else readParts? next left (some false) rest
      some (value :: parts.1, parts.2)

/-- Reads hours, minutes and seconds, the latter two optional, and a fraction. -/
def readClock? (segment : List Nat) (next : Option Nat) : Option Clock :=
  (readParts? next 3 none segment).map fun (values, micro, goesOn) =>
    ⟨values.headD 0, (values[1]?).getD 0, (values[2]?).getD 0, micro, goesOn⟩

/-- Microseconds of a clock reading. -/
def Clock.micros (c : Clock) : Nat :=
  ((c.hour * 60 + c.minute) * 60 + c.second) * 1000000 + c.micro

/-- Reads an offset from UTC, after its sign. Whole seconds of zero count as UTC itself; a day or
more is refused. -/
def readOffset? (negative : Bool) (bytes : List Nat) : Option Int := do
  let clock ← readClock? bytes none
  if clock.goesOn then none
  else if clock.micros / 1000000 == 0 then some 0
  else if clock.micros < 86400 * 1000000 then
    some (if negative then -(clock.micros : Int) else clock.micros)
  else none

/-- Reads a time of day with an optional offset from UTC. -/
def readTime? (bytes : List Nat) : Option (Clock × Option Int) := do
  let segment := bytes.takeWhile fun byte => byte != plus && byte != hyphen
  match bytes.drop segment.length with
  | [] =>
    let clock ← readClock? segment none
    if clock.goesOn then none else some (clock, none)
  | sign :: rest =>
    let clock ← readClock? segment (some sign)
    let offset ← readOffset? (sign == hyphen) rest
    some (clock, some offset)

/-- The length of the UTF-8 character that starts with a byte. -/
def charLength (byte : Nat) : Nat :=
  if byte < 0x80 then 1
  else if byte / 16 == 0xE then 3
  else if byte / 16 == 0xF then 4
  else 2

/-- Reads a date with an optional time. -/
def readBytes? (bytes : List Nat) : Option Timestamp := do
  let length ← dateLength? bytes
  let (year, month, day) ← readDate? (bytes.take length)
  let (clock, offset) ← match bytes.drop length with
    | [] => some (⟨0, 0, 0, 0, false⟩, none)
    | separator :: rest => readTime? (rest.drop (charLength separator - 1))
  if 1 ≤ year && Calendar.isDate year.toNat month day && clock.hour < 24 && clock.minute < 60
      && clock.second < 60 then
    some ⟨year.toNat, month, day, clock.hour, clock.minute, clock.second, clock.micro, offset⟩
  else none

end Iso

/-- Every `Z` read as an offset of zero. -/
def Iso.expandZulu (cs : List Char) : List Char :=
  cs.flatMap fun c => if c == 'Z' then "+00:00".toList else [c]

/-- Reads an ISO 8601 date or date and time. -/
def Timestamp.readIso? (cs : List Char) : Option Timestamp :=
  Iso.readBytes? (((String.ofList (Iso.expandZulu cs)).toUTF8.toList).map UInt8.toNat)

end SheetQuery
