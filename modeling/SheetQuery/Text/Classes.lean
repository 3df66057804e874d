import SheetQuery.Text.WordTable
import SheetQuery.Text.PrintableTable

/-!
# Character classes

The classes of characters that queries, cells and patterns are read with. Each is decided by plain
comparisons below U+0080 and by a Unicode 14.0 table above it.

* `isBlank`: what is trimmed and what separates words;
* `isWordChar`: letters, numbers and the low line;
* `digitValue?`: decimal digits of every script, with their value;
* `isPrintable`: what a quoted display shows unescaped.
-/

namespace SheetQuery.Text

/-- Membership at `n` of a class that switches at each of the ascending points `changes`, and is
`inside` below the first of them. -/
def memberFrom (inside : Bool) : List Nat → Nat → Bool
  | [], _ => inside
  | change :: changes, n => if n < change then inside else memberFrom (!inside) changes n

/-- White space: the Unicode `White_Space` characters and the four information separators
U+001C to U+001F. -/
def isBlank (c : Char) : Bool :=
  let n := c.toNat
  n == 0x20 || (0x09 ≤ n && n ≤ 0x0D) || (0x1C ≤ n && n ≤ 0x1F) || n == 0x85 || n == 0xA0
    || n == 0x1680 || (0x2000 ≤ n && n ≤ 0x200A) || n == 0x2028 || n == 0x2029 || n == 0x202F
    || n == 0x205F || n == 0x3000

/-- The Unicode `White_Space` characters proper, without the information separators. -/
def isWhiteSpace (c : Char) : Bool :=
  isBlank c && !(0x1C ≤ c.toNat && c.toNat ≤ 0x1F)

/-- White space that an ASCII-only reader knows. -/
def isAsciiBlank (c : Char) : Bool :=
  c.toNat == 0x20 || (0x09 ≤ c.toNat && c.toNat ≤ 0x0D)

def isAsciiDigit (c : Char) : Bool := 0x30 ≤ c.toNat && c.toNat ≤ 0x39

def isAsciiLetter (c : Char) : Bool :=
  (0x41 ≤ c.toNat && c.toNat ≤ 0x5A) || (0x61 ≤ c.toNat && c.toNat ≤ 0x7A)

/-- A letter, a character with a numeric value, or the low line. -/
def isWordChar (c : Char) : Bool :=
  if c.toNat < 0x80 then isAsciiDigit c || isAsciiLetter c || c == '_'
  else memberFrom false wordChanges c.toNat

/-- The digit zero of every decimal script; its nine successors are the other digits. -/
def zeroDigits : List Nat := [
  0x30, 0x660, 0x6F0, 0x7C0, 0x966, 0x9E6, 0xA66, 0xAE6, 0xB66, 0xBE6, 0xC66, 0xCE6, 0xD66, 0xDE6,
  0xE50, 0xED0, 0xF20, 0x1040, 0x1090, 0x17E0, 0x1810, 0x1946, 0x19D0, 0x1A80, 0x1A90, 0x1B50,
  0x1BB0, 0x1C40, 0x1C50, 0xA620, 0xA8D0, 0xA900, 0xA9D0, 0xA9F0, 0xAA50, 0xABF0, 0xFF10, 0x104A0,
  0x10D30, 0x11066, 0x110F0, 0x11136, 0x111D0, 0x112F0, 0x11450, 0x114D0, 0x11650, 0x116C0, 0x11730,
  0x118E0, 0x11950, 0x11C50, 0x11D50, 0x11DA0, 0x16A60, 0x16AC0, 0x16B50, 0x1D7CE, 0x1D7D8, 0x1D7E2,
  0x1D7EC, 0x1D7F6, 0x1E140, 0x1E2F0, 0x1E950, 0x1FBF0]

/-- The value of a decimal digit of any script. -/
def digitValue? (c : Char) : Option Nat :=
  if isAsciiDigit c then some (c.toNat - 0x30)
  else if c.toNat < 0x80 then none
  else
    (zeroDigits.find? fun z => decide (z ≤ c.toNat ∧ c.toNat < z + 10)).map fun z => c.toNat - z

def isDigit (c : Char) : Bool := (digitValue? c).isSome

/-- Characters that a quoted display shows as they are. -/
def isPrintable (c : Char) : Bool :=
  if c.toNat < 0x80 then 0x20 ≤ c.toNat && c.toNat < 0x7F
  else memberFrom false printableChanges c.toNat

end SheetQuery.Text
