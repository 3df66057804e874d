/-!
# Encodings of JSON documents

A JSON document arrives as octets in UTF-8, UTF-16 or UTF-32. Which of them it is shows from a byte
order mark or, without one, from where its first four octets are zero, since a document starts with
an ASCII character.

* `utf8?`, `utf16?`, `utf32?`: the characters of octets, if they are well-formed;
* `decode?`: the characters of a document of any encoding.
-/

namespace SheetQuery.Text.Encoding

/-- The character at a code point, if it is a scalar value. -/
def scalar? (n : Nat) : Option Char := if n.isValidChar then some (Char.ofNat n) else none

/-- What the first octet of a UTF-8 sequence says: how many octets follow, its share of the code
point, and the least code point that is not written too long. -/
def lead? (octet : Nat) : Option (Nat × Nat × Nat) :=
  if octet < 0x80 then some (0, octet, 0)
  else if 0xC0 ≤ octet && octet < 0xE0 then some (1, octet - 0xC0, 0x80)
  else if 0xE0 ≤ octet && octet < 0xF0 then some (2, octet - 0xE0, 0x800)
  else if 0xF0 ≤ octet && octet < 0xF8 then some (3, octet - 0xF0, 0x10000)
  else none

/-- Reads UTF-8 where `owed` octets are still to come of a code point of which `value` is known and
which must not lie below `least`. -/
def utf8From : (owed value least : Nat) → List UInt8 → Option (List Char)
  | 0, _, _, [] => some []
  | _ + 1, _, _, [] => none
  | 0, _, _, octet :: rest =>
    match lead? octet.toNat with
    | none => none
    | some (0, value, _) => (utf8From 0 0 0 rest).map (Char.ofNat value :: ·)
    | some (owed + 1, value, least) => utf8From (owed + 1) value least rest
  | owed + 1, value, least, octet :: rest =>
    if octet.toNat < 0x80 || 0xC0 ≤ octet.toNat then none
    else
      let value := value * 64 + (octet.toNat - 0x80)
      if owed = 0 then
        if value < least then none
        else (scalar? value).bind fun c => (utf8From 0 0 0 rest).map (c :: ·)
      else utf8From owed value least rest

/-- The characters of octets in UTF-8. -/
def utf8? (octets : List UInt8) : Option (List Char) := utf8From 0 0 0 octets

/-- Octets in pairs, as numbers. -/
def pairs? (bigEndian : Bool) : List UInt8 → Option (List Nat)
  | [] => some []
  | [_] => none
  | a :: b :: rest =>
    let unit := if bigEndian then a.toNat * 256 + b.toNat else b.toNat * 256 + a.toNat
    (pairs? bigEndian rest).map (unit :: ·)

/-- The characters of 16-bit units, where `high` is a high surrogate just read. -/
def unitsFrom : (high : Option Nat) → List Nat → Option (List Char)
  | none, [] => some []
  | some _, [] => none
  | none, unit :: units =>
    if 0xD800 ≤ unit && unit < 0xDC00 then unitsFrom (some unit) units
    else (scalar? unit).bind fun c => (unitsFrom none units).map (c :: ·)
  | some high, unit :: units =>
    if 0xDC00 ≤ unit && unit < 0xE000 then
      (unitsFrom none units).map
        (Char.ofNat (0x10000 + (high - 0xD800) * 0x400 + (unit - 0xDC00)) :: ·)
    else none

/-- The characters of octets in UTF-16. -/
def utf16? (bigEndian : Bool) (octets : List UInt8) : Option (List Char) :=
  (pairs? bigEndian octets).bind (unitsFrom none)

/-- Pairs of 16-bit units, as numbers. -/
def words? (bigEndian : Bool) : List Nat → Option (List Nat)
  | [] => some []
  | [_] => none
  | a :: b :: rest =>
    let word := if bigEndian then a * 0x10000 + b else b * 0x10000 + a
    (words? bigEndian rest).map (word :: ·)

/-- The characters of octets in UTF-32. -/
def utf32? (bigEndian : Bool) (octets : List UInt8) : Option (List Char) :=
  ((pairs? bigEndian octets).bind (words? bigEndian)).bind fun words => words.mapM scalar?

/-- The characters of a JSON document. A byte order mark is dropped. -/
def decode? : List UInt8 → Option (List Char)
  | 0x00 :: 0x00 :: 0xFE :: 0xFF :: rest => utf32? true rest
  | 0xFF :: 0xFE :: 0x00 :: 0x00 :: rest => utf32? false rest
  | 0xFE :: 0xFF :: rest => utf16? true rest
  | 0xFF :: 0xFE :: rest => utf16? false rest
  | 0xEF :: 0xBB :: 0xBF :: rest => utf8? rest
  | [a, b] =>
    if a = 0 then utf16? true [a, b] else if b = 0 then utf16? false [a, b] else utf8? [a, b]
  | a :: b :: c :: d :: rest =>
    let octets := a :: b :: c :: d :: rest
    if a = 0 then if b = 0 then utf32? true octets else utf16? true octets
    else if b = 0 then if c = 0 && d = 0 then utf32? false octets else utf16? false octets
    else utf8? octets
  | octets => utf8? octets

end SheetQuery.Text.Encoding
