import SheetQuery.Numeric.Binary64
import SheetQuery.Text.Trim
import SheetQuery.Text.Search

/-!
# Numerals in text

What counts as a number when it is written as text. Blanks around it are ignored, decimal digits of
any script are understood, and a single low line may stand between two digits.

* `readInteger?`: an optional sign and digits, at most `maxIntegerDigits` of them;
* `readBinary64?`: also a fraction, an exponent, and the words for infinity and "not a number".
-/

namespace SheetQuery.Numeral

/-- Longer integer numerals are refused. -/
def maxIntegerDigits : Nat := 4300

/-- What is said of an integer numeral that is too long. -/
def lengthRefusal (digits : Nat) : String :=
  "Exceeds the limit (" ++ toString maxIntegerDigits
    ++ " digits) for integer string conversion: value has " ++ toString digits
    ++ " digits; use sys.set_int_max_str_digits() to increase the limit"

/-- The value of a list of decimal digits. -/
def digitsValue (digits : List Nat) : Nat := digits.foldl (fun value d => 10 * value + d) 0

/-- Each character's digit value, if all of them are digits. -/
def digits? (cs : List Char) : Option (List Nat) := cs.mapM Text.digitValue?

/-- Drops every low line that stands between two digits; any other is kept, and spoils the
numeral. -/
def dropSeparators (before : Bool) : List Char → List Char
  | [] => []
  | c :: cs =>
    if c == '_' && before && cs.head?.any Text.isDigit then dropSeparators false cs
    else c :: dropSeparators (Text.isDigit c) cs

/-- Splits off a sign: is it a minus, and what follows. -/
def splitSign : List Char → Bool × List Char
  | '-' :: cs => (true, cs)
  | '+' :: cs => (false, cs)
  | cs => (false, cs)

/-- Reads an integer. -/
def readInteger? (cs : List Char) : Option Int :=
  let (negative, body) := splitSign (dropSeparators false (Text.trim cs))
  match digits? body with
  | none | some [] => none
  | some digits =>
    if maxIntegerDigits < digits.length then none
    else some (if negative then -(digitsValue digits : Int) else digitsValue digits)

/-- Reads the exponent part of a numeral, if there is one. -/
def readExponent? : Option (List Char) → Option Int
  | none => some 0
  | some cs =>
    let (negative, body) := splitSign cs
    match digits? body with
    | none | some [] => none
    | some digits => some (if negative then -(digitsValue digits : Int) else digitsValue digits)

/-- Reads an unsigned decimal numeral: digits with at most one point among them, and an exponent. -/
def readDecimal? (negative : Bool) (cs : List Char) : Option Binary64 := do
  let (mantissa, exponentText) := Text.splitAtFirst (fun c => c == 'e' || c == 'E') cs
  let (whole, fractionText) := Text.splitAtFirst (· == '.') mantissa
  let wholeDigits ← digits? whole
  let fractionDigits ← digits? (fractionText.getD [])
  let digits := wholeDigits ++ fractionDigits
  let exponent ← readExponent? exponentText
  if digits.isEmpty then none
  else some (Binary64.ofDecimal negative (digitsValue digits) (exponent - fractionDigits.length))

/-- Is the text one of the words for infinity or "not a number", in any case? -/
def readWord? (negative : Bool) (cs : List Char) : Option Binary64 :=
  let folded := cs.map fun c => if c.toNat < 0x80 then Text.lowerChar c else c
  if folded == "inf".toList || folded == "infinity".toList then some (.infinite negative)
  else if folded == "nan".toList then some .nan
  else none

/-- Reads a binary64 value. -/
def readBinary64? (cs : List Char) : Option Binary64 :=
  let (negative, body) := splitSign (dropSeparators false (Text.trim cs))
  (readWord? negative body).orElse fun _ => readDecimal? negative body

end SheetQuery.Numeral
