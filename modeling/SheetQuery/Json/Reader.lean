import SheetQuery.Cell.Basic
import SheetQuery.Numeric.Numeral

/-!
# Reading JSON

A text is first cut into lexemes by an automaton that looks at one character at a time, and the
lexemes are then assembled by a machine with a stack of open lists and records. Both are structural
recursions, so reading is total without a bound on nesting.

Beyond plain JSON the words `NaN`, `Infinity` and `-Infinity` are read. A repeated name keeps the
place of its first entry and the value of its last. An integer beyond `Numeral.maxIntegerDigits`
digits is a fault of its own, reported only if nothing before it is malformed.
-/

namespace SheetQuery.Json

/-- Why a text is not read. -/
inductive Fault where
  | malformed
  | integerTooLong (digits : Nat)
deriving DecidableEq, Repr

/-- The wording of a fault. -/
def Fault.message : Fault → String
  | malformed => "malformed JSON"
  | integerTooLong digits => Numeral.lengthRefusal digits

/-- A lexeme: a mark of structure, a complete scalar, or the fault that ends the text. -/
inductive Lexeme where
  | openList | closeList | openRecord | closeRecord | colon | comma
  | scalar (cell : Cell)
  | fault (fault : Fault)

/-! ## Scalars -/

def isSpace (c : Char) : Bool := c == ' ' || c == '\t' || c == '\n' || c == '\r'

/-- The lexeme of a character of structure. -/
def mark? (c : Char) : Option Lexeme :=
  if c == '[' then some .openList else if c == ']' then some .closeList
  else if c == '{' then some .openRecord else if c == '}' then some .closeRecord
  else if c == ':' then some .colon else if c == ',' then some .comma else none

/-- Splits a numeral after its integer part: optional minus, then `0` or digits not starting with
`0`. -/
def splitInteger? (cs : List Char) : Option (List Char × List Char) :=
  let (sign, body) := match cs with
    | '-' :: rest => (['-'], rest)
    | _ => ([], cs)
  match body with
  | '0' :: rest => some (sign ++ ['0'], rest)
  | c :: _ =>
    if Text.isAsciiDigit c then
      some (sign ++ body.takeWhile Text.isAsciiDigit, body.dropWhile Text.isAsciiDigit)
    else none
  | [] => none

/-- Passes over a fraction, if a complete one is there. -/
def dropFraction (cs : List Char) : List Char :=
  match cs with
  | '.' :: c :: rest =>
    if Text.isAsciiDigit c then rest.dropWhile Text.isAsciiDigit else cs
  | _ => cs

/-- Passes over an exponent, if a complete one is there. -/
def dropExponent (cs : List Char) : List Char :=
  match cs with
  | e :: rest =>
    if e == 'e' || e == 'E' then
      let unsigned := match rest with
        | '+' :: r => r
        | '-' :: r => r
        | r => r
      match unsigned with
      | c :: r => if Text.isAsciiDigit c then r.dropWhile Text.isAsciiDigit else cs
      | [] => cs
    else cs
  | [] => cs

/-- The lexeme of a numeral. -/
def numeral (cs : List Char) : Lexeme :=
  match splitInteger? cs with
  | none => .fault .malformed
  | some (whole, afterWhole) =>
    let rest := dropExponent (dropFraction afterWhole)
    if rest.length == afterWhole.length then
      let digits := (whole.filter Text.isAsciiDigit).length
      if Numeral.maxIntegerDigits < digits then .fault (.integerTooLong digits)
      else if !rest.isEmpty then .fault .malformed
      else match Numeral.readInteger? whole with
        | some n => .scalar (.int n)
        | none => .fault .malformed
    else if !rest.isEmpty then .fault .malformed
    else match Numeral.readBinary64? cs with
      | some x => .scalar (.float x)
      | none => .fault .malformed

/-- The lexeme of a run of characters that are neither space, structure nor quotes. -/
def word (cs : List Char) : Lexeme :=
  if cs == "null".toList then .scalar .null
  else if cs == "true".toList then .scalar (.bool true)
  else if cs == "false".toList then .scalar (.bool false)
  else if cs == "NaN".toList then .scalar (.float .nan)
  else if cs == "Infinity".toList then .scalar (.float (.infinite false))
  else if cs == "-Infinity".toList then .scalar (.float (.infinite true))
  else numeral cs

/-- The character that a one-letter escape stands for. -/
def unescape? (c : Char) : Option Nat :=
  if c == '"' || c == '\\' || c == '/' then some c.toNat
  else if c == 'n' then some 0x0A
  else if c == 'r' then some 0x0D
  else if c == 't' then some 0x09
  else if c == 'b' then some 0x08
  else if c == 'f' then some 0x0C
  else none

def hexValue? (c : Char) : Option Nat :=
  if Text.isAsciiDigit c then some (c.toNat - 0x30)
  else if 0x61 ≤ c.toNat && c.toNat ≤ 0x66 then some (c.toNat - 0x57)
  else if 0x41 ≤ c.toNat && c.toNat ≤ 0x46 then some (c.toNat - 0x37)
  else none

/-- Joins each high surrogate with a low one right after it, and replaces a lone surrogate. -/
def joinSurrogates : List Nat → List Char
  | [] => []
  | [n] => [if 0xD800 ≤ n && n < 0xE000 then Char.ofNat 0xFFFD else Char.ofNat n]
  | n :: m :: rest =>
    if 0xD800 ≤ n && n < 0xDC00 && 0xDC00 ≤ m && m < 0xE000 then
      Char.ofNat (0x10000 + (n - 0xD800) * 0x400 + (m - 0xDC00)) :: joinSurrogates rest
    else (if 0xD800 ≤ n && n < 0xE000 then Char.ofNat 0xFFFD else Char.ofNat n)
      :: joinSurrogates (m :: rest)

/-! ## Lexing -/

/-- Where the lexer stands. Collected characters are kept last first. -/
inductive LexState where
  | between
  | inWord (collected : List Char)
  | inString (collected : List Nat)
  | inEscape (collected : List Nat)
  | inHex (collected : List Nat) (value missing : Nat)

/-- Cuts a text into lexemes. A fault ends the list. -/
def lex : LexState → List Char → List Lexeme
  | .between, [] => []
  | .inWord collected, [] => [word collected.reverse]
  | _, [] => [.fault .malformed]
  | .between, c :: cs =>
    if isSpace c then lex .between cs
    else if c == '"' then lex (.inString []) cs
    else match mark? c with
      | some lexeme => lexeme :: lex .between cs
      | none => lex (.inWord [c]) cs
  | .inWord collected, c :: cs =>
    if isSpace c then word collected.reverse :: lex .between cs
    else if c == '"' then word collected.reverse :: lex (.inString []) cs
    else match mark? c with
      | some lexeme => word collected.reverse :: lexeme :: lex .between cs
      | none => lex (.inWord (c :: collected)) cs
  | .inString collected, c :: cs =>
    if c == '"' then
      .scalar (.text (String.ofList (joinSurrogates collected.reverse))) :: lex .between cs
    else if c == '\\' then lex (.inEscape collected) cs
    else if c.toNat < 0x20 then [.fault .malformed]
    else lex (.inString (c.toNat :: collected)) cs
  | .inEscape collected, c :: cs =>
    if c == 'u' then lex (.inHex collected 0 4) cs
    else match unescape? c with
      | some n => lex (.inString (n :: collected)) cs
      | none => [.fault .malformed]
  | .inHex collected value missing, c :: cs =>
    match hexValue? c with
    | none => [.fault .malformed]
    | some d =>
      if missing ≤ 1 then lex (.inString ((16 * value + d) :: collected)) cs
      else lex (.inHex collected (16 * value + d) (missing - 1)) cs

/-! ## Assembling -/

/-- A list or a record that is still open: its parts so far, a list's last first; a record also has
the name whose value is being read. -/
inductive Frame where
  | list (items : List Cell)
  | record (entries : Entries) (name : String)

/-- What may come next. -/
inductive Expect where
  | value
  | firstItem
  | firstName
  | name
  | colon
  | separator
  | finish (cell : Cell)

/-- The machine that assembles lexemes. -/
structure Assembly where
  expect : Expect
  stack : List Frame

namespace Assembly

/-- Hands a complete cell to the innermost open list or record. -/
def deliver (cell : Cell) : List Frame → Assembly
  | [] => ⟨.finish cell, []⟩
  | .list items :: stack => ⟨.separator, .list (cell :: items) :: stack⟩
  | .record entries name :: stack =>
    ⟨.separator, .record (Entries.put name cell entries) name :: stack⟩

/-- Reads one lexeme. A fault counts only where a value may stand; elsewhere any scalar is out of
place. -/
def step (a : Assembly) (lexeme : Lexeme) : Except Fault Assembly :=
  match lexeme, a.expect, a.stack with
  | .fault f, .value, _ => .error f
  | .fault f, .firstItem, _ => .error f
  | .scalar cell, .value, stack => .ok (deliver cell stack)
  | .scalar cell, .firstItem, stack => .ok (deliver cell stack)
  | .openList, .value, stack => .ok ⟨.firstItem, .list [] :: stack⟩
  | .openList, .firstItem, stack => .ok ⟨.firstItem, .list [] :: stack⟩
  | .openRecord, .value, stack => .ok ⟨.firstName, .record [] "" :: stack⟩
  | .openRecord, .firstItem, stack => .ok ⟨.firstName, .record [] "" :: stack⟩
  | .closeList, .firstItem, .list items :: stack => .ok (deliver (.list items.reverse) stack)
  | .closeList, .separator, .list items :: stack => .ok (deliver (.list items.reverse) stack)
  | .closeRecord, .firstName, .record entries _ :: stack => .ok (deliver (.record entries) stack)
  | .closeRecord, .separator, .record entries _ :: stack => .ok (deliver (.record entries) stack)
  | .scalar (.text s), .firstName, .record entries _ :: stack =>
    .ok ⟨.colon, .record entries s :: stack⟩
  | .scalar (.text s), .name, .record entries _ :: stack => .ok ⟨.colon, .record entries s :: stack⟩
  | .colon, .colon, stack => .ok ⟨.value, stack⟩
  | .comma, .separator, .list items :: stack => .ok ⟨.value, .list items :: stack⟩
  | .comma, .separator, .record entries name :: stack => .ok ⟨.name, .record entries name :: stack⟩
  | _, _, _ => .error .malformed

/-- Reads lexemes to the end, where one complete cell must have been assembled. -/
def run (a : Assembly) : List Lexeme → Except Fault Cell
  | [] =>
    match a.expect with
    | .finish cell => .ok cell
    | _ => .error .malformed
  | lexeme :: lexemes =>
    match a.step lexeme with
    | .ok next => run next lexemes
    | .error f => .error f

end Assembly

/-- Reads a JSON document. -/
def read (cs : List Char) : Except Fault Cell :=
  (Assembly.mk .value []).run (lex .between cs)

/-- Reads a JSON document, whatever the fault otherwise. -/
def read? (cs : List Char) : Option Cell := (read cs).toOption

end SheetQuery.Json
