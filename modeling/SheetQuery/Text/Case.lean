import SheetQuery.Text.CaseTable
import SheetQuery.Text.Classes

/-!
# Letter case

Lower- and upper-casing of texts after the full Unicode rules, and the looser notion of "same letter
up to case" that keywords and patterns are recognised with.

* `lower`: one character at a time, except that `İ` becomes two characters and that `Σ` becomes the
  final form `ς` at the end of a word;
* `upper`: may lengthen the text (`ß` becomes `SS`);
* `sameLetter`: equal after one-to-one lower-casing, or letters that share an upper-case form
  (`s` and `ſ`).
-/

namespace SheetQuery.Text

namespace CaseRun

/-- Is `n` one of the code points the run maps? -/
def covers (run : CaseRun) (n : Nat) : Bool :=
  run.first ≤ n && n ≤ run.last && (n - run.first) % run.step == 0

/-- Where the run sends `n`. -/
def shift (run : CaseRun) (n : Nat) : Nat := ((n : Int) + run.offset).toNat

end CaseRun

/-- The image of `n` under a mapping given by ascending runs; `n` itself outside them. -/
def mapCode : List CaseRun → Nat → Nat
  | [], n => n
  | run :: runs, n =>
    if n < run.first then n else if run.covers n then run.shift n else mapCode runs n

/-- One-to-one lower-casing of a code point. -/
def lowerCode (n : Nat) : Nat :=
  if n < 0x80 then if 0x41 ≤ n && n ≤ 0x5A then n + 0x20 else n
  else mapCode lowerRuns n

/-- One-to-one lower-casing. -/
def lowerChar (c : Char) : Char := Char.ofNat (lowerCode c.toNat)

/-- The characters of a code point's upper-case form. -/
def upperCodes (n : Nat) : List Nat :=
  if n < 0x80 then [if 0x61 ≤ n && n ≤ 0x7A then n - 0x20 else n]
  else match upperExpansions.lookup n with
    | some codes => codes
    | none => [mapCode upperRuns n]

/-- Upper-cases a text. -/
def upper (cs : List Char) : List Char :=
  cs.flatMap fun c => (upperCodes c.toNat).map Char.ofNat

/-- A letter with case, as seen from a neighbouring sigma. -/
def isCased (c : Char) : Bool :=
  if c.toNat < 0x80 then isAsciiLetter c else memberFrom false casedChanges c.toNat

/-- A character that is looked through when the neighbours of a sigma are inspected. -/
def isCaseIgnorable (c : Char) : Bool := memberFrom false caseIgnorableChanges c.toNat

/-- Is the nearest character that is not case-ignorable a cased letter? -/
def nextIsCased (cs : List Char) : Bool :=
  match cs.dropWhile isCaseIgnorable with
  | [] => false
  | c :: _ => isCased c

/-- Lower-cases a text whose preceding characters, nearest first, are `before`. -/
def lowerAfter (before : List Char) : List Char → List Char
  | [] => []
  | c :: rest =>
    (if c == 'Σ' then [if nextIsCased before && !nextIsCased rest then 'ς' else 'σ']
      else if c == 'İ' then ['i', Char.ofNat 0x307]
      else [lowerChar c]) ++ lowerAfter (c :: before) rest

/-- Lower-cases a text. -/
def lower (cs : List Char) : List Char := lowerAfter [] cs

/-- `lower` on strings. -/
def lowerText (s : String) : String := String.ofList (lower s.toList)

/-- Lower-case letters that share their upper-case form with others. -/
def caseSiblings : List (Nat × List Nat) := [
  (0x69, [0x131]), (0x73, [0x17F]), (0xB5, [0x3BC]), (0x131, [0x69]), (0x17F, [0x73]),
  (0x345, [0x3B9, 0x1FBE]), (0x390, [0x1FD3]), (0x3B0, [0x1FE3]), (0x3B2, [0x3D0]),
  (0x3B5, [0x3F5]), (0x3B8, [0x3D1]), (0x3B9, [0x345, 0x1FBE]), (0x3BA, [0x3F0]), (0x3BC, [0xB5]),
  (0x3C0, [0x3D6]), (0x3C1, [0x3F1]), (0x3C2, [0x3C3]), (0x3C3, [0x3C2]), (0x3C6, [0x3D5]),
  (0x3D0, [0x3B2]), (0x3D1, [0x3B8]), (0x3D5, [0x3C6]), (0x3D6, [0x3C0]), (0x3F0, [0x3BA]),
  (0x3F1, [0x3C1]), (0x3F5, [0x3B5]), (0x432, [0x1C80]), (0x434, [0x1C81]), (0x43E, [0x1C82]),
  (0x441, [0x1C83]), (0x442, [0x1C84, 0x1C85]), (0x44A, [0x1C86]), (0x463, [0x1C87]),
  (0x1C80, [0x432]), (0x1C81, [0x434]), (0x1C82, [0x43E]), (0x1C83, [0x441]),
  (0x1C84, [0x442, 0x1C85]), (0x1C85, [0x442, 0x1C84]), (0x1C86, [0x44A]), (0x1C87, [0x463]),
  (0x1C88, [0xA64B]), (0x1E61, [0x1E9B]), (0x1E9B, [0x1E61]), (0x1FBE, [0x345, 0x3B9]),
  (0x1FD3, [0x390]), (0x1FE3, [0x3B0]), (0xA64B, [0x1C88]), (0xFB05, [0xFB06]),
  (0xFB06, [0xFB05])]

/-- A lower-case code point together with its siblings. -/
def caseClass (n : Nat) : List Nat := n :: (caseSiblings.lookup n).getD []

/-- Do two characters agree up to case? -/
def sameLetter (expected actual : Char) : Bool :=
  (caseClass (lowerCode expected.toNat)).contains (lowerCode actual.toNat)

end SheetQuery.Text
