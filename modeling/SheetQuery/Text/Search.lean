import SheetQuery.Text.Case

/-!
# Searching and replacing

Where one text occurs in another, and how pieces of a text are replaced that a recogniser finds from
left to right. The recogniser sees the character before the current place and the characters from it
on.
-/

namespace SheetQuery.Text

/-- Does `needle` occur in the text, at any place? -/
def occursIn (needle : List Char) : List Char → Bool
  | [] => needle.isEmpty
  | c :: cs => needle.isPrefixOf (c :: cs) || occursIn needle cs

/-- Is there a word boundary between two neighbouring characters (`none` at either end of the
text)? -/
def isBoundary (before after : Option Char) : Bool :=
  before.any isWordChar != after.any isWordChar

/-- What follows `keyword`, read up to case, at the start of a text. -/
def afterKeyword? : (keyword : List Char) → List Char → Option (List Char)
  | [], cs => some cs
  | _ :: _, [] => none
  | k :: ks, c :: cs => if sameLetter k c then afterKeyword? ks cs else none

/-- What follows the first of `keywords` that stands, up to case, at the start of a text. -/
def afterAnyKeyword? (keywords : List (List Char)) (cs : List Char) : Option (List Char) :=
  keywords.findSome? fun keyword => afterKeyword? keyword cs

/-- What follows a run of at least one blank at the start of a text. -/
def afterBlanks? : List Char → Option (List Char)
  | [] => none
  | c :: cs => if isBlank c then some (cs.dropWhile isBlank) else none

/-- A recogniser of a piece of text: given the character before a place and the text from there on,
the text after the piece, if the piece is there. -/
abbrev Recogniser := Option Char → List Char → Option (List Char)

/-- The first place, from left to right, where a recogniser succeeds: the characters skipped
before it and those after the recognised piece. -/
def firstMatch? (recognise : Recogniser) (before : Option Char) :
    List Char → Option (List Char × List Char)
  | [] => (recognise before []).map ([], ·)
  | c :: cs =>
    match recognise before (c :: cs) with
    | some rest => some ([], rest)
    | none => (firstMatch? recognise (some c) cs).map fun found => (c :: found.1, found.2)

/-- Scans a text once from left to right. At each place that lies outside the pieces found so far,
`recognise` may take a non-empty piece, giving how many characters it takes beyond the first and
what to write for them; other characters are kept. `skip` characters of the current piece are still
to be passed over. -/
def substituteAfter (recognise : Option Char → List Char → Option (Nat × List Char))
    (before : Option Char) (skip : Nat) : List Char → List Char
  | [] => []
  | c :: cs =>
    match skip with
    | skip + 1 => substituteAfter recognise (some c) skip cs
    | 0 =>
      match recognise before (c :: cs) with
      | some (more, replacement) => replacement ++ substituteAfter recognise (some c) more cs
      | none => c :: substituteAfter recognise (some c) 0 cs

/-- Replaces every piece that `recognise` takes; see `substituteAfter`. -/
def substitute (recognise : Option Char → List Char → Option (Nat × List Char)) (cs : List Char) :
    List Char :=
  substituteAfter recognise none 0 cs

/-- Cuts a text at every piece that `recognise` takes, scanning as `substituteAfter` does. -/
def cutAfter (recognise : List Char → Option Nat) (skip : Nat) : List Char → List (List Char)
  | [] => [[]]
  | c :: cs =>
    match skip with
    | skip + 1 => cutAfter recognise skip cs
    | 0 =>
      match recognise (c :: cs) with
      | some more => [] :: cutAfter recognise more cs
      | none =>
        match cutAfter recognise 0 cs with
        | [] => [[c]]
        | piece :: pieces => (c :: piece) :: pieces

/-- The pieces between the separators that `recognise` takes, where `recognise` answers how many
characters beyond the first a separator has. -/
def cut (recognise : List Char → Option Nat) (cs : List Char) : List (List Char) :=
  cutAfter recognise 0 cs

end SheetQuery.Text
