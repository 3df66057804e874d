import SheetQuery.Filter.Wire
import SheetQuery.Json.Reader
import SheetQuery.Text.Search

/-!
# Replies of a text-generation service

Small models wrap JSON in fences, add prose around it, leave keys unquoted and keep trailing commas.
A reply is read by taking the first balanced object of its text, as it stands if it is JSON, and
otherwise with its keys quoted and its trailing commas dropped.

* `firstObject?`: the first piece of a text that starts with a brace and closes all its braces;
* `quoteKeys`, `dropTrailingCommas`: the two mendings;
* `read?`: the JSON value of a reply;
* `envelope?`: the filter envelope that a reply holds.
-/

namespace SheetQuery.Reply

/-! ## Fences -/

/-- The fence around a code block: three back ticks and perhaps the word `json`. -/
def fence? : List Char → Option (List Char)
  | cs =>
    (Text.afterKeyword? "```".toList cs).map fun rest =>
      (Text.afterKeyword? "json".toList rest).getD rest

/-- A text without its fences. -/
def unfenced (cs : List Char) : List Char :=
  Text.substitute (fun _ cs => (fence? cs).map fun rest => (cs.length - rest.length - 1, [])) cs

/-! ## Balanced objects -/

/-- The start of a text up to the brace that closes the last of `depth` open ones. -/
def balanced? (depth : Nat) : List Char → Option (List Char)
  | [] => none
  | c :: cs =>
    if c = '}' then
      if depth ≤ 1 then some [c] else (balanced? (depth - 1) cs).map (c :: ·)
    else if c = '{' then (balanced? (depth + 1) cs).map (c :: ·)
    else (balanced? depth cs).map (c :: ·)

/-- The first balanced object of a text: from its first opening brace to the brace that closes
it. -/
def firstObject? : List Char → Option (List Char)
  | [] => none
  | c :: cs => if c = '{' then (balanced? 1 cs).map (c :: ·) else firstObject? cs

/-! ## Mending -/

/-- The word at the start of a text, and the rest. -/
def takeWord? (cs : List Char) : Option (List Char × List Char) :=
  match cs.span Text.isWordChar with
  | ([], _) => none
  | found => some found

/-- The rest after blanks and a colon. -/
def afterColon? (cs : List Char) : Option (List Char) :=
  match cs.dropWhile Text.isBlank with
  | ':' :: rest => some rest
  | _ => none

/-- A word between two marks, then a colon: the word and the rest. -/
def quotedKey? (mark : Char) : List Char → Option (List Char × List Char)
  | [] => none
  | c :: cs =>
    if c = mark then
      (takeWord? cs).bind fun (word, rest) =>
        match rest with
        | [] => none
        | d :: rest =>
          if d = mark then (afterColon? rest).map fun rest => (word, rest) else none
    else none

/-- A word that stands by itself, then a colon: the word and the rest. -/
def bareKey? (before : Option Char) (cs : List Char) : Option (List Char × List Char) :=
  if Text.isBoundary before cs.head? then
    (takeWord? cs).bind fun (word, rest) => (afterColon? rest).map fun rest => (word, rest)
  else none

/-- A key and its colon, in double quotes, in single ones or bare. -/
def key? (before : Option Char) (cs : List Char) : Option (List Char × List Char) :=
  (quotedKey? '"' cs) |>.or (quotedKey? '\'' cs) |>.or (bareKey? before cs)

/-- Puts every word before a colon into double quotes. -/
def quoteKeys (cs : List Char) : List Char :=
  Text.substitute (fun before cs => (key? before cs).map fun (word, rest) =>
    (cs.length - rest.length - 1, '"' :: word ++ ['"', ':'])) cs

/-- A comma and blanks before a closing bracket: how many characters beyond the comma go, and what
stays. -/
def trailingComma? : List Char → Option (Nat × List Char)
  | ',' :: cs =>
    match cs.span Text.isBlank with
    | (blanks, c :: _) => if c = '}' || c = ']' then some (blanks.length + 1, [c]) else none
    | _ => none
  | _ => none

/-- Drops the commas before closing brackets. -/
def dropTrailingCommas (cs : List Char) : List Char :=
  Text.substitute (fun _ cs => trailingComma? cs) cs

/-- An object with its keys quoted and its trailing commas dropped. -/
def mended (cs : List Char) : List Char := dropTrailingCommas (quoteKeys cs)

/-! ## Reading -/

/-- The JSON value in the text of a reply. -/
def ofText? (cs : List Char) : Option Cell :=
  (firstObject? (Text.trim (unfenced cs))).bind fun object =>
    (Json.read? object).or (Json.read? (mended object))

/-- The JSON value of a reply. A record stands for itself; anything else is read by its text. -/
def read? : Cell → Option Cell
  | .null => none
  | .record entries => some (.record entries)
  | cell => ofText? cell.plain.toList

/-- The filter envelope in a JSON value. -/
def envelopeOf? : Cell → Option Envelope
  | .record entries => (Envelope.decode (.record entries)).toOption
  | _ => none

/-- The filter envelope of a reply. -/
def envelope? (reply : Cell) : Option Envelope := (read? reply).bind envelopeOf?

end SheetQuery.Reply
