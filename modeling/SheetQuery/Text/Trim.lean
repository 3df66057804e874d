import SheetQuery.Text.Classes

/-!
# Trimming and splitting

Texts are handled as lists of characters. Trimming removes a class of characters at both ends;
splitting cuts at every character of a class or at every run of them.
-/

namespace SheetQuery.Text

/-- Removes the characters of class `p` from the end. -/
def trimEndWith (p : Char → Bool) (cs : List Char) : List Char :=
  (cs.reverse.dropWhile p).reverse

/-- Removes the characters of class `p` from both ends. -/
def trimWith (p : Char → Bool) (cs : List Char) : List Char :=
  trimEndWith p (cs.dropWhile p)

/-- Removes white space from both ends. -/
def trim (cs : List Char) : List Char := trimWith isBlank cs

/-- `trim` on strings. -/
def trimText (s : String) : String := String.ofList (trim s.toList)

/-- The pieces between the characters of class `p`, empty ones included. -/
def splitWhere (p : Char → Bool) : List Char → List (List Char)
  | [] => [[]]
  | c :: cs =>
    if p c then [] :: splitWhere p cs
    else match splitWhere p cs with
      | [] => [[c]]
      | piece :: pieces => (c :: piece) :: pieces

/-- The maximal runs of characters outside class `p`. -/
def runsOutside (p : Char → Bool) (cs : List Char) : List (List Char) :=
  (splitWhere p cs).filter (· ≠ [])

/-- The words of a text: its maximal runs of non-blank characters. -/
def words (cs : List Char) : List (List Char) := runsOutside isBlank cs

/-- Splits a text at its first character of class `p`, which is dropped. -/
def splitAtFirst (p : Char → Bool) (cs : List Char) : List Char × Option (List Char) :=
  match cs.dropWhile (! p ·) with
  | [] => (cs, none)
  | _ :: rest => (cs.takeWhile (! p ·), some rest)

end SheetQuery.Text
