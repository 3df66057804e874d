import SheetQuery.Text.Classes

/-!
# Templates

A template is a text with placeholders in it: a dollar sign and a name, perhaps in braces. Two dollar
signs stand for one. A template is cut into its parts before any value is put in, so that a value is
never taken for a part of the template.

* `read?`: the parts of a template, unless a dollar sign in it starts no known placeholder;
* `fill`: the text with a value in place of each placeholder.
-/

namespace SheetQuery.Template

variable {σ : Type}

/-- A part of a template whose placeholders are of type `σ`. -/
inductive Part (σ : Type) where
  | plain (c : Char)
  | slot (place : σ)
deriving DecidableEq, Repr

def isNameStart (c : Char) : Bool := Text.isAsciiLetter c || c == '_'

def isNameChar (c : Char) : Bool := isNameStart c || Text.isAsciiDigit c

/-- The name at the start of a text, as long as possible. -/
def takeName? (cs : List Char) : Option (List Char) :=
  if cs.head?.any isNameStart then some (cs.takeWhile isNameChar) else none

/-- What a dollar sign before a text stands for, and how many characters of the text belong to it. -/
def placeholder? (slot? : String → Option σ) : List Char → Option (Part σ × Nat)
  | '$' :: _ => some (.plain '$', 1)
  | '{' :: cs =>
    (takeName? cs).bind fun name =>
      if (cs.drop name.length).head? == some '}' then
        (slot? (String.ofList name)).map fun slot => (.slot slot, name.length + 2)
      else none
  | cs =>
    (takeName? cs).bind fun name =>
      (slot? (String.ofList name)).map fun slot => (.slot slot, name.length)

/-- The parts of a text of which `skip` characters belong to a placeholder before it. -/
def readAfter? (slot? : String → Option σ) (skip : Nat) : List Char → Option (List (Part σ))
  | [] => some []
  | c :: cs =>
    match skip with
    | skip + 1 => readAfter? slot? skip cs
    | 0 =>
      if c = '$' then
        (placeholder? slot? cs).bind fun found =>
          (readAfter? slot? found.2 cs).map (found.1 :: ·)
      else (readAfter? slot? 0 cs).map (.plain c :: ·)

/-- The parts of a template whose placeholders have the names that `slot?` knows. -/
def read? (slot? : String → Option σ) (cs : List Char) : Option (List (Part σ)) :=
  readAfter? slot? 0 cs

/-- The text of a part. -/
def Part.text (values : σ → List Char) : Part σ → List Char
  | .plain c => [c]
  | .slot place => values place

/-- The text of a template with its values. -/
def fill (values : σ → List Char) (parts : List (Part σ)) : List Char :=
  parts.flatMap (Part.text values)

end SheetQuery.Template
