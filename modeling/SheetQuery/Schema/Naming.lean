import SheetQuery.Numeric.Binary64
import SheetQuery.Text.Case
import SheetQuery.Text.Search

/-!
# Matching column names

A column may be named loosely: with other case, with blanks, underscores or hyphens, with a letter
more or less, or by a part of its name. `resolveName` finds the column that is meant.

* `bareName`: a name without case and separators;
* `similarity`: how much two texts share of their runs of three letters, from 0 to 1;
* `resolveName`: the column meant by a name, or the name itself.
-/

namespace SheetQuery.Schema

def isSeparator (c : Char) : Bool := Text.isBlank c || c == '_' || c == '-'

/-- A name in lower case, without blanks, underscores and hyphens. -/
def bareName (name : String) : List Char :=
  (Text.lower name.toList).filter fun c => !isSeparator c

/-- All runs of three neighbouring characters. -/
def trigrams : List Char → List (List Char)
  | a :: b :: c :: rest => [a, b, c] :: trigrams (b :: c :: rest)
  | _ => []

/-- The pieces that texts are compared by: the runs of three, or the whole text if it is shorter. -/
def grams (cs : List Char) : List (List Char) :=
  match trigrams cs with
  | [] => [cs]
  | runs => runs.eraseDups

/-- The number nearest to a fraction; zero if there is none. -/
def fraction (num den : Nat) : Number := (Binary64.ofRatio false num den).finite?.getD ⟨false, 0⟩

/-- The share of common pieces among all pieces of two texts. -/
def similarity (left right : List Char) : Number :=
  if left = right then fraction 1 1
  else if left.isEmpty || right.isEmpty then fraction 0 1
  else
    let ours := grams left
    let theirs := grams right
    let shared := (ours.filter theirs.contains).length
    fraction shared (ours.length + theirs.length - shared)

/-- From this similarity on, two names are taken for one: 0.65. -/
def similarityThreshold : Number := fraction 13 20

/-- The first member of a list with the greatest score, and that score. -/
def best? {α : Type} (score : α → Number) : List α → Option (α × Number)
  | [] => none
  | a :: as =>
    match best? score as with
    | none => some (a, score a)
    | some found => if score a < found.2 then some found else some (a, score a)

/-- The column whose bare name is most similar to `bare`, if it is similar enough. -/
def similarColumn? (bare : List Char) (columns : List String) : Option String :=
  match best? (fun column => similarity bare (bareName column)) columns with
  | some (column, score) => if similarityThreshold ≤ score then some column else none
  | none => none

/-- The first column whose bare name contains `bare`. -/
def widerColumn? (bare : List Char) (columns : List String) : Option String :=
  if bare.isEmpty then none
  else columns.find? fun column => Text.occursIn bare (bareName column)

/-- The column that a name means: the name itself if it is a column, else the first column equal to
it up to case, else the most similar one, else the first that contains it. A name that means no
column stays as it is. -/
def resolveName (columns : List String) (name : String) : String :=
  if columns.contains name then name
  else
    ((columns.find? fun column => Text.lowerText column == Text.lowerText name)
      |>.or (similarColumn? (bareName name) columns)
      |>.or (widerColumn? (bareName name) columns)).getD name

end SheetQuery.Schema
