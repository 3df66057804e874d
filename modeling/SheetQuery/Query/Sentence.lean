import SheetQuery.Query.Clause

/-!
# Queries as sentences

A query is cut into clauses at `and`, commas and semicolons, each clause is read on its own, and
the leaves found are joined by a conjunction. Clauses that cannot be read are left out:
understanding a part is better than none.

Before cutting, the filler words `where` and `with` are blanked, and the `and` of
`between 1 and 2` is turned into `to`, so that the cut leaves ranges in one piece.
-/

namespace SheetQuery.Query

/-- The words that only introduce a condition. -/
def fillers : List (List Char) := ["where".toList, "with".toList]

/-- The rest after one of `keywords` that stands as a word of its own. -/
def afterWholeWord? (keywords : List (List Char)) : Text.Recogniser := fun before cs =>
  if Text.isBoundary before cs.head? then
    keywords.findSome? fun keyword =>
      match Text.afterKeyword? keyword cs with
      | some rest => if Text.isBoundary keyword.getLast? rest.head? then some rest else none
      | none => none
  else none

/-- How many characters beyond the first lie between a non-empty text and a rest of it. -/
def beyondFirst (cs rest : List Char) : Nat := cs.length - rest.length - 1

/-- Recognises a filler word; it becomes a blank. -/
def filler? (before : Option Char) (cs : List Char) : Option (Nat × List Char) :=
  (afterWholeWord? fillers before cs).map fun rest => (beyondFirst cs rest, [' '])

/-- The two numerals of a range written with `between` and `and`, and the rest. -/
def rangeWithAnd? (before : Option Char) (cs : List Char) :
    Option (List Char × List Char × List Char) := do
  if Text.isBoundary before cs.head? then
    let rest ← (Text.afterKeyword? "between".toList cs).bind Text.afterBlanks?
    let (low, rest) ← takeNumeral? rest
    let rest ← (Text.afterBlanks? rest).bind (Text.afterKeyword? "and".toList)
    let (high, rest) ← (Text.afterBlanks? rest).bind takeNumeral?
    return (low, high, rest)
  else none

/-- Recognises a range written with `and`; it is written with `to` instead. -/
def range (before : Option Char) (cs : List Char) : Option (Nat × List Char) :=
  (rangeWithAnd? before cs).map fun (low, high, rest) =>
    (beyondFirst cs rest, "between ".toList ++ low ++ " to ".toList ++ high)

/-- Recognises a separator of clauses. -/
def separator? (cs : List Char) : Option Nat :=
  match (Text.afterBlanks? cs).bind fun rest =>
      (Text.afterKeyword? "and".toList rest).bind Text.afterBlanks? with
  | some rest => some (beyondFirst cs rest)
  | none => if cs.head? == some ',' || cs.head? == some ';' then some 0 else none

/-- The clauses of a text, trimmed, without the blank ones. -/
def clauses (text : List Char) : List (List Char) :=
  let prepared := Text.substitute range (Text.substitute filler? text)
  ((Text.cut separator? prepared).map Text.trim).filter (· ≠ [])

/-- The leaves that a query asks for, clause by clause. -/
def leaves (entity : Entity) (columns : List String) (text : List Char) : List Leaf :=
  (clauses (Text.trim text)).filterMap (clauseLeaf? entity columns)

/-- The conjunction of some leaves; a lone leaf stands for itself. -/
def conjunction? : List Leaf → Option Filter
  | [] => none
  | [leaf] => some (.leaf leaf)
  | leaves => some (.conj (leaves.map Filter.leaf))

/-- The filter that a query asks for, if any clause of it can be read. -/
def filter? (entity : Entity) (columns : List String) (text : List Char) : Option Filter :=
  conjunction? (leaves entity columns text)

end SheetQuery.Query
