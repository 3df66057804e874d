import SheetQuery.Cell.Basic

/-!
# Filters

A filter is a tree of conditions on one row: conjunctions, disjunctions and negations over leaves,
where a leaf puts one column to a test. A negation has exactly one child by construction; that a
leaf's column name is not empty is the predicate `Filter.isWellFormed`.
-/

namespace SheetQuery

/-- The six order relations. -/
inductive Comparator where
  | gt | ge | lt | le | eq | ne
deriving DecidableEq, Repr

namespace Comparator

def all : List Comparator := [gt, ge, lt, le, eq, ne]

def symbol : Comparator → String
  | gt => ">"
  | ge => ">="
  | lt => "<"
  | le => "<="
  | eq => "=="
  | ne => "!="

def ofSymbol? (symbol : String) : Option Comparator := all.find? fun c => c.symbol == symbol

/-- Does the relation hold of two members of an order with decidable "less" and equality? -/
def holds {α : Type} [LT α] [DecidableLT α] (c : Comparator) (a b : α) : Bool :=
  match c with
  | gt => decide (b < a)
  | ge => !decide (a < b)
  | lt => decide (a < b)
  | le => !decide (b < a)
  | eq => !decide (a < b) && !decide (b < a)
  | ne => decide (a < b) || decide (b < a)

end Comparator

/-- How a needle is looked for in a cell. -/
inductive Manner where
  | includes | contains | startsWith | endsWith | regex
deriving DecidableEq, Repr

namespace Manner

def all : List Manner := [includes, contains, startsWith, endsWith, regex]

def name : Manner → String
  | includes => "includes"
  | contains => "contains"
  | startsWith => "startsWith"
  | endsWith => "endsWith"
  | regex => "regex"

end Manner

/-- What a leaf asks of a cell. -/
inductive Test where
  | compare (comparator : Comparator) (operand : Cell)
  | search (manner : Manner) (needle : Cell)
  | member (negated : Bool) (values : List Cell)
  | presence (negated : Bool)
  | between (low high : Cell)
deriving Repr

/-- A test of one column. -/
structure Leaf where
  field : String
  test : Test
deriving Repr

/-- A condition on a row. -/
inductive Filter where
  | leaf (leaf : Leaf)
  | conj (children : List Filter)
  | disj (children : List Filter)
  | neg (child : Filter)
deriving Repr

namespace Filter

mutual

/-- The leaves, from left to right. -/
def leaves : Filter → List Leaf
  | leaf l => [l]
  | conj children => leavesAll children
  | disj children => leavesAll children
  | neg child => leaves child

def leavesAll : List Filter → List Leaf
  | [] => []
  | child :: children => leaves child ++ leavesAll children

end

/-- Every leaf names a column. -/
def isWellFormed (filter : Filter) : Bool := filter.leaves.all fun leaf => leaf.field != ""

/-- Is it a conjunction, a disjunction or a negation? -/
def isComposite : Filter → Bool
  | leaf _ => false
  | _ => true

end Filter

/-- Do two tests ask the same, up to `Cell.agrees` of their operands? -/
def Test.agrees : Test → Test → Bool
  | compare c a, compare d b => c == d && a.agrees b
  | search m a, search n b => m == n && a.agrees b
  | member p as, member q bs => p == q && Cell.agreesAll as bs
  | presence p, presence q => p == q
  | between a b, between c d => a.agrees c && b.agrees d
  | _, _ => false

def Leaf.agrees (a b : Leaf) : Bool := a.field == b.field && a.test.agrees b.test

namespace Filter

mutual

/-- Are two filters the same tree, up to `Cell.agrees` of the operands? -/
def agrees : Filter → Filter → Bool
  | leaf a, leaf b => a.agrees b
  | conj as, conj bs => agreesAll as bs
  | disj as, disj bs => agreesAll as bs
  | neg a, neg b => agrees a b
  | _, _ => false

def agreesAll : List Filter → List Filter → Bool
  | [], [] => true
  | a :: as, b :: bs => agrees a b && agreesAll as bs
  | _, _ => false

end

end Filter

end SheetQuery
