import SheetQuery.Filter.Basic
import SheetQuery.Cell.Tokens
import SheetQuery.Pattern.Matcher
import SheetQuery.Pattern.Parser

/-!
# Which rows a filter keeps

A filter holds of a row or does not; a malformed operand makes its leaf not hold, so that one bad
clause cannot void the others. Numbers are compared as numbers only if all operands of the test are
numbers, else everything is compared as normalised text.

The one exception are patterns with numbers too large to be counted: where evaluation, from left to
right and stopping as early as it can, meets such a pattern, the whole evaluation fails with it.

* `Filter.holds`: the condition on one row;
* `Filter.fault?`: the fault that evaluation meets on one row;
* `Filter.apply`: the rows kept, in their order.
-/

namespace SheetQuery

namespace Cell

/-- Does the relation hold of two cells? -/
def compares (comparator : Comparator) (cell operand : Cell) : Bool :=
  match cell.number?, operand.number? with
  | some a, some b => comparator.holds a b
  | _, _ => comparator.holds cell.key operand.key

/-- Does a token contain the needle? -/
def tokensContain (tokens : List String) (needle : String) : Bool :=
  tokens.any fun token => Text.occursIn needle.toList token.toList

/-- Are all needles contained in tokens of the cell? A list of needles must not be empty. -/
def includes (cell needle : Cell) : Bool :=
  match needle with
  | list needles =>
    !needles.isEmpty && needles.all fun item => tokensContain cell.tokens item.key
  | single => tokensContain cell.tokens single.key

/-- Does the pattern that the needle renders to match somewhere in the cell's text? -/
def matchesPattern (cell needle : Cell) : Except Pattern.Fault Bool :=
  match Pattern.compile needle.render with
  | .ok pattern => .ok (pattern.search cell.render)
  | .error .invalid => .ok false
  | .error fault => .error fault

/-- Is there anything but blanks in the cell? -/
def isPresent (cell : Cell) : Bool := !(Text.trim cell.render).isEmpty

/-- Does the cell lie between two bounds, given in either order? -/
def liesBetween (cell low high : Cell) : Bool :=
  match cell.number?, low.number?, high.number? with
  | some x, some a, some b => decide (a.min b ≤ x ∧ x ≤ a.max b)
  | _, _, _ =>
    let a := low.key
    let b := high.key
    decide ((if b < a then b else a) ≤ cell.key ∧ cell.key ≤ (if a < b then b else a))

end Cell

namespace Test

/-- Does the cell pass the test? -/
def holds (cell : Cell) : Test → Bool
  | compare comparator operand => cell.compares comparator operand
  | search .includes needle => cell.includes needle
  | search .contains needle => Text.occursIn needle.key.toList cell.key.toList
  | search .startsWith needle => needle.key.toList.isPrefixOf cell.key.toList
  | search .endsWith needle => needle.key.toList.isSuffixOf cell.key.toList
  | search .regex needle => (cell.matchesPattern needle).toOption.getD false
  | member negated values => (values.map Cell.key).contains cell.key != negated
  | presence negated => cell.isPresent != negated
  | between low high => cell.liesBetween low high

/-- The fault that the test meets. -/
def fault? (cell : Cell) : Test → Option Pattern.Fault
  | search .regex needle =>
    match cell.matchesPattern needle with
    | .ok _ => none
    | .error fault => some fault
  | _ => none

end Test

namespace Filter

mutual

/-- Does the filter hold of a row? -/
def holds (row : Row) : Filter → Bool
  | leaf l => l.test.holds (row.cell l.field)
  | conj children => allHold row children
  | disj children => anyHolds row children
  | neg child => !holds row child

def allHold (row : Row) : List Filter → Bool
  | [] => true
  | child :: children => holds row child && allHold row children

def anyHolds (row : Row) : List Filter → Bool
  | [] => false
  | child :: children => holds row child || anyHolds row children

end

mutual

/-- The first fault met on a row, looking no further than the value of the filter needs. -/
def fault? (row : Row) : Filter → Option Pattern.Fault
  | leaf l => l.test.fault? (row.cell l.field)
  | conj children => faultWhile true row children
  | disj children => faultWhile false row children
  | neg child => fault? row child

/-- The first fault among filters of which each next is looked at only while the value of the one
before is `going`. -/
def faultWhile (going : Bool) (row : Row) : List Filter → Option Pattern.Fault
  | [] => none
  | child :: children =>
    match fault? row child with
    | some fault => some fault
    | none => if holds row child == going then faultWhile going row children else none

end

/-- The rows of which the filter holds, in order. -/
def apply (filter : Filter) (rows : List Row) : Except Pattern.Fault (List Row) :=
  match rows.findSome? fun row => filter.fault? row with
  | some fault => .error fault
  | none => .ok (rows.filter fun row => filter.holds row)

end Filter

end SheetQuery
