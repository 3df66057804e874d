import SheetQuery.Filter.Basic
import SheetQuery.Issue

/-!
# The wire form of filters

A filter travels as a tree of records told apart by their entry `op`. Null operands are left out
when a filter is written; when one is read, missing operands are null, a missing comparator is
equality, and entries that mean nothing to an operator are ignored.

* `Filter.encode`: the record of a filter;
* `Filter.decode`: the filter of a record, or every issue with it;
* `Envelope`: a filter together with the entity it is meant for.
-/

namespace SheetQuery

namespace Test

/-- The operator of a test. -/
def op : Test → String
  | compare .. => "cmp"
  | search manner _ => manner.name
  | member false _ => "in"
  | member true _ => "nin"
  | presence false => "exists"
  | presence true => "notExists"
  | between .. => "between"

/-- An operand entry; none for null. -/
def operand (name : String) : Cell → Entries
  | .null => []
  | cell => [(name, cell)]

/-- The entries for the operands. -/
def operands : Test → Entries
  | compare comparator cell => ("cmp", .text comparator.symbol) :: operand "value" cell
  | search _ cell => operand "value" cell
  | member _ cells => [("values", .list cells)]
  | presence _ => []
  | between low high => operand "from" low ++ operand "to" high

end Test

/-- The record of a leaf: column name, operator, operands. -/
def Leaf.encode (leaf : Leaf) : Cell :=
  .record (("field", .text leaf.field) :: ("op", .text leaf.test.op) :: leaf.test.operands)

namespace Filter

mutual

/-- The record of a filter. -/
def encode : Filter → Cell
  | leaf l => l.encode
  | conj children => .record [("op", .text "and"), ("children", .list (encodeAll children))]
  | disj children => .record [("op", .text "or"), ("children", .list (encodeAll children))]
  | neg child => .record [("op", .text "not"), ("children", .list [encode child])]

def encodeAll : List Filter → List Cell
  | [] => []
  | child :: children => encode child :: encodeAll children

end

end Filter

/-! ## Reading -/

/-- The operators that a record may carry. -/
inductive Operator where
  | conj | disj | neg | compare
  | search (manner : Manner)
  | member (negated : Bool)
  | presence (negated : Bool)
  | between
deriving DecidableEq

namespace Operator

def all : List Operator := [conj, disj, neg, compare] ++ Manner.all.map search
  ++ [member false, member true, presence false, presence true, between]

def name : Operator → String
  | conj => "and"
  | disj => "or"
  | neg => "not"
  | compare => "cmp"
  | search manner => manner.name
  | member false => "in"
  | member true => "nin"
  | presence false => "exists"
  | presence true => "notExists"
  | between => "between"

def ofName? (name : String) : Option Operator := all.find? fun op => op.name == name

/-- Finds the operator of a record. -/
def check (whole : Cell) (entries : Entries) : Checked Operator :=
  match Entries.get? entries "op" with
  | none => .fail .noTag whole
  | some tag =>
    let known := (match tag with
      | .text s => ofName? s
      | _ => none)
    match known with
    | some op => .ok op
    | none => .fail (.unknownTag tag.plain (all.map name)) whole

end Operator

namespace Leaf

/-- Checks the column name of a leaf: a non-empty text. -/
def checkField (whole : Cell) : Option Cell → Checked String
  | some (.text s) => if s == "" then .fail .emptyText (.text s) else .ok s
  | some other => .fail .notText other
  | none => .fail .missing whole

/-- Checks a comparator symbol. A single `=` means equality, and so does a missing symbol. -/
def checkComparator : Option Cell → Checked Comparator
  | none => .ok .eq
  | some cell =>
    let found := (match cell with
      | .text s => if s == "=" then some Comparator.eq else Comparator.ofSymbol? s
      | _ => none)
    match found with
    | some comparator => .ok comparator
    | none => .fail (.notLiteral (Comparator.all.map Comparator.symbol)) cell

def checkValues : Option Cell → Checked (List Cell)
  | none => .ok []
  | some (.list cells) => .ok cells
  | some other => .fail .notList other

/-- The operand under a name; null if it is missing. -/
def operand (entries : Entries) (name : String) : Cell := (Entries.get? entries name).getD .null

/-- The lower bound of a range, which may also stand under its second name. -/
def lowerBound (entries : Entries) : Cell :=
  (Entries.get? entries "from").getD (operand entries "from_")

/-- Checks the operands of a leaf operator; composite operators have none. -/
def checkTest (entries : Entries) : Operator → Checked Test
  | .compare =>
    match (checkComparator (Entries.get? entries "cmp")).under (.name "cmp") with
    | .ok comparator => .ok (.compare comparator (operand entries "value"))
    | .error issues => .error issues
  | .search manner => .ok (.search manner (operand entries "value"))
  | .member negated =>
    match (checkValues (Entries.get? entries "values")).under (.name "values") with
    | .ok values => .ok (.member negated values)
    | .error issues => .error issues
  | .presence negated => .ok (.presence negated)
  | .between => .ok (.between (lowerBound entries) (operand entries "to"))
  | _ => .ok (.presence false)

/-- Checks a leaf with a known operator. -/
def check (whole : Cell) (entries : Entries) (op : Operator) : Checked Leaf :=
  let field := (checkField whole (Entries.get? entries "field")).under (.name "field")
  match field.both (checkTest entries op) with
  | .ok (field, test) => .ok ⟨field, test⟩
  | .error issues => .error issues

end Leaf

namespace Filter

/-- The single child of a negation. -/
def single (whole : Cell) : List Filter → Checked Filter
  | [child] => .ok child
  | _ => .fail (.refused "not requires exactly one child") whole

/-- The children of a record as checked so far: no entry for them, not a list, or a list. -/
inductive Children where
  | absent
  | notList (cell : Cell)
  | checked (cell : Cell) (children : Checked (List Filter))

namespace Children

/-- The children of a conjunction or disjunction; missing means none. -/
def many : Children → Checked (List Filter)
  | absent => .ok []
  | notList cell => .fail .notList cell
  | checked _ children => children

/-- The child of a negation, which must be there. -/
def one (whole : Cell) : Children → Checked Filter
  | absent => .fail .missing whole
  | notList cell => .fail .notList cell
  | checked cell children =>
    match children with
    | .ok filters => single cell filters
    | .error issues => .error issues

end Children

/-- A checked part of the operator `op` and its entry `children`, made into a filter. -/
def within {α : Type} (op : Operator) (make : α → Filter) (part : Checked α) : Checked Filter :=
  match part.under (.name "children") with
  | .ok value => .ok (make value)
  | .error issues => Checked.under (.name op.name) (.error issues)

mutual

/-- Reads a filter, or reports every issue with it. -/
def decode : Cell → Checked Filter
  | .record entries =>
    let whole := Cell.record entries
    match Operator.check whole entries with
    | .error issues => .error issues
    | .ok .conj => within .conj conj (childrenOf entries).many
    | .ok .disj => within .disj disj (childrenOf entries).many
    | .ok .neg => within .neg neg ((childrenOf entries).one whole)
    | .ok op =>
      match (Leaf.check whole entries op).under (.name op.name) with
      | .ok l => .ok (leaf l)
      | .error issues => .error issues
  | other => .fail .notRecord other

/-- Reads the first entry `children` among the entries of a record. -/
def childrenOf : List (String × Cell) → Children
  | [] => .absent
  | (name, cell) :: rest => if name == "children" then childrenIn cell else childrenOf rest

/-- Reads the filters in a list. -/
def childrenIn : Cell → Children
  | .list items => .checked (.list items) (decodeAll 0 items)
  | other => .notList other

/-- Reads the filters of a list, whose first has the given index. -/
def decodeAll (index : Nat) : List Cell → Checked (List Filter)
  | [] => .ok []
  | item :: items =>
    match ((decode item).under (.index index)).both (decodeAll (index + 1) items) with
    | .ok (child, children) => .ok (child :: children)
    | .error issues => .error issues

end

end Filter

/-! ## Envelopes -/

/-- A filter and the entity it is meant for, as a text-generation service answers it. -/
structure Envelope where
  entity : String
  filter : Filter

namespace Envelope

def checkKind (whole : Cell) : Option Cell → Checked Unit
  | none => .fail .missing whole
  | some (.text s) => if s == "filter" then .ok () else .fail (.notLiteral ["filter"]) (.text s)
  | some other => .fail (.notLiteral ["filter"]) other

def checkEntity (whole : Cell) : Option Cell → Checked String
  | none => .fail .missing whole
  | some (.text s) => .ok s
  | some other => .fail .notText other

def checkFilter (whole : Cell) : Option Cell → Checked Filter
  | none => .fail .missing whole
  | some cell => Filter.decode cell

/-- Reads an envelope. -/
def decode (cell : Cell) : Checked Envelope :=
  match cell with
  | .record entries =>
    let kind := (checkKind cell (Entries.get? entries "kind")).under (.name "kind")
    let entity := (checkEntity cell (Entries.get? entries "entity")).under (.name "entity")
    let filter := (checkFilter cell (Entries.get? entries "filter")).under (.name "filter")
    match kind.both (entity.both filter) with
    | .ok (_, entity, filter) => .ok ⟨entity, filter⟩
    | .error issues => .error issues
  | _ => .fail (.notModel "FilterEnvelope") cell

/-- The record of an envelope. -/
def encode (envelope : Envelope) : Cell :=
  .record [("kind", .text "filter"), ("entity", .text envelope.entity),
    ("filter", envelope.filter.encode)]

end Envelope

end SheetQuery
