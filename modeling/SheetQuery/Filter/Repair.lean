import SheetQuery.Filter.Basic
import SheetQuery.Issue
import SheetQuery.Schema.Coercion
import SheetQuery.Schema.Naming

/-!
# Repairing filters

Filters from outside name columns loosely and carry operands of the wrong type. Repair maps each
leaf onto a column of the schema, fits its operands to the column's type and turns equality on a
multi-valued column into a search for an item. Softening, a second chance for a filter that kept no
row, also turns equality on a textual column into containment. Repair never changes the tree's
shape.

* `Filter.repaired`: the repaired tree;
* `Filter.repair`: the same, but refused if a search would be left without a column name, which can
  happen when the schema has a column with an empty name;
* `Filter.prune?`: the tree without the leaves on unknown columns;
* `Filter.mentions`: does any leaf name a known column?
-/

namespace SheetQuery

/-- Does a column hold several values per cell? Its type or one of its samples tells. -/
def Field.isListLike (field : Field) : Bool :=
  field.type == .array || field.samples.any fun sample =>
    let shown := Text.trim sample.toCell.render
    Cell.isBracketed shown || (field.type == .string && shown.contains ',')

/-- What repair needs to know of a column. -/
structure Traits where
  type : FieldType
  isList : Bool
deriving DecidableEq, Repr

/-- The traits of the column with a given name. -/
def Schema.traits (schema : Schema) (name : String) : Traits :=
  match schema.find? name with
  | some field => ⟨field.type, field.isListLike⟩
  | none => ⟨.unknown, false⟩

/-- Is the column a textual one with one value per cell? -/
def Traits.isPlainText (traits : Traits) : Bool :=
  !traits.isList && (traits.type == .string || traits.type == .unknown)

/-- A list of one item stands for the item. -/
def Cell.unwrapped : Cell → Cell
  | .list [item] => item
  | cell => cell

namespace Test

/-- The single operand of a comparison or a search, fitted to a column type. -/
def fitSingle (type : FieldType) (operand : Cell) : Cell :=
  if type == .array then (type.coerce operand).unwrapped else type.coerce operand

/-- The test with its operands fitted to a column type. -/
def fit (type : FieldType) : Test → Test
  | compare comparator operand => compare comparator (fitSingle type operand)
  | search manner needle => search manner (fitSingle type needle)
  | member negated values => member negated (values.map type.coerce)
  | presence negated => presence negated
  | between low high => between (type.coerce low) (type.coerce high)

/-- What a test looks for as a whole value, by equality. -/
def equalTo? : Test → Option Cell
  | compare .eq operand => some operand
  | _ => none

/-- What a test looks for, by equality or containment. -/
def soughtItem? : Test → Option Cell
  | search .contains needle => some needle
  | test => test.equalTo?

/-- The search that a test is turned into on a column of given traits, if it is. -/
def asSearch? (soften : Bool) (traits : Traits) (test : Test) : Option Test :=
  if traits.isList then test.soughtItem?.map (search .includes)
  else if soften && traits.isPlainText then
    test.equalTo?.map fun operand => search .contains (.text operand.rendered)
  else none

/-- The test that repair leaves on a column of given traits. -/
def repaired (soften : Bool) (traits : Traits) (test : Test) : Test :=
  ((test.fit traits.type).asSearch? soften traits).getD (test.fit traits.type)

end Test

namespace Leaf

/-- The column that a leaf means. -/
def column (schema : Schema) (leaf : Leaf) : String := Schema.resolveName schema.names leaf.field

/-- The leaf on its column, with a test that suits the column. -/
def repaired (schema : Schema) (soften : Bool) (leaf : Leaf) : Leaf :=
  ⟨leaf.column schema, leaf.test.repaired soften (schema.traits (leaf.column schema))⟩

/-- Would repair turn the leaf into a search on a column without a name? -/
def losesName (schema : Schema) (soften : Bool) (leaf : Leaf) : Bool :=
  let traits := schema.traits (leaf.column schema)
  leaf.column schema == "" && ((leaf.test.fit traits.type).asSearch? soften traits).isSome

end Leaf

namespace Filter

mutual

/-- The tree with every leaf replaced. -/
def mapLeaves (f : Leaf → Leaf) : Filter → Filter
  | leaf l => leaf (f l)
  | conj children => conj (mapLeavesAll f children)
  | disj children => disj (mapLeavesAll f children)
  | neg child => neg (mapLeaves f child)

def mapLeavesAll (f : Leaf → Leaf) : List Filter → List Filter
  | [] => []
  | child :: children => mapLeaves f child :: mapLeavesAll f children

end

/-- The tree with every leaf repaired. -/
def repaired (schema : Schema) (soften : Bool) (filter : Filter) : Filter :=
  filter.mapLeaves (Leaf.repaired schema soften)

/-- Repairs a filter, unless that would leave a search without a column name. -/
def repair (schema : Schema) (soften : Bool) (filter : Filter) : Checked Filter :=
  if filter.leaves.any (Leaf.losesName schema soften) then
    (Checked.fail .emptyText (.text "")).under (.name "field")
  else .ok (filter.repaired schema soften)

mutual

/-- The tree without the leaves on unknown columns and without the compositions that this leaves
empty. -/
def prune? (columns : List String) : Filter → Option Filter
  | leaf l => if columns.contains l.field then some (leaf l) else none
  | conj children =>
    match pruneAll columns children with
    | [] => none
    | kept => some (conj kept)
  | disj children =>
    match pruneAll columns children with
    | [] => none
    | kept => some (disj kept)
  | neg child => (prune? columns child).map neg

def pruneAll (columns : List String) : List Filter → List Filter
  | [] => []
  | child :: children =>
    match prune? columns child with
    | some kept => kept :: pruneAll columns children
    | none => pruneAll columns children

end

/-- Does any leaf name a known column? -/
def mentions (columns : List String) (filter : Filter) : Bool :=
  filter.leaves.any fun leaf => columns.contains leaf.field

end Filter

end SheetQuery
