import SheetQuery.Cell.Display

/-!
# Issues found in foreign data

Data from outside (filters, column descriptions, requests, settings) is checked before it is used.
Each fault becomes an `Issue`: what is wrong, where, and the offending value. All faults are
reported, in the order of the fields they concern.
-/

namespace SheetQuery

/-- A step on the way to a part of a value. -/
inductive Step where
  | name (name : String)
  | index (index : Nat)
deriving DecidableEq, Repr

/-- What is wrong with a value. -/
inductive Issue.Kind where
  | missing
  | notModel (model : String)
  | notRecord
  | noTag
  | unknownTag (tag : String) (known : List String)
  | notText
  | emptyText
  | notLiteral (allowed : List String)
  | notMember (members : List String)
  | notList
  | notInteger
  | notNumber
  | notTruth
  | unreadableInteger
  | unreadableNumber
  | unreadableTruth
  | tooManyDigits
  | refused (reason : String)
deriving DecidableEq, Repr

/-- A fault in foreign data. -/
structure Issue where
  kind : Issue.Kind
  path : List Step
  input : Cell

/-- A checked value, or all that is wrong with it. -/
abbrev Checked (α : Type) := Except (List Issue) α

namespace Issue

/-- The same issue, one step further out. -/
def under (step : Step) (issue : Issue) : Issue := { issue with path := step :: issue.path }

/-- Names in single quotes, the last two joined by "or". -/
def alternatives (names : List String) : String :=
  let quoted := names.map fun name => String.ofList (displayText name)
  match quoted.reverse with
  | [] => ""
  | [only] => only
  | last :: before => ", ".intercalate before.reverse ++ " or " ++ last

/-- The code of an issue. -/
def Kind.code : Kind → String
  | missing => "missing"
  | notModel _ => "model_type"
  | notRecord => "model_attributes_type"
  | noTag => "union_tag_not_found"
  | unknownTag .. => "union_tag_invalid"
  | notText => "string_type"
  | emptyText => "string_too_short"
  | notLiteral _ => "literal_error"
  | notMember _ => "enum"
  | notList => "list_type"
  | notInteger => "int_type"
  | notNumber => "float_type"
  | notTruth => "bool_type"
  | unreadableInteger => "int_parsing"
  | unreadableNumber => "float_parsing"
  | unreadableTruth => "bool_parsing"
  | tooManyDigits => "int_parsing_size"
  | refused _ => "value_error"

/-- The wording of an issue. -/
def Kind.message : Kind → String
  | missing => "Field required"
  | notModel model => "Input should be a valid dictionary or instance of " ++ model
  | notRecord => "Input should be a valid dictionary or object to extract fields from"
  | noTag => "Unable to extract tag using discriminator 'op'"
  | unknownTag tag known =>
    "Input tag '" ++ tag ++ "' found using 'op' does not match any of the expected tags: "
      ++ ", ".intercalate (known.map fun name => String.ofList (displayText name))
  | notText => "Input should be a valid string"
  | emptyText => "String should have at least 1 character"
  | notLiteral allowed => "Input should be " ++ alternatives allowed
  | notMember members => "Input should be " ++ alternatives members
  | notList => "Input should be a valid list"
  | notInteger => "Input should be a valid integer"
  | notNumber => "Input should be a valid number"
  | notTruth => "Input should be a valid boolean"
  | unreadableInteger => "Input should be a valid integer, unable to parse string as an integer"
  | unreadableNumber => "Input should be a valid number, unable to parse string as a number"
  | unreadableTruth => "Input should be a valid boolean, unable to interpret input"
  | tooManyDigits =>
    "Unable to parse input string as an integer, exceeded maximum size"
  | refused reason => "Value error, " ++ reason

def stepCell : Step → Cell
  | .name name => .text name
  | .index index => .int index

/-- The record of an issue, with the offending value or without. -/
def toCell (withInput : Bool) (issue : Issue) : Cell :=
  .record ([("type", .text issue.kind.code), ("loc", .list (issue.path.map stepCell)),
    ("msg", .text issue.kind.message)] ++ if withInput then [("input", issue.input)] else [])

end Issue

namespace Checked

/-- A single issue with a value itself. -/
def fail {α : Type} (kind : Issue.Kind) (input : Cell) : Checked α := .error [⟨kind, [], input⟩]

/-- The check of a part: its issues are reported at that part. -/
def under {α : Type} (step : Step) : Checked α → Checked α
  | .ok value => .ok value
  | .error issues => .error (issues.map (Issue.under step))

/-- Two checks side by side; the issues of both are kept, in order. -/
def both {α β : Type} : Checked α → Checked β → Checked (α × β)
  | .ok a, .ok b => .ok (a, b)
  | .error issues, .ok _ => .error issues
  | .ok _, .error issues => .error issues
  | .error issues, .error others => .error (issues ++ others)

/-- Side-by-side checks of the members of a list, each reported at its index. -/
def each {α β : Type} (check : α → Checked β) (index : Nat) : List α → Checked (List β)
  | [] => .ok []
  | a :: as =>
    match both (under (.index index) (check a)) (each check (index + 1) as) with
    | .ok (b, bs) => .ok (b :: bs)
    | .error issues => .error issues

end Checked

end SheetQuery
