import SheetQuery.Resolution

/-!
# Requests

The boundary where a query comes in as a record, `entity`, `text` and `schema`, and goes out as a
status and a record: 200 with the filter, 400 if the request itself is at fault, 422 if no filter
could be found.
-/

namespace SheetQuery

/-- A checked request. -/
structure Request where
  entity : Entity
  text : String
  schema : Schema

/-- What a request is answered with. -/
structure Response where
  status : Nat
  body : Cell

namespace Request

def checkEntity (whole : Cell) : Option Cell → Checked Entity
  | none => .fail .missing whole
  | some cell =>
    match Entity.ofCell? cell with
    | some entity => .ok entity
    | none => .fail (.notMember (Entity.all.map Entity.name)) cell

/-- Checks the text of a query, which must not be blank, and trims it. -/
def checkText (whole : Cell) : Option Cell → Checked String
  | none => .fail .missing whole
  | some (.text s) =>
    match Text.trimWith Text.isWhiteSpace s.toList with
    | [] => .fail .emptyText (.text s)
    | trimmed => .ok (String.ofList trimmed)
  | some other => .fail .notText other

def checkSchema : Cell → Checked Schema
  | .list items => Checked.each Field.check 0 items
  | other => .fail .notList other

/-- The entry that holds the columns: `schema`, or `columns` in its place. -/
def columnsName (entries : Entries) : Option String :=
  ["schema", "columns"].find? fun name => (Entries.get? entries name).isSome

/-- Checks a request. Without columns, it is about a sheet of none. -/
def check (payload : Cell) : Checked Request :=
  match payload with
  | .record entries =>
    let entity := (checkEntity payload (Entries.get? entries "entity")).under (.name "entity")
    let text := (checkText payload (Entries.get? entries "text")).under (.name "text")
    let schema := match columnsName entries with
      | some name =>
        (checkSchema ((Entries.get? entries name).getD .null)).under (.name name)
      | none => .ok []
    match entity.both (text.both schema) with
    | .ok (entity, text, schema) => .ok ⟨entity, text, schema⟩
    | .error issues => .error issues
  | _ => .fail (.notModel "NLRequest") payload

/-- The response to a request that is at fault. -/
def invalid (details : Cell) : Response :=
  ⟨400, .record [("error", .text "Invalid request"), ("reason", .text "invalid_request"),
    ("details", details)]⟩

def textOrNull : Option String → Cell
  | some s => .text s
  | none => .null

/-- The response to a query that no filter was found for. -/
def unresolved (reason : Reason) (first retry : Option String) : Response :=
  ⟨422, .record [("error", .text "AI did not return a valid filter JSON"),
    ("reason", .text reason.name), ("raw_first", textOrNull first),
    ("raw_retry", textOrNull retry)]⟩

/-- The response to the outcome of a checked request. Other failures than those of the query are
passed on. -/
def respond (entity : Entity) : Except Failure Resolved → Except Failure Response
  | .ok resolved => .ok ⟨200, resolved.response entity⟩
  | .error (.input message) => .ok (invalid (.text message))
  | .error (.unresolved reason first retry) => .ok (unresolved reason first retry)
  | .error failure => .error failure

/-- Answers a request. -/
def handle {σ : Type} (service : Option (Service σ)) (payload : Cell) (s : σ) :
    Except Failure Response × σ :=
  match check payload with
  | .error issues => (.ok (invalid (.list (issues.map (Issue.toCell true)))), s)
  | .ok request =>
    let (outcome, s) :=
      Resolution.resolve service request.entity request.schema request.text.toList s
    (respond request.entity outcome, s)

end Request

end SheetQuery
