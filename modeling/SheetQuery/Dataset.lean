import SheetQuery.Json.Reader
import SheetQuery.Store

/-!
# Datasets

A dataset is a record with a list of records under the name of each entity. A missing entity has no
rows; other entries are ignored.

* `read`: the rows of a dataset;
* `load`: the rows of a dataset that a file holds as JSON.
-/

namespace SheetQuery.Dataset

/-- Why a value is no dataset. -/
inductive Fault where
  | notRecord
  | notRows (entity : Entity)
deriving DecidableEq, Repr

/-- The wording of a fault. -/
def Fault.message : Fault → String
  | notRecord => "dataset must be a JSON object keyed by entity"
  | notRows entity => entity.name ++ " must be a list of objects"

/-- The row that a cell is. -/
def row? : Cell → Option Row
  | .record entries => some entries
  | _ => none

/-- The rows that a cell is a list of. -/
def rows? : Cell → Option (List Row)
  | .list items => items.mapM row?
  | _ => none

/-- The rows of an entity among the entries of a dataset. -/
def sheet (entries : Entries) (entity : Entity) : Except Fault (List Row) :=
  match Entries.get? entries entity.name with
  | none => .ok []
  | some cell =>
    match rows? cell with
    | some rows => .ok rows
    | none => .error (.notRows entity)

/-- Reads a dataset. -/
def read : Cell → Except Fault Store
  | .record entries => do
    let clients ← sheet entries .clients
    let workers ← sheet entries .workers
    let tasks ← sheet entries .tasks
    return .ofSheets [(.clients, clients), (.workers, workers), (.tasks, tasks)]
  | _ => .error .notRecord

/-! ## Files -/

/-- Why there is no text in place of a file. -/
inductive FileFault where
  | notFound
  | isDirectory
  /-- The path leads through something that is no directory. -/
  | notDirectory
  | notText
deriving DecidableEq, Repr

/-- The wording of a fault. -/
def FileFault.message : FileFault → String
  | notFound => "No such file or directory"
  | isDirectory => "Is a directory"
  | notDirectory => "Not a directory"
  | notText => "The file is not UTF-8 text"

/-- Why a file brings no rows. -/
inductive Trouble where
  | file (fault : FileFault)
  | json (fault : Json.Fault)
  | shape (fault : Fault)
deriving DecidableEq, Repr

/-- The wording of a trouble. -/
def Trouble.message : Trouble → String
  | file fault => fault.message
  | json fault => fault.message
  | shape fault => fault.message

/-- Loads a dataset from what reading its file gave. -/
def load (content : Except FileFault String) : Except Trouble Store := do
  let text ← content.mapError .file
  let payload ← (Json.read text.toList).mapError .json
  (read payload).mapError .shape

end SheetQuery.Dataset
