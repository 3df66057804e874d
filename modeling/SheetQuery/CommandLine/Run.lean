import SheetQuery.CommandLine.Arguments
import SheetQuery.Dataset
import SheetQuery.Search.Session
import SheetQuery.Settings.LogLevel
import SheetQuery.Settings.VariableFile
import SheetQuery.Assistant.Client

/-!
# Runs of the command line

A run takes one query to one sheet of a dataset and prints the rows it finds as JSON, or prints the
schema of the sheet instead. It has two halves, with the reading of the dataset's file between them.

* `Plan.prepare`: what is to be done, from the arguments and the variables;
* `Plan.execute`: the report, from the content of the file;
* `runWith`: both halves;
* `Ending`: how a run ends, with its exit status and what it prints.
-/

namespace SheetQuery.CommandLine

/-! ## Endings -/

/-- What keeps a run from an orderly end. -/
inductive Breakdown where
  /-- The variables ask for a log level that there is not. -/
  | logLevel (message : String)
  /-- The variables give the service a deadline that is no number. -/
  | deadline (text : String)
  /-- The file brings no dataset. -/
  | dataset (trouble : Dataset.Trouble)
  /-- The search fails for a reason that no query is answerable for. -/
  | search (failure : Failure)

/-- How a run ends. -/
inductive Ending where
  /-- With a text on the standard output. -/
  | printed (text : String)
  /-- The arguments are at fault. -/
  | refused (fault : Fault)
  /-- The dataset or the query is at fault. -/
  | rejected (message : String)
  /-- No means led to a filter. -/
  | unresolved (reason : Reason)
  | broken (breakdown : Breakdown)

def programName : String := "nl-table-filter"

/-- How the program is called. -/
def usage : String := "\n".intercalate [
  "usage: nl-table-filter [-h] [--path PATH] [--entity \x7bclients,workers,tasks\x7d]",
  "                       [--limit LIMIT] [--no-llm] [--schema]",
  "                       [query]",
  ""]

/-- The help. -/
def help : String := usage ++ "\n".intercalate [
  "",
  "Filter a dataset sheet with a plain-English query.",
  "",
  "positional arguments:",
  "  query                 The query, e.g. \"duration > 2\".",
  "",
  "options:",
  "  -h, --help            show this help message and exit",
  "  --path PATH           Dataset JSON file (defaults to DATASET_PATH).",
  "  --entity \x7bclients,workers,tasks\x7d",
  "                        Sheet to search.",
  "  --limit LIMIT         Number of matching rows to print.",
  "  --no-llm              Skip the AI tier.",
  "  --schema              Print the inferred schema and exit.",
  ""]

/-- The wording of a breakdown. -/
def Breakdown.message : Breakdown → String
  | logLevel message => message
  | deadline text => "could not convert string to float: " ++ quoted text
  | dataset trouble => trouble.message
  | search failure => failure.message

namespace Ending

/-- The exit status. -/
def status : Ending → Nat
  | printed _ => 0
  | unresolved _ | broken _ => 1
  | refused _ | rejected _ => 2

/-- What is printed on the standard output. -/
def output : Ending → String
  | printed text => text
  | _ => ""

/-- What is printed on the standard error output. -/
def complaint : Ending → String
  | printed _ => ""
  | refused fault => usage ++ programName ++ ": error: " ++ fault.message ++ "\n"
  | rejected message => "error: " ++ message ++ "\n"
  | unresolved reason => "error: " ++ Failure.unresolvedMessage reason ++ "\n"
  | broken breakdown => "error: " ++ breakdown.message ++ "\n"

/-- A report is printed as indented JSON. -/
def report (cell : Cell) : Ending := printed (String.ofList (Json.printIndented cell) ++ "\n")

end Ending

/-! ## Variables -/

/-- The variables of a run: those of the environment, and under other names those of a file. -/
def bindings (environment : List (String × String)) (file : Option String) :
    List VariableFile.Binding :=
  environment.map (fun (name, value) => (name, some value)) ++ match file with
    | some text => VariableFile.expanded .environment environment text
    | none => []

/-- The variables that a run asks for. -/
def asked (file : Option String) : List String :=
  ["LOG_LEVEL", "DATASET_PATH", "LLM_BASE_URL", "LLM_MODEL", "LLM_TIMEOUT_S"]
    ++ VariableFile.references (file.getD "").toList

/-- The value of a variable, if it has one that is not empty. -/
def given? (known : List VariableFile.Binding) (name : String) : Option String :=
  (known.lookup name).join.filter (· ≠ "")

/-- How the service is reached. -/
def endpoint (known : List VariableFile.Binding) : Except Breakdown Endpoint := do
  let timeout ← match given? known "LLM_TIMEOUT_S" with
    | none => pure Endpoint.defaultTimeout
    | some text =>
      match Numeral.readBinary64? text.toList with
      | some seconds => pure seconds
      | none => throw (.deadline text)
  return ⟨(given? known "LLM_BASE_URL").getD Endpoint.defaultBaseUrl,
    (given? known "LLM_MODEL").getD Endpoint.defaultModel, timeout⟩

/-! ## Plans -/

/-- What a run has to do once the file at its path has been read. -/
structure Plan where
  arguments : Arguments
  path : String
  known : List VariableFile.Binding

namespace Plan

/-- The plan that arguments and variables make. -/
def prepare (words : List String) (environment : List (String × String)) (file : Option String) :
    Except Ending Plan := do
  let arguments ← match Arguments.parse words with
    | .ok arguments => pure arguments
    | .error .help => throw (.printed help)
    | .error (.fault fault) => throw (.refused fault)
  let known := bindings environment file
  let _ ← (LogLevel.ofName ((given? known "LOG_LEVEL").getD "WARNING")).mapError
    fun message => .broken (.logLevel message)
  match (arguments.path.filter (· ≠ "")).or (given? known "DATASET_PATH") with
  | some path => return ⟨arguments, path, known⟩
  | none => throw (.refused .noPath)

/-- The first rows of a result. A negative limit leaves out as many rows at the end. -/
def firstRows (limit : Int) (rows : List Row) : List Row :=
  if 0 ≤ limit then rows.take limit.toNat else rows.take (rows.length - (-limit).toNat)

/-- The report on a search. -/
def outcomeReport (limit : Int) (outcome : Outcome) : Cell :=
  .record [("kind", .text "filter"), ("entity", .text outcome.entity.name),
    ("filter", outcome.filter.encode), ("source", .text outcome.origin.name),
    ("softened", .bool outcome.softened), ("count", .int outcome.rows.length),
    ("rows", .list ((firstRows limit outcome.rows).map .record))]

/-- The report on a schema. -/
def schemaReport (schema : Schema) : Cell := .list (schema.map Field.toCell)

/-- How a run ends after its search. -/
def conclude (plan : Plan) : Except Failure Outcome → Ending
  | .ok outcome => .report (outcomeReport plan.arguments.limit outcome)
  | .error (.input message) => .rejected message
  | .error (.unresolved reason _ _) => .unresolved reason
  | .error failure => .broken (.search failure)

variable {σ : Type}

/-- The service that a run may consult. -/
def service? (plan : Plan) (transport : Transport σ) : Except Breakdown (Option (Service σ)) :=
  if plan.arguments.withService then
    (endpoint plan.known).map fun endpoint =>
      some (Client.service transport endpoint (.ofSeconds endpoint.timeout))
  else .ok none

/-- The search of a run, in a session of its own. -/
def search (plan : Plan) (service : Option (Service σ)) (store : Store) (s : σ) :
    Except Failure Outcome × σ :=
  let desk : Desk := ⟨store, .empty Cache.defaultCapacity⟩
  match Session.new.start Session.defaultSamples desk (.text plan.arguments.entity.name)
      plan.arguments.query with
  | (.ended result, _) => (result, s)
  | (.waiting ticket, _, desk) =>
    let (result, s) := Session.resolve service ticket s
    ((Session.conclude desk ticket result).1, s)

/-- Carries out a plan on what reading the file gave. -/
def execute (plan : Plan) (transport : Transport σ) (content : Except Dataset.FileFault String)
    (s : σ) : Ending × σ :=
  match Dataset.load content with
  | .error (.shape fault) => (.rejected fault.message, s)
  | .error trouble => (.broken (.dataset trouble), s)
  | .ok store =>
    if plan.arguments.listsSchema then
      (.report (schemaReport
        (Schema.infer (store.rows plan.arguments.entity) Session.defaultSamples)), s)
    else
      match plan.service? transport with
      | .error breakdown => (.broken breakdown, s)
      | .ok service =>
        let (result, s) := plan.search service store s
        (plan.conclude result, s)

end Plan

/-- A run from its words to its end, with `read` to read the file that it names. -/
def runWith {σ : Type} {m : Type → Type} [Monad m]
    (read : String → m (Except Dataset.FileFault String)) (transport : Transport σ)
    (words : List String) (environment : List (String × String)) (file : Option String) (s : σ) :
    m Ending := do
  match Plan.prepare words environment file with
  | .error ending => return ending
  | .ok plan => return (plan.execute transport (← read plan.path) s).1

end SheetQuery.CommandLine
