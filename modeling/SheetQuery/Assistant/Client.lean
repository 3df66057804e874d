import SheetQuery.Assistant.Service
import SheetQuery.Cell.Display
import SheetQuery.Json.Reader
import SheetQuery.Text.Encoding
import SheetQuery.Text.Trim

/-!
# A service over HTTP

The service is reached by two kinds of request: one that lists the installed models and one that
generates a text. What carries the requests is a `Transport`; the client makes the requests and
reads the answers.

* `Client.probe`, `Client.generate`: the two calls, each a single exchange;
* `Client.health`: both calls, for a report;
* `Client.service`: the client as a `Service`.
-/

namespace SheetQuery

/-- How a service is reached: its address, the model, and the seconds a request may take. -/
structure Endpoint where
  baseUrl : String
  model : String
  timeout : Binary64

namespace Endpoint

def defaultBaseUrl : String := "http://127.0.0.1:11434"

def defaultModel : String := "qwen2.5:0.5b-instruct"

/-- The seconds that a request may take, if nothing else is said. -/
def defaultTimeout : Binary64 := .ofRatio false 25 1

end Endpoint

/-- A request; its payload is sent as JSON. -/
structure HttpRequest where
  url : String
  timeout : Binary64
  payload : Option Cell

/-- The method of a request: it posts a payload or gets without one. -/
def HttpRequest.method (request : HttpRequest) : String :=
  if request.payload.isSome then "POST" else "GET"

/-- What a request is answered with. -/
inductive HttpAnswer where
  | body (octets : List UInt8)
  | status (code : Int)
  | unreachable

/-- What carries requests. -/
structure Transport (σ : Type) where
  send : HttpRequest → σ → HttpAnswer × σ

/-- What a health check finds out. -/
structure Health where
  ok : Bool
  models : List Cell
  hasModel : Bool
  generates : Bool
  error : Option String

namespace Client

variable {σ : Type}

/-! ## Addresses -/

/-- The part of a text before the last `c`, or all of it. -/
def beforeLast (c : Char) (cs : List Char) : List Char :=
  match cs.reverse.dropWhile (· ≠ c) with
  | [] => cs
  | _ :: before => before.reverse

/-- A text without the mark `URL:` at its start. -/
def unmarked (cs : List Char) : List Char :=
  if "URL:".toList.isPrefixOf cs then Text.trim (cs.drop 4) else cs

/-- Does an address start with a scheme? A fragment cannot supply it. -/
def hasScheme (url : List Char) : Bool :=
  match (beforeLast '#' url).span fun c => c != '/' && c != ':' with
  | ([], _) => false
  | (_, ':' :: _) => true
  | _ => false

/-- The address of one of the service's paths. -/
def url? (endpoint : Endpoint) (path : String) : Except Service.Fault String :=
  let base := Text.trimEndWith (· == '/') endpoint.baseUrl.toList
  let url := unmarked (Text.trim (base ++ path.toList))
  if hasScheme url then .ok (String.ofList url)
  else .error (.noScheme (String.ofList (displayText (String.ofList url))))

/-! ## Exchanges -/

/-- The JSON value that an answer brings. -/
def readAnswer : HttpAnswer → Except Service.Fault Cell
  | .status code => .error (.unavailable ("LLM HTTP error: " ++ String.ofList (intChars code)))
  | .unreachable => .error (.unavailable "LLM connection error")
  | .body octets =>
    match (Text.Encoding.decode? octets).bind Json.read? with
    | some cell => .ok cell
    | none => .error (.unusable "LLM returned a non-JSON payload")

/-- One exchange. -/
def exchange (transport : Transport σ) (endpoint : Endpoint) (path : String)
    (payload : Option Cell) (s : σ) : Except Service.Fault Cell × σ :=
  match url? endpoint path with
  | .error fault => (.error fault, s)
  | .ok url =>
    let (answer, s) := transport.send ⟨url, endpoint.timeout, payload⟩ s
    (readAnswer answer, s)

/-! ## The list of models -/

/-- Is the value null, false, zero or empty? -/
def isVoid : Cell → Bool
  | .null => true
  | .bool b => !b
  | .int n => n == 0
  | .float (.finite x) => x.units == 0
  | .float _ => false
  | .text s => s == ""
  | .list items => items.isEmpty
  | .record entries => entries.isEmpty

/-- The name of a model in the list of models, if it has one. -/
def modelName? : Cell → Option Cell
  | .record entries =>
    match Entries.get? entries "name" with
    | some name => if isVoid name then none else some name
    | none => none
  | _ => none

/-- The model names in the value that lists the models. -/
def modelNames (listed : Cell) : Except Service.Fault (List Cell) :=
  if isVoid listed then .ok []
  else match listed with
    | .list items => .ok (items.filterMap modelName?)
    | .bool _ => .error (.notIterable "bool")
    | .int _ => .error (.notIterable "int")
    | .float _ => .error (.notIterable "float")
    | _ => .ok []

/-- The model names in the answer to a probe. -/
def modelsOf : Cell → Except Service.Fault (List Cell)
  | .record entries => modelNames ((Entries.get? entries "models").getD .null)
  | _ => .ok []

/-! ## Calls -/

/-- What a probe makes of its answer. A service that is not there, or that answers nonsense, is not
ok; that is no fault of the call. -/
def readProbe : Except Service.Fault Cell → Except Service.Fault Service.Probe
  | .ok cell => (modelsOf cell).map fun models => ⟨true, models, none⟩
  | .error (.noScheme url) => .error (.noScheme url)
  | .error fault => .ok ⟨false, [], some fault.message⟩

/-- Asks for the installed models. -/
def probe (transport : Transport σ) (endpoint : Endpoint) (s : σ) :
    Except Service.Fault Service.Probe × σ :=
  let (answer, s) := exchange transport endpoint "/api/tags" none s
  (readProbe answer, s)

/-- The settings of a generation: no chance, a short context. -/
def generationOptions : Cell :=
  .record [("temperature", .int 0), ("top_p", .float (.ofRatio false 1 10)), ("num_ctx", .int 4096)]

/-- What is sent for a generation. -/
def generationPayload (endpoint : Endpoint) (system prompt : String) : Cell :=
  .record [("model", .text endpoint.model), ("system", .text system), ("prompt", .text prompt),
    ("stream", .bool false), ("format", .text "json"), ("options", generationOptions)]

/-- The generated text in an answer. -/
def generatedText : Cell → Except Service.Fault String
  | .record entries =>
    match Entries.get? entries "response" with
    | some (.text reply) => .ok reply
    | _ => .error (.unusable "Unexpected LLM response format")
  | _ => .error (.unusable "Unexpected LLM response format")

/-- Asks for a generation. -/
def generate (transport : Transport σ) (endpoint : Endpoint) (system prompt : String) (s : σ) :
    Except Service.Fault String × σ :=
  let (answer, s) :=
    exchange transport endpoint "/api/generate" (some (generationPayload endpoint system prompt)) s
  (answer.bind generatedText, s)

/-- The prompt of a health check. -/
def healthPrompt : String :=
  "\x7b\"kind\":\"filter\",\"entity\":\"tasks\",\"filter\":"
    ++ "\x7b\"op\":\"cmp\",\"field\":\"Duration\",\"cmp\":\">\",\"value\":2\x7d\x7d"

/-- Is a model of this name among the listed ones? -/
def lists (models : List Cell) (model : String) : Bool :=
  models.any fun listed => match listed with
    | .text name => name == model
    | _ => false

/-- What a generation adds to a health check. -/
def readHealth (models : List Cell) (hasModel : Bool) :
    Except Service.Fault String → Except Service.Fault Health
  | .ok reply => .ok ⟨hasModel && reply != "", models, hasModel, reply != "", none⟩
  | .error (.noScheme url) => .error (.noScheme url)
  | .error fault => .ok ⟨false, models, hasModel, false, some fault.message⟩

/-- Checks the service: a probe and, if it succeeds, a small generation. -/
def health (transport : Transport σ) (endpoint : Endpoint) (s : σ) :
    Except Service.Fault Health × σ :=
  match probe transport endpoint s with
  | (.error fault, s) => (.error fault, s)
  | (.ok found, s) =>
    let hasModel := lists found.models endpoint.model
    if found.ok then
      let (reply, s) := generate transport endpoint "" healthPrompt s
      (readHealth found.models hasModel reply, s)
    else (.ok ⟨false, found.models, hasModel, false, found.error⟩, s)

/-- A caller's deadline for a call of the service. -/
inductive Deadline where
  /-- The call may take its time. -/
  | ample
  /-- The call is made, but its answer comes too late. -/
  | instant
  /-- The call is not even made. -/
  | past
deriving DecidableEq, Repr

/-- The deadline that so many seconds make. -/
def Deadline.ofSeconds : Binary64 → Deadline
  | .finite x => if x.negative || x.units == 0 then .past else .ample
  | .infinite negative => if negative then .past else .ample
  | .nan => .instant

/-- A call under a deadline. -/
def Deadline.bound {α : Type} (deadline : Deadline) (call : σ → Except Service.Fault α × σ)
    (s : σ) : Except Service.Fault α × σ :=
  match deadline with
  | .ample => call s
  | .instant => (.error .overdue, (call s).2)
  | .past => (.error .overdue, s)

/-- The client as a service whose calls are bounded by a deadline. -/
def service (transport : Transport σ) (endpoint : Endpoint) (deadline : Deadline) : Service σ where
  probe := deadline.bound (probe transport endpoint)
  generate system prompt := deadline.bound (generate transport endpoint system prompt)

end Client

end SheetQuery
