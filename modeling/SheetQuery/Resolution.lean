import SheetQuery.Assistant.Prompt
import SheetQuery.Assistant.Reply
import SheetQuery.Assistant.Service
import SheetQuery.Filter.Repair
import SheetQuery.Pattern.Basic
import SheetQuery.Query.Hint

/-!
# Resolving queries

A query becomes a filter by the first of three means that yields one:

1. reading its clauses;
2. a text-generation service, if there is one and its probe succeeds: it is asked for an envelope,
   and once more, with worked examples, if its first answer is malformed;
3. a hint.

Filters are repaired on the way; those of the service are also pruned to known columns, and one that
pruning leaves nothing of counts as no answer.

* `consult`: the part that the service plays;
* `resolve`: all three means.
-/

namespace SheetQuery

/-- The means by which a filter was found. -/
inductive Source where
  | deterministic | ai | heuristic
deriving DecidableEq, Repr

def Source.name : Source → String
  | deterministic => "deterministic"
  | ai => "ai"
  | heuristic => "heuristic"

/-- A repaired filter and where it came from. -/
structure Resolved where
  filter : Filter
  source : Source

/-- The record of a resolved filter for an entity. -/
def Resolved.response (entity : Entity) (resolved : Resolved) : Cell :=
  .record [("kind", .text "filter"), ("entity", .text entity.name),
    ("filter", resolved.filter.encode), ("source", .text resolved.source.name)]

/-- Why no filter was found. -/
inductive Reason where
  /-- There was no usable reply. -/
  | noResponse
  /-- The reply was malformed. -/
  | invalidJson
  /-- The reply was well-formed, but about columns that do not exist. -/
  | noKnownField
deriving DecidableEq, Repr

def Reason.name : Reason → String
  | noResponse => "no_response"
  | invalidJson => "invalid_json"
  | noKnownField => "no_known_field"

/-- Why a query or a search failed. -/
inductive Failure where
  /-- The request is empty or malformed. -/
  | input (message : String)
  /-- No means led to a filter; with the texts of the service's replies. -/
  | unresolved (reason : Reason) (first retry : Option String)
  /-- Repair left a filter that is not well formed. -/
  | malformed (issues : List Issue)
  /-- The service failed in a way that other means do not make up for. -/
  | service (fault : Service.Fault)
  /-- A pattern of the filter holds a number too large to be counted. -/
  | pattern (fault : Pattern.Fault)

/-- The wording for a query that no means led to a filter for. -/
def Failure.unresolvedMessage (reason : Reason) : String :=
  "could not build a filter (" ++ reason.name ++ ")"

/-- The wording of a failure. -/
def Failure.message : Failure → String
  | input message => message
  | unresolved reason _ _ => unresolvedMessage reason
  | malformed _ => "the repaired filter is malformed"
  | service fault => fault.message
  | pattern fault => fault.message

/-- The entity that a cell names. -/
def Entity.require (cell : Cell) : Except Failure Entity :=
  match Entity.ofCell? cell with
  | some entity => .ok entity
  | none => .error (.input ("unknown entity: " ++ String.ofList cell.display))

namespace Resolution

/-- A repaired filter with its source. -/
def repaired (schema : Schema) (source : Source) (filter : Filter) : Except Failure Resolved :=
  match filter.repair schema false with
  | .ok filter => .ok ⟨filter, source⟩
  | .error issues => .error (.malformed issues)

/-! ## The service -/

/-- What one answer of the service amounts to. -/
inductive Verdict where
  | usable (filter : Filter)
  | unknownColumns
  | malformed
  | absent
  | broken (failure : Failure)

/-- The verdict on a reply. -/
def judge (schema : Schema) (reply : String) : Verdict :=
  match Reply.envelope? (.text reply) with
  | none => .malformed
  | some envelope =>
    match envelope.filter.repair schema false with
    | .error issues => .broken (.malformed issues)
    | .ok filter =>
      match filter.prune? schema.names with
      | some kept => .usable kept
      | none => .unknownColumns

/-- The verdict on an answer. An absent service has nothing to say, an answer of unexpected shape is
malformed. -/
def judgeAnswer (schema : Schema) : Except Service.Fault String → Verdict
  | .ok reply => judge schema reply
  | .error (.unusable _) => .malformed
  | .error fault => if fault.isAbsence then .absent else .broken (.service fault)

/-- What consulting the service led to: a filter or a reason against one, and the texts of its
replies. -/
structure Consultation where
  found : Option Filter
  reason : Option Reason
  replies : List String

/-- The consultation without any answer. -/
def Consultation.none : Consultation := ⟨.none, .none, []⟩

/-- What a verdict leads to, when no further attempt is made. `earlier` is the reason so far. -/
def conclude (earlier : Option Reason) (replies : List String) :
    Verdict → Except Failure Consultation
  | .usable filter => .ok ⟨some filter, none, replies⟩
  | .unknownColumns => .ok ⟨none, some .noKnownField, replies⟩
  | .malformed => .ok ⟨none, some .invalidJson, replies⟩
  | .absent => .ok ⟨none, earlier, replies⟩
  | .broken failure => .error failure

/-- The text of an answer, if there is one. -/
def replyTexts (answer : Except Service.Fault String) : List String := answer.toOption.toList

variable {σ : Type}

/-- One request for an envelope. -/
def ask (service : Service σ) (entity : Entity) (schema : Schema) (query : List Char)
    (withExamples : Bool) (s : σ) : Except Service.Fault String × σ :=
  service.generate Prompt.system
    (Prompt.user entity.name schema.names (String.ofList query) withExamples) s

/-- Up to two requests: a second one only after a malformed answer. -/
def askTwice (service : Service σ) (entity : Entity) (schema : Schema) (query : List Char) (s : σ) :
    Except Failure Consultation × σ :=
  let (first, s) := ask service entity schema query false s
  match judgeAnswer schema first with
  | .malformed =>
    let (second, s) := ask service entity schema query true s
    (conclude (some .invalidJson) (replyTexts first ++ replyTexts second)
      (judgeAnswer schema second), s)
  | verdict => (conclude none (replyTexts first) verdict, s)

/-- A probe and, if it succeeds, the requests. -/
def consult (service : Service σ) (entity : Entity) (schema : Schema) (query : List Char) (s : σ) :
    Except Failure Consultation × σ :=
  match service.probe s with
  | (.ok probe, s) =>
    if probe.ok then askTwice service entity schema query s else (.ok .none, s)
  | (.error fault, s) =>
    (if fault.isAbsence then .ok .none else .error (.service fault), s)

/-! ## All means -/

/-- What remains when neither the clauses nor the service led to a filter. -/
def fallBack (entity : Entity) (schema : Schema) (query : List Char) (c : Consultation) :
    Except Failure Resolved :=
  match Query.lastResort? entity schema query with
  | some leaf => repaired schema .heuristic (.leaf leaf)
  | none => .error (.unresolved (c.reason.getD .noResponse) c.replies[0]? c.replies[1]?)

/-- Consults the service, if there is one, and falls back on the hints. -/
def resolveUnread (service : Option (Service σ)) (entity : Entity) (schema : Schema)
    (query : List Char) (s : σ) : Except Failure Resolved × σ :=
  match service with
  | none => (fallBack entity schema query .none, s)
  | some service =>
    match consult service entity schema query s with
    | (.error failure, s) => (.error failure, s)
    | (.ok consultation, s) =>
      match consultation.found with
      | some filter => (.ok ⟨filter, .ai⟩, s)
      | none => (fallBack entity schema query consultation, s)

/-- Resolves a query on a sheet of the given schema. -/
def resolve (service : Option (Service σ)) (entity : Entity) (schema : Schema) (text : List Char)
    (s : σ) : Except Failure Resolved × σ :=
  match Text.trim text with
  | [] => (.error (.input "empty query"), s)
  | query =>
    match Query.filter? entity schema.names query with
    | some filter => (repaired schema .deterministic filter, s)
    | none => resolveUnread service entity schema query s

end Resolution

end SheetQuery
