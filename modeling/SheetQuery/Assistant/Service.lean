import SheetQuery.Cell.Basic

/-!
# The text-generation service, as its callers see it

Two calls: a probe, which lists the installed models, and a generation. A service is given by how it
answers a call and what the call leaves behind; the state `σ` may be a script, a log of requests or
nothing at all.
-/

namespace SheetQuery

/-- Why a call brought no answer. -/
inductive Service.Fault where
  /-- The service cannot be reached or answers with an error status. -/
  | unavailable (message : String)
  /-- The service answers with something of unexpected shape. -/
  | unusable (message : String)
  /-- The caller's deadline passes before the answer comes. -/
  | overdue
  /-- The address has no scheme, so that no request can be made. -/
  | noScheme (url : String)
  /-- The list of models is a value of a kind that cannot be gone through. -/
  | notIterable (kind : String)
deriving DecidableEq, Repr

/-- What a probe finds out. -/
structure Service.Probe where
  ok : Bool
  models : List Cell
  error : Option String

/-- A service with state. -/
structure Service (σ : Type) where
  probe : σ → Except Service.Fault Service.Probe × σ
  generate : (system prompt : String) → σ → Except Service.Fault String × σ

namespace Service.Fault

/-- The wording of a fault. -/
def message : Fault → String
  | unavailable message => message
  | unusable message => message
  | overdue => "LLM call timed out"
  | noScheme url => "unknown url type: " ++ url
  | notIterable kind => "'" ++ kind ++ "' object is not iterable"

/-- Is the service just not there? Then other means take over. -/
def isAbsence : Fault → Bool
  | unavailable _ => true
  | overdue => true
  | _ => false

end Service.Fault

end SheetQuery
