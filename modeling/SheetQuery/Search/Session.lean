import SheetQuery.Filter.Matching
import SheetQuery.Resolution
import SheetQuery.Schema.Inference
import SheetQuery.Search.Cache
import SheetQuery.Store

/-!
# Search sessions

A search shows an instant preview, then replaces it with the rows of the resolved filter. Resolving
takes time, so a search has two halves: `start`, up to the resolution, and `finish`, from its result
on. Between them, other searches may start and finish. Each search of a session gets a number, and a
search that is no longer the latest on its entity when its result arrives has been superseded: it
leaves everything as it is. So does a search whose resolution was cancelled.

* `start`: the checks of the input, the number, the look-up in the cache and the preview;
* `finish`: the rows of the resolved filter, softened if there are none;
* `complete`: the resolution and `finish`;
* `run`: a search from its start to its end.
-/

namespace SheetQuery

/-- What sessions share: the rows and the cache of resolved filters. -/
structure Desk where
  store : Store
  cache : Cache Cache.Key Resolved

/-- Where the filter of a search came from. -/
inductive Origin where
  | resolved (source : Source)
  | cache
  | preview
deriving DecidableEq, Repr

def Origin.name : Origin → String
  | resolved source => source.name
  | cache => "cache"
  | preview => "preview"

/-- What a search found: the rows it showed, the filter they passed, where that filter came from,
the number of the search and whether the filter was softened. -/
structure Outcome where
  entity : Entity
  rows : List Row
  filter : Filter
  origin : Origin
  seq : Nat
  softened : Bool

/-- The searches of one caller: the number of the last one, that of the latest one on each entity,
and those whose resolution is under way. -/
structure Session where
  lastSeq : Nat
  latest : Entity → Option Nat
  inflight : Entity → Option Nat

/-- The session that has not searched yet. -/
def Session.new : Session := ⟨0, fun _ => none, fun _ => none⟩

/-- How many samples of a column a search looks at, if nothing else is said. -/
def Session.defaultSamples : Nat := 4

/-- A search whose input has been checked. -/
structure Search where
  entity : Entity
  query : List Char
  base : List Row
  schema : Schema

/-- What a started search keeps until it finishes. -/
structure Ticket where
  search : Search
  seq : Nat
  preview : Option Outcome

/-- How far the first half of a search gets: to an end, or to a resolution that it waits for. -/
inductive Started where
  | ended (result : Except Failure Outcome)
  | waiting (ticket : Ticket)

namespace Search

/-- What the search is remembered by. -/
def key (search : Search) : Cache.Key :=
  Cache.Key.of search.entity.name search.schema.names (String.ofList search.query)

/-- Checks the input of a search. -/
def check (samples : Nat) (store : Store) (entity : Cell) (text : String) :
    Except Failure Search := do
  let entity ← Entity.require entity
  let query := Text.trim text.toList
  if query.isEmpty then throw (.input "Tell me what to find.")
  let base := store.rows entity
  if base.isEmpty then throw (.input "Load some data first.")
  let schema := Schema.infer base samples
  if schema.isEmpty then throw (.input "Could not infer the schema yet.")
  return ⟨entity, query, base, schema⟩

/-- The rows of a search that a filter keeps. -/
def matching (search : Search) (filter : Filter) : Except Failure (List Row) :=
  match filter.apply search.base with
  | .ok rows => .ok rows
  | .error fault => .error (.pattern fault)

/-- The instant answer to a search, if a hint gives one. -/
def preview? (search : Search) (seq : Nat) : Option (Except Failure Outcome) :=
  (Query.preview? search.entity search.schema search.query).map fun leaf =>
    (search.matching (.leaf leaf)).map fun rows =>
      ⟨search.entity, rows, .leaf leaf, .preview, seq, false⟩

/-- The softened filter of a search, if softening changes it. -/
def softened? (search : Search) (filter : Filter) : Except Failure (Option Filter) :=
  match filter.repair search.schema true with
  | .error issues => .error (.malformed issues)
  | .ok soft => .ok (if soft.agrees filter then none else some soft)

/-- What a resolved filter finds. A filter that keeps no row gets a second chance, softened. -/
def outcome (search : Search) (seq : Nat) (resolved : Resolved) : Except Failure Outcome := do
  let found (filter : Filter) (rows : List Row) (softened : Bool) : Outcome :=
    ⟨search.entity, rows, filter, .resolved resolved.source, seq, softened⟩
  let rows ← search.matching resolved.filter
  if rows.isEmpty then
    match ← search.softened? resolved.filter with
    | none => return found resolved.filter rows false
    | some soft => return found soft (← search.matching soft) true
  else return found resolved.filter rows false

end Search

namespace Desk

/-- Shows the rows of an outcome. -/
def present (desk : Desk) (outcome : Outcome) : Desk :=
  { desk with store := desk.store.setFiltered outcome.entity (some outcome.rows) }

/-- Remembers the filter that a resolved one led to. -/
def remember (desk : Desk) (key : Cache.Key) (resolved : Resolved) : Desk :=
  { desk with cache := desk.cache.store key resolved }

end Desk

namespace Session

/-- The session with a new search on an entity: it has the next number, is the latest, and an
earlier one is no longer under way. -/
def register (session : Session) (entity : Entity) : Session :=
  ⟨session.lastSeq + 1, Entity.update session.latest entity (some (session.lastSeq + 1)),
    Entity.update session.inflight entity none⟩

/-- Has no later search on its entity begun? -/
def isCurrent (session : Session) (ticket : Ticket) : Bool :=
  session.latest ticket.search.entity == some ticket.seq

/-- The session in which a search waits for its resolution. -/
def awaiting (session : Session) (ticket : Ticket) : Session :=
  { session with inflight := Entity.update session.inflight ticket.search.entity (some ticket.seq) }

/-- The session in which a search no longer waits. -/
def settled (session : Session) (ticket : Ticket) : Session :=
  if session.inflight ticket.search.entity = some ticket.seq then
    { session with inflight := Entity.update session.inflight ticket.search.entity none }
  else session

/-- A search whose filter is in the cache. -/
def replay (session : Session) (desk : Desk) (search : Search) (resolved : Resolved) :
    Started × Session × Desk :=
  match search.matching resolved.filter with
  | .error failure => (.ended (.error failure), session, desk)
  | .ok rows =>
    let outcome : Outcome :=
      ⟨search.entity, rows, resolved.filter, .cache, session.lastSeq, false⟩
    (.ended (.ok outcome), session, desk.present outcome)

/-- A search whose filter has to be resolved: its preview is shown until then. -/
def await (session : Session) (desk : Desk) (search : Search) : Started × Session × Desk :=
  match search.preview? session.lastSeq with
  | none =>
    let ticket : Ticket := ⟨search, session.lastSeq, none⟩
    (.waiting ticket, session.awaiting ticket, desk)
  | some (.ok outcome) =>
    let ticket : Ticket := ⟨search, session.lastSeq, some outcome⟩
    (.waiting ticket, session.awaiting ticket, desk.present outcome)
  | some (.error failure) => (.ended (.error failure), session, desk)

/-- A checked search, from its number on. -/
def enter (session : Session) (desk : Desk) (search : Search) : Started × Session × Desk :=
  let session := session.register search.entity
  let (known, cache) := desk.cache.read search.key
  let desk := { desk with cache := cache }
  match known with
  | some resolved => session.replay desk search resolved
  | none => session.await desk search

/-- The first half of a search. -/
def start (samples : Nat) (session : Session) (desk : Desk) (entity : Cell) (text : String) :
    Started × Session × Desk :=
  match Search.check samples desk.store entity text with
  | .error failure => (.ended (.error failure), session, desk)
  | .ok search => session.enter desk search

/-- What a search that has not been superseded makes of its resolution: an outcome and the desk
after it. -/
def conclude (desk : Desk) (ticket : Ticket) (result : Except Failure Resolved) :
    Except Failure Outcome × Desk :=
  match result with
  | .ok resolved =>
    match ticket.search.outcome ticket.seq resolved with
    | .error failure => (.error failure, desk)
    | .ok outcome =>
      (.ok outcome,
        (desk.remember ticket.search.key ⟨outcome.filter, resolved.source⟩).present outcome)
  | .error (.unresolved reason first retry) =>
    match ticket.preview with
    | some outcome => (.ok outcome, desk)
    | none => (.error (.unresolved reason first retry), desk)
  | .error failure => (.error failure, desk)

/-- The second half of a search, from what its resolution came to, or from nothing if the resolution
was cancelled; `none` if the search was cancelled or has been superseded. -/
def finish (session : Session) (desk : Desk) (ticket : Ticket)
    (ending : Option (Except Failure Resolved)) :
    Option (Except Failure Outcome) × Session × Desk :=
  let session := session.settled ticket
  match ending with
  | none => (none, session, desk)
  | some result =>
    if session.isCurrent ticket then
      let (outcome, desk) := conclude desk ticket result
      (some outcome, session, desk)
    else (none, session, desk)

/-- Resolves the filter of a waiting search. -/
def resolve {σ : Type} (service : Option (Service σ)) (ticket : Ticket) (s : σ) :
    Except Failure Resolved × σ :=
  Resolution.resolve service ticket.search.entity ticket.search.schema ticket.search.query s

/-- The second half of a search with the resolution before it, which is cancelled if the search has
been superseded. -/
def complete {σ : Type} (session : Session) (service : Option (Service σ)) (desk : Desk)
    (ticket : Ticket) (s : σ) : Option (Except Failure Outcome) × Session × Desk × σ :=
  if session.isCurrent ticket then
    let (result, s) := resolve service ticket s
    let (outcome, session, desk) := session.finish desk ticket (some result)
    (outcome, session, desk, s)
  else
    let (outcome, session, desk) := session.finish desk ticket none
    (outcome, session, desk, s)

/-- A search on its own: both halves, with nothing between them. -/
def run {σ : Type} (service : Option (Service σ)) (samples : Nat) (session : Session) (desk : Desk)
    (entity : Cell) (text : String) (s : σ) :
    Option (Except Failure Outcome) × Session × Desk × σ :=
  match session.start samples desk entity text with
  | (.ended result, session, desk) => (some result, session, desk, s)
  | (.waiting ticket, session, desk) => session.complete service desk ticket s

/-- Clears the view of an entity. -/
def clear (desk : Desk) (entity : Entity) : Desk :=
  { desk with store := desk.store.setFiltered entity none }

end Session

end SheetQuery
