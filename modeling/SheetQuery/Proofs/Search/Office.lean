import SheetQuery.Search.Session

/-!
# Runs of several sessions at one desk

Sessions share a desk: the row store and the cache. The two halves of a search are events of their
own, so that a run is any interleaving of starts and finishes of searches, of any sessions and on any
entities, with changes of the store between them. How a resolution ends is left open: with any
filter, with any failure, or cancelled.

* `Office`, `Event`, `Office.step`, `Office.run`: the state, what may happen, and runs;
* `Office.given`: the numbers that a run gives out to searches;
* `Session.Starts`, `Session.Finishes`: all that the two halves of a search can do.
-/

namespace SheetQuery

/-- A checked search is on the entity that its input names, over the rows of the moment. -/
theorem Search.spec_of_check {samples : Nat} {store : Store} {entity : Cell} {text : String}
    {search : Search} (h : Search.check samples store entity text = .ok search) :
    (Entity.require entity).toOption = some search.entity ∧
      search.base = store.rows search.entity := by
  unfold check at h
  cases hentity : Entity.require entity with
  | error failure =>
    rw [hentity] at h
    cases h
  | ok target =>
    simp only [hentity, bind, Except.bind] at h
    split at h
    · cases h
    · split at h
      · cases h
      · split at h
        · cases h
        · obtain rfl := Except.ok.inj h
          exact ⟨rfl, rfl⟩

namespace Session

/-! ## What the two halves of a search can do -/

/-- The desk after the cache has been asked for the filter of a search. -/
def consulted (desk : Desk) (search : Search) : Desk :=
  { desk with cache := (desk.cache.read search.key).2 }

/-- The desk that shows an outcome, if there is one to show. -/
def shown (desk : Desk) (preview : Option Outcome) : Desk :=
  match preview with
  | none => desk
  | some outcome => desk.present outcome

/-- All that the first half of a search can come to. -/
inductive Starts (samples : Nat) (session : Session) (desk : Desk) (entity : Cell) (text : String) :
    Started × Session × Desk → Prop where
  /-- The input is refused, and nothing changes. -/
  | refused (failure : Failure) (hcheck : Search.check samples desk.store entity text = .error failure) :
      Starts samples session desk entity text (.ended (.error failure), session, desk)
  /-- The filter is in the cache. -/
  | replayed (search : Search) (resolved : Resolved) (rows : List Row)
      (hcheck : Search.check samples desk.store entity text = .ok search)
      (hread : (desk.cache.read search.key).1 = some resolved)
      (hrows : search.matching resolved.filter = .ok rows) :
      Starts samples session desk entity text
        (.ended (.ok ⟨search.entity, rows, resolved.filter, .cache, session.lastSeq + 1, false⟩),
          session.register search.entity,
          (consulted desk search).present
            ⟨search.entity, rows, resolved.filter, .cache, session.lastSeq + 1, false⟩)
  /-- The filter in the cache or the preview cannot be evaluated. -/
  | failed (search : Search) (failure : Failure)
      (hcheck : Search.check samples desk.store entity text = .ok search) :
      Starts samples session desk entity text
        (.ended (.error failure), session.register search.entity, consulted desk search)
  /-- The filter has to be resolved, and a preview may be shown until then. -/
  | waits (search : Search) (preview : Option Outcome)
      (hcheck : Search.check samples desk.store entity text = .ok search)
      (hread : (desk.cache.read search.key).1 = none)
      (hpreview : search.preview? (session.lastSeq + 1) = preview.map .ok) :
      Starts samples session desk entity text
        (.waiting ⟨search, session.lastSeq + 1, preview⟩,
          (session.register search.entity).awaiting ⟨search, session.lastSeq + 1, preview⟩,
          shown (consulted desk search) preview)

theorem starts (samples : Nat) (session : Session) (desk : Desk) (entity : Cell) (text : String) :
    Starts samples session desk entity text (session.start samples desk entity text) := by
  unfold start
  cases hcheck : Search.check samples desk.store entity text with
  | error failure => exact .refused failure hcheck
  | ok search =>
    simp only [enter]
    cases hread : (desk.cache.read search.key).1 with
    | some resolved =>
      simp only [replay]
      cases hrows : search.matching resolved.filter with
      | error failure => exact .failed search failure hcheck
      | ok rows => exact .replayed search resolved rows hcheck hread hrows
    | none =>
      simp only [await, register]
      cases hpreview : search.preview? (session.lastSeq + 1) with
      | none => exact .waits search none hcheck hread hpreview
      | some result =>
        cases result with
        | error failure => exact .failed search failure hcheck
        | ok outcome => exact .waits search (some outcome) hcheck hread hpreview

/-- All that the second half of a search can come to. -/
inductive Finishes (session : Session) (desk : Desk) (ticket : Ticket)
    (ending : Option (Except Failure Resolved)) :
    Option (Except Failure Outcome) × Session × Desk → Prop where
  /-- The search was cancelled or has been superseded. -/
  | discarded (hcause : ending = none ∨ session.isCurrent ticket = false) :
      Finishes session desk ticket ending (none, session.settled ticket, desk)
  /-- The resolution failed, or its filter cannot be evaluated. -/
  | failed (failure : Failure) (hcurrent : session.isCurrent ticket = true) :
      Finishes session desk ticket ending (some (.error failure), session.settled ticket, desk)
  /-- No filter was found, and the preview stays. -/
  | kept (outcome : Outcome) (hcurrent : session.isCurrent ticket = true)
      (hpreview : ticket.preview = some outcome) :
      Finishes session desk ticket ending (some (.ok outcome), session.settled ticket, desk)
  /-- A filter was found: it is remembered, and its rows are shown. -/
  | found (resolved : Resolved) (outcome : Outcome) (hcurrent : session.isCurrent ticket = true)
      (hending : ending = some (.ok resolved))
      (houtcome : ticket.search.outcome ticket.seq resolved = .ok outcome) :
      Finishes session desk ticket ending
        (some (.ok outcome), session.settled ticket,
          (desk.remember ticket.search.key ⟨outcome.filter, resolved.source⟩).present outcome)

@[simp] theorem settled_latest (session : Session) (ticket : Ticket) :
    (session.settled ticket).latest = session.latest := by
  unfold settled
  split <;> rfl

@[simp] theorem settled_lastSeq (session : Session) (ticket : Ticket) :
    (session.settled ticket).lastSeq = session.lastSeq := by
  unfold settled
  split <;> rfl

@[simp] theorem settled_isCurrent (session : Session) (ticket other : Ticket) :
    (session.settled ticket).isCurrent other = session.isCurrent other := by
  simp [isCurrent]

theorem finishes (session : Session) (desk : Desk) (ticket : Ticket)
    (ending : Option (Except Failure Resolved)) :
    Finishes session desk ticket ending (session.finish desk ticket ending) := by
  unfold finish
  cases ending with
  | none => exact .discarded (.inl rfl)
  | some result =>
    simp only [settled_isCurrent]
    -- the ticket is looked at once more: a newer one may have been given meanwhile
    cases hcurrent : session.isCurrent ticket with
    | false => exact .discarded (.inr hcurrent)
    | true =>
      simp only [if_true, conclude]
      cases result with
      | ok resolved =>
        cases houtcome : ticket.search.outcome ticket.seq resolved with
        | error failure =>
          simp only [houtcome]
          exact .failed failure hcurrent
        | ok outcome =>
          simp only [houtcome]
          exact .found resolved outcome hcurrent rfl houtcome
      | error failure =>
        cases failure with
        | unresolved reason first retry =>
          cases hpreview : ticket.preview with
          | none => exact .failed _ hcurrent
          | some outcome => exact .kept outcome hcurrent hpreview
        | _ => exact .failed _ hcurrent

end Session

/-! ## Offices -/

/-- The sessions at one desk, and their searches that wait for a resolution. -/
structure Office where
  desk : Desk
  sessions : Nat → Session
  waiting : List (Nat × Ticket)

/-- What may happen at an office. A waiting search is named by its place among the waiting ones. -/
inductive Event where
  | start (who : Nat) (entity : Cell) (text : String)
  | finish (place : Nat) (ending : Option (Except Failure Resolved))
  | clear (entity : Entity)
  | setRows (entity : Entity) (rows : List Row)
  | reset

/-- What an event is answered with: nothing, the end of a search, or word that the search waits. -/
inductive Reply where
  | none
  | waits
  | ended (result : Except Failure Outcome)
  | superseded

namespace Office

/-- The office before its first event: no session has searched yet. -/
def opening (desk : Desk) : Office := ⟨desk, fun _ => .new, []⟩

/-- The sessions with one of them replaced. -/
def seat (sessions : Nat → Session) (who : Nat) (session : Session) : Nat → Session :=
  fun other => if other = who then session else sessions other

@[simp] theorem seat_self (sessions : Nat → Session) (who : Nat) (session : Session) :
    seat sessions who session who = session := by
  simp [seat]

@[simp] theorem seat_of_ne {who other : Nat} (sessions : Nat → Session) (session : Session)
    (h : other ≠ who) : seat sessions who session other = sessions other := by
  simp [seat, h]

/-- Seating a session at its own place changes nothing. -/
@[simp] theorem seat_same (sessions : Nat → Session) (who : Nat) :
    seat sessions who (sessions who) = sessions := by
  funext other
  by_cases h : other = who
  · rw [h, seat_self]
  · rw [seat_of_ne _ _ h]

/-- The first half of a search. -/
def begin (samples : Nat) (office : Office) (who : Nat) (entity : Cell) (text : String) :
    Reply × Office :=
  match (office.sessions who).start samples office.desk entity text with
  | (.ended result, session, desk) =>
    (.ended result, ⟨desk, seat office.sessions who session, office.waiting⟩)
  | (.waiting ticket, session, desk) =>
    (.waits, ⟨desk, seat office.sessions who session, (who, ticket) :: office.waiting⟩)

/-- The second half of a waiting search. -/
def conclude (office : Office) (place : Nat) (ending : Option (Except Failure Resolved)) :
    Reply × Office :=
  match office.waiting[place]? with
  | none => (.none, office)
  | some (who, ticket) =>
    let (result, session, desk) := (office.sessions who).finish office.desk ticket ending
    (result.elim .superseded .ended,
      ⟨desk, seat office.sessions who session, office.waiting.eraseIdx place⟩)

/-- One event: its answer and the office after it. -/
def step (samples : Nat) (office : Office) : Event → Reply × Office
  | .start who entity text => office.begin samples who entity text
  | .finish place ending => office.conclude place ending
  | .clear entity => (.none, { office with desk := Session.clear office.desk entity })
  | .setRows entity rows =>
    (.none, { office with desk.store := office.desk.store.setRows entity rows })
  | .reset => (.none, { office with desk.store := .empty })

/-- The office after a run of events. -/
def run (samples : Nat) (office : Office) (events : List Event) : Office :=
  events.foldl (fun office event => (office.step samples event).2) office

@[simp] theorem run_nil (samples : Nat) (office : Office) : office.run samples [] = office := rfl

@[simp] theorem run_cons (samples : Nat) (office : Office) (event : Event) (events : List Event) :
    office.run samples (event :: events) = (office.step samples event).2.run samples events := rfl

/-- A search that was given a number: whose it is, on which entity, and the number. -/
structure Numbered where
  who : Nat
  entity : Entity
  seq : Nat
deriving DecidableEq, Repr

/-- The number that an event gives out. A search whose input is refused gets none. -/
def givenBy (samples : Nat) (office : Office) : Event → List Numbered
  | .start who entity text =>
    match Search.check samples office.desk.store entity text with
    | .ok search => [⟨who, search.entity, (office.sessions who).lastSeq + 1⟩]
    | .error _ => []
  | _ => []

/-- The numbers that a run gives out, the last one first. -/
def given (samples : Nat) (office : Office) (events : List Event) : List Numbered :=
  match events with
  | [] => []
  | event :: events =>
    given samples (office.step samples event).2 events ++ office.givenBy samples event

end Office

end SheetQuery
