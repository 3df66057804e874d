import Mathlib.Data.List.Basic
import SheetQuery.Proofs.Search.Office

/-!
# What one event does

Each event of an office is of one of twelve kinds, and each kind changes the store in one way only:
a search writes the outcome that it shows, into the view of its own sheet, and nothing else.

* `Office.shownBy`: the outcome that an event puts on view, a preview or what a search found;
* `Office.Moves`, `moves`: all that an event can do, to the store, the sessions and the waiting
  searches;
* `Moves.store_eq`: the store after a search event, from the outcome that it shows;
* `Office.Issues`, `mem_or_issues_of_mem_step`: a search that waits did so before, or begins with the
  event;
* `Office.IsProper`: a waiting search has a preview of its own, of rows that its filter keeps;
* `Office.IsSolo`: the waiting searches are those of a single session, each with its own number.
-/

namespace SheetQuery

/-! ## Stores -/

@[simp] theorem Store.filtered_setFiltered (store : Store) (entity : Entity)
    (view : Option (List Row)) :
    (store.setFiltered entity view).filtered = Entity.update store.filtered entity view := rfl

/-- The store that shows an outcome, if there is one to show. -/
def Store.showing (store : Store) : Option Outcome → Store
  | none => store
  | some outcome => store.setFiltered outcome.entity (some outcome.rows)

@[simp] theorem Store.rows_showing (store : Store) (outcome : Option Outcome) :
    (store.showing outcome).rows = store.rows := by
  cases outcome <;> rfl

@[simp] theorem Store.filtered_showing_self (store : Store) (outcome : Outcome) :
    (store.showing (some outcome)).filtered outcome.entity = some outcome.rows :=
  Entity.update_self _ _ _

theorem Store.filtered_showing_some_of_ne {store : Store} {outcome : Outcome} {entity : Entity}
    (h : outcome.entity ≠ entity) :
    (store.showing (some outcome)).filtered entity = store.filtered entity :=
  Entity.update_of_ne _ _ h.symm

theorem Store.filtered_showing_of_ne {store : Store} {outcome : Option Outcome} {entity : Entity}
    (h : ∀ shown ∈ outcome, shown.entity ≠ entity) :
    (store.showing outcome).filtered entity = store.filtered entity := by
  cases outcome with
  | none => rfl
  | some shown => exact filtered_showing_some_of_ne (h shown rfl)

namespace Session

theorem finish_ok (session : Session) (desk : Desk) (ticket : Ticket) (resolved : Resolved) :
    session.finish desk ticket (some (.ok resolved)) =
      if session.isCurrent ticket then
        match ticket.search.outcome ticket.seq resolved with
        | .error failure => (some (.error failure), session.settled ticket, desk)
        | .ok outcome =>
          (some (.ok outcome), session.settled ticket,
            (desk.remember ticket.search.key ⟨outcome.filter, resolved.source⟩).present outcome)
      else (none, session.settled ticket, desk) := by
  simp only [finish, settled_isCurrent, conclude]
  cases ticket.search.outcome ticket.seq resolved <;> rfl

end Session

/-! ## Outcomes -/

/-- Has the outcome the rows that its filter keeps of a search? -/
structure Outcome.IsOf (outcome : Outcome) (search : Search) : Prop where
  entity : outcome.entity = search.entity
  rows : outcome.filter.apply search.base = .ok outcome.rows

theorem Search.apply_of_matching {search : Search} {filter : Filter} {rows : List Row}
    (h : search.matching filter = .ok rows) : filter.apply search.base = .ok rows := by
  unfold matching at h
  split at h
  · next found heq => rw [heq, Except.ok.inj h]
  · cases h

theorem Search.isOf_of_outcome {search : Search} {seq : Nat} {resolved : Resolved}
    {outcome : Outcome} (h : search.outcome seq resolved = .ok outcome) :
    outcome.IsOf search ∧ outcome.seq = seq := by
  simp only [Search.outcome, bind, Except.bind] at h
  split at h
  · cases h
  · next rows hrows =>
    split at h
    · -- no row is kept, so the softened filter has its chance
      split at h
      · cases h
      · split at h
        · obtain rfl := Except.ok.inj h
          exact ⟨⟨rfl, apply_of_matching hrows⟩, rfl⟩
        · split at h
          · cases h
          · next soft hsoft =>
            obtain rfl := Except.ok.inj h
            exact ⟨⟨rfl, apply_of_matching hsoft⟩, rfl⟩
    · obtain rfl := Except.ok.inj h
      exact ⟨⟨rfl, apply_of_matching hrows⟩, rfl⟩

/-- A waiting search has a preview of its own, of rows that its filter keeps. -/
def Ticket.IsProper (ticket : Ticket) : Prop :=
  ∀ outcome ∈ ticket.preview,
    outcome.IsOf ticket.search ∧ outcome.seq = ticket.seq ∧ outcome.origin = .preview

theorem Search.isProper_of_preview? {search : Search} {seq : Nat} {preview : Option Outcome}
    (h : search.preview? seq = preview.map .ok) : Ticket.IsProper ⟨search, seq, preview⟩ := by
  intro outcome houtcome
  obtain rfl := Option.mem_def.mp houtcome
  rw [Option.map_some] at h
  obtain ⟨leaf, -, hleaf⟩ := Option.map_eq_some_iff.mp h
  cases hrows : search.matching (.leaf leaf) with
  | error failure =>
    rw [hrows] at hleaf
    cases hleaf
  | ok rows =>
    rw [hrows] at hleaf
    obtain rfl := Except.ok.inj hleaf
    exact ⟨⟨rfl, apply_of_matching hrows⟩, rfl, rfl⟩

/-! ## Events -/

/-- The outcome that a start puts on view: its own, or its preview. -/
def Started.shown? : Started → Option Outcome
  | .ended result => result.toOption
  | .waiting ticket => ticket.preview

/-- The outcome that an event is answered with. -/
def Reply.outcome? : Reply → Option Outcome
  | .ended result => result.toOption
  | _ => .none

theorem Reply.eq_of_outcome? {reply : Reply} {outcome : Outcome}
    (h : reply.outcome? = some outcome) : reply = .ended (.ok outcome) := by
  cases reply with
  | ended result =>
    cases result with
    | ok found => rw [Option.some.inj h]
    | error failure => cases h
  | _ => cases h

namespace Office

/-- The outcome that an event puts on view. A search that ends with its preview shows nothing
new. -/
def shownBy (samples : Nat) (office : Office) (event : Event) : Option Outcome :=
  match event with
  | .start who entity text =>
    ((office.sessions who).start samples office.desk entity text).1.shown?
  | .finish _ (some (.ok _)) => (office.step samples event).1.outcome?
  | _ => none

/-- All that an event can do: its answer, the outcome that it shows, and the office after it. -/
inductive Moves (samples : Nat) (office : Office) :
    Event → Reply → Option Outcome → Office → Prop where
  /-- The input of a search is refused. -/
  | refused (who : Nat) (entity : Cell) (text : String) (failure : Failure) :
      Moves samples office (.start who entity text) (.ended (.error failure)) none office
  /-- A search finds its filter in the cache. -/
  | replayed (who : Nat) (entity : Cell) (text : String) (search : Search) (outcome : Outcome)
      (cache : Cache Cache.Key Resolved)
      (hcheck : Search.check samples office.desk.store entity text = .ok search)
      (hof : outcome.IsOf search) (hseq : outcome.seq = (office.sessions who).lastSeq + 1) :
      Moves samples office (.start who entity text) (.ended (.ok outcome)) (some outcome)
        ⟨⟨office.desk.store.showing (some outcome), cache⟩,
          seat office.sessions who ((office.sessions who).register search.entity), office.waiting⟩
  /-- A search begins with a filter that cannot be evaluated. -/
  | failed (who : Nat) (entity : Cell) (text : String) (search : Search) (failure : Failure)
      (cache : Cache Cache.Key Resolved)
      (hcheck : Search.check samples office.desk.store entity text = .ok search) :
      Moves samples office (.start who entity text) (.ended (.error failure)) none
        ⟨⟨office.desk.store, cache⟩,
          seat office.sessions who ((office.sessions who).register search.entity), office.waiting⟩
  /-- A search waits for its resolution, perhaps with a preview. -/
  | waits (who : Nat) (entity : Cell) (text : String) (ticket : Ticket)
      (cache : Cache Cache.Key Resolved)
      (hcheck : Search.check samples office.desk.store entity text = .ok ticket.search)
      (hseq : ticket.seq = (office.sessions who).lastSeq + 1) (hproper : ticket.IsProper) :
      Moves samples office (.start who entity text) .waits ticket.preview
        ⟨⟨office.desk.store.showing ticket.preview, cache⟩,
          seat office.sessions who
            (((office.sessions who).register ticket.search.entity).awaiting ticket),
          (who, ticket) :: office.waiting⟩
  /-- No search waits at the place. -/
  | absent (place : Nat) (ending : Option (Except Failure Resolved))
      (hplace : office.waiting[place]? = none) :
      Moves samples office (.finish place ending) .none none office
  /-- A search was cancelled or has been superseded. -/
  | discarded (place : Nat) (ending : Option (Except Failure Resolved)) (who : Nat)
      (ticket : Ticket) (hplace : office.waiting[place]? = some (who, ticket))
      (hcause : ending = none ∨ (office.sessions who).isCurrent ticket = false) :
      Moves samples office (.finish place ending) .superseded none
        ⟨office.desk, seat office.sessions who ((office.sessions who).settled ticket),
          office.waiting.eraseIdx place⟩
  /-- A search ends with a failure. -/
  | broken (place : Nat) (ending : Option (Except Failure Resolved)) (who : Nat) (ticket : Ticket)
      (failure : Failure) (hplace : office.waiting[place]? = some (who, ticket))
      (hcurrent : (office.sessions who).isCurrent ticket = true) :
      Moves samples office (.finish place ending) (.ended (.error failure)) none
        ⟨office.desk, seat office.sessions who ((office.sessions who).settled ticket),
          office.waiting.eraseIdx place⟩
  /-- A search ends with its preview. -/
  | kept (place : Nat) (ending : Option (Except Failure Resolved)) (who : Nat) (ticket : Ticket)
      (outcome : Outcome) (hplace : office.waiting[place]? = some (who, ticket))
      (hcurrent : (office.sessions who).isCurrent ticket = true)
      (hpreview : ticket.preview = some outcome) :
      Moves samples office (.finish place ending) (.ended (.ok outcome)) none
        ⟨office.desk, seat office.sessions who ((office.sessions who).settled ticket),
          office.waiting.eraseIdx place⟩
  /-- A search ends with what its resolved filter found. -/
  | found (place : Nat) (ending : Option (Except Failure Resolved)) (who : Nat) (ticket : Ticket)
      (outcome : Outcome) (cache : Cache Cache.Key Resolved)
      (hplace : office.waiting[place]? = some (who, ticket))
      (hcurrent : (office.sessions who).isCurrent ticket = true)
      (hof : outcome.IsOf ticket.search) (hseq : outcome.seq = ticket.seq) :
      Moves samples office (.finish place ending) (.ended (.ok outcome)) (some outcome)
        ⟨⟨office.desk.store.showing (some outcome), cache⟩,
          seat office.sessions who ((office.sessions who).settled ticket),
          office.waiting.eraseIdx place⟩
  | cleared (entity : Entity) :
      Moves samples office (.clear entity) .none none
        { office with desk := Session.clear office.desk entity }
  | replaced (entity : Entity) (rows : List Row) :
      Moves samples office (.setRows entity rows) .none none
        { office with desk.store := office.desk.store.setRows entity rows }
  | emptied : Moves samples office .reset .none none { office with desk.store := .empty }

theorem moves_start (samples : Nat) (office : Office) (who : Nat) (entity : Cell) (text : String) :
    Moves samples office (.start who entity text)
      (office.step samples (.start who entity text)).1
      (office.shownBy samples (.start who entity text))
      (office.step samples (.start who entity text)).2 := by
  have hstarts := (office.sessions who).starts samples office.desk entity text
  simp only [step, begin, shownBy]
  generalize (office.sessions who).start samples office.desk entity text = result at hstarts ⊢
  cases hstarts with
  | refused failure hcheck =>
    simp only [seat_same]
    exact .refused who entity text failure
  | replayed search resolved rows hcheck hread hrows =>
    exact .replayed who entity text search _ _ hcheck ⟨rfl, Search.apply_of_matching hrows⟩ rfl
  | failed search failure hcheck => exact .failed who entity text search failure _ hcheck
  | waits search preview hcheck hread hpreview =>
    have hmoves := Moves.waits who entity text
      ⟨search, (office.sessions who).lastSeq + 1, preview⟩
      (Session.consulted office.desk search).cache hcheck rfl (Search.isProper_of_preview? hpreview)
    -- a preview is shown at once, and without one nothing is
    cases preview <;> exact hmoves

theorem moves_finish (samples : Nat) (office : Office) (place : Nat)
    (ending : Option (Except Failure Resolved)) :
    Moves samples office (.finish place ending) (office.step samples (.finish place ending)).1
      (office.shownBy samples (.finish place ending))
      (office.step samples (.finish place ending)).2 := by
  cases hplace : office.waiting[place]? with
  | none =>
    have habsent : office.step samples (.finish place ending) = (.none, office) := by
      simp only [step, conclude, hplace]
    have hshown : office.shownBy samples (.finish place ending) = none := by
      unfold shownBy
      split
      · next hevent => cases hevent
      · rw [habsent]
        rfl
      · rfl
    rw [habsent, hshown]
    exact .absent place ending hplace
  | some entry =>
    obtain ⟨who, ticket⟩ := entry
    simp only [step, conclude, hplace, shownBy]
    have hfinishes := (office.sessions who).finishes office.desk ticket ending
    cases ending with
    | none => exact .discarded place none who ticket hplace (.inl rfl)
    | some result =>
      cases result with
      | error failure =>
        generalize (office.sessions who).finish office.desk ticket (some (.error failure)) = result
          at hfinishes ⊢
        cases hfinishes with
        | discarded hcause => exact .discarded place _ who ticket hplace hcause
        | failed failure hcurrent => exact .broken place _ who ticket failure hplace hcurrent
        | kept outcome hcurrent hpreview =>
          exact .kept place _ who ticket outcome hplace hcurrent hpreview
        | found resolved outcome hcurrent hending houtcome => cases hending
      | ok resolved =>
        -- with a resolved filter, a search never falls back on its preview
        rw [Session.finish_ok]
        cases hcurrent : (office.sessions who).isCurrent ticket with
        | false => exact .discarded place _ who ticket hplace (.inr hcurrent)
        | true =>
          cases houtcome : ticket.search.outcome ticket.seq resolved with
          | error failure => exact .broken place _ who ticket failure hplace hcurrent
          | ok outcome =>
            obtain ⟨hof, hseq⟩ := Search.isOf_of_outcome houtcome
            exact .found place _ who ticket outcome _ hplace hcurrent hof hseq

theorem moves (samples : Nat) (office : Office) (event : Event) :
    Moves samples office event (office.step samples event).1 (office.shownBy samples event)
      (office.step samples event).2 := by
  cases event with
  | start who entity text => exact moves_start samples office who entity text
  | finish place ending => exact moves_finish samples office place ending
  | clear entity => exact .cleared entity
  | setRows entity rows => exact .replaced entity rows
  | reset => exact .emptied

/-! ## The frame of searches -/

/-- Does no search on the sheet wait for its resolution? -/
def IsQuiet (office : Office) (entity : Entity) : Prop :=
  ∀ entry ∈ office.waiting, entry.2.search.entity ≠ entity

/-- The entity that a search event is about. -/
def subject? (office : Office) : Event → Option Entity
  | .start _ entity _ => (Entity.require entity).toOption
  | .finish place _ => office.waiting[place]?.map fun entry => entry.2.search.entity
  | _ => none

end Office

/-- Is the event the first half of a search? -/
def Event.IsStart : Event → Prop
  | .start .. => True
  | _ => False

/-- Is the event one half of a search? -/
def Event.IsSearch : Event → Prop
  | .start .. => True
  | .finish .. => True
  | _ => False

/-- Is a search that the event starts one of the given session? -/
def Event.IsBy (who : Nat) : Event → Prop
  | .start other _ _ => other = who
  | _ => True

/-- A new search on another entity leaves a search as current as it was. -/
theorem Session.isCurrent_register_of_ne {session : Session} {ticket : Ticket} {entity : Entity}
    (h : ticket.search.entity ≠ entity) :
    (session.register entity).isCurrent ticket = session.isCurrent ticket := by
  simp only [isCurrent, register, Entity.update_of_ne _ _ h]

/-- A new search on the same entity supersedes every earlier one. -/
theorem Session.isCurrent_register_of_le {session : Session} {ticket : Ticket} {entity : Entity}
    (h : ticket.search.entity = entity) (hle : ticket.seq ≤ session.lastSeq) :
    (session.register entity).isCurrent ticket = false := by
  have hne : session.lastSeq + 1 ≠ ticket.seq := by omega
  simpa [isCurrent, register, h] using hne

namespace Office

variable {samples : Nat} {office next : Office} {event : Event} {reply : Reply}
  {shown : Option Outcome}

/-- A search writes what it shows and nothing else. -/
theorem Moves.store_eq (h : Moves samples office event reply shown next)
    (hsearch : event.IsSearch) : next.desk.store = office.desk.store.showing shown := by
  cases h with
  | cleared entity => exact hsearch.elim
  | replaced entity rows => exact hsearch.elim
  | emptied => exact hsearch.elim
  | _ => rfl

/-- Every waiting search has a preview of its own, if it has one. -/
def IsProper (office : Office) : Prop := ∀ entry ∈ office.waiting, entry.2.IsProper

/-- What is shown is about the sheet of the search. -/
theorem Moves.subject_of_shown (h : Moves samples office event reply shown next) :
    ∀ outcome ∈ shown, office.subject? event = some outcome.entity := by
  intro outcome houtcome
  cases h with
  | replayed who entity text search _ cache hcheck hof hseq =>
    obtain rfl := Option.some.inj houtcome
    rw [hof.entity]
    exact (Search.spec_of_check hcheck).1
  | waits who entity text ticket cache hcheck hseq hproper =>
    rw [(hproper outcome houtcome).1.entity]
    exact (Search.spec_of_check hcheck).1
  | found place ending who ticket _ cache hplace hcurrent hof hseq =>
    obtain rfl := Option.some.inj houtcome
    rw [subject?, hplace, hof.entity]
    rfl
  | _ => cases houtcome

/-- An outcome is about the sheet of its search. -/
theorem Moves.subject_of_outcome (h : Moves samples office event reply shown next)
    (hproper : office.IsProper) :
    ∀ outcome ∈ reply.outcome?, office.subject? event = some outcome.entity := by
  have hshown := h.subject_of_shown
  intro outcome houtcome
  cases h with
  | replayed => exact hshown outcome houtcome
  | kept place ending who ticket _ hplace hcurrent hpreview =>
    obtain rfl := Option.some.inj houtcome
    have hof := (hproper _ (List.mem_of_getElem? hplace) _ hpreview).1
    rw [subject?, hplace, hof.entity]
    rfl
  | found => exact hshown outcome houtcome
  | _ => cases houtcome

theorem Moves.isProper (h : Moves samples office event reply shown next)
    (hproper : office.IsProper) : next.IsProper := by
  have herased : ∀ place, ∀ entry ∈ office.waiting.eraseIdx place, entry.2.IsProper :=
    fun place entry hentry => hproper entry (List.mem_of_mem_eraseIdx hentry)
  cases h with
  | waits who entity text ticket cache hcheck hseq hticket =>
    exact List.forall_mem_cons.mpr ⟨hticket, hproper⟩
  | discarded place ending who ticket hplace hcause => exact herased place
  | broken place ending who ticket failure hplace hcurrent => exact herased place
  | kept place ending who ticket outcome hplace hcurrent hpreview => exact herased place
  | found place ending who ticket outcome cache hplace hcurrent hof hseq => exact herased place
  | _ => exact hproper

/-! ## Waiting searches -/

/-- Does an event begin a search that waits with the given ticket? -/
def Issues (samples : Nat) (office : Office) (event : Event) (who : Nat) (ticket : Ticket) : Prop :=
  ∃ cell text, event = .start who cell text ∧
    ((office.sessions who).start samples office.desk cell text).1 = .waiting ticket

/-- A search that waits after an event did so before it, or begins with it. -/
theorem mem_or_issues_of_mem_step {entry : Nat × Ticket}
    (hentry : entry ∈ (office.step samples event).2.waiting) :
    entry ∈ office.waiting ∨ office.Issues samples event entry.1 entry.2 := by
  cases event with
  | start who cell text =>
    simp only [step, begin] at hentry
    split at hentry
    · exact .inl hentry
    · next ticket session desk hstart =>
      rcases List.mem_cons.mp hentry with rfl | hold
      · exact .inr ⟨cell, text, rfl, by rw [hstart]⟩
      · exact .inl hold
  | finish place ending =>
    simp only [step, conclude] at hentry
    split at hentry
    · exact .inl hentry
    · exact .inl (List.mem_of_mem_eraseIdx hentry)
  | clear entity => exact .inl hentry
  | setRows entity rows => exact .inl hentry
  | reset => exact .inl hentry

/-! ## Numbers -/

/-- The numbers of a session only grow. -/
theorem Moves.lastSeq_le (h : Moves samples office event reply shown next) (who : Nat) :
    (office.sessions who).lastSeq ≤ (next.sessions who).lastSeq := by
  have hseat : ∀ {other session}, (office.sessions other).lastSeq ≤ Session.lastSeq session →
      (office.sessions who).lastSeq ≤ (seat office.sessions other session who).lastSeq := by
    intro other session hle
    by_cases heq : who = other
    · rwa [heq, seat_self]
    · exact Nat.le_of_eq (congrArg Session.lastSeq (seat_of_ne _ _ heq).symm)
  cases h with
  | replayed => exact hseat (Nat.le_succ _)
  | failed => exact hseat (Nat.le_succ _)
  | waits => exact hseat (Nat.le_succ _)
  | discarded => exact hseat (Nat.le_of_eq (Session.settled_lastSeq _ _).symm)
  | broken => exact hseat (Nat.le_of_eq (Session.settled_lastSeq _ _).symm)
  | kept => exact hseat (Nat.le_of_eq (Session.settled_lastSeq _ _).symm)
  | found => exact hseat (Nat.le_of_eq (Session.settled_lastSeq _ _).symm)
  | _ => exact Nat.le_refl _

/-! ## One session -/

/-- The waiting searches are those of one session, each with a number of its own. -/
structure IsSolo (office : Office) (who : Nat) : Prop where
  own : ∀ entry ∈ office.waiting, entry.1 = who
  le_lastSeq : ∀ entry ∈ office.waiting, entry.2.seq ≤ (office.sessions who).lastSeq
  distinct : office.waiting.Pairwise fun a b => a.2.seq ≠ b.2.seq

variable {who : Nat}

theorem isSolo_opening (desk : Desk) (who : Nat) : (opening desk).IsSolo who :=
  ⟨nofun, nofun, .nil⟩

theorem IsSolo.erase (h : office.IsSolo who) {desk : Desk} {place : Nat} {ticket : Ticket}
    {other : Nat} :
    IsSolo ⟨desk, seat office.sessions other ((office.sessions other).settled ticket),
      office.waiting.eraseIdx place⟩ who where
  own entry hentry := h.own entry (List.mem_of_mem_eraseIdx hentry)
  le_lastSeq entry hentry := by
    have hle := h.le_lastSeq entry (List.mem_of_mem_eraseIdx hentry)
    dsimp only
    by_cases hother : who = other
    · rw [← hother, seat_self, Session.settled_lastSeq]
      exact hle
    · rwa [seat_of_ne _ _ hother]
  distinct := h.distinct.sublist (List.eraseIdx_sublist _ _)

theorem IsSolo.register (h : office.IsSolo who) {desk : Desk} {entity : Entity} :
    IsSolo ⟨desk, seat office.sessions who ((office.sessions who).register entity),
      office.waiting⟩ who where
  own := h.own
  le_lastSeq entry hentry := by
    dsimp only
    rw [seat_self]
    exact Nat.le_succ_of_le (h.le_lastSeq entry hentry)
  distinct := h.distinct

theorem Moves.isSolo (h : Moves samples office event reply shown next) (hby : event.IsBy who)
    (hsolo : office.IsSolo who) : next.IsSolo who := by
  cases h with
  | refused other entity text failure => exact hsolo
  | replayed other entity text search outcome cache hcheck hof hseq =>
    obtain rfl : other = who := hby
    exact hsolo.register
  | failed other entity text search failure cache hcheck =>
    obtain rfl : other = who := hby
    exact hsolo.register
  | waits other entity text ticket cache hcheck hseq hproper =>
    obtain rfl : other = who := hby
    obtain ⟨hown, hle, hdistinct⟩ := hsolo
    constructor
    · exact List.forall_mem_cons.mpr ⟨rfl, hown⟩
    · dsimp only
      rw [seat_self]
      refine List.forall_mem_cons.mpr ⟨Nat.le_of_eq hseq, fun entry hentry => ?_⟩
      exact Nat.le_succ_of_le (hle entry hentry)
    · -- the new number is above all that wait
      refine List.pairwise_cons.mpr ⟨fun entry hentry => ?_, hdistinct⟩
      have hbound := hle entry hentry
      dsimp only
      omega
  | absent place ending hplace => exact hsolo
  | discarded place ending other ticket hplace hcause => exact hsolo.erase
  | broken place ending other ticket failure hplace hcurrent => exact hsolo.erase
  | kept place ending other ticket outcome hplace hcurrent hpreview => exact hsolo.erase
  | found place ending other ticket outcome cache hplace hcurrent hof hseq => exact hsolo.erase
  | cleared entity => exact ⟨hsolo.own, hsolo.le_lastSeq, hsolo.distinct⟩
  | replaced entity rows => exact ⟨hsolo.own, hsolo.le_lastSeq, hsolo.distinct⟩
  | emptied => exact ⟨hsolo.own, hsolo.le_lastSeq, hsolo.distinct⟩

theorem IsSolo.eq_of_waiting (h : office.IsSolo who) {place other : Nat} {ticket : Ticket}
    (hplace : office.waiting[place]? = some (other, ticket)) : other = who :=
  h.own _ (List.mem_of_getElem? hplace)

/-- A search that is still current beside a new one is on another sheet. -/
theorem IsSolo.of_isCurrent_register (h : office.IsSolo who) {entity : Entity}
    {entry : Nat × Ticket} (hentry : entry ∈ office.waiting)
    (hcurrent : ((office.sessions who).register entity).isCurrent entry.2 = true) :
    entry.2.search.entity ≠ entity ∧ (office.sessions who).isCurrent entry.2 = true := by
  have hne : entry.2.search.entity ≠ entity := by
    intro heq
    rw [Session.isCurrent_register_of_le heq (h.le_lastSeq entry hentry)] at hcurrent
    cases hcurrent
  rw [Session.isCurrent_register_of_ne hne] at hcurrent
  exact ⟨hne, hcurrent⟩

/-- A current search that still waits when another current one has finished is on another sheet. -/
theorem IsSolo.entity_ne_of_mem_eraseIdx (h : office.IsSolo who) {place : Nat} {ticket : Ticket}
    (hplace : office.waiting[place]? = some (who, ticket))
    (hcurrent : (office.sessions who).isCurrent ticket = true) {entry : Nat × Ticket}
    (hentry : entry ∈ office.waiting.eraseIdx place)
    (hstill : (office.sessions who).isCurrent entry.2 = true) :
    entry.2.search.entity ≠ ticket.search.entity := by
  obtain ⟨i, hi, hget⟩ := List.mem_eraseIdx_iff_getElem?.mp hentry
  -- numbers are distinct along the list, and the other search stands at another place
  have hne : entry.2.seq ≠ ticket.seq := by
    obtain ⟨hbound, rfl⟩ := List.getElem?_eq_some_iff.mp hget
    obtain ⟨hbound', hticket⟩ := List.getElem?_eq_some_iff.mp hplace
    have hpairwise := List.pairwise_iff_getElem.mp h.distinct
    rcases Nat.lt_or_gt_of_ne hi with hlt | hlt
    · have hseq := hpairwise i place hbound hbound' hlt
      rwa [hticket] at hseq
    · have hseq := hpairwise place i hbound' hbound hlt
      rw [hticket] at hseq
      exact hseq.symm
  intro hentity
  simp only [Session.isCurrent, hentity, beq_iff_eq] at hcurrent hstill
  rw [hcurrent] at hstill
  exact hne (Option.some.inj hstill).symm

/-- An outcome has a number that its session has given out. -/
theorem Moves.seq_le (h : Moves samples office event reply shown next) (hby : event.IsBy who)
    (hsolo : office.IsSolo who) (hproper : office.IsProper) :
    ∀ outcome ∈ reply.outcome?, outcome.seq ≤ (next.sessions who).lastSeq := by
  have hnext := h.lastSeq_le who
  intro outcome houtcome
  cases h with
  | replayed other entity text search _ cache hcheck hof hseq =>
    obtain rfl : other = who := hby
    obtain rfl := Option.some.inj houtcome
    dsimp only
    rw [hseq, seat_self]
    exact Nat.le_refl _
  | kept place ending other ticket _ hplace hcurrent hpreview =>
    obtain rfl := Option.some.inj houtcome
    have hmem := List.mem_of_getElem? hplace
    rw [(hproper _ hmem _ hpreview).2.1]
    exact Nat.le_trans (hsolo.le_lastSeq _ hmem) hnext
  | found place ending other ticket _ cache hplace hcurrent hof hseq =>
    obtain rfl := Option.some.inj houtcome
    rw [hseq]
    exact Nat.le_trans (hsolo.le_lastSeq _ (List.mem_of_getElem? hplace)) hnext
  | _ => cases houtcome

/-- Sheets with two jobs, of which the second one is long. -/
def jobs : Entity → List Row
  | .tasks => [[("Duration", .int 1)], [("Duration", .int 3)]]
  | _ => []

end Office

end SheetQuery
