import SheetQuery.Proofs.Search.Repeat

/-!
# Searches that fail

A search fails because its input is refused, because no means leads to a filter, or because something
breaks down on the way. The first kind of failure comes before all else that a search does, and leaves
the office as it is: no number is given out, and a search that waits stays current. The second kind
comes last, and only where there was no preview to keep: all that such a search has ever done to the
desk is to be counted as a miss of the cache.

* `Failure.IsInput`, `Failure.IsUnresolved`, `Failure.IsBreakdown`: the kinds of failures;
* `Resolution.not_isInput_of_resolve`: a resolution never refuses a query that is not blank;
* `Session.start_of_error`, `Session.start_of_waiting`, `Session.finish_of_error`: how the halves of a
  search fail;
* `Office.Asks`: every waiting search has a query; one step keeps it (`Moves.asks`), hence every run
  does (`asks_run`);
* `Office.exists_issues`: every waiting search was begun in the run;
* `failed_search_leaves_no_trace`: both kinds, after any run.
-/

namespace SheetQuery

/-! ## Kinds of failures -/

namespace Failure

/-- Is the input refused? -/
def IsInput : Failure → Prop
  | .input _ => True
  | _ => False

/-- Did no means lead to a filter? -/
def IsUnresolved : Failure → Prop
  | .unresolved .. => True
  | _ => False

/-- Did something break down on the way? -/
def IsBreakdown (failure : Failure) : Prop := ¬ failure.IsInput ∧ ¬ failure.IsUnresolved

theorem IsInput.not_isUnresolved {failure : Failure} (h : failure.IsInput) :
    ¬ failure.IsUnresolved := by
  cases failure with
  | input message => exact id
  | _ => exact h.elim

end Failure

namespace Resolution

variable {σ : Type} {entity : Entity} {schema : Schema} {query : List Char} {failure : Failure}

theorem isBreakdown_of_judgeAnswer {answer : Except Service.Fault String}
    (h : judgeAnswer schema answer = .broken failure) : failure.IsBreakdown := by
  unfold judgeAnswer at h
  split at h
  · unfold judge at h
    split at h
    · cases h
    · split at h
      · cases h
        exact ⟨id, id⟩
      · split at h <;> cases h
  · cases h
  · split at h
    · cases h
    · cases h
      exact ⟨id, id⟩

theorem isBreakdown_of_conclude {earlier : Option Reason} {replies : List String}
    {answer : Except Service.Fault String}
    (h : conclude earlier replies (judgeAnswer schema answer) = .error failure) :
    failure.IsBreakdown := by
  cases hverdict : judgeAnswer schema answer with
  | broken broken =>
    rw [hverdict] at h
    cases h
    exact isBreakdown_of_judgeAnswer hverdict
  | usable filter | unknownColumns | malformed | absent =>
    rw [hverdict] at h
    cases h

/-- Consulting the service fails only if it breaks down. -/
theorem isBreakdown_of_consulted {service : Option (Service σ)} {s : σ}
    (h : consulted service entity schema query s = .error failure) : failure.IsBreakdown := by
  cases service with
  | none => cases h
  | some service =>
    rw [consulted, consult] at h
    split at h
    · split at h
      · unfold askTwice at h
        dsimp only at h
        split at h <;> exact isBreakdown_of_conclude h
      · cases h
    · next fault s' hprobe =>
      by_cases habsent : fault.isAbsence
      · simp only [habsent, if_true] at h
        cases h
      · simp only [habsent] at h
        cases h
        exact ⟨id, id⟩

/-- The resolution of a query that is not blank does not refuse it. -/
theorem not_isInput_of_resolve {service : Option (Service σ)} {s : σ} (hquery : Text.trim query ≠ [])
    (h : (resolve service entity schema query s).1 = .error failure) : ¬ failure.IsInput := by
  rw [resolve_eq service entity schema hquery s] at h
  split at h
  · cases h
  · split at h
    · next hconsulted =>
      cases h
      exact (isBreakdown_of_consulted hconsulted).1
    · split at h
      · cases h
      · rw [fallBack_eq] at h
        split at h
        · cases h
        · cases h
          exact id

end Resolution

namespace Search

variable {search : Search} {failure : Failure}

theorem isBreakdown_of_matching {filter : Filter} (h : search.matching filter = .error failure) :
    failure.IsBreakdown := by
  unfold matching at h
  split at h
  · cases h
  · cases h
    exact ⟨id, id⟩

theorem isBreakdown_of_preview? {seq : Nat} (h : search.preview? seq = some (.error failure)) :
    failure.IsBreakdown := by
  obtain ⟨leaf, -, hleaf⟩ := Option.map_eq_some_iff.mp h
  cases hrows : search.matching (.leaf leaf) with
  | ok rows =>
    rw [hrows] at hleaf
    cases hleaf
  | error failure =>
    rw [hrows] at hleaf
    cases hleaf
    exact isBreakdown_of_matching hrows

theorem isBreakdown_of_softened? {filter : Filter} (h : search.softened? filter = .error failure) :
    failure.IsBreakdown := by
  unfold softened? at h
  split at h
  · cases h
    exact ⟨id, id⟩
  · cases h

theorem isBreakdown_of_outcome {seq : Nat} {resolved : Resolved}
    (h : search.outcome seq resolved = .error failure) : failure.IsBreakdown := by
  simp only [outcome, bind, Except.bind] at h
  split at h
  · next hrows =>
    cases h
    exact isBreakdown_of_matching hrows
  · split at h
    · split at h
      · next hsoftened =>
        cases h
        exact isBreakdown_of_softened? hsoftened
      · split at h
        · cases h
        · split at h
          · next hsoft =>
            cases h
            exact isBreakdown_of_matching hsoft
          · cases h
    · cases h

theorem isInput_of_check {samples : Nat} {store : Store} {entity : Cell} {text : String}
    (h : check samples store entity text = .error failure) : failure.IsInput := by
  unfold check at h
  cases hentity : Entity.require entity with
  | error refusal =>
    rw [hentity] at h
    cases h
    unfold Entity.require at hentity
    split at hentity
    · cases hentity
    · cases hentity
      trivial
  | ok target =>
    simp only [hentity, bind, Except.bind] at h
    split at h
    · cases h
      trivial
    · split at h
      · cases h
        trivial
      · split at h
        · cases h
          trivial
        · cases h

end Search

/-! ## How the halves of a search fail -/

theorem Cache.read_of_none {κ α : Type} [BEq κ] {cache : Cache κ α} {key : κ}
    (h : (cache.read key).1 = none) :
    (cache.read key).2 = { cache with misses := cache.misses + 1 } := by
  unfold read at h ⊢
  split at h
  · cases h
  · rfl

/-- The desk after one more search has not found its filter in the cache. -/
def Desk.missed (desk : Desk) : Desk :=
  { desk with cache.misses := desk.cache.misses + 1 }

namespace Session

variable {samples : Nat} {session : Session} {desk : Desk} {entity : Cell} {text : String}
  {ticket : Ticket} {failure : Failure}

/-- A search that fails at its start has its input refused, and changes nothing, or breaks down. -/
theorem start_of_error (h : (session.start samples desk entity text).1 = .ended (.error failure)) :
    (failure.IsInput ∧ (session.start samples desk entity text).2 = (session, desk)) ∨
      failure.IsBreakdown := by
  unfold start at h ⊢
  cases hcheck : Search.check samples desk.store entity text with
  | error refusal =>
    simp only [hcheck] at h
    cases h
    exact .inl ⟨Search.isInput_of_check hcheck, rfl⟩
  | ok search =>
    simp only [hcheck, enter] at h
    right
    split at h
    · -- past the checks only the rows can fail it: those of a remembered filter or of the preview
      unfold replay at h
      split at h
      · next hrows =>
        cases h
        exact Search.isBreakdown_of_matching hrows
      · cases h
    · unfold await at h
      split at h
      · cases h
      · cases h
      · next hpreview =>
        cases h
        exact Search.isBreakdown_of_preview? hpreview

/-- A search that waits without a preview has done nothing at the desk but miss the cache. -/
theorem start_of_waiting (h : (session.start samples desk entity text).1 = .waiting ticket)
    (hpreview : ticket.preview = none) :
    (session.start samples desk entity text).2.2 = desk.missed := by
  have hstarts := session.starts samples desk entity text
  generalize session.start samples desk entity text = result at hstarts h ⊢
  cases hstarts with
  | waits search preview hcheck hread hshown =>
    obtain rfl := Started.waiting.inj h
    obtain rfl : preview = none := hpreview
    rw [shown, consulted, Cache.read_of_none hread]
    rfl
  | _ => cases h

/-- A search that fails at its end leaves the desk as it is. If it did not break down, it fails as its
resolution did, and if that came to nothing, there was no preview. -/
theorem finish_of_error {ending : Option (Except Failure Resolved)}
    (h : (session.finish desk ticket ending).1 = some (.error failure)) :
    (session.finish desk ticket ending).2.2 = desk ∧
      (failure.IsBreakdown ∨ ending = some (.error failure)) ∧
      (failure.IsUnresolved → ticket.preview = none) := by
  cases ending with
  | none => cases h
  | some result =>
    unfold finish at h ⊢
    dsimp only at h ⊢
    split at h
    · next hcurrent =>
      rw [if_pos hcurrent]
      cases result with
      | ok resolved =>
        cases houtcome : ticket.search.outcome ticket.seq resolved with
        | ok outcome =>
          simp only [conclude, houtcome] at h
          cases h
        | error broken =>
          -- a resolved filter fails only on the rows, and before anything is written
          have hconclude : conclude desk ticket (.ok resolved) = (.error broken, desk) := by
            rw [conclude, houtcome]
          rw [hconclude] at h ⊢
          cases h
          have hbreakdown := Search.isBreakdown_of_outcome houtcome
          exact ⟨rfl, .inl hbreakdown, fun hunresolved => absurd hunresolved hbreakdown.2⟩
      | error cause =>
        cases cause with
        | unresolved reason first retry =>
          cases hpreview : ticket.preview with
          | some outcome =>
            simp only [conclude, hpreview] at h
            cases h
          | none =>
            have hconclude : conclude desk ticket (.error (.unresolved reason first retry)) =
                (.error (.unresolved reason first retry), desk) := by
              rw [conclude, hpreview]
            rw [hconclude] at h ⊢
            cases h
            exact ⟨rfl, .inr rfl, fun _ => rfl⟩
        | input | malformed | service | pattern =>
          cases h
          exact ⟨rfl, .inr rfl, False.elim⟩
    · cases h

end Session

namespace Office

variable {samples : Nat} {office next : Office} {event : Event} {reply : Reply}
  {shown : Option Outcome}

/-! ## Waiting searches -/

/-- Do all waiting searches ask something? -/
def Asks (office : Office) : Prop := ∀ entry ∈ office.waiting, Text.trim entry.2.search.query ≠ []

theorem asks_opening (desk : Desk) : (opening desk).Asks := nofun

theorem Moves.asks (h : Moves samples office event reply shown next) (hasks : office.Asks) :
    next.Asks := by
  have herased : ∀ place, ∀ entry ∈ office.waiting.eraseIdx place,
      Text.trim entry.2.search.query ≠ [] :=
    fun place entry hentry => hasks entry (List.mem_of_mem_eraseIdx hentry)
  cases h with
  | waits who cell text ticket cache hcheck hseq hproper =>
    exact List.forall_mem_cons.mpr ⟨(Search.check_eq_ok_iff.mp hcheck).2.2.asks, hasks⟩
  | discarded place => exact herased place
  | broken place => exact herased place
  | kept place => exact herased place
  | found place => exact herased place
  | _ => exact hasks

theorem asks_run (samples : Nat) (hasks : office.Asks) (events : List Event) :
    (office.run samples events).Asks := by
  induction events generalizing office with
  | nil => exact hasks
  | cons event events ih => exact ih ((office.moves samples event).asks hasks)

/-- A search that waits after a run did so before it, or was begun by an event of it. -/
theorem exists_issues {events : List Event} {entry : Nat × Ticket}
    (hentry : entry ∈ (office.run samples events).waiting) :
    entry ∈ office.waiting ∨ ∃ before event after, events = before ++ event :: after ∧
      (office.run samples before).Issues samples event entry.1 entry.2 := by
  induction events generalizing office with
  | nil => exact .inl hentry
  | cons first events ih =>
    rw [run_cons] at hentry
    rcases ih hentry with hold | ⟨before, event, after, rfl, hissues⟩
    · rcases mem_or_issues_of_mem_step hold with hold | hissues
      · exact .inl hold
      · exact .inr ⟨[], first, events, rfl, hissues⟩
    · exact .inr ⟨first :: before, event, after, rfl, hissues⟩

/-- What a search without a preview has done by its start. -/
theorem Issues.desk_eq {who : Nat} {ticket : Ticket} (h : office.Issues samples event who ticket)
    (hpreview : ticket.preview = none) :
    (office.step samples event).2.desk = office.desk.missed := by
  obtain ⟨cell, text, rfl, hstart⟩ := h
  have hdesk := Session.start_of_waiting hstart hpreview
  simp only [step, begin]
  generalize (office.sessions who).start samples office.desk cell text = result at hstart hdesk ⊢
  obtain ⟨started, session, desk⟩ := result
  obtain rfl : started = .waiting ticket := hstart
  exact hdesk

/-! ## Failing searches -/

/-- Does an event end a waiting search as its resolution may end: cancelled, or as it does with some
service or none? -/
def IsGenuine (office : Office) (event : Event) : Prop :=
  ∀ place result who ticket, event = .finish place (some result) →
    office.waiting[place]? = some (who, ticket) →
    ∃ (σ : Type) (service : Option (Service σ)) (s : σ), (Session.resolve service ticket s).1 = result

/-- A search that fails at its start has its input refused, and changes nothing, or breaks down. -/
theorem start_of_error {who : Nat} {cell : Cell} {text : String} {failure : Failure}
    (h : (office.step samples (.start who cell text)).1 = .ended (.error failure)) :
    (failure.IsInput ∧ (office.step samples (.start who cell text)).2 = office) ∨
      failure.IsBreakdown := by
  simp only [step, begin] at h ⊢
  split at h
  · next result session desk hstart =>
    obtain rfl := Reply.ended.inj h
    have herror := congrArg Prod.fst hstart
    rcases Session.start_of_error herror with ⟨hinput, hsame⟩ | hbreakdown
    · rw [hstart] at hsame
      obtain ⟨rfl, rfl⟩ := Prod.mk.inj hsame
      refine .inl ⟨hinput, ?_⟩
      simp only [seat_same]
    · exact .inr hbreakdown
  · cases h

/-- A search that fails at its end leaves the desk as it is. -/
theorem finish_of_error {place : Nat} {ending : Option (Except Failure Resolved)} {failure : Failure}
    (h : (office.step samples (.finish place ending)).1 = .ended (.error failure)) :
    (office.step samples (.finish place ending)).2.desk = office.desk ∧
      ∃ who ticket, office.waiting[place]? = some (who, ticket) ∧
        (failure.IsBreakdown ∨ ending = some (.error failure)) ∧
        (failure.IsUnresolved → ticket.preview = none) := by
  cases hplace : office.waiting[place]? with
  | none =>
    simp only [step, conclude, hplace] at h
    cases h
  | some entry =>
    obtain ⟨who, ticket⟩ := entry
    simp only [step, conclude, hplace] at h ⊢
    have hfinish : ((office.sessions who).finish office.desk ticket ending).1 =
        some (.error failure) := by
      cases hresult : ((office.sessions who).finish office.desk ticket ending).1 with
      | none =>
        rw [hresult] at h
        cases h
      | some result =>
        rw [hresult] at h
        rw [Reply.ended.inj h]
    obtain ⟨hdesk, hcause, hpreview⟩ := Session.finish_of_error hfinish
    exact ⟨hdesk, who, ticket, rfl, hcause, hpreview⟩

/-- Among the failures of an event with a reply, the input is refused only at the start of a search,
and nothing has changed then. -/
theorem step_of_isInput (hasks : office.Asks) (hgenuine : office.IsGenuine event) {failure : Failure}
    (h : (office.step samples event).1 = .ended (.error failure)) (hinput : failure.IsInput) :
    (office.step samples event).2 = office := by
  cases event with
  | start who cell text =>
    rcases start_of_error h with ⟨-, hsame⟩ | hbreakdown
    · exact hsame
    · exact absurd hinput hbreakdown.1
  | finish place ending =>
    obtain ⟨-, who, ticket, hplace, hbreakdown | rfl, -⟩ := finish_of_error h
    · exact absurd hinput hbreakdown.1
    · -- the query of a waiting search is not blank, so that no resolution refuses it
      obtain ⟨σ, service, s, hresolve⟩ := hgenuine place _ who ticket rfl hplace
      exact absurd hinput
        (Resolution.not_isInput_of_resolve (hasks _ (List.mem_of_getElem? hplace)) hresolve)
  | clear entity => cases h
  | setRows entity rows => cases h
  | reset => cases h

/-- A search fails for want of a filter only at its end, without a preview, and leaves the desk. -/
theorem step_of_isUnresolved {failure : Failure}
    (h : (office.step samples event).1 = .ended (.error failure)) (hunresolved : failure.IsUnresolved) :
    (office.step samples event).2.desk = office.desk ∧
      ∃ place ending who ticket, event = .finish place ending ∧
        office.waiting[place]? = some (who, ticket) ∧ ticket.preview = none := by
  cases event with
  | start who cell text =>
    rcases start_of_error h with ⟨hinput, -⟩ | hbreakdown
    · exact absurd hunresolved hinput.not_isUnresolved
    · exact absurd hunresolved hbreakdown.2
  | finish place ending =>
    obtain ⟨hdesk, who, ticket, hplace, -, hpreview⟩ := finish_of_error h
    exact ⟨hdesk, place, ending, who, ticket, rfl, hplace, hpreview hunresolved⟩
  | clear entity => cases h
  | setRows entity rows => cases h
  | reset => cases h

/-- **Failed searches leave no trace.** Let an event of any run be answered with a failure.

* If the input is refused, the office is as it was: the numbers, the searches in flight, the store and
  the cache with its counts.
* If no means led to a filter, the event ends a search that was begun in the run, and leaves the desk.
  So did its beginning, but for one miss of the cache that it counted. -/
theorem failed_search_leaves_no_trace (samples : Nat) (desk : Desk) (events : List Event)
    (event : Event) (failure : Failure)
    (hanswer : (((opening desk).run samples events).step samples event).1 = .ended (.error failure)) :
    let office := (opening desk).run samples events
    (failure.IsInput → office.IsGenuine event → (office.step samples event).2 = office) ∧
      (failure.IsUnresolved → (office.step samples event).2.desk = office.desk ∧
        ∃ place ending who ticket, event = .finish place ending ∧
          office.waiting[place]? = some (who, ticket) ∧
          (∃ before start after, events = before ++ start :: after ∧
            ((opening desk).run samples before).Issues samples start who ticket) ∧
          ∀ before start after, events = before ++ start :: after →
            ((opening desk).run samples before).Issues samples start who ticket →
            (((opening desk).run samples before).step samples start).2.desk =
              ((opening desk).run samples before).desk.missed) := by
  intro office
  refine ⟨fun hinput hgenuine => ?_, fun hunresolved => ?_⟩
  · exact step_of_isInput (asks_run samples (asks_opening desk) events) hgenuine hanswer hinput
  · obtain ⟨hdesk, place, ending, who, ticket, rfl, hplace, hpreview⟩ :=
      step_of_isUnresolved hanswer hunresolved
    refine ⟨hdesk, place, ending, who, ticket, rfl, hplace, ?_, fun before start after _ hissues =>
      hissues.desk_eq hpreview⟩
    rcases exists_issues (List.mem_of_getElem? hplace) with hnone | hissues
    · cases hnone
    · exact hissues

/-- While a search waits, its session is asked for nothing at all, which leaves the office as it is.
Then the search ends without a filter, and the desk is as it was. -/
theorem blank_search_does_not_supersede :
    let desk : Desk := ⟨⟨jobs, fun _ => none⟩, .empty 4⟩
    let events : List Event := [.start 0 (.text "tasks") "long running jobs"]
    let blank : Event := .start 0 (.text "tasks") " "
    let finish : Event := .finish 0 (some (.error (.unresolved .noResponse none none)))
    let office := (opening desk).run 4 events
    (office.step 4 blank).1 = .ended (.error (.input "Tell me what to find.")) ∧
      (office.step 4 blank).2 = office ∧
      (office.step 4 finish).1 = .ended (.error (.unresolved .noResponse none none)) ∧
      (office.step 4 finish).2.desk = office.desk := by
  intro desk events blank finish office
  have hblank : (office.step 4 blank).1 = .ended (.error (.input "Tell me what to find.")) := by
    rfl
  have hfinish : (office.step 4 finish).1 =
      .ended (.error (.unresolved .noResponse none none)) := by
    rfl
  have hgenuine : office.IsGenuine blank := fun _ _ _ _ hevent => nomatch hevent
  exact ⟨hblank, (failed_search_leaves_no_trace 4 desk events blank _ hblank).1 trivial hgenuine,
    hfinish, ((failed_search_leaves_no_trace 4 desk events finish _ hfinish).2 trivial).1⟩

end Office

end SheetQuery
