import SheetQuery.Proofs.Search.Moves
import SheetQuery.Proofs.Search.Recency

/-!
# What searches do to the cache

Of all events at an office, only two touch the cache: a search that begins looks its filter up, and a
search that ends with a resolved filter stores it. A preview, a failure and a superseded search leave
it alone.

* `Office.access?`: how an event uses the cache;
* `cache_step`: the cache after an event;
* `Office.used`: the keys that a run finds or stores;
* `Office.lastStored`: what the last search with a key found.
-/

namespace SheetQuery

/-- A use of the cache. -/
inductive Access where
  /-- A filter is looked up. -/
  | read (key : Cache.Key)
  /-- What a search found is stored, with the means by which it was found. -/
  | store (key : Cache.Key) (outcome : Outcome) (source : Source)

namespace Access

/-- The cache after a use. -/
def on (cache : Cache Cache.Key Resolved) : Access → Cache Cache.Key Resolved
  | read key => (cache.read key).2
  | store key outcome source => cache.store key ⟨outcome.filter, source⟩

/-- The key that is found or stored. -/
def used (cache : Cache Cache.Key Resolved) : Access → Finset Cache.Key
  | read key => cache.usedByRead key
  | store key _ _ => {key}

@[simp] theorem capacity_on (cache : Cache Cache.Key Resolved) (access : Access) :
    (access.on cache).capacity = cache.capacity := by
  cases access <;> simp [on]

end Access

namespace Office

/-- How an event uses the cache. -/
def access? (samples : Nat) (office : Office) : Event → Option Access
  | .start _ entity text =>
    (Search.check samples office.desk.store entity text).toOption.map fun search =>
      .read search.key
  | .finish place (some (.ok resolved)) =>
    match office.waiting[place]?, (office.conclude place (some (.ok resolved))).1 with
    | some (_, ticket), .ended (.ok outcome) =>
      some (.store ticket.search.key outcome resolved.source)
    | _, _ => none
  | _ => none

/-- The keys that an event finds or stores. -/
def usedBy (samples : Nat) (office : Office) (event : Event) : Finset Cache.Key :=
  (office.access? samples event).elim ∅ fun access => access.used office.desk.cache

/-- The keys that a run finds or stores. -/
def used (samples : Nat) (office : Office) : List Event → Finset Cache.Key
  | [] => ∅
  | event :: events =>
    office.usedBy samples event ∪ used samples (office.step samples event).2 events

/-- What an event stores under a key. -/
def storedBy (samples : Nat) (key : Cache.Key) (office : Office) (event : Event) :
    Option Outcome :=
  match office.access? samples event with
  | some (.store other outcome _) => if other = key then some outcome else none
  | _ => none

/-- What a run has stored last under a key, or else what was there before. -/
def lastStored (samples : Nat) (key : Cache.Key) (office : Office) (earlier : Outcome) :
    List Event → Outcome
  | [] => earlier
  | event :: events => lastStored samples key (office.step samples event).2
      ((office.storedBy samples key event).getD earlier) events

variable {samples : Nat} {office : Office} {event : Event}

/-! ## One event -/

theorem cache_step_start (samples : Nat) (office : Office) (who : Nat) (entity : Cell)
    (text : String) : (office.step samples (.start who entity text)).2.desk.cache =
      (office.access? samples (.start who entity text)).elim office.desk.cache
        fun access => access.on office.desk.cache := by
  have hstarts := (office.sessions who).starts samples office.desk entity text
  simp only [step, begin, access?]
  generalize (office.sessions who).start samples office.desk entity text = result at hstarts ⊢
  cases hstarts with
  | refused failure hcheck =>
    rw [hcheck]
    rfl
  | replayed search resolved rows hcheck =>
    rw [hcheck]
    rfl
  | failed search failure hcheck =>
    rw [hcheck]
    rfl
  | waits search preview hcheck =>
    rw [hcheck]
    cases preview <;> rfl

theorem cache_step_finish (samples : Nat) (office : Office) (place : Nat)
    (ending : Option (Except Failure Resolved)) :
    (office.step samples (.finish place ending)).2.desk.cache =
      (office.access? samples (.finish place ending)).elim office.desk.cache
        fun access => access.on office.desk.cache := by
  cases hplace : office.waiting[place]? with
  | none =>
    have hnone : office.access? samples (.finish place ending) = none := by
      unfold access?
      split <;> simp_all
    rw [hnone]
    simp only [step, conclude, hplace]
    rfl
  | some entry =>
    obtain ⟨who, ticket⟩ := entry
    have hfinishes := (office.sessions who).finishes office.desk ticket ending
    -- without a resolved filter nothing is stored
    have hunresolved : (∀ resolved, ending ≠ some (.ok resolved)) →
        (office.step samples (.finish place ending)).2.desk.cache = office.desk.cache := by
      intro hnone
      simp only [step, conclude, hplace]
      generalize (office.sessions who).finish office.desk ticket ending = result at hfinishes ⊢
      cases hfinishes with
      | found resolved outcome hcurrent hending => exact absurd hending (hnone resolved)
      | _ => rfl
    cases ending with
    | none => exact hunresolved (by simp)
    | some result =>
      cases result with
      | error failure => exact hunresolved (by simp)
      | ok resolved =>
        simp only [access?, step, conclude, hplace, Session.finish_ok]
        cases (office.sessions who).isCurrent ticket with
        | false => rfl
        | true => cases ticket.search.outcome ticket.seq resolved <;> rfl

/-- The cache after an event. -/
theorem cache_step (samples : Nat) (office : Office) (event : Event) :
    (office.step samples event).2.desk.cache =
      (office.access? samples event).elim office.desk.cache
        fun access => access.on office.desk.cache := by
  cases event with
  | start who entity text => exact cache_step_start samples office who entity text
  | finish place ending => exact cache_step_finish samples office place ending
  | clear entity => rfl
  | setRows entity rows => rfl
  | reset => rfl

/-- What is stored was found by a waiting search with the key. -/
theorem exists_of_access?_store {key : Cache.Key} {outcome : Outcome} {source : Source}
    (h : office.access? samples event = some (.store key outcome source)) :
    ∃ entry ∈ office.waiting, entry.2.search.key = key ∧ outcome.IsOf entry.2.search := by
  unfold access? at h
  split at h
  · obtain ⟨search, -, hread⟩ := Option.map_eq_some_iff.mp h
    cases hread
  · next place resolved =>
    split at h
    · next who ticket found hplace hanswer =>
      obtain ⟨rfl, rfl, rfl⟩ : ticket.search.key = key ∧ found = outcome ∧ resolved.source = source :=
        by simpa using h
      refine ⟨(who, ticket), List.mem_of_getElem? hplace, rfl, ?_⟩
      simp only [conclude, hplace, Session.finish_ok] at hanswer
      split at hanswer
      · split at hanswer
        · cases hanswer
        · next houtcome =>
          cases hanswer
          exact (Search.isOf_of_outcome houtcome).1
      · cases hanswer
    · cases h
  · cases h

/-- A waiting search that ends with a resolved filter stores what it found. -/
theorem access?_of_finish {place who : Nat} {ticket : Ticket} {resolved : Resolved}
    {outcome : Outcome} (hplace : office.waiting[place]? = some (who, ticket))
    (hanswer : (office.step samples (.finish place (some (.ok resolved)))).1 = .ended (.ok outcome)) :
    office.access? samples (.finish place (some (.ok resolved))) =
      some (.store ticket.search.key outcome resolved.source) := by
  rw [step] at hanswer
  rw [access?, hplace, hanswer]

/-- A search that begins to wait has not found its filter in the cache. -/
theorem mem_waiting_step (samples : Nat) (office : Office) (event : Event) :
    ∀ entry ∈ (office.step samples event).2.waiting, entry ∈ office.waiting ∨
      (office.desk.cache.read entry.2.search.key).1 = none := by
  intro entry hentry
  rcases mem_or_issues_of_mem_step hentry with hold | ⟨cell, text, -, hstart⟩
  · exact .inl hold
  · right
    have hstarts := (office.sessions entry.1).starts samples office.desk cell text
    generalize (office.sessions entry.1).start samples office.desk cell text = result
      at hstarts hstart
    cases hstarts with
    | waits search preview hcheck hread =>
      rw [← Started.waiting.inj hstart]
      exact hread
    | _ => cases hstart

end Office

end SheetQuery
