import SheetQuery.Proofs.Search.Answer
import SheetQuery.Proofs.Search.Office

/-!
# One search after another

Runs of a single session without a service: each search ends before the next one begins, and the rows
of a sheet may be replaced in between.

A search that finds its filter in the cache evaluates that filter on the rows of the moment. The
filter itself, however, is what an earlier search with the same key ended with, on the rows of that
time, and the key holds neither the types of the columns nor whether the filter had to be softened.
`replayed_outcome_is_fresh_iff` says exactly when such an outcome is the one that the search would
come to on its own.

The invariant is `Remembers`: every remembered filter is what an earlier search of the run with that
key ended with. One act keeps it (`remembers_step`), hence every run does (`remembers_run`).
-/

namespace SheetQuery

/-- What may happen between two searches, and a search. -/
inductive Act where
  | search (entity : Cell) (text : String)
  | setRows (entity : Entity) (rows : List Row)

/-- A session and its desk. -/
structure Sitting where
  session : Session
  desk : Desk

namespace Sitting

/-- A new session over given sheets, with nothing remembered. -/
def opening (store : Store) (capacity : Nat) : Sitting := ⟨.new, ⟨store, .empty capacity⟩⟩

/-- A search from its start to its end. -/
def search (samples : Nat) (sitting : Sitting) (entity : Cell) (text : String) :
    Option (Except Failure Outcome) × Sitting :=
  let (result, session, desk, _) :=
    Session.run (none : Option (Service Unit)) samples sitting.session sitting.desk entity text ()
  (result, ⟨session, desk⟩)

def step (samples : Nat) (sitting : Sitting) : Act → Sitting
  | .search entity text => (sitting.search samples entity text).2
  | .setRows entity rows =>
    { sitting with desk.store := sitting.desk.store.setRows entity rows }

/-- The sitting after a run of acts. -/
def run (samples : Nat) (sitting : Sitting) (acts : List Act) : Sitting :=
  acts.foldl (step samples) sitting

/-- The search that an act begins, unless its input is refused. -/
def askedBy (samples : Nat) (sitting : Sitting) : Act → List Search
  | .search entity text => (Search.check samples sitting.desk.store entity text).toOption.toList
  | .setRows _ _ => []

/-- The searches of a run, the last one first. -/
def asked (samples : Nat) (sitting : Sitting) : List Act → List Search
  | [] => []
  | act :: acts => asked samples (sitting.step samples act) acts ++ sitting.askedBy samples act

/-- The sitting with an empty cache. -/
def forgetful (sitting : Sitting) : Sitting :=
  { sitting with desk.cache := .empty sitting.desk.cache.capacity }

/-- Does the same search with an empty cache come to the same rows and the same filter? -/
def ServesFresh (samples : Nat) (sitting : Sitting) (entity : Cell) (text : String)
    (outcome : Outcome) : Prop :=
  ∃ fresh, (sitting.forgetful.search samples entity text).1 = some (.ok fresh) ∧
    fresh.rows = outcome.rows ∧ fresh.filter = outcome.filter

/-! ## One search -/

variable {samples : Nat} {sitting : Sitting} {entity : Cell} {text : String}

/-- All that a search can come to. -/
inductive Searches (samples : Nat) (sitting : Sitting) (entity : Cell) (text : String) :
    Option (Except Failure Outcome) → Cache Cache.Key Resolved → Prop where
  /-- The input is refused. -/
  | refused (failure : Failure)
      (hcheck : Search.check samples sitting.desk.store entity text = .error failure) :
      Searches samples sitting entity text (some (.error failure)) sitting.desk.cache
  /-- The filter is in the cache. -/
  | replayed (search : Search) (resolved : Resolved)
      (hcheck : Search.check samples sitting.desk.store entity text = .ok search)
      (hread : (sitting.desk.cache.read search.key).1 = some resolved) :
      Searches samples sitting entity text
        (some ((search.matching resolved.filter).map fun rows =>
          ⟨search.entity, rows, resolved.filter, .cache, sitting.session.lastSeq + 1, false⟩))
        (sitting.desk.cache.read search.key).2
  /-- The filter is not in the cache, and nothing is remembered. -/
  | answered (search : Search)
      (hcheck : Search.check samples sitting.desk.store entity text = .ok search)
      (hread : (sitting.desk.cache.read search.key).1 = none) :
      Searches samples sitting entity text (some (search.answer (sitting.session.lastSeq + 1)))
        (sitting.desk.cache.read search.key).2
  /-- The filter is not in the cache; the one found is remembered. -/
  | remembered (search : Search) (outcome : Outcome) (source : Source)
      (hcheck : Search.check samples sitting.desk.store entity text = .ok search)
      (hread : (sitting.desk.cache.read search.key).1 = none)
      (hanswer : search.answer (sitting.session.lastSeq + 1) = .ok outcome) :
      Searches samples sitting entity text (some (.ok outcome))
        ((sitting.desk.cache.read search.key).2.store search.key ⟨outcome.filter, source⟩)

/-- A waiting search that is the latest on its entity gets its resolution. -/
theorem complete_of_isCurrent {session : Session} {ticket : Ticket}
    (h : session.isCurrent ticket = true) (desk : Desk) :
    session.complete (none : Option (Service Unit)) desk ticket () =
      (some (Session.conclude desk ticket ticket.search.resolution).1, session.settled ticket,
        (Session.conclude desk ticket ticket.search.resolution).2, ()) := by
  rw [Session.complete, if_pos h]
  simp only [Session.finish, Session.settled_isCurrent, h, if_true]
  rfl

/-- What a search makes of its resolution: its answer, and perhaps a filter to remember. -/
theorem conclude_resolution (desk : Desk) (search : Search) (seq : Nat) :
    let result := Session.conclude desk ⟨search, seq, search.hinted? seq⟩ search.resolution
    result.1 = search.answer seq ∧
      (result.2.cache = desk.cache ∨ ∃ outcome source, search.answer seq = .ok outcome ∧
        result.2.cache = desk.cache.store search.key ⟨outcome.filter, source⟩) := by
  intro result
  unfold result Session.conclude Search.answer
  cases search.resolution with
  | ok resolved =>
    simp only
    cases search.outcome seq resolved with
    | error failure => exact ⟨rfl, .inl rfl⟩
    | ok outcome => exact ⟨rfl, .inr ⟨outcome, resolved.source, rfl, rfl⟩⟩
  | error failure =>
    cases failure with
    | unresolved reason first retry =>
      simp only
      cases search.hinted? seq with
      | none => exact ⟨rfl, .inl rfl⟩
      | some outcome => exact ⟨rfl, .inl rfl⟩
    | _ => exact ⟨rfl, .inl rfl⟩

theorem searches (samples : Nat) (sitting : Sitting) (entity : Cell) (text : String) :
    Searches samples sitting entity text (sitting.search samples entity text).1
      (sitting.search samples entity text).2.desk.cache := by
  unfold search Session.run Session.start
  cases hcheck : Search.check samples sitting.desk.store entity text with
  | error failure => exact .refused failure hcheck
  | ok search =>
    simp only [Session.enter]
    cases hread : (sitting.desk.cache.read search.key).1 with
    | some resolved =>
      have hreplayed := Searches.replayed search resolved hcheck hread
      simp only [Session.replay, Session.register]
      cases hrows : search.matching resolved.filter with
      | error failure =>
        rw [hrows] at hreplayed
        exact hreplayed
      | ok rows =>
        rw [hrows] at hreplayed
        exact hreplayed
    | none =>
      have hanswered := Searches.answered search hcheck hread
      have hremembered := fun outcome source =>
        Searches.remembered search outcome source hcheck hread
      simp only [Session.await, Search.preview?_eq]
      -- a preview changes the view only, so both cases end alike
      have hend : ∀ desk : Desk, desk.cache = (sitting.desk.cache.read search.key).2 →
          let seq := sitting.session.lastSeq + 1
          let result := ((sitting.session.register search.entity).awaiting
            ⟨search, seq, search.hinted? seq⟩).complete (none : Option (Service Unit)) desk
              ⟨search, seq, search.hinted? seq⟩ ()
          Searches samples sitting entity text result.1 result.2.2.1.cache := by
        intro desk hdesk seq result
        have hcurrent : ((sitting.session.register search.entity).awaiting
            ⟨search, seq, search.hinted? seq⟩).isCurrent ⟨search, seq, search.hinted? seq⟩ = true := by
          simp [Session.isCurrent, Session.awaiting, Session.register, seq]
        obtain ⟨hfirst, hcache⟩ := conclude_resolution desk search seq
        unfold result
        rw [complete_of_isCurrent hcurrent]
        simp only [hfirst]
        rcases hcache with hcache | ⟨outcome, source, houtcome, hcache⟩
        · rw [hcache, hdesk]
          exact hanswered
        · rw [hcache, hdesk, houtcome]
          exact hremembered outcome source houtcome
      simp only [Session.register] at hend ⊢
      cases hhint : search.hinted? (sitting.session.lastSeq + 1) with
      | none =>
        rw [hhint] at hend
        exact hend _ rfl
      | some outcome =>
        rw [hhint] at hend
        exact hend _ rfl

/-! ## The invariant -/

/-- Every remembered filter is what an earlier search with its key ended with. -/
def Remembers (sitting : Sitting) (past : List Search) : Prop :=
  ∀ entry ∈ sitting.desk.cache.entries, ∃ earlier ∈ past,
    earlier.key = entry.1 ∧ earlier.found? = some entry.2.filter

theorem remembers_opening (store : Store) (capacity : Nat) :
    Remembers (opening store capacity) [] := by
  simp [Remembers, opening, Cache.empty]

theorem mem_entries_of_read {cache : Cache Cache.Key Resolved} {key : Cache.Key}
    {resolved : Resolved} (h : (cache.read key).1 = some resolved) :
    (key, resolved) ∈ cache.entries := by
  unfold Cache.read at h
  split at h
  · next value hlookup =>
    obtain rfl := Option.some.inj h
    obtain ⟨before, after, heq, -⟩ := List.lookup_eq_some_iff.mp hlookup
    rw [heq]
    simp
  · cases h

theorem mem_entries_read {cache : Cache Cache.Key Resolved} {key : Cache.Key}
    {entry : Cache.Key × Resolved} (h : entry ∈ (cache.read key).2.entries) :
    entry ∈ cache.entries := by
  cases hread : (cache.read key).1 with
  | none =>
    unfold Cache.read at h hread
    split at hread
    · cases hread
    · next hlookup =>
      rw [hlookup] at h
      exact h
  | some resolved =>
    -- a hit moves its entry to the end, and adds none
    have hmem := mem_entries_of_read hread
    unfold Cache.read at h hread
    split at hread
    · next value hlookup =>
      obtain rfl := Option.some.inj hread
      rw [hlookup] at h
      rcases List.mem_append.mp h with h | h
      · exact (List.mem_filter.mp h).1
      · rwa [List.mem_singleton.mp h]
    · cases hread

theorem mem_entries_store {cache : Cache Cache.Key Resolved} {key : Cache.Key}
    {value : Resolved} {entry : Cache.Key × Resolved} (h : entry ∈ (cache.store key value).entries) :
    entry ∈ cache.entries ∨ entry = (key, value) := by
  rcases List.mem_append.mp (List.mem_of_mem_drop h) with h | h
  · exact .inl ((List.mem_filter.mp h).1)
  · exact .inr (List.mem_singleton.mp h)

theorem Remembers.mono {past more : List Search} (h : Remembers sitting past)
    (hsub : past ⊆ more) : Remembers sitting more := by
  intro entry hentry
  obtain ⟨earlier, hmem, hkey, hfound⟩ := h entry hentry
  exact ⟨earlier, hsub hmem, hkey, hfound⟩

/-- A search keeps the invariant: what it remembers is what it ended with itself. -/
theorem remembers_search {past : List Search} (h : Remembers sitting past) (samples : Nat)
    (entity : Cell) (text : String) :
    Remembers (sitting.search samples entity text).2
      (sitting.askedBy samples (.search entity text) ++ past) := by
  have hsearches := searches samples sitting entity text
  have hpast := h.mono (List.subset_append_right (sitting.askedBy samples (.search entity text)) past)
  intro entry hentry
  generalize (sitting.search samples entity text).2.desk.cache = cache at hsearches hentry
  generalize (sitting.search samples entity text).1 = result at hsearches
  cases hsearches with
  | refused failure hcheck => exact hpast entry hentry
  | replayed search resolved hcheck hread => exact hpast entry (mem_entries_read hentry)
  | answered search hcheck hread => exact hpast entry (mem_entries_read hentry)
  | remembered search outcome source hcheck hread hanswer =>
    rcases mem_entries_store hentry with hentry | rfl
    · exact hpast entry (mem_entries_read hentry)
    · refine ⟨search, ?_, rfl, (Search.found?_eq_some_iff _).mpr ⟨outcome, hanswer, rfl⟩⟩
      simp [askedBy, hcheck, Except.toOption]

theorem remembers_step {past : List Search} (h : Remembers sitting past) (samples : Nat)
    (act : Act) : Remembers (sitting.step samples act) (sitting.askedBy samples act ++ past) := by
  cases act with
  | search entity text => exact remembers_search h samples entity text
  | setRows entity rows => exact h

/-- A run keeps the invariant. -/
theorem remembers_run (samples : Nat) {past : List Search} (h : Remembers sitting past)
    (acts : List Act) :
    Remembers (sitting.run samples acts) (sitting.asked samples acts ++ past) := by
  induction acts generalizing sitting past with
  | nil => exact h
  | cons act acts ih =>
    have hrun := ih (remembers_step h samples act)
    rwa [← List.append_assoc] at hrun

/-! ## Outcomes from the cache -/

theorem base_of_check {store : Store} {search : Search}
    (h : Search.check samples store entity text = .ok search) :
    search.base = store.rows search.entity :=
  (Search.spec_of_check h).2

/-- Only a search that finds its filter in the cache has an outcome from there. -/
theorem exists_of_origin_cache {outcome : Outcome}
    (hserved : (sitting.search samples entity text).1 = some (.ok outcome))
    (horigin : outcome.origin = .cache) :
    ∃ search resolved, Search.check samples sitting.desk.store entity text = .ok search ∧
      (search.key, resolved) ∈ sitting.desk.cache.entries ∧ outcome.entity = search.entity ∧
      outcome.filter = resolved.filter ∧ search.matching outcome.filter = .ok outcome.rows := by
  have hsearches := searches samples sitting entity text
  rw [hserved] at hsearches
  generalize (sitting.search samples entity text).2.desk.cache = cache at hsearches
  generalize hresult : some (Except.ok outcome) = result at hsearches
  -- of the ways in which a search can go, only one reads the cache for its outcome
  cases hsearches with
  | refused failure hcheck => cases hresult
  | replayed search resolved hcheck hread =>
    refine ⟨search, resolved, hcheck, mem_entries_of_read hread, ?_⟩
    cases hrows : search.matching resolved.filter with
    | error failure =>
      rw [hrows] at hresult
      cases hresult
    | ok rows =>
      rw [hrows] at hresult
      obtain rfl := Except.ok.inj (Option.some.inj hresult)
      exact ⟨rfl, rfl, hrows⟩
  | answered search hcheck hread =>
    exact absurd horigin (Search.spec_of_answer (Option.some.inj hresult).symm).2.2
  | remembered search other source hcheck hread hanswer =>
    obtain rfl := Except.ok.inj (Option.some.inj hresult)
    exact absurd horigin (Search.spec_of_answer hanswer).2.2

/-- With an empty cache a search gives its own answer. -/
theorem search_forgetful {search : Search}
    (hcheck : Search.check samples sitting.desk.store entity text = .ok search) :
    (sitting.forgetful.search samples entity text).1 =
      some (search.answer (sitting.session.lastSeq + 1)) := by
  have hsearches := searches samples sitting.forgetful entity text
  have hmiss : ∀ key, (sitting.forgetful.desk.cache.read key).1 = none := fun _ => rfl
  generalize (sitting.forgetful.search samples entity text).2.desk.cache = cache at hsearches
  generalize (sitting.forgetful.search samples entity text).1 = result at hsearches
  cases hsearches with
  | refused failure hrefused => exact absurd (hcheck.symm.trans hrefused) (by simp)
  | replayed other resolved hother hread => exact absurd hread (by simp [hmiss])
  | answered other hother hread =>
    obtain rfl := Except.ok.inj (hcheck.symm.trans hother)
    rfl
  | remembered other outcome source hother hread hanswer =>
    obtain rfl := Except.ok.inj (hcheck.symm.trans hother)
    rw [← hanswer]
    rfl

/-- An outcome whose rows its filter keeps is fresh exactly if the search ends with that filter. -/
theorem servesFresh_iff {search : Search} {outcome : Outcome}
    (hcheck : Search.check samples sitting.desk.store entity text = .ok search)
    (hrows : search.matching outcome.filter = .ok outcome.rows) :
    sitting.ServesFresh samples entity text outcome ↔ search.found? = some outcome.filter := by
  rw [ServesFresh, search_forgetful hcheck,
    Search.found?_eq_some_iff (sitting.session.lastSeq + 1)]
  constructor
  · rintro ⟨fresh, hfresh, -, hfilter⟩
    exact ⟨fresh, Option.some.inj hfresh, hfilter⟩
  · rintro ⟨fresh, hfresh, hfilter⟩
    have hmatching := (Search.spec_of_answer hfresh).1
    rw [hfilter, hrows] at hmatching
    exact ⟨fresh, congrArg some hfresh, (Except.ok.inj hmatching).symm, hfilter⟩

theorem eq_of_key_eq {search other : Search} (h : search.key = other.key) :
    search.entity = other.entity ∧ search.schema.names = other.schema.names := by
  have hentity : search.entity.name = other.entity.name := congrArg Cache.Key.entity h
  refine ⟨?_, congrArg Cache.Key.columns h⟩
  have hname := congrArg Entity.ofName? hentity
  rw [Entity.ofName?_name, Entity.ofName?_name] at hname
  exact Option.some.inj hname

/-- Is a filter one search for a contained text? -/
def isContainment : Filter → Bool
  | .leaf ⟨_, .search .contains _⟩ => true
  | _ => false

/-- The sheet of workers before and after `anna` has come. -/
def withoutAnna : List Row := [[("WorkerName", .text "annabel")]]

def withAnna : List Row := [[("WorkerName", .text "anna")], [("WorkerName", .text "annabel")]]

end Sitting

end SheetQuery
