import SheetQuery.Proofs.Query.Normal
import SheetQuery.Proofs.Resolution.Replies
import SheetQuery.Proofs.Search.Access
import SheetQuery.Proofs.Search.Dating
import SheetQuery.Proofs.Search.Sitting

/-!
# Repeated searches

A search that has ended with a resolved filter is remembered until as many other filters have been
found or stored as the cache has room for. Until then, and as long as the rows stay the same, the
search is answered at once when it is repeated, by any session and in any wording of the same normal
form, and no service is asked. What it is answered with is what the last search with its key has
stored. That is its own outcome, unless another search with the key was already waiting.

* `Search.check_eq_ok_iff`: the searches that pass their checks;
* `Office.Recalls`: what an outcome that is still remembered looks like at an office; one event keeps
  it (`Recalls.step`), hence every run does (`Recalls.run`);
* `repeated_search_is_replayed`: the answer to a repeated search.
-/

namespace SheetQuery

/-! ## Checked searches -/

namespace Search

/-- Is a search over the given rows, and does it ask something of columns that they have? -/
structure IsOver (samples : Nat) (rows : List Row) (search : Search) : Prop where
  base : search.base = rows
  schema : search.schema = Schema.infer rows samples
  asks : Text.trim search.query ≠ []
  loaded : rows ≠ []
  headed : Schema.infer rows samples ≠ []

/-- A search passes its checks if it asks something of a sheet that has rows and columns. -/
theorem check_eq_ok_iff {samples : Nat} {store : Store} {entity : Cell} {text : String}
    {search : Search} : check samples store entity text = .ok search ↔
      Entity.require entity = .ok search.entity ∧ search.query = Text.trim text.toList ∧
        search.IsOver samples (store.rows search.entity) := by
  unfold check
  cases hentity : Entity.require entity with
  | error failure => simp [bind, Except.bind]
  | ok target =>
    simp only [bind, Except.bind, pure, Except.pure]
    constructor
    · intro h
      split at h
      · cases h
      · next hasks =>
        split at h
        · cases h
        · next hloaded =>
          split at h
          · cases h
          · next hheaded =>
            obtain rfl := Except.ok.inj h
            exact ⟨rfl, rfl, rfl, rfl, by simpa using hasks, by simpa using hloaded,
              by simpa using hheaded⟩
    · rintro ⟨htarget, hquery, hover⟩
      obtain rfl := Except.ok.inj htarget
      -- the check looks at the text and the claim at the query, which is the text already trimmed
      have hasks : Text.trim text.toList ≠ [] := by
        have hasks := hover.asks
        rwa [hquery, Text.trim_trim] at hasks
      rw [if_neg (by simpa using hasks), if_neg (by simpa using hover.loaded),
        if_neg (by simpa using hover.headed)]
      rw [← hover.schema, ← hover.base, ← hquery]

/-- A search with the same normal form over the same rows passes its checks too, under the same
key. -/
theorem check_repeated {samples : Nat} {store : Store} {search : Search}
    (h : search.IsOver samples (store.rows search.entity)) {entity : Cell} {text : String}
    (hentity : Entity.require entity = .ok search.entity)
    (hnormal : Query.normal text.toList = Query.normal search.query) :
    ∃ again, check samples store entity text = .ok again ∧ again.entity = search.entity ∧
      again.base = search.base ∧ again.key = search.key := by
  have hasks : Text.trim text.toList ≠ [] := by
    rw [Ne, ← Query.normal_eq_nil_iff, hnormal, Query.normal_eq_nil_iff]
    exact h.asks
  refine ⟨⟨search.entity, Text.trim text.toList, search.base, search.schema⟩,
    check_eq_ok_iff.mpr ⟨hentity, rfl, h.base, h.schema, ?_, h.loaded, h.headed⟩, rfl, rfl, ?_⟩
  · rwa [Text.trim_trim]
  simp [key, Cache.Key.of, Query.normalText, hnormal]

end Search

namespace Office

variable {samples : Nat} {office : Office} {event : Event} {entity : Entity} {key : Cache.Key}
  {outcome : Outcome} {newer : Finset Cache.Key}

/-! ## Waiting searches -/

/-- Are the waiting searches on a sheet over the rows of the moment? -/
def IsUpToDate (samples : Nat) (office : Office) (entity : Entity) : Prop :=
  ∀ entry ∈ office.waiting, entry.2.search.entity = entity →
    entry.2.search.IsOver samples (office.desk.store.rows entity)

theorem Moves.isUpToDate {next : Office} {reply : Reply} {shown : Option Outcome}
    (h : Moves samples office event reply shown next) (hevent : ¬ event.Replaces entity)
    (hdate : office.IsUpToDate samples entity) : next.IsUpToDate samples entity := by
  intro entry hentry hentity
  rw [h.rows_eq hevent]
  cases h with
  | waits who cell text ticket cache hcheck hseq hproper =>
    rcases List.mem_cons.mp hentry with rfl | hold
    · rw [← hentity]
      exact (Search.check_eq_ok_iff.mp hcheck).2.2
    · exact hdate entry hold hentity
  | discarded => exact hdate entry (List.mem_of_mem_eraseIdx hentry) hentity
  | broken => exact hdate entry (List.mem_of_mem_eraseIdx hentry) hentity
  | kept => exact hdate entry (List.mem_of_mem_eraseIdx hentry) hentity
  | found => exact hdate entry (List.mem_of_mem_eraseIdx hentry) hentity
  | _ => exact hdate entry hentry hentity

theorem isUpToDate_run {events : List Event} (h : ∀ event ∈ events, ¬ event.Replaces entity)
    (hdate : office.IsUpToDate samples entity) :
    (office.run samples events).IsUpToDate samples entity := by
  induction events generalizing office with
  | nil => exact hdate
  | cons event events ih =>
    obtain ⟨hfirst, hrest⟩ := List.forall_mem_cons.mp h
    exact ih hrest ((office.moves samples event).isUpToDate hfirst hdate)

/-! ## Remembered outcomes -/

/-- Is an outcome remembered under a key, with only the given keys used after it, and are its rows
those that its filter keeps of the sheet? -/
structure Recalls (office : Office) (entity : Entity) (key : Cache.Key) (outcome : Outcome)
    (newer : Finset Cache.Key) : Prop where
  kept : ∃ source, office.desk.cache.Keeps key ⟨outcome.filter, source⟩ newer
  rows : outcome.filter.apply (office.desk.store.rows entity) = .ok outcome.rows

/-- What a search over the rows of the moment stores is remembered. -/
theorem recalls_of_store {search : Search} {source : Source}
    (haccess : office.access? samples event = some (.store search.key outcome source))
    (hdate : office.IsUpToDate samples search.entity) (hevent : ¬ event.Replaces search.entity)
    (hroom : 0 < office.desk.cache.capacity) (newer : Finset Cache.Key) :
    (office.step samples event).2.Recalls search.entity search.key outcome newer := by
  obtain ⟨entry, hentry, hkey, hof⟩ := exists_of_access?_store haccess
  refine ⟨⟨source, ?_⟩, ?_⟩
  · rw [cache_step, haccess]
    exact Cache.keeps_store_self _ _ _ _ hroom
  · rw [(office.moves samples event).rows_eq hevent,
      ← (hdate entry hentry (Sitting.eq_of_key_eq hkey).1).base]
    exact hof.rows

/-- An event keeps an outcome remembered, or puts that of another search with the key in its place. -/
theorem Recalls.step {search : Search} (h : office.Recalls search.entity search.key outcome newer)
    (hdate : office.IsUpToDate samples search.entity) (hevent : ¬ event.Replaces search.entity)
    (hroom : ((newer ∪ office.usedBy samples event).erase search.key).card <
      office.desk.cache.capacity) :
    (office.step samples event).2.Recalls search.entity search.key
      ((office.storedBy samples search.key event).getD outcome)
      (newer ∪ office.usedBy samples event) := by
  obtain ⟨⟨source, hkept⟩, hrows⟩ := h
  rw [← (office.moves samples event).rows_eq hevent] at hrows
  have hcache := office.cache_step samples event
  unfold storedBy usedBy at *
  cases haccess : office.access? samples event with
  | none =>
    rw [haccess] at hcache
    refine ⟨⟨source, ?_⟩, hrows⟩
    rw [hcache]
    exact hkept.mono Finset.subset_union_left
  | some access =>
    rw [haccess] at hcache hroom
    cases access with
    | read other =>
      refine ⟨⟨source, ?_⟩, hrows⟩
      rw [hcache]
      exact hkept.read other
    | store other found means =>
      simp only [Option.elim_some, Access.used, Finset.union_comm newer, ← Finset.insert_eq]
        at hroom ⊢
      by_cases hkey : other = search.key
      · subst hkey
        rw [if_pos rfl, Option.getD_some]
        exact recalls_of_store haccess hdate hevent (Nat.zero_lt_of_lt hroom) _
      · rw [if_neg hkey, Option.getD_none]
        refine ⟨⟨source, ?_⟩, hrows⟩
        rw [hcache]
        exact hkept.store hkey _ hroom

@[simp] theorem capacity_step (samples : Nat) (office : Office) (event : Event) :
    (office.step samples event).2.desk.cache.capacity = office.desk.cache.capacity := by
  rw [cache_step]
  cases office.access? samples event <;> simp

/-- Is an outcome bound to stay remembered throughout a run? The rows of its sheet are left alone, and
fewer other keys are used than the cache has room for. -/
structure Endures (samples : Nat) (office : Office) (search : Search) (outcome : Outcome)
    (newer : Finset Cache.Key) (events : List Event) : Prop where
  recalls : office.Recalls search.entity search.key outcome newer
  date : office.IsUpToDate samples search.entity
  spared : ∀ event ∈ events, ¬ event.Replaces search.entity
  room : ((newer ∪ office.used samples events).erase search.key).card <
    office.desk.cache.capacity

variable {search : Search} {events : List Event}

theorem Endures.step (h : Endures samples office search outcome newer (event :: events)) :
    Endures samples (office.step samples event).2 search
      ((office.storedBy samples search.key event).getD outcome)
      (newer ∪ office.usedBy samples event) events := by
  obtain ⟨hfirst, hrest⟩ := List.forall_mem_cons.mp h.spared
  have hroom := h.room
  rw [used, ← Finset.union_assoc] at hroom
  have hsub : (newer ∪ office.usedBy samples event).erase search.key ⊆
      (newer ∪ office.usedBy samples event ∪
        (office.step samples event).2.used samples events).erase search.key :=
    Finset.erase_subset_erase _ Finset.subset_union_left
  exact ⟨h.recalls.step h.date hfirst ((Finset.card_le_card hsub).trans_lt hroom),
    (office.moves samples event).isUpToDate hfirst h.date, hrest, by rwa [capacity_step]⟩

/-- After a run, the outcome is remembered, or the one that was stored last in its place. -/
theorem Endures.run (h : Endures samples office search outcome newer events) :
    (office.run samples events).Recalls search.entity search.key
      (office.lastStored samples search.key outcome events)
      (newer ∪ office.used samples events) := by
  induction events generalizing office outcome newer with
  | nil => simpa [used, lastStored] using h.recalls
  | cons event events ih =>
    rw [used, ← Finset.union_assoc]
    exact ih h.step

/-! ## Searches with the same key -/

/-- Does no search with the key wait? -/
def IsClear (office : Office) (key : Cache.Key) : Prop :=
  ∀ entry ∈ office.waiting, entry.2.search.key ≠ key

/-- While a key is remembered, no search with it begins to wait. -/
theorem Recalls.isClear_step (h : office.Recalls entity key outcome newer)
    (hclear : office.IsClear key) (samples : Nat) (event : Event) :
    (office.step samples event).2.IsClear key := by
  intro entry hentry hkey
  rcases office.mem_waiting_step samples event entry hentry with hold | hmissed
  · exact hclear entry hold hkey
  · obtain ⟨source, hkept⟩ := h.kept
    rw [hkey, hkept.read_eq] at hmissed
    cases hmissed

/-- Where no search with a key waits, nothing is stored under it. -/
theorem storedBy_of_isClear (hclear : office.IsClear key) (samples : Nat) (event : Event) :
    office.storedBy samples key event = none := by
  unfold storedBy
  split
  · next other found source haccess =>
    obtain ⟨entry, hentry, hkey, -⟩ := exists_of_access?_store haccess
    rw [if_neg fun hsame => hclear entry hentry (hkey.trans hsame)]
  · rfl

/-- Where no search with the key waits, the outcome stays the last one stored. -/
theorem Endures.lastStored_eq (h : Endures samples office search outcome newer events)
    (hclear : office.IsClear search.key) :
    office.lastStored samples search.key outcome events = outcome := by
  induction events generalizing office newer with
  | nil => rfl
  | cons event events ih =>
    have hstep := h.step
    rw [storedBy_of_isClear hclear, Option.getD_none] at hstep
    rw [lastStored, storedBy_of_isClear hclear, Option.getD_none]
    exact ih hstep (h.recalls.isClear_step hclear samples event)

/-! ## Repeated searches -/

theorem isUpToDate_opening (samples : Nat) (desk : Desk) (entity : Entity) :
    (opening desk).IsUpToDate samples entity := nofun

theorem capacity_run (samples : Nat) (office : Office) (events : List Event) :
    (office.run samples events).desk.cache.capacity = office.desk.cache.capacity := by
  induction events generalizing office with
  | nil => rfl
  | cons event events ih => rw [run_cons, ih, capacity_step]

/-- A remembered search is answered from the cache, and no service is asked. -/
theorem Recalls.run_eq (h : office.Recalls search.entity search.key outcome newer)
    (hover : search.IsOver samples (office.desk.store.rows search.entity)) {cell : Cell}
    {text : String} (hentity : Entity.require cell = .ok search.entity)
    (hnormal : Query.normal text.toList = Query.normal search.query) {σ : Type}
    (service : Option (Service σ)) (session : Session) (s : σ) :
    let run := Session.run service samples session office.desk cell text s
    run.1 = some (.ok ⟨search.entity, outcome.rows, outcome.filter, .cache, session.lastSeq + 1,
      false⟩) ∧ run.2.2.2 = s := by
  obtain ⟨again, hcheck, hsame, hbase, hkey⟩ := Search.check_repeated hover hentity hnormal
  obtain ⟨source, hkept⟩ := h.kept
  have hread : (office.desk.cache.read again.key).1 = some ⟨outcome.filter, source⟩ := by
    rw [hkey, hkept.read_eq]
  have hmatching : again.matching outcome.filter = .ok outcome.rows := by
    rw [Search.matching, hbase, hover.base, h.rows]
  simp only [Session.run, Session.start, hcheck, Session.enter, hread, Session.replay, hmatching]
  exact ⟨by rw [← hsame]; rfl, trivial⟩

/-- **Repeated searches are answered from the cache.** Let a search end with a resolved filter, and
let the rows of its sheet stay the same. As long as since then fewer other keys have been found or
stored than the cache has room for, by searches of any session on any sheet, the search is answered
from the cache when a session repeats it, in any wording of the same normal form. No service is asked,
and the answer has the filter and the rows of the last search with the same key that ended with a
resolved filter. That is the search itself, if no other one with its key was waiting when it ended. -/
theorem repeated_search_is_replayed (samples : Nat) (desk : Desk) (before after : List Event)
    (place who : Nat) (ticket : Ticket) (resolved : Resolved) (outcome : Outcome)
    (hplace : ((opening desk).run samples before).waiting[place]? = some (who, ticket))
    (hanswer : (((opening desk).run samples before).step samples
      (.finish place (some (.ok resolved)))).1 = .ended (.ok outcome))
    (hspared : ∀ event ∈ before ++ after, ¬ event.Replaces ticket.search.entity) :
    let ended := (((opening desk).run samples before).step samples
      (.finish place (some (.ok resolved)))).2
    let last := ended.lastStored samples ticket.search.key outcome after
    ((ended.used samples after).erase ticket.search.key).card < desk.cache.capacity →
    (∀ (cell : Cell) (text : String), Entity.require cell = .ok ticket.search.entity →
      Query.normal text.toList = Query.normal ticket.search.query →
      ∀ {σ : Type} (service : Option (Service σ)) (session : Session) (s : σ),
        let run := Session.run (Service.recorded? service) samples session
          (ended.run samples after).desk cell text (s, [])
        run.1 = some (.ok ⟨ticket.search.entity, last.rows, last.filter, .cache,
          session.lastSeq + 1, false⟩) ∧ run.2.2.2 = (s, [])) ∧
    (ended.IsClear ticket.search.key → last = outcome) := by
  intro ended last hroom
  obtain ⟨hbefore, hafter⟩ := List.forall_mem_append.mp hspared
  have hdate := isUpToDate_run hbefore (isUpToDate_opening samples desk ticket.search.entity)
  have hcapacity : ((opening desk).run samples before).desk.cache.capacity = desk.cache.capacity :=
    capacity_run samples (opening desk) before
  have hfinish : ¬ (Event.finish place (some (.ok resolved))).Replaces ticket.search.entity := id
  have hendures : Endures samples ended ticket.search outcome ∅ after := by
    refine ⟨recalls_of_store (access?_of_finish hplace hanswer) hdate hfinish ?_ ∅,
      (Office.moves _ _ _).isUpToDate hfinish hdate, hafter, ?_⟩
    · rw [hcapacity]
      exact Nat.zero_lt_of_lt hroom
    · rw [Finset.empty_union, capacity_step, hcapacity]
      exact hroom
  refine ⟨fun cell text hentity hnormal σ service session s => ?_, hendures.lastStored_eq⟩
  -- the rows of the sheet are still those that the search
  -- began with, so its key is that of its repetition
  have hover : ticket.search.IsOver samples
      ((ended.run samples after).desk.store.rows ticket.search.entity) := by
    have hrows : (ended.run samples after).desk.store.rows ticket.search.entity =
        ((opening desk).run samples before).desk.store.rows ticket.search.entity :=
      (rows_run samples hafter).trans ((Office.moves _ _ _).rows_eq hfinish)
    rw [hrows]
    exact hdate (who, ticket) (List.mem_of_getElem? hplace) rfl
  exact hendures.run.run_eq hover hentity hnormal (Service.recorded? service) session (s, [])

/-- One other search, and a cache with room for two filters: a wording with other blanks and in other
case is answered from the cache. -/
theorem reworded_search_is_replayed :
    let desk : Desk := ⟨⟨jobs, fun _ => none⟩, .empty 2⟩
    let before : List Event := [.start 0 (.text "tasks") "Duration at least 2"]
    let finish : Event :=
      .finish 0 (some (.ok ⟨.leaf ⟨"Duration", .compare .ge (.int 2)⟩, .deterministic⟩))
    let after : List Event := [.start 1 (.text "tasks") "Duration < 2",
      .finish 0 (some (.ok ⟨.leaf ⟨"Duration", .compare .lt (.int 2)⟩, .deterministic⟩))]
    let ended := (((opening desk).run 4 before).step 4 finish).2
    ∃ outcome, (((opening desk).run 4 before).step 4 finish).1 = .ended (.ok outcome) ∧
      (ended.used 4 after).card = 1 ∧
      ∀ session : Session, (Session.run (Service.recorded? (none : Option (Service Unit))) 4 session
        (ended.run 4 after).desk (.text "tasks") " DURATION  at least 2" ((), [])).1 =
          some (.ok ⟨.tasks, outcome.rows, outcome.filter, .cache, session.lastSeq + 1, false⟩) := by
  intro desk before finish after ended
  have hwaits : ((opening desk).run 4 before).waiting[0]?.map
      (fun entry => (entry.2.search.entity, Query.normal entry.2.search.query)) =
        some (.tasks, "duration at least 2".toList) := by
    decide +kernel
  have hfound : (((opening desk).run 4 before).step 4 finish).1.outcome?.isSome = true := by
    decide +kernel
  have hused : (ended.used 4 after).card = 1 := by decide +kernel
  have hnone : ended.waiting.length = 0 := by decide +kernel
  obtain ⟨⟨who, ticket⟩, hplace, hentry⟩ := Option.map_eq_some_iff.mp hwaits
  obtain ⟨hentity, hquery⟩ := Prod.mk.inj hentry
  dsimp only at hentity hquery
  obtain ⟨outcome, houtcome⟩ := Option.isSome_iff_exists.mp hfound
  have hanswer := Reply.eq_of_outcome? houtcome
  have hspared : ∀ event ∈ before ++ after, ¬ event.Replaces ticket.search.entity := by
    simp [before, after, Event.Replaces]
  have hroom : ((ended.used 4 after).erase ticket.search.key).card < desk.cache.capacity :=
    (Finset.card_le_card (Finset.erase_subset _ _)).trans_lt (hused ▸ Nat.one_lt_two)
  obtain ⟨hreplayed, hlast⟩ := repeated_search_is_replayed 4 desk before after 0 who ticket _ outcome
    hplace hanswer hspared hroom
  have hclear : ended.IsClear ticket.search.key := by
    rw [IsClear, List.eq_nil_of_length_eq_zero hnone]
    nofun
  have hrun := fun session => (hreplayed (.text "tasks") " DURATION  at least 2"
    (by rw [hentity]; rfl) (by rw [hquery]; decide +kernel) none session ()).1
  refine ⟨outcome, hanswer, hused, fun session => ?_⟩
  rw [hrun session, hlast hclear, hentity]

/-- A search for the jobs of a least duration, and the same in another session with two blanks, which
is not read as that. The second one ends last, and is what a repetition of the first is answered
with. -/
theorem rival_search_is_replayed :
    let desk : Desk := ⟨⟨jobs, fun _ => none⟩, .empty 2⟩
    let resolved (text : String) :=
      Resolution.unaided .tasks (Schema.infer (jobs .tasks) 4) text.toList
    let before : List Event := [.start 0 (.text "tasks") "Duration at least 2",
      .start 1 (.text "tasks") "Duration at  least 2"]
    let finish : Event := .finish 1 (some (resolved "Duration at least 2"))
    let after : List Event := [.finish 0 (some (resolved "Duration at  least 2"))]
    let ended := (((opening desk).run 4 before).step 4 finish).2
    let again := (Session.run (none : Option (Service Unit)) 4 ((ended.run 4 after).sessions 0)
      (ended.run 4 after).desk (.text "tasks") "Duration at least 2" ()).1
    (∀ event ∈ before ++ after, ¬ event.Replaces .tasks) ∧
      (ended.used 4 after).card < desk.cache.capacity ∧
      ∃ outcome other, (((opening desk).run 4 before).step 4 finish).1 = .ended (.ok outcome) ∧
        outcome.origin = .resolved .deterministic ∧ again = some (.ok other) ∧
        other.origin = .cache ∧ outcome.rows.length = 1 ∧ other.rows = [] := by
  intro desk resolved before finish after ended again
  have hfound : (((opening desk).run 4 before).step 4 finish).1.outcome?.map
      (fun outcome => (outcome.origin, outcome.rows.length)) =
        some (.resolved .deterministic, 1) := by
    decide +kernel
  have hserved : (again.bind Except.toOption).map
      (fun outcome => (outcome.origin, outcome.rows.length)) = some (.cache, 0) := by
    decide +kernel
  obtain ⟨outcome, houtcome, hfirst⟩ := Option.map_eq_some_iff.mp hfound
  obtain ⟨horigin, hrows⟩ := Prod.mk.inj hfirst
  obtain ⟨other, hother, hsecond⟩ := Option.map_eq_some_iff.mp hserved
  obtain ⟨hcache, hempty⟩ := Prod.mk.inj hsecond
  obtain ⟨result, hagain, hresult⟩ := Option.bind_eq_some_iff.mp hother
  have hok : again = some (.ok other) := by
    cases result with
    | error failure => cases hresult
    | ok found => rw [hagain, Option.some.inj hresult]
  refine ⟨by simp [before, after, Event.Replaces], by decide +kernel, outcome, other,
    Reply.eq_of_outcome? houtcome, horigin, hok, hcache, hrows,
    List.eq_nil_of_length_eq_zero hempty⟩

end Office

end SheetQuery
