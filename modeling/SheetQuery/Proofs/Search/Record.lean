import SheetQuery.Proofs.Search.Moves

/-!
# Whose rows are shown

The view of a sheet has the rows of the outcome that was shown last, since the view was last
dropped. That outcome need not be the one that was reported last. A preview is shown before its
search ends, and it stays if the search then ends without an outcome: superseded by a search that
shows nothing, cancelled, or failed. And a preview that was cleared away may be reported after that.

These two ways are the only ones in which the view and the reports of a session come apart.

* `Office.record`: the outcomes shown and reported, and the views dropped, in a run;
* `Office.IsShown`, `isShown_run`: the view is that of the outcome shown last;
* `Office.IsKnown`, `isKnown_run`: of a session, also what has been reported of it.
-/

namespace SheetQuery

/-- What a record holds. -/
inductive Entry where
  | shown (outcome : Outcome)
  | reported (outcome : Outcome)
  | dropped (entity : Entity)

namespace Entry

/-- The sheet that an entry is about. -/
def entity : Entry → Entity
  | shown outcome => outcome.entity
  | reported outcome => outcome.entity
  | dropped entity => entity

/-- The outcome shown last of a sheet since its view was dropped, in a record with the last entry
first. -/
def lastShown (entity : Entity) : List Entry → Option Outcome
  | [] => none
  | shown outcome :: log => if outcome.entity = entity then some outcome else lastShown entity log
  | reported _ :: log => lastShown entity log
  | dropped other :: log => if other = entity then none else lastShown entity log

/-- The outcome reported last of a sheet since its view was dropped. -/
def lastReported (entity : Entity) : List Entry → Option Outcome
  | [] => none
  | shown _ :: log => lastReported entity log
  | reported outcome :: log =>
    if outcome.entity = entity then some outcome else lastReported entity log
  | dropped other :: log => if other = entity then none else lastReported entity log

/-- Is a preview shown that its search has not reported? -/
def IsUnreported (entity : Entity) (log : List Entry) : Prop :=
  ∃ preview, lastShown entity log = some preview ∧ preview.origin = .preview ∧
    ∀ outcome, reported outcome ∈ log → outcome.entity = entity → outcome.seq ≠ preview.seq

/-- Is nothing shown although a preview was reported last? -/
def IsUnseen (entity : Entity) (log : List Entry) : Prop :=
  lastShown entity log = none ∧
    ∃ preview, lastReported entity log = some preview ∧ preview.origin = .preview

variable {entity : Entity} {log : List Entry}

theorem mem_of_lastReported {outcome : Outcome} (h : lastReported entity log = some outcome) :
    reported outcome ∈ log ∧ outcome.entity = entity := by
  induction log with
  | nil => cases h
  | cons entry log ih =>
    -- an entry that is passed over leaves the question to the older ones
    have hlater : lastReported entity log = some outcome →
        reported outcome ∈ entry :: log ∧ outcome.entity = entity := fun h =>
      ⟨List.mem_cons_of_mem _ (ih h).1, (ih h).2⟩
    cases entry with
    | shown other => exact hlater h
    | reported other =>
      rw [lastReported] at h
      split at h
      · next heq =>
        obtain rfl := Option.some.inj h
        exact ⟨List.mem_cons_self, heq⟩
      · exact hlater h
    | dropped other =>
      rw [lastReported] at h
      split at h
      · cases h
      · exact hlater h

/-- Entries about other sheets leave the last outcomes of a sheet. -/
theorem last_append_of_ne {entries : List Entry} (h : ∀ entry ∈ entries, entry.entity ≠ entity) :
    lastShown entity (entries ++ log) = lastShown entity log ∧
      lastReported entity (entries ++ log) = lastReported entity log := by
  induction entries with
  | nil => exact ⟨rfl, rfl⟩
  | cons entry entries ih =>
    obtain ⟨hentry, hrest⟩ := List.forall_mem_cons.mp h
    obtain ⟨hshown, hreported⟩ := ih hrest
    cases entry with
    | shown outcome => exact ⟨(if_neg hentry).trans hshown, hreported⟩
    | reported outcome => exact ⟨hshown, (if_neg hentry).trans hreported⟩
    | dropped other => exact ⟨(if_neg hentry).trans hshown, (if_neg hentry).trans hreported⟩

/-- The last outcome shown of a sheet is the last one reported, or they have come apart in one of
the two ways. -/
def IsAccounted (entity : Entity) (log : List Entry) : Prop :=
  lastShown entity log = lastReported entity log ∨ IsUnreported entity log ∨ IsUnseen entity log

theorem IsAccounted.append_of_ne (h : IsAccounted entity log) {entries : List Entry}
    (hne : ∀ entry ∈ entries, entry.entity ≠ entity) : IsAccounted entity (entries ++ log) := by
  obtain ⟨hshown, hreported⟩ : lastShown entity (entries ++ log) = lastShown entity log ∧
      lastReported entity (entries ++ log) = lastReported entity log := last_append_of_ne hne
  rcases h with h | ⟨preview, hlast, horigin, hnone⟩ | ⟨hlast, hsome⟩
  · exact .inl (by rw [hshown, hreported, h])
  · refine .inr (.inl ⟨preview, hshown.trans hlast, horigin, fun outcome hmem heq => ?_⟩)
    rcases List.mem_append.mp hmem with hmem | hmem
    · exact absurd heq (hne _ hmem)
    · exact hnone outcome hmem heq
  · exact .inr (.inr ⟨hshown.trans hlast, by rwa [hreported]⟩)

/-- What is shown and reported at once is accounted for. -/
theorem isAccounted_both {outcome : Outcome} (h : outcome.entity = entity) :
    IsAccounted entity (reported outcome :: shown outcome :: log) :=
  .inl (by simp only [lastShown, lastReported, if_pos h])

/-- Dropping a view takes back whatever was shown and reported of it. -/
theorem IsAccounted.drop (h : IsAccounted entity log) (other : Entity) :
    IsAccounted entity (dropped other :: log) := by
  by_cases heq : other = entity
  · exact .inl (by simp only [lastShown, lastReported, if_pos heq])
  · have hother : ∀ entry ∈ [dropped other], entry.entity ≠ entity :=
      List.forall_mem_singleton.mpr heq
    exact h.append_of_ne hother

/-- They have come apart exactly if it was in one of the two ways. -/
theorem IsAccounted.lastShown_eq_iff (h : IsAccounted entity log) :
    lastShown entity log = lastReported entity log ↔
      ¬ IsUnreported entity log ∧ ¬ IsUnseen entity log := by
  constructor
  · intro heq
    constructor
    · rintro ⟨preview, hlast, -, hnone⟩
      obtain ⟨hmem, hentity⟩ := mem_of_lastReported (heq.symm.trans hlast)
      exact hnone preview hmem hentity rfl
    · rintro ⟨hlast, preview, hreported, -⟩
      rw [hlast, hreported] at heq
      cases heq
  · rintro ⟨hshown, hseen⟩
    rcases h with h | h | h
    · exact h
    · exact absurd h hshown
    · exact absurd h hseen

end Entry

namespace Office

open Entry

/-- The views that an event drops. -/
def dropped : Event → List Entry
  | .clear entity => [.dropped entity]
  | .setRows entity _ => [.dropped entity]
  | .reset => Entity.all.map .dropped
  | _ => []

/-- The entries that an event adds to a record, from its answer and from what it shows. -/
def noted (event : Event) (reply : Reply) (shown : Option Outcome) : List Entry :=
  reply.outcome?.toList.map .reported ++ (shown.toList.map .shown ++ dropped event)

/-- The record of a run, the last entry first. -/
def record (samples : Nat) (office : Office) : List Event → List Entry
  | [] => []
  | event :: events =>
    record samples (office.step samples event).2 events ++
      noted event (office.step samples event).1 (office.shownBy samples event)

variable {samples who : Nat} {office next : Office} {event : Event} {reply : Reply}
  {shown : Option Outcome} {log : List Entry}

/-! ## What is shown -/

/-- The view of every sheet has the rows of the outcome shown last. -/
def IsShown (office : Office) (log : List Entry) : Prop :=
  ∀ entity, office.desk.store.filtered entity = (lastShown entity log).map Outcome.rows

theorem lastShown_noted (entity : Entity) (event : Event) (reply : Reply) (log : List Entry) :
    lastShown entity (noted event reply none ++ log) = lastShown entity (dropped event ++ log) ∧
      ∀ outcome, lastShown entity (noted event reply (some outcome) ++ log) =
        if outcome.entity = entity then some outcome
        else lastShown entity (dropped event ++ log) := by
  unfold noted
  cases reply.outcome? <;> exact ⟨rfl, fun _ => rfl⟩

theorem lastShown_reset (entity : Entity) (log : List Entry) :
    lastShown entity (dropped .reset ++ log) = none ∧
      lastReported entity (dropped .reset ++ log) = none := by
  cases entity <;> exact ⟨rfl, rfl⟩

/-- Dropping a view is on record. -/
theorem IsShown.drop (h : office.IsShown log) (dropped entity : Entity) :
    Entity.update office.desk.store.filtered dropped none entity =
      (lastShown entity (.dropped dropped :: log)).map Outcome.rows := by
  rw [lastShown]
  by_cases heq : entity = dropped
  · rw [heq, Entity.update_self, if_pos rfl]
    rfl
  · rw [Entity.update_of_ne _ _ heq, if_neg fun hsame => heq hsame.symm]
    exact h entity

theorem Moves.isShown (h : Moves samples office event reply shown next)
    (hshown : office.IsShown log) : next.IsShown (noted event reply shown ++ log) := by
  intro entity
  by_cases hsearch : event.IsSearch
  · -- a search writes what it shows, and drops nothing
    have hdropped : dropped event = [] := by
      cases event <;> first | rfl | exact hsearch.elim
    rw [h.store_eq hsearch]
    cases shown with
    | none =>
      rw [(lastShown_noted entity event reply log).1, hdropped]
      exact hshown entity
    | some outcome =>
      rw [(lastShown_noted entity event reply log).2, hdropped]
      by_cases heq : outcome.entity = entity
      · rw [if_pos heq, ← heq]
        exact Store.filtered_showing_self _ _
      · rw [if_neg heq, Store.filtered_showing_some_of_ne heq]
        exact hshown entity
  · cases h with
    | cleared other => exact hshown.drop other entity
    | replaced other rows => exact hshown.drop other entity
    | emptied =>
      rw [(lastShown_noted entity _ _ log).1, (lastShown_reset entity log).1]
      rfl
    | _ => exact absurd trivial hsearch

theorem isShown_run (samples : Nat) (hshown : office.IsShown log) (events : List Event) :
    (office.run samples events).IsShown (office.record samples events ++ log) := by
  induction events generalizing office log with
  | nil => exact hshown
  | cons event events ih =>
    rw [run_cons, record, List.append_assoc]
    exact ih ((office.moves samples event).isShown hshown)

/-! ## What has been reported -/

/-- The preview of a waiting search that has not been superseded is shown, or has been dropped. -/
def ArePreviewed (session : Session) (waiting : List (Nat × Ticket)) (log : List Entry) : Prop :=
  ∀ entry ∈ waiting, session.isCurrent entry.2 = true → ∀ outcome ∈ entry.2.preview,
    lastShown entry.2.search.entity log = some outcome ∨
      lastShown entry.2.search.entity log = none

/-- What is known of a session from its record. -/
structure IsKnown (office : Office) (who : Nat) (log : List Entry) : Prop where
  solo : office.IsSolo who
  proper : office.IsProper
  /-- No reported number is beyond the last one. -/
  le_lastSeq : ∀ outcome, .reported outcome ∈ log →
    outcome.seq ≤ (office.sessions who).lastSeq
  previewed : ArePreviewed (office.sessions who) office.waiting log
  accounted : ∀ entity, IsAccounted entity log

theorem isKnown_opening (desk : Desk) (who : Nat) : (opening desk).IsKnown who [] :=
  ⟨isSolo_opening desk who, nofun, nofun, nofun, fun _ => .inl rfl⟩

variable {entity : Entity} {entries : List Entry}

theorem reported_mem_noted {outcome : Outcome} :
    .reported outcome ∈ noted event reply shown ↔ outcome ∈ reply.outcome? := by
  have hdropped : Entry.reported outcome ∉ dropped event := by
    cases event <;> simp [dropped]
  simp [noted, hdropped]

/-- What a search adds to a record is about its own sheet. -/
theorem Moves.entity_of_mem_noted (h : Moves samples office event reply shown next)
    (hproper : office.IsProper) (hsubject : office.subject? event = some entity) :
    ∀ entry ∈ noted event reply shown, entry.entity = entity := by
  have hdropped : dropped event = [] := by
    cases event <;> first | rfl | cases hsubject
  intro entry hentry
  rw [noted, hdropped, List.append_nil] at hentry
  rcases List.mem_append.mp hentry with hentry | hentry
  · obtain ⟨outcome, houtcome, rfl⟩ := List.mem_map.mp hentry
    have hentity := h.subject_of_outcome hproper outcome (Option.mem_toList.mp houtcome)
    exact Option.some.inj (hentity.symm.trans hsubject)
  · obtain ⟨outcome, houtcome, rfl⟩ := List.mem_map.mp hentry
    have hentity := h.subject_of_shown outcome (Option.mem_toList.mp houtcome)
    exact Option.some.inj (hentity.symm.trans hsubject)

theorem Moves.reported_le (h : Moves samples office event reply shown next)
    (hby : event.IsBy who) (hknown : office.IsKnown who log) :
    ∀ outcome, .reported outcome ∈ noted event reply shown ++ log →
      outcome.seq ≤ (next.sessions who).lastSeq := by
  intro outcome hmem
  rcases List.mem_append.mp hmem with hmem | hmem
  · exact h.seq_le hby hknown.solo hknown.proper outcome (reported_mem_noted.mp hmem)
  · exact Nat.le_trans (hknown.le_lastSeq outcome hmem) (h.lastSeq_le who)

/-! ### Previews -/

/-- A new search leaves the previews of the searches that are still current. -/
theorem IsKnown.previewed_register (h : office.IsKnown who log)
    (hentity : ∀ entry ∈ entries, entry.entity = entity) :
    ArePreviewed ((office.sessions who).register entity) office.waiting (entries ++ log) := by
  intro entry hentry hcurrent
  obtain ⟨hne, hcurrent⟩ := h.solo.of_isCurrent_register hentry hcurrent
  have hother : ∀ e ∈ entries, e.entity ≠ entry.2.search.entity := by
    intro e he heq
    exact hne (heq.symm.trans (hentity e he))
  rw [(last_append_of_ne hother).1]
  exact h.previewed entry hentry hcurrent

theorem IsKnown.previewed_settled (h : office.IsKnown who log) (ticket : Ticket) (place : Nat) :
    ArePreviewed ((office.sessions who).settled ticket) (office.waiting.eraseIdx place) log := by
  intro entry hentry hcurrent
  rw [Session.settled_isCurrent] at hcurrent
  exact h.previewed entry (List.mem_of_mem_eraseIdx hentry) hcurrent

theorem ArePreviewed.drop {session : Session} {waiting : List (Nat × Ticket)}
    (h : ArePreviewed session waiting log) (entity : Entity) :
    ArePreviewed session waiting (.dropped entity :: log) := by
  intro entry hentry hcurrent outcome houtcome
  rw [lastShown]
  split
  · exact .inr rfl
  · exact h entry hentry hcurrent outcome houtcome

theorem Moves.arePreviewed (h : Moves samples office event reply shown next)
    (hby : event.IsBy who) (hknown : office.IsKnown who log) :
    ArePreviewed (next.sessions who) next.waiting (noted event reply shown ++ log) := by
  have hnoted : ∀ {entity}, office.subject? event = some entity →
      ∀ entry ∈ noted event reply shown, entry.entity = entity :=
    h.entity_of_mem_noted hknown.proper
  cases h with
  | refused other cell text failure => exact hknown.previewed
  | replayed other cell text search outcome cache hcheck hof hseq =>
    obtain rfl : other = who := hby
    simp only [seat_self]
    exact hknown.previewed_register (hnoted (Search.spec_of_check hcheck).1)
  | failed other cell text search failure cache hcheck =>
    obtain rfl : other = who := hby
    simp only [seat_self]
    exact hknown.previewed_register (hnoted (Search.spec_of_check hcheck).1)
  | waits other cell text ticket cache hcheck hseq hticket =>
    obtain rfl : other = who := hby
    simp only [seat_self]
    refine List.forall_mem_cons.mpr ⟨fun _ outcome houtcome => .inl ?_, ?_⟩
    · -- its own preview has just been shown
      dsimp only at houtcome ⊢
      rw [Option.mem_def.mp houtcome, (lastShown_noted _ _ _ log).2]
      exact if_pos (hticket outcome houtcome).1.entity
    · exact hknown.previewed_register (hnoted (Search.spec_of_check hcheck).1)
  | absent place ending hplace => exact hknown.previewed
  | discarded place ending other ticket hplace hcause =>
    obtain rfl := hknown.solo.eq_of_waiting hplace
    simp only [seat_self]
    exact hknown.previewed_settled ticket place
  | broken place ending other ticket failure hplace hcurrent =>
    obtain rfl := hknown.solo.eq_of_waiting hplace
    simp only [seat_self]
    exact hknown.previewed_settled ticket place
  | kept place ending other ticket outcome hplace hcurrent hpreview =>
    obtain rfl := hknown.solo.eq_of_waiting hplace
    simp only [seat_self]
    exact hknown.previewed_settled ticket place
  | found place ending other ticket outcome cache hplace hcurrent hof hseq =>
    obtain rfl := hknown.solo.eq_of_waiting hplace
    simp only [seat_self]
    intro entry hentry hstill
    have hold := hknown.previewed_settled ticket place entry hentry hstill
    -- the finished search was the current one on its sheet, so this one is on another
    rw [Session.settled_isCurrent] at hstill
    have hne := hknown.solo.entity_ne_of_mem_eraseIdx hplace hcurrent hentry hstill
    rw [(lastShown_noted _ _ _ log).2, if_neg (hof.entity.trans_ne hne.symm)]
    exact hold
  | cleared entity => exact hknown.previewed.drop entity
  | replaced entity rows => exact hknown.previewed.drop entity
  | emptied => exact ((hknown.previewed.drop .tasks).drop .workers).drop .clients

/-! ### Accounts -/

/-- On the sheet of a search, what it shows and reports is accounted for. -/
theorem Moves.isAccounted_of_subject (h : Moves samples office event reply shown next)
    (hknown : office.IsKnown who log) (hby : event.IsBy who)
    (hsubject : office.subject? event = some entity) :
    IsAccounted entity (noted event reply shown ++ log) := by
  have hreported : ∀ outcome ∈ reply.outcome?, outcome.entity = entity := fun outcome houtcome =>
    Option.some.inj ((h.subject_of_outcome hknown.proper outcome houtcome).symm.trans hsubject)
  cases h with
  | replayed other cell text search outcome cache hcheck hof hseq =>
    exact isAccounted_both (hreported outcome rfl)
  | waits other cell text ticket cache hcheck hseq hticket =>
    obtain rfl : other = who := hby
    cases hpreview : ticket.preview with
    | none => exact hknown.accounted entity
    | some preview =>
      -- the number of the search is new, so nothing has been reported with it
      obtain ⟨hof, hnumber, horigin⟩ := hticket preview hpreview
      have hentity : preview.entity = entity := by
        rw [hof.entity]
        exact Option.some.inj ((Search.spec_of_check hcheck).1.symm.trans hsubject)
      refine .inr (.inl ⟨preview, if_pos hentity, horigin, fun outcome hmem _ => ?_⟩)
      rcases List.mem_append.mp hmem with hmem | hmem
      · cases reported_mem_noted.mp hmem
      · have hle := hknown.le_lastSeq outcome hmem
        omega
  | kept place ending other ticket outcome hplace hcurrent hpreview =>
    obtain rfl := hknown.solo.eq_of_waiting hplace
    have hmem := List.mem_of_getElem? hplace
    obtain ⟨hof, hnumber, horigin⟩ := hknown.proper _ hmem outcome hpreview
    have hlast : lastReported entity (.reported outcome :: log) = some outcome :=
      if_pos (hreported outcome rfl)
    -- the preview is still shown, or its view was dropped while the search waited
    have hshown := hknown.previewed _ hmem hcurrent outcome hpreview
    rw [← hof.entity, hreported outcome rfl] at hshown
    rcases hshown with hshown | hshown
    · exact .inl (hshown.trans hlast.symm)
    · exact .inr (.inr ⟨hshown, outcome, hlast, horigin⟩)
  | found place ending other ticket outcome cache hplace hcurrent hof hseq =>
    exact isAccounted_both (hreported outcome rfl)
  | cleared other => cases hsubject
  | replaced other rows => cases hsubject
  | emptied => cases hsubject
  | _ => exact hknown.accounted entity

theorem Moves.isAccounted (h : Moves samples office event reply shown next)
    (hby : event.IsBy who) (hknown : office.IsKnown who log) (entity : Entity) :
    IsAccounted entity (noted event reply shown ++ log) := by
  have haccounted := hknown.accounted
  cases hsubject : office.subject? event with
  | some target =>
    by_cases heq : target = entity
    · rw [heq] at hsubject
      exact h.isAccounted_of_subject hknown hby hsubject
    · refine (haccounted entity).append_of_ne fun entry hentry hsame => heq ?_
      rw [← hsame, h.entity_of_mem_noted hknown.proper hsubject entry hentry]
  | none =>
    -- nothing is reported and nothing is shown, so only dropped views are on record
    have hreply : reply.outcome? = none := by
      refine Option.eq_none_iff_forall_not_mem.mpr fun outcome houtcome => ?_
      rw [h.subject_of_outcome hknown.proper outcome houtcome] at hsubject
      cases hsubject
    have hshown : shown = none := by
      refine Option.eq_none_iff_forall_not_mem.mpr fun outcome houtcome => ?_
      rw [h.subject_of_shown outcome houtcome] at hsubject
      cases hsubject
    rw [noted, hreply, hshown]
    cases event with
    | clear other => exact (haccounted entity).drop other
    | setRows other rows => exact (haccounted entity).drop other
    | reset => exact (((haccounted entity).drop .tasks).drop .workers).drop .clients
    | _ => exact haccounted entity

theorem Moves.isKnown (h : Moves samples office event reply shown next) (hby : event.IsBy who)
    (hknown : office.IsKnown who log) :
    next.IsKnown who (noted event reply shown ++ log) where
  solo := h.isSolo hby hknown.solo
  proper := h.isProper hknown.proper
  le_lastSeq := h.reported_le hby hknown
  previewed := h.arePreviewed hby hknown
  accounted := h.isAccounted hby hknown

theorem isKnown_run (samples : Nat) (hknown : office.IsKnown who log) {events : List Event}
    (hby : ∀ event ∈ events, event.IsBy who) :
    (office.run samples events).IsKnown who (office.record samples events ++ log) := by
  induction events generalizing office log with
  | nil => exact hknown
  | cons event events ih =>
    obtain ⟨hfirst, hrest⟩ := List.forall_mem_cons.mp hby
    rw [run_cons, record, List.append_assoc]
    exact ih ((office.moves samples event).isKnown hfirst hknown) hrest

/-- **The view belongs to the outcome shown last.** After any run of a single session that began
without views:

* the view of a sheet has the rows of the outcome shown last since the view was dropped, and there
  is no view if none was;
* that outcome is the one reported last, unless it is a preview that its search has not reported, or
  nothing is shown and a preview was reported last;
* so but for these two, the view has the rows of the outcome reported last. -/
theorem view_belongs_to_last_shown (samples : Nat) (desk : Desk)
    (hviews : ∀ entity, desk.store.filtered entity = none) (who : Nat) (events : List Event)
    (hby : ∀ event ∈ events, event.IsBy who) (entity : Entity) :
    let view := ((opening desk).run samples events).desk.store.filtered entity
    let log := (opening desk).record samples events
    view = (lastShown entity log).map Outcome.rows ∧
      (lastShown entity log = lastReported entity log ↔
        ¬ IsUnreported entity log ∧ ¬ IsUnseen entity log) ∧
      (¬ IsUnreported entity log → ¬ IsUnseen entity log →
        view = (lastReported entity log).map Outcome.rows) := by
  intro view log
  have hopening : (opening desk).IsShown [] := hviews
  have hshown := isShown_run samples hopening events
  have hknown := isKnown_run samples (isKnown_opening desk who) hby
  rw [List.append_nil] at hshown hknown
  have hiff := (hknown.accounted entity).lastShown_eq_iff
  refine ⟨hshown entity, hiff, fun hunreported hunseen => ?_⟩
  rw [← hiff.mpr ⟨hunreported, hunseen⟩]
  exact hshown entity

/-- The preview of a superseded search stays on view when the search that superseded it fails,
though no search has reported an outcome and none is waiting. -/
theorem superseded_preview_stays_on_view :
    let desk : Desk := ⟨⟨jobs, fun _ => none⟩, .empty 4⟩
    let events : List Event :=
      [.start 0 (.text "tasks") "duration > 2", .start 0 (.text "tasks") "long running jobs",
        .finish 1 none, .finish 0 (some (.error (.unresolved .noResponse none none)))]
    let log := (opening desk).record 4 events
    (∀ event ∈ events, event.IsBy 0) ∧ ((opening desk).run 4 events).waiting.length = 0 ∧
      lastReported .tasks log = none ∧ IsUnreported .tasks log ∧
      (((opening desk).run 4 events).desk.store.filtered .tasks).map List.length = some 1 := by
  intro desk events log
  have hby : ∀ event ∈ events, event.IsBy 0 := by
    simp [events, Event.IsBy]
  obtain ⟨hview, hiff, -⟩ :=
    view_belongs_to_last_shown 4 desk (fun _ => rfl) 0 events hby .tasks
  have hreported : lastReported .tasks log = none := by
    rw [← Option.isNone_iff_eq_none]
    decide +kernel
  have hlong : (lastShown .tasks log).map (fun found => found.rows.length) = some 1 := by
    decide +kernel
  have hseen : lastShown .tasks log ≠ none := by
    intro hnone
    rw [hnone] at hlong
    cases hlong
  refine ⟨hby, by decide +kernel, hreported, ?_, ?_⟩
  · by_contra hunreported
    have hunseen : ¬ IsUnseen .tasks log := fun h => hseen h.1
    exact hseen ((hiff.mpr ⟨hunreported, hunseen⟩).trans hreported)
  · rw [hview, Option.map_map]
    exact hlong

end Office

end SheetQuery
