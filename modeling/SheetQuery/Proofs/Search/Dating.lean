import Mathlib.Data.List.Induction
import SheetQuery.Proofs.Search.Moves

/-!
# The rows that a view is taken from

A search looks at the rows of its sheet when it begins, and writes its view when it ends. If the
rows are replaced between, the view it writes is taken from rows that are gone. That is the only way
for a view to outlive its rows: replacing them at any other time drops the view.

* `Office.IsDated`: what is known, after a run, of the waiting searches and of the views;
* `isDated_run`: it is known after every run, of any number of sessions;
* `Office.WaitsThrough`: a search on a sheet waits, from one event of a run to another.
-/

namespace SheetQuery

/-- The rows of an outcome are rows of its search, in their order. -/
theorem Outcome.IsOf.sublist {outcome : Outcome} {search : Search} (h : outcome.IsOf search) :
    outcome.rows.Sublist search.base := by
  have hrows := h.rows
  unfold Filter.apply at hrows
  split at hrows
  · cases hrows
  · rw [← Except.ok.inj hrows]
    exact List.filter_sublist

/-- Does the event replace the rows of the sheet? -/
def Event.Replaces (entity : Entity) : Event → Prop
  | .setRows other _ => other = entity
  | .reset => True
  | _ => False

theorem Event.IsSearch.not_replaces {event : Event} (h : event.IsSearch) (entity : Entity) :
    ¬ event.Replaces entity := by
  cases event <;> first | exact id | exact h.elim

namespace Office

variable {samples : Nat} {office next : Office} {event : Event} {reply : Reply}
  {shown : Option Outcome} {events : List Event} {entity : Entity}

/-- Does the event begin a search on the sheet? -/
def Begins (office : Office) (entity : Entity) (event : Event) : Prop :=
  event.IsStart ∧ office.subject? event = some entity

theorem Begins.not_replaces (h : office.Begins entity event) : ¬ event.Replaces entity := by
  obtain ⟨hstart, -⟩ := h
  cases event <;> first | exact id | exact hstart.elim

/-! ## One event -/

theorem Moves.rows_eq (h : Moves samples office event reply shown next)
    (hevent : ¬ event.Replaces entity) :
    next.desk.store.rows entity = office.desk.store.rows entity := by
  cases h with
  | replaced other rows => exact Entity.update_of_ne _ _ fun heq => hevent heq.symm
  | emptied => exact absurd trivial hevent
  | replayed => rw [Store.rows_showing]
  | waits => rw [Store.rows_showing]
  | found => rw [Store.rows_showing]
  | _ => rfl

/-- A search that waits after an event did so before it, or begins with it on the rows of then. -/
theorem Moves.mem_waiting (h : Moves samples office event reply shown next) :
    ∀ entry ∈ next.waiting, entry ∈ office.waiting ∨
      (office.Begins entry.2.search.entity event ∧
        entry.2.search.base = office.desk.store.rows entry.2.search.entity) := by
  intro entry hentry
  cases h with
  | waits who cell text ticket cache hcheck hseq hproper =>
    rcases List.mem_cons.mp hentry with rfl | hold
    · obtain ⟨hrequire, hbase⟩ := Search.spec_of_check hcheck
      exact .inr ⟨⟨trivial, hrequire⟩, hbase⟩
    · exact .inl hold
  | discarded => exact .inl (List.mem_of_mem_eraseIdx hentry)
  | broken => exact .inl (List.mem_of_mem_eraseIdx hentry)
  | kept => exact .inl (List.mem_of_mem_eraseIdx hentry)
  | found => exact .inl (List.mem_of_mem_eraseIdx hentry)
  | _ => exact .inl hentry

/-- A view after an event was there before it, or is what the event shows. -/
theorem Moves.filtered_eq_some (h : Moves samples office event reply shown next) {view : List Row}
    (hview : next.desk.store.filtered entity = some view) :
    (office.desk.store.filtered entity = some view ∧ ¬ event.Replaces entity) ∨
      ∃ outcome, shown = some outcome ∧ outcome.entity = entity ∧ outcome.rows = view := by
  by_cases hsearch : event.IsSearch
  · rw [h.store_eq hsearch] at hview
    cases shown with
    | none => exact .inl ⟨hview, hsearch.not_replaces entity⟩
    | some outcome =>
      by_cases heq : outcome.entity = entity
      · subst heq
        rw [Store.filtered_showing_self] at hview
        exact .inr ⟨outcome, rfl, rfl, Option.some.inj hview⟩
      · rw [Store.filtered_showing_some_of_ne heq] at hview
        exact .inl ⟨hview, hsearch.not_replaces entity⟩
  · -- an event that is no search takes views away at most
    have hkept : ∀ other, Entity.update office.desk.store.filtered other none entity = some view →
        office.desk.store.filtered entity = some view ∧ other ≠ entity := by
      intro other hview
      by_cases heq : entity = other
      · rw [heq, Entity.update_self] at hview
        cases hview
      · rw [Entity.update_of_ne _ _ heq] at hview
        exact ⟨hview, fun hsame => heq hsame.symm⟩
    cases h with
    | cleared other => exact .inl ⟨(hkept other hview).1, id⟩
    | replaced other rows => exact .inl (hkept other hview)
    | emptied => cases hview
    | _ => exact absurd trivial hsearch

/-- What an event shows is taken from the rows of the moment if it begins a search, and else from
the rows of one that waited. -/
theorem Moves.shown_sublist (h : Moves samples office event reply shown next)
    {outcome : Outcome} (hshown : shown = some outcome) :
    (office.Begins outcome.entity event ∧
        outcome.rows.Sublist (office.desk.store.rows outcome.entity)) ∨
      ∃ entry ∈ office.waiting, entry.2.search.entity = outcome.entity ∧
        outcome.rows.Sublist entry.2.search.base := by
  have hsubject := h.subject_of_shown outcome hshown
  cases h with
  | replayed who cell text search found cache hcheck hof hseq =>
    obtain rfl := Option.some.inj hshown
    refine .inl ⟨⟨trivial, hsubject⟩, ?_⟩
    rw [hof.entity, ← (Search.spec_of_check hcheck).2]
    exact hof.sublist
  | waits who cell text ticket cache hcheck hseq hticket =>
    have hof := (hticket outcome hshown).1
    refine .inl ⟨⟨trivial, hsubject⟩, ?_⟩
    rw [hof.entity, ← (Search.spec_of_check hcheck).2]
    exact hof.sublist
  | found place ending who ticket found cache hplace hcurrent hof hseq =>
    obtain rfl := Option.some.inj hshown
    exact .inr ⟨_, List.mem_of_getElem? hplace, hof.entity.symm, hof.sublist⟩
  | _ => cases hshown

/-! ## Runs -/

theorem run_append (samples : Nat) (office : Office) (events later : List Event) :
    office.run samples (events ++ later) = (office.run samples events).run samples later :=
  List.foldl_append

/-- Events that do not replace the rows of a sheet leave them. -/
theorem rows_run (samples : Nat) {events : List Event}
    (h : ∀ event ∈ events, ¬ event.Replaces entity) :
    (office.run samples events).desk.store.rows entity = office.desk.store.rows entity := by
  induction events generalizing office with
  | nil => rfl
  | cons event events ih =>
    obtain ⟨hfirst, hrest⟩ := List.forall_mem_cons.mp h
    rw [run_cons, ih hrest]
    exact (office.moves samples event).rows_eq hfirst

/-- Does a search on the sheet wait before each of the events? -/
def WaitsThrough (samples : Nat) (entity : Entity) (office : Office) : List Event → Prop
  | [] => True
  | event :: events =>
    ¬ office.IsQuiet entity ∧ WaitsThrough samples entity (office.step samples event).2 events

/-- Are the rows of the sheet replaced only while no search on it waits? -/
def Spared (samples : Nat) (entity : Entity) (office : Office) : List Event → Prop
  | [] => True
  | event :: events => (event.Replaces entity → office.IsQuiet entity) ∧
    Spared samples entity (office.step samples event).2 events

theorem waitsThrough_append {events later : List Event} :
    WaitsThrough samples entity office (events ++ later) ↔
      WaitsThrough samples entity office events ∧
        WaitsThrough samples entity (office.run samples events) later := by
  induction events generalizing office with
  | nil => simp [WaitsThrough]
  | cons event events ih => simp only [List.cons_append, WaitsThrough, ih, run_cons, and_assoc]

theorem spared_append {events later : List Event} :
    Spared samples entity office (events ++ later) ↔
      Spared samples entity office events ∧
        Spared samples entity (office.run samples events) later := by
  induction events generalizing office with
  | nil => simp [Spared]
  | cons event events ih => simp only [List.cons_append, Spared, ih, run_cons, and_assoc]

/-- While a search on a spared sheet waits, its rows are not replaced. -/
theorem not_replaces_of_waitsThrough {events : List Event}
    (hthrough : WaitsThrough samples entity office events)
    (hspared : Spared samples entity office events) :
    ∀ event ∈ events, ¬ event.Replaces entity := by
  induction events generalizing office with
  | nil => nofun
  | cons event events ih =>
    obtain ⟨hwaits, hthrough⟩ := hthrough
    obtain ⟨hspares, hspared⟩ := hspared
    exact List.forall_mem_cons.mpr ⟨fun h => hwaits (hspares h), ih hthrough hspared⟩

/-- The view is taken from the rows at the start of a search on the sheet; from then on a search on
it waited until the view was written, and the rows have not been replaced after that. -/
def IsTakenFrom (samples : Nat) (office : Office) (events : List Event) (entity : Entity)
    (view : List Row) : Prop :=
  ∃ before start during after, events = before ++ start :: (during ++ after) ∧
    (office.run samples before).Begins entity start ∧
    view.Sublist ((office.run samples before).desk.store.rows entity) ∧
    WaitsThrough samples entity (office.run samples (before ++ [start])) during ∧
    ∀ event ∈ after, ¬ event.Replaces entity

/-- What is known after a run: a search that waits has done so since it began, on the rows of then;
and every view is taken from such rows. -/
structure IsDated (samples : Nat) (office : Office) (events : List Event) : Prop where
  waiting : ∀ entry ∈ (office.run samples events).waiting, ∃ before start since,
    events = before ++ start :: since ∧
    (office.run samples before).Begins entry.2.search.entity start ∧
    entry.2.search.base = (office.run samples before).desk.store.rows entry.2.search.entity ∧
    WaitsThrough samples entry.2.search.entity (office.run samples (before ++ [start])) since
  views : ∀ entity view, (office.run samples events).desk.store.filtered entity = some view →
    IsTakenFrom samples office events entity view

theorem isDated_opening (samples : Nat) (hwaiting : office.waiting = [])
    (hviews : ∀ entity, office.desk.store.filtered entity = none) : IsDated samples office [] where
  waiting entry hentry := by
    rw [run_nil, hwaiting] at hentry
    cases hentry
  views entity view hview := by
    rw [run_nil, hviews] at hview
    cases hview

/-- A search that waits after a run has waited up to the next event. -/
theorem IsDated.waits_until {events : List Event} (h : IsDated samples office events)
    {entry : Nat × Ticket} (hentry : entry ∈ (office.run samples events).waiting) (event : Event) :
    ∃ before start since, events = before ++ start :: since ∧
      (office.run samples before).Begins entry.2.search.entity start ∧
      entry.2.search.base = (office.run samples before).desk.store.rows entry.2.search.entity ∧
      WaitsThrough samples entry.2.search.entity (office.run samples (before ++ [start]))
        (since ++ [event]) := by
  obtain ⟨before, start, since, hevents, hstart, hbase, hthrough⟩ := h.waiting entry hentry
  refine ⟨before, start, since, hevents, hstart, hbase, waitsThrough_append.mpr ⟨hthrough, ?_, ?_⟩⟩
  · rw [← run_append, List.append_assoc, List.singleton_append, ← hevents]
    exact fun hquiet => hquiet entry hentry rfl
  · trivial

theorem IsDated.snoc {events : List Event} (h : IsDated samples office events) (event : Event) :
    IsDated samples office (events ++ [event]) := by
  have hrun : office.run samples (events ++ [event]) =
      ((office.run samples events).step samples event).2 := by
    rw [run_append, run_cons, run_nil]
  have hmoves := (office.run samples events).moves samples event
  rw [← hrun] at hmoves
  constructor
  · intro entry hentry
    rcases hmoves.mem_waiting entry hentry with hold | ⟨hbegins, hbase⟩
    · obtain ⟨before, start, since, rfl, hstart, hbase, hthrough⟩ := h.waits_until hold event
      refine ⟨before, start, since ++ [event], ?_, hstart, hbase, hthrough⟩
      rw [List.append_assoc, List.cons_append]
    · exact ⟨events, event, [], rfl, hbegins, hbase, trivial⟩
  · intro entity view hview
    rcases hmoves.filtered_eq_some hview with ⟨hold, hevent⟩ | ⟨outcome, hshown, rfl, rfl⟩
    · -- the view was there before, and the event has not replaced the rows
      obtain ⟨before, start, during, after, rfl, hstart, hsublist, hthrough, hafter⟩ :=
        h.views entity view hold
      refine ⟨before, start, during, after ++ [event], ?_, hstart, hsublist, hthrough, ?_⟩
      · rw [List.append_assoc, List.cons_append, List.append_assoc]
      · exact List.forall_mem_append.mpr ⟨hafter, List.forall_mem_singleton.mpr hevent⟩
    · rcases hmoves.shown_sublist hshown with
        ⟨hbegins, hsublist⟩ | ⟨entry, hentry, hentity, hsublist⟩
      · exact ⟨events, event, [], [], rfl, hbegins, hsublist, trivial, nofun⟩
      · -- the view is written by a search that has waited for this event
        obtain ⟨before, start, since, rfl, hstart, hbase, hthrough⟩ := h.waits_until hentry event
        rw [hbase, hentity] at hsublist
        rw [hentity] at hthrough hstart
        refine ⟨before, start, since ++ [event], [], ?_, hstart, hsublist, hthrough, nofun⟩
        rw [List.append_nil, List.append_assoc, List.cons_append]

theorem isDated_run (samples : Nat) (hwaiting : office.waiting = [])
    (hviews : ∀ entity, office.desk.store.filtered entity = none) (events : List Event) :
    IsDated samples office events := by
  induction events using List.reverseRecOn with
  | nil => exact isDated_opening samples hwaiting hviews
  | append_singleton events event ih => exact ih.snoc event

/-- A view of a spared sheet is taken from the rows that the sheet still has. -/
theorem IsTakenFrom.sublist {view : List Row} (h : IsTakenFrom samples office events entity view)
    (hspared : Spared samples entity office events) :
    view.Sublist ((office.run samples events).desk.store.rows entity) := by
  obtain ⟨before, start, during, after, rfl, hstart, hsublist, hthrough, hafter⟩ := h
  have hduring : ∀ event ∈ during, ¬ event.Replaces entity := by
    have hlater := (spared_append.mp hspared).2.2
    rw [run_append, run_cons, run_nil] at hthrough
    exact not_replaces_of_waitsThrough hthrough (spared_append.mp hlater).1
  have hkept : ∀ event ∈ start :: (during ++ after), ¬ event.Replaces entity :=
    List.forall_mem_cons.mpr
      ⟨hstart.not_replaces, List.forall_mem_append.mpr ⟨hduring, hafter⟩⟩
  rw [run_append, rows_run samples hkept]
  exact hsublist

/-- **When views outlive their rows.** After any run, of any number of sessions, that began without
views, every view of a sheet is taken, in order, from the rows at the start of the search that wrote
it, and these rows have not been replaced since the view was written. So if the rows of the sheet
are only ever replaced while no search on it waits, then its view is always taken from its rows. -/
theorem view_is_taken_from_rows_at_start (samples : Nat) (desk : Desk)
    (hviews : ∀ entity, desk.store.filtered entity = none) (events : List Event) (entity : Entity)
    (view : List Row)
    (hview : ((opening desk).run samples events).desk.store.filtered entity = some view) :
    IsTakenFrom samples (opening desk) events entity view ∧
      (Spared samples entity (opening desk) events →
        view.Sublist (((opening desk).run samples events).desk.store.rows entity)) := by
  have htaken := (isDated_run samples rfl hviews events).views entity view hview
  exact ⟨htaken, htaken.sublist⟩

/-- The jobs are taken away while a search for the long ones waits; its end puts them on view. -/
theorem view_outlives_rows :
    let desk : Desk := ⟨⟨jobs, fun _ => none⟩, .empty 4⟩
    let events : List Event :=
      [.start 0 (.text "tasks") "long running jobs", .setRows .tasks [],
        .finish 0 (some (.ok ⟨.leaf ⟨"Duration", .compare .gt (.int 0)⟩, .deterministic⟩))]
    ∃ view, ((opening desk).run 4 events).desk.store.filtered .tasks = some view ∧
      IsTakenFrom 4 (opening desk) events .tasks view ∧
      ¬ view.Sublist (((opening desk).run 4 events).desk.store.rows .tasks) := by
  intro desk events
  have hlength : (((opening desk).run 4 events).desk.store.filtered .tasks).map List.length =
      some 2 := by decide +kernel
  obtain ⟨view, hview, hlength⟩ := Option.map_eq_some_iff.mp hlength
  refine ⟨view, hview, ?_, fun hsublist => ?_⟩
  · exact (view_is_taken_from_rows_at_start 4 desk (fun _ => rfl) events .tasks view hview).1
  · have hempty : (((opening desk).run 4 events).desk.store.rows .tasks).length = 0 := by
      decide +kernel
    have hle := hsublist.length_le
    omega

end Office

end SheetQuery
