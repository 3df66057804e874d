import SheetQuery.Proofs.Search.Moves

/-!
# Sound outcomes

When a search of a session ends with an outcome, then the rows of that outcome are those of the
sheet that its filter keeps, and they are what is shown of the sheet. It does not matter which way
the outcome came: from the cache, from a resolved filter, softened or not, or as the preview of a
search whose filter was not found. Other searches may start and finish between the halves of a
search; only the rows and the view of its sheet have to be left alone by everything that is no
search.

The invariant is `Office.IsSound`: the searches that wait began on the rows of the moment, and the
preview of the latest one on a sheet is still shown. One event keeps it (`Moves.isSound`), hence
every run does (`isSound_run`).
-/

namespace SheetQuery.Office

variable {samples who : Nat} {office next : Office} {event : Event} {reply : Reply}
  {shown : Option Outcome}

/-- Is the event a search, or one that touches only sheets on which no search waits? -/
def Spares (office : Office) : Event → Prop
  | .clear entity => office.IsQuiet entity
  | .setRows entity _ => office.IsQuiet entity
  | .reset => ∀ entity, office.IsQuiet entity
  | _ => True

/-- Is every event of the run such a one? -/
def Undisturbed (samples : Nat) (office : Office) : List Event → Prop
  | [] => True
  | event :: events =>
    office.Spares event ∧ Undisturbed samples (office.step samples event).2 events

/-- The waiting searches of a session began on the rows of the moment, and the preview of the latest
one on a sheet is shown. -/
structure IsSound (office : Office) (who : Nat) : Prop where
  solo : office.IsSolo who
  proper : office.IsProper
  base : ∀ entry ∈ office.waiting,
    entry.2.search.base = office.desk.store.rows entry.2.search.entity
  view : ∀ entry ∈ office.waiting, (office.sessions who).isCurrent entry.2 = true →
    ∀ outcome ∈ entry.2.preview,
      office.desk.store.filtered entry.2.search.entity = some outcome.rows

theorem isSound_opening (desk : Desk) (who : Nat) : (opening desk).IsSound who :=
  ⟨isSolo_opening desk who, nofun, nofun, nofun⟩

/-! ## One event -/

/-- A new search leaves the previews of the searches that are still current on view. -/
theorem IsSound.view_register (h : office.IsSound who) {entity : Entity}
    (hshown : ∀ outcome ∈ shown, outcome.entity = entity) :
    ∀ entry ∈ office.waiting,
      ((office.sessions who).register entity).isCurrent entry.2 = true →
      ∀ outcome ∈ entry.2.preview,
        (office.desk.store.showing shown).filtered entry.2.search.entity = some outcome.rows := by
  intro entry hentry hcurrent outcome houtcome
  obtain ⟨hne, hcurrent⟩ := h.solo.of_isCurrent_register hentry hcurrent
  have hother : ∀ outcome ∈ shown, outcome.entity ≠ entry.2.search.entity := by
    intro outcome houtcome heq
    exact hne (heq.symm.trans (hshown outcome houtcome))
  rw [Store.filtered_showing_of_ne hother]
  exact h.view entry hentry hcurrent outcome houtcome

/-- The end of a search that shows nothing keeps the invariant. -/
theorem IsSound.erase (h : office.IsSound who) {place : Nat} {ticket : Ticket} :
    IsSound ⟨office.desk, seat office.sessions who ((office.sessions who).settled ticket),
      office.waiting.eraseIdx place⟩ who where
  solo := h.solo.erase
  proper entry hentry := h.proper entry (List.mem_of_mem_eraseIdx hentry)
  base entry hentry := h.base entry (List.mem_of_mem_eraseIdx hentry)
  view entry hentry hcurrent := by
    dsimp only at hcurrent
    rw [seat_self, Session.settled_isCurrent] at hcurrent
    exact h.view entry (List.mem_of_mem_eraseIdx hentry) hcurrent

theorem Moves.isSound (h : Moves samples office event reply shown next) (hby : event.IsBy who)
    (hspares : office.Spares event) (hsound : office.IsSound who) : next.IsSound who := by
  have hsolo := h.isSolo hby hsound.solo
  have hproper := h.isProper hsound.proper
  cases h with
  | refused other entity text failure => exact hsound
  | replayed other entity text search outcome cache hcheck hof hseq =>
    obtain rfl : other = who := hby
    refine ⟨hsolo, hproper, ?_, ?_⟩
    · simpa using hsound.base
    · simp only [seat_self]
      refine hsound.view_register fun found hfound => ?_
      obtain rfl := Option.some.inj hfound
      exact hof.entity
  | failed other entity text search failure cache hcheck =>
    obtain rfl : other = who := hby
    refine ⟨hsolo, hproper, hsound.base, ?_⟩
    simp only [seat_self]
    have hnothing : ∀ outcome ∈ (none : Option Outcome), outcome.entity = search.entity := nofun
    exact hsound.view_register hnothing
  | waits other entity text ticket cache hcheck hseq hticket =>
    obtain rfl : other = who := hby
    refine ⟨hsolo, hproper, ?_, ?_⟩
    · simp only [Store.rows_showing]
      exact List.forall_mem_cons.mpr ⟨(Search.spec_of_check hcheck).2, hsound.base⟩
    · simp only [seat_self]
      refine List.forall_mem_cons.mpr ⟨?_, ?_⟩
      · -- its own preview has just been shown
        intro _ outcome houtcome
        dsimp only at houtcome ⊢
        rw [← (hticket outcome houtcome).1.entity, Option.mem_def.mp houtcome,
          Store.filtered_showing_self]
      · exact hsound.view_register fun outcome houtcome => (hticket outcome houtcome).1.entity
  | absent place ending hplace => exact hsound
  | discarded place ending other ticket hplace hcause =>
    obtain rfl := hsound.solo.eq_of_waiting hplace
    exact hsound.erase
  | broken place ending other ticket failure hplace hcurrent =>
    obtain rfl := hsound.solo.eq_of_waiting hplace
    exact hsound.erase
  | kept place ending other ticket outcome hplace hcurrent hpreview =>
    obtain rfl := hsound.solo.eq_of_waiting hplace
    exact hsound.erase
  | found place ending other ticket outcome cache hplace hcurrent hof hseq =>
    obtain rfl := hsound.solo.eq_of_waiting hplace
    refine ⟨hsolo, hproper, ?_, ?_⟩
    · intro entry hentry
      simpa using hsound.base entry (List.mem_of_mem_eraseIdx hentry)
    · intro entry hentry hentryCurrent
      simp only [seat_self, Session.settled_isCurrent] at hentryCurrent
      -- the finished search was the current one on its sheet, so this one is on another
      have hne := hsound.solo.entity_ne_of_mem_eraseIdx hplace hcurrent hentry hentryCurrent
      rw [Store.filtered_showing_some_of_ne (hof.entity.trans_ne hne.symm)]
      exact hsound.view entry (List.mem_of_mem_eraseIdx hentry) hentryCurrent
  | cleared entity =>
    refine ⟨hsolo, hproper, hsound.base, ?_⟩
    intro entry hentry hcurrent outcome houtcome
    simp only [Session.clear, Store.filtered_setFiltered]
    rw [Entity.update_of_ne _ _ (hspares entry hentry)]
    exact hsound.view entry hentry hcurrent outcome houtcome
  | replaced entity rows =>
    refine ⟨hsolo, hproper, ?_, ?_⟩
    · intro entry hentry
      simp only [Store.setRows, Entity.update_of_ne _ _ (hspares entry hentry)]
      exact hsound.base entry hentry
    · intro entry hentry hcurrent outcome houtcome
      simp only [Store.setRows, Entity.update_of_ne _ _ (hspares entry hentry)]
      exact hsound.view entry hentry hcurrent outcome houtcome
  | emptied =>
    have hnone : ∀ entry, entry ∉ office.waiting := fun entry hentry =>
      hspares entry.2.search.entity entry hentry rfl
    exact ⟨hsolo, hproper, fun entry hentry => absurd hentry (hnone entry),
      fun entry hentry => absurd hentry (hnone entry)⟩

/-- An outcome has the rows that its filter keeps of its sheet, and they are shown. -/
theorem Moves.outcome_isSound {outcome : Outcome}
    (h : Moves samples office event (.ended (.ok outcome)) shown next)
    (hsound : office.IsSound who) :
    office.subject? event = some outcome.entity ∧
      outcome.filter.apply (next.desk.store.rows outcome.entity) = .ok outcome.rows ∧
      next.desk.store.filtered outcome.entity = some outcome.rows := by
  have hsubject := h.subject_of_outcome hsound.proper outcome rfl
  cases h with
  | replayed other entity text search outcome cache hcheck hof hseq =>
    refine ⟨hsubject, ?_, Store.filtered_showing_self _ _⟩
    rw [Store.rows_showing, hof.entity, ← (Search.spec_of_check hcheck).2]
    exact hof.rows
  | kept place ending other ticket outcome hplace hcurrent hpreview =>
    obtain rfl := hsound.solo.eq_of_waiting hplace
    have hmem := List.mem_of_getElem? hplace
    have hof := (hsound.proper _ hmem outcome hpreview).1
    refine ⟨hsubject, ?_, ?_⟩
    · rw [hof.entity, ← hsound.base _ hmem]
      exact hof.rows
    · -- the preview has stayed on view since the search began
      rw [hof.entity]
      exact hsound.view _ hmem hcurrent outcome hpreview
  | found place ending other ticket outcome cache hplace hcurrent hof hseq =>
    refine ⟨hsubject, ?_, Store.filtered_showing_self _ _⟩
    rw [Store.rows_showing, hof.entity, ← hsound.base _ (List.mem_of_getElem? hplace)]
    exact hof.rows

/-! ## Runs -/

theorem isSound_run (hsound : office.IsSound who) {events : List Event}
    (hby : ∀ event ∈ events, event.IsBy who) (hundisturbed : Undisturbed samples office events) :
    (office.run samples events).IsSound who := by
  induction events generalizing office with
  | nil => exact hsound
  | cons event events ih =>
    obtain ⟨hfirst, hrest⟩ := List.forall_mem_cons.mp hby
    obtain ⟨hspares, hlater⟩ := hundisturbed
    exact ih ((office.moves samples event).isSound hfirst hspares hsound) hrest hlater

/-- A search changes no rows, and no view but that of its own sheet. -/
theorem frame_of_isSearch (samples : Nat) (office : Office) {event : Event}
    (hsearch : event.IsSearch) :
    (office.step samples event).2.desk.store.rows = office.desk.store.rows ∧
      ∀ entity, office.subject? event ≠ some entity →
        (office.step samples event).2.desk.store.filtered entity =
          office.desk.store.filtered entity := by
  have hmoves := office.moves samples event
  rw [hmoves.store_eq hsearch]
  refine ⟨Store.rows_showing _ _, fun entity hentity => ?_⟩
  refine Store.filtered_showing_of_ne fun outcome houtcome heq => hentity ?_
  rw [hmoves.subject_of_shown outcome houtcome, heq]

/-- **Outcomes are sound.** After any run of a single session in which everything but searches
leaves alone the sheets on which searches wait, let a search end with an outcome. Then the outcome
is on the sheet of the search, its rows are those of the sheet that its filter keeps, and they are
shown. And at any office, a search changes no rows and no view but that of its own sheet. -/
theorem outcomes_are_sound (samples : Nat) (desk : Desk) (who : Nat) (events : List Event)
    (event : Event) (hby : ∀ e ∈ events, e.IsBy who)
    (hundisturbed : Undisturbed samples (opening desk) events) :
    (∀ outcome, (((opening desk).run samples events).step samples event).1 = .ended (.ok outcome) →
      let after := (((opening desk).run samples events).step samples event).2
      ((opening desk).run samples events).subject? event = some outcome.entity ∧
        outcome.filter.apply (after.desk.store.rows outcome.entity) = .ok outcome.rows ∧
        after.desk.store.filtered outcome.entity = some outcome.rows) ∧
    ∀ (office : Office) (event : Event), event.IsSearch →
      (office.step samples event).2.desk.store.rows = office.desk.store.rows ∧
        ∀ entity, office.subject? event ≠ some entity →
          (office.step samples event).2.desk.store.filtered entity =
            office.desk.store.filtered entity := by
  have hsound := isSound_run (isSound_opening desk who) hby hundisturbed
  constructor
  · intro outcome houtcome
    have hmoves := ((opening desk).run samples events).moves samples event
    rw [houtcome] at hmoves
    exact hmoves.outcome_isSound hsound
  · intro office event hsearch
    exact frame_of_isSearch samples office hsearch

/-- A search that ends with its preview, while the rows of another sheet have been replaced. -/
theorem kept_preview_is_sound :
    let desk : Desk := ⟨⟨jobs, fun _ => none⟩, .empty 4⟩
    let events : List Event :=
      [.start 0 (.text "tasks") "duration > 2", .setRows .workers [[("Name", .text "anna")]]]
    let event : Event := .finish 0 (some (.error (.unresolved .noResponse none none)))
    let after := ((opening desk).run 4 events).step 4 event
    (∀ e ∈ events, e.IsBy 0) ∧ Undisturbed 4 (opening desk) events ∧
      ∃ outcome, after.1 = .ended (.ok outcome) ∧ outcome.origin = .preview ∧
        outcome.filter.apply (after.2.desk.store.rows outcome.entity) = .ok outcome.rows ∧
        after.2.desk.store.filtered outcome.entity = some outcome.rows := by
  intro desk events event after
  have hby : ∀ e ∈ events, e.IsBy 0 :=
    List.forall_mem_cons.mpr ⟨rfl, List.forall_mem_cons.mpr ⟨trivial, nofun⟩⟩
  have hquiet :
      ((opening desk).step 4 (.start 0 (.text "tasks") "duration > 2")).2.IsQuiet .workers := by
    unfold IsQuiet
    decide +kernel
  have hundisturbed : Undisturbed 4 (opening desk) events := ⟨trivial, hquiet, trivial⟩
  have horigin : after.1.outcome?.map Outcome.origin = some .preview := by decide +kernel
  obtain ⟨outcome, houtcome, horigin⟩ := Option.map_eq_some_iff.mp horigin
  have hanswer : after.1 = .ended (.ok outcome) := Reply.eq_of_outcome? houtcome
  obtain ⟨-, hrows, hview⟩ :=
    (outcomes_are_sound 4 desk 0 events event hby hundisturbed).1 outcome hanswer
  exact ⟨hby, hundisturbed, outcome, hanswer, horigin, hrows, hview⟩

end SheetQuery.Office
