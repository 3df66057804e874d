import Mathlib.Order.Bounds.Basic
import SheetQuery.Proofs.Search.Office

/-!
# Superseded searches

A search is superseded when a later one of its session begins on the same entity. From then on it is
silent: whatever its resolution comes to, its second half leaves the desk as it is and is answered
with nothing.

The invariant `Office.Ordered` links the numbers that a run has given out to the latest numbers, the
waiting searches and the searches in flight of each session. One step keeps it (`ordered_step`),
hence every run does (`ordered_run`).
-/

namespace SheetQuery.Office

/-- What the numbers given out so far say about the sessions. -/
structure Ordered (office : Office) (numbers : List Numbered) : Prop where
  /-- Within a session, later searches have larger numbers. -/
  increasing : numbers.Pairwise fun later earlier =>
    later.who = earlier.who → earlier.seq < later.seq
  /-- No number is beyond the last one. -/
  le_lastSeq : ∀ n ∈ numbers, n.seq ≤ (office.sessions n.who).lastSeq
  /-- The latest number on an entity has been given out for it. -/
  latest_given : ∀ who entity seq, (office.sessions who).latest entity = some seq →
    ⟨who, entity, seq⟩ ∈ numbers
  /-- The latest number on an entity is the largest. -/
  le_latest : ∀ n ∈ numbers, ∃ seq, (office.sessions n.who).latest n.entity = some seq ∧ n.seq ≤ seq
  /-- Waiting searches have numbers. -/
  waiting_given : ∀ who ticket, (who, ticket) ∈ office.waiting →
    ⟨who, ticket.search.entity, ticket.seq⟩ ∈ numbers
  /-- A search in flight is the latest on its entity. -/
  inflight_latest : ∀ who entity seq, (office.sessions who).inflight entity = some seq →
    (office.sessions who).latest entity = some seq
  /-- A search in flight is waiting. -/
  inflight_waiting : ∀ who entity seq, (office.sessions who).inflight entity = some seq →
    ∃ ticket, (who, ticket) ∈ office.waiting ∧ ticket.search.entity = entity ∧ ticket.seq = seq

variable {samples : Nat} {office : Office} {numbers : List Numbered}

theorem ordered_opening (desk : Desk) : Ordered (opening desk) [] := by
  constructor <;> simp [opening, Session.new]

/-- Events that touch neither the sessions nor the waiting searches keep the invariant. -/
theorem Ordered.congr {other : Office} (h : Ordered office numbers)
    (hsessions : other.sessions = office.sessions) (hwaiting : other.waiting = office.waiting) :
    Ordered other numbers := by
  obtain ⟨h1, h2, h3, h4, h5, h6, h7⟩ := h
  constructor <;> simpa only [hsessions, hwaiting]

/-! ## Starts -/

/-- The session after a search on `entity` has been given the next number, with `inflight` in flight
on that entity. -/
def numbered (session : Session) (entity : Entity) (inflight : Option Nat) : Session :=
  ⟨session.lastSeq + 1, Entity.update session.latest entity (some (session.lastSeq + 1)),
    Entity.update session.inflight entity inflight⟩

theorem awaiting_register (session : Session) (ticket : Ticket) :
    (session.register ticket.search.entity).awaiting ticket =
      numbered session ticket.search.entity (some ticket.seq) := by
  simp only [numbered, Session.register, Session.awaiting, Session.mk.injEq, true_and]
  funext other
  by_cases h : other = ticket.search.entity
  · simp [h]
  · simp [h]

/-- The searches that wait after a start, and the one in flight: either the start has ended, or it is
itself the one that waits. -/
def Enqueues (office : Office) (who : Nat) (entity : Entity) (inflight : Option Nat)
    (waiting : List (Nat × Ticket)) : Prop :=
  (inflight = none ∧ waiting = office.waiting) ∨
    ∃ ticket : Ticket, ticket.search.entity = entity ∧
      ticket.seq = (office.sessions who).lastSeq + 1 ∧ inflight = some ticket.seq ∧
      waiting = (who, ticket) :: office.waiting

theorem Enqueues.mem_of_mem {who : Nat} {entity : Entity} {inflight : Option Nat}
    {waiting : List (Nat × Ticket)} (h : Enqueues office who entity inflight waiting)
    {entry : Nat × Ticket} (hentry : entry ∈ office.waiting) : entry ∈ waiting := by
  rcases h with ⟨-, rfl⟩ | ⟨ticket, -, -, -, rfl⟩
  · exact hentry
  · exact List.mem_cons_of_mem _ hentry

section Numbered

variable (sessions : Nat → Session) (who other : Nat) (entity e : Entity) (inflight : Option Nat)

/-- Numbering a search changes one session, and the latest number of that session at one entity. -/
theorem latest_seat_numbered :
    (seat sessions who (numbered (sessions who) entity inflight) other).latest e =
      if other = who ∧ e = entity then some ((sessions who).lastSeq + 1)
      else (sessions other).latest e := by
  by_cases hwho : other = who
  · subst hwho
    by_cases he : e = entity
    · simp [numbered, he]
    · simp [numbered, he]
  · simp [hwho]

theorem inflight_seat_numbered :
    (seat sessions who (numbered (sessions who) entity inflight) other).inflight e =
      if other = who ∧ e = entity then inflight else (sessions other).inflight e := by
  by_cases hwho : other = who
  · subst hwho
    by_cases he : e = entity
    · simp [numbered, he]
    · simp [numbered, he]
  · simp [hwho]

theorem lastSeq_le_seat_numbered :
    (sessions other).lastSeq ≤
      (seat sessions who (numbered (sessions who) entity inflight) other).lastSeq := by
  by_cases hwho : other = who
  · subst hwho
    rw [seat_self]
    exact Nat.le_succ _
  · rw [seat_of_ne _ _ hwho]

end Numbered

theorem ordered_numbered (h : Ordered office numbers) (desk : Desk) {who : Nat} {entity : Entity}
    {inflight : Option Nat} {waiting : List (Nat × Ticket)}
    (hqueue : Enqueues office who entity inflight waiting) :
    Ordered ⟨desk, seat office.sessions who (numbered (office.sessions who) entity inflight), waiting⟩
      (⟨who, entity, (office.sessions who).lastSeq + 1⟩ :: numbers) where
  increasing := by
    -- the new number of the session is above all that it has given
    refine List.pairwise_cons.mpr ⟨?_, h.increasing⟩
    intro n hn hwho
    have hle := h.le_lastSeq n hn
    rw [← hwho] at hle
    exact Nat.lt_succ_of_le hle
  le_lastSeq := by
    refine List.forall_mem_cons.mpr ⟨?_, fun n hn => ?_⟩
    · dsimp only
      rw [seat_self]
      exact Nat.le_refl _
    · exact Nat.le_trans (h.le_lastSeq n hn) (lastSeq_le_seat_numbered _ _ _ _ _)
  latest_given := by
    intro other e seq hlatest
    rw [latest_seat_numbered] at hlatest
    split at hlatest
    · next hnew =>
      obtain ⟨rfl, rfl⟩ := hnew
      cases hlatest
      exact List.mem_cons_self
    · exact List.mem_cons_of_mem _ (h.latest_given _ _ _ hlatest)
  le_latest := by
    intro n hn
    rw [latest_seat_numbered]
    split
    · next hnew =>
      refine ⟨_, rfl, ?_⟩
      rcases List.mem_cons.mp hn with rfl | hn
      · exact Nat.le_refl _
      · have hle := h.le_lastSeq n hn
        rw [hnew.1] at hle
        exact Nat.le_succ_of_le hle
    · next hold =>
      rcases List.mem_cons.mp hn with rfl | hn
      · exact absurd ⟨rfl, rfl⟩ hold
      · exact h.le_latest n hn
  waiting_given := by
    intro other ticket hmem
    rcases hqueue with ⟨-, rfl⟩ | ⟨new, rfl, hseq, -, rfl⟩
    · exact List.mem_cons_of_mem _ (h.waiting_given _ _ hmem)
    · rcases List.mem_cons.mp hmem with hnew | hold
      · cases hnew
        rw [← hseq]
        exact List.mem_cons_self
      · exact List.mem_cons_of_mem _ (h.waiting_given _ _ hold)
  inflight_latest := by
    intro other e seq hin
    rw [inflight_seat_numbered] at hin
    rw [latest_seat_numbered]
    by_cases hnew : other = who ∧ e = entity
    · rw [if_pos hnew] at hin ⊢
      rcases hqueue with ⟨rfl, -⟩ | ⟨new, -, hseq, rfl, -⟩
      · cases hin
      · rw [← hin, hseq]
    · rw [if_neg hnew] at hin ⊢
      exact h.inflight_latest _ _ _ hin
  inflight_waiting := by
    intro other e seq hin
    rw [inflight_seat_numbered] at hin
    split at hin
    · next hnew =>
      obtain ⟨rfl, rfl⟩ := hnew
      rcases hqueue with ⟨rfl, -⟩ | ⟨new, he, -, rfl, rfl⟩
      · cases hin
      · cases hin
        exact ⟨new, List.mem_cons_self, he, rfl⟩
    · -- tickets that were waiting still are, whether or not a new one has joined them
      obtain ⟨ticket, hmem, he, hseq⟩ := h.inflight_waiting _ _ _ hin
      exact ⟨ticket, hqueue.mem_of_mem hmem, he, hseq⟩

theorem ordered_begin (h : Ordered office numbers) (who : Nat) (entity : Cell) (text : String) :
    Ordered (office.begin samples who entity text).2
      (office.givenBy samples (.start who entity text) ++ numbers) := by
  have hstarts := (office.sessions who).starts samples office.desk entity text
  unfold begin givenBy
  generalize (office.sessions who).start samples office.desk entity text = result at hstarts ⊢
  -- only a refusal gives out no number; the others differ in whether a search waits with it
  cases hstarts with
  | refused failure hcheck =>
    simp only [hcheck, seat_same]
    exact h
  | replayed search resolved rows hcheck hread hrows =>
    simp only [hcheck]
    exact ordered_numbered h _ (.inl ⟨rfl, rfl⟩)
  | failed search failure hcheck =>
    simp only [hcheck]
    exact ordered_numbered h _ (.inl ⟨rfl, rfl⟩)
  | waits search preview hcheck hread hpreview =>
    simp only [hcheck]
    rw [awaiting_register _ ⟨search, _, preview⟩]
    exact ordered_numbered h _ (.inr ⟨_, rfl, rfl, rfl, rfl⟩)

/-! ## Finishes -/

theorem settled_inflight {session : Session} {ticket : Ticket} {entity : Entity} {seq : Nat}
    (h : (session.settled ticket).inflight entity = some seq) :
    session.inflight entity = some seq ∧ ¬ (ticket.search.entity = entity ∧ ticket.seq = seq) := by
  unfold Session.settled at h
  split at h
  · next hmine =>
    dsimp only at h
    by_cases he : entity = ticket.search.entity
    · simp [he] at h
    · rw [Entity.update_of_ne _ _ he] at h
      exact ⟨h, fun ⟨heq, _⟩ => he heq.symm⟩
  · next hmine =>
    refine ⟨h, ?_⟩
    rintro ⟨rfl, rfl⟩
    exact hmine h

/-- Taking one waiting search out leaves every other one. -/
theorem mem_eraseIdx_of_ne {α : Type} {l : List α} {place : Nat} {a b : α} (ha : l[place]? = some a)
    (hb : b ∈ l) (hne : b ≠ a) : b ∈ l.eraseIdx place := by
  obtain ⟨i, hi⟩ := List.mem_iff_getElem?.mp hb
  refine List.mem_eraseIdx_iff_getElem?.mpr ⟨i, ?_, hi⟩
  rintro rfl
  rw [ha] at hi
  exact hne (Option.some.inj hi).symm

theorem ordered_settled (h : Ordered office numbers) (desk : Desk) {place who : Nat} {ticket : Ticket}
    (hplace : office.waiting[place]? = some (who, ticket)) :
    Ordered ⟨desk, seat office.sessions who ((office.sessions who).settled ticket),
      office.waiting.eraseIdx place⟩ numbers := by
  have hlatest : ∀ other, (seat office.sessions who ((office.sessions who).settled ticket) other).latest
      = (office.sessions other).latest := by
    intro other
    by_cases hwho : other = who
    · rw [hwho, seat_self, Session.settled_latest]
    · rw [seat_of_ne _ _ hwho]
  have hlastSeq : ∀ other,
      (seat office.sessions who ((office.sessions who).settled ticket) other).lastSeq
        = (office.sessions other).lastSeq := by
    intro other
    by_cases hwho : other = who
    · rw [hwho, seat_self, Session.settled_lastSeq]
    · rw [seat_of_ne _ _ hwho]
  -- settling a ticket takes at most its own number out of flight
  have hinflight : ∀ other entity seq,
      (seat office.sessions who ((office.sessions who).settled ticket) other).inflight entity = some seq →
        (office.sessions other).inflight entity = some seq ∧
          ¬ (other = who ∧ ticket.search.entity = entity ∧ ticket.seq = seq) := by
    intro other entity seq hin
    by_cases hwho : other = who
    · subst hwho
      rw [seat_self] at hin
      have hsettled := settled_inflight hin
      exact ⟨hsettled.1, fun hmine => hsettled.2 hmine.2⟩
    · rw [seat_of_ne _ _ hwho] at hin
      exact ⟨hin, fun hmine => hwho hmine.1⟩
  constructor
  · exact h.increasing
  · intro n hn
    simpa only [hlastSeq] using h.le_lastSeq n hn
  · intro other entity seq hseq
    rw [hlatest] at hseq
    exact h.latest_given other entity seq hseq
  · intro n hn
    simpa only [hlatest] using h.le_latest n hn
  · intro other t hmem
    exact h.waiting_given other t (List.mem_of_mem_eraseIdx hmem)
  · intro other entity seq hin
    rw [hlatest]
    exact h.inflight_latest other entity seq (hinflight other entity seq hin).1
  · intro other entity seq hin
    obtain ⟨hin, hmine⟩ := hinflight other entity seq hin
    obtain ⟨t, hmem, he, hseq⟩ := h.inflight_waiting other entity seq hin
    refine ⟨t, mem_eraseIdx_of_ne hplace hmem ?_, he, hseq⟩
    intro heq
    cases heq
    exact hmine ⟨rfl, he, hseq⟩

theorem ordered_conclude (h : Ordered office numbers) (place : Nat)
    (ending : Option (Except Failure Resolved)) :
    Ordered (office.conclude place ending).2 numbers := by
  unfold conclude
  cases hplace : office.waiting[place]? with
  | none => exact h
  | some entry =>
    obtain ⟨who, ticket⟩ := entry
    have hfinishes := (office.sessions who).finishes office.desk ticket ending
    dsimp only
    generalize (office.sessions who).finish office.desk ticket ending = result at hfinishes ⊢
    cases hfinishes <;> exact ordered_settled h _ hplace

/-! ## Runs -/

theorem ordered_step (h : Ordered office numbers) (event : Event) :
    Ordered (office.step samples event).2 (office.givenBy samples event ++ numbers) := by
  cases event with
  | start who entity text => exact ordered_begin h who entity text
  | finish place ending => exact ordered_conclude h place ending
  | clear entity => exact h.congr rfl rfl
  | setRows entity rows => exact h.congr rfl rfl
  | reset => exact h.congr rfl rfl

theorem ordered_run (samples : Nat) (h : Ordered office numbers) (events : List Event) :
    Ordered (office.run samples events) (office.given samples events ++ numbers) := by
  induction events generalizing office numbers with
  | nil => exact h
  | cons event events ih =>
    rw [run_cons, given, List.append_assoc]
    exact ih (ordered_step h event)

/-- A waiting search that is not the latest of its session on its entity is answered with nothing,
and finishing it leaves the desk as it is. -/
theorem conclude_of_lt (h : Ordered office numbers) {place who seq : Nat} {ticket : Ticket}
    (hplace : office.waiting[place]? = some (who, ticket))
    (hseq : ⟨who, ticket.search.entity, seq⟩ ∈ numbers) (hlt : ticket.seq < seq)
    (ending : Option (Except Failure Resolved)) :
    (office.conclude place ending).1 = .superseded ∧
      (office.conclude place ending).2.desk = office.desk := by
  obtain ⟨latest, hlatest, hle⟩ := h.le_latest _ hseq
  have hstale : (office.sessions who).isCurrent ticket = false := by
    simp only [Session.isCurrent, hlatest]
    have hne : latest ≠ ticket.seq := Nat.ne_of_gt (Nat.lt_of_lt_of_le hlt hle)
    simpa using hne
  have hfinishes := (office.sessions who).finishes office.desk ticket ending
  simp only [conclude, hplace]
  generalize (office.sessions who).finish office.desk ticket ending = result at hfinishes ⊢
  cases hfinishes with
  | discarded hcause => exact ⟨rfl, rfl⟩
  | failed failure hcurrent => simp [hstale] at hcurrent
  | kept outcome hcurrent hpreview => simp [hstale] at hcurrent
  | found resolved outcome hcurrent hending houtcome => simp [hstale] at hcurrent

/-- A search in flight has the largest number given out on its entity. -/
theorem isGreatest_inflight (h : Ordered office numbers) {who seq : Nat} {entity : Entity}
    (hin : (office.sessions who).inflight entity = some seq) :
    IsGreatest {n | ⟨who, entity, n⟩ ∈ numbers} seq := by
  have hlatest := h.inflight_latest who entity seq hin
  refine ⟨h.latest_given who entity seq hlatest, ?_⟩
  intro n hn
  obtain ⟨latest, hlatest', hle⟩ := h.le_latest _ hn
  rw [hlatest] at hlatest'
  cases hlatest'
  exact hle

/-- **Superseded searches are silent.** After any run:

* once a search of a session has been given a number, finishing a search of that session on the same
  entity with a smaller number is answered with nothing and leaves the desk, views and cache, as it
  is, however its resolution ended;
* later searches of a session have larger numbers, so finishing is all that a superseded search has
  left to do;
* a search in flight has the largest number given out on its entity, and is waiting. -/
theorem superseded_search_is_silent (samples : Nat) (desk : Desk) (events : List Event) :
    let office := (opening desk).run samples events
    let numbers := (opening desk).given samples events
    (∀ place who ticket seq ending, office.waiting[place]? = some (who, ticket) →
      ⟨who, ticket.search.entity, seq⟩ ∈ numbers → ticket.seq < seq →
      (office.step samples (.finish place ending)).1 = .superseded ∧
        (office.step samples (.finish place ending)).2.desk = office.desk) ∧
    (numbers.Pairwise fun later earlier => later.who = earlier.who → earlier.seq < later.seq) ∧
    (∀ who entity seq, (office.sessions who).inflight entity = some seq →
      IsGreatest {n | ⟨who, entity, n⟩ ∈ numbers} seq ∧
        ∃ ticket, (who, ticket) ∈ office.waiting ∧ ticket.search.entity = entity ∧
          ticket.seq = seq) := by
  have h := ordered_run samples (ordered_opening desk) events
  rw [List.append_nil] at h
  refine ⟨?_, h.increasing, ?_⟩
  · intro place who ticket seq ending hplace hseq hlt
    exact conclude_of_lt h hplace hseq hlt ending
  · intro who entity seq hin
    exact ⟨isGreatest_inflight h hin, h.inflight_waiting who entity seq hin⟩

/-- Two searches of one session on the same sheet: the first one, still waiting when the second
begins, can only be dropped. -/
theorem slow_search_is_silent :
    let desk : Desk := ⟨Store.empty.setRows .tasks [[("Duration", .int 3)]], .empty 4⟩
    let events : List Event := [.start 0 (.text "tasks") "slow", .start 0 (.text "tasks") "fast"]
    let office := (opening desk).run 4 events
    ∃ ticket, office.waiting[1]? = some (0, ticket) ∧
      ⟨0, ticket.search.entity, 2⟩ ∈ (opening desk).given 4 events ∧ ticket.seq < 2 ∧
      ∀ ending, (office.step 4 (.finish 1 ending)).1 = .superseded ∧
        (office.step 4 (.finish 1 ending)).2.desk = office.desk := by
  intro desk events office
  refine ⟨_, rfl, by decide +kernel, by decide +kernel, ?_⟩
  intro ending
  exact (superseded_search_is_silent 4 desk events).1 1 0 _ 2 ending rfl (by decide +kernel)
    (by decide +kernel)

end SheetQuery.Office
