import SheetQuery.Proofs.Filter.RoundTrip
import SheetQuery.Proofs.Request.Reading
import SheetQuery.Proofs.Resolution.Attempts
import SheetQuery.Proofs.Resolution.Replies

/-!
# Responses to requests

What a request is answered with, in terms of the answers that the service gives on the way: 400 if it
cannot be read or asks nothing, 422 if no means makes a filter of it, and 200 with a filter otherwise.

* `Resolution.settles_recorded`, `Resolution.Settles.cases`: what a query comes to, with a service or
  without one;
* `IsResponse`: what the status of a response says, and whether its filter can be read;
* `answered_unless_repair_is_defied`: every request is answered so, unless the filter that the service
  offers cannot be repaired, which takes a column without a name.
-/

namespace SheetQuery

namespace Resolution

variable {σ : Type} {entity : Entity} {schema : Schema}

/-- Clauses that say something decide alone, and the service is left in peace. -/
theorem resolve_of_filter? (service : Option (Service σ)) {text : List Char} {filter : Filter}
    (htext : Text.trim text ≠ [])
    (h : Query.filter? entity schema.names (Text.trim text) = some filter) (s : σ) :
    resolve service entity schema text s =
      (.ok ⟨filter.repaired schema false, .deterministic⟩, s) := by
  rw [resolve]
  split
  · next hnil => exact absurd hnil htext
  · rw [h]
    dsimp only
    rw [repaired_eq (Query.column_ne_empty_of_filter? h)]

/-- What becomes of a query that the clauses do not answer, with a service or without one. -/
theorem settles_recorded {service : Option (Service σ)}
    (horderly : ∀ known ∈ service, known.IsOrderly) {text : List Char}
    (htext : Text.trim text ≠ [])
    (hunread : Query.filter? entity schema.names (Text.trim text) = none) (s : σ) :
    let run := resolve (Service.recorded? service) entity schema text (s, [])
    run.1 = (resolve service entity schema text s).1 ∧
      Settles entity schema (Text.trim text) (run.2.2.filterMap Exchange.answer?) run.1 := by
  cases service with
  | none =>
    have hrun : resolve (none : Option (Service (σ × List Exchange))) entity schema text (s, []) =
        (outcome entity schema (Text.trim text) (.ok .none), s, []) := by
      rw [resolve]
      split
      · next hnil => exact absurd hnil htext
      · rw [hunread]
        rfl
    have hplain : (resolve (none : Option (Service σ)) entity schema text s).1 =
        outcome entity schema (Text.trim text) (.ok .none) := by
      rw [resolve_eq none entity schema htext s, hunread]
      rfl
    rw [Service.recorded?, Option.map_none, hrun, hplain]
    exact ⟨rfl, (leadsTo_of_no_envelope rfl (.inr ⟨rfl, by simp⟩)).settles⟩
  | some service =>
    -- the requests that a service takes down are those of
    -- its course, so its answers may be read off them
    obtain ⟨probe, answers, result, hgives, hcourse, -, hplain, hsame, hrecord⟩ :=
      resolve_recorded service entity schema htext hunread s
    have hknown : service.IsOrderly := horderly service rfl
    have hprobe : ∀ fault, probe = .error fault → fault.isAbsence = true := by
      obtain ⟨s', rfl⟩ := hgives.probe
      exact hknown.probe s'
    have hanswers : ∀ answer ∈ answers, Answer.IsOrderly answer := by
      intro answer hanswer
      obtain ⟨system, prompt, s', rfl⟩ := hgives.answers answer hanswer
      exact hknown.generate system prompt s'
    rw [Service.recorded?, Option.map_some]
    refine ⟨hsame.trans hplain.symm, ?_⟩
    rw [hsame, hrecord, answers_of_requests hcourse.length_le]
    exact (hcourse.leadsTo hprobe hanswers).settles

/-- The four ways in which a query is settled: by the service, by its failure, by a hint or not at
all. -/
theorem Settles.cases {query : List Char} {answers : List Answer} {result : Except Failure Resolved}
    (h : Settles entity schema query answers result) :
    (∃ kept, Offers schema answers kept ∧ result = .ok ⟨kept, .ai⟩) ∨
    (∃ issues, DefiesRepair schema answers issues ∧ result = .error (.malformed issues)) ∨
    ((∀ kept, ¬ Offers schema answers kept) ∧ (∀ issues, ¬ DefiesRepair schema answers issues) ∧
      ((∃ leaf, Query.lastResort? entity schema query = some leaf ∧
          result = .ok ⟨(Filter.leaf leaf).repaired schema false, .heuristic⟩) ∨
        (Query.lastResort? entity schema query = none ∧
          ∃ reason first retry, result = .error (.unresolved reason first retry)))) := by
  by_cases hoffers : ∃ kept, Offers schema answers kept
  · obtain ⟨kept, hkept⟩ := hoffers
    exact .inl ⟨kept, hkept, (h.offered_iff kept).mpr hkept⟩
  · by_cases hdefies : ∃ issues, DefiesRepair schema answers issues
    · obtain ⟨issues, hissues⟩ := hdefies
      exact .inr (.inl ⟨issues, hissues, (h.defied_iff issues).mpr hissues⟩)
    · rw [not_exists] at hoffers hdefies
      refine .inr (.inr ⟨hoffers, hdefies, ?_⟩)
      cases hhint : Query.lastResort? entity schema query with
      | some leaf => exact .inl ⟨leaf, rfl, h.hinted hoffers hdefies leaf hhint⟩
      | none =>
        obtain ⟨reason, first, retry, hresult, -⟩ := h.unresolved hoffers hdefies hhint
        exact .inr ⟨rfl, reason, first, retry, hresult⟩

/-- Where every column has a name, so have the leaves of a filter that the service offers. -/
theorem field_ne_empty_of_offers {answers : List Answer} {kept : Filter}
    (hnamed : "" ∉ schema.names) (h : Offers schema answers kept) :
    ∀ leaf ∈ kept.leaves, leaf.field ≠ "" := by
  obtain ⟨envelope, filter, hfirst, hrepair, hprune⟩ := h
  obtain ⟨answer, -, hanswer⟩ := List.exists_of_findSome?_eq_some hfirst
  have hcolumns := Filter.column_ne_empty_of_named hnamed (field_ne_empty_of_envelopeIn? hanswer)
  rw [Filter.repair_eq hcolumns] at hrepair
  obtain rfl := Except.ok.inj hrepair
  exact Filter.field_ne_empty_of_prune? (Filter.field_ne_empty_repaired hcolumns false) hprune

end Resolution

namespace Request

open Resolution

/-- What a request asks. -/
def query (request : Request) : List Char := Text.trim request.text.toList

/-- Is a payload read as the given request, and does that ask anything? -/
def Asks (payload : Cell) (request : Request) : Prop :=
  (∃ entries, payload = .record entries ∧ IsMadeOf entries request) ∧ request.query ≠ []

/-- Does no means make a filter of a request: not its clauses, not the answers of the service, and no
hint? -/
structure IsUnanswered (request : Request) (answers : List Answer) : Prop where
  unread : Query.filter? request.entity request.schema.names request.query = none
  unoffered : ∀ kept, ¬ Offers request.schema answers kept
  unhinted : Query.lastResort? request.entity request.schema request.query = none

/-- What a response says about a payload, given the answers of the service. -/
structure IsResponse (payload : Cell) (answers : List Answer) (response : Response) : Prop where
  invalid_iff : response.status = 400 ↔ ¬ ∃ request, Asks payload request
  unresolved_iff : response.status = 422 ↔
    ∃ request, Asks payload request ∧ request.IsUnanswered answers
  resolved : response.status ≠ 400 → response.status ≠ 422 → response.status = 200
  /-- A filter is read from the response if its leaves name their columns. So they do, except if a
  nameless column makes the service's filter one without a name. -/
  readable : response.status = 200 → ∃ request resolved, Asks payload request ∧
    response.body = Resolved.response request.entity resolved ∧
    (resolved.source = .ai → Offers request.schema answers resolved.filter) ∧
    ((∃ found, Filter.decode resolved.filter.encode = .ok found) ↔
      ∀ leaf ∈ resolved.filter.leaves, leaf.field ≠ "") ∧
    (resolved.source ≠ .ai ∨ "" ∉ request.schema.names →
      Filter.decode resolved.filter.encode = .ok resolved.filter)

variable {σ : Type} {payload : Cell} {request : Request} {answers : List Answer}

theorem asks_iff : Asks payload request ↔ check payload = .ok request ∧ request.query ≠ [] := by
  rw [Asks, check_eq_ok_iff]

/-- A payload is read as one request at most. -/
theorem Asks.unique {other : Request} (h : Asks payload request) (hother : Asks payload other) :
    request = other :=
  Except.ok.inj ((asks_iff.mp h).1.symm.trans (asks_iff.mp hother).1)

@[simp] theorem status_invalid (details : Cell) : (invalid details).status = 400 := rfl

@[simp] theorem status_unresolved (reason : Reason) (first retry : Option String) :
    (unresolved reason first retry).status = 422 := rfl

theorem isResponse_invalid (h : ¬ ∃ request, Asks payload request) (details : Cell) :
    IsResponse payload answers (invalid details) := by
  refine ⟨iff_of_true rfl h, iff_of_false (by simp) ?_, fun hne => absurd rfl hne, by simp⟩
  rintro ⟨request, hasks, -⟩
  exact h ⟨request, hasks⟩

theorem isResponse_unresolved (h : Asks payload request) (hnone : request.IsUnanswered answers)
    (reason : Reason) (first retry : Option String) :
    IsResponse payload answers (unresolved reason first retry) :=
  ⟨iff_of_false (by simp) fun hnot => hnot ⟨request, h⟩, iff_of_true rfl ⟨request, h, hnone⟩,
    fun _ hne => absurd rfl hne, by simp⟩

theorem isResponse_resolved (h : Asks payload request) (hsome : ¬ request.IsUnanswered answers)
    {resolved : Resolved}
    (hoffers : resolved.source = .ai → Offers request.schema answers resolved.filter)
    (hfields : resolved.source ≠ .ai → ∀ leaf ∈ resolved.filter.leaves, leaf.field ≠ "") :
    IsResponse payload answers ⟨200, resolved.response request.entity⟩ := by
  refine ⟨iff_of_false (by simp) fun hnot => hnot ⟨request, h⟩, iff_of_false (by simp) ?_,
    fun _ _ => rfl,
    fun _ => ⟨request, resolved, h, rfl, hoffers, Filter.exists_decode_encode_iff, ?_⟩⟩
  · rintro ⟨other, hother, hnone⟩
    rw [h.unique hother] at hsome
    exact hsome hnone
  · intro hcase
    apply Filter.decode_encode
    by_cases hsource : resolved.source = .ai
    · exact field_ne_empty_of_offers (hcase.resolve_left (not_not.mpr hsource)) (hoffers hsource)
    · exact hfields hsource

/-! ## Outcomes -/

/-- Is a payload answered, or else its service's filter beyond repair? -/
structure IsOutcome (payload : Cell) (answers : List Answer) (outcome : Except Failure Response) :
    Prop where
  error_iff : (∃ failure, outcome = .error failure) ↔
    ∃ request issues, Asks payload request ∧ DefiesRepair request.schema answers issues
  ok : ∀ response, outcome = .ok response → IsResponse payload answers response

theorem IsResponse.isOutcome {response : Response} (h : IsResponse payload answers response)
    (hfine : ∀ request issues, Asks payload request → ¬ DefiesRepair request.schema answers issues) :
    IsOutcome payload answers (.ok response) := by
  refine ⟨iff_of_false (by simp) ?_, fun other hother => ?_⟩
  · rintro ⟨request, issues, hasks, hdefies⟩
    exact hfine request issues hasks hdefies
  · obtain rfl := Except.ok.inj hother
    exact h

/-- A payload that asks nothing is answered so. -/
theorem isOutcome_invalid (h : ¬ ∃ request, Asks payload request) (details : Cell) :
    IsOutcome payload answers (.ok (invalid details)) :=
  (isResponse_invalid h details).isOutcome fun request _ hasks => absurd ⟨request, hasks⟩ h

/-- A request that its clauses answer. -/
theorem isOutcome_of_filter? {filter : Filter} (h : Asks payload request)
    (hfilter : Query.filter? request.entity request.schema.names request.query = some filter) :
    IsOutcome payload [] (respond request.entity
      (.ok ⟨filter.repaired request.schema false, .deterministic⟩)) := by
  have hsome : ¬ request.IsUnanswered [] := fun hnone => by simpa [hfilter] using hnone.unread
  apply IsResponse.isOutcome
  · exact isResponse_resolved h hsome nofun fun _ =>
      Filter.field_ne_empty_repaired (Query.column_ne_empty_of_filter? hfilter) false
  · rintro other issues - ⟨envelope, hfirst, -⟩
    cases hfirst

/-- A request that is settled after its clauses have said nothing. -/
theorem isOutcome_of_settles {result : Except Failure Resolved} (h : Asks payload request)
    (hunread : Query.filter? request.entity request.schema.names request.query = none)
    (hsettles : Settles request.entity request.schema request.query answers result) :
    IsOutcome payload answers (respond request.entity result) := by
  -- a payload makes one request at most, so a claim about each of them is one about this one
  have honly : (∀ issues, ¬ DefiesRepair request.schema answers issues) →
      ∀ other issues, Asks payload other → ¬ DefiesRepair other.schema answers issues := by
    intro hfine other issues hother
    rw [← h.unique hother]
    exact hfine issues
  rcases hsettles.cases with ⟨kept, hoffers, rfl⟩ | ⟨issues, hdefies, rfl⟩ |
    ⟨hnone, hfine, ⟨leaf, hhint, rfl⟩ | ⟨hhint, reason, first, retry, rfl⟩⟩
  · have hfine : ∀ issues, ¬ DefiesRepair request.schema answers issues := fun issues hdefies => by
      cases (hsettles.defied_iff issues).mpr hdefies
    have hsome : ¬ request.IsUnanswered answers := fun hnone => hnone.unoffered kept hoffers
    exact (isResponse_resolved h hsome (fun _ => hoffers) (absurd rfl)).isOutcome (honly hfine)
  · exact ⟨iff_of_true ⟨_, rfl⟩ ⟨request, issues, h, hdefies⟩, by simp [respond]⟩
  · have hsome : ¬ request.IsUnanswered answers := fun hnone => by simpa [hhint] using hnone.unhinted
    have hcolumn : ∀ other ∈ (Filter.leaf leaf).leaves, other.column request.schema ≠ "" := by
      rw [Filter.leaves, List.forall_mem_singleton]
      exact Query.column_ne_empty_of_lastResort? hhint
    exact (isResponse_resolved h hsome (fun hai => by cases hai)
      fun _ => Filter.field_ne_empty_repaired hcolumn false).isOutcome (honly hfine)
  · exact (isResponse_unresolved h ⟨hunread, hnone, hhint⟩ _ _ _).isOutcome (honly hfine)

/-- What a payload comes to, with a service that takes everything down. -/
theorem isOutcome_handle {service : Option (Service σ)}
    (horderly : ∀ known ∈ service, known.IsOrderly) (payload : Cell) (s : σ) :
    let run := handle (Service.recorded? service) payload (s, [])
    run.1 = (handle service payload s).1 ∧
      IsOutcome payload (run.2.2.filterMap Exchange.answer?) run.1 := by
  cases hcheck : check payload with
  | error issues =>
    have hnone : ¬ ∃ request, Asks payload request := by
      rintro ⟨request, hasks⟩
      rw [(asks_iff.mp hasks).1] at hcheck
      cases hcheck
    simp only [handle, hcheck]
    exact ⟨trivial, isOutcome_invalid hnone _⟩
  | ok request =>
    simp only [handle, hcheck]
    by_cases hblank : request.query = []
    · have hnone : ¬ ∃ request, Asks payload request := by
        rintro ⟨other, hasks⟩
        obtain ⟨hother, hne⟩ := asks_iff.mp hasks
        obtain rfl := Except.ok.inj (hcheck.symm.trans hother)
        exact hne hblank
      rw [resolve_of_blank _ _ _ hblank, resolve_of_blank _ _ _ hblank]
      exact ⟨rfl, isOutcome_invalid hnone _⟩
    have hasks : Asks payload request := asks_iff.mpr ⟨hcheck, hblank⟩
    cases hfilter : Query.filter? request.entity request.schema.names request.query with
    | some filter =>
      rw [resolve_of_filter? _ hblank hfilter, resolve_of_filter? _ hblank hfilter]
      exact ⟨rfl, isOutcome_of_filter? hasks hfilter⟩
    | none =>
      obtain ⟨hsame, hsettles⟩ := settles_recorded horderly hblank hfilter s
      exact ⟨congrArg (respond request.entity) hsame, isOutcome_of_settles hasks hfilter hsettles⟩

end Request

end SheetQuery
