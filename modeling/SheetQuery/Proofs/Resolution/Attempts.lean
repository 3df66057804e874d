import SheetQuery.Proofs.Assistant.Cutting
import SheetQuery.Proofs.Filter.RoundTrip
import SheetQuery.Proofs.Resolution.Dialogue
import SheetQuery.Proofs.Resolution.Known

/-!
# What the answers of a service lead to

The course of a consultation in terms of the answers themselves: which of them hold an envelope, and
what becomes of the first one that does.

* `Course.leadsTo`: the filter, the failure or the reason that the answers give;
* `Settles`: what the answers of a service lead to, hint or failure included;
* `service_is_consulted_in_order`: all of it, of a query that the clauses do not answer.
-/

namespace SheetQuery

namespace Resolution

variable {σ : Type} {entity : Entity} {schema : Schema}

/-- Is an answer malformed: a reply that holds no envelope, or an answer of unexpected shape? -/
def IsMalformed : Answer → Prop
  | .ok reply => Reply.envelope? (.text reply) = none
  | .error fault => ∃ message, fault = .unusable message

/-- The envelope that an answer holds. -/
def envelopeIn? : Answer → Option Envelope
  | .ok reply => Reply.envelope? (.text reply)
  | .error _ => none

/-- The first envelope among some answers. -/
def firstEnvelope? (answers : List Answer) : Option Envelope := answers.findSome? envelopeIn?

/-- Is the given filter what repair and pruning leave of the first envelope's? -/
def Offers (schema : Schema) (answers : List Answer) (kept : Filter) : Prop :=
  ∃ envelope filter, firstEnvelope? answers = some envelope ∧
    envelope.filter.repair schema false = .ok filter ∧ filter.prune? schema.names = some kept

/-- Is no leaf of the first envelope's filter on a known column, even after repair? -/
def LeavesNothing (schema : Schema) (answers : List Answer) : Prop :=
  ∃ envelope filter, firstEnvelope? answers = some envelope ∧
    envelope.filter.repair schema false = .ok filter ∧ filter.prune? schema.names = none

/-- Can the first envelope's filter not be repaired? -/
def DefiesRepair (schema : Schema) (answers : List Answer) (issues : List Issue) : Prop :=
  ∃ envelope, firstEnvelope? answers = some envelope ∧
    envelope.filter.repair schema false = .error issues

section First

variable {answers : List Answer} {envelope : Envelope}
  (h : firstEnvelope? answers = some envelope)

include h

theorem offers_iff {kept : Filter} : Offers schema answers kept ↔
    ∃ filter, envelope.filter.repair schema false = .ok filter ∧
      filter.prune? schema.names = some kept := by
  simp [Offers, h]

theorem leavesNothing_iff : LeavesNothing schema answers ↔
    ∃ filter, envelope.filter.repair schema false = .ok filter ∧
      filter.prune? schema.names = none := by
  simp [LeavesNothing, h]

theorem defiesRepair_iff {issues : List Issue} : DefiesRepair schema answers issues ↔
    envelope.filter.repair schema false = .error issues := by
  simp [DefiesRepair, h]

end First

/-! ## Verdicts -/

theorem judgeAnswer_eq_malformed_iff {answer : Answer} :
    judgeAnswer schema answer = .malformed ↔ IsMalformed answer := by
  cases answer with
  | ok reply =>
    rw [judgeAnswer, judge, IsMalformed]
    split
    · next hnone => simp [hnone]
    · next envelope hsome =>
      rw [hsome]
      split
      · simp
      · split <;> simp
  | error fault =>
    cases fault <;> simp [judgeAnswer, IsMalformed, Service.Fault.isAbsence]

/-- A verdict, in terms of the answer that it is on. -/
theorem judgeAnswer_of_envelopeIn? {answer : Answer} {envelope : Envelope}
    (h : envelopeIn? answer = some envelope) : judgeAnswer schema answer =
      match envelope.filter.repair schema false with
      | .error issues => .broken (.malformed issues)
      | .ok filter =>
        match filter.prune? schema.names with
        | some kept => .usable kept
        | none => .unknownColumns := by
  cases answer with
  | ok reply =>
    rw [envelopeIn?] at h
    rw [judgeAnswer, judge]
    split
    · next hnone =>
      rw [hnone] at h
      cases h
    · next found hfound =>
      rw [hfound] at h
      obtain rfl := Option.some.inj h
      rfl
  | error fault => cases h

theorem not_isMalformed_of_envelopeIn? {answer : Answer} {envelope : Envelope}
    (h : envelopeIn? answer = some envelope) : ¬ IsMalformed answer := by
  cases answer with
  | ok reply =>
    intro hnone
    rw [envelopeIn?, hnone] at h
    cases h
  | error fault => cases h

/-- An orderly answer without an envelope is malformed, or none at all. -/
theorem judgeAnswer_eq_absent {answer : Answer} (horderly : Answer.IsOrderly answer)
    (hwell : ¬ IsMalformed answer) (hnone : envelopeIn? answer = none) :
    judgeAnswer schema answer = .absent := by
  cases answer with
  | ok reply => exact absurd hnone hwell
  | error fault =>
    rcases horderly fault rfl with habsent | hunusable
    · cases fault <;> simp_all [judgeAnswer, Service.Fault.isAbsence]
    · exact absurd hunusable hwell

/-! ## Consultations -/

/-- What answers lead a consultation to: the filter of the first envelope, a failure if that cannot
be repaired, or the reason why there is no filter. -/
structure LeadsTo (schema : Schema) (answers : List Answer)
    (result : Except Failure Consultation) : Prop where
  found_iff : ∀ kept, (∃ c, result = .ok c ∧ c.found = some kept) ↔ Offers schema answers kept
  error_iff : ∀ failure, result = .error failure ↔
    ∃ issues, failure = .malformed issues ∧ DefiesRepair schema answers issues
  reason : ∀ c, result = .ok c → c.found = none →
    (c.reason.getD .noResponse = .noKnownField ↔ LeavesNothing schema answers) ∧
      (c.reason.getD .noResponse = .invalidJson ↔
        ¬ LeavesNothing schema answers ∧ ∃ answer ∈ answers, IsMalformed answer)

/-- Without an envelope nothing is found, and the reason is whether an answer was malformed. -/
theorem leadsTo_of_no_envelope {answers : List Answer} {reason : Option Reason}
    {replies : List String} (hnone : firstEnvelope? answers = none)
    (hreason : (reason = some .invalidJson ∧ ∃ answer ∈ answers, IsMalformed answer) ∨
      (reason = none ∧ ¬ ∃ answer ∈ answers, IsMalformed answer)) :
    LeadsTo schema answers (.ok ⟨none, reason, replies⟩) := by
  have hnothing : ¬ LeavesNothing schema answers := by simp [LeavesNothing, hnone]
  refine ⟨fun kept => ?_, fun failure => ?_, ?_⟩
  · simp [Offers, hnone]
  · simp [DefiesRepair, hnone]
  · rintro c hc -
    rw [← Except.ok.inj hc]
    rcases hreason with ⟨rfl, hmalformed⟩ | ⟨rfl, hwell⟩
    · exact ⟨by simpa using hnothing, by simp [hnothing, hmalformed]⟩
    · exact ⟨by simpa using hnothing, by simpa using fun _ => hwell⟩

/-- With an envelope its filter alone decides. -/
theorem leadsTo_of_envelope {answers : List Answer} {answer : Answer} {envelope : Envelope}
    (earlier : Option Reason) (replies : List String)
    (hfirst : firstEnvelope? answers = some envelope) (hanswer : envelopeIn? answer = some envelope) :
    LeadsTo schema answers (conclude earlier replies (judgeAnswer schema answer)) := by
  rw [judgeAnswer_of_envelopeIn? hanswer]
  -- the filter is repaired or not, and then keeps some
  -- leaf or none: each of the three has its own result
  cases hrepair : envelope.filter.repair schema false with
  | error issues =>
    refine ⟨fun kept => ?_, fun failure => ?_, fun c hc => ?_⟩
    · simp [conclude, offers_iff hfirst, hrepair]
    · simp [conclude, defiesRepair_iff hfirst, hrepair, eq_comm]
    · cases hc
  | ok filter =>
    have hoffers : ∀ kept, Offers schema answers kept ↔ filter.prune? schema.names = some kept := by
      simp [offers_iff hfirst, hrepair]
    have hdefies : ∀ issues, ¬ DefiesRepair schema answers issues := by
      simp [defiesRepair_iff hfirst, hrepair]
    dsimp only
    cases hprune : filter.prune? schema.names with
    | some kept =>
      refine ⟨fun other => ?_, fun failure => ?_, fun c hc hfound => ?_⟩
      · simp [conclude, hoffers, hprune]
      · simp [conclude, hdefies]
      · rw [← Except.ok.inj hc] at hfound
        cases hfound
    | none =>
      have hnothing : LeavesNothing schema answers :=
        (leavesNothing_iff hfirst).mpr ⟨filter, hrepair, hprune⟩
      refine ⟨fun other => ?_, fun failure => ?_, fun c hc _ => ?_⟩
      · simp [conclude, hoffers, hprune]
      · simp [conclude, hdefies]
      · rw [← Except.ok.inj hc]
        exact ⟨iff_of_true rfl hnothing, by simp [hnothing]⟩

/-- The answer that ends a consultation decides it; one before it was malformed. -/
theorem leadsTo_conclude {answers : List Answer} {answer : Answer} {earlier : Option Reason}
    (replies : List String) (horderly : Answer.IsOrderly answer)
    (hfirst : firstEnvelope? answers = envelopeIn? answer)
    (hmalformed : (∃ other ∈ answers, IsMalformed other) ↔
      earlier = some .invalidJson ∨ IsMalformed answer)
    (hearlier : earlier = some .invalidJson ∨ earlier = none) :
    LeadsTo schema answers (conclude earlier replies (judgeAnswer schema answer)) := by
  cases hanswer : envelopeIn? answer with
  | some envelope => exact leadsTo_of_envelope earlier replies (hfirst.trans hanswer) hanswer
  | none =>
    by_cases hwell : IsMalformed answer
    · rw [judgeAnswer_eq_malformed_iff.mpr hwell]
      exact leadsTo_of_no_envelope (hfirst.trans hanswer)
        (.inl ⟨rfl, hmalformed.mpr (.inr hwell)⟩)
    · rw [judgeAnswer_eq_absent horderly hwell hanswer]
      apply leadsTo_of_no_envelope (hfirst.trans hanswer)
      rcases hearlier with rfl | rfl
      · exact .inl ⟨rfl, hmalformed.mpr (.inl rfl)⟩
      · exact .inr ⟨rfl, by simp [hmalformed, hwell]⟩

theorem envelopeIn?_of_isMalformed {answer : Answer} (h : IsMalformed answer) :
    envelopeIn? answer = none := by
  cases hanswer : envelopeIn? answer with
  | none => rfl
  | some envelope => exact absurd h (not_isMalformed_of_envelopeIn? hanswer)

/-- Every course of a consultation leads to what its answers lead to. -/
theorem Course.leadsTo {probe : Except Service.Fault Service.Probe} {answers : List Answer}
    {result : Except Failure Consultation} (h : Course schema probe answers result)
    (hprobe : ∀ fault, probe = .error fault → fault.isAbsence = true)
    (horderly : ∀ answer ∈ answers, Answer.IsOrderly answer) : LeadsTo schema answers result := by
  cases h with
  | unready => exact leadsTo_of_no_envelope rfl (.inr ⟨rfl, by simp⟩)
  | failed hpresent =>
    rw [hprobe _ rfl] at hpresent
    cases hpresent
  | @once _ answer hready hjudged =>
    have hwell : ¬ IsMalformed answer := mt judgeAnswer_eq_malformed_iff.mpr hjudged
    apply leadsTo_conclude _ (horderly answer List.mem_cons_self)
    · simp [firstEnvelope?]
    · simp
    · exact .inr rfl
  | @twice _ first second hready hjudged =>
    have hmalformed : IsMalformed first := judgeAnswer_eq_malformed_iff.mp hjudged
    -- a malformed answer holds no envelope, so the first envelope is that of the second answer
    apply leadsTo_conclude _ (horderly second (by simp))
    · simp [firstEnvelope?, envelopeIn?_of_isMalformed hmalformed]
    · simp [hmalformed]
    · exact .inl rfl

/-! ## Courses -/

/-- There are requests exactly if the probe succeeds. -/
theorem Course.ne_nil_iff {probe : Except Service.Fault Service.Probe} {answers : List Answer}
    {result : Except Failure Consultation} (h : Course schema probe answers result) :
    answers ≠ [] ↔ Service.IsReady probe := by
  cases h with
  | unready hready => simp [hready]
  | failed =>
    have hready : ∀ fault : Service.Fault, ¬ Service.IsReady (.error fault) := by
      rintro fault ⟨found, h, -⟩
      cases h
    simp [hready]
  | once hready => simp [hready]
  | twice hready => simp [hready]

/-- There is a second request exactly if the first answer is malformed. -/
theorem Course.length_eq_two_iff {probe : Except Service.Fault Service.Probe}
    {answers : List Answer} {result : Except Failure Consultation}
    (h : Course schema probe answers result) :
    answers.length = 2 ↔ ∃ first ∈ answers.head?, IsMalformed first := by
  cases h with
  | unready | failed => simp
  | once _ hjudged => simpa using mt judgeAnswer_eq_malformed_iff.mpr hjudged
  | twice _ hjudged => simpa using judgeAnswer_eq_malformed_iff.mp hjudged

/-! ## Resolving a query -/

/-- What the answers of the service and the hints make of a query that the clauses do not answer. -/
structure Settles (entity : Entity) (schema : Schema) (query : List Char) (answers : List Answer)
    (result : Except Failure Resolved) : Prop where
  /-- The service's filter is the repaired and pruned one of the first envelope. -/
  offered_iff : ∀ kept, result = .ok ⟨kept, .ai⟩ ↔ Offers schema answers kept
  /-- If that filter cannot be repaired, the query fails with what is wrong with it. -/
  defied_iff : ∀ issues, result = .error (.malformed issues) ↔ DefiesRepair schema answers issues
  /-- Without either, the hints are asked. -/
  hinted : (∀ kept, ¬ Offers schema answers kept) → (∀ issues, ¬ DefiesRepair schema answers issues) →
    ∀ leaf, Query.lastResort? entity schema query = some leaf →
      result = .ok ⟨(Filter.leaf leaf).repaired schema false, .heuristic⟩
  /-- A query that no hint applies to either is unresolved, for a reason that the answers give. -/
  unresolved : (∀ kept, ¬ Offers schema answers kept) →
    (∀ issues, ¬ DefiesRepair schema answers issues) →
    Query.lastResort? entity schema query = none →
      ∃ reason first retry, result = .error (.unresolved reason first retry) ∧
        (reason = .noKnownField ↔ LeavesNothing schema answers) ∧
        (reason = .invalidJson ↔
          ¬ LeavesNothing schema answers ∧ ∃ answer ∈ answers, IsMalformed answer)

theorem LeadsTo.settles {query : List Char} {answers : List Answer}
    {result : Except Failure Consultation} (h : LeadsTo schema answers result) :
    Settles entity schema query answers (outcome entity schema query result) := by
  cases result with
  | error failure =>
    -- a consultation fails only by an envelope that defies repair, and then no hint is asked
    obtain ⟨issues, rfl, hdefies⟩ := (h.error_iff failure).mp rfl
    refine ⟨fun kept => ?_, fun others => ?_, fun _ hnot => absurd hdefies (hnot issues),
      fun _ hnot => absurd hdefies (hnot issues)⟩
    · rw [← h.found_iff]
      simp [outcome]
    · have hiff := h.error_iff (.malformed others)
      simpa [outcome] using hiff
  | ok c =>
    have hdefies : ∀ issues, ¬ DefiesRepair schema answers issues := by
      intro issues hdefies
      cases (h.error_iff (.malformed issues)).mpr ⟨issues, rfl, hdefies⟩
    rw [outcome]
    cases hfound : c.found with
    | some kept =>
      have hoffers : Offers schema answers kept := (h.found_iff kept).mp ⟨c, rfl, hfound⟩
      refine ⟨fun other => ?_, fun issues => ?_, fun hnot => absurd hoffers (hnot kept),
        fun hnot => absurd hoffers (hnot kept)⟩
      · rw [← h.found_iff]
        simp [hfound]
      · simp [hdefies]
    | none =>
      have hoffers : ∀ kept, ¬ Offers schema answers kept := by
        intro kept hoffers
        obtain ⟨again, heq, hsome⟩ := (h.found_iff kept).mpr hoffers
        rw [← Except.ok.inj heq, hfound] at hsome
        cases hsome
      dsimp only
      rw [fallBack_eq]
      cases hhint : Query.lastResort? entity schema query with
      | some leaf =>
        refine ⟨by simp [hoffers], by simp [hdefies], fun _ _ other hother => ?_,
          fun _ _ hnone => ?_⟩
        · rw [hhint] at hother
          rw [Option.some.inj hother]
        · rw [hhint] at hnone
          cases hnone
      | none =>
        refine ⟨by simp [hoffers], by simp [hdefies], fun _ _ leaf hleaf => ?_, fun _ _ _ => ?_⟩
        · rw [hhint] at hleaf
          cases hleaf
        obtain ⟨hknown, hmalformed⟩ := h.reason c rfl hfound
        exact ⟨_, _, _, rfl, hknown, hmalformed⟩

theorem field_ne_empty_of_envelopeIn? {answer : Answer} {envelope : Envelope}
    (h : envelopeIn? answer = some envelope) :
    ∀ leaf ∈ envelope.filter.leaves, leaf.field ≠ "" := by
  cases answer with
  | error fault => cases h
  | ok reply =>
    obtain ⟨cell, -, hcell⟩ := Option.bind_eq_some_iff.mp h
    obtain ⟨entries, -, -, -, record, -, hfilter⟩ :=
      Envelope.decode_eq_ok_iff.mp (Reply.envelopeOf?_eq_some_iff.mp hcell)
    exact Filter.field_ne_empty_of_decode hfilter

/-- Only a column without a name keeps the filter of an envelope from being repaired. -/
theorem not_defiesRepair (h : "" ∉ schema.names) (answers : List Answer) (issues : List Issue) :
    ¬ DefiesRepair schema answers issues := by
  rintro ⟨envelope, hfirst, herror⟩
  obtain ⟨answer, -, hanswer⟩ := List.exists_of_findSome?_eq_some hfirst
  have hfields := field_ne_empty_of_envelopeIn? hanswer
  rw [Filter.repair_eq (Filter.column_ne_empty_of_named h hfields)] at herror
  cases herror

/-- A query that the clauses do not answer is put to a service that at worst is absent or answers
something unusable: one probe and at most two requests, the second after a malformed answer. What
comes of it is up to the first envelope among the answers; the hints are asked if that leaves nothing
of a filter, and not if it cannot be repaired, which takes a column without a name. -/
theorem service_is_consulted_in_order (service : Service σ) (horderly : service.IsOrderly)
    (entity : Entity) (schema : Schema) (text : List Char) (htext : Text.trim text ≠ [])
    (hunread : Query.filter? entity schema.names (Text.trim text) = none) (s : σ) :
    let run := resolve (some service.recorded) entity schema text (s, [])
    run.1 = (resolve (some service) entity schema text s).1 ∧
      ∃ probe answers,
        run.2.2 = .probe probe :: requests entity schema (Text.trim text) answers ∧
        answers.length ≤ 2 ∧ (answers ≠ [] ↔ Service.IsReady probe) ∧
        (answers.length = 2 ↔ ∃ first ∈ answers.head?, IsMalformed first) ∧
        Settles entity schema (Text.trim text) answers run.1 ∧
        ("" ∉ schema.names → ∀ issues, ¬ DefiesRepair schema answers issues) := by
  intro run
  obtain ⟨probe, answers, result, hgives, hcourse, -, hplain, hsame, hrecord⟩ :=
    resolve_recorded service entity schema htext hunread s
  have hprobe : ∀ fault, probe = .error fault → fault.isAbsence = true := by
    obtain ⟨s', rfl⟩ := hgives.probe
    exact horderly.probe s'
  have hanswers : ∀ answer ∈ answers, Answer.IsOrderly answer := by
    intro answer hanswer
    obtain ⟨system, prompt, s', rfl⟩ := hgives.answers answer hanswer
    exact horderly.generate system prompt s'
  refine ⟨hsame.trans hplain.symm, probe, answers, hrecord, hcourse.length_le, hcourse.ne_nil_iff,
    hcourse.length_eq_two_iff, ?_, fun hnamed => not_defiesRepair hnamed answers⟩
  have hrun : run.1 = outcome entity schema (Text.trim text) result := hsame
  rw [hrun]
  exact (hcourse.leadsTo hprobe hanswers).settles

/-- A filter on `_` is taken to mean the column without a name, and cannot be made a search on it. So
the query fails, although a hint applies. -/
theorem hint_is_not_asked_after_defiance :
    let schema : Schema := [⟨"Duration", .number, []⟩, ⟨"", .array, []⟩]
    let reply := "\x7b\"kind\":\"filter\",\"entity\":\"tasks\",\"filter\":\x7b\"op\":\"cmp\"," ++
      "\"field\":\"_\",\"cmp\":\"==\",\"value\":1\x7d\x7d"
    let text := "jobs lasting duration >2 days".toList
    let service := Service.scripted (.ok ⟨true, [], none⟩) [.ok reply]
    service.IsOrderly ∧ Text.trim text ≠ [] ∧
      Query.filter? .tasks schema.names (Text.trim text) = none ∧
      (Query.lastResort? .tasks schema (Text.trim text)).isSome = true ∧
      ∃ probe answers issues, (resolve (some service.recorded) .tasks schema text (0, [])).2.2 =
          .probe probe :: requests .tasks schema (Text.trim text) answers ∧
        DefiesRepair schema answers issues ∧
        (resolve (some service) .tasks schema text 0).1 = .error (.malformed issues) := by
  intro schema reply text service
  have horderly : service.IsOrderly := by
    apply Service.isOrderly_scripted
    · intro fault hfault
      cases hfault
    · intro answer hanswer fault hfault
      rw [List.mem_singleton.mp hanswer] at hfault
      cases hfault
  have htext : Text.trim text ≠ [] := by decide +kernel
  have hunread : Query.filter? .tasks schema.names (Text.trim text) = none :=
    Query.filter?_eq_none_iff.mpr (List.isEmpty_iff.mp (by decide +kernel))
  obtain ⟨hplain, probe, answers, hrecord, -, -, -, hsettles, -⟩ :=
    service_is_consulted_in_order service horderly .tasks schema text htext hunread 0
  have hfails : (match (resolve (some service) .tasks schema text 0).1 with
      | .error (.malformed _) => true
      | _ => false) = true := by
    decide +kernel
  refine ⟨horderly, htext, hunread, by decide +kernel, probe, answers, ?_⟩
  split at hfails
  · next issues hmalformed =>
    exact ⟨issues, hrecord, (hsettles.defied_iff issues).mp (hplain.trans hmalformed), hmalformed⟩
  · cases hfails

end Resolution

end SheetQuery
