import SheetQuery.Proofs.Resolution.Dialogue
import SheetQuery.Proofs.Resolution.Known

/-!
# The replies that an unresolved query reports

A query that stays unresolved reports two texts. They are the texts of the replies in the order in
which they came, so that a second reply takes the first place when the first request brought none.

* `unresolved_course`: how the service was consulted about a query that stays unresolved;
* `reported_replies_are_in_place_iff`: each text stands in the place of its request except if only the
  second request brought one.
-/

namespace SheetQuery

theorem replyTo?_requests {entity : Entity} {schema : Schema} {query : List Char}
    {probe : Except Service.Fault Service.Probe} {answers : List Answer}
    (h : answers.length ≤ 2) (number : Nat) :
    replyTo? (.probe probe :: Resolution.requests entity schema query answers) number =
      answers[number]?.bind Except.toOption := by
  rw [replyTo?, Resolution.answers_of_requests h]

/-- The service that takes everything down, if there is a service. -/
def Service.recorded? {σ : Type} (service : Option (Service σ)) :
    Option (Service (σ × List Exchange)) :=
  service.map Service.recorded

namespace Resolution

variable {σ : Type} {entity : Entity} {schema : Schema}

/-- A query stays unresolved after at most two requests, and reports the texts among the answers in
their order. -/
theorem unresolved_course {service : Option (Service σ)} {text : List Char} {s : σ}
    {reason : Reason} {first retry : Option String}
    (h : (resolve service entity schema text s).1 = .error (.unresolved reason first retry)) :
    ∃ answers : List Answer, answers.length ≤ 2 ∧
      (∀ number, replyTo? (resolve (Service.recorded? service) entity schema text (s, [])).2.2
        number = answers[number]?.bind Except.toOption) ∧
      first = (answers.filterMap Except.toOption)[0]? ∧
      retry = (answers.filterMap Except.toOption)[1]? := by
  obtain ⟨htext, hleaves, hhint, c, hc, hfound, -, hfirst, hretry⟩ :=
    resolve_eq_unresolved_iff.mp h
  have hunread := Query.filter?_eq_none_iff.mpr hleaves
  cases service with
  | none =>
    rw [← Except.ok.inj hc] at hfirst hretry
    refine ⟨[], by simp, fun number => ?_, hfirst.symm, hretry.symm⟩
    -- without a service nothing is taken down, so no reply can be missing
    have hquiet : (resolve (none : Option (Service (σ × List Exchange))) entity schema text
        (s, [])).2.2 = [] := by
      rw [resolve]
      split
      · rfl
      · rw [hunread]
        rfl
    rw [Service.recorded?, Option.map_none, hquiet]
    rfl
  | some service =>
    obtain ⟨probe, answers, result, -, hcourse, hconsulted, -, -, hrecord⟩ :=
      resolve_recorded service entity schema htext hunread s
    rw [hc] at hconsulted
    subst hconsulted
    refine ⟨answers, hcourse.length_le, fun number => ?_, ?_, ?_⟩
    · rw [Service.recorded?, Option.map_some, hrecord, replyTo?_requests hcourse.length_le]
    · rw [← hfirst, hcourse.replies]
    · rw [← hretry, hcourse.replies]

/-- The texts that an unresolved query reports stand in the places of the first and the second
request, except if the first request brought no text and the second one did. Without a text from the
first request, the second one's is reported in its place. -/
theorem reported_replies_are_in_place_iff (service : Option (Service σ)) (entity : Entity)
    (schema : Schema) (text : List Char) (s : σ) (reason : Reason) (first retry : Option String)
    (h : (resolve service entity schema text s).1 = .error (.unresolved reason first retry)) :
    let exchanges := (resolve (Service.recorded? service) entity schema text (s, [])).2.2
    ((first = replyTo? exchanges 0 ∧ retry = replyTo? exchanges 1) ↔
      ¬ (replyTo? exchanges 0 = none ∧ (replyTo? exchanges 1).isSome = true)) ∧
    (replyTo? exchanges 0 = none → first = replyTo? exchanges 1 ∧ retry = none) := by
  intro exchanges
  obtain ⟨answers, hlength, hreplies, rfl, rfl⟩ := unresolved_course h
  have hreply : ∀ number, replyTo? exchanges number = answers[number]?.bind Except.toOption :=
    hreplies
  rw [hreply, hreply]
  -- what counts of an answer is whether it is a text
  match answers with
  | [] => simp
  | [answer] => cases answer <;> simp [List.filterMap_cons, Except.toOption]
  | [answer, again] =>
    cases answer <;> cases again <;> simp [List.filterMap_cons, Except.toOption]
  | _ :: _ :: _ :: _ => simp at hlength

/-- The reason and the texts that a query is reported unresolved with. -/
def unresolved? : Except Failure Resolved → Option (Reason × Option String × Option String)
  | .error (.unresolved reason first retry) => some (reason, first, retry)
  | _ => none

theorem eq_of_unresolved? {result : Except Failure Resolved} {reason : Reason}
    {first retry : Option String} (h : unresolved? result = some (reason, first, retry)) :
    result = .error (.unresolved reason first retry) := by
  unfold unresolved? at h
  split at h
  · cases h
    rfl
  · cases h

/-- An unusable answer, and then a text that holds no envelope: the text is reported as that of the
first request. -/
theorem text_of_second_request_is_reported_first :
    let schema : Schema := [⟨"Duration", .number, []⟩]
    let service := Service.scripted (.ok ⟨true, [], none⟩)
      [.error (.unusable "no response field"), .ok "nope"]
    let run := resolve (some service.recorded) .tasks schema "long running jobs".toList (0, [])
    (resolve (some service) .tasks schema "long running jobs".toList 0).1 =
        .error (.unresolved .invalidJson (some "nope") none) ∧
      replyTo? run.2.2 0 = none ∧ replyTo? run.2.2 1 = some "nope" ∧
      ¬ (some "nope" = replyTo? run.2.2 0 ∧ none = replyTo? run.2.2 1) := by
  intro schema service run
  have hunresolved : (resolve (some service) .tasks schema "long running jobs".toList 0).1 =
      .error (.unresolved .invalidJson (some "nope") none) := by
    apply eq_of_unresolved?
    decide +kernel
  obtain ⟨hplaces, hmoved⟩ := reported_replies_are_in_place_iff (some service) .tasks schema
    "long running jobs".toList 0 .invalidJson (some "nope") none hunresolved
  have hnone : replyTo? run.2.2 0 = none := by decide +kernel
  have hsecond : replyTo? run.2.2 1 = some "nope" := by decide +kernel
  refine ⟨hunresolved, hnone, hsecond, fun hplace => ?_⟩
  exact hplaces.mp hplace ⟨hnone, by decide +kernel⟩

end Resolution

end SheetQuery
