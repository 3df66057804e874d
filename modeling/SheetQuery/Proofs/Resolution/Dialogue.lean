import SheetQuery.Proofs.Resolution.Means

/-!
# The dialogue with the service

What consulting a service says to it, and what becomes of its answers. A service is made to take down
every exchange with it; that changes nothing else.

* `Service.recorded`: the service that takes everything down;
* `consult_recorded`: a consultation is one probe and at most two requests, the first without worked
  examples and the second with them, and it ends in one of the ways of `Course`;
* `resolve_recorded`: the same of a query that the clauses do not answer.
-/

namespace SheetQuery

/-- The answer to a request for an envelope. -/
abbrev Answer := Except Service.Fault String

/-- Is an answer a text, none for want of a service, or something unusable? -/
def Answer.IsOrderly (answer : Answer) : Prop := ∀ fault, answer = .error fault →
  fault.isAbsence = true ∨ ∃ message, fault = .unusable message

/-- An exchange with a service: what it was asked, and how it answered. -/
inductive Exchange where
  | probe (answer : Except Service.Fault Service.Probe)
  | generation (system prompt : String) (answer : Answer)

/-- The answer to a request; none for a probe. -/
def Exchange.answer? : Exchange → Option Answer
  | probe _ => none
  | generation _ _ answer => some answer

/-- The text that the request of a given number brought; none if there was no such request, or if it
brought no text. -/
def replyTo? (exchanges : List Exchange) (number : Nat) : Option String :=
  (exchanges.filterMap Exchange.answer?)[number]?.bind Except.toOption

namespace Service

variable {σ : Type}

/-- The service with a record of all exchanges with it, the latest at the end. -/
def recorded (service : Service σ) : Service (σ × List Exchange) where
  probe state :=
    let (answer, s) := service.probe state.1
    (answer, s, state.2 ++ [.probe answer])
  generate system prompt state :=
    let (answer, s) := service.generate system prompt state.1
    (answer, s, state.2 ++ [.generation system prompt answer])

/-- Has the probe found the service ready? -/
def IsReady (probe : Except Fault Probe) : Prop := ∃ found, probe = .ok found ∧ found.ok = true

/-- A service that answers as a script says, and is unavailable when the script is at its end. Its
state is the number of requests so far. -/
def scripted (probe : Except Fault Probe) (script : List Answer) : Service Nat where
  probe number := (probe, number)
  generate _ _ number := (script[number]?.getD (.error (.unavailable "no answer left")), number + 1)

/-- Does a service fail only by being absent, or by answering a request with something unusable? -/
structure IsOrderly (service : Service σ) : Prop where
  probe : ∀ s fault, (service.probe s).1 = .error fault → fault.isAbsence = true
  generate : ∀ system prompt s, Answer.IsOrderly (service.generate system prompt s).1

theorem isOrderly_scripted {probe : Except Fault Probe} {script : List Answer}
    (hprobe : ∀ fault, probe = .error fault → fault.isAbsence = true)
    (hscript : ∀ answer ∈ script, Answer.IsOrderly answer) : (scripted probe script).IsOrderly := by
  refine ⟨fun _ => hprobe, fun system prompt number => ?_⟩
  change Answer.IsOrderly (script[number]?.getD _)
  cases hanswer : script[number]? with
  | some answer => exact hscript answer (List.mem_of_getElem? hanswer)
  | none =>
    intro fault hfault
    rw [← Except.error.inj hfault]
    exact .inl rfl

/-- Are a probe and some answers the service's own, each in some state of it? -/
structure Gives (service : Service σ) (probe : Except Fault Probe) (answers : List Answer) :
    Prop where
  probe : ∃ s, (service.probe s).1 = probe
  answers : ∀ answer ∈ answers, ∃ system prompt s, (service.generate system prompt s).1 = answer

end Service

namespace Resolution

variable {σ : Type}

/-- The exchanges of the requests that brought the given answers: the first has no worked examples,
the second has them. -/
def requests (entity : Entity) (schema : Schema) (query : List Char) (answers : List Answer) :
    List Exchange :=
  (answers.zip [false, true]).map fun (answer, withExamples) =>
    .generation Prompt.system
      (Prompt.user entity.name schema.names (String.ofList query) withExamples) answer

/-- The courses that a consultation can take: how the probe and the requests were answered, and what
that leads to. -/
inductive Course (schema : Schema) :
    Except Service.Fault Service.Probe → List Answer → Except Failure Consultation → Prop
  | unready {probe} (hready : ¬ Service.IsReady probe)
      (habsent : ∀ fault, probe = .error fault → fault.isAbsence = true) :
      Course schema probe [] (.ok .none)
  | failed {fault} (hpresent : fault.isAbsence = false) :
      Course schema (.error fault) [] (.error (.service fault))
  | once {probe answer} (hready : Service.IsReady probe)
      (hjudged : judgeAnswer schema answer ≠ .malformed) :
      Course schema probe [answer] (conclude none (replyTexts answer) (judgeAnswer schema answer))
  | twice {probe first second} (hready : Service.IsReady probe)
      (hjudged : judgeAnswer schema first = .malformed) :
      Course schema probe [first, second] (conclude (some .invalidJson)
        (replyTexts first ++ replyTexts second) (judgeAnswer schema second))

theorem Course.length_le {schema : Schema} {probe : Except Service.Fault Service.Probe}
    {answers : List Answer} {result : Except Failure Consultation}
    (h : Course schema probe answers result) : answers.length ≤ 2 := by
  cases h <;> simp

/-- The replies that a consultation reports are the texts among its answers, in their order. -/
theorem Course.replies {schema : Schema} {probe : Except Service.Fault Service.Probe}
    {answers : List Answer} {c : Consultation} (h : Course schema probe answers (.ok c)) :
    c.replies = answers.filterMap Except.toOption := by
  have hconclude : ∀ {earlier : Option Reason} {replies : List String} {verdict : Verdict},
      conclude earlier replies verdict = .ok c → c.replies = replies := by
    intro earlier replies verdict heq
    cases verdict <;> first | exact (Except.ok.inj heq) ▸ rfl | cases heq
  generalize hresult : Except.ok c = result at h
  cases h with
  | unready => exact Except.ok.inj hresult ▸ rfl
  | failed => cases hresult
  | @once _ answer => rw [hconclude hresult.symm]; cases answer <;> rfl
  | @twice _ first second =>
    rw [hconclude hresult.symm]
    cases first <;> cases second <;> rfl

/-- The record of at most two requests gives back their answers. -/
theorem answers_of_requests {entity : Entity} {schema : Schema} {query : List Char}
    {probe : Except Service.Fault Service.Probe} {answers : List Answer}
    (h : answers.length ≤ 2) :
    (Exchange.probe probe :: requests entity schema query answers).filterMap Exchange.answer? =
      answers := by
  match answers with
  | [] => rfl
  | [first] => rfl
  | [first, second] => rfl
  | _ :: _ :: _ :: _ => simp at h

/-- A consultation takes one of the courses, and its exchanges are one probe and the requests. -/
theorem consult_recorded (service : Service σ) (entity : Entity) (schema : Schema)
    (query : List Char) (s : σ) :
    ∃ probe answers result after,
      consult service entity schema query s = (result, after) ∧
        consult service.recorded entity schema query (s, []) =
          (result, after, .probe probe :: requests entity schema query answers) ∧
        service.Gives probe answers ∧ Course schema probe answers result := by
  obtain ⟨probe, s₁, hprobe⟩ : ∃ probe s₁, service.probe s = (probe, s₁) := ⟨_, _, rfl⟩
  have hgiven : ∃ s, (service.probe s).1 = probe := ⟨s, congrArg Prod.fst hprobe⟩
  have hprobed : service.recorded.probe (s, []) = (probe, s₁, [.probe probe]) := by
    simp [Service.recorded, hprobe]
  cases probe with
  | error fault =>
    refine ⟨.error fault, [], _, s₁, by rw [consult, hprobe], by rw [consult, hprobed]; rfl,
      ⟨hgiven, by simp⟩, ?_⟩
    cases habsent : fault.isAbsence with
    | true =>
      refine .unready ?_ ?_
      · rintro ⟨found, h, -⟩
        cases h
      · intro other h
        rw [← Except.error.inj h]
        exact habsent
    | false => exact .failed habsent
  | ok found =>
    rw [consult, hprobe, consult, hprobed]
    cases hfound : found.ok with
    | false =>
      refine ⟨.ok found, [], .ok .none, s₁, ?_, ?_, ⟨hgiven, by simp⟩, .unready ?_ ?_⟩
      · simp [hfound]
      · simp [hfound, requests]
      · rintro ⟨other, h, hok⟩
        rw [← Except.ok.inj h, hfound] at hok
        cases hok
      · intro fault h
        cases h
    | true =>
      have hready : Service.IsReady (.ok found) := ⟨found, rfl, hfound⟩
      obtain ⟨first, s₂, hfirst⟩ : ∃ first s₂, service.generate Prompt.system (Prompt.user
        entity.name schema.names (String.ofList query) false) s₁ = (first, s₂) := ⟨_, _, rfl⟩
      -- whether there is a second request hangs on the verdict on the first answer
      by_cases hjudged : judgeAnswer schema first = .malformed
      · obtain ⟨second, s₃, hsecond⟩ : ∃ second s₃, service.generate Prompt.system (Prompt.user
          entity.name schema.names (String.ofList query) true) s₂ = (second, s₃) := ⟨_, _, rfl⟩
        refine ⟨.ok found, [first, second], _, s₃, ?_, ?_, ⟨hgiven, ?_⟩, .twice hready hjudged⟩
        · simp [hfound, askTwice, ask, hfirst, hjudged, hsecond]
        · simp [hfound, askTwice, ask, Service.recorded, hfirst, hjudged, hsecond, requests]
        · rintro answer (_ | ⟨_, _ | ⟨_, ⟨⟩⟩⟩)
          · exact ⟨_, _, _, congrArg Prod.fst hfirst⟩
          · exact ⟨_, _, _, congrArg Prod.fst hsecond⟩
      · refine ⟨.ok found, [first], _, s₂, ?_, ?_, ⟨hgiven, ?_⟩, .once hready hjudged⟩
        · simp [hfound, askTwice, ask, hfirst]
        · simp [hfound, askTwice, ask, Service.recorded, hfirst, requests]
        · rintro answer (_ | ⟨_, ⟨⟩⟩)
          exact ⟨_, _, _, congrArg Prod.fst hfirst⟩

/-! ## Resolving a query -/

/-- What a query comes to that consulting the service has led somewhere with. -/
def outcome (entity : Entity) (schema : Schema) (query : List Char) :
    Except Failure Consultation → Except Failure Resolved
  | .error failure => .error failure
  | .ok c =>
    match c.found with
    | some filter => .ok ⟨filter, .ai⟩
    | none => fallBack entity schema query c

/-- A query that the clauses do not answer comes to what its consultation leads to, and nothing but
the consultation is on record. -/
theorem resolve_recorded (service : Service σ) (entity : Entity) (schema : Schema)
    {text : List Char} (htext : Text.trim text ≠ [])
    (hunread : Query.filter? entity schema.names (Text.trim text) = none) (s : σ) :
    ∃ probe answers result, service.Gives probe answers ∧ Course schema probe answers result ∧
      consulted (some service) entity schema (Text.trim text) s = result ∧
      (resolve (some service) entity schema text s).1 =
        outcome entity schema (Text.trim text) result ∧
      (resolve (some service.recorded) entity schema text (s, [])).1 =
        outcome entity schema (Text.trim text) result ∧
      (resolve (some service.recorded) entity schema text (s, [])).2.2 =
        .probe probe :: requests entity schema (Text.trim text) answers := by
  obtain ⟨probe, answers, result, after, hconsult, hrecorded, hgives, hcourse⟩ :=
    consult_recorded service entity schema (Text.trim text) s
  have hplain : (resolve (some service) entity schema text s).1 =
      outcome entity schema (Text.trim text) result := by
    rw [resolve_eq (some service) entity schema htext s, hunread]
    simp only [consulted, hconsult]
    cases result <;> rfl
  have hsame : (resolve (some service.recorded) entity schema text (s, [])).1 =
      outcome entity schema (Text.trim text) result := by
    rw [resolve_eq (some service.recorded) entity schema htext (s, []), hunread]
    simp only [consulted, hrecorded]
    cases result <;> rfl
  refine ⟨probe, answers, result, hgives, hcourse, by rw [consulted, hconsult], hplain, hsame, ?_⟩
  -- the means that follow the consultation do not touch the service
  rw [resolve]
  split
  · next hnil => exact absurd hnil htext
  · rw [hunread]
    simp only [resolveUnread, hrecorded]
    cases result with
    | error failure => rfl
    | ok c =>
      dsimp only
      split <;> rfl

end Resolution

end SheetQuery
