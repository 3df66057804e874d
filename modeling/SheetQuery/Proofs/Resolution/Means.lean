import SheetQuery.Proofs.Filter.Prune
import SheetQuery.Proofs.Filter.Repair
import SheetQuery.Proofs.Query.Columns
import SheetQuery.Resolution

/-!
# The three means of resolving a query

A resolution as one case distinction, without the states of the service between its steps. Repair
never refuses what the clauses or a hint ask for, so it does not show up as a failure.

* `consulted`: what consulting the service leads to, whether or not there is one;
* `mentions_of_consulted`: what the service finds mentions a known column;
* `consulted_ne_unresolved`: consulting fails with a fault or a malformed filter only, so that a
  query is unresolved by want of a hint alone;
* `resolve_eq`: the resolution of a query.
-/

namespace SheetQuery.Resolution

variable {σ : Type} {entity : Entity} {schema : Schema} {query : List Char}

theorem repaired_eq {filter : Filter} (h : ∀ leaf ∈ filter.leaves, leaf.column schema ≠ "")
    (source : Source) :
    repaired schema source filter = .ok ⟨filter.repaired schema false, source⟩ := by
  rw [repaired, Filter.repair_eq h]

/-! ## The service -/

/-- What the service says about a query, if there is a service. -/
def consulted (service : Option (Service σ)) (entity : Entity) (schema : Schema)
    (query : List Char) (s : σ) : Except Failure Consultation :=
  match service with
  | none => .ok .none
  | some service => (consult service entity schema query s).1

/-- Is a verdict about known columns if it is usable, and broken by no want of an answer? -/
def Verdict.IsSound (schema : Schema) : Verdict → Prop
  | .usable filter => filter.mentions schema.names = true
  | .broken failure => ∀ reason first retry, failure ≠ .unresolved reason first retry
  | _ => True

theorem isSound_judge (schema : Schema) (reply : String) : (judge schema reply).IsSound schema := by
  unfold judge
  split
  · trivial
  · split
    · intro reason first retry h
      cases h
    · split
      · next kept hkept => exact Filter.mentions_of_prune? hkept
      · trivial

theorem isSound_judgeAnswer (schema : Schema) (answer : Except Service.Fault String) :
    (judgeAnswer schema answer).IsSound schema := by
  unfold judgeAnswer
  split
  · exact isSound_judge schema _
  · trivial
  · split
    · trivial
    · intro reason first retry h
      cases h

/-- Is what consulting led to about known columns, and no failure by want of an answer? -/
def SoundConsultation (schema : Schema) (result : Except Failure Consultation) : Prop :=
  (∀ c filter, result = .ok c → c.found = some filter → filter.mentions schema.names = true) ∧
    ∀ reason first retry, result ≠ .error (.unresolved reason first retry)

theorem sound_of_found_none (schema : Schema) {c : Consultation} (h : c.found = none) :
    SoundConsultation schema (.ok c) := by
  constructor
  · intro again filter heq hfound
    rw [← Except.ok.inj heq, h] at hfound
    cases hfound
  · intro reason first retry heq
    cases heq

theorem sound_conclude {verdict : Verdict} (h : verdict.IsSound schema) (earlier : Option Reason)
    (replies : List String) : SoundConsultation schema (conclude earlier replies verdict) := by
  cases verdict with
  | usable filter =>
    constructor
    · intro c found heq hfound
      rw [← Except.ok.inj heq] at hfound
      rw [← Option.some.inj hfound]
      exact h
    · intro reason first retry heq
      cases heq
  | unknownColumns => exact sound_of_found_none schema rfl
  | malformed => exact sound_of_found_none schema rfl
  | absent => exact sound_of_found_none schema rfl
  | broken failure =>
    constructor
    · intro c found heq
      cases heq
    · intro reason first retry heq
      exact h reason first retry (Except.error.inj heq)

theorem sound_askTwice (service : Service σ) (entity : Entity) (schema : Schema)
    (query : List Char) (s : σ) :
    SoundConsultation schema (askTwice service entity schema query s).1 := by
  unfold askTwice
  dsimp only
  split
  · exact sound_conclude (isSound_judgeAnswer schema _) _ _
  · exact sound_conclude (isSound_judgeAnswer schema _) _ _

theorem sound_consulted (service : Option (Service σ)) (entity : Entity) (schema : Schema)
    (query : List Char) (s : σ) :
    SoundConsultation schema (consulted service entity schema query s) := by
  cases service with
  | none => exact sound_of_found_none schema rfl
  | some service =>
    rw [consulted, consult]
    split
    · split
      · exact sound_askTwice service entity schema query _
      · exact sound_of_found_none schema rfl
    · next fault s' hprobe =>
      -- an absent service says nothing; any other fault is passed on as it is
      by_cases habsent : fault.isAbsence
      · simp only [habsent, if_true]
        exact sound_of_found_none schema rfl
      · simp only [habsent]
        constructor
        · intro c filter heq
          cases heq
        · intro reason first retry heq
          cases heq

/-- What the service finds mentions a known column. -/
theorem mentions_of_consulted {service : Option (Service σ)} {s : σ} {c : Consultation}
    {filter : Filter} (h : consulted service entity schema query s = .ok c)
    (hfound : c.found = some filter) : filter.mentions schema.names = true :=
  (sound_consulted service entity schema query s).1 c filter h hfound

/-- Consulting the service does not fail by want of an answer. -/
theorem consulted_ne_unresolved (service : Option (Service σ)) (entity : Entity) (schema : Schema)
    (query : List Char) (s : σ) (reason : Reason) (first retry : Option String) :
    consulted service entity schema query s ≠ .error (.unresolved reason first retry) :=
  (sound_consulted service entity schema query s).2 reason first retry

/-! ## All means -/

theorem fallBack_eq (entity : Entity) (schema : Schema) (query : List Char) (c : Consultation) :
    fallBack entity schema query c =
      match Query.lastResort? entity schema query with
      | some leaf => .ok ⟨(Filter.leaf leaf).repaired schema false, .heuristic⟩
      | none => .error (.unresolved (c.reason.getD .noResponse) c.replies[0]? c.replies[1]?) := by
  unfold fallBack
  cases hleaf : Query.lastResort? entity schema query with
  | none => rfl
  | some leaf =>
    apply repaired_eq
    intro other hother
    rw [List.mem_singleton.mp hother]
    exact Query.column_ne_empty_of_lastResort? hleaf

/-- A query resolves to what its clauses ask for, to what the service finds or to what a hint asks
for, by the first of these that there is. -/
theorem resolve_eq (service : Option (Service σ)) (entity : Entity) (schema : Schema)
    {text : List Char} (htext : Text.trim text ≠ []) (s : σ) :
    (resolve service entity schema text s).1 =
      match Query.filter? entity schema.names (Text.trim text) with
      | some filter => .ok ⟨filter.repaired schema false, .deterministic⟩
      | none =>
        match consulted service entity schema (Text.trim text) s with
        | .error failure => .error failure
        | .ok c =>
          match c.found with
          | some filter => .ok ⟨filter, .ai⟩
          | none => fallBack entity schema (Text.trim text) c := by
  rw [resolve]
  split
  · next hnil => exact absurd hnil htext
  · -- repair is refused only for a column without a name, and no clause asks for one
    cases hfilter : Query.filter? entity schema.names (Text.trim text) with
    | some filter => exact repaired_eq (Query.column_ne_empty_of_filter? hfilter) .deterministic
    | none =>
      cases service with
      | none => rfl
      | some service =>
        simp only [resolveUnread, consulted]
        rcases consult service entity schema (Text.trim text) s with ⟨result, s'⟩
        cases result with
        | error failure => rfl
        | ok c =>
          cases hfound : c.found with
          | some filter => simp only [hfound]
          | none => simp only [hfound]

end SheetQuery.Resolution
