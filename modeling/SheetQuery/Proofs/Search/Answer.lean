import SheetQuery.Proofs.Query.Plain
import SheetQuery.Search.Session

/-!
# What a search comes to on its own

Without a service and without a remembered filter, a search is a function of its entity, its query,
its rows and their schema, up to its number. `Search.answer` is that function and `Search.found?` the
filter it ends with.

* `preview?_eq`: a preview is never refused;
* `answer_eq`: the number of a search is all that its answer takes from the session;
* `spec_of_answer`: the rows of an answer are those that its filter keeps;
* `found?_congr`: the filter depends on the query, the names and traits of the columns, and whether
  the strict filter keeps any row.
-/

namespace SheetQuery

/-- The outcome under another number. -/
def Outcome.renumber (seq : Nat) (outcome : Outcome) : Outcome := { outcome with seq := seq }

namespace Search

/-- The rows of a search that a filter holds of. -/
def keeps (search : Search) (filter : Filter) : List Row :=
  search.base.filter fun row => filter.holds row

theorem matching_of_isPlain {filter : Filter} (h : filter.IsPlain) (search : Search) :
    search.matching filter = .ok (search.keeps filter) := by
  rw [matching, Filter.apply_of_isPlain h, keeps]

/-- The instant answer to a search, if a hint gives one. -/
def hinted? (search : Search) (seq : Nat) : Option Outcome :=
  (Query.preview? search.entity search.schema search.query).map fun leaf =>
    ⟨search.entity, search.keeps (.leaf leaf), .leaf leaf, .preview, seq, false⟩

/-- A preview is never refused. -/
theorem preview?_eq (search : Search) (seq : Nat) :
    search.preview? seq = (search.hinted? seq).map .ok := by
  rw [preview?, hinted?]
  cases h : Query.preview? search.entity search.schema search.query with
  | none => rfl
  | some leaf =>
    rw [Option.map_some, matching_of_isPlain (Query.isPlain_preview? h)]
    rfl

/-- The resolution of a search without a service. -/
def resolution (search : Search) : Except Failure Resolved :=
  (Resolution.resolve (none : Option (Service Unit)) search.entity search.schema search.query ()).1

/-- What a search that is not superseded comes to when its filter is not remembered. -/
def answer (search : Search) (seq : Nat) : Except Failure Outcome :=
  match search.resolution with
  | .ok resolved => search.outcome seq resolved
  | .error (.unresolved reason first retry) =>
    match search.hinted? seq with
    | some outcome => .ok outcome
    | none => .error (.unresolved reason first retry)
  | .error failure => .error failure

/-- The filter that a search ends with on its own. -/
def found? (search : Search) : Option Filter := (search.answer 0).toOption.map Outcome.filter

/-- Does the filter of the search, before it is softened, keep no row? -/
def IsBarren (search : Search) : Prop :=
  ∀ resolved, search.resolution = .ok resolved → search.keeps resolved.filter = []

/-! ## Resolutions -/

theorem isPlain_of_repaired {schema : Schema} {source : Source} {filter : Filter}
    {resolved : Resolved} (hplain : filter.IsPlain)
    (h : Resolution.repaired schema source filter = .ok resolved) : resolved.filter.IsPlain := by
  unfold Resolution.repaired at h
  split at h
  · next found hfound =>
    obtain rfl := Except.ok.inj h
    rw [Filter.repair_eq_ok hfound]
    exact Filter.isPlain_repaired hplain _ _
  · cases h

/-- Without a service, a resolved filter has no patterns. -/
theorem isPlain_of_resolution {search : Search} {resolved : Resolved}
    (h : search.resolution = .ok resolved) : resolved.filter.IsPlain := by
  unfold resolution Resolution.resolve at h
  split at h
  · cases h
  · split at h
    · next hfilter => exact isPlain_of_repaired (Query.isPlain_filter? hfilter) h
    · simp only [Resolution.resolveUnread, Resolution.fallBack] at h
      split at h
      · next hleaf => exact isPlain_of_repaired (Query.isPlain_lastResort? hleaf) h
      · cases h

/-- A resolution looks at the entity, the query, and the names and traits of the columns. -/
theorem resolution_congr {search other : Search} (hentity : search.entity = other.entity)
    (hquery : search.query = other.query) (hnames : search.schema.names = other.schema.names)
    (htraits : ∀ column, search.schema.traits column = other.schema.traits column) :
    search.resolution = other.resolution := by
  have hrepaired : ∀ source filter, Resolution.repaired search.schema source filter =
      Resolution.repaired other.schema source filter := by
    intro source filter
    rw [Resolution.repaired, Resolution.repaired, Filter.repair_congr hnames htraits]
  simp only [resolution, Resolution.resolve, Resolution.resolveUnread, Resolution.fallBack,
    Query.lastResort?, hentity, hquery, hnames, hrepaired]

/-! ## Outcomes -/

theorem isPlain_of_softened? {search : Search} {filter soft : Filter} (hplain : filter.IsPlain)
    (h : search.softened? filter = .ok (some soft)) : soft.IsPlain := by
  unfold softened? at h
  split at h
  · cases h
  · next found hfound =>
    split at h
    · cases h
    · obtain rfl := Option.some.inj (Except.ok.inj h)
      rw [Filter.repair_eq_ok hfound]
      exact Filter.isPlain_repaired hplain _ _

/-- What a plain resolved filter finds: its rows, or those of its softened form if there are none. -/
theorem outcome_eq {search : Search} {resolved : Resolved} (hplain : resolved.filter.IsPlain)
    (seq : Nat) : search.outcome seq resolved =
      if search.keeps resolved.filter = [] then
        (search.softened? resolved.filter).map fun soft =>
          match soft with
          | none => ⟨search.entity, [], resolved.filter, .resolved resolved.source, seq, false⟩
          | some soft => ⟨search.entity, search.keeps soft, soft, .resolved resolved.source, seq, true⟩
      else .ok ⟨search.entity, search.keeps resolved.filter, resolved.filter,
        .resolved resolved.source, seq, false⟩ := by
  rw [outcome, matching_of_isPlain hplain]
  by_cases hrows : search.keeps resolved.filter = []
  · rw [if_pos hrows, hrows]
    cases hsoft : search.softened? resolved.filter with
    | error failure => simp [bind, Except.bind, Except.map]
    | ok soft =>
      cases soft with
      | none => simp [bind, Except.bind, Except.map, pure, Except.pure]
      | some soft =>
        have hmatching := matching_of_isPlain (isPlain_of_softened? hplain hsoft) search
        simp [bind, Except.bind, Except.map, pure, Except.pure, hmatching]
  · rw [if_neg hrows]
    have hne : (search.keeps resolved.filter).isEmpty = false := by
      rwa [List.isEmpty_eq_false_iff]
    simp [bind, Except.bind, hne, pure, Except.pure]

/-! ## Answers -/

theorem hinted?_eq (search : Search) (seq : Nat) :
    search.hinted? seq = (search.hinted? 0).map (Outcome.renumber seq) := by
  rw [hinted?, hinted?, Option.map_map]
  rfl

/-- The number of a search is all that its answer takes from the session. -/
theorem answer_eq (search : Search) (seq : Nat) :
    search.answer seq = (search.answer 0).map (Outcome.renumber seq) := by
  rw [answer, answer]
  cases hresolution : search.resolution with
  | ok resolved =>
    have hplain := isPlain_of_resolution hresolution
    simp only
    rw [outcome_eq hplain, outcome_eq hplain]
    split
    · cases search.softened? resolved.filter with
      | error failure => rfl
      | ok soft => cases soft <;> rfl
    · rfl
  | error failure =>
    cases failure with
    | unresolved reason first retry =>
      simp only
      rw [hinted?_eq]
      cases search.hinted? 0 <;> rfl
    | _ => rfl

/-- The rows of an answer are those that its filter keeps, and it never comes from the cache. -/
theorem spec_of_answer {search : Search} {seq : Nat} {outcome : Outcome}
    (h : search.answer seq = .ok outcome) : search.matching outcome.filter = .ok outcome.rows ∧
      outcome.entity = search.entity ∧ outcome.origin ≠ .cache := by
  rw [answer] at h
  -- an answer is a resolved filter, strict or softened, or failing that the preview
  cases hresolution : search.resolution with
  | ok resolved =>
    have hplain := isPlain_of_resolution hresolution
    simp only [hresolution] at h
    rw [outcome_eq hplain] at h
    split at h
    · next hrows =>
      cases hsoft : search.softened? resolved.filter with
      | error failure =>
        rw [hsoft] at h
        cases h
      | ok soft =>
        rw [hsoft] at h
        cases soft with
        | none =>
          obtain rfl := Except.ok.inj h
          refine ⟨?_, rfl, by simp⟩
          rw [matching_of_isPlain hplain, hrows]
        | some soft =>
          obtain rfl := Except.ok.inj h
          exact ⟨matching_of_isPlain (isPlain_of_softened? hplain hsoft) search, rfl, by simp⟩
    · obtain rfl := Except.ok.inj h
      exact ⟨matching_of_isPlain hplain search, rfl, by simp⟩
  | error failure =>
    simp only [hresolution] at h
    cases failure with
    | unresolved reason first retry =>
      cases hhint : search.hinted? seq with
      | none => simp [hhint] at h
      | some hinted =>
        simp only [hhint] at h
        obtain rfl := Except.ok.inj h
        obtain ⟨leaf, hleaf, rfl⟩ := Option.map_eq_some_iff.mp hhint
        exact ⟨matching_of_isPlain (Query.isPlain_preview? hleaf) search, rfl, by simp⟩
    | _ => cases h

theorem found?_eq_some_iff {search : Search} {filter : Filter} (seq : Nat) :
    search.found? = some filter ↔
      ∃ outcome, search.answer seq = .ok outcome ∧ outcome.filter = filter := by
  rw [found?, answer_eq search seq]
  cases search.answer 0 with
  | error failure => simp [Except.toOption, Except.map]
  | ok outcome => simp [Except.toOption, Except.map, Outcome.renumber]

/-! ## What the filter depends on -/

theorem softened?_congr {search other : Search} (hnames : search.schema.names = other.schema.names)
    (htraits : ∀ column, search.schema.traits column = other.schema.traits column)
    (filter : Filter) : search.softened? filter = other.softened? filter := by
  rw [softened?, softened?, Filter.repair_congr hnames htraits]

theorem map_filter_outcome {search : Search} {resolved : Resolved}
    (hplain : resolved.filter.IsPlain) : (search.outcome 0 resolved).map Outcome.filter =
      if search.keeps resolved.filter = [] then
        (search.softened? resolved.filter).map fun soft => soft.getD resolved.filter
      else .ok resolved.filter := by
  rw [outcome_eq hplain]
  split
  · cases search.softened? resolved.filter with
    | error failure => rfl
    | ok soft => cases soft <;> rfl
  · rfl

/-- The filter depends on the query, the names and traits of the columns, and whether the strict
filter keeps any row. -/
theorem found?_congr {search other : Search} (hentity : search.entity = other.entity)
    (hquery : search.query = other.query) (hnames : search.schema.names = other.schema.names)
    (htraits : ∀ column, search.schema.traits column = other.schema.traits column)
    (hbarren : search.IsBarren ↔ other.IsBarren) : search.found? = other.found? := by
  have hresolution := resolution_congr hentity hquery hnames htraits
  have hmap : (search.answer 0).map Outcome.filter = (other.answer 0).map Outcome.filter := by
    rw [answer, answer, ← hresolution]
    cases hfound : search.resolution with
    | ok resolved =>
      have hplain := isPlain_of_resolution hfound
      -- of the rows, only whether the strict filter keeps any decides about softening
      have hbarren' : search.keeps resolved.filter = [] ↔ other.keeps resolved.filter = [] := by
        rw [IsBarren, IsBarren, ← hresolution, hfound] at hbarren
        simpa using hbarren
      simp only
      rw [map_filter_outcome hplain, map_filter_outcome hplain, softened?_congr hnames htraits]
      simp only [hbarren']
    | error failure =>
      cases failure with
      | unresolved reason first retry =>
        have hhint : (search.hinted? 0).map Outcome.filter = (other.hinted? 0).map Outcome.filter := by
          simp only [hinted?, Query.preview?, hentity, hquery, hnames, Option.map_map]
          rfl
        simp only
        cases hours : search.hinted? 0 <;> cases htheirs : other.hinted? 0 <;>
          simp_all [Except.map]
      | _ => rfl
  rw [found?, found?]
  cases hours : search.answer 0 <;> cases htheirs : other.answer 0 <;>
    simp_all [Except.map, Except.toOption]

end Search

end SheetQuery
