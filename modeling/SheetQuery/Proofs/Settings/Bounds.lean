import SheetQuery.Chat.Bot
import SheetQuery.Proofs.Filter.Wire
import SheetQuery.Proofs.Numeric.Range

/-!
# What accepted settings bound

Settings are refused unless the cache and the samples are bounded by positive numbers and a service that
is switched on has an address and a model. The seconds that a call may take must not be zero or less,
which leaves two values that bound nothing: infinity, and what is no number.

* `numeral?`: the numeral in a text for a number; `number?_eq_some`: it is what the text is read by;
* `SaysNan`, `SaysEndless`: the texts that stand for the two values;
* `checkTimeout_spec`: what an accepted text stands for;
* `accepted_settings_bound`: all that accepted settings are sure to bound, and when the time of a call
  is not among it.
-/

namespace SheetQuery.Settings

/-! ## Numbers in text -/

/-- The numeral in a text: without low lines if there are any, otherwise without outer blanks. -/
def numeral? (cs : List Char) : Option (List Char) :=
  if '_' ∈ cs then withoutLines? cs else some (Text.trimWith Text.isWhiteSpace cs)

theorem isPlain_iff {cs : List Char} :
    isPlain cs = true ↔ ∀ c ∈ cs, c.toNat < 0x80 ∧ c ≠ '_' := by
  simp [isPlain]

variable {cs : List Char} {x : Binary64}

/-- A plain numeral is read by its sign and the rest. -/
theorem plainNumber?_eq_some (h : plainNumber? cs = some x) :
    (∀ c ∈ cs, Text.isBlank c = false) ∧ '_' ∉ cs ∧
      Numeral.readUnsigned? (Numeral.splitSign cs).1 (Numeral.splitSign cs).2 = some x := by
  unfold plainNumber? at h
  split at h
  · next hplain =>
    obtain ⟨hplain, hblank⟩ := Bool.and_eq_true_iff.mp hplain
    have hnone : ∀ c ∈ cs, Text.isBlank c = false := by simpa using hblank
    have hline : '_' ∉ cs := fun hmem => (isPlain_iff.mp hplain '_' hmem).2 rfl
    have htrim : Text.trim cs = cs := Text.trimWith_of_forall_not hnone
    refine ⟨hnone, hline, ?_⟩
    rwa [Numeral.readBinary64?, htrim, Numeral.dropSeparators_of_not_mem hline] at h
  · cases h

/-- A text for a number is read by its numeral. -/
theorem number?_eq_some (h : number? cs = some x) :
    ∃ numeral, numeral? cs = some numeral ∧ plainNumber? numeral = some x := by
  rw [number?, Option.or_eq_some_iff] at h
  by_cases hline : '_' ∈ cs
  · rw [numeral?, if_pos hline]
    rcases h with h | ⟨-, h⟩
    · exact absurd ((Text.mem_trimWith rfl).mpr hline) (plainNumber?_eq_some h).2.1
    · exact Option.bind_eq_some_iff.mp h
  · rw [numeral?, if_neg hline]
    rcases h with h | ⟨hnone, h⟩
    · exact ⟨_, rfl, h⟩
    · -- without low lines nothing is left out, and without blanks nothing is trimmed
      obtain ⟨kept, hkept, hread⟩ := Option.bind_eq_some_iff.mp h
      have hsame : kept = cs := by
        unfold withoutLines? at hkept
        split at hkept
        · cases hkept
        · rw [← Option.some.inj hkept, List.filter_eq_self]
          intro c hc
          rw [decide_eq_true_iff]
          rintro rfl
          exact hline hc
      subst hsame
      have hblank : ∀ c ∈ kept, Text.isWhiteSpace c = false := by
        intro c hc
        rw [Text.isWhiteSpace, (plainNumber?_eq_some hread).1 c hc, Bool.false_and]
      exact ⟨kept, by rw [Text.trimWith_of_forall_not hblank], hread⟩

/-! ## The time of a call -/

/-- Is a text, but for its sign, the word for what is no number? -/
def SaysNan (s : String) : Prop :=
  ∃ numeral, numeral? s.toList = some numeral ∧
    Numeral.folded (Numeral.splitSign numeral).2 = "nan".toList

/-- Is a text, but for its sign, a word for infinity, or a decimal beyond all finite numbers? -/
def SaysEndless (s : String) : Prop :=
  ∃ numeral, numeral? s.toList = some numeral ∧ Numeral.IsBeyond (Numeral.splitSign numeral).2

/-- Accepted seconds are no number, infinite or positive, and the text says which. -/
theorem checkTimeout_spec {s : String} {seconds : Binary64} (h : checkTimeout s = .ok seconds) :
    (seconds = .nan ↔ SaysNan s) ∧ (seconds = .infinite false ↔ SaysEndless s) ∧
      (seconds = .nan ∨ seconds = .infinite false ∨
        ∃ x : Number, seconds = .finite x ∧ 0 < x.signed) := by
  unfold checkTimeout at h
  split at h
  · cases h
  · next read hnumber =>
    split at h
    · cases h
    · next hpast =>
      obtain rfl : read = seconds := Except.ok.inj h
      obtain ⟨numeral, hnumeral, hplain⟩ := number?_eq_some hnumber
      have hread := (plainNumber?_eq_some hplain).2.2
      have hnan : SaysNan s ↔ Numeral.folded (Numeral.splitSign numeral).2 = "nan".toList := by
        simp [SaysNan, hnumeral]
      have hendless : SaysEndless s ↔ Numeral.IsBeyond (Numeral.splitSign numeral).2 := by
        simp [SaysEndless, hnumeral]
      rw [hnan, hendless, ← Numeral.eq_nan_iff hread, ← Numeral.eq_infinite_iff hread]
      -- what is left of the values is decided by the check that the time is not over at once
      cases read with
      | nan => simp
      | infinite negative =>
        cases negative with
        | false => simp
        | true => exact absurd rfl hpast
      | finite x =>
        have hpositive : x.negative = false ∧ x.units ≠ 0 := by
          simpa [Client.Deadline.ofSeconds] using hpast
        refine ⟨by simp, by simp, .inr (.inr ⟨x, rfl, ?_⟩)⟩
        rw [Number.signed, hpositive.1]
        simpa using Nat.pos_of_ne_zero hpositive.2

/-! ## All settings -/

theorem pos_of_checkPositive {s : String} {n : Nat} (h : checkPositive s = .ok n) : 0 < n := by
  unfold checkPositive at h
  split at h
  · split at h
    · next hpositive =>
      obtain rfl := Except.ok.inj h
      omega
    · cases h
  · cases h

/-- A variable that is not given has its default. -/
theorem optional_eq_ok_iff {α : Type} {origins : Origins} {name : String} {default value : α}
    {check : String → Checked α} : optional origins name default check = .ok value ↔
      (origins.get? name = none ∧ value = default) ∨
        ∃ s, origins.get? name = some s ∧ check s = .ok value := by
  unfold optional
  split
  · next s hgiven => simp [hgiven]
  · next hnone => simp [hnone, eq_comm]

theorem pos_of_optional {origins : Origins} {name : String} {default n : Nat}
    (h : optional origins name default checkPositive = .ok n) (hdefault : 0 < default) : 0 < n := by
  rcases optional_eq_ok_iff.mp h with ⟨-, rfl⟩ | ⟨s, -, hs⟩
  · exact hdefault
  · exact pos_of_checkPositive hs

variable {origins : Origins} {settings : Settings}

/-- The time of a call as the variable for it has it. -/
theorem timeout_spec {seconds : Binary64} (h : optional origins "LLM_TIMEOUT_S"
      Endpoint.defaultTimeout checkTimeout = .ok seconds) :
    (seconds = .nan ↔ ∃ s, origins.get? "LLM_TIMEOUT_S" = some s ∧ SaysNan s) ∧
      (seconds = .infinite false ↔ ∃ s, origins.get? "LLM_TIMEOUT_S" = some s ∧ SaysEndless s) ∧
      (seconds = .nan ∨ seconds = .infinite false ∨
        ∃ x : Number, seconds = .finite x ∧ 0 < x.signed) := by
  rcases optional_eq_ok_iff.mp h with ⟨hnone, hvalue⟩ | ⟨s, hgiven, hs⟩
  · have hdefault : Endpoint.defaultTimeout = .finite ⟨false, 25 * Number.unitsPerOne⟩ := by
      decide +kernel
    have hpositive : 0 < Number.signed ⟨false, 25 * Number.unitsPerOne⟩ :=
      Int.natCast_pos.mpr (Nat.mul_pos (by decide) Number.unitsPerOne_pos)
    rw [hvalue, hdefault]
    exact ⟨by simp [hnone], by simp [hnone], .inr (.inr ⟨_, rfl, hpositive⟩)⟩
  · obtain ⟨hnan, hendless, hcases⟩ := checkTimeout_spec hs
    exact ⟨by simp [hgiven, hnan], by simp [hgiven, hendless], hcases⟩

/-- Each of the accepted settings has been checked. -/
theorem checkEach_eq_ok (h : checkEach origins = .ok settings) :
    optional origins "LLM_TIMEOUT_S" Endpoint.defaultTimeout checkTimeout =
        .ok settings.endpoint.timeout ∧
      optional origins "CACHE_MAX_ENTRIES" 256 checkPositive = .ok settings.cacheEntries ∧
      optional origins "SCHEMA_MAX_SAMPLES" 4 checkPositive = .ok settings.samples := by
  simp only [checkEach] at h
  split at h
  · next token path enabled baseUrl model timeout cacheEntries samples previewRows hboth =>
    simp only [Checked.both_eq_ok_iff] at hboth
    obtain ⟨-, -, -, -, -, htimeout, hentries, hsamples, -⟩ := hboth
    obtain rfl := Except.ok.inj h
    exact ⟨htimeout, hentries, hsamples⟩
  · cases h

theorem check_eq_ok_iff : check origins = .ok settings ↔
    checkEach origins = .ok settings ∧ isComplete settings = true := by
  unfold check
  split
  · next found hfound =>
    rw [hfound]
    split
    · next hcomplete =>
      constructor
      · intro h
        obtain rfl := Except.ok.inj h
        exact ⟨rfl, hcomplete⟩
      · exact fun h => h.1
    · next hincomplete =>
      constructor
      · intro h
        cases h
      · rintro ⟨h, hcomplete⟩
        obtain rfl := Except.ok.inj h
        exact absurd hcomplete hincomplete
  · next issues hissues =>
    rw [hissues]
    exact iff_of_false nofun fun h => nomatch h.1

/-- A service that is switched on has an address and a model. -/
theorem isComplete_iff : isComplete settings = true ↔ (settings.serviceEnabled = true →
    Text.trim settings.endpoint.baseUrl.toList ≠ [] ∧
      Text.trim settings.endpoint.model.toList ≠ []) := by
  cases h : settings.serviceEnabled <;> simp [isComplete, isGiven, h]

/-- **What accepted settings bound.** The samples and the cache are bounded, and a service that is
switched on has an address and a model. The time of a call is a positive number unless the text for it
stands for no number, for infinity or for more than any finite number. -/
theorem accepted_settings_bound {environment : List (String × String)} {file : Option String}
    (h : check (.of environment file) = .ok settings) (store : Store) :
    let given := (Origins.of environment file).get? "LLM_TIMEOUT_S"
    0 < settings.samples ∧ 0 < settings.cacheEntries ∧
    Cache.make settings.cacheEntries = .ok (Chat.Bot.create settings store).desk.cache ∧
    (settings.serviceEnabled = true → Text.trim settings.endpoint.baseUrl.toList ≠ [] ∧
      Text.trim settings.endpoint.model.toList ≠ []) ∧
    (settings.endpoint.timeout = .nan ↔ ∃ s, given = some s ∧ SaysNan s) ∧
    (settings.endpoint.timeout = .infinite false ↔ ∃ s, given = some s ∧ SaysEndless s) ∧
    ((∃ x : Number, settings.endpoint.timeout = .finite x ∧ 0 < x.signed) ↔
      ∀ s, given = some s → ¬ SaysNan s ∧ ¬ SaysEndless s) := by
  intro given
  obtain ⟨heach, hcomplete⟩ := check_eq_ok_iff.mp h
  obtain ⟨htimeout, hentries, hsamples⟩ := checkEach_eq_ok heach
  have hroom := pos_of_optional hentries (by decide)
  refine ⟨pos_of_optional hsamples (by decide), hroom, ?_, isComplete_iff.mp hcomplete, ?_⟩
  · rw [Cache.make, if_pos (by exact_mod_cast hroom)]
    rfl
  · obtain ⟨hnan, hendless, hcases⟩ := timeout_spec htimeout
    refine ⟨hnan, hendless, ?_⟩
    constructor
    · rintro ⟨x, hx, -⟩ s hgiven
      refine ⟨fun hmeant => ?_, fun hmeant => ?_⟩
      · exact absurd (hx.symm.trans (hnan.mpr ⟨s, hgiven, hmeant⟩)) nofun
      · exact absurd (hx.symm.trans (hendless.mpr ⟨s, hgiven, hmeant⟩)) nofun
    · intro hmeant
      rcases hcases with hvalue | hvalue | hpositive
      · obtain ⟨s, hgiven, hs⟩ := hnan.mp hvalue
        exact absurd hs (hmeant s hgiven).1
      · obtain ⟨s, hgiven, hs⟩ := hendless.mp hvalue
        exact absurd hs (hmeant s hgiven).2
      · exact hpositive

/-- A time without end is accepted. -/
theorem endless_timeout_is_accepted :
    let environment := [("TELEGRAM_BOT_TOKEN", "123:abc"), ("LLM_TIMEOUT_S", "inf")]
    ∃ settings, check (.of environment none) = .ok settings ∧
      settings.endpoint.timeout = .infinite false := by
  intro environment
  have haccepted : (check (.of environment none)).toOption.isSome := by decide +kernel
  cases hcheck : check (.of environment none) with
  | error issues =>
    rw [hcheck] at haccepted
    cases haccepted
  | ok settings =>
    obtain ⟨-, -, -, -, -, hendless, -⟩ := accepted_settings_bound hcheck .empty
    refine ⟨settings, rfl, hendless.mpr ⟨"inf", by decide +kernel, "inf".toList, by decide, ?_⟩⟩
    exact .inl (by decide)

end SheetQuery.Settings
