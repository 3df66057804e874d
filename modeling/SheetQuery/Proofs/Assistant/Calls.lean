import SheetQuery.Assistant.Client
import SheetQuery.Proofs.Numeric.Rounding
import SheetQuery.Proofs.Text.Trim

/-!
# Calls of the service, whatever it answers

The service may be unreachable, answer with an error status, or answer with any octets at all. A call
makes an outcome of each of these: a probe reports that the service is not there, and a generation
fails with one of the two failures its callers know. There is one answer for which this does not hold.
Where the models should stand, a document may have a number or a truth value; unless it is zero, the
probe goes through it as if it were a list, and fails with a fault that no caller expects.

* `Client.exists_url?`: an address of HTTP makes addresses of the service's paths;
* `HttpAnswer.document?`: the document that an answer brings;
* `Client.modelsOf_spec`: when the models of a document can be gone through, and which they are;
* `Client.readProbe_spec`, `Client.readReply_spec`, `Client.health_of_reports`: what the calls make of
  an answer;
* `Client.service_failures_are_confined_iff`: the calls.
-/

namespace SheetQuery

open Text (trim trimEndWith isBlank IsTrimmed)

/-! ## Addresses -/

/-- Is a text a word, with any of its letters in capitals? -/
def IsCased (word cs : List Char) : Prop := List.Forall₂ (fun c d => d = c ∨ d = c.toUpper) word cs

/-- Does the address of a service begin with the scheme of HTTP? What follows is for the transport to
make sense of. -/
def Endpoint.IsHttp (endpoint : Endpoint) : Prop :=
  ∃ scheme rest, endpoint.baseUrl.toList = scheme ++ "://".toList ++ rest ∧
    (IsCased "http".toList scheme ∨ IsCased "https".toList scheme)

namespace Client

/-- The letters of the scheme. -/
def schemeLetters : List Char := "httpsHTTPS".toList

theorem mem_schemeLetters_of_isCased {word cs : List Char}
    (hword : ∀ c ∈ word, c ∈ schemeLetters ∧ c.toUpper ∈ schemeLetters) (h : IsCased word cs) :
    ∀ c ∈ cs, c ∈ schemeLetters := by
  induction h with
  | nil => nofun
  | cons hletter _ ih =>
    obtain ⟨hfirst, hrest⟩ := List.forall_mem_cons.mp hword
    refine List.forall_mem_cons.mpr ⟨?_, ih hrest⟩
    rcases hletter with rfl | rfl
    · exact hfirst.1
    · exact hfirst.2

theorem beforeLast_append {c : Char} {pre : List Char} (h : c ∉ pre) (cs : List Char) :
    ∃ more, beforeLast c (pre ++ cs) = pre ++ more := by
  have hpre : pre.reverse.dropWhile (fun d => decide (d ≠ c)) = [] := by
    rw [List.dropWhile_eq_nil_iff]
    intro d hd
    have hne : d ≠ c := fun heq => h (heq ▸ List.mem_reverse.mp hd)
    simpa using hne
  rw [beforeLast, List.reverse_append, List.dropWhile_append]
  cases hrest : cs.reverse.dropWhile (fun d => decide (d ≠ c)) with
  | nil => exact ⟨cs, by rw [List.isEmpty_nil, if_pos rfl, hpre]⟩
  | cons d before => exact ⟨before.reverse, by simp⟩

theorem hasScheme_append {scheme : List Char} (hne : scheme ≠ [])
    (hletters : ∀ c ∈ scheme, c ∈ schemeLetters) (cs : List Char) :
    hasScheme (scheme ++ ':' :: cs) = true := by
  have hplain : ∀ c ∈ scheme, (c != '/' && c != ':') = true := fun c hc =>
    (by decide : ∀ c ∈ schemeLetters, (c != '/' && c != ':') = true) c (hletters c hc)
  have hsharp : '#' ∉ scheme ++ [':'] := by
    rw [List.mem_append, not_or]
    exact ⟨fun hc => absurd (hletters _ hc) (by decide), by decide⟩
  obtain ⟨more, hmore⟩ := beforeLast_append hsharp cs
  rw [List.append_assoc, List.append_assoc, List.singleton_append, List.singleton_append] at hmore
  rw [hasScheme, hmore, List.span_eq_takeWhile_dropWhile, List.takeWhile_append_of_pos hplain,
    List.dropWhile_append_of_pos hplain]
  obtain ⟨c, rest, rfl⟩ := List.exists_cons_of_ne_nil hne
  rfl

theorem exists_scheme {endpoint : Endpoint} (h : endpoint.IsHttp) : ∃ c letters rest,
    endpoint.baseUrl.toList = (c :: letters) ++ "://".toList ++ rest ∧
      ∀ d ∈ c :: letters, d ∈ schemeLetters := by
  obtain ⟨scheme, rest, hbase, hscheme⟩ := h
  have hletters : ∀ c ∈ scheme, c ∈ schemeLetters := by
    rcases hscheme with hscheme | hscheme
    · exact mem_schemeLetters_of_isCased (by decide) hscheme
    · exact mem_schemeLetters_of_isCased (by decide) hscheme
  obtain ⟨c, letters, rfl⟩ : ∃ c letters, scheme = c :: letters := by
    rcases hscheme with hscheme | hscheme <;> cases hscheme <;> exact ⟨_, _, rfl⟩
  exact ⟨c, letters, rest, hbase, hletters⟩

section

variable {c : Char} {letters : List Char}

/-- Neither slashes nor blanks are trimmed from a scheme and its colon. -/
theorem isTrimmed_scheme {p : Char → Bool} (hfirst : c ∈ schemeLetters)
    (hp : ∀ c ∈ ':' :: schemeLetters, p c = false) : IsTrimmed p (c :: letters ++ [':']) := by
  refine ⟨fun d hd => ?_, fun d hd => ?_⟩
  · rw [← Option.some.inj hd]
    exact hp c (List.mem_cons_of_mem _ hfirst)
  · rw [List.getLast?_concat] at hd
    rw [← Option.some.inj hd]
    exact hp ':' List.mem_cons_self

theorem unmarked_of_mem (hfirst : c ∈ schemeLetters) (cs : List Char) :
    unmarked (c :: cs) = c :: cs := by
  have hne : c ≠ 'U' := fun heq => absurd (heq ▸ hfirst) (by decide)
  rw [unmarked, if_neg]
  simp [List.isPrefixOf, hne.symm]

/-- An address of HTTP makes an address of every path. -/
theorem exists_url? {endpoint : Endpoint} (h : endpoint.IsHttp) (path : String) :
    ∃ url, url? endpoint path = .ok url := by
  obtain ⟨c, letters, rest, hbase, hletters⟩ := exists_scheme h
  have hfirst := hletters c List.mem_cons_self
  have hslashes : trimEndWith (· == '/') endpoint.baseUrl.toList =
      c :: letters ++ [':'] ++ trimEndWith (· == '/') ("//".toList ++ rest) := by
    rw [hbase, ← Text.trimEndWith_append_left (isTrimmed_scheme hfirst (by decide)).2]
    simp
  have hblanks : ∀ cs, trim (c :: letters ++ [':'] ++ cs) =
      c :: letters ++ [':'] ++ trimEndWith isBlank cs :=
    Text.trimWith_around (isTrimmed_scheme hfirst (by decide)) (by simp) []
  rw [url?, hslashes, List.append_assoc, hblanks, List.append_assoc, List.cons_append,
    unmarked_of_mem hfirst, List.singleton_append, ← List.cons_append,
    if_pos (hasScheme_append (by simp) hletters _)]
  exact ⟨_, rfl⟩

end

end Client

/-! ## Documents -/

/-- The document that an answer brings, if it brings one. -/
def HttpAnswer.document? : HttpAnswer → Option Cell
  | .body octets => (Text.Encoding.decode? octets).bind Json.read?
  | .status _ => none
  | .unreachable => none

/-- Is a fault one of the failures that callers of the service expect? -/
def Service.Fault.IsFailure : Service.Fault → Prop
  | .unavailable _ => True
  | .unusable _ => True
  | _ => False

/-- Is a cell a number or a truth value, but not zero? -/
def Cell.IsNonzero (cell : Cell) : Prop :=
  cell = .float .nan ∨ ∃ amount, cell.amount? = some amount ∧ amount ≠ .units 0

namespace Client

/-- Does a document give a number or a truth value for its models? -/
def Counts (document : Cell) : Prop :=
  ∃ entries listed, document = .record entries ∧ Entries.get? entries "models" = some listed ∧
    listed.IsNonzero

/-- Does a document give a name to one of its models? -/
def Names (document name : Cell) : Prop :=
  ∃ entries items fields, document = .record entries ∧
    Entries.get? entries "models" = some (.list items) ∧ .record fields ∈ items ∧
    Entries.get? fields "name" = some name ∧ isVoid name = false

/-- Is a text what a document gives for a generation? -/
def Replies (document : Cell) (reply : String) : Prop :=
  ∃ entries, document = .record entries ∧ Entries.get? entries "response" = some (.text reply)

theorem readAnswer_of_some {answer : HttpAnswer} {document : Cell}
    (h : answer.document? = some document) : readAnswer answer = .ok document := by
  cases answer with
  | body octets =>
    have hread : (Text.Encoding.decode? octets).bind Json.read? = some document := h
    rw [readAnswer, hread]
  | status code => cases h
  | unreachable => cases h

theorem readAnswer_of_none {answer : HttpAnswer} (h : answer.document? = none) :
    ∃ fault : Service.Fault, readAnswer answer = .error fault ∧ fault.IsFailure := by
  cases answer with
  | body octets =>
    have hread : (Text.Encoding.decode? octets).bind Json.read? = none := h
    exact ⟨.unusable "LLM returned a non-JSON payload", by rw [readAnswer, hread], trivial⟩
  | status code => exact ⟨_, rfl, trivial⟩
  | unreachable => exact ⟨_, rfl, trivial⟩

/-! ## The list of models -/

theorem isNonzero_iff {cell : Cell} {amount : Cell.Amount} (h : cell.amount? = some amount) :
    cell.IsNonzero ↔ amount ≠ .units 0 := by
  constructor
  · rintro (rfl | ⟨other, hother, hne⟩)
    · cases h
    · rw [h] at hother
      rwa [Option.some.inj hother]
  · exact fun hne => .inr ⟨amount, h, hne⟩

theorem not_isNonzero {cell : Cell} (h : cell.amount? = none) (hnan : cell ≠ .float .nan) :
    ¬ cell.IsNonzero := by
  rintro (heq | ⟨amount, hamount, -⟩)
  · exact hnan heq
  · rw [h] at hamount
    cases hamount

/-- What has an amount is void if it is zero. -/
theorem isVoid_eq_false_iff {cell : Cell} {amount : Cell.Amount} (h : cell.amount? = some amount) :
    isVoid cell = false ↔ amount ≠ .units 0 := by
  -- one is a positive number of units, so an amount is zero only if its number is
  have hunit : (Number.unitsPerOne : Int) ≠ 0 := (Int.natCast_pos.mpr Number.unitsPerOne_pos).ne'
  cases cell with
  | bool value =>
    rw [← Option.some.inj h]
    cases value with
    | true => exact iff_of_true rfl fun heq => hunit (Cell.Amount.units.inj heq)
    | false => exact iff_of_false nofun fun hne => hne rfl
  | int n =>
    rw [← Option.some.inj h, isVoid, beq_eq_false_iff_ne, ne_eq, ne_eq, Cell.Amount.units.injEq,
      Int.mul_eq_zero, or_iff_left hunit]
  | float x =>
    cases x with
    | finite x =>
      have hsigned : x.signed = 0 ↔ x.units = 0 := by
        unfold Number.signed
        split <;> omega
      rw [← Option.some.inj h, isVoid, beq_eq_false_iff_ne, ne_eq, ne_eq, Cell.Amount.units.injEq,
        hsigned]
    | infinite negative =>
      rw [← Option.some.inj h]
      exact iff_of_true rfl nofun
    | nan => cases h
  | null => cases h
  | text s => cases h
  | list items => cases h
  | record entries => cases h

theorem modelNames_of_isNonzero {listed : Cell} (h : listed.IsNonzero) :
    ∃ kind, modelNames listed = .error (.notIterable kind) := by
  rcases h with rfl | ⟨amount, hamount, hne⟩
  · exact ⟨_, rfl⟩
  · have hvoid := (isVoid_eq_false_iff hamount).mpr hne
    cases listed with
    | bool value => exact ⟨"bool", by simp [modelNames, hvoid]⟩
    | int n => exact ⟨"int", by simp [modelNames, hvoid]⟩
    | float x => exact ⟨"float", by simp [modelNames, hvoid]⟩
    | null => cases hamount
    | text s => cases hamount
    | list items => cases hamount
    | record entries => cases hamount

/-- A model that goes by a name. -/
theorem modelName?_eq_some_iff {item name : Cell} : modelName? item = some name ↔
    ∃ fields, item = .record fields ∧ Entries.get? fields "name" = some name ∧
      isVoid name = false := by
  cases item with
  | record fields =>
    cases hname : Entries.get? fields "name" with
    | none => simp [modelName?, hname]
    | some found =>
      cases hvoid : isVoid found with
      | true =>
        simp only [modelName?, hname, hvoid, if_true, Cell.record.injEq, exists_eq_left',
          Option.some.injEq]
        refine iff_of_false (Option.some_ne_none name).symm ?_
        rintro ⟨rfl, hfalse⟩
        rw [hvoid] at hfalse
        cases hfalse
      | false =>
        simp only [modelName?, hname, hvoid, Bool.false_eq_true, if_false, Cell.record.injEq,
          exists_eq_left', Option.some.injEq]
        exact ⟨fun heq => ⟨heq, heq ▸ hvoid⟩, And.left⟩
  | null | bool | int | float | text | list => simp [modelName?]

/-- What is neither a number nor a truth value, unless it is zero, can be gone through: the models are
the items of a list that have names. -/
theorem modelNames_of_not_isNonzero {listed : Cell} (h : ¬ listed.IsNonzero) :
    ∃ models, modelNames listed = .ok models ∧ ∀ name, name ∈ models ↔
      ∃ items fields, listed = .list items ∧ .record fields ∈ items ∧
        Entries.get? fields "name" = some name ∧ isVoid name = false := by
  -- what is no list has no models to name: it is enough that it can be gone through
  have hnone : (∀ items, listed ≠ .list items) → modelNames listed = .ok [] →
      ∃ models, modelNames listed = .ok models ∧ ∀ name, name ∈ models ↔
        ∃ items fields, listed = .list items ∧ .record fields ∈ items ∧
          Entries.get? fields "name" = some name ∧ isVoid name = false := by
    intro hlist hmodels
    refine ⟨[], hmodels, fun name => iff_of_false nofun ?_⟩
    rintro ⟨items, -, heq, -⟩
    exact hlist items heq
  -- a number that is left is zero, and zero is taken for no list at all
  have hvoid : ∀ amount, listed.amount? = some amount → isVoid listed = true := by
    intro amount hamount
    rw [← Bool.not_eq_false, isVoid_eq_false_iff hamount, ← isNonzero_iff hamount]
    exact h
  cases listed with
  | list items =>
    refine ⟨items.filterMap modelName?, ?_, fun name => ?_⟩
    · cases items <;> rfl
    · simp only [List.mem_filterMap, modelName?_eq_some_iff, Cell.list.injEq]
      constructor
      · rintro ⟨_, hmem, fields, rfl, hname⟩
        exact ⟨items, fields, rfl, hmem, hname⟩
      · rintro ⟨_, fields, rfl, hmem, hname⟩
        exact ⟨_, hmem, fields, rfl, hname⟩
  | null => exact hnone nofun rfl
  | bool value => exact hnone nofun (by simp [modelNames, hvoid _ rfl])
  | int n => exact hnone nofun (by simp [modelNames, hvoid _ rfl])
  | float x =>
    cases x with
    | finite x => exact hnone nofun (by simp [modelNames, hvoid _ rfl])
    | infinite negative => exact hnone nofun (by simp [modelNames, hvoid _ rfl])
    | nan => exact absurd (.inl rfl) h
  | text s => exact hnone nofun (by simp [modelNames])
  | record entries => exact hnone nofun (by simp [modelNames])

/-- What a document gives for its models. -/
def listed? : Cell → Option Cell
  | .record entries => Entries.get? entries "models"
  | _ => none

theorem modelsOf_eq (document : Cell) :
    modelsOf document = (listed? document).elim (.ok []) modelNames := by
  cases document with
  | record entries =>
    rw [modelsOf, listed?]
    cases Entries.get? entries "models" <;> rfl
  | _ => rfl

theorem counts_iff {document : Cell} :
    Counts document ↔ ∃ listed, listed? document = some listed ∧ listed.IsNonzero := by
  cases document with
  | record entries => simp [Counts, listed?]
  | _ => simp [Counts, listed?]

theorem names_iff {document name : Cell} :
    Names document name ↔ ∃ listed, listed? document = some listed ∧
      ∃ items fields, listed = .list items ∧ .record fields ∈ items ∧
        Entries.get? fields "name" = some name ∧ isVoid name = false := by
  cases document with
  | record entries => simp [Names, listed?]
  | _ => simp [Names, listed?]

/-- The models of a document are those that it names, unless it gives a number or a truth value for
them. -/
theorem modelsOf_spec (document : Cell) :
    (Counts document → ∃ kind, modelsOf document = .error (.notIterable kind)) ∧
      (¬ Counts document → ∃ models, modelsOf document = .ok models ∧
        ∀ name, name ∈ models ↔ Names document name) := by
  simp only [modelsOf_eq, counts_iff, names_iff]
  cases listed? document with
  | none => simp
  | some listed =>
    simp only [Option.some.injEq, exists_eq_left', Option.elim_some]
    exact ⟨modelNames_of_isNonzero, modelNames_of_not_isNonzero⟩

theorem lists_eq_true_iff {models : List Cell} {model : String} :
    lists models model = true ↔ .text model ∈ models := by
  rw [lists, List.any_eq_true]
  constructor
  · rintro ⟨listed, hmem, hname⟩
    cases listed with
    | text name => rwa [← beq_iff_eq.mp hname]
    | _ => cases hname
  · exact fun hmem => ⟨_, hmem, beq_self_eq_true model⟩

/-! ## What the calls make of an answer -/

/-- Is a probe the report of an answer: whether it brings a document, and which models that names? -/
structure Reports (found : Service.Probe) (answer : HttpAnswer) : Prop where
  ok_iff : found.ok = true ↔ ∃ document, answer.document? = some document
  error_iff : found.error = none ↔ ∃ document, answer.document? = some document
  mem_models_iff : ∀ name, name ∈ found.models ↔ ∃ document ∈ answer.document?, Names document name

theorem readProbe_of_isFailure {fault : Service.Fault} (h : fault.IsFailure) :
    readProbe (.error fault) = .ok ⟨false, [], some fault.message⟩ := by
  cases fault with
  | unavailable message => rfl
  | unusable message => rfl
  | overdue => exact h.elim
  | noScheme url => exact h.elim
  | notIterable kind => exact h.elim

theorem readProbe_spec (answer : HttpAnswer) :
    ((∃ document ∈ answer.document?, Counts document) →
        ∃ kind, readProbe (readAnswer answer) = .error (.notIterable kind)) ∧
      ((¬ ∃ document ∈ answer.document?, Counts document) →
        ∃ found, readProbe (readAnswer answer) = .ok found ∧ Reports found answer) := by
  cases hdocument : answer.document? with
  | none =>
    obtain ⟨fault, hfault, hfailure⟩ := readAnswer_of_none hdocument
    rw [hfault, readProbe_of_isFailure hfailure]
    refine ⟨by simp, fun _ => ⟨_, rfl, ?_, ?_, ?_⟩⟩ <;> simp [hdocument]
  | some document =>
    rw [readAnswer_of_some hdocument]
    obtain ⟨hcounts, hmodels⟩ := modelsOf_spec document
    simp only [Option.mem_def, Option.some.injEq, exists_eq_left']
    constructor
    · intro h
      obtain ⟨kind, hkind⟩ := hcounts h
      exact ⟨kind, by rw [readProbe, hkind]; rfl⟩
    · intro h
      obtain ⟨models, hok, hmem⟩ := hmodels h
      refine ⟨⟨true, models, none⟩, by rw [readProbe, hok]; rfl, ?_, ?_, ?_⟩
      · simp [hdocument]
      · simp [hdocument]
      · simpa [hdocument] using hmem

theorem generatedText_eq_ok_iff {document : Cell} {reply : String} :
    generatedText document = .ok reply ↔ Replies document reply := by
  unfold generatedText
  split
  · next entries =>
    split
    · next found hfound => simp [Replies, hfound]
    · next hfound =>
      refine iff_of_false (by simp) ?_
      rintro ⟨entries', heq, hreply⟩
      cases heq
      exact hfound reply hreply
  · next hrecord =>
    refine iff_of_false (by simp) ?_
    rintro ⟨entries, heq, -⟩
    exact hrecord entries heq

theorem isFailure_of_generatedText {document : Cell} {fault : Service.Fault}
    (h : generatedText document = .error fault) : fault.IsFailure := by
  unfold generatedText at h
  split at h
  · split at h
    · cases h
    · cases h
      trivial
  · cases h
    trivial

theorem readReply_spec (answer : HttpAnswer) :
    (∀ reply, (readAnswer answer).bind generatedText = .ok reply ↔
        ∃ document ∈ answer.document?, Replies document reply) ∧
      ∀ fault, (readAnswer answer).bind generatedText = .error fault → fault.IsFailure := by
  cases hdocument : answer.document? with
  | none =>
    obtain ⟨fault, hfault, hfailure⟩ := readAnswer_of_none hdocument
    rw [hfault]
    refine ⟨fun reply => iff_of_false nofun (by simp), fun other hother => ?_⟩
    cases hother
    exact hfailure
  | some document =>
    rw [readAnswer_of_some hdocument]
    simp only [Option.mem_def, Option.some.injEq, exists_eq_left']
    exact ⟨fun reply => generatedText_eq_ok_iff, fun fault => isFailure_of_generatedText⟩

theorem readHealth_spec (models : List Cell) (hasModel : Bool) {outcome : Except Service.Fault String}
    (h : ∀ fault, outcome = .error fault → fault.IsFailure) :
    ∃ report, readHealth models hasModel outcome = .ok report ∧
      (report.ok = true ↔ hasModel = true ∧ ∃ reply, outcome = .ok reply ∧ reply ≠ "") := by
  cases outcome with
  | ok reply => exact ⟨_, rfl, by simp⟩
  | error fault =>
    have hfailure := h fault rfl
    cases fault with
    | unavailable message => exact ⟨_, rfl, by simp⟩
    | unusable message => exact ⟨_, rfl, by simp⟩
    | overdue => exact hfailure.elim
    | noScheme url => exact hfailure.elim
    | notIterable kind => exact hfailure.elim

/-! ## The calls -/

section

variable {σ : Type} {transport : Transport σ} {endpoint : Endpoint} {url : String} {s : σ}

theorem probe_eq (h : url? endpoint "/api/tags" = .ok url) :
    probe transport endpoint s =
      (readProbe (readAnswer (transport.send ⟨url, endpoint.timeout, none⟩ s).1),
        (transport.send ⟨url, endpoint.timeout, none⟩ s).2) := by
  unfold probe exchange
  rw [h]

theorem generate_eq (h : url? endpoint "/api/generate" = .ok url) (system prompt : String) :
    let request : HttpRequest :=
      ⟨url, endpoint.timeout, some (generationPayload endpoint system prompt)⟩
    generate transport endpoint system prompt s =
      ((readAnswer (transport.send request s).1).bind generatedText,
        (transport.send request s).2) := by
  unfold generate exchange
  rw [h]

/-- A fault of the probe is one of the health check. -/
theorem health_of_fault {fault : Service.Fault} {s' : σ}
    (hprobe : probe transport endpoint s = (.error fault, s')) :
    (health transport endpoint s).1 = .error fault := by
  unfold health
  rw [hprobe]

/-- After a probe that reports an answer, a health check reports. It is good if the answer names the
model and the generation brings a text that is not empty. -/
theorem health_of_reports {found : Service.Probe} {answer : HttpAnswer} {s' : σ}
    (hprobe : probe transport endpoint s = (.ok found, s')) (hreports : Reports found answer)
    (hfailure : ∀ fault, (generate transport endpoint "" healthPrompt s').1 = .error fault →
      fault.IsFailure) :
    ∃ report, (health transport endpoint s).1 = .ok report ∧
      (report.ok = true ↔
        (∃ document ∈ answer.document?, Names document (.text endpoint.model)) ∧
          ∃ reply, (generate transport endpoint "" healthPrompt s').1 = .ok reply ∧ reply ≠ "") := by
  have hmodel : lists found.models endpoint.model = true ↔
      ∃ document ∈ answer.document?, Names document (.text endpoint.model) :=
    lists_eq_true_iff.trans (hreports.mem_models_iff _)
  unfold health
  rw [hprobe]
  by_cases hok : found.ok = true
  · obtain ⟨report, hreport, hgood⟩ :=
      readHealth_spec found.models (lists found.models endpoint.model) hfailure
    refine ⟨report, ?_, by rw [hgood, hmodel]⟩
    simp only [hok, if_true]
    exact hreport
  · -- a probe that is not ok brought no document, so that there is none to name the model
    have hnone : ∀ document, document ∉ answer.document? := fun document hdocument =>
      hok (hreports.ok_iff.mpr ⟨document, hdocument⟩)
    simp only [hok]
    refine ⟨_, rfl, iff_of_false Bool.false_ne_true ?_⟩
    rintro ⟨⟨document, hdocument, -⟩, -⟩
    exact hnone document hdocument

end

/-- A service at the usual address. -/
def usualEndpoint : Endpoint :=
  ⟨Endpoint.defaultBaseUrl, Endpoint.defaultModel, Endpoint.defaultTimeout⟩

/-- A service that answers every request with the same text, and counts the requests. -/
def parrot (text : String) : Transport Nat where
  send _ count := (.body text.toUTF8.toList, count + 1)

/-- A document that tells how many models there are. -/
def countingText : String := "\x7b\"models\": 5\x7d"

/-- A document that tells which models there are, and what one of them says. -/
def namingText : String :=
  "\x7b\"models\": [\x7b\"name\": \"qwen2.5:0.5b-instruct\"\x7d], \"response\": \"ok\"\x7d"

end Client

end SheetQuery
