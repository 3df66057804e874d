import SheetQuery.Assistant.Client
import SheetQuery.Issue
import SheetQuery.Numeric.Numeral
import SheetQuery.Settings.VariableFile

/-!
# Settings

The settings of a running service, read from the environment and from a file of variables. The
environment wins, and the case of names does not matter. All settings are checked before any is
used: a service that is switched on needs an address and a model, and its calls, the cache and the
samples must be bounded.
-/

namespace SheetQuery

/-- The settings of a running service. -/
structure Settings where
  token : String
  datasetPath : Option String
  serviceEnabled : Bool
  endpoint : Endpoint
  cacheEntries : Nat
  samples : Nat
  previewRows : Int

namespace Settings

/-! ## Values in text -/

/-- Is every character an ASCII one other than the low line? -/
def isPlain (cs : List Char) : Bool := cs.all fun c => c.toNat < 0x80 && c != '_'

/-- A number without low lines, in ASCII. -/
def plainNumber? (cs : List Char) : Option Binary64 :=
  if isPlain cs && !cs.any Text.isBlank then Numeral.readBinary64? cs else none

/-- Are there two low lines in a row? -/
def hasDoubleLine : List Char → Bool
  | '_' :: '_' :: _ => true
  | _ :: cs => hasDoubleLine cs
  | [] => false

/-- A text without its low lines, if each stands by itself inside the text. -/
def withoutLines? (cs : List Char) : Option (List Char) :=
  if cs.head? == some '_' || cs.getLast? == some '_' || hasDoubleLine cs then none
  else some (cs.filter (· ≠ '_'))

/-- The number that a text reads as. -/
def number? (cs : List Char) : Option Binary64 :=
  (plainNumber? (Text.trimWith Text.isWhiteSpace cs)).or ((withoutLines? cs).bind plainNumber?)

/-- A text without leading zeros, though not without its last digit before a point; `before` is the
character dropped last. -/
def dropZeros (before : Char) : List Char → Option (List Char)
  | [] => some [before]
  | c :: cs =>
    if c == '0' || c == '_' then dropZeros c cs
    else if Text.isAsciiDigit c then some (c :: cs)
    else if c == '.' then some (before :: c :: cs)
    else none

/-- The digits of an integer without leading zeros. -/
def significant? : List Char → Option (List Char)
  | [] => none
  | c :: cs =>
    if c == '0' then dropZeros c cs else if Text.isAsciiDigit c then some (c :: cs) else none

/-- A text without a point that only zeros follow. -/
def dropZeroFraction (cs : List Char) : List Char :=
  match cs.span (· ≠ '.') with
  | (whole, _ :: fraction) => if fraction.all (· == '0') then whole else cs
  | _ => cs

/-- The digits that an integer is written with, and its sign. -/
def integerDigits? (cs : List Char) : Option (Bool × List Char) :=
  let (negative, body) := Numeral.splitSign (Text.trimWith Text.isWhiteSpace cs)
  ((significant? body).bind fun digits => withoutLines? (dropZeroFraction digits)).bind
    fun digits => if digits.all Text.isAsciiDigit then some (negative, digits) else none

/-- Checks an integer. -/
def checkInteger (s : String) : Checked Int :=
  match integerDigits? s.toList with
  | none => .fail .unreadableInteger (.text s)
  | some (negative, digits) =>
    if Numeral.maxIntegerDigits < digits.length then .fail .tooManyDigits (.text s)
    else
      match Numeral.digits? digits with
      | some values =>
        let n : Int := Numeral.digitsValue values
        .ok (if negative then -n else n)
      | none => .fail .unreadableInteger (.text s)

/-- Checks an integer that must be positive. -/
def checkPositive (s : String) : Checked Nat :=
  match checkInteger s with
  | .ok n =>
    if 0 < n then .ok n.toNat else .fail (.refused "must be a positive integer") (.text s)
  | .error issues => .error issues

/-- Checks the seconds that a call may take. -/
def checkTimeout (s : String) : Checked Binary64 :=
  match number? s.toList with
  | none => .fail .unreadableNumber (.text s)
  | some seconds =>
    if Client.Deadline.ofSeconds seconds = .past then
      .fail (.refused "LLM_TIMEOUT_S must be > 0") (.text s)
    else .ok seconds

def yesWords : List String := ["1", "on", "t", "true", "y", "yes"]

def noWords : List String := ["0", "off", "f", "false", "n", "no"]

/-- A text with its ASCII letters in lower case. -/
def asciiLower (s : String) : String :=
  String.ofList (s.toList.map fun c => if c.toNat < 0x80 then Text.lowerChar c else c)

/-- Checks a truth value. -/
def checkTruth (s : String) : Checked Bool :=
  if yesWords.contains (asciiLower s) then .ok true
  else if noWords.contains (asciiLower s) then .ok false
  else .fail .unreadableTruth (.text s)

/-! ## Variables -/

/-- Where settings come from: the variables of the environment, and the bindings of a file, the
latest first. -/
structure Origins where
  environment : List (String × String)
  file : List VariableFile.Binding

/-- The origins that an environment and the text of a file of variables make. -/
def Origins.of (environment : List (String × String)) (file : Option String) : Origins :=
  ⟨environment, match file with
    | some text => VariableFile.expanded .file environment text
    | none => []⟩

/-- The value of a variable, whatever the case of its name. -/
def Origins.get? (origins : Origins) (name : String) : Option String :=
  let same (other : String) : Bool := Text.lowerText other == Text.lowerText name
  ((origins.environment.reverse.find? fun binding => same binding.1).map Prod.snd).or
    ((origins.file.find? fun binding => same binding.1).bind Prod.snd)

/-- The check of a variable that has a default. -/
def optional {α : Type} (origins : Origins) (name : String) (default : α)
    (check : String → Checked α) : Checked α :=
  match origins.get? name with
  | some s => (check s).under (.name name)
  | none => .ok default

/-- The check of a variable that must be there. -/
def required (origins : Origins) (name : String) : Checked String :=
  match origins.get? name with
  | some s => .ok s
  | none => (Checked.fail .missing .null).under (.name name)

/-! ## All settings -/

/-- Is there anything but blanks in a text? -/
def isGiven (s : String) : Bool := !(Text.trim s.toList).isEmpty

/-- Has a service that is switched on an address and a model? -/
def isComplete (settings : Settings) : Bool :=
  !settings.serviceEnabled
    || (isGiven settings.endpoint.baseUrl && isGiven settings.endpoint.model)

/-- The settings whose values are each in order, and how they are read. -/
def checkEach (origins : Origins) : Checked Settings :=
  let token := required origins "TELEGRAM_BOT_TOKEN"
  let path := optional origins "DATASET_PATH" none fun s => .ok (some s)
  let enabled := optional origins "LLM_ENABLED" true checkTruth
  let baseUrl := optional origins "LLM_BASE_URL" Endpoint.defaultBaseUrl .ok
  let model := optional origins "LLM_MODEL" Endpoint.defaultModel .ok
  let timeout := optional origins "LLM_TIMEOUT_S" Endpoint.defaultTimeout checkTimeout
  let cacheEntries := optional origins "CACHE_MAX_ENTRIES" 256 checkPositive
  let samples := optional origins "SCHEMA_MAX_SAMPLES" 4 checkPositive
  let previewRows := optional origins "RESULT_PREVIEW_ROWS" 5 checkInteger
  match token.both (path.both (enabled.both (baseUrl.both (model.both (timeout.both
      (cacheEntries.both (samples.both previewRows))))))) with
  | .ok (token, path, enabled, baseUrl, model, timeout, cacheEntries, samples, previewRows) =>
    .ok ⟨token, path, enabled, ⟨baseUrl, model, timeout⟩, cacheEntries, samples, previewRows⟩
  | .error issues => .error issues

/-- Checks all settings. -/
def check (origins : Origins) : Checked Settings :=
  match checkEach origins with
  | .ok settings =>
    if settings.isComplete then .ok settings
    else
      .fail (.refused "LLM_BASE_URL and LLM_MODEL are required when LLM_ENABLED=true") .null
  | .error issues => .error issues

end Settings

end SheetQuery
