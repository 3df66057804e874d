import SheetQuery.Query.Sentence
import SheetQuery.Schema.Basic

/-!
# Hints

Rules of thumb for queries that follow no form: a cue word in the text suggests a column, and the
text around it a test. Two lists of hints exist for each entity: the narrow `previewHints`, for an
instant answer while a better one is on its way, and the wider `lastHints`, for when nothing else
understood the query. A hint counts only if the sheet has its column; the first that reads a test
wins.
-/

namespace SheetQuery.Query

/-- A rule of thumb: its column, when it applies to a lower-cased text, and what it reads from a
text. -/
structure Hint where
  column : String
  isCued : List Char → Bool
  read : List Char → Option Test

/-! ## Reading phrases and numbers -/

def quoteMarks : List Char := "\"'`".toList

def isPhraseStop (c : Char) : Bool := c == '.' || c == ',' || c == ';'

/-- Recognises the end of a phrase: a punctuation mark, or `and` or `or` between spaces. -/
def phraseEnd : Text.Recogniser := fun _ cs =>
  if cs.head?.any isPhraseStop then some cs.tail
  else Text.afterAnyKeyword? [" and ".toList, " or ".toList] cs

/-- The start of a text, up to the end of its first phrase. -/
def firstPhrase (cs : List Char) : List Char :=
  match Text.firstMatch? phraseEnd none cs with
  | some (phrase, _) => phrase
  | none => cs

/-- The phrase after the first place where `verb` is recognised, without outer blanks and quotes. -/
def phraseAfter? (verb : Text.Recogniser) (text : List Char) : Option String :=
  match Text.firstMatch? verb none text with
  | none => none
  | some (_, rest) =>
    match Text.trim (Text.trimWith quoteMarks.contains
        (Text.trim (firstPhrase (Text.trim rest)))) with
    | [] => none
    | phrase => some (String.ofList phrase)

def includeVerb : Text.Recogniser :=
  afterWholeWord? ["includes".toList, "include".toList, "contains".toList, "contain".toList]

def equalsVerb : Text.Recogniser := fun before cs =>
  if cs.head? == some '=' then some cs.tail
  else afterWholeWord? ["equals".toList, "is".toList] before cs

def groupWord : Text.Recogniser := afterWholeWord? ["group".toList]

def isFound (verb : Text.Recogniser) (cs : List Char) : Bool :=
  (Text.firstMatch? verb none cs).isSome

/-- The comparator that a text seems to speak of, signs before words. -/
def likelyComparator? (text : List Char) : Option Comparator :=
  let lowered := Text.lower text
  let has (piece : String) : Bool := Text.occursIn piece.toList lowered
  if has ">=" then some .ge
  else if has "<=" then some .le
  else if has "!=" then some .ne
  else if has ">" then some .gt
  else if has "<" then some .lt
  else if has "less than" then some .lt
  else if has "greater than" || has "more than" then some .gt
  else if isFound equalsVerb lowered then some .eq
  else none

/-- The task identifier at a place of a text: `T` and digits, as a word of its own. -/
def taskId? (before : Option Char) (cs : List Char) : Option (List Char) :=
  if Text.isBoundary before cs.head? then
    match Text.afterKeyword? ['T'] cs with
    | none => none
    | some rest =>
      match takeDigits? rest with
      | some (digits, after) =>
        if Text.isBoundary digits.getLast? after.head? then some (cs.take (digits.length + 1))
        else none
      | none => none
  else none

/-- The first task identifier of a text, where `before` stands in front of it. -/
def firstTaskId? (before : Option Char) : List Char → Option (List Char)
  | [] => none
  | c :: cs => (taskId? before (c :: cs)).or (firstTaskId? (some c) cs)

/-! ## Tests -/

/-- A comparison with the first number of the text. -/
def comparedNumber? (text : List Char) : Option Test :=
  match likelyComparator? text, firstNumeral? text with
  | some comparator, some operand => some (.compare comparator operand)
  | _, _ => none

/-- Equality with the phrase after a verb of equality. -/
def equalPhrase? (text : List Char) : Option Test :=
  (phraseAfter? equalsVerb text).map fun phrase => .compare .eq (.text phrase)

/-- Equality with the phrase after a verb of equality or, failing that, after the word `group`. -/
def groupPhrase? (text : List Char) : Option Test :=
  (equalPhrase? text).or
    ((phraseAfter? groupWord text).map fun phrase => .compare .eq (.text phrase))

/-- A search for the phrase after a verb of inclusion. -/
def includedPhrase? (text : List Char) : Option Test :=
  (phraseAfter? includeVerb text).map fun phrase => .search .includes (.text phrase)

/-- A search for the first number of the text. -/
def includedNumber? (text : List Char) : Option Test :=
  (firstNumeral? text).map (Test.search .includes)

/-- A search for the first task identifier of the text. -/
def requestedTask? (text : List Char) : Option Test :=
  (firstTaskId? none text).map fun task => .search .contains (.text (String.ofList task))

/-- More than the first number of the text. -/
def exceedsNumber? (text : List Char) : Option Test :=
  (firstNumeral? text).map (Test.compare .gt)

/-! ## Cues -/

/-- The cue that a word occurs anywhere, even inside another one. -/
def mentions (word : String) (lowered : List Char) : Bool := Text.occursIn word.toList lowered

/-- The cue that skills and a verb of inclusion are mentioned. -/
def mentionsIncludedSkill (lowered : List Char) : Bool :=
  mentions "skill" lowered && isFound includeVerb lowered

/-- The text after one of `keywords`, in these very letters, and at least one blank. -/
def afterExactWord? (keywords : List String) (cs : List Char) : Option (List Char) :=
  keywords.findSome? fun keyword =>
    if keyword.toList.isPrefixOf cs then Text.afterBlanks? (cs.drop keyword.length) else none

/-- The cue that the word for skills is directly followed by a verb of inclusion and a blank. -/
def asksForSkill (lowered : List Char) : Bool :=
  isFound (fun _ cs => (afterExactWord? ["skills", "skill"] cs).bind
    (afterExactWord? ["includes", "include", "contains", "contain"])) lowered

/-! ## Hints of the entities -/

/-- Hints for an instant answer. -/
def previewHints : Entity → List Hint
  | .workers => [
    ⟨"Skills", mentionsIncludedSkill, includedPhrase?⟩,
    ⟨"WorkerGroup", mentions "group", groupPhrase?⟩,
    ⟨"AvailableSlots", mentions "slot", includedNumber?⟩]
  | .clients => [
    ⟨"PriorityLevel", mentions "priority", comparedNumber?⟩,
    ⟨"GroupTag", mentions "group", equalPhrase?⟩,
    ⟨"RequestedTaskIDs", mentions "requested", requestedTask?⟩]
  | .tasks => [
    ⟨"Duration", mentions "duration", comparedNumber?⟩,
    ⟨"PreferredPhases", mentions "phase", includedNumber?⟩,
    ⟨"RequiredSkills", mentionsIncludedSkill, includedPhrase?⟩]

/-- Hints for when nothing else understood the query. -/
def lastHints : Entity → List Hint
  | .workers => [
    ⟨"Skills", asksForSkill, includedPhrase?⟩,
    ⟨"WorkerGroup", mentions "group", groupPhrase?⟩,
    ⟨"AvailableSlots", mentions "slot", includedNumber?⟩,
    ⟨"QualificationLevel", mentions "qual", exceedsNumber?⟩]
  | .clients => [
    ⟨"PriorityLevel", mentions "priority", comparedNumber?⟩,
    ⟨"GroupTag", mentions "group", groupPhrase?⟩,
    ⟨"RequestedTaskIDs", mentions "requested", requestedTask?⟩]
  | .tasks => [
    ⟨"Duration", mentions "duration", comparedNumber?⟩,
    ⟨"PreferredPhases", mentions "phase", includedNumber?⟩,
    ⟨"RequiredSkills", mentions "skill", includedPhrase?⟩]

/-- The leaf that a hint makes of a text over given columns. -/
def Hint.leaf? (columns : List String) (text : List Char) (hint : Hint) : Option Leaf :=
  if hint.isCued (Text.lower text) && columns.contains hint.column then
    (hint.read text).map fun test => ⟨hint.column, test⟩
  else none

/-- The leaf of the first hint that makes one. -/
def firstHint? (hints : List Hint) (columns : List String) (text : List Char) : Option Leaf :=
  hints.findSome? fun hint => hint.leaf? columns text

/-- The leaf for an instant answer. -/
def preview? (entity : Entity) (schema : Schema) (text : List Char) : Option Leaf :=
  firstHint? (previewHints entity) schema.names text

/-- The leaf for when nothing else understood the query. -/
def lastResort? (entity : Entity) (schema : Schema) (text : List Char) : Option Leaf :=
  firstHint? (lastHints entity) schema.names text

end SheetQuery.Query
