import SheetQuery.Entity
import SheetQuery.Filter.Basic
import SheetQuery.Text.Search
import SheetQuery.Text.Trim

/-!
# Vocabulary

The English words that queries use for columns and comparators.

* `synonyms`: set phrases for the columns of each entity;
* `headerLike?`: a column name as typed, up to case;
* `columnOf?`: the column a phrase means, by synonym, header, header without blanks, or a guess that
  capitalises each word;
* `spelledComparator?` and `signedComparator?`: comparators in words and in signs.
-/

namespace SheetQuery.Vocabulary

/-- Set phrases for the columns of an entity. -/
def synonyms : Entity → List (String × String)
  | .clients => [
    ("priority", "PriorityLevel"), ("priority level", "PriorityLevel"), ("group", "GroupTag"),
    ("group tag", "GroupTag"), ("requested", "RequestedTaskIDs"),
    ("requested tasks", "RequestedTaskIDs"), ("name", "ClientName"), ("id", "ClientID"),
    ("attributes", "AttributesJSON")]
  | .workers => [
    ("group", "WorkerGroup"), ("worker group", "WorkerGroup"), ("skills", "Skills"),
    ("skill", "Skills"), ("available slots", "AvailableSlots"), ("slot", "AvailableSlots"),
    ("max load per phase", "MaxLoadPerPhase"), ("qualification", "QualificationLevel"),
    ("name", "WorkerName"), ("id", "WorkerID")]
  | .tasks => [
    ("duration", "Duration"), ("max concurrent", "MaxConcurrent"), ("concurrent", "MaxConcurrent"),
    ("preferred phases", "PreferredPhases"), ("phase", "PreferredPhases"),
    ("required skills", "RequiredSkills"), ("skills", "RequiredSkills"), ("category", "Category"),
    ("name", "TaskName"), ("id", "TaskID")]

/-- Words that mark a column whose cells hold several values. -/
def listMarks : List (List Char) :=
  ["skills".toList, "preferredphases".toList, "availableslots".toList, "requestedtaskids".toList]

/-- Does a column name hold, up to case, one of the marks of multi-valued columns? -/
def namesList (column : String) : Bool :=
  (Text.firstMatch? (fun _ cs => Text.afterAnyKeyword? listMarks cs) none column.toList).isSome

/-- The comparators in words. -/
def spelledComparators : List (String × Comparator) := [
  ("not equal to", .ne), ("greater than", .gt), ("more than", .gt), ("less than", .lt),
  ("at least", .ge), ("at most", .le), ("equal to", .eq), ("equals", .eq)]

/-- The comparators in signs. A sign that begins another one stands after it. -/
def signedComparators : List (String × Comparator) := [
  (">=", .ge), ("<=", .le), ("==", .eq), ("!=", .ne), (">", .gt), ("<", .lt), ("=", .eq)]

/-- The comparator that a phrase spells, up to case and outer blanks. -/
def spelledComparator? (phrase : List Char) : Option Comparator :=
  spelledComparators.lookup (String.ofList (Text.lower (Text.trim phrase)))

/-- The first column name equal to `candidate` up to case. -/
def headerLike? (columns : List String) (candidate : String) : Option String :=
  columns.find? fun column => Text.lowerText column == Text.lowerText candidate

/-- Words joined by single spaces. -/
def joined (words : List (List Char)) : List Char := [' '].intercalate words

/-- A word with its first letter in upper case. -/
def capitalised (word : List Char) : List Char := Text.upper (word.take 1) ++ word.drop 1

/-- The lower-cased words of a phrase. -/
def phraseWords (phrase : List Char) : List (List Char) := Text.words (Text.lower phrase)

/-- The column that a phrase of lower-cased words means, when it is no synonym. -/
def headerOf? (columns : List String) (words : List (List Char)) : Option String :=
  (headerLike? columns (String.ofList (joined words)))
    |>.or (columns.find? fun column => (phraseWords column.toList).flatten == words.flatten)
    |>.or (columns.find? (· == String.ofList (words.flatMap capitalised)))

/-- The column that a phrase means. A synonym stands for its column even if there is no such
header, and for the header of the same letters if there is one. -/
def columnOf? (entity : Entity) (columns : List String) (phrase : List Char) : Option String :=
  match phraseWords phrase with
  | [] => none
  | words =>
    match (synonyms entity).lookup (String.ofList (joined words)) with
    | some column => some ((headerLike? columns column).getD column)
    | none => headerOf? columns words

end SheetQuery.Vocabulary
