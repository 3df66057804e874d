import SheetQuery.Entity
import SheetQuery.Numeric.Numeral

/-!
# Command-line arguments

The program takes one query and options. An option may be shortened to any beginning that no other
option shares, its value may follow as the next word or after an equals sign, and after `--` no word
is an option. Arguments are read in two steps: each word is classified by itself, then the words are
taken from left to right.

* `Word.classify`: what a word is;
* `Arguments.parse`: the arguments, a call for help, or what is wrong with them.
-/

namespace SheetQuery.CommandLine

/-! ## Options -/

/-- The options. -/
inductive Flag where
  | help | path | entity | limit | noService | schema
deriving DecidableEq, Repr

namespace Flag

def all : List Flag := [help, path, entity, limit, noService, schema]

/-- The ways to write an option. -/
def names : Flag → List String
  | help => ["-h", "--help"]
  | path => ["--path"]
  | entity => ["--entity"]
  | limit => ["--limit"]
  | noService => ["--no-llm"]
  | schema => ["--schema"]

/-- How messages refer to an option. -/
def label (flag : Flag) : String := "/".intercalate flag.names

/-- Does a value belong to the option? -/
def takesValue : Flag → Bool
  | path | entity | limit => true
  | help | noService | schema => false

/-- All ways to write an option, each with its option. -/
def spellings : List (String × Flag) :=
  all.flatMap fun flag => flag.names.map fun name => (name, flag)

/-- The option that is written this way. -/
def ofName? (name : String) : Option Flag := spellings.lookup name

/-- The ways to write an option that a text is the beginning of. -/
def completions (start : String) : List (String × Flag) :=
  spellings.filter fun (name, _) => start.toList.isPrefixOf name.toList

end Flag

/-! ## Faults -/

/-- What can be wrong with the arguments. -/
inductive Fault where
  /-- An option lacks its value. -/
  | missingValue (flag : Flag)
  /-- An option that takes no value is given one. -/
  | strayValue (flag : Flag) (value : String)
  | notInteger (flag : Flag) (value : String)
  | notEntity (flag : Flag) (value : String)
  /-- A shortened option has several completions. -/
  | ambiguous (word : String) (names : List String)
  /-- Some words are left over. -/
  | unrecognized (words : List String)
  /-- There is no path to a dataset. -/
  | noPath
deriving DecidableEq, Repr

/-- The wording for an argument that is at fault. -/
def aboutFlag (flag : Flag) (text : String) : String := "argument " ++ flag.label ++ ": " ++ text

/-- A text in quotes. -/
def quoted (s : String) : String := String.ofList (displayText s)

/-- The wording of a fault. -/
def Fault.message : Fault → String
  | missingValue flag => aboutFlag flag "expected one argument"
  | strayValue flag value => aboutFlag flag ("ignored explicit argument " ++ quoted value)
  | notInteger flag value => aboutFlag flag ("invalid int value: " ++ quoted value)
  | notEntity flag value =>
    aboutFlag flag ("invalid choice: " ++ quoted value ++ " (choose from "
      ++ ", ".intercalate (Entity.all.map fun entity => quoted entity.name) ++ ")")
  | ambiguous word names =>
    "ambiguous option: " ++ word ++ " could match " ++ ", ".intercalate names
  | unrecognized words => "unrecognized arguments: " ++ " ".intercalate words
  | noPath => "--path or DATASET_PATH is required"

/-! ## Words -/

/-- What a word is, looked at by itself. -/
inductive Word where
  | value (text : String)
  /-- The word after which none is an option. -/
  | separator
  /-- An option, perhaps with a value attached. -/
  | option (flag : Flag) (attached : Option String)
  /-- A word that looks like an option but is none. -/
  | unknown (text : String)
deriving DecidableEq, Repr

namespace Word

/-- Does the text read as a number below zero: a minus sign and digits, perhaps with a point among
them that a digit follows? A line feed may end it. -/
def isNegativeNumber (cs : List Char) : Bool :=
  let body := if cs.getLast? == some '\n' then cs.dropLast else cs
  match body with
  | '-' :: body =>
    match body.span Text.isDigit with
    | (digits, []) => !digits.isEmpty
    | (_, '.' :: fraction) => !fraction.isEmpty && fraction.all Text.isDigit
    | _ => false
  | _ => false

/-- What is attached to the short option in a way that it must be refused; further letters are
passed over. -/
def refused? : List Char → Option (List Char)
  | '=' :: text => some text
  | '-' :: rest => some ('-' :: rest)
  | 'h' :: rest => refused? rest
  | _ => none

/-- Splits a word at its first equals sign. -/
def splitValue (cs : List Char) : String × Option String :=
  let (name, rest) := Text.splitAtFirst (· == '=') cs
  (String.ofList name, rest.map String.ofList)

/-- A word that starts with a hyphen but is no option. -/
def classifyOther (word : String) : Word :=
  if isNegativeNumber word.toList || word.toList.contains ' ' then .value word else .unknown word

/-- A word that starts with two hyphens. -/
def classifyLong (word : String) : Except Fault Word :=
  let (name, attached) := splitValue word.toList
  match Flag.ofName? name, Flag.completions name with
  | some flag, _ => .ok (.option flag attached)
  | none, [] => .ok (classifyOther word)
  | none, [(_, flag)] => .ok (.option flag attached)
  | none, several => .error (.ambiguous word (several.map Prod.fst))

/-- What a word is, if it is not after a separator. -/
def classify (word : String) : Except Fault Word :=
  match word.toList with
  | ['-', '-'] => .ok .separator
  | '-' :: '-' :: _ => classifyLong word
  | '-' :: 'h' :: rest => .ok (.option .help ((refused? rest).map String.ofList))
  | '-' :: _ :: _ => .ok (classifyOther word)
  | _ => .ok (.value word)

/-- What the words are. -/
def classifyAll : List String → Except Fault (List Word)
  | [] => .ok []
  | word :: words => do
    match ← classify word with
    | .separator => return .separator :: words.map .value
    | known => return known :: (← classifyAll words)

end Word

/-! ## Arguments -/

/-- The arguments of a run. -/
structure Arguments where
  query : String
  path : Option String
  entity : Entity
  limit : Int
  withService : Bool
  listsSchema : Bool
deriving DecidableEq, Repr

namespace Arguments

/-- The arguments, if nothing is said. -/
def default : Arguments := ⟨"", none, .tasks, 10, true, false⟩

/-- Why arguments are not read to their end: help is asked for, or something is wrong. -/
inductive Stop where
  | help
  | fault (fault : Fault)
deriving DecidableEq, Repr

/-- The arguments with an option that has a value. -/
def setValue (arguments : Arguments) (flag : Flag) (value : String) : Except Stop Arguments :=
  match flag with
  | .entity =>
    match Entity.ofName? value with
    | some entity => .ok { arguments with entity := entity }
    | none => .error (.fault (.notEntity flag value))
  | .limit =>
    match Numeral.readInteger? value.toList with
    | some limit => .ok { arguments with limit := limit }
    | none => .error (.fault (.notInteger flag value))
  | _ => .ok { arguments with path := some value }

/-- The arguments with an option that has no value. -/
def set (arguments : Arguments) : Flag → Except Stop Arguments
  | .noService => .ok { arguments with withService := false }
  | .schema => .ok { arguments with listsSchema := true }
  | _ => .error .help

/-- Where reading stands with respect to the query. -/
inductive Place where
  | before | atQuery | after
deriving DecidableEq, Repr

/-- What has been read so far: the arguments, the place, and the words that are left over, the
latest first. -/
structure Reading where
  arguments : Arguments
  place : Place
  left : List String

/-- Takes a word that is no option. The first one is the query. -/
def Reading.takeValue (reading : Reading) (text : String) : Reading :=
  if reading.place = .before then
    { reading with arguments := { reading.arguments with query := text }, place := .atQuery }
  else { reading with place := .after, left := text :: reading.left }

/-- Takes a separator. It is dropped before the query and just after it. -/
def Reading.takeSeparator (reading : Reading) : Reading :=
  match reading.place with
  | .before => reading
  | .atQuery => { reading with place := .after }
  | .after => { reading with left := "--" :: reading.left }

/-- Takes an option, whose value is attached. -/
def Reading.takeOption (reading : Reading) (flag : Flag) (attached : Option String) :
    Except Stop Reading :=
  let reading := if reading.place = .atQuery then { reading with place := .after } else reading
  let changed := match flag.takesValue, attached with
    | true, some value => reading.arguments.setValue flag value
    | true, none => .error (.fault (.missingValue flag))
    | false, some value => .error (.fault (.strayValue flag value))
    | false, none => reading.arguments.set flag
  changed.map fun arguments => { reading with arguments := arguments }

/-- Takes a word. -/
def Reading.take (reading : Reading) : Word → Except Stop Reading
  | .value text => .ok (reading.takeValue text)
  | .separator => .ok reading.takeSeparator
  | .option flag attached => reading.takeOption flag attached
  | .unknown text =>
    .ok { reading with
      place := if reading.place = .before then .before else .after
      left := text :: reading.left }

/-- Attaches to each option that lacks its value the word that follows. -/
def attach : List Word → List Word
  | .option flag none :: .value text :: rest =>
    if flag.takesValue then .option flag (some text) :: attach rest
    else .option flag none :: .value text :: attach rest
  | word :: rest => word :: attach rest
  | [] => []

/-- The arguments that a reading ends with, if no word is left over. -/
def Reading.finish (reading : Reading) : Except Stop Arguments :=
  if reading.left.isEmpty then .ok reading.arguments
  else .error (.fault (.unrecognized reading.left.reverse))

/-- Reads the arguments. -/
def parse (words : List String) : Except Stop Arguments := do
  let words ← (Word.classifyAll words).mapError .fault
  let reading ← (attach words).foldlM Reading.take ⟨default, .before, []⟩
  reading.finish

end Arguments

end SheetQuery.CommandLine
