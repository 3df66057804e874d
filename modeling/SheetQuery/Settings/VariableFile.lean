import SheetQuery.Text.Search
import SheetQuery.Text.Trim

/-!
# Files of variables

A file of variables has a binding on each line: a name, an equals sign and a value, which may be
quoted and then run over several lines. A line may start with `export` and end in a comment; a line
that cannot be read is passed over. Values may refer to other variables, as `$` and a name in
braces.

* `bindings`: the names and values as written;
* `expanded`: the values with their references replaced.
-/

namespace SheetQuery.VariableFile

/-- A name with its value, if it has one. -/
abbrev Binding := String × Option String

/-! ## Lines -/

/-- A text in which every line ends in a plain line feed. -/
def unixLines : List Char → List Char
  | '\r' :: '\n' :: cs => '\n' :: unixLines cs
  | '\r' :: cs => '\n' :: unixLines cs
  | c :: cs => c :: unixLines cs
  | [] => []

/-- A blank that does not end the line. -/
def isInnerBlank (c : Char) : Bool := Text.isBlank c && c != '\n' && c != '\r'

def skipInnerBlanks (cs : List Char) : List Char := cs.dropWhile isInnerBlank

/-- What follows the current line. -/
def skipLine (cs : List Char) : List Char := (cs.dropWhile (· ≠ '\n')).drop 1

/-- What follows a comment, if there is one. -/
def skipComment (cs : List Char) : List Char :=
  match skipInnerBlanks cs with
  | '#' :: rest => rest.dropWhile (· ≠ '\n')
  | _ => cs

/-- What follows the end of the line, if nothing but blanks stands before it. -/
def lineEnd? (cs : List Char) : Option (List Char) :=
  match skipInnerBlanks cs with
  | [] => some []
  | '\n' :: rest => some rest
  | _ => none

/-! ## Names -/

def isNameChar (c : Char) : Bool := c != '=' && c != '#' && !Text.isBlank c

/-- What follows the word `export` and blanks, if they are there. -/
def skipExport (cs : List Char) : List Char :=
  if "export".toList.isPrefixOf cs && (cs.drop 6).head?.any isInnerBlank then
    skipInnerBlanks (cs.drop 6)
  else cs

/-- The name at the start of a text, plain or in single quotes, and the rest. -/
def takeName? : List Char → Option (List Char × List Char)
  | '\'' :: cs =>
    match cs.span (· ≠ '\'') with
    | (name, _ :: rest) => if name.isEmpty then none else some (name, rest)
    | _ => none
  | cs =>
    match cs.span isNameChar with
    | ([], _) => none
    | found => some found

/-! ## Values -/

/-- The content up to a closing mark, and the rest. A mark after a backslash closes only if no other
one does. -/
def takeQuoted? (mark : Char) : List Char → Option (List Char × List Char)
  | [] => none
  | c :: cs =>
    if c = mark then some ([], cs)
    else if c = '\\' then
      match cs with
      | [] => none
      | d :: ds =>
        if d = mark then
          match takeQuoted? mark ds with
          | some (content, rest) => some (c :: d :: content, rest)
          | none => some ([c], ds)
        else (takeQuoted? mark (d :: ds)).map fun (content, rest) => (c :: content, rest)
    else (takeQuoted? mark cs).map fun (content, rest) => (c :: content, rest)

/-- What a character after a backslash stands for in double quotes. -/
def escaped? : Char → Option Char
  | '\\' => some '\\'
  | '\'' => some '\''
  | '"' => some '"'
  | 'a' => some '\x07'
  | 'b' => some '\x08'
  | 'f' => some '\x0C'
  | 'n' => some '\n'
  | 'r' => some '\r'
  | 't' => some '\t'
  | 'v' => some '\x0B'
  | _ => none

/-- What a character after a backslash stands for in single quotes. -/
def escapedPlainly? (c : Char) : Option Char := if c = '\\' || c = '\'' then some c else none

/-- Replaces the escapes of a text; a backslash before another character stays. -/
def unescape (known : Char → Option Char) : List Char → List Char
  | '\\' :: c :: cs =>
    match known c with
    | some d => d :: unescape known cs
    | none => '\\' :: unescape known (c :: cs)
  | c :: cs => c :: unescape known cs
  | [] => []

/-- A text without the comment at its end, which starts with blanks and a number sign. -/
def uncommented : List Char → List Char
  | [] => []
  | c :: cs =>
    if Text.isBlank c && (cs.dropWhile Text.isBlank).head? == some '#' then []
    else c :: uncommented cs

/-- The value at the start of a text, and the rest. -/
def takeValue? : List Char → Option (List Char × List Char)
  | '\'' :: cs => (takeQuoted? '\'' cs).map fun (v, rest) => (unescape escapedPlainly? v, rest)
  | '"' :: cs => (takeQuoted? '"' cs).map fun (v, rest) => (unescape escaped? v, rest)
  | cs =>
    let (line, rest) := cs.span (· ≠ '\n')
    some (Text.trimEndWith Text.isBlank (uncommented line), rest)

/-! ## Bindings -/

/-- What comes of one line: perhaps a binding, and where reading goes on. -/
structure Reading where
  binding : Option Binding
  rest : List Char

/-- Ends a line after its binding; if something else still stands there, the line is passed over. -/
def finishLine (binding : Option Binding) (cs : List Char) : Reading :=
  let cs := skipComment cs
  match lineEnd? cs with
  | some rest => ⟨binding, rest⟩
  | none => ⟨none, skipLine cs⟩

/-- Reads what follows a name. -/
def readAfterName (name cs : List Char) : Reading :=
  match skipInnerBlanks cs with
  | '=' :: rest =>
    let rest := skipInnerBlanks rest
    match takeValue? rest with
    | some (value, rest) =>
      finishLine (some (String.ofList name, some (String.ofList value))) rest
    | none => ⟨none, skipLine rest⟩
  | rest => finishLine (some (String.ofList name, none)) rest

/-- Reads one line that starts with something else than a blank. -/
def readLine (cs : List Char) : Reading :=
  let cs := skipExport cs
  if cs.head? == some '#' then finishLine none cs
  else
    match takeName? cs with
    | some (name, rest) => readAfterName name rest
    | none => ⟨none, skipLine cs⟩

/-- The bindings of a text with plain line ends. Every line read leaves less text. -/
def bindingsFrom (cs : List Char) : List Binding :=
  match cs.dropWhile Text.isBlank with
  | [] => []
  | c :: more =>
    let reading := readLine (c :: more)
    if reading.rest.length < cs.length then
      reading.binding.toList ++ bindingsFrom reading.rest
    else []
termination_by cs.length

/-- The bindings of a file of variables, as written. -/
def bindings (text : String) : List Binding := bindingsFrom (unixLines text.toList)

/-! ## References -/

/-- A reference after its opening brace: the name, the value if it is unset, and the rest. -/
def takeReference? (cs : List Char) : Option (List Char × List Char × List Char) :=
  let (name, rest) := cs.span fun c => c != '\x7d' && c != ':'
  match rest with
  | ':' :: '-' :: rest =>
    match rest.span (· ≠ '\x7d') with
    | (default, _ :: rest) => some (name, default, rest)
    | _ => none
  | '\x7d' :: rest => some (name, [], rest)
  | _ => none

/-- The names of the variables that a text refers to. -/
def references : List Char → List String
  | [] => []
  | c :: cs =>
    let here := match c, cs with
      | '$', '\x7b' :: rest => (takeReference? rest).toList.map fun found => String.ofList found.1
      | _, _ => []
    here ++ references cs

/-- The value that a reference stands for; a variable without a value stands for nothing. -/
def referred (lookUp : String → Option (Option String)) (name default : List Char) : List Char :=
  match lookUp (String.ofList name) with
  | some (some value) => value.toList
  | some none => []
  | none => default

/-- A value with its references replaced. -/
def expand (lookUp : String → Option (Option String)) (value : List Char) : List Char :=
  Text.substitute (fun _ cs =>
    match cs with
    | '$' :: '\x7b' :: rest =>
      (takeReference? rest).map fun (name, default, after) =>
        (cs.length - after.length - 1, referred lookUp name default)
    | _ => none) value

/-- Where a reference looks first: among the bindings of the file, or in the environment. -/
inductive Precedence where
  | file | environment
deriving DecidableEq, Repr

/-- What a reference finds, given the bindings so far, the latest first. -/
def lookUp (precedence : Precedence) (environment : List (String × String))
    (known : List Binding) (name : String) : Option (Option String) :=
  match precedence with
  | .file => (known.lookup name).or ((environment.lookup name).map some)
  | .environment => ((environment.lookup name).map some).or (known.lookup name)

/-- Bindings with their references replaced, added to those known, the latest first. -/
def expandAll (precedence : Precedence) (environment : List (String × String))
    (known : List Binding) : List Binding → List Binding
  | [] => known
  | (name, none) :: rest => expandAll precedence environment ((name, none) :: known) rest
  | (name, some value) :: rest =>
    let value := String.ofList (expand (lookUp precedence environment known) value.toList)
    expandAll precedence environment ((name, some value) :: known) rest

/-- The bindings of a file with their references replaced, the latest first. -/
def expanded (precedence : Precedence) (environment : List (String × String)) (text : String) :
    List Binding :=
  expandAll precedence environment [] (bindings text)

end SheetQuery.VariableFile
