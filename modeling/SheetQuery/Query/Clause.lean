import SheetQuery.Query.Numeral
import SheetQuery.Query.Vocabulary

/-!
# Clauses

A clause is a piece of a query that asks one thing of one column, in one of eight forms:

* `<phrase> includes <value>`, `<phrase> is <value>`;
* `<phrase> >= <number>`, `<phrase> at least <number>`, `<phrase> between <number> and <number>`;
* `phase <number>`, `skill <value>`;
* `<phrase> <value>`.

A form describes a whole clause. The phrase is the shortest non-empty one that leaves a text of the
form. The forms are tried in this order, and one whose phrase means no column gives way to the next.
-/

namespace SheetQuery.Query

/-- How a clause points at its column: by a phrase, or at a column that the form itself names. -/
inductive Pointer where
  | phrase (words : List Char)
  | column (name : String)
deriving DecidableEq, Repr

/-- What a clause says: where its column is, and the test that goes with that column. -/
structure Statement where
  pointer : Pointer
  test : String → Test

/-- A form reads whole clauses. -/
abbrev Form := List Char → Option Statement

def isPhraseChar (c : Char) : Bool := Text.isWordChar c || Text.isBlank c

/-- Cuts off the shortest non-empty phrase that `read` accepts the rest after. -/
def afterPhrase? {α : Type} (read : List Char → Option α) : List Char → Option (List Char × α)
  | [] => none
  | c :: cs =>
    if isPhraseChar c then
      match read cs with
      | some a => some ([c], a)
      | none => (afterPhrase? read cs).map fun found => (c :: found.1, found.2)
    else none

/-- Reads after a run of at least one blank, as long a run as `read` allows. -/
def pastBlanks? {α : Type} (read : List Char → Option α) : List Char → Option α
  | [] => none
  | c :: cs => if Text.isBlank c then (pastBlanks? read cs).or (read cs) else none

/-- A text without one character `c` at its start. -/
def dropOne (c : Char) : List Char → List Char
  | [] => []
  | d :: cs => if d == c then cs else d :: cs

/-- Is the text a non-empty run of class `p`, possibly with a double quote at either end? -/
def isValueOf (p : Char → Bool) (cs : List Char) : Bool :=
  let body := (dropOne '"' (dropOne '"' cs).reverse).reverse
  !body.isEmpty && body.all p

def isSkillChar (c : Char) : Bool := Text.isWordChar c || c == '-' || c == ' '

def isValueChar (c : Char) : Bool := isSkillChar c || c == '.'

/-- The operand that a value stands for, without outer blanks and quotes. -/
def valueOperand (cs : List Char) : Cell :=
  operand (Text.trim (Text.trimWith (· == '"') (Text.trim cs)))

/-- A whole text of class `p`, possibly quoted, as an operand. -/
def valueOf? (p : Char → Bool) (cs : List Char) : Option Cell :=
  if isValueOf p cs then some (valueOperand cs) else none

def value? (cs : List Char) : Option Cell := valueOf? isValueChar cs

/-- The text after one of `keywords` at the start and the blanks that must follow it, read by
`read`. -/
def afterWord? {α : Type} (keywords : List String) (read : List Char → Option α)
    (cs : List Char) : Option α :=
  keywords.findSome? fun keyword =>
    (Text.afterKeyword? keyword.toList cs).bind (pastBlanks? read)

/-- A text that starts with blanks, one of `keywords` and blanks; the rest is read by `read`. -/
def spaced? {α : Type} (keywords : List String) (read : List Char → Option α)
    (cs : List Char) : Option α :=
  (Text.afterBlanks? cs).bind (afterWord? keywords read)

/-- The statement that a phrase and a test for any column make. -/
def ofPhrase (test : Test) (phrase : List Char) : Statement := ⟨.phrase phrase, fun _ => test⟩

/-- A form made of a phrase and, after it, a test. -/
def phraseForm (read : List Char → Option Test) : Form := fun cs =>
  (afterPhrase? read cs).map fun found => ofPhrase found.2 found.1

/-- `<phrase> includes <value>` -/
def includesForm : Form :=
  phraseForm (spaced? ["includes", "include", "contains", "contain"] fun cs =>
    (value? cs).map (Test.search .includes))

/-- `<phrase> is <value>` -/
def equalsForm : Form :=
  phraseForm (spaced? ["must be", "should be", "is", "equals", "="] fun cs =>
    (value? cs).map (Test.compare .eq))

/-- `<phrase> >= <number>` -/
def signedForm : Form := phraseForm fun cs =>
  Vocabulary.signedComparators.findSome? fun (sign, comparator) =>
    (Text.afterKeyword? sign.toList (cs.dropWhile Text.isBlank)).bind fun rest =>
      (numeral? (rest.dropWhile Text.isBlank)).map (Test.compare comparator)

/-- The comparators in words, in the order in which a clause is tried for them. -/
def spelledKeywords : List String :=
  ["not equal to", "equal to", "less than", "more than", "greater than", "at least", "at most",
    "equals"]

/-- The comparator in words and the number after it; the comparator is `none` if the words are
written with letters that merely resemble those of the keyword. -/
def spelledTest? (cs : List Char) : Option (Option Comparator × Cell) :=
  spelledKeywords.findSome? fun keyword =>
    (Text.afterKeyword? keyword.toList cs).bind fun rest =>
      ((Text.afterBlanks? rest).bind numeral?).map fun operand =>
        (Vocabulary.spelledComparator? (cs.take keyword.length), operand)

/-- `<phrase> at least <number>` -/
def spelledForm : Form := fun cs =>
  match afterPhrase? (fun rest => (Text.afterBlanks? rest).bind spelledTest?) cs with
  | some (phrase, some comparator, operand) => some (ofPhrase (.compare comparator operand) phrase)
  | _ => none

/-- Two numerals with one of `links` between them, to the end of the text. -/
def range? (links : List String) (cs : List Char) : Option Test :=
  (takeNumeral? cs).bind fun (low, rest) =>
    (spaced? links numeral? rest).map fun high => .between (operand low) high

/-- `<phrase> between <number> to <number>` -/
def betweenForm : Form := phraseForm (spaced? ["between"] (range? ["and", "to"]))

/-- A whole number, as an operand. -/
def wholeNumeral? (cs : List Char) : Option Cell :=
  match takeSigned? takeDigits? cs with
  | some (digits, []) => some (operand digits)
  | _ => none

/-- `phase <number>` -/
def phaseForm : Form := fun cs =>
  (afterWord? ["phase"] wholeNumeral? cs).map fun operand =>
    ⟨.column "PreferredPhases", fun _ => .search .includes operand⟩

/-- The column of skills. -/
def skillColumn : Entity → String
  | .workers => "Skills"
  | _ => "RequiredSkills"

/-- `skill <value>` -/
def skillForm (entity : Entity) : Form := fun cs =>
  (afterWord? ["skills", "skill"] (valueOf? isSkillChar) cs).map fun operand =>
    ⟨.column (skillColumn entity), fun _ => .search .includes operand⟩

/-- `<phrase> <value>`: a multi-valued column is searched for the value, any other must equal
it. -/
def bareForm : Form := fun cs =>
  (afterPhrase? (pastBlanks? value?) cs).map fun (phrase, operand) =>
    ⟨.phrase phrase, fun column =>
      if Vocabulary.namesList column then .search .includes operand else .compare .eq operand⟩

/-- The forms, in the order in which they are tried. -/
def forms (entity : Entity) : List Form :=
  [includesForm, equalsForm, signedForm, spelledForm, betweenForm, phaseForm, skillForm entity,
    bareForm]

/-- The column that a pointer means. A column named by the form itself is taken in the spelling of
the headers if they have it. -/
def Pointer.column? (entity : Entity) (columns : List String) : Pointer → Option String
  | .phrase words => Vocabulary.columnOf? entity columns words
  | .column name => some ((Vocabulary.headerLike? columns name).getD name)

/-- The leaf that a statement amounts to. -/
def Statement.leaf? (entity : Entity) (columns : List String) (statement : Statement) :
    Option Leaf :=
  (statement.pointer.column? entity columns).map fun column => ⟨column, statement.test column⟩

/-- The leaf that a clause asks for. -/
def clauseLeaf? (entity : Entity) (columns : List String) (clause : List Char) : Option Leaf :=
  (forms entity).findSome? fun form =>
    (form clause).bind fun statement => statement.leaf? entity columns

end SheetQuery.Query
