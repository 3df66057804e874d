import SheetQuery.Pattern.Basic

/-!
# Reading patterns

A recursive-descent reader of pattern text. The text is first cut into tokens, where a backslash and
the character after it are one token; the reader then consumes tokens through a state that also
knows the groups opened so far. `Pattern.compile` is the way in.
-/

namespace SheetQuery.Pattern

/-- A token of pattern text: a plain character, a character after a backslash, or a backslash that
nothing follows. -/
inductive Token where
  | plain (c : Char)
  | escaped (c : Char)
  | broken
deriving DecidableEq, Repr

namespace Token

/-- Cuts pattern text into tokens. -/
def ofText : List Char → List Token
  | [] => []
  | ['\\'] => [broken]
  | '\\' :: c :: cs => escaped c :: ofText cs
  | c :: cs => plain c :: ofText cs

/-- The text of a token. -/
def text : Token → List Char
  | plain c => [c]
  | escaped c => ['\\', c]
  | broken => ['\\']

end Token

/-- The switches that a pattern sets for itself as a whole. -/
structure Globals where
  switches : Switches
  fullClasses : Bool
  verbose : Bool
  template : Bool
deriving Repr

/-- Where the reader stands: the tokens to come, the global switches, the groups opened so far with
their widths once they are closed, their names, how many groups there were when the outermost look
behind began, and the group numbers that conditionals rely on. -/
structure Reader where
  tokens : List Token
  globals : Globals
  groups : List (Option Width)
  names : List (List Char × Nat)
  behindFrom : Option Nat
  awaited : List Nat
deriving Repr

/-- A step of reading. -/
abbrev Read (α : Type) := StateT Reader (Except Fault) α

namespace Read

def fail {α : Type} : Read α := throw Fault.invalid

/-- The next token, which stays. -/
def peek : Read (Option Token) := do return (← get).tokens.head?

/-- Takes the next token. It is a fault if a broken token comes next then. -/
def take : Read (Option Token) := do
  let r ← get
  match r.tokens with
  | [] => return none
  | token :: rest =>
    if rest.head? == some .broken then fail
    set { r with tokens := rest }
    return some token

/-- Takes the next token if it is the given plain character. -/
def accept (c : Char) : Read Bool := do
  if (← peek) == some (.plain c) then
    let _ ← take
    return true
  return false

/-- Takes the given plain character, which must come next. -/
def expect (c : Char) : Read Unit := do
  unless ← accept c do fail

/-- Takes plain characters of a class, at most `limit` of them. -/
def takeWhile (p : Char → Bool) : (limit : Nat) → Read (List Char)
  | 0 => return []
  | limit + 1 => do
    match ← peek with
    | some (.plain c) =>
      if p c then
        let _ ← take
        return c :: (← takeWhile p limit)
      return []
    | _ => return []

/-- Takes the text up to a terminator, which must come and is dropped; the text must not be
empty. -/
def takeUntil (terminator : Char) : (limit : Nat) → Read (List Char)
  | 0 => fail
  | limit + 1 => do
    match ← take with
    | none => fail
    | some (.plain c) =>
      if c == terminator then return []
      return c :: (← takeUntil terminator limit)
    | some token => return token.text ++ (← takeUntil terminator limit)

/-- A non-empty text up to a terminator. -/
def name (terminator : Char) : Read (List Char) := do
  let text ← takeUntil terminator ((← get).tokens.length + 1)
  if text.isEmpty then fail
  return text

/-- How many groups have been opened. -/
def groupCount : Read Nat := do return (← get).groups.length

/-- Is the group closed? -/
def isClosed (index : Nat) : Read Bool := do
  return (1 ≤ index) && (((← get).groups[index - 1]?).join).isSome

/-- Inside a look behind, only groups closed before it may be referred to. -/
def checkBehind (index : Nat) : Read Unit := do
  match (← get).behindFrom with
  | none => return ()
  | some count => unless (← isClosed index) && index ≤ count do fail

/-- The width of a closed group. -/
def groupWidth (groups : List (Option Width)) (index : Nat) : Width :=
  (groups[index - 1]?.join).getD .zero

/-- The width of a node. -/
def widthOf (node : Node) : Read Width := do
  let groups := (← get).groups
  return node.width (groupWidth groups)

/-- Opens a group. -/
def openGroup (name : Option (List Char)) : Read Nat := do
  let r ← get
  let index := r.groups.length + 1
  let names ← match name with
    | none => pure r.names
    | some n => if (r.names.lookup n).isSome then fail else pure ((n, index) :: r.names)
  set { r with groups := r.groups ++ [none], names := names }
  return index

/-- Closes a group with the given contents. -/
def closeGroup (index : Nat) (body : Node) : Read Unit := do
  let width ← widthOf body
  modify fun r => { r with groups := r.groups.set (index - 1) (some width) }

end Read

open Read

/-! ## Characters -/

def isOctal (c : Char) : Bool := 0x30 ≤ c.toNat && c.toNat ≤ 0x37

def isHex (c : Char) : Bool :=
  Text.isAsciiDigit c || (0x61 ≤ c.toNat && c.toNat ≤ 0x66) || (0x41 ≤ c.toNat && c.toNat ≤ 0x46)

def hexValue (c : Char) : Nat :=
  if c.toNat ≤ 0x39 then c.toNat - 0x30
  else if 0x61 ≤ c.toNat then c.toNat - 0x57
  else c.toNat - 0x37

/-- The value of digits in a base. -/
def valueIn (base : Nat) (digits : List Char) : Nat :=
  digits.foldl (fun value c => base * value + hexValue c) 0

/-- The control characters with a letter of their own. -/
def controlCode? (c : Char) : Option Nat :=
  if c == 'a' then some 0x07 else if c == 'b' then some 0x08 else if c == 'f' then some 0x0C
  else if c == 'n' then some 0x0A else if c == 'r' then some 0x0D else if c == 't' then some 0x09
  else if c == 'v' then some 0x0B else if c == '\\' then some 0x5C else none

/-- The category that an escaped letter names. -/
def category? (c : Char) : Option SetItem :=
  if c == 'd' then some (.category .digit false)
  else if c == 'D' then some (.category .digit true)
  else if c == 's' then some (.category .space false)
  else if c == 'S' then some (.category .space true)
  else if c == 'w' then some (.category .word false)
  else if c == 'W' then some (.category .word true)
  else none

/-- The anchor that an escaped letter names. -/
def anchor? (c : Char) : Option Anchor :=
  if c == 'A' then some .textStart else if c == 'Z' then some .textEnd
  else if c == 'b' then some .boundary else if c == 'B' then some .noBoundary else none

/-- A code point written with exactly `count` hexadecimal digits. -/
def hexCode (count : Nat) : Read Nat := do
  let digits ← takeWhile isHex count
  if digits.length != count || 0x110000 ≤ valueIn 16 digits then fail
  return valueIn 16 digits

/-- The code point of an escaped character that is neither a category, an anchor, a control
character nor a digit. -/
def escapedCode (c : Char) : Read Nat := do
  if c == 'x' then hexCode 2
  else if c == 'u' then hexCode 4
  else if c == 'U' then hexCode 8
  else if Text.isAsciiLetter c || Text.isAsciiDigit c then fail
  else return c.toNat

/-! ## Sets -/

/-- A member of a set that starts with an escaped character. -/
def setEscape (c : Char) : Read SetItem := do
  match controlCode? c, category? c with
  | some code, _ => return .single code
  | none, some item => return item
  | none, none =>
    if isOctal c then
      let code := valueIn 8 (c :: (← takeWhile isOctal 2))
      if 0xFF < code then fail
      return .single code
    return .single (← escapedCode c)

/-- A member of a set that starts with a given token. -/
def setMember : Token → Read SetItem
  | .plain c => return .single c.toNat
  | .escaped c => setEscape c
  | .broken => fail

/-- The members of a set up to its closing bracket. `members` has those read so far, last first. -/
def setMembers : (limit : Nat) → (members : List SetItem) → Read (List SetItem)
  | 0, _ => fail
  | limit + 1, members => do
    match ← take with
    | none => fail
    | some token =>
      if token == .plain ']' && !members.isEmpty then return members.reverse
      let low ← setMember token
      if ← accept '-' then
        match ← take with
        | none => fail
        | some (.plain ']') => return (SetItem.single '-'.toNat :: low :: members).reverse
        | some token =>
          match low, ← setMember token with
          | .single first, .single last =>
            if last < first then fail
            setMembers limit (.range first last :: members)
          | _, _ => fail
      else setMembers limit (low :: members)

/-- A bracketed set, after its opening bracket. -/
def bracketed : Read Node := do
  let negated ← accept '^'
  match ← setMembers ((← get).tokens.length + 1) [] with
  | [.single code] => return .single negated code
  | members =>
    -- a single character written more than once is still that character
    match members.eraseDups with
    | [.single code] => return .single negated code
    | distinct => return .set negated distinct

/-! ## References -/

/-- A reference to a closed group. -/
def reference (index : Nat) : Read Node := do
  unless ← isClosed index do fail
  checkBehind index
  return .backReference index

/-- An escaped character outside a set. -/
def escape (c : Char) : Read Node := do
  match anchor? c, category? c, controlCode? c with
  | some a, _, _ => return .anchor a
  | none, some item, _ => return .set false [item]
  | none, none, some code => return .single false code
  | none, none, none =>
    if c == '0' then return .single false (valueIn 8 (c :: (← takeWhile isOctal 2)))
    if Text.isAsciiDigit c then
      -- one or two digits refer to a group; three octal digits are a character
      let second ← takeWhile Text.isAsciiDigit 1
      let third ← if isOctal c && second.any isOctal then takeWhile isOctal 1 else pure []
      if third.isEmpty then return ← reference (valueIn 10 (c :: second))
      let code := valueIn 8 (c :: second ++ third)
      if 0xFF < code then fail
      return .single false code
    return .single false (← escapedCode c)

/-- Is the text usable as the name of a group? -/
def isName : List Char → Bool
  | [] => false
  | c :: cs => Text.isWordChar c && !Text.isDigit c && cs.all Text.isWordChar

/-! ## Switches -/

/-- The switch letters. -/
def isSwitch (c : Char) : Bool := "iLmsxatu".toList.contains c

/-- Switch letters from a first one on, and the character after them, which must be one of
`closers`. -/
def switchLetters (closers : List Char) : (limit : Nat) → Char → Read (List Char × Char)
  | 0, _ => fail
  | limit + 1, c => do
    match ← take with
    | some (.plain next) =>
      if closers.contains next then return ([c], next)
      if isSwitch next then
        let (letters, closer) ← switchLetters closers limit next
        return (c :: letters, closer)
      fail
    | _ => fail

/-- The switches among some letters. -/
def switchesOf (letters : List Char) : Switches where
  ignoreCase := letters.contains 'i'
  multiline := letters.contains 'm'
  dotAll := letters.contains 's'
  ascii := letters.contains 'a'

/-- A change of switches: a global one, or a local one with its letters turned on and off. -/
inductive SwitchChange where
  | atRoot (letters : List Char)
  | inGroup (on off : List Char)

/-- Reads switch letters after `(?`, of which the first has been taken. -/
def switchChange (first : Char) : Read SwitchChange := do
  let limit := (← get).tokens.length + 1
  let (on, closer) ←
    if first == '-' then pure ([], '-') else switchLetters [')', '-', ':'] limit first
  -- byte-wise classes are for bytes; ASCII and full classes exclude each other
  if on.contains 'L' || (on.contains 'a' && on.contains 'u') then fail
  if closer == ')' then return .atRoot on
  if on.contains 't' then fail
  if closer == ':' then return .inGroup on []
  match ← take with
  | some (.plain c) =>
    if !isSwitch c then fail
    let (off, _) ← switchLetters [':'] limit c
    if off.any (fun c => ['a', 'u', 'L', 't'].contains c || on.contains c) then fail
    return .inGroup on off
  | _ => fail

/-- Adds global switches. -/
def Globals.add (g : Globals) (letters : List Char) : Globals where
  switches := g.switches.change ⟨switchesOf letters, .none, false⟩
  fullClasses := g.fullClasses || letters.contains 'u'
  verbose := g.verbose || letters.contains 'x'
  template := g.template || letters.contains 't'

/-! ## Repetition -/

/-- Counts from here on are refused. -/
def countLimit : Nat := Nat.pow 2 32 - 1

/-- The count that digits denote. -/
def countOf (digits : List Char) : Read Nat := do
  if Numeral.maxIntegerDigits < digits.length then throw (Fault.numeralTooLong digits.length)
  let count := valueIn 10 digits
  if countLimit ≤ count then throw Fault.repeatTooLarge
  return count

/-- The bounds of a repetition in braces, after the opening one. If what follows is no such
repetition, nothing is taken and the brace stands for itself. -/
def braced : Read (Option (Nat × Option Nat)) := do
  let start ← get
  if (← peek) == some (.plain '}') then return none
  let limit := start.tokens.length
  let low ← takeWhile Text.isAsciiDigit limit
  let high ← if ← accept ',' then takeWhile Text.isAsciiDigit limit else pure low
  unless ← accept '}' do
    set start
    return none
  let least ← if low.isEmpty then pure 0 else countOf low
  if high.isEmpty then return some (least, none)
  let most ← countOf high
  if most < least then fail
  return some (least, some most)

/-- The appetite that the mark after a repetition asks for. -/
def appetite : Read Appetite := do
  if ← accept '?' then return .lazy
  if ← accept '+' then return .possessive
  return .greedy

/-- Repeats the last of the nodes read so far. -/
def repeatLast (least : Nat) (most : Option Nat) : List Node → Read (List Node)
  | [] => fail
  | .anchor _ :: _ => fail
  | .repeated .. :: _ => fail
  | node :: nodes => do return .repeated (← appetite) least most node :: nodes

/-! ## The grammar -/

/-- Nodes in sequence, from a list with the last first. -/
def sequence (nodes : List Node) : Node := nodes.foldl (fun rest node => .seq node rest) .empty

def isPatternSpace (c : Char) : Bool := Text.isAsciiBlank c

/-- Passes over a comment up to the end of the line. -/
def skipLine : (limit : Nat) → Read Unit
  | 0 => return ()
  | limit + 1 => do
    match ← take with
    | none => return ()
    | some token => if token == .plain '\n' then return () else skipLine limit

/-- Passes over a comment up to its closing parenthesis. -/
def skipComment : (limit : Nat) → Read Unit
  | 0 => fail
  | limit + 1 => do
    match ← take with
    | none => fail
    | some token => if token == .plain ')' then return () else skipComment limit

/-- The group that a condition names, by name or by number. -/
def conditionGroup (name : List Char) : Read Nat := do
  if isName name then
    match (← get).names.lookup name with
    | some index => return index
    | none => fail
  match Numeral.readInteger? name with
  | some index =>
    if index ≤ 0 then fail
    modify fun r => { r with awaited := index.toNat :: r.awaited }
    return index.toNat
  | none => fail

mutual

/-- Alternatives. `outermost` holds outside all groups. -/
def alternatives : (fuel : Nat) → (verbose outermost first : Bool) → Read Node
  | 0, _, _, _ => fail
  | fuel + 1, verbose, outermost, first => do
    let node ← items fuel verbose (outermost && first) []
    if ← accept '|' then
      let globals := (← get).globals
      let inner := if outermost then globals.verbose else verbose
      return .alt node (← alternatives fuel inner outermost false)
    return node

/-- A sequence of items, up to a closing parenthesis, a bar or the end. `nodes` has those read so
far, last first; `atStart` holds in the first alternative outside all groups. -/
def items : (fuel : Nat) → (verbose atStart : Bool) → (nodes : List Node) → Read Node
  | 0, _, _, _ => fail
  | fuel + 1, verbose, atStart, nodes => do
    match ← peek with
    | none => return sequence nodes
    | some (.plain '|') => return sequence nodes
    | some (.plain ')') => return sequence nodes
    | some token =>
      let _ ← take
      match token with
      | .broken => fail
      | .escaped c =>
        items fuel verbose atStart ((← escape c) :: nodes)
      | .plain c =>
        if verbose && isPatternSpace c then items fuel verbose atStart nodes
        else if verbose && c == '#' then
          skipLine ((← get).tokens.length + 1)
          items fuel verbose atStart nodes
        else if c == '.' then items fuel verbose atStart (.any :: nodes)
        else if c == '^' then items fuel verbose atStart (.anchor .lineStart :: nodes)
        else if c == '$' then items fuel verbose atStart (.anchor .lineEnd :: nodes)
        else if c == '[' then items fuel verbose atStart ((← bracketed) :: nodes)
        else if c == '?' then items fuel verbose atStart (← repeatLast 0 (some 1) nodes)
        else if c == '*' then items fuel verbose atStart (← repeatLast 0 none nodes)
        else if c == '+' then items fuel verbose atStart (← repeatLast 1 none nodes)
        else if c == '\x7b' then
          match ← braced with
          | some (least, most) => items fuel verbose atStart (← repeatLast least most nodes)
          | none => items fuel verbose atStart (.single false c.toNat :: nodes)
        else if c == '(' then
          if ← accept '?' then extension fuel verbose atStart nodes
          else
            let index ← openGroup none
            let body ← alternatives fuel verbose false false
            expect ')'
            closeGroup index body
            items fuel verbose atStart (.group (some index) none body :: nodes)
        else items fuel verbose atStart (.single false c.toNat :: nodes)

/-- What follows `(?`. -/
def extension : (fuel : Nat) → (verbose atStart : Bool) → (nodes : List Node) → Read Node
  | 0, _, _, _ => fail
  | fuel + 1, verbose, atStart, nodes => do
    match ← take with
    | some (.plain c) =>
      if c == 'P' then
        if ← accept '<' then
          let groupName ← name '>'
          unless isName groupName do fail
          let index ← openGroup (some groupName)
          let body ← alternatives fuel verbose false false
          expect ')'
          closeGroup index body
          items fuel verbose atStart (.group (some index) none body :: nodes)
        else do
          expect '='
          let groupName ← name ')'
          unless isName groupName do fail
          match (← get).names.lookup groupName with
          | some index => items fuel verbose atStart ((← reference index) :: nodes)
          | none => fail
      else if c == ':' then
        let body ← alternatives fuel verbose false false
        expect ')'
        items fuel verbose atStart (.group none none body :: nodes)
      else if c == '>' then
        let body ← alternatives fuel verbose false false
        expect ')'
        items fuel verbose atStart (.atomic body :: nodes)
      else if c == '#' then
        skipComment ((← get).tokens.length + 1)
        items fuel verbose atStart nodes
      else if c == '=' || c == '!' then
        let body ← alternatives fuel verbose false false
        expect ')'
        items fuel verbose atStart (.ahead (c == '!') body :: nodes)
      else if c == '<' then
        let negated ← if ← accept '!' then pure true else do
          expect '='
          pure false
        let outer := (← get).behindFrom
        if outer.isNone then modify fun r => { r with behindFrom := some r.groups.length }
        let body ← alternatives fuel verbose false false
        modify fun r => { r with behindFrom := outer }
        expect ')'
        items fuel verbose atStart (.behind negated (← widthOf body) body :: nodes)
      else if c == '(' then
        let index ← conditionGroup (← name ')')
        checkBehind index
        let yes ← items fuel verbose false []
        let no ← if ← accept '|' then items fuel verbose false [] else pure .empty
        expect ')'
        items fuel verbose atStart (.conditional index yes no :: nodes)
      else if isSwitch c || c == '-' then
        match ← switchChange c with
        | .atRoot letters => do
          if !atStart || !nodes.isEmpty then fail
          modify fun r => { r with globals := r.globals.add letters }
          let r ← get
          items fuel r.globals.verbose atStart nodes
        | .inGroup on off => do
          let inner := (verbose || on.contains 'x') && !off.contains 'x'
          let body ← alternatives fuel inner false false
          expect ')'
          let change := ⟨switchesOf on, switchesOf off, on.contains 'u'⟩
          items fuel verbose atStart (.group none (some change) body :: nodes)
      else fail
    | _ => fail

end

/-- Reads a whole pattern under the given switches. -/
def whole (start : Globals) (tokens : List Token) : Except Fault Compiled := do
  if tokens.head? == some .broken then throw .invalid
  let reader : Reader := ⟨tokens, start, [], [], none, []⟩
  let (node, reader) ← (alternatives (4 * tokens.length + 8) start.verbose true true).run reader
  let globals := reader.globals
  if globals.switches.ascii && globals.fullClasses then throw .classesContradict
  if !reader.tokens.isEmpty then throw .invalid
  if reader.awaited.any (reader.groups.length < ·) then throw .invalid
  if !node.looksBackEvenly || (globals.template && node.repeats) then throw .invalid
  return ⟨node, globals.switches⟩

/-- Reads a pattern; letters are to be compared up to case unless it says otherwise. -/
def compile (text : List Char) : Except Fault Compiled :=
  whole ⟨⟨true, false, false, false⟩, false, false, false⟩ (Token.ofText text)

end SheetQuery.Pattern
