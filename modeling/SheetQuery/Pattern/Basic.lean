import SheetQuery.Numeric.Numeral

/-!
# Search patterns

The regular expressions that a `regex` leaf searches with: classes, groups, back references,
lookaround, conditionals, and greedy, lazy and possessive repetition.

A pattern is a tree of `Node`s together with the switches that hold at its root. Characters are kept
as code points, since a pattern may name surrogates, which no text contains.
-/

namespace SheetQuery.Pattern

/-- What a pattern may be switched to: letters compared up to case, `^` and `$` at every line, `.`
also for line ends, character classes restricted to ASCII. -/
structure Switches where
  ignoreCase : Bool
  multiline : Bool
  dotAll : Bool
  ascii : Bool
deriving DecidableEq, Repr

/-- A local change of switches: those turned on, those turned off, and a return to the full
character classes. -/
structure Change where
  on : Switches
  off : Switches
  fullClasses : Bool
deriving DecidableEq, Repr

namespace Switches

def none : Switches := ⟨false, false, false, false⟩

/-- The switches after a local change. -/
def change (s : Switches) (c : Change) : Switches where
  ignoreCase := (s.ignoreCase || c.on.ignoreCase) && !c.off.ignoreCase
  multiline := (s.multiline || c.on.multiline) && !c.off.multiline
  dotAll := (s.dotAll || c.on.dotAll) && !c.off.dotAll
  ascii := (s.ascii && !c.fullClasses) || c.on.ascii

end Switches

/-- The named classes of characters. -/
inductive Category where
  | digit | space | word
deriving DecidableEq, Repr

/-- A member of a bracketed set. -/
inductive SetItem where
  | single (code : Nat)
  | range (first last : Nat)
  | category (category : Category) (negated : Bool)
deriving DecidableEq, Repr

/-- A condition on a place in the text. -/
inductive Anchor where
  | lineStart | textStart | lineEnd | textEnd | boundary | noBoundary
deriving DecidableEq, Repr

/-- How a repetition chooses its count: as many as possible, as few as possible, or as many as
possible without ever giving any back. -/
inductive Appetite where
  | greedy | lazy | possessive
deriving DecidableEq, Repr

/-- The least and greatest number of characters that a node takes. -/
structure Width where
  low : Nat
  high : Nat
deriving DecidableEq, Repr

/-- A pattern without its switches. -/
inductive Node where
  | empty
  | any
  | single (negated : Bool) (code : Nat)
  | set (negated : Bool) (items : List SetItem)
  | anchor (anchor : Anchor)
  | seq (first rest : Node)
  | alt (first rest : Node)
  | group (index : Option Nat) (change : Option Change) (body : Node)
  | atomic (body : Node)
  | ahead (negated : Bool) (body : Node)
  | behind (negated : Bool) (width : Width) (body : Node)
  | repeated (appetite : Appetite) (least : Nat) (most : Option Nat) (body : Node)
  | backReference (index : Nat)
  | conditional (index : Nat) (yes no : Node)
deriving Repr

/-- Why a text is no pattern. Only `invalid` is an ordinary fault of spelling; the others concern
numbers too large to be counted and a contradiction between global switches. -/
inductive Fault where
  | invalid
  | repeatTooLarge
  | numeralTooLong (digits : Nat)
  | classesContradict
deriving DecidableEq, Repr

/-- The wording of a fault. -/
def Fault.message : Fault → String
  | invalid => "invalid pattern"
  | repeatTooLarge => "the repetition number is too large"
  | numeralTooLong digits => Numeral.lengthRefusal digits
  | classesContradict => "ASCII and UNICODE flags are incompatible"

/-- A pattern ready to search with: its tree and the switches that hold at the root. -/
structure Compiled where
  node : Node
  switches : Switches
deriving Repr

namespace Width

/-- No width counts as larger than this. -/
def limit : Nat := Nat.pow 2 64

def zero : Width := ⟨0, 0⟩

def cap (w : Width) : Width := ⟨min w.low limit, min w.high limit⟩

def add (a b : Width) : Width := cap ⟨a.low + b.low, a.high + b.high⟩

/-- The width of a choice between two. -/
def choice (a b : Width) : Width := ⟨min a.low b.low, max a.high b.high⟩

/-- The width of a repetition. -/
def times (w : Width) (least : Nat) (most : Option Nat) : Width :=
  cap ⟨w.low * least, match most with
    | some n => w.high * n
    | none => if w.high == 0 then 0 else limit⟩

end Width

namespace Node

/-- The width of a node, given the widths of the groups it refers to. -/
def width (groups : Nat → Width) : Node → Width
  | empty => .zero
  | any => ⟨1, 1⟩
  | single .. => ⟨1, 1⟩
  | set .. => ⟨1, 1⟩
  | anchor _ => .zero
  | seq first rest => (width groups first).add (width groups rest)
  | alt first rest => (width groups first).choice (width groups rest)
  | group _ _ body => width groups body
  | atomic body => width groups body
  | ahead .. => .zero
  | behind .. => .zero
  | repeated _ least most body => (width groups body).times least most
  | backReference index => groups index
  | conditional _ yes no => (width groups yes).choice (width groups no)

/-- Does every look behind have one width, small enough to step back by? -/
def looksBackEvenly : Node → Bool
  | seq first rest => looksBackEvenly first && looksBackEvenly rest
  | alt first rest => looksBackEvenly first && looksBackEvenly rest
  | group _ _ body => looksBackEvenly body
  | atomic body => looksBackEvenly body
  | ahead _ body => looksBackEvenly body
  | behind _ width body =>
    width.low == width.high && width.low < Nat.pow 2 32 && looksBackEvenly body
  | repeated _ _ _ body => looksBackEvenly body
  | conditional _ yes no => looksBackEvenly yes && looksBackEvenly no
  | _ => true

/-- Is there a repetition anywhere? -/
def repeats : Node → Bool
  | seq first rest => repeats first || repeats rest
  | alt first rest => repeats first || repeats rest
  | group _ _ body => repeats body
  | atomic body => repeats body
  | ahead _ body => repeats body
  | behind _ _ body => repeats body
  | repeated .. => true
  | conditional _ yes no => repeats yes || repeats no
  | _ => false

end Node

end SheetQuery.Pattern
