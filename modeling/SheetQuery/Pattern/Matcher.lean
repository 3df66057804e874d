import SheetQuery.Pattern.Basic
import SheetQuery.Text.Case

/-!
# Matching patterns

A backtracking matcher. `Node.run` tries a node at a place of the text and hands every way to match
it, in order of preference, to a continuation; the first way the continuation accepts wins. A
repetition whose body matched nothing is not tried again from the same place, which bounds every
loop by the length of the text.
-/

namespace SheetQuery.Pattern

/-- Lower-casing of ASCII letters only. -/
def lowerAscii (n : Nat) : Nat := if 0x41 ≤ n && n ≤ 0x5A then n + 0x20 else n

/-- The lower-case form that characters are compared in. -/
def fold (s : Switches) (n : Nat) : Nat :=
  if !s.ignoreCase then n else if s.ascii then lowerAscii n else Text.lowerCode n

/-- The code points whose lower-case form is `n`. -/
def lowerPreimages (n : Nat) : List Nat :=
  let self := if Text.lowerCode n == n then [n] else []
  let ascii := if 0x61 ≤ n && n ≤ 0x7A then [n - 0x20] else []
  let others := Text.lowerRuns.filterMap fun run =>
    let m := ((n : Int) - run.offset).toNat
    if 0x80 ≤ m && run.covers m && Text.lowerCode m == n then some m else none
  self ++ ascii ++ others

namespace Category

/-- Does a character belong to the category? -/
def contains (ascii : Bool) (kind : Category) (c : Char) : Bool :=
  match kind with
  | .digit => if ascii then Text.isAsciiDigit c else Text.isDigit c
  | .space => if ascii then Text.isAsciiBlank c else Text.isBlank c
  | .word => if ascii then c.toNat < 0x80 && Text.isWordChar c else Text.isWordChar c

end Category

/-- The code points of the basic plane end here. -/
def basicPlaneEnd : Nat := 0x10000

namespace SetItem

/-- Does a folded code point match an item? Up to case, an item stands for every letter that shares
a lower- or upper-case form with one it names. Beyond the basic plane, only upper-casing of the
character is tried. -/
def contains (s : Switches) (item : SetItem) (n : Nat) : Bool :=
  match item with
  | .category kind negated => kind.contains s.ascii (Char.ofNat n) != negated
  | single code =>
    if !s.ignoreCase || basicPlaneEnd ≤ code then code == n
    else if s.ascii then lowerAscii code == n
    else (Text.caseClass (Text.lowerCode code)).contains n
  | range first last =>
    let within (m : Nat) : Bool := first ≤ m && m ≤ last
    if !s.ignoreCase then within n
    else
      let candidates :=
        if s.ascii then n :: (if 0x61 ≤ n && n ≤ 0x7A then [n - 0x20] else [])
        else (Text.caseClass n).flatMap lowerPreimages
      candidates.any (fun m => m < basicPlaneEnd && within m)
        || (basicPlaneEnd ≤ last && (within n || ((Text.upperCodes n).head?.any within)))

end SetItem

/-- Does a character match a single code point? -/
def matchesSingle (s : Switches) (code : Nat) (c : Char) : Bool :=
  if !s.ignoreCase then code == c.toNat
  else if s.ascii then lowerAscii code == lowerAscii c.toNat
  else (Text.caseClass (Text.lowerCode code)).contains (Text.lowerCode c.toNat)

/-- Does a character match a set? -/
def matchesSet (s : Switches) (negated : Bool) (items : List SetItem) (c : Char) : Bool :=
  (items.any fun item => item.contains s (fold s c.toNat)) != negated

/-- A place in the text, and what the groups closed so far have taken, latest first. -/
structure Progress where
  place : Nat
  groups : List (Nat × Nat × Nat)
deriving Repr

namespace Anchor

/-- Does the condition hold at a place? -/
def holds (s : Switches) (text : Array Char) (place : Nat) : Anchor → Bool
  | textStart => place == 0
  | textEnd => place == text.size
  | lineStart => place == 0 || (s.multiline && text[place - 1]? == some '\n')
  | lineEnd =>
    place == text.size || (text[place]? == some '\n' && (s.multiline || place + 1 == text.size))
  | boundary => text.size != 0 && before != after
  | noBoundary => text.size != 0 && before == after
where
  before : Bool := place != 0 && (text[place - 1]?).any (Category.word.contains s.ascii)
  after : Bool := (text[place]?).any (Category.word.contains s.ascii)

end Anchor

/-- What is still to be matched after a node. -/
abbrev Continuation := Progress → Option Progress

/-- Repeats `body` as often as possible. `count` repetitions are done; the last optional one began
at `last`. -/
def greedyLoop (body : Progress → Continuation → Option Progress) (least : Nat) (most : Option Nat)
    (next : Continuation) : (fuel count : Nat) → (last : Option Nat) → Continuation
  | 0, _, _, _ => none
  | fuel + 1, count, last, p =>
    if count < least then body p (greedyLoop body least most next fuel (count + 1) last)
    else
      let again :=
        if most.all (count < ·) && last != some p.place then
          body p (greedyLoop body least most next fuel (count + 1) (some p.place))
        else none
      again.orElse fun _ => next p

/-- Repeats `body` as rarely as possible. -/
def lazyLoop (body : Progress → Continuation → Option Progress) (least : Nat) (most : Option Nat)
    (next : Continuation) : (fuel count : Nat) → (last : Option Nat) → Continuation
  | 0, _, _, _ => none
  | fuel + 1, count, last, p =>
    if count < least then body p (lazyLoop body least most next fuel (count + 1) last)
    else
      (next p).orElse fun _ =>
        if most.all (count < ·) && last != some p.place then
          body p (lazyLoop body least most next fuel (count + 1) (some p.place))
        else none

/-- Repeats `body` as often as possible, each time in its most preferred way, and settles there. -/
def possessiveLoop (body : Progress → Continuation → Option Progress) (least : Nat)
    (most : Option Nat) : (fuel count : Nat) → (last : Option Nat) → Continuation
  | 0, _, _, _ => none
  | fuel + 1, count, last, p =>
    if count < least then
      match body p some with
      | some after => possessiveLoop body least most fuel (count + 1) last after
      | none => none
    else if most.all (count < ·) && last != some p.place then
      match body p some with
      | some after => possessiveLoop body least most fuel (count + 1) (some p.place) after
      | none => some p
    else some p

/-- What a group has taken, if it has been closed. -/
def Progress.group? (p : Progress) (index : Nat) : Option (Nat × Nat) := p.groups.lookup index

/-- Does the text from `place` on repeat the `length` characters from `start` on? -/
def repeatsAt (s : Switches) (text : Array Char) (start place length : Nat) : Bool :=
  (List.range length).all fun i =>
    match text[start + i]?, text[place + i]? with
    | some a, some b => fold s a.toNat == fold s b.toNat
    | _, _ => false

namespace Node

/-- Tries a node at a place; see the head of the module. -/
def run (text : Array Char) (s : Switches) : Node → Progress → Continuation → Option Progress
  | empty, p, next => next p
  | any, p, next =>
    match text[p.place]? with
    | some c => if s.dotAll || c != '\n' then next { p with place := p.place + 1 } else none
    | none => none
  | single negated code, p, next =>
    match text[p.place]? with
    | some c =>
      if matchesSingle s code c != negated then next { p with place := p.place + 1 } else none
    | none => none
  | set negated items, p, next =>
    match text[p.place]? with
    | some c =>
      if matchesSet s negated items c then next { p with place := p.place + 1 } else none
    | none => none
  | anchor a, p, next => if a.holds s text p.place then next p else none
  | seq first rest, p, next => run text s first p fun q => run text s rest q next
  | alt first rest, p, next => (run text s first p next).orElse fun _ => run text s rest p next
  | group index change body, p, next =>
    run text (change.elim s s.change) body p fun q =>
      match index with
      | some i => next { q with groups := (i, p.place, q.place) :: q.groups }
      | none => next q
  | atomic body, p, next => (run text s body p some).bind next
  | ahead negated body, p, next =>
    match run text s body p some with
    | some q => if negated then none else next { q with place := p.place }
    | none => if negated then next p else none
  | behind negated width body, p, next =>
    let found :=
      if width.low ≤ p.place then run text s body { p with place := p.place - width.low } some
      else none
    match found with
    | some q => if negated then none else next { q with place := p.place }
    | none => if negated then next p else none
  | repeated appetite least most body, p, next =>
    let fuel := least + text.size + 2
    match appetite with
    | .greedy => greedyLoop (run text s body) least most next fuel 0 none p
    | .lazy => lazyLoop (run text s body) least most next fuel 0 none p
    | .possessive => (possessiveLoop (run text s body) least most fuel 0 none p).bind next
  | backReference index, p, next =>
    match p.group? index with
    | some (start, stop) =>
      if repeatsAt s text start p.place (stop - start) then
        next { p with place := p.place + (stop - start) }
      else none
    | none => none
  | conditional index yes no, p, next =>
    if (p.group? index).isSome then run text s yes p next else run text s no p next

end Node

/-- Is there a place from which the pattern matches? -/
def Compiled.search (pattern : Compiled) (text : List Char) : Bool :=
  let chars := text.toArray
  (List.range (chars.size + 1)).any fun start =>
    (pattern.node.run chars pattern.switches ⟨start, []⟩ some).isSome

end SheetQuery.Pattern
