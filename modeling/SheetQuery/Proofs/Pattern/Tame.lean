import Mathlib.Algebra.Group.Nat.Defs
import Mathlib.Data.List.Basic
import Mathlib.Data.List.Induction
import SheetQuery.Pattern.Parser

/-!
# Patterns that are read or refused

Reading a pattern can fail in two ways: the text is no pattern, or it asks for something that cannot
be counted or contradicts itself. The second way takes a count of at least ten digits, or switches
set after `(?`. So it is closed to the tame texts, those with neither.

A step of reading is described by a triple: from a reader with the one property it comes to a value
and a reader with the other, or to an ordinary fault.

* `Read.Triple`: the description, with a rule for each way to put steps together;
* `IsTame`: ten digits never stand in a row, and no question mark follows a parenthesis;
* `isOrdinary_compile_of_isTame`: a tame text is a pattern or is refused as none.
-/

namespace SheetQuery.Pattern

/-! ## Tame texts -/

/-- Are there never ten digits in a row, and never a question mark right after a parenthesis? -/
structure IsTame (text : List Char) : Prop where
  digits : ∀ run, run <:+: text → (∀ c ∈ run, Text.isAsciiDigit c = true) → run.length < 10
  parenthesis : ¬ ['(', '?'] <:+: text

theorem IsTame.infix {run text : List Char} (h : IsTame text) (hrun : run <:+: text) :
    IsTame run where
  digits part hpart := h.digits part (hpart.trans hrun)
  parenthesis hpart := h.parenthesis (hpart.trans hrun)

/-- Are all the runs of plain characters among the tokens tame? -/
def AreTame (tokens : List Token) : Prop :=
  ∀ run : List Char, run.map Token.plain <:+: tokens → IsTame run

theorem AreTame.tail {token : Token} {tokens : List Token} (h : AreTame (token :: tokens)) :
    AreTame tokens :=
  fun run hrun => h run (hrun.trans (List.suffix_cons token tokens).isInfix)

/-- A run of plain tokens at the start of the tokens of a text is a run at its start. -/
theorem prefix_of_map_plain {run text : List Char}
    (h : run.map Token.plain <+: Token.ofText text) : run <+: text := by
  induction run generalizing text with
  | nil => exact List.nil_prefix
  | cons c run ih =>
    -- a run goes on through characters that stand for themselves
    fun_cases Token.ofText text with
    | case1 => simp [Token.ofText] at h
    | case2 => simp [Token.ofText] at h
    | case3 d rest => simp [Token.ofText] at h
    | case4 d rest hbroken hescaped =>
      rw [Token.ofText, List.map_cons, List.cons_prefix_cons] at h
      · obtain ⟨hc, hrest⟩ := h
        rw [Token.plain.injEq] at hc
        rw [hc, List.cons_prefix_cons]
        exact ⟨rfl, ih hrest⟩
      · exact hbroken
      · exact hescaped

theorem exists_ofText_of_suffix {tokens : List Token} {text : List Char}
    (h : tokens <:+ Token.ofText text) : ∃ rest, rest <:+ text ∧ Token.ofText rest = tokens := by
  fun_induction Token.ofText text with
  | case1 => exact ⟨[], List.suffix_rfl, (List.suffix_nil.mp h).symm⟩
  | case2 =>
    rcases List.suffix_cons_iff.mp h with rfl | h
    · exact ⟨_, List.suffix_rfl, rfl⟩
    · exact ⟨[], List.nil_suffix, (List.suffix_nil.mp h).symm⟩
  | case3 c rest ih =>
    rcases List.suffix_cons_iff.mp h with rfl | h
    · exact ⟨_, List.suffix_rfl, by rw [Token.ofText]⟩
    · obtain ⟨found, hfound, heq⟩ := ih h
      exact ⟨found, hfound.trans ((List.suffix_cons c rest).trans (List.suffix_cons _ _)), heq⟩
  | case4 c rest hbroken hescaped ih =>
    rcases List.suffix_cons_iff.mp h with rfl | h
    · exact ⟨_, List.suffix_rfl, by rw [Token.ofText] <;> assumption⟩
    · obtain ⟨found, hfound, heq⟩ := ih h
      exact ⟨found, hfound.trans (List.suffix_cons c rest), heq⟩

theorem areTame_ofText {text : List Char} (h : IsTame text) : AreTame (Token.ofText text) := by
  intro run hrun
  obtain ⟨before, hbefore, hsuffix⟩ := List.infix_iff_prefix_suffix.mp hrun
  obtain ⟨rest, hrest, rfl⟩ := exists_ofText_of_suffix hsuffix
  exact h.infix ((prefix_of_map_plain hbefore).isInfix.trans hrest.isInfix)

/-! ## Triples -/

/-- A reader from which no extraordinary fault can come: its tokens are tame, and no switch has been
set that could contradict another. -/
def Reader.IsSound (r : Reader) : Prop := AreTame r.tokens ∧ r.globals.fullClasses = false

namespace Read

variable {α β : Type} {P P' : Reader → Prop} {Q Q' : α → Reader → Prop} {R : β → Reader → Prop}

/-- From a reader with `P`, the step comes to a value and a reader with `Q`, or to the ordinary
fault. -/
def Triple (P : Reader → Prop) (step : Read α) (Q : α → Reader → Prop) : Prop :=
  ∀ r, P r → match step r with
    | .ok (value, next) => Q value next
    | .error fault => fault = .invalid

/-- The step keeps readers sound. -/
abbrev Keeps (step : Read α) : Prop := Triple Reader.IsSound step fun _ => Reader.IsSound

theorem Triple.pure {value : α} (h : ∀ r, P r → Q value r) : Triple P (pure value) Q := h

theorem Triple.fail : Triple P (fail : Read α) Q := fun _ _ => rfl

theorem Triple.bind {step : Read α} {next : α → Read β} (hstep : Triple P step Q)
    (hnext : ∀ value, Triple (Q value) (next value) R) : Triple P (step >>= next) R := by
  intro r hr
  have h := hstep r hr
  change match Except.bind (step r) fun found => next found.1 found.2 with
    | .ok (value, last) => R value last
    | .error fault => fault = .invalid
  cases hfound : step r with
  | error fault =>
    rw [hfound] at h
    exact h
  | ok found =>
    rw [hfound] at h
    exact hnext found.1 found.2 h

theorem Triple.mono {step : Read α} (h : Triple P step Q) (hpre : ∀ r, P' r → P r)
    (hpost : ∀ value r, Q value r → Q' value r) : Triple P' step Q' := by
  intro r hr
  have hfound := h r (hpre r hr)
  revert hfound
  cases step r with
  | error fault => exact id
  | ok found => exact hpost found.1 found.2

/-- What is known beforehand whatever the reader. -/
theorem Triple.given {known : Prop} {step : Read α} (h : known → Triple P step Q) :
    Triple (fun r => known ∧ P r) step Q := fun r hr => h hr.1 r hr.2

/-- What is known of the reader beforehand and not needed. -/
theorem Triple.forget {step : Read α} (h : Triple P step Q) :
    Triple (fun r => P' r ∧ P r) step Q := fun r hr => h r hr.2

theorem Triple.ite {c : Prop} [Decidable c] {yes no : Read α} (hyes : c → Triple P yes Q)
    (hno : Triple P no Q) : Triple P (if c then yes else no) Q := by
  split
  · next h => exact hyes h
  · exact hno

theorem keeps_pure (value : α) : Keeps (pure value) := Triple.pure fun _ hr => hr

theorem Keeps.bind {step : Read α} {next : α → Read β} (hstep : Keeps step)
    (hnext : ∀ value, Keeps (next value)) : Keeps (step >>= next) :=
  Triple.bind hstep hnext

theorem Keeps.ite {c : Prop} [Decidable c] {yes no : Read α} (hyes : Keeps yes) (hno : Keeps no) :
    Keeps (if c then yes else no) :=
  Triple.ite (fun _ => hyes) hno

/-- A refusal or nothing, and then the rest. -/
theorem Keeps.guard {c : Prop} [Decidable c] {rest : Unit → Read α} (h : Keeps (rest ())) :
    Keeps (if c then Read.fail >>= rest else rest ()) :=
  Keeps.ite (Triple.bind Triple.fail fun _ => h) h

theorem keeps_get : Keeps (get : Read Reader) := fun _ hr => hr

/-! ## Tokens -/

theorem keeps_peek : Keeps peek := fun _ hr => hr

theorem take_eq (r : Reader) : take r =
    match r.tokens with
    | [] => .ok (none, r)
    | token :: rest =>
      if rest.head? == some .broken then .error .invalid
      else .ok (some token, { r with tokens := rest }) := by
  obtain ⟨tokens, globals, groups, names, behindFrom, awaited⟩ := r
  cases tokens with
  | nil => rfl
  | cons token rest =>
    simp only [take, bind, StateT.bind, get, getThe, MonadStateOf.get, StateT.get, pure,
      Except.pure, Except.bind]
    split <;> rfl

/-- After a parenthesis, no question mark comes. -/
theorem triple_take (token : Option Token) :
    Triple (fun r => token = r.tokens.head? ∧ r.IsSound) take fun _ r =>
      (token = some (.plain '(') → r.tokens.head? ≠ some (.plain '?')) ∧ r.IsSound := by
  rintro r ⟨rfl, hr⟩
  rw [take_eq]
  cases htokens : r.tokens with
  | nil => exact ⟨nofun, hr⟩
  | cons token rest =>
    have htame : AreTame (token :: rest) := htokens ▸ hr.1
    dsimp only
    split
    · next found heq =>
      split at heq
      · cases heq
      · cases heq
        refine ⟨?_, htame.tail, hr.2⟩
        -- the two tokens would stand side by side in the pattern, which has no `(?`
        rintro htoken hquestion
        obtain rfl := Option.some.inj htoken
        obtain ⟨later, rfl⟩ := List.head?_eq_some_iff.mp hquestion
        exact (htame ['(', '?'] ⟨[], later, rfl⟩).parenthesis List.infix_rfl
    · next fault heq =>
      split at heq
      · exact (Except.error.inj heq).symm
      · cases heq

theorem keeps_take : Keeps take := by
  intro r hr
  exact (triple_take r.tokens.head?).mono (fun _ h => h) (fun _ _ h => h.2) r ⟨rfl, hr⟩

theorem triple_peek : Triple P peek fun token r => token = r.tokens.head? ∧ P r :=
  fun _ hr => ⟨rfl, hr⟩

theorem keeps_accept (c : Char) : Keeps (accept c) :=
  keeps_peek.bind fun _ => Keeps.ite (keeps_take.bind fun _ => keeps_pure true) (keeps_pure false)

/-- A character that does not come next is not taken. -/
theorem triple_accept_of_ne {c : Char} :
    Triple (fun r => r.tokens.head? ≠ some (.plain c) ∧ r.IsSound) (accept c)
      fun found r => found = false ∧ r.IsSound := by
  rintro r ⟨hhead, hr⟩
  have hnext : (r.tokens.head? == some (.plain c)) = false := by simpa using hhead
  have heq : accept c r = .ok (false, r) := by
    change (if (r.tokens.head? == some (.plain c)) = true then take >>= fun _ => pure true
      else (pure false : Read Bool)) r = _
    rw [hnext]
    rfl
  rw [heq]
  exact ⟨rfl, hr⟩

theorem keeps_expect (c : Char) : Keeps (expect c) :=
  (keeps_accept c).bind fun _ => Keeps.ite (keeps_pure ()) Triple.fail

theorem triple_take_cons {start : Reader} {token : Token} {rest : List Token}
    (h : start.tokens = token :: rest) :
    Triple (fun r => r = start) take fun _ r => r = { start with tokens := rest } := by
  rintro r rfl
  rw [take_eq, h]
  dsimp only
  split
  · next heq =>
    split at heq
    · cases heq
    · cases heq
      rfl
  · next heq =>
    split at heq
    · exact (Except.error.inj heq).symm
    · cases heq

/-- The characters taken are the plain tokens that came next. -/
theorem triple_takeWhile (p : Char → Bool) (limit : Nat) (start : Reader) :
    Triple (fun r => r = start) (takeWhile p limit) fun found r =>
      found.map Token.plain ++ r.tokens = start.tokens ∧ (∀ c ∈ found, p c = true) ∧
        r.globals = start.globals := by
  have hnothing : Triple (fun r => r = start) (pure [] : Read (List Char)) fun found r =>
      found.map Token.plain ++ r.tokens = start.tokens ∧ (∀ c ∈ found, p c = true) ∧
        r.globals = start.globals := by
    refine Triple.pure ?_
    rintro r rfl
    exact ⟨rfl, nofun, rfl⟩
  induction limit generalizing start with
  | zero => exact hnothing
  | succ limit ih =>
    refine Triple.bind triple_peek fun token => ?_
    split
    · next c =>
      split
      · next hc =>
        -- the head is taken, and the rest of the run after it
        rintro r ⟨hhead, rfl⟩
        obtain ⟨rest, htokens⟩ := List.head?_eq_some_iff.mp hhead.symm
        refine Triple.bind (triple_take_cons htokens) (fun _ => ?_) r rfl
        refine Triple.bind (ih { r with tokens := rest } ?_) fun found => Triple.pure ?_
        · refine Triple.pure ?_
          rintro s rfl
          exact ⟨rfl, nofun, rfl⟩
        · rintro s ⟨hrun, hall, hglobals⟩
          refine ⟨?_, ?_, hglobals⟩
          · rw [List.map_cons, List.cons_append, hrun, htokens]
          · exact List.forall_mem_cons.mpr ⟨hc, hall⟩
      · exact hnothing.mono (fun _ h => h.2) fun _ _ h => h
    · exact hnothing.mono (fun _ h => h.2) fun _ _ h => h

theorem keeps_takeWhile (p : Char → Bool) (limit : Nat) : Keeps (takeWhile p limit) := by
  induction limit with
  | zero => exact keeps_pure []
  | succ limit ih =>
    refine keeps_peek.bind fun token => ?_
    split
    · exact Keeps.ite (keeps_take.bind fun _ => ih.bind fun _ => keeps_pure _) (keeps_pure [])
    · exact keeps_pure []

end Read

open Read

theorem keeps_hexCode (count : Nat) : Keeps (hexCode count) :=
  (keeps_takeWhile _ _).bind fun _ => Keeps.guard (keeps_pure _)

theorem keeps_escapedCode (c : Char) : Keeps (escapedCode c) := by
  unfold escapedCode
  exact Keeps.ite (keeps_hexCode 2) (Keeps.ite (keeps_hexCode 4) (Keeps.ite (keeps_hexCode 8)
    (Keeps.ite Triple.fail (keeps_pure _))))

theorem keeps_setEscape (c : Char) : Keeps (setEscape c) := by
  unfold setEscape
  split
  · exact keeps_pure _
  · exact keeps_pure _
  · exact Keeps.ite ((keeps_takeWhile _ _).bind fun _ => Keeps.guard (keeps_pure _))
      ((keeps_escapedCode c).bind fun _ => keeps_pure _)

theorem keeps_setMember : ∀ token, Keeps (setMember token)
  | .plain _ => keeps_pure _
  | .escaped c => keeps_setEscape c
  | .broken => Triple.fail

theorem keeps_setMembers (limit : Nat) (members : List SetItem) :
    Keeps (setMembers limit members) := by
  induction limit generalizing members with
  | zero => exact Triple.fail
  | succ limit ih =>
    refine keeps_take.bind fun token => ?_
    split
    · exact Triple.fail
    · next token =>
      refine Keeps.ite (keeps_pure _) ((keeps_setMember token).bind fun low => ?_)
      refine (keeps_accept '-').bind fun found => Keeps.ite (keeps_take.bind fun next => ?_) (ih _)
      split
      · exact Triple.fail
      · exact keeps_pure _
      · next token hne =>
        refine (keeps_setMember token).bind fun high => ?_
        split
        · exact Keeps.guard (ih _)
        · exact Triple.fail

theorem keeps_bracketed : Keeps bracketed := by
  refine (keeps_accept '^').bind fun negated => keeps_get.bind fun r =>
    (keeps_setMembers _ _).bind fun members => ?_
  split
  · exact keeps_pure _
  · split <;> exact keeps_pure _

theorem keeps_isClosed (index : Nat) : Keeps (isClosed index) :=
  keeps_get.bind fun _ => keeps_pure _

theorem keeps_checkBehind (index : Nat) : Keeps (checkBehind index) := by
  refine keeps_get.bind fun r => ?_
  split
  · exact keeps_pure _
  · exact (keeps_isClosed index).bind fun _ => Keeps.ite (keeps_pure _) Triple.fail

theorem keeps_reference (index : Nat) : Keeps (reference index) := by
  refine (keeps_isClosed index).bind fun closed => ?_
  have hrest : ∀ start : Unit, Keeps (do checkBehind index; return Node.backReference index) :=
    fun _ => (keeps_checkBehind index).bind fun _ => keeps_pure _
  exact Keeps.ite (hrest ()) (Triple.bind Triple.fail hrest)

theorem keeps_escape (c : Char) : Keeps (escape c) := by
  unfold escape
  split
  · exact keeps_pure _
  · exact keeps_pure _
  · exact keeps_pure _
  · have hcode : Keeps (do return Node.single false (← escapedCode c)) :=
      (keeps_escapedCode c).bind fun _ => keeps_pure _
    refine Keeps.ite ((keeps_takeWhile _ _).bind fun _ => keeps_pure _) (Keeps.ite ?_ hcode)
    refine (keeps_takeWhile _ _).bind fun second => ?_
    -- the digits are a reference, or a character if there are three
    have hrest : ∀ third : List Char, Keeps (do
        if third.isEmpty then return ← reference (valueIn 10 (c :: second))
        let code := valueIn 8 (c :: second ++ third)
        if 0xFF < code then fail
        return Node.single false code) := fun third =>
      Keeps.ite (keeps_reference _) (Keeps.guard (keeps_pure _))
    exact Keeps.ite ((keeps_takeWhile _ _).bind hrest) ((keeps_pure []).bind hrest)

theorem keeps_skipLine (limit : Nat) : Keeps (skipLine limit) := by
  induction limit with
  | zero => exact keeps_pure ()
  | succ limit ih =>
    refine keeps_take.bind fun token => ?_
    split
    · exact keeps_pure ()
    · exact Keeps.ite (keeps_pure ()) ih

theorem keeps_appetite : Keeps appetite := by
  refine (keeps_accept '?').bind fun _ => Keeps.ite (keeps_pure _) ?_
  exact (keeps_accept '+').bind fun _ => Keeps.ite (keeps_pure _) (keeps_pure _)

theorem keeps_repeatLast (least : Nat) (most : Option Nat) (nodes : List Node) :
    Keeps (repeatLast least most nodes) := by
  unfold repeatLast
  split
  · exact Triple.fail
  · exact Triple.fail
  · exact Triple.fail
  · exact keeps_appetite.bind fun _ => keeps_pure _

theorem keeps_set {r : Reader} (h : r.IsSound) : Keeps (set r) := fun _ _ => h

theorem keeps_openGroup : Keeps (openGroup none) := by
  rintro r hr
  exact hr

theorem keeps_closeGroup (index : Nat) (body : Node) : Keeps (closeGroup index body) := by
  rintro r hr
  exact hr

theorem valueIn_lt (digits : List Char) (h : ∀ c ∈ digits, Text.isAsciiDigit c = true) :
    valueIn 10 digits < 10 ^ digits.length := by
  induction digits using List.reverseRecOn with
  | nil => decide
  | append_singleton digits c ih =>
    have hbefore := ih fun d hd => h d (List.mem_append_left _ hd)
    have hdigit : hexValue c ≤ 9 := by
      have hc := h c (by simp)
      simp only [Text.isAsciiDigit, Bool.and_eq_true, decide_eq_true_eq] at hc
      unfold hexValue
      split <;> omega
    unfold valueIn at hbefore ⊢
    rw [List.foldl_append, List.length_append, List.length_singleton, Nat.pow_succ]
    simp only [List.foldl_cons, List.foldl_nil]
    omega

/-- No count of fewer than ten digits is too large. -/
theorem keeps_countOf {digits : List Char} (hdigits : ∀ c ∈ digits, Text.isAsciiDigit c = true)
    (hlength : digits.length < 10) : Keeps (countOf digits) := by
  have hvalue : valueIn 10 digits < countLimit := by
    have hpow : 10 ^ digits.length ≤ 10 ^ 9 := Nat.pow_le_pow_right (by decide) (by omega)
    have hlt := valueIn_lt digits hdigits
    have hlimit : countLimit = 4294967295 := by decide
    omega
  unfold countOf
  have hshort : ¬ Numeral.maxIntegerDigits < digits.length := by
    simp only [Numeral.maxIntegerDigits]
    omega
  rw [if_neg hshort, if_neg (Nat.not_le.mpr hvalue)]
  exact keeps_pure _

/-- The digits that come next among tame tokens are fewer than ten. -/
theorem triple_takeDigits (limit : Nat) : Triple Reader.IsSound (takeWhile Text.isAsciiDigit limit)
    fun digits r =>
      ((∀ c ∈ digits, Text.isAsciiDigit c = true) ∧ digits.length < 10) ∧ r.IsSound := by
  intro r hr
  refine (triple_takeWhile Text.isAsciiDigit limit r).mono (fun _ h => h) ?_ r rfl
  rintro digits next ⟨hrun, hdigits, hglobals⟩
  have htame := hr.1
  rw [← hrun] at htame
  have hrunTame : IsTame digits := htame digits (List.prefix_append _ _).isInfix
  refine ⟨⟨hdigits, hrunTame.digits digits List.infix_rfl hdigits⟩, ?_, ?_⟩
  · exact fun run h => htame run (h.trans (List.suffix_append _ _).isInfix)
  · rw [hglobals]
    exact hr.2

theorem keeps_braced : Keeps braced := by
  refine Triple.bind (Q := fun start r => start.IsSound ∧ r.IsSound) (fun r hr => ⟨hr, hr⟩)
    fun start => Triple.given fun hstart => ?_
  refine keeps_peek.bind fun token => Keeps.ite (keeps_pure none) ?_
  refine Triple.bind (triple_takeDigits _) fun low => Triple.given fun ⟨hlow, hlowLength⟩ => ?_
  -- the second count, or the first one again
  have hrest : ∀ high : List Char,
      (∀ c ∈ high, Text.isAsciiDigit c = true) ∧ high.length < 10 → Keeps (do
        unless ← accept '}' do
          set start
          return none
        let least ← if low.isEmpty then pure 0 else countOf low
        if high.isEmpty then return some (least, none)
        let most ← countOf high
        if most < least then fail
        return some (least, some most)) := by
    rintro high ⟨hhigh, hhighLength⟩
    have hcounts : ∀ least : Nat, Keeps (do
        if high.isEmpty then return some (least, none)
        let most ← countOf high
        if most < least then fail
        return some (least, some most)) := fun least =>
      Keeps.ite (keeps_pure _)
        ((keeps_countOf hhigh hhighLength).bind fun _ => Keeps.guard (keeps_pure _))
    refine (keeps_accept '}').bind fun _ =>
      Keeps.ite ?_ ((keeps_set hstart).bind fun _ => keeps_pure _)
    exact Keeps.ite ((keeps_pure 0).bind hcounts) ((keeps_countOf hlow hlowLength).bind hcounts)
  refine (keeps_accept ',').bind fun _ => Keeps.ite ?_ (hrest low ⟨hlow, hlowLength⟩)
  exact Triple.bind (triple_takeDigits _) fun high => Triple.given (hrest high)

/-! ## The grammar -/

theorem keeps_items_alternatives (fuel : Nat) :
    (∀ verbose atStart nodes, Keeps (items fuel verbose atStart nodes)) ∧
      ∀ verbose outermost first, Keeps (alternatives fuel verbose outermost first) := by
  induction fuel with
  | zero => exact ⟨fun _ _ _ => Triple.fail, fun _ _ _ => Triple.fail⟩
  | succ fuel ih =>
    obtain ⟨hitems, halternatives⟩ := ih
    constructor
    · intro verbose atStart nodes
      unfold items
      have hrepeat : ∀ least most, Keeps (do
          items fuel verbose atStart (← repeatLast least most nodes)) := fun least most =>
        (keeps_repeatLast least most nodes).bind fun _ => hitems _ _ _
      refine Triple.bind triple_peek fun token => ?_
      split
      · exact (keeps_pure _).forget
      · exact (keeps_pure _).forget
      · exact (keeps_pure _).forget
      · next token hbar hclose =>
        refine Triple.bind (triple_take _) fun _ => ?_
        split
        · exact Triple.fail
        · exact ((keeps_escape _).bind fun _ => hitems _ _ _).forget
        · next c =>
          refine Triple.ite (fun _ => (hitems _ _ _).forget) ?_
          refine Triple.ite (fun _ => Triple.forget (keeps_get.bind fun _ =>
            (keeps_skipLine _).bind fun _ => hitems _ _ _)) ?_
          refine Triple.ite (fun _ => (hitems _ _ _).forget) ?_
          refine Triple.ite (fun _ => (hitems _ _ _).forget) ?_
          refine Triple.ite (fun _ => (hitems _ _ _).forget) ?_
          refine Triple.ite (fun _ => (keeps_bracketed.bind fun _ => hitems _ _ _).forget) ?_
          refine Triple.ite (fun _ => (hrepeat _ _).forget) ?_
          refine Triple.ite (fun _ => (hrepeat _ _).forget) ?_
          refine Triple.ite (fun _ => (hrepeat _ _).forget) ?_
          refine Triple.ite (fun _ => Triple.forget (keeps_braced.bind fun found => ?_)) ?_
          · split
            · exact hrepeat _ _
            · exact hitems _ _ _
          refine Triple.ite (fun hparenthesis => ?_) (hitems _ _ _).forget
          -- no question mark comes, so the extensions are out of reach
          refine Triple.bind (triple_accept_of_ne.mono ?_ fun _ _ h => h) fun found => ?_
          · rintro r ⟨hquestion, hr⟩
            exact ⟨hquestion (by rw [eq_of_beq hparenthesis]), hr⟩
          · refine Triple.given fun hfound => ?_
            rw [hfound, if_neg Bool.false_ne_true]
            exact keeps_openGroup.bind fun _ => (halternatives _ _ _).bind fun _ =>
              (keeps_expect _).bind fun _ => (keeps_closeGroup _ _).bind fun _ => hitems _ _ _
    · intro verbose outermost first
      unfold alternatives
      refine (hitems _ _ _).bind fun node => (keeps_accept '|').bind fun _ =>
        Keeps.ite ?_ (keeps_pure node)
      exact keeps_get.bind fun r => (halternatives _ _ _).bind fun _ => keeps_pure _

/-- The outcome is a value or the ordinary fault. -/
def IsOrdinary {α : Type} (outcome : Except Fault α) : Prop :=
  ∀ fault, outcome = .error fault → fault = .invalid

/-- A refusal or nothing, and then the rest. -/
theorem isOrdinary_guard {α : Type} {c : Prop} [Decidable c] {rest : PUnit → Except Fault α}
    (h : IsOrdinary (rest ())) :
    IsOrdinary (if c then throw Fault.invalid >>= rest else rest ()) := by
  intro fault hfault
  split at hfault
  · exact (Except.error.inj hfault).symm
  · exact h fault hfault

theorem isOrdinary_whole {start : Globals} {tokens : List Token} (htokens : AreTame tokens)
    (hstart : start.fullClasses = false) : IsOrdinary (whole start tokens) := by
  have hread := (keeps_items_alternatives (4 * tokens.length + 8)).2 start.verbose true true
    ⟨tokens, start, [], [], none, []⟩ ⟨htokens, hstart⟩
  unfold whole
  refine isOrdinary_guard ?_
  revert hread
  simp only [StateT.run]
  rcases alternatives (4 * tokens.length + 8) start.verbose true true
    ⟨tokens, start, [], [], none, []⟩ with fault | ⟨node, r⟩
  · rintro hread _ hfault
    exact (Except.error.inj hfault).symm.trans hread
  · rintro ⟨-, hglobals⟩
    -- without the switch for full classes, nothing contradicts
    have hclasses : ¬ (r.globals.switches.ascii && r.globals.fullClasses) = true := by
      rw [hglobals, Bool.and_false]
      exact Bool.false_ne_true
    change IsOrdinary (if (r.globals.switches.ascii && r.globals.fullClasses) = true then _ else _)
    rw [if_neg hclasses]
    exact isOrdinary_guard (isOrdinary_guard (isOrdinary_guard nofun))

/-- A tame text is a pattern or is refused as none. -/
theorem isOrdinary_compile_of_isTame {text : List Char} (h : IsTame text) :
    IsOrdinary (compile text) :=
  isOrdinary_whole (areTame_ofText h) rfl

end SheetQuery.Pattern
