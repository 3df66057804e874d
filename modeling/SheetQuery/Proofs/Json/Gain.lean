import SheetQuery.Proofs.Json.Weight

/-!
# What reading JSON can gain

However a text is written, what is read from it weighs no more than the text, and no integer in it is
too long. The lexer keeps account of the weight that it holds, and the assembler of the amount that is
pending.

* `lex_cons_cases`, `ofLexemes_lex`: a step of the lexer, and a whole text;
* `Assembly.pending_step_le`, `Assembly.total_le_of_run`: a step of the assembler, and all lexemes;
* `total_weight_le_of_read`, `total_excess_of_read`: what is read.
-/

namespace SheetQuery.Json

/-! ## Lexemes -/

/-- The amount of a lexeme; that of a record stands with its closing brace. -/
def ofLexeme (m : Measure) : Lexeme → Nat
  | .scalar cell => m.total cell
  | .closeRecord => m.record
  | _ => 0

/-- Is a lexeme one that a word can be? -/
def IsWord : Lexeme → Prop
  | .scalar (.null) | .scalar (.bool _) | .scalar (.int _) | .scalar (.float _) | .fault _ => True
  | _ => False

theorem isWord_numeral (cs : List Char) : IsWord (numeral cs) := by
  unfold numeral
  split
  · trivial
  · dsimp only
    split_ifs
    · trivial
    · trivial
    · split <;> trivial
    · trivial
    · split <;> trivial

theorem isWord_word (cs : List Char) : IsWord (word cs) := by
  unfold word
  split_ifs
  iterate 6 trivial
  exact isWord_numeral cs

/-- A word has the weight of its text at most. -/
theorem weight_word_le (cs : List Char) : ofLexeme weight (word cs) ≤ heft cs := by
  have hword := isWord_word cs
  match hlexeme : word cs with
  | .scalar (.int n) =>
    -- the only numeral besides the printed one is that of minus zero
    obtain ⟨hwritten, -⟩ := writesLexeme_of_word hlexeme
    rcases hwritten.int_cases with rfl | ⟨rfl, rfl⟩
    · exact Nat.le_refl _
    · decide
  | .scalar .null | .scalar (.bool _) | .scalar (.float _) | .fault _ => exact Nat.zero_le _
  | .scalar (.text _) | .scalar (.list _) | .scalar (.record _) | .openList | .closeList
  | .openRecord | .closeRecord | .colon | .comma =>
    rw [hlexeme] at hword
    exact hword.elim

theorem excess_word (cs : List Char) :
    ofLexeme (excess (10 ^ Numeral.maxIntegerDigits)) (word cs) = 0 := by
  have hword := isWord_word cs
  match hlexeme : word cs with
  | .scalar (.int n) => exact excess_int_eq_zero_iff.mpr (writesLexeme_of_word hlexeme).2
  | .scalar .null | .scalar (.bool _) | .scalar (.float _) | .fault _ => rfl
  | .scalar (.text _) | .scalar (.list _) | .scalar (.record _) | .openList | .closeList
  | .openRecord | .closeRecord | .colon | .comma =>
    rw [hlexeme] at hword
    exact hword.elim

/-- Of the marks only the closing brace counts. -/
theorem ofLexeme_mark {c : Char} {lexeme : Lexeme} (h : mark? c = some lexeme) :
    ofLexeme weight lexeme ≤ heft [c] ∧ ∀ bound, ofLexeme (excess bound) lexeme = 0 := by
  unfold mark? at h
  simp only [beq_iff_eq] at h
  split_ifs at h with h₁ h₂ h₃ h₄ h₅ h₆
  · exact Option.some.inj h ▸ ⟨Nat.zero_le _, fun _ => rfl⟩
  · exact Option.some.inj h ▸ ⟨Nat.zero_le _, fun _ => rfl⟩
  · exact Option.some.inj h ▸ ⟨Nat.zero_le _, fun _ => rfl⟩
  · exact Option.some.inj h ▸ h₄ ▸ ⟨Nat.le_refl _, fun _ => rfl⟩
  · exact Option.some.inj h ▸ ⟨Nat.zero_le _, fun _ => rfl⟩
  · exact Option.some.inj h ▸ ⟨Nat.zero_le _, fun _ => rfl⟩

theorem weight_string_le (units : List Nat) :
    ofLexeme weight (.scalar (.text (String.ofList (joinSurrogates units.reverse)))) ≤
      (units.map unitWeight).sum := by
  have hjoined := sum_joinSurrogates_le units.reverse
  rw [List.map_reverse, List.sum_reverse] at hjoined
  simpa [ofLexeme, Measure.ofText] using hjoined

/-! ## Lexing -/

/-- The amount of several lexemes. -/
def ofLexemes (m : Measure) (lexemes : List Lexeme) : Nat := (lexemes.map (ofLexeme m)).sum

@[simp] theorem ofLexemes_nil (m : Measure) : ofLexemes m [] = 0 := rfl

@[simp] theorem ofLexemes_cons (m : Measure) (lexeme : Lexeme) (lexemes : List Lexeme) :
    ofLexemes m (lexeme :: lexemes) = ofLexeme m lexeme + ofLexemes m lexemes := rfl

namespace LexState

/-- The weight that has been read but not handed out. -/
def held : LexState → Nat
  | between => 0
  | inWord collected => heft collected
  | inString collected => (collected.map unitWeight).sum
  | inEscape collected => (collected.map unitWeight).sum
  | inHex collected value missing => (collected.map unitWeight).sum + zeros (4 - missing) value

/-- Are at most four hexadecimal digits read at a time? -/
def IsSound : LexState → Prop
  | inHex _ value missing => 1 ≤ missing ∧ missing ≤ 4 ∧ value < 16 ^ (4 - missing)
  | _ => True

end LexState

/-- A character that is collected as it is has its own weight. -/
theorem unitWeight_le_heft {c : Char} (h : 0x20 ≤ c.toNat) : unitWeight c.toNat ≤ heft [c] := by
  rcases escapeChar_cases c with ⟨letter, hletter, -⟩ | ⟨hlow, -⟩ | ⟨-, -, -, hprint⟩
  · rw [unitWeight_unescape hletter]
    exact Nat.zero_le _
  · omega
  · rw [unitWeight_toNat, hprint]

/-- A character has been read: `emitted` has been handed out, and the lexer goes on in `next`. No
weight has been gained, and no integer that is handed out is too long. -/
structure Advance (state : LexState) (c : Char) (emitted : List Lexeme) (next : LexState) :
    Prop where
  sound : next.IsSound
  light : ofLexemes weight emitted + next.held ≤ state.held + heft [c]
  short : ofLexemes (excess (10 ^ Numeral.maxIntegerDigits)) emitted = 0

/-- A step of the lexer within the four digits of a character. -/
theorem lex_inHex_cases {collected : List Nat} {value missing : Nat}
    (hsound : (LexState.inHex collected value missing).IsSound) (c : Char) (cs : List Char) :
    lex (.inHex collected value missing) (c :: cs) = [.fault .malformed] ∨
      ∃ emitted next, lex (.inHex collected value missing) (c :: cs) = emitted ++ lex next cs ∧
        Advance (.inHex collected value missing) c emitted next := by
  obtain ⟨hone, hfour, hvalue⟩ := hsound
  rw [lex]
  split
  · exact .inl rfl
  · next d hdigit =>
    -- while digits are missing, the zeros among those that were read stand in for the character
    have hd := (hexValue?_bounds hdigit).1
    have hheavy := zero_le_heft_digit hdigit
    have hzeros : zeros (4 - missing + 1) (16 * value + d) =
        zeros (4 - missing) value + if d = 0 then 1 else 0 := zeros_append hd
    have hnext : 16 * value + d < 16 ^ (4 - missing + 1) := by
      rw [Nat.pow_succ]
      omega
    have hdigits : 4 - missing + 1 = 4 - (missing - 1) := by omega
    split_ifs with hlast
    · obtain rfl : missing = 1 := by omega
      -- the last of the four digits completes the number of a character
      have hunit : unitWeight (16 * value + d) ≤ zeros (4 - 1 + 1) (16 * value + d) :=
        unitWeight_le_zeros hnext
      exact .inr ⟨[], .inString ((16 * value + d) :: collected), rfl, trivial,
        by simp [LexState.held] at hunit hzeros ⊢; omega, rfl⟩
    · rw [hdigits] at hzeros hnext
      exact .inr ⟨[], .inHex collected (16 * value + d) (missing - 1), rfl,
        ⟨by omega, by omega, hnext⟩, by simp [LexState.held]; omega, rfl⟩

/-- What the lexer does with a character: it advances, or the text is malformed. -/
theorem lex_cons_cases {state : LexState} (hsound : state.IsSound) (c : Char) (cs : List Char) :
    lex state (c :: cs) = [.fault .malformed] ∨
      ∃ emitted next, lex state (c :: cs) = emitted ++ lex next cs ∧ Advance state c emitted next := by
  -- each state hands out what it held at most, so the account is made up state by state
  cases state with
  | between =>
    rw [lex]
    split_ifs
    · exact .inr ⟨[], .between, rfl, trivial, Nat.zero_le _, rfl⟩
    · exact .inr ⟨[], .inString [], rfl, trivial, Nat.zero_le _, rfl⟩
    · split
      · next lexeme hmark =>
        obtain ⟨hweight, hexcess⟩ := ofLexeme_mark hmark
        exact .inr ⟨[lexeme], .between, rfl, trivial, by simpa [LexState.held] using hweight,
          hexcess _⟩
      · exact .inr ⟨[], .inWord [c], rfl, trivial, by simp [LexState.held], rfl⟩
  | inWord collected =>
    have hword := weight_word_le collected.reverse
    rw [heft_reverse] at hword
    have hshort := excess_word collected.reverse
    rw [lex]
    split_ifs
    · exact .inr ⟨[word collected.reverse], .between, rfl, trivial,
        by simp [LexState.held]; omega, hshort⟩
    · exact .inr ⟨[word collected.reverse], .inString [], rfl, trivial,
        by simp [LexState.held]; omega, hshort⟩
    · split
      · next lexeme hmark =>
        obtain ⟨hweight, hexcess⟩ := ofLexeme_mark hmark
        exact .inr ⟨[word collected.reverse, lexeme], .between, rfl, trivial,
          by simp [LexState.held]; omega, by simp [hshort, hexcess]⟩
      · exact .inr ⟨[], .inWord (c :: collected), rfl, trivial,
          by simp [LexState.held, heft_cons c collected, Nat.add_comm], rfl⟩
  | inString collected =>
    rw [lex]
    split_ifs with hquote hescape hlow
    · exact .inr ⟨[_], .between, rfl, trivial,
        Nat.le_trans (weight_string_le collected) (Nat.le_add_right _ _), excess_ofText _ _⟩
    · exact .inr ⟨[], .inEscape collected, rfl, trivial, by simp [LexState.held], rfl⟩
    · exact .inl rfl
    · have hchar := unitWeight_le_heft (Nat.not_lt.mp hlow)
      exact .inr ⟨[], .inString (c.toNat :: collected), rfl, trivial,
        by simp [LexState.held]; omega, rfl⟩
  | inEscape collected =>
    rw [lex]
    split_ifs
    · exact .inr ⟨[], .inHex collected 0 4, rfl, ⟨by decide, by decide, by decide⟩,
        by simp [LexState.held, zeros], rfl⟩
    · split
      · next n hletter =>
        exact .inr ⟨[], .inString (n :: collected), rfl, trivial,
          by simp [LexState.held, unitWeight_unescape hletter], rfl⟩
      · exact .inl rfl
  | inHex collected value missing => exact lex_inHex_cases hsound c cs

/-- At the end of the text a word is complete, or nothing counts. -/
theorem lex_nil_le (state : LexState) : ofLexemes weight (lex state []) ≤ state.held ∧
    ofLexemes (excess (10 ^ Numeral.maxIntegerDigits)) (lex state []) = 0 := by
  cases state with
  | inWord collected =>
    have hword := weight_word_le collected.reverse
    rw [heft_reverse] at hword
    exact ⟨hword, excess_word _⟩
  | between | inString collected | inEscape collected | inHex collected value missing =>
    exact ⟨Nat.zero_le _, rfl⟩

@[simp] theorem ofLexemes_append (m : Measure) (before after : List Lexeme) :
    ofLexemes m (before ++ after) = ofLexemes m before + ofLexemes m after := by
  simp [ofLexemes]

/-- Lexing gains no weight, and no integer that it hands out is too long. -/
theorem ofLexemes_lex (cs : List Char) : ∀ {state : LexState}, state.IsSound →
    ofLexemes weight (lex state cs) ≤ state.held + heft cs ∧
      ofLexemes (excess (10 ^ Numeral.maxIntegerDigits)) (lex state cs) = 0 := by
  induction cs with
  | nil => exact fun _ => lex_nil_le _
  | cons c cs ih =>
    intro state hsound
    rcases lex_cons_cases hsound c cs with hfault | ⟨emitted, next, hlex, hadvance⟩
    · rw [hfault]
      exact ⟨Nat.zero_le _, rfl⟩
    · obtain ⟨hweight, hexcess⟩ := ih hadvance.sound
      have hlight := hadvance.light
      rw [hlex, ofLexemes_append, ofLexemes_append, heft_cons, hadvance.short, hexcess]
      exact ⟨by omega, rfl⟩

/-! ## Assembling -/

namespace Assembly

/-- The steps of the assembler, one for each thing that can be read. -/
inductive Steps : Assembly → Lexeme → Assembly → Prop
  | value {expect : Expect} (h : TakesValue expect) (cell : Cell) (stack : List Frame) :
      Steps ⟨expect, stack⟩ (.scalar cell) (deliver cell stack)
  | openList {expect : Expect} (h : TakesValue expect) (stack : List Frame) :
      Steps ⟨expect, stack⟩ .openList ⟨.firstItem, .list [] :: stack⟩
  | openRecord {expect : Expect} (h : TakesValue expect) (stack : List Frame) :
      Steps ⟨expect, stack⟩ .openRecord ⟨.firstName, .record [] "" :: stack⟩
  | closeList {expect : Expect} (h : expect = .firstItem ∨ expect = .separator) (items : List Cell)
      (stack : List Frame) :
      Steps ⟨expect, .list items :: stack⟩ .closeList (deliver (.list items.reverse) stack)
  | closeRecord {expect : Expect} (h : expect = .firstName ∨ expect = .separator)
      (entries : Entries) (name : String) (stack : List Frame) :
      Steps ⟨expect, .record entries name :: stack⟩ .closeRecord (deliver (.record entries) stack)
  | name {expect : Expect} (h : TakesName expect) (entries : Entries) (last name : String)
      (stack : List Frame) : Steps ⟨expect, .record entries last :: stack⟩ (.scalar (.text name))
        ⟨.colon, .record entries name :: stack⟩
  | colon (stack : List Frame) : Steps ⟨.colon, stack⟩ .colon ⟨.value, stack⟩
  | nextItem (items : List Cell) (stack : List Frame) :
      Steps ⟨.separator, .list items :: stack⟩ .comma ⟨.value, .list items :: stack⟩
  | nextEntry (entries : Entries) (name : String) (stack : List Frame) :
      Steps ⟨.separator, .record entries name :: stack⟩ .comma ⟨.name, .record entries name :: stack⟩

theorem steps_of_step {a next : Assembly} {lexeme : Lexeme} (h : a.step lexeme = .ok next) :
    Steps a lexeme next := by
  obtain ⟨expect, stack⟩ := a
  simp only [step] at h
  split at h <;> cases h
  · exact .value (.inl rfl) _ _
  · exact .value (.inr rfl) _ _
  · exact .openList (.inl rfl) _
  · exact .openList (.inr rfl) _
  · exact .openRecord (.inl rfl) _
  · exact .openRecord (.inr rfl) _
  · exact .closeList (.inl rfl) _ _
  · exact .closeList (.inr rfl) _ _
  · exact .closeRecord (.inl rfl) _ _ _
  · exact .closeRecord (.inr rfl) _ _ _
  · exact .name (.inr rfl) _ _ _ _
  · exact .name (.inl rfl) _ _ _ _
  · exact .colon _
  · exact .nextItem _ _
  · exact .nextEntry _ _ _

variable (m : Measure)

/-- The amount of the complete parts of an open list or record. -/
def ofFrame : Frame → Nat
  | .list items => m.itemTotal items
  | .record entries _ => m.entryTotal entries

/-- The amount of an open list or record, with the name that waits for its value. -/
def ofWaiting : Frame → Nat
  | .list items => m.itemTotal items
  | .record entries name => m.entryTotal entries + m.ofText name

/-- The amount of several open lists and records in each other, all of which wait. -/
def ofStack (stack : List Frame) : Nat := (stack.map (ofWaiting m)).sum

/-- The amount of what has been assembled. -/
def pending : Assembly → Nat
  | ⟨.finish cell, _⟩ => m.total cell
  | ⟨.value, stack⟩ | ⟨.firstItem, stack⟩ | ⟨.colon, stack⟩ => ofStack m stack
  | ⟨.firstName, frame :: stack⟩ | ⟨.name, frame :: stack⟩ | ⟨.separator, frame :: stack⟩ =>
    ofFrame m frame + ofStack m stack
  | ⟨.firstName, []⟩ | ⟨.name, []⟩ | ⟨.separator, []⟩ => 0

@[simp] theorem ofStack_cons (frame : Frame) (stack : List Frame) :
    ofStack m (frame :: stack) = ofWaiting m frame + ofStack m stack := rfl

theorem pending_of_takesValue {expect : Expect} (h : TakesValue expect) (stack : List Frame) :
    pending m ⟨expect, stack⟩ = ofStack m stack := by
  rcases h with rfl | rfl <;> rfl

theorem pending_deliver_le (cell : Cell) (stack : List Frame) :
    pending m (deliver cell stack) ≤ m.total cell + ofStack m stack := by
  match stack with
  | [] => exact Nat.le_refl _
  | .list items :: stack =>
    simp [deliver, pending, ofFrame, ofWaiting, Nat.add_assoc]
  | .record entries name :: stack =>
    have := m.entryTotal_put_le name cell entries
    simp only [deliver, pending, ofFrame, ofStack_cons, ofWaiting]
    omega

/-- A lexeme adds at most its own amount. -/
theorem pending_step_le {a next : Assembly} {lexeme : Lexeme} (h : a.step lexeme = .ok next) :
    pending m next ≤ pending m a + ofLexeme m lexeme := by
  -- only the end of a record adds something that its parts do not have: its closing brace
  cases steps_of_step h with
  | value hexpect cell stack =>
    rw [pending_of_takesValue m hexpect, Nat.add_comm]
    exact pending_deliver_le m cell stack
  | openList hexpect stack =>
    rw [pending_of_takesValue m hexpect]
    simp [pending, ofWaiting]
  | openRecord hexpect stack =>
    rw [pending_of_takesValue m hexpect]
    simp [pending, ofFrame]
  | closeList hexpect items stack =>
    have := pending_deliver_le m (.list items.reverse) stack
    rw [Measure.total_list, m.itemTotal_reverse] at this
    rcases hexpect with rfl | rfl <;> exact this
  | @closeRecord expect hexpect entries name stack =>
    have := pending_deliver_le m (.record entries) stack
    rw [Measure.total_record] at this
    have htop : pending m ⟨expect, .record entries name :: stack⟩ =
        m.entryTotal entries + ofStack m stack := by
      rcases hexpect with rfl | rfl <;> rfl
    rw [htop, ofLexeme]
    omega
  | name hexpect entries last name stack =>
    rcases hexpect with rfl | rfl <;>
      simp only [pending, ofFrame, ofStack_cons, ofWaiting, ofLexeme, Measure.total_text] <;> omega
  | colon stack | nextItem items stack | nextEntry entries name stack => exact Nat.le_refl _

/-- What is assembled has no more than what has been assembled before and the lexemes. -/
theorem total_le_of_run {lexemes : List Lexeme} {a : Assembly} {cell : Cell}
    (h : a.run lexemes = .ok cell) : m.total cell ≤ pending m a + ofLexemes m lexemes := by
  induction lexemes generalizing a with
  | nil =>
    -- reading ends well only in the state that holds a
    -- complete cell, and nothing is pending there but it
    obtain ⟨expect, stack⟩ := a
    cases expect with
    | finish complete =>
      cases h
      exact Nat.le_refl _
    | value | firstItem | firstName | name | colon | separator => cases h
  | cons lexeme lexemes ih =>
    rw [run] at h
    split at h
    · next next hstep =>
      have hnext := pending_step_le m hstep
      have hrest := ih h
      rw [ofLexemes_cons]
      omega
    · cases h

end Assembly

/-! ## Reading -/

/-- From the start of a text nothing is held. -/
theorem ofLexemes_lex_between (cs : List Char) : ofLexemes weight (lex .between cs) ≤ heft cs ∧
    ofLexemes (excess (10 ^ Numeral.maxIntegerDigits)) (lex .between cs) = 0 := by
  have hsound : LexState.between.IsSound := trivial
  have hlex := ofLexemes_lex cs hsound
  rwa [LexState.held, Nat.zero_add] at hlex

/-- What is read weighs no more than its text. -/
theorem total_weight_le_of_read {cs : List Char} {cell : Cell} (h : read cs = .ok cell) :
    weight.total cell ≤ heft cs := by
  calc weight.total cell
    _ ≤ 0 + ofLexemes weight (lex .between cs) := Assembly.total_le_of_run weight h
    _ ≤ 0 + heft cs := Nat.add_le_add_left (ofLexemes_lex_between cs).1 0
    _ = heft cs := Nat.zero_add _

/-- No integer that is read is too long. -/
theorem total_excess_of_read {cs : List Char} {cell : Cell} (h : read cs = .ok cell) :
    (excess (10 ^ Numeral.maxIntegerDigits)).total cell = 0 := by
  apply Nat.le_zero.mp
  calc (excess (10 ^ Numeral.maxIntegerDigits)).total cell
    _ ≤ 0 + ofLexemes (excess (10 ^ Numeral.maxIntegerDigits)) (lex .between cs) :=
      Assembly.total_le_of_run _ h
    _ = 0 := by rw [(ofLexemes_lex_between cs).2]

end SheetQuery.Json
