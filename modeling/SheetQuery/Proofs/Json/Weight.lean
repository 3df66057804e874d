import SheetQuery.Proofs.Cell.Measure
import SheetQuery.Proofs.Json.Reading

/-!
# Weights of JSON texts

Three characters are weighed in a text: the closing brace, the back tick and the digit zero. A cell
weighs what its printed text weighs, and however else its texts are written, they weigh no less. Zeros
count because a heavy character can be written with four hexadecimal digits, of which two are zeros.

* `weight`: the weight of a cell, which is that of its printed text (`heft_print`);
* `excess`: how many integers of a cell are too long;
* `sum_joinSurrogates_le`: a text weighs no more than the numbers of its characters.
-/

namespace SheetQuery.Json

/-! ## Weights -/

/-- The characters that are weighed. -/
def isHeavy (c : Char) : Bool := c == '}' || c == '`' || c == '0'

/-- The weight of a text. -/
def heft (cs : List Char) : Nat := cs.countP isHeavy

@[simp] theorem heft_nil : heft [] = 0 := rfl

@[simp] theorem heft_append (xs ys : List Char) : heft (xs ++ ys) = heft xs + heft ys :=
  List.countP_append

theorem heft_cons (c : Char) (cs : List Char) : heft (c :: cs) = heft [c] + heft cs :=
  heft_append [c] cs

theorem heft_reverse (cs : List Char) : heft cs.reverse = heft cs := List.countP_reverse

/-- The weight of a cell: that of what it is printed as. -/
def weight : Measure := ⟨fun c => heft (escapeChar c), fun n => heft (intChars n), 1⟩

theorem weight_char (c : Char) : weight.char c = heft (escapeChar c) := rfl

/-- Only integers from a bound on count. -/
def excess (bound : Nat) : Measure := ⟨fun _ => 0, fun n => if n.natAbs < bound then 0 else 1, 0⟩

theorem excess_int_eq_zero_iff {bound : Nat} {n : Int} :
    (excess bound).int n = 0 ↔ n.natAbs < bound := by
  simp [excess]

@[simp] theorem excess_ofText (bound : Nat) (s : String) : (excess bound).ofText s = 0 := by
  simp [Measure.ofText, excess]

/-! ## Characters -/

theorem heft_eq_zero_of_le {c : Char} (h : 0x80 ≤ c.toNat) : heft [c] = 0 := by
  have hne : ∀ d : Char, d.toNat < 0x80 → c ≠ d := by
    rintro d hd rfl
    omega
  simp [heft, isHeavy, hne '}' (by decide), hne '`' (by decide), hne '0' (by decide)]

theorem heft_escapeChar_of_le {c : Char} (h : 0x80 ≤ c.toNat) : heft (escapeChar c) = 0 := by
  have hletters : ∀ letter, unescape? letter = some c.toNat → False := by
    intro letter hletter
    unfold unescape? at hletter
    split_ifs at hletter with hself
    · rw [← Option.some.inj hletter] at h
      simp only [Bool.or_eq_true, beq_iff_eq] at hself
      rcases hself with (rfl | rfl) | rfl <;> exact absurd h (by decide)
    all_goals have := Option.some.inj hletter; omega
  rcases escapeChar_cases c with ⟨letter, hletter, -⟩ | ⟨hlow, -⟩ | ⟨-, -, -, hprint⟩
  · exact (hletters letter hletter).elim
  · omega
  · rw [hprint, heft_eq_zero_of_le h]

/-- The weight of the character that a number is collected for; a half of a character has none. -/
def unitWeight (n : Nat) : Nat :=
  if 0xD800 ≤ n ∧ n < 0xE000 then 0 else heft (escapeChar (Char.ofNat n))

/-- How many of the last `digits` hexadecimal digits of a number are zeros? -/
def zeros : (digits : Nat) → Nat → Nat
  | 0, _ => 0
  | digits + 1, n => zeros digits (n / 16) + if n % 16 = 0 then 1 else 0

/-- A character weighs no more than the zeros that it can be written with. -/
theorem unitWeight_le_zeros {n : Nat} (h : n < 16 ^ 4) : unitWeight n ≤ zeros 4 n := by
  -- beyond ASCII nothing is heavy, and the rest can be gone through
  by_cases hlow : n < 0x80
  · have hall : ∀ n < 0x80, unitWeight n ≤ zeros 4 n := by decide
    exact hall n hlow
  · rw [unitWeight]
    split
    · exact Nat.zero_le _
    · next hsurrogate =>
      have hvalid : n.isValidChar := by
        rw [Nat.isValidChar]
        omega
      have hcode : (Char.ofNat n).toNat = n := Text.toNat_ofNat hvalid
      rw [heft_escapeChar_of_le (by omega)]
      exact Nat.zero_le _

theorem unitWeight_toNat (c : Char) : unitWeight c.toNat = heft (escapeChar c) := by
  rw [unitWeight, if_neg (toNat_not_surrogate c), Char.ofNat_toNat]

/-- A hexadecimal digit stands for a number below 16, and only one of them for zero. -/
theorem hexValue?_bounds {d : Char} {v : Nat} (h : hexValue? d = some v) :
    v < 16 ∧ (v = 0 → d = '0') := by
  unfold hexValue? at h
  split_ifs at h with h₁ h₂ h₃
  · have := Option.some.inj h
    have hcode : '0'.toNat = 0x30 := rfl
    simp only [Text.isAsciiDigit, Bool.and_eq_true, decide_eq_true_eq] at h₁
    exact ⟨by omega, fun hzero => Text.toNat_inj (by omega)⟩
  · have := Option.some.inj h
    simp only [Bool.and_eq_true, decide_eq_true_eq] at h₂
    omega
  · have := Option.some.inj h
    simp only [Bool.and_eq_true, decide_eq_true_eq] at h₃
    omega

/-- A digit that stands for zero is heavy. -/
theorem zero_le_heft_digit {d : Char} {v : Nat} (h : hexValue? d = some v) :
    (if v = 0 then 1 else 0) ≤ heft [d] := by
  split
  · next hzero =>
    rw [(hexValue?_bounds h).2 hzero]
    decide
  · exact Nat.zero_le _

theorem zeros_append {digits value v : Nat} (h : v < 16) :
    zeros (digits + 1) (16 * value + v) = zeros digits value + if v = 0 then 1 else 0 := by
  have hdiv : (16 * value + v) / 16 = value := by omega
  have hmod : (16 * value + v) % 16 = v := by omega
  rw [zeros, hdiv, hmod]

theorem unitWeight_unescape {letter : Char} {n : Nat} (h : unescape? letter = some n) :
    unitWeight n = 0 := by
  unfold unescape? at h
  split_ifs at h with hself
  · rw [← Option.some.inj h]
    simp only [Bool.or_eq_true, beq_iff_eq] at hself
    rcases hself with (rfl | rfl) | rfl <;> decide
  all_goals rw [← Option.some.inj h]; decide

/-- A number that stands alone has the weight of what it stands for. -/
theorem heft_lone_le (n : Nat) : heft (escapeChar
    (if 0xD800 ≤ n && n < 0xE000 then Char.ofNat 0xFFFD else Char.ofNat n)) ≤ unitWeight n := by
  rw [unitWeight]
  by_cases h : 0xD800 ≤ n ∧ n < 0xE000
  · rw [if_pos (by simpa using h), if_pos h]
    decide
  · rw [if_neg (by simpa using h), if_neg h]

/-- Two halves stand for a character without weight. -/
theorem weight_pair {n high low : Nat} (hhigh : high < 0x400) (hlow : low < 0x400)
    (hn : n = 0x10000 + high * 0x400 + low) : weight.char (Char.ofNat n) = 0 := by
  have hvalid : n.isValidChar := by
    rw [Nat.isValidChar]
    omega
  apply heft_escapeChar_of_le
  rw [Text.toNat_ofNat hvalid]
  omega

/-- The weight of a collected text is at most that of the numbers that are collected for it. -/
theorem sum_joinSurrogates_le : ∀ units : List Nat,
    ((joinSurrogates units).map weight.char).sum ≤ (units.map unitWeight).sum
  | [] => Nat.le_refl _
  | [n] => by
    have := heft_lone_le n
    simpa [joinSurrogates, weight_char] using this
  | n :: m :: rest => by
    rw [joinSurrogates]
    split
    · next hpair =>
      -- the character of a pair is none that has weight
      simp only [Bool.and_eq_true, decide_eq_true_eq] at hpair
      have hzero := @weight_pair _ (n - 0xD800) (m - 0xDC00) (by omega) (by omega) rfl
      have hrest := sum_joinSurrogates_le rest
      rw [List.map_cons, List.sum_cons, hzero, List.map_cons, List.map_cons, List.sum_cons,
        List.sum_cons]
      omega
    · have hlone := heft_lone_le n
      have hrest := sum_joinSurrogates_le (m :: rest)
      simp only [List.map_cons, List.sum_cons, weight_char] at hrest ⊢
      omega

/-! ## Cells -/

theorem heft_quote (s : String) : heft (quote s) = weight.ofText s := by
  have hinner : heft (s.toList.flatMap escapeChar) = weight.ofText s := List.countP_flatMap
  rw [quote, heft_append, heft_cons, hinner]
  simp [heft, isHeavy]

mutual

/-- The printed text of a cell has the weight of the cell. -/
theorem heft_print : ∀ {cell : Cell}, (∀ part ∈ cell.parts, part.IsExact) →
    heft (print cell) = weight.total cell
  | .list items, h => by
    have hitems := heft_printItems fun part hpart => h part (List.mem_cons_of_mem _ hpart)
    have hbrackets : heft ['['] = 0 ∧ heft [']'] = 0 := by decide
    rw [print, heft_append, heft_cons, hitems, hbrackets.1, hbrackets.2, Measure.total_list]
    omega
  | .record entries, h => by
    have hentries := heft_printEntries fun part hpart => h part (List.mem_cons_of_mem _ hpart)
    have hbraces : heft ['{'] = 0 ∧ heft ['}'] = 1 ∧ weight.record = 1 := by decide
    rw [print, heft_append, heft_cons, hentries, hbraces.1, hbraces.2.1, Measure.total_record,
      hbraces.2.2]
    omega
  | .null, _ => rfl
  | .bool true, _ | .bool false, _ => rfl
  | .int _, _ => rfl
  | .float _, h => (h _ List.mem_cons_self).elim
  | .text s, _ => heft_quote s

theorem heft_printItems : ∀ {items : List Cell}, (∀ part ∈ Cell.itemParts items, part.IsExact) →
    heft (printItems items) = weight.itemTotal items
  | [], _ => rfl
  | [item], h => by
    rw [printItems, heft_print fun part hpart => h part (by simp [Cell.itemParts, hpart])]
    rfl
  | item :: next :: items, h => by
    rw [Cell.itemParts] at h
    simp only [List.mem_append] at h
    have hcomma : heft [',', ' '] = 0 := by decide
    rw [printItems, heft_append, heft_append, hcomma,
      heft_print fun part hpart => h part (.inl hpart),
      heft_printItems fun part hpart => h part (.inr hpart), weight.itemTotal_cons item,
      Nat.add_zero]

theorem heft_printEntries : ∀ {entries : List (String × Cell)},
    (∀ part ∈ Cell.entryParts entries, part.IsExact) →
    heft (printEntries entries) = weight.entryTotal entries
  | [], _ => rfl
  | [(name, cell)], h => by
    have hcolon : heft [':', ' '] = 0 := by decide
    rw [printEntries, heft_append, heft_append, hcolon, heft_quote,
      heft_print fun part hpart => h part (by simp [Cell.entryParts, hpart])]
    rfl
  | (name, cell) :: next :: entries, h => by
    rw [Cell.entryParts] at h
    simp only [List.mem_append] at h
    have hcolon : heft [':', ' '] = 0 := by decide
    have hcomma : heft [',', ' '] = 0 := by decide
    rw [printEntries, heft_append, heft_append, heft_append, heft_append, hcolon, hcomma,
      heft_quote, heft_print fun part hpart => h part (.inl hpart),
      heft_printEntries fun part hpart => h part (.inr hpart), weight.entryTotal_cons name cell,
      Nat.add_zero, Nat.add_zero]

end

mutual

/-- If no integer of a cell counts as too long, all of them are short. -/
theorem isShort_of_total_excess {bound : Nat} (hbound : bound ≤ 10 ^ Numeral.maxIntegerDigits) :
    ∀ {cell : Cell}, (excess bound).total cell = 0 → ∀ part ∈ cell.parts, part.IsShort
  | .list items, h, part, hpart => by
    rcases List.mem_cons.mp hpart with rfl | hpart
    · trivial
    · exact isShort_of_itemTotal_excess hbound h part hpart
  | .record entries, h, part, hpart => by
    rcases List.mem_cons.mp hpart with rfl | hpart
    · trivial
    · rw [Measure.total_record] at h
      exact isShort_of_entryTotal_excess hbound (Nat.eq_zero_of_add_eq_zero_left h) part hpart
  | .int n, h, part, hpart => by
    rw [List.mem_singleton.mp hpart]
    exact Nat.lt_of_lt_of_le (excess_int_eq_zero_iff.mp h) hbound
  | .null, _, part, hpart | .bool _, _, part, hpart | .float _, _, part, hpart
  | .text _, _, part, hpart => by
    rw [List.mem_singleton.mp hpart]
    trivial

theorem isShort_of_itemTotal_excess {bound : Nat}
    (hbound : bound ≤ 10 ^ Numeral.maxIntegerDigits) : ∀ {items : List Cell},
      (excess bound).itemTotal items = 0 → ∀ part ∈ Cell.itemParts items, part.IsShort
  | [], _, _, hpart => by cases hpart
  | item :: items, h, part, hpart => by
    rw [Measure.itemTotal_cons, Nat.add_eq_zero_iff] at h
    rcases List.mem_append.mp hpart with hpart | hpart
    · exact isShort_of_total_excess hbound h.1 part hpart
    · exact isShort_of_itemTotal_excess hbound h.2 part hpart

theorem isShort_of_entryTotal_excess {bound : Nat}
    (hbound : bound ≤ 10 ^ Numeral.maxIntegerDigits) : ∀ {entries : List (String × Cell)},
      (excess bound).entryTotal entries = 0 → ∀ part ∈ Cell.entryParts entries, part.IsShort
  | [], _, _, hpart => by cases hpart
  | (name, cell) :: entries, h, part, hpart => by
    rw [Measure.entryTotal_cons, excess_ofText, Nat.zero_add, Nat.add_eq_zero_iff] at h
    rcases List.mem_append.mp hpart with hpart | hpart
    · exact isShort_of_total_excess hbound h.1 part hpart
    · exact isShort_of_entryTotal_excess hbound h.2 part hpart

end

end SheetQuery.Json
