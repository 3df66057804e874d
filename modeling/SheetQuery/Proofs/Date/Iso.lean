import Mathlib.Algebra.Group.Nat.Defs
import SheetQuery.Date.Iso
import SheetQuery.Proofs.Numeric.Numeral

/-!
# ISO texts are read back

What is written of a point in time reads as the same again, but for an offset of less than a second,
which reads as none at all. A point in time that was read from a text is within the bounds of the
calendar and the clock, and its offset is zero or at least a second.

* `toList_toUTF8_ofList`: the bytes of an ASCII text are its characters;
* `digits?_padded`: numbers filled up with zeros;
* `readDate?_renderDate`, `readClock?_clockText`, `readOffset?_offsetText`: the parts of an ISO text;
* `IsValid.readIso?_renderShort`, `IsProper.readIso?_renderShort`: the ISO text of a point in time;
* `isProper_of_readIso?`: the bounds of what is read.
-/

namespace SheetQuery

/-! ## Bytes -/

theorem toList_loop_eq (bytes : ByteArray) (i : Nat) (before : List UInt8) :
    ByteArray.toList.loop bytes i before = before.reverse ++ bytes.data.toList.drop i := by
  fun_induction ByteArray.toList.loop bytes i before with
  | case1 i before h ih =>
    have hi : i < bytes.data.toList.length := by simpa using h
    rw [ih, List.drop_eq_getElem_cons hi]
    simp [ByteArray.get!, h]
  | case2 i before h =>
    rw [List.drop_eq_nil_of_le (by simpa using Nat.le_of_not_lt h), List.append_nil]

/-- The bytes of an ASCII text are the codes of its characters. -/
theorem toList_toUTF8_ofList {cs : List Char} (h : ∀ c ∈ cs, c.toNat < 0x80) :
    (String.ofList cs).toUTF8.toList.map UInt8.toNat = cs.map Char.toNat := by
  have hbytes : (String.ofList cs).toUTF8.toList = cs.flatMap String.utf8EncodeChar := by
    show (List.flatMap String.utf8EncodeChar cs).toByteArray.toList = _
    rw [ByteArray.toList, toList_loop_eq, List.toList_data_toByteArray]
    rfl
  rw [hbytes, List.map_flatMap]
  have hone : ∀ c ∈ cs, (String.utf8EncodeChar c).map UInt8.toNat = [c.toNat] := by
    intro c hc
    have hsize : c.utf8Size = 1 := by
      rw [Char.utf8Size_eq_one_iff, UInt32.le_iff_toNat_le]
      exact Nat.le_of_lt_succ (h c hc)
    have hbyte : c.val.toNat % 256 = c.toNat :=
      Nat.mod_eq_of_lt (Nat.lt_of_lt_of_le (h c hc) (by decide))
    rw [String.utf8EncodeChar_eq_singleton hsize, List.map_singleton]
    exact congrArg (fun n => [n]) hbyte
  -- `hone` says all that the induction needs of the characters; the two
  -- cleared facts speak of the whole list and would stand in its hypothesis
  clear h hbytes
  induction cs with
  | nil => rfl
  | cons c cs ih =>
    rw [List.flatMap_cons, hone c List.mem_cons_self,
      ih fun d hd => hone d (List.mem_cons_of_mem _ hd)]
    rfl

/-! ## Numbers filled up with zeros -/

namespace Timestamp

theorem mem_padded {width n : Nat} {c : Char} (h : c ∈ padded width n) :
    0x30 ≤ c.toNat ∧ c.toNat ≤ 0x39 := by
  rcases List.mem_append.mp h with h | h
  · rw [List.eq_of_mem_replicate h]
    decide
  · exact mem_digitChars h

theorem padded_ne_nil (width n : Nat) : padded width n ≠ [] :=
  List.append_ne_nil_of_right_ne_nil _ (digitChars_ne_nil n)

theorem length_padded {width n : Nat} (hwidth : 0 < width) (h : n < 10 ^ width) :
    (padded width n).length = width := by
  have hdigits := length_digitChars_le hwidth h
  rw [padded, List.length_append, List.length_replicate]
  omega

end Timestamp

namespace Iso

open Timestamp (padded mem_padded length_padded)

/-- The codes of the characters of a text. -/
def codes (cs : List Char) : List Nat := cs.map Char.toNat

theorem codes_append (cs ds : List Char) : codes (cs ++ ds) = codes cs ++ codes ds :=
  List.map_append

theorem codes_cons (c : Char) (cs : List Char) : codes (c :: cs) = c.toNat :: codes cs := rfl

theorem length_codes (cs : List Char) : (codes cs).length = cs.length := List.length_map _

theorem mem_codes_padded {width n byte : Nat} (h : byte ∈ codes (padded width n)) :
    0x30 ≤ byte ∧ byte ≤ 0x39 := by
  obtain ⟨c, hc, rfl⟩ := List.mem_map.mp h
  exact mem_padded hc

theorem digits?_codes {cs : List Char} (h : ∀ c ∈ cs, 0x30 ≤ c.toNat ∧ c.toNat ≤ 0x39)
    (value : Nat) (rest : List Nat) :
    digits? value cs.length (codes cs ++ rest) = some (Nat.ofDigitChars 10 cs value, rest) := by
  induction cs generalizing value with
  | nil => rfl
  | cons c cs ih =>
    have hc := h c List.mem_cons_self
    have hdigit : digit? c.toNat = some (c.toNat - 0x30) := by
      simp [digit?, hc.1, hc.2]
    rw [codes_cons, List.cons_append, List.length_cons, digits?, hdigit, Nat.ofDigitChars_cons]
    exact ih (fun d hd => h d (List.mem_cons_of_mem _ hd)) _

/-- A number filled up with zeros reads as the number. -/
theorem digits?_padded {width n : Nat} (hwidth : 0 < width) (h : n < 10 ^ width)
    (rest : List Nat) : digits? 0 width (codes (padded width n) ++ rest) = some (n, rest) := by
  have hdigits : ∀ c ∈ padded width n, 0x30 ≤ c.toNat ∧ c.toNat ≤ 0x39 := fun c hc => mem_padded hc
  have hread := digits?_codes hdigits 0 rest
  rw [length_padded hwidth h] at hread
  rw [hread, padded, Nat.ofDigitChars_append, Nat.ofDigitChars_replicate_zero, digitChars]
  simp only [Nat.mul_zero, Nat.ofDigitChars_ten_toDigits]

/-! ## The date part -/

/-- A letter does not stand where digits do. -/
theorem head?_digits_ne {digits rest : List Nat} (hne : digits ≠ [])
    (hdigits : ∀ byte ∈ digits, byte ≤ 0x39) {letter : Nat} (hletter : 0x39 < letter) :
    (digits ++ rest).head? ≠ some letter := by
  cases digits with
  | nil => exact absurd rfl hne
  | cons byte digits =>
    intro heq
    have hbyte := hdigits byte List.mem_cons_self
    rw [Option.some.inj heq] at hbyte
    omega

theorem codes_padded_ne_nil (width n : Nat) : codes (padded width n) ≠ [] := by
  intro h
  exact Timestamp.padded_ne_nil width n (List.map_eq_nil_iff.mp h)

/-- A date in the extended form has ten characters. -/
theorem dateLength?_extended {year month tail : List Nat} (hyear : year.length = 4)
    (hmonth : month.length = 2) (hdigits : ∀ byte ∈ month, byte ≤ 0x39) (htail : tail ≠ []) :
    dateLength? (year ++ hyphen :: (month ++ tail)) = some 10 := by
  have htail' : 0 < tail.length := List.length_pos_iff.mpr htail
  have hlength : (year ++ hyphen :: (month ++ tail)).length = 7 + tail.length := by
    simp only [List.length_append, List.length_cons, hyear, hmonth]
    omega
  have hfour : (year ++ hyphen :: (month ++ tail))[4]? = some hyphen := by
    rw [List.getElem?_append_right (by omega), hyear]
    rfl
  -- a `W` in the sixth place would make it a date of weeks
  have hfive : (year ++ hyphen :: (month ++ tail))[5]? ≠ some letterW := by
    rw [List.getElem?_append_right (by omega), hyear]
    show (month ++ tail)[0]? ≠ some letterW
    rw [← List.head?_eq_getElem?]
    exact head?_digits_ne (List.length_pos_iff.mp (by omega)) hdigits (by decide)
  unfold dateLength?
  simp only [hlength, hfour, beq_self_eq_true, if_true, beq_iff_eq, hfive, if_false]
  rw [if_neg (by omega), if_neg (by omega)]

/-- The codes of a date. -/
theorem codes_renderDate (t : Timestamp) : codes t.renderDate = codes (padded 4 t.year) ++
    hyphen :: (codes (padded 2 t.month) ++ hyphen :: codes (padded 2 t.day)) := by
  simp only [Timestamp.renderDate, codes_append, codes_cons, List.append_assoc, List.cons_append]
  rfl

theorem readDate?_renderDate {t : Timestamp} (hyear : t.year < 10 ^ 4) (hmonth : t.month < 10 ^ 2)
    (hday : t.day < 10 ^ 2) :
    readDate? (codes t.renderDate) = some ((t.year : Int), t.month, t.day) := by
  have hweek : ((codes (padded 2 t.month) ++ hyphen :: codes (padded 2 t.day)).head? ==
      some letterW) = false :=
    beq_eq_false_iff_ne.mpr (head?_digits_ne (codes_padded_ne_nil 2 t.month)
      (fun byte hbyte => (mem_codes_padded hbyte).2) (by decide))
  have hdayOnly := digits?_padded (by decide : 0 < 2) hday []
  rw [List.append_nil] at hdayOnly
  rw [codes_renderDate, readDate?, digits?_padded (by decide) hyear]
  simp only [Option.bind_eq_bind, Option.bind_some, List.head?_cons, beq_self_eq_true, if_true,
    List.drop_succ_cons, List.drop_zero, hweek, digits?_padded (by decide : 0 < 2) hmonth,
    dropHyphen?, hdayOnly, List.isEmpty_nil, Bool.false_eq_true, if_false]

/-! ## The time part -/

/-- The text of a time of day, with a fraction only if there is one. -/
def clockText (hour minute second micro : Nat) : List Char :=
  padded 2 hour ++ ':' :: (padded 2 minute ++ ':' :: (padded 2 second ++
    if micro == 0 then [] else '.' :: padded 6 micro))

variable {hour minute second micro : Nat}

theorem readFraction?_padded (hmicro : micro < 10 ^ 6) :
    readFraction? (codes (padded 6 micro)) = some (micro, false) := by
  have hlength : (codes (padded 6 micro)).length = 6 := by
    rw [length_codes, length_padded (by decide) hmicro]
  have hread := digits?_padded (by decide : 0 < 6) hmicro []
  rw [List.append_nil] at hread
  simp only [readFraction?, hlength, Nat.min_self, hread, Option.bind_eq_bind, Option.bind_some]
  simp

/-- The last component of a time. -/
theorem readParts?_last {n : Nat} (hn : n < 10 ^ 2) (next : Option Nat) (left : Nat)
    (separated : Option Bool) :
    readParts? next (left + 1) separated (codes (padded 2 n)) = some ([n], 0, next.isSome) := by
  have hread := digits?_padded (by decide : 0 < 2) hn []
  rw [List.append_nil] at hread
  rw [readParts?, hread]
  rfl

/-- A component of a time before a colon. -/
theorem readParts?_colon {n : Nat} (hn : n < 10 ^ 2) (next : Option Nat) (left : Nat)
    {separated : Option Bool} (hseparated : separated.getD true = true) {after : List Nat}
    (hafter : after ≠ []) :
    readParts? next (left + 1) separated (codes (padded 2 n) ++ colon :: after) =
      (readParts? next left (some true) after).map fun parts => (n :: parts.1, parts.2) := by
  rw [readParts?, digits?_padded (by decide) hn]
  cases after with
  | nil => exact absurd rfl hafter
  | cons byte after =>
    simp only [Option.bind_eq_bind, Option.bind_some, beq_self_eq_true, hseparated, Bool.and_self,
      if_true]
    cases readParts? next left (some true) (byte :: after) <;> rfl

/-- A component of a time before a fraction. -/
theorem readParts?_point {n : Nat} (hn : n < 10 ^ 2) (hmicro : micro < 10 ^ 6)
    (next : Option Nat) (left : Nat) (separated : Option Bool) :
    readParts? next (left + 1) separated
        (codes (padded 2 n) ++ '.'.toNat :: codes (padded 6 micro)) =
      some ([n], micro, next.isSome) := by
  have hpoint : ('.'.toNat == colon) = false := by decide
  have hmark : ('.'.toNat == 0x2E || '.'.toNat == 0x2C) = true := by decide
  rw [readParts?, digits?_padded (by decide) hn]
  obtain ⟨byte, after, hfraction⟩ :=
    List.exists_cons_of_ne_nil (codes_padded_ne_nil 6 micro)
  have hread := readFraction?_padded hmicro
  rw [hfraction] at hread ⊢
  simp only [Option.bind_eq_bind, Option.bind_some, hpoint, Bool.and_false, Bool.false_eq_true,
    if_false, hmark, if_true, readParts?, hread, Option.map_some, Bool.false_or]

/-- A time of day is read back. -/
theorem readClock?_clockText (hhour : hour < 10 ^ 2) (hminute : minute < 10 ^ 2)
    (hsecond : second < 10 ^ 2) (hmicro : micro < 10 ^ 6) (next : Option Nat) :
    readClock? (codes (clockText hour minute second micro)) next =
      some ⟨hour, minute, second, micro, next.isSome⟩ := by
  -- only the last part may carry a fraction, so it is
  -- read first and each colon then peels one part off
  have hlast : readParts? next 1 (some true) (codes (padded 2 second ++
      if micro == 0 then [] else '.' :: padded 6 micro)) =
        some ([second], micro, next.isSome) := by
    by_cases hzero : micro = 0
    · rw [if_pos (by simpa using hzero), List.append_nil, readParts?_last hsecond, hzero]
    · rw [if_neg (by simpa using hzero), codes_append, codes_cons,
        readParts?_point hsecond hmicro]
  have hne : codes (padded 2 second ++ if micro == 0 then [] else '.' :: padded 6 micro) ≠ [] := by
    rw [codes_append]
    exact List.append_ne_nil_of_left_ne_nil (codes_padded_ne_nil 2 second) _
  have hcodes : codes (clockText hour minute second micro) = codes (padded 2 hour) ++ colon ::
      (codes (padded 2 minute) ++ colon ::
        codes (padded 2 second ++ if micro == 0 then [] else '.' :: padded 6 micro)) := by
    rw [clockText, codes_append, codes_cons, codes_append, codes_cons]
    rfl
  rw [readClock?, hcodes, readParts?_colon hhour next 2 rfl (by simp),
    readParts?_colon hminute next 1 rfl hne, hlast]
  rfl

/-- A time of hours and minutes is read back. -/
theorem readClock?_hourMinute (hhour : hour < 10 ^ 2) (hminute : minute < 10 ^ 2)
    (next : Option Nat) : readClock? (codes (padded 2 hour ++ ':' :: padded 2 minute)) next =
      some ⟨hour, minute, 0, 0, next.isSome⟩ := by
  have hcodes : codes (padded 2 hour ++ ':' :: padded 2 minute) =
      codes (padded 2 hour) ++ colon :: codes (padded 2 minute) := by
    rw [codes_append, codes_cons]
    rfl
  rw [readClock?, hcodes, readParts?_colon hhour next 2 rfl (codes_padded_ne_nil 2 minute),
    readParts?_last hminute]
  rfl

/-! ## The offset -/

/-- An offset that a text can name: UTC itself, or at least a second and less than a day. -/
def IsProperOffset (offset : Int) : Prop :=
  offset = 0 ∨ (1000000 ≤ offset.natAbs ∧ offset.natAbs < 86400 * 1000000)

/-- What the text of an offset is read as: less than a second is not told from none. -/
def settledOffset (offset : Int) : Int := if offset.natAbs < 1000000 then 0 else offset

theorem settledOffset_eq_self_iff {offset : Int} :
    settledOffset offset = offset ↔ offset = 0 ∨ 1000000 ≤ offset.natAbs := by
  unfold settledOffset
  split <;> omega

theorem IsProperOffset.settled {offset : Int} (h : IsProperOffset offset) :
    settledOffset offset = offset :=
  settledOffset_eq_self_iff.mpr (h.imp id And.left)

theorem IsProperOffset.lt {offset : Int} (h : IsProperOffset offset) :
    offset.natAbs < 86400 * 1000000 := by
  rcases h with rfl | h
  · decide
  · exact h.2

/-- The sign of an offset. -/
def signOf (offset : Int) : Char := if offset < 0 then '-' else '+'

/-- An offset without its sign. -/
def offsetText (size : Nat) : List Char :=
  let seconds := size / 1000000
  if seconds % 60 == 0 && size % 1000000 == 0 then
    padded 2 (seconds / 3600) ++ ':' :: padded 2 (seconds / 60 % 60)
  else clockText (seconds / 3600) (seconds / 60 % 60) (seconds % 60) (size % 1000000)

theorem renderOffset_eq (offset : Int) :
    Timestamp.renderOffset offset = signOf offset :: offsetText offset.natAbs := by
  by_cases hshort :
      (offset.natAbs / 1000000 % 60 == 0 && offset.natAbs % 1000000 == 0) = true
  · obtain ⟨hsecond, hmicro⟩ := Bool.and_eq_true_iff.mp hshort
    simp only [Timestamp.renderOffset, offsetText, signOf, hsecond, hmicro, Bool.and_self, if_true,
      List.append_nil, List.cons_append]
  · simp only [Timestamp.renderOffset, offsetText, signOf, hshort, Bool.false_eq_true, if_false,
      clockText, List.append_assoc, List.cons_append]

/-- An offset is read as a clock that shows its size. -/
theorem exists_readClock?_offsetText {size : Nat} (h : size < 86400 * 1000000) :
    ∃ clock, readClock? (codes (offsetText size)) none = some clock ∧ clock.goesOn = false ∧
      clock.micros = size := by
  have hhour : size / 1000000 / 3600 < 10 ^ 2 := by omega
  have hminute : size / 1000000 / 60 % 60 < 10 ^ 2 := by omega
  have hmicros : ((size / 1000000 / 3600 * 60 + size / 1000000 / 60 % 60) * 60 +
      size / 1000000 % 60) * 1000000 + size % 1000000 = size := by
    omega
  unfold offsetText
  dsimp only
  split
  · next hshort =>
    rw [Bool.and_eq_true, beq_iff_eq, beq_iff_eq] at hshort
    rw [hshort.1, hshort.2] at hmicros
    exact ⟨_, readClock?_hourMinute hhour hminute none, rfl, hmicros⟩
  · exact ⟨_, readClock?_clockText hhour hminute (by omega) (by omega) none, rfl, hmicros⟩

/-- An offset is read back, if it is not too small. -/
theorem readOffset?_offsetText {offset : Int} (hsize : offset.natAbs < 86400 * 1000000) :
    readOffset? (decide (offset < 0)) (codes (offsetText offset.natAbs)) =
      some (settledOffset offset) := by
  obtain ⟨clock, hclock, hgoesOn, hmicros⟩ := exists_readClock?_offsetText hsize
  rw [readOffset?, hclock, Option.bind_eq_bind, Option.bind_some, hgoesOn, hmicros,
    if_neg (by decide), settledOffset]
  by_cases hsmall : offset.natAbs < 1000000
  · rw [if_pos hsmall, Nat.div_eq_of_lt hsmall]
    rfl
  · have hseconds : (offset.natAbs / 1000000 == 0) = false := by
      rw [beq_eq_false_iff_ne]
      omega
    rw [hseconds, if_neg (by decide), if_pos hsize, if_neg hsmall]
    by_cases hnegative : offset < 0
    · rw [decide_eq_true hnegative, if_pos rfl]
      exact congrArg some (by omega)
    · rw [decide_eq_false hnegative, if_neg (by decide)]
      exact congrArg some (by omega)

/-! ## Whole texts -/

/-- The text of an offset, if there is one. -/
def offsetSuffix : Option Int → List Char
  | none => []
  | some offset => signOf offset :: offsetText offset.natAbs

theorem codes_clockText_plain {byte : Nat}
    (h : byte ∈ codes (clockText hour minute second micro)) : byte ≠ plus ∧ byte ≠ hyphen := by
  have hdigits : ∀ {width n : Nat}, byte ∈ codes (padded width n) →
      byte ≠ plus ∧ byte ≠ hyphen := by
    intro width n hbyte
    have := mem_codes_padded hbyte
    exact ⟨by simp only [plus]; omega, by simp only [hyphen]; omega⟩
  have hmark : byte = ':'.toNat ∨ byte = '.'.toNat → byte ≠ plus ∧ byte ≠ hyphen := by
    rintro (rfl | rfl) <;> decide
  simp only [clockText, codes_append, codes_cons, List.mem_append, List.mem_cons] at h
  rcases h with h | h | h | h | h | h
  · exact hdigits h
  · exact hmark (.inl h)
  · exact hdigits h
  · exact hmark (.inl h)
  · exact hdigits h
  · split at h
    · cases h
    · rcases List.mem_cons.mp h with h | h
      · exact hmark (.inr h)
      · exact hdigits h

/-- A time of day with an optional offset is read back. -/
theorem readTime?_text (hhour : hour < 10 ^ 2) (hminute : minute < 10 ^ 2)
    (hsecond : second < 10 ^ 2) (hmicro : micro < 10 ^ 6) {offset : Option Int}
    (hoffset : ∀ o ∈ offset, o.natAbs < 86400 * 1000000) :
    ∃ goesOn, readTime? (codes (clockText hour minute second micro ++ offsetSuffix offset)) =
      some (⟨hour, minute, second, micro, goesOn⟩, offset.map settledOffset) := by
  -- the time ends at the sign of the offset, and none of its own characters is a sign
  have hplain : ∀ byte ∈ codes (clockText hour minute second micro),
      (byte != plus && byte != hyphen) = true := by
    intro byte hbyte
    simpa using codes_clockText_plain hbyte
  have hclock := readClock?_clockText hhour hminute hsecond hmicro
  rw [codes_append, readTime?]
  simp only [List.takeWhile_append_of_pos hplain]
  cases offset with
  | none =>
    have hsuffix : codes (offsetSuffix none) = [] := rfl
    simp only [hsuffix, List.takeWhile_nil, List.append_nil, List.drop_length, hclock,
      Option.bind_eq_bind, Option.bind_some]
    exact ⟨false, rfl⟩
  | some offset =>
    have hsuffix : codes (offsetSuffix (some offset)) =
      (signOf offset).toNat :: codes (offsetText offset.natAbs) := rfl
    have hstop : ((signOf offset).toNat != plus && (signOf offset).toNat != hyphen) = false := by
      unfold signOf
      split <;> rfl
    have hsign : ((signOf offset).toNat == hyphen) = decide (offset < 0) := by
      unfold signOf
      split
      · next h => rw [decide_eq_true h]; rfl
      · next h => rw [decide_eq_false h]; rfl
    simp only [hsuffix, List.takeWhile_cons, hstop, Bool.false_eq_true, if_false, List.append_nil,
      List.drop_left, hclock, hsign, readOffset?_offsetText (hoffset offset rfl),
      Option.bind_eq_bind, Option.bind_some]
    exact ⟨true, rfl⟩

end Iso

namespace Timestamp

open Iso (codes clockText offsetSuffix)

/-- Is a point in time within the bounds of the calendar and the clock, with an offset of less than a
day if it has one? -/
structure IsValid (t : Timestamp) : Prop where
  date : Calendar.isDate t.year t.month t.day = true
  hour : t.hour < 24
  minute : t.minute < 60
  second : t.second < 60
  micro : t.micro < 1000000
  offset : ∀ offset ∈ t.offset, offset.natAbs < 86400 * 1000000

/-- Is a point in time one that a text can name? -/
structure IsProper (t : Timestamp) : Prop where
  date : Calendar.isDate t.year t.month t.day = true
  hour : t.hour < 24
  minute : t.minute < 60
  second : t.second < 60
  micro : t.micro < 1000000
  offset : ∀ offset ∈ t.offset, Iso.IsProperOffset offset

theorem IsProper.isValid {t : Timestamp} (h : t.IsProper) : t.IsValid :=
  ⟨h.date, h.hour, h.minute, h.second, h.micro, fun o ho => (h.offset o ho).lt⟩

/-- The point in time that the ISO text of another is read as. -/
def settled (t : Timestamp) : Timestamp := { t with offset := t.offset.map Iso.settledOffset }

theorem settled_eq_self_iff {t : Timestamp} :
    t.settled = t ↔ ∀ offset ∈ t.offset, offset = 0 ∨ 1000000 ≤ offset.natAbs := by
  obtain ⟨year, month, day, hour, minute, second, micro, offset⟩ := t
  cases offset with
  | none => simp [settled]
  | some offset => simp [settled, Iso.settledOffset_eq_self_iff]

theorem IsProper.settled {t : Timestamp} (h : t.IsProper) : t.settled = t :=
  settled_eq_self_iff.mpr fun o ho => Iso.settledOffset_eq_self_iff.mp (h.offset o ho).settled

/-- The numbers of a date are short. -/
theorem bounds_of_isDate {year month day : Nat} (h : Calendar.isDate year month day = true) :
    year < 10 ^ 4 ∧ month < 10 ^ 2 ∧ day < 10 ^ 2 := by
  have hmonth : day ≤ Calendar.daysInMonth year month → 1 ≤ day → month ≤ 12 ∧ day ≤ 31 := by
    unfold Calendar.daysInMonth
    repeat' split
    all_goals simp_all
    all_goals omega
  simp only [Calendar.isDate, Bool.and_eq_true, decide_eq_true_eq] at h
  obtain ⟨⟨⟨-, hyear⟩, hday⟩, hdays⟩ := h
  obtain ⟨hmonth, hday⟩ := hmonth hdays hday
  omega

theorem render_eq (t : Timestamp) : t.render = t.renderDate ++
    'T' :: (clockText t.hour t.minute t.second t.micro ++ offsetSuffix t.offset) := by
  rw [render]
  cases t.offset with
  | none => simp only [clockText, offsetSuffix, List.append_assoc, List.cons_append, List.append_nil]
  | some offset =>
    simp only [clockText, offsetSuffix, Iso.renderOffset_eq, List.append_assoc, List.cons_append]

/-- The characters of ISO texts. -/
def IsIsoChar (c : Char) : Prop := (0x30 ≤ c.toNat ∧ c.toNat ≤ 0x39) ∨ c ∈ "-:T.+".toList

theorem isIsoChar_of_mem_padded {width n : Nat} {c : Char} (h : c ∈ padded width n) : IsIsoChar c :=
  .inl (mem_padded h)

theorem isIsoChar_of_mem_renderDate {t : Timestamp} {c : Char} (h : c ∈ t.renderDate) :
    IsIsoChar c := by
  simp only [renderDate, List.mem_append, List.mem_cons] at h
  rcases h with (h | rfl | h) | rfl | h
  · exact isIsoChar_of_mem_padded h
  · exact .inr (by decide)
  · exact isIsoChar_of_mem_padded h
  · exact .inr (by decide)
  · exact isIsoChar_of_mem_padded h

theorem isIsoChar_of_mem_clockText {hour minute second micro : Nat} {c : Char}
    (h : c ∈ clockText hour minute second micro) : IsIsoChar c := by
  simp only [clockText, List.mem_append, List.mem_cons] at h
  rcases h with h | rfl | h | rfl | h | h
  · exact isIsoChar_of_mem_padded h
  · exact .inr (by decide)
  · exact isIsoChar_of_mem_padded h
  · exact .inr (by decide)
  · exact isIsoChar_of_mem_padded h
  · split at h
    · cases h
    · rcases List.mem_cons.mp h with rfl | h
      · exact .inr (by decide)
      · exact isIsoChar_of_mem_padded h

theorem isIsoChar_of_mem_offsetSuffix {offset : Option Int} {c : Char}
    (h : c ∈ offsetSuffix offset) : IsIsoChar c := by
  cases offset with
  | none => cases h
  | some offset =>
    rcases List.mem_cons.mp h with rfl | h
    · unfold Iso.signOf
      split <;> exact .inr (by decide)
    · unfold Iso.offsetText at h
      dsimp only at h
      split at h
      · rcases List.mem_append.mp h with h | h
        · exact isIsoChar_of_mem_padded h
        · rcases List.mem_cons.mp h with rfl | h
          · exact .inr (by decide)
          · exact isIsoChar_of_mem_padded h
      · exact isIsoChar_of_mem_clockText h

theorem isIsoChar_of_mem_renderShort {t : Timestamp} {c : Char} (h : c ∈ t.renderShort) :
    IsIsoChar c := by
  unfold renderShort at h
  split at h
  · exact isIsoChar_of_mem_renderDate h
  · rw [render_eq] at h
    rcases List.mem_append.mp h with h | h
    · exact isIsoChar_of_mem_renderDate h
    · rcases List.mem_cons.mp h with rfl | h
      · exact .inr (by decide)
      · rcases List.mem_append.mp h with h | h
        · exact isIsoChar_of_mem_clockText h
        · exact isIsoChar_of_mem_offsetSuffix h

/-- An ISO text has no `Z` to read as an offset. -/
theorem expandZulu_of_isIsoChar {cs : List Char} (h : ∀ c ∈ cs, IsIsoChar c) :
    Iso.expandZulu cs = cs := by
  have hone : ∀ c ∈ cs, (if c == 'Z' then "+00:00".toList else [c]) = [c] := by
    intro c hc
    apply if_neg
    rw [beq_iff_eq]
    rintro rfl
    rcases h _ hc with hdigit | hmark
    · exact absurd hdigit (by decide)
    · exact absurd hmark (by decide)
  rw [Iso.expandZulu, List.flatMap_congr hone]
  exact List.flatMap_singleton' cs

/-- ISO texts are read byte by byte. -/
theorem readIso?_eq {cs : List Char} (h : ∀ c ∈ cs, IsIsoChar c) :
    readIso? cs = Iso.readBytes? (codes cs) := by
  rw [readIso?, expandZulu_of_isIsoChar h, toList_toUTF8_ofList]
  · rfl
  · intro c hc
    rcases h c hc with hdigit | hmark
    · omega
    · exact (by decide : ∀ c ∈ "-:T.+".toList, c.toNat < 0x80) c hmark

namespace IsValid

variable {t : Timestamp}

/-- The date part of an ISO text ends where the date does. -/
theorem dateLength?_renderDate (h : t.IsValid) (suffix : List Nat) :
    (codes t.renderDate).length = 10 ∧ Iso.dateLength? (codes t.renderDate ++ suffix) = some 10 := by
  obtain ⟨hyear, hmonth, hday⟩ := bounds_of_isDate h.date
  have hyear' : (codes (padded 4 t.year)).length = 4 := by
    rw [Iso.length_codes, length_padded (by decide) hyear]
  have hmonth' : (codes (padded 2 t.month)).length = 2 := by
    rw [Iso.length_codes, length_padded (by decide) hmonth]
  have hday' : (codes (padded 2 t.day)).length = 2 := by
    rw [Iso.length_codes, length_padded (by decide) hday]
  rw [Iso.codes_renderDate]
  constructor
  · simp only [List.length_append, List.length_cons, hyear', hmonth', hday']
  · rw [List.append_assoc, List.cons_append, List.append_assoc]
    exact Iso.dateLength?_extended hyear' hmonth'
      (fun byte hbyte => (Iso.mem_codes_padded hbyte).2) (List.cons_ne_nil _ _)

/-- The bounds that are checked when a text is read. -/
theorem checks (h : t.IsValid) : (decide (1 ≤ (t.year : Int)) &&
    Calendar.isDate (t.year : Int).toNat t.month t.day && decide (t.hour < 24) &&
      decide (t.minute < 60) && decide (t.second < 60)) = true := by
  have hyear : 1 ≤ t.year := by
    have hdate := h.date
    simp only [Calendar.isDate, Bool.and_eq_true, decide_eq_true_eq] at hdate
    exact hdate.1.1.1
  simp only [Int.toNat_natCast, h.date, h.hour, h.minute, h.second, decide_true, Bool.and_true,
    decide_eq_true_eq]
  exact Int.ofNat_le.mpr hyear

theorem readBytes?_renderDate (h : t.IsValid) (hplain : t.isPlainDate = true) :
    Iso.readBytes? (codes t.renderDate) = some t.settled := by
  obtain ⟨hyear, hmonth, hday⟩ := bounds_of_isDate h.date
  obtain ⟨hten, hlength⟩ := h.dateLength?_renderDate []
  have hchecks := h.checks
  rw [List.append_nil] at hlength
  obtain ⟨year, month, day, hour, minute, second, micro, offset⟩ := t
  simp only [isPlainDate, Bool.and_eq_true, Option.isNone_iff_eq_none, beq_iff_eq] at hplain
  obtain ⟨⟨⟨⟨rfl, rfl⟩, rfl⟩, rfl⟩, rfl⟩ := hplain
  rw [Iso.readBytes?, hlength]
  simp only [Option.bind_eq_bind, Option.bind_some, List.take_of_length_le (Nat.le_of_eq hten),
    List.drop_of_length_le (Nat.le_of_eq hten), Iso.readDate?_renderDate hyear hmonth hday,
    hchecks, if_true]
  rfl

theorem readBytes?_render (h : t.IsValid) :
    Iso.readBytes? (codes t.render) = some t.settled := by
  obtain ⟨hyear, hmonth, hday⟩ := bounds_of_isDate h.date
  obtain ⟨hten, hlength⟩ := h.dateLength?_renderDate
    ('T'.toNat :: codes (clockText t.hour t.minute t.second t.micro ++ offsetSuffix t.offset))
  obtain ⟨goesOn, htime⟩ := Iso.readTime?_text (Nat.lt_trans h.hour (by decide))
    (Nat.lt_trans h.minute (by decide)) (Nat.lt_trans h.second (by decide)) h.micro h.offset
  have hseparator : Iso.charLength 'T'.toNat - 1 = 0 := by decide
  rw [render_eq, Iso.codes_append, Iso.codes_cons, Iso.readBytes?, hlength]
  simp only [Option.bind_eq_bind, Option.bind_some, List.take_left' hten, List.drop_left' hten,
    Iso.readDate?_renderDate hyear hmonth hday, hseparator, List.drop_zero, htime, h.checks, if_true]
  rfl

/-- The ISO text of a point in time is read back, if its offset is not too small. -/
theorem readIso?_renderShort (h : t.IsValid) : readIso? t.renderShort = some t.settled := by
  rw [readIso?_eq fun c hc => isIsoChar_of_mem_renderShort hc, renderShort]
  split
  · next hplain => exact h.readBytes?_renderDate hplain
  · exact h.readBytes?_render

end IsValid

/-- The ISO text of a point in time that a text can name is read back. -/
theorem IsProper.readIso?_renderShort {t : Timestamp} (h : t.IsProper) :
    readIso? t.renderShort = some t := by
  rw [h.isValid.readIso?_renderShort, h.settled]

end Timestamp

/-! ## Bounds of what is read -/

namespace Iso

theorem digits?_lt {value count : Nat} {bytes : List Nat} {found : Nat × List Nat}
    (h : digits? value count bytes = some found) : found.1 < 10 ^ count * (value + 1) := by
  induction count generalizing value bytes with
  | zero =>
    rw [← Option.some.inj h]
    omega
  | succ count ih =>
    cases bytes with
    | nil => cases h
    | cons byte bytes =>
      rw [digits?] at h
      split at h
      · next d hd =>
        have hd' : d ≤ 9 := by
          unfold digit? at hd
          split at hd
          · next hbyte =>
            simp only [Bool.and_eq_true, decide_eq_true_eq] at hbyte
            rw [← Option.some.inj hd]
            omega
          · cases hd
        -- a digit more moves the bound of the accumulator
        -- by a factor of ten, as the digit is at most 9
        calc found.1 < 10 ^ count * (10 * value + d + 1) := ih h
          _ ≤ 10 ^ count * (10 * (value + 1)) := Nat.mul_le_mul_left _ (by omega)
          _ = 10 ^ (count + 1) * (value + 1) := by rw [Nat.pow_succ, Nat.mul_assoc]
      · cases h

theorem readFraction?_lt {bytes : List Nat} {found : Nat × Bool}
    (h : readFraction? bytes = some found) : found.1 < 1000000 := by
  rw [readFraction?] at h
  obtain ⟨⟨value, rest⟩, hdigits, h⟩ := Option.bind_eq_some_iff.mp h
  dsimp only at h
  split at h
  · cases h
  · rw [← Option.some.inj h]
    have hvalue := digits?_lt hdigits
    have hcount : min 6 bytes.length ≤ 6 := Nat.min_le_left ..
    rw [Nat.zero_add, Nat.mul_one] at hvalue
    rw [Nat.pow_eq]
    calc value * 10 ^ (6 - min 6 bytes.length)
        < 10 ^ min 6 bytes.length * 10 ^ (6 - min 6 bytes.length) :=
          Nat.mul_lt_mul_of_pos_right hvalue (Nat.pow_pos (by decide))
      _ = 10 ^ 6 := by rw [← Nat.pow_add, Nat.add_sub_cancel' hcount]
      _ = 1000000 := by decide

theorem readParts?_lt {next : Option Nat} {left : Nat} {separated : Option Bool} {bytes : List Nat}
    {found : List Nat × Nat × Bool} (h : readParts? next left separated bytes = some found) :
    found.2.1 < 1000000 := by
  have hzero : 0 < 1000000 := by decide
  -- one component after the other: the fraction can only come from the last one
  fun_induction readParts? next left separated bytes generalizing found with
  | case1 separated bytes =>
    obtain ⟨⟨micro, goesOn⟩, hfraction, rfl⟩ := Option.map_eq_some_iff.mp h
    have hmicro := readFraction?_lt hfraction
    exact hmicro
  | case2 left separated bytes ih1 ih2 ih3 =>
    obtain ⟨⟨value, rest⟩, -, h⟩ := Option.bind_eq_some_iff.mp h
    dsimp only at h
    split at h
    · rw [← Option.some.inj h]
      exact hzero
    · rw [← Option.some.inj h]
      exact hzero
    · split at h
      · obtain ⟨parts, hparts, h⟩ := Option.bind_eq_some_iff.mp h
        have hmicro := ih1 _ hparts
        rw [← Option.some.inj h]
        exact hmicro
      · split at h
        · obtain ⟨parts, hparts, h⟩ := Option.bind_eq_some_iff.mp h
          have hmicro := ih2 _ hparts
          rw [← Option.some.inj h]
          exact hmicro
        · split at h
          · cases h
          · obtain ⟨parts, hparts, h⟩ := Option.bind_eq_some_iff.mp h
            have hmicro := ih3 _ hparts
            rw [← Option.some.inj h]
            exact hmicro

theorem readClock?_lt {segment : List Nat} {next : Option Nat} {clock : Clock}
    (h : readClock? segment next = some clock) : clock.micro < 1000000 := by
  obtain ⟨⟨values, micro, goesOn⟩, hparts, rfl⟩ := Option.map_eq_some_iff.mp h
  have hmicro := readParts?_lt hparts
  exact hmicro

theorem isProperOffset_of_readOffset? {negative : Bool} {bytes : List Nat} {offset : Int}
    (h : readOffset? negative bytes = some offset) : IsProperOffset offset := by
  obtain ⟨clock, -, h⟩ := Option.bind_eq_some_iff.mp h
  split at h
  · cases h
  · split at h
    · exact .inl (Option.some.inj h).symm
    · next hseconds =>
      split at h
      · next hday =>
        rw [beq_iff_eq] at hseconds
        right
        rw [← Option.some.inj h]
        split <;> omega
      · cases h

theorem isProper_of_readTime? {bytes : List Nat} {clock : Clock} {offset : Option Int}
    (h : readTime? bytes = some (clock, offset)) :
    clock.micro < 1000000 ∧ ∀ o ∈ offset, IsProperOffset o := by
  rw [readTime?] at h
  split at h
  · obtain ⟨found, hfound, h⟩ := Option.bind_eq_some_iff.mp h
    split at h
    · cases h
    · cases h
      exact ⟨readClock?_lt hfound, fun o ho => nomatch ho⟩
  · obtain ⟨found, hfound, h⟩ := Option.bind_eq_some_iff.mp h
    obtain ⟨o, ho, h⟩ := Option.bind_eq_some_iff.mp h
    cases h
    refine ⟨readClock?_lt hfound, fun other hother => ?_⟩
    rw [← Option.some.inj hother]
    exact isProperOffset_of_readOffset? ho

end Iso

/-- What an ISO text names is a proper point in time. -/
theorem Timestamp.isProper_of_readIso? {cs : List Char} {t : Timestamp}
    (h : Timestamp.readIso? cs = some t) : t.IsProper := by
  rw [readIso?, Iso.readBytes?] at h
  obtain ⟨length, -, h⟩ := Option.bind_eq_some_iff.mp h
  obtain ⟨⟨year, month, day⟩, -, h⟩ := Option.bind_eq_some_iff.mp h
  dsimp only at h
  -- the bounds of what follows the date, then those that are checked
  have hchecked : ∀ {clock : Iso.Clock} {offset : Option Int},
      (clock.micro < 1000000 ∧ ∀ o ∈ offset, Iso.IsProperOffset o) →
      (if (decide (1 ≤ year) && Calendar.isDate year.toNat month day && decide (clock.hour < 24) &&
          decide (clock.minute < 60) && decide (clock.second < 60)) = true then
        some (⟨year.toNat, month, day, clock.hour, clock.minute, clock.second, clock.micro,
          offset⟩ : Timestamp)
      else none) = some t → t.IsProper := by
    intro clock offset hproper h
    split at h
    · next hchecks =>
      simp only [Bool.and_eq_true, decide_eq_true_eq] at hchecks
      obtain ⟨⟨⟨⟨-, hdate⟩, hhour⟩, hminute⟩, hsecond⟩ := hchecks
      rw [← Option.some.inj h]
      exact ⟨hdate, hhour, hminute, hsecond, hproper.1, hproper.2⟩
    · cases h
  have hnone : ∀ o ∈ (none : Option Int), Iso.IsProperOffset o := fun o ho => nomatch ho
  split at h
  · exact hchecked ⟨by decide, hnone⟩ h
  · obtain ⟨⟨clock, offset⟩, htime, h⟩ := Option.bind_eq_some_iff.mp h
    exact hchecked (Iso.isProper_of_readTime? htime) h

end SheetQuery
