import Mathlib.Algebra.Group.Nat.Defs
import SheetQuery.Date.Reading
import SheetQuery.Proofs.Date.Calendar
import SheetQuery.Proofs.Date.Iso
import SheetQuery.Proofs.Numeric.Numeral

/-!
# Dates in ISO form stay as they are

* `isProper_of_timestampBy?`: whatever a cell names, in ISO form or as a reader of other dates takes it,
  is a proper point in time;
* `trim_renderShort`: its ISO text has no outer blanks;
* `isoDate?_isoDate`: bringing a cell into ISO form a second time changes nothing. An ISO text that is
  longer than dates may be is not read again, which comes to the same.
-/

namespace SheetQuery

namespace Spoken

theorem number?_lt {low high n : Nat} {word : List Char} (h : number? low high word = some n) :
    n < 10 ^ high := by
  unfold number? at h
  split at h
  · next hword =>
    simp only [Bool.and_eq_true, decide_eq_true_eq, List.all_eq_true] at hword
    obtain ⟨⟨-, hlength⟩, hdigits⟩ := hword
    have hascii : ∀ c ∈ word, 0x30 ≤ c.toNat ∧ c.toNat ≤ 0x39 := by
      intro c hc
      simpa [Text.isAsciiDigit] using hdigits c hc
    rw [Numeral.digits?_of_ascii hascii, Option.map_some] at h
    have hread := Iso.digits?_lt (Iso.digits?_codes hascii 0 [])
    rw [Nat.zero_add, Nat.mul_one] at hread
    rw [← Option.some.inj h, Numeral.digitsValue, List.foldl_map]
    exact Nat.lt_of_lt_of_le hread (Nat.pow_le_pow_right (by decide) hlength)
  · cases h

end Spoken

namespace Timestamp

theorem isProper_of_ofDate? {year month day : Nat} {t : Timestamp}
    (h : ofDate? year month day = some t) : t.IsProper := by
  unfold ofDate? at h
  split at h
  · next hdate =>
    rw [← Option.some.inj h]
    exact ⟨hdate, (by decide : 0 < 24), (by decide : 0 < 60), (by decide : 0 < 60),
      (by decide : 0 < 1000000), fun o ho => nomatch ho⟩
  · cases h

theorem isProper_ofUnixSeconds {seconds : Nat} (h : seconds < 10 ^ 10) :
    (ofUnixSeconds seconds).IsProper := by
  have hdays : ((seconds : Int) / 86400) = ((seconds / 86400 : Nat) : Int) := by omega
  have hdate := @Calendar.isDate_ofDayNumber (seconds / 86400) (by omega)
  unfold ofUnixSeconds
  rw [hdays]
  refine ⟨hdate, ?_, ?_, ?_, (by decide : 0 < 1000000), fun o ho => nomatch ho⟩
  · show seconds % 86400 / 3600 < 24
    omega
  · show seconds % 86400 / 60 % 60 < 60
    omega
  · show seconds % 86400 % 60 < 60
    omega

theorem isProper_of_read? {cs : List Char} {t : Timestamp} (h : Spoken.read? cs = some t) :
    t.IsProper := by
  unfold Spoken.read? at h
  dsimp only at h
  split at h
  · next seconds hseconds =>
    rw [← Option.some.inj h]
    exact isProper_ofUnixSeconds (Spoken.number?_lt hseconds)
  · obtain ⟨⟨year, month, day⟩, -, h⟩ := Option.bind_eq_some_iff.mp h
    exact isProper_of_ofDate? h

/-- No character of an ISO text is blank. -/
theorem IsIsoChar.isBlank_eq_false {c : Char} (h : IsIsoChar c) : Text.isBlank c = false := by
  rw [Bool.eq_false_iff]
  intro hblank
  rcases h with hdigit | hmark
  · have hcode := Text.mem_blankCodes hblank
    simp only [Text.blankCodes, List.mem_cons, List.not_mem_nil, or_false] at hcode
    omega
  · exact absurd hblank ((by decide : ∀ c ∈ "-:T.+".toList, ¬ Text.isBlank c = true) c hmark)

theorem trim_renderShort (t : Timestamp) : Text.trim t.renderShort = t.renderShort := by
  have hblank : ∀ c ∈ t.renderShort, Text.isBlank c = false :=
    fun c hc => (isIsoChar_of_mem_renderShort hc).isBlank_eq_false
  apply Text.trimWith_of_isTrimmed
  constructor
  · intro c hc
    exact hblank c (List.mem_of_mem_head? hc)
  · intro c hc
    exact hblank c (List.mem_of_mem_getLast? hc)

end Timestamp

/-! ## Any reader of what is not in ISO form -/

namespace Spoken

/-- Are the dates a reader finds valid points in time, without an offset from UTC? -/
def IsNaive (spoken : List Char → Option Timestamp) : Prop :=
  ∀ cs, ∀ t ∈ spoken cs, t.IsValid ∧ t.offset = none

theorem isNaive_read? : IsNaive read? := by
  intro cs t h
  refine ⟨(Timestamp.isProper_of_read? h).isValid, ?_⟩
  rw [Option.mem_def, read?] at h
  dsimp only at h
  split at h
  · rw [← Option.some.inj h]
    rfl
  · obtain ⟨⟨year, month, day⟩, -, h⟩ := Option.bind_eq_some_iff.mp h
    dsimp only [Timestamp.ofDate?] at h
    split at h
    · rw [← Option.some.inj h]
    · cases h

end Spoken

namespace Cell

/-- The point in time a cell names, with a reader for the texts that are not in ISO form. -/
def timestampBy? (spoken : List Char → Option Timestamp) (cell : Cell) : Option Timestamp := do
  let cs ← cell.dateText?
  (Timestamp.readIso? cs).orElse fun _ => spoken cs

theorem timestamp?_eq (cell : Cell) : cell.timestamp? = cell.timestampBy? Spoken.read? := rfl

variable {spoken later : List Char → Option Timestamp}

/-- Whatever a cell names is a proper point in time. -/
theorem isProper_of_timestampBy? (hspoken : Spoken.IsNaive spoken) {cell : Cell} {t : Timestamp}
    (h : cell.timestampBy? spoken = some t) : t.IsProper := by
  obtain ⟨cs, -, h⟩ := Option.bind_eq_some_iff.mp h
  cases hiso : Timestamp.readIso? cs with
  | some found =>
    rw [hiso] at h
    rw [← Option.some.inj h]
    exact Timestamp.isProper_of_readIso? hiso
  | none =>
    rw [hiso] at h
    obtain ⟨hvalid, hnone⟩ := hspoken cs t h
    refine ⟨hvalid.date, hvalid.hour, hvalid.minute, hvalid.second, hvalid.micro, fun o ho => ?_⟩
    rw [hnone] at ho
    cases ho

/-- A text that names no point in time for one reader names none for another that reads no more. -/
theorem timestampBy?_eq_none (hlater : ∀ cs, spoken cs = none → later cs = none) {cell : Cell}
    (h : cell.timestampBy? spoken = none) : cell.timestampBy? later = none := by
  rw [timestampBy?, Option.bind_eq_bind, Option.bind_eq_none_iff] at h ⊢
  intro cs hcs
  have hnone := h cs hcs
  cases hiso : Timestamp.readIso? cs with
  | some found =>
    rw [hiso] at hnone
    cases hnone
  | none =>
    rw [hiso] at hnone
    exact hlater cs hnone

/-- The ISO text of a point in time names it, or is longer than dates may be: one with fractions both
in its time and in its offset is. -/
theorem timestampBy?_renderShort {t : Timestamp} (h : t.IsProper) :
    (text (String.ofList t.renderShort)).timestampBy? later = some t ∨
      (text (String.ofList t.renderShort)).timestampBy? later = none := by
  rw [timestampBy?, dateText?, String.toList_ofList, Timestamp.trim_renderShort]
  split
  · rw [Option.bind_eq_bind, Option.bind_some, h.readIso?_renderShort]
    exact .inl rfl
  · exact .inr rfl

/-- A date in ISO form stays as it is. -/
theorem isoDate?_isoDate {cell : Cell} {iso : String} (h : cell.isoDate? = some iso) :
    (text iso).isoDate?.getD iso = iso := by
  obtain ⟨t, ht, rfl⟩ := Option.map_eq_some_iff.mp h
  have hproper := isProper_of_timestampBy? Spoken.isNaive_read? ht
  rw [isoDate?, timestamp?_eq]
  rcases timestampBy?_renderShort hproper with hagain | hagain
  · rw [hagain]
    rfl
  · rw [hagain]
    rfl

end Cell

end SheetQuery
