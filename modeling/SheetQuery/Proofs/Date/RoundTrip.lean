import SheetQuery.Proofs.Date.Reading
import SheetQuery.Schema.Coercion

/-!
# Dates are normalised without loss

The ISO text of a point in time says all of it, and reading it gives the same point in time again. The
one thing that gets lost is an offset from UTC of less than a second. Such an offset is written out,
but read as UTC itself; so no text names it, and fitting a cell to a column of dates a second time
changes nothing.

* `Cell.fitDate`: the fitting, for any reader of the dates that are not in ISO form;
* `Cell.coerce_date`: fitting with the reader at hand;
* `Cell.fitDate_fitDate`: fitting twice;
* `iso_text_is_read_back_iff`: both.
-/

namespace SheetQuery

/-! ## Fitting with any reader -/

namespace Cell

/-- Fits a cell to a column of dates, with a reader for the texts that are not in ISO form. -/
def fitDate (spoken : List Char → Option Timestamp) (cell : Cell) : Cell :=
  ((cell.timestampBy? spoken).map fun t => text (String.ofList t.renderShort)).getD cell

theorem coerce_date (cell : Cell) : FieldType.date.coerce cell = cell.fitDate Spoken.read? := by
  rw [FieldType.coerce, isoDate?, Option.map_map]
  rfl

variable {spoken later : List Char → Option Timestamp}

/-- An ISO text is not changed by fitting, whoever reads what is not in ISO form. -/
theorem fitDate_renderShort {t : Timestamp} (h : t.IsProper) :
    (text (String.ofList t.renderShort)).fitDate later = text (String.ofList t.renderShort) := by
  rw [fitDate]
  rcases timestampBy?_renderShort h with hagain | hagain
  · rw [hagain]
    rfl
  · rw [hagain]
    rfl

/-- Fitting a cell to a column of dates a second time changes nothing, though the second reader may
find other dates in the texts that both can read. -/
theorem fitDate_fitDate (hspoken : Spoken.IsNaive spoken)
    (hlater : ∀ cs, spoken cs = none → later cs = none) (cell : Cell) :
    (cell.fitDate spoken).fitDate later = cell.fitDate spoken := by
  cases h : cell.timestampBy? spoken with
  | some t =>
    have hfit : cell.fitDate spoken = text (String.ofList t.renderShort) := by rw [fitDate, h]; rfl
    rw [hfit, fitDate_renderShort (isProper_of_timestampBy? hspoken h)]
  | none =>
    have hfit : cell.fitDate spoken = cell := by rw [fitDate, h]; rfl
    rw [hfit, fitDate, timestampBy?_eq_none hlater h]
    rfl

end Cell

/-! ## The round trip -/

/-- The ISO text of a valid point in time is read as the same point in time if its offset is zero or at
least a second, or if it has none; a smaller offset is read as zero, and all else as it is. Fitting to a
column of dates is idempotent, with any reader of dates without offsets. -/
theorem iso_text_is_read_back_iff :
    (∀ t : Timestamp, t.IsValid →
      Iso.expandZulu t.renderShort = t.renderShort ∧
        Timestamp.readIso? t.renderShort =
          some { t with offset := t.offset.map fun o => if o.natAbs < 1000000 then 0 else o } ∧
        (Timestamp.readIso? t.renderShort = some t ↔
          ∀ o ∈ t.offset, o = 0 ∨ 1000000 ≤ o.natAbs)) ∧
      (∀ spoken later : List Char → Option Timestamp, Spoken.IsNaive spoken →
        (∀ cs, spoken cs = none → later cs = none) → ∀ cell : Cell,
          (cell.fitDate spoken).fitDate later = cell.fitDate spoken) ∧
      ∀ cell, FieldType.date.coerce (FieldType.date.coerce cell) = FieldType.date.coerce cell := by
  refine ⟨fun t ht => ⟨?_, ht.readIso?_renderShort, ?_⟩, fun spoken later hspoken hlater =>
    Cell.fitDate_fitDate hspoken hlater, fun cell => ?_⟩
  · exact Timestamp.expandZulu_of_isIsoChar fun c hc => Timestamp.isIsoChar_of_mem_renderShort hc
  · rw [ht.readIso?_renderShort, Option.some.injEq, Timestamp.settled_eq_self_iff]
  · rw [Cell.coerce_date, Cell.coerce_date]
    exact Cell.fitDate_fitDate Spoken.isNaive_read? (fun _ => id) cell

/-- The last microsecond of a leap day, almost a day behind UTC. -/
def leapEve : Timestamp := ⟨2024, 2, 29, 23, 59, 59, 999999, some (-86399999999)⟩

/-- A reader of one phrase, which names the day before the present one. -/
def dayBefore (day : Nat) (cs : List Char) : Option Timestamp :=
  if cs = "1 day ago".toList then Timestamp.ofDate? 2024 5 (day - 1) else none

theorem leap_eve_is_read_back :
    leapEve.IsValid ∧ String.ofList leapEve.renderShort = "2024-02-29T23:59:59.999999-23:59:59.999999" ∧
      Timestamp.readIso? leapEve.renderShort = some leapEve ∧
      Spoken.IsNaive (dayBefore 7) ∧ (∀ cs, dayBefore 7 cs = none → dayBefore 8 cs = none) ∧
      (Cell.text " 1 day ago").timestampBy? (dayBefore 7) = some ⟨2024, 5, 6, 0, 0, 0, 0, none⟩ ∧
      ((Cell.text " 1 day ago").fitDate (dayBefore 7)).fitDate (dayBefore 8) =
        (Cell.text " 1 day ago").fitDate (dayBefore 7) := by
  have hvalid : leapEve.IsValid := by
    refine ⟨by decide, by decide, by decide, by decide, by decide, fun o ho => ?_⟩
    rw [← Option.some.inj ho]
    decide
  have hoffset : ∀ o ∈ leapEve.offset, o = 0 ∨ 1000000 ≤ o.natAbs := by
    intro o ho
    rw [← Option.some.inj ho]
    decide
  have hnaive : Spoken.IsNaive (dayBefore 7) := by
    intro cs t ht
    rw [Option.mem_def, dayBefore] at ht
    split at ht
    · exact ⟨(Timestamp.isProper_of_ofDate? ht).isValid, by rw [← Option.some.inj ht]⟩
    · cases ht
  have hnone : ∀ cs, dayBefore 7 cs = none → dayBefore 8 cs = none := by
    intro cs h
    rw [dayBefore] at h ⊢
    split at h
    · cases h
    · next hphrase => rw [if_neg hphrase]
  exact ⟨hvalid, by decide +kernel, ((iso_text_is_read_back_iff.1 _ hvalid).2.2).mpr hoffset, hnaive,
    hnone, by decide +kernel, iso_text_is_read_back_iff.2.1 _ _ hnaive hnone _⟩

/-- A microsecond ahead of UTC. -/
def nearlyUtc : Timestamp := ⟨2024, 1, 1, 0, 0, 0, 0, some 1⟩

theorem tiny_offset_is_read_as_utc :
    nearlyUtc.IsValid ∧
      String.ofList nearlyUtc.renderShort = "2024-01-01T00:00:00+00:00:00.000001" ∧
      Timestamp.readIso? nearlyUtc.renderShort = some { nearlyUtc with offset := some 0 } ∧
      Timestamp.readIso? nearlyUtc.renderShort ≠ some nearlyUtc := by
  have hvalid : nearlyUtc.IsValid := by
    refine ⟨by decide, by decide, by decide, by decide, by decide, fun o ho => ?_⟩
    rw [← Option.some.inj ho]
    decide
  have hread : Timestamp.readIso? nearlyUtc.renderShort = some { nearlyUtc with offset := some 0 } :=
    hvalid.readIso?_renderShort
  exact ⟨hvalid, by decide +kernel, hread, by rw [hread]; decide⟩

end SheetQuery
