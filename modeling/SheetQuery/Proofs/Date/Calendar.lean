import SheetQuery.Date.Calendar

/-!
# Days that are counted are dates

The year of a day within a cycle of 400 years is a quotient of the day, mended for the leap days before
it. The mended day grows with the day, so that it is enough to look at the first and the last days of
the 400 years.

* `yearOfEra_bounds`: the day lies in its year;
* `isDate_ofDayNumber`: a counted day is a date of the calendar.
-/

namespace SheetQuery.Calendar

/-! ## Years of a cycle -/

/-- The days of a cycle before one of its years, counted from March. -/
def daysBefore (year : Nat) : Nat := 365 * year + year / 4 - year / 100

/-- A day of a cycle without the leap days before it. -/
def commonDay (day : Nat) : Nat := day - day / 1460 + day / 36524 - day / 146096

theorem commonDay_mono {a b : Nat} (hab : a ≤ b) (hb : b < 146096) :
    commonDay a ≤ commonDay b := by
  have hquarter : a - a / 1460 ≤ b - b / 1460 := by omega
  have hcentury : a / 36524 ≤ b / 36524 := Nat.div_le_div_right hab
  have hlast : a / 146096 = 0 ∧ b / 146096 = 0 := by omega
  unfold commonDay
  omega

/-- The first and the last days of the years of a cycle. -/
theorem commonDay_daysBefore : ∀ year < 400, 365 * year ≤ commonDay (daysBefore year) ∧
    commonDay (daysBefore (year + 1) - 1) < 365 * (year + 1) := by
  decide +kernel

/-- A day lies in the year that its mended count tells; only the last day of the cycle lies beyond. -/
theorem yearOfEra_bounds {day : Nat} (h : day < 146096) :
    daysBefore (commonDay day / 365) ≤ day ∧ day < daysBefore (commonDay day / 365 + 1) := by
  have hlast : commonDay day ≤ commonDay 146095 := commonDay_mono (by omega) (by omega)
  have hend : commonDay 146095 < 146000 := by decide
  have hyear : commonDay day / 365 < 400 := by omega
  constructor
  · apply Nat.le_of_not_lt
    intro hbefore
    -- the day would be at most the last one of the year before
    obtain ⟨year, hsucc⟩ : ∃ year, commonDay day / 365 = year + 1 := by
      cases hzero : commonDay day / 365 with
      | zero =>
        rw [hzero] at hbefore
        exact absurd hbefore (Nat.not_lt_zero _)
      | succ year => exact ⟨year, rfl⟩
    rw [hsucc] at hbefore
    have hmono : commonDay day ≤ commonDay (daysBefore (year + 1) - 1) := by
      apply commonDay_mono (by omega)
      unfold daysBefore
      omega
    have := (commonDay_daysBefore year (by omega)).2
    omega
  · apply Nat.lt_of_not_le
    intro hafter
    by_cases hnext : commonDay day / 365 + 1 < 400
    · have hmono := commonDay_mono hafter h
      have := (commonDay_daysBefore _ hnext).1
      omega
    · have hyear : commonDay day / 365 = 399 := by omega
      rw [hyear] at hafter
      have : daysBefore (399 + 1) = 146096 := by decide
      omega

/-- A year has at most 366 days, and that many only if it ends with the February of a leap year. -/
theorem daysBefore_succ (year : Nat) : daysBefore (year + 1) ≤ daysBefore year + 366 ∧
    (daysBefore (year + 1) = daysBefore year + 366 →
      (year + 1) % 4 = 0 ∧ (year + 1) % 100 ≠ 0) := by
  have hquarter : ((year + 1) / 4 = year / 4 ∧ (year + 1) % 4 ≠ 0) ∨
      ((year + 1) / 4 = year / 4 + 1 ∧ (year + 1) % 4 = 0) := by omega
  have hcentury : ((year + 1) / 100 = year / 100 ∧ (year + 1) % 100 ≠ 0) ∨
      ((year + 1) / 100 = year / 100 + 1 ∧ (year + 1) % 100 = 0) := by omega
  unfold daysBefore
  rcases hquarter with ⟨hquarter, -⟩ | ⟨hquarter, -⟩ <;>
    rcases hcentury with ⟨hcentury, -⟩ | ⟨hcentury, -⟩ <;>
      rw [hquarter, hcentury] <;> omega

/-- A day is one of the 366 of its year, and the last of them only in a year that ends with the
February of a leap year. -/
theorem dayOfYear_bounds {day : Nat} (h : day < 146097) :
    commonDay day / 365 < 400 ∧ day - daysBefore (commonDay day / 365) ≤ 365 ∧
      (day - daysBefore (commonDay day / 365) = 365 →
        (commonDay day / 365 + 1) % 4 = 0 ∧
          ((commonDay day / 365 + 1) % 100 ≠ 0 ∨ (commonDay day / 365 + 1) % 400 = 0)) := by
  by_cases hlast : day < 146096
  · have hyear : commonDay day / 365 < 400 := by
      have hmono : commonDay day ≤ commonDay 146095 := commonDay_mono (by omega) (by omega)
      have hend : commonDay 146095 < 146000 := by decide
      omega
    obtain ⟨hfrom, hto⟩ := yearOfEra_bounds hlast
    obtain ⟨hlength, hleap⟩ := daysBefore_succ (commonDay day / 365)
    refine ⟨hyear, by omega, fun hlate => ?_⟩
    obtain ⟨hquarter, hcentury⟩ := hleap (by omega)
    exact ⟨hquarter, .inl hcentury⟩
  · -- the last day of the cycle is the leap day of its last year
    have hday : day = 146096 := by omega
    rw [hday]
    decide

/-! ## Months -/

/-- The month of a day of a year that begins in March, counted from March. -/
def monthOfYear (day : Nat) : Nat := (5 * day + 2) / 153

/-- The days of a year that begins in March fall into the months of the calendar; February has 29 days
only if the year has 366. -/
theorem dayOfMonth_bounds : ∀ day < 366,
    (let month := if monthOfYear day < 10 then monthOfYear day + 3 else monthOfYear day - 9
    let dayOfMonth := day - (153 * monthOfYear day + 2) / 5 + 1
    (day ≠ 365 → dayOfMonth ≤ daysInMonth 1 month) ∧
      (day = 365 → month = 2 ∧ dayOfMonth = 29)) := by
  decide +kernel

theorem daysInMonth_of_isLeapYear {year : Nat} (h : isLeapYear year = true) :
    daysInMonth year 2 = 29 := by
  simp [daysInMonth, h]

/-- The first year has the shortest months. -/
theorem daysInMonth_one_le (year month : Nat) : daysInMonth 1 month ≤ daysInMonth year month := by
  have hone : isLeapYear 1 = false := by decide
  unfold daysInMonth
  rw [hone]
  split
  · show 28 ≤ _
    split <;> decide
  · exact Nat.le_refl _

/-- The date of a counted day, from its cycle and its day in the cycle. -/
theorem ofDayNumber_eq {days cycle day : Nat} (hday : day < 146097)
    (hdays : days + 719468 = cycle * 146097 + day) :
    let year := commonDay day / 365
    let dayOfYear := day - daysBefore year
    let month := if monthOfYear dayOfYear < 10 then monthOfYear dayOfYear + 3
      else monthOfYear dayOfYear - 9
    ofDayNumber days = ((cycle : Int) * 400 + year + (if month ≤ 2 then 1 else 0), month,
      dayOfYear - (153 * monthOfYear dayOfYear + 2) / 5 + 1) := by
  have hcycle : ((days : Int) + 719468) / 146097 = cycle := by omega
  have hrest : (((days : Int) + 719468) % 146097).toNat = day := by omega
  intro year dayOfYear month
  simp only [ofDayNumber, hcycle, hrest]
  rfl

/-- A day counted from 1970 is a date, up to the year 9600. -/
theorem isDate_ofDayNumber {days : Nat} (h : days < 2786860) :
    isDate (ofDayNumber days).1.toNat (ofDayNumber days).2.1 (ofDayNumber days).2.2 = true := by
  obtain ⟨cycle, day, hday, hdays⟩ : ∃ cycle day, day < 146097 ∧
      days + 719468 = cycle * 146097 + day :=
    ⟨(days + 719468) / 146097, (days + 719468) % 146097, Nat.mod_lt _ (by decide), by omega⟩
  have hcycle : 4 ≤ cycle ∧ cycle < 24 := by omega
  obtain ⟨hyear, hdayOfYear, hleap⟩ := dayOfYear_bounds hday
  obtain ⟨hcommon, hlast⟩ := dayOfMonth_bounds _ (Nat.lt_succ_of_le hdayOfYear)
  rw [ofDayNumber_eq hday hdays]
  dsimp only at hcommon hlast ⊢
  generalize (if monthOfYear (day - daysBefore (commonDay day / 365)) < 10 then
    monthOfYear (day - daysBefore (commonDay day / 365)) + 3
      else monthOfYear (day - daysBefore (commonDay day / 365)) - 9) = month at *
  generalize commonDay day / 365 = year at *
  generalize hdayOfMonth : day - daysBefore year -
    (153 * monthOfYear (day - daysBefore year) + 2) / 5 + 1 = dayOfMonth at *
  have hsum : ((cycle : Int) * 400 + year + if month ≤ 2 then 1 else 0).toNat =
      cycle * 400 + year + if month ≤ 2 then 1 else 0 := by
    split <;> omega
  have hmonth : dayOfMonth ≤
      daysInMonth (cycle * 400 + year + if month ≤ 2 then 1 else 0) month := by
    -- only the last day of a leap year, in February, needs more days than common years have
    by_cases hend : day - daysBefore year = 365
    · obtain ⟨rfl, rfl⟩ := hlast hend
      obtain ⟨hquarter, hcentury⟩ := hleap hend
      have hleapYear : isLeapYear (cycle * 400 + year + 1) = true := by
        simp only [isLeapYear, Bool.and_eq_true, Bool.or_eq_true, beq_iff_eq, bne_iff_ne]
        omega
      rw [if_pos (by decide)]
      exact Nat.le_of_eq (daysInMonth_of_isLeapYear hleapYear).symm
    · exact Nat.le_trans (hcommon hend) (daysInMonth_one_le _ month)
  rw [hsum, isDate]
  simp only [Bool.and_eq_true, decide_eq_true_eq]
  refine ⟨⟨⟨?_, ?_⟩, by omega⟩, hmonth⟩
  · omega
  · split <;> omega

end SheetQuery.Calendar
