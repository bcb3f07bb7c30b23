import Mathlib.Algebra.Order.Group.Int
import Registrar.Time.Instant
/-!
# Days and dates

The calendar repeats itself after an era of four hundred years, whose years are counted from March.
The year of a day within its era is found by a division that passes over the leap days; it is the
right one because it is at both ends of every year. With that, the date of a day is a date that the
calendar has, and it stands for the same day.
-/

set_option autoImplicit false

namespace Registrar.Instant

/-! ## Years of an era -/

/-- The days of an era before one of its years. -/
def daysBefore (year : Int) : Int :=
  365 * year + year / 4 - year / 100 + year / 400

/-- The days of an era before one of its days, without the leap days. -/
def leapless (day : Int) : Int :=
  day - day / 1460 + day / 36524 - day / 146096

theorem leapless_mono {day later : Int} (ordered : day ≤ later) :
    leapless day ≤ leapless later := by
  obtain ⟨count, rfl⟩ := Int.le.dest ordered
  induction count with
  | zero => simp
  | succ count ih =>
      have next : leapless (day + count) ≤ leapless (day + (count + 1 : Nat)) := by
        unfold leapless
        omega
      exact Int.le_trans (ih (by omega)) next

/-- The division gives the year before up to the turn of the year, and the year itself from then
on. -/
theorem leapless_at_turn : ∀ year : Fin 401,
    ((year : Int) ≠ 0 → leapless (daysBefore year - 1) < 365 * year) ∧
      365 * year ≤ leapless (daysBefore year) := by
  decide +kernel

theorem exists_yearOfEra {day : Int} (first : 0 ≤ day) (last : day < 146097) :
    ∃ year, leapless day / 365 = year ∧ 0 ≤ year ∧ year < 400 ∧
      daysBefore year ≤ day ∧ day < daysBefore (year + 1) := by
  have least : 0 ≤ leapless day := leapless_mono first
  have most : leapless day ≤ 145999 := leapless_mono (show day ≤ 146096 by omega)
  have bounded : leapless day / 365 < 400 := by omega
  obtain ⟨year, same⟩ := Int.eq_ofNat_of_zero_le (show 0 ≤ leapless day / 365 by omega)
  rw [same] at bounded
  refine ⟨year, same, by omega, bounded, ?_, ?_⟩
  · have turn := (leapless_at_turn ⟨year, by omega⟩).1
    by_contra early
    have before : leapless day ≤ leapless (daysBefore year - 1) := leapless_mono (by omega)
    by_cases zero : (year : Int) = 0
    · rw [zero] at early
      exact early first
    · have := turn zero
      dsimp only at this
      omega
  · have turn := (leapless_at_turn ⟨year + 1, by omega⟩).2
    by_contra late
    have after := leapless_mono (show daysBefore (year + 1) ≤ day by omega)
    push_cast at turn
    omega

/-! ## Leap years -/

theorem isLeapYear_iff (year : Int) :
    isLeapYear year = true ↔ year % 4 = 0 ∧ (year % 100 ≠ 0 ∨ year % 400 = 0) := by
  simp [isLeapYear]

theorem isLeapYear_add_era (year era : Int) : isLeapYear (year + era * 400) = isLeapYear year := by
  rw [Bool.eq_iff_iff, isLeapYear_iff, isLeapYear_iff]
  omega

theorem daysBefore_succ (year : Int) :
    daysBefore (year + 1) = daysBefore year + if isLeapYear (year + 1) then 366 else 365 := by
  unfold daysBefore
  split
  · next leap =>
      rw [isLeapYear_iff] at leap
      omega
  · next common =>
      rw [isLeapYear_iff] at common
      omega

theorem monthLength_congr {year other : Int} (same : isLeapYear year = isLeapYear other)
    (month : Nat) : monthLength year month = monthLength other month := by
  unfold monthLength
  rw [same]

/-! ## Months -/

def monthOf (day : Int) : Int :=
  (5 * day + 2) / 153

/-- The months of a year that starts in March, as they are numbered from January. -/
def numbered (month : Int) : Int :=
  if month < 10 then month + 3 else month - 9

def dayOfMonth (day : Int) : Int :=
  day - (153 * monthOf day + 2) / 5 + 1

/-- Every day of a leap year is a day of one of its months, and every day but the last one is a day
of a month in a common year. -/
theorem day_of_month : ∀ day : Fin 366,
    1 ≤ numbered (monthOf day) ∧ numbered (monthOf day) ≤ 12 ∧
      (((numbered (monthOf day)).toNat + 9) % 12 : Nat) = monthOf day ∧
      1 ≤ dayOfMonth day ∧
      dayOfMonth day ≤ monthLength 2000 (numbered (monthOf day)).toNat ∧
      ((day : Int) < 365 → dayOfMonth day ≤ monthLength 2001 (numbered (monthOf day)).toNat) := by
  decide +kernel

/-! ## Dates -/

/-- There is such a date, and it is the one of this day. -/
structure IsDate (days year : Int) (month day : Nat) : Prop where
  month_pos : 1 ≤ month
  month_le : month ≤ 12
  day_pos : 1 ≤ day
  day_le : day ≤ monthLength year month
  days_eq : daysOfDate year month day = days

/-- The date of a day of an era: its year begins in March, so the months after the turn of the year
belong to the next one. -/
theorem isDate_of_era (era : Int) {yearOfEra dayOfYear : Int} (year_nonneg : 0 ≤ yearOfEra)
    (year_lt : yearOfEra < 400) (day_nonneg : 0 ≤ dayOfYear)
    (day_lt : daysBefore yearOfEra + dayOfYear < daysBefore (yearOfEra + 1)) :
    IsDate (era * 146097 + daysBefore yearOfEra + dayOfYear - 719468)
      (if numbered (monthOf dayOfYear) ≤ 2 then yearOfEra + era * 400 + 1
        else yearOfEra + era * 400)
      (numbered (monthOf dayOfYear)).toNat (dayOfMonth dayOfYear).toNat := by
  have turn := daysBefore_succ yearOfEra
  obtain ⟨day, rfl⟩ := Int.eq_ofNat_of_zero_le day_nonneg
  have short : day < 366 := by
    split at turn <;> omega
  obtain ⟨month_pos, month_le, month_eq, day_pos, day_le, early⟩ := day_of_month ⟨day, short⟩
  dsimp only at month_pos month_le month_eq day_pos day_le early
  refine ⟨by omega, by omega, by omega, ?_, ?_⟩
  · generalize dated : (if numbered (monthOf day) ≤ 2 then yearOfEra + era * 400 + 1
      else yearOfEra + era * 400) = year
    cases leap : isLeapYear year with
    | true =>
        rw [monthLength_congr (leap.trans (show true = isLeapYear 2000 from rfl))]
        omega
    | false =>
        rw [monthLength_congr (leap.trans (show false = isLeapYear 2001 from rfl))]
        have common : (day : Int) < 365 := by
          by_contra last
          obtain rfl : day = 365 := by omega
          -- the last day of a leap year is in February, and so after the turn of the year
          have after : numbered (monthOf 365) ≤ 2 := by decide
          rw [if_pos (by exact after), Int.add_right_comm] at dated
          rw [← dated, isLeapYear_add_era] at leap
          rw [leap] at turn
          simp at turn
          omega
        have := early common
        omega
  · unfold daysOfDate
    dsimp only
    rw [month_eq]
    have before : daysBefore yearOfEra = 365 * yearOfEra + yearOfEra / 4 - yearOfEra / 100 := by
      unfold daysBefore
      omega
    have dated : dayOfMonth day = day - (153 * monthOf day + 2) / 5 + 1 := rfl
    split <;> split <;> omega

theorem isDate_dateOfDays (days : Int) :
    IsDate days (dateOfDays days).1 (dateOfDays days).2.1 (dateOfDays days).2.2 := by
  have first : 0 ≤ (days + 719468) % 146097 := by omega
  have last : (days + 719468) % 146097 < 146097 := by omega
  obtain ⟨yearOfEra, divided, year_nonneg, year_lt, begun, unended⟩ := exists_yearOfEra first last
  have before : daysBefore yearOfEra = 365 * yearOfEra + yearOfEra / 4 - yearOfEra / 100 := by
    unfold daysBefore
    omega
  have day_nonneg : 0 ≤ (days + 719468) % 146097 - daysBefore yearOfEra := by omega
  have date := isDate_of_era ((days + 719468) / 146097) year_nonneg year_lt day_nonneg (by omega)
  have same : (days + 719468) / 146097 * 146097 + daysBefore yearOfEra +
      ((days + 719468) % 146097 - daysBefore yearOfEra) - 719468 = days := by omega
  rw [same, before] at date
  unfold leapless at divided
  unfold dateOfDays
  dsimp only
  rw [divided]
  exact date

end Registrar.Instant
