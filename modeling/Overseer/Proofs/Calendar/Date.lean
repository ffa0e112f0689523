-- SUMMARY: Dates are counted: each day has a number, and the day after has the number after.
import Mathlib.Algebra.Order.Group.Unbundled.Int
import Mathlib.Data.Int.Init
import Mathlib.Tactic.SplitIfs
import Overseer.Calendar.Date

/-!
# Day numbers

A date has a number: the days of the years before its year, of the months before its month, and its day. Leap
years are counted by dividing. Different dates have different numbers, and the day after has the number after,
also over the ends of months and of years.
-/

namespace Overseer.Calendar

-- ---------------------------------------------------------------------------
-- Years and months
-- ---------------------------------------------------------------------------

/-- The number of days of a year. -/
def daysOfYear (year : Int) : Nat := if isLeap year then 366 else 365

/-- The days from the beginning of the year one to that of a year. -/
def daysBeforeYear (year : Int) : Int := 365 * (year - 1) + (year - 1) / 4 - (year - 1) / 100 + (year - 1) / 400

/-- The days of a year in front of a month. -/
def daysBeforeMonth (year : Int) : Nat → Nat
  | 0 | 1 => 0
  | month + 2 => daysBeforeMonth year (month + 1) + daysIn year (month + 1)

theorem daysIn_le (year : Int) (month : Nat) : daysIn year month ≤ 31 := by
  unfold daysIn
  split_ifs <;> decide

theorem daysBeforeYear_succ (year : Int) : daysBeforeYear (year + 1) = daysBeforeYear year + daysOfYear year := by
  simp only [daysBeforeYear, daysOfYear, isLeap, Bool.and_eq_true, Bool.or_eq_true, decide_eq_true_eq]
  split_ifs <;> omega

theorem daysBeforeYear_le {year later : Int} (before : year < later) :
    daysBeforeYear year + daysOfYear year ≤ daysBeforeYear later := by
  induction later, before using Int.leInduction with
  | base => exact (daysBeforeYear_succ year).ge
  | succ later _ ih =>
    rw [daysBeforeYear_succ]
    omega

theorem daysBeforeMonth_one (year : Int) : daysBeforeMonth year 1 = 0 := rfl

theorem daysBeforeMonth_succ (year : Int) {month : Nat} (first : 1 ≤ month) :
    daysBeforeMonth year (month + 1) = daysBeforeMonth year month + daysIn year month := by
  obtain ⟨m, rfl⟩ := Nat.exists_eq_add_of_le' first
  rfl

theorem daysBeforeMonth_le (year : Int) {month later : Nat} (first : 1 ≤ month) (before : month < later) :
    daysBeforeMonth year month + daysIn year month ≤ daysBeforeMonth year later := by
  induction later, before using Nat.le_induction with
  | base => exact (daysBeforeMonth_succ year first).ge
  | succ later below ih =>
    rw [daysBeforeMonth_succ year (Nat.le_of_lt (Nat.lt_of_le_of_lt first below))]
    omega

theorem daysBeforeMonth_thirteen (year : Int) : daysBeforeMonth year 13 = daysOfYear year := by
  cases leap : isLeap year <;> simp [daysBeforeMonth, daysOfYear, daysIn, leap]

-- ---------------------------------------------------------------------------
-- Dates
-- ---------------------------------------------------------------------------

namespace Date

variable {d e : Date}

/-- The number of a day; the first day of the year one is number 1. -/
def number (d : Date) : Int := daysBeforeYear d.year + daysBeforeMonth d.year d.month + d.day

theorem within_year (d : Date) : daysBeforeMonth d.year d.month + d.day ≤ daysOfYear d.year := by
  obtain ⟨first, last, -, day⟩ := d.valid
  have month := daysBeforeMonth_le d.year first (Nat.lt_succ_of_le last)
  rw [daysBeforeMonth_thirteen] at month
  omega

theorem number_lt_of_year (before : d.year < e.year) : d.number < e.number := by
  have years := daysBeforeYear_le before
  have within := d.within_year
  have day := e.valid.2.2.1
  rw [number, number]
  omega

theorem number_lt_of_month (year : d.year = e.year) (before : d.month < e.month) : d.number < e.number := by
  have months := daysBeforeMonth_le d.year d.valid.1 before
  have last := d.valid.2.2.2
  have day := e.valid.2.2.1
  rw [number, number, ← year]
  omega

/-- Different dates have different numbers. -/
theorem number_injective (same : d.number = e.number) : d = e := by
  have year : d.year = e.year := by
    rcases lt_trichotomy d.year e.year with before | equal | behind
    · exact absurd same (number_lt_of_year before).ne
    · exact equal
    · exact absurd same (number_lt_of_year behind).ne'
  have month : d.month = e.month := by
    rcases lt_trichotomy d.month e.month with before | equal | behind
    · exact absurd same (number_lt_of_month year before).ne
    · exact equal
    · exact absurd same (number_lt_of_month year.symm behind).ne'
  have day : d.day = e.day := by
    rw [number, number, year, month] at same
    omega
  cases d
  cases e
  simp_all

-- ---------------------------------------------------------------------------
-- The days before and after
-- ---------------------------------------------------------------------------

/-- The year can be represented. -/
def InRange (d : Date) : Prop := minYear ≤ d.year ∧ d.year ≤ maxYear

theorem of?_date (inRange : d.InRange) : of? d.year d.month d.day = some d := by
  rw [of?, dif_pos d.valid]
  exact if_pos inRange

/-- The day after has a number of its own, whether it can be represented or not. -/
theorem exists_next (d : Date) : ∃ e : Date, e.number = d.number + 1 ∧ d.next? = of? e.year e.month e.day := by
  obtain ⟨first, last, day, within⟩ := d.valid
  rw [next?]
  split_ifs with inside december
  · refine ⟨⟨d.year, d.month, d.day + 1, first, last, by omega, inside⟩, ?_, rfl⟩
    simp only [number]
    omega
  · refine ⟨⟨d.year, d.month + 1, 1, by omega, december, le_rfl, daysIn_pos _ _⟩, ?_, rfl⟩
    simp only [number, daysBeforeMonth_succ d.year first]
    omega
  · refine ⟨⟨d.year + 1, 1, 1, by decide, by decide, le_rfl, daysIn_pos _ _⟩, ?_, rfl⟩
    have month : d.month = 12 := by omega
    have year := daysBeforeMonth_succ d.year (by decide : 1 ≤ 12)
    rw [daysBeforeMonth_thirteen] at year
    simp only [number, daysBeforeYear_succ, daysBeforeMonth_one, month]
    rw [month] at inside within
    omega

theorem exists_previous (d : Date) :
    ∃ e : Date, e.number + 1 = d.number ∧ d.previous? = of? e.year e.month e.day := by
  obtain ⟨first, last, day, within⟩ := d.valid
  rw [previous?]
  split_ifs with inside january
  · refine ⟨⟨d.year, d.month, d.day - 1, first, last, by omega, by omega⟩, ?_, rfl⟩
    simp only [number]
    omega
  · refine ⟨⟨d.year, d.month - 1, daysIn d.year (d.month - 1), by omega, by omega, daysIn_pos _ _, le_rfl⟩, ?_, rfl⟩
    have month := daysBeforeMonth_succ d.year (by omega : 1 ≤ d.month - 1)
    rw [Nat.sub_add_cancel first] at month
    simp only [number, month]
    omega
  · refine ⟨⟨d.year - 1, 12, 31, by decide, by decide, by decide, by rfl⟩, ?_, rfl⟩
    have month : d.month = 1 := by omega
    have year := daysBeforeMonth_succ (d.year - 1) (by decide : 1 ≤ 12)
    rw [daysBeforeMonth_thirteen] at year
    have december : daysIn (d.year - 1) 12 = 31 := rfl
    have before := daysBeforeYear_succ (d.year - 1)
    rw [Int.sub_add_cancel] at before
    simp only [number, month, daysBeforeMonth_one, before]
    omega

theorem next?_of_number (after : e.number = d.number + 1) (inRange : e.InRange) : d.next? = some e := by
  obtain ⟨next, number, found⟩ := d.exists_next
  rw [found, number_injective (number.trans after.symm), of?_date inRange]

theorem previous?_of_number (before : e.number + 1 = d.number) (inRange : e.InRange) : d.previous? = some e := by
  obtain ⟨previous, number, found⟩ := d.exists_previous
  have same : previous.number = e.number := by omega
  rw [found, number_injective same, of?_date inRange]

end Date

end Overseer.Calendar
