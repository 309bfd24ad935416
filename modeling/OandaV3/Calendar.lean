import Mathlib.Data.Int.ConditionallyCompleteOrder
import Mathlib.Tactic.Linarith
import Mathlib.Tactic.Ring

/-! # The proleptic Gregorian calendar

Days are counted from 1970-01-01.  A year begins in March here, so that the leap day is the last day of
a year; the months are counted through all years, and `firstDay` is the day a month begins with.

`monthIndex_spec`: every day lies in the month `monthIndex` gives.  `monthStart` is the first day of the
month of a day, and `weekStart` the first day of its week, for weeks that begin with any weekday; both
are at most the day and do not decrease. -/

namespace Calendar

/-- The days from 0000-03-01 to 1970-01-01. -/
def epochOffset : ℤ := 719468

/-! ### Years -/

/-- The days from 0000-03-01 to the first of March of a year. -/
def daysBeforeYear (y : ℤ) : ℤ := 365 * y + y / 4 - y / 100 + y / 400

/-- The year of a day counted from 0000-03-01: whole cycles of 400, 100, 4 and 1 years. -/
def yearOf (z : ℤ) : ℤ :=
  let n400 := z / 146097
  let rest := z % 146097
  let n100 := min (rest / 36524) 3
  let rest := rest - 36524 * n100
  let n4 := rest / 1461
  let rest := rest - 1461 * n4
  let n1 := min (rest / 365) 3
  400 * n400 + 100 * n100 + 4 * n4 + n1

theorem daysBeforeYear_cycles (n400 n100 n4 n1 : ℤ) (h100 : 0 ≤ n100 ∧ n100 ≤ 3)
    (h4 : 0 ≤ n4 ∧ n4 ≤ 24) (h1 : 0 ≤ n1 ∧ n1 ≤ 3) :
    daysBeforeYear (400 * n400 + 100 * n100 + 4 * n4 + n1) =
      146097 * n400 + 36524 * n100 + 1461 * n4 + 365 * n1 := by
  unfold daysBeforeYear
  have hy4 : (400 * n400 + 100 * n100 + 4 * n4 + n1) / 4 = 100 * n400 + 25 * n100 + n4 := by omega
  have hy100 : (400 * n400 + 100 * n100 + 4 * n4 + n1) / 100 = 4 * n400 + n100 := by omega
  have hy400 : (400 * n400 + 100 * n100 + 4 * n4 + n1) / 400 = n400 := by omega
  rw [hy4, hy100, hy400]
  ring

theorem daysBeforeYear_succ (y : ℤ) : daysBeforeYear y + 365 ≤ daysBeforeYear (y + 1) ∧
    daysBeforeYear (y + 1) ≤ daysBeforeYear y + 366 := by
  unfold daysBeforeYear
  have h4 : y / 400 = y / 4 / 100 := by omega
  have h100 : y / 400 = y / 100 / 4 := by omega
  have h4' : (y + 1) / 400 = (y + 1) / 4 / 100 := by omega
  have h100' : (y + 1) / 400 = (y + 1) / 100 / 4 := by omega
  omega

theorem yearOf_spec (z : ℤ) :
    daysBeforeYear (yearOf z) ≤ z ∧ z < daysBeforeYear (yearOf z + 1) := by
  obtain ⟨n400, n100, n4, n1, rest, hy, h100, h4, h1, hz, hrest, hlast⟩ :
      ∃ n400 n100 n4 n1 rest, yearOf z = 400 * n400 + 100 * n100 + 4 * n4 + n1 ∧
        (0 ≤ n100 ∧ n100 ≤ 3) ∧ (0 ≤ n4 ∧ n4 ≤ 24) ∧ (0 ≤ n1 ∧ n1 ≤ 3) ∧
        z = 146097 * n400 + 36524 * n100 + 1461 * n4 + 365 * n1 + rest ∧ 0 ≤ rest ∧
        (rest ≤ 364 ∨ (rest = 365 ∧ n1 = 3 ∧ (n4 ≤ 23 ∨ (n4 = 24 ∧ n100 = 3)))) := by
    refine ⟨_, _, _, _, _, rfl, ?_, ?_, ?_, (by rw [add_sub_cancel]), ?_, ?_⟩ <;> omega
  have hyear := daysBeforeYear_cycles n400 n100 n4 n1 h100 h4 h1
  rw [← hy] at hyear
  refine ⟨by omega, ?_⟩
  rcases hlast with hrest' | ⟨rfl, rfl, hfour | ⟨rfl, rfl⟩⟩
  · have := (daysBeforeYear_succ (yearOf z)).1
    omega
  · -- the last day of a leap year, inside a century
    have hnext := daysBeforeYear_cycles n400 n100 (n4 + 1) 0 h100 (by omega) (by omega)
    rw [show yearOf z + 1 = 400 * n400 + 100 * n100 + 4 * (n4 + 1) + 0 by omega, hnext]
    omega
  · -- the last day of a cycle of 400 years
    have hnext := daysBeforeYear_cycles (n400 + 1) 0 0 0 (by omega) (by omega) (by omega)
    rw [show yearOf z + 1 = 400 * (n400 + 1) + 100 * 0 + 4 * 0 + 0 by omega, hnext]
    omega

/-! ### Months -/

def firstDay (m : ℤ) : ℤ := daysBeforeYear (m / 12) + (153 * (m % 12) + 2) / 5 - epochOffset

def monthIndex (d : ℤ) : ℤ :=
  let y := yearOf (d + epochOffset)
  12 * y + (5 * (d + epochOffset - daysBeforeYear y) + 2) / 153

theorem firstDay_succ (m : ℤ) :
    firstDay m + 28 ≤ firstDay (m + 1) ∧ firstDay (m + 1) ≤ firstDay m + 31 := by
  unfold firstDay
  have hyear := daysBeforeYear_succ (m / 12)
  rcases eq_or_ne (m % 12) 11 with hlast | hmid
  · rw [show (m + 1) / 12 = m / 12 + 1 by omega, show (m + 1) % 12 = 0 by omega, hlast]
    omega
  · rw [show (m + 1) / 12 = m / 12 by omega, show (m + 1) % 12 = m % 12 + 1 by omega]
    omega

theorem firstDay_strictMono : StrictMono firstDay :=
  strictMono_int_of_lt_succ fun m => by
    have := (firstDay_succ m).1
    omega

theorem monthIndex_spec (d : ℤ) : firstDay (monthIndex d) ≤ d ∧ d < firstDay (monthIndex d + 1) := by
  obtain ⟨hle, hlt⟩ := yearOf_spec (d + epochOffset)
  have hyear := (daysBeforeYear_succ (yearOf (d + epochOffset))).2
  unfold monthIndex firstDay
  simp only
  generalize yearOf (d + epochOffset) = y at *
  obtain ⟨k, hk⟩ : ∃ k, k = (5 * (d + epochOffset - daysBeforeYear y) + 2) / 153 := ⟨_, rfl⟩
  have hk0 : 0 ≤ k := by omega
  have hk11 : k ≤ 11 := by omega
  rw [← hk, show (12 * y + k) / 12 = y by omega, show (12 * y + k) % 12 = k by omega]
  refine ⟨by omega, ?_⟩
  rcases eq_or_ne k 11 with hlast | hmid
  · rw [show (12 * y + k + 1) / 12 = y + 1 by omega, show (12 * y + k + 1) % 12 = 0 by omega]
    omega
  · rw [show (12 * y + k + 1) / 12 = y by omega, show (12 * y + k + 1) % 12 = k + 1 by omega]
    omega

/-- The first day of the month of a day. -/
def monthStart (d : ℤ) : ℤ := firstDay (monthIndex d)

theorem monthStart_le (d : ℤ) : monthStart d ≤ d := (monthIndex_spec d).1

theorem monthStart_mono : Monotone monthStart := by
  intro d e hde
  have hlt : monthIndex d < monthIndex e + 1 :=
    firstDay_strictMono.lt_iff_lt.mp ((monthStart_le d).trans_lt (hde.trans_lt (monthIndex_spec e).2))
  exact firstDay_strictMono.monotone (by omega)

-- 2024-02-29 and 2024-02-01
example : monthStart 19782 = 19754 := by decide

/-! ### Weeks -/

/-- The weekday of a day: 0 is Monday. -/
def weekday (d : ℤ) : ℤ := (d + 3) % 7

/-- The first day of the week of a day, for weeks that begin with the weekday `first`. -/
def weekStart (first d : ℤ) : ℤ := d - (weekday d - first) % 7

theorem weekStart_le (first d : ℤ) : weekStart first d ≤ d := by
  unfold weekStart
  omega

theorem weekStart_mono (first : ℤ) : Monotone (weekStart first) := by
  intro d e hde
  unfold weekStart weekday
  omega

end Calendar
