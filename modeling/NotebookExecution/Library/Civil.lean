import NotebookExecution.Library.Calendar

/-! What a clock's reading says of the hour and of the date. Days are counted from 1 March 0000, so that
the leap day ends its year, its four years and its four centuries. -/

namespace NotebookExecution.Library.Calendar

def minuteOf (r : ℤ) : ℕ := (r / 60000000 % 60).toNat
def hourOf (r : ℤ) : ℕ := (r / 3600000000 % 24).toNat
def dayNumber (r : ℤ) : ℤ := r / 86400000000

/-- Sunday is 0; the count of readings starts on a Thursday. -/
def weekdayOf (r : ℤ) : ℕ := ((dayNumber r + 4) % 7).toNat

/-- The days since 1 March. -/
def yearDay (n : ℤ) : ℤ :=
  let e := (n + 719468) % 146097
  let q := (e - 36524 * min (e / 36524) 3) % 1461
  q - 365 * min (q / 365) 3

/-- Months from March on have 31, 30, 31, 30, 31 days, and so again. -/
def monthIndex (d : ℤ) : ℤ := (5 * d + 2) / 153

def monthOf (r : ℤ) : ℕ :=
  let k := monthIndex (yearDay (dayNumber r))
  (if k < 10 then k + 3 else k - 9).toNat

def dayOf (r : ℤ) : ℕ :=
  let d := yearDay (dayNumber r)
  (d - (153 * monthIndex d + 2) / 5 + 1).toNat

-- 29 February 2024, a Thursday, at 13:37.
example : let r := 1709213820000000
    (minuteOf r, hourOf r, dayOf r, monthOf r, weekdayOf r) = (37, 13, 29, 2, 4) := by decide

lemma minuteOf_le (r : ℤ) : minuteOf r ≤ 59 := by
  unfold minuteOf
  omega

lemma hourOf_le (r : ℤ) : hourOf r ≤ 23 := by
  unfold hourOf
  omega

lemma weekdayOf_le (r : ℤ) : weekdayOf r ≤ 6 := by
  unfold weekdayOf
  omega

lemma yearDay_bounds (n : ℤ) : 0 ≤ yearDay n ∧ yearDay n ≤ 365 := by
  have hq : ∀ q : ℤ, 0 ≤ q → q < 1461 →
      0 ≤ q - 365 * min (q / 365) 3 ∧ q - 365 * min (q / 365) 3 ≤ 365 := by
    intro q h₁ h₂
    omega
  exact hq _ (Int.emod_nonneg _ (by decide)) (Int.emod_lt_of_pos _ (by decide))

lemma monthIndex_bounds (n : ℤ) : 0 ≤ monthIndex (yearDay n) ∧ monthIndex (yearDay n) ≤ 11 := by
  have h := yearDay_bounds n
  unfold monthIndex
  omega

lemma monthOf_bounds (r : ℤ) : 1 ≤ monthOf r ∧ monthOf r ≤ 12 := by
  have h := monthIndex_bounds (dayNumber r)
  simp only [monthOf]
  split <;> omega

lemma dayOf_bounds (r : ℤ) : 1 ≤ dayOf r ∧ dayOf r ≤ 31 := by
  have h := yearDay_bounds (dayNumber r)
  simp only [dayOf, monthIndex]
  omega

lemma minuteOf_minutes {v : ℕ} (h : v ≤ 59) : minuteOf (v * 60000000) = v := by
  unfold minuteOf
  omega

lemma hourOf_hours {v : ℕ} (h : v ≤ 23) : hourOf (v * 3600000000) = v := by
  unfold hourOf
  omega

lemma dayNumber_days (v : ℤ) : dayNumber (v * 86400000000) = v := by
  unfold dayNumber
  omega

lemma weekdayOf_days {v : ℕ} (h : v ≤ 6) : weekdayOf ((v + 3) * 86400000000) = v := by
  rw [weekdayOf, dayNumber_days]
  omega

lemma dayOf_days {v : ℕ} (h₁ : 1 ≤ v) (h : v ≤ 31) : dayOf ((v - 1) * 86400000000) = v := by
  interval_cases v <;> decide

-- Steps of 31 days reach every month of a year.
lemma monthOf_days {v : ℕ} (h₁ : 1 ≤ v) (h : v ≤ 12) : monthOf ((v - 1) * 31 * 86400000000) = v := by
  interval_cases v <;> decide

end NotebookExecution.Library.Calendar
