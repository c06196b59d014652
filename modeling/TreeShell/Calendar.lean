/-
Calendar days.

A day is given by year, month and day of the month, and every day has a number:
day 1 is the first of January of year 1, a Monday.  The weekday is the number's
remainder by seven, so that `weekday_tomorrow` needs only that the number of the
following day is one more, which is `number_tomorrow`.
-/

namespace TreeShell
namespace Calendar

inductive Weekday where
  | sunday
  | monday
  | tuesday
  | wednesday
  | thursday
  | friday
  | saturday
deriving DecidableEq

namespace Weekday

def next : Weekday → Weekday
  | sunday => monday
  | monday => tuesday
  | tuesday => wednesday
  | wednesday => thursday
  | thursday => friday
  | friday => saturday
  | saturday => sunday

/-- The weekday of the day with the given number. -/
def ofNumber (n : Nat) : Weekday :=
  match n % 7 with
  | 0 => sunday
  | 1 => monday
  | 2 => tuesday
  | 3 => wednesday
  | 4 => thursday
  | 5 => friday
  | _ => saturday

def name : Weekday → String
  | sunday => "Sun"
  | monday => "Mon"
  | tuesday => "Tue"
  | wednesday => "Wed"
  | thursday => "Thu"
  | friday => "Fri"
  | saturday => "Sat"

theorem ofNumber_succ (n : Nat) : ofNumber (n + 1) = (ofNumber n).next := by
  have h : n % 7 = 0 ∨ n % 7 = 1 ∨ n % 7 = 2 ∨ n % 7 = 3 ∨ n % 7 = 4 ∨ n % 7 = 5 ∨ n % 7 = 6 := by
    omega
  rcases h with h | h | h | h | h | h | h <;> simp [ofNumber, next, Nat.add_mod, h]

end Weekday

structure Date where
  year : Nat
  month : Nat
  day : Nat
deriving DecidableEq

/-- Every fourth year is a leap year, but of the full centuries only every
fourth. -/
def IsLeap (year : Nat) : Prop := year % 4 = 0 ∧ (year % 100 ≠ 0 ∨ year % 400 = 0)

instance (year : Nat) : Decidable (IsLeap year) := inferInstanceAs (Decidable (_ ∧ _))

def monthLength (year month : Nat) : Nat :=
  if month = 2 then (if IsLeap year then 29 else 28)
  else if month = 4 ∨ month = 6 ∨ month = 9 ∨ month = 11 then 30
  else 31

def monthName : Nat → String
  | 1 => "Jan"
  | 2 => "Feb"
  | 3 => "Mar"
  | 4 => "Apr"
  | 5 => "May"
  | 6 => "Jun"
  | 7 => "Jul"
  | 8 => "Aug"
  | 9 => "Sep"
  | 10 => "Oct"
  | 11 => "Nov"
  | _ => "Dec"

def daysBeforeYear (year : Nat) : Nat :=
  (year - 1) * 365 + (year - 1) / 4 - (year - 1) / 100 + (year - 1) / 400

/-- The lengths of the months before the given one, added up. -/
def daysBeforeMonth (year : Nat) : Nat → Nat
  | 0 => 0
  | 1 => 0
  | month + 2 => daysBeforeMonth year (month + 1) + monthLength year (month + 1)

namespace Date

def Valid (d : Date) : Prop :=
  1 ≤ d.year ∧ (1 ≤ d.month ∧ d.month ≤ 12) ∧ (1 ≤ d.day ∧ d.day ≤ monthLength d.year d.month)

instance (d : Date) : Decidable d.Valid := inferInstanceAs (Decidable (_ ∧ _ ∧ _))

def number (d : Date) : Nat :=
  daysBeforeYear d.year + daysBeforeMonth d.year d.month + d.day

def weekday (d : Date) : Weekday := Weekday.ofNumber d.number

def tomorrow (d : Date) : Date :=
  if d.day < monthLength d.year d.month then { d with day := d.day + 1 }
  else if d.month < 12 then ⟨d.year, d.month + 1, 1⟩
  else ⟨d.year + 1, 1, 1⟩

end Date

theorem daysBeforeMonth_succ (year : Nat) {month : Nat} (h : 1 ≤ month) :
    daysBeforeMonth year (month + 1) = daysBeforeMonth year month + monthLength year month := by
  obtain ⟨m, rfl⟩ : ∃ m, month = m + 1 := ⟨month - 1, by omega⟩
  rfl

theorem succ_div_eq (n k : Nat) :
    (n + 1) / k = n / k + if (n + 1) % k = 0 then 1 else 0 := by
  simp only [Nat.succ_div, Nat.dvd_iff_mod_eq_zero]

/-- The leap days before a year, counted in the number of days, grow by one with
every leap year. -/
theorem daysBeforeYear_step (y : Nat) :
    daysBeforeYear (y + 2) = daysBeforeYear (y + 1) + if IsLeap (y + 1) then 366 else 365 := by
  have hle : y / 100 ≤ y / 4 := by omega
  have h4 : (y + 1) % 100 = 0 → (y + 1) % 4 = 0 := by omega
  have h100 : (y + 1) % 400 = 0 → (y + 1) % 100 = 0 := by omega
  simp only [daysBeforeYear, IsLeap, Nat.add_sub_cancel, show y + 2 - 1 = y + 1 from rfl,
    succ_div_eq y 4, succ_div_eq y 100,
    succ_div_eq y 400]
  generalize y / 4 = a at hle ⊢
  generalize y / 100 = b at hle ⊢
  generalize y / 400 = c
  by_cases e4 : (y + 1) % 4 = 0 <;> by_cases e100 : (y + 1) % 100 = 0 <;>
    by_cases e400 : (y + 1) % 400 = 0 <;> simp_all <;> omega

/-- A year is as long as its months together. -/
theorem daysBeforeYear_succ {year : Nat} (h : 1 ≤ year) :
    daysBeforeYear (year + 1) = daysBeforeYear year + daysBeforeMonth year 12 +
      monthLength year 12 := by
  obtain ⟨y, rfl⟩ : ∃ y, year = y + 1 := ⟨year - 1, by omega⟩
  have hmonths : daysBeforeMonth (y + 1) 12 + monthLength (y + 1) 12 =
      if IsLeap (y + 1) then 366 else 365 := by
    by_cases hl : IsLeap (y + 1) <;> simp [daysBeforeMonth, monthLength, hl]
  rw [Nat.add_assoc (daysBeforeYear (y + 1)), hmonths]
  exact daysBeforeYear_step y

theorem number_tomorrow {d : Date} (h : d.Valid) : d.tomorrow.number = d.number + 1 := by
  obtain ⟨year, month, day⟩ := d
  obtain ⟨hyear, ⟨hmonth, hlast⟩, _, hday⟩ := h
  simp only at hyear hmonth hlast hday
  unfold Date.tomorrow Date.number
  by_cases hd : day < monthLength year month
  · simp only [hd, if_true]
    omega
  by_cases hm : month < 12
  · simp only [hd, hm, if_false, if_true, daysBeforeMonth_succ year hmonth]
    omega
  · obtain rfl : month = 12 := by omega
    have hfirst : daysBeforeMonth (year + 1) 1 = 0 := rfl
    simp only [hd, hm, if_false, daysBeforeYear_succ hyear, hfirst]
    omega

/-- Weekdays follow one another across the ends of months and years. -/
theorem weekday_tomorrow {d : Date} (h : d.Valid) : d.tomorrow.weekday = d.weekday.next := by
  rw [Date.weekday, number_tomorrow h, Weekday.ofNumber_succ, Date.weekday]

end Calendar
end TreeShell
