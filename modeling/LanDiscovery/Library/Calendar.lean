import Mathlib.Order.Monotone.Basic
import Mathlib.Tactic.Common
import Mathlib.Tactic.IntervalCases

/-!
# The Gregorian calendar

The date of a day that is counted from 1970-01-01, as `gmtime` has it.  Years are taken to
begin in March, so that the leap day is the last one: a day is a number of whole cycles of
400, 100, 4 years and one year, and a day of that year.  Dates compare as the days do
(`ofDays_le_iff`), and the date of the next day is the day after (`ofDays_succ`).
-/

namespace LanDiscovery
namespace Library
namespace Calendar

/-- A year that begins in March, and a day of it from zero. -/
structure YearDay where
  year : Nat
  day : Nat
  deriving DecidableEq

/-- A month from one, and a day from one. -/
structure Date where
  year : Nat
  month : Nat
  day : Nat
  deriving DecidableEq

/-- The days from the first of March of year zero to 1970-01-01. -/
def epochDay : Nat := 719468

/-- The year of a day, by cycles of 400, 100 and 4 years. -/
def YearDay.ofDay (day : Nat) : YearDay :=
  let inEra := day % 146097
  let century := min (inEra / 36524) 3
  let inCentury := inEra - 36524 * century
  let leapCycle := inCentury / 1461
  let inCycle := inCentury - 1461 * leapCycle
  let year := min (inCycle / 365) 3
  { year := 400 * (day / 146097) + 100 * century + 4 * leapCycle + year
    day := inCycle - 365 * year }

/-- The days before a year. -/
def yearStart (year : Nat) : Nat :=
  365 * year + year / 4 - year / 100 + year / 400

/-- The month of a day of a year that begins in March, from zero. -/
def monthOf (day : Nat) : Nat := (5 * day + 2) / 153

/-- The days before such a month. -/
def monthStart (month : Nat) : Nat := (153 * month + 2) / 5

/-- January and February belong to the next year. -/
def YearDay.date (d : YearDay) : Date :=
  let month := monthOf d.day
  { year := if month < 10 then d.year else d.year + 1
    month := if month < 10 then month + 3 else month - 9
    day := d.day - monthStart month + 1 }

/-- The date of a day since 1970-01-01. -/
def ofDays (days : Nat) : Date :=
  (YearDay.ofDay (days + epochDay)).date

/-- A leap year. -/
def isLeap (year : Nat) : Bool :=
  year % 4 = 0 && (year % 100 ≠ 0 || year % 400 = 0)

/-- The days of a month. -/
def monthLength (year month : Nat) : Nat :=
  if month = 2 then
    if isLeap year then 29 else 28
  else if month = 4 ∨ month = 6 ∨ month = 9 ∨ month = 11 then 30 else 31

/-- The day after. -/
def Date.next (d : Date) : Date :=
  if d.day < monthLength d.year d.month then { d with day := d.day + 1 }
  else if d.month < 12 then { d with month := d.month + 1, day := 1 }
  else { year := d.year + 1, month := 1, day := 1 }

/-! ## Years -/

/-- The days before a year, by cycles. -/
theorem yearStart_eq {era century cycle year number : Nat}
    (hnumber : number = 400 * era + 100 * century + 4 * cycle + year) (hcentury : century ≤ 3)
    (hcycle : cycle ≤ 24) (hyear : year ≤ 3) :
    yearStart number = 146097 * era + 36524 * century + 1461 * cycle + 365 * year := by
  have hquarter : number / 4 = 100 * era + 25 * century + cycle := by omega
  have hhundredth : number / 100 = 4 * era + century := by omega
  have hera : number / 400 = era := by omega
  rw [yearStart, hquarter, hhundredth, hera]
  omega

/-- The next year begins after 365 days, or 366 if the year ends a cycle of four years that
does not end a century, or ends an era. -/
theorem yearStart_succ {era century cycle year number : Nat}
    (hnumber : number = 400 * era + 100 * century + 4 * cycle + year) (hcentury : century ≤ 3)
    (hcycle : cycle ≤ 24) (hyear : year ≤ 3) :
    yearStart (number + 1) = yearStart number + 365 +
      (if year = 3 ∧ (cycle = 24 → century = 3) then 1 else 0) := by
  rw [yearStart_eq hnumber hcentury hcycle hyear]
  by_cases hlast : year = 3
  · by_cases hlastCycle : cycle = 24
    · by_cases hlastCentury : century = 3
      · have hnext : yearStart (number + 1) =
            146097 * (era + 1) + 36524 * 0 + 1461 * 0 + 365 * 0 :=
          yearStart_eq (by omega) (by omega) (by omega) (by omega)
        rw [hnext, if_pos ⟨hlast, fun _ => hlastCentury⟩]
        omega
      · have hnext : yearStart (number + 1) =
            146097 * era + 36524 * (century + 1) + 1461 * 0 + 365 * 0 :=
          yearStart_eq (by omega) (by omega) (by omega) (by omega)
        rw [hnext, if_neg (by simp [hlast, hlastCycle, hlastCentury])]
        omega
    · have hnext : yearStart (number + 1) =
          146097 * era + 36524 * century + 1461 * (cycle + 1) + 365 * 0 :=
        yearStart_eq (by omega) (by omega) (by omega) (by omega)
      rw [hnext, if_pos ⟨hlast, fun heq => absurd heq hlastCycle⟩]
      omega
  · have hnext : yearStart (number + 1) =
        146097 * era + 36524 * century + 1461 * cycle + 365 * (year + 1) :=
      yearStart_eq (by omega) (by omega) (by omega) (by omega)
    rw [hnext, if_neg (fun h => hlast h.1)]
    omega

/-- **A day is a day of its year**, and no year has more than 366 days. -/
theorem yearDay_spec (n : Nat) :
    yearStart (YearDay.ofDay n).year + (YearDay.ofDay n).day = n ∧
      n < yearStart ((YearDay.ofDay n).year + 1) ∧ (YearDay.ofDay n).day ≤ 365 := by
  have hera : n % 146097 < 146097 := Nat.mod_lt n (by omega)
  have hn : 146097 * (n / 146097) + n % 146097 = n := Nat.div_add_mod n 146097
  generalize hdoe : n % 146097 = doe at hera hn
  generalize hcentury : min (doe / 36524) 3 = century
  have hc : 36524 * century ≤ doe ∧ century ≤ 3 ∧ doe - 36524 * century ≤ 36524 ∧
      (century < 3 → doe - 36524 * century < 36524) := by omega
  generalize hdoc : doe - 36524 * century = doc at hc
  generalize hcycle : doc / 1461 = cycle
  have hq : 1461 * cycle ≤ doc ∧ cycle ≤ 24 ∧ doc - 1461 * cycle ≤ 1460 ∧
      (cycle = 24 → century < 3 → doc - 1461 * cycle ≤ 1459) := by omega
  generalize hdoq : doc - 1461 * cycle = doq at hq
  generalize hyear : min (doq / 365) 3 = year
  have hy : 365 * year ≤ doq ∧ year ≤ 3 ∧ doq - 365 * year ≤ 365 ∧
      (year < 3 → doq - 365 * year < 365) := by omega
  have hof : YearDay.ofDay n =
      ⟨400 * (n / 146097) + 100 * century + 4 * cycle + year, doq - 365 * year⟩ := by
    simp only [YearDay.ofDay, hdoe, hcentury, hdoc, hcycle, hdoq, hyear]
  rw [hof]
  have hstart := yearStart_eq (Eq.refl (400 * (n / 146097) + 100 * century + 4 * cycle + year))
    hc.2.1 hq.2.1 hy.2.1
  have hsucc := yearStart_succ (Eq.refl (400 * (n / 146097) + 100 * century + 4 * cycle + year))
    hc.2.1 hq.2.1 hy.2.1
  generalize 400 * (n / 146097) + 100 * century + 4 * cycle + year = number at hstart hsucc
  refine ⟨?_, ?_, hy.2.2.1⟩
  · show yearStart number + (doq - 365 * year) = n
    omega
  · show n < yearStart (number + 1)
    rw [hsucc]
    split_ifs <;> omega

theorem yearStart_mono : Monotone yearStart := by
  apply monotone_nat_of_le_succ
  intro year
  unfold yearStart
  omega

/-- Days compare by their years first. -/
theorem yearDay_le_iff (n m : Nat) :
    n ≤ m ↔ (YearDay.ofDay n).year < (YearDay.ofDay m).year ∨
      (YearDay.ofDay n).year = (YearDay.ofDay m).year ∧
        (YearDay.ofDay n).day ≤ (YearDay.ofDay m).day := by
  obtain ⟨hn, hnNext, -⟩ := yearDay_spec n
  obtain ⟨hm, hmNext, -⟩ := yearDay_spec m
  constructor
  · intro hle
    rcases Nat.lt_trichotomy (YearDay.ofDay n).year (YearDay.ofDay m).year with hlt | heq | hgt
    · exact .inl hlt
    · rw [heq] at hn
      exact .inr ⟨heq, by omega⟩
    · have hmono := yearStart_mono (show (YearDay.ofDay m).year + 1 ≤ _ from hgt)
      omega
  · intro h
    rcases h with hlt | ⟨heq, hday⟩
    · have hmono := yearStart_mono (show (YearDay.ofDay n).year + 1 ≤ _ from hlt)
      omega
    · rw [heq] at hn
      omega

/-! ## Months -/

/-- The fields of a date, in the order in which dates compare. -/
def Date.le (d d' : Date) : Prop :=
  d.year < d'.year ∨ d.year = d'.year ∧
    (d.month < d'.month ∨ d.month = d'.month ∧ d.day ≤ d'.day)

theorem month_bounds {day : Nat} (h : day ≤ 365) :
    monthOf day ≤ 11 ∧ monthStart (monthOf day) ≤ day ∧ day < monthStart (monthOf day) + 31 := by
  unfold monthStart monthOf
  omega

/-- Days of a year compare by their months first. -/
theorem monthDay_le_iff {day day' : Nat} :
    day ≤ day' ↔ monthOf day < monthOf day' ∨ monthOf day = monthOf day' ∧
      day - monthStart (monthOf day) ≤ day' - monthStart (monthOf day') := by
  unfold monthStart monthOf
  omega

/-- **Dates compare as the days do.** -/
theorem ofDays_le_iff (n m : Nat) : n ≤ m ↔ (ofDays n).le (ofDays m) := by
  have hshift : n ≤ m ↔ n + epochDay ≤ m + epochDay := by omega
  rw [hshift, yearDay_le_iff, monthDay_le_iff]
  obtain ⟨-, -, hn⟩ := yearDay_spec (n + epochDay)
  obtain ⟨-, -, hm⟩ := yearDay_spec (m + epochDay)
  have hnMonth := (month_bounds hn).1
  have hmMonth := (month_bounds hm).1
  unfold ofDays YearDay.date Date.le
  dsimp only
  generalize monthOf (YearDay.ofDay (n + epochDay)).day = k at hnMonth
  generalize monthOf (YearDay.ofDay (m + epochDay)).day = l at hmMonth
  split_ifs <;> omega

theorem ofDays_bounds (n : Nat) :
    1 ≤ (ofDays n).month ∧ (ofDays n).month ≤ 12 ∧ 1 ≤ (ofDays n).day ∧ (ofDays n).day ≤ 31 := by
  obtain ⟨-, -, hday⟩ := yearDay_spec (n + epochDay)
  obtain ⟨hmonth, hstart, hend⟩ := month_bounds hday
  unfold ofDays YearDay.date
  dsimp only
  generalize monthOf (YearDay.ofDay (n + epochDay)).day = k at hmonth hstart hend
  split_ifs <;> omega

/-! ## The day after -/

/-- A year that begins in March has the leap day of the next one. -/
theorem yearStart_next (year : Nat) :
    yearStart (year + 1) = yearStart year + 365 + if isLeap (year + 1) then 1 else 0 := by
  have hquotient : ∀ k, 0 < k →
      (year + 1) / k = year / k + if (year + 1) % k = 0 then 1 else 0 := by
    intro k hk
    rw [Nat.succ_div]
    simp only [Nat.dvd_iff_mod_eq_zero]
  have hle : year / 100 ≤ year / 4 := Nat.div_le_div_left (by omega) (by omega)
  have hcentury : (year + 1) % 100 = 0 → (year + 1) % 4 = 0 := by omega
  have hera : (year + 1) % 400 = 0 → (year + 1) % 100 = 0 := by omega
  have hleap : isLeap (year + 1) = true ↔
      (year + 1) % 4 = 0 ∧ ((year + 1) % 100 ≠ 0 ∨ (year + 1) % 400 = 0) := by
    simp [isLeap]
  unfold yearStart
  rw [hquotient 4 (by omega), hquotient 100 (by omega), hquotient 400 (by omega)]
  simp only [hleap]
  -- only the remainders matter from here on
  generalize year / 4 = quarter at hle ⊢
  generalize year / 100 = hundredth at hle ⊢
  generalize (year + 1) % 4 = r at hcentury ⊢
  generalize (year + 1) % 100 = r' at hcentury hera ⊢
  generalize (year + 1) % 400 = r'' at hera ⊢
  split_ifs <;> omega

/-- The day after a day is the next one of its year, or the first one of the next year. -/
theorem ofDay_succ (n : Nat) :
    YearDay.ofDay (n + 1) =
      if (YearDay.ofDay n).day + 1 < 365 + (if isLeap ((YearDay.ofDay n).year + 1) then 1 else 0)
      then ⟨(YearDay.ofDay n).year, (YearDay.ofDay n).day + 1⟩
      else ⟨(YearDay.ofDay n).year + 1, 0⟩ := by
  obtain ⟨hn, hnNext, -⟩ := yearDay_spec n
  obtain ⟨hm, hmNext, -⟩ := yearDay_spec (n + 1)
  have hlength := yearStart_next (YearDay.ofDay n).year
  have hfollowing := yearStart_next ((YearDay.ofDay n).year + 1)
  generalize YearDay.ofDay n = d at hn hnNext hlength hfollowing ⊢
  generalize YearDay.ofDay (n + 1) = e at hm hmNext ⊢
  have hyear : d.year ≤ e.year := by
    by_contra hlt
    have hmono := yearStart_mono (show e.year + 1 ≤ d.year by omega)
    omega
  have hyear' : e.year ≤ d.year + 1 := by
    by_contra hlt
    have hmono := yearStart_mono (show d.year + 1 + 1 ≤ e.year by omega)
    omega
  cases e with
  | mk year day =>
      dsimp only at *
      rcases Nat.lt_or_eq_of_le hyear with hlt | rfl
      · obtain rfl : year = d.year + 1 := by omega
        rw [if_neg (by omega), YearDay.mk.injEq]
        exact ⟨rfl, by omega⟩
      · rw [if_pos (by omega), YearDay.mk.injEq]
        exact ⟨rfl, by omega⟩

/-- A month ends where the next one starts; February ends with the year. -/
theorem monthLength_of_le {month : Nat} (h : month ≤ 10) (year : Nat) :
    monthLength year (if month < 10 then month + 3 else month - 9) =
      monthStart (month + 1) - monthStart month := by
  interval_cases month <;> simp [monthLength, monthStart]

theorem monthOf_succ (day : Nat) :
    day + 1 < monthStart (monthOf day + 1) ∧ monthOf (day + 1) = monthOf day ∨
      day + 1 = monthStart (monthOf day + 1) ∧ monthOf (day + 1) = monthOf day + 1 := by
  unfold monthStart monthOf
  omega

/-- From March to January the dates of a year that begins in March follow one another. -/
theorem date_succ_of_le {year day : Nat} (h : monthOf day ≤ 10) :
    (YearDay.mk year (day + 1)).date = (YearDay.mk year day).date.next := by
  have hstart : monthStart (monthOf day) ≤ day := by
    unfold monthStart monthOf
    omega
  unfold YearDay.date Date.next
  dsimp only
  rw [monthLength_of_le h]
  rcases monthOf_succ day with ⟨hlt, hmonth⟩ | ⟨heq, hmonth⟩
  · have hinside : day - monthStart (monthOf day) + 1 <
        monthStart (monthOf day + 1) - monthStart (monthOf day) := by omega
    rw [if_pos hinside, hmonth, Date.mk.injEq]
    exact ⟨rfl, rfl, by omega⟩
  · have hend : ¬ day - monthStart (monthOf day) + 1 <
        monthStart (monthOf day + 1) - monthStart (monthOf day) := by omega
    rw [if_neg hend, hmonth, ← heq]
    split_ifs <;> rw [Date.mk.injEq] <;> omega

/-- In February, too. -/
theorem date_succ_of_february {year day : Nat} (hmonth : monthOf day = 11)
    (h : day + 1 < 365 + (if isLeap (year + 1) then 1 else 0)) :
    (YearDay.mk year (day + 1)).date = (YearDay.mk year day).date.next := by
  have hmonth' : monthOf (day + 1) = 11 := by
    unfold monthOf at *
    split_ifs at h <;> omega
  have hstart : monthStart 11 = 337 := rfl
  have hday : 337 ≤ day := by
    unfold monthOf at hmonth
    omega
  have hlength : day - 337 + 1 < monthLength (year + 1) 2 := by
    unfold monthLength
    split_ifs at h ⊢ <;> omega
  unfold YearDay.date Date.next
  dsimp only
  simp only [hmonth, hmonth', hstart, Nat.reduceLT, reduceIte, Nat.reduceSub, hlength]
  rw [Date.mk.injEq]
  exact ⟨rfl, rfl, by omega⟩

/-- After February the next year begins. -/
theorem date_succ_last {year day : Nat}
    (h : day + 1 = 365 + (if isLeap (year + 1) then 1 else 0)) :
    (YearDay.mk (year + 1) 0).date = (YearDay.mk year day).date.next := by
  have hmonth : monthOf day = 11 := by
    unfold monthOf
    split_ifs at h <;> omega
  have hstart : monthStart 11 = 337 := rfl
  have hlength : ¬ day - 337 + 1 < monthLength (year + 1) 2 := by
    unfold monthLength
    split_ifs at h ⊢ <;> omega
  unfold YearDay.date Date.next
  dsimp only
  simp only [hmonth, hstart, Nat.reduceLT, reduceIte, Nat.reduceSub, hlength]
  rfl

/-- **The date of the next day is the day after.** -/
theorem ofDays_succ (n : Nat) : ofDays (n + 1) = (ofDays n).next := by
  obtain ⟨hspec, hnext, -⟩ := yearDay_spec (n + epochDay)
  have hlength := yearStart_next (YearDay.ofDay (n + epochDay)).year
  unfold ofDays
  rw [Nat.add_right_comm, ofDay_succ]
  generalize YearDay.ofDay (n + epochDay) = d at hspec hnext hlength ⊢
  obtain ⟨year, day⟩ := d
  dsimp only at *
  by_cases hlast : day + 1 < 365 + (if isLeap (year + 1) then 1 else 0)
  · rw [if_pos hlast]
    rcases Nat.lt_or_ge (monthOf day) 11 with hmonth | hmonth
    · exact date_succ_of_le (by omega)
    · have hbound : day ≤ 365 := by
        split_ifs at hlast <;> omega
      exact date_succ_of_february (by have := (month_bounds hbound).1; omega) hlast
  · rw [if_neg hlast]
    exact date_succ_last (by omega)

theorem ofDays_zero : ofDays 0 = ⟨1970, 1, 1⟩ := by
  decide

/-- The date of a day is as many days after 1970-01-01. -/
theorem ofDays_eq_iterate (n : Nat) : ofDays n = Date.next^[n] ⟨1970, 1, 1⟩ := by
  induction n with
  | zero => exact ofDays_zero
  | succ n ih => rw [ofDays_succ, ih, Function.iterate_succ_apply']

end Calendar
end Library
end LanDiscovery
