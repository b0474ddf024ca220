import Mathlib.Data.Nat.Notation
import Mathlib.Logic.Function.Iterate

/-!
The civil calendar, day after day: the Julian one up to 4 October 1582 and the Gregorian one
from 15 October 1582 on, which is the day after.

`date n` is the date of the `n`-th day after 1 January of the year 1. Later days have later
dates, which is proved of one day and the next; `date_yearStart` finds a year without counting
the days before it.
-/
namespace Gregorian

structure Date where
  year : ℕ
  month : ℕ
  day : ℕ
  deriving DecidableEq

/-- Centuries were leap years before the reform. -/
def isLeapYear (year : ℕ) : Bool :=
  if year ≤ 1582 then year % 4 == 0
  else year % 4 == 0 && (year % 100 != 0 || year % 400 == 0)

def monthLength (year : ℕ) : ℕ → ℕ
  | 2 => if isLeapYear year then 29 else 28
  | 4 | 6 | 9 | 11 => 30
  | _ => 31

def Date.next (date : Date) : Date :=
  if date = ⟨1582, 10, 4⟩ then ⟨1582, 10, 15⟩
  else if date.day < monthLength date.year date.month then { date with day := date.day + 1 }
  else if date.month < 12 then ⟨date.year, date.month + 1, 1⟩
  else ⟨date.year + 1, 1, 1⟩

def date : ℕ → Date
  | 0 => ⟨1, 1, 1⟩
  | n + 1 => (date n).next

/-! ## Dates that exist -/

structure Date.Exists (date : Date) : Prop where
  year : 1 ≤ date.year
  month : 1 ≤ date.month ∧ date.month ≤ 12
  day : 1 ≤ date.day ∧ date.day ≤ monthLength date.year date.month

theorem monthLength_pos (year month : ℕ) : 1 ≤ monthLength year month := by
  unfold monthLength
  repeat' split
  all_goals omega

theorem monthLength_le (year month : ℕ) : monthLength year month ≤ 31 := by
  unfold monthLength
  repeat' split
  all_goals omega

theorem exists_next {date : Date} (valid : date.Exists) : date.next.Exists := by
  obtain ⟨year, month, day⟩ := valid
  unfold Date.next
  split
  · exact ⟨by decide, by decide, by decide⟩
  · split
    · exact ⟨year, month, by simp only; omega⟩
    · split
      · exact ⟨year, by simp only; omega, Nat.le_refl _, monthLength_pos _ _⟩
      · exact ⟨by simp only; omega, by simp only; omega, Nat.le_refl _, monthLength_pos _ _⟩

theorem exists_date (n : ℕ) : (date n).Exists := by
  induction n with
  | zero => exact ⟨by decide, by decide, by decide⟩
  | succ n ih => exact exists_next ih

/-! ## The order of the days -/

/-- The date comes first by year, then by month, then by day. -/
def Date.Before (first second : Date) : Prop :=
  first.year < second.year ∨ (first.year = second.year ∧
    (first.month < second.month ∨ (first.month = second.month ∧ first.day < second.day)))

theorem Date.Before.trans {first second third : Date} (earlier : first.Before second)
    (later : second.Before third) : first.Before third := by
  unfold Before at *
  omega

theorem before_next (date : Date) : date.Before date.next := by
  unfold Date.next
  split
  · rename_i reform
    rw [reform]
    exact .inr ⟨rfl, .inr ⟨rfl, by decide⟩⟩
  · split
    · exact .inr ⟨rfl, .inr ⟨rfl, Nat.lt_succ_self _⟩⟩
    · split
      · exact .inr ⟨rfl, .inl (Nat.lt_succ_self _)⟩
      · exact .inl (Nat.lt_succ_self _)

/-- Later days have later dates. -/
theorem date_before {m n : ℕ} (less : m < n) : (date m).Before (date n) := by
  induction n with
  | zero => omega
  | succ n ih =>
    have last : (date n).Before (date (n + 1)) := before_next (date n)
    by_cases same : m = n
    · rw [same]
      exact last
    · exact (ih (by omega)).trans last

theorem date_injective : Function.Injective date := by
  intro m n same
  by_contra other
  rcases Nat.lt_or_gt_of_ne other with less | more
  · have before := date_before less
    rw [same] at before
    unfold Date.Before at before
    omega
  · have before := date_before more
    rw [same] at before
    unfold Date.Before at before
    omega

theorem year_le {m n : ℕ} (le : m ≤ n) : (date m).year ≤ (date n).year := by
  rcases Nat.lt_or_eq_of_le le with less | rfl
  · have before := date_before less
    unfold Date.Before at before
    omega
  · exact Nat.le_refl _

/-! ## The days of a year -/

def yearLength (year : ℕ) : ℕ :=
  if year = 1582 then 355 else if isLeapYear year then 366 else 365

/-- The days before a year. -/
def yearStart : ℕ → ℕ
  | 0 | 1 => 0
  | year + 2 => yearStart (year + 1) + yearLength (year + 1)

theorem date_add (n days : ℕ) : date (n + days) = Date.next^[days] (date n) := by
  induction days with
  | zero => rfl
  | succ days ih =>
    rw [Function.iterate_succ_apply', ← ih]
    rfl

variable {year month days : ℕ}

theorem iterate_days (ordinary : year ≠ 1582) (short : days < monthLength year month) :
    Date.next^[days] ⟨year, month, 1⟩ = ⟨year, month, days + 1⟩ := by
  induction days with
  | zero => rfl
  | succ days ih =>
    rw [Function.iterate_succ_apply', ih (by omega)]
    simp [Date.next, ordinary, short]

theorem iterate_month (ordinary : year ≠ 1582) :
    Date.next^[monthLength year month] ⟨year, month, 1⟩ =
      if month < 12 then ⟨year, month + 1, 1⟩ else ⟨year + 1, 1, 1⟩ := by
  obtain ⟨days, all⟩ : ∃ days, monthLength year month = days + 1 :=
    ⟨_, (Nat.succ_pred_eq_of_pos (monthLength_pos year month)).symm⟩
  rw [all, Function.iterate_succ_apply', iterate_days ordinary (by omega)]
  simp [Date.next, ordinary, all]

theorem iterate_year (year : ℕ) :
    Date.next^[yearLength year] ⟨year, 1, 1⟩ = ⟨year + 1, 1, 1⟩ := by
  by_cases reform : year = 1582
  · subst reform
    decide +kernel
  · have months : yearLength year = monthLength year 12 + (monthLength year 11 +
        (monthLength year 10 + (monthLength year 9 + (monthLength year 8 + (monthLength year 7 +
        (monthLength year 6 + (monthLength year 5 + (monthLength year 4 + (monthLength year 3 +
        (monthLength year 2 + monthLength year 1)))))))))) := by
      simp only [yearLength, monthLength, reform, if_false]
      split <;> rfl
    rw [months]
    simp [Function.iterate_add_apply, iterate_month reform]

/-- A year begins on the day after all the days before it. -/
theorem date_yearStart (begun : 1 ≤ year) : date (yearStart year) = ⟨year, 1, 1⟩ := by
  induction year using yearStart.induct with
  | case1 => omega
  | case2 => rfl
  | case3 year ih => rw [yearStart, date_add, ih (by omega), iterate_year]

/-- The day of an ordinary year, without counting the days before the year. -/
theorem date_of_year (begun : 1 ≤ year) (days : ℕ) :
    date (yearStart year + days) = Date.next^[days] ⟨year, 1, 1⟩ := by
  rw [date_add, date_yearStart begun]

end Gregorian
