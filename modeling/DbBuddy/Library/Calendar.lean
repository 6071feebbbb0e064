import Mathlib.Algebra.Group.Nat.Defs
import Mathlib.Data.List.Basic
import Mathlib.Tactic.Common

/-!
# Moments and the text they are given in

The days of the Gregorian calendar are counted from the first one of year one, and the
moments of all days in microseconds.  A moment before year ten thousand is known by its
text.
-/

namespace DbBuddy.Library

/-! ## Dates -/

structure Date where
  year : ℕ
  month : ℕ
  day : ℕ
  deriving DecidableEq, Repr

/-- `_is_leap` -/
def isLeap (year : ℕ) : Bool :=
  decide (year % 4 = 0 ∧ (year % 100 ≠ 0 ∨ year % 400 = 0))

/-- `_days_before_year` -/
def daysBeforeYear (year : ℕ) : ℕ :=
  (year - 1) * 365 + (year - 1) / 4 - (year - 1) / 100 + (year - 1) / 400

def daysInMonth (leap : Bool) (month : ℕ) : ℕ :=
  [0, 31, 28, 31, 30, 31, 30, 31, 31, 30, 31, 30, 31].getD month 0 +
    if month = 2 ∧ leap = true then 1 else 0

def daysBeforeMonth (leap : Bool) (month : ℕ) : ℕ :=
  [0, 0, 31, 59, 90, 120, 151, 181, 212, 243, 273, 304, 334].getD month 0 +
    if 2 < month ∧ leap = true then 1 else 0

/-- The month and the day of a day of the year; the first guess of the month is one too
late at most. -/
def monthAndDay (leap : Bool) (day : ℕ) : ℕ × ℕ :=
  let month := (day + 50) / 32
  let preceding := daysBeforeMonth leap month
  if day < preceding then
    (month - 1, day - (preceding - daysInMonth leap (month - 1)) + 1)
  else (month, day - preceding + 1)

/-- `_ord2ymd`, of the days that have gone by. -/
def dateOf (days : ℕ) : Date :=
  let n400 := days / 146097
  let n100 := days % 146097 / 36524
  let n4 := days % 146097 % 36524 / 1461
  let n1 := days % 146097 % 36524 % 1461 / 365
  let rest := days % 146097 % 36524 % 1461 % 365
  let year := n400 * 400 + 1 + n100 * 100 + n4 * 4 + n1
  -- the last day of a leap year
  if n1 = 4 ∨ n100 = 4 then ⟨year - 1, 12, 31⟩
  else
    let monthDay := monthAndDay (decide (n1 = 3 ∧ (n4 ≠ 24 ∨ n100 = 3))) rest
    ⟨year, monthDay.1, monthDay.2⟩

/-- `_ymd2ord`, as the days that have gone by. -/
def Date.days (date : Date) : ℕ :=
  daysBeforeYear date.year + daysBeforeMonth (isLeap date.year) date.month + date.day - 1

theorem days_monthAndDay : ∀ leap : Bool, ∀ day < 365,
    daysBeforeMonth leap (monthAndDay leap day).1 + (monthAndDay leap day).2 = day + 1 ∧
      (monthAndDay leap day).1 ≤ 12 ∧ (monthAndDay leap day).2 ≤ 31 := by
  decide +kernel

/-- The days before a year, by the cycles of 400, 100 and 4 years that went by. -/
theorem daysBeforeYear_cycles (n400 : ℕ) {n100 n4 n1 : ℕ} (isCentury : n100 ≤ 3)
    (isCycle : n4 ≤ 24) (isYear : n1 ≤ 3) :
    daysBeforeYear (n400 * 400 + 1 + n100 * 100 + n4 * 4 + n1) =
      n400 * 146097 + n100 * 36524 + n4 * 1461 + n1 * 365 := by
  have before : n400 * 400 + 1 + n100 * 100 + n4 * 4 + n1 - 1 =
      n400 * 400 + n100 * 100 + n4 * 4 + n1 := by
    omega
  have fours : (n400 * 400 + n100 * 100 + n4 * 4 + n1) / 4 = n400 * 100 + n100 * 25 + n4 := by
    omega
  have hundreds : (n400 * 400 + n100 * 100 + n4 * 4 + n1) / 100 = n400 * 4 + n100 := by
    omega
  have all : (n400 * 400 + n100 * 100 + n4 * 4 + n1) / 400 = n400 := by
    omega
  rw [daysBeforeYear, before, fours, hundreds, all]
  omega

theorem isLeap_cycles (n400 : ℕ) {n100 n4 n1 : ℕ} (isCentury : n100 ≤ 3)
    (isCycle : n4 ≤ 24) (isYear : n1 ≤ 3) :
    isLeap (n400 * 400 + 1 + n100 * 100 + n4 * 4 + n1) =
      decide (n1 = 3 ∧ (n4 ≠ 24 ∨ n100 = 3)) := by
  rw [isLeap, decide_eq_decide]
  omega

/-- The last day of a leap year. -/
theorem days_december (n400 : ℕ) {n100 n4 : ℕ} (isCentury : n100 ≤ 3) (isCycle : n4 ≤ 24)
    (leap : n4 ≠ 24 ∨ n100 = 3) :
    (⟨n400 * 400 + 1 + n100 * 100 + n4 * 4 + 3, 12, 31⟩ : Date).days =
      n400 * 146097 + n100 * 36524 + n4 * 1461 + 1460 := by
  have december : daysBeforeMonth true 12 = 335 := rfl
  unfold Date.days
  dsimp only
  rw [isLeap_cycles n400 isCentury isCycle (Nat.le_refl 3),
    daysBeforeYear_cycles n400 isCentury isCycle (Nat.le_refl 3),
    decide_eq_true ⟨rfl, leap⟩, december]
  omega

/-- The centuries, cycles of four years, years and days that are left; the last day of 400
years counts as a fifth century. -/
theorem cycles_bounds (days : ℕ) : days % 146097 / 36524 ≤ 4 ∧
    days % 146097 % 36524 / 1461 ≤ 24 ∧ days % 146097 % 36524 % 1461 / 365 ≤ 4 ∧
      days % 146097 % 36524 % 1461 % 365 < 365 ∧
        (days % 146097 / 36524 = 4 → days % 146097 % 36524 / 1461 = 0 ∧
          days % 146097 % 36524 % 1461 / 365 = 0 ∧
            days % 146097 % 36524 % 1461 % 365 = 0) := by
  omega

/-- The days are those that the date counts. -/
theorem days_dateOf (days : ℕ) : (dateOf days).days = days := by
  have whole : days = days / 146097 * 146097 + days % 146097 / 36524 * 36524 +
      days % 146097 % 36524 / 1461 * 1461 + days % 146097 % 36524 % 1461 / 365 * 365 +
      days % 146097 % 36524 % 1461 % 365 := by
    omega
  obtain ⟨isCentury, isCycle, isYear, isDay, lastOfAll⟩ := cycles_bounds days
  have lastOfCycle : days % 146097 % 36524 % 1461 / 365 = 4 →
      days % 146097 % 36524 % 1461 % 365 = 0 ∧ days % 146097 / 36524 ≠ 4 ∧
        (days % 146097 % 36524 / 1461 ≠ 24 ∨ days % 146097 / 36524 = 3) := by
    omega
  unfold dateOf
  dsimp only
  generalize days / 146097 = n400, days % 146097 / 36524 = n100,
    days % 146097 % 36524 / 1461 = n4, days % 146097 % 36524 % 1461 / 365 = n1,
    days % 146097 % 36524 % 1461 % 365 = rest at *
  split
  · next isLast =>
      rcases isLast with isFour | isFour
      · obtain ⟨noRest, notAll, leap⟩ := lastOfCycle isFour
        have sameYear : n400 * 400 + 1 + n100 * 100 + n4 * 4 + n1 - 1 =
            n400 * 400 + 1 + n100 * 100 + n4 * 4 + 3 := by
          omega
        rw [sameYear, days_december n400 (by omega) isCycle leap]
        omega
      · obtain ⟨noCycle, noYear, noRest⟩ := lastOfAll isFour
        have sameYear : n400 * 400 + 1 + n100 * 100 + n4 * 4 + n1 - 1 =
            n400 * 400 + 1 + 3 * 100 + 24 * 4 + 3 := by
          omega
        rw [sameYear, days_december n400 (Nat.le_refl 3) (Nat.le_refl 24) (Or.inr rfl)]
        omega
  · next notLast =>
      have counted := (days_monthAndDay (decide (n1 = 3 ∧ (n4 ≠ 24 ∨ n100 = 3)))
        rest isDay).1
      unfold Date.days
      dsimp only
      rw [isLeap_cycles n400 (by omega) isCycle (by omega),
        daysBeforeYear_cycles n400 (by omega) isCycle (by omega)]
      omega

/-- The calendar ends with year 9999. -/
theorem dateOf_bounds {days : ℕ} (inRange : days < 3652059) :
    (dateOf days).year < 10000 ∧ (dateOf days).month < 100 ∧ (dateOf days).day < 100 := by
  unfold dateOf
  dsimp only
  split
  · next isLast =>
      refine ⟨?_, (by decide : 12 < 100), (by decide : 31 < 100)⟩
      dsimp only
      omega
  · next notLast =>
      have bounded := (days_monthAndDay
        (decide (days % 146097 % 36524 % 1461 / 365 = 3 ∧
          (days % 146097 % 36524 / 1461 ≠ 24 ∨ days % 146097 / 36524 = 3)))
        (days % 146097 % 36524 % 1461 % 365) (Nat.mod_lt _ (by decide))).2
      refine ⟨?_, ?_, ?_⟩
      · dsimp only
        omega
      · exact Nat.lt_of_le_of_lt bounded.1 (by decide)
      · exact Nat.lt_of_le_of_lt bounded.2 (by decide)

/-! ## Texts -/

/-- The last digits of a number, as many as the width says. -/
def padded : ℕ → ℕ → List Char
  | 0, _ => []
  | width + 1, number => padded width (number / 10) ++ [Nat.digitChar (number % 10)]

@[simp] theorem length_padded (width number : ℕ) : (padded width number).length = width := by
  induction width generalizing number with
  | zero => rfl
  | succ width induction => rw [padded, List.length_append, induction, List.length_singleton]

theorem digitChar_injective : ∀ digit < 10, ∀ other < 10,
    Nat.digitChar digit = Nat.digitChar other → digit = other := by
  decide

theorem padded_injective {width number other : ℕ} (small : number < 10 ^ width)
    (otherSmall : other < 10 ^ width) (same : padded width number = padded width other) :
    number = other := by
  induction width generalizing number other with
  | zero =>
      rw [Nat.pow_zero] at small otherSmall
      omega
  | succ width induction =>
      rw [Nat.pow_succ] at small otherSmall
      obtain ⟨front, last⟩ := List.append_inj same (by simp)
      have sameDigit := digitChar_injective (number % 10) (Nat.mod_lt _ (by decide))
        (other % 10) (Nat.mod_lt _ (by decide)) (List.singleton_inj.mp last)
      have sameFront : number / 10 = other / 10 := by
        apply induction _ _ front
        · omega
        · omega
      omega

/-- The microseconds of the calendar. -/
def calendarEnd : ℕ :=
  3652059 * 86400000000

/-- `strftime("%Y-%m-%dT%H:%M:%S.%f")` -/
def strftime (moment : ℕ) : List Char :=
  let date := dateOf (moment / 86400000000)
  let time := moment % 86400000000
  padded 4 date.year ++ ('-' :: (padded 2 date.month ++ ('-' :: (padded 2 date.day ++
    ('T' :: (padded 2 (time / 3600000000) ++ (':' :: (padded 2 (time / 60000000 % 60) ++
      (':' :: (padded 2 (time / 1000000 % 60) ++
        ('.' :: padded 6 (time % 1000000))))))))))))

/-- Two parts of one width in front of one separator. -/
theorem padded_cons_injective {width number other : ℕ} {sep : Char} {text rest : List Char}
    (small : number < 10 ^ width) (otherSmall : other < 10 ^ width)
    (same : padded width number ++ (sep :: text) = padded width other ++ (sep :: rest)) :
    number = other ∧ text = rest := by
  obtain ⟨front, behind⟩ := List.append_inj same (by simp)
  exact ⟨padded_injective small otherSmall front, (List.cons.inj behind).2⟩

theorem strftime_injective {moment other : ℕ} (inRange : moment < calendarEnd)
    (otherInRange : other < calendarEnd) (same : strftime moment = strftime other) :
    moment = other := by
  unfold calendarEnd at inRange otherInRange
  have isDay : moment / 86400000000 < 3652059 := by
    omega
  have otherIsDay : other / 86400000000 < 3652059 := by
    omega
  obtain ⟨yearSmall, monthSmall, daySmall⟩ := dateOf_bounds isDay
  obtain ⟨otherYear, otherMonth, otherDay⟩ := dateOf_bounds otherIsDay
  unfold strftime at same
  dsimp only at same
  obtain ⟨sameYear, same⟩ := padded_cons_injective yearSmall otherYear same
  obtain ⟨sameMonth, same⟩ := padded_cons_injective monthSmall otherMonth same
  obtain ⟨sameDay, same⟩ := padded_cons_injective daySmall otherDay same
  obtain ⟨sameHour, same⟩ := padded_cons_injective (by omega) (by omega) same
  obtain ⟨sameMinute, same⟩ := padded_cons_injective (by omega) (by omega) same
  obtain ⟨sameSecond, same⟩ := padded_cons_injective (by omega) (by omega) same
  have sameFraction := padded_injective (by omega) (by omega) same
  have sameDate : dateOf (moment / 86400000000) = dateOf (other / 86400000000) := by
    cases isDate : dateOf (moment / 86400000000)
    cases isOther : dateOf (other / 86400000000)
    rw [isDate, isOther] at sameYear sameMonth sameDay
    dsimp only at sameYear sameMonth sameDay
    rw [sameYear, sameMonth, sameDay]
  have sameDays : moment / 86400000000 = other / 86400000000 := by
    rw [← days_dateOf (moment / 86400000000), sameDate, days_dateOf]
  omega

end DbBuddy.Library
