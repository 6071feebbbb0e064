import DbBuddy.Library.Calendar

/-!
# The dates of the calendar and its periods

A date is valid in the years from 1 to 9999.  Weeks begin on Mondays, and months, quarters
and years are runs of whole months.
-/

namespace DbBuddy.Library

/-! ## Valid dates -/

/-- The years of the calendar, and the months and days that they have. -/
structure Date.Valid (date : Date) : Prop where
  year_pos : 1 ≤ date.year
  year_le : date.year ≤ 9999
  month_pos : 1 ≤ date.month
  month_le : date.month ≤ 12
  day_pos : 1 ≤ date.day
  day_le : date.day ≤ daysInMonth (isLeap date.year) date.month

theorem Date.valid_iff (date : Date) : date.Valid ↔
    (1 ≤ date.year ∧ date.year ≤ 9999) ∧ (1 ≤ date.month ∧ date.month ≤ 12) ∧
      (1 ≤ date.day ∧ date.day ≤ daysInMonth (isLeap date.year) date.month) :=
  ⟨fun valid => ⟨⟨valid.year_pos, valid.year_le⟩, ⟨valid.month_pos, valid.month_le⟩,
      ⟨valid.day_pos, valid.day_le⟩⟩,
    fun ⟨⟨year_pos, year_le⟩, ⟨month_pos, month_le⟩, ⟨day_pos, day_le⟩⟩ =>
      ⟨year_pos, year_le, month_pos, month_le, day_pos, day_le⟩⟩

instance (date : Date) : Decidable date.Valid :=
  decidable_of_iff' _ date.valid_iff

/-- `date` -/
structure CalendarDate extends Date where
  valid : toDate.Valid

/-- The number of days that the calendar has. -/
def calendarDays : ℕ :=
  3652059

theorem isLeap_iff (year : ℕ) :
    isLeap year = true ↔ year % 4 = 0 ∧ (year % 100 ≠ 0 ∨ year % 400 = 0) :=
  decide_eq_true_iff

theorem daysBeforeYear_succ {year : ℕ} (isYear : 1 ≤ year) :
    daysBeforeYear (year + 1) = daysBeforeYear year + 365 +
      if isLeap year = true then 1 else 0 := by
  obtain ⟨before, rfl⟩ := Nat.exists_eq_add_of_le' isYear
  unfold daysBeforeYear
  rw [Nat.add_sub_cancel, Nat.add_sub_cancel]
  have fewer : before / 100 ≤ before / 4 := Nat.div_le_div_left (by decide) (by decide)
  split
  · next leap =>
      obtain ⟨isFourth, notHundredth | isFourHundredth⟩ := (isLeap_iff _).mp leap
      · have fours : (before + 1) / 4 = before / 4 + 1 := by
          omega
        have hundreds : (before + 1) / 100 = before / 100 := by
          omega
        have all : (before + 1) / 400 = before / 400 := by
          omega
        omega
      · have fours : (before + 1) / 4 = before / 4 + 1 := by
          omega
        have hundreds : (before + 1) / 100 = before / 100 + 1 := by
          omega
        have all : (before + 1) / 400 = before / 400 + 1 := by
          omega
        omega
  · next common =>
      rw [isLeap_iff, not_and_or, not_or, not_not] at common
      have all : (before + 1) / 400 = before / 400 := by
        omega
      rcases common with notFourth | ⟨isHundredth, _⟩
      · have fours : (before + 1) / 4 = before / 4 := by
          omega
        have hundreds : (before + 1) / 100 = before / 100 := by
          omega
        omega
      · have fours : (before + 1) / 4 = before / 4 + 1 := by
          omega
        have hundreds : (before + 1) / 100 = before / 100 + 1 := by
          omega
        omega

theorem daysBeforeMonth_succ : ∀ leap : Bool, ∀ month < 12, 1 ≤ month →
    daysBeforeMonth leap (month + 1) =
      daysBeforeMonth leap month + daysInMonth leap month := by
  decide

theorem daysBeforeMonth_december (leap : Bool) : daysBeforeMonth leap (11 + 1) +
    daysInMonth leap (11 + 1) = 365 + if leap = true then 1 else 0 := by
  cases leap <;> rfl

theorem monthAndDay_valid : ∀ leap : Bool, ∀ day < 365,
    1 ≤ (monthAndDay leap day).1 ∧ 1 ≤ (monthAndDay leap day).2 ∧
      (monthAndDay leap day).2 ≤ daysInMonth leap (monthAndDay leap day).1 := by
  decide +kernel

/-- The days of the calendar have dates. -/
theorem valid_dateOf {days : ℕ} (inRange : days < calendarDays) : (dateOf days).Valid := by
  have bounded := (dateOf_bounds inRange).1
  obtain ⟨isCentury, isCycle, isYear, isDay, lastOfAll⟩ := cycles_bounds days
  unfold dateOf at bounded ⊢
  dsimp only at bounded ⊢
  generalize days / 146097 = n400, days % 146097 / 36524 = n100,
    days % 146097 % 36524 / 1461 = n4, days % 146097 % 36524 % 1461 / 365 = n1,
    days % 146097 % 36524 % 1461 % 365 = rest at *
  split at bounded
  · next isLast =>
      rw [if_pos isLast]
      dsimp only at bounded
      refine ⟨?_, Nat.le_of_lt_succ bounded, Nat.le_of_ble_eq_true rfl,
        Nat.le_of_ble_eq_true rfl, Nat.le_of_ble_eq_true rfl, Nat.le_of_ble_eq_true rfl⟩
      dsimp only
      omega
  · next notLast =>
      rw [if_neg notLast]
      dsimp only at bounded
      have isMonth := monthAndDay_valid (decide (n1 = 3 ∧ (n4 ≠ 24 ∨ n100 = 3))) rest isDay
      have inYear := (days_monthAndDay (decide (n1 = 3 ∧ (n4 ≠ 24 ∨ n100 = 3)))
        rest isDay).2.1
      refine ⟨by dsimp only; omega, Nat.le_of_lt_succ bounded, isMonth.1, inYear, isMonth.2.1,
        ?_⟩
      dsimp only
      rw [isLeap_cycles n400 (by omega) isCycle (by omega)]
      exact isMonth.2.2

/-! ## Months -/

/-- The number of the month of a date, counted from the year before the first. -/
def Date.monthIndex (date : Date) : ℕ :=
  date.year * 12 + (date.month - 1)

/-- The days before a month. -/
def firstDay (month : ℕ) : ℕ :=
  (⟨month / 12, month % 12 + 1, 1⟩ : Date).days

theorem firstDay_eq (month : ℕ) : firstDay month =
    daysBeforeYear (month / 12) + daysBeforeMonth (isLeap (month / 12)) (month % 12 + 1) :=
  rfl

/-- A month ends where the next one begins, also at the end of a year. -/
theorem firstDay_succ {month : ℕ} (isMonth : 12 ≤ month) : firstDay (month + 1) =
    firstDay month + daysInMonth (isLeap (month / 12)) (month % 12 + 1) := by
  rw [firstDay_eq, firstDay_eq]
  have small : month % 12 < 12 := Nat.mod_lt _ (by decide)
  by_cases isDecember : month % 12 = 11
  · have nextYear : (month + 1) / 12 = month / 12 + 1 := by
      omega
    have january : (month + 1) % 12 = 0 := by
      omega
    have isYear : 1 ≤ month / 12 := by
      omega
    have december := daysBeforeMonth_december (isLeap (month / 12))
    have noDays : daysBeforeMonth (isLeap (month / 12 + 1)) (0 + 1) = 0 := by
      cases isLeap (month / 12 + 1) <;> rfl
    rw [nextYear, january, isDecember, daysBeforeYear_succ isYear, noDays]
    omega
  · have sameYear : (month + 1) / 12 = month / 12 := by
      omega
    have nextMonth : (month + 1) % 12 = month % 12 + 1 := by
      omega
    rw [sameYear, nextMonth, daysBeforeMonth_succ _ _ (by omega) (by omega), Nat.add_assoc]

theorem daysInMonth_pos : ∀ leap : Bool, ∀ month < 12, 0 < daysInMonth leap (month + 1) := by
  decide

theorem firstDay_lt_succ {month : ℕ} (isMonth : 12 ≤ month) :
    firstDay month < firstDay (month + 1) := by
  rw [firstDay_succ isMonth]
  exact Nat.lt_add_of_pos_right (daysInMonth_pos _ _ (Nat.mod_lt _ (by decide)))

theorem firstDay_mono {month later : ℕ} (isMonth : 12 ≤ month) (order : month ≤ later) :
    firstDay month ≤ firstDay later := by
  induction order with
  | refl => exact Nat.le_refl _
  | @step later order induction =>
      exact Nat.le_of_lt (Nat.lt_of_le_of_lt induction
        (firstDay_lt_succ (Nat.le_trans isMonth order)))

theorem firstDay_lt {month later : ℕ} (isMonth : 12 ≤ month) (order : month < later) :
    firstDay month < firstDay later :=
  Nat.lt_of_lt_of_le (firstDay_lt_succ isMonth) (firstDay_mono (by omega) order)

namespace Date.Valid

variable {date : Date}

theorem monthIndex_ge (valid : date.Valid) : 12 ≤ date.monthIndex := by
  have isYear := valid.year_pos
  unfold Date.monthIndex
  omega

theorem monthIndex_div (valid : date.Valid) : date.monthIndex / 12 = date.year := by
  have isMonth := valid.month_le
  have isMonth' := valid.month_pos
  unfold Date.monthIndex
  omega

theorem monthIndex_mod (valid : date.Valid) : date.monthIndex % 12 + 1 = date.month := by
  have isMonth := valid.month_le
  have isMonth' := valid.month_pos
  unfold Date.monthIndex
  omega

theorem days_eq (valid : date.Valid) :
    date.days + 1 = firstDay date.monthIndex + date.day := by
  have isDay := valid.day_pos
  rw [firstDay_eq, valid.monthIndex_div, valid.monthIndex_mod]
  unfold Date.days
  omega

/-- A date lies in its month. -/
theorem in_month (valid : date.Valid) : firstDay date.monthIndex ≤ date.days ∧
    date.days < firstDay (date.monthIndex + 1) := by
  have isDay := valid.days_eq
  have dayPos := valid.day_pos
  have dayLe := valid.day_le
  have isNext := firstDay_succ valid.monthIndex_ge
  rw [valid.monthIndex_div, valid.monthIndex_mod] at isNext
  constructor
  · omega
  · omega

theorem days_lt (valid : date.Valid) : date.days < calendarDays := by
  have inMonth := valid.in_month.2
  have isYear := valid.year_le
  have isMonth := valid.month_le
  have order : date.monthIndex + 1 ≤ 120000 := by
    unfold Date.monthIndex
    omega
  have later : 12 ≤ date.monthIndex + 1 := Nat.le_succ_of_le valid.monthIndex_ge
  have last := firstDay_mono later order
  have isEnd : firstDay 120000 = calendarDays := by
    rfl
  omega

end Date.Valid

/-! ## Periods -/

/-- The kinds of periods that a calendar has. -/
inductive PeriodKind where
  | week
  | months (width : ℕ)
  deriving DecidableEq, Repr

/-- From a Monday to the next, or over as many whole months as the period is wide. -/
def PeriodKind.IsPeriod : PeriodKind → ℕ → ℕ → Prop
  | .week, start, stop => start % 7 = 0 ∧ stop = start + 7
  | .months width, start, stop => ∃ index, 12 ≤ width * index ∧
      start = firstDay (width * index) ∧ stop = firstDay (width * (index + 1))

/-- The months of the period that a month lies in begin with this one. -/
theorem period_containing {width : ℕ} {index : ℕ} {date : Date} (valid : date.Valid)
    (isMonth : 12 ≤ width * index) (starts : firstDay (width * index) ≤ date.days)
    (stops : date.days < firstDay (width * (index + 1))) :
    date.monthIndex / width = index := by
  obtain ⟨first, last⟩ := valid.in_month
  apply Nat.div_eq_of_lt_le
  · by_contra later
    have order : firstDay (date.monthIndex + 1) ≤ firstDay (width * index) := by
      apply firstDay_mono (Nat.le_succ_of_le valid.monthIndex_ge)
      rw [Nat.mul_comm]
      omega
    omega
  · by_contra earlier
    have order : firstDay (width * (index + 1)) ≤ firstDay date.monthIndex := by
      apply firstDay_mono
      · rw [Nat.mul_add]
        omega
      · rw [Nat.mul_comm]
        omega
    omega

namespace PeriodKind

variable {kind : PeriodKind} {start stop start' stop' : ℕ} {date : Date}

theorem IsPeriod.lt (isPeriod : kind.IsPeriod start stop) : start < stop := by
  cases kind with
  | week =>
      obtain ⟨_, isNext⟩ := isPeriod
      omega
  | months width =>
      obtain ⟨index, isMonth, rfl, rfl⟩ := isPeriod
      apply firstDay_lt isMonth
      have wide : 0 < width := Nat.pos_of_ne_zero (by rintro rfl; omega)
      exact Nat.mul_lt_mul_of_pos_left (Nat.lt_succ_self index) wide

/-- One period of a kind at most contains a date. -/
theorem IsPeriod.unique (valid : date.Valid) (isPeriod : kind.IsPeriod start stop)
    (contains : start ≤ date.days ∧ date.days < stop) (isPeriod' : kind.IsPeriod start' stop')
    (contains' : start' ≤ date.days ∧ date.days < stop') : start = start' ∧ stop = stop' := by
  cases kind with
  | week =>
      obtain ⟨isMonday, isNext⟩ := isPeriod
      obtain ⟨isMonday', isNext'⟩ := isPeriod'
      omega
  | months width =>
      obtain ⟨index, isMonth, rfl, rfl⟩ := isPeriod
      obtain ⟨index', isMonth', rfl, rfl⟩ := isPeriod'
      have same := period_containing valid isMonth contains.1 contains.2
      rw [period_containing valid isMonth' contains'.1 contains'.2] at same
      rw [same]
      exact ⟨rfl, rfl⟩

/-- One period of a kind at most ends where another begins. -/
theorem IsPeriod.start_unique (isPeriod : kind.IsPeriod start stop)
    (isPeriod' : kind.IsPeriod start' stop) : start = start' := by
  cases kind with
  | week =>
      obtain ⟨_, isNext⟩ := isPeriod
      obtain ⟨_, isNext'⟩ := isPeriod'
      omega
  | months width =>
      obtain ⟨index, isMonth, rfl, isStop⟩ := isPeriod
      obtain ⟨index', isMonth', rfl, isStop'⟩ := isPeriod'
      have ordered : ∀ one other, 12 ≤ width * one → one < other →
          firstDay (width * (one + 1)) < firstDay (width * (other + 1)) := by
        intro one other isMonth less
        have wide : 0 < width := Nat.pos_of_ne_zero (by rintro rfl; omega)
        apply firstDay_lt
        · exact Nat.le_trans isMonth (Nat.mul_le_mul_left width (Nat.le_succ one))
        · exact Nat.mul_lt_mul_of_pos_left (Nat.succ_lt_succ less) wide
      rcases Nat.lt_trichotomy index index' with less | same | greater
      · have order := ordered index index' isMonth less
        omega
      · rw [same]
      · have order := ordered index' index isMonth' greater
        omega

end PeriodKind

end DbBuddy.Library
