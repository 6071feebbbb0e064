import DbBuddy.Library.CalendarPeriods
import DbBuddy.Library.PythonText
import Mathlib.Data.List.Forall2

/-!
# Phrases for ranges of dates

`_temporal_range` gives the half-open range that a phrase such as `last month` or
`past 3 weeks` stands for.  All ranges with a name are computed before the phrase is looked
up, so one of them that leaves the calendar makes every phrase fail.
-/

namespace DbBuddy.Planner

open DbBuddy.Library

/-! ## Dates and months -/

/-- `date(year, month, day)` -/
def mkDate (year month day : ℤ) : Option CalendarDate :=
  if valid : (⟨year.toNat, month.toNat, day.toNat⟩ : Date).Valid then some ⟨_, valid⟩
  else none

/-- `date + timedelta(days)` -/
def plusDays (date : CalendarDate) (days : ℤ) : Option CalendarDate :=
  if inRange : 0 ≤ date.days + days ∧ (date.days + days).toNat < calendarDays then
    some ⟨dateOf (date.days + days).toNat, valid_dateOf inRange.2⟩
  else none

/-- `date.weekday()`; the calendar begins with a Monday. -/
def weekday (date : CalendarDate) : ℕ :=
  date.days % 7

/-- `_add_months` -/
def addMonths (first : CalendarDate) (n : ℤ) : Option CalendarDate :=
  let m0 : ℤ := first.year * 12 + (first.month - 1) + n
  mkDate (m0 / 12) (m0 % 12 + 1) 1

/-- `_quarter_start` -/
def quarterStart (date : CalendarDate) : Option CalendarDate :=
  mkDate date.year (((date.month : ℤ) - 1) / 3 * 3 + 1) 1

/-- `timedelta(days)` -/
def timedelta (days : ℕ) : Option ℤ :=
  if days ≤ 999999999 then some days else none

/-! ## Ranges with a name -/

/-- A half-open range of dates. -/
structure DateRange where
  start : CalendarDate
  stop : CalendarDate

/-- The dictionary of the ranges that have a name. -/
def namedRanges (today : CalendarDate) : Option (List (String × DateRange)) := do
  let first ← mkDate today.year today.month 1
  let monday ← plusDays today (-weekday today)
  let quarter ← quarterStart today
  let year ← mkDate today.year 1 1
  let tomorrow ← plusDays today 1
  let yesterday ← plusDays today (-1)
  let afterTomorrow ← plusDays today 2
  let nextMonday ← plusDays monday 7
  let lastMonday ← plusDays monday (-7)
  let nextMonth ← addMonths first 1
  let lastMonth ← addMonths first (-1)
  let nextQuarter ← addMonths quarter 3
  let lastQuarter ← addMonths quarter (-3)
  let nextYear ← mkDate (today.year + 1) 1 1
  let lastYear ← mkDate (today.year - 1) 1 1
  some [("today", ⟨today, tomorrow⟩),
    ("yesterday", ⟨yesterday, today⟩),
    ("tomorrow", ⟨tomorrow, afterTomorrow⟩),
    ("this week", ⟨monday, nextMonday⟩),
    ("last week", ⟨lastMonday, monday⟩),
    ("this month", ⟨first, nextMonth⟩),
    ("last month", ⟨lastMonth, first⟩),
    ("this quarter", ⟨quarter, nextQuarter⟩),
    ("last quarter", ⟨lastQuarter, quarter⟩),
    ("this year", ⟨year, nextYear⟩),
    ("last year", ⟨lastYear, year⟩)]

/-! ## Rolling windows -/

inductive Direction where
  | past
  | last
  | next
  deriving DecidableEq, Repr

inductive SpanUnit where
  | day
  | week
  deriving DecidableEq, Repr

/-- `7 if unit.startswith("week") else 1` -/
def SpanUnit.days : SpanUnit → ℕ
  | .day => 1
  | .week => 7

/-- The digits of Unicode, and how many of them `int` reads if there is a limit. -/
structure Numerals where
  digit : Char → Option ℕ
  maxDigits : Option ℕ
  digit_solid : ∀ char, (digit char).isSome = true → isSpace char = false

namespace Numerals

variable (numerals : Numerals)

/-- The number that a numeral is written for. -/
def value (digits : List Char) : ℕ :=
  digits.foldl (fun number char => number * 10 + (numerals.digit char).getD 0) 0

/-- The numeral is not too long for `int`. -/
def Fits (digits : List Char) : Prop :=
  ∀ limit ∈ numerals.maxDigits, digits.length ≤ limit

instance (digits : List Char) : Decidable (numerals.Fits digits) :=
  inferInstanceAs (Decidable (∀ limit ∈ numerals.maxDigits, digits.length ≤ limit))

/-- `int(digits)` -/
def int (digits : List Char) : Option ℕ :=
  if numerals.Fits digits then some (numerals.value digits) else none

end Numerals

/-- `past|last|next` -/
def directionOf : List Char → Option (Direction × List Char)
  | 'p' :: 'a' :: 's' :: 't' :: rest => some (.past, rest)
  | 'l' :: 'a' :: 's' :: 't' :: rest => some (.last, rest)
  | 'n' :: 'e' :: 'x' :: 't' :: rest => some (.next, rest)
  | _ => none

/-- `\s+` -/
def skipSpaces : List Char → Option (List Char)
  | [] => none
  | char :: rest => if isSpace char then some (rest.dropWhile isSpace) else none

/-- `\d+` -/
def digitsOf (numerals : Numerals) (text : List Char) : Option (List Char × List Char) :=
  match text.span fun char => (numerals.digit char).isSome with
  | ([], _) => none
  | (digits, rest) => some (digits, rest)

/-- `day|days|week|weeks` -/
def unitOf (text : List Char) : Option SpanUnit :=
  if text = "day".toList ∨ text = "days".toList then some .day
  else if text = "week".toList ∨ text = "weeks".toList then some .week
  else none

/-- The groups of the pattern for rolling windows. -/
def rollingForm (numerals : Numerals) (phrase : List Char) :
    Option (Direction × List Char × SpanUnit) := do
  let (direction, rest) ← directionOf phrase
  let rest ← skipSpaces rest
  let (digits, rest) ← digitsOf numerals rest
  let rest ← skipSpaces rest
  let unit ← unitOf rest
  some (direction, digits, unit)

/-- The window of `n` days or weeks. -/
def rollingRange (today : CalendarDate) (direction : Direction) (n : ℕ) (unit : SpanUnit) :
    Option (Option DateRange) :=
  if n = 0 then some none
  else do
    let span ← timedelta (n * unit.days)
    match direction with
    | .next => do
        let stop ← plusDays today span
        some (some ⟨today, stop⟩)
    | _ => do
        let start ← plusDays today (-span)
        let stop ← plusDays today 1
        some (some ⟨start, stop⟩)

/-- `_temporal_range`; the outer `none` is what is raised. -/
def temporalRange (numerals : Numerals) (phrase : String) (today : CalendarDate) :
    Option (Option DateRange) := do
  let named ← namedRanges today
  match named.lookup phrase with
  | some range => some (some range)
  | none =>
      match rollingForm numerals phrase.toList with
      | none => some none
      | some (direction, digits, unit) => do
          let n ← numerals.int digits
          rollingRange today direction n unit

/-! ## What phrases mean -/

/-- What a phrase says. -/
inductive Phrase where
  | today
  | yesterday
  | tomorrow
  | this (kind : PeriodKind)
  | last (kind : PeriodKind)
  | rolling (direction : Direction) (n : ℕ) (unit : SpanUnit)
  deriving DecidableEq, Repr

def namedPhrases : List (String × Phrase) :=
  [("today", .today),
    ("yesterday", .yesterday),
    ("tomorrow", .tomorrow),
    ("this week", .this .week),
    ("last week", .last .week),
    ("this month", .this (.months 1)),
    ("last month", .last (.months 1)),
    ("this quarter", .this (.months 3)),
    ("last quarter", .last (.months 3)),
    ("this year", .this (.months 12)),
    ("last year", .last (.months 12))]

/-- The phrases that the module recognises. -/
def phraseOf (numerals : Numerals) (phrase : String) : Option Phrase :=
  match namedPhrases.lookup phrase with
  | some meaning => some meaning
  | none => (rollingForm numerals phrase.toList).map fun (direction, digits, unit) =>
      .rolling direction (numerals.value digits) unit

/-- The days that a phrase means, from the first one to the first one after it.  Today lasts
from `today` to `today + 1`, and a window is one of at least one day or week. -/
def Phrase.Means (today start stop : ℕ) : Phrase → Prop
  | .today => start = today ∧ stop = today + 1
  | .yesterday => start + 1 = today ∧ stop = today
  | .tomorrow => start = today + 1 ∧ stop = today + 2
  | .this kind => kind.IsPeriod start stop ∧ start ≤ today ∧ today < stop
  | .last kind => kind.IsPeriod start stop ∧
      ∃ after, kind.IsPeriod stop after ∧ stop ≤ today ∧ today < after
  | .rolling .next n unit => 0 < n ∧ start = today ∧ stop = today + n * unit.days
  | .rolling _ n unit => 0 < n ∧ start + n * unit.days = today ∧ stop = today + 1

/-! ## Dates that exist -/

section Dates

variable {date today found : CalendarDate} {start stop start' stop' : ℕ}

theorem plusDays_days {n : ℤ} {days : ℕ} (isTarget : (date.days : ℤ) + n = days)
    (inRange : days < calendarDays) :
    ∃ found, plusDays date n = some found ∧ found.days = days := by
  have isIn : 0 ≤ date.days + n ∧ (date.days + n).toNat < calendarDays := by
    omega
  refine ⟨⟨dateOf (date.days + n).toNat, valid_dateOf isIn.2⟩, dif_pos isIn, ?_⟩
  rw [days_dateOf, isTarget]
  rfl

theorem mkDate_of_valid {date : Date} (valid : date.Valid) :
    mkDate date.year date.month date.day = some ⟨date, valid⟩ :=
  dif_pos valid

theorem valid_of_mkDate {year month day : ℤ} (isDate : mkDate year month day = some found) :
    found.toDate = ⟨year.toNat, month.toNat, day.toNat⟩ := by
  unfold mkDate at isDate
  split at isDate
  · cases isDate
    rfl
  · cases isDate

theorem valid_first {month : ℕ} (isMonth : 12 ≤ month) (inYears : month < 120000) :
    (⟨month / 12, month % 12 + 1, 1⟩ : Date).Valid where
  year_pos := by dsimp only; omega
  year_le := by dsimp only; omega
  month_pos := by dsimp only; omega
  month_le := by dsimp only; omega
  day_pos := Nat.le_refl 1
  day_le := daysInMonth_pos _ _ (Nat.mod_lt _ (by decide))

/-- The first day of a month of the calendar. -/
theorem mkDate_firstDay {month : ℕ} {year monthOfYear : ℤ} (isMonth : 12 ≤ month)
    (inYears : month < 120000) (isYear : year = (month / 12 : ℕ))
    (isMonthOfYear : monthOfYear = (month % 12 + 1 : ℕ)) :
    ∃ found, mkDate year monthOfYear 1 = some found ∧ found.monthIndex = month ∧
      found.days = firstDay month := by
  subst isYear isMonthOfYear
  refine ⟨_, mkDate_of_valid (valid_first isMonth inYears), ?_, rfl⟩
  unfold Date.monthIndex
  dsimp only
  omega

theorem addMonths_eq (date : CalendarDate) (n : ℤ) : addMonths date n =
    mkDate ((date.monthIndex + n) / 12) ((date.monthIndex + n) % 12 + 1) 1 := by
  have isMonth := date.valid.month_pos
  have sameIndex : (date.year : ℤ) * 12 + ((date.month : ℤ) - 1) + n = date.monthIndex + n := by
    unfold Date.monthIndex
    omega
  unfold addMonths
  rw [sameIndex]

theorem addMonths_firstDay {n : ℤ} {month : ℕ} (isTarget : (date.monthIndex : ℤ) + n = month)
    (isMonth : 12 ≤ month) (inYears : month < 120000) :
    ∃ found, addMonths date n = some found ∧ found.days = firstDay month := by
  rw [addMonths_eq, isTarget]
  obtain ⟨found, isFound, _, hasDays⟩ := mkDate_firstDay isMonth inYears
    (show (month : ℤ) / 12 = (month / 12 : ℕ) by omega)
    (show (month : ℤ) % 12 + 1 = (month % 12 + 1 : ℕ) by omega)
  exact ⟨found, isFound, hasDays⟩

/-- Shifts add up, and one exists where the other does. -/
theorem addMonths_add {middle : CalendarDate} {a b : ℤ}
    (isMiddle : addMonths date a = some middle) :
    addMonths date (a + b) = addMonths middle b := by
  rw [addMonths_eq] at isMiddle
  have isDate := valid_of_mkDate isMiddle
  have isYear := middle.valid.year_pos
  have isMonth := middle.valid.month_pos
  have sameIndex : (date.monthIndex : ℤ) + (a + b) = middle.monthIndex + b := by
    unfold Date.monthIndex at isDate ⊢
    rw [isDate] at isYear isMonth ⊢
    dsimp only at isYear isMonth ⊢
    omega
  rw [addMonths_eq, addMonths_eq, sameIndex]

theorem mkDate_year_succ (isLast : 9999 ≤ today.year) :
    mkDate (today.year + 1) 1 1 = none := by
  apply dif_neg
  intro valid
  have inYears := valid.year_le
  dsimp only at inYears
  omega

theorem mkDate_year_pred (isFirst : today.year ≤ 1) : mkDate (today.year - 1) 1 1 = none := by
  apply dif_neg
  intro valid
  have inYears := valid.year_pos
  dsimp only at inYears
  omega

end Dates

/-! ## The ranges with a name -/

section Named

variable {today : CalendarDate} {named : List (String × DateRange)}

/-- The range is the one that the phrase of its name means. -/
def NamesRange (today : CalendarDate) (range : String × DateRange) (phrase : String × Phrase) :
    Prop :=
  range.1 = phrase.1 ∧ phrase.2.Means today.days range.2.start.days range.2.stop.days

/-- A period of whole months that begins with a month of the calendar and no later than the
current one. -/
theorem period_of_width {width : ℕ} (wide : 0 < width)
    (isMonth : 12 ≤ width * (today.monthIndex / width)) :
    firstDay (width * (today.monthIndex / width)) ≤ today.days ∧
      today.days < firstDay (width * (today.monthIndex / width + 1)) := by
  obtain ⟨first, last⟩ := today.valid.in_month
  have later : 12 ≤ today.monthIndex + 1 := Nat.le_succ_of_le today.valid.monthIndex_ge
  have starts := firstDay_mono isMonth (Nat.mul_div_le today.monthIndex width)
  have stops := firstDay_mono later (Nat.lt_mul_div_succ today.monthIndex wide)
  constructor
  · omega
  · omega

/-- A year away from its ends, the calendar has all the days around today. -/
theorem inside_calendar (notFirst : 1 < today.year) (notLast : today.year < 9999) :
    24 ≤ today.monthIndex ∧ today.monthIndex < 119988 ∧ 365 ≤ today.days ∧
      today.days + 365 ≤ calendarDays := by
  have isYear := today.valid.monthIndex_div
  have early : 24 ≤ today.monthIndex := by
    omega
  have late : today.monthIndex < 119988 := by
    omega
  obtain ⟨first, last⟩ := today.valid.in_month
  have afterFirst := firstDay_mono (show 12 ≤ 24 by decide) early
  have beforeLast := firstDay_mono (show 12 ≤ today.monthIndex + 1 by omega)
    (show today.monthIndex + 1 ≤ 119988 by omega)
  have second : firstDay 24 = 365 := rfl
  have lastYear : firstDay 119988 + 365 = calendarDays := rfl
  refine ⟨early, late, by omega, by omega⟩

/-- What is needed of a run of months that today lies in. -/
theorem names_months (current preceding : String) {width index : ℕ}
    {before start stop : CalendarDate} (isIndex : today.monthIndex / width = index + 1)
    (isMonth : 12 ≤ width * index) (wide : 0 < width) (isBefore : before.days = firstDay (width * index))
    (isStart : start.days = firstDay (width * (index + 1)))
    (isStop : stop.days = firstDay (width * (index + 1 + 1))) :
    NamesRange today (current, ⟨start, stop⟩) (current, .this (.months width)) ∧
      NamesRange today (preceding, ⟨before, start⟩) (preceding, .last (.months width)) := by
  have later : 12 ≤ width * (index + 1) := by
    rw [Nat.mul_add]
    omega
  have isPeriod := period_of_width wide (by rw [isIndex]; exact later)
  rw [isIndex, ← isStart, ← isStop] at isPeriod
  constructor
  · exact ⟨rfl, ⟨index + 1, later, isStart, isStop⟩, isPeriod⟩
  · exact ⟨rfl, ⟨index, isMonth, isBefore, isStart⟩, stop.days,
      ⟨index + 1, later, isStart, isStop⟩, isPeriod⟩

/-- The range of a week, and of the one before it. -/
theorem names_weeks (current preceding : String)
    {monday nextMonday lastMonday : CalendarDate}
    (isMonday : monday.days + today.days % 7 = today.days)
    (isNext : nextMonday.days = monday.days + 7) (isLast : lastMonday.days + 7 = monday.days) :
    NamesRange today (current, ⟨monday, nextMonday⟩) (current, .this .week) ∧
      NamesRange today (preceding, ⟨lastMonday, monday⟩) (preceding, .last .week) := by
  have isWeek : PeriodKind.week.IsPeriod monday.days nextMonday.days := ⟨by omega, isNext⟩
  have isLastWeek : PeriodKind.week.IsPeriod lastMonday.days monday.days :=
    ⟨by omega, isLast.symm⟩
  have inWeek : monday.days ≤ today.days ∧ today.days < nextMonday.days := by
    omega
  constructor
  · exact ⟨rfl, isWeek, inWeek⟩
  · exact ⟨rfl, isLastWeek, nextMonday.days, isWeek, inWeek⟩

section Inside

variable (notFirst : 1 < today.year) (notLast : today.year < 9999)

include notFirst notLast

theorem days_of_inside : ∃ tomorrow yesterday afterTomorrow,
    plusDays today 1 = some tomorrow ∧ plusDays today (-1) = some yesterday ∧
      plusDays today 2 = some afterTomorrow ∧
      NamesRange today ("today", ⟨today, tomorrow⟩) ("today", .today) ∧
      NamesRange today ("yesterday", ⟨yesterday, today⟩) ("yesterday", .yesterday) ∧
      NamesRange today ("tomorrow", ⟨tomorrow, afterTomorrow⟩) ("tomorrow", .tomorrow) := by
  obtain ⟨_, _, afterFirst, beforeLast⟩ := inside_calendar notFirst notLast
  obtain ⟨tomorrow, hasTomorrow, tomorrowDays⟩ := plusDays_days
    (show (today.days : ℤ) + 1 = (today.days + 1 : ℕ) by omega) (by omega)
  obtain ⟨yesterday, hasYesterday, yesterdayDays⟩ := plusDays_days
    (show (today.days : ℤ) + -1 = (today.days - 1 : ℕ) by omega) (by omega)
  obtain ⟨afterTomorrow, hasAfterTomorrow, afterTomorrowDays⟩ := plusDays_days
    (show (today.days : ℤ) + 2 = (today.days + 2 : ℕ) by omega) (by omega)
  have isYesterday : yesterday.days + 1 = today.days := by
    omega
  exact ⟨tomorrow, yesterday, afterTomorrow, hasTomorrow, hasYesterday, hasAfterTomorrow,
    ⟨rfl, rfl, tomorrowDays⟩, ⟨rfl, isYesterday, rfl⟩,
    ⟨rfl, tomorrowDays, afterTomorrowDays⟩⟩

theorem weeks_of_inside : ∃ monday nextMonday lastMonday,
    plusDays today (-weekday today) = some monday ∧ plusDays monday 7 = some nextMonday ∧
      plusDays monday (-7) = some lastMonday ∧
      NamesRange today ("this week", ⟨monday, nextMonday⟩) ("this week", .this .week) ∧
      NamesRange today ("last week", ⟨lastMonday, monday⟩) ("last week", .last .week) := by
  obtain ⟨_, _, afterFirst, beforeLast⟩ := inside_calendar notFirst notLast
  obtain ⟨monday, hasMonday, mondayDays⟩ := plusDays_days
    (show (today.days : ℤ) + -weekday today = (today.days - today.days % 7 : ℕ) by
      unfold weekday
      omega) (by omega)
  obtain ⟨nextMonday, hasNextMonday, nextMondayDays⟩ := plusDays_days
    (show (monday.days : ℤ) + 7 = (monday.days + 7 : ℕ) by omega) (by omega)
  obtain ⟨lastMonday, hasLastMonday, lastMondayDays⟩ := plusDays_days
    (show (monday.days : ℤ) + -7 = (monday.days - 7 : ℕ) by omega) (by omega)
  have weeks := names_weeks "this week" "last week"
    (show monday.days + today.days % 7 = today.days by omega) nextMondayDays
    (show lastMonday.days + 7 = monday.days by omega)
  exact ⟨monday, nextMonday, lastMonday, hasMonday, hasNextMonday, hasLastMonday, weeks⟩

/-- The months of a width that today lies in, from the first day of them. -/
theorem shifts_of_inside (current preceding : String) {width : ℕ} {shift : ℤ}
    {start : CalendarDate} (isShift : shift = width) (wide : 0 < width)
    (short : width ≤ 6)
    (isStart : start.monthIndex = width * (today.monthIndex / width))
    (startDays : start.days = firstDay (width * (today.monthIndex / width))) :
    ∃ stop before, addMonths start shift = some stop ∧
      addMonths start (-shift) = some before ∧
      NamesRange today (current, ⟨start, stop⟩) (current, .this (.months width)) ∧
      NamesRange today (preceding, ⟨before, start⟩) (preceding, .last (.months width)) := by
  obtain ⟨early, late, _, _⟩ := inside_calendar notFirst notLast
  have below := Nat.mul_div_le today.monthIndex width
  have above := Nat.lt_mul_div_succ today.monthIndex wide
  obtain ⟨index, isIndex⟩ : ∃ index, today.monthIndex / width = index + 1 := by
    have isLater : 0 < today.monthIndex / width := Nat.div_pos (by omega) wide
    exact ⟨today.monthIndex / width - 1, by omega⟩
  rw [isIndex] at isStart startDays below above
  have next : width * (index + 1 + 1) = width * (index + 1) + width := Nat.mul_succ _ _
  have preceded : width * (index + 1) = width * index + width := Nat.mul_succ _ _
  obtain ⟨stop, hasStop, stopDays⟩ := addMonths_firstDay
    (show (start.monthIndex : ℤ) + shift = (width * (index + 1 + 1) : ℕ) by
      rw [next, isStart, isShift]
      exact (Int.natCast_add _ _).symm) (by omega) (by omega)
  obtain ⟨before, hasBefore, beforeDays⟩ := addMonths_firstDay
    (show (start.monthIndex : ℤ) + -shift = (width * index : ℕ) by
      rw [isStart, isShift, preceded, Int.natCast_add]
      exact Int.add_neg_cancel_right _ _) (by omega) (by omega)
  exact ⟨stop, before, hasStop, hasBefore, names_months current preceding isIndex
    (by omega) wide beforeDays startDays stopDays⟩

theorem months_of_inside : ∃ first nextMonth lastMonth,
    mkDate today.year today.month 1 = some first ∧ addMonths first 1 = some nextMonth ∧
      addMonths first (-1) = some lastMonth ∧
      NamesRange today ("this month", ⟨first, nextMonth⟩)
        ("this month", .this (.months 1)) ∧
      NamesRange today ("last month", ⟨lastMonth, first⟩)
        ("last month", .last (.months 1)) := by
  obtain ⟨early, late, _, _⟩ := inside_calendar notFirst notLast
  have isYear := today.valid.monthIndex_div
  have isMonthOfYear := today.valid.monthIndex_mod
  obtain ⟨first, hasFirst, firstIndex, firstDays⟩ := mkDate_firstDay
    (show 12 ≤ 1 * (today.monthIndex / 1) by omega) (by omega)
    (show (today.year : ℤ) = (1 * (today.monthIndex / 1) / 12 : ℕ) by omega)
    (show (today.month : ℤ) = (1 * (today.monthIndex / 1) % 12 + 1 : ℕ) by omega)
  obtain ⟨stop, before, months⟩ := shifts_of_inside notFirst notLast "this month" "last month"
    (show (1 : ℤ) = (1 : ℕ) from rfl) (by decide) (by decide) firstIndex firstDays
  exact ⟨first, stop, before, hasFirst, months⟩

theorem quarters_of_inside : ∃ quarter nextQuarter lastQuarter,
    quarterStart today = some quarter ∧ addMonths quarter 3 = some nextQuarter ∧
      addMonths quarter (-3) = some lastQuarter ∧
      NamesRange today ("this quarter", ⟨quarter, nextQuarter⟩)
        ("this quarter", .this (.months 3)) ∧
      NamesRange today ("last quarter", ⟨lastQuarter, quarter⟩)
        ("last quarter", .last (.months 3)) := by
  obtain ⟨early, late, _, _⟩ := inside_calendar notFirst notLast
  have isYear := today.valid.monthIndex_div
  have isMonthOfYear := today.valid.monthIndex_mod
  obtain ⟨quarter, hasQuarter, quarterIndex, quarterDays⟩ := mkDate_firstDay
    (show 12 ≤ 3 * (today.monthIndex / 3) by omega) (by omega)
    (show (today.year : ℤ) = (3 * (today.monthIndex / 3) / 12 : ℕ) by omega)
    (show ((today.month : ℤ) - 1) / 3 * 3 + 1 =
      (3 * (today.monthIndex / 3) % 12 + 1 : ℕ) by omega)
  obtain ⟨stop, before, quarters⟩ := shifts_of_inside notFirst notLast "this quarter"
    "last quarter" (show (3 : ℤ) = (3 : ℕ) from rfl) (by decide) (by decide) quarterIndex
    quarterDays
  exact ⟨quarter, stop, before, hasQuarter, quarters⟩

theorem years_of_inside : ∃ year nextYear lastYear,
    mkDate today.year 1 1 = some year ∧ mkDate (today.year + 1) 1 1 = some nextYear ∧
      mkDate (today.year - 1) 1 1 = some lastYear ∧
      NamesRange today ("this year", ⟨year, nextYear⟩) ("this year", .this (.months 12)) ∧
      NamesRange today ("last year", ⟨lastYear, year⟩)
        ("last year", .last (.months 12)) := by
  obtain ⟨early, late, _, _⟩ := inside_calendar notFirst notLast
  have isYear := today.valid.monthIndex_div
  obtain ⟨yearNo, isYearNo⟩ : ∃ yearNo, today.monthIndex / 12 = yearNo + 1 :=
    ⟨today.monthIndex / 12 - 1, by omega⟩
  obtain ⟨year, hasYear, _, yearDays⟩ := mkDate_firstDay
    (show 12 ≤ 12 * (yearNo + 1) by omega) (by omega)
    (show (today.year : ℤ) = (12 * (yearNo + 1) / 12 : ℕ) by omega)
    (show (1 : ℤ) = (12 * (yearNo + 1) % 12 + 1 : ℕ) by omega)
  obtain ⟨nextYear, hasNextYear, _, nextYearDays⟩ := mkDate_firstDay
    (show 12 ≤ 12 * (yearNo + 1 + 1) by omega) (by omega)
    (show (today.year : ℤ) + 1 = (12 * (yearNo + 1 + 1) / 12 : ℕ) by omega)
    (show (1 : ℤ) = (12 * (yearNo + 1 + 1) % 12 + 1 : ℕ) by omega)
  obtain ⟨lastYear, hasLastYear, _, lastYearDays⟩ := mkDate_firstDay
    (show 12 ≤ 12 * yearNo by omega) (by omega)
    (show (today.year : ℤ) - 1 = (12 * yearNo / 12 : ℕ) by omega)
    (show (1 : ℤ) = (12 * yearNo % 12 + 1 : ℕ) by omega)
  exact ⟨year, nextYear, lastYear, hasYear, hasNextYear, hasLastYear,
    names_months "this year" "last year" isYearNo (by omega) (by decide) lastYearDays
      yearDays nextYearDays⟩

/-- A year away from its ends, the calendar has all ranges, each with its own days. -/
theorem named_of_inside : ∃ named, namedRanges today = some named ∧
    List.Forall₂ (NamesRange today) named namedPhrases := by
  obtain ⟨tomorrow, yesterday, afterTomorrow, hasTomorrow, hasYesterday, hasAfterTomorrow,
    days⟩ := days_of_inside notFirst notLast
  obtain ⟨monday, nextMonday, lastMonday, hasMonday, hasNextMonday, hasLastMonday, weeks⟩ :=
    weeks_of_inside notFirst notLast
  obtain ⟨first, nextMonth, lastMonth, hasFirst, hasNextMonth, hasLastMonth, months⟩ :=
    months_of_inside notFirst notLast
  obtain ⟨quarter, nextQuarter, lastQuarter, hasQuarter, hasNextQuarter, hasLastQuarter,
    quarters⟩ := quarters_of_inside notFirst notLast
  obtain ⟨year, nextYear, lastYear, hasYear, hasNextYear, hasLastYear, years⟩ :=
    years_of_inside notFirst notLast
  refine ⟨_, ?_, .cons days.1 (.cons days.2.1 (.cons days.2.2
    (.cons weeks.1 (.cons weeks.2 (.cons months.1 (.cons months.2
    (.cons quarters.1 (.cons quarters.2 (.cons years.1 (.cons years.2 .nil))))))))))⟩
  simp only [namedRanges, hasFirst, hasMonday, hasQuarter, hasYear, hasTomorrow,
    hasYesterday, hasAfterTomorrow, hasNextMonday, hasLastMonday, hasNextMonth, hasLastMonth,
    hasNextQuarter, hasLastQuarter, hasNextYear, hasLastYear, Option.bind_eq_bind,
    Option.bind_some]

end Inside

/-- A range has a name for each phrase with one, and for no other. -/
theorem lookup_of_names {phrases : List (String × Phrase)} (text : String)
    (names : List.Forall₂ (NamesRange today) named phrases) :
    (phrases.lookup text = none → named.lookup text = none) ∧
      ∀ meaning, phrases.lookup text = some meaning → ∃ range,
        named.lookup text = some range ∧
          meaning.Means today.days range.start.days range.stop.days := by
  induction names with
  | nil => exact ⟨fun _ => rfl, nofun⟩
  | @cons range phrase _ _ isNamed _ induction =>
      obtain ⟨name, range⟩ := range
      obtain ⟨name', phrase⟩ := phrase
      obtain ⟨rfl, means⟩ := isNamed
      rw [List.lookup_cons, List.lookup_cons]
      cases text == name with
      | true =>
          refine ⟨nofun, ?_⟩
          intro meaning isMeaning
          cases isMeaning
          exact ⟨range, rfl, means⟩
      | false => exact induction

/-- The ranges exist in the years that have one before and one after them. -/
theorem inside_of_named (isNamed : namedRanges today = some named) :
    1 < today.year ∧ today.year < 9999 := by
  unfold namedRanges at isNamed
  constructor
  · by_contra isFirst
    rw [mkDate_year_pred (show today.year ≤ 1 by omega)] at isNamed
    simp only [Option.bind_eq_bind, Option.bind_none, Option.bind_fun_none] at isNamed
    cases isNamed
  · by_contra isLast
    rw [mkDate_year_succ (show 9999 ≤ today.year by omega)] at isNamed
    simp only [Option.bind_eq_bind, Option.bind_none, Option.bind_fun_none] at isNamed
    cases isNamed

end Named

/-! ## Meanings -/

section Meanings

variable {today : CalendarDate} {meaning : Phrase} {start stop start' stop' n : ℕ}
variable {direction : Direction} {unit : SpanUnit} {range : DateRange}

theorem Phrase.Means.lt (means : meaning.Means today.days start stop) : start < stop := by
  cases meaning with
  | today => obtain ⟨rfl, rfl⟩ := means; omega
  | yesterday => obtain ⟨isStart, rfl⟩ := means; omega
  | tomorrow => obtain ⟨rfl, rfl⟩ := means; omega
  | this kind => exact means.1.lt
  | last kind => exact means.1.lt
  | rolling direction n unit =>
      have wide : 0 < unit.days := by cases unit <;> decide
      cases direction <;> obtain ⟨positive, isStart, isStop⟩ := means
      · omega
      · omega
      · have long := Nat.mul_pos positive wide
        omega

/-- A phrase means one range at most. -/
theorem Phrase.Means.unique (means : meaning.Means today.days start stop)
    (means' : meaning.Means today.days start' stop') : start = start' ∧ stop = stop' := by
  cases meaning with
  | today => exact ⟨means.1.trans means'.1.symm, means.2.trans means'.2.symm⟩
  | yesterday => exact ⟨Nat.succ_injective (means.1.trans means'.1.symm),
      means.2.trans means'.2.symm⟩
  | tomorrow => exact ⟨means.1.trans means'.1.symm, means.2.trans means'.2.symm⟩
  | this kind => exact means.1.unique today.valid means.2 means'.1 means'.2
  | last kind =>
      obtain ⟨isPeriod, after, isCurrent, contains⟩ := means
      obtain ⟨isPeriod', after', isCurrent', contains'⟩ := means'
      obtain ⟨rfl, _⟩ := isCurrent.unique today.valid contains isCurrent' contains'
      exact ⟨isPeriod.start_unique isPeriod', rfl⟩
  | rolling direction n unit =>
      cases direction <;> obtain ⟨_, isStart, isStop⟩ := means <;>
        obtain ⟨_, isStart', isStop'⟩ := means' <;> omega

theorem days_of_plusDays {date found : CalendarDate} {days : ℤ}
    (isFound : plusDays date days = some found) : (found.days : ℤ) = date.days + days := by
  unfold plusDays at isFound
  split at isFound
  · next inRange =>
      cases isFound
      rw [days_dateOf]
      exact Int.toNat_of_nonneg inRange.1
  · cases isFound

/-- A window that is inside the calendar is found. -/
theorem rollingRange_of_means
    (means : (Phrase.rolling direction n unit).Means today.days start stop)
    (inCalendar : stop < calendarDays) : ∃ range,
      rollingRange today direction n unit = some (some range) ∧
        range.start.days = start ∧ range.stop.days = stop := by
  have isToday := today.valid.days_lt
  have small : n * unit.days ≤ 999999999 := by
    unfold calendarDays at inCalendar isToday
    cases direction <;> obtain ⟨_, isStart, isStop⟩ := means <;> omega
  unfold rollingRange timedelta
  rw [if_pos small]
  cases direction with
  | next =>
      obtain ⟨positive, rfl, rfl⟩ := means
      obtain ⟨after, isAfter, hasDays⟩ := plusDays_days
        (show (today.days : ℤ) + (n * unit.days : ℕ) = (today.days + n * unit.days : ℕ) by omega)
        inCalendar
      rw [if_neg (Nat.ne_of_gt positive)]
      refine ⟨⟨today, after⟩, ?_, rfl, hasDays⟩
      simp only [isAfter, Option.bind_eq_bind, Option.bind_some]
  | past | last =>
      obtain ⟨positive, isStart, rfl⟩ := means
      obtain ⟨before, isBefore, hasDays⟩ := plusDays_days
        (show (today.days : ℤ) + -(n * unit.days : ℕ) = start by omega) (by omega)
      obtain ⟨after, isAfter, hasDays'⟩ := plusDays_days
        (show (today.days : ℤ) + 1 = (today.days + 1 : ℕ) by omega) inCalendar
      rw [if_neg (Nat.ne_of_gt positive)]
      refine ⟨⟨before, after⟩, ?_, hasDays, hasDays'⟩
      simp only [isBefore, isAfter, Option.bind_eq_bind, Option.bind_some]

/-- A window that is found is the one that is meant. -/
theorem means_of_rollingRange
    (isFound : rollingRange today direction n unit = some (some range)) :
    (Phrase.rolling direction n unit).Means today.days range.start.days range.stop.days := by
  unfold rollingRange timedelta at isFound
  split at isFound
  · cases isFound
  · next notNone =>
      have positive := Nat.pos_of_ne_zero notNone
      split at isFound
      · cases direction with
        | next =>
            simp only [Option.bind_eq_bind, Option.bind_some, Option.bind_eq_some_iff] at isFound
            obtain ⟨after, isAfter, isRange⟩ := isFound
            cases isRange
            have hasDays := days_of_plusDays isAfter
            exact ⟨positive, rfl, by dsimp only; omega⟩
        | past | last =>
            simp only [Option.bind_eq_bind, Option.bind_some, Option.bind_eq_some_iff] at isFound
            obtain ⟨before, isBefore, after, isAfter, isRange⟩ := isFound
            cases isRange
            have hasDays := days_of_plusDays isBefore
            have hasDays' := days_of_plusDays isAfter
            exact ⟨positive, by dsimp only; omega, by dsimp only; omega⟩
      · cases isFound

end Meanings

/-! ## The ranges of phrases -/

section Ranges

variable {numerals : Numerals} {text : String} {today : CalendarDate} {range : DateRange}

/-- The range that a phrase means is inside the calendar. -/
def HasRange (numerals : Numerals) (text : String) (today : CalendarDate) : Prop :=
  ∃ meaning start stop, phraseOf numerals text = some meaning ∧
    meaning.Means today.days start stop ∧ stop < calendarDays

/-- If the range that a phrase means is inside the calendar, it is returned, and some day is
in it. -/
def Answered (numerals : Numerals) (text : String) (today : CalendarDate) : Prop :=
  ∀ meaning start stop, phraseOf numerals text = some meaning →
    meaning.Means today.days start stop → stop < calendarDays →
    start < stop ∧ ∃ range, temporalRange numerals text today = some (some range) ∧
      range.start.days = start ∧ range.stop.days = stop

/-- The numeral of a window is not too long for `int`. -/
def FitsNumeral (numerals : Numerals) (text : String) : Prop :=
  namedPhrases.lookup text = none →
    ∀ direction digits unit, rollingForm numerals text.toList = some (direction, digits, unit) →
      numerals.Fits digits

/-- Whatever range is returned, the phrase means it. -/
theorem means_of_temporalRange (isFound : temporalRange numerals text today = some (some range)) :
    ∃ meaning, phraseOf numerals text = some meaning ∧
      meaning.Means today.days range.start.days range.stop.days := by
  unfold temporalRange at isFound
  simp only [Option.bind_eq_bind, Option.bind_eq_some_iff] at isFound
  obtain ⟨named, isNamed, isFound⟩ := isFound
  obtain ⟨notFirst, notLast⟩ := inside_of_named isNamed
  obtain ⟨named', isNamed', names⟩ := named_of_inside notFirst notLast
  rw [isNamed] at isNamed'
  cases isNamed'
  obtain ⟨noName, hasName⟩ := lookup_of_names text names
  unfold phraseOf
  cases isPhrase : namedPhrases.lookup text with
  | some meaning =>
      obtain ⟨range', isRange, means⟩ := hasName meaning isPhrase
      rw [isRange] at isFound
      cases isFound
      exact ⟨meaning, rfl, means⟩
  | none =>
      rw [noName isPhrase] at isFound
      dsimp only at isFound
      cases isForm : rollingForm numerals text.toList with
      | none =>
          rw [isForm] at isFound
          cases isFound
      | some form =>
          obtain ⟨direction, digits, unit⟩ := form
          rw [isForm] at isFound
          simp only [Option.bind_eq_some_iff] at isFound
          obtain ⟨n, isNumber, isRolling⟩ := isFound
          unfold Numerals.int at isNumber
          split at isNumber
          · cases isNumber
            exact ⟨_, rfl, means_of_rollingRange isRolling⟩
          · cases isNumber

/-- In the first year and in the last one, every phrase fails. -/
theorem temporalRange_of_outside (outside : ¬ (1 < today.year ∧ today.year < 9999)) :
    temporalRange numerals text today = none := by
  unfold temporalRange
  cases isNamed : namedRanges today with
  | none => rfl
  | some named => exact absurd (inside_of_named isNamed) outside

/-- A phrase without a name is read as a window. -/
theorem temporalRange_of_form {direction : Direction} {digits : List Char} {unit : SpanUnit}
    (notFirst : 1 < today.year) (notLast : today.year < 9999)
    (isNew : namedPhrases.lookup text = none)
    (isForm : rollingForm numerals text.toList = some (direction, digits, unit)) :
    temporalRange numerals text today =
      (numerals.int digits).bind fun n => rollingRange today direction n unit := by
  obtain ⟨named, isNamed, names⟩ := named_of_inside notFirst notLast
  unfold temporalRange
  rw [isNamed, Option.bind_eq_bind, Option.bind_some, (lookup_of_names text names).1 isNew]
  dsimp only
  rw [isForm]
  rfl

theorem answered_of_inside (notFirst : 1 < today.year) (notLast : today.year < 9999)
    (fits : FitsNumeral numerals text) : Answered numerals text today := by
  intro meaning start stop isPhrase means inCalendar
  refine ⟨means.lt, ?_⟩
  unfold phraseOf at isPhrase
  cases isKnown : namedPhrases.lookup text with
  | some meaning' =>
      rw [isKnown] at isPhrase
      cases isPhrase
      obtain ⟨named, isNamed, names⟩ := named_of_inside notFirst notLast
      obtain ⟨range, isRange, means'⟩ := (lookup_of_names text names).2 meaning isKnown
      obtain ⟨sameStart, sameStop⟩ := means'.unique means
      refine ⟨range, ?_, sameStart, sameStop⟩
      unfold temporalRange
      rw [isNamed, Option.bind_eq_bind, Option.bind_some, isRange]
  | none =>
      rw [isKnown, Option.map_eq_some_iff] at isPhrase
      obtain ⟨⟨direction, digits, unit⟩, isForm, rfl⟩ := isPhrase
      obtain ⟨range, isRange, isStart, isStop⟩ := rollingRange_of_means means inCalendar
      have isNumber : numerals.int digits = some (numerals.value digits) :=
        if_pos (fits isKnown direction digits unit isForm)
      refine ⟨range, ?_, isStart, isStop⟩
      rw [temporalRange_of_form notFirst notLast isKnown isForm, isNumber, Option.bind_some]
      exact isRange

/-- A phrase whose range is inside the calendar is answered exactly in the years that have
one before and one after them, and if `int` reads its numeral. -/
theorem answered_iff : Answered numerals text today ↔
    (HasRange numerals text today →
      (1 < today.year ∧ today.year < 9999) ∧ FitsNumeral numerals text) := by
  constructor
  · rintro answered ⟨meaning, start, stop, isPhrase, means, inCalendar⟩
    obtain ⟨_, range, isRange, _⟩ := answered meaning start stop isPhrase means inCalendar
    have inside : 1 < today.year ∧ today.year < 9999 := by
      by_contra outside
      rw [temporalRange_of_outside outside] at isRange
      cases isRange
    refine ⟨inside, ?_⟩
    intro isNew direction digits unit isForm
    by_contra tooLong
    have noNumber : numerals.int digits = none := if_neg tooLong
    rw [temporalRange_of_form inside.1 inside.2 isNew isForm, noNumber] at isRange
    cases isRange
  · intro condition meaning start stop isPhrase means inCalendar
    obtain ⟨⟨notFirst, notLast⟩, fits⟩ :=
      condition ⟨meaning, start, stop, isPhrase, means, inCalendar⟩
    exact answered_of_inside notFirst notLast fits meaning start stop isPhrase means inCalendar

/-- A longer window of one kind holds the shorter one. -/
theorem range_subset {other : String} {range' : DateRange} {direction : Direction}
    {unit : SpanUnit} {n m : ℕ}
    (isPhrase : phraseOf numerals text = some (.rolling direction n unit))
    (isPhrase' : phraseOf numerals other = some (.rolling direction m unit)) (longer : n ≤ m)
    (isFound : temporalRange numerals text today = some (some range))
    (isFound' : temporalRange numerals other today = some (some range')) :
    range'.start.days ≤ range.start.days ∧ range.stop.days ≤ range'.stop.days := by
  obtain ⟨meaning, isMeaning, means⟩ := means_of_temporalRange isFound
  obtain ⟨meaning', isMeaning', means'⟩ := means_of_temporalRange isFound'
  rw [isPhrase] at isMeaning
  rw [isPhrase'] at isMeaning'
  cases isMeaning
  cases isMeaning'
  have longerDays : n * unit.days ≤ m * unit.days := Nat.mul_le_mul_right _ longer
  cases direction <;> obtain ⟨_, isStart, isStop⟩ := means <;>
    obtain ⟨_, isStart', isStop'⟩ := means' <;> omega

end Ranges

/-- Shifts of months add up, windows grow with their numbers, and a phrase whose range is
inside the calendar is answered with it exactly in the years that have one before and one
after them, if `int` reads the numeral. -/
theorem temporalRange_exact (numerals : Numerals) :
    (∀ date middle a b, addMonths date a = some middle →
      addMonths date (a + b) = addMonths middle b) ∧
    (∀ text other today direction unit n m range range',
      phraseOf numerals text = some (.rolling direction n unit) →
      phraseOf numerals other = some (.rolling direction m unit) → n ≤ m →
      temporalRange numerals text today = some (some range) →
      temporalRange numerals other today = some (some range') →
      range'.start.days ≤ range.start.days ∧ range.stop.days ≤ range'.stop.days) ∧
    ∀ text today, Answered numerals text today ↔
      (HasRange numerals text today →
        (1 < today.year ∧ today.year < 9999) ∧ FitsNumeral numerals text) := by
  refine ⟨?_, ?_, ?_⟩
  · intro date middle a b isMiddle
    exact addMonths_add isMiddle
  · intro text other today direction unit n m range range' isPhrase isPhrase' longer isFound
      isFound'
    exact range_subset isPhrase isPhrase' longer isFound isFound'
  · intro text today
    exact answered_iff

/-- The digits of ASCII, 4300 of them at most. -/
def asciiNumerals : Numerals where
  digit char := if char.isDigit then some (char.toNat - 48) else none
  maxDigits := some 4300
  digit_solid char isDigit := by
    by_contra isSpaced
    have bounds := isSpace_bounds (eq_true_of_ne_false isSpaced)
    split at isDigit
    · next inRange =>
        have low : 48 ≤ char.toNat := of_decide_eq_true ((Bool.and_eq_true _ _).mp inRange).1
        have high : char.toNat ≤ 57 := of_decide_eq_true ((Bool.and_eq_true _ _).mp inRange).2
        omega
    · cases isDigit

/-- A day in the last year of the calendar. -/
def lastSummer : CalendarDate :=
  ⟨⟨9999, 6, 15⟩, by decide⟩

theorem not_answered_lastSummer : HasRange asciiNumerals "last year" lastSummer ∧
    temporalRange asciiNumerals "last year" lastSummer = none ∧
    ¬ Answered asciiNumerals "last year" lastSummer := by
  have means : (Phrase.last (.months 12)).Means lastSummer.days (firstDay (12 * 9998))
      (firstDay (12 * 9999)) :=
    ⟨⟨9998, by decide, rfl, rfl⟩, firstDay (12 * 10000), ⟨9999, by decide, rfl, rfl⟩, by decide,
      by decide⟩
  have fails : temporalRange asciiNumerals "last year" lastSummer = none :=
    temporalRange_of_outside (by decide)
  refine ⟨⟨_, _, _, rfl, means, by decide⟩, fails, ?_⟩
  intro answered
  obtain ⟨_, range, isRange, _⟩ := answered _ _ _ rfl means (by decide)
  rw [fails] at isRange
  cases isRange

end DbBuddy.Planner
