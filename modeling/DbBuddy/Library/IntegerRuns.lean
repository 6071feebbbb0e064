import Mathlib

/-!
# Runs of absent integers

A walk over the integers between two that are present, which notes every longest run of
integers in between that are not.
-/

namespace DbBuddy.Library.IntegerRuns

/-- Integers one after the other, none of which is present. -/
structure Run (present : ℤ → Prop) (start stop : ℤ) : Prop where
  ordered : start ≤ stop
  absent : ∀ value, start ≤ value → value ≤ stop → ¬present value

/-- A run with present integers on both sides. -/
structure Enclosed (present : ℤ → Prop) (start stop : ℤ) : Prop
    extends Run present start stop where
  before : present (start - 1)
  behind : present (stop + 1)

/-- The start of the run that is not over, and the runs that are. -/
structure Scan where
  runStart : Option ℤ
  ranges : List (ℤ × ℤ)

section Walk

variable (present : ℤ → Prop) [DecidablePred present]

def step (scan : Scan) (value : ℤ) : Scan :=
  if present value then
    match scan.runStart with
    | some start => ⟨none, scan.ranges ++ [(start, value - 1)]⟩
    | none => scan
  else
    match scan.runStart with
    | some _ => scan
    | none => ⟨some value, scan.ranges⟩

/-- The integers of `range(first, first + count)`. -/
def integersFrom (first : ℤ) (count : ℕ) : List ℤ :=
  (List.range count).map fun offset => first + (offset : ℤ)

def walk (first : ℤ) (count : ℕ) : Scan :=
  (integersFrom first count).foldl (step present) ⟨none, []⟩

end Walk

def lengths (ranges : List (ℤ × ℤ)) : ℤ :=
  (ranges.map fun run => run.2 - run.1 + 1).sum

/-- The length of the run that is not over. -/
def Scan.pending (scan : Scan) (next : ℤ) : ℤ :=
  match scan.runStart with
  | some start => next - start
  | none => 0

/-! ## The invariant -/

/-- What was noted of the integers before the next one. -/
structure Scanned (present : ℤ → Prop) [DecidablePred present] (first next : ℤ)
    (scan : Scan) : Prop where
  idle : scan.runStart = none → present (next - 1)
  running : ∀ start, scan.runStart = some start →
    first < start ∧ present (start - 1) ∧ Run present start (next - 1)
  mem_iff : ∀ start stop, (start, stop) ∈ scan.ranges ↔
    first < start ∧ stop + 1 < next ∧ Enclosed present start stop
  sorted : scan.ranges.Pairwise fun run other => run.2 + 1 < other.1
  total : (((Finset.Ico first next).filter fun value => ¬present value).card : ℤ) =
    lengths scan.ranges + scan.pending next

section Invariant

variable {present : ℤ → Prop} [DecidablePred present] {first next : ℤ} {scan : Scan}

theorem lengths_concat (ranges : List (ℤ × ℤ)) (start stop : ℤ) :
    lengths (ranges ++ [(start, stop)]) = lengths ranges + (stop - start + 1) := by
  simp [lengths]

theorem card_absent_succ (order : first ≤ next) :
    (((Finset.Ico first (next + 1)).filter fun value => ¬present value).card : ℤ) =
      ((Finset.Ico first next).filter fun value => ¬present value).card +
        if present next then 0 else 1 := by
  have isNext : Finset.Ico first (next + 1) = insert next (Finset.Ico first next) := by
    ext value
    simp only [Finset.mem_Ico, Finset.mem_insert]
    omega
  have isNew : next ∉ (Finset.Ico first next).filter fun value => ¬present value := by
    simp
  rw [isNext, Finset.filter_insert]
  by_cases isPresent : present next
  · simp [isPresent]
  · rw [if_pos isPresent, Finset.card_insert_of_notMem isNew, if_neg isPresent]
    push_cast
    rfl

theorem scanned_first (isPresent : present first) :
    Scanned present first (first + 1) ⟨none, []⟩ where
  idle := fun _ => by simpa using isPresent
  running := fun start isStart => by cases isStart
  mem_iff := fun start stop => by
    constructor
    · intro isIn
      cases isIn
    · rintro ⟨isAfter, isBefore, run⟩
      have ordered := run.ordered
      omega
  sorted := List.Pairwise.nil
  total := by
    have isSingle : Finset.Ico first (first + 1) = {first} := by
      ext value
      simp only [Finset.mem_Ico, Finset.mem_singleton]
      omega
    rw [isSingle]
    simp [isPresent, lengths, Scan.pending]

/-- The length of the list that a run of absent integers leaves behind. -/
theorem total_present (scanned : Scanned present first next scan) (order : first ≤ next)
    (isPresent : present next) :
    (((Finset.Ico first (next + 1)).filter fun value => ¬present value).card : ℤ) =
      lengths scan.ranges + scan.pending next := by
  rw [card_absent_succ order, if_pos isPresent, scanned.total]
  omega

theorem total_absent (scanned : Scanned present first next scan) (order : first ≤ next)
    (isAbsent : ¬present next) :
    (((Finset.Ico first (next + 1)).filter fun value => ¬present value).card : ℤ) =
      lengths scan.ranges + scan.pending next + 1 := by
  rw [card_absent_succ order, if_neg isAbsent, scanned.total]

/-- A run with `next` at its end would begin in the open run, or be none. -/
theorem Scanned.not_enclosed_idle (scanned : Scanned present first next scan)
    (isIdle : scan.runStart = none) {start : ℤ} : ¬Enclosed present start (next - 1) := by
  intro run
  exact run.absent (next - 1) run.ordered (Int.le_refl _) (scanned.idle isIdle)

/-- The ranges are still all that there are if none ends just before `next`. -/
theorem Scanned.mem_iff_succ (scanned : Scanned present first next scan)
    (noneEnds : ∀ start, ¬Enclosed present start (next - 1)) (start stop : ℤ) :
    (start, stop) ∈ scan.ranges ↔
      first < start ∧ stop + 1 < next + 1 ∧ Enclosed present start stop := by
  rw [scanned.mem_iff start stop]
  constructor
  · rintro ⟨isAfter, isBefore, run⟩
    exact ⟨isAfter, by omega, run⟩
  · rintro ⟨isAfter, isBefore, run⟩
    refine ⟨isAfter, ?_, run⟩
    by_contra notBefore
    have isStop : stop = next - 1 := by omega
    exact noneEnds start (isStop ▸ run)

theorem Scanned.step_idle_present (scanned : Scanned present first next scan)
    (order : first ≤ next) (isPresent : present next) (isIdle : scan.runStart = none) :
    Scanned present first (next + 1) scan where
  idle := fun _ => by simpa using isPresent
  running := fun start isStart => by
    rw [isIdle] at isStart
    cases isStart
  mem_iff := scanned.mem_iff_succ fun _ => scanned.not_enclosed_idle isIdle
  sorted := scanned.sorted
  total := by
    rw [total_present scanned order isPresent]
    simp [Scan.pending, isIdle]

theorem Scanned.step_open_present (scanned : Scanned present first next scan)
    (order : first ≤ next) (isPresent : present next) {begin : ℤ}
    (isOpen : scan.runStart = some begin) :
    Scanned present first (next + 1) ⟨none, scan.ranges ++ [(begin, next - 1)]⟩ := by
  obtain ⟨isLater, before, run⟩ := scanned.running begin isOpen
  have closed : Enclosed present begin (next - 1) := ⟨run, before, by simpa using isPresent⟩
  have ordered := run.ordered
  refine ⟨?_, ?_, ?_, ?_, ?_⟩
  · intro _
    simpa using isPresent
  · intro start isStart
    cases isStart
  · intro start stop
    rw [List.mem_append, List.mem_singleton, scanned.mem_iff start stop, Prod.mk.injEq]
    constructor
    · rintro (⟨isAfter, isBefore, isRun⟩ | ⟨rfl, rfl⟩)
      · exact ⟨isAfter, by omega, isRun⟩
      · exact ⟨isLater, by omega, closed⟩
    · rintro ⟨isAfter, isBefore, isRun⟩
      by_cases isEnd : stop = next - 1
      · right
        subst isEnd
        -- both runs end at `next - 1`, so neither can begin inside the other
        refine ⟨?_, rfl⟩
        by_contra notSame
        rcases Int.lt_or_gt_of_ne notSame with isLess | isMore
        · exact isRun.absent (begin - 1) (by omega) (by omega) before
        · exact run.absent (start - 1) (by omega) (by have := isRun.ordered; omega)
            isRun.before
      · exact Or.inl ⟨isAfter, by omega, isRun⟩
  · rw [List.pairwise_append]
    refine ⟨scanned.sorted, List.pairwise_singleton _ _, ?_⟩
    intro other isIn last isLast
    rw [List.mem_singleton.mp isLast]
    obtain ⟨_, isBefore, isRun⟩ := (scanned.mem_iff other.1 other.2).mp isIn
    by_contra notBefore
    exact run.absent (other.2 + 1) (by omega) (by omega) isRun.behind
  · rw [total_present scanned order isPresent, lengths_concat]
    simp only [Scan.pending, isOpen]
    omega

theorem Scanned.step_idle_absent (scanned : Scanned present first next scan)
    (order : first < next) (isAbsent : ¬present next) (isIdle : scan.runStart = none) :
    Scanned present first (next + 1) ⟨some next, scan.ranges⟩ where
  idle := fun isNone => by cases isNone
  running := fun start isStart => by
    cases isStart
    refine ⟨order, scanned.idle isIdle, by omega, ?_⟩
    intro value isFrom isTo
    have isNext : value = next := by omega
    exact isNext ▸ isAbsent
  mem_iff := scanned.mem_iff_succ fun _ run => isAbsent (by simpa using run.behind)
  sorted := scanned.sorted
  total := by
    rw [total_absent scanned order.le isAbsent]
    simp [Scan.pending, isIdle]

theorem Scanned.step_open_absent (scanned : Scanned present first next scan)
    (order : first ≤ next) (isAbsent : ¬present next) {begin : ℤ}
    (isOpen : scan.runStart = some begin) : Scanned present first (next + 1) scan where
  idle := fun isNone => by
    rw [isOpen] at isNone
    cases isNone
  running := fun start isStart => by
    obtain ⟨isAfter, before, run⟩ := scanned.running start isStart
    have ordered := run.ordered
    refine ⟨isAfter, before, by omega, ?_⟩
    intro value isFrom isTo
    by_cases isNext : value = next
    · exact isNext ▸ isAbsent
    · exact run.absent value isFrom (by omega)
  mem_iff := scanned.mem_iff_succ fun _ run => isAbsent (by simpa using run.behind)
  sorted := scanned.sorted
  total := by
    rw [total_absent scanned order isAbsent]
    simp only [Scan.pending, isOpen]
    omega

/-- One more integer keeps the invariant. -/
theorem Scanned.step (scanned : Scanned present first next scan) (order : first < next) :
    Scanned present first (next + 1) (step present scan next) := by
  unfold IntegerRuns.step
  by_cases isPresent : present next
  · rw [if_pos isPresent]
    cases isOpen : scan.runStart with
    | none => exact scanned.step_idle_present order.le isPresent isOpen
    | some begin => exact scanned.step_open_present order.le isPresent isOpen
  · rw [if_neg isPresent]
    cases isOpen : scan.runStart with
    | none => exact scanned.step_idle_absent order isPresent isOpen
    | some begin => exact scanned.step_open_absent order.le isPresent isOpen

theorem walk_succ (count : ℕ) : walk present first (count + 1) =
    IntegerRuns.step present (walk present first count) (first + (count : ℤ)) := by
  simp [walk, integersFrom, List.range_succ, List.foldl_append]

theorem scanned_walk (isPresent : present first) (count : ℕ) :
    Scanned present first (first + (count : ℤ) + 1) (walk present first (count + 1)) := by
  induction count with
  | zero =>
      have isFirst : walk present first 1 = ⟨none, []⟩ := by
        simp [walk, integersFrom, IntegerRuns.step, isPresent]
      rw [isFirst, Nat.cast_zero, Int.add_zero]
      exact scanned_first isPresent
  | succ count inductionHypothesis =>
      rw [walk_succ]
      have isNext : first + ((count + 1 : ℕ) : ℤ) = first + (count : ℤ) + 1 := by
        push_cast
        omega
      rw [isNext]
      exact inductionHypothesis.step (by omega)

end Invariant

/-! ## The whole walk -/

section Whole

variable {present : ℤ → Prop} [DecidablePred present] {first last : ℤ}

/-- A walk that begins and ends at present integers has no run left open. -/
theorem runStart_walk {count : ℕ} (isFirst : present first)
    (isLast : present (first + (count : ℤ))) :
    (walk present first (count + 1)).runStart = none := by
  cases isOpen : (walk present first (count + 1)).runStart with
  | none => rfl
  | some begin =>
      exfalso
      obtain ⟨_, _, run⟩ := (scanned_walk isFirst count).running begin isOpen
      have ordered := run.ordered
      exact run.absent (first + (count : ℤ)) (by omega) (by omega) isLast

end Whole

end DbBuddy.Library.IntegerRuns
