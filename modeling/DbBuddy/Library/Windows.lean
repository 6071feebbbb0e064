import Mathlib.Algebra.Order.Group.Defs
import Mathlib.Data.List.Basic

/-!
# Counting in sliding windows

How many of a list of instants come after a bound, and how many a window of some
length holds.  The instants are in any linear order that lengths can be taken off.
-/

namespace DbBuddy.Library.Windows

universe u

variable {Time : Type u} [LinearOrder Time]

/-- How many instants come after a bound. -/
def countAfter (bound : Time) (instants : List Time) : ℕ :=
  instants.countP fun instant => decide (bound < instant)

section Bounds

variable {bound later instant : Time} {instants others : List Time}

@[simp]
theorem countAfter_nil : countAfter bound [] = 0 := rfl

theorem countAfter_cons : countAfter bound (instant :: instants) =
    countAfter bound instants + if bound < instant then 1 else 0 := by
  simp [countAfter, List.countP_cons]

theorem countAfter_append : countAfter bound (instants ++ others) =
    countAfter bound instants + countAfter bound others :=
  List.countP_append

theorem countAfter_le_length : countAfter bound instants ≤ instants.length :=
  List.countP_le_length

theorem countAfter_eq_length_filter : countAfter bound instants =
    (instants.filter fun instant => decide (bound < instant)).length :=
  List.countP_eq_length_filter

theorem countAfter_anti (order : bound ≤ later) :
    countAfter later instants ≤ countAfter bound instants := by
  apply List.countP_mono_left
  intro instant _ isAfter
  have isLater := of_decide_eq_true isAfter
  exact decide_eq_true (lt_of_le_of_lt order isLater)

theorem countAfter_eq_zero (early : ∀ instant ∈ instants, instant ≤ bound) :
    countAfter bound instants = 0 := by
  apply List.countP_eq_zero.mpr
  intro instant isIn isAfter
  have isLater := of_decide_eq_true isAfter
  exact absurd isLater (not_lt_of_ge (early instant isIn))

/-- Of a list that has the latest instants in front, the front has as many as fit. -/
theorem countAfter_take (sorted : instants.Pairwise (· ≥ ·)) (count : ℕ) :
    countAfter bound (instants.take count) = min count (countAfter bound instants) := by
  induction sorted generalizing count with
  | nil => simp
  | @cons first rest latest _ inductionHypothesis =>
      cases count with
      | zero => simp
      | succ count =>
          rw [List.take_succ_cons, countAfter_cons, countAfter_cons,
            inductionHypothesis count]
          by_cases isAfter : bound < first
          · rw [if_pos isAfter]
            omega
          · have early : ∀ instant ∈ rest, instant ≤ bound := fun instant isIn =>
              le_trans (latest instant isIn) (not_lt.mp isAfter)
            rw [if_neg isAfter, countAfter_eq_zero early]
            omega

/-- Of a list that has the latest instants in front, an instant comes after a bound
when as many do as stand up to it. -/
theorem lt_iff_countAfter (sorted : instants.Pairwise (· ≥ ·)) {count : ℕ}
    (isThere : instants[count]? = some instant) :
    bound < instant ↔ count + 1 ≤ countAfter bound instants := by
  induction sorted generalizing count with
  | nil => cases isThere
  | @cons first rest latest _ inductionHypothesis =>
      rw [countAfter_cons]
      by_cases isAfter : bound < first
      · rw [if_pos isAfter]
        cases count with
        | zero =>
            cases isThere
            simp [isAfter]
        | succ count =>
            rw [inductionHypothesis isThere]
            omega
      · have early : ∀ other ∈ rest, other ≤ bound := fun other isIn =>
          le_trans (latest other isIn) (not_lt.mp isAfter)
        rw [if_neg isAfter, countAfter_eq_zero early]
        have isEarly : instant ≤ bound := by
          rcases List.mem_cons.mp (List.mem_of_getElem? isThere) with rfl | isLater
          · exact not_lt.mp isAfter
          · exact early instant isLater
        constructor
        · intro isAfter'
          exact absurd isAfter' (not_lt.mpr isEarly)
        · intro absurd
          omega

theorem countAfter_reverse : countAfter bound instants.reverse =
    countAfter bound instants :=
  List.countP_reverse

/-- Dropping early instants from the front of a list in order leaves the others. -/
theorem dropWhile_eq_filter (sorted : instants.Pairwise (· ≤ ·)) :
    (instants.dropWhile fun instant => decide (instant ≤ bound)) =
      instants.filter fun instant => decide (bound < instant) := by
  induction sorted with
  | nil => rfl
  | @cons first rest later _ inductionHypothesis =>
      by_cases isEarly : first ≤ bound
      · have stays : ¬ bound < first := not_lt.mpr isEarly
        simp only [List.dropWhile_cons, List.filter_cons, decide_eq_true_eq, isEarly,
          stays, if_true, if_false]
        exact inductionHypothesis
      · have isAfter : bound < first := not_le.mp isEarly
        have all : (rest.filter fun instant => decide (bound < instant)) = rest := by
          refine List.filter_eq_self.mpr ?_
          intro instant isIn
          exact decide_eq_true (lt_of_lt_of_le isAfter (later instant isIn))
        simp only [List.dropWhile_cons, List.filter_cons, decide_eq_true_eq, isEarly,
          isAfter, if_true, if_false, all]

end Bounds

variable [AddCommGroup Time]

/-- How many instants a window holds that ends at `last`; it does not hold the
instant it begins at. -/
def countWithin (length last : Time) (instants : List Time) : ℕ :=
  instants.countP fun instant => decide (last - length < instant ∧ instant ≤ last)

variable {length last instant : Time} {instants : List Time}

theorem countWithin_le :
    countWithin length last instants ≤ countAfter (last - length) instants := by
  apply List.countP_mono_left
  intro instant _ isWithin
  have bounds := of_decide_eq_true isWithin
  exact decide_eq_true bounds.1

/-- A window that ends before an instant does not hold it. -/
theorem countWithin_append_of_lt (early : last < instant) :
    countWithin length last (instants ++ [instant]) =
      countWithin length last instants := by
  unfold countWithin
  rw [List.countP_append, List.countP_singleton]
  have outside : decide (last - length < instant ∧ instant ≤ last) = false := by
    simp only [decide_eq_false_iff_not, not_and, not_le]
    intro _
    exact early
  rw [outside]
  simp

/-- If every window that ends at a new instant or later has room, and every other one
had it before, all have it. -/
theorem countWithin_append_le [IsOrderedAddMonoid Time] {most : ℕ}
    (before : countWithin length last instants ≤ most)
    (room : countAfter (instant - length) instants < most) :
    countWithin length last (instants ++ [instant]) ≤ most := by
  rcases lt_or_ge last instant with early | reached
  · rw [countWithin_append_of_lt early]
    exact before
  · have later : instant - length ≤ last - length := sub_le_sub_right reached length
    have held : countWithin length last (instants ++ [instant]) ≤
        countAfter (instant - length) (instants ++ [instant]) :=
      le_trans countWithin_le (countAfter_anti later)
    have one : countAfter (instant - length) [instant] ≤ 1 := countAfter_le_length
    rw [countAfter_append] at held
    omega

end DbBuddy.Library.Windows
