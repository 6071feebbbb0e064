import Mathlib.Data.List.Basic

/-!
# Runs that differ in what is not seen

Two machines perform events, some of which an observer does not see.  When an unseen
event changes nothing that is observed, and a seen one keeps states alike that were
alike, runs with the same seen events end in states that are alike.
-/

namespace DbBuddy.Library

universe u v

variable {State : Type u} {Event : Type v}

/-- The conditions of the unwinding argument, for two machines. -/
structure Unwinding (step step' : State → Event → State) (seen : Event → Bool)
    (Alike : State → State → Prop) : Prop where
  unseen : ∀ state state' event, seen event = false → Alike state state' →
    Alike (step state event) state'
  unseen' : ∀ state state' event, seen event = false → Alike state state' →
    Alike state (step' state' event)
  both : ∀ state state' event, seen event = true → Alike state state' →
    Alike (step state event) (step' state' event)

namespace Unwinding

variable {step step' : State → Event → State} {seen : Event → Bool}
variable {Alike : State → State → Prop}

theorem skip (unwinding : Unwinding step step' seen Alike) {state state' : State}
    {events : List Event} (hidden : ∀ event ∈ events, ¬ seen event = true)
    (alike : Alike state state') : Alike state (events.foldl step' state') := by
  induction events generalizing state' with
  | nil => exact alike
  | cons event rest inductionHypothesis =>
      have isHidden : seen event = false := by
        simpa using hidden event List.mem_cons_self
      have onward := unwinding.unseen' state state' event isHidden alike
      refine inductionHypothesis ?_ onward
      intro later isLater
      exact hidden later (List.mem_cons_of_mem _ isLater)

/-- Runs with the same seen events end alike. -/
theorem run (unwinding : Unwinding step step' seen Alike) {state state' : State}
    {events events' : List Event}
    (same : events.filter seen = events'.filter seen) (alike : Alike state state') :
    Alike (events.foldl step state) (events'.foldl step' state') := by
  induction events generalizing state state' events' with
  | nil =>
      have hidden := List.filter_eq_nil_iff.mp same.symm
      exact unwinding.skip hidden alike
  | cons event rest inductionHypothesis =>
      by_cases isSeen : seen event = true
      · rw [List.filter_cons_of_pos isSeen] at same
        obtain ⟨before, after, rfl, hidden, _, sameRest⟩ :=
          List.filter_eq_cons_iff.mp same.symm
        rw [List.foldl_append, List.foldl_cons, List.foldl_cons]
        have skipped := unwinding.skip hidden alike
        exact inductionHypothesis sameRest.symm
          (unwinding.both state _ event isSeen skipped)
      · rw [List.filter_cons_of_neg isSeen] at same
        have isHidden : seen event = false := by simpa using isSeen
        exact inductionHypothesis same (unwinding.unseen state state' event isHidden alike)

end Unwinding

end DbBuddy.Library
