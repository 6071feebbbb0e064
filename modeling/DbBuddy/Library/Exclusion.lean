import Mathlib.Logic.Function.Basic

/-!
# Calls that exclude each other

Several calls go through phases, some of which count as active.  Where at most one
call is active, the phases of all others say nothing, and a step of the active call
keeps it so.
-/

namespace DbBuddy.Library

universe u v

variable {Call : Type u} {Phase : Type v}

/-- At most one call is in an active phase. -/
def Alone (active : Phase → Bool) (phase : Call → Phase) : Prop :=
  ∀ call other, active (phase call) = true → active (phase other) = true →
    call = other

/-- No call but this one is active. -/
def OnlyActive (active : Phase → Bool) (phase : Call → Phase) (call : Call) : Prop :=
  ∀ other, other ≠ call → active (phase other) = false

variable {active : Phase → Bool} {phase : Call → Phase} {call other : Call}
variable {next reached : Phase}

theorem Alone.only (alone : Alone active phase) (isActive : active (phase call) = true) :
    OnlyActive active phase call := by
  intro other different
  by_contra isOther
  exact different (alone other call (by simpa using isOther) isActive)

theorem onlyActive_of_idle (idle : ∀ other, active (phase other) = false)
    (call : Call) : OnlyActive active phase call :=
  fun other _ => idle other

theorem alone_of_idle (idle : ∀ other, active (phase other) = false) :
    Alone active phase := by
  intro call other isActive
  rw [idle call] at isActive
  cases isActive

/-- A phase that only active calls reach is the one of the active call. -/
theorem OnlyActive.eq (only : OnlyActive active phase call)
    (isActive : active (phase other) = true) : other = call := by
  by_contra different
  rw [only other different] at isActive
  cases isActive

section Update

variable [DecidableEq Call]

/-- Who is in a phase after a step: the call that has moved there, or another one
that was there before. -/
theorem update_eq_iff :
    Function.update phase call next other = reached ↔
      (other = call ∧ next = reached) ∨ (other ≠ call ∧ phase other = reached) := by
  by_cases same : other = call
  · subst same
    simp
  · simp [same]

/-- A step to an idle phase makes nobody active. -/
theorem Alone.update_idle (alone : Alone active phase) (idle : active next = false)
    (call : Call) : Alone active (Function.update phase call next) := by
  have wasActive : ∀ other, active (Function.update phase call next other) = true →
      active (phase other) = true := by
    intro other isActive
    by_cases same : other = call
    · rw [same, Function.update_self, idle] at isActive
      cases isActive
    · rwa [Function.update_of_ne same] at isActive
  intro one other oneIs otherIs
  exact alone one other (wasActive one oneIs) (wasActive other otherIs)

/-- After a step of the active call, no other one is active. -/
theorem OnlyActive.update (only : OnlyActive active phase call) (next : Phase) :
    OnlyActive active (Function.update phase call next) call := by
  intro other different
  rw [Function.update_of_ne different]
  exact only other different

theorem OnlyActive.alone_update (only : OnlyActive active phase call)
    (next : Phase) : Alone active (Function.update phase call next) := by
  intro one other oneIs otherIs
  exact ((only.update next).eq oneIs).trans ((only.update next).eq otherIs).symm

/-- An active phase that is found after the step is the one the call has moved
to. -/
theorem OnlyActive.eq_of_update (only : OnlyActive active phase call)
    (isActive : active reached = true)
    (found : Function.update phase call next other = reached) : next = reached := by
  have same : other = call :=
    (only.update next).eq (by rw [found]; exact isActive)
  rw [same, Function.update_self] at found
  exact found

end Update

end DbBuddy.Library
