import Mathlib.Data.Option.Basic
import Mathlib.Logic.Function.Basic

/-!
# Labelled transition systems and their runs

A system is given by its initial states and a partial step function: the label
carries every choice the environment makes, so `step` is a function and a
concrete run can be evaluated.  `Reaches` relates the ends of a run whose steps
all satisfy a guard; an unrestricted run has the trivial guard.
-/

namespace DbBuddy.Library

universe u v

/-- Initial states and a partial, label-driven step function. -/
structure TransitionSystem (State : Type u) (Label : Type v) where
  initial : State → Prop
  step : State → Label → Option State

namespace TransitionSystem

variable {State : Type u} {Label : Type v}

/-- `Reaches system guard source target`: some run from `source` ends in
`target`, and every step of it satisfied `guard` in the state it was taken. -/
inductive Reaches (system : TransitionSystem State Label)
    (guard : State → Label → Prop) (source : State) : State → Prop
  | refl : Reaches system guard source source
  | tail {middle target : State} (label : Label) :
      Reaches system guard source middle →
      guard middle label →
      system.step middle label = some target →
      Reaches system guard source target

/-- Some run from an initial state, all of whose steps satisfy `guard`. -/
def ReachableUnder (system : TransitionSystem State Label)
    (guard : State → Label → Prop) (target : State) : Prop :=
  ∃ source, system.initial source ∧ system.Reaches guard source target

/-- Reachable by any run at all. -/
def Reachable (system : TransitionSystem State Label) (target : State) : Prop :=
  system.ReachableUnder (fun _ _ => True) target

variable {system : TransitionSystem State Label}
variable {guard : State → Label → Prop}

namespace Reaches

theorem single {source target : State} (label : Label)
    (allowed : guard source label)
    (stepped : system.step source label = some target) :
    system.Reaches guard source target :=
  Reaches.tail label Reaches.refl allowed stepped

theorem trans {source middle target : State}
    (front : system.Reaches guard source middle)
    (back : system.Reaches guard middle target) :
    system.Reaches guard source target := by
  induction back with
  | refl =>
      exact front
  | tail label _ allowed stepped inductionHypothesis =>
      exact Reaches.tail label inductionHypothesis allowed stepped

theorem weaken {strong : State → Label → Prop} {source target : State}
    (weaker : ∀ state label, strong state label → guard state label)
    (run : system.Reaches strong source target) :
    system.Reaches guard source target := by
  induction run with
  | refl =>
      exact Reaches.refl
  | tail label _ allowed stepped inductionHypothesis =>
      exact Reaches.tail label inductionHypothesis (weaker _ _ allowed) stepped

/-- A property kept by every guarded step is kept by every guarded run. -/
theorem preserves (property : State → Prop) {source target : State}
    (kept : ∀ before label after,
      property before → guard before label →
        system.step before label = some after → property after)
    (holds : property source)
    (run : system.Reaches guard source target) :
    property target := by
  induction run with
  | refl =>
      exact holds
  | tail label _ allowed stepped inductionHypothesis =>
      exact kept _ label _ inductionHypothesis allowed stepped

end Reaches

/-- The invariant rule for guarded runs. -/
theorem ReachableUnder.invariant (property : State → Prop) {target : State}
    (starts : ∀ state, system.initial state → property state)
    (kept : ∀ before label after,
      property before → guard before label →
        system.step before label = some after → property after)
    (reachable : system.ReachableUnder guard target) :
    property target := by
  obtain ⟨source, isInitial, run⟩ := reachable
  exact run.preserves property kept (starts source isInitial)

/-- The invariant rule for unrestricted runs. -/
theorem Reachable.invariant (property : State → Prop) {target : State}
    (starts : ∀ state, system.initial state → property state)
    (kept : ∀ before label after,
      property before → system.step before label = some after → property after)
    (reachable : system.Reachable target) :
    property target :=
  ReachableUnder.invariant property starts
    (fun before label after holds _ stepped =>
      kept before label after holds stepped)
    reachable

/-- Execute a list of labels, failing as soon as one is not enabled. -/
def exec (system : TransitionSystem State Label) :
    State → List Label → Option State
  | state, [] => some state
  | state, label :: rest =>
      match system.step state label with
      | some next => system.exec next rest
      | none => none

/-- What can be executed ends somewhere, whatever the state for the other case. -/
theorem exec_eq_getD {labels : List Label} {source other : State}
    (runs : (system.exec source labels).isSome = true) :
    system.exec source labels = some ((system.exec source labels).getD other) := by
  obtain ⟨target, executed⟩ := Option.isSome_iff_exists.mp runs
  rw [executed]
  rfl

/-- Labels the guard allows in every state run to a guarded run. -/
theorem reaches_of_exec_allowed (labels : List Label) {source target : State}
    (allowed : ∀ label ∈ labels, ∀ state, guard state label)
    (executed : system.exec source labels = some target) :
    system.Reaches guard source target := by
  induction labels generalizing source with
  | nil =>
      cases executed
      exact Reaches.refl
  | cons label rest inductionHypothesis =>
      unfold exec at executed
      split at executed
      · rename_i next stepped
        have first := Reaches.single label
          (allowed label List.mem_cons_self source) stepped
        exact first.trans <| inductionHypothesis
          (fun later isLater => allowed later (List.mem_cons_of_mem _ isLater))
          executed
      · cases executed

theorem reaches_of_exec (labels : List Label) {source target : State}
    (executed : system.exec source labels = some target) :
    system.Reaches (fun _ _ => True) source target :=
  reaches_of_exec_allowed labels (fun _ _ _ => trivial) executed

/-- Execute a list of labels, each of which a test has to admit first. -/
def execIf (system : TransitionSystem State Label) (admits : State → Label → Bool) :
    State → List Label → Option State
  | state, [] => some state
  | state, label :: rest =>
      if admits state label then
        match system.step state label with
        | some next => system.execIf admits next rest
        | none => none
      else none

/-- A test that implies the guard runs to a guarded run. -/
theorem reaches_of_execIf {admits : State → Label → Bool}
    (sound : ∀ state label, admits state label = true → guard state label)
    (labels : List Label) {source other : State}
    (tested : (system.execIf admits source labels).isSome = true) :
    system.Reaches guard source ((system.exec source labels).getD other) := by
  induction labels generalizing source with
  | nil =>
      exact Reaches.refl
  | cons label rest inductionHypothesis =>
      rw [execIf] at tested
      split at tested
      · rename_i admitted
        rw [exec]
        split at tested
        · rename_i next stepped
          have first := Reaches.single label (sound source label admitted) stepped
          exact first.trans (inductionHypothesis tested)
        · cases tested
      · cases tested

theorem reachable_of_exec (labels : List Label) {source target : State}
    (isInitial : system.initial source)
    (executed : system.exec source labels = some target) :
    system.Reachable target :=
  ⟨source, isInitial, reaches_of_exec labels executed⟩

end TransitionSystem

end DbBuddy.Library
