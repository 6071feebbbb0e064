import DbBuddy.Library.TransitionSystem
import Mathlib.Algebra.Order.Ring.Nat
import Mathlib.Data.Int.Order.Basic

/-!
# The circuit breaker of the provider chain

`generate_with_chain` asks the breaker of each provider in turn, calls the provider
without holding the lock, and reports the outcome in a later lock section.  Between
the two any number of other calls run.  An exception that the chain does not catch
ends a call without a report.
-/

namespace DbBuddy.Providers

open DbBuddy.Library

universe u

/-- `threshold`, `base_cooldown` and `max_cooldown`; clock readings and durations are
in nanoseconds. -/
structure BreakerConfig where
  threshold : Int
  baseCooldown : Int
  maxCooldown : Int
  deriving DecidableEq, Repr

inductive BreakerState where
  | closed
  | opened
  | halfOpen
  deriving DecidableEq, Repr

/-- What `_state` holds for a provider. -/
structure Entry where
  state : BreakerState
  failures : ℕ
  opens : ℕ
  openUntil : Int
  deriving DecidableEq, Repr

namespace Entry

/-- The entry of a provider that is new, or has answered. -/
def fresh : Entry := ⟨.closed, 0, 0, 0⟩

/-- `allow`: whether a request may go, whether it is a probe, and the entry. -/
def allow (entry : Entry) (now : Int) : Bool × Bool × Entry :=
  match entry.state with
  | .closed => (true, false, entry)
  | .opened =>
      if entry.openUntil ≤ now then (true, true, { entry with state := .halfOpen })
      else (false, false, entry)
  | .halfOpen => (false, false, entry)

/-- `base_cooldown * (2 ** (opens - 1))`, bounded by the maximum: a power of two
from `2 ** 1024` on does not convert to the float it is multiplied with. -/
def cooldown (config : BreakerConfig) (opens : ℕ) : Option Int :=
  if opens - 1 < 1024 then
    some (min (config.baseCooldown * 2 ^ (opens - 1)) config.maxCooldown)
  else none

/-- `_trip`: the entry, and whether it returns. -/
def trip (config : BreakerConfig) (entry : Entry) (now : Int) : Entry × Bool :=
  let opens := entry.opens + 1
  match cooldown config opens with
  | some wait => (⟨.opened, 0, opens, now + wait⟩, true)
  | none => ({ entry with opens := opens }, false)

/-- Whether a failure trips the breaker. -/
def trips (config : BreakerConfig) (entry : Entry) (transient : Bool) : Bool :=
  decide (entry.state = .halfOpen) ||
    (transient && decide (config.threshold ≤ entry.failures + 1))

/-- `record_failure`: the entry, and whether it returns. -/
def recordFailure (config : BreakerConfig) (entry : Entry) (transient : Bool)
    (now : Int) : Entry × Bool :=
  if entry.state = .halfOpen then entry.trip config now
  else if transient then
    let counted := { entry with failures := entry.failures + 1 }
    if config.threshold ≤ counted.failures then counted.trip config now
    else (counted, true)
  else (entry, true)

end Entry

/-! ## Calls -/

/-- How a provider call ends that the chain handles: a value, a transient error, or
another one. -/
inductive Outcome where
  | value
  | transient
  | recoverable
  deriving DecidableEq, Repr

/-- Where one call of `generate_with_chain` stands; `probe` says whether the request
was granted by a breaker that had been open. -/
inductive Phase where
  | trying (chain : List String)
  | granted (provider : String) (probe : Bool) (rest : List String)
  | answered (provider : String) (probe : Bool) (outcome : Outcome)
      (rest : List String)
  | returned (provider : Option String)
  | raised
  deriving DecidableEq, Repr

/-- A probe of the provider that has been granted and not been reported. -/
def Phase.probes (provider : String) : Phase → Bool
  | .granted other probe _ => decide (other = provider) && probe
  | .answered other probe _ _ => decide (other = provider) && probe
  | _ => false

structure State (Call : Type u) where
  now : Int
  breaker : String → Entry
  phase : Call → Phase

inductive Label (Call : Type u) where
  | tick (elapsed : ℕ)
  | ask (call : Call)
  | answer (call : Call) (outcome : Outcome)
  | escape (call : Call)
  | report (call : Call)
  | reset

section Steps

variable {Call : Type u} [DecidableEq Call]

def State.setPhase (state : State Call) (call : Call) (next : Phase) : State Call :=
  { state with phase := Function.update state.phase call next }

def State.setEntry (state : State Call) (provider : String) (entry : Entry) :
    State Call :=
  { state with breaker := Function.update state.breaker provider entry }

/-- One atomic step.  `escape` is an exception that is none of those the chain
catches. -/
def step (config : BreakerConfig) (state : State Call) :
    Label Call → Option (State Call)
  | .tick elapsed => some { state with now := state.now + elapsed }
  | .ask call =>
      match state.phase call with
      | .trying [] => some (state.setPhase call (.returned none))
      | .trying (provider :: rest) =>
          let (allowed, probe, entry) := (state.breaker provider).allow state.now
          if allowed then
            some ((state.setEntry provider entry).setPhase call
              (.granted provider probe rest))
          else some (state.setPhase call (.trying rest))
      | _ => none
  | .answer call outcome =>
      match state.phase call with
      | .granted provider probe rest =>
          some (state.setPhase call (.answered provider probe outcome rest))
      | _ => none
  | .escape call =>
      match state.phase call with
      | .granted _ _ _ => some (state.setPhase call .raised)
      | _ => none
  | .report call =>
      match state.phase call with
      | .answered provider _ .value _ =>
          some ((state.setEntry provider Entry.fresh).setPhase call
            (.returned (some provider)))
      | .answered provider _ outcome rest =>
          let (entry, returns) := (state.breaker provider).recordFailure config
            (decide (outcome = .transient)) state.now
          some ((state.setEntry provider entry).setPhase call
            (if returns then .trying rest else .raised))
      | _ => none
  | .reset => some { state with breaker := fun _ => Entry.fresh }

/-- All breakers are closed, and no call has asked any. -/
def Initial (chain : Call → List String) (state : State Call) : Prop :=
  (∀ provider, state.breaker provider = Entry.fresh) ∧
    ∀ call, state.phase call = .trying (chain call)

def system (config : BreakerConfig) (chain : Call → List String) :
    TransitionSystem (State Call) (Label Call) where
  initial := Initial chain
  step := step config

end Steps

/-! ## What a step can do -/

section Entries

variable {config : BreakerConfig} {entry : Entry} {now : Int}

/-- A granted probe leaves its breaker half open, and no other request does. -/
theorem allow_halfOpen (opened : (entry.allow now).2.2.state = .halfOpen) :
    entry.state = .halfOpen ∨
      (entry.allow now).1 = true ∧ (entry.allow now).2.1 = true := by
  cases isState : entry.state with
  | closed => simp [Entry.allow, isState] at opened
  | opened =>
      simp only [Entry.allow, isState] at opened ⊢
      split
      · exact Or.inr ⟨rfl, rfl⟩
      · rename_i early
        simp [early, isState] at opened
  | halfOpen => exact Or.inl rfl

theorem allow_opened (isOpen : entry.state = .opened)
    (isOver : entry.openUntil ≤ now) :
    entry.allow now = (true, true, { entry with state := .halfOpen }) := by
  simp [Entry.allow, isOpen, isOver]

/-- What a trip records while the backoff can be computed. -/
theorem trip_of_lt (few : entry.opens < 1024) :
    entry.trip config now =
      (⟨.opened, 0, entry.opens + 1,
        now + min (config.baseCooldown * 2 ^ entry.opens) config.maxCooldown⟩,
        true) := by
  have isSmall : entry.opens + 1 - 1 < 1024 := by omega
  simp [Entry.trip, Entry.cooldown, few]

theorem recordFailure_trips {transient : Bool}
    (trips : entry.trips config transient = true) :
    entry.recordFailure config transient now =
      Entry.trip config
        (if entry.state = .halfOpen then entry
          else { entry with failures := entry.failures + 1 }) now := by
  unfold Entry.trips at trips
  unfold Entry.recordFailure
  by_cases isHalf : entry.state = .halfOpen
  · simp [isHalf]
  · have reaches : transient = true ∧
        config.threshold ≤ (entry.failures : Int) + 1 := by
      simpa [isHalf] using trips
    simp [isHalf, reaches.1, reaches.2]

/-- A failure that does not trip the breaker is counted, or not even that. -/
theorem recordFailure_counts {transient : Bool}
    (stays : entry.trips config transient = false) :
    (entry.recordFailure config transient now).2 = true ∧
      (entry.recordFailure config transient now).1.state = entry.state ∧
      entry.state ≠ .halfOpen := by
  unfold Entry.trips at stays
  simp only [Bool.or_eq_false_iff, decide_eq_false_iff_not] at stays
  unfold Entry.recordFailure
  rw [if_neg stays.1]
  cases transient with
  | false => exact ⟨rfl, rfl, stays.1⟩
  | true =>
      have below : ¬ config.threshold ≤ (entry.failures : Int) + 1 := by
        simpa using stays.2
      simp [below, stays.1]

/-- No report leaves a breaker half open, if it can be recorded. -/
theorem recordFailure_not_halfOpen {transient : Bool}
    (few : entry.trips config transient = true → entry.opens < 1024) :
    (entry.recordFailure config transient now).2 = true ∧
      (entry.recordFailure config transient now).1.state ≠ .halfOpen := by
  cases trips : entry.trips config transient with
  | false =>
      obtain ⟨returns, same, notHalf⟩ := recordFailure_counts trips
      exact ⟨returns, by rw [same]; exact notHalf⟩
  | true =>
      have small := few trips
      rw [recordFailure_trips trips]
      have sameOpens : (if entry.state = .halfOpen then entry
          else { entry with failures := entry.failures + 1 }).opens =
            entry.opens := by
        split
        · rfl
        · rfl
      rw [trip_of_lt (by rw [sameOpens]; exact small)]
      exact ⟨rfl, by simp⟩

end Entries

section Inversion

variable {Call : Type u} [DecidableEq Call]
variable {config : BreakerConfig} {state next : State Call} {call : Call}

@[simp]
theorem State.setPhase_self (phase : Phase) :
    (state.setPhase call phase).phase call = phase := by
  simp [State.setPhase]

theorem State.setPhase_of_ne {other : Call} (phase : Phase)
    (different : other ≠ call) :
    (state.setPhase call phase).phase other = state.phase other := by
  simp [State.setPhase, different]

@[simp]
theorem State.setPhase_breaker (phase : Phase) :
    (state.setPhase call phase).breaker = state.breaker := rfl

omit [DecidableEq Call] in
@[simp]
theorem State.setEntry_self (provider : String) (entry : Entry) :
    (state.setEntry provider entry).breaker provider = entry := by
  simp [State.setEntry]

omit [DecidableEq Call] in
theorem State.setEntry_of_ne {provider other : String} (entry : Entry)
    (different : other ≠ provider) :
    (state.setEntry provider entry).breaker other = state.breaker other := by
  simp [State.setEntry, different]

omit [DecidableEq Call] in
@[simp]
theorem State.setEntry_phase (provider : String) (entry : Entry) :
    (state.setEntry provider entry).phase = state.phase := rfl

/-- An asking call comes to the end of its chain, is granted a request, or is
passed on. -/
theorem step_ask (stepped : step config state (.ask call) = some next) :
    (state.phase call = .trying [] ∧
        next = state.setPhase call (.returned none)) ∨
      ∃ provider rest, state.phase call = .trying (provider :: rest) ∧
        (((state.breaker provider).allow state.now).1 = true ∧
            next = (state.setEntry provider
                ((state.breaker provider).allow state.now).2.2).setPhase call
              (.granted provider ((state.breaker provider).allow state.now).2.1
                rest) ∨
          ((state.breaker provider).allow state.now).1 = false ∧
            next = state.setPhase call (.trying rest)) := by
  simp only [step] at stepped
  split at stepped
  · rename_i isDone
    cases stepped
    exact Or.inl ⟨isDone, rfl⟩
  · rename_i provider rest isTrying
    refine Or.inr ⟨provider, rest, isTrying, ?_⟩
    split at stepped
    · rename_i allowed
      cases stepped
      exact Or.inl ⟨allowed, rfl⟩
    · rename_i refused
      cases stepped
      exact Or.inr ⟨by simpa using refused, rfl⟩
  · cases stepped

theorem step_answer {outcome : Outcome}
    (stepped : step config state (.answer call outcome) = some next) :
    ∃ provider probe rest, state.phase call = .granted provider probe rest ∧
      next = state.setPhase call (.answered provider probe outcome rest) := by
  simp only [step] at stepped
  split at stepped
  · rename_i provider probe rest isGranted
    cases stepped
    exact ⟨provider, probe, rest, isGranted, rfl⟩
  · cases stepped

theorem step_escape (stepped : step config state (.escape call) = some next) :
    ∃ provider probe rest, state.phase call = .granted provider probe rest ∧
      next = state.setPhase call .raised := by
  simp only [step] at stepped
  split at stepped
  · rename_i provider probe rest isGranted
    cases stepped
    exact ⟨provider, probe, rest, isGranted, rfl⟩
  · cases stepped

/-- A report closes the breaker, or records the failure. -/
theorem step_report (stepped : step config state (.report call) = some next) :
    ∃ provider probe outcome rest,
      state.phase call = .answered provider probe outcome rest ∧
        (outcome = .value ∧
            next = (state.setEntry provider Entry.fresh).setPhase call
              (.returned (some provider)) ∨
          outcome ≠ .value ∧
            next = (state.setEntry provider
                ((state.breaker provider).recordFailure config
                  (decide (outcome = .transient)) state.now).1).setPhase call
              (if ((state.breaker provider).recordFailure config
                  (decide (outcome = .transient)) state.now).2 then .trying rest
                else .raised)) := by
  simp only [step] at stepped
  split at stepped
  · rename_i provider probe rest isAnswered
    cases stepped
    exact ⟨provider, probe, .value, rest, isAnswered, Or.inl ⟨rfl, rfl⟩⟩
  · rename_i provider probe outcome rest notValue isAnswered
    cases stepped
    refine ⟨provider, probe, outcome, rest, isAnswered, Or.inr ⟨?_, rfl⟩⟩
    intro isValue
    exact notValue isValue
  · cases stepped

end Inversion

/-! ## The invariant -/

section Invariant

variable {Call : Type u}

/-- A half-open breaker waits for a probe that has been granted. -/
def Probed (state : State Call) : Prop :=
  ∀ provider, (state.breaker provider).state = .halfOpen →
    ∃ call, (state.phase call).probes provider = true

/-- A step that ends in a report the breaker can record, or that leaves a half-open
breaker another probe to wait for. -/
def Reports (config : BreakerConfig) (state : State Call) : Label Call → Prop
  | .escape call => ∀ provider, (state.phase call).probes provider = true →
      (state.breaker provider).state = .halfOpen →
      ∃ other, other ≠ call ∧ (state.phase other).probes provider = true
  | .report call => ∀ provider probe outcome rest,
      state.phase call = .answered provider probe outcome rest →
      outcome ≠ .value →
      (state.breaker provider).trips config (decide (outcome = .transient)) = true →
      (state.breaker provider).opens < 1024
  | _ => True

variable [DecidableEq Call] {config : BreakerConfig} {chain : Call → List String}
variable {state next : State Call}

omit [DecidableEq Call] in
theorem probed_initial (isInitial : Initial chain state) : Probed state := by
  intro provider isHalf
  rw [isInitial.1 provider] at isHalf
  cases isHalf

/-- A call that probes nothing moves to any phase. -/
theorem Probed.setPhase (probed : Probed state) {call : Call} {phase : Phase}
    (kept : ∀ provider, (state.phase call).probes provider = true →
      (state.breaker provider).state = .halfOpen →
      phase.probes provider = true ∨
        ∃ other, other ≠ call ∧ (state.phase other).probes provider = true) :
    Probed (state.setPhase call phase) := by
  intro provider isHalf
  rw [State.setPhase_breaker] at isHalf
  obtain ⟨prober, probes⟩ := probed provider isHalf
  by_cases same : prober = call
  · subst same
    rcases kept provider probes isHalf with still | ⟨other, different, still⟩
    · exact ⟨prober, by rw [State.setPhase_self]; exact still⟩
    · exact ⟨other, by rw [State.setPhase_of_ne _ different]; exact still⟩
  · exact ⟨prober, by rw [State.setPhase_of_ne _ same]; exact probes⟩

/-- A breaker that is not left half open may lose its probe. -/
theorem Probed.setEntry (probed : Probed state) {call : Call} {provider : String}
    {entry : Entry} {phase : Phase} (notHalf : entry.state ≠ .halfOpen)
    (own : ∀ other, (state.phase call).probes other = true → other = provider) :
    Probed ((state.setEntry provider entry).setPhase call phase) := by
  have entered : Probed (state.setEntry provider entry) := by
    intro other isHalf
    by_cases same : other = provider
    · subst same
      rw [State.setEntry_self] at isHalf
      exact absurd isHalf notHalf
    · rw [State.setEntry_of_ne _ same] at isHalf
      exact probed other isHalf
  refine entered.setPhase ?_
  intro other probes isHalf
  have same : other = provider := own other probes
  subst same
  rw [State.setEntry_self] at isHalf
  exact absurd isHalf notHalf

theorem probed_ask {call : Call} (probed : Probed state)
    (stepped : step config state (.ask call) = some next) : Probed next := by
  rcases step_ask stepped with ⟨isDone, rfl⟩ | ⟨provider, rest, isTrying, went⟩
  · exact probed.setPhase (by simp [isDone, Phase.probes])
  · rcases went with ⟨allowed, rfl⟩ | ⟨_, rfl⟩
    · intro other isHalf
      rw [State.setPhase_breaker] at isHalf
      by_cases same : other = provider
      · subst same
        rw [State.setEntry_self] at isHalf
        refine ⟨call, ?_⟩
        rcases allow_halfOpen isHalf with wasHalf | ⟨_, isProbe⟩
        · simp [Entry.allow, wasHalf] at allowed
        · rw [State.setPhase_self]
          simp [Phase.probes, isProbe]
      · rw [State.setEntry_of_ne _ same] at isHalf
        obtain ⟨prober, probes⟩ := probed other isHalf
        have different : prober ≠ call := by
          intro isCall
          subst isCall
          simp [isTrying, Phase.probes] at probes
        exact ⟨prober, by
          rw [State.setPhase_of_ne _ different, State.setEntry_phase]
          exact probes⟩
    · exact probed.setPhase (by simp [isTrying, Phase.probes])

theorem probed_report {call : Call} (probed : Probed state)
    (allowed : Reports config state (.report call))
    (stepped : step config state (.report call) = some next) : Probed next := by
  obtain ⟨provider, probe, outcome, rest, isAnswered, went⟩ := step_report stepped
  have own : ∀ other, (state.phase call).probes other = true →
      other = provider := by
    intro other probes
    rw [isAnswered] at probes
    simp only [Phase.probes, Bool.and_eq_true, decide_eq_true_eq] at probes
    exact probes.1.symm
  rcases went with ⟨_, rfl⟩ | ⟨notValue, rfl⟩
  · exact probed.setEntry (by decide) own
  · have few := allowed provider probe outcome rest isAnswered notValue
    exact probed.setEntry (recordFailure_not_halfOpen few).2 own

theorem probed_step (probed : Probed state) {label : Label Call}
    (allowed : Reports config state label)
    (stepped : step config state label = some next) : Probed next := by
  cases label with
  | tick elapsed =>
      cases stepped
      exact probed
  | ask call => exact probed_ask probed stepped
  | answer call outcome =>
      obtain ⟨provider, probe, rest, isGranted, rfl⟩ := step_answer stepped
      refine probed.setPhase ?_
      intro other probes _
      rw [isGranted] at probes
      exact Or.inl probes
  | escape call =>
      obtain ⟨provider, probe, rest, isGranted, rfl⟩ := step_escape stepped
      exact probed.setPhase fun other probes isHalf =>
        Or.inr (allowed other probes isHalf)
  | report call => exact probed_report probed allowed stepped
  | reset =>
      cases stepped
      intro provider isHalf
      cases isHalf

end Invariant

/-! ## The breaker is never wedged -/

section Law

variable {Call : Type u} [DecidableEq Call]

/-- A failure that is reported returns to its chain, and one that trips the breaker
sets the deadline of the backoff. -/
def Recorded (config : BreakerConfig) (state next : State Call) (call : Call) :
    Prop :=
  ∀ provider probe outcome rest,
    state.phase call = .answered provider probe outcome rest →
    outcome ≠ .value →
    next.phase call = .trying rest ∧
      ((state.breaker provider).trips config
          (decide (outcome = .transient)) = true →
        ∃ opens, opens = (state.breaker provider).opens + 1 ∧
          next.breaker provider = ⟨.opened, 0, opens,
            state.now + min (config.baseCooldown * 2 ^ (opens - 1))
              config.maxCooldown⟩)

/-- A call that asks an open breaker past its deadline is granted a probe. -/
def Offered (config : BreakerConfig) (state : State Call) : Prop :=
  ∀ call provider rest, state.phase call = .trying (provider :: rest) →
    (state.breaker provider).state = .opened →
    (state.breaker provider).openUntil ≤ state.now →
    ∃ next, step config state (.ask call) = some next ∧
      next.phase call = .granted provider true rest

/-- What holds of a state and of every step from it that a guard allows. -/
structure NeverWedged (config : BreakerConfig)
    (guard : State Call → Label Call → Prop) (state : State Call) : Prop where
  probed : Probed state
  recorded : ∀ call next, guard state (.report call) →
    step config state (.report call) = some next → Recorded config state next call
  offered : Offered config state

variable {config : BreakerConfig} {state next : State Call}

theorem recorded_of_allowed {call : Call}
    (allowed : Reports config state (.report call))
    (stepped : step config state (.report call) = some next) :
    Recorded config state next call := by
  intro provider probe outcome rest isAnswered notValue
  have few := allowed provider probe outcome rest isAnswered notValue
  obtain ⟨asked, _, reported, others, isReported, went⟩ := step_report stepped
  rw [isAnswered] at isReported
  cases isReported
  rcases went with ⟨isValue, _⟩ | ⟨_, rfl⟩
  · exact absurd isValue notValue
  · refine ⟨?_, fun trips => ⟨_, rfl, ?_⟩⟩
    · rw [State.setPhase_self, (recordFailure_not_halfOpen few).1]
      rfl
    · rw [State.setPhase_breaker, State.setEntry_self, recordFailure_trips trips]
      have small := few trips
      split
      · rw [trip_of_lt small]
        rfl
      · have stillSmall : Entry.opens { state.breaker provider with
            failures := (state.breaker provider).failures + 1 } < 1024 := small
        rw [trip_of_lt stillSmall]
        rfl

theorem offered_always (config : BreakerConfig) (state : State Call) :
    Offered config state := by
  intro call provider rest isTrying isOpen isOver
  refine ⟨_, by
    simp only [step, isTrying, allow_opened isOpen isOver, if_true]
    rfl, ?_⟩
  rw [State.setPhase_self]

/-- In every run whose calls report what the breaker can record, no breaker is
wedged. -/
theorem breaker_neverWedged (config : BreakerConfig) (chain : Call → List String)
    {state : State Call}
    (reachable : (system config chain).ReachableUnder (Reports config) state) :
    NeverWedged config (Reports config) state := by
  refine ⟨?_, ?_, offered_always config state⟩
  · exact TransitionSystem.ReachableUnder.invariant Probed
      (fun _ isInitial => probed_initial isInitial)
      (fun _ _ _ probed allowed stepped => probed_step probed allowed stepped)
      reachable
  · intro call next allowed stepped
    exact recorded_of_allowed allowed stepped

end Law

/-! ### A provider that fails, and a probe that is lost -/

/-- One failure trips the breaker for a minute. -/
def probeConfig : BreakerConfig := ⟨1, 60, 300⟩

def probeChain (_ : Bool) : List String := ["openai"]

def probeSystem : TransitionSystem (State Bool) (Label Bool) :=
  system probeConfig probeChain

def probeStart : State Bool := ⟨0, fun _ => Entry.fresh, fun _ => .trying ["openai"]⟩

def probeRun (labels : List (Label Bool)) : State Bool :=
  (probeSystem.exec probeStart labels).getD probeStart

/-- The first call ends in a transient error, which is reported. -/
def failedCall : List (Label Bool) :=
  [.ask false, .answer false .transient]

/-- After the cooldown the second call is granted the probe. -/
def probing : List (Label Bool) :=
  failedCall ++ [.report false, .tick 60, .ask true]

/-- The probe fails, and the cooldown is doubled. -/
def failedProbe : List (Label Bool) :=
  probing ++ [.answer true .transient, .report true]

def admits (state : State Bool) : Label Bool → Bool
  | .escape _ => false
  | .report call =>
      match state.phase call with
      | .answered provider _ _ _ => decide ((state.breaker provider).opens < 1024)
      | _ => true
  | _ => true

theorem reports_of_admits (state : State Bool) (label : Label Bool)
    (admitted : admits state label = true) : Reports probeConfig state label := by
  cases label with
  | escape call => cases admitted
  | report call =>
      intro provider probe outcome rest isAnswered _ _
      simp only [admits, isAnswered] at admitted
      exact of_decide_eq_true admitted
  | tick elapsed => trivial
  | reset => trivial
  | ask call => trivial
  | answer call outcome => trivial

/-- No breaker is wedged while the probe is out, nor once it has failed. -/
theorem breaker_neverWedged_probe :
    (((probeRun probing).breaker "openai").state = .halfOpen ∧
        NeverWedged probeConfig (Reports probeConfig) (probeRun probing)) ∧
      ((probeRun failedProbe).breaker "openai").openUntil = 60 + 120 ∧
        NeverWedged probeConfig (Reports probeConfig) (probeRun failedProbe) := by
  have isInitial : probeSystem.initial probeStart :=
    ⟨fun _ => rfl, fun _ => rfl⟩
  have untilProbe : probeSystem.Reaches (Reports probeConfig) probeStart
      (probeRun probing) :=
    TransitionSystem.reaches_of_execIf reports_of_admits probing (by decide +kernel)
  have afterProbe : probeSystem.Reaches (Reports probeConfig) probeStart
      (probeRun failedProbe) :=
    TransitionSystem.reaches_of_execIf reports_of_admits failedProbe (by decide +kernel)
  refine ⟨⟨rfl, ?_⟩, by decide +kernel, ?_⟩
  · exact breaker_neverWedged probeConfig probeChain ⟨probeStart, isInitial, untilProbe⟩
  · exact breaker_neverWedged probeConfig probeChain ⟨probeStart, isInitial, afterProbe⟩

/-- The second call's probe ends in an exception that the chain does not catch. -/
def lostProbe : List (Label Bool) :=
  probing ++ [.escape true]

/-- The breaker stays half open, and nothing waits for a probe. -/
theorem breaker_wedged :
    ¬ ∀ state, probeSystem.Reachable state →
      NeverWedged probeConfig (fun _ _ => True) state := by
  intro never
  have isInitial : probeSystem.initial probeStart :=
    ⟨fun _ => rfl, fun _ => rfl⟩
  have reached : probeSystem.Reachable (probeRun lostProbe) :=
    TransitionSystem.reachable_of_exec lostProbe isInitial rfl
  obtain ⟨call, probes⟩ := (never _ reached).probed "openai" rfl
  cases call with
  | false => cases probes
  | true => cases probes

end DbBuddy.Providers
