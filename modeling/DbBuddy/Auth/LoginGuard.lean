import DbBuddy.Library.TransitionSystem
import DbBuddy.Library.Exclusion
import Mathlib.Data.List.MinMax
import Mathlib.Order.Interval.Set.Basic

/-!
# The login throttle

A sign-in asks the guard whether its key is locked out, verifies the password, and
only then records a failure or clears the key.  The failures of a key stand in one
sorted set that all workers share; this is about one key, while that set can be
reached.
-/

namespace DbBuddy.Auth.LoginGuard

open DbBuddy.Library

universe u

/-- `MAX_FAILURES` -/
def maxFailures : ℕ := 5

/-- `WINDOW_SECONDS`, in the microseconds of the clock. -/
def window : Int := 900 * 1000000

/-- The shared sorted set of a key: the scores, and when the key expires. -/
structure SharedWindow where
  scores : List Int
  expiresAt : Int
  deriving DecidableEq, Repr

namespace SharedWindow

def empty : SharedWindow := ⟨[], 0⟩

/-- What is there of a key that may have expired, after `zremrangebyscore`. -/
def pruned (shared : SharedWindow) (now : Int) : List Int :=
  if shared.expiresAt ≤ now then []
  else shared.scores.filter fun score => decide (now - window < score)

/-- `_shared_count`: the set that is left. -/
def counted (shared : SharedWindow) (now : Int) : SharedWindow :=
  { shared with scores := shared.pruned now }

/-- `retry_after`: the seconds to wait, or `none`. -/
def retryAfter (shared : SharedWindow) (now : Int) : Option Int :=
  if maxFailures ≤ (shared.pruned now).length then
    (shared.pruned now).min?.map fun oldest =>
      (oldest + window - now).tdiv 1000000 + 1
  else none

/-- `record_failure` -/
def recordFailure (shared : SharedWindow) (now : Int) : SharedWindow :=
  ⟨shared.pruned now ++ [now], now + window⟩

end SharedWindow

/-- What comes of the password: it is wrong, or the account takes no sign-in, or the
sign-in succeeds. -/
inductive Verdict where
  | wrong
  | barred
  | right
  deriving DecidableEq, Repr

/-- Where one sign-in stands. -/
inductive Phase where
  | ready
  | checked
  | failed
  | succeeded
  | locked (seconds : Int)
  | finished
  deriving DecidableEq, Repr

/-- Between the check of the guard and what follows from the verdict. -/
def Phase.underWay : Phase → Bool
  | .checked => true
  | .failed => true
  | .succeeded => true
  | _ => false

/-- `failures` and `uncleared` are bookkeeping of the model: when a verification
failed, at all and since the key was cleared last. -/
structure State (Request : Type u) where
  now : Int
  shared : SharedWindow
  failures : List Int
  uncleared : List Int
  phase : Request → Phase

inductive Label (Request : Type u) where
  | tick (elapsed : ℕ)
  | check (request : Request)
  | verify (request : Request) (verdict : Verdict)
  | record (request : Request)
  | clear (request : Request)

section Steps

variable {Request : Type u} [DecidableEq Request]

def State.setPhase (state : State Request) (request : Request) (next : Phase) :
    State Request :=
  { state with phase := Function.update state.phase request next }

/-- One atomic step of one of the workers. -/
def step (state : State Request) : Label Request → Option (State Request)
  | .tick elapsed => some { state with now := state.now + elapsed }
  | .check request =>
      match state.phase request with
      | .ready =>
          let counted := { state with shared := state.shared.counted state.now }
          match state.shared.retryAfter state.now with
          | some seconds => some (counted.setPhase request (.locked seconds))
          | none => some (counted.setPhase request .checked)
      | _ => none
  | .verify request verdict =>
      match state.phase request, verdict with
      | .checked, .wrong => some
          { state.setPhase request .failed with
            failures := state.failures ++ [state.now]
            uncleared := state.uncleared ++ [state.now] }
      | .checked, .barred => some (state.setPhase request .finished)
      | .checked, .right => some (state.setPhase request .succeeded)
      | _, _ => none
  | .record request =>
      match state.phase request with
      | .failed => some
          { state.setPhase request .finished with
            shared := state.shared.recordFailure state.now }
      | _ => none
  | .clear request =>
      match state.phase request with
      | .succeeded => some
          { state.setPhase request .finished with
            shared := SharedWindow.empty
            uncleared := [] }
      | _ => none

/-- A key nobody has failed on yet. -/
def Initial (state : State Request) : Prop :=
  state.shared = SharedWindow.empty ∧ state.failures = [] ∧ state.uncleared = [] ∧
    ∀ request, state.phase request = .ready

def system : TransitionSystem (State Request) (Label Request) where
  initial := Initial
  step := step

end Steps

/-! ## Counting instants -/

/-- How many instants come after a bound. -/
def countAfter (bound : Int) (instants : List Int) : ℕ :=
  instants.countP fun instant => decide (bound < instant)

/-- How many instants a window that ends at `last` holds. -/
def countWithin (last : Int) (instants : List Int) : ℕ :=
  instants.countP fun instant =>
    decide (last - window < instant ∧ instant ≤ last)

theorem countWithin_le (last : Int) (instants : List Int) :
    countWithin last instants ≤ countAfter (last - window) instants := by
  refine List.countP_mono_left ?_
  intro instant _ isWithin
  have bounds := of_decide_eq_true isWithin
  exact decide_eq_true bounds.1

theorem countAfter_append (bound : Int) (instants others : List Int) :
    countAfter bound (instants ++ others) =
      countAfter bound instants + countAfter bound others :=
  List.countP_append

theorem countAfter_le_length (bound : Int) (instants : List Int) :
    countAfter bound instants ≤ instants.length :=
  List.countP_le_length

theorem countAfter_eq_zero {bound : Int} {instants : List Int}
    (early : ∀ instant ∈ instants, instant ≤ bound) :
    countAfter bound instants = 0 := by
  refine List.countP_eq_zero.mpr ?_
  intro instant isIn isAfter
  have isLater := of_decide_eq_true isAfter
  have isEarly := early instant isIn
  omega

/-! ## What a step can do -/

namespace SharedWindow

variable {shared : SharedWindow} {now : Int}

/-- No score outlives the key. -/
def Timely (shared : SharedWindow) : Prop :=
  ∀ score ∈ shared.scores, score + window ≤ shared.expiresAt

/-- What is pruned no longer counts. -/
theorem countAfter_pruned (timely : shared.Timely) {bound : Int}
    (recent : now - window ≤ bound) :
    countAfter bound (shared.pruned now) = countAfter bound shared.scores := by
  unfold pruned
  split
  · rename_i isExpired
    have early : ∀ score ∈ shared.scores, score ≤ bound := by
      intro score isIn
      have kept := timely score isIn
      omega
    rw [countAfter_eq_zero early]
    rfl
  · unfold countAfter
    rw [List.countP_filter]
    refine List.countP_congr ?_
    intro score _
    simp only [Bool.and_eq_true, decide_eq_true_eq]
    omega

theorem mem_pruned {score : Int} (isIn : score ∈ shared.pruned now) :
    score ∈ shared.scores := by
  unfold pruned at isIn
  split at isIn
  · cases isIn
  · exact List.mem_of_mem_filter isIn

theorem timely_counted (timely : shared.Timely) : (shared.counted now).Timely :=
  fun score isIn => timely score (mem_pruned isIn)

/-- Scores of the past stay within the key's time after a failure now. -/
theorem timely_recordFailure (past : ∀ score ∈ shared.scores, score ≤ now) :
    (shared.recordFailure now).Timely := by
  intro score isIn
  unfold recordFailure at isIn ⊢
  dsimp only at isIn ⊢
  rcases List.mem_append.mp isIn with isOld | isNew
  · have isPast := past score (mem_pruned isOld)
    omega
  · rw [List.mem_singleton.mp isNew]

/-- Who is not locked out has room for a failure. -/
theorem length_lt_of_retryAfter (isFree : shared.retryAfter now = none) :
    (shared.pruned now).length < maxFailures := by
  unfold retryAfter at isFree
  split at isFree
  · rename_i isFull
    rw [Option.map_eq_none_iff, List.min?_eq_none_iff] at isFree
    rw [isFree] at isFull
    cases isFull
  · omega

end SharedWindow

section Inversion

variable {Request : Type u} [DecidableEq Request]
variable {state next : State Request} {request : Request}

@[simp]
theorem State.setPhase_self (phase : Phase) :
    (state.setPhase request phase).phase request = phase := by
  simp [State.setPhase]

theorem step_check (stepped : step state (.check request) = some next) :
    state.phase request = .ready ∧
      ((∃ seconds, next = State.setPhase
          { state with shared := state.shared.counted state.now } request
          (.locked seconds)) ∨
        state.shared.retryAfter state.now = none ∧
          next = State.setPhase
            { state with shared := state.shared.counted state.now } request
            .checked) := by
  simp only [step] at stepped
  split at stepped
  · rename_i isReady
    refine ⟨isReady, ?_⟩
    split at stepped
    · cases stepped
      exact Or.inl ⟨_, rfl⟩
    · rename_i isFree
      cases stepped
      exact Or.inr ⟨isFree, rfl⟩
  · cases stepped

theorem step_verify {verdict : Verdict}
    (stepped : step state (.verify request verdict) = some next) :
    state.phase request = .checked ∧
      (next = { state.setPhase request .failed with
            failures := state.failures ++ [state.now]
            uncleared := state.uncleared ++ [state.now] } ∨
        ∃ phase, phase ≠ .failed ∧ phase ≠ .checked ∧
          next = state.setPhase request phase) := by
  simp only [step] at stepped
  split at stepped
  · rename_i isChecked
    cases stepped
    exact ⟨isChecked, Or.inl rfl⟩
  · rename_i isChecked
    cases stepped
    exact ⟨isChecked, Or.inr ⟨.finished, by decide, by decide, rfl⟩⟩
  · rename_i isChecked
    cases stepped
    exact ⟨isChecked, Or.inr ⟨.succeeded, by decide, by decide, rfl⟩⟩
  · cases stepped

theorem step_record (stepped : step state (.record request) = some next) :
    state.phase request = .failed ∧
      next = { state.setPhase request .finished with
        shared := state.shared.recordFailure state.now } := by
  simp only [step] at stepped
  split at stepped
  · rename_i isFailed
    cases stepped
    exact ⟨isFailed, rfl⟩
  · cases stepped

theorem step_clear (stepped : step state (.clear request) = some next) :
    state.phase request = .succeeded ∧
      next = { state.setPhase request .finished with
        shared := SharedWindow.empty
        uncleared := [] } := by
  simp only [step] at stepped
  split at stepped
  · rename_i isIn
    cases stepped
    exact ⟨isIn, rfl⟩
  · cases stepped

end Inversion

/-! ## The invariant -/

section Invariant

variable {Request : Type u}

/-- No sign-in is checked while another one is under way. -/
def OneByOne (state : State Request) : Label Request → Prop
  | .check _ => ∀ other, (state.phase other).underWay = false
  | _ => True

/-- What holds while the sign-ins come one by one.  A failure that has not been
recorded yet is the only one the shared window lacks, and who has passed the check
leaves room for its own. -/
structure Guarded (state : State Request) : Prop where
  alone : Alone Phase.underWay state.phase
  timely : state.shared.Timely
  past : ∀ score ∈ state.shared.scores, score ≤ state.now
  happened : ∀ instant ∈ state.uncleared, instant ≤ state.now
  covered : ∀ bound, state.now - window ≤ bound →
    (∀ request, state.phase request ≠ .failed) →
    countAfter bound state.uncleared ≤ countAfter bound state.shared.scores
  pending : ∀ bound request, state.now - window ≤ bound →
    state.phase request = .failed →
    countAfter bound state.uncleared ≤ countAfter bound state.shared.scores + 1
  roomy : ∀ bound request, state.now - window ≤ bound →
    state.phase request = .checked →
    countAfter bound state.uncleared < maxFailures
  windowed : ∀ last, countWithin last state.uncleared ≤ maxFailures

theorem guarded_initial {state : State Request} (isInitial : Initial state) :
    Guarded state := by
  obtain ⟨shared, failures, uncleared, ready⟩ := isInitial
  refine ⟨?_, ?_, ?_, ?_, ?_, ?_, ?_, ?_⟩
  · exact alone_of_idle fun request => by rw [ready request]; rfl
  · intro score isIn
    simp [shared, SharedWindow.empty] at isIn
  · intro score isIn
    simp [shared, SharedWindow.empty] at isIn
  · intro instant isIn
    simp [uncleared] at isIn
  · intro bound _ _
    simp [uncleared, countAfter]
  · intro bound request _ failed
    simp [ready request] at failed
  · intro bound request _ checked
    simp [ready request] at checked
  · intro last
    simp [uncleared, countWithin]

theorem guarded_tick {state : State Request} (guarded : Guarded state)
    (elapsed : ℕ) : Guarded { state with now := state.now + elapsed } := by
  obtain ⟨alone, timely, past, happened, covered, pending, roomy, windowed⟩ :=
    guarded
  refine ⟨alone, timely, ?_, ?_, ?_, ?_, ?_, windowed⟩
  · intro score isIn
    have isPast := past score isIn
    dsimp only
    omega
  · intro instant isIn
    have isPast := happened instant isIn
    dsimp only
    omega
  · intro bound recent
    dsimp only at recent
    exact covered bound (by omega)
  · intro bound other recent
    dsimp only at recent
    exact pending bound other (by omega)
  · intro bound other recent
    dsimp only at recent
    exact roomy bound other (by omega)

theorem countAfter_singleton_le (bound instant : Int) :
    countAfter bound [instant] ≤ 1 :=
  countAfter_le_length bound [instant]

/-- A window that ends before an instant does not hold it. -/
theorem countWithin_append_of_lt {last instant : Int} (early : last < instant)
    (instants : List Int) :
    countWithin last (instants ++ [instant]) = countWithin last instants := by
  unfold countWithin
  rw [List.countP_append, List.countP_singleton]
  have outside : decide (last - window < instant ∧ instant ≤ last) = false := by
    simp only [decide_eq_false_iff_not, not_and, not_le]
    intro _
    exact early
  rw [outside]
  simp

variable [DecidableEq Request] {state next : State Request} {request : Request}
variable {phase : Phase}

omit [DecidableEq Request] in
/-- Nobody else has failed and not recorded it. -/
theorem unfailing (only : OnlyActive Phase.underWay state.phase request)
    (unfailed : state.phase request ≠ .failed) :
    ∀ other, state.phase other ≠ .failed := by
  intro other isFailed
  have same : other = request := only.eq (by rw [isFailed]; rfl)
  rw [same] at isFailed
  exact unfailed isFailed

/-! ### One lemma for each step -/

/-- The check prunes the shared window, and who passes it leaves room. -/
theorem guarded_check (guarded : Guarded state)
    (first : ∀ other, (state.phase other).underWay = false)
    (stepped : step state (.check request) = some next) : Guarded next := by
  obtain ⟨isReady, went⟩ := step_check stepped
  have only : OnlyActive Phase.underWay state.phase request :=
    onlyActive_of_idle first request
  have noFailure : ∀ other, state.phase other ≠ .failed := by
    intro other isFailed
    have isIdle := first other
    simp [isFailed, Phase.underWay] at isIdle
  have counted : ∀ bound, state.now - window ≤ bound →
      countAfter bound state.uncleared ≤
        countAfter bound (state.shared.pruned state.now) := by
    intro bound recent
    rw [SharedWindow.countAfter_pruned guarded.timely recent]
    exact guarded.covered bound recent noFailure
  have entered : ∀ phase, phase ≠ .failed →
      (phase = .checked →
        (state.shared.pruned state.now).length < maxFailures) →
      Guarded (State.setPhase
        { state with shared := state.shared.counted state.now } request phase) := by
    intro phase notFailed hasRoom
    refine ⟨?_, SharedWindow.timely_counted guarded.timely, ?_, guarded.happened,
      ?_, ?_, ?_, guarded.windowed⟩
    · exact only.alone_update phase
    · intro score isIn
      exact guarded.past score (SharedWindow.mem_pruned isIn)
    · intro bound recent _
      exact counted bound recent
    · intro bound other _ isFailed
      exact absurd (only.eq_of_update rfl isFailed) notFailed
    · intro bound other recent isChecked
      have few := hasRoom (only.eq_of_update rfl isChecked)
      have most := counted bound recent
      have atMost := countAfter_le_length bound (state.shared.pruned state.now)
      exact lt_of_le_of_lt (le_trans most atMost) few
  rcases went with ⟨seconds, rfl⟩ | ⟨isFree, rfl⟩
  · exact entered _ (by simp) (by simp)
  · exact entered _ (by simp) fun _ =>
      SharedWindow.length_lt_of_retryAfter isFree

/-- The sign-in under way moves to a phase that owes nothing. -/
theorem guarded_setPhase (guarded : Guarded state)
    (underWay : (state.phase request).underWay = true)
    (unfailed : state.phase request ≠ .failed) (notFailed : phase ≠ .failed)
    (notChecked : phase ≠ .checked) :
    Guarded (state.setPhase request phase) := by
  have only := guarded.alone.only underWay
  refine ⟨?_, guarded.timely, guarded.past, guarded.happened, ?_, ?_, ?_,
    guarded.windowed⟩
  · exact only.alone_update _
  · intro bound recent _
    exact guarded.covered bound recent (unfailing only unfailed)
  · intro bound other _ isFailed
    exact absurd (only.eq_of_update rfl isFailed) notFailed
  · intro bound other _ isChecked
    exact absurd (only.eq_of_update rfl isChecked) notChecked

/-- The failure of a sign-in fits into every window, as its check has left room. -/
theorem guarded_fail (guarded : Guarded state)
    (isChecked : state.phase request = .checked) :
    Guarded { state.setPhase request .failed with
      failures := state.failures ++ [state.now]
      uncleared := state.uncleared ++ [state.now] } := by
  have underWay : (state.phase request).underWay = true := by
    simp [isChecked, Phase.underWay]
  have only := guarded.alone.only underWay
  have noFailure := unfailing only (by simp [isChecked])
  refine ⟨?_, guarded.timely, guarded.past, ?_, ?_, ?_, ?_, ?_⟩
  · exact only.alone_update _
  · intro instant isIn
    rcases List.mem_append.mp isIn with isOld | isNew
    · exact guarded.happened instant isOld
    · exact le_of_eq (List.mem_singleton.mp isNew)
  · intro bound _ none
    exact absurd (State.setPhase_self .failed) (none request)
  · intro bound _ recent _
    dsimp only
    rw [countAfter_append]
    have old := guarded.covered bound recent noFailure
    have new := countAfter_singleton_le bound state.now
    exact Nat.add_le_add old new
  · intro bound other _ isStill
    have isFailed := only.eq_of_update rfl isStill
    cases isFailed
  · intro last
    dsimp only
    rcases lt_or_ge last state.now with early | reached
    · rw [countWithin_append_of_lt early]
      exact guarded.windowed last
    · have recent : state.now - window ≤ last - window := by omega
      have room := guarded.roomy (last - window) request recent isChecked
      have within := countWithin_le last (state.uncleared ++ [state.now])
      rw [countAfter_append] at within
      have new := countAfter_singleton_le (last - window) state.now
      omega

/-- The recorded failure is the one the shared window has lacked. -/
theorem guarded_record (guarded : Guarded state)
    (isFailed : state.phase request = .failed) :
    Guarded { state.setPhase request .finished with
      shared := state.shared.recordFailure state.now } := by
  have underWay : (state.phase request).underWay = true := by
    simp [isFailed, Phase.underWay]
  have only := guarded.alone.only underWay
  refine ⟨?_, SharedWindow.timely_recordFailure guarded.past, ?_, guarded.happened,
    ?_, ?_, ?_, guarded.windowed⟩
  · exact only.alone_update _
  · intro score isIn
    rcases List.mem_append.mp isIn with isOld | isNew
    · exact guarded.past score (SharedWindow.mem_pruned isOld)
    · exact le_of_eq (List.mem_singleton.mp isNew)
  · intro bound recent _
    have scored : countAfter bound (state.shared.recordFailure state.now).scores =
        countAfter bound state.shared.scores + countAfter bound [state.now] := by
      rw [← SharedWindow.countAfter_pruned guarded.timely recent,
        ← countAfter_append]
      rfl
    dsimp only
    rw [scored]
    rcases lt_or_ge bound state.now with before | after
    · have one : countAfter bound [state.now] = 1 := by
        simp [countAfter, before]
      rw [one]
      exact guarded.pending bound request recent isFailed
    · have noneAfter : countAfter bound state.uncleared = 0 :=
        countAfter_eq_zero fun instant isIn =>
          le_trans (guarded.happened instant isIn) after
      exact le_of_eq_of_le noneAfter (Nat.zero_le _)
  · intro bound other _ isStill
    have isNever := only.eq_of_update rfl isStill
    cases isNever
  · intro bound other _ isStill
    have isNever := only.eq_of_update rfl isStill
    cases isNever

/-- A sign-in that succeeds leaves nothing to count. -/
theorem guarded_clear (guarded : Guarded state)
    (isIn : state.phase request = .succeeded) :
    Guarded { state.setPhase request .finished with
      shared := SharedWindow.empty
      uncleared := [] } := by
  have underWay : (state.phase request).underWay = true := by
    simp [isIn, Phase.underWay]
  have only := guarded.alone.only underWay
  refine ⟨?_, ?_, ?_, ?_, ?_, ?_, ?_, ?_⟩
  · exact only.alone_update _
  · intro score isScore
    cases isScore
  · intro score isScore
    cases isScore
  · intro instant isInstant
    cases isInstant
  · intro bound _ _
    exact Nat.le_refl _
  · intro bound _ _ _
    exact Nat.zero_le _
  · intro bound _ _ _
    exact Nat.succ_pos _
  · intro last
    exact Nat.zero_le _

theorem guarded_step (guarded : Guarded state) {label : Label Request}
    (allowed : OneByOne state label) (stepped : step state label = some next) :
    Guarded next := by
  cases label with
  | tick elapsed =>
      cases stepped
      exact guarded_tick guarded elapsed
  | check request => exact guarded_check guarded allowed stepped
  | verify request verdict =>
      obtain ⟨isChecked, rfl | ⟨phase, notFailed, notChecked, rfl⟩⟩ :=
        step_verify stepped
      · exact guarded_fail guarded isChecked
      · exact guarded_setPhase guarded (by simp [isChecked, Phase.underWay])
          (by simp [isChecked]) notFailed notChecked
  | record request =>
      obtain ⟨isFailed, rfl⟩ := step_record stepped
      exact guarded_record guarded isFailed
  | clear request =>
      obtain ⟨isIn, rfl⟩ := step_clear stepped
      exact guarded_clear guarded isIn

end Invariant

/-! ## What a success forgets -/

section Forgetting

variable {Request : Type u}

/-- A success clears no failure that still counts. -/
def OnlyStale (state : State Request) : Label Request → Prop
  | .clear _ => countAfter (state.now - window) state.failures = 0
  | _ => True

/-- What holds while only stale failures are cleared: the uncleared ones are all that
count. -/
structure Remembered (state : State Request) : Prop where
  same : ∀ bound, state.now - window ≤ bound →
    countAfter bound state.failures = countAfter bound state.uncleared
  windowed : ∀ last, countWithin last state.failures ≤ maxFailures

theorem remembered_initial {state : State Request} (isInitial : Initial state) :
    Remembered state := by
  obtain ⟨_, failures, uncleared, _⟩ := isInitial
  constructor
  · intro bound _
    rw [failures, uncleared]
  · intro last
    rw [failures]
    exact Nat.zero_le _

theorem Remembered.of_same {state next : State Request} (remembered : Remembered state)
    (later : state.now ≤ next.now) (failures : next.failures = state.failures)
    (uncleared : next.uncleared = state.uncleared) : Remembered next := by
  constructor
  · intro bound recent
    rw [failures, uncleared]
    exact remembered.same bound (by omega)
  · intro last
    rw [failures]
    exact remembered.windowed last

theorem countAfter_anti {bound later : Int} (isLater : bound ≤ later)
    (instants : List Int) : countAfter later instants ≤ countAfter bound instants := by
  refine List.countP_mono_left ?_
  intro instant _ isAfter
  have isBehind := of_decide_eq_true isAfter
  exact decide_eq_true (lt_of_le_of_lt isLater isBehind)

variable [DecidableEq Request] {state next : State Request} {request : Request}

theorem remembered_fail (guarded : Guarded state) (remembered : Remembered state)
    (isChecked : state.phase request = .checked) :
    Remembered { state.setPhase request .failed with
      failures := state.failures ++ [state.now]
      uncleared := state.uncleared ++ [state.now] } := by
  constructor
  · intro bound recent
    dsimp only
    rw [countAfter_append, countAfter_append, remembered.same bound recent]
  · intro last
    dsimp only
    rcases lt_or_ge last state.now with early | reached
    · rw [countWithin_append_of_lt early]
      exact remembered.windowed last
    · have recent : state.now - window ≤ last - window := by omega
      have room := guarded.roomy (last - window) request recent isChecked
      have within := countWithin_le last (state.failures ++ [state.now])
      rw [countAfter_append, remembered.same _ recent] at within
      have new := countAfter_singleton_le (last - window) state.now
      omega

theorem remembered_clear (remembered : Remembered state)
    (isStale : countAfter (state.now - window) state.failures = 0) :
    Remembered { state.setPhase request .finished with
      shared := SharedWindow.empty
      uncleared := [] } := by
  constructor
  · intro bound recent
    have fewer : countAfter bound state.failures ≤
        countAfter (state.now - window) state.failures :=
      countAfter_anti recent state.failures
    rw [isStale] at fewer
    exact Nat.le_zero.mp fewer
  · exact remembered.windowed

theorem remembered_step (guarded : Guarded state) (remembered : Remembered state)
    {label : Label Request} (isStale : OnlyStale state label)
    (stepped : step state label = some next) : Remembered next := by
  cases label with
  | tick elapsed =>
      cases stepped
      exact remembered.of_same (by dsimp only; omega) rfl rfl
  | check request =>
      obtain ⟨_, ⟨_, rfl⟩ | ⟨_, rfl⟩⟩ := step_check stepped
      · exact remembered.of_same le_rfl rfl rfl
      · exact remembered.of_same le_rfl rfl rfl
  | verify request verdict =>
      obtain ⟨isChecked, rfl | ⟨phase, _, _, rfl⟩⟩ := step_verify stepped
      · exact remembered_fail guarded remembered isChecked
      · exact remembered.of_same le_rfl rfl rfl
  | record request =>
      obtain ⟨_, rfl⟩ := step_record stepped
      exact remembered.of_same le_rfl rfl rfl
  | clear request =>
      obtain ⟨_, rfl⟩ := step_clear stepped
      exact remembered_clear remembered isStale

end Forgetting

/-! ## The bound -/

section Bound

variable {Request : Type u} [DecidableEq Request]

theorem guarded_of_reachable {state : State Request}
    (reachable : system.ReachableUnder OneByOne state) : Guarded state :=
  TransitionSystem.ReachableUnder.invariant Guarded
    (fun _ isInitial => guarded_initial isInitial)
    (fun _ _ _ guarded allowed stepped => guarded_step guarded allowed stepped)
    reachable

/-- One by one, and no success clears a failure that still counts. -/
def Orderly (state : State Request) (label : Label Request) : Prop :=
  OneByOne state label ∧ OnlyStale state label

/-- While the sign-ins of a key come one by one, no window holds more than the
allowed failures since the key was cleared last, and no more at all if no success
clears one that still counts. -/
theorem signIns_bounded (state : State Request) (last : Int) :
    (system.ReachableUnder OneByOne state →
      countWithin last state.uncleared ≤ maxFailures) ∧
    (system.ReachableUnder Orderly state →
      countWithin last state.failures ≤ maxFailures) := by
  constructor
  · intro reachable
    exact (guarded_of_reachable reachable).windowed last
  · intro reachable
    have both : Guarded state ∧ Remembered state :=
      TransitionSystem.ReachableUnder.invariant
        (fun state => Guarded state ∧ Remembered state)
        (fun _ isInitial => ⟨guarded_initial isInitial, remembered_initial isInitial⟩)
        (fun _ _ _ both allowed stepped =>
          ⟨guarded_step both.1 allowed.1 stepped,
            remembered_step both.1 both.2 allowed.2 stepped⟩)
        reachable
    exact both.2.windowed last

end Bound

/-! ### Five failures one by one, and six at once -/

/-- A key of the person whose sign-ins are numbered. -/
def idleKey : State (Fin 6) := ⟨0, SharedWindow.empty, [], [], fun _ => .ready⟩

def keyRun (labels : List (Label (Fin 6))) : State (Fin 6) :=
  (system.exec idleKey labels).getD idleKey

def failOne (request : Fin 6) : List (Label (Fin 6)) :=
  [.check request, .verify request .wrong, .record request, .tick 1000000]

def failFive : List (Label (Fin 6)) :=
  ([0, 1, 2, 3, 4] : List (Fin 6)).flatMap failOne ++ [.check 5]

def admits (state : State (Fin 6)) : Label (Fin 6) → Bool
  | .check _ => decide (∀ other, (state.phase other).underWay = false)
  | .clear _ => decide (countAfter (state.now - window) state.failures = 0)
  | _ => true

theorem orderly_of_admits (state : State (Fin 6)) (label : Label (Fin 6))
    (admitted : admits state label = true) : Orderly state label := by
  cases label with
  | check request =>
      have idle : ∀ other, (state.phase other).underWay = false := of_decide_eq_true admitted
      exact ⟨idle, trivial⟩
  | clear request =>
      have isStale : countAfter (state.now - window) state.failures = 0 :=
        of_decide_eq_true admitted
      exact ⟨trivial, isStale⟩
  | tick elapsed => exact ⟨trivial, trivial⟩
  | verify request verdict => exact ⟨trivial, trivial⟩
  | record request => exact ⟨trivial, trivial⟩

/-- The sixth sign-in finds the window full. -/
theorem signIns_bounded_five :
    (keyRun failFive).phase 5 = .locked 896 ∧
      countWithin 4000000 (keyRun failFive).failures ≤ maxFailures := by
  have run : system.Reaches Orderly idleKey (keyRun failFive) :=
    TransitionSystem.reaches_of_execIf orderly_of_admits failFive (by decide +kernel)
  refine ⟨by decide +kernel, (signIns_bounded _ 4000000).2 ⟨idleKey, ?_, run⟩⟩
  exact ⟨rfl, rfl, rfl, fun _ => rfl⟩

/-- All six are checked before one of them fails. -/
def atOnce : List (Label (Fin 6)) :=
  ([0, 1, 2, 3, 4, 5] : List (Fin 6)).map .check ++
    ([0, 1, 2, 3, 4, 5] : List (Fin 6)).map fun request => .verify request .wrong

theorem failures_exceed :
    ¬ ∀ state : State (Fin 6), system.Reachable state → ∀ last,
      countWithin last state.failures ≤ maxFailures := by
  intro bounded
  have isInitial : system.initial idleKey := ⟨rfl, rfl, rfl, fun _ => rfl⟩
  have reached : system.Reachable (keyRun atOnce) :=
    TransitionSystem.reachable_of_exec atOnce isInitial rfl
  have atMost := bounded _ reached 0
  revert atMost
  decide +kernel

end DbBuddy.Auth.LoginGuard
