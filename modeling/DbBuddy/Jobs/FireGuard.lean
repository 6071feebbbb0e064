import DbBuddy.Library.Exclusion
import DbBuddy.Library.TransitionSystem
import Mathlib.Data.Int.Basic
import Mathlib.Data.List.Nodup

/-!
# The fire guard of scheduled jobs

Every worker has a timer of its own for a job.  A fire claims the job with a
conditional update of `last_run_at`, which succeeds unless the job was stamped a
moment ago.  A run stamps the job as well: it sets the time it began at and commits
it when it ends.
-/

namespace DbBuddy.Jobs

open DbBuddy.Library

universe u v

/-! ## The guard and the runs -/

/-- The period of the job's trigger and `FIRE_DEDUPE_SECONDS`. -/
structure Config where
  period : ℤ
  dedupe : ℤ

/-- Where a worker stands with its fire for a period: it has read the clock, has
claimed the job, or runs it and began at a time. -/
inductive WorkerPhase where
  | idle
  | read (slot now : ℤ)
  | claimed (slot : ℤ)
  | running (slot started : ℤ)
  deriving DecidableEq

/-- Where a request to run the job now stands. -/
inductive RequestPhase where
  | ready
  | running (started : ℤ)
  | finished
  deriving DecidableEq

/-- A time that was or will be in `last_run_at`, and the period whose fire brought it
there, if it was one. -/
structure Stamp where
  slot : Option ℤ
  time : ℤ
  deriving DecidableEq

/-- `due` is the next time at which a worker's timer fires.  The three lists are
bookkeeping of the model: which worker has executed which period, which fire was
refused, and the stamps so far. -/
structure State (Worker : Type u) (Request : Type v) where
  clock : ℤ
  enabled : Bool
  lastRun : Option ℤ
  due : Worker → ℤ
  worker : Worker → WorkerPhase
  request : Request → RequestPhase
  executed : List (Worker × ℤ)
  refused : List (Worker × ℤ)
  stamps : List Stamp

inductive Label (Worker : Type u) (Request : Type v) where
  | tick (elapsed : ℕ)
  | enable (enabled : Bool)
  | fire (worker : Worker)
  | miss (worker : Worker)
  | claim (worker : Worker)
  | begin (worker : Worker)
  | finish (worker : Worker)
  | runNow (request : Request)
  | complete (request : Request)

section Steps

variable {Worker : Type u} {Request : Type v} [DecidableEq Worker]
variable [DecidableEq Request]

def State.setWorker (state : State Worker Request) (worker : Worker)
    (phase : WorkerPhase) : State Worker Request :=
  { state with worker := Function.update state.worker worker phase }

def State.setRequest (state : State Worker Request) (request : Request)
    (phase : RequestPhase) : State Worker Request :=
  { state with request := Function.update state.request request phase }

/-- The timer is set for the next period. -/
def State.rearm (config : Config) (state : State Worker Request) (worker : Worker) :
    State Worker Request :=
  { state with
    due := Function.update state.due worker (state.due worker + config.period) }

/-- The update of `_claim_fire` matches the row. -/
def unclaimed (config : Config) (lastRun : Option ℤ) (now : ℤ) : Bool :=
  match lastRun with
  | none => true
  | some last => decide (last < now - config.dedupe)

/-- One atomic step.  A fire may be missed while the worker still runs the job or was
not awake. -/
def step (config : Config) (state : State Worker Request) :
    Label Worker Request → Option (State Worker Request)
  | .tick elapsed => some { state with clock := state.clock + elapsed }
  | .enable enabled => some { state with enabled := enabled }
  | .fire worker =>
      if state.due worker ≤ state.clock then
        match state.worker worker with
        | .idle => some ((state.rearm config worker).setWorker worker
            (.read (state.due worker / config.period) state.clock))
        | _ => none
      else none
  | .miss worker =>
      if state.due worker ≤ state.clock then some (state.rearm config worker)
      else none
  | .claim worker =>
      match state.worker worker with
      | .read slot now =>
          if state.enabled then
            if unclaimed config state.lastRun now then some
              { state.setWorker worker (.claimed slot) with
                lastRun := some now
                executed := state.executed ++ [(worker, slot)]
                stamps := state.stamps ++ [⟨some slot, now⟩] }
            else some
              { state.setWorker worker .idle with
                refused := state.refused ++ [(worker, slot)] }
          else some (state.setWorker worker .idle)
      | _ => none
  | .begin worker =>
      match state.worker worker with
      | .claimed slot => some
          { state.setWorker worker (.running slot state.clock) with
            stamps := state.stamps ++ [⟨some slot, state.clock⟩] }
      | _ => none
  | .finish worker =>
      match state.worker worker with
      | .running _ started => some
          { state.setWorker worker .idle with lastRun := some started }
      | _ => none
  | .runNow request =>
      match state.request request with
      | .ready => some
          { state.setRequest request (.running state.clock) with
            stamps := state.stamps ++ [⟨none, state.clock⟩] }
      | _ => none
  | .complete request =>
      match state.request request with
      | .running started => some
          { state.setRequest request .finished with lastRun := some started }
      | _ => none

/-- No fire and no request so far; the job may have run before. -/
def Initial (state : State Worker Request) : Prop :=
  (∀ worker, state.worker worker = .idle) ∧
    (∀ request, state.request request = .ready) ∧
    state.executed = [] ∧ state.refused = [] ∧
    state.stamps = state.lastRun.toList.map fun last => ⟨none, last⟩

def system (config : Config) :
    TransitionSystem (State Worker Request) (Label Worker Request) where
  initial := Initial
  step := step config

/-! ## The law and when it holds -/

/-- No period is executed twice, and a fire is refused only where its period was
executed. -/
structure FiresOnce (state : State Worker Request) : Prop where
  once : (state.executed.map Prod.snd).Nodup
  unskipped : ∀ fire ∈ state.refused, fire.2 ∈ state.executed.map Prod.snd

/-- A fire comes soon after the stamps of its own period and long after all others, and
a run that ends is not older than what the row says. -/
def Spaced (config : Config) (state : State Worker Request) :
    Label Worker Request → Prop
  | .claim worker => 0 ≤ config.dedupe ∧
      ∀ slot now, state.worker worker = .read slot now →
        ∀ stamp ∈ state.stamps,
          (stamp.slot = some slot → now ≤ stamp.time + config.dedupe) ∧
            (stamp.slot ≠ some slot → stamp.time + config.dedupe < now)
  | .finish worker => ∀ slot started,
      state.worker worker = .running slot started →
        ∀ last, state.lastRun = some last → last ≤ started
  | .complete request => ∀ started,
      state.request request = .running started →
        ∀ last, state.lastRun = some last → last ≤ started
  | _ => True

end Steps

/-! ## What a step can do -/

section Inversion

variable {Worker : Type u} {Request : Type v} [DecidableEq Worker]
variable [DecidableEq Request] {config : Config}
variable {state next : State Worker Request} {worker : Worker} {request : Request}

theorem step_fire (stepped : step config state (.fire worker) = some next) :
    state.worker worker = .idle ∧
      next = (state.rearm config worker).setWorker worker
        (.read (state.due worker / config.period) state.clock) := by
  simp only [step] at stepped
  split at stepped
  · split at stepped
    · rename_i isIdle
      cases stepped
      exact ⟨isIdle, rfl⟩
    · cases stepped
  · cases stepped

theorem step_miss (stepped : step config state (.miss worker) = some next) :
    next = state.rearm config worker := by
  simp only [step] at stepped
  split at stepped
  · cases stepped
    rfl
  · cases stepped

theorem step_claim (stepped : step config state (.claim worker) = some next) :
    ∃ slot now, state.worker worker = .read slot now ∧
      ((unclaimed config state.lastRun now = true ∧
          next = { state.setWorker worker (.claimed slot) with
            lastRun := some now
            executed := state.executed ++ [(worker, slot)]
            stamps := state.stamps ++ [⟨some slot, now⟩] }) ∨
        (unclaimed config state.lastRun now = false ∧
          next = { state.setWorker worker .idle with
            refused := state.refused ++ [(worker, slot)] }) ∨
        next = state.setWorker worker .idle) := by
  simp only [step] at stepped
  split at stepped
  · rename_i slot now isRead
    refine ⟨slot, now, isRead, ?_⟩
    split at stepped
    · split at stepped
      · rename_i isUnclaimed
        cases stepped
        exact Or.inl ⟨isUnclaimed, rfl⟩
      · rename_i isClaimed
        cases stepped
        exact Or.inr (Or.inl ⟨Bool.not_eq_true _ ▸ isClaimed, rfl⟩)
    · cases stepped
      exact Or.inr (Or.inr rfl)
  · cases stepped

theorem step_begin (stepped : step config state (.begin worker) = some next) :
    ∃ slot, state.worker worker = .claimed slot ∧
      next = { state.setWorker worker (.running slot state.clock) with
        stamps := state.stamps ++ [⟨some slot, state.clock⟩] } := by
  simp only [step] at stepped
  split at stepped
  · rename_i slot isClaimed
    cases stepped
    exact ⟨slot, isClaimed, rfl⟩
  · cases stepped

theorem step_finish (stepped : step config state (.finish worker) = some next) :
    ∃ slot started, state.worker worker = .running slot started ∧
      next = { state.setWorker worker .idle with lastRun := some started } := by
  simp only [step] at stepped
  split at stepped
  · rename_i slot started isRunning
    cases stepped
    exact ⟨slot, started, isRunning, rfl⟩
  · cases stepped

theorem step_runNow (stepped : step config state (.runNow request) = some next) :
    next = { state.setRequest request (.running state.clock) with
      stamps := state.stamps ++ [⟨none, state.clock⟩] } := by
  simp only [step] at stepped
  split at stepped
  · cases stepped
    rfl
  · cases stepped

theorem step_complete
    (stepped : step config state (.complete request) = some next) :
    ∃ started, state.request request = .running started ∧
      next = { state.setRequest request .finished with lastRun := some started } := by
  simp only [step] at stepped
  split at stepped
  · rename_i started isRunning
    cases stepped
    exact ⟨started, isRunning, rfl⟩
  · cases stepped

end Inversion

/-! ## The invariant -/

section Invariant

variable {Worker : Type u} {Request : Type v} {config : Config}

/-- What the row says or will say is stamped, and it says nothing older than any
claim. -/
structure Stamped (state : State Worker Request) : Prop where
  last : ∀ last, state.lastRun = some last → ∃ slot, ⟨slot, last⟩ ∈ state.stamps
  running : ∀ worker slot started, state.worker worker = .running slot started →
    ⟨some slot, started⟩ ∈ state.stamps
  requested : ∀ request started, state.request request = .running started →
    ⟨none, started⟩ ∈ state.stamps
  claims : ∀ slot ∈ state.executed.map Prod.snd, ∃ time,
    ⟨some slot, time⟩ ∈ state.stamps ∧
      ∃ last, state.lastRun = some last ∧ time ≤ last
  claimed : ∀ worker slot, state.worker worker = .claimed slot →
    slot ∈ state.executed.map Prod.snd
  owned : ∀ slot time, ⟨some slot, time⟩ ∈ state.stamps →
    slot ∈ state.executed.map Prod.snd

variable {state next : State Worker Request}

theorem unclaimed_iff {lastRun : Option ℤ} {now : ℤ} :
    unclaimed config lastRun now = true ↔
      ∀ last, lastRun = some last → last + config.dedupe < now := by
  unfold unclaimed
  cases lastRun with
  | none => simp
  | some last =>
      simp only [decide_eq_true_eq, Option.some.injEq, forall_eq']
      omega

/-- A fire that is spaced finds the job claimed if its period was executed. -/
theorem Stamped.claimed_of_executed (stamped : Stamped state) {slot now : ℤ}
    (spaced : ∀ stamp ∈ state.stamps,
      (stamp.slot = some slot → now ≤ stamp.time + config.dedupe) ∧
        (stamp.slot ≠ some slot → stamp.time + config.dedupe < now))
    (executed : slot ∈ state.executed.map Prod.snd) :
    unclaimed config state.lastRun now = false := by
  obtain ⟨time, isStamp, last, isLast, notOlder⟩ := stamped.claims slot executed
  obtain ⟨owner, isOwned⟩ := stamped.last last isLast
  rw [Bool.eq_false_iff]
  intro isUnclaimed
  have long := unclaimed_iff.mp isUnclaimed last isLast
  have soon := (spaced _ isStamp).1 rfl
  dsimp only at soon
  by_cases isOwn : owner = some slot
  · have lastSoon := (spaced _ isOwned).1 isOwn
    dsimp only at lastSoon
    omega
  · omega

/-- A spaced fire is refused only where its period was executed. -/
theorem Stamped.executed_of_claimed (stamped : Stamped state) {slot now : ℤ}
    (spaced : ∀ stamp ∈ state.stamps,
      (stamp.slot = some slot → now ≤ stamp.time + config.dedupe) ∧
        (stamp.slot ≠ some slot → stamp.time + config.dedupe < now))
    (isClaimed : unclaimed config state.lastRun now = false) :
    slot ∈ state.executed.map Prod.snd := by
  have notUnclaimed : ¬unclaimed config state.lastRun now = true := by
    rw [isClaimed]
    exact Bool.false_ne_true
  rw [unclaimed_iff] at notUnclaimed
  simp only [not_forall, exists_prop] at notUnclaimed
  obtain ⟨last, isLast, recent⟩ := notUnclaimed
  obtain ⟨owner, isOwned⟩ := stamped.last last isLast
  by_cases isOwn : owner = some slot
  · rw [isOwn] at isOwned
    exact stamped.owned slot last isOwned
  · have long := (spaced _ isOwned).2 isOwn
    dsimp only at long
    omega

theorem stamped_initial (isInitial : Initial state) : Stamped state := by
  obtain ⟨idle, ready, noneExecuted, _, isStamps⟩ := isInitial
  refine ⟨?_, ?_, ?_, ?_, ?_, ?_⟩
  · intro last isLast
    refine ⟨none, ?_⟩
    rw [isStamps, isLast]
    exact List.mem_singleton_self _
  · intro worker slot started isRunning
    rw [idle worker] at isRunning
    cases isRunning
  · intro request started isRunning
    rw [ready request] at isRunning
    cases isRunning
  · intro slot isExecuted
    rw [noneExecuted] at isExecuted
    cases isExecuted
  · intro worker slot isClaimed
    rw [idle worker] at isClaimed
    cases isClaimed
  · intro slot time isStamp
    rw [isStamps] at isStamp
    obtain ⟨last, _, same⟩ := List.mem_map.mp isStamp
    cases same

/-- A later stamp in the row. -/
theorem Stamped.restamp (stamped : Stamped state) {slot : Option ℤ} {started : ℤ}
    (isStamp : ⟨slot, started⟩ ∈ state.stamps)
    (newer : ∀ last, state.lastRun = some last → last ≤ started) :
    Stamped { state with lastRun := some started } := by
  refine ⟨?_, stamped.running, stamped.requested, ?_, stamped.claimed, stamped.owned⟩
  · intro last isLast
    cases isLast
    exact ⟨slot, isStamp⟩
  · intro other isExecuted
    obtain ⟨time, isClaim, last, isLast, notOlder⟩ := stamped.claims other isExecuted
    exact ⟨time, isClaim, started, rfl, Int.le_trans notOlder (newer last isLast)⟩

/-- One stamp more. -/
theorem Stamped.stamp (stamped : Stamped state) {stamp : Stamp}
    (owned : ∀ slot, stamp.slot = some slot → slot ∈ state.executed.map Prod.snd) :
    Stamped { state with stamps := state.stamps ++ [stamp] } := by
  refine ⟨?_, ?_, ?_, ?_, stamped.claimed, ?_⟩
  · intro last isLast
    obtain ⟨slot, isStamp⟩ := stamped.last last isLast
    exact ⟨slot, List.mem_append_left _ isStamp⟩
  · intro worker slot started isRunning
    exact List.mem_append_left _ (stamped.running worker slot started isRunning)
  · intro request started isRunning
    exact List.mem_append_left _ (stamped.requested request started isRunning)
  · intro slot isExecuted
    obtain ⟨time, isClaim, isLast⟩ := stamped.claims slot isExecuted
    exact ⟨time, List.mem_append_left _ isClaim, isLast⟩
  · intro slot time isStamp
    rcases List.mem_append.mp isStamp with isOld | isNew
    · exact stamped.owned slot time isOld
    · rw [← List.mem_singleton.mp isNew] at owned
      exact owned slot rfl

section Phases

variable [DecidableEq Worker] [DecidableEq Request]

omit [DecidableEq Request] in
/-- A worker goes on. -/
theorem Stamped.work (stamped : Stamped state) {worker : Worker}
    {phase : WorkerPhase}
    (runs : ∀ slot started, phase = .running slot started →
      ⟨some slot, started⟩ ∈ state.stamps)
    (claims : ∀ slot, phase = .claimed slot →
      slot ∈ state.executed.map Prod.snd) :
    Stamped (state.setWorker worker phase) := by
  refine ⟨stamped.last, ?_, stamped.requested, stamped.claims, ?_, stamped.owned⟩
  · intro other slot started isRunning
    rcases update_eq_iff.mp isRunning with ⟨_, isPhase⟩ | ⟨_, wasRunning⟩
    · exact runs slot started isPhase
    · exact stamped.running other slot started wasRunning
  · intro other slot isClaimed
    rcases update_eq_iff.mp isClaimed with ⟨_, isPhase⟩ | ⟨_, wasClaimed⟩
    · exact claims slot isPhase
    · exact stamped.claimed other slot wasClaimed

omit [DecidableEq Worker] [DecidableEq Request] in
/-- The clock, the setting, the timers and the refusals are not looked at. -/
theorem Stamped.frame {later : State Worker Request} (stamped : Stamped state)
    (sameLast : later.lastRun = state.lastRun) (sameWorker : later.worker = state.worker)
    (sameRequest : later.request = state.request)
    (sameExecuted : later.executed = state.executed)
    (sameStamps : later.stamps = state.stamps) : Stamped later := by
  constructor
  · rw [sameLast, sameStamps]
    exact stamped.last
  · rw [sameWorker, sameStamps]
    exact stamped.running
  · rw [sameRequest, sameStamps]
    exact stamped.requested
  · rw [sameExecuted, sameStamps, sameLast]
    exact stamped.claims
  · rw [sameWorker, sameExecuted]
    exact stamped.claimed
  · rw [sameStamps, sameExecuted]
    exact stamped.owned

omit [DecidableEq Worker] in
/-- A request goes on. -/
theorem Stamped.ask (stamped : Stamped state) {request : Request}
    {phase : RequestPhase}
    (runs : ∀ started, phase = .running started → ⟨none, started⟩ ∈ state.stamps) :
    Stamped (state.setRequest request phase) := by
  refine ⟨stamped.last, stamped.running, ?_, stamped.claims, stamped.claimed,
    stamped.owned⟩
  intro other started isRunning
  rcases update_eq_iff.mp isRunning with ⟨_, isPhase⟩ | ⟨_, wasRunning⟩
  · exact runs started isPhase
  · exact stamped.requested other started wasRunning

omit [DecidableEq Request] in
/-- A fire claims the job. -/
theorem Stamped.claim (stamped : Stamped state) {worker : Worker} {slot now : ℤ}
    (positive : 0 ≤ config.dedupe)
    (isUnclaimed : unclaimed config state.lastRun now = true) :
    Stamped { state.setWorker worker (.claimed slot) with
      lastRun := some now
      executed := state.executed ++ [(worker, slot)]
      stamps := state.stamps ++ [⟨some slot, now⟩] } := by
  have isExecuted : ∀ other ∈ (state.executed ++ [(worker, slot)]).map Prod.snd,
      other ∈ state.executed.map Prod.snd ∨ other = slot := by
    intro other isIn
    rw [List.map_append, List.mem_append] at isIn
    exact isIn.imp_right fun isNew => List.mem_singleton.mp isNew
  have stays : ∀ other ∈ state.executed.map Prod.snd,
      other ∈ (state.executed ++ [(worker, slot)]).map Prod.snd := by
    intro other isIn
    rw [List.map_append]
    exact List.mem_append_left _ isIn
  have isNow : ∀ other, other = slot →
      other ∈ (state.executed ++ [(worker, slot)]).map Prod.snd := by
    intro other same
    rw [List.map_append, same]
    exact List.mem_append_right _ (List.mem_singleton_self _)
  refine ⟨?_, ?_, ?_, ?_, ?_, ?_⟩
  · intro last isLast
    cases isLast
    exact ⟨some slot, List.mem_append_right _ (List.mem_singleton_self _)⟩
  · intro other found started isRunning
    rcases update_eq_iff.mp isRunning with ⟨_, isPhase⟩ | ⟨_, wasRunning⟩
    · cases isPhase
    · exact List.mem_append_left _ (stamped.running other found started wasRunning)
  · intro request started isRunning
    exact List.mem_append_left _ (stamped.requested request started isRunning)
  · intro other isIn
    rcases isExecuted other isIn with wasExecuted | isNew
    · obtain ⟨time, isClaim, last, isLast, notOlder⟩ :=
        stamped.claims other wasExecuted
      have earlier := unclaimed_iff.mp isUnclaimed last isLast
      exact ⟨time, List.mem_append_left _ isClaim, now, rfl, by omega⟩
    · rw [isNew]
      exact ⟨now, List.mem_append_right _ (List.mem_singleton_self _), now, rfl,
        Int.le_refl now⟩
  · intro other found isClaimed
    rcases update_eq_iff.mp isClaimed with ⟨_, isPhase⟩ | ⟨_, wasClaimed⟩
    · cases isPhase
      exact isNow _ rfl
    · exact stays _ (stamped.claimed other found wasClaimed)
  · intro found time isStamp
    rcases List.mem_append.mp isStamp with isOld | isNew
    · exact stays _ (stamped.owned found time isOld)
    · cases List.mem_singleton.mp isNew
      exact isNow _ rfl

/-! ## The steps keep the law -/

theorem stamped_step (stamped : Stamped state) {label : Label Worker Request}
    (spaced : Spaced config state label)
    (stepped : step config state label = some next) : Stamped next := by
  cases label with
  | tick elapsed =>
      cases stepped
      exact stamped.frame rfl rfl rfl rfl rfl
  | enable enabled =>
      cases stepped
      exact stamped.frame rfl rfl rfl rfl rfl
  | fire worker =>
      obtain ⟨_, rfl⟩ := step_fire stepped
      have rearmed : Stamped (state.rearm config worker) :=
        stamped.frame rfl rfl rfl rfl rfl
      exact rearmed.work (fun _ _ isPhase => by cases isPhase)
        (fun _ isPhase => by cases isPhase)
  | miss worker =>
      rw [step_miss stepped]
      exact stamped.frame rfl rfl rfl rfl rfl
  | claim worker =>
      obtain ⟨slot, now, isRead, isNext⟩ := step_claim stepped
      have idles : Stamped (state.setWorker worker .idle) :=
        stamped.work (fun _ _ isPhase => by cases isPhase)
          (fun _ isPhase => by cases isPhase)
      rcases isNext with ⟨isUnclaimed, rfl⟩ | ⟨_, rfl⟩ | rfl
      · exact stamped.claim spaced.1 isUnclaimed
      · exact idles.frame rfl rfl rfl rfl rfl
      · exact idles
  | begin worker =>
      obtain ⟨slot, isClaimed, rfl⟩ := step_begin stepped
      have isExecuted := stamped.claimed worker slot isClaimed
      have stampedMore : Stamped { state with
          stamps := state.stamps ++ [⟨some slot, state.clock⟩] } :=
        stamped.stamp fun other isSlot => by
          cases isSlot
          exact isExecuted
      refine stampedMore.work (fun found started isPhase => ?_)
        (fun _ isPhase => by cases isPhase)
      cases isPhase
      exact List.mem_append_right _ (List.mem_singleton_self _)
  | finish worker =>
      obtain ⟨slot, started, isRunning, rfl⟩ := step_finish stepped
      have restamped := stamped.restamp (stamped.running worker slot started isRunning)
        (spaced slot started isRunning)
      exact restamped.work (fun _ _ isPhase => by cases isPhase)
        (fun _ isPhase => by cases isPhase)
  | runNow request =>
      rw [step_runNow stepped]
      have stampedMore : Stamped { state with
          stamps := state.stamps ++ [⟨none, state.clock⟩] } :=
        stamped.stamp fun other isSlot => by cases isSlot
      refine stampedMore.ask fun started isPhase => ?_
      cases isPhase
      exact List.mem_append_right _ (List.mem_singleton_self _)
  | complete request =>
      obtain ⟨started, isRunning, rfl⟩ := step_complete stepped
      have restamped := stamped.restamp (stamped.requested request started isRunning)
        (spaced started isRunning)
      exact restamped.ask fun _ isPhase => by cases isPhase

theorem firesOnce_step (stamped : Stamped state) (law : FiresOnce state)
    {label : Label Worker Request} (spaced : Spaced config state label)
    (stepped : step config state label = some next) : FiresOnce next := by
  obtain ⟨once, unskipped⟩ := law
  cases label with
  | tick elapsed =>
      cases stepped
      exact ⟨once, unskipped⟩
  | enable enabled =>
      cases stepped
      exact ⟨once, unskipped⟩
  | fire worker =>
      obtain ⟨_, rfl⟩ := step_fire stepped
      exact ⟨once, unskipped⟩
  | miss worker =>
      rw [step_miss stepped]
      exact ⟨once, unskipped⟩
  | claim worker =>
      obtain ⟨slot, now, isRead, isNext⟩ := step_claim stepped
      have spacedHere := spaced.2 slot now isRead
      rcases isNext with ⟨isUnclaimed, rfl⟩ | ⟨isClaimed, rfl⟩ | rfl
      · have isNew : slot ∉ state.executed.map Prod.snd := by
          intro executed
          rw [stamped.claimed_of_executed spacedHere executed] at isUnclaimed
          cases isUnclaimed
        refine ⟨?_, ?_⟩
        · rw [List.map_append, List.nodup_append]
          refine ⟨once, List.nodup_singleton slot, ?_⟩
          intro one isOld other isLast same
          rw [same, List.mem_singleton.mp isLast] at isOld
          exact isNew isOld
        · intro fire isRefused
          rw [List.map_append]
          exact List.mem_append_left _ (unskipped fire isRefused)
      · refine ⟨once, ?_⟩
        intro fire isRefused
        rcases List.mem_append.mp isRefused with wasRefused | isNow
        · exact unskipped fire wasRefused
        · rw [List.mem_singleton.mp isNow]
          exact stamped.executed_of_claimed spacedHere isClaimed
      · exact ⟨once, unskipped⟩
  | begin worker =>
      obtain ⟨slot, _, rfl⟩ := step_begin stepped
      exact ⟨once, unskipped⟩
  | finish worker =>
      obtain ⟨slot, started, _, rfl⟩ := step_finish stepped
      exact ⟨once, unskipped⟩
  | runNow request =>
      rw [step_runNow stepped]
      exact ⟨once, unskipped⟩
  | complete request =>
      obtain ⟨started, _, rfl⟩ := step_complete stepped
      exact ⟨once, unskipped⟩

end Phases

end Invariant

/-- In every run whose fires are spaced, every period is executed once at most, and no
fire is refused but for its own period's execution. -/
theorem jobs_fireOnce {Worker : Type u} {Request : Type v} [DecidableEq Worker]
    [DecidableEq Request] (config : Config) {state : State Worker Request}
    (reachable : (system config).ReachableUnder (Spaced config) state) :
    FiresOnce state := by
  have both : Stamped state ∧ FiresOnce state := by
    refine reachable.invariant (fun state => Stamped state ∧ FiresOnce state) ?_ ?_
    · intro start isInitial
      refine ⟨stamped_initial isInitial, ?_, ?_⟩
      · rw [isInitial.2.2.1]
        exact List.nodup_nil
      · intro fire isRefused
        rw [isInitial.2.2.2.1] at isRefused
        cases isRefused
    · intro before label after holds spaced stepped
      exact ⟨stamped_step holds.1 spaced stepped,
        firesOnce_step holds.1 holds.2 spaced stepped⟩
  exact both.2

/-! ### Two workers and an hourly job -/

/-- Every hour, and fires within half a minute are the same one. -/
def hourly : Config := ⟨3600, 30⟩

/-- The second worker was started so much later. -/
def twoWorkers (offset : ℤ) : State Bool Unit where
  clock := 0
  enabled := true
  lastRun := none
  due worker := if worker then offset else 0
  worker := fun _ => .idle
  request := fun _ => .ready
  executed := []
  refused := []
  stamps := []

theorem twoWorkers_initial (offset : ℤ) : Initial (twoWorkers offset) :=
  ⟨fun _ => rfl, fun _ => rfl, rfl, rfl, rfl⟩

def workersRun (offset : ℤ) (labels : List (Label Bool Unit)) : State Bool Unit :=
  ((system hourly).exec (twoWorkers offset) labels).getD (twoWorkers offset)

/-- A worker fires and claims the job if it can. -/
def fires (worker : Bool) : List (Label Bool Unit) :=
  [.fire worker, .claim worker]

/-- Both fire within the same seconds, and the second one stands down. -/
theorem jobs_fireOnce_jitter :
    FiresOnce (workersRun 2 (fires false ++ [.tick 2] ++ fires true)) ∧
      (workersRun 2 (fires false ++ [.tick 2] ++ fires true)).refused =
        [(true, 0)] := by
  refine ⟨?_, by decide⟩
  have first : (system hourly).Reaches (Spaced hourly) (twoWorkers 2)
      (workersRun 2 [.fire false]) :=
    TransitionSystem.Reaches.single (.fire false) trivial rfl
  have claimed : (system hourly).Reaches (Spaced hourly) (twoWorkers 2)
      (workersRun 2 (fires false)) := by
    refine TransitionSystem.Reaches.tail (.claim false) first ⟨by decide, ?_⟩ rfl
    intro slot now _ stamp isStamp
    cases isStamp
  have ticked : (system hourly).Reaches (Spaced hourly) (twoWorkers 2)
      (workersRun 2 (fires false ++ [.tick 2])) :=
    TransitionSystem.Reaches.tail (.tick 2) claimed trivial rfl
  have second : (system hourly).Reaches (Spaced hourly) (twoWorkers 2)
      (workersRun 2 (fires false ++ [.tick 2, .fire true])) :=
    TransitionSystem.Reaches.tail (.fire true) ticked trivial rfl
  have refused : (system hourly).Reaches (Spaced hourly) (twoWorkers 2)
      (workersRun 2 (fires false ++ [.tick 2] ++ fires true)) := by
    refine TransitionSystem.Reaches.tail (.claim true) second ⟨by decide, ?_⟩ rfl
    intro slot now isRead stamp isStamp
    cases isRead
    rw [List.mem_singleton.mp isStamp]
    exact ⟨fun _ => by decide, fun different => absurd rfl different⟩
  exact jobs_fireOnce hourly ⟨twoWorkers 2, twoWorkers_initial 2, refused⟩

/-- Either part of the law fails: the second worker was started half an hour after the
first one, or the job is run by hand just before it is due. -/
theorem jobs_fireTwice :
    (¬∀ state : State Bool Unit, (system hourly).Reachable state →
      (state.executed.map Prod.snd).Nodup) ∧
    ¬∀ state : State Bool Unit, (system hourly).Reachable state →
      ∀ fire ∈ state.refused, fire.2 ∈ state.executed.map Prod.snd := by
  constructor
  · intro once
    have reached : (system hourly).Reachable
        (workersRun 1800 (fires false ++ [.tick 1800] ++ fires true)) :=
      TransitionSystem.reachable_of_exec
        (fires false ++ [.tick 1800] ++ fires true) (twoWorkers_initial 1800) rfl
    exact absurd (once _ reached) (by decide)
  · intro unskipped
    have reached : (system hourly).Reachable
        (workersRun 0 ([.runNow (), .complete (), .tick 20] ++ fires false)) :=
      TransitionSystem.reachable_of_exec
        ([.runNow (), .complete (), .tick 20] ++ fires false)
        (twoWorkers_initial 0) rfl
    have isRefused : (false, 0) ∈
        (workersRun 0 ([.runNow (), .complete (), .tick 20] ++ fires false)).refused := by
      decide
    exact absurd (unskipped _ reached _ isRefused) (by decide)

end DbBuddy.Jobs
