import DbBuddy.Jobs.FireGuard
import DbBuddy.Library.JsonValues
import DbBuddy.Library.OrderedDict
import DbBuddy.Publishing.Endpoints

/-!
# The timers of scheduled jobs

The table of jobs, the endpoints that change it, and the scheduler of the one process
that runs it.  What APScheduler accepts, and Python's `int` of a JSON value, are
parameters.  A timer that fires claims the row and executes the job.
-/

namespace DbBuddy.Jobs.Timers

open DbBuddy.Library
open DbBuddy.Publishing (HttpError Table check found bind_eq_ok check_eq_ok found_eq_ok)

/-! ## Jobs and triggers -/

structure ScheduledJob where
  userId : String
  jobType : String
  targetRef : String
  scheduleKind : String
  scheduleConfig : Option (List (String × Json))
  enabled : Bool
  lastRunAt : Option ℤ
  lastStatus : Option String

inductive Trigger where
  | interval (minutes : ℤ)
  | cron (dayOfWeek : Option Json) (hour minute : ℤ)

/-- What is outside: `int` of a value of the configuration, and which triggers
APScheduler builds. -/
structure Triggers where
  toInt : Json → Option ℤ
  builds : Trigger → Bool

def JOB_TYPES : List String := ["report_refresh", "context_rebuild"]

def SCHEDULE_KINDS : List String := ["interval", "daily", "weekly", "manual"]

/-- An exception that nothing handles. -/
def raised : HttpError := ⟨500, "Internal Server Error"⟩

section Scheduler

variable (triggers : Triggers)

/-- `int(cfg.get(key, default))` -/
def intOf (config : List (String × Json)) (key : String) (default : ℤ) :
    Except HttpError ℤ :=
  found (triggers.toInt ((config.lookup key).getD (.integer default))) raised

def build (trigger : Trigger) : Except HttpError (Option Trigger) := do
  check (triggers.builds trigger = true) raised
  return some trigger

/-- `_trigger` -/
def trigger (job : ScheduledJob) : Except HttpError (Option Trigger) :=
  let config := job.scheduleConfig.getD []
  if job.scheduleKind = "interval" then do
    let minutes ← intOf triggers config "minutes" 60
    build triggers (.interval (max 1 minutes))
  else if job.scheduleKind = "daily" then do
    let hour ← intOf triggers config "hour" 6
    let minute ← intOf triggers config "minute" 0
    build triggers (.cron none hour minute)
  else if job.scheduleKind = "weekly" then do
    let hour ← intOf triggers config "hour" 6
    let minute ← intOf triggers config "minute" 0
    build triggers (.cron (some ((config.lookup "day_of_week").getD (.string "mon")))
      hour minute)
  else return none

/-- `sync_job`: the old timer goes before the new trigger is built. -/
def syncJob (timers : Option (Table Trigger)) (id : String) (job : ScheduledJob) :
    Option (Table Trigger) × Except HttpError Unit :=
  match timers with
  | none => (none, .ok ())
  | some table =>
      if job.enabled = false then (some (table.erase id), .ok ())
      else match trigger triggers job with
        | .error error => (some (table.erase id), .error error)
        | .ok none => (some (table.erase id), .ok ())
        | .ok (some trigger) => (some ((table.erase id).insert id trigger), .ok ())

/-- The rows that a start registers; the first that fails ends it. -/
def startAll : List (Sigma fun _ : String => ScheduledJob) → Table Trigger →
    Except HttpError (Table Trigger)
  | [], table => .ok table
  | ⟨id, job⟩ :: rest, table =>
      if job.enabled = false then startAll rest table
      else match syncJob triggers (some table) id job with
        | (_, .error error) => .error error
        | (synced, .ok ()) => startAll rest (synced.getD table)

end Scheduler

/-! ## Requests -/

/-- The rows, the timers while the scheduler is on, and as bookkeeping what timers
have executed: the job, the timer that fired and the row it found. -/
structure State where
  jobs : Table ScheduledJob
  timers : Option (Table Trigger)
  executed : List (String × Trigger × ScheduledJob)

structure JobIn where
  jobType : String
  targetRef : String
  scheduleKind : String := "manual"
  scheduleConfig : Option (List (String × Json)) := none
  enabled : Bool := true

structure JobPatch where
  scheduleKind : Option String := none
  scheduleConfig : Option (List (String × Json)) := none
  enabled : Option Bool := none

/-- `_validate_target`, given who owns the report's chart or the connection. -/
def validateTarget (user jobType : String) (targetOwner : Option String) :
    Except HttpError Unit :=
  if jobType = "report_refresh" then
    check (targetOwner = some user) ⟨400, "Report not found or not yours."⟩
  else if jobType = "context_rebuild" then
    check (targetOwner = some user) ⟨400, "Connection not found or not yours."⟩
  else return ()

def validateJob (user : String) (req : JobIn) (targetOwner : Option String) :
    Except HttpError Unit := do
  check (req.jobType ∈ JOB_TYPES) ⟨400, "Unknown job type: " ++ req.jobType⟩
  check (req.scheduleKind ∈ SCHEDULE_KINDS) ⟨400, "Unknown schedule: " ++ req.scheduleKind⟩
  validateTarget user req.jobType targetOwner

def newJob (user : String) (req : JobIn) : ScheduledJob where
  userId := user
  jobType := req.jobType
  targetRef := req.targetRef
  scheduleKind := req.scheduleKind
  scheduleConfig := req.scheduleConfig
  enabled := req.enabled
  lastRunAt := none
  lastStatus := none

section Requests

variable (triggers : Triggers)

/-- The row is committed before its timer is set. -/
def commitAndSync (state : State) (id : String) (job : ScheduledJob) :
    State × Except HttpError Unit :=
  let synced := syncJob triggers state.timers id job
  ({ state with jobs := state.jobs.insert id job, timers := synced.1 }, synced.2)

def createJob (state : State) (user id : String) (req : JobIn)
    (targetOwner : Option String) : State × Except HttpError Unit :=
  match validateJob user req targetOwner with
  | .error error => (state, .error error)
  | .ok () => commitAndSync triggers state id (newJob user req)

/-- `_own_or_404` -/
def ownOr404 (state : State) (user id : String) : Except HttpError ScheduledJob := do
  let job ← found (state.jobs.lookup id) ⟨404, "Job not found"⟩
  check (job.userId = user) ⟨404, "Job not found"⟩
  return job

def patched (job : ScheduledJob) (req : JobPatch) : ScheduledJob :=
  { job with
    scheduleKind := req.scheduleKind.getD job.scheduleKind
    scheduleConfig := req.scheduleConfig.or job.scheduleConfig
    enabled := req.enabled.getD job.enabled }

def validatePatch (state : State) (user id : String) (req : JobPatch) :
    Except HttpError ScheduledJob := do
  let job ← ownOr404 state user id
  check (∀ kind, req.scheduleKind = some kind → kind ∈ SCHEDULE_KINDS)
    ⟨400, "Unknown schedule: " ++ req.scheduleKind.getD ""⟩
  return patched job req

def updateJob (state : State) (user id : String) (req : JobPatch) :
    State × Except HttpError Unit :=
  match validatePatch state user id req with
  | .error error => (state, .error error)
  | .ok job => commitAndSync triggers state id job

def deleteJob (state : State) (user id : String) : State × Except HttpError Unit :=
  match ownOr404 state user id with
  | .error error => (state, .error error)
  | .ok _ =>
      ({ state with
        jobs := state.jobs.erase id
        timers := state.timers.map fun table => table.erase id }, .ok ())

/-- The jobs of a deleted account; their timers stay. -/
def purgeJobs (state : State) (user : String) : State :=
  { state with jobs := state.jobs.keepIf fun job => decide (job.userId ≠ user) }

/-- `execute_job` on the row: when it began and how it ended. -/
def executedRow (job : ScheduledJob) (now : ℤ) (succeeds : Bool) : ScheduledJob :=
  { job with
    lastRunAt := some now
    lastStatus := some (if succeeds then "success" else "error") }

def runJobNow (state : State) (user id : String) (now : ℤ) (succeeds : Bool) :
    State × Except HttpError Unit :=
  match ownOr404 state user id with
  | .error error => (state, .error error)
  | .ok job =>
      ({ state with jobs := state.jobs.insert id (executedRow job now succeeds) }, .ok ())

/-- `_run_job_by_id`: a row that is gone, disabled or just stamped is left alone. -/
def runJobById (config : Config) (state : State) (id : String) (timer : Trigger)
    (now : ℤ) (succeeds : Bool) : State :=
  match state.jobs.lookup id with
  | none => state
  | some job =>
      if job.enabled && unclaimed config job.lastRunAt now then
        { state with
          jobs := state.jobs.insert id (executedRow job now succeeds)
          executed := state.executed ++ [(id, timer, job)] }
      else state

/-- `start`; where it raises, the server does not come up. -/
def start (state : State) : State × Except HttpError Unit :=
  match state.timers with
  | some _ => (state, .ok ())
  | none =>
      match startAll triggers state.jobs.entries ∅ with
      | .error error => (state, .error error)
      | .ok table => ({ state with timers := some table }, .ok ())

end Requests

/-! ## Sequences of events -/

inductive Label where
  | start
  | shutdown
  | createJob (user id : String) (req : JobIn) (targetOwner : Option String)
  | updateJob (user id : String) (req : JobPatch)
  | deleteJob (user id : String)
  | purgeJobs (user : String)
  | runJobNow (user id : String) (now : ℤ) (succeeds : Bool)
  | fire (id : String) (now : ℤ) (succeeds : Bool)

/-- A request may fail and still have changed the tables. -/
def step (triggers : Triggers) (config : Config) (state : State) : Label → Option State
  | .start => some (start triggers state).1
  | .shutdown => some { state with timers := none }
  | .createJob user id req targetOwner =>
      if (state.jobs.lookup id).isNone then
        some (createJob triggers state user id req targetOwner).1
      else none
  | .updateJob user id req => some (updateJob triggers state user id req).1
  | .deleteJob user id => some (deleteJob state user id).1
  | .purgeJobs user => some (purgeJobs state user)
  | .runJobNow user id now succeeds => some (runJobNow state user id now succeeds).1
  | .fire id now succeeds =>
      match state.timers.bind fun table => table.lookup id with
      | some timer => some (runJobById config state id timer now succeeds)
      | none => none

/-- Any table of jobs, before a start. -/
def Initial (state : State) : Prop :=
  state.timers = none ∧ state.executed = []

def system (triggers : Triggers) (config : Config) : TransitionSystem State Label where
  initial := Initial
  step := step triggers config

/-! ## Timers and rows -/

section Following

variable {triggers : Triggers} {config : Config} {state after : State}

/-- A row that a timer stands for, and which. -/
def Timed (triggers : Triggers) (job : ScheduledJob) (timer : Trigger) : Prop :=
  job.enabled = true ∧ trigger triggers job = .ok (some timer)

/-- A timer is the one of its row, if there still is one, and each row that has a
schedule to build has its timer. -/
structure Matches (triggers : Triggers) (jobs : Table ScheduledJob)
    (table : Table Trigger) : Prop where
  sound : ∀ id timer job, table.lookup id = some timer → jobs.lookup id = some job →
    Timed triggers job timer
  complete : ∀ id timer job, jobs.lookup id = some job → Timed triggers job timer →
    table.lookup id = some timer

theorem trigger_congr {job other : ScheduledJob}
    (sameKind : other.scheduleKind = job.scheduleKind)
    (sameConfig : other.scheduleConfig = job.scheduleConfig) :
    trigger triggers other = trigger triggers job := by
  unfold trigger
  rw [sameKind, sameConfig]

theorem timed_congr {job other : ScheduledJob} {timer : Trigger}
    (sameKind : other.scheduleKind = job.scheduleKind)
    (sameConfig : other.scheduleConfig = job.scheduleConfig)
    (sameEnabled : other.enabled = job.enabled) :
    Timed triggers other timer ↔ Timed triggers job timer := by
  unfold Timed
  rw [trigger_congr sameKind sameConfig, sameEnabled]

/-- Syncing touches one timer, which is the row's afterwards. -/
theorem syncJob_spec {table : Table Trigger} {id : String} {job : ScheduledJob} :
    ∃ synced, (syncJob triggers (some table) id job).1 = some synced ∧
      (∀ other, other ≠ id → synced.lookup other = table.lookup other) ∧
      (∀ timer, synced.lookup id = some timer ↔ Timed triggers job timer) := by
  have gone : ∀ timer, (table.erase id).lookup id ≠ some timer := by
    intro timer
    rw [AList.lookup_erase]
    exact nofun
  unfold syncJob Timed
  dsimp only
  cases isEnabled : job.enabled with
  | false =>
      refine ⟨table.erase id, rfl, fun other different => AList.lookup_erase_ne different, ?_⟩
      intro timer
      exact iff_of_false (gone timer) (fun timed => nomatch timed.1)
  | true =>
      rw [if_neg (by decide)]
      cases isBuilt : trigger triggers job with
      | error error =>
          refine ⟨table.erase id, rfl, fun other different =>
            AList.lookup_erase_ne different, ?_⟩
          intro timer
          exact iff_of_false (gone timer) (fun timed => nomatch timed.2)
      | ok built =>
          cases built with
          | none =>
              refine ⟨table.erase id, rfl, fun other different =>
                AList.lookup_erase_ne different, ?_⟩
              intro timer
              refine iff_of_false (gone timer) ?_
              rintro ⟨_, isTimer⟩
              cases isTimer
          | some timer =>
              refine ⟨(table.erase id).insert id timer, rfl, ?_, ?_⟩
              · intro other different
                exact (AList.lookup_insert_ne different).trans
                  (AList.lookup_erase_ne different)
              · intro other
                rw [AList.lookup_insert]
                constructor
                · intro isTimer
                  cases isTimer
                  exact ⟨rfl, rfl⟩
                · rintro ⟨_, isTimer⟩
                  cases isTimer
                  rfl

theorem Matches.sync {jobs : Table ScheduledJob} {table synced : Table Trigger}
    {id : String} {job : ScheduledJob} (follows : Matches triggers jobs table)
    (others : ∀ other, other ≠ id → synced.lookup other = table.lookup other)
    (own : ∀ timer, synced.lookup id = some timer ↔ Timed triggers job timer) :
    Matches triggers (jobs.insert id job) synced where
  sound := by
    intro other timer row isTimer isRow
    rcases OrderedDict.lookup_insert_cases isRow with ⟨same, isJob⟩ | ⟨different, wasRow⟩
    · subst same isJob
      exact (own timer).mp isTimer
    · rw [others other different] at isTimer
      exact follows.sound other timer row isTimer wasRow
  complete := by
    intro other timer row isRow timed
    rcases OrderedDict.lookup_insert_cases isRow with ⟨same, isJob⟩ | ⟨different, wasRow⟩
    · subst same isJob
      exact (own timer).mpr timed
    · rw [others other different]
      exact follows.complete other timer row wasRow timed

/-- A row rewritten without its schedule keeps its timer. -/
theorem Matches.rewrite {jobs : Table ScheduledJob} {table : Table Trigger} {id : String}
    {job old : ScheduledJob} (follows : Matches triggers jobs table)
    (isOld : jobs.lookup id = some old) (sameKind : job.scheduleKind = old.scheduleKind)
    (sameConfig : job.scheduleConfig = old.scheduleConfig)
    (sameEnabled : job.enabled = old.enabled) :
    Matches triggers (jobs.insert id job) table := by
  apply follows.sync (fun _ _ => rfl)
  intro timer
  rw [timed_congr sameKind sameConfig sameEnabled]
  constructor
  · intro isTimer
    exact follows.sound id timer old isTimer isOld
  · intro timed
    exact follows.complete id timer old isOld timed

/-- Fewer rows need fewer timers. -/
theorem Matches.fewer {jobs fewer : Table ScheduledJob} {table : Table Trigger}
    (follows : Matches triggers jobs table)
    (among : ∀ id job, fewer.lookup id = some job → jobs.lookup id = some job) :
    Matches triggers fewer table where
  sound id timer job isTimer isRow := follows.sound id timer job isTimer (among id job isRow)
  complete id timer job isRow timed := follows.complete id timer job (among id job isRow) timed

theorem Matches.erase {jobs : Table ScheduledJob} {table : Table Trigger} {id : String}
    (follows : Matches triggers jobs table) :
    Matches triggers (jobs.erase id) (table.erase id) where
  sound := by
    intro other timer job isTimer isRow
    exact follows.sound other timer job (OrderedDict.lookup_erase_cases isTimer).2
      (OrderedDict.lookup_erase_cases isRow).2
  complete := by
    intro other timer job isRow timed
    obtain ⟨different, wasRow⟩ := OrderedDict.lookup_erase_cases isRow
    rw [AList.lookup_erase_ne different]
    exact follows.complete other timer job wasRow timed

/-! A start, row by row. -/

/-- A row whose schedule raises when its trigger is built. -/
def Unbuildable (triggers : Triggers) (job : ScheduledJob) : Prop :=
  job.enabled = true ∧ ∃ error, trigger triggers job = .error error

theorem syncJob_answer {table : Table Trigger} {id : String} {job : ScheduledJob} :
    (∃ error, (syncJob triggers (some table) id job).2 = .error error) ↔
      Unbuildable triggers job := by
  unfold syncJob Unbuildable
  dsimp only
  cases isEnabled : job.enabled with
  | false =>
      refine iff_of_false ?_ (fun unbuildable => nomatch unbuildable.1)
      rintro ⟨_, isError⟩
      cases isError
  | true =>
      rw [if_neg (by decide)]
      cases isBuilt : trigger triggers job with
      | error error =>
          exact iff_of_true ⟨error, rfl⟩ ⟨rfl, error, rfl⟩
      | ok built =>
          refine iff_of_false ?_ ?_
          · cases built with
            | none =>
                rintro ⟨_, isError⟩
                cases isError
            | some timer =>
                rintro ⟨_, isError⟩
                cases isError
          · rintro ⟨_, _, isError⟩
            cases isError

theorem startAll_spec {rows : List (Sigma fun _ : String => ScheduledJob)}
    {table result : Table Trigger} (distinct : (rows.map Sigma.fst).Nodup)
    (unset : ∀ row ∈ rows, table.lookup row.fst = none)
    (started : startAll triggers rows table = .ok result) (id : String) (timer : Trigger) :
    result.lookup id = some timer ↔ table.lookup id = some timer ∨
      ∃ job, ⟨id, job⟩ ∈ rows ∧ Timed triggers job timer := by
  induction rows generalizing table with
  | nil =>
      cases started
      simp only [List.not_mem_nil, false_and, exists_false, or_false]
  | cons row rest inductionHypothesis =>
      obtain ⟨rowId, job⟩ := row
      rw [List.map_cons, List.nodup_cons] at distinct
      obtain ⟨rowFresh, restDistinct⟩ := distinct
      have rowUnset := unset ⟨rowId, job⟩ List.mem_cons_self
      have restUnset : ∀ row ∈ rest, table.lookup row.fst = none :=
        fun row isRow => unset row (List.mem_cons_of_mem _ isRow)
      have members : (∃ other, ⟨id, other⟩ ∈ (⟨rowId, job⟩ :: rest : List _) ∧
          Timed triggers other timer) ↔ (id = rowId ∧ Timed triggers job timer) ∨
            ∃ other, ⟨id, other⟩ ∈ rest ∧ Timed triggers other timer := by
        constructor
        · rintro ⟨other, isIn, timed⟩
          rcases List.mem_cons.mp isIn with isFirst | isBehind
          · cases isFirst
            exact Or.inl ⟨rfl, timed⟩
          · exact Or.inr ⟨other, isBehind, timed⟩
        · rintro (⟨isRow, timed⟩ | ⟨other, isBehind, timed⟩)
          · subst isRow
            exact ⟨job, List.mem_cons_self, timed⟩
          · exact ⟨other, List.mem_cons_of_mem _ isBehind, timed⟩
      rw [members]
      unfold startAll at started
      split at started
      next isDisabled =>
        rw [inductionHypothesis restDistinct restUnset started]
        refine or_congr_right (or_iff_right ?_).symm
        rintro ⟨_, isEnabled, _⟩
        rw [isDisabled] at isEnabled
        cases isEnabled
      next =>
        obtain ⟨synced, isSynced, others, own⟩ := @syncJob_spec triggers table rowId job
        split at started
        · cases started
        next answered isAnswer =>
          have isTable : answered = some synced := by
            rw [← isSynced, isAnswer]
          rw [isTable, Option.getD_some] at started
          have syncedUnset : ∀ row ∈ rest, synced.lookup row.fst = none := by
            intro row isRow
            rw [others row.fst ?_]
            · exact restUnset row isRow
            · intro same
              rw [← same] at rowFresh
              exact rowFresh (List.mem_map.mpr ⟨row, isRow, rfl⟩)
          rw [inductionHypothesis restDistinct syncedUnset started, ← or_assoc]
          refine or_congr_left ?_
          by_cases same : id = rowId
          · subst same
            rw [own timer, rowUnset]
            simp
          · rw [others id same]
            simp [same]

/-- A start comes up exactly if no enabled row has a schedule that raises. -/
theorem startAll_ok_iff {rows : List (Sigma fun _ : String => ScheduledJob)}
    {table : Table Trigger} : (∃ result, startAll triggers rows table = .ok result) ↔
      ∀ row ∈ rows, ¬ Unbuildable triggers row.snd := by
  induction rows generalizing table with
  | nil =>
      exact iff_of_true ⟨table, rfl⟩ (fun _ isIn => absurd isIn List.not_mem_nil)
  | cons row rest inductionHypothesis =>
      obtain ⟨rowId, job⟩ := row
      rw [List.forall_mem_cons]
      unfold startAll
      split
      next isDisabled =>
        rw [inductionHypothesis]
        refine (and_iff_right ?_).symm
        rintro ⟨isEnabled, _⟩
        dsimp only at isEnabled
        rw [isDisabled] at isEnabled
        cases isEnabled
      next =>
        have answer : (∃ error, (syncJob triggers (some table) rowId job).2 = .error error) ↔
            Unbuildable triggers job := syncJob_answer
        split
        next error isAnswer =>
          rw [isAnswer] at answer
          refine iff_of_false ?_ ?_
          · rintro ⟨_, isOk⟩
            cases isOk
          · intro fine
            exact fine.1 (answer.mp ⟨error, rfl⟩)
        next synced isAnswer =>
          rw [isAnswer] at answer
          rw [inductionHypothesis]
          refine (and_iff_right ?_).symm
          intro unbuildable
          obtain ⟨_, isError⟩ := answer.mpr unbuildable
          cases isError

end Following

/-! ## Every run -/

section Runs

variable {triggers : Triggers} {config : Config} {state after target : State}

/-- What holds of a process and its table. -/
structure Follows (triggers : Triggers) (state : State) : Prop where
  timers : ∀ table, state.timers = some table → Matches triggers state.jobs table
  executed : ∀ entry ∈ state.executed, Timed triggers entry.2.2 entry.2.1

theorem commitAndSync_follows {id : String} {job : ScheduledJob}
    (follows : Follows triggers state) :
    Follows triggers (commitAndSync triggers state id job).1 where
  timers := by
    intro synced isSynced
    have isSynced : (syncJob triggers state.timers id job).1 = some synced := isSynced
    cases isOn : state.timers with
    | none =>
        rw [isOn] at isSynced
        cases isSynced
    | some table =>
        obtain ⟨result, isResult, others, own⟩ := @syncJob_spec triggers table id job
        rw [isOn, isResult] at isSynced
        cases isSynced
        exact (follows.timers table isOn).sync others own
  executed := follows.executed

theorem createJob_follows {user id : String} {req : JobIn} {targetOwner : Option String}
    (follows : Follows triggers state) :
    Follows triggers (createJob triggers state user id req targetOwner).1 := by
  unfold createJob
  split
  · exact follows
  · exact commitAndSync_follows follows

theorem updateJob_follows {user id : String} {req : JobPatch}
    (follows : Follows triggers state) :
    Follows triggers (updateJob triggers state user id req).1 := by
  unfold updateJob
  split
  · exact follows
  · exact commitAndSync_follows follows

theorem deleteJob_follows {user id : String} (follows : Follows triggers state) :
    Follows triggers (deleteJob state user id).1 := by
  unfold deleteJob
  split
  · exact follows
  · refine ⟨?_, follows.executed⟩
    intro table isTable
    obtain ⟨old, isOld, isErased⟩ := Option.map_eq_some_iff.mp isTable
    rw [← isErased]
    exact (follows.timers old isOld).erase

theorem purgeJobs_follows {user : String} (follows : Follows triggers state) :
    Follows triggers (purgeJobs state user) where
  timers := by
    intro table isTable
    apply (follows.timers table isTable).fewer
    intro id job isJob
    exact (OrderedDict.lookup_keepIf isJob).1
  executed := follows.executed

/-- A run changes what the row says of its runs, and no schedule. -/
theorem executedRow_follows {id : String} {job : ScheduledJob} {now : ℤ} {succeeds : Bool}
    (follows : Follows triggers state) (isJob : state.jobs.lookup id = some job) :
    ∀ table, state.timers = some table →
      Matches triggers (state.jobs.insert id (executedRow job now succeeds)) table := by
  intro table isTable
  exact (follows.timers table isTable).rewrite isJob rfl rfl rfl

theorem ownOr404_eq_ok {user id : String} {job : ScheduledJob}
    (passed : ownOr404 state user id = .ok job) : state.jobs.lookup id = some job := by
  obtain ⟨row, isRow, rest⟩ := bind_eq_ok passed
  obtain ⟨_, _, done⟩ := bind_eq_ok rest
  cases done
  exact found_eq_ok isRow

theorem runJobNow_follows {user id : String} {now : ℤ} {succeeds : Bool}
    (follows : Follows triggers state) :
    Follows triggers (runJobNow state user id now succeeds).1 := by
  unfold runJobNow
  split
  · exact follows
  next job isOwn =>
    exact ⟨executedRow_follows follows (ownOr404_eq_ok isOwn), follows.executed⟩

theorem runJobById_follows {id : String} {timer : Trigger} {now : ℤ} {succeeds : Bool}
    {table : Table Trigger} (follows : Follows triggers state)
    (isTable : state.timers = some table) (isTimer : table.lookup id = some timer) :
    Follows triggers (runJobById config state id timer now succeeds) := by
  unfold runJobById
  split
  · exact follows
  next job isJob =>
    split
    · refine ⟨executedRow_follows follows isJob, ?_⟩
      intro entry isEntry
      rcases List.mem_append.mp isEntry with wasThere | isNew
      · exact follows.executed entry wasThere
      · rw [List.mem_singleton.mp isNew]
        exact (follows.timers table isTable).sound id timer job isTimer isJob
    · exact follows

theorem start_follows (follows : Follows triggers state) :
    Follows triggers (start triggers state).1 := by
  unfold start
  split
  · exact follows
  next =>
    split
    · exact follows
    next table isStarted =>
      refine ⟨?_, follows.executed⟩
      intro other isOther
      cases isOther
      have rows := startAll_spec state.jobs.nodupKeys
        (fun row _ => AList.lookup_empty row.fst) isStarted
      constructor
      · intro id timer job isTimer isJob
        rcases (rows id timer).mp isTimer with wasSet | ⟨row, isRow, timed⟩
        · rw [AList.lookup_empty] at wasSet
          cases wasSet
        · have isLookup : state.jobs.lookup id = some row := AList.mem_lookup_iff.mpr isRow
          rw [isJob] at isLookup
          cases isLookup
          exact timed
      · intro id timer job isJob timed
        exact (rows id timer).mpr (Or.inr ⟨job, AList.mem_lookup_iff.mp isJob, timed⟩)

theorem step_follows {label : Label} (follows : Follows triggers state)
    (stepped : step triggers config state label = some after) : Follows triggers after := by
  cases label with
  | start =>
      cases stepped
      exact start_follows follows
  | shutdown =>
      cases stepped
      exact ⟨(fun _ isNone => nomatch isNone), follows.executed⟩
  | createJob user id req targetOwner =>
      obtain ⟨_, isAfter⟩ := Option.ite_none_right_eq_some.mp stepped
      cases isAfter
      exact createJob_follows follows
  | updateJob user id req =>
      cases stepped
      exact updateJob_follows follows
  | deleteJob user id =>
      cases stepped
      exact deleteJob_follows follows
  | purgeJobs user =>
      cases stepped
      exact purgeJobs_follows follows
  | runJobNow user id now succeeds =>
      cases stepped
      exact runJobNow_follows follows
  | fire id now succeeds =>
      simp only [step] at stepped
      split at stepped
      next timer isTimer =>
        cases stepped
        obtain ⟨table, isTable, isTimer⟩ := Option.bind_eq_some_iff.mp isTimer
        exact runJobById_follows follows isTable isTimer
      · cases stepped

/-- In one process, through requests that fail halfway, deleted accounts and restarts:
a timer whose job is still there is the timer of the job's present schedule, every
enabled job whose schedule can be built has one, and whatever a timer executed was
enabled and had that schedule when it ran.  A request and the fire of a timer are one
step each. -/
theorem timers_follow_jobs (reachable : (system triggers config).Reachable state) :
    (∀ table, state.timers = some table →
      (∀ id timer job, table.lookup id = some timer → state.jobs.lookup id = some job →
        Timed triggers job timer) ∧
      ∀ id timer job, state.jobs.lookup id = some job → Timed triggers job timer →
        table.lookup id = some timer) ∧
      ∀ id timer job, (id, timer, job) ∈ state.executed → Timed triggers job timer := by
  have follows := reachable.invariant (Follows triggers)
    (fun start isInitial => by
      refine ⟨?_, ?_⟩
      · intro table isTable
        rw [isInitial.1] at isTable
        cases isTable
      · intro entry isEntry
        rw [isInitial.2] at isEntry
        exact absurd isEntry List.not_mem_nil)
    (fun _ _ _ follows stepped => step_follows follows stepped)
  refine ⟨?_, ?_⟩
  · intro table isTable
    have isMatched := follows.timers table isTable
    exact ⟨isMatched.sound, isMatched.complete⟩
  · intro id timer job isEntry
    exact follows.executed (id, timer, job) isEntry

end Runs

/-- Integers are read as they are, and hours run to 23. -/
def plain : Triggers where
  toInt value := match value with
    | .integer number => some number
    | _ => none
  builds trigger := match trigger with
    | .interval _ => true
    | .cron _ hour minute =>
        decide (0 ≤ hour) && decide (hour ≤ 23) && decide (0 ≤ minute) && decide (minute ≤ 59)

def idle : State := ⟨∅, none, []⟩

def nightly (hour : ℤ) : JobIn where
  jobType := "report_refresh"
  targetRef := "report"
  scheduleKind := "daily"
  scheduleConfig := some [("hour", .integer hour)]

/-- A nightly job is created and fires, and is moved to another hour. -/
def nights : List Label :=
  [.start, .createJob "ann" "job" (nightly 3) (some "ann"), .fire "job" 100 true,
    .updateJob "ann" "job" { scheduleConfig := some [("hour", .integer 5)] }]

def overnight : State :=
  ((system plain ⟨60, 30⟩).exec idle nights).getD idle

theorem timers_follow_jobs_overnight :
    (∃ table, overnight.timers = some table ∧
      table.lookup "job" = some (.cron none 5 0)) ∧
      ∀ id timer job, (id, timer, job) ∈ overnight.executed → Timed plain job timer :=
  ⟨⟨_, rfl, rfl⟩, (timers_follow_jobs (TransitionSystem.reachable_of_exec nights
    ⟨rfl, rfl⟩ (TransitionSystem.exec_eq_getD rfl))).2⟩

/-! ## Schedules that raise -/

section Blocking

variable {triggers : Triggers} {config : Config} {state after target : State}

/-- The row keeps the server from coming up. -/
def Blocks (triggers : Triggers) (state : State) (id : String) : Prop :=
  ∃ job, state.jobs.lookup id = some job ∧ Unbuildable triggers job

/-- Requests that write or remove the row. -/
def Writes (state : State) (id : String) : Label → Prop
  | .updateJob _ other _ | .deleteJob _ other => other = id
  | .purgeJobs user => ∃ job, state.jobs.lookup id = some job ∧ job.userId = user
  | _ => False

theorem start_fails_iff (isOff : state.timers = none) :
    (∃ error, (start triggers state).2 = .error error) ↔
      ∃ id, Blocks triggers state id := by
  have comesUp : (∃ result, startAll triggers state.jobs.entries ∅ = .ok result) ↔
      ∀ row ∈ state.jobs.entries, ¬ Unbuildable triggers row.snd := startAll_ok_iff
  unfold start
  rw [isOff]
  dsimp only
  cases isStarted : startAll triggers state.jobs.entries ∅ with
  | error error =>
      rw [isStarted] at comesUp
      refine iff_of_true ⟨error, rfl⟩ ?_
      by_contra noRow
      have allFine : ∀ row ∈ state.jobs.entries, ¬ Unbuildable triggers row.snd := by
        intro row isRow unbuildable
        exact noRow ⟨row.fst, row.snd, AList.mem_lookup_iff.mpr isRow, unbuildable⟩
      obtain ⟨_, isOk⟩ := comesUp.mpr allFine
      cases isOk
  | ok table =>
      rw [isStarted] at comesUp
      refine iff_of_false ?_ ?_
      · rintro ⟨_, isError⟩
        cases isError
      · rintro ⟨id, job, isJob, unbuildable⟩
        exact comesUp.mp ⟨table, rfl⟩ ⟨id, job⟩ (AList.mem_lookup_iff.mp isJob) unbuildable

theorem unbuildable_congr {job other : ScheduledJob}
    (sameKind : other.scheduleKind = job.scheduleKind)
    (sameConfig : other.scheduleConfig = job.scheduleConfig)
    (sameEnabled : other.enabled = job.enabled) (unbuildable : Unbuildable triggers job) :
    Unbuildable triggers other := by
  unfold Unbuildable
  rw [trigger_congr sameKind sameConfig, sameEnabled]
  exact unbuildable

/-- Another row is written. -/
theorem Blocks.insert_ne {id other : String} {job : ScheduledJob}
    {timers : Option (Table Trigger)} {executed : List (String × Trigger × ScheduledJob)}
    (blocks : Blocks triggers state id) (different : id ≠ other) :
    Blocks triggers ⟨state.jobs.insert other job, timers, executed⟩ id := by
  obtain ⟨row, isRow, unbuildable⟩ := blocks
  exact ⟨row, (AList.lookup_insert_ne different).trans isRow, unbuildable⟩

/-- A row is written with the schedule it has. -/
theorem Blocks.executed {id other : String} {job : ScheduledJob} {now : ℤ}
    {succeeds : Bool} {timers : Option (Table Trigger)}
    {executed : List (String × Trigger × ScheduledJob)}
    (blocks : Blocks triggers state id) (isJob : state.jobs.lookup other = some job) :
    Blocks triggers ⟨state.jobs.insert other (executedRow job now succeeds), timers,
      executed⟩ id := by
  by_cases same : id = other
  · subst same
    obtain ⟨row, isRow, unbuildable⟩ := blocks
    rw [isJob] at isRow
    cases isRow
    exact ⟨_, AList.lookup_insert state.jobs, unbuildable_congr rfl rfl rfl unbuildable⟩
  · exact blocks.insert_ne same

theorem step_blocks {id : String} {label : Label} (blocks : Blocks triggers state id)
    (spares : ¬ Writes state id label)
    (stepped : step triggers config state label = some after) :
    Blocks triggers after id := by
  obtain ⟨row, isRow, unbuildable⟩ := blocks
  have blocks : Blocks triggers state id := ⟨row, isRow, unbuildable⟩
  cases label with
  | start =>
      cases stepped
      unfold start
      split
      · exact blocks
      · split
        · exact blocks
        · exact blocks
  | shutdown =>
      cases stepped
      exact blocks
  | createJob user other req targetOwner =>
      obtain ⟨fresh, isAfter⟩ := Option.ite_none_right_eq_some.mp stepped
      cases isAfter
      unfold createJob
      split
      · exact blocks
      · apply blocks.insert_ne
        intro same
        rw [← same, isRow] at fresh
        cases fresh
  | updateJob user other req =>
      cases stepped
      unfold updateJob
      split
      · exact blocks
      · exact blocks.insert_ne (Ne.symm spares)
  | deleteJob user other =>
      cases stepped
      unfold deleteJob
      split
      · exact blocks
      · exact ⟨row, (AList.lookup_erase_ne (Ne.symm spares)).trans isRow, unbuildable⟩
  | purgeJobs user =>
      cases stepped
      refine ⟨row, OrderedDict.lookup_keepIf_eq_some isRow (decide_eq_true ?_), unbuildable⟩
      intro isOwner
      exact spares ⟨row, isRow, isOwner⟩
  | runJobNow user other now succeeds =>
      cases stepped
      unfold runJobNow
      split
      · exact blocks
      next job isOwn =>
        exact blocks.executed (ownOr404_eq_ok isOwn)
  | fire other now succeeds =>
      simp only [step] at stepped
      split at stepped
      · cases stepped
        unfold runJobById
        split
        · exact blocks
        next job isJob =>
          split
          · exact blocks.executed isJob
          · exact blocks
      · cases stepped

/-- A request that creates an enabled job whose schedule cannot be built is answered
with an error by a running scheduler, and has committed the row: from then on, until
the row itself is patched or removed, no start of the server comes up. -/
theorem unbuildable_schedule_blocks {user id : String} {req : JobIn}
    {targetOwner : Option String} (isOn : state.timers ≠ none)
    (valid : validateJob user req targetOwner = .ok ())
    (unbuildable : Unbuildable triggers (newJob user req))
    (run : (system triggers config).Reaches (fun state label => ¬ Writes state id label)
      (createJob triggers state user id req targetOwner).1 target) :
    (∃ error, (createJob triggers state user id req targetOwner).2 = .error error) ∧
      ∃ error, (start triggers { target with timers := none }).2 = .error error := by
  have isCreated : createJob triggers state user id req targetOwner =
      commitAndSync triggers state id (newJob user req) := by
    rw [createJob, valid]
  rw [isCreated] at run ⊢
  obtain ⟨table, isTable⟩ := Option.ne_none_iff_exists'.mp isOn
  have blocks : Blocks triggers (commitAndSync triggers state id (newJob user req)).1 id :=
    ⟨newJob user req, AList.lookup_insert state.jobs, unbuildable⟩
  have remains := run.preserves (fun state => Blocks triggers state id)
    (fun _ _ _ blocks spares stepped => step_blocks blocks spares stepped) blocks
  refine ⟨?_, (start_fails_iff rfl).mpr ⟨id, remains⟩⟩
  unfold commitAndSync
  rw [isTable]
  exact syncJob_answer.mpr unbuildable

end Blocking

def running : State := ⟨∅, some ∅, []⟩

/-- Another job comes and goes, and the server is restarted. -/
def laterOn : List Label :=
  [.createJob "bob" "other" (nightly 2) (some "bob"), .fire "other" 100 true,
    .deleteJob "bob" "other", .shutdown, .start]

def afterMidnight : State :=
  (createJob plain running "ann" "job" (nightly 24) (some "ann")).1

theorem unbuildable_schedule_blocks_midnight :
    (∃ error, (createJob plain running "ann" "job" (nightly 24) (some "ann")).2 =
        .error error) ∧
      ∃ error, (start plain { ((system plain ⟨60, 30⟩).exec afterMidnight laterOn).getD
        afterMidnight with timers := none }).2 = .error error := by
  have run : (system plain ⟨60, 30⟩).Reaches (fun state label => ¬ Writes state "job" label)
      afterMidnight (((system plain ⟨60, 30⟩).exec afterMidnight laterOn).getD
        afterMidnight) := by
    refine TransitionSystem.reaches_of_exec_allowed laterOn ?_
      (TransitionSystem.exec_eq_getD rfl)
    simp [laterOn, Writes]
  exact @unbuildable_schedule_blocks plain ⟨60, 30⟩ running _ "ann" "job" (nightly 24)
    (some "ann") (Option.some_ne_none _) rfl ⟨rfl, raised, rfl⟩ run

end DbBuddy.Jobs.Timers
