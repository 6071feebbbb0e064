import DbBuddy.Auth.ExecutionTargets
import DbBuddy.Library.JoinedFields
import DbBuddy.Library.JsonValues
import DbBuddy.Library.TransitionSystem
import Mathlib.Data.Rat.Cast.Order
import Mathlib.Tactic.Linarith

/-!
# The cache of chart results

A chart's result is stored under a digest of its tenant, its target and its SQL,
flattened to one text.  What another call finds there was stored for a job with the
same text, which is not always a job with the same fields.
-/

namespace DbBuddy.Publishing.ResultCache

open DbBuddy.Library
open DbBuddy.Auth.ExecutionTokens (showPort showPort_injective)

/-! ## Jobs and results -/

structure ChartJob where
  chartId : String
  sql : String
  chartType : String
  config : Option PyValue
  organizationId : Option String
  engine : Option String
  host : Option String
  port : Option Int
  database : Option String
  dbSchema : Option String
  username : Option String
  password : Option String

def ChartJob.hasSource (job : ChartJob) : Bool :=
  job.engine.isSome && job.host.isSome

/-- What is served may come out of the store: the fields are whatever was found
there. -/
structure ChartRunResult where
  ok : Bool
  chartId : String
  columns : PyValue
  rows : PyValue
  needsAttention : Bool
  message : Option String
  chartType : String
  config : Option PyValue
  fetchedAt : PyValue
  cached : Bool
  rowCount : PyValue
  truncated : PyValue

/-- A row of a result set, its columns in order. -/
structure Row where
  keys : List String
  values : List PyValue

/-- What the database answers, where it is asked. -/
inductive Live where
  | busy (message : String)
  | failed
  | returned (results : List Row)

structure Settings where
  isRead : String → Bool
  isoformat : ℚ → String
  maxChartRows : ℕ
  maxCacheableRows : ℕ

/-! ## The key -/

/-- `str` of an optional text. -/
def shown (field : Option String) : String :=
  field.getD "None"

def unitSeparator : Char := Char.ofNat 31

def fields (job : ChartJob) : List String :=
  [shown job.organizationId, shown job.engine, shown job.host, showPort job.port,
    shown job.database, shown job.dbSchema, shown job.username, job.sql]

def blob (job : ChartJob) : String :=
  joinFields unitSeparator (fields job)

/-- The hexadecimal digests of `hashlib`. -/
structure Digests where
  sha256 : String → String
  md5 : String → String

/-- `_cache_key` -/
def cacheKey (digests : Digests) (job : ChartJob) : String :=
  digests.sha256 (blob job)

/-- `_make_key`, neither normalised nor with a schema hash. -/
def makeKey (digests : Digests) (cachePrefix value : String) : String :=
  cachePrefix ++ ":" ++ digests.md5 value

def storeKey (digests : Digests) (job : ChartJob) : String :=
  makeKey digests "chartrun" (cacheKey digests job)

/-! ## The call -/

structure Entry where
  payload : Json
  expiresAt : ℚ

abbrev Store := String → Option Entry

/-- `Cache.get` -/
def Store.read (store : Store) (clock : ℚ) (key : String) : Option PyValue :=
  match store key with
  | some entry =>
      if clock < entry.expiresAt then some (loads entry.payload) else none
  | none => none

/-- `hit.get(name)` -/
def member (keys : List String) (values : List PyValue) (name : String) :
    Option PyValue :=
  (keys.zip values).lookup name

/-- `len`, where it is defined. -/
def lengthOf : PyValue → ℤ
  | .list items => items.length
  | .dict keys _ => keys.length
  | .str text => text.length
  | _ => 0

def attention (job : ChartJob) (fetchedAt message : String) : ChartRunResult where
  ok := false
  chartId := job.chartId
  columns := .list []
  rows := .list []
  needsAttention := true
  message := some message
  chartType := job.chartType
  config := job.config
  fetchedAt := .str fetchedAt
  cached := false
  rowCount := .int 0
  truncated := .bool false

/-- What is served from a hit: nothing, unless it is a `dict` with rows. -/
def servedFrom (job : ChartJob) : PyValue → Option ChartRunResult
  | .dict keys values =>
      match member keys values "rows" with
      | none => none
      | some rows => some
          { ok := true
            chartId := job.chartId
            columns := (member keys values "columns").getD (.list [])
            rows := rows
            needsAttention := false
            message := none
            chartType := job.chartType
            config := job.config
            fetchedAt := (member keys values "fetched_at").getD .none
            cached := true
            rowCount := (member keys values "row_count").getD (.int (lengthOf rows))
            truncated := (member keys values "truncated").getD (.bool false) }
  | _ => none

def columnsOf : List Row → PyValue
  | [] => .list []
  | row :: _ => .list (row.keys.map .str)

/-- A live result: the rows are capped, and the cap is disclosed. -/
def liveResult (settings : Settings) (job : ChartJob) (fetchedAt : String)
    (results : List Row) : ChartRunResult where
  ok := true
  chartId := job.chartId
  columns := columnsOf results
  rows := .list ((results.take settings.maxChartRows).map
    fun row => .dict row.keys row.values)
  needsAttention := false
  message := none
  chartType := job.chartType
  config := job.config
  fetchedAt := .str fetchedAt
  cached := false
  rowCount := .int results.length
  truncated := .bool (decide (settings.maxChartRows < results.length))

/-- What is stored of a result. -/
def payloadOf (result : ChartRunResult) : PyValue :=
  .dict ["columns", "rows", "fetched_at", "row_count", "truncated"]
    [result.columns, result.rows, result.fetchedAt, result.rowCount,
      result.truncated]

/-- A result, and what the call writes to the store. -/
structure Ran where
  result : ChartRunResult
  written : Option (String × Entry)

/-- `Cache.set`: what JSON has no form for is not stored, nor is anything with a
time to live that the server refuses. -/
def entryOf (settings : Settings) (clock : ℚ) (ttl : ℤ) (results : List Row)
    (result : ChartRunResult) : Option Entry :=
  if results.length ≤ settings.maxCacheableRows ∧ 0 < ttl then
    (dumps (payloadOf result)).map fun payload => ⟨payload, clock + ttl⟩
  else none

/-- `execute_chart`.  `reads` and `writes` say whether the cache can be reached for a
`get` and for a `set`. -/
def executeChart (settings : Settings) (digests : Digests) (clock : ℚ)
    (store : Store) (job : ChartJob) (useCache : Bool) (ttl : ℤ)
    (reads writes : Bool) (live : Live) : Ran :=
  let now := settings.isoformat clock
  if settings.isRead job.sql = false then
    ⟨attention job now "This chart's query is not read-only and was blocked.", none⟩
  else if job.hasSource = false then
    ⟨attention job now ("This chart needs attention — its data source is no " ++
      "longer available."), none⟩
  else
    let hit := if useCache && reads then
        (store.read clock (storeKey digests job)).bind (servedFrom job)
      else none
    match hit with
    | some result => ⟨result, none⟩
    | none =>
        match live with
        | .busy message => ⟨attention job now message, none⟩
        | .failed => ⟨attention job now
            "This chart needs attention — the query could not be run.", none⟩
        | .returned results =>
            let result := liveResult settings job now results
            ⟨result, if useCache && writes then
                (entryOf settings clock ttl results result).map
                  fun entry => (storeKey digests job, entry)
              else none⟩

/-! ## Sequences of calls -/

/-- A live run, and until when its result is stored. -/
structure LiveRun where
  job : ChartJob
  result : ChartRunResult
  fetchedAt : ℚ
  ttl : ℤ
  storedUntil : Option ℚ

structure Answer where
  job : ChartJob
  result : ChartRunResult
  givenAt : ℚ

/-- `runs` and `answers` are bookkeeping of the model. -/
structure State where
  clock : ℚ
  store : Store
  runs : List LiveRun
  answers : List Answer

inductive Label where
  | tick (elapsed : ℚ)
  | call (job : ChartJob) (useCache : Bool) (ttl : ℤ) (reads writes : Bool)
      (live : Live)

def State.write (state : State) (ran : Ran) : Store :=
  match ran.written with
  | some (key, entry) => Function.update state.store key (some entry)
  | none => state.store

def State.afterCall (state : State) (job : ChartJob) (ttl : ℤ) (ran : Ran) : State where
  clock := state.clock
  store := state.write ran
  runs :=
    if ran.result.ok && !ran.result.cached then
      ⟨job, ran.result, state.clock, ttl,
        ran.written.map fun written => written.2.expiresAt⟩ :: state.runs
    else state.runs
  answers := ⟨job, ran.result, state.clock⟩ :: state.answers

/-- A call is one instant: a result is stored when it was fetched. -/
def step (settings : Settings) (digests : Digests) (state : State) :
    Label → Option State
  | .tick elapsed =>
      if 0 ≤ elapsed then some { state with clock := state.clock + elapsed }
      else none
  | .call job useCache ttl reads writes live =>
      some (state.afterCall job ttl (executeChart settings digests state.clock
        state.store job useCache ttl reads writes live))

def Initial (state : State) : Prop :=
  (∀ key, state.store key = none) ∧ state.runs = [] ∧ state.answers = []

def system (settings : Settings) (digests : Digests) :
    TransitionSystem State Label where
  initial := Initial
  step := step settings digests

/-! ## The law and when it holds -/

/-- The same tenant, target and SQL. -/
def SameTarget (first second : ChartJob) : Prop :=
  first.organizationId = second.organizationId ∧ first.engine = second.engine ∧
    first.host = second.host ∧ first.port = second.port ∧
    first.database = second.database ∧ first.dbSchema = second.dbSchema ∧
    first.username = second.username ∧ first.sql = second.sql

/-- What is served from the cache is the result of an earlier live run of a job with
the same target, at most its time to live ago. -/
def Isolated (settings : Settings) (state : State) : Prop :=
  ∀ answer ∈ state.answers, answer.result.cached = true →
    ∃ run ∈ state.runs, SameTarget run.job answer.job ∧
      answer.result.columns = run.result.columns ∧
      answer.result.rows = run.result.rows ∧
      answer.result.rowCount = run.result.rowCount ∧
      answer.result.truncated = run.result.truncated ∧
      answer.result.fetchedAt = .str (settings.isoformat run.fetchedAt) ∧
      run.fetchedAt ≤ answer.givenAt ∧
      answer.givenAt < run.fetchedAt + run.ttl

/-- Which fields have no value. -/
def missingFields (job : ChartJob) : List Bool :=
  [job.organizationId.isNone, job.engine.isNone, job.host.isNone,
    job.database.isNone, job.dbSchema.isNone, job.username.isNone]

/-- What keeps two jobs apart in the key: no separator of theirs has moved from one
field to another, and no field is missing in one where the other has the text that
stands for it. -/
structure KeptApart (first second : ChartJob) : Prop where
  separators :
    pieces unitSeparator (fields first) = pieces unitSeparator (fields second) →
    (fields first).map (fun field => (cutAt unitSeparator field).length) =
      (fields second).map fun field => (cutAt unitSeparator field).length
  missing : fields first = fields second →
    missingFields first = missingFields second

/-- A call that may use the cache is kept apart from every job whose result is
stored. -/
def KeepsApart (state : State) : Label → Prop
  | .tick _ => True
  | .call job useCache _ _ _ _ =>
      useCache = true → ∀ run ∈ state.runs, ∀ expiry,
        run.storedUntil = some expiry → state.clock < expiry →
        KeptApart run.job job

/-- No two texts have the same digest. -/
structure Digests.CollisionFree (digests : Digests) : Prop where
  sha256 : Function.Injective digests.sha256
  md5 : ∀ first second,
    digests.md5 (digests.sha256 first) = digests.md5 (digests.sha256 second) →
    digests.sha256 first = digests.sha256 second

/-! ## What the key tells apart -/

theorem fields_ne_nil (job : ChartJob) : fields job ≠ [] := by
  simp [fields]

theorem shown_injective {field other : Option String} (same : shown field = shown other)
    (missing : field.isNone = other.isNone) : field = other := by
  cases field with
  | none =>
      cases other with
      | none => rfl
      | some text => cases missing
  | some text =>
      cases other with
      | none => cases missing
      | some text' => exact congrArg some same

theorem sameTarget_of_fields {first second : ChartJob}
    (same : fields first = fields second)
    (missing : missingFields first = missingFields second) :
    SameTarget first second := by
  simp only [fields, List.cons.injEq, and_true] at same
  simp only [missingFields, List.cons.injEq, and_true] at missing
  obtain ⟨org, engine, host, port, database, dbSchema, username, sql⟩ := same
  obtain ⟨noOrg, noEngine, noHost, noDatabase, noSchema, noUser⟩ := missing
  exact ⟨shown_injective org noOrg, shown_injective engine noEngine,
    shown_injective host noHost, showPort_injective port,
    shown_injective database noDatabase, shown_injective dbSchema noSchema,
    shown_injective username noUser, sql⟩

theorem blob_eq_iff (first second : ChartJob) :
    blob first = blob second ↔
      pieces unitSeparator (fields first) = pieces unitSeparator (fields second) :=
  joinFields_eq_iff (fields_ne_nil first) (fields_ne_nil second)

/-- Kept apart is what it takes for the key to tell the targets apart. -/
theorem keptApart_iff (first second : ChartJob) :
    KeptApart first second ↔
      (blob first = blob second → SameTarget first second) := by
  constructor
  · intro apart same
    have cut := (blob_eq_iff first second).mp same
    have sameFields : fields first = fields second :=
      eq_of_flatMap_eq cutAt_injective cut (apart.separators cut)
    exact sameTarget_of_fields sameFields (apart.missing sameFields)
  · intro tells
    have same : pieces unitSeparator (fields first) =
        pieces unitSeparator (fields second) →
        fields first = fields second ∧
          missingFields first = missingFields second := by
      intro cut
      obtain ⟨org, engine, host, port, database, dbSchema, username, sql⟩ :=
        tells ((blob_eq_iff first second).mpr cut)
      simp only [fields, missingFields, org, engine, host, port, database, dbSchema,
        username, sql, and_self]
    constructor
    · intro cut
      rw [(same cut).1]
    · intro sameFields
      exact (same (congrArg (pieces unitSeparator) sameFields)).2

theorem sameTarget_of_storeKey {digests : Digests} (free : digests.CollisionFree)
    {first second : ChartJob} (apart : KeptApart first second)
    (same : storeKey digests first = storeKey digests second) :
    SameTarget first second := by
  have sameMd5 : digests.md5 (cacheKey digests first) =
      digests.md5 (cacheKey digests second) := by
    unfold storeKey makeKey at same
    rwa [String.append_right_inj] at same
  have sameBlob := free.sha256 (free.md5 _ _ sameMd5)
  exact (keptApart_iff first second).mp apart sameBlob

/-! ## The invariant -/

/-- What stands in the store is what a live run has left there. -/
structure Stored (settings : Settings) (digests : Digests) (clock : ℚ)
    (run : LiveRun) (key : String) (entry : Entry) : Prop where
  key : key = storeKey digests run.job
  payload : dumps (payloadOf run.result) = some entry.payload
  kept : run.storedUntil = some entry.expiresAt
  expires : entry.expiresAt = run.fetchedAt + run.ttl
  earlier : run.fetchedAt ≤ clock
  reported : run.result.fetchedAt = .str (settings.isoformat run.fetchedAt)

structure Sound (settings : Settings) (digests : Digests) (state : State) : Prop where
  stored : ∀ key entry, state.store key = some entry →
    ∃ run ∈ state.runs, Stored settings digests state.clock run key entry
  isolated : Isolated settings state

section Calls

variable {settings : Settings} {digests : Digests} {clock : ℚ} {store : Store}
variable {job : ChartJob} {useCache reads writes : Bool} {ttl : ℤ} {live : Live}

theorem Stored.later {later : ℚ} {run : LiveRun} {key : String} {entry : Entry}
    (stored : Stored settings digests clock run key entry) (le : clock ≤ later) :
    Stored settings digests later run key entry :=
  ⟨stored.key, stored.payload, stored.kept, stored.expires, stored.earlier.trans le,
    stored.reported⟩

/-- A result comes back out of the store as it was. -/
theorem servedFrom_payloadOf (job : ChartJob) (result : ChartRunResult) :
    servedFrom job (payloadOf result) = some
      { ok := true
        chartId := job.chartId
        columns := result.columns
        rows := result.rows
        needsAttention := false
        message := none
        chartType := job.chartType
        config := job.config
        fetchedAt := result.fetchedAt
        cached := true
        rowCount := result.rowCount
        truncated := result.truncated } :=
  rfl

theorem cached_of_servedFrom {hit : PyValue} {result : ChartRunResult}
    (served : servedFrom job hit = some result) :
    result.cached = true ∧ result.ok = true := by
  unfold servedFrom at served
  split at served
  · split at served
    · cases served
    · cases served
      exact ⟨rfl, rfl⟩
  · cases served

/-- What a call can do: serve what it has found, or answer on its own, with a live
result or without one; only a live result is stored. -/
theorem executeChart_cases (settings : Settings) (digests : Digests) (clock : ℚ)
    (store : Store) (job : ChartJob) (useCache : Bool) (ttl : ℤ)
    (reads writes : Bool) (live : Live) :
    (∃ hit result, store.read clock (storeKey digests job) = some hit ∧
        useCache = true ∧ servedFrom job hit = some result ∧
        executeChart settings digests clock store job useCache ttl reads writes live =
          ⟨result, none⟩) ∨
      (∃ message, executeChart settings digests clock store job useCache ttl reads
          writes live =
        ⟨attention job (settings.isoformat clock) message, none⟩) ∨
      ∃ results, executeChart settings digests clock store job useCache ttl reads
          writes live =
        ⟨liveResult settings job (settings.isoformat clock) results,
          if useCache && writes then
            (entryOf settings clock ttl results
              (liveResult settings job (settings.isoformat clock) results)).map
              fun entry => (storeKey digests job, entry)
          else none⟩ := by
  unfold executeChart
  by_cases blocked : settings.isRead job.sql = false
  · right
    left
    exact ⟨_, by rw [if_pos blocked]⟩
  by_cases noSource : job.hasSource = false
  · right
    left
    exact ⟨_, by rw [if_neg blocked, if_pos noSource]⟩
  rw [if_neg blocked, if_neg noSource]
  cases isHit : (if useCache && reads then
      (store.read clock (storeKey digests job)).bind (servedFrom job)
    else none) with
  | some result =>
      left
      obtain ⟨uses, found⟩ := Option.ite_none_right_eq_some.mp isHit
      obtain ⟨hit, isRead, served⟩ := Option.bind_eq_some_iff.mp found
      simp only [Bool.and_eq_true] at uses
      exact ⟨hit, result, isRead, uses.1, served, rfl⟩
  | none =>
      right
      cases live with
      | busy message =>
          exact Or.inl ⟨_, rfl⟩
      | failed =>
          exact Or.inl ⟨_, rfl⟩
      | returned results =>
          exact Or.inr ⟨results, rfl⟩

end Calls

section Steps

variable {settings : Settings} {digests : Digests} {state next : State}

theorem sound_initial (isInitial : Initial state) : Sound settings digests state := by
  obtain ⟨noEntry, noRun, noAnswer⟩ := isInitial
  constructor
  · intro key entry present
    rw [noEntry key] at present
    cases present
  · intro answer isAnswer
    rw [noAnswer] at isAnswer
    cases isAnswer

/-- An answer that is not from the cache adds nothing to show. -/
theorem Isolated.cons {runs : List LiveRun} {answer : Answer}
    (isolated : Isolated settings state)
    (more : ∀ run ∈ state.runs, run ∈ runs) (notCached : answer.result.cached = false)
    (clock : ℚ) (store : Store) :
    Isolated settings ⟨clock, store, runs, answer :: state.answers⟩ := by
  intro other isOther isCached
  rcases List.mem_cons.mp isOther with rfl | older
  · rw [notCached] at isCached
    cases isCached
  · obtain ⟨run, isRun, facts⟩ := isolated other older isCached
    exact ⟨run, more run isRun, facts⟩

theorem sound_tick {elapsed : ℚ} (sound : Sound settings digests state)
    (forward : 0 ≤ elapsed) :
    Sound settings digests { state with clock := state.clock + elapsed } := by
  constructor
  · intro key entry present
    obtain ⟨run, isRun, stored⟩ := sound.stored key entry present
    exact ⟨run, isRun, stored.later (by linarith)⟩
  · exact sound.isolated

/-- A hit is served as the live run has left it. -/
theorem sound_hit {job : ChartJob} {hit : PyValue} {result : ChartRunResult} {ttl : ℤ}
    (sound : Sound settings digests state) (free : digests.CollisionFree)
    (apart : ∀ run ∈ state.runs, ∀ expiry, run.storedUntil = some expiry →
      state.clock < expiry → KeptApart run.job job)
    (isRead : state.store.read state.clock (storeKey digests job) = some hit)
    (served : servedFrom job hit = some result) :
    Sound settings digests (state.afterCall job ttl ⟨result, none⟩) := by
  have facts := cached_of_servedFrom served
  have noRun : (state.afterCall job ttl ⟨result, none⟩).runs = state.runs := by
    simp [State.afterCall, facts.1]
  constructor
  · intro key entry present
    rw [noRun]
    exact sound.stored key entry present
  · intro answer isAnswer isCached
    rw [noRun]
    rcases List.mem_cons.mp isAnswer with rfl | older
    · unfold Store.read at isRead
      split at isRead
      · rename_i entry isEntry
        obtain ⟨alive, isHit⟩ := Option.ite_none_right_eq_some.mp isRead
        cases isHit
        obtain ⟨run, isRun, stored⟩ := sound.stored _ entry isEntry
        have target : SameTarget run.job job :=
          sameTarget_of_storeKey free (apart run isRun _ stored.kept alive)
            stored.key.symm
        rw [loads_dumps stored.payload, servedFrom_payloadOf] at served
        cases served
        refine ⟨run, isRun, target, rfl, rfl, rfl, rfl, stored.reported,
          stored.earlier, ?_⟩
        rw [← stored.expires]
        exact alive
      · cases isRead
    · exact sound.isolated answer older isCached

theorem sound_attention {job : ChartJob} {ttl : ℤ} {message : String}
    (sound : Sound settings digests state) :
    Sound settings digests (state.afterCall job ttl
      ⟨attention job (settings.isoformat state.clock) message, none⟩) :=
  ⟨sound.stored, sound.isolated.cons (fun _ isRun => isRun) rfl _ _⟩

theorem entryOf_eq_some {clock : ℚ} {ttl : ℤ} {results : List Row}
    {result : ChartRunResult} {entry : Entry}
    (isEntry : entryOf settings clock ttl results result = some entry) :
    dumps (payloadOf result) = some entry.payload ∧
      entry.expiresAt = clock + ttl := by
  obtain ⟨_, written⟩ := Option.ite_none_right_eq_some.mp isEntry
  obtain ⟨payload, isPayload, rfl⟩ := Option.map_eq_some_iff.mp written
  exact ⟨isPayload, rfl⟩

/-- A live result is stored under its job's key, or not at all. -/
theorem sound_live {job : ChartJob} {ttl : ℤ} {results : List Row}
    {written : Option Entry} (sound : Sound settings digests state)
    (entries : ∀ entry, written = some entry →
      entryOf settings state.clock ttl results (liveResult settings job
        (settings.isoformat state.clock) results) = some entry) :
    Sound settings digests (state.afterCall job ttl
      ⟨liveResult settings job (settings.isoformat state.clock) results,
        written.map fun entry => (storeKey digests job, entry)⟩) := by
  have more : ∀ run ∈ state.runs, run ∈ (state.afterCall job ttl
      ⟨liveResult settings job (settings.isoformat state.clock) results,
        written.map fun entry => (storeKey digests job, entry)⟩).runs := by
    intro run isRun
    exact List.mem_cons_of_mem _ isRun
  refine ⟨?_, sound.isolated.cons more rfl _ _⟩
  have older : ∀ key entry, state.store key = some entry →
      ∃ run ∈ (state.afterCall job ttl
        ⟨liveResult settings job (settings.isoformat state.clock) results,
          written.map fun entry => (storeKey digests job, entry)⟩).runs,
        Stored settings digests state.clock run key entry := by
    intro key entry present
    obtain ⟨run, isRun, stored⟩ := sound.stored key entry present
    exact ⟨run, more run isRun, stored⟩
  intro key entry present
  cases written with
  | none =>
      exact older key entry present
  | some new =>
      by_cases same : key = storeKey digests job
      · subst key
        simp only [State.afterCall, State.write, Option.map_some,
          Function.update_self] at present
        cases present
        obtain ⟨isPayload, expires⟩ := entryOf_eq_some (entries _ rfl)
        exact ⟨_, List.mem_cons_self, rfl, isPayload, rfl, expires, le_refl _, rfl⟩
      · simp only [State.afterCall, State.write, Option.map_some,
          Function.update_of_ne same] at present
        exact older key entry present

theorem sound_step {label : Label} (free : digests.CollisionFree)
    (sound : Sound settings digests state) (apart : KeepsApart state label)
    (stepped : step settings digests state label = some next) :
    Sound settings digests next := by
  cases label with
  | tick elapsed =>
      obtain ⟨forward, moved⟩ := Option.ite_none_right_eq_some.mp stepped
      cases moved
      exact sound_tick sound forward
  | call job useCache ttl reads writes live =>
      cases stepped
      rcases executeChart_cases settings digests state.clock state.store job useCache
        ttl reads writes live with
        ⟨hit, result, isRead, uses, served, ran⟩ | ⟨message, ran⟩ | ⟨results, ran⟩
      · rw [ran]
        exact sound_hit sound free (apart uses) isRead served
      · rw [ran]
        exact sound_attention sound
      · rw [ran]
        split
        · exact sound_live sound fun entry isEntry => isEntry
        · have none : ∀ entry : Entry, (Option.none : Option Entry) = some entry →
              entryOf settings state.clock ttl results (liveResult settings job
                (settings.isoformat state.clock) results) = some entry := by
            intro entry isEntry
            cases isEntry
          exact sound_live sound none

end Steps

/-- In every state that a run reaches whose calls are kept apart from the jobs whose
results are stored, what was served from the cache is the result of a live run of the
same target, at most its time to live ago. -/
theorem results_isolated (settings : Settings) (digests : Digests)
    (free : digests.CollisionFree) (state : State)
    (reachable : (system settings digests).ReachableUnder KeepsApart state) :
    Isolated settings state := by
  have sound : Sound settings digests state :=
    reachable.invariant (Sound settings digests)
      (fun _ isInitial => sound_initial isInitial)
      (fun _ _ _ holds apart stepped => sound_step free holds apart stepped)
  exact sound.isolated

/-! ### A schema that is called None, and a separator that has moved -/

def shopSettings : Settings where
  isRead := fun sql => decide (sql = "SELECT 1")
  isoformat := fun _ => "2026-01-01T00:00:00+00:00"
  maxChartRows := 5000
  maxCacheableRows := 2000

def plainDigests : Digests where
  sha256 := fun text => text
  md5 := fun text => text

theorem plainDigests_collisionFree : plainDigests.CollisionFree :=
  ⟨fun _ _ same => same, fun _ _ same => same⟩

def shopJob (database : String) (dbSchema : Option String) : ChartJob where
  chartId := "c"
  sql := "SELECT 1"
  chartType := "bar"
  config := none
  organizationId := some "a"
  engine := some "postgresql"
  host := some "h"
  port := some 5432
  database := some database
  dbSchema := dbSchema
  username := some "u"
  password := none

def shopStart : State where
  clock := 0
  store := fun _ => none
  runs := []
  answers := []

def shopRun (first second : ChartJob) : State :=
  ((system shopSettings plainDigests).exec shopStart
    [.call first true 45 true true (.returned [⟨["n"], [.int 1]⟩]),
      .call second true 45 true true (.returned [⟨["n"], [.int 2]⟩])]).getD shopStart

theorem shopStart_initial : (system shopSettings plainDigests).initial shopStart :=
  ⟨fun _ => rfl, rfl, rfl⟩

/-- Unset, and set to the text that stands for unset. -/
def unsetSchema : ChartJob := shopJob "d" none
def noneSchema : ChartJob := shopJob "d" (some "None")

/-- The same text, cut at another place. -/
def movedDatabase : ChartJob := shopJob "d\x1fs" (some "t")
def movedSchema : ChartJob := shopJob "d" (some "s\x1ft")

/-- An answer from the cache, and no live run with the schema of its job. -/
theorem not_isolated {settings : Settings} {state : State} (schema : Option String)
    (served : state.answers.any (fun answer =>
      answer.result.cached && decide (answer.job.dbSchema = schema)) = true)
    (ran : state.runs.all (fun run =>
      decide (run.job.dbSchema ≠ schema)) = true) : ¬ Isolated settings state := by
  intro isolated
  obtain ⟨answer, isAnswer, facts⟩ := List.any_eq_true.mp served
  simp only [Bool.and_eq_true, decide_eq_true_eq] at facts
  obtain ⟨run, isRun, target, _⟩ := isolated answer isAnswer facts.1
  obtain ⟨_, _, _, _, _, sameSchema, _⟩ := target
  have different := of_decide_eq_true (List.all_eq_true.mp ran run isRun)
  exact different (sameSchema.trans facts.2)

theorem shopRun_reachable {first second : ChartJob}
    (runs : ((system shopSettings plainDigests).exec shopStart
      [.call first true 45 true true (.returned [⟨["n"], [.int 1]⟩]),
        .call second true 45 true true
          (.returned [⟨["n"], [.int 2]⟩])]).isSome = true) :
    (system shopSettings plainDigests).Reachable (shopRun first second) :=
  TransitionSystem.reachable_of_exec _ shopStart_initial
    (TransitionSystem.exec_eq_getD runs)

theorem results_shared :
    ((system shopSettings plainDigests).Reachable
          (shopRun unsetSchema noneSchema) ∧
        ¬ Isolated shopSettings (shopRun unsetSchema noneSchema)) ∧
      ((system shopSettings plainDigests).Reachable
          (shopRun movedDatabase movedSchema) ∧
        ¬ Isolated shopSettings (shopRun movedDatabase movedSchema)) := by
  refine ⟨⟨shopRun_reachable (by decide), ?_⟩,
    ⟨shopRun_reachable (by decide), ?_⟩⟩
  · exact not_isolated (some "None") (by decide +kernel) (by decide +kernel)
  · exact not_isolated (some "s\x1ft") (by decide +kernel)
      (by decide +kernel)

/-- A job keeps apart from itself: the second of two calls is served from the
cache. -/
theorem keptApart_self (job : ChartJob) : KeptApart job job :=
  ⟨fun _ => rfl, fun _ => rfl⟩

theorem mem_afterCall {state : State} {job : ChartJob} {ttl : ℤ} {ran : Ran}
    {run : LiveRun} (isRun : run ∈ (state.afterCall job ttl ran).runs) :
    run.job = job ∨ run ∈ state.runs := by
  simp only [State.afterCall] at isRun
  split at isRun
  · rcases List.mem_cons.mp isRun with rfl | older
    · exact Or.inl rfl
    · exact Or.inr older
  · exact Or.inr isRun

def asked (state : State) (number : ℤ) : State :=
  state.afterCall unsetSchema 45 (executeChart shopSettings plainDigests state.clock
    state.store unsetSchema true 45 true true (.returned [⟨["n"], [.int number]⟩]))

theorem asked_reaches {state : State} {number : ℤ}
    (theirs : ∀ run ∈ state.runs, run.job = unsetSchema) :
    (system shopSettings plainDigests).Reaches KeepsApart state
      (asked state number) := by
  refine TransitionSystem.Reaches.single (.call unsetSchema true 45 true true
    (.returned [⟨["n"], [.int number]⟩])) ?_ rfl
  intro _ run isRun _ _ _
  rw [theirs run isRun]
  exact keptApart_self unsetSchema

theorem results_isolated_twice :
    Isolated shopSettings (asked (asked shopStart 1) 2) := by
  have once : (system shopSettings plainDigests).Reaches KeepsApart shopStart
      (asked shopStart 1) := by
    refine asked_reaches ?_
    intro run isRun
    cases isRun
  have twice : (system shopSettings plainDigests).Reaches KeepsApart
      (asked shopStart 1) (asked (asked shopStart 1) 2) := by
    refine asked_reaches ?_
    intro run isRun
    rcases mem_afterCall isRun with same | older
    · exact same
    · cases older
  exact results_isolated shopSettings plainDigests plainDigests_collisionFree _
    ⟨shopStart, shopStart_initial, once.trans twice⟩

end DbBuddy.Publishing.ResultCache
