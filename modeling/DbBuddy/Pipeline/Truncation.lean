import DbBuddy.Pipeline.Orchestrator
import DbBuddy.Publishing.ResultCache

/-!
# Truncated answers

Rows are cut where they are read, at `FETCH_CAP`, and again where they are shown: 1000 for an
answer, the cap of a chart, no cut at all in `/execute`.  What a response says about it is
computed from the rows that are left after the first cut, and an answer that is run again
from the response cache says nothing about it.
-/

namespace DbBuddy.Pipeline.Truncation

open DbBuddy.Library DbBuddy.Sql DbBuddy.Publishing.ResultCache

/-! ## What the statements produce -/

/-- The rows that a driver answers with, statement after statement. -/
def rowsAfter (driver : Driver Row) (before : List (List Char)) :
    List (List Char) → List Row
  | [] => []
  | statement :: rest =>
      match driver.execute before statement with
      | .error _ => []
      | .ok cursor => cursor.rows ++ rowsAfter driver (before ++ [statement]) rest

/-- Whether `execute_query` reads the rows of a text. -/
def Fetched (lowercase : Lowercase) (sql : List Char) : Prop :=
  firstWord lowercase sql ∈ fetchedQueries

instance (lowercase : Lowercase) (sql : List Char) : Decidable (Fetched lowercase sql) := by
  unfold Fetched
  infer_instance

/-- The rows that a text produces. -/
def producedRows (lowercase : Lowercase) (driver : Driver Row) (sql : List Char) : List Row :=
  rowsAfter driver []
    (if Fetched lowercase sql then [sql] else (writeStatements sql).map terminated)

/-- What `execute_query` returns, as a list of rows. -/
def resultRows : QueryResult Row → List Row
  | .fetched rows => rows
  | .rowsAffected total => [⟨["rows_affected"], [.int total]⟩]

/-! ## The answer to a question -/

/-- The reason that `basic_sql_validation` gives. -/
def validationReason (sql : List Char) : Option String :=
  if (strip sql).isEmpty then some "Empty SQL"
  else if ';' ∈ (strip sql).dropLast then some "Multiple statements not allowed"
  else none

structure SafeResult where
  success : Bool
  results : Option (List Row)
  error : Option String
  truncated : Option Bool
  executionTimeMs : ℚ

/-- `execute_query_safely`; `elapsed` is the time that it reports. -/
def executeQuerySafely (lowercase : Lowercase) (fetchCap : ℕ) (driver : Driver Row)
    (elapsed : ℚ) (sql : List Char) : SafeResult :=
  match validationReason sql with
  | some reason => ⟨false, none, some reason, none, elapsed⟩
  | none =>
      match executeQuery lowercase fetchCap driver sql with
      | .error message => ⟨false, none, some message, none, elapsed⟩
      | .ok execution =>
          let results := resultRows execution.result
          if maxRows < results.length then
            ⟨true, some (results.take maxRows), none, some true, elapsed⟩
          else ⟨true, some results, none, some false, elapsed⟩

/-! ## `/execute` -/

structure ExecuteResponse where
  results : List Row
  rowsAffected : Option PyValue
  message : Option String
  write : Bool

/-- `results[0]["rows_affected"]`, where there is one. -/
def affectedOf : List Row → Option PyValue
  | [] => none
  | row :: _ => member row.keys row.values "rows_affected"

/-- The end of `execute`; `text` is Python's `str`. -/
def executeResponse (text : PyValue → String) (results : List Row) : ExecuteResponse :=
  match affectedOf results with
  | some count =>
      ⟨[], some count,
        some ("Query executed successfully. " ++ text count ++ " row(s) affected."), true⟩
  | none => ⟨results, none, none, false⟩

/-- `execute`, from the text on that it has resolved. -/
def execute (lowercase : Lowercase) (fetchCap : ℕ) (driver : Driver Row)
    (text : PyValue → String) (sql : List Char) : Except String ExecuteResponse :=
  (executeQuery lowercase fetchCap driver sql).map fun execution =>
    executeResponse text (resultRows execution.result)

/-! ## Charts -/

/-- What a chart's query comes back with. -/
def liveOf (lowercase : Lowercase) (fetchCap : ℕ) (driver : Driver Row) (job : ChartJob) : Live :=
  match executeQuery lowercase fetchCap driver job.sql.toList with
  | .error _ => .failed
  | .ok execution => .returned (resultRows execution.result)

section Charts

variable (lowercase : Lowercase) (fetchCap : ℕ) (settings : Settings) (digests : Digests)

/-- The results that a chart is given, each with the text and the driver that its rows are
from: a live call's own, or those of the live call that has stored what is served. -/
inductive ChartAnswer : List Char → Driver Row → ChartRunResult → Prop where
  | live (clock : ℚ) (store : Store) (job : ChartJob) (useCache : Bool) (ttl : ℤ)
      (reads writes : Bool) (driver : Driver Row) (result : ChartRunResult)
      (written : Option (String × Entry))
      (ran : executeChart settings digests clock store job useCache ttl reads writes
        (liveOf lowercase fetchCap driver job) = ⟨result, written⟩)
      (isLive : result.ok = true ∧ result.cached = false) :
      ChartAnswer job.sql.toList driver result
  | cached (clock : ℚ) (store : Store) (job : ChartJob) (useCache : Bool) (ttl : ℤ)
      (reads writes : Bool) (driver : Driver Row) (result : ChartRunResult) (key : String)
      (entry : Entry)
      (ran : executeChart settings digests clock store job useCache ttl reads writes
        (liveOf lowercase fetchCap driver job) = ⟨result, some (key, entry)⟩)
      (later : ℚ) (laterStore : Store) (laterJob : ChartJob) (laterTtl : ℤ)
      (laterReads laterWrites : Bool) (live : Live) (served : ChartRunResult)
      (kept : laterStore (storeKey digests laterJob) = some entry)
      (answered : (executeChart settings digests later laterStore laterJob true laterTtl
        laterReads laterWrites live).result = served)
      (isCached : served.cached = true) :
      ChartAnswer job.sql.toList driver served

end Charts

/-! ## What a response says -/

/-- A response, as far as its rows go; none can mark its count as a lower bound. -/
structure Response where
  shown : ℤ
  truncated : Bool
  rowCount : Option ℤ

/-- The law: fewer rows are disclosed, all rows are not called fewer, and a count is true. -/
structure Honest (produced : ℕ) (response : Response) : Prop where
  disclosed : response.shown < produced → response.truncated = true
  silent : produced ≤ response.shown → response.truncated = false
  counted : ∀ count, response.rowCount = some count → count = produced

def SafeResult.response (result : SafeResult) : Response where
  shown := (result.results.getD []).length
  truncated := result.truncated.getD false
  rowCount := none

/-- What `process_query` goes on with. -/
def SafeResult.executed (result : SafeResult) : Executed Row where
  success := result.success
  results := result.results.getD []
  truncated := result.truncated.getD false
  error := result.error.getD ""

/-- An answer to a question has no flag either; what it says is its warning. -/
def answerResponse (answer : Pipeline.Response Row) : Response where
  shown := (answer.results.getD []).length
  truncated := decide (answer.warning = some truncationWarning)
  rowCount := none

/-- There is no flag. -/
def ExecuteResponse.response (response : ExecuteResponse) : Response where
  shown := response.results.length
  truncated := false
  rowCount := none

def isTrue : PyValue → Bool
  | .bool value => value
  | _ => false

def countOf : PyValue → Option ℤ
  | .int count => some count
  | _ => none

def chartResponse (result : ChartRunResult) : Response where
  shown := lengthOf result.rows
  truncated := isTrue result.truncated
  rowCount := countOf result.rowCount

/-! ## When it is honest -/

section Conditions

variable (lowercase : Lowercase) (fetchCap : ℕ) (driver : Driver Row) (sql : List Char)

/-- All rows are read, or the cap is beyond what an answer shows. -/
def SafeFits : Prop :=
  if Fetched lowercase sql then
    (producedRows lowercase driver sql).length ≤ fetchCap ∨ maxRows < fetchCap
  else (producedRows lowercase driver sql).length ≤ 1

/-- All rows are read, and all that are read are shown. -/
def CachedFits : Prop :=
  if Fetched lowercase sql then
    (producedRows lowercase driver sql).length ≤ fetchCap ∧
      (producedRows lowercase driver sql).length ≤ maxRows
  else (producedRows lowercase driver sql).length ≤ 1

/-- All rows are read, and the first of them does not look like a write. -/
def ExecuteFits : Prop :=
  if Fetched lowercase sql then
    (producedRows lowercase driver sql).length ≤ fetchCap ∧
      affectedOf (producedRows lowercase driver sql) = none
  else producedRows lowercase driver sql = []

/-- All rows are read; what is not fetched counts as one. -/
def ChartFits : Prop :=
  if Fetched lowercase sql then (producedRows lowercase driver sql).length ≤ fetchCap
  else (producedRows lowercase driver sql).length = 1

end Conditions

/-! ## What is left after the first cut -/

section Executing

variable {lowercase : Lowercase} {fetchCap : ℕ} {driver : Driver Row} {sql : List Char}
  {execution : Execution Row}

/-- A read leaves the first rows. -/
theorem resultRows_of_fetched (isFetched : Fetched lowercase sql)
    (ran : executeQuery lowercase fetchCap driver sql = .ok execution) :
    resultRows execution.result = (producedRows lowercase driver sql).take fetchCap := by
  have isRead : firstWord lowercase sql ∈ fetchedQueries := isFetched
  unfold executeQuery at ran
  rw [if_pos isRead] at ran
  split at ran
  · cases ran
  · unfold producedRows
    rw [if_pos isFetched]
    cases answered : driver.execute [] sql with
    | error message =>
        rw [answered] at ran
        cases ran
    | ok cursor =>
        rw [answered] at ran
        cases ran
        simp [rowsAfter, answered, resultRows, fetchBounded_eq]

/-- A write leaves one row, with a count. -/
theorem resultRows_of_not_fetched (notFetched : ¬Fetched lowercase sql)
    (ran : executeQuery lowercase fetchCap driver sql = .ok execution) :
    ∃ total, resultRows execution.result = [⟨["rows_affected"], [.int total]⟩] := by
  have notRead : firstWord lowercase sql ∉ fetchedQueries := notFetched
  unfold executeQuery at ran
  rw [if_neg notRead] at ran
  cases each : executeEach driver [] 0 (writeStatements sql) with
  | error message =>
      rw [each] at ran
      cases ran
  | ok done =>
      rw [each] at ran
      cases ran
      exact ⟨done.2, rfl⟩

end Executing

/-! ## Three paths -/

section Paths

variable {lowercase : Lowercase} {fetchCap : ℕ} {driver : Driver Row} {sql : List Char}
  {execution : Execution Row}

theorem honest_iff {produced : ℕ} {response : Response} :
    Honest produced response ↔
      (response.shown < produced → response.truncated = true) ∧
        (produced ≤ response.shown → response.truncated = false) ∧
          ∀ count, response.rowCount = some count → count = produced := by
  constructor
  · intro honest
    exact ⟨honest.disclosed, honest.silent, honest.counted⟩
  · rintro ⟨disclosed, silent, counted⟩
    exact ⟨disclosed, silent, counted⟩

theorem response_safe (valid : validationReason sql = none)
    (ran : executeQuery lowercase fetchCap driver sql = .ok execution) (elapsed : ℚ) :
    (executeQuerySafely lowercase fetchCap driver elapsed sql).response =
      ⟨(min maxRows (resultRows execution.result).length : ℕ),
        decide (maxRows < (resultRows execution.result).length), none⟩ := by
  unfold executeQuerySafely
  rw [valid, ran]
  dsimp only
  split
  · next isMore => simp [SafeResult.response, isMore]
  · next notMore =>
      have few := Nat.le_of_not_lt notMore
      simp [SafeResult.response, notMore, Nat.min_eq_right few]

/-- An answer that shows 1000 rows at most. -/
theorem honest_safe_iff (valid : validationReason sql = none)
    (ran : executeQuery lowercase fetchCap driver sql = .ok execution) (elapsed : ℚ) :
    Honest (producedRows lowercase driver sql).length
        (executeQuerySafely lowercase fetchCap driver elapsed sql).response ↔
      SafeFits lowercase fetchCap driver sql := by
  rw [response_safe valid ran, honest_iff]
  simp only [decide_eq_true_eq, decide_eq_false_iff_not, reduceCtorEq, false_implies,
    implies_true, and_true]
  unfold SafeFits
  by_cases isFetched : Fetched lowercase sql
  · rw [if_pos isFetched, resultRows_of_fetched isFetched ran, List.length_take]
    omega
  · obtain ⟨total, isRow⟩ := resultRows_of_not_fetched isFetched ran
    have big : 1 < maxRows := by decide
    rw [if_neg isFetched, isRow, List.length_singleton]
    omega

section Answers

variable {Config Memory Database Bound : Type}
  (stages : Stages Config Memory Database Row Bound)

/-- A fresh answer says what `execute_query_safely` has found: a join without rows, whose
warning comes later, is not truncated. -/
theorem answerResponse_disclosed {question : Text} {ambiguities : List String}
    {response : Pipeline.Response Row} (quiet : response.warning ≠ some truncationWarning)
    {result : SafeResult}
    (someRow : result.truncated = some true → result.results.getD [] ≠ []) :
    answerResponse (disclosed stages question ambiguities result.executed response) =
      result.response := by
  have otherWarning : emptyJoinWarning ≠ truncationWarning := by decide +kernel
  have noJoin : result.truncated.getD false = true →
      emptyJoin stages question result.executed = false := by
    intro isTruncated
    have isTrue : result.truncated = some true := by
      cases isFlag : result.truncated with
      | none =>
          rw [isFlag] at isTruncated
          cases isTruncated
      | some flag =>
          rw [isFlag] at isTruncated
          exact congrArg some isTruncated
    have rows : result.executed.results.isEmpty = false :=
      List.isEmpty_eq_false_iff.mpr (someRow isTrue)
    rw [emptyJoin, rows, Bool.and_false]
  unfold disclosed
  cases isTruncated : result.truncated.getD false with
  | true =>
      rw [noJoin isTruncated]
      simp only [SafeResult.executed, isTruncated, if_true, Bool.false_eq_true, if_false]
      split <;> simp [answerResponse, SafeResult.response, isTruncated]
  | false =>
      simp only [SafeResult.executed, isTruncated, Bool.false_eq_true, if_false]
      split
      · simp [answerResponse, SafeResult.response, isTruncated, otherWarning]
      · split <;> simp [answerResponse, SafeResult.response, isTruncated, quiet]

/-- A fresh answer. -/
theorem honest_fresh_iff (valid : validationReason sql = none)
    (ran : executeQuery lowercase fetchCap driver sql = .ok execution) (elapsed : ℚ)
    (question : Text) (ambiguities : List String) {response : Pipeline.Response Row}
    (quiet : response.warning ≠ some truncationWarning) :
    Honest (producedRows lowercase driver sql).length
        (answerResponse (disclosed stages question ambiguities
          (executeQuerySafely lowercase fetchCap driver elapsed sql).executed response)) ↔
      SafeFits lowercase fetchCap driver sql := by
  rw [answerResponse_disclosed stages quiet, honest_safe_iff valid ran]
  unfold executeQuerySafely
  rw [valid, ran]
  dsimp only
  split
  · next isMore =>
      intro _ isNil
      have noRow : (resultRows execution.result).take maxRows = [] := isNil
      rcases List.take_eq_nil_iff.mp noRow with isZero | isNil
      · cases isZero
      · rw [isNil] at isMore
        cases isMore
  · intro isTruncated
    cases isTruncated

/-- An answer from the cache has the rows of its own run, and the warning that the response
was stored with. -/
theorem honest_cached_iff (valid : validationReason sql = none)
    (ran : executeQuery lowercase fetchCap driver sql = .ok execution) {elapsed : ℚ}
    {request : Request Config} {database : Database} {hit answer : Pipeline.Response Row}
    (isRun : stages.run request.config database (.inline sql) =
      (executeQuerySafely lowercase fetchCap driver elapsed sql).executed)
    (isSql : hit.sql = some sql) (quiet : hit.warning ≠ some truncationWarning)
    (answered : cachedAnswer stages request database hit = some answer) :
    Honest (producedRows lowercase driver sql).length (answerResponse answer) ↔
      CachedFits lowercase fetchCap driver sql := by
  have response : answerResponse answer =
      ⟨(min maxRows (resultRows execution.result).length : ℕ), false, none⟩ := by
    have shown := congrArg Response.shown (response_safe valid ran elapsed)
    unfold cachedAnswer at answered
    rw [isSql, Option.getD_some, isRun] at answered
    split at answered
    · dsimp only at answered
      split at answered
      · cases answered
        rw [answerResponse, decide_eq_false quiet]
        congr 1
      · cases answered
    · cases answered
  rw [response, honest_iff]
  simp only [Bool.false_eq_true, imp_false, reduceCtorEq, false_implies, implies_true, and_true]
  unfold CachedFits
  by_cases isFetched : Fetched lowercase sql
  · rw [if_pos isFetched, resultRows_of_fetched isFetched ran, List.length_take]
    omega
  · obtain ⟨total, isRow⟩ := resultRows_of_not_fetched isFetched ran
    have big : 1 < maxRows := by decide
    rw [if_neg isFetched, isRow, List.length_singleton]
    omega

end Answers

/-- A response that shows all that was read, unless it looks like a write. -/
theorem honest_execute_iff (ran : executeQuery lowercase fetchCap driver sql = .ok execution)
    (text : PyValue → String) :
    Honest (producedRows lowercase driver sql).length
        (executeResponse text (resultRows execution.result)).response ↔
      ExecuteFits lowercase fetchCap driver sql := by
  have response : (executeResponse text (resultRows execution.result)).response =
      ⟨if affectedOf (resultRows execution.result) = none then
          (resultRows execution.result).length else 0, false, none⟩ := by
    unfold executeResponse
    cases affectedOf (resultRows execution.result) with
    | none => rfl
    | some count => rfl
  rw [response, honest_iff]
  simp only [Bool.false_eq_true, imp_false, reduceCtorEq, false_implies, implies_true, and_true]
  unfold ExecuteFits
  by_cases isFetched : Fetched lowercase sql
  · rw [if_pos isFetched, resultRows_of_fetched isFetched ran]
    generalize producedRows lowercase driver sql = rows
    by_cases fits : rows.length ≤ fetchCap
    · rw [List.take_of_length_le fits]
      by_cases noCount : affectedOf rows = none
      · simp [noCount, fits]
      · have someRow : rows ≠ [] := by
          rintro rfl
          exact noCount rfl
        have positive := List.length_pos_iff.mpr someRow
        simp only [noCount, if_false, and_false, iff_false, not_not]
        exact_mod_cast positive
    · have length : (rows.take fetchCap).length = fetchCap := by
        rw [List.length_take]
        omega
      rw [length]
      simp only [fits, false_and, iff_false, not_not]
      split
      · exact_mod_cast Nat.lt_of_not_le fits
      · exact_mod_cast Nat.lt_of_le_of_lt (Nat.zero_le _) (Nat.lt_of_not_le fits)
  · obtain ⟨total, isRow⟩ := resultRows_of_not_fetched isFetched ran
    have affected : affectedOf (resultRows execution.result) = some (.int total) := by
      rw [isRow]
      rfl
    rw [if_neg isFetched, affected]
    simp

/-- A chart shows as many rows as its cap allows, and tells how many it was given. -/
theorem honest_live_iff (ran : executeQuery lowercase fetchCap driver sql = .ok execution)
    (settings : Settings) (job : ChartJob) (fetchedAt : String) :
    Honest (producedRows lowercase driver sql).length
        (chartResponse (liveResult settings job fetchedAt (resultRows execution.result))) ↔
      ChartFits lowercase fetchCap driver sql := by
  have response : chartResponse
      (liveResult settings job fetchedAt (resultRows execution.result)) =
        ⟨(min settings.maxChartRows (resultRows execution.result).length : ℕ),
          decide (settings.maxChartRows < (resultRows execution.result).length),
          some (resultRows execution.result).length⟩ := by
    simp [chartResponse, liveResult, lengthOf, isTrue, countOf]
  rw [response, honest_iff]
  simp only [decide_eq_true_eq, decide_eq_false_iff_not, Option.some.injEq, forall_eq']
  unfold ChartFits
  by_cases isFetched : Fetched lowercase sql
  · rw [if_pos isFetched, resultRows_of_fetched isFetched ran, List.length_take]
    omega
  · obtain ⟨total, isRow⟩ := resultRows_of_not_fetched isFetched ran
    rw [if_neg isFetched, isRow, List.length_singleton]
    omega

/-- What is stored of a chart comes back as it was. -/
theorem chartResponse_served {settings : Settings} {clock : ℚ} {ttl : ℤ} {results : List Row}
    {result served : ChartRunResult} {entry : Entry} {job : ChartJob}
    (isEntry : entryOf settings clock ttl results result = some entry)
    (isServed : servedFrom job (loads entry.payload) = some served) :
    chartResponse served = chartResponse result := by
  obtain ⟨isPayload, _⟩ := entryOf_eq_some isEntry
  rw [loads_dumps isPayload, servedFrom_payloadOf] at isServed
  cases isServed
  rfl

/-- A call that answers with a live result, or that stores one, was given rows. -/
theorem executeChart_returned {settings : Settings} {digests : Digests} {clock : ℚ}
    {store : Store} {job : ChartJob} {useCache : Bool} {ttl : ℤ} {reads writes : Bool}
    {live : Live} {result : ChartRunResult} {written : Option (String × Entry)}
    (ran : executeChart settings digests clock store job useCache ttl reads writes live =
      ⟨result, written⟩)
    (isLive : (result.ok = true ∧ result.cached = false) ∨ written ≠ none) :
    ∃ results, live = .returned results ∧
      result = liveResult settings job (settings.isoformat clock) results ∧
      ∀ key entry, written = some (key, entry) →
        entryOf settings clock ttl results result = some entry := by
  unfold executeChart at ran
  dsimp only at ran
  split at ran
  · cases ran
    simp [attention] at isLive
  · split at ran
    · cases ran
      simp [attention] at isLive
    · split at ran
      · next hit isHit =>
          cases ran
          obtain ⟨_, found⟩ := Option.ite_none_right_eq_some.mp isHit
          obtain ⟨_, _, served⟩ := Option.bind_eq_some_iff.mp found
          simp [(cached_of_servedFrom served).1] at isLive
      · cases live with
        | busy message =>
            cases ran
            simp [attention] at isLive
        | failed =>
            cases ran
            simp [attention] at isLive
        | returned results =>
            cases ran
            refine ⟨results, rfl, rfl, ?_⟩
            intro key entry isWritten
            obtain ⟨_, isEntry⟩ := Option.ite_none_right_eq_some.mp isWritten
            obtain ⟨_, isEntry, same⟩ := Option.map_eq_some_iff.mp isEntry
            cases same
            exact isEntry

theorem liveOf_eq_returned {job : ChartJob} {results : List Row}
    (isLive : liveOf lowercase fetchCap driver job = .returned results) :
    ∃ execution, executeQuery lowercase fetchCap driver job.sql.toList = .ok execution ∧
      results = resultRows execution.result := by
  unfold liveOf at isLive
  split at isLive
  · cases isLive
  · next execution ran =>
      cases isLive
      exact ⟨execution, ran, rfl⟩

/-- A chart's answer is as honest as the run that its rows are from. -/
theorem honest_chart_iff {settings : Settings} {digests : Digests} {result : ChartRunResult}
    (answer : ChartAnswer lowercase fetchCap settings digests sql driver result) :
    Honest (producedRows lowercase driver sql).length (chartResponse result) ↔
      ChartFits lowercase fetchCap driver sql := by
  cases answer with
  | live clock store job useCache ttl reads writes driver result written ran isLive =>
      obtain ⟨results, isReturned, rfl, _⟩ := executeChart_returned ran (Or.inl isLive)
      obtain ⟨execution, executed, rfl⟩ := liveOf_eq_returned isReturned
      exact honest_live_iff executed settings job _
  | cached clock store job useCache ttl reads writes driver result key entry ran later
      laterStore laterJob laterTtl laterReads laterWrites live served kept answered isCached =>
      obtain ⟨results, isReturned, rfl, isStored⟩ :=
        executeChart_returned ran (Or.inr (Option.some_ne_none _))
      obtain ⟨execution, executed, rfl⟩ := liveOf_eq_returned isReturned
      rcases executeChart_cases settings digests later laterStore laterJob true laterTtl
        laterReads laterWrites live with
        ⟨hit, other, isRead, _, isServed, isRan⟩ | ⟨message, isRan⟩ | ⟨others, isRan⟩
      · rw [isRan] at answered
        cases answered
        unfold Store.read at isRead
        rw [kept] at isRead
        obtain ⟨_, isHit⟩ := Option.ite_none_right_eq_some.mp isRead
        cases isHit
        rw [chartResponse_served (isStored key entry rfl) isServed]
        exact honest_live_iff executed settings job _
      · rw [isRan] at answered
        cases answered
        cases isCached
      · rw [isRan] at answered
        cases answered
        cases isCached

end Paths

/-! ## The law -/

section Law

variable {lowercase : Lowercase} {fetchCap : ℕ} {driver : Driver Row} {sql : List Char}

/-- Each path is honest exactly where what it counts is what was produced: what
`execute_query_safely` returns, the answer to a question that is made of it, the answer
from the response cache, `/execute` and a chart. -/
theorem truncation_disclosed_iff {Config Memory Database Bound : Type}
    (stages : Stages Config Memory Database Row Bound) (settings : Settings)
    (digests : Digests) (elapsed : ℚ) (text : PyValue → String) {execution : Execution Row}
    (ran : executeQuery lowercase fetchCap driver sql = .ok execution) :
    (validationReason sql = none →
      (Honest (producedRows lowercase driver sql).length
          (executeQuerySafely lowercase fetchCap driver elapsed sql).response ↔
        SafeFits lowercase fetchCap driver sql) ∧
      (∀ question ambiguities (response : Pipeline.Response Row),
        response.warning ≠ some truncationWarning →
        (Honest (producedRows lowercase driver sql).length
            (answerResponse (disclosed stages question ambiguities
              (executeQuerySafely lowercase fetchCap driver elapsed sql).executed
                response)) ↔
          SafeFits lowercase fetchCap driver sql)) ∧
      ∀ request database (hit answer : Pipeline.Response Row),
        stages.run request.config database (.inline sql) =
          (executeQuerySafely lowercase fetchCap driver elapsed sql).executed →
        hit.sql = some sql → hit.warning ≠ some truncationWarning →
        cachedAnswer stages request database hit = some answer →
        (Honest (producedRows lowercase driver sql).length (answerResponse answer) ↔
          CachedFits lowercase fetchCap driver sql)) ∧
      (∀ response, execute lowercase fetchCap driver text sql = .ok response →
        (Honest (producedRows lowercase driver sql).length response.response ↔
          ExecuteFits lowercase fetchCap driver sql)) ∧
      ∀ result, ChartAnswer lowercase fetchCap settings digests sql driver result →
        (Honest (producedRows lowercase driver sql).length (chartResponse result) ↔
          ChartFits lowercase fetchCap driver sql) := by
  refine ⟨fun valid => ⟨honest_safe_iff valid ran elapsed, ?_, ?_⟩, ?_,
    fun _ answer => honest_chart_iff answer⟩
  · intro question ambiguities response quiet
    exact honest_fresh_iff stages valid ran elapsed question ambiguities quiet
  · intro request database hit answer isRun isSql quiet answered
    exact honest_cached_iff stages valid ran isRun isSql quiet answered
  · intro response isResponse
    unfold execute at isResponse
    rw [ran] at isResponse
    cases isResponse
    exact honest_execute_iff ran text

end Law

/-! ### One row more than is read -/

/-- One row at a time. -/
def single : Chunking where
  share _ size := min 1 size
  some_of_pos _ size isPos := by omega
  share_le _ _ := Nat.min_le_right _ _

/-- A driver that answers everything with as many rows. -/
def answering (count : ℕ) : Driver Row where
  execute _ _ := .ok ⟨List.replicate count ⟨["id"], [.int 1]⟩, -1, single⟩

def orderIds : List Char := "SELECT id FROM orders".toList

theorem fetched_orderIds : Fetched asciiLowercase orderIds := by
  decide

theorem producedRows_orderIds (count : ℕ) :
    producedRows asciiLowercase (answering count) orderIds =
      List.replicate count ⟨["id"], [.int 1]⟩ := by
  unfold producedRows
  rw [if_pos fetched_orderIds]
  simp [rowsAfter, answering]

theorem executeQuery_orderIds (fetchCap count : ℕ) :
    executeQuery asciiLowercase fetchCap (answering count) orderIds =
      .ok ⟨[orderIds], false,
        .fetched (fetchBounded fetchCap
          ⟨List.replicate count ⟨["id"], [.int 1]⟩, -1, single⟩)⟩ := by
  have isRead : firstWord asciiLowercase orderIds ∈ fetchedQueries := fetched_orderIds
  have single : ';' ∉ stripEnd ';' (strip orderIds) := by decide
  unfold executeQuery
  rw [if_pos isRead, if_neg single]
  rfl

theorem executeResponse_orderIds (fetchCap count : ℕ) (text : PyValue → String) :
    execute asciiLowercase fetchCap (answering count) text orderIds =
      .ok ⟨List.replicate (min fetchCap count) ⟨["id"], [.int 1]⟩, none, none, false⟩ := by
  have noCount : ∀ length : ℕ,
      affectedOf (List.replicate length ⟨["id"], [.int 1]⟩) = none := by
    intro length
    cases length with
    | zero => rfl
    | succ length => rfl
  unfold execute
  rw [executeQuery_orderIds]
  simp only [Except.map, resultRows, fetchBounded_eq, List.take_replicate, executeResponse,
    noCount]

/-- A pipeline that runs what it is given. -/
def shopStages : Stages Unit Unit (Driver Row) Row (List Char) where
  lowercase := asciiLowercase
  md5 := id
  schemaHash _ := []
  isRelevant _ _ := true
  front _ _ question := .ok ⟨1, [], question, question⟩
  validateQuery _ _ := ⟨true, [], []⟩
  validateAggregation _ := ⟨true, ""⟩
  generateWarning _ _ := ""
  dryRun _ _ _ := none
  run _ driver
    | .inline sql => (executeQuerySafely asciiLowercase 10000 driver 12 sql).executed
    | .bound sql => (executeQuerySafely asciiLowercase 10000 driver 12 sql).executed
  learn _ memory _ _ := memory

/-- What is stored for the question. -/
def storedIds : Pipeline.Response Row :=
  builtResponse shopStages () orderIds ⟨1, [], orderIds, orderIds⟩

theorem cachedAnswer_orderIds (count : ℕ) : ∃ answer,
    cachedAnswer shopStages ⟨(), orderIds, true, false⟩ (answering count) storedIds =
      some answer := by
  have plainRead : isPlainRead shopStages ⟨(), orderIds, true, false⟩ storedIds = true := by
    decide
  have valid : validationReason orderIds = none := by decide
  have succeeded : (shopStages.run () (answering count)
      (.inline (storedIds.sql.getD []))).success = true := by
    change (executeQuerySafely asciiLowercase 10000 (answering count) 12
      orderIds).success = true
    unfold executeQuerySafely
    rw [valid, executeQuery_orderIds]
    dsimp only
    split
    · rfl
    · rfl
  unfold cachedAnswer
  rw [if_pos plainRead]
  dsimp only
  rw [if_pos succeeded]
  exact ⟨_, rfl⟩

/-- A fresh answer tells that there are more than it shows, and one from the cache shows
all three. -/
theorem truncation_disclosed_orderIds :
    Honest 1500 (answerResponse (disclosed shopStages orderIds []
        (executeQuerySafely asciiLowercase 10000 (answering 1500) 12 orderIds).executed
          storedIds)) ∧
      ∃ answer, cachedAnswer shopStages ⟨(), orderIds, true, false⟩ (answering 3)
          storedIds = some answer ∧ Honest 3 (answerResponse answer) := by
  have valid : validationReason orderIds = none := by decide
  constructor
  · have fits : SafeFits asciiLowercase 10000 (answering 1500) orderIds := by
      unfold SafeFits
      rw [if_pos fetched_orderIds]
      exact Or.inr (by decide)
    have honest := ((truncation_disclosed_iff shopStages shopSettings plainDigests 12
      (fun _ => "") (executeQuery_orderIds 10000 1500)).1 valid).2.1 orderIds []
        storedIds (by simp [storedIds, builtResponse])
    rw [producedRows_orderIds, List.length_replicate] at honest
    exact honest.mpr fits
  · obtain ⟨answer, answered⟩ := cachedAnswer_orderIds 3
    have fits : CachedFits asciiLowercase 10000 (answering 3) orderIds := by
      unfold CachedFits
      rw [if_pos fetched_orderIds, producedRows_orderIds]
      exact ⟨by simp, by simp [maxRows]⟩
    have honest := ((truncation_disclosed_iff shopStages shopSettings plainDigests 12
      (fun _ => "") (executeQuery_orderIds 10000 3)).1 valid).2.2
        ⟨(), orderIds, true, false⟩ (answering 3) storedIds answer rfl rfl
          (by simp [storedIds, builtResponse]) answered
    rw [producedRows_orderIds, List.length_replicate] at honest
    exact ⟨answer, answered, honest.mpr fits⟩

/-- Rows beyond the cap are kept quiet. -/
theorem not_honest_orderIds {fetchCap count : ℕ} (more : fetchCap < count) :
    ¬Honest count (ExecuteResponse.response
      ⟨List.replicate (min fetchCap count) ⟨["id"], [.int 1]⟩, none, none, false⟩) := by
  intro honest
  have fewer : ((List.replicate (min fetchCap count)
      (⟨["id"], [.int 1]⟩ : Row)).length : ℤ) < count := by
    rw [List.length_replicate, Nat.min_eq_left more.le]
    exact_mod_cast more
  exact Bool.false_ne_true (honest.disclosed fewer)

/-- One row more than is read by default. -/
theorem not_disclosed_orderIds :
    (producedRows asciiLowercase (answering 10001) orderIds).length = 10001 ∧
      ∃ response, execute asciiLowercase 10000 (answering 10001) (fun _ => "") orderIds =
          .ok response ∧ ¬Honest 10001 response.response := by
  constructor
  · rw [producedRows_orderIds, List.length_replicate]
  · exact ⟨_, executeResponse_orderIds 10000 10001 _, not_honest_orderIds (by omega)⟩

end DbBuddy.Pipeline.Truncation
