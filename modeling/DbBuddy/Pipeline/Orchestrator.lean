import DbBuddy.Library.TransitionSystem
import DbBuddy.Sql.Execution
import Mathlib.Algebra.Order.Ring.Unbundled.Rat

/-!
# The query pipeline and its response cache

A question is answered from the response cache, if what is cached for it is a
plain read that can be run again, and by the full pipeline otherwise.  The
pipeline caches its response before the gates that follow the compilation have
looked at it.

The stages in front of the gates, the two validators and the target database are
parameters; the order of the gates and what each of them does to the response is
what `process_query` does.
-/

namespace DbBuddy.Pipeline

open DbBuddy.Library DbBuddy.Sql

universe u

abbrev Text := List Char

/-! ## Requests and responses -/

/-- The three levels a confidence is reported as. -/
inductive Confidence where
  | high
  | medium
  | low
  deriving DecidableEq, Repr

/-- The level of a plan's numeric confidence. -/
def confidenceLevel (confidence : ℚ) : Confidence :=
  if 8 / 10 ≤ confidence then .high
  else if 1 / 2 ≤ confidence then .medium
  else .low

/-- Why nothing was compiled. -/
inductive Refusal where
  | notGrounded
  | planningFailed (message : String)
  | compilationFailed (message : String)
  deriving DecidableEq, Repr

/-- The `error` and the `suggestion` of the response. -/
def Refusal.texts : Refusal → String × String
  | .notGrounded =>
      ("I couldn't match that to any tables or columns in your database.",
        "Try naming a table or field from your schema (e.g., 'show all " ++
          "users', 'total revenue per user').")
  | .planningFailed message =>
      ("Query planning failed: " ++ message,
        "Try simplifying your query or using more specific table/column names.")
  | .compilationFailed message =>
      ("SQL compilation failed: " ++ message,
        "The query planner produced an invalid execution plan. Try " ++
          "rephrasing your question.")

/-- What the stages up to the compiler make of a question: the plan's confidence
and ambiguities, the statement with its values inline, and the one to bind. -/
structure Compiled (Bound : Type u) where
  confidence : ℚ
  ambiguities : List String
  sql : Text
  bound : Bound

structure SchemaCheck where
  valid : Bool
  unknownTables : List String
  unknownColumns : List String
  deriving DecidableEq, Repr

structure AggregationCheck where
  valid : Bool
  error : String
  deriving DecidableEq, Repr

/-- What `execute_query_safely` returns. -/
structure Executed (Row : Type u) where
  success : Bool
  results : List Row
  truncated : Bool
  error : String

structure DryRun where
  estimatedRows : ℕ
  affectedColumns : List String
  deriving DecidableEq, Repr

/-- A statement with its values inline, or with values to bind. -/
inductive Statement (Bound : Type u) where
  | inline (sql : Text)
  | bound (statement : Bound)

/-- What a caller is told. -/
structure Response (Row : Type u) where
  query : Text
  sql : Option Text
  queryType : Text
  autoExecuted : Bool
  confidence : Confidence
  ambiguities : List String
  schemaValidation : Option SchemaCheck
  aggregationValidation : Option AggregationCheck
  safetyCategory : Option SafetyCategory
  requiresConfirmation : Option Bool
  requiresClarification : Bool
  clarificationApplied : Bool
  warning : Option String
  error : Option String
  suggestion : Option String
  dryRun : Option DryRun
  results : Option (List Row)
  cached : Bool

/-- `auto_execute_reads` and `clarification_response` are keyword arguments of
`process_query`; of the latter only whether it is given is looked at. -/
structure Request (Config : Type u) where
  config : Config
  question : Text
  autoExecuteReads : Bool
  clarification : Bool

/-! ## The stages -/

/-- What the orchestrator calls.  `front` stands for the enhancement of the
question by learned mappings, the intent builder, the planner and the compiler,
and `run` for `execute_query_safely`. -/
structure Stages (Config Memory Database Row Bound : Type u) where
  lowercase : Lowercase
  md5 : Text → Text
  schemaHash : Config → Text
  isRelevant : Config → Text → Bool
  front : Config → Memory → Text → Except Refusal (Compiled Bound)
  validateQuery : Config → Text → SchemaCheck
  validateAggregation : Text → AggregationCheck
  generateWarning : Config → Text → String
  dryRun : Config → Database → Text → Option DryRun
  run : Config → Database → Statement Bound → Executed Row
  learn : Config → Memory → Text → Compiled Bound → Memory

variable {Config Memory Database Row Bound : Type u}
variable (stages : Stages Config Memory Database Row Bound)

/-- `_normalize_query` -/
def normalizeQuery (question : Text) : Text :=
  [' '].intercalate (words (strip (stages.lowercase.text question)))

/-- `_QUERY_CACHE_PREFIX` -/
def queryCachePrefix : Text := "query:v15:v2".toList

/-- `_make_key`, of a normalised question and a schema. -/
def makeKey (config : Config) (question : Text) : Text :=
  let hashed := stages.md5 (normalizeQuery stages question)
  if stages.schemaHash config = [] then queryCachePrefix ++ ':' :: hashed
  else queryCachePrefix ++ ':' :: (stages.schemaHash config ++ ':' :: hashed)

/-- The words that make a question dangerous. -/
def dangerousKeywords : List Text :=
  ["delete".toList, "update".toList, "drop".toList, "truncate".toList,
    "alter".toList, "insert".toList]

/-- `force_write_mode` -/
def forceWriteMode (question : Text) : Bool :=
  dangerousKeywords.any fun keyword =>
    containsText keyword (stages.lowercase.text question)

/-- The texts a compiler stands for nothing with. -/
def emptySql : List Text := ["unknown".toList, "invalid".toList, []]

/-- `get_query_type` -/
def getQueryType (sql : Text) : Text :=
  if stages.lowercase.text (strip sql) ∈ emptySql then "invalid".toList
  else stages.lowercase.text ((words (strip sql)).headD "invalid".toList)

/-! ## The full pipeline -/

/-- A response of which only the question is known. -/
def refused (question : Text) (error : String) (suggestion : Option String) :
    Response Row where
  query := question
  sql := none
  queryType := "invalid".toList
  autoExecuted := false
  confidence := .low
  ambiguities := []
  schemaValidation := none
  aggregationValidation := none
  safetyCategory := none
  requiresConfirmation := none
  requiresClarification := false
  clarificationApplied := false
  warning := none
  error := some error
  suggestion := suggestion
  dryRun := none
  results := none
  cached := false

/-- `validate_aggregation`, of a grouped read. -/
def aggregationCheck (sql : Text) : AggregationCheck :=
  if getQueryType stages sql = "select".toList ∧
      containsText "group by".toList (stages.lowercase.text sql) then
    stages.validateAggregation sql
  else ⟨true, ""⟩

/-- The response as it is built after the compilation. -/
def builtResponse (config : Config) (question : Text)
    (compiled : Compiled Bound) : Response Row where
  query := question
  sql := some compiled.sql
  queryType := getQueryType stages compiled.sql
  autoExecuted := false
  confidence := confidenceLevel compiled.confidence
  ambiguities := compiled.ambiguities
  schemaValidation := some (stages.validateQuery config compiled.sql)
  aggregationValidation := some (aggregationCheck stages compiled.sql)
  safetyCategory := none
  requiresConfirmation := none
  requiresClarification := false
  clarificationApplied := false
  warning := none
  error := none
  suggestion := none
  dryRun := none
  results := none
  cached := false

/-- Whether the response is put into the cache. -/
def cacheable (compiled : Compiled Bound) : Bool :=
  decide (7 / 10 ≤ compiled.confidence) && compiled.ambiguities.isEmpty

/-- The note a dry run adds to a warning. -/
def DryRun.note (estimate : DryRun) : String :=
  (match estimate.estimatedRows with
    | 0 => "\nThis query will affect 0 rows (no data will be changed)."
    | 1 => "\nThis will affect 1 row."
    | rows => "\nThis will affect " ++ toString rows ++ " rows.") ++
  match estimate.affectedColumns with
    | [] => "\nAffected columns: "
    | [column] => "\nAffected column: " ++ column
    | columns => "\nAffected columns: " ++ ", ".intercalate columns

/-- The statement is held for confirmation. -/
def heldForConfirmation (request : Request Config) (database : Database)
    (sql : Text) (response : Response Row) : Response Row :=
  let warning := stages.generateWarning request.config sql
  match stages.dryRun request.config database sql with
  | none => { response with warning := some warning }
  | some estimate => { response with
      warning := some (warning ++ estimate.note)
      dryRun := some estimate }

def truncationWarning : String :=
  "More than " ++ toString maxRows ++ " rows matched; showing the first " ++
    toString maxRows ++ ". Add a filter or ask for a total to narrow it."

def emptyJoinWarning : String :=
  "Query returned 0 rows — this may indicate a semantic mismatch, an overly " ++
    "strict filter, or no matching data exists."

/-- `has_joins and not has_results` -/
def emptyJoin (sql : Text) (executed : Executed Row) : Bool :=
  containsText "join".toList (stages.lowercase.text sql) &&
    executed.results.isEmpty

/-- What a successful execution adds to the response. -/
def disclosed (sql : Text) (ambiguities : List String) (executed : Executed Row)
    (response : Response Row) : Response Row :=
  let response := { response with
    autoExecuted := true
    results := some executed.results }
  let response :=
    if executed.truncated then
      { response with warning := some truncationWarning, confidence := .low }
    else response
  if emptyJoin stages sql executed then
    { response with confidence := .low, warning := some emptyJoinWarning }
  else if ambiguities ≠ [] then
    { response with
      confidence :=
        if response.confidence = .high then .medium else response.confidence }
  else response

/-- What a statement that changes data begins with. -/
def modifyingStarts : List Text :=
  ["update".toList, "delete".toList, "insert".toList, "drop".toList,
    "alter".toList, "create".toList]

/-- The execution of a read, or what is left of a statement that is none. -/
def executeGate (request : Request Config) (database : Database)
    (compiled : Compiled Bound) (ambiguities : List String)
    (response : Response Row) : Response Row :=
  if getQueryType stages compiled.sql = "select".toList then
    if request.autoExecuteReads then
      let executed :=
        stages.run request.config database (.bound compiled.bound)
      if executed.success then
        disclosed stages compiled.sql ambiguities executed response
      else { response with error := some executed.error }
    else { response with
      safetyCategory := some .read
      warning := some ("Auto-execute for read queries is off. Review this " ++
        "query and run it when ready — it only reads data and will not " ++
        "modify anything.") }
  else if modifyingStarts.any fun start =>
      start.isPrefixOf (stages.lowercase.text (strip compiled.sql)) then
    { response with
      warning := some ("This query may modify data. Please review and " ++
        "approve it before execution.") }
  else response

/-- The safety classification; a dangerous question makes any statement a
write. -/
def safetyGate (request : Request Config) (database : Database)
    (compiled : Compiled Bound) (ambiguities : List String)
    (response : Response Row) : Response Row :=
  let verdict :=
    if forceWriteMode stages request.question then (.write, true)
    else classifyQuerySafety stages.lowercase compiled.sql
  let response := { response with
    safetyCategory := some verdict.1
    requiresConfirmation := some verdict.2 }
  if verdict.2 then
    heldForConfirmation stages request database compiled.sql response
  else executeGate stages request database compiled ambiguities response

/-- The aggregation check; a read goes on with its confidence lowered. -/
def aggregationGate (request : Request Config) (database : Database)
    (compiled : Compiled Bound) (ambiguities : List String)
    (response : Response Row) : Response Row :=
  let check := aggregationCheck stages compiled.sql
  if check.valid then
    safetyGate stages request database compiled ambiguities response
  else if String.ofList (getQueryType stages compiled.sql) ∈ writeQueries then
    { response with
      warning := some
        "Aggregation validation issue. Please review before execution."
      requiresConfirmation := some true }
  else
    safetyGate stages request database compiled ambiguities
      { response with warning := some check.error, confidence := .low }

/-- The names a schema check did not find. -/
def SchemaCheck.hint (check : SchemaCheck) : String :=
  "; ".intercalate
    ((if check.unknownTables.isEmpty then []
      else ["Unknown tables: " ++ listed check.unknownTables]) ++
    (if check.unknownColumns.isEmpty then []
      else ["Unknown columns: " ++ listed check.unknownColumns]))

/-- The schema check; what fails it is held. -/
def schemaGate (request : Request Config) (database : Database)
    (compiled : Compiled Bound) (ambiguities : List String)
    (response : Response Row) : Response Row :=
  let check := stages.validateQuery request.config compiled.sql
  if check.valid then
    aggregationGate stages request database compiled ambiguities response
  else if String.ofList (getQueryType stages compiled.sql) ∈ writeQueries then
    { response with
      warning := some ("Generated SQL references unknown identifiers. " ++
        "Please review before execution.")
      requiresConfirmation := some true }
  else { response with
    warning := some ("Generated SQL references unknown identifiers: " ++
      check.hint ++ ". Try rephrasing.") }

/-- The hard stop, for what may change data. -/
def hardStop (request : Request Config) (database : Database)
    (compiled : Compiled Bound) (response : Response Row) : Response Row :=
  let confidence :=
    if request.clarification then min 1 (compiled.confidence + 3 / 10)
    else compiled.confidence
  let ambiguities := if request.clarification then [] else compiled.ambiguities
  let response :=
    { response with clarificationApplied := request.clarification }
  if (getQueryType stages compiled.sql ≠ "select".toList ∨
        forceWriteMode stages request.question) ∧
      confidence < 6 / 10 ∧ ambiguities ≠ [] then
    { response with requiresClarification := true }
  else schemaGate stages request database compiled ambiguities response

/-- Everything after the lookup: the response, and what is put into the cache. -/
def fullPipeline (request : Request Config) (memory : Memory)
    (database : Database) : Response Row × Option (Response Row) :=
  match stages.front request.config memory request.question with
  | .error refusal =>
      (refused request.question refusal.texts.1 (some refusal.texts.2), none)
  | .ok compiled =>
      if forceWriteMode stages request.question = true ∧
          stages.lowercase.text (strip compiled.sql) ∈ emptySql then
        ({ refused request.question
            ("Could not generate a valid SQL statement for this query. Try " ++
              "being more specific.") none with
            queryType := "write".toList
            requiresConfirmation := some false }, none)
      else if getQueryType stages compiled.sql = "invalid".toList then
        ({ refused request.question
            ("SQL compilation failed. The planner could not produce a " ++
              "valid query. Try rephrasing your question.") none with
            sql := some compiled.sql
            requiresConfirmation := some false }, none)
      else
        let response := builtResponse stages request.config request.question
          compiled
        (hardStop stages request database compiled response,
          if cacheable compiled then some response else none)

/-! ## The cached path -/

structure State (Memory Row : Type u) where
  cache : Text → Option (Response Row)
  memory : Memory

/-- `is_plain_read` -/
def isPlainRead (request : Request Config) (hit : Response Row) : Bool :=
  match hit.sql with
  | none => false
  | some sql =>
      decide (hit.queryType = "select".toList) && !(strip sql).isEmpty &&
        !forceWriteMode stages request.question && request.autoExecuteReads &&
        decide ((classifyQuerySafety stages.lowercase sql).1 = .read)

/-- The answer from the cache, if what is cached can be run again. -/
def cachedAnswer (request : Request Config) (database : Database)
    (hit : Response Row) : Option (Response Row) :=
  if isPlainRead stages request hit then
    let executed :=
      stages.run request.config database (.inline (hit.sql.getD []))
    if executed.success then
      some { hit with
        autoExecuted := true
        results := some executed.results
        cached := true }
    else none
  else none

/-- `process_query` of a request that is not turned away by the rate limit. -/
def processQuery (request : Request Config) (state : State Memory Row)
    (database : Database) : Response Row × State Memory Row :=
  if stages.isRelevant request.config request.question then
    let key := makeKey stages request.config request.question
    match (state.cache key).bind (cachedAnswer stages request database) with
    | some answer => (answer, state)
    | none =>
        let (response, stored) :=
          fullPipeline stages request state.memory database
        (response, {
          cache :=
            match stored with
            | some entry => Function.update state.cache key (some entry)
            | none => state.cache
          memory :=
            match stages.front request.config state.memory request.question with
            | .ok compiled =>
                if response.autoExecuted then
                  stages.learn request.config state.memory request.question
                    compiled
                else state.memory
            | .error _ => state.memory })
  else
    (refused request.question
      "This doesn't appear to be a database query."
      (some ("Try asking about your data (e.g., 'total sales', 'users', " ++
        "'orders').")), state)

/-! ## Runs -/

/-- Requests, entries that expire, and mappings learned elsewhere. -/
inductive Label (Config Memory Database : Type u) where
  | request (request : Request Config) (database : Database)
  | expire (key : Text)
  | relearn (memory : Memory)

def step (state : State Memory Row) :
    Label Config Memory Database → Option (State Memory Row)
  | .request request database =>
      some (processQuery stages request state database).2
  | .expire key => some { state with
      cache := Function.update state.cache key none }
  | .relearn memory => some { state with memory := memory }

def system : TransitionSystem (State Memory Row)
    (Label Config Memory Database) where
  initial state := ∀ key, state.cache key = none
  step := step stages

end DbBuddy.Pipeline
