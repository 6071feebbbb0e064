import DbBuddy.Pipeline.Orchestrator
import Mathlib.Tactic.NormNum

/-!
# Cached answers and the gates they skip

What is cached was built before the gates, so an answer from the cache is the full
pipeline's exactly if the gates would have let the statement through and would
have had nothing to add.
-/

namespace DbBuddy.Pipeline

open DbBuddy.Library DbBuddy.Sql

universe u

variable {Config Memory Database Row Bound : Type u}

/-! ## An answer from the cache and the full one -/

section Answers

variable (stages : Stages Config Memory Database Row Bound)

/-- The answer of a request that is served from the cache. -/
def answeredFromCache (request : Request Config) (state : State Memory Row)
    (database : Database) : Option (Response Row) :=
  if stages.isRelevant request.config request.question then
    (state.cache (makeKey stages request.config request.question)).bind
      (cachedAnswer stages request database)
  else none

/-- The full pipeline executes the statement of `answer`, and tells the caller
what `answer` does. -/
structure SameAsFull (request : Request Config) (memory : Memory)
    (database : Database) (answer : Response Row) : Prop where
  executes :
    (fullPipeline stages request memory database).1.autoExecuted = true
  sql : (fullPipeline stages request memory database).1.sql = answer.sql
  confidence :
    (fullPipeline stages request memory database).1.confidence =
      answer.confidence
  warning :
    (fullPipeline stages request memory database).1.warning = answer.warning

/-- An answer from the cache is the one of the full pipeline. -/
def HitFaithful (request : Request Config) (state : State Memory Row)
    (database : Database) : Prop :=
  ∀ answer, answeredFromCache stages request state database = some answer →
    SameAsFull stages request state.memory database answer

/-- The level of a reading that has executed without a remark. -/
def settledLevel (request : Request Config) (compiled : Compiled Bound) :
    Confidence :=
  let level := confidenceLevel compiled.confidence
  if request.clarification = false ∧ compiled.ambiguities ≠ [] ∧
      level = .high then .medium
  else level

/-- The question still compiles to the cached statement at the cached level; the
statement passes both validators; and its bound form is executed, with a result
that is not cut off and, if it joins, not empty. -/
def PassesGates (request : Request Config) (memory : Memory)
    (database : Database) (entry : Response Row) : Prop :=
  ∃ compiled,
    stages.front request.config memory request.question = .ok compiled ∧
    entry.sql = some compiled.sql ∧
    settledLevel request compiled = entry.confidence ∧
    (stages.validateQuery request.config compiled.sql).valid = true ∧
    (aggregationCheck stages compiled.sql).valid = true ∧
    let executed := stages.run request.config database (.bound compiled.bound)
    executed.success = true ∧ executed.truncated = false ∧
      emptyJoin stages compiled.sql executed = false

/-! ## What is in the cache -/

/-- A cached response says nothing the gates would have said. -/
structure EntryInv (entry : Response Row) : Prop where
  warning : entry.warning = none
  queryType : ∀ sql, entry.sql = some sql →
    entry.queryType = getQueryType stages sql

end Answers

section Gates

variable {stages : Stages Config Memory Database Row Bound}
variable {request : Request Config} {memory : Memory} {database : Database}
variable {compiled : Compiled Bound} {response : Response Row}

theorem cached_of_full {entry : Response Row}
    (stored : (fullPipeline stages request memory database).2 = some entry) :
    EntryInv stages entry := by
  unfold fullPipeline at stored
  split at stored
  · cases stored
  · split at stored
    · cases stored
    · split at stored
      · cases stored
      · dsimp only at stored
        split at stored
        · cases stored
          refine ⟨rfl, ?_⟩
          intro sql isSql
          cases isSql
          rfl
        · cases stored

theorem entries_step {state next : State Memory Row}
    {label : Label Config Memory Database}
    (holds : ∀ key entry, state.cache key = some entry → EntryInv stages entry)
    (stepped : step stages state label = some next) :
    ∀ key entry, next.cache key = some entry → EntryInv stages entry := by
  cases label with
  | request request database =>
      cases stepped
      intro key entry isEntry
      unfold processQuery at isEntry
      split at isEntry
      · dsimp only at isEntry
        split at isEntry
        · exact holds key entry isEntry
        · dsimp only at isEntry
          cases stored :
              (fullPipeline stages request state.memory database).2 with
          | none =>
              rw [stored] at isEntry
              exact holds key entry isEntry
          | some built =>
              rw [stored] at isEntry
              by_cases same :
                  key = makeKey stages request.config request.question
              · subst same
                simp only [Function.update_self, Option.some.injEq] at isEntry
                exact isEntry ▸ cached_of_full stored
              · simp only [Function.update_of_ne same] at isEntry
                exact holds key entry isEntry
      · exact holds key entry isEntry
  | expire gone =>
      cases stepped
      intro key entry isEntry
      by_cases same : key = gone
      · subst same
        simp at isEntry
      · simp only [Function.update_of_ne same] at isEntry
        exact holds key entry isEntry
  | relearn memory =>
      cases stepped
      exact holds

theorem entries_reachable {state : State Memory Row}
    (reachable : (system stages).Reachable state) :
    ∀ key entry, state.cache key = some entry → EntryInv stages entry :=
  TransitionSystem.Reachable.invariant
    (fun state => ∀ key entry, state.cache key = some entry →
      EntryInv stages entry)
    (fun _ isInitial key _ isEntry => by simp [isInitial key] at isEntry)
    (fun _ _ _ holds stepped => entries_step holds stepped)
    reachable

/-! ## The statement goes through the gates unchanged -/

theorem disclosed_sql (sql : Text) (ambiguities : List String)
    (executed : Executed Row) :
    (disclosed stages sql ambiguities executed response).sql = response.sql := by
  unfold disclosed
  dsimp only
  split_ifs <;> rfl

theorem executeGate_sql (ambiguities : List String) :
    (executeGate stages request database compiled ambiguities response).sql =
      response.sql := by
  unfold executeGate
  dsimp only
  split_ifs
  · exact disclosed_sql _ _ _
  · rfl
  · rfl
  · rfl
  · rfl

theorem heldForConfirmation_sql (sql : Text) :
    (heldForConfirmation stages request database sql response).sql =
      response.sql := by
  unfold heldForConfirmation
  dsimp only
  split
  · rfl
  · rfl

theorem safetyGate_sql (ambiguities : List String) :
    (safetyGate stages request database compiled ambiguities response).sql =
      response.sql := by
  simp only [safetyGate]
  split_ifs
  all_goals simp [heldForConfirmation_sql, executeGate_sql]

theorem aggregationGate_sql (ambiguities : List String) :
    (aggregationGate stages request database compiled ambiguities
      response).sql = response.sql := by
  simp only [aggregationGate]
  split_ifs
  all_goals simp [safetyGate_sql]

theorem schemaGate_sql (ambiguities : List String) :
    (schemaGate stages request database compiled ambiguities response).sql =
      response.sql := by
  simp only [schemaGate]
  split_ifs
  all_goals simp [aggregationGate_sql]

theorem hardStop_sql :
    (hardStop stages request database compiled response).sql =
      response.sql := by
  simp only [hardStop]
  split_ifs
  all_goals simp [schemaGate_sql]

/-! ## A plain read at the gates -/

/-- The warnings of an executed read. -/
theorem disclosed_warning (sql : Text) (ambiguities : List String)
    (executed : Executed Row) :
    (disclosed stages sql ambiguities executed response).warning = none ↔
      response.warning = none ∧ executed.truncated = false ∧
        emptyJoin stages sql executed = false := by
  unfold disclosed
  dsimp only
  cases isEmpty : emptyJoin stages sql executed with
  | true =>
      simp
  | false =>
      cases truncated : executed.truncated with
      | true =>
          by_cases ambiguous : ambiguities = []
          · simp [ambiguous]
          · simp [ambiguous]
      | false =>
          by_cases ambiguous : ambiguities = []
          · simp [ambiguous]
          · simp [ambiguous]

/-- The level of a read that has been executed without a remark. -/
theorem disclosed_confidence {sql : Text} {ambiguities : List String}
    {executed : Executed Row} (whole : executed.truncated = false)
    (notEmpty : emptyJoin stages sql executed = false) :
    (disclosed stages sql ambiguities executed response).confidence =
      if ambiguities ≠ [] ∧ response.confidence = .high then .medium
      else response.confidence := by
  unfold disclosed
  dsimp only
  by_cases ambiguous : ambiguities = []
  · simp [whole, notEmpty, ambiguous]
  · by_cases isHigh : response.confidence = .high
    · simp [whole, notEmpty, ambiguous, isHigh]
    · simp [whole, notEmpty, ambiguous, isHigh]

theorem disclosed_autoExecuted (sql : Text) (ambiguities : List String)
    (executed : Executed Row) :
    (disclosed stages sql ambiguities executed response).autoExecuted =
      true := by
  unfold disclosed
  dsimp only
  split_ifs <;> rfl

/-- A read that may be executed at once. -/
structure PlainRead (stages : Stages Config Memory Database Row Bound)
    (request : Request Config) (sql : Text) : Prop where
  isSelect : getQueryType stages sql = "select".toList
  notForced : forceWriteMode stages request.question = false
  auto : request.autoExecuteReads = true
  safe : classifyQuerySafety stages.lowercase sql = (.read, false)

/-- The response that reaches the execution. -/
def remarked (stages : Stages Config Memory Database Row Bound)
    (compiled : Compiled Bound) (response : Response Row) : Response Row :=
  { (if (aggregationCheck stages compiled.sql).valid then response
      else { response with
        warning := some (aggregationCheck stages compiled.sql).error
        confidence := .low }) with
    safetyCategory := some .read
    requiresConfirmation := some false }

theorem aggregationGate_plainRead (plain : PlainRead stages request compiled.sql)
    (ambiguities : List String) :
    aggregationGate stages request database compiled ambiguities response =
      let executed :=
        stages.run request.config database (.bound compiled.bound)
      if executed.success then
        disclosed stages compiled.sql ambiguities executed
          (remarked stages compiled response)
      else { remarked stages compiled response with
        error := some executed.error } := by
  have notWrite : String.ofList "select".toList ∉ writeQueries := by decide
  have safety : ∀ response : Response Row,
      safetyGate stages request database compiled ambiguities response =
        executeGate stages request database compiled ambiguities
          { response with
            safetyCategory := some .read
            requiresConfirmation := some false } := by
    intro response
    simp [safetyGate, plain.notForced, plain.safe]
  by_cases valid : (aggregationCheck stages compiled.sql).valid = true
  · simp only [aggregationGate, valid, if_true, safety, executeGate,
      plain.isSelect, plain.auto, remarked]
  · simp only [aggregationGate, valid, plain.isSelect, notWrite, if_false,
      safety, executeGate, plain.auto, remarked, if_true, Bool.false_eq_true]

/-- The full pipeline takes a plain read to the schema check. -/
theorem fullPipeline_plainRead
    (found : stages.front request.config memory request.question =
      .ok compiled)
    (plain : PlainRead stages request compiled.sql) :
    (fullPipeline stages request memory database).1 =
      schemaGate stages request database compiled
        (if request.clarification then [] else compiled.ambiguities)
        { builtResponse stages request.config request.question compiled with
          clarificationApplied := request.clarification } := by
  simp [fullPipeline, found, plain.notForced, plain.isSelect, hardStop]

/-- What is not compiled, or to nothing, is not executed. -/
theorem compiled_of_executed
    (executes :
      (fullPipeline stages request memory database).1.autoExecuted = true) :
    ∃ compiled,
      stages.front request.config memory request.question = .ok compiled ∧
      (fullPipeline stages request memory database).1.sql =
        some compiled.sql := by
  cases found : stages.front request.config memory request.question with
  | error refusal =>
      simp [fullPipeline, found, refused] at executes
  | ok compiled =>
      refine ⟨compiled, rfl, ?_⟩
      simp only [fullPipeline, found] at executes ⊢
      split_ifs at executes ⊢
      · simp [refused] at executes
      · simp [refused] at executes
      · exact hardStop_sql
      · exact hardStop_sql

/-- What a cached answer is made of. -/
theorem cachedAnswer_eq_some {hit answer : Response Row}
    (isAnswer : cachedAnswer stages request database hit = some answer) :
    ∃ sql, hit.sql = some sql ∧ hit.queryType = "select".toList ∧
      forceWriteMode stages request.question = false ∧
      request.autoExecuteReads = true ∧
      classifyQuerySafety stages.lowercase sql = (.read, false) ∧
      answer.sql = hit.sql ∧ answer.confidence = hit.confidence ∧
      answer.warning = hit.warning := by
  unfold cachedAnswer at isAnswer
  split at isAnswer
  · rename_i isPlain
    dsimp only at isAnswer
    split at isAnswer
    · cases isAnswer
      unfold isPlainRead at isPlain
      split at isPlain
      · cases isPlain
      · rename_i sql isSql
        simp only [Bool.and_eq_true, Bool.not_eq_true', decide_eq_true_eq]
          at isPlain
        obtain ⟨⟨⟨⟨isSelect, _⟩, notForced⟩, auto⟩, isRead⟩ := isPlain
        refine ⟨sql, isSql, isSelect, notForced, auto, ?_, rfl, rfl, rfl⟩
        rcases classifyQuerySafety_cases stages.lowercase sql with same | isWrite
        · exact same
        · rw [isWrite] at isRead
          cases isRead
    · cases isAnswer
  · cases isAnswer

/-- At the schema check it is decided whether a plain read is executed. -/
theorem schemaGate_executes (plain : PlainRead stages request compiled.sql)
    (ambiguities : List String) (notYet : response.autoExecuted = false) :
    (schemaGate stages request database compiled ambiguities
        response).autoExecuted = true ↔
      (stages.validateQuery request.config compiled.sql).valid = true ∧
        (stages.run request.config database
          (.bound compiled.bound)).success = true := by
  have notWrite : String.ofList "select".toList ∉ writeQueries := by decide
  have remarkedNotYet : (remarked stages compiled response).autoExecuted =
      false := by
    unfold remarked
    split
    · exact notYet
    · exact notYet
  by_cases valid :
      (stages.validateQuery request.config compiled.sql).valid = true
  · by_cases success :
        (stages.run request.config database (.bound compiled.bound)).success =
          true
    · simp only [schemaGate, valid, if_true, aggregationGate_plainRead plain,
        success, disclosed_autoExecuted, and_self]
    · simp only [schemaGate, valid, if_true, aggregationGate_plainRead plain,
        success, if_false, remarkedNotYet, Bool.false_eq_true, and_false]
  · simp only [schemaGate, valid, if_false, plain.isSelect, notWrite, notYet,
      Bool.false_eq_true, false_and]

theorem remarked_warning :
    (remarked stages compiled response).warning = none ↔
      response.warning = none ∧
        (aggregationCheck stages compiled.sql).valid = true := by
  unfold remarked
  by_cases valid : (aggregationCheck stages compiled.sql).valid = true
  · simp [valid]
  · simp [valid]

theorem remarked_confidence
    (valid : (aggregationCheck stages compiled.sql).valid = true) :
    (remarked stages compiled response).confidence = response.confidence := by
  simp [remarked, valid]

/-- What the full pipeline returns for a plain read that is executed. -/
theorem fullPipeline_executed
    (found : stages.front request.config memory request.question =
      .ok compiled)
    (plain : PlainRead stages request compiled.sql)
    (valid :
      (stages.validateQuery request.config compiled.sql).valid = true)
    (success : (stages.run request.config database
      (.bound compiled.bound)).success = true) :
    (fullPipeline stages request memory database).1 =
      disclosed stages compiled.sql
        (if request.clarification then [] else compiled.ambiguities)
        (stages.run request.config database (.bound compiled.bound))
        (remarked stages compiled
          { builtResponse stages request.config request.question compiled with
            clarificationApplied := request.clarification }) := by
  rw [fullPipeline_plainRead found plain]
  simp only [schemaGate, valid, if_true, aggregationGate_plainRead plain,
    success]

/-- The level such a response has if nothing is remarked. -/
theorem executed_confidence
    (grouped : (aggregationCheck stages compiled.sql).valid = true)
    {executed : Executed Row} (whole : executed.truncated = false)
    (notEmpty : emptyJoin stages compiled.sql executed = false) :
    (disclosed stages compiled.sql
        (if request.clarification then [] else compiled.ambiguities) executed
        (remarked stages compiled
          { builtResponse stages request.config request.question compiled with
            clarificationApplied := request.clarification })).confidence =
      settledLevel request compiled := by
  have level : (remarked stages compiled
      ({ builtResponse stages request.config request.question compiled with
        clarificationApplied := request.clarification } :
          Response Row)).confidence = confidenceLevel compiled.confidence :=
    remarked_confidence grouped
  rw [disclosed_confidence whole notEmpty, level]
  cases clarified : request.clarification with
  | true =>
      simp [settledLevel, clarified]
  | false =>
      simp [settledLevel, clarified]

/-- A plain read is executed without a remark exactly if the gates have none. -/
theorem sameAsFull_iff {entry answer : Response Row} {sql : Text}
    (isSql : entry.sql = some sql) (inv : EntryInv stages entry)
    (plain : PlainRead stages request sql)
    (answerSql : answer.sql = entry.sql)
    (answerConfidence : answer.confidence = entry.confidence)
    (answerWarning : answer.warning = entry.warning) :
    SameAsFull stages request memory database answer ↔
      PassesGates stages request memory database entry := by
  constructor
  · intro same
    obtain ⟨compiled, found, fullSql⟩ := compiled_of_executed same.executes
    have sameSql : compiled.sql = sql := by
      have both := same.sql
      rw [fullSql, answerSql, isSql] at both
      exact Option.some.inj both
    have compiledPlain : PlainRead stages request compiled.sql :=
      sameSql ▸ plain
    have executes := same.executes
    rw [fullPipeline_plainRead found compiledPlain,
      schemaGate_executes compiledPlain _ rfl] at executes
    obtain ⟨valid, success⟩ := executes
    have full : (fullPipeline stages request memory database).1 = _ :=
      fullPipeline_executed found compiledPlain valid success
    have silent := same.warning
    rw [full, answerWarning, inv.warning, disclosed_warning,
      remarked_warning] at silent
    obtain ⟨⟨_, grouped⟩, whole, notEmpty⟩ := silent
    have level := same.confidence
    rw [full, executed_confidence grouped whole notEmpty, answerConfidence]
      at level
    exact ⟨compiled, found, by rw [isSql, sameSql], level, valid, grouped,
      success, whole, notEmpty⟩
  · rintro ⟨compiled, found, entrySql, level, valid, grouped, success, whole,
      notEmpty⟩
    have sameSql : sql = compiled.sql := by
      rw [isSql] at entrySql
      exact Option.some.inj entrySql
    have compiledPlain : PlainRead stages request compiled.sql :=
      sameSql ▸ plain
    have full : (fullPipeline stages request memory database).1 = _ :=
      fullPipeline_executed found compiledPlain valid success
    have executes :
        (fullPipeline stages request memory database).1.autoExecuted = true := by
      rw [full]
      exact disclosed_autoExecuted _ _ _
    obtain ⟨again, foundAgain, fullSql⟩ := compiled_of_executed executes
    have isSame : again = compiled := by
      rw [found] at foundAgain
      exact (Except.ok.inj foundAgain).symm
    refine ⟨executes, ?_, ?_, ?_⟩
    · rw [fullSql, isSame, answerSql, entrySql]
    · rw [full, executed_confidence grouped whole notEmpty, level,
        answerConfidence]
    · rw [answerWarning, inv.warning, full, disclosed_warning,
        remarked_warning]
      exact ⟨⟨rfl, grouped⟩, whole, notEmpty⟩

end Gates

/-- An answer from the cache is the full pipeline's exactly if its statement passes
the gates the cached path does not have, without a remark from any of them. -/
theorem cachedAnswer_faithful_iff
    (stages : Stages Config Memory Database Row Bound)
    (request : Request Config) (state : State Memory Row)
    (database : Database) (reachable : (system stages).Reachable state) :
    HitFaithful stages request state database ↔
      ∀ entry, stages.isRelevant request.config request.question = true →
        state.cache (makeKey stages request.config request.question) =
          some entry →
        cachedAnswer stages request database entry ≠ none →
        PassesGates stages request state.memory database entry := by
  have entries := entries_reachable reachable
  have oneEntry : ∀ entry answer,
      state.cache (makeKey stages request.config request.question) =
        some entry →
      cachedAnswer stages request database entry = some answer →
      (SameAsFull stages request state.memory database answer ↔
        PassesGates stages request state.memory database entry) := by
    intro entry answer isEntry isAnswer
    obtain ⟨sql, isSql, isSelect, notForced, auto, safe, answerSql,
      answerConfidence, answerWarning⟩ := cachedAnswer_eq_some isAnswer
    have inv := entries _ entry isEntry
    have plain : PlainRead stages request sql :=
      ⟨(inv.queryType sql isSql).symm.trans isSelect, notForced, auto, safe⟩
    exact sameAsFull_iff isSql inv plain answerSql answerConfidence
      answerWarning
  constructor
  · intro faithful entry isRelevant isEntry isAnswered
    obtain ⟨answer, isAnswer⟩ := Option.ne_none_iff_exists'.mp isAnswered
    have answered : answeredFromCache stages request state database =
        some answer := by
      simp [answeredFromCache, isRelevant, isEntry, isAnswer]
    exact (oneEntry entry answer isEntry isAnswer).mp (faithful answer answered)
  · intro passes answer answered
    unfold answeredFromCache at answered
    split at answered
    · rename_i isRelevant
      obtain ⟨entry, isEntry, isAnswer⟩ := Option.bind_eq_some_iff.mp answered
      refine (oneEntry entry answer isEntry isAnswer).mpr ?_
      exact passes entry isRelevant isEntry (by simp [isAnswer])
    · cases answered

/-! ### What the cached path leaves out -/

/-- A database with orders in it: every question is compiled to one statement, at
full confidence, which always succeeds. -/
def orderStages (sql : Text) (valid truncated : Bool) :
    Stages Unit Unit Unit ℕ Unit where
  lowercase := asciiLowercase
  md5 question := question
  schemaHash _ := "orders".toList
  isRelevant _ _ := true
  front _ _ _ := .ok ⟨1, [], sql, ()⟩
  validateQuery _ _ := ⟨valid, if valid then [] else ["nowhere"], []⟩
  validateAggregation _ := ⟨true, ""⟩
  generateWarning _ _ := ""
  dryRun _ _ _ := none
  run _ _ _ := ⟨true, [1], truncated, ""⟩
  learn _ memory _ _ := memory

def orderRequest (question : String) : Request Unit :=
  ⟨(), question.toList, true, false⟩

/-- What one question leaves behind. -/
def afterOne (stages : Stages Unit Unit Unit ℕ Unit) (request : Request Unit) :
    State Unit ℕ :=
  (processQuery stages request ⟨fun _ => none, ()⟩ ()).2

theorem afterOne_reachable (stages : Stages Unit Unit Unit ℕ Unit)
    (request : Request Unit) :
    (system stages).Reachable (afterOne stages request) := by
  refine ⟨⟨fun _ => none, ()⟩, fun _ => rfl, ?_⟩
  exact TransitionSystem.Reaches.single (.request request ()) trivial rfl

/-- All the orders, of which there are too many to show. -/
def allOrders (truncated : Bool) : Stages Unit Unit Unit ℕ Unit :=
  orderStages "SELECT * FROM orders".toList true truncated

/-- The schema check takes the literal for a table. -/
def notedOrders : Stages Unit Unit Unit ℕ Unit :=
  orderStages "SELECT * FROM orders WHERE note = 'from nowhere'".toList false
    false

def askAll : Request Unit := orderRequest "show all orders"

def askNoted : Request Unit := orderRequest "show orders noted 'from nowhere'"

/-- Asked again, a question is told neither that its result was cut off nor that
this lowers the confidence; and a statement that was held is executed. -/
theorem cachedAnswer_unfaithful :
    ((system (allOrders true)).Reachable (afterOne (allOrders true) askAll) ∧
      (fullPipeline (allOrders true) askAll () ()).1.warning =
        some truncationWarning ∧
      (answeredFromCache (allOrders true) askAll
        (afterOne (allOrders true) askAll) ()).map (·.warning) = some none ∧
      ¬HitFaithful (allOrders true) askAll (afterOne (allOrders true) askAll)
        ()) ∧
    (system notedOrders).Reachable (afterOne notedOrders askNoted) ∧
      (fullPipeline notedOrders askNoted () ()).1.autoExecuted = false ∧
      (answeredFromCache notedOrders askNoted
        (afterOne notedOrders askNoted) ()).map (·.autoExecuted) =
          some true ∧
      ¬HitFaithful notedOrders askNoted (afterOne notedOrders askNoted) () := by
  have cutOff : (fullPipeline (allOrders true) askAll () ()).1.warning =
      some truncationWarning := by
    decide
  have untold : (answeredFromCache (allOrders true) askAll
      (afterOne (allOrders true) askAll) ()).map (·.warning) = some none := by
    decide +kernel
  have held : (fullPipeline notedOrders askNoted () ()).1.autoExecuted =
      false := by
    decide
  have executed : (answeredFromCache notedOrders askNoted
      (afterOne notedOrders askNoted) ()).map (·.autoExecuted) =
        some true := by
    decide +kernel
  refine ⟨⟨afterOne_reachable _ _, cutOff, untold, ?_⟩,
    afterOne_reachable _ _, held, executed, ?_⟩
  · intro faithful
    obtain ⟨answer, isAnswer, noWarning⟩ := Option.map_eq_some_iff.mp untold
    have same := (faithful answer isAnswer).warning
    have told := cutOff.symm.trans same
    rw [noWarning] at told
    cases told
  · intro faithful
    obtain ⟨answer, isAnswer, _⟩ := Option.map_eq_some_iff.mp executed
    have executes := (faithful answer isAnswer).executes
    have isFalse := held.symm.trans executes
    cases isFalse

/-- A result that fits is answered alike, from the cache or not. -/
theorem cachedAnswer_faithful_allOrders :
    HitFaithful (allOrders false) askAll (afterOne (allOrders false) askAll)
      () := by
  have reachable := afterOne_reachable (allOrders false) askAll
  refine (cachedAnswer_faithful_iff (allOrders false) askAll _ ()
    reachable).mpr ?_
  intro entry _ isEntry _
  have stored : ((afterOne (allOrders false) askAll).cache
      (makeKey (allOrders false) () askAll.question)).map
        (fun entry => (entry.sql, entry.confidence)) =
      some (some "SELECT * FROM orders".toList, .high) := by
    decide +kernel
  rw [show makeKey (allOrders false) () askAll.question =
    makeKey (allOrders false) askAll.config askAll.question from rfl,
    isEntry] at stored
  simp only [Option.map_some, Option.some.injEq, Prod.mk.injEq] at stored
  obtain ⟨isSql, isHigh⟩ := stored
  refine ⟨⟨1, [], "SELECT * FROM orders".toList, ()⟩, rfl, isSql, ?_, rfl, ?_,
    rfl, rfl, ?_⟩
  · rw [isHigh]
    decide +kernel
  · decide
  · decide

end DbBuddy.Pipeline
