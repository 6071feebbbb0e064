import DbBuddy.Planner.ColumnRepair

/-!
# The finished plan and its confidence

Once all clauses are there the passes over the plan run, and then the confidence
and the ambiguities are worked out afresh: what an earlier pass has put there is
overwritten.
-/

namespace DbBuddy.Planner

open DbBuddy.Library DbBuddy.Sql

section PlanQuery

variable (unicode : Unicode) (context : SchemaContext)

/-! ## The clauses before the passes -/

/-- An intent whose columns are in the one format, with its base table. -/
structure Prepared where
  baseTable : Option String
  select : List IntentColumn
  columns : List IntentColumn

/-- The fallback and the normalisation of the columns. -/
def prepare (intent : Intent) : Except PlanError Prepared :=
  match applySelectFallback unicode context intent with
  | .error refused => .error refused
  | .ok select =>
      let baseTable := chooseBaseTable context.graph intent.tables
      .ok ⟨baseTable, normalizeColumnStructure baseTable select,
        normalizeColumnStructure baseTable intent.columns⟩

/-- The plan for an intent that fails its validation: a table is a star. -/
def safePlan (intent : Intent) (prepared : Prepared) : ExecutionPlan where
  baseTable :=
    if prepared.baseTable.getD "" ≠ "" then prepared.baseTable
    else intent.tables.head?
  joins := []
  select := prepared.select.map fun column =>
    ⟨column.table, column.column, column.aliasName, column.aggregation⟩
  filters := []
  groupBy := []
  orderBy := none
  having := none
  aggregation := none
  limit := none
  limitIsGuardrail := false
  confidence := 0
  ambiguities :=
    ["Internal validation error: Invalid table '*' detected in " ++
      "intent['tables']: " ++ listed intent.tables]
  droppedClauses := []

/-- The plan with the clauses that hang on the measure. -/
structure Early where
  select : List SelectItem
  orderBy : Option OrderColumn
  having : Option HavingItem
  joins : List Join
  scores : List ℚ

/-- Up to the join resolution. -/
def planEarly (intent : Intent) (prepared : Prepared)
    (measure : Option Measure) : Except PlanError Early :=
  match earlySelect unicode context prepared.baseTable prepared.select measure,
    earlyOrder measure intent.orderBy with
  | .error refused, _ => .error refused
  | .ok _, .error refused => .error refused
  | .ok (select, scores), .ok orderBy =>
      let having := plannedHaving measure intent.having
      let named : Plan := {
        baseTable := prepared.baseTable
        joins := []
        select := select.map selectTables
        columns := []
        filters := []
        groupBy := []
        orderBy := orderBy.toList.map orderTables
        having := having.toList.map havingTables
        confidence := 0
        ambiguities := [] }
      let targets := tablesReferencedByPlan unicode named intent.tables
      let joins := joinsInRoles context.columns
        (resolveJoins context.graph prepared.baseTable targets) context.graph
        intent.queryTokens
      .ok ⟨select, orderBy, having, joins,
        9 / 10 :: scores ++ if joins = [] then [] else [7 / 10]⟩

/-- The SELECT list and GROUP BY. -/
def planGrouping (intent : Intent) (prepared : Prepared)
    (measure : Option Measure) (early : Early) :
    Except PlanError (List SelectItem × List GroupColumn) :=
  match measure with
  | none => .ok (early.select, [])
  | some measure =>
      let signals : GroupingSignals := {
        signal := hasGroupingSignal unicode intent.originalQuery
        having := early.having.isSome
        ranking := early.orderBy.isSome }
      let dimensions := splitDimensions
        (intent.aggregation.bind MeasureRequest.column) prepared.select
      decideGrouping unicode context intent prepared.baseTable signals
        dimensions measure

/-- A grouping that is asked for by an entity overrules the decision. -/
def overruleGrouping (intent : Intent) (prepared : Prepared)
    (groupBy : List GroupColumn) : Except PlanError (List GroupColumn) :=
  match intent.groupBy with
  | none => .ok groupBy
  | some _ => resolveGroupingAnchor unicode context prepared.baseTable

/-- The scores of the steps after the grouping decision. -/
def lateScores (intent : Intent) : List ℚ :=
  [8 / 10] ++ (if intent.groupBy.isSome then [9 / 10] else []) ++
    if intent.orderBy.isSome then [8 / 10] else []

/-- The plan with all its clauses, and the scores of the steps. -/
def planClauses (intent : Intent) (prepared : Prepared) :
    Except PlanError (ExecutionPlan × List ℚ) :=
  match requestedMeasure intent with
  | .error refused => .error refused
  | .ok requested =>
      let measure := requested.or
        (rankedMeasure unicode context intent prepared.baseTable)
      match planEarly unicode context intent prepared measure with
      | .error refused => .error refused
      | .ok early =>
          match planGrouping unicode context intent prepared measure early with
          | .error refused => .error refused
          | .ok (select, decided) =>
              match overruleGrouping unicode context intent prepared decided with
              | .error refused => .error refused
              | .ok groupBy =>
                  .ok ({
                    baseTable := prepared.baseTable
                    joins := early.joins
                    select := select
                    filters := intent.filters
                    groupBy := groupBy
                    orderBy := intent.orderBy.map
                      (resolveOrdering unicode context prepared.baseTable
                        select)
                    having := early.having
                    aggregation := measure
                    limit := intent.limit
                    limitIsGuardrail := false
                    confidence := 0
                    ambiguities := []
                    droppedClauses := [] },
                    early.scores ++ lateScores intent)

/-! ## The passes over the finished plan -/

/-- `_rebase_on_referenced_table` -/
def rebased (plan : ExecutionPlan) : ExecutionPlan :=
  let moved := rebaseOnReferencedTable unicode plan.view context.graph
  { plan with
    baseTable := moved.baseTable
    joins := moved.joins }

/-- `_reconcile_joins` -/
def reconciled (plan : ExecutionPlan) : ExecutionPlan :=
  { plan with joins := (reconcileJoins unicode plan.view context.graph).joins }

/-- What is in the scope of the plan's joins. -/
def inReach (plan : ExecutionPlan) (item : Item) : Bool :=
  !outOfScope unicode (joinScope unicode plan.view) item

/-- `_drop_unreachable_filters` -/
def reachable (plan : ExecutionPlan) : ExecutionPlan :=
  if joinScope unicode plan.view = [] then plan
  else { plan with
    filters := plan.filters.filter fun filter =>
      inReach unicode plan (filterTables filter)
    having := plan.having.filter fun having =>
      inReach unicode plan (havingTables having)
    orderBy := plan.orderBy.filter fun order =>
      inReach unicode plan (orderTables order)
    confidence := (dropUnreachableFilters unicode plan.view).confidence
    ambiguities := (dropUnreachableFilters unicode plan.view).ambiguities }

/-- `_prune_unused_joins` -/
def pruned (plan : ExecutionPlan) : ExecutionPlan :=
  { plan with joins := (pruneUnusedJoins unicode plan.view).joins }

/-- All the passes. -/
def runPasses (plan : ExecutionPlan) : Except PlanError ExecutionPlan :=
  match assertColumnsExist unicode context.schema
    (reachable unicode (reconciled unicode context
      (rebased unicode context plan))) with
  | .error refused => .error refused
  | .ok plan => .ok (pruned unicode plan)

/-! ## Confidence -/

/-- The clauses that `detect_dropped_clauses` compares, but for the grouping that
only the question asked for. -/
def absentClauses (intent : Intent) (plan : ExecutionPlan) : List String :=
  (if intent.aggregation.isSome ∧ plan.aggregation = none then ["aggregation"]
    else []) ++
  (if intent.groupBy.isSome ∧ plan.groupBy = [] then ["grouping"] else []) ++
  (if intent.filters ≠ [] ∧ plan.filters = [] then ["filter"] else []) ++
  (if intent.orderBy.isSome ∧ plan.orderBy = none then ["ordering"] else [])

/-- `detect_dropped_clauses` -/
def detectDroppedClauses (intent : Intent) (plan : ExecutionPlan) :
    List String :=
  let dropped := absentClauses intent plan
  if "grouping" ∉ dropped ∧ intent.requestedGrouping = true ∧
      plan.groupBy = [] then
    if "aggregation" ∈ dropped then
      dropped.take 1 ++ "grouping" :: dropped.drop 1
    else "grouping" :: dropped
  else dropped

/-- `DROPPED_CLAUSE_PENALTY` -/
def droppedClausePenalty : ℚ := 4 / 10

/-- The columns of the intent's tables that may be meant by an aggregation. -/
def numericTargets (tables : List String) : List String :=
  tables.flatMap fun table =>
    ((context.columns table).filter fun column =>
      ["amount", "price", "duration", "value", "count"].any fun word =>
        mentions unicode word column).map fun column => table ++ "." ++ column

/-- `user_named` -/
def userNamed (query table : String) : Bool :=
  let low := (unicode.lower table).toList
  containsText low query.toList || containsText (stripEnd 's' low) query.toList

/-- The tables that have a column of this name. -/
def columnOwners (column : String) : List String :=
  (context.schema.filter fun entry =>
    entry.2.any fun other =>
      decide (unicode.lower other = unicode.lower column)).map Prod.fst

/-- A selected column that several tables have, if the question names no table. -/
def sharedColumn (query : String) (item : SelectItem) : List String :=
  if item.column = "" ∨ item.table = "" ∨
      userNamed unicode query item.table = true then []
  else
    let owners := columnOwners unicode context item.column
    if 1 < owners.length then
      ["Column '" ++ item.column ++ "' exists on " ++
        listed (owners.mergeSort fun name other => decide (name ≤ other)) ++
        "; answered from '" ++ item.table ++ "'"]
    else []

/-- A word of the lowered question. -/
def asksFor (query word : String) : Bool :=
  containsText word.toList query.toList

/-- `_detect_ambiguities`; the measure of the intent is the repaired one, which the
plan shares with it. -/
def detectAmbiguities (intent : Intent) (columns : List IntentColumn)
    (plan : ExecutionPlan) : List String :=
  let query := unicode.lower intent.originalQuery
  let measured := intent.aggregation.isSome
  let chosen :=
    match plan.aggregation with
    | some measure =>
        if measured then measure.table ++ "." ++ measure.column else "None.None"
    | none => "None.None"
  let targets := numericTargets unicode context intent.tables
  (if intent.measureAmbiguity ≠ [] then
    ["Multiple aggregation targets - used " ++ chosen ++ "; " ++
      ", ".intercalate (intent.measureAmbiguity.take 3) ++
      " match the question just as well"]
    else []) ++
  (if columns = [] ∧ intent.tables ≠ [] ∧
      (["all ", "every ", "entire", "full "].any (asksFor query)) = false ∧
      (["data", "information", "stuff"].any (asksFor query)) = true then
    ["Query is vague - did you mean all columns from " ++
      intent.tables.headD "" ++ " or specific fields?"]
    else []) ++
  (if asksFor query "per" = true ∧ measured = false then
    ["Ambiguous 'per' query - did you want a count or distribution?"]
    else []) ++
  (if (["top", "highest", "most", "best"].any (asksFor query)) = true ∧
      measured = false then
    ["Ambiguous ranking - did you want top by revenue, orders, or another " ++
      "metric?"]
    else []) ++
  (if measured = true ∧ columns = [] ∧ 1 < targets.length then
    ["Multiple aggregation targets possible: " ++ listed targets]
    else []) ++
  plan.select.flatMap (sharedColumn unicode context query) ++
  (if 2 < intent.tables.length then
    ["Multiple join paths possible with tables: " ++ listed intent.tables]
    else []) ++
  (match intent.orderBy with
    | some order =>
        if measured = true ∧
            (containsText "highest".toList order.shown.toList ||
              containsText "most".toList order.shown.toList) = true ∧
            order.direction = some "ASC" then
          ["Potential conflict: ordering direction may not match " ++
            "'highest/most' intent"]
        else []
    | none => [])

/-- The average of the scores. -/
def baseConfidence (scores : List ℚ) : ℚ :=
  if scores = [] then 0 else scores.sum / scores.length

/-- `fallback_penalty` -/
def fallbackPenalty (intent : Intent) (columns : List IntentColumn)
    (plan : ExecutionPlan) : ℚ :=
  (if plan.baseTable.getD "" ≠ "" ∧ intent.tables = [] then 15 / 100 else 0) +
    if columns = [] ∧ plan.select ≠ [] then 1 / 10 else 0

/-- The selected tables are those of the intent. -/
def covers (intent : Intent) (plan : ExecutionPlan) : Bool :=
  decide (intent.tables ≠ []) &&
    (intent.tables.all fun table =>
      plan.select.any fun item => decide (item.table = table)) &&
    plan.select.all fun item => decide (item.table ∈ intent.tables)

/-- `schema_coverage_bonus` -/
def schemaCoverageBonus (intent : Intent) (plan : ExecutionPlan) : ℚ :=
  if covers intent plan then 5 / 100 else 0

/-- `final_confidence` -/
def finalConfidence (intent : Intent) (columns : List IntentColumn)
    (scores : List ℚ) (plan : ExecutionPlan) : ℚ :=
  max 0 (min 1
    (baseConfidence scores -
      (detectAmbiguities unicode context intent columns plan).length *
        (1 / 10) -
      fallbackPenalty intent columns plan -
      (detectDroppedClauses intent plan).length * droppedClausePenalty +
      schemaCoverageBonus intent plan))

/-- The plan with its confidence and what the confidence is made of. -/
def judged (intent : Intent) (columns : List IntentColumn) (scores : List ℚ)
    (plan : ExecutionPlan) : ExecutionPlan :=
  { plan with
    confidence := finalConfidence unicode context intent columns scores plan
    ambiguities := detectAmbiguities unicode context intent columns plan
    droppedClauses := detectDroppedClauses intent plan }

/-- `_bound_unlimited_read` -/
def boundUnlimitedRead (plan : ExecutionPlan) : ExecutionPlan :=
  if plan.limit.isSome ∨ plan.aggregation.isSome ∨ plan.groupBy ≠ [] ∨
      plan.baseTable.getD "" = "" then plan
  else { plan with
    limit := some (maxRows + 1)
    limitIsGuardrail := true }

/-- `plan_query_execution`, without a plan cache. -/
def planQueryExecution (intent : Intent) : Except PlanError ExecutionPlan :=
  match prepare unicode context intent with
  | .error refused => .error refused
  | .ok prepared =>
      if "*" ∈ intent.tables then .ok (safePlan intent prepared)
      else
        match planClauses unicode context intent prepared with
        | .error refused => .error refused
        | .ok (clauses, scores) =>
            match runPasses unicode context clauses with
            | .error refused => .error refused
            | .ok plan =>
                .ok (boundUnlimitedRead
                  (judged unicode context intent prepared.columns scores plan))

end PlanQuery

end DbBuddy.Planner
