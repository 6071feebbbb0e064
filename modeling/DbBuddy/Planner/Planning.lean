import DbBuddy.Planner.Intents
import DbBuddy.Sql.Compiler
import DbBuddy.Sql.Execution
import DbBuddy.Library.Dict

/-!
# From an intent to an execution plan

`plan_query_execution` decides clause by clause, and later steps overrule earlier
ones: the ordering is resolved twice, the grouping decision rebuilds the SELECT
list, and the passes over the finished plan move the base table, add joins, drop
what stays out of reach and repair columns.
-/

namespace DbBuddy.Planner

open DbBuddy.Library DbBuddy.Sql

/-! ## Execution plans -/

/-- A column of GROUP BY; a hidden one is not selected. -/
structure GroupColumn where
  table : String
  column : String
  hidden : Bool
  type : String
  deriving DecidableEq, Repr

/-- A plan's aggregation. -/
structure Measure where
  function : String
  table : String
  column : String
  deriving DecidableEq, Repr

structure OrderColumn where
  table : String
  column : String
  direction : String
  deriving DecidableEq, Repr

structure ExecutionPlan where
  baseTable : Option String
  joins : List Join
  select : List SelectItem
  filters : List Filter
  groupBy : List GroupColumn
  orderBy : Option OrderColumn
  having : Option HavingItem
  aggregation : Option Measure
  limit : Option ℤ
  limitIsGuardrail : Bool
  confidence : ℚ
  ambiguities : List String
  droppedClauses : List String
  deriving DecidableEq, Repr

/-! ## What the clauses say about tables -/

def selectTables (item : SelectItem) : Item :=
  ⟨some item.table, some item.column⟩

def filterTables (filter : Filter) : Item :=
  ⟨none, some filter.column⟩

def groupTables (group : GroupColumn) : Item :=
  ⟨some group.table, some group.column⟩

def orderTables (order : OrderColumn) : Item :=
  ⟨some order.table, some order.column⟩

def havingTables (having : HavingItem) : Item :=
  ⟨some having.table, some having.column⟩

/-- A plan as the passes over its joins see it. -/
def ExecutionPlan.view (plan : ExecutionPlan) : Plan where
  baseTable := plan.baseTable
  joins := plan.joins
  select := plan.select.map selectTables
  columns := []
  filters := plan.filters.map filterTables
  groupBy := plan.groupBy.map groupTables
  orderBy := plan.orderBy.toList.map orderTables
  having := plan.having.toList.map havingTables
  confidence := plan.confidence
  ambiguities := plan.ambiguities

section Planning

variable (unicode : Unicode) (context : SchemaContext)

/-! ## The measure and the clauses that hang on it -/

/-- The aggregation of the intent, if it has a column to measure. -/
def requestedMeasure (intent : Intent) : Except PlanError (Option Measure) :=
  match intent.aggregation with
  | none => .ok none
  | some request =>
      match request.column with
      | none => .error .columnKey
      | some (table, column) => .ok (some ⟨request.function, table, column⟩)

/-- A ranking counts the base table's rows, if they have a key. -/
def rankedMeasure (intent : Intent) (baseTable : Option String) :
    Option Measure :=
  match intent.orderBy, baseTable with
  | some _, some table =>
      if table = "" then none
      else (keyColumn unicode context table).map fun anchor =>
        ⟨"COUNT", table, anchor⟩
  | _, _ => none

/-- The measure in the SELECT list. -/
def measureItem (measure : Measure) : SelectItem where
  table := measure.table
  column := measure.column
  aliasName := unicode.lower measure.function ++ "_" ++ measure.column
  aggregation := measure.function

/-- A column in the SELECT list. -/
def columnItem (table column : String) : SelectItem :=
  ⟨table, column, column, ""⟩

/-- The SELECT list before the grouping decision, and how sure it is. -/
def earlySelect (baseTable : Option String) (select : List IntentColumn) :
    Option Measure → Except PlanError (List SelectItem × List ℚ)
  | some measure => .ok ([measureItem unicode measure], [8 / 10])
  | none =>
      if select ≠ [] then
        .ok (select.map fun column => columnItem column.table column.column,
          [9 / 10])
      else if baseTable.getD "" ≠ "" then
        match context.schema.lookup (baseTable.getD "") with
        | none => .error (.unknownTable (baseTable.getD ""))
        | some columns =>
            .ok (columns.map (columnItem (baseTable.getD "")), [])
      else .ok ([⟨baseTable.getD "", "*", "", ""⟩], [])

/-- The ordering that the early join resolution sees. -/
def earlyOrder (measure : Option Measure) :
    Option OrderRequest → Except PlanError (Option OrderColumn)
  | none => .ok none
  | some request =>
      match measure with
      | some measure =>
          match request.direction with
          | none => .error .directionKey
          | some direction =>
              .ok (some ⟨measure.table, measure.column, direction⟩)
      | none => .ok (some ⟨"", request.column.getD "",
          request.direction.getD "ASC"⟩)

/-- HAVING compares the measure; without one it is lost. -/
def plannedHaving (measure : Option Measure) (request : Option HavingRequest) :
    Option HavingItem :=
  match request, measure with
  | some request, some measure =>
      some ⟨measure.function, measure.table, measure.column, request.operator,
        request.value⟩
  | _, _ => none

/-- `_apply_join_roles`, over the columns that `schema.get` returns. -/
def joinsInRoles (columnsOf : String → List String) (joins : List Join)
    (graph : RelationshipGraph) (tokens : List String) : List Join :=
  if tokens = [] then joins
  else joins.map fun join =>
    let alternates := edgeAlternates graph join
    if alternates = [] then join
    else
      match bestRole ((join.leftKey, join.rightKey) :: alternates)
        (uniformColumnPrefix (columnsOf join.leftTable)) tokens with
      | none => join
      | some keys => { join with leftKey := keys.1, rightKey := keys.2 }

/-! ## The grouping decision -/

/-- What the decision looks at, besides the measure. -/
structure GroupingSignals where
  signal : Bool
  having : Bool
  ranking : Bool

/-- Nothing but the measure is asked for. -/
def GroupingSignals.pure (signals : GroupingSignals) : Bool :=
  !signals.signal && !signals.having && !signals.ranking

/-- The dimensions, or for a ranking without any the label of the base table. -/
def rankingDimensions (baseTable : Option String) (ranking : Bool)
    (dimensions : List IntentColumn) : List IntentColumn :=
  if ranking = true ∧ dimensions.filter isDimensionColumn = [] ∧
      baseTable.getD "" ≠ "" then
    match labelColumn context (baseTable.getD "") with
    | some label => [⟨baseTable.getD "", label, label, ""⟩]
    | none => dimensions
  else dimensions

/-- The columns to group by, before keys are added. -/
def groupingColumns (baseTable : Option String) (signal : Bool)
    (dimensions : List IntentColumn) : List GroupColumn :=
  let columns := dimensions.filter isDimensionColumn
  if signal then
    if columns ≠ [] then
      columns.map fun column => ⟨column.table, column.column, false, "semantic"⟩
    else if baseTable.getD "" ≠ "" then
      (labelColumn context (baseTable.getD "")).toList.map fun label =>
        ⟨baseTable.getD "", label, false, "semantic"⟩
    else []
  else
    ((dimensions.filter fun column => decide (column.aggregation = "")).filter
      isDimensionColumn).map fun column =>
        ⟨column.table, column.column, false, "structural"⟩

/-- The hidden keys of the tables that are grouped by a person's name. -/
def hiddenKeys (groupBy : List GroupColumn) : List GroupColumn :=
  let tables := ((groupBy.filter fun group =>
    isIdentity context group.table group.column).map GroupColumn.table).dedup
  tables.filterMap fun table =>
    (keyColumn unicode context table).bind fun anchor =>
      if groupBy.any fun group =>
          decide (group.table = table ∧ group.column = anchor) then none
      else some ⟨table, anchor, true, "structural"⟩

/-- Only the columns of the first one's table are grouped by. -/
def ofFirstTable : List GroupColumn → List GroupColumn
  | [] => []
  | first :: rest =>
      if first.table = "" then first :: rest
      else (first :: rest).filter fun group => decide (group.table = first.table)

/-- The columns to group by, as the decision has them. -/
def decidedGroups (intent : Intent) (baseTable : Option String)
    (signals : GroupingSignals) (dimensions : List IntentColumn) :
    Except PlanError (List GroupColumn) :=
  match intent.groupBy with
  | some (.entity _) => .error .groupEntity
  | some (.columns columns) =>
      .ok (columns.map fun column => ⟨column.1, column.2, false, "semantic"⟩)
  | none => .ok (groupingColumns context baseTable signals.signal dimensions)

/-- The grouping decision: the SELECT list of an aggregation, and its GROUP BY. -/
def decideGrouping (intent : Intent) (baseTable : Option String)
    (signals : GroupingSignals) (dimensions : List IntentColumn)
    (measure : Measure) :
    Except PlanError (List SelectItem × List GroupColumn) :=
  let item := measureItem unicode measure
  if signals.pure = true ∧ dimensions.filter isDimensionColumn = [] then
    .ok ([item], [])
  else
    match decidedGroups context intent baseTable signals
      (rankingDimensions context baseTable signals.ranking dimensions) with
    | .error refused => .error refused
    | .ok groups =>
        -- A pure aggregation loses its grouping again.
        if signals.pure then .ok ([item], [])
        else
          let groupBy := ofFirstTable
            (groups ++ hiddenKeys unicode context groups)
          .ok (((groupBy.filter fun group => !group.hidden).map fun group =>
              columnItem group.table group.column) ++ [item], groupBy)

/-! ## What overrules the decision -/

/-- `_resolve_grouping_anchor` -/
def resolveGroupingAnchor (baseTable : Option String) :
    Except PlanError (List GroupColumn) :=
  match baseTable with
  | none => .ok []
  | some table =>
      match context.schema.lookup table with
      | none => .ok []
      | some columns =>
          match keyColumn unicode context table with
          | some anchor => .ok [⟨table, anchor, false, ""⟩]
          | none =>
              if "name" ∈ columns then .ok [⟨table, "name", false, ""⟩]
              else
                match columns with
                | [] => .error (.noColumns table)
                | first :: _ => .ok [⟨table, first, false, ""⟩]

/-- The measure as a text: `FUNC(table.column)`. -/
def measureText (function table column : String) : String :=
  function ++ "(" ++
    (if table = "" then column else table ++ "." ++ column) ++ ")"

/-- `_resolve_ordering` -/
def resolveOrdering (baseTable : Option String) (select : List SelectItem)
    (request : OrderRequest) : OrderColumn :=
  match select.find? fun item => decide (item.aggregation ≠ "") with
  | some item =>
      ⟨"", measureText item.aggregation item.table item.column,
        request.direction.getD "DESC"⟩
  | none =>
      let table := baseTable.getD ""
      let fallback :=
        ((keyColumn unicode context table).or (context.columns table).head?).getD
          ""
      let column := request.column.getD ""
      ⟨"", if column ≠ "" then column
          else if fallback ≠ "" then table ++ "." ++ fallback
          else table,
        request.direction.getD "ASC"⟩

end Planning

end DbBuddy.Planner
