import DbBuddy.Planner.Joins
import DbBuddy.Sql.Operators

/-!
# What a question asks for

An intent is what the intent builder has made of a question.  Before it is planned,
it gets a list of columns if it names none, its columns are brought into one
format, and a base table is chosen among its tables.
-/

namespace DbBuddy.Planner

open DbBuddy.Library DbBuddy.Sql

/-! ## Intents -/

/-- An entry of the lists of columns: a name, a dictionary with the fields it has,
or neither. -/
inductive ColumnSpec where
  | named (column : String)
  | dict (table column aliasName aggregation : Option String)
  | other
  deriving DecidableEq, Repr

/-- A column in the one format; a field that is `None` is the empty text. -/
structure IntentColumn where
  table : String
  column : String
  aliasName : String
  aggregation : String
  deriving DecidableEq, Repr

/-- A measure that is asked for; the column is `none` if the dictionary lacks its
table or its name. -/
structure MeasureRequest where
  function : String
  column : Option (String × String)
  deriving DecidableEq, Repr

/-- A grouping that is asked for: an entity, or the columns themselves. -/
inductive GroupRequest where
  | entity (name : String)
  | columns (columns : List (String × String))
  deriving DecidableEq, Repr

/-- An ordering that is asked for, with what `str` makes of the dictionary. -/
structure OrderRequest where
  column : Option String
  direction : Option String
  shown : String
  deriving DecidableEq, Repr

structure HavingRequest where
  operator : String
  value : Scalar
  deriving DecidableEq, Repr

structure Filter where
  column : String
  operator : String
  value : Value
  deriving DecidableEq, Repr

/-- An intent.  What is `none` or empty is absent, `None` or empty. -/
structure Intent where
  originalQuery : String
  tables : List String
  select : List ColumnSpec
  columns : List ColumnSpec
  filters : List Filter
  aggregation : Option MeasureRequest
  groupBy : Option GroupRequest
  orderBy : Option OrderRequest
  having : Option HavingRequest
  limit : Option ℤ
  requestedGrouping : Bool
  queryTokens : List String
  measureAmbiguity : List String
  deriving DecidableEq, Repr

/-- What the planner knows of a database: the items of the dictionaries it is
given. -/
structure SchemaContext where
  schema : List (String × List String)
  primaryKeys : List (String × List String)
  columnRoles : List (String × List (String × String))
  graph : RelationshipGraph

/-- `schema.get(table, [])` -/
def SchemaContext.columns (context : SchemaContext) (table : String) :
    List String :=
  (context.schema.lookup table).getD []

/-- The ways in which planning fails. -/
inductive PlanError where
  | columnKey
  | groupEntity
  | directionKey
  | noColumns (table : String)
  | unknownTable (table : String)
  | missingColumns (columns : List String)
  deriving DecidableEq, Repr

section Reading

variable (unicode : Unicode)

/-- `word in text.lower()` -/
def mentions (word text : String) : Bool :=
  containsText word.toList (unicode.lower text).toList

/-! ## The columns of an intent that names none -/

/-- `NUMERIC_COLUMNS` -/
def numericColumns : List String :=
  ["amount", "price", "total", "value", "count"]

/-- The keys of `AGGREGATION_KEYWORDS`. -/
def aggregationKeywords : List String :=
  ["sum", "total", "count", "number", "avg", "average", "max", "min"]

/-- `get_representative_column` -/
def representativeColumn (schema : List (String × List String))
    (table : String) : Except PlanError String :=
  let columns := (schema.lookup table).getD []
  match ["name", "title", "plan", "email", "id"].find? (· ∈ columns) with
  | some column => .ok column
  | none =>
      match schema.lookup table with
      | none => .ok "id"
      | some [] => .error (.noColumns table)
      | some (first :: _) => .ok first

/-- The position of a table in the fallback. -/
def tablePriority (table : String) : ℕ :=
  match ["users", "subscriptions", "payments"].idxOf? table with
  | some position => position
  | none => 99

/-- `show_all_pattern` -/
def showsAll (query : String) : Bool :=
  (mentions unicode "show" query || mentions unicode "list" query) &&
    mentions unicode "all" query

/-- `has_aggregation` -/
def hasAggregationWord (query : String) : Bool :=
  (words (unicode.lower query).toList).any fun word =>
    decide (String.ofList word ∈ aggregationKeywords)

/-- The first numeric column of each table. -/
def numericFallback (context : SchemaContext) (tables : List String) :
    List (String × String) :=
  tables.filterMap fun table =>
    ((context.columns table).find? (· ∈ numericColumns)).map (table, ·)

/-- One representative column for each table, unless it is there. -/
def representativeFallback (schema : List (String × List String)) :
    List (String × String) → List String →
      Except PlanError (List (String × String))
  | found, [] => .ok found
  | found, table :: rest =>
      match representativeColumn schema table with
      | .error refused => .error refused
      | .ok column =>
          representativeFallback schema
            (if (table, column) ∈ found then found
              else found ++ [(table, column)]) rest

/-- `apply_select_fallback` -/
def applySelectFallback (context : SchemaContext) (intent : Intent) :
    Except PlanError (List ColumnSpec) :=
  if intent.select ≠ [] then .ok intent.select
  else
    let tables := intent.tables.mergeSort fun table other =>
      decide (tablePriority table ≤ tablePriority other)
    let aggregates := hasAggregationWord unicode intent.originalQuery
    if showsAll unicode intent.originalQuery = true ∧ aggregates = false ∧
        intent.aggregation = none then
      let table := tables.headD ""
      .ok [.dict (some (if table = "" then "unknown" else table)) (some "*")
        (some "*") none]
    else
      let numeric := if aggregates then numericFallback context tables else []
      match representativeFallback context.schema numeric tables with
      | .error refused => .error refused
      | .ok columns =>
          .ok (columns.map fun column =>
            .dict (some column.1) (some column.2) (some column.2) none)

/-- `normalize_column_structure` -/
def normalizeColumnStructure (baseTable : Option String)
    (columns : List ColumnSpec) : List IntentColumn :=
  columns.filterMap fun
    | .named column => some ⟨baseTable.getD "", column, column, ""⟩
    | .dict table column aliasName aggregation =>
        some ⟨table.getD (baseTable.getD ""), column.getD "",
          aliasName.getD (column.getD ""), aggregation.getD ""⟩
    | .other => none

/-! ## The base table -/

/-- How well a table is connected, whether it has an edge from its `id`, and its
name. -/
def connectivity (graph : RelationshipGraph) (table : String) :
    ℕ × ℕ × String :=
  let edges := neighbours graph table
  (edges.length,
    if edges.any fun edge => decide (edge.2.fromColumn = "id") then 1 else 0,
    table)

/-- Tuples compare from the left. -/
def scoresLess (score other : ℕ × ℕ × String) : Bool :=
  decide (score.1 < other.1) ||
    (decide (score.1 = other.1) &&
      (decide (score.2.1 < other.2.1) ||
        (decide (score.2.1 = other.2.1) && decide (score.2.2 < other.2.2))))

/-- `determine_base_table` -/
def determineBaseTable (graph : RelationshipGraph) :
    List String → Option String
  | [] => none
  | first :: rest =>
      some (rest.foldl
        (fun best table =>
          if scoresLess (connectivity graph best) (connectivity graph table)
          then table else best)
        first)

/-- The base table of an intent; neither an unnamed table nor a star is one, unless
it comes first. -/
def chooseBaseTable (graph : RelationshipGraph) (tables : List String) :
    Option String :=
  match determineBaseTable graph tables with
  | none => none
  | some table =>
      if table = "" ∨ table = "*" then tables.head? else some table

/-! ## Columns to group by -/

/-- `has_grouping_signal` -/
def hasGroupingSignal (query : String) : Bool :=
  ["per", "by", "each"].any fun word => mentions unicode word query

/-- `is_dimension_column` -/
def isDimensionColumn (column : IntentColumn) : Bool :=
  decide (column.column ∉
    ["amount", "price", "value", "total", "count", "sum", "avg", "id"])

/-- The dimensions that `split_columns` sets apart from the measure. -/
def splitDimensions (measured : Option (String × String))
    (select : List IntentColumn) : List IntentColumn :=
  match measured with
  | none => select
  | some measured =>
      select.filter fun column =>
        decide ((column.table, column.column) ≠ measured)

/-- `_key_column` -/
def keyColumn (context : SchemaContext) (table : String) : Option String :=
  let columns := context.columns table
  match (context.primaryKeys.lookup table).getD [] with
  | key :: _ =>
      if key ∈ columns then some key
      else columns.reverse.find? fun column =>
        decide (unicode.lower column = "id")
  | [] => columns.reverse.find? fun column => decide (unicode.lower column = "id")

/-- A column whose name tells the rows of a table apart for a reader. -/
def labelColumn (context : SchemaContext) (table : String) : Option String :=
  ["name", "title", "description"].find? (· ∈ context.columns table)

/-- `_is_identity` -/
def isIdentity (context : SchemaContext) (table column : String) : Bool :=
  decide (((context.columnRoles.lookup table).getD []).lookup column =
    some "person_name")

end Reading

end DbBuddy.Planner
