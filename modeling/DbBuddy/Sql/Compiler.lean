import DbBuddy.Sql.Operators
import Mathlib.Data.List.Sort
import Mathlib.Data.String.Basic

/-!
# Compiling an execution plan

A plan is compiled twice: with placeholders and the values to bind, to be
executed, and with the values written out, to be shown.  The two renderings go
through the same code, which asks for one or the other in each operator.
-/

namespace DbBuddy.Sql

open DbBuddy.Library DbBuddy.Dialects

/-! ## Plans

A field that is absent and one that is `None` or empty are both the empty text,
except where the code tells them apart; an item that is no dictionary has all its
fields absent. -/

structure SelectItem where
  table : String
  column : String
  aliasName : String
  aggregation : String
  deriving DecidableEq, Repr

/-- A join in either format; `leftTable` and `rightTable` are `none` if the
dictionary has no such key. -/
structure JoinItem where
  leftTable : Option String
  rightTable : Option String
  leftKey : String
  rightKey : String
  table : String
  on : String
  type : String
  deriving DecidableEq, Repr

structure GroupItem where
  table : String
  column : String
  deriving DecidableEq, Repr

structure HavingItem where
  aggregation : String
  table : String
  column : String
  operator : String
  value : Scalar
  deriving DecidableEq, Repr

/-- An ordering.  `hasColumn` says whether the dictionary has a column at all; `aggregation`
and `direction` are `none` if it has no such key. -/
structure OrderItem where
  table : String
  column : String
  hasColumn : Bool
  hasType : Bool
  aggregation : Option String
  direction : Option String
  deriving DecidableEq, Repr

/-- A plan's aggregation.  An absent column is one without a table and a name;
`none` is one that is no dictionary. -/
structure Aggregation where
  function : String
  column : Option (String × String)
  deriving DecidableEq, Repr

/-- A condition but for the subquery.  `operator`, `comparator` and the two values
are `none` if absent, `columnRef` also if it is `None`. -/
structure ConditionItem where
  table : String
  column : String
  operator : Option String
  columnRef : Option String
  value : Option Value
  values : Option Value
  comparator : Option String
  quantifier : String
  deriving DecidableEq, Repr

/-- The clauses of a plan, but for the conditions.  `baseTable` is `none` for the
value `None`, an ordering for the empty dictionary; `limit` is what `int` makes of
it. -/
structure Clauses where
  select : List SelectItem
  baseTable : Option String
  joins : List JoinItem
  groupBy : List GroupItem
  having : Option HavingItem
  orderBy : List (Option OrderItem)
  orderIsList : Bool
  aggregation : Option Aggregation
  limit : Option ℤ
  deriving DecidableEq, Repr

mutual

inductive Plan where
  | mk (clauses : Clauses) (conditions : Conditions)

/-- The conditions of a plan: each with the plan of its subquery, or without one
(no operand, an empty one, or one that is no dictionary). -/
inductive Conditions where
  | nil
  | plain (item : ConditionItem) (rest : Conditions)
  | nested (item : ConditionItem) (subquery : Plan) (rest : Conditions)

end

def Conditions.items : Conditions → List ConditionItem
  | .nil => []
  | .plain item rest => item :: rest.items
  | .nested item _ rest => item :: rest.items

section Compile

variable (unicode : Unicode)

/-! ## Clauses -/

/-- One item of the SELECT list. -/
def selectPart (dialect : Option DatabaseEngine) (item : SelectItem) : String :=
  if item.column = "*" ∨ item.column = "" then "*"
  else
    let reference := ref unicode item.table item.column dialect
    let measured :=
      if item.aggregation = "" then reference
      else item.aggregation ++ "(" ++ reference ++ ")"
    if item.aliasName ≠ "" ∧ item.aliasName ≠ item.column then
      measured ++ " AS " ++ quote unicode item.aliasName dialect
    else measured

def selectClause (dialect : Option DatabaseEngine) (select : List SelectItem) :
    String :=
  if select = [] then "*"
  else ", ".intercalate (select.map (selectPart unicode dialect))

/-- `_normalize_join_type` of a type that is there, or of the default. -/
def normalizeJoinType (type : String) : String :=
  let text := unicode.upper (String.ofList (strip type.toList))
  if text = "" then "JOIN"
  else if "JOIN".toList ∈ text.toList.splitOnP isSpace then text
  else text ++ " JOIN"

/-- One JOIN, if the item is complete. -/
def joinPart (dialect : Option DatabaseEngine) (join : JoinItem) : Option String :=
  match join.leftTable, join.rightTable with
  | some left, some right =>
      if left = "" ∨ right = "" ∨ join.leftKey = "" ∨ join.rightKey = "" then none
      else some ("JOIN " ++ quote unicode right dialect ++ " ON " ++
        ref unicode left join.leftKey dialect ++ " = " ++
        ref unicode right join.rightKey dialect)
  | _, _ =>
      if join.table = "" ∨ join.on = "" then none
      else some (normalizeJoinType unicode join.type ++ " " ++
        quote unicode join.table dialect ++ " ON " ++ join.on)

def joinClause (dialect : Option DatabaseEngine) (joins : List JoinItem) :
    String :=
  " ".intercalate (joins.filterMap (joinPart unicode dialect))

/-- One column of GROUP BY. -/
def groupPart (dialect : Option DatabaseEngine) (group : GroupItem) :
    Option String :=
  if group.column = "" then none
  else some (ref unicode group.table group.column dialect)

def groupByClause (dialect : Option DatabaseEngine) (groupBy : List GroupItem) :
    String :=
  let parts := groupBy.filterMap (groupPart unicode dialect)
  if parts = [] then "" else "GROUP BY " ++ ", ".intercalate parts

/-- The value of HAVING as a format string shows it: a text has no quotes. -/
def showHaving : Scalar → String
  | .text chars => chars
  | value => renderLiteral (.scalar value)

/-- HAVING, and what to bind for its value. -/
def havingClause (parameterize : Bool) (dialect : Option DatabaseEngine)
    (having : Option HavingItem) : Rendered :=
  match having with
  | none => ("", [])
  | some item =>
      if item.aggregation ≠ "" ∧ item.table ≠ "" ∧ item.column ≠ "" ∧
          item.operator ≠ "" ∧ item.value ≠ .null then
        let start := "HAVING " ++ item.aggregation ++ "(" ++
          ref unicode item.table item.column dialect ++ ") " ++ item.operator ++ " "
        if parameterize then (start ++ "%s", [.scalar item.value])
        else (start ++ showHaving item.value, [])
      else ("", [])

/-- The parts of a pre-formatted aggregate `FUNC(inner)`, as
`\s*(\w+)\s*\(\s*([\w.]+)\s*\)\s*$` matches it. -/
def aggregateExpression (column : String) : Option (String × String) :=
  let start := column.toList.dropWhile isSpace
  let function := start.takeWhile unicode.isWord
  match (start.dropWhile unicode.isWord).dropWhile isSpace with
  | '(' :: rest =>
      let isInner := fun char => unicode.isWord char || char == '.'
      let inner := (rest.dropWhile isSpace).takeWhile isInner
      match ((rest.dropWhile isSpace).dropWhile isInner).dropWhile isSpace with
      | ')' :: after =>
          if function ≠ [] ∧ inner ≠ [] ∧ after.dropWhile isSpace = [] then
            some (String.ofList function, String.ofList inner)
          else none
      | _ => none
  | _ => none

/-- The last part of a dotted column, in lower case. -/
def bareColumn (column : String) : String :=
  unicode.lower (String.ofList
    (column.toList.reverse.takeWhile fun char => char != '.').reverse)

/-- `direction` -/
def orderDirection (direction : String) : String :=
  let upper := unicode.upper direction
  if upper = "ASC" ∨ upper = "DESC" then upper else "ASC"

/-- ORDER BY an aggregate of a column. -/
def orderByMeasure (dialect : Option DatabaseEngine) (direction : String)
    (function table column : String) : String :=
  "ORDER BY " ++ function ++ "(" ++ ref unicode table column dialect ++ ") " ++
    direction

/-- The plan's own aggregation, if its column has a table and a name. -/
def structuredMeasure (aggregation : Option Aggregation) :
    Option (String × String × String) :=
  match aggregation with
  | none => none
  | some plan =>
      match plan.column with
      | none => none
      | some (table, column) =>
          if table ≠ "" ∧ column ≠ "" then some (plan.function, table, column)
          else none

/-- ORDER BY a pre-formatted aggregate, which gives way to the plan's own. -/
def orderByExpression (dialect : Option DatabaseEngine) (direction : String)
    (aggregation : Option Aggregation) (column : String) : String :=
  match structuredMeasure aggregation, aggregateExpression unicode column with
  | some (_, table, measured), some (function, _) =>
      orderByMeasure unicode dialect direction function table measured
  | some (function, table, measured), none =>
      orderByMeasure unicode dialect direction function table measured
  | none, some (function, inner) =>
      "ORDER BY " ++ function ++ "(" ++ quoteRef unicode inner dialect ++ ") " ++
        direction
  | none, none => "ORDER BY " ++ column ++ " " ++ direction

/-- A plain column means the measure `table.measured`: it names it, or it is no
column of GROUP BY. -/
def meansMeasure (groupBy : List GroupItem) (column table measured : String) :
    Bool :=
  let bare := if column = "" then "" else bareColumn unicode column
  decide (column = table ++ "." ++ measured) ||
    decide (bare = unicode.lower measured) ||
    !groupBy.any fun group => decide (unicode.lower group.column = bare)

/-- ORDER BY the plan's aggregate, where a plain column can only mean that. -/
def orderByColumn (dialect : Option DatabaseEngine) (direction : String)
    (aggregation : Option Aggregation) (groupBy : List GroupItem)
    (column : String) : String :=
  match structuredMeasure aggregation with
  | none => ""
  | some (function, table, measured) =>
      if meansMeasure unicode groupBy column table measured = true ∧
          function ≠ "" then
        orderByMeasure unicode dialect direction function table measured
      else ""

/-- ORDER BY as one of the first three branches makes it; empty if none does. -/
def orderByBranches (dialect : Option DatabaseEngine)
    (aggregation : Option Aggregation) (groupBy : List GroupItem)
    (order : OrderItem) (direction : String) : String :=
  match order.aggregation with
  | some function =>
      if order.table ≠ "" ∧ order.column ≠ "" ∧ function ≠ "" then
        orderByMeasure unicode dialect direction function order.table order.column
      else ""
  | none =>
      if '(' ∈ order.column.toList then
        orderByExpression unicode dialect direction aggregation order.column
      else
        orderByColumn unicode dialect direction aggregation groupBy order.column

/-- ORDER BY, with the fallback to the named column. -/
def orderByClause (dialect : Option DatabaseEngine)
    (aggregation : Option Aggregation) (groupBy : List GroupItem)
    (orderBy : List (Option OrderItem)) : String :=
  match orderBy with
  | [] => ""
  | none :: _ => ""
  | some order :: _ =>
      let direction := orderDirection unicode (order.direction.getD "ASC")
      let clause :=
        orderByBranches unicode dialect aggregation groupBy order direction
      if clause = "" ∧ order.column ≠ "" ∧ '(' ∉ order.column.toList then
        "ORDER BY " ++ ref unicode order.table order.column dialect ++ " " ++
          direction
      else clause

/-- The ordering is rebuilt from the plan's aggregation if it names no column of
its own; without a direction it is descending then. -/
def rebuildOrder (clauses : Clauses) :
    Except CompileError (List (Option OrderItem)) :=
  match clauses.orderIsList, clauses.orderBy with
  | false, [some order] =>
      if order.hasColumn = false ∧ order.hasType = true then
        match clauses.aggregation with
        | none => .ok [some order]
        | some plan =>
            match plan.column with
            | none => .error .aggregationColumn
            | some (table, column) =>
                .ok [some { order with
                  table := table
                  column := column
                  hasColumn := true
                  aggregation := some plan.function
                  direction := some (order.direction.getD "DESC") }]
      else .ok [some order]
  | _, orderBy => .ok orderBy

/-- `TOP n` and `LIMIT n`. -/
def limitClauses (engine : DatabaseEngine) (limit : Option ℤ) :
    String × String :=
  match limit with
  | none => ("", "")
  | some count =>
      if 0 < count then
        if engine = .sqlserver then ("TOP " ++ count.toNat.repr ++ " ", "")
        else ("", "LIMIT " ++ count.toNat.repr)
      else ("", "")

/-! ## Scope -/

/-- `_qualifier_of` -/
def qualifierOf (column : String) : List String :=
  if '.' ∈ column.toList then
    let start :=
      String.ofList (strip (column.toList.takeWhile fun char => char != '.'))
    if unicode.isIdentifier start then [unicode.lower start] else []
  else []

/-- The table of an item and the qualifier of its column. -/
def referencedTables (table column : String) : List String :=
  (if table = "" then [] else [unicode.lower table]) ++ qualifierOf unicode column

/-- `_tables_in_scope` -/
def tablesInScope (baseTable : String) (joins : List JoinItem) : List String :=
  (baseTable :: joins.flatMap fun join =>
      [join.table, join.rightTable.getD "", join.leftTable.getD ""]).filterMap
    fun name => if name = "" then none else some (unicode.lower name)

/-- `_assert_tables_in_scope` -/
def assertTablesInScope (baseTable : String) (clauses : Clauses)
    (conditions : List ConditionItem) (orderBy : List (Option OrderItem)) :
    Except CompileError Unit :=
  let scope := tablesInScope unicode baseTable clauses.joins
  let referenced :=
    clauses.select.flatMap (fun item =>
        referencedTables unicode item.table item.column) ++
      conditions.flatMap (fun item =>
        referencedTables unicode item.table item.column) ++
      clauses.groupBy.flatMap (fun item =>
        referencedTables unicode item.table item.column) ++
      clauses.having.toList.flatMap (fun item =>
        referencedTables unicode item.table item.column) ++
      orderBy.flatMap fun order => order.toList.flatMap fun item =>
        referencedTables unicode item.table item.column
  let missing := referenced.filter fun name => decide (name ∉ scope)
  let sorted := fun names : List String =>
    names.dedup.mergeSort fun name other => decide (name ≤ other)
  if scope = [] ∨ missing = [] then .ok ()
  else .error (.outOfScope (sorted missing)
    (sorted (scope.filter fun name => decide (name ≠ unicode.lower baseTable)))
    baseTable)

/-! ## Conditions -/

/-- `_quote_condition_columns` of one condition. -/
def quoteCondition (dialect : Option DatabaseEngine) (item : ConditionItem) :
    ConditionItem :=
  { item with
    table := if item.column = "" then item.table else ""
    column :=
      if item.column = "" then ""
      else ref unicode item.table item.column dialect
    columnRef := item.columnRef.map fun reference =>
      if reference = "" then "" else quoteRef unicode reference dialect }

/-- `Condition.from_spec` and `Condition.render`. -/
def renderCondition (item : ConditionItem) (parameterize : Bool)
    (dialect : Option DatabaseEngine) : Except CompileError (Option Rendered) :=
  if item.column = "" then .ok none
  else
    let operator := item.operator.getD "="
    match item.columnRef with
    | some reference =>
        .ok (some (item.column ++ " " ++ operator ++ " " ++ reference, []))
    | none =>
        let value := (item.value.or item.values).getD (.scalar (.text ""))
        let coerced :=
          if value = .scalar .null then
            if operator = "=" then "IS NULL"
            else if operator = "!=" ∨ operator = "<>" then "IS NOT NULL"
            else operator
          else operator
        ((getOperator unicode coerced).render item.column value parameterize
          dialect).map some

/-- The predicates `build_predicate` tells apart. -/
inductive PredicateKind where
  | existence (negated : Bool)
  | quantified
  | condition
  deriving DecidableEq, Repr

/-- `build_predicate` -/
def predicateKind (item : ConditionItem) : PredicateKind :=
  let operator := upperStrip unicode (item.operator.getD "")
  if operator = "EXISTS" then .existence false
  else if operator = "NOT EXISTS" then .existence true
  else if item.quantifier ≠ "" then .quantified
  else .condition

def existsKeyword (negated : Bool) : String :=
  if negated then "NOT EXISTS" else "EXISTS"

/-- `_COMPARATORS` -/
def comparators : List String :=
  ["=", "!=", "<>", "<", ">", "<=", ">="]

/-- The checks of `QuantifiedPredicate.render`: what stands before the
subquery. -/
def quantifiedStart (item : ConditionItem) : Except CompileError (String × String) :=
  let comparator := String.ofList
    (strip ((item.comparator.or item.operator).getD "=").toList)
  let quantifier := upperStrip unicode item.quantifier
  if item.column = "" then .error .quantifiedColumn
  else if comparator ∉ comparators then .error (.comparator comparator)
  else if quantifier ∉ ["ANY", "ALL"] then .error (.quantifier item.quantifier)
  else .ok (item.column ++ " " ++ comparator ++ " " ++ quantifier, quantifier)

/-- A condition without the plan of a subquery. -/
def renderPlain (item : ConditionItem) (parameterize : Bool)
    (dialect : Option DatabaseEngine) : Except CompileError (Option Rendered) :=
  match predicateKind unicode item with
  | .existence negated => .error (.subqueryPlan (existsKeyword negated))
  | .quantified =>
      match quantifiedStart unicode item with
      | .error refused => .error refused
      | .ok (_, quantifier) => .error (.subqueryPlan quantifier)
  | .condition => renderCondition unicode item parameterize dialect

/-- A condition with the plan of a subquery, as it has been compiled. -/
def renderNested (item : ConditionItem) (parameterize : Bool)
    (dialect : Option DatabaseEngine) (compiled : Except CompileError Rendered) :
    Except CompileError (Option Rendered) :=
  match predicateKind unicode item with
  | .existence negated =>
      match compiled with
      | .error refused => .error refused
      | .ok (sql, params) =>
          .ok (some (existsKeyword negated ++ " (" ++ sql ++ ")", params))
  | .quantified =>
      match quantifiedStart unicode item, compiled with
      | .error refused, _ => .error refused
      | .ok _, .error refused => .error refused
      | .ok (start, _), .ok (sql, params) =>
          .ok (some (start ++ " (" ++ sql ++ ")", params))
  | .condition => renderCondition unicode item parameterize dialect

/-- One fragment more, and what the later conditions render to. -/
def consRendered (first : Except CompileError (Option Rendered))
    (rest : Except CompileError (List String × List Value)) :
    Except CompileError (List String × List Value) :=
  match first, rest with
  | .error refused, _ => .error refused
  | .ok _, .error refused => .error refused
  | .ok none, .ok later => .ok later
  | .ok (some (fragment, params)), .ok (fragments, laterParams) =>
      .ok (fragment :: fragments, params ++ laterParams)

/-! ## The statement -/

/-- A clause is set off by a blank, if it is there. -/
def spaced (clause : String) : String :=
  if clause = "" then "" else " " ++ clause

/-- `compile_sql`, given what the conditions render to.  A statement without
placeholders comes with nothing to bind. -/
def assemble (parameterize : Bool) (engine : DatabaseEngine)
    (dialect : Option DatabaseEngine) (clauses : Clauses)
    (conditions : List ConditionItem)
    (rendered : Except CompileError (List String × List Value)) :
    Except CompileError Rendered :=
  match rebuildOrder clauses with
  | .error refused => .error refused
  | .ok orderBy =>
      let baseTable := clauses.baseTable.getD "None"
      if baseTable = "" then .error .missingBaseTable
      else
        match rendered with
        | .error refused => .error refused
        | .ok (fragments, whereParams) =>
            let whereClause :=
              if fragments = [] then ""
              else "WHERE " ++ " AND ".intercalate fragments
            let (having, havingParams) :=
              havingClause unicode parameterize dialect clauses.having
            let (top, limit) := limitClauses engine clauses.limit
            match assertTablesInScope unicode baseTable clauses conditions
              orderBy with
            | .error refused => .error refused
            | .ok () =>
                .ok ("SELECT " ++ top ++
                    selectClause unicode dialect clauses.select ++ " FROM " ++
                    quote unicode baseTable dialect ++
                    spaced (joinClause unicode dialect clauses.joins) ++
                    spaced whereClause ++
                    spaced (groupByClause unicode dialect clauses.groupBy) ++
                    spaced having ++
                    spaced (orderByClause unicode dialect clauses.aggregation
                      clauses.groupBy orderBy) ++
                    spaced limit,
                  whereParams ++ havingParams)

variable (installed : DatabaseEngine → Bool)

/-- The dialect of an engine whose driver is installed. -/
def dialectOf (engine : DatabaseEngine) : Option DatabaseEngine :=
  if installed engine then some engine else none

mutual

/-- `compile_sql` -/
def compileSql (parameterize : Bool) (engine : DatabaseEngine) :
    Plan → Except CompileError Rendered
  | .mk clauses conditions =>
      assemble unicode parameterize engine (dialectOf installed engine) clauses
        conditions.items
        (renderConditions parameterize (dialectOf installed engine) conditions)

/-- `render_conditions`, of conditions whose columns are quoted first.  A subquery
is compiled for the dialect at hand, or for MySQL. -/
def renderConditions (parameterize : Bool) (dialect : Option DatabaseEngine) :
    Conditions → Except CompileError (List String × List Value)
  | .nil => .ok ([], [])
  | .plain item rest =>
      consRendered
        (renderPlain unicode (quoteCondition unicode dialect item) parameterize
          dialect)
        (renderConditions parameterize dialect rest)
  | .nested item subquery rest =>
      consRendered
        (renderNested unicode (quoteCondition unicode dialect item) parameterize
          dialect
          (compileSql parameterize (dialect.getD .mysql) subquery))
        (renderConditions parameterize dialect rest)

end

/-- `compile_sql` of what may be an empty plan. -/
def compileExecutionPlan (parameterize : Bool) (engine : DatabaseEngine) :
    Option Plan → Except CompileError Rendered
  | none => .error .emptyPlan
  | some plan => compileSql unicode installed parameterize engine plan

end Compile

end DbBuddy.Sql
