import DbBuddy.Planner.Planning

/-!
# Repairing columns that the schema does not have

The planner finds columns by similarity.  A column that is none is replaced by the
one it can only mean, and the plan is refused if there is no such column.
-/

namespace DbBuddy.Planner

open DbBuddy.Library DbBuddy.Sql

section Repair

variable (unicode : Unicode)

/-- `squash` -/
def squash (text : String) : String :=
  String.ofList (text.toList.filter fun char =>
    char != '_' && char != ' ' && char != '-')

/-- The last column with this spelling, up to what `spell` does not tell apart. -/
def lastSpelled (spell : String → String) (columns : List String)
    (spelling : String) : Option String :=
  columns.reverse.find? fun column => decide (spell column = spelling)

/-- A column name begins or ends with this one, at an underscore. -/
def extendsName (target lowered : String) : Bool :=
  ("_" ++ target).toList.isSuffixOf lowered.toList ||
    (target ++ "_").toList.isPrefixOf lowered.toList

/-- `_repair_column` -/
def repairColumn (name : String) (columns : List String) : Option String :=
  if name = "" then none
  else
    let target := unicode.lower name
    match lastSpelled unicode.lower columns target with
    | some column => some column
    | none =>
        match lastSpelled (fun column => squash (unicode.lower column)) columns
          (squash target) with
        | some column => some column
        | none =>
            match (columns.map unicode.lower).dedup.filter
              (extendsName target) with
            | [lowered] => lastSpelled unicode.lower columns lowered
            | _ => none

/-- What becomes of a reference to a column. -/
inductive Repair where
  | keep
  | replace (column : String)
  | missing (reference : String)
  deriving DecidableEq, Repr

/-- A column in a known table. -/
def repairIn (columns : List String) (table column : String)
    (write : String → String) : Repair :=
  if unicode.lower column ∈ columns.map unicode.lower then .keep
  else
    match repairColumn unicode column columns with
    | none => .missing (table ++ "." ++ column)
    | some repaired => .replace (write repaired)

/-- The two sides of a dot, if the left one can name a table. -/
def partitionDot (column : String) : Option (String × String) :=
  let front := String.ofList (column.toList.takeWhile fun char => char != '.')
  if '.' ∈ column.toList ∧ unicode.isIdentifier front = true then
    some (front, String.ofList
      ((column.toList.dropWhile fun char => char != '.').drop 1))
  else none

/-- The last table with this name in lower case, and its columns. -/
def tableEntry (schema : List (String × List String)) (lowered : String) :
    Option (String × List String) :=
  schema.reverse.find? fun entry => decide (unicode.lower entry.1 = lowered)

/-- One reference; the table is `none` if the item has no such field. -/
def repairReference (schema : List (String × List String))
    (table : Option String) (column : String) : Repair :=
  if column = "" ∨ column = "*" then .keep
  else
    match aggregateExpression unicode column with
    | some (function, inner) =>
        let reference :=
          (partitionDot unicode inner).getD (table.getD "None", inner)
        match tableEntry unicode schema (unicode.lower reference.1) with
        | none => .keep
        | some (realTable, columns) =>
            repairIn unicode columns reference.1 reference.2 fun repaired =>
              function ++ "(" ++ realTable ++ "." ++ repaired ++ ")"
    | none =>
        match partitionDot unicode column with
        | some (front, rest) =>
            match tableEntry unicode schema (unicode.lower front) with
            | none => .keep
            | some (realTable, columns) =>
                repairIn unicode columns front rest fun repaired =>
                  realTable ++ "." ++ repaired
        | none =>
            if table.getD "" = "" then .keep
            else
              match tableEntry unicode schema (unicode.lower (table.getD "")) with
              | none => .keep
              | some (_, columns) =>
                  repairIn unicode columns (table.getD "") column id

/-- The column after the repair; one that is missing stays. -/
def Repair.apply (repair : Repair) (column : String) : String :=
  match repair with
  | .replace repaired => repaired
  | _ => column

def Repair.missingReference : Repair → Option String
  | .missing reference => some reference
  | _ => none

/-- The column of a clause, repaired. -/
def repaired (schema : List (String × List String)) (table : Option String)
    (column : String) : String :=
  (repairReference unicode schema table column).apply column

/-- The references of a plan, in the order they are checked; the aggregation hides
one more. -/
def ExecutionPlan.references (plan : ExecutionPlan) :
    List (Option String × String) :=
  (plan.select.map fun item => (some item.table, item.column)) ++
    (plan.groupBy.map fun group => (some group.table, group.column)) ++
    (plan.filters.map fun filter => (none, filter.column)) ++
    (plan.orderBy.toList.map fun order => (none, order.column)) ++
    (plan.having.toList.map fun having => (some having.table, having.column)) ++
    plan.aggregation.toList.map fun measure =>
      (some measure.table, measure.column)

/-- The plan with all its references repaired. -/
def repairPlan (schema : List (String × List String)) (plan : ExecutionPlan) :
    ExecutionPlan :=
  { plan with
    select := plan.select.map fun item => { item with
      column := repaired unicode schema (some item.table) item.column }
    groupBy := plan.groupBy.map fun group => { group with
      column := repaired unicode schema (some group.table) group.column }
    filters := plan.filters.map fun filter => { filter with
      column := repaired unicode schema none filter.column }
    orderBy := plan.orderBy.map fun order => { order with
      column := repaired unicode schema none order.column }
    having := plan.having.map fun having => { having with
      column := repaired unicode schema (some having.table) having.column }
    aggregation := plan.aggregation.map fun measure => { measure with
      column := repaired unicode schema (some measure.table)
        measure.column } }

/-- `_assert_columns_exist` -/
def assertColumnsExist (schema : List (String × List String))
    (plan : ExecutionPlan) : Except PlanError ExecutionPlan :=
  if schema = [] then .ok plan
  else
    let missing := plan.references.filterMap fun reference =>
      (repairReference unicode schema reference.1
        reference.2).missingReference
    if missing = [] then .ok (repairPlan unicode schema plan)
    else .error (.missingColumns
      (missing.dedup.mergeSort fun name other => decide (name ≤ other)))

end Repair

end DbBuddy.Planner
