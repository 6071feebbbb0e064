import DbBuddy.Sql.Identifiers

/-!
# The operators of conditions

Each operator renders itself with placeholders and the values to bind to them, or
with the values written out.
-/

namespace DbBuddy.Sql

open DbBuddy.Library DbBuddy.Dialects

/-- A value that is no collection.  Numbers, and all else that is not told apart,
come with what `str` makes of them. -/
inductive Scalar where
  | null
  | boolean (value : Bool)
  | number (shown : String)
  | text (chars : String)
  | other (shown : String)
  deriving DecidableEq, Repr

inductive Collection where
  | list
  | tuple
  | set
  deriving DecidableEq, Repr

/-- What a condition compares with; a collection comes with what `str` makes of
it. -/
inductive Value where
  | scalar (scalar : Scalar)
  | items (kind : Collection) (elements : List Scalar) (shown : String)
  deriving DecidableEq, Repr

/-- The ways to refuse a plan, with what the message names. -/
inductive CompileError where
  | emptyPlan
  | missingBaseTable
  | aggregationColumn
  | rangeValue (token : String) (value : Value)
  | nullInSet (token : String)
  | subqueryPlan (keyword : String)
  | quantifiedColumn
  | comparator (comparator : String)
  | quantifier (quantifier : String)
  | outOfScope (missing joined : List String) (baseTable : String)
  deriving DecidableEq, Repr

/-- `'` doubled, as `replace("'", "''")` does. -/
def doubleQuotes (text : List Char) : List Char :=
  text.flatMap fun char => if char = '\'' then ['\'', '\''] else [char]

/-- `render_literal` -/
def renderLiteral : Value → String
  | .scalar .null => "None"
  | .scalar (.boolean true) => "True"
  | .scalar (.boolean false) => "False"
  | .scalar (.number shown) => shown
  | .scalar (.text chars) =>
      "'" ++ String.ofList (doubleQuotes chars.toList) ++ "'"
  | .scalar (.other shown) => shown
  | .items _ _ shown => shown

/-- The classes of operators. -/
inductive Operator where
  | binary (token sql : String)
  | unary (sql : String)
  | range (token sql : String)
  | set (token sql : String) (negated : Bool)
  | ilike
  deriving DecidableEq, Repr

/-- `OPERATORS` -/
def operators : List (String × Operator) :=
  [("=", .binary "=" "="), ("!=", .binary "!=" "!="), ("<>", .binary "<>" "<>"),
    ("<", .binary "<" "<"), (">", .binary ">" ">"), ("<=", .binary "<=" "<="),
    (">=", .binary ">=" ">="), ("LIKE", .binary "LIKE" "LIKE"),
    ("ILIKE", .ilike), ("IS NULL", .unary "IS NULL"),
    ("IS NOT NULL", .unary "IS NOT NULL"),
    ("BETWEEN", .range "BETWEEN" "BETWEEN"), ("IN", .set "IN" "IN" false),
    ("NOT IN", .set "NOT IN" "NOT IN" true)]

/-- `str(text).upper().strip()` -/
def upperStrip (unicode : Unicode) (text : String) : String :=
  String.ofList (strip (unicode.upper text).toList)

/-- `get_operator` -/
def getOperator (unicode : Unicode) (token : String) : Operator :=
  (operators.lookup (upperStrip unicode token)).getD (.binary token token)

/-- A fragment and the values to bind. -/
abbrev Rendered := String × List Value

/-- The right-hand side of one value, and what to bind for it. -/
def renderOne (parameterize : Bool) (value : Value) : Rendered :=
  if parameterize then ("%s", [value]) else (renderLiteral value, [])

/-- The right-hand sides of several values. -/
def renderEach (parameterize : Bool) (values : List Value) :
    List String × List Value :=
  if parameterize then (values.map fun _ => "%s", values)
  else (values.map renderLiteral, [])

/-- The members of a set; a value of its own is the only one. -/
def setValues : Value → List Value
  | .items _ elements _ => elements.map Value.scalar
  | .scalar scalar => [Value.scalar scalar]

/-- The shape of an `ILIKE` for a dialect, or without one. -/
def ilikeFragment (dialect : Option DatabaseEngine) (column rhs : String) :
    String :=
  match dialect with
  | some engine => engine.renderIlike column rhs
  | none => "LOWER(" ++ column ++ ") LIKE LOWER(" ++ rhs ++ ")"

/-- `render` of each class of operators. -/
def Operator.render (operator : Operator) (column : String) (value : Value)
    (parameterize : Bool) (dialect : Option DatabaseEngine) :
    Except CompileError Rendered :=
  match operator with
  | .binary _ sql =>
      if value = .scalar .null then .ok (column ++ " " ++ sql ++ " NULL", [])
      else
        let (rhs, params) := renderOne parameterize value
        .ok (column ++ " " ++ sql ++ " " ++ rhs, params)
  | .unary sql => .ok (column ++ " " ++ sql, [])
  | .range token sql =>
      match value with
      | .items kind [low, high] _ =>
          if kind = .set then .error (.rangeValue token value)
          else
            let (lowRhs, lowParams) := renderOne parameterize (.scalar low)
            let (highRhs, highParams) := renderOne parameterize (.scalar high)
            .ok (column ++ " " ++ sql ++ " " ++ lowRhs ++ " AND " ++ highRhs,
              lowParams ++ highParams)
      | _ => .error (.rangeValue token value)
  | .set token sql negated =>
      let values := setValues value
      if values = [] then .ok (if negated then "1=1" else "1=0", [])
      else if negated = true ∧ Value.scalar .null ∈ values then
        .error (.nullInSet token)
      else
        let (rhs, params) := renderEach parameterize values
        .ok (column ++ " " ++ sql ++ " (" ++ ", ".intercalate rhs ++ ")", params)
  | .ilike =>
      let (rhs, params) :=
        if value = .scalar .null then ("NULL", [])
        else renderOne parameterize value
      .ok (ilikeFragment dialect column rhs, params)

end DbBuddy.Sql
