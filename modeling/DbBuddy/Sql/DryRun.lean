import DbBuddy.Insights.Validators
import DbBuddy.Library.Cuts
import DbBuddy.Sql.Lexing

/-!
# The estimate before a write

A deletion is counted by what follows its FROM.  For an update the table, the condition
and the columns are cut out of the text: at the first UPDATE with a word behind it, the
first WHERE, the next LIMIT, the first SET, at commas and at equal signs.
-/

namespace DbBuddy.Sql

open DbBuddy.Library DbBuddy.Dialects
open DbBuddy.Insights (Tables fold)

/-! ## The code -/

section Code

variable (tables : Tables)

/-- The first match of `\bkeyword\b` in any case. -/
def cutWord (keyword : String) (inWord : Bool) (text : List Char) :
    Option (List Char × List Char) :=
  keywordCut tables.isWord fold keyword.toList inWord text

/-- The shortest of the clauses that ends were found for. -/
def earliest : List (List Char) → Option (List Char)
  | [] => none
  | clause :: rest =>
      match earliest rest with
      | some shorter => if shorter.length < clause.length then some shorter else some clause
      | none => some clause

/-- `clause_between`, from the start of a text. -/
def clauseBetween (opening : String) (endings : List String) (requiredEnd : Bool)
    (text : List Char) : Option (List Char) :=
  match cutWord tables opening false text with
  | none => none
  | some (_, behind) =>
      match earliest (endings.filterMap fun ending =>
          (cutWord tables ending true behind).map Prod.fst) with
      | some clause => some (strip clause)
      | none => if requiredEnd then none else some (strip behind)

/-- `get_query_type` -/
def getQueryType (sql : List Char) : List Char :=
  if tables.lowercase.text (strip sql) ∈
      ["unknown".toList, "invalid".toList, []] then "invalid".toList
  else tables.lowercase.text ((words (strip sql)).headD "invalid".toList)

/-- `basic_sql_validation` -/
def basicSqlValidation (sql : List Char) : Bool :=
  !(strip sql).isEmpty && !(strip sql).dropLast.contains ';'

/-- `_extract_count(safe_execute(conn, sql))`, where `run` is what the connection
answers. -/
def safeCount (run : List Char → Option ℕ) (sql : List Char) : Option ℕ :=
  if basicSqlValidation sql = true then run sql else none

/-- `re.sub(r'^\s*DELETE\s+FROM', 'SELECT COUNT(*) FROM', sql)` -/
def substituteDelete (sql : List Char) : List Char :=
  let body := sql.dropWhile isSpace
  let behind := body.drop 6
  let tail := behind.dropWhile isSpace
  if "delete".toList.isPrefixOf (body.map fold) = true ∧ behind.takeWhile isSpace ≠ [] ∧
      "from".toList.isPrefixOf (tail.map fold) = true then
    "SELECT COUNT(*) FROM".toList ++ tail.drop 4
  else sql

/-- `UPDATE\s+(\w+)` at the front of a text. -/
def nameAtUpdate (text : List Char) : Option (List Char) :=
  let behind := text.drop 6
  let word := (behind.dropWhile isSpace).takeWhile tables.isWord
  if "update".toList.isPrefixOf (text.map fold) = true ∧
      behind.takeWhile isSpace ≠ [] ∧ word ≠ [] then some word
  else none

/-- `re.search(r'UPDATE\s+(\w+)', text, re.IGNORECASE)` -/
def updateNamed : List Char → Option (List Char)
  | [] => none
  | char :: rest => (nameAtUpdate tables (char :: rest)).or (updateNamed rest)

/-- The count for an update; a missing clause and an empty one are left out. -/
def countText (table clause : List Char) : List Char :=
  "SELECT COUNT(*) FROM".toList ++ ' ' :: (table ++
    if clause = [] then [] else " WHERE ".toList ++ clause)

/-- `where_clause` -/
def whereClause (sql : List Char) : List Char :=
  (clauseBetween tables "where" ["limit"] false sql).getD []

/-- The names in front of the equal signs between the commas of a SET clause. -/
def assignedIn (clause : List Char) : List (List Char) :=
  (clause.splitOn ',').map fun part => strip ((strip part).takeWhile (· ≠ '='))

/-- `affected_columns` -/
def affectedColumns (sql : List Char) : List (List Char) :=
  match clauseBetween tables "set" ["where"] true sql with
  | none => []
  | some [] => []
  | some clause => assignedIn clause

structure Estimate where
  rows : ℕ
  columns : List (List Char)
  deriving DecidableEq

/-- `count_sql`, which is what the connection is given. -/
def countSql (sql : List Char) : Option (List Char) :=
  if getQueryType tables sql = "delete".toList then some (strip (substituteDelete sql))
  else if getQueryType tables sql = "update".toList then
    (updateNamed tables sql).map fun table => countText table (whereClause tables sql)
  else none

/-- `get_dry_run_estimate` -/
def getDryRunEstimate (run : List Char → Option ℕ) (sql : List Char) : Option Estimate :=
  if getQueryType tables sql = "delete".toList then
    (safeCount run (strip (substituteDelete sql))).map fun rows => ⟨rows, []⟩
  else if getQueryType tables sql = "update".toList then
    match updateNamed tables sql with
    | none => none
    | some table =>
        (safeCount run (countText table (whereClause tables sql))).map fun rows =>
          ⟨rows, affectedColumns tables sql⟩
  else none

end Code

/-! ## Statements -/

/-- The white space of SQL. -/
def isBlank (char : Char) : Bool :=
  [' ', '\t', '\n', '\r'].contains char

structure Blank where
  chars : List Char
  blank : ∀ char ∈ chars, isBlank char = true

/-- White space that keeps words apart. -/
structure Gap extends Blank where
  nonempty : chars ≠ []

/-- A keyword in any case. -/
structure Spelled (word : String) where
  chars : List Char
  spells : chars.map Char.toLower = word.toList

/-- A part of a statement that begins and ends with what it consists of. -/
structure Part where
  chars : List Char
  nonempty : chars ≠ []
  trimmed : strip chars = chars
  unterminated : chars.getLast? ≠ some ';'

/-- The literal that a quote opened is closed. -/
def literalClosed (quoteMark : Char) : List Char → Bool
  | [] => false
  | [char] => decide (char = quoteMark)
  | char :: next :: after =>
      if char = quoteMark then
        if next = quoteMark then literalClosed quoteMark after else true
      else literalClosed quoteMark (next :: after)

/-- What begins at the front of a text is closed in it. -/
def closedAt : List Char → Bool
  | '\'' :: rest => literalClosed '\'' rest
  | '"' :: rest => literalClosed '"' rest
  | '/' :: '*' :: rest => (closeBlock rest).isSome
  | _ => true

/-- The literals and comments of a text are closed. -/
def closes (engine : DatabaseEngine) (text : List Char) : Bool :=
  (scan (fun text => (lexeme engine text).map fun hit => (closedAt text, hit.2))
    (fun _ => true) text).all id

structure Condition (engine : DatabaseEngine) extends Part where
  closed : closes engine chars = true

/-- `column = value`, with white space around. -/
structure Assignment where
  before : Blank
  column : Part
  beforeSign : Blank
  afterSign : Blank
  value : Part
  after : Blank

def Assignment.text (item : Assignment) : List Char :=
  item.before.chars ++ (item.column.chars ++ (item.beforeSign.chars ++ '=' ::
    (item.afterSign.chars ++ (item.value.chars ++ item.after.chars))))

structure WhereClause (engine : DatabaseEngine) where
  gap : Gap
  keyword : Spelled "where"
  conditionGap : Gap
  condition : Condition engine

structure LimitClause where
  gap : Gap
  keyword : Spelled "limit"
  countGap : Gap
  count : ℕ

/-- What follows the table of a deletion, or the SET clause of an update. -/
structure Tail (engine : DatabaseEngine) where
  clause : Option (WhereClause engine)
  limit : Option LimitClause
  before : Blank
  semicolon : Bool
  after : Blank

section Texts

variable {engine : DatabaseEngine}

def WhereClause.text (clause : WhereClause engine) : List Char :=
  clause.gap.chars ++ (clause.keyword.chars ++
    (clause.conditionGap.chars ++ clause.condition.chars))

def LimitClause.text (limit : LimitClause) : List Char :=
  limit.gap.chars ++ (limit.keyword.chars ++
    (limit.countGap.chars ++ Nat.toDigits 10 limit.count))

/-- The clauses of a tail. -/
def Tail.clauses (tail : Tail engine) : List Char :=
  (tail.clause.map WhereClause.text).getD [] ++ (tail.limit.map LimitClause.text).getD []

/-- The end of a statement. -/
def Tail.ending (tail : Tail engine) : List Char :=
  tail.before.chars ++ ((if tail.semicolon then [';'] else []) ++ tail.after.chars)

def Tail.text (tail : Tail engine) : List Char :=
  tail.clauses ++ tail.ending

def Tail.condition (tail : Tail engine) : Option (List Char) :=
  tail.clause.map fun clause => clause.condition.chars

def Tail.count (tail : Tail engine) : Option ℕ :=
  tail.limit.map LimitClause.count

end Texts

/-- SQL Server lets a deletion do without its FROM. -/
structure DeleteStatement (engine : DatabaseEngine) where
  lead : Blank
  keyword : Spelled "delete"
  fromWord : Option (Gap × Spelled "from")
  tableGap : Gap
  table : Part
  tail : Tail engine

structure UpdateStatement (engine : DatabaseEngine) where
  lead : Blank
  keyword : Spelled "update"
  tableGap : Gap
  table : Part
  setGap : Gap
  setKeyword : Spelled "set"
  itemsGap : Gap
  first : Assignment
  others : List Assignment
  tail : Tail engine

section Statements

variable {engine : DatabaseEngine}

/-- What a deletion has behind its FROM. -/
def DeleteStatement.counted (statement : DeleteStatement engine) : List Char :=
  statement.tableGap.chars ++ (statement.table.chars ++ statement.tail.text)

def DeleteStatement.fromText (statement : DeleteStatement engine) : List Char :=
  (statement.fromWord.map fun word => word.1.chars ++ word.2.chars).getD []

def DeleteStatement.text (statement : DeleteStatement engine) : List Char :=
  statement.lead.chars ++ (statement.keyword.chars ++ (statement.fromText ++
    statement.counted))

def UpdateStatement.items (statement : UpdateStatement engine) : List Assignment :=
  statement.first :: statement.others

def UpdateStatement.columns (statement : UpdateStatement engine) : List (List Char) :=
  statement.items.map fun item => item.column.chars

/-- The SET list. -/
def UpdateStatement.setList (statement : UpdateStatement engine) : List Char :=
  [','].intercalate (statement.items.map Assignment.text)

/-- An update up to its SET keyword. -/
def UpdateStatement.front (statement : UpdateStatement engine) : List Char :=
  statement.lead.chars ++ (statement.keyword.chars ++ (statement.tableGap.chars ++
    (statement.table.chars ++ statement.setGap.chars)))

/-- An update up to the end of its SET list. -/
def UpdateStatement.head (statement : UpdateStatement engine) : List Char :=
  statement.front ++ (statement.setKeyword.chars ++
    (statement.itemsGap.chars ++ statement.setList))

def UpdateStatement.text (statement : UpdateStatement engine) : List Char :=
  statement.head ++ statement.tail.text

/-- A deletion or an update of one table. -/
inductive Statement (engine : DatabaseEngine) where
  | delete (statement : DeleteStatement engine)
  | update (statement : UpdateStatement engine)

def Statement.text : Statement engine → List Char
  | .delete statement => statement.text
  | .update statement => statement.text

def Statement.table : Statement engine → List Char
  | .delete statement => statement.table.chars
  | .update statement => statement.table.chars

def Statement.tail : Statement engine → Tail engine
  | .delete statement => statement.tail
  | .update statement => statement.tail

/-- The columns that a statement assigns. -/
def Statement.columns : Statement engine → List (List Char)
  | .delete _ => []
  | .update statement => statement.columns

end Statements

/-! ## Databases -/

/-- The rows of the tables by their references, and what conditions mean on them; one
whose literals are not closed means nothing. -/
structure Database (engine : DatabaseEngine) (Row : Type) where
  rows : List Char → Option (List Row)
  meaning : List Char → Option (Row → Bool)
  closed : ∀ text, closes engine text = false → meaning text = none

section Databases

variable {engine : DatabaseEngine} {Row : Type} (database : Database engine Row)

/-- The number of rows of a table that satisfy a condition. -/
def Database.matching (table : List Char) (condition : Option (List Char)) : Option ℕ :=
  (database.rows table).bind fun rows =>
    match condition with
    | none => some rows.length
    | some text => (database.meaning text).map fun holds => rows.countP holds

/-- What a count answers; its one row is lost to a limit of none. -/
def Database.count (table : List Char) (condition : Option (List Char))
    (limit : Option ℕ) : Option ℕ :=
  if limit = some 0 then none else database.matching table condition

/-- How many rows a deletion or an update touches, if it is accepted. -/
def Database.affected (statement : Statement engine) : Option ℕ :=
  (database.matching statement.table statement.tail.condition).map fun total =>
    (statement.tail.count.map fun limit => min limit total).getD total

/-- A condition as an engine reads it at the end of a count. -/
def bare (clause : List Char) : List Char :=
  strip (stripEnd ';' clause)

def conditionOf (clause : List Char) : Option (List Char) :=
  if clause = [] then none else some (bare clause)

/-- The connection answers the counts that stand for a statement from the database, and a
deletion that is run itself with the number of rows that it touches. -/
def Answers (tables : Tables) (run : List Char → Option ℕ) : Statement engine → Prop
  | .delete statement =>
      match statement.fromWord with
      | some _ =>
          run (strip ("SELECT COUNT(*) FROM".toList ++ statement.counted)) =
            database.count statement.table.chars statement.tail.condition
              statement.tail.count
      | none => run (strip statement.text) = database.affected (.delete statement)
  | .update _ =>
      ∀ table clause, (∀ char ∈ table, tables.isWord char = true) →
        run (countText table clause) = database.count table (conditionOf clause) none

end Databases

/-- On every database that accepts the statement, an estimate has the number of rows that
the statement touches and the columns that it assigns, and comes from a count. -/
def Estimated (tables : Tables) {engine : DatabaseEngine} (statement : Statement engine) :
    Prop :=
  ∀ (Row : Type) (database : Database engine Row) (run : List Char → Option ℕ),
    Answers database tables run statement →
    ∀ affected estimate, database.affected statement = some affected →
      getDryRunEstimate tables run statement.text = some estimate →
      estimate.rows = affected ∧ estimate.columns = statement.columns ∧
        ∃ text, countSql tables statement.text = some text ∧
          "SELECT COUNT(*) FROM".toList <+: text

end DbBuddy.Sql
