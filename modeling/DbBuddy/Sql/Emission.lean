import DbBuddy.Sql.Compiler

/-!
# What a compiled statement names

The text of a statement is made of what the compiler writes, of tables in front of
columns, and of texts that the plan brings along as they are.  The scope check looks
at the tables that the items of the clauses name; others reach the text too.
-/

namespace DbBuddy.Sql

open DbBuddy.Library DbBuddy.Dialects

/-- A part of a text: one without tables in front of columns; such a table with its
dot, and whether the scope check looks at it; or a text of the plan's own. -/
inductive Token where
  | text (shown : String)
  | qualifier (checked : Bool) (table shown : String)
  | verbatim (shown : String)
  deriving DecidableEq, Repr

/-! ## Tables in texts of the plan -/

/-- What stands directly in front of a character: nothing of note, a word, the
inside of a quoted name, such a name, or the inside of a literal. -/
inductive Scan where
  | between
  | word (reversed : List Char)
  | quoted (close : Char) (reversed : List Char)
  | name (close : Char) (reversed : List Char)
  | literal
  deriving DecidableEq, Repr

section Scanning

variable (unicode : Unicode)

/-- A character that continues nothing. -/
def startScan (char : Char) : Scan :=
  if char = '\'' then .literal
  else if char = '[' then .quoted ']' []
  else if char = '"' ∨ char = '`' then .quoted char []
  else if unicode.isWord char then .word [char]
  else .between

/-- A word is a name unless it begins with a digit. -/
def wordName (reversed : List Char) : List String :=
  if (reversed.getLast?.any Char.isDigit) then []
  else [String.ofList reversed.reverse]

/-- The names in front of dots. -/
def scanNames : Scan → List Char → List String
  | _, [] => []
  | .between, char :: rest => scanNames (startScan unicode char) rest
  | .word reversed, char :: rest =>
      if char = '.' then wordName reversed ++ scanNames .between rest
      else if unicode.isWord char then scanNames (.word (char :: reversed)) rest
      else scanNames (startScan unicode char) rest
  | .quoted close reversed, char :: rest =>
      if char = close then scanNames (.name close reversed) rest
      else scanNames (.quoted close (char :: reversed)) rest
  | .name close reversed, char :: rest =>
      if char = '.' then String.ofList reversed.reverse :: scanNames .between rest
      else if char = close then scanNames (.quoted close (char :: reversed)) rest
      else scanNames (startScan unicode char) rest
  | .literal, char :: rest =>
      scanNames (if char = '\'' then .between else .literal) rest

/-- The tables in front of columns in a text of the plan. -/
def namesIn (text : String) : List String :=
  scanNames unicode .between text.toList

end Scanning

/-! ## Tokens -/

def Token.shown : Token → String
  | .text shown => shown
  | .qualifier _ _ shown => shown
  | .verbatim shown => shown

def showTokens : List Token → String
  | [] => ""
  | token :: rest => token.shown ++ showTokens rest

def tokensBetween (separator : String) : List (List Token) → List Token
  | [] => []
  | [last] => last
  | first :: rest => first ++ .text separator :: tokensBetween separator rest

section Tables

variable (unicode : Unicode)

/-- The tables that the scope check looks at. -/
def Token.checkedTables : Token → List String
  | .qualifier true table _ => [table]
  | _ => []

def Token.uncheckedTables : Token → List String
  | .qualifier false table _ => [table]
  | .verbatim shown => namesIn unicode shown
  | _ => []

def checkedTables (tokens : List Token) : List String :=
  tokens.flatMap Token.checkedTables

def uncheckedTables (tokens : List Token) : List String :=
  tokens.flatMap (Token.uncheckedTables unicode)

/-- All tables in front of columns. -/
def tablesIn (tokens : List Token) : List String :=
  checkedTables tokens ++ uncheckedTables unicode tokens

end Tables

section Emit

variable (unicode : Unicode) (dialect : Option DatabaseEngine)

/-- `_quote_ref` -/
def quoteRefTokens (checked : Bool) (text : String) : List Token :=
  let left := text.toList.takeWhile fun char => char != '.'
  let right := (text.toList.dropWhile fun char => char != '.').drop 1
  if text = "*" then [.text text]
  else if '.' ∈ text.toList ∧ plainIdentifier left = true ∧ right ≠ [] then
    [.qualifier (checked && unicode.isIdentifier (String.ofList (strip left)))
        (String.ofList (strip left))
        (quote unicode (String.ofList left) dialect ++ "."),
      .text (quote unicode (String.ofList right) dialect)]
  else [.text (quote unicode text dialect)]

/-- `_ref` -/
def refTokens (checked : Bool) (table column : String) : List Token :=
  (if table = "" then []
    else [.qualifier checked table (quote unicode table dialect ++ ".")]) ++
    quoteRefTokens unicode dialect checked column

/-- A value, or its placeholder; texts stand in quotes. -/
def valueTokens (parameterize : Bool) (value : Value) : List Token :=
  if parameterize then [.text "%s"]
  else
    match value with
    | .scalar (.text _) => [.text (renderLiteral value)]
    | _ => [.verbatim (renderLiteral value)]

/-! ## Conditions -/

def ilikeTokens (column rhs : List Token) : List Token :=
  if dialect.any fun engine => engine.capabilities.supportsIlike then
    column ++ .text " ILIKE " :: rhs
  else .text "LOWER(" :: (column ++ .text ") LIKE LOWER(" :: (rhs ++ [.text ")"]))

/-- What an operator renders, if it is not refused. -/
def Operator.tokens (operator : Operator) (parameterize : Bool)
    (column : List Token) (value : Value) : List Token :=
  match operator with
  | .binary _ sql =>
      column ++ .text " " :: .verbatim sql ::
        (if value = .scalar .null then [.text " NULL"]
          else .text " " :: valueTokens parameterize value)
  | .unary sql => column ++ [.text " ", .verbatim sql]
  | .range _ sql =>
      match value with
      | .items _ [low, high] _ =>
          column ++ .text " " :: .verbatim sql :: .text " " ::
            (valueTokens parameterize (.scalar low) ++
              .text " AND " :: valueTokens parameterize (.scalar high))
      | _ => []
  | .set _ sql negated =>
      if setValues value = [] then [.text (if negated then "1=1" else "1=0")]
      else
        column ++ .text " " :: .verbatim sql :: .text " (" ::
          (tokensBetween ", " ((setValues value).map (valueTokens parameterize)) ++
            [.text ")"])
  | .ilike =>
      ilikeTokens dialect column
        (if value = .scalar .null then [.text "NULL"]
          else valueTokens parameterize value)

def conditionTokens (parameterize : Bool) (item : ConditionItem) :
    Option (List Token) :=
  if item.column = "" then none
  else
    let column := refTokens unicode dialect true item.table item.column
    let operator := item.operator.getD "="
    match item.columnRef with
    | some reference =>
        some (column ++ .text " " :: .verbatim operator :: .text " " ::
          quoteRefTokens unicode dialect false reference)
    | none =>
        let value := (item.value.or item.values).getD (.scalar (.text ""))
        let coerced :=
          if value = .scalar .null then
            if operator = "=" then "IS NULL"
            else if operator = "!=" ∨ operator = "<>" then "IS NOT NULL"
            else operator
          else operator
        some ((getOperator unicode coerced).tokens dialect parameterize column value)

/-- What stands in front of the brackets of a subquery, if there is one. -/
def subqueryStart (item : ConditionItem) : Option (List Token) :=
  match predicateKind unicode item with
  | .existence negated => some [.text (existsKeyword negated)]
  | .quantified =>
      some (refTokens unicode dialect true item.table item.column ++
        [.text (" " ++
          String.ofList (strip ((item.comparator.or item.operator).getD "=").toList) ++
          " " ++ upperStrip unicode item.quantifier)])
  | .condition => none

/-! ## Clauses -/

def selectItemTokens (item : SelectItem) : List Token :=
  if item.column = "*" ∨ item.column = "" then [.text "*"]
  else
    let reference := refTokens unicode dialect true item.table item.column
    (if item.aggregation = "" then reference
      else .verbatim item.aggregation :: .text "(" :: (reference ++ [.text ")"])) ++
    (if item.aliasName ≠ "" ∧ item.aliasName ≠ item.column then
      [.text (" AS " ++ quote unicode item.aliasName dialect)]
    else [])

def selectTokens (select : List SelectItem) : List Token :=
  if select = [] then [.text "*"]
  else tokensBetween ", " (select.map (selectItemTokens unicode dialect))

/-- The table that a JOIN adds, and the JOIN with its condition. -/
def joinTokens (join : JoinItem) : Option (String × List Token) :=
  match join.leftTable, join.rightTable with
  | some left, some right =>
      if left = "" ∨ right = "" ∨ join.leftKey = "" ∨ join.rightKey = "" then none
      else some (right, .text ("JOIN " ++ quote unicode right dialect ++ " ON ") ::
        (refTokens unicode dialect false left join.leftKey ++
          .text " = " :: refTokens unicode dialect false right join.rightKey))
  | _, _ =>
      if join.table = "" ∨ join.on = "" then none
      else some (join.table,
        [.text (normalizeJoinType unicode join.type ++ " " ++
          quote unicode join.table dialect ++ " ON "), .verbatim join.on])

def groupTokens (group : GroupItem) : Option (List Token) :=
  if group.column = "" then none
  else some (refTokens unicode dialect true group.table group.column)

def groupByTokens (groupBy : List GroupItem) : List Token :=
  let parts := groupBy.filterMap (groupTokens unicode dialect)
  if parts = [] then [] else .text "GROUP BY " :: tokensBetween ", " parts

def havingTokens (parameterize : Bool) (having : Option HavingItem) :
    List Token :=
  match having with
  | none => []
  | some item =>
      if item.aggregation ≠ "" ∧ item.table ≠ "" ∧ item.column ≠ "" ∧
          item.operator ≠ "" ∧ item.value ≠ .null then
        .text "HAVING " :: .verbatim item.aggregation :: .text "(" ::
          (refTokens unicode dialect true item.table item.column ++
            [.text ") ", .verbatim item.operator, .text " ",
              if parameterize then .text "%s"
              else .verbatim (showHaving item.value)])
      else []

/-- ORDER BY an aggregate of a column. -/
def measureTokens (checked : Bool) (direction function table column : String) :
    List Token :=
  .text "ORDER BY " :: .verbatim function :: .text "(" ::
    (refTokens unicode dialect checked table column ++
      [.text (") " ++ direction)])

def orderExpressionTokens (direction : String) (aggregation : Option Aggregation)
    (column : String) : List Token :=
  match structuredMeasure aggregation, aggregateExpression unicode column with
  | some (_, table, measured), some (function, _) =>
      measureTokens unicode dialect false direction function table measured
  | some (function, table, measured), none =>
      measureTokens unicode dialect false direction function table measured
  | none, some (function, inner) =>
      .text "ORDER BY " :: .verbatim function :: .text "(" ::
        (quoteRefTokens unicode dialect false inner ++ [.text (") " ++ direction)])
  | none, none =>
      [.text "ORDER BY ", .verbatim column, .text (" " ++ direction)]

def orderColumnTokens (direction : String) (aggregation : Option Aggregation)
    (groupBy : List GroupItem) (column : String) : List Token :=
  match structuredMeasure aggregation with
  | none => []
  | some (function, table, measured) =>
      if meansMeasure unicode groupBy column table measured = true ∧
          function ≠ "" then
        measureTokens unicode dialect false direction function table measured
      else []

def orderBranchTokens (aggregation : Option Aggregation) (groupBy : List GroupItem)
    (order : OrderItem) (direction : String) : List Token :=
  match order.aggregation with
  | some function =>
      if order.table ≠ "" ∧ order.column ≠ "" ∧ function ≠ "" then
        measureTokens unicode dialect true direction function order.table
          order.column
      else []
  | none =>
      if '(' ∈ order.column.toList then
        orderExpressionTokens unicode dialect direction aggregation order.column
      else
        orderColumnTokens unicode dialect direction aggregation groupBy order.column

def orderByTokens (aggregation : Option Aggregation) (groupBy : List GroupItem)
    (orderBy : List (Option OrderItem)) : List Token :=
  match orderBy with
  | [] => []
  | none :: _ => []
  | some order :: _ =>
      let direction := orderDirection unicode (order.direction.getD "ASC")
      let branch := orderBranchTokens unicode dialect aggregation groupBy order
        direction
      if branch = [] ∧ order.column ≠ "" ∧ '(' ∉ order.column.toList then
        .text "ORDER BY " ::
          (refTokens unicode dialect true order.table order.column ++
            [.text (" " ++ direction)])
      else branch

end Emit

/-! ## Statements -/

/-- The clauses of a statement: what stands around them, the table of FROM, and for
each JOIN the table that it adds. -/
structure EmittedClauses where
  start : String
  select : List Token
  baseTable : String
  source : String
  joins : List (String × List Token)
  groupBy : List Token
  having : List Token
  orderBy : List Token
  limit : String

mutual

inductive Emission where
  | mk (clauses : EmittedClauses) (conditions : Fragments)

/-- The conditions of a statement: each by itself, or with a subquery in brackets. -/
inductive Fragments where
  | nil
  | plain (tokens : List Token) (rest : Fragments)
  | nested (before : List Token) (subquery : Emission) (rest : Fragments)

end

/-- One condition more, if there is one. -/
def Fragments.add (tokens : Option (List Token)) (rest : Fragments) : Fragments :=
  match tokens with
  | none => rest
  | some tokens => .plain tokens rest

/-- The tokens of a statement's own conditions. -/
def Fragments.own : Fragments → List Token
  | .nil => []
  | .plain tokens rest => tokens ++ rest.own
  | .nested before _ rest => before ++ rest.own

mutual

def Emission.shown : Emission → String
  | .mk clauses conditions =>
      let fragments := conditions.shown
      clauses.start ++ showTokens clauses.select ++ " FROM " ++ clauses.source ++
        spaced (" ".intercalate (clauses.joins.map fun join => showTokens join.2)) ++
        spaced (if fragments = [] then ""
          else "WHERE " ++ " AND ".intercalate fragments) ++
        spaced (showTokens clauses.groupBy) ++ spaced (showTokens clauses.having) ++
        spaced (showTokens clauses.orderBy) ++ spaced clauses.limit

def Fragments.shown : Fragments → List String
  | .nil => []
  | .plain tokens rest => showTokens tokens :: rest.shown
  | .nested before subquery rest =>
      (showTokens before ++ " (" ++ subquery.shown ++ ")") :: rest.shown

end

section Statements

variable (unicode : Unicode) (parameterize : Bool)

def emitClauses (engine : DatabaseEngine) (dialect : Option DatabaseEngine)
    (clauses : Clauses) : EmittedClauses :=
  let orderBy :=
    match rebuildOrder clauses with
    | .ok orderBy => orderBy
    | .error _ => []
  let baseTable := clauses.baseTable.getD "None"
  { start := "SELECT " ++ (limitClauses engine clauses.limit).1
    select := selectTokens unicode dialect clauses.select
    baseTable := baseTable
    source := quote unicode baseTable dialect
    joins := clauses.joins.filterMap (joinTokens unicode dialect)
    groupBy := groupByTokens unicode dialect clauses.groupBy
    having := havingTokens unicode dialect parameterize clauses.having
    orderBy := orderByTokens unicode dialect clauses.aggregation clauses.groupBy
      orderBy
    limit := (limitClauses engine clauses.limit).2 }

variable (installed : DatabaseEngine → Bool)

mutual

/-- What a plan is compiled to, if it is not refused. -/
def Plan.emission (engine : DatabaseEngine) : Plan → Emission
  | .mk clauses conditions =>
      .mk (emitClauses unicode parameterize engine (dialectOf installed engine)
          clauses)
        (conditions.emission (dialectOf installed engine))

def Conditions.emission (dialect : Option DatabaseEngine) : Conditions → Fragments
  | .nil => .nil
  | .plain item rest =>
      .add (conditionTokens unicode dialect parameterize item)
        (rest.emission dialect)
  | .nested item subquery rest =>
      match subqueryStart unicode dialect item with
      | some before =>
          .nested before (subquery.emission (dialect.getD .mysql))
            (rest.emission dialect)
      | none =>
          .add (conditionTokens unicode dialect parameterize item)
            (rest.emission dialect)

end

end Statements

/-! ## The tokens show what the compiler writes -/

section Shown

variable {first later : List Token}

@[simp] theorem showTokens_nil : showTokens [] = "" := by
  rfl

@[simp] theorem showTokens_cons (token : Token) (rest : List Token) :
    showTokens (token :: rest) = token.shown ++ showTokens rest := by
  rfl

@[simp] theorem showTokens_append :
    showTokens (first ++ later) = showTokens first ++ showTokens later := by
  induction first with
  | nil =>
      simp
  | cons token rest inductionHypothesis =>
      rw [List.cons_append, showTokens_cons, showTokens_cons, inductionHypothesis,
        String.append_assoc]

theorem tokensBetween_cons (separator : String) {rest : List (List Token)}
    (notLast : rest ≠ []) :
    tokensBetween separator (first :: rest) =
      first ++ .text separator :: tokensBetween separator rest := by
  cases rest with
  | nil => exact absurd rfl notLast
  | cons second others => rfl

theorem showTokens_between (separator : String) (parts : List (List Token)) :
    showTokens (tokensBetween separator parts) =
      separator.intercalate (parts.map showTokens) := by
  induction parts with
  | nil =>
      rw [tokensBetween, List.map_nil, String.intercalate_nil, showTokens_nil]
  | cons part rest inductionHypothesis =>
      by_cases isLast : rest = []
      · rw [isLast, tokensBetween, List.map_cons, List.map_nil,
          String.intercalate_singleton]
      · have notLast : rest.map showTokens ≠ [] := by
          simpa using isLast
        rw [tokensBetween_cons separator isLast, showTokens_append, showTokens_cons,
          inductionHypothesis, List.map_cons,
          String.intercalate_cons_of_ne_nil notLast, Token.shown,
          String.append_assoc]

variable {unicode : Unicode} {dialect : Option DatabaseEngine}

theorem quoteRefTokens_shown (checked : Bool) (text : String) :
    showTokens (quoteRefTokens unicode dialect checked text) =
      quoteRef unicode text dialect := by
  unfold quoteRefTokens quoteRef
  dsimp only
  split
  · simp [Token.shown]
  · split
    · simp [Token.shown]
    · simp [Token.shown]

theorem refTokens_shown (checked : Bool) (table column : String) :
    showTokens (refTokens unicode dialect checked table column) =
      ref unicode table column dialect := by
  unfold refTokens ref
  rw [showTokens_append, quoteRefTokens_shown]
  split
  · simp
  · simp [Token.shown]

theorem valueTokens_shown (parameterize : Bool) (value : Value) :
    showTokens (valueTokens parameterize value) =
      (renderOne parameterize value).1 := by
  unfold valueTokens renderOne
  cases parameterize with
  | true => simp [Token.shown]
  | false =>
      simp only [Bool.false_eq_true, if_false]
      split
      · simp [Token.shown]
      · simp [Token.shown]

theorem ilikeTokens_shown (column rhs : List Token) :
    showTokens (ilikeTokens dialect column rhs) =
      ilikeFragment dialect (showTokens column) (showTokens rhs) := by
  cases dialect with
  | none =>
      simp [ilikeFragment, ilikeTokens, Token.shown, String.append_assoc]
  | some engine =>
      cases isSupported : engine.capabilities.supportsIlike with
      | true =>
          simp [ilikeFragment, DatabaseEngine.renderIlike, ilikeTokens, isSupported,
            Token.shown, String.append_assoc]
      | false =>
          simp [ilikeFragment, DatabaseEngine.renderIlike, ilikeTokens, isSupported,
            Token.shown, String.append_assoc]

theorem renderEach_shown (parameterize : Bool) (values : List Value) :
    (renderEach parameterize values).1 =
      (values.map (valueTokens parameterize)).map showTokens := by
  rw [List.map_map]
  cases parameterize with
  | true =>
      exact List.map_congr_left fun value _ => (valueTokens_shown true value).symm
  | false =>
      exact List.map_congr_left fun value _ => (valueTokens_shown false value).symm

theorem Operator.tokens_shown {operator : Operator} {parameterize : Bool}
    {column : List Token} {value : Value} {rendered : Rendered}
    (isRendered : operator.render (showTokens column) value parameterize dialect =
      .ok rendered) :
    rendered.1 =
      showTokens (operator.tokens dialect parameterize column value) := by
  cases operator with
  | binary token sql =>
      simp only [Operator.render] at isRendered
      simp only [Operator.tokens]
      split at isRendered
      · cases isRendered
        rename_i isNull
        simp [isNull, Token.shown, String.append_assoc]
      · cases isRendered
        rename_i notNull
        simp [notNull, Token.shown, valueTokens_shown, String.append_assoc]
  | unary sql =>
      cases isRendered
      simp [Operator.tokens, Token.shown, String.append_assoc]
  | range token sql =>
      simp only [Operator.render] at isRendered
      split at isRendered
      · split at isRendered
        · cases isRendered
        · cases isRendered
          simp [Operator.tokens, Token.shown, valueTokens_shown, String.append_assoc]
      · cases isRendered
  | set token sql negated =>
      simp only [Operator.render] at isRendered
      simp only [Operator.tokens]
      split at isRendered
      · cases isRendered
        rename_i isEmpty
        simp [isEmpty, Token.shown]
      · split at isRendered
        · cases isRendered
        · cases isRendered
          rename_i notEmpty _
          rw [if_neg notEmpty, renderEach_shown]
          simp [Token.shown, showTokens_between, String.append_assoc]
  | ilike =>
      simp only [Operator.render] at isRendered
      cases isRendered
      simp only [Operator.tokens, ilikeTokens_shown]
      split
      · simp [Token.shown]
      · simp [valueTokens_shown]

theorem quoteWith_ne_empty (mark : Char) (name : String) :
    quoteWith mark name ≠ "" := by
  intro isEmpty
  have noChars := congrArg String.toList isEmpty
  simp [quoteWith] at noChars

theorem quote_ne_empty {name : String} (notEmpty : name ≠ "") :
    quote unicode name dialect ≠ "" := by
  unfold quote
  split
  · cases dialect with
    | none => exact quoteWith_ne_empty _ _
    | some engine => exact quoteWith_ne_empty _ _
  · exact notEmpty

theorem quoteRef_ne_empty {text : String} (notEmpty : text ≠ "") :
    quoteRef unicode text dialect ≠ "" := by
  unfold quoteRef
  dsimp only
  split
  · exact notEmpty
  · split
    · simp
    · exact quote_ne_empty notEmpty

theorem ref_ne_empty (unicode : Unicode) (dialect : Option DatabaseEngine)
    (table : String) {column : String} (notEmpty : column ≠ "") :
    ref unicode table column dialect ≠ "" := by
  unfold ref
  split
  · exact quoteRef_ne_empty notEmpty
  · simp

theorem quoteRef_empty : quoteRef unicode "" dialect = "" := by
  simp [quoteRef, quote, needsQuoting]

theorem map_some_ok {result : Except CompileError Rendered}
    {rendered : Option Rendered} (isOk : result.map some = .ok rendered) :
    ∃ fragment, result = .ok fragment ∧ rendered = some fragment := by
  cases result with
  | error refused => cases isOk
  | ok fragment =>
      cases isOk
      exact ⟨fragment, rfl, rfl⟩

/-- A condition whose columns have been quoted shows the tokens of the condition. -/
theorem conditionTokens_shown {item : ConditionItem} {parameterize : Bool}
    {rendered : Option Rendered}
    (isRendered : renderCondition unicode (quoteCondition unicode dialect item)
      parameterize dialect = .ok rendered) :
    rendered.map Prod.fst =
      (conditionTokens unicode dialect parameterize item).map showTokens := by
  unfold conditionTokens
  by_cases isEmpty : item.column = ""
  · simp only [renderCondition, quoteCondition, isEmpty, if_true] at isRendered
    cases isRendered
    rw [if_pos isEmpty]
    rfl
  · have notEmpty := ref_ne_empty unicode dialect item.table isEmpty
    simp only [renderCondition, quoteCondition, if_neg isEmpty, if_neg notEmpty]
      at isRendered
    rw [if_neg isEmpty]
    cases isReference : item.columnRef with
    | some reference =>
        rw [isReference] at isRendered
        simp only [Option.map_some] at isRendered
        cases isRendered
        have quoted : (if reference = "" then "" else
            quoteRef unicode reference dialect) =
            quoteRef unicode reference dialect := by
          split
          · rename_i noReference
            rw [noReference, quoteRef_empty]
          · rfl
        rw [quoted]
        simp [Token.shown, refTokens_shown, quoteRefTokens_shown,
          String.append_assoc]
    | none =>
        rw [isReference] at isRendered
        simp only [Option.map_none] at isRendered
        obtain ⟨fragment, isFragment, isSome⟩ := map_some_ok isRendered
        rw [← refTokens_shown true] at isFragment
        rw [isSome, Option.map_some, Option.map_some,
          Operator.tokens_shown isFragment]

theorem Fragments.add_shown (tokens : Option (List Token)) (rest : Fragments) :
    (Fragments.add tokens rest).shown =
      (tokens.map showTokens).toList ++ rest.shown := by
  cases tokens with
  | none => rfl
  | some tokens => rfl

theorem consRendered_ok {first : Except CompileError (Option Rendered)}
    {rest : Except CompileError (List String × List Value)}
    {fragments : List String × List Value}
    (isOk : consRendered first rest = .ok fragments) :
    ∃ fragment later, first = .ok fragment ∧ rest = .ok later ∧
      fragments.1 = (fragment.map Prod.fst).toList ++ later.1 := by
  cases first with
  | error refused => cases isOk
  | ok fragment =>
      cases rest with
      | error refused =>
          cases fragment with
          | none => cases isOk
          | some fragment => cases isOk
      | ok later =>
          cases fragment with
          | none =>
              cases isOk
              exact ⟨none, fragments, rfl, rfl, rfl⟩
          | some fragment =>
              cases isOk
              exact ⟨some fragment, later, rfl, rfl, rfl⟩

theorem renderPlain_ok {item : ConditionItem} {parameterize : Bool}
    {rendered : Option Rendered}
    (isOk : renderPlain unicode (quoteCondition unicode dialect item) parameterize
      dialect = .ok rendered) :
    rendered.map Prod.fst =
      (conditionTokens unicode dialect parameterize item).map showTokens := by
  unfold renderPlain at isOk
  split at isOk
  · cases isOk
  · split at isOk
    · cases isOk
    · cases isOk
  · exact conditionTokens_shown isOk

/-- A quantified comparison that is not refused shows its column, the comparator
and the quantifier. -/
theorem quantifiedStart_ok {item : ConditionItem} {start quantifier : String}
    (isOk : quantifiedStart unicode (quoteCondition unicode dialect item) =
      .ok (start, quantifier))
    (isQuantified : predicateKind unicode item = .quantified) :
    ∃ before, subqueryStart unicode dialect item = some before ∧
      start = showTokens before := by
  have isStart : subqueryStart unicode dialect item =
      some (refTokens unicode dialect true item.table item.column ++
        [.text (" " ++
          String.ofList (strip ((item.comparator.or item.operator).getD "=").toList) ++
          " " ++ upperStrip unicode item.quantifier)]) := by
    unfold subqueryStart
    rw [isQuantified]
  refine ⟨_, isStart, ?_⟩
  unfold quantifiedStart at isOk
  dsimp only at isOk
  split at isOk
  · cases isOk
  · rename_i notEmpty
    have isColumn : item.column ≠ "" := by
      intro isEmpty
      exact notEmpty (by simp [quoteCondition, isEmpty])
    split at isOk
    · cases isOk
    · split at isOk
      · cases isOk
      · cases isOk
        simp [quoteCondition, isColumn, refTokens_shown, Token.shown,
          String.append_assoc]

theorem renderNested_ok {item : ConditionItem} {parameterize : Bool}
    {compiled : Except CompileError Rendered} {rendered : Option Rendered}
    (isOk : renderNested unicode (quoteCondition unicode dialect item) parameterize
      dialect compiled = .ok rendered) :
    (∃ before subquery, subqueryStart unicode dialect item = some before ∧
      compiled = .ok subquery ∧
      rendered.map Prod.fst =
        some (showTokens before ++ " (" ++ subquery.1 ++ ")")) ∨
    (subqueryStart unicode dialect item = none ∧
      rendered.map Prod.fst =
        (conditionTokens unicode dialect parameterize item).map showTokens) := by
  have sameKind : predicateKind unicode (quoteCondition unicode dialect item) =
      predicateKind unicode item := rfl
  unfold renderNested at isOk
  rw [sameKind] at isOk
  cases isKind : predicateKind unicode item with
  | existence negated =>
      rw [isKind] at isOk
      have isStart : subqueryStart unicode dialect item =
          some [.text (existsKeyword negated)] := by
        unfold subqueryStart
        rw [isKind]
      cases compiled with
      | error refused => cases isOk
      | ok subquery =>
          cases isOk
          exact .inl ⟨_, subquery, isStart, rfl, by simp [Token.shown]⟩
  | quantified =>
      rw [isKind] at isOk
      cases isParts : quantifiedStart unicode (quoteCondition unicode dialect item)
        with
      | error refused =>
          rw [isParts] at isOk
          cases isOk
      | ok parts =>
          obtain ⟨start, quantifier⟩ := parts
          rw [isParts] at isOk
          obtain ⟨before, isStart, isShown⟩ := quantifiedStart_ok isParts isKind
          cases compiled with
          | error refused => cases isOk
          | ok subquery =>
              cases isOk
              exact .inl ⟨before, subquery, isStart, rfl, by simp [isShown]⟩
  | condition =>
      rw [isKind] at isOk
      have noStart : subqueryStart unicode dialect item = none := by
        unfold subqueryStart
        rw [isKind]
      exact .inr ⟨noStart, conditionTokens_shown isOk⟩

/-! ### Clauses -/

theorem selectTokens_shown (select : List SelectItem) :
    showTokens (selectTokens unicode dialect select) =
      selectClause unicode dialect select := by
  have itemShown (item : SelectItem) :
      showTokens (selectItemTokens unicode dialect item) =
        selectPart unicode dialect item := by
    unfold selectItemTokens selectPart
    dsimp only
    split
    · simp [Token.shown]
    · rw [showTokens_append]
      split
      · split
        · simp [Token.shown, refTokens_shown, String.append_assoc]
        · simp [refTokens_shown]
      · split
        · simp only [showTokens_cons, showTokens_append, showTokens_nil, Token.shown,
            refTokens_shown, String.append_assoc, String.append_empty]
        · simp [Token.shown, refTokens_shown, String.append_assoc]
  unfold selectTokens selectClause
  split
  · simp [Token.shown]
  · rw [showTokens_between, List.map_map]
    exact congrArg _ (List.map_congr_left fun item _ => itemShown item)

theorem joinTokens_shown (join : JoinItem) :
    (joinTokens unicode dialect join).map (fun emitted => showTokens emitted.2) =
      joinPart unicode dialect join := by
  have oldFormat : Option.map (fun emitted : String × List Token =>
        showTokens emitted.2)
      (if join.table = "" ∨ join.on = "" then none
        else some (join.table,
          [.text (normalizeJoinType unicode join.type ++ " " ++
            quote unicode join.table dialect ++ " ON "), .verbatim join.on])) =
      if join.table = "" ∨ join.on = "" then none
      else some (normalizeJoinType unicode join.type ++ " " ++
        quote unicode join.table dialect ++ " ON " ++ join.on) := by
    split
    · rfl
    · simp [Token.shown, String.append_assoc]
  unfold joinTokens joinPart
  cases join.leftTable with
  | none => exact oldFormat
  | some left =>
      cases join.rightTable with
      | none => exact oldFormat
      | some right =>
          dsimp only
          split
          · rfl
          · simp [Token.shown, refTokens_shown, String.append_assoc]

theorem joinClause_shown (joins : List JoinItem) :
    " ".intercalate ((joins.filterMap (joinTokens unicode dialect)).map fun emitted =>
        showTokens emitted.2) =
      joinClause unicode dialect joins := by
  unfold joinClause
  rw [List.map_filterMap]
  simp only [joinTokens_shown]

theorem groupByTokens_shown (groupBy : List GroupItem) :
    showTokens (groupByTokens unicode dialect groupBy) =
      groupByClause unicode dialect groupBy := by
  have sameParts : (groupBy.filterMap (groupTokens unicode dialect)).map showTokens =
      groupBy.filterMap (groupPart unicode dialect) := by
    rw [List.map_filterMap]
    refine congrArg (fun part => groupBy.filterMap part) (funext fun group => ?_)
    unfold groupTokens groupPart
    split
    · rfl
    · simp [refTokens_shown]
  unfold groupByTokens groupByClause
  rw [← sameParts]
  dsimp only
  by_cases isEmpty : groupBy.filterMap (groupTokens unicode dialect) = []
  · simp [isEmpty]
  · rw [if_neg isEmpty, if_neg fun noParts => isEmpty (List.map_eq_nil_iff.mp noParts),
      showTokens_cons, showTokens_between]
    rfl

theorem havingTokens_shown (parameterize : Bool) (having : Option HavingItem) :
    showTokens (havingTokens unicode dialect parameterize having) =
      (havingClause unicode parameterize dialect having).1 := by
  unfold havingTokens havingClause
  cases having with
  | none => rfl
  | some item =>
      dsimp only
      split
      · cases parameterize with
        | true => simp [Token.shown, refTokens_shown, String.append_assoc]
        | false => simp [Token.shown, refTokens_shown, String.append_assoc]
      · rfl

theorem measureTokens_shown (checked : Bool)
    (direction function table column : String) :
    showTokens (measureTokens unicode dialect checked direction function table column) =
      orderByMeasure unicode dialect direction function table column := by
  simp only [measureTokens, orderByMeasure, showTokens_cons, showTokens_append,
    showTokens_nil, Token.shown, refTokens_shown, String.append_assoc,
    String.append_empty]

theorem orderExpressionTokens_shown (direction : String)
    (aggregation : Option Aggregation) (column : String) :
    showTokens (orderExpressionTokens unicode dialect direction aggregation column) =
      orderByExpression unicode dialect direction aggregation column := by
  unfold orderExpressionTokens orderByExpression
  cases structuredMeasure aggregation with
  | some measure =>
      cases aggregateExpression unicode column with
      | some parsed => exact measureTokens_shown _ _ _ _ _
      | none => exact measureTokens_shown _ _ _ _ _
  | none =>
      cases aggregateExpression unicode column with
      | some parsed =>
          simp only [showTokens_cons, showTokens_append, showTokens_nil, Token.shown,
            quoteRefTokens_shown, String.append_assoc, String.append_empty]
      | none =>
          simp only [showTokens_cons, showTokens_nil, Token.shown,
            String.append_assoc, String.append_empty]

theorem orderColumnTokens_shown (direction : String)
    (aggregation : Option Aggregation) (groupBy : List GroupItem) (column : String) :
    showTokens (orderColumnTokens unicode dialect direction aggregation groupBy
        column) =
      orderByColumn unicode dialect direction aggregation groupBy column := by
  unfold orderColumnTokens orderByColumn
  cases structuredMeasure aggregation with
  | none => rfl
  | some measure =>
      dsimp only
      split
      · exact measureTokens_shown _ _ _ _ _
      · rfl

theorem orderBranchTokens_shown (aggregation : Option Aggregation)
    (groupBy : List GroupItem) (order : OrderItem) (direction : String) :
    showTokens (orderBranchTokens unicode dialect aggregation groupBy order
        direction) =
      orderByBranches unicode dialect aggregation groupBy order direction := by
  unfold orderBranchTokens orderByBranches
  cases order.aggregation with
  | some function =>
      dsimp only
      split
      · exact measureTokens_shown _ _ _ _ _
      · rfl
  | none =>
      dsimp only
      split
      · exact orderExpressionTokens_shown _ _ _
      · exact orderColumnTokens_shown _ _ _ _

/-- An ordering that shows nothing is not there. -/
theorem orderBranchTokens_empty (aggregation : Option Aggregation)
    (groupBy : List GroupItem) (order : OrderItem) (direction : String) :
    showTokens (orderBranchTokens unicode dialect aggregation groupBy order
        direction) = "" ↔
      orderBranchTokens unicode dialect aggregation groupBy order direction = [] := by
  have keyword (rest : List Token) :
      showTokens (.text "ORDER BY " :: rest) = "" ↔
        (Token.text "ORDER BY " :: rest) = [] := by
    simp [Token.shown]
  have nothing : showTokens [] = "" ↔ ([] : List Token) = [] := by
    simp
  unfold orderBranchTokens
  cases order.aggregation with
  | some function =>
      dsimp only
      split
      · exact keyword _
      · exact nothing
  | none =>
      dsimp only
      split
      · unfold orderExpressionTokens
        cases structuredMeasure aggregation with
        | some measure =>
            cases aggregateExpression unicode order.column with
            | some parsed => exact keyword _
            | none => exact keyword _
        | none =>
            cases aggregateExpression unicode order.column with
            | some parsed => exact keyword _
            | none => exact keyword _
      · unfold orderColumnTokens
        cases structuredMeasure aggregation with
        | none => exact nothing
        | some measure =>
            dsimp only
            split
            · exact keyword _
            · exact nothing

theorem orderByTokens_shown (aggregation : Option Aggregation)
    (groupBy : List GroupItem) (orderBy : List (Option OrderItem)) :
    showTokens (orderByTokens unicode dialect aggregation groupBy orderBy) =
      orderByClause unicode dialect aggregation groupBy orderBy := by
  cases orderBy with
  | nil => rfl
  | cons first rest =>
      cases first with
      | none => rfl
      | some order =>
          simp only [orderByTokens, orderByClause]
          rw [← orderBranchTokens_shown]
          simp only [orderBranchTokens_empty]
          split
          · simp only [showTokens_cons, showTokens_append, showTokens_nil,
              Token.shown, refTokens_shown, String.append_assoc, String.append_empty]
          · rfl

end Shown

/-! ## The compiler writes the emission -/

theorem assemble_ok {unicode : Unicode} {parameterize : Bool}
    {engine : DatabaseEngine} {dialect : Option DatabaseEngine} {clauses : Clauses}
    {conditions : List ConditionItem}
    {rendered : Except CompileError (List String × List Value)}
    {statement : Rendered}
    (isOk : assemble unicode parameterize engine dialect clauses conditions rendered =
      .ok statement) :
    ∃ orderBy fragments, rebuildOrder clauses = .ok orderBy ∧
      rendered = .ok fragments ∧
      clauses.baseTable.getD "None" ≠ "" ∧
      assertTablesInScope unicode (clauses.baseTable.getD "None") clauses conditions
        orderBy = .ok () ∧
      ∀ emission : Fragments, emission.shown = fragments.1 →
        statement.1 =
          (Emission.mk (emitClauses unicode parameterize engine dialect clauses)
            emission).shown := by
  unfold assemble at isOk
  split at isOk
  · cases isOk
  · rename_i orderBy rebuilt
    dsimp only at isOk
    split at isOk
    · cases isOk
    · rename_i hasBase
      cases rendered with
      | error refused => cases isOk
      | ok fragments =>
          dsimp only at isOk
          split at isOk
          · cases isOk
          · rename_i inScope
            cases isOk
            refine ⟨orderBy, fragments, rebuilt, rfl, hasBase, inScope, ?_⟩
            intro emission isShown
            simp only [Emission.shown, emitClauses, rebuilt, isShown,
              selectTokens_shown, joinClause_shown, groupByTokens_shown,
              havingTokens_shown, orderByTokens_shown]

section Plans

variable (unicode : Unicode) (parameterize : Bool)
variable (installed : DatabaseEngine → Bool)

mutual

/-- A plan that is compiled is compiled to its emission. -/
theorem compileSql_shown {engine : DatabaseEngine} : (plan : Plan) →
    {statement : Rendered} →
    compileSql unicode installed parameterize engine plan = .ok statement →
    statement.1 = (plan.emission unicode parameterize installed engine).shown
  | .mk clauses conditions, statement, isOk => by
      unfold compileSql at isOk
      unfold Plan.emission
      obtain ⟨orderBy, fragments, -, isRendered, -, -, isShown⟩ := assemble_ok isOk
      exact isShown _ (renderConditions_shown conditions isRendered).symm

theorem renderConditions_shown {dialect : Option DatabaseEngine} :
    (conditions : Conditions) → {fragments : List String × List Value} →
    renderConditions unicode installed parameterize dialect conditions =
      .ok fragments →
    fragments.1 = (conditions.emission unicode parameterize installed dialect).shown
  | .nil, fragments, isOk => by
      unfold renderConditions at isOk
      unfold Conditions.emission
      cases isOk
      rfl
  | .plain item rest, fragments, isOk => by
      unfold renderConditions at isOk
      unfold Conditions.emission
      obtain ⟨fragment, later, isFirst, isRest, isAll⟩ := consRendered_ok isOk
      rw [isAll, Fragments.add_shown, renderPlain_ok isFirst,
        renderConditions_shown rest isRest]
  | .nested item subquery rest, fragments, isOk => by
      unfold renderConditions at isOk
      unfold Conditions.emission
      obtain ⟨fragment, later, isFirst, isRest, isAll⟩ := consRendered_ok isOk
      rw [isAll, renderConditions_shown rest isRest]
      rcases renderNested_ok isFirst with
        ⟨before, compiled, isStart, isCompiled, isShown⟩ | ⟨noStart, isShown⟩
      · rw [isStart, isShown, compileSql_shown subquery isCompiled]
        rfl
      · rw [noStart, isShown, Fragments.add_shown]

end

end Plans

end DbBuddy.Sql
