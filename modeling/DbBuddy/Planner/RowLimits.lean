import DbBuddy.Planner.Finishing

/-!
# The limit of a read

A plan that returns rows gets a limit if the question sets none, and the compiler
writes it where the engine has it.  A limit that is there already is kept, and one
that is not positive is not written.
-/

namespace DbBuddy.Planner

open DbBuddy.Library DbBuddy.Dialects DbBuddy.Sql

/-! ## The plan as the compiler reads it -/

def joinItem (join : Join) : JoinItem where
  leftTable := some join.leftTable
  rightTable := some join.rightTable
  leftKey := join.leftKey
  rightKey := join.rightKey
  table := ""
  on := ""
  type := ""

def groupItem (group : GroupColumn) : GroupItem :=
  ⟨group.table, group.column⟩

/-- A resolved ordering has a column and a direction. -/
def orderItem (order : OrderColumn) : OrderItem where
  table := order.table
  column := order.column
  hasColumn := true
  hasType := false
  aggregation := none
  direction := some order.direction

def conditionItem (filter : Filter) : ConditionItem where
  table := ""
  column := filter.column
  operator := some filter.operator
  columnRef := none
  value := some filter.value
  values := none
  comparator := none
  quantifier := ""

namespace ExecutionPlan

def clauses (plan : ExecutionPlan) : Clauses where
  select := plan.select
  baseTable := plan.baseTable
  joins := plan.joins.map joinItem
  groupBy := plan.groupBy.map groupItem
  having := plan.having
  orderBy := plan.orderBy.toList.map fun order => some (orderItem order)
  orderIsList := false
  aggregation := plan.aggregation.map fun measure =>
    ⟨measure.function, some (measure.table, measure.column)⟩
  limit := plan.limit

def conditions (plan : ExecutionPlan) : Conditions :=
  plan.filters.foldr (fun filter rest => .plain (conditionItem filter) rest) .nil

/-- The plan, to be compiled. -/
def statement (plan : ExecutionPlan) : Sql.Plan :=
  .mk plan.clauses plan.conditions

end ExecutionPlan

/-- A statement from its SELECT list on, with a limit. -/
def limitedTo (engine : DatabaseEngine) (count : ℕ) (rest : String) : String :=
  if engine = .sqlserver then "SELECT TOP " ++ count.repr ++ " " ++ rest
  else "SELECT " ++ rest ++ " LIMIT " ++ count.repr

section Limits

variable (unicode : Unicode) (installed : DatabaseEngine → Bool)

/-- A statement takes a positive number of rows at most: it is the one that the plan
compiles to without a limit, with `TOP n` or `LIMIT n` where the engine has it. -/
def RowLimited (parameterize : Bool) (engine : DatabaseEngine)
    (plan : ExecutionPlan) (sql : String) : Prop :=
  ∃ count rest params, 0 < count ∧
    compileSql unicode installed parameterize engine
      { plan with limit := none }.statement = .ok ("SELECT " ++ rest, params) ∧
    sql = limitedTo engine count rest

end Limits

/-! ## What the compiler makes of a limit -/

section Compiled

variable {unicode : Unicode} {installed : DatabaseEngine → Bool}
variable {parameterize : Bool} {engine : DatabaseEngine}

/-- A limit changes nothing of a statement but the two places it is written at. -/
theorem assemble_limit {dialect : Option DatabaseEngine} {clauses : Clauses}
    {conditions : List ConditionItem}
    {rendered : Except CompileError (List String × List Value)} {sql : String}
    {params : List Value}
    (assembled : assemble unicode parameterize engine dialect clauses conditions
      rendered = .ok (sql, params)) :
    ∃ rest,
      assemble unicode parameterize engine dialect { clauses with limit := none }
        conditions rendered = .ok ("SELECT " ++ rest, params) ∧
      sql = "SELECT " ++ (limitClauses engine clauses.limit).1 ++ rest ++
        spaced (limitClauses engine clauses.limit).2 := by
  unfold assemble at assembled ⊢
  have sameOrder : rebuildOrder { clauses with limit := none } =
      rebuildOrder clauses := rfl
  rw [sameOrder]
  cases isOrder : rebuildOrder clauses with
  | error refused =>
      rw [isOrder] at assembled
      cases assembled
  | ok orderBy =>
      rw [isOrder] at assembled
      dsimp only at assembled ⊢
      by_cases noBase : clauses.baseTable.getD "None" = ""
      · rw [if_pos noBase] at assembled
        cases assembled
      · rw [if_neg noBase] at assembled ⊢
        cases rendered with
        | error refused => cases assembled
        | ok pieces =>
            dsimp only at assembled ⊢
            have sameScope : assertTablesInScope unicode
                (clauses.baseTable.getD "None") { clauses with limit := none }
                conditions orderBy =
              assertTablesInScope unicode (clauses.baseTable.getD "None") clauses
                conditions orderBy := rfl
            rw [sameScope]
            cases isScope : assertTablesInScope unicode
                (clauses.baseTable.getD "None") clauses conditions orderBy with
            | error refused =>
                rw [isScope] at assembled
                cases assembled
            | ok inScope =>
                rw [isScope] at assembled
                cases assembled
                refine ⟨selectClause unicode dialect clauses.select ++ " FROM " ++
                  quote unicode (clauses.baseTable.getD "None") dialect ++
                  spaced (joinClause unicode dialect clauses.joins) ++
                  spaced (if pieces.1 = [] then ""
                    else "WHERE " ++ " AND ".intercalate pieces.1) ++
                  spaced (groupByClause unicode dialect clauses.groupBy) ++
                  spaced (havingClause unicode parameterize dialect
                    clauses.having).1 ++
                  spaced (orderByClause unicode dialect clauses.aggregation
                    clauses.groupBy orderBy), ?_, ?_⟩
                · simp [limitClauses, spaced, String.append_assoc]
                · simp only [String.append_assoc]

theorem limitedTo_length (engine : DatabaseEngine) (count : ℕ) (rest : String) :
    ("SELECT " ++ rest).length < (limitedTo engine count rest).length := by
  unfold limitedTo
  split
  · have longer : "SELECT ".length < "SELECT TOP ".length := by decide
    simp only [String.length_append]
    omega
  · have written : 0 < " LIMIT ".length := by decide
    simp only [String.length_append]
    omega

/-- A positive limit is written. -/
theorem limitClauses_of_pos {count : ℤ} (positive : 0 < count) (rest : String) :
    "SELECT " ++ (limitClauses engine (some count)).1 ++ rest ++
        spaced (limitClauses engine (some count)).2 =
      limitedTo engine count.toNat rest := by
  have isWritten : limitClauses engine (some count) =
      if engine = .sqlserver then ("TOP " ++ count.toNat.repr ++ " ", "")
      else ("", "LIMIT " ++ count.toNat.repr) := if_pos positive
  rw [isWritten]
  unfold limitedTo
  have start : "SELECT TOP " = "SELECT " ++ "TOP " := by decide
  have finish : " LIMIT " = " " ++ "LIMIT " := by decide
  by_cases isServer : engine = .sqlserver
  · have noMore : spaced "" = "" := rfl
    rw [if_pos isServer, if_pos isServer, start, noMore]
    simp only [String.append_assoc, String.append_empty]
  · have isSpaced : spaced ("LIMIT " ++ count.toNat.repr) =
        " " ++ ("LIMIT " ++ count.toNat.repr) :=
      if_neg (by simp)
    rw [if_neg isServer, if_neg isServer, finish, isSpaced]
    simp only [String.append_assoc, String.append_empty]

/-- Any other limit is not. -/
theorem limitClauses_of_not {limit : Option ℤ}
    (notPositive : ¬∃ count, limit = some count ∧ 0 < count) :
    limitClauses engine limit = ("", "") := by
  cases limit with
  | none => rfl
  | some count =>
      exact if_neg fun positive => notPositive ⟨count, rfl, positive⟩

/-- The compiled statement is limited exactly if the plan's limit is positive. -/
theorem rowLimited_iff {plan : ExecutionPlan} {sql : String} {params : List Value}
    (compiled : compileSql unicode installed parameterize engine plan.statement =
      .ok (sql, params)) :
    RowLimited unicode installed parameterize engine plan sql ↔
      ∃ count, plan.limit = some count ∧ 0 < count := by
  unfold ExecutionPlan.statement at compiled
  rw [compileSql] at compiled
  obtain ⟨rest, unlimited, isSql⟩ := assemble_limit compiled
  have sameUnlimited : compileSql unicode installed parameterize engine
      { plan with limit := none }.statement = .ok ("SELECT " ++ rest, params) := by
    unfold ExecutionPlan.statement
    rw [compileSql]
    exact unlimited
  have isLimit : plan.clauses.limit = plan.limit := rfl
  rw [isLimit] at isSql
  constructor
  · rintro ⟨count, other, otherParams, _, isOther, isLimited⟩
    by_contra notPositive
    have isUnlimited : sql = "SELECT " ++ rest := by
      rw [isSql, limitClauses_of_not notPositive]
      simp [spaced]
    have same : "SELECT " ++ rest = "SELECT " ++ other := by
      rw [sameUnlimited] at isOther
      exact congrArg Prod.fst (Except.ok.inj isOther)
    have longer := limitedTo_length engine count other
    rw [← isLimited, isUnlimited, same] at longer
    exact lt_irrefl _ longer
  · rintro ⟨count, hasLimit, positive⟩
    refine ⟨count.toNat, rest, params, by omega, sameUnlimited, ?_⟩
    rw [isSql, hasLimit]
    exact limitClauses_of_pos positive rest

end Compiled

/-! ## The limit of a finished plan -/

section Finished

variable {unicode : Unicode} {context : SchemaContext} {intent : Intent}

theorem planClauses_limit {prepared : Prepared} {clauses : ExecutionPlan}
    {scores : List ℚ}
    (planned : planClauses unicode context intent prepared =
      .ok (clauses, scores)) :
    clauses.limit = intent.limit := by
  obtain ⟨early, steps⟩ := planClauses_steps planned
  exact steps.limit

theorem runPasses_limit {clauses finished : ExecutionPlan}
    (passed : runPasses unicode context clauses = .ok finished) :
    finished.limit = clauses.limit := by
  rw [runPasses_eq passed]
  exact reachable_limit unicode (joined unicode context clauses)

end Finished

/-- A read without an aggregation and groups is limited exactly if no table of the
intent is a star and the question asks for no limit or for a positive one. -/
theorem planQueryExecution_rowLimited_iff (unicode : Unicode)
    (context : SchemaContext) (intent : Intent) (plan : ExecutionPlan)
    (installed : DatabaseEngine → Bool) (parameterize : Bool)
    (engine : DatabaseEngine) (sql : String) (params : List Value)
    (planned : planQueryExecution unicode context intent = .ok plan)
    (based : plan.baseTable.getD "" ≠ "") (notMeasured : plan.aggregation = none)
    (notGrouped : plan.groupBy = [])
    (compiled : compileSql unicode installed parameterize engine plan.statement =
      .ok (sql, params)) :
    RowLimited unicode installed parameterize engine plan sql ↔
      "*" ∉ intent.tables ∧ ∀ count, intent.limit = some count → 0 < count := by
  rw [rowLimited_iff compiled]
  obtain ⟨prepared, isPrepared, ⟨isStar, isSafe⟩ | ⟨noStar, clauses, scores, finished,
    isClauses, passed, isBounded⟩⟩ := planQueryExecution_steps planned
  · constructor
    · rintro ⟨count, hasLimit, _⟩
      rw [isSafe] at hasLimit
      cases hasLimit
    · rintro ⟨noStar, _⟩
      exact absurd isStar noStar
  · have sameLimit : (judged unicode context intent prepared.columns scores
        finished).limit = intent.limit :=
      (runPasses_limit passed).trans (planClauses_limit isClauses)
    unfold boundUnlimitedRead at isBounded
    rw [sameLimit] at isBounded
    split at isBounded
    · rename_i exempt
      rw [isBounded] at based notMeasured notGrouped
      have hasLimit : intent.limit.isSome = true := by
        rcases exempt with hasLimit | measured | grouped | baseless
        · exact hasLimit
        · rw [notMeasured] at measured
          cases measured
        · exact absurd notGrouped grouped
        · exact absurd baseless based
      obtain ⟨count, isCount⟩ := Option.isSome_iff_exists.mp hasLimit
      rw [isBounded, sameLimit, isCount]
      constructor
      · rintro ⟨asked, isAsked, positive⟩
        refine ⟨noStar, fun other isOther => ?_⟩
        cases isAsked
        cases isOther
        exact positive
      · rintro ⟨_, positive⟩
        exact ⟨count, rfl, positive count rfl⟩
    · rename_i unlimited
      have noLimit : intent.limit = none :=
        Option.not_isSome_iff_eq_none.mp fun hasLimit => unlimited (Or.inl hasLimit)
      rw [isBounded, noLimit]
      constructor
      · intro _
        exact ⟨noStar, fun count isCount => by cases isCount⟩
      · intro _
        exact ⟨maxRows + 1, rfl, by decide⟩

/-! ### A table without a key -/

def customersOnly : SchemaContext where
  schema := [("customers", ["name"])]
  primaryKeys := []
  columnRoles := []
  graph := ∅

/-- The first customers, by whatever ranks them. -/
def topCustomers (query : String) (limit : Option ℤ) : Intent where
  originalQuery := query
  tables := ["customers"]
  select := []
  columns := []
  filters := []
  aggregation := none
  groupBy := none
  orderBy := some ⟨none, some "DESC",
    "\x7b'type': 'aggregation', 'direction': 'DESC'\x7d"⟩
  having := none
  limit := limit
  requestedGrouping := false
  queryTokens := []
  measureAmbiguity := []

/-- What decides whether a read is limited, and its statement for MySQL. -/
def customersRead (query : String) (limit : Option ℤ) :
    Option (Option String × Option Measure × List GroupColumn × Option ℤ ×
      String) :=
  match planQueryExecution ascii customersOnly (topCustomers query limit) with
  | .error _ => none
  | .ok plan =>
      match compileSql ascii (fun _ => true) true .mysql plan.statement with
      | .error _ => none
      | .ok (sql, _) => some (plan.baseTable, plan.aggregation, plan.groupBy,
          plan.limit, sql)

theorem plan_of_customersRead {query : String} {limit found : Option ℤ}
    {baseTable : Option String} {measure : Option Measure}
    {groupBy : List GroupColumn} {sql : String}
    (isRead : customersRead query limit =
      some (baseTable, measure, groupBy, found, sql)) :
    ∃ plan params,
      planQueryExecution ascii customersOnly (topCustomers query limit) =
        .ok plan ∧
      plan.baseTable = baseTable ∧ plan.aggregation = measure ∧
      plan.groupBy = groupBy ∧ plan.limit = found ∧
      compileSql ascii (fun _ => true) true .mysql plan.statement =
        .ok (sql, params) := by
  unfold customersRead at isRead
  split at isRead
  · cases isRead
  · rename_i plan isPlan
    split at isRead
    · cases isRead
    · rename_i compiled params isCompiled
      cases isRead
      exact ⟨plan, params, isPlan, rfl, rfl, rfl, rfl, isCompiled⟩

theorem planQueryExecution_limitsTopThree :
    ∃ plan,
      planQueryExecution ascii customersOnly
        (topCustomers "top 3 customers" (some 3)) = .ok plan ∧
      RowLimited ascii (fun _ => true) true .mysql plan
        "SELECT customers.name FROM customers ORDER BY customers.name DESC LIMIT 3" := by
  have isRead : customersRead "top 3 customers" (some 3) =
      some (some "customers", none, [], some 3,
        "SELECT customers.name FROM customers ORDER BY customers.name DESC LIMIT 3") := by
    decide +kernel
  obtain ⟨plan, params, isPlan, base, measure, groupBy, _, isCompiled⟩ :=
    plan_of_customersRead isRead
  refine ⟨plan, isPlan, ?_⟩
  refine (planQueryExecution_rowLimited_iff ascii customersOnly _ plan
    (fun _ => true) true .mysql _ _ isPlan (by rw [base]; decide) measure groupBy
    isCompiled).mpr ?_
  refine ⟨by decide, fun count isCount => ?_⟩
  cases isCount
  decide

/-- The limit that is asked for is none, and the whole table is read. -/
theorem planQueryExecution_readsAllCustomers :
    ∃ plan sql params,
      planQueryExecution ascii customersOnly
        (topCustomers "top 0 customers" (some 0)) = .ok plan ∧
      plan.baseTable.getD "" ≠ "" ∧ plan.aggregation = none ∧ plan.groupBy = [] ∧
      compileSql ascii (fun _ => true) true .mysql plan.statement =
        .ok (sql, params) ∧
      ¬RowLimited ascii (fun _ => true) true .mysql plan sql := by
  have isRead : customersRead "top 0 customers" (some 0) =
      some (some "customers", none, [], some 0,
        "SELECT customers.name FROM customers ORDER BY customers.name DESC") := by
    decide +kernel
  obtain ⟨plan, params, isPlan, base, measure, groupBy, limit, isCompiled⟩ :=
    plan_of_customersRead isRead
  refine ⟨plan, _, _, isPlan, by rw [base]; decide, measure, groupBy, isCompiled,
    ?_⟩
  intro limited
  obtain ⟨count, hasLimit, positive⟩ := (rowLimited_iff isCompiled).mp limited
  rw [limit] at hasLimit
  cases hasLimit
  exact absurd positive (by decide)

end DbBuddy.Planner
