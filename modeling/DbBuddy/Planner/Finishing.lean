import DbBuddy.Planner.PlanQuery

/-!
# What the last steps do to a plan

The passes over the finished plan keep its clauses, but for what stays out of reach
and for the names of columns.
-/

namespace DbBuddy.Planner

open DbBuddy.Library DbBuddy.Sql

section Finishing

variable {unicode : Unicode} {context : SchemaContext} {intent : Intent}

/-! ## The steps of a planning that succeeds -/

theorem planQueryExecution_steps {plan : ExecutionPlan}
    (planned : planQueryExecution unicode context intent = .ok plan) :
    ∃ prepared, prepare unicode context intent = .ok prepared ∧
      (("*" ∈ intent.tables ∧ plan = safePlan intent prepared) ∨
        ("*" ∉ intent.tables ∧ ∃ clauses scores finished,
          planClauses unicode context intent prepared = .ok (clauses, scores) ∧
          runPasses unicode context clauses = .ok finished ∧
          plan = boundUnlimitedRead (judged unicode context intent
            prepared.columns scores finished))) := by
  unfold planQueryExecution at planned
  split at planned
  · cases planned
  · rename_i prepared isPrepared
    refine ⟨prepared, isPrepared, ?_⟩
    split at planned
    · rename_i isStar
      cases planned
      exact Or.inl ⟨isStar, rfl⟩
    · rename_i noStar
      split at planned
      · cases planned
      · rename_i clauses scores isClauses
        split at planned
        · cases planned
        · rename_i finished isFinished
          cases planned
          exact Or.inr ⟨noStar, clauses, scores, finished, isClauses,
            isFinished, rfl⟩

/-- What a planning that succeeds makes the clauses of. -/
structure PlannedBy (unicode : Unicode) (context : SchemaContext) (intent : Intent)
    (prepared : Prepared) (clauses : ExecutionPlan) (scores : List ℚ)
    (early : Early) : Prop where
  measure : ∃ requested, requestedMeasure intent = .ok requested ∧
    clauses.aggregation =
      requested.or (rankedMeasure unicode context intent prepared.baseTable)
  planned : planEarly unicode context intent prepared clauses.aggregation = .ok early
  grouping : ∃ decided,
    planGrouping unicode context intent prepared clauses.aggregation early =
      .ok (clauses.select, decided) ∧
    overruleGrouping unicode context intent prepared decided = .ok clauses.groupBy
  baseTable : clauses.baseTable = prepared.baseTable
  joins : clauses.joins = early.joins
  filters : clauses.filters = intent.filters
  orderBy : clauses.orderBy = intent.orderBy.map
    (resolveOrdering unicode context prepared.baseTable clauses.select)
  having : clauses.having = early.having
  limit : clauses.limit = intent.limit
  confidence : clauses.confidence = 0
  ambiguities : clauses.ambiguities = []
  scores : scores = early.scores ++ lateScores intent

theorem planClauses_steps {prepared : Prepared} {clauses : ExecutionPlan}
    {scores : List ℚ}
    (planned : planClauses unicode context intent prepared = .ok (clauses, scores)) :
    ∃ early, PlannedBy unicode context intent prepared clauses scores early := by
  unfold planClauses at planned
  split at planned
  · cases planned
  · next requested isRequested =>
      dsimp only at planned
      split at planned
      · cases planned
      · next early isEarly =>
          split at planned
          · cases planned
          · next select decided isGrouped =>
              split at planned
              · cases planned
              · next groupBy isOverruled =>
                  cases planned
                  exact ⟨early, ⟨requested, isRequested, rfl⟩, isEarly,
                    ⟨decided, isGrouped, isOverruled⟩, rfl, rfl, rfl, rfl, rfl, rfl,
                    rfl, rfl, rfl⟩

/-! ## What stays out of reach -/

section Reach

variable (unicode : Unicode) (context : SchemaContext)

/-- The pass over the filters drops what has this to say about tables. -/
def Drops (plan : ExecutionPlan) (item : Item) : Prop :=
  joinScope unicode plan.view ≠ [] ∧ inReach unicode plan item = false

/-- The plan once its joins are there. -/
def joined (plan : ExecutionPlan) : ExecutionPlan :=
  reconciled unicode context (rebased unicode context plan)

end Reach

theorem reachable_filters (plan : ExecutionPlan) :
    plan.filters.length ≤ (reachable unicode plan).filters.length ↔
      ∀ filter ∈ plan.filters, ¬Drops unicode plan (filterTables filter) := by
  unfold reachable Drops
  by_cases noScope : joinScope unicode plan.view = []
  · simp [noScope]
  · simp only [noScope, if_false, ne_eq, not_false_eq_true, true_and,
      Bool.not_eq_false]
    constructor
    · intro kept
      have same : (plan.filters.filter fun filter =>
          inReach unicode plan (filterTables filter)).length =
            plan.filters.length :=
        Nat.le_antisymm (List.length_filter_le _ _) kept
      exact List.length_filter_eq_length_iff.mp same
    · intro inside
      exact (List.length_filter_eq_length_iff.mpr inside).ge

theorem reachable_having (plan : ExecutionPlan) {having : HavingItem} :
    (reachable unicode plan).having = some having ↔
      plan.having = some having ∧
        ¬Drops unicode plan (havingTables having) := by
  unfold reachable Drops
  by_cases noScope : joinScope unicode plan.view = []
  · simp [noScope]
  · simp [noScope, Option.filter_eq_some_iff]

theorem reachable_orderBy (plan : ExecutionPlan) {order : OrderColumn} :
    (reachable unicode plan).orderBy = some order ↔
      plan.orderBy = some order ∧ ¬Drops unicode plan (orderTables order) := by
  unfold reachable Drops
  by_cases noScope : joinScope unicode plan.view = []
  · simp [noScope]
  · simp [noScope, Option.filter_eq_some_iff]

theorem reachable_groupBy (unicode : Unicode) (plan : ExecutionPlan) :
    (reachable unicode plan).groupBy = plan.groupBy := by
  unfold reachable
  split
  · rfl
  · rfl

theorem reachable_aggregation (unicode : Unicode) (plan : ExecutionPlan) :
    (reachable unicode plan).aggregation = plan.aggregation := by
  unfold reachable
  split
  · rfl
  · rfl

theorem reachable_select (unicode : Unicode) (plan : ExecutionPlan) :
    (reachable unicode plan).select = plan.select := by
  unfold reachable
  split
  · rfl
  · rfl

theorem reachable_limit (unicode : Unicode) (plan : ExecutionPlan) :
    (reachable unicode plan).limit = plan.limit := by
  unfold reachable
  split
  · rfl
  · rfl

/-- The bound is all that is added to a plan in the end. -/
theorem boundUnlimitedRead_eq (plan : ExecutionPlan) : ∃ limit guardrail,
    boundUnlimitedRead plan =
      { plan with limit := limit, limitIsGuardrail := guardrail } := by
  unfold boundUnlimitedRead
  split
  · exact ⟨plan.limit, plan.limitIsGuardrail, rfl⟩
  · exact ⟨some (maxRows + 1), true, rfl⟩

/-! ## What is repaired -/

/-- Without a schema there is nothing to repair. -/
theorem repaired_nil (table : Option String) (column : String) :
    repaired unicode [] table column = column := by
  have keeps : repairReference unicode [] table column = .keep := by
    unfold repairReference
    split
    · rfl
    · split
      · rfl
      · split
        · rfl
        · split
          · rfl
          · rfl
  rw [repaired, keeps]
  rfl

theorem repairPlan_nil (plan : ExecutionPlan) :
    repairPlan unicode [] plan = plan := by
  cases plan
  simp [repairPlan, repaired_nil]

/-- A plan that is not refused has all its references repaired. -/
theorem assertColumnsExist_eq {schema : List (String × List String)}
    {plan finished : ExecutionPlan}
    (passed : assertColumnsExist unicode schema plan = .ok finished) :
    finished = repairPlan unicode schema plan := by
  unfold assertColumnsExist at passed
  split at passed
  · rename_i noSchema
    cases passed
    rw [noSchema, repairPlan_nil]
  · dsimp only at passed
    split at passed
    · cases passed
      rfl
    · cases passed

/-- What the passes make of the clauses. -/
theorem runPasses_eq {plan finished : ExecutionPlan}
    (passed : runPasses unicode context plan = .ok finished) :
    finished = pruned unicode (repairPlan unicode context.schema
      (reachable unicode (joined unicode context plan))) := by
  unfold runPasses at passed
  split at passed
  · cases passed
  · rename_i repairedPlan isRepaired
    cases passed
    rw [assertColumnsExist_eq isRepaired]
    rfl

end Finishing

end DbBuddy.Planner
