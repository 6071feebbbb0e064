import DbBuddy.Planner.Questions

/-!
# Aggregates and what stands beside them

The grouping decision rebuilds the SELECT list from the columns it groups by, and
HAVING and the ordering are read off the same measure.  A star that is selected
counts as a dimension, and the ordering is repaired as a text.
-/

namespace DbBuddy.Planner

open DbBuddy.Library DbBuddy.Sql

/-! ## Consistent plans -/

/-- Neither the star nor a column without a name. -/
def RealColumn (column : String) : Prop :=
  column ≠ "*" ∧ column ≠ ""

/-- A text names a column of a table. -/
def NamesColumn (text table column : String) : Prop :=
  text = column ∨ text = table ++ "." ++ column

/-- Some item is aggregated, or the plan groups. -/
def Aggregates (plan : ExecutionPlan) : Prop :=
  (∃ item ∈ plan.select, item.aggregation ≠ "") ∨ plan.groupBy ≠ []

/-- What is selected beside a measure is grouped by; HAVING compares the measure,
and the ordering is by the measure or by a group. -/
structure Consistent (plan : ExecutionPlan) : Prop where
  columns : ∀ item ∈ plan.select, item.aggregation = "" →
    RealColumn item.column ∧
      ∃ group ∈ plan.groupBy,
        group.table = item.table ∧ group.column = item.column
  having : ∀ having, plan.having = some having →
    ∃ item ∈ plan.select, item.aggregation ≠ "" ∧
      having.aggregation = item.aggregation ∧ having.table = item.table ∧
      having.column = item.column
  orderBy : ∀ order, plan.orderBy = some order →
    (∃ item ∈ plan.select, item.aggregation ≠ "" ∧
      order.column = measureText item.aggregation item.table item.column) ∨
    ∃ group ∈ plan.groupBy, NamesColumn order.column group.table group.column

/-- An aggregate plan is consistent. -/
def GroupConsistent (plan : ExecutionPlan) : Prop :=
  Aggregates plan → Consistent plan

/-- `validate_intent`: no table is a star, and an aggregation has a function. -/
structure PassesValidation (intent : Intent) : Prop where
  tables : "*" ∉ intent.tables
  function : ∀ request, intent.aggregation = some request →
    request.function ≠ ""

section Condition

variable (unicode : Unicode) (context : SchemaContext)

/-- The ordering by a measure names, once repaired, the repaired measure or a
group; or it is dropped. -/
def OrdersSoundly (clauses : ExecutionPlan) (measure : Measure)
    (order : OrderColumn) : Prop :=
  Drops unicode (joined unicode context clauses) (orderTables order) ∨
  repaired unicode context.schema none order.column =
    measureText measure.function measure.table
      (repaired unicode context.schema (some measure.table) measure.column) ∨
  ∃ group ∈ clauses.groupBy,
    NamesColumn (repaired unicode context.schema none order.column) group.table
      (repaired unicode context.schema (some group.table) group.column)

/-- The columns that the question is grouped by: the selected dimensions, or the
label of the base table. -/
def chosenGroups (intent : Intent) (prepared : Prepared) : List GroupColumn :=
  let signals := signalsOf unicode intent
  let dimensions := splitDimensions
    (intent.aggregation.bind MeasureRequest.column) prepared.select
  if signals.pure then []
  else ofFirstTable (groupingColumns context prepared.baseTable signals.signal
    (rankingDimensions context prepared.baseTable signals.ranking dimensions))

/-- The columns an aggregation is grouped by are real ones, and its ordering is
sound. -/
def GroupsSoundly (intent : Intent) : Prop :=
  ∀ prepared clauses scores measure,
    prepare unicode context intent = .ok prepared →
    planClauses unicode context intent prepared = .ok (clauses, scores) →
    clauses.aggregation = some measure →
    (∀ group ∈ chosenGroups unicode context intent prepared,
      RealColumn (repaired unicode context.schema (some group.table)
        group.column)) ∧
    ∀ order, clauses.orderBy = some order →
      OrdersSoundly unicode context clauses measure order

end Condition

section Shape

variable {unicode : Unicode} {context : SchemaContext} {intent : Intent}

/-! ## The clauses of an aggregation -/

/-- The SELECT list is made of the chosen groups and the measure; all other groups
are hidden. -/
structure MeasuredBy (unicode : Unicode) (clauses : ExecutionPlan)
    (chosen : List GroupColumn) (measure : Measure) : Prop where
  shown : clauses.groupBy.filter (fun group => !group.hidden) = chosen
  select : clauses.select =
    chosen.map (fun group => columnItem group.table group.column) ++
      [measureItem unicode measure]
  having : ∀ having, clauses.having = some having →
    having.aggregation = measure.function ∧ having.table = measure.table ∧
      having.column = measure.column
  orderBy : ∀ order, clauses.orderBy = some order →
    order.column = measureText measure.function measure.table measure.column
  function : measure.function ≠ ""

/-- Without a measure nothing is aggregated. -/
structure Unmeasured (clauses : ExecutionPlan) : Prop where
  select : ∀ item ∈ clauses.select, item.aggregation = ""
  groupBy : clauses.groupBy = []

theorem groupingColumns_shown {base : Option String} {signal : Bool}
    {dimensions : List IntentColumn} :
    ∀ group ∈ groupingColumns context base signal dimensions,
      group.hidden = false := by
  intro group isGroup
  unfold groupingColumns at isGroup
  dsimp only at isGroup
  split at isGroup
  · split at isGroup
    · obtain ⟨column, _, rfl⟩ := List.mem_map.mp isGroup
      rfl
    · split at isGroup
      · obtain ⟨label, _, rfl⟩ := List.mem_map.mp isGroup
        rfl
      · cases isGroup
  · obtain ⟨column, _, rfl⟩ := List.mem_map.mp isGroup
    rfl

theorem hiddenKeys_hidden {groups : List GroupColumn} :
    ∀ group ∈ hiddenKeys unicode context groups, group.hidden = true := by
  intro group isGroup
  obtain ⟨table, _, isKey⟩ := List.mem_filterMap.mp isGroup
  obtain ⟨anchor, _, isKey⟩ := Option.bind_eq_some_iff.mp isKey
  split at isKey
  · cases isKey
  · cases isKey
    rfl

/-- The hidden keys aside, the groups are those of the first one's table. -/
theorem ofFirstTable_shown {groups keys : List GroupColumn}
    (shown : ∀ group ∈ groups, group.hidden = false)
    (hidden : ∀ group ∈ keys, group.hidden = true)
    (noKeys : groups = [] → keys = []) :
    (ofFirstTable (groups ++ keys)).filter (fun group => !group.hidden) =
      ofFirstTable groups := by
  cases groups with
  | nil =>
      rw [noKeys rfl]
      rfl
  | cons first rest =>
      have allShown : (first :: rest).filter (fun group => !group.hidden) =
          first :: rest := by
        refine List.filter_eq_self.mpr ?_
        intro group isGroup
        simp [shown group isGroup]
      have noneShown : keys.filter (fun group => !group.hidden) = [] := by
        refine List.filter_eq_nil_iff.mpr ?_
        intro group isKey
        simp [hidden group isKey]
      simp only [List.cons_append, ofFirstTable]
      split
      · rw [← List.cons_append, List.filter_append, allShown, noneShown,
          List.append_nil]
      · rw [← List.cons_append, List.filter_filter]
        simp only [Bool.and_comm (!_)]
        rw [← List.filter_filter, List.filter_append, allShown, noneShown,
          List.append_nil]

theorem shownGroups_eq (unicode : Unicode) (context : SchemaContext)
    (base : Option String) (signal : Bool) (dimensions : List IntentColumn) :
    let groups := groupingColumns context base signal dimensions
    (ofFirstTable (groups ++ hiddenKeys unicode context groups)).filter
        (fun group => !group.hidden) = ofFirstTable groups := by
  refine ofFirstTable_shown groupingColumns_shown hiddenKeys_hidden ?_
  intro noGroups
  rw [noGroups]
  rfl

theorem measure_function {question : Question} {measure : Measure}
    (valid : PassesValidation question.intent)
    (isMeasure : question.measure = some measure) : measure.function ≠ "" := by
  rcases Option.or_eq_some_iff.mp isMeasure with isAsked | ⟨_, isRanked⟩
  · obtain ⟨request, isAggregation, isRequest⟩ := Option.bind_eq_some_iff.mp isAsked
    obtain ⟨column, _, rfl⟩ := Option.map_eq_some_iff.mp isRequest
    exact valid.function request isAggregation
  · unfold rankedMeasure at isRanked
    split at isRanked
    · split at isRanked
      · cases isRanked
      · obtain ⟨anchor, _, rfl⟩ := Option.map_eq_some_iff.mp isRanked
        have isNamed : "COUNT" ≠ "" := by decide
        exact isNamed
    · cases isRanked

theorem rows_plain {question : Question} :
    ∀ item ∈ question.rows, item.aggregation = "" := by
  intro item isItem
  unfold Question.rows at isItem
  split at isItem
  · obtain ⟨column, _, rfl⟩ := List.mem_map.mp isItem
    rfl
  · split at isItem
    · obtain ⟨column, _, rfl⟩ := List.mem_map.mp isItem
      rfl
    · rw [List.mem_singleton.mp isItem]

/-- The ordering of an aggregation is by its measure. -/
theorem resolveOrdering_measure {base : Option String} {measure : Measure}
    {groups : List GroupColumn} (request : OrderRequest)
    (hasFunction : measure.function ≠ "") :
    resolveOrdering unicode context base
        (groups.map (fun group => columnItem group.table group.column) ++
          [measureItem unicode measure]) request =
      ⟨"", measureText measure.function measure.table measure.column,
        request.direction.getD "DESC"⟩ := by
  have found : (groups.map (fun group => columnItem group.table group.column) ++
      [measureItem unicode measure]).find?
        (fun item => decide (item.aggregation ≠ "")) =
      some (measureItem unicode measure) := by
    rw [List.find?_append]
    have noneBefore : (groups.map
        (fun group => columnItem group.table group.column)).find?
          (fun item => decide (item.aggregation ≠ "")) = none := by
      simp [columnItem]
    rw [noneBefore]
    simp [measureItem, hasFunction]
  unfold resolveOrdering
  rw [found]
  rfl

/-- The clauses of an intent that names no groups, with a measure or without. -/
theorem planClauses_shape {prepared : Prepared} {clauses : ExecutionPlan}
    {scores : List ℚ} (valid : PassesValidation intent)
    (noGroups : intent.groupBy = none)
    (isPrepared : prepare unicode context intent = .ok prepared)
    (planned : planClauses unicode context intent prepared =
      .ok (clauses, scores)) :
    (clauses.aggregation = none ∧ Unmeasured clauses) ∨
      ∃ measure, clauses.aggregation = some measure ∧
        MeasuredBy unicode clauses
          (chosenGroups unicode context intent prepared) measure := by
  let question : Question := ⟨unicode, context, intent⟩
  have isQuestion : prepared = ⟨question.base, question.columns, question.named⟩ :=
    Question.prepare_eq isPrepared
  rw [isQuestion] at planned ⊢
  have follows : question.Follows clauses scores := Question.planClauses_follows planned
  have grouped : question.intent.groupBy = none := noGroups
  cases isMeasure : question.measure with
  | none =>
      refine Or.inl ⟨follows.aggregation.trans isMeasure, ?_, ?_⟩
      · rw [follows.select, Question.select, isMeasure]
        exact rows_plain
      · rw [follows.groupBy, Question.groupBy, grouped, isMeasure]
  | some measure =>
      have named := measure_function valid isMeasure
      have shown : question.dimensions.filter (fun group => !group.hidden) =
          chosenGroups unicode context intent
            ⟨question.base, question.columns, question.named⟩ := by
        unfold Question.dimensions chosenGroups
        rw [grouped]
        dsimp only
        split
        · rfl
        · exact shownGroups_eq _ _ _ _ _
      have select := follows.select
      rw [Question.select, isMeasure] at select
      refine Or.inr ⟨measure, follows.aggregation.trans isMeasure, ?_, ?_, ?_, ?_, named⟩
      · rw [follows.groupBy, Question.groupBy, grouped, isMeasure]
        exact shown
      · rw [select, shown]
      · intro having isHaving
        rw [follows.having, Question.having, isMeasure] at isHaving
        unfold plannedHaving at isHaving
        split at isHaving
        · next isAsked isSome =>
            cases isSome
            cases isHaving
            exact ⟨rfl, rfl, rfl⟩
        · cases isHaving
      · intro order isOrder
        rw [follows.orderBy, Question.orderBy, Option.map_eq_some_iff] at isOrder
        obtain ⟨request, _, rfl⟩ := isOrder
        rw [← follows.select, select, resolveOrdering_measure request named]

/-! ## The finished plan -/

/-- The clauses as they are repaired, with what is kept of HAVING and the
ordering. -/
structure RepairedFrom (unicode : Unicode) (context : SchemaContext)
    (clauses finished : ExecutionPlan) : Prop where
  select : finished.select = clauses.select.map fun item => { item with
    column := repaired unicode context.schema (some item.table) item.column }
  groupBy : finished.groupBy = clauses.groupBy.map fun group => { group with
    column := repaired unicode context.schema (some group.table) group.column }
  having : ∀ having, finished.having = some having → ∃ planned,
    clauses.having = some planned ∧ having.aggregation = planned.aggregation ∧
    having.table = planned.table ∧
    having.column = repaired unicode context.schema (some planned.table)
      planned.column
  orderBy : ∀ column, (∃ order, finished.orderBy = some order ∧
      order.column = column) ↔
    ∃ planned, clauses.orderBy = some planned ∧
      ¬Drops unicode (joined unicode context clauses) (orderTables planned) ∧
      repaired unicode context.schema none planned.column = column

theorem runPasses_repaired {clauses finished : ExecutionPlan}
    (passed : runPasses unicode context clauses = .ok finished) :
    RepairedFrom unicode context clauses finished := by
  rw [runPasses_eq passed]
  refine ⟨?_, ?_, ?_, ?_⟩
  · simp only [pruned, repairPlan, reachable_select]
    rfl
  · simp only [pruned, repairPlan, reachable_groupBy]
    rfl
  · intro having isHaving
    simp only [pruned, repairPlan, Option.map_eq_some_iff] at isHaving
    obtain ⟨planned, isKept, rfl⟩ := isHaving
    exact ⟨planned, ((reachable_having _).mp isKept).1, rfl, rfl, rfl⟩
  · intro column
    simp only [pruned, repairPlan, Option.map_eq_some_iff]
    constructor
    · rintro ⟨_, ⟨planned, isKept, rfl⟩, isColumn⟩
      have reached := (reachable_orderBy _).mp isKept
      exact ⟨planned, reached.1, reached.2, isColumn⟩
    · rintro ⟨planned, isPlanned, inside, isColumn⟩
      have isKept := (reachable_orderBy (joined unicode context clauses)).mpr
        ⟨isPlanned, inside⟩
      exact ⟨_, ⟨planned, isKept, rfl⟩, isColumn⟩

/-- A plan without a measure aggregates nothing. -/
theorem not_aggregates {clauses finished : ExecutionPlan}
    (repairs : RepairedFrom unicode context clauses finished)
    (unmeasured : Unmeasured clauses) : ¬Aggregates finished := by
  rintro (⟨item, isItem, isAggregated⟩ | grouped)
  · rw [repairs.select] at isItem
    obtain ⟨planned, isPlanned, rfl⟩ := List.mem_map.mp isItem
    exact isAggregated (unmeasured.select planned isPlanned)
  · rw [repairs.groupBy, unmeasured.groupBy] at grouped
    exact grouped rfl

/-- What is selected: the groups that are not hidden, and the measure. -/
theorem mem_select {clauses finished : ExecutionPlan} {measure : Measure}
    {chosen : List GroupColumn} {item : SelectItem}
    (repairs : RepairedFrom unicode context clauses finished)
    (measured : MeasuredBy unicode clauses chosen measure) :
    item ∈ finished.select ↔
      (∃ group ∈ chosen,
        item = { columnItem group.table group.column with
          column := repaired unicode context.schema (some group.table)
            group.column }) ∨
      item = { measureItem unicode measure with
        column := repaired unicode context.schema (some measure.table)
          measure.column } := by
  rw [repairs.select, measured.select]
  simp only [List.map_append, List.map_map, List.mem_append, List.mem_map,
    List.map_cons, List.map_nil, List.mem_singleton]
  constructor
  · rintro (⟨group, isGroup, rfl⟩ | isMeasure)
    · exact Or.inl ⟨group, isGroup, rfl⟩
    · exact Or.inr isMeasure
  · rintro (⟨group, isGroup, rfl⟩ | isMeasure)
    · exact Or.inl ⟨group, isGroup, rfl⟩
    · exact Or.inr isMeasure

/-- The chosen groups are grouped by. -/
theorem MeasuredBy.chosen_subset {clauses : ExecutionPlan} {measure : Measure}
    {chosen : List GroupColumn}
    (measured : MeasuredBy unicode clauses chosen measure) :
    ∀ group ∈ chosen, group ∈ clauses.groupBy := by
  intro group isChosen
  rw [← measured.shown] at isChosen
  exact (List.mem_filter.mp isChosen).1

/-- The only aggregated item is the measure. -/
theorem aggregated_iff {clauses finished : ExecutionPlan} {measure : Measure}
    {chosen : List GroupColumn} {item : SelectItem}
    (repairs : RepairedFrom unicode context clauses finished)
    (measured : MeasuredBy unicode clauses chosen measure) :
    (item ∈ finished.select ∧ item.aggregation ≠ "") ↔
      item = { measureItem unicode measure with
        column := repaired unicode context.schema (some measure.table)
          measure.column } := by
  rw [mem_select repairs measured]
  constructor
  · rintro ⟨⟨group, _, rfl⟩ | isMeasure, isAggregated⟩
    · exact absurd rfl isAggregated
    · exact isMeasure
  · rintro rfl
    exact ⟨Or.inr rfl, measured.function⟩

/-- The plan of a measure is consistent exactly if it groups by real columns and
its ordering is sound. -/
theorem consistent_iff {clauses finished : ExecutionPlan} {measure : Measure}
    {chosen : List GroupColumn}
    (repairs : RepairedFrom unicode context clauses finished)
    (measured : MeasuredBy unicode clauses chosen measure) :
    Consistent finished ↔
      (∀ group ∈ chosen,
        RealColumn (repaired unicode context.schema (some group.table)
          group.column)) ∧
      ∀ order, clauses.orderBy = some order →
        OrdersSoundly unicode context clauses measure order := by
  have isMeasured : ∀ item : SelectItem, item ∈ finished.select →
      item.aggregation ≠ "" → item = { measureItem unicode measure with
        column := repaired unicode context.schema (some measure.table)
          measure.column } := by
    intro item isItem isAggregated
    exact (aggregated_iff repairs measured).mp ⟨isItem, isAggregated⟩
  have theMeasure := (aggregated_iff repairs measured).mpr rfl
  constructor
  · intro consistent
    constructor
    · intro group isChosen
      have isItem := (mem_select repairs measured).mpr
        (Or.inl ⟨group, isChosen, rfl⟩)
      exact (consistent.columns _ isItem rfl).1
    · intro planned isPlanned
      by_cases dropped :
          Drops unicode (joined unicode context clauses) (orderTables planned)
      · exact Or.inl dropped
      · refine Or.inr ?_
        obtain ⟨order, isOrder, isColumn⟩ := (repairs.orderBy _).mpr
          ⟨planned, isPlanned, dropped, rfl⟩
        rcases consistent.orderBy order isOrder with
          ⟨item, isItem, isAggregated, same⟩ | ⟨group, isGroup, names⟩
        · refine Or.inl ?_
          rw [← isColumn, same, isMeasured item isItem isAggregated]
          rfl
        · refine Or.inr ?_
          rw [repairs.groupBy] at isGroup
          obtain ⟨chosen, isChosen, rfl⟩ := List.mem_map.mp isGroup
          exact ⟨chosen, isChosen, isColumn ▸ names⟩
  · rintro ⟨real, ordered⟩
    refine ⟨?_, ?_, ?_⟩
    · intro item isItem notAggregated
      rcases (mem_select repairs measured).mp isItem with
        ⟨group, isChosen, rfl⟩ | rfl
      · refine ⟨real group isChosen, ?_⟩
        have isGroup := measured.chosen_subset group isChosen
        rw [repairs.groupBy]
        exact ⟨_, List.mem_map.mpr ⟨group, isGroup, rfl⟩, rfl, rfl⟩
      · exact absurd notAggregated measured.function
    · intro having isHaving
      obtain ⟨planned, isPlanned, sameFunction, sameTable, sameColumn⟩ :=
        repairs.having having isHaving
      obtain ⟨function, table, column⟩ := measured.having planned isPlanned
      refine ⟨_, theMeasure.1, theMeasure.2, ?_, ?_, ?_⟩
      · rw [sameFunction, function]
        rfl
      · rw [sameTable, table]
        rfl
      · rw [sameColumn, table, column]
    · intro order isOrder
      obtain ⟨planned, isPlanned, inside, isColumn⟩ :=
        (repairs.orderBy order.column).mp ⟨order, isOrder, rfl⟩
      rcases ordered planned isPlanned with
        dropped | same | ⟨group, isGroup, names⟩
      · exact absurd dropped inside
      · refine Or.inl ⟨_, theMeasure.1, theMeasure.2, ?_⟩
        rw [← isColumn, same]
        rfl
      · refine Or.inr ?_
        rw [repairs.groupBy]
        exact ⟨_, List.mem_map.mpr ⟨group, isGroup, rfl⟩, isColumn ▸ names⟩

/-- What is judged and bounded afterwards are no clauses. -/
theorem groupConsistent_bounded (columns : List IntentColumn) (scores : List ℚ)
    (plan : ExecutionPlan) :
    GroupConsistent (boundUnlimitedRead
        (judged unicode context intent columns scores plan)) ↔
      GroupConsistent plan := by
  have same : ∀ other : ExecutionPlan, other.select = plan.select →
      other.groupBy = plan.groupBy → other.having = plan.having →
      other.orderBy = plan.orderBy →
      (GroupConsistent other ↔ GroupConsistent plan) := by
    intro other select groupBy having orderBy
    have aggregates : Aggregates other ↔ Aggregates plan := by
      rw [Aggregates, Aggregates, select, groupBy]
    have consistent : Consistent other ↔ Consistent plan := by
      constructor
      · rintro ⟨columns, compares, orders⟩
        rw [select, groupBy] at columns
        rw [having, select] at compares
        rw [orderBy, select, groupBy] at orders
        exact ⟨columns, compares, orders⟩
      · rintro ⟨columns, compares, orders⟩
        rw [← select, ← groupBy] at columns
        rw [← having, ← select] at compares
        rw [← orderBy, ← select, ← groupBy] at orders
        exact ⟨columns, compares, orders⟩
    unfold GroupConsistent
    rw [aggregates, consistent]
  obtain ⟨limit, guardrail, isBounded⟩ :=
    boundUnlimitedRead_eq (judged unicode context intent columns scores plan)
  rw [isBounded]
  exact same _ rfl rfl rfl rfl

end Shape

/-- Aggregates are selected beside what they are grouped by, compared and ordered
by, exactly if the columns they are grouped by are real and the ordering's text is
repaired as the measure is. -/
theorem planQueryExecution_groupConsistent_iff (unicode : Unicode)
    (context : SchemaContext) (intent : Intent) (plan : ExecutionPlan)
    (valid : PassesValidation intent) (noGroups : intent.groupBy = none)
    (planned : planQueryExecution unicode context intent = .ok plan) :
    GroupConsistent plan ↔ GroupsSoundly unicode context intent := by
  obtain ⟨prepared, isPrepared, ⟨isStar, _⟩ | ⟨_, clauses, scores, finished,
    isClauses, passed, rfl⟩⟩ := planQueryExecution_steps planned
  · exact absurd isStar valid.tables
  · have repairs := runPasses_repaired passed
    rw [groupConsistent_bounded]
    rcases planClauses_shape valid noGroups isPrepared isClauses with
      ⟨noMeasure, unmeasured⟩ | ⟨measure, isMeasure, measured⟩
    · constructor
      · intro _ prepared' clauses' scores' measure isPrepared' isClauses'
          isMeasure
        cases isPrepared.symm.trans isPrepared'
        cases isClauses.symm.trans isClauses'
        rw [noMeasure] at isMeasure
        cases isMeasure
      · intro _ aggregates
        exact absurd aggregates (not_aggregates repairs unmeasured)
    · have decided := consistent_iff repairs measured
      have theMeasure := (aggregated_iff repairs measured).mpr rfl
      constructor
      · intro consistent prepared' clauses' scores' measure' isPrepared'
          isClauses' isMeasure'
        cases isPrepared.symm.trans isPrepared'
        cases isClauses.symm.trans isClauses'
        cases isMeasure.symm.trans isMeasure'
        exact decided.mp (consistent
          (Or.inl ⟨_, theMeasure.1, theMeasure.2⟩))
      · intro sound _
        exact decided.mpr (sound prepared clauses scores measure isPrepared
          isClauses isMeasure)

/-! ### Showing all orders, ranked -/

/-- One table with a key. -/
def ordersOnly : SchemaContext where
  schema := [("orders", ["id", "status"])]
  primaryKeys := [("orders", ["id"])]
  columnRoles := []
  graph := ∅

/-- A ranking of what is selected. -/
def rankedOrders (query : String) (select : List ColumnSpec) : Intent where
  originalQuery := query
  tables := ["orders"]
  select := select
  columns := []
  filters := []
  aggregation := none
  groupBy := none
  orderBy := some ⟨none, some "DESC",
    "\x7b'type': 'aggregation', 'direction': 'DESC'\x7d"⟩
  having := none
  limit := some 5
  requestedGrouping := false
  queryTokens := []
  measureAmbiguity := []

theorem rankedOrders_valid (query : String) (select : List ColumnSpec) :
    PassesValidation (rankedOrders query select) := by
  refine ⟨by simp [rankedOrders], ?_⟩
  intro request isRequest
  cases isRequest

/-- The clauses that have to agree. -/
def rankedClauses (query : String) (select : List ColumnSpec) :
    Option (List SelectItem × List GroupColumn × Option HavingItem ×
      Option OrderColumn) :=
  match planQueryExecution ascii ordersOnly (rankedOrders query select) with
  | .error _ => none
  | .ok plan => some (plan.select, plan.groupBy, plan.having, plan.orderBy)

theorem plan_of_rankedClauses {query : String} {columns : List ColumnSpec}
    {select : List SelectItem} {groupBy : List GroupColumn}
    {having : Option HavingItem} {orderBy : Option OrderColumn}
    (planned : rankedClauses query columns =
      some (select, groupBy, having, orderBy)) :
    ∃ plan,
      planQueryExecution ascii ordersOnly (rankedOrders query columns) =
        .ok plan ∧
      plan.select = select ∧ plan.groupBy = groupBy ∧
      plan.having = having ∧ plan.orderBy = orderBy := by
  unfold rankedClauses at planned
  split at planned
  · cases planned
  · rename_i plan isPlan
    cases planned
    exact ⟨plan, isPlan, rfl, rfl, rfl, rfl⟩

def countedOrders : SelectItem :=
  ⟨"orders", "id", "count_id", "COUNT"⟩

/-- The question lists everything, so the star is selected, and counted as a
dimension: the plan groups by it. -/
theorem planQueryExecution_groupsByStar :
    PassesValidation (rankedOrders "show all top 5 orders" []) ∧
    ∃ plan,
      planQueryExecution ascii ordersOnly
        (rankedOrders "show all top 5 orders" []) = .ok plan ∧
      ¬GroupConsistent plan := by
  have planned : rankedClauses "show all top 5 orders" [] =
      some ([columnItem "orders" "*", countedOrders],
        [⟨"orders", "*", false, "structural"⟩], none,
        some ⟨"", "COUNT(orders.id)", "DESC"⟩) := by
    decide +kernel
  obtain ⟨plan, isPlan, select, groupBy, _⟩ := plan_of_rankedClauses planned
  refine ⟨rankedOrders_valid _ _, plan, isPlan, ?_⟩
  intro consistent
  have aggregates : Aggregates plan := by
    refine Or.inr ?_
    rw [groupBy]
    exact List.cons_ne_nil _ _
  have isSelected : columnItem "orders" "*" ∈ plan.select := by
    rw [select]
    exact List.mem_cons_self
  have real := ((consistent aggregates).columns _ isSelected rfl).1
  exact real.1 rfl

/-- The status of the orders may be ranked by. -/
theorem planQueryExecution_groupsByStatus :
    GroupsSoundly ascii ordersOnly (rankedOrders "orders by status"
      [.dict (some "orders") (some "status") none none]) := by
  have planned : rankedClauses "orders by status"
      [.dict (some "orders") (some "status") none none] =
      some ([columnItem "orders" "status", countedOrders],
        [⟨"orders", "status", false, "semantic"⟩], none,
        some ⟨"", "COUNT(orders.id)", "DESC"⟩) := by
    decide
  obtain ⟨plan, isPlan, select, groupBy, having, orderBy⟩ :=
    plan_of_rankedClauses planned
  refine (planQueryExecution_groupConsistent_iff ascii ordersOnly _ plan
    (rankedOrders_valid _ _) rfl isPlan).mp ?_
  intro _
  refine ⟨?_, ?_, ?_⟩
  · rw [select, groupBy]
    intro item isItem notAggregated
    rcases List.mem_cons.mp isItem with rfl | isLater
    · exact ⟨⟨by decide, by decide⟩, _, List.mem_cons_self, rfl, rfl⟩
    · rw [List.mem_singleton.mp isLater] at notAggregated
      exact absurd notAggregated (by decide)
  · intro found isFound
    rw [having] at isFound
    cases isFound
  · intro order isOrder
    rw [orderBy] at isOrder
    cases isOrder
    refine Or.inl ⟨countedOrders, ?_, by decide, by decide⟩
    rw [select]
    exact List.mem_cons_of_mem _ List.mem_cons_self

end DbBuddy.Planner
