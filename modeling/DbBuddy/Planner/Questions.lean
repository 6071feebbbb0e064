import DbBuddy.Planner.JoinReach

/-!
# What a question asks for

The clauses of a plan are read off the intent, the schema and the graph: the base table,
the columns, the measure and its dimensions, and the tables that joins are looked for.
-/

namespace DbBuddy.Planner

open DbBuddy.Library DbBuddy.Sql

/-- What the question has to say about grouping. -/
def signalsOf (unicode : Unicode) (intent : Intent) : GroupingSignals where
  signal := hasGroupingSignal unicode intent.originalQuery
  having := intent.having.isSome
  ranking := intent.orderBy.isSome

/-- A question, and what is known of the database. -/
structure Question where
  unicode : Unicode
  context : SchemaContext
  intent : Intent

namespace Question

variable (question : Question)

/-! ## The clauses -/

/-- The table that the question is about. -/
def base : Option String :=
  chooseBaseTable question.context.graph question.intent.tables

/-- The columns that are asked for, or those that stand in for them. -/
def columns : List IntentColumn :=
  normalizeColumnStructure question.base
    ((applySelectFallback question.unicode question.context
      question.intent).toOption.getD [])

/-- The columns that the intent names itself. -/
def named : List IntentColumn :=
  normalizeColumnStructure question.base question.intent.columns

/-- What is measured: what is asked for, or for a ranking the rows of the base table. -/
def measure : Option Measure :=
  (question.intent.aggregation.bind fun request => request.column.map fun column =>
    ⟨request.function, column.1, column.2⟩).or
      (rankedMeasure question.unicode question.context question.intent question.base)

/-- What is selected if nothing is measured: the columns that are asked for, or all of
the base table. -/
def rows : List SelectItem :=
  if question.columns ≠ [] then
    question.columns.map fun column => columnItem column.table column.column
  else if question.base.getD "" ≠ "" then
    (question.context.columns (question.base.getD "")).map
      (columnItem (question.base.getD ""))
  else [⟨question.base.getD "", "*", "", ""⟩]

/-- The columns that a measure is grouped by, hidden keys included. -/
def dimensions : List GroupColumn :=
  let signals := signalsOf question.unicode question.intent
  let columns := splitDimensions
    (question.intent.aggregation.bind MeasureRequest.column) question.columns
  if signals.pure then []
  else
    let groups :=
      match question.intent.groupBy with
      | some (.columns columns) =>
          columns.map fun column => ⟨column.1, column.2, false, "semantic"⟩
      | _ =>
          groupingColumns question.context question.base signals.signal
            (rankingDimensions question.context question.base signals.ranking columns)
    ofFirstTable (groups ++ hiddenKeys question.unicode question.context groups)

def select : List SelectItem :=
  match question.measure with
  | none => question.rows
  | some measure =>
      ((question.dimensions.filter fun group => !group.hidden).map fun group =>
        columnItem group.table group.column) ++ [measureItem question.unicode measure]

/-- The columns that are grouped by: one of the base table if a grouping is asked for,
else the dimensions of the measure. -/
def groupBy : List GroupColumn :=
  match question.intent.groupBy, question.measure with
  | some _, _ =>
      (resolveGroupingAnchor question.unicode question.context
        question.base).toOption.getD []
  | none, some _ => question.dimensions
  | none, none => []

def orderBy : Option OrderColumn :=
  question.intent.orderBy.map
    (resolveOrdering question.unicode question.context question.base question.select)

def having : Option HavingItem :=
  plannedHaving question.measure question.intent.having

/-! ## The tables that joins are looked for -/

/-- What is selected before the grouping is decided. -/
def earlySelection : List SelectItem :=
  match question.measure with
  | none => question.rows
  | some measure => [measureItem question.unicode measure]

/-- What an ordering says about tables before the grouping is decided. -/
def earlyOrdering (measure : Option Measure) (request : OrderRequest) : Item :=
  match measure with
  | none => ⟨some "", some (request.column.getD "")⟩
  | some measure => ⟨some measure.table, some measure.column⟩

/-- What the clauses say about tables before the grouping is decided. -/
def early : Plan where
  baseTable := question.base
  joins := []
  select := question.earlySelection.map selectTables
  columns := []
  filters := []
  groupBy := []
  orderBy := question.intent.orderBy.toList.map (earlyOrdering question.measure)
  having := question.having.toList.map havingTables
  confidence := 0
  ambiguities := []

/-- What the clauses say about tables in the end. -/
def clauses : Plan where
  baseTable := question.base
  joins := []
  select := question.select.map selectTables
  columns := []
  filters := question.intent.filters.map filterTables
  groupBy := question.groupBy.map groupTables
  orderBy := question.orderBy.toList.map orderTables
  having := question.having.toList.map havingTables
  confidence := 0
  ambiguities := []

/-- What the joins are made of. -/
def joins : JoinRequest where
  columnsOf := question.context.columns
  graph := question.context.graph
  tokens := question.intent.queryTokens
  base := question.base
  targets := tablesReferencedByPlan question.unicode question.early question.intent.tables
  clauses := question.clauses

/-- The joins go by the table that decides about a clause, if any does; or they go by no
table at all. -/
def InReach (item : Item) : Prop :=
  (∀ name, ¬question.joins.Reaches question.unicode name) ∨
    ∀ name, item.decisive question.unicode = some name →
      name = "" ∨ question.joins.Reaches question.unicode name

/-- A table that is known early is reached by a join. -/
def joinsEarly : Bool :=
  question.joins.targets.any fun target => question.base.any fun home =>
    decide (findJoinPath question.context.graph home target ≠ [])

/-- How sure the selection is. -/
def selectionScores : List ℚ :=
  match question.measure with
  | none => if question.columns ≠ [] then [9 / 10] else []
  | some _ => [8 / 10]

/-- How sure each step is. -/
def scores : List ℚ :=
  9 / 10 :: question.selectionScores ++
    (if question.joinsEarly then [7 / 10] else []) ++ lateScores question.intent

/-! ## What is planned -/

/-- The clauses of the plan, and how sure they are, before the passes over it. -/
structure Follows (clauses : ExecutionPlan) (scores : List ℚ) : Prop where
  view : clauses.view = question.joins.resolved
  filters : clauses.filters = question.intent.filters
  select : clauses.select = question.select
  groupBy : clauses.groupBy = question.groupBy
  orderBy : clauses.orderBy = question.orderBy
  having : clauses.having = question.having
  aggregation : clauses.aggregation = question.measure
  measured : question.intent.aggregation.isSome = true → question.measure.isSome = true
  scores : scores = question.scores

variable {question} {prepared : Prepared}

theorem prepare_eq (isPrepared : prepare question.unicode question.context question.intent =
    .ok prepared) : prepared = ⟨question.base, question.columns, question.named⟩ := by
  unfold prepare at isPrepared
  unfold columns named base
  split at isPrepared
  · cases isPrepared
  · next select isSelect =>
      cases isPrepared
      rw [isSelect]
      rfl

theorem requestedMeasure_eq {intent : Intent} {requested : Option Measure}
    (isRequested : requestedMeasure intent = .ok requested) :
    (requested = intent.aggregation.bind fun request => request.column.map fun column =>
      ⟨request.function, column.1, column.2⟩) ∧
      requested.isSome = intent.aggregation.isSome := by
  unfold requestedMeasure at isRequested
  split at isRequested
  · next isNone =>
      cases isRequested
      rw [isNone]
      exact ⟨rfl, rfl⟩
  · next request isSome =>
      rw [isSome]
      split at isRequested
      · cases isRequested
      · next table column isColumn =>
          cases isRequested
          rw [Option.bind_some, isColumn]
          exact ⟨rfl, rfl⟩

/-- What is selected early, and how sure that is. -/
theorem earlySelect_eq {found : List SelectItem} {scores : List ℚ}
    (isFound : earlySelect question.unicode question.context question.base question.columns
      question.measure = .ok (found, scores)) :
    found = question.earlySelection ∧ scores = question.selectionScores := by
  unfold earlySelect at isFound
  unfold earlySelection selectionScores rows SchemaContext.columns
  cases isMeasure : question.measure with
  | some measure =>
      rw [isMeasure] at isFound
      cases isFound
      exact ⟨rfl, rfl⟩
  | none =>
      rw [isMeasure] at isFound
      dsimp only at isFound ⊢
      by_cases isNamed : question.columns ≠ []
      · rw [if_pos isNamed] at isFound
        cases isFound
        rw [if_pos isNamed, if_pos isNamed]
        exact ⟨rfl, rfl⟩
      · rw [if_neg isNamed] at isFound
        rw [if_neg isNamed, if_neg isNamed]
        by_cases hasBase : question.base.getD "" ≠ ""
        · rw [if_pos hasBase] at isFound
          rw [if_pos hasBase]
          split at isFound
          · cases isFound
          · next columns isTable =>
              cases isFound
              rw [isTable]
              exact ⟨rfl, rfl⟩
        · rw [if_neg hasBase] at isFound
          rw [if_neg hasBase]
          cases isFound
          exact ⟨rfl, rfl⟩

theorem earlyOrder_isSome {measure : Option Measure}
    {request : Option OrderRequest} {order : Option OrderColumn}
    (isOrder : earlyOrder measure request = .ok order) :
    order.isSome = request.isSome := by
  unfold earlyOrder at isOrder
  split at isOrder
  · cases isOrder
    rfl
  · split at isOrder
    · split at isOrder
      · cases isOrder
      · cases isOrder
        rfl
    · cases isOrder
      rfl

/-- What the early ordering says about tables. -/
theorem earlyOrder_tables {measure : Option Measure} {request : Option OrderRequest}
    {order : Option OrderColumn} (isOrder : earlyOrder measure request = .ok order) :
    order.toList.map orderTables = request.toList.map (earlyOrdering measure) := by
  unfold earlyOrder at isOrder
  split at isOrder
  · cases isOrder
    rfl
  · split at isOrder
    · split at isOrder
      · cases isOrder
      · cases isOrder
        rfl
    · cases isOrder
      rfl

theorem joinsInRoles_eq_nil {columnsOf : String → List String} {joins : List Join}
    {graph : RelationshipGraph} {tokens : List String} :
    joinsInRoles columnsOf joins graph tokens = [] ↔ joins = [] := by
  unfold joinsInRoles
  split
  · rfl
  · exact List.map_eq_nil_iff

theorem joinsEarly_iff : question.joins.resolved.joins = [] ↔
    question.joinsEarly = false := by
  have joins : question.joins.resolved.joins = joinsInRoles question.context.columns
      (resolveJoins question.context.graph question.base question.joins.targets)
      question.context.graph question.intent.queryTokens := rfl
  rw [joins, joinsInRoles_eq_nil]
  unfold joinsEarly
  cases question.base with
  | none => simp [resolveJoins]
  | some home =>
      rw [resolveJoins_eq, List.map_eq_nil_iff, List.flatMap_eq_nil_iff]
      simp

/-- The clauses that are planned early. -/
structure Begins (question : Question) (early : Early) : Prop where
  select : early.select = question.earlySelection
  having : early.having = question.having
  ordered : early.orderBy.isSome = question.intent.orderBy.isSome
  joins : early.joins = question.joins.resolved.joins
  scores : early.scores = 9 / 10 :: question.selectionScores ++
    if question.joinsEarly then [7 / 10] else []

theorem planEarly_eq {early : Early}
    (planned : planEarly question.unicode question.context question.intent
      ⟨question.base, question.columns, question.named⟩ question.measure = .ok early) :
    question.Begins early := by
  unfold planEarly at planned
  split at planned
  · cases planned
  · cases planned
  · next select scores orderBy isSelect isOrder =>
      obtain ⟨rfl, rfl⟩ := earlySelect_eq isSelect
      have ordered := earlyOrder_tables isOrder
      dsimp only at planned
      rw [ordered] at planned
      have joins : joinsInRoles question.context.columns
          (resolveJoins question.context.graph question.base question.joins.targets)
          question.context.graph question.intent.queryTokens =
            question.joins.resolved.joins := rfl
      cases planned
      refine ⟨rfl, rfl, earlyOrder_isSome isOrder, rfl, ?_⟩
      dsimp only
      congr 1
      by_cases isEarly : question.joinsEarly = true
      · rw [if_pos isEarly, if_neg]
        intro isEmpty
        rw [joinsEarly_iff.mp isEmpty] at isEarly
        cases isEarly
      · rw [if_neg isEarly, if_pos]
        exact joinsEarly_iff.mpr (Bool.eq_false_of_not_eq_true isEarly)

theorem decideGrouping_eq {measure : Measure} {select : List SelectItem}
    {groupBy : List GroupColumn}
    (decided : decideGrouping question.unicode question.context question.intent question.base
      (signalsOf question.unicode question.intent)
      (splitDimensions (question.intent.aggregation.bind MeasureRequest.column)
        question.columns) measure = .ok (select, groupBy)) :
    groupBy = question.dimensions ∧
      select = ((question.dimensions.filter fun group => !group.hidden).map fun group =>
        columnItem group.table group.column) ++ [measureItem question.unicode measure] := by
  unfold decideGrouping decidedGroups at decided
  unfold dimensions
  dsimp only at decided ⊢
  cases isPure : (signalsOf question.unicode question.intent).pure with
  | true =>
      rw [isPure] at decided
      rw [if_pos rfl]
      split at decided
      · cases decided
        exact ⟨rfl, rfl⟩
      · split at decided
        · cases decided
        · cases decided
          exact ⟨rfl, rfl⟩
  | false =>
      rw [isPure, if_neg (by simp)] at decided
      rw [if_neg (by simp)]
      split at decided
      · cases decided
      · next groups isGroups =>
          split at isGroups
          · cases isGroups
          · next columns isColumns =>
              cases isGroups
              cases decided
              rw [isColumns]
              exact ⟨rfl, rfl⟩
          · next noGroups =>
              cases isGroups
              cases decided
              rw [noGroups]
              exact ⟨rfl, rfl⟩

theorem planGrouping_eq {early : Early} {select : List SelectItem}
    {decided : List GroupColumn} (begins : question.Begins early)
    (isGrouped : planGrouping question.unicode question.context question.intent
      ⟨question.base, question.columns, question.named⟩ question.measure early =
        .ok (select, decided)) :
    select = question.select ∧
      decided = if question.measure.isSome then question.dimensions else [] := by
  unfold planGrouping at isGrouped
  unfold Question.select
  cases isMeasure : question.measure with
  | none =>
      rw [isMeasure] at isGrouped
      cases isGrouped
      refine ⟨?_, rfl⟩
      rw [begins.select, earlySelection, isMeasure]
  | some measure =>
      rw [isMeasure] at isGrouped
      have signals : (⟨hasGroupingSignal question.unicode question.intent.originalQuery,
          early.having.isSome, early.orderBy.isSome⟩ : GroupingSignals) =
            signalsOf question.unicode question.intent := by
        rw [begins.having, begins.ordered, Question.having, isMeasure]
        unfold signalsOf plannedHaving
        cases question.intent.having with
        | none => rfl
        | some request => rfl
      dsimp only at isGrouped
      rw [signals] at isGrouped
      obtain ⟨isGroups, isSelect⟩ := decideGrouping_eq isGrouped
      exact ⟨isSelect, isGroups⟩

theorem overruleGrouping_eq {groupBy : List GroupColumn}
    (isOverruled : overruleGrouping question.unicode question.context question.intent
      ⟨question.base, question.columns, question.named⟩
      (if question.measure.isSome then question.dimensions else []) = .ok groupBy) :
    groupBy = question.groupBy := by
  unfold overruleGrouping at isOverruled
  unfold Question.groupBy
  cases isGrouped : question.intent.groupBy with
  | none =>
      rw [isGrouped] at isOverruled
      cases isOverruled
      cases question.measure with
      | none => rfl
      | some measure => rfl
  | some request =>
      rw [isGrouped] at isOverruled
      dsimp only at isOverruled ⊢
      rw [isOverruled]
      rfl

/-- What is planned is what the question asks for. -/
theorem planClauses_follows {clauses : ExecutionPlan} {scores : List ℚ}
    (planned : planClauses question.unicode question.context question.intent
      ⟨question.base, question.columns, question.named⟩ = .ok (clauses, scores)) :
    question.Follows clauses scores := by
  obtain ⟨early, steps⟩ := planClauses_steps planned
  obtain ⟨requested, isRequested, isMeasure⟩ := steps.measure
  obtain ⟨isAsked, asked⟩ := requestedMeasure_eq isRequested
  have aggregation : clauses.aggregation = question.measure := by
    rw [isMeasure, isAsked]
    rfl
  have measured : question.intent.aggregation.isSome = true →
      question.measure.isSome = true := by
    intro isAggregated
    rw [← aggregation, isMeasure, Option.isSome_or, asked, isAggregated, Bool.true_or]
  have isEarly := steps.planned
  rw [aggregation] at isEarly
  have begins := planEarly_eq isEarly
  obtain ⟨decided, isGrouped, isOverruled⟩ := steps.grouping
  rw [aggregation] at isGrouped
  obtain ⟨select, isDecided⟩ := planGrouping_eq begins isGrouped
  rw [isDecided] at isOverruled
  have groupBy := overruleGrouping_eq isOverruled
  have orderBy : clauses.orderBy = question.orderBy := by
    rw [steps.orderBy, select]
    rfl
  have having := steps.having.trans begins.having
  refine ⟨?_, steps.filters, select, groupBy, orderBy, having, aggregation, measured, ?_⟩
  · have resolved : question.joins.resolved =
        { question.clauses with joins := question.joins.resolved.joins } := rfl
    rw [resolved, ExecutionPlan.view, steps.baseTable, steps.joins, begins.joins, select,
      steps.filters, groupBy, orderBy, having, steps.confidence, steps.ambiguities]
    rfl
  · rw [steps.scores, begins.scores]
    rfl

/-! ## What the joins reach -/

variable {clauses : ExecutionPlan} {scores : List ℚ}

theorem Follows.joined_view (follows : question.Follows clauses scores) :
    (joined question.unicode question.context clauses).view =
      question.joins.reconciled question.unicode := by
  rw [joined, reconciled_view, rebased_view, follows.view]
  rfl

/-- The joins of the planner go through the same passes. -/
theorem Follows.finished_joins (follows : question.Follows clauses scores) :
    (pruned question.unicode (reachable question.unicode
      (joined question.unicode question.context clauses))).joins =
        (question.joins.finished question.unicode).joins := by
  obtain ⟨sameBase, sameJoins⟩ := @drop_baseTable question.unicode
    (joined question.unicode question.context clauses).view
  rw [JoinRequest.finished, ← follows.joined_view]
  apply pruneUnusedJoins_congr
  · exact (reachable_view _).1.trans sameBase.symm
  · exact (reachable_view _).2.trans sameJoins.symm
  · exact reachable_items _

/-- The passes drop what the joins do not reach. -/
theorem Follows.drops_iff (follows : question.Follows clauses scores) (item : Item) :
    Drops question.unicode (joined question.unicode question.context clauses) item ↔
      ¬question.InReach item := by
  have inside : outOfScope question.unicode
      (joinScope question.unicode (question.joins.reconciled question.unicode)) item = false ↔
        ∀ name, item.decisive question.unicode = some name →
          name = "" ∨ question.joins.Reaches question.unicode name := by
    simp only [outOfScope_eq_false_iff, mem_scope]
  unfold Drops inReach InReach
  rw [follows.joined_view, scope_ne_nil, not_or, Bool.not_eq_false', ← inside,
    Bool.not_eq_false]
  simp

end Question

end DbBuddy.Planner
