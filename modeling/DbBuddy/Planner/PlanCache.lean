import DbBuddy.Library.MemoTable
import DbBuddy.Planner.Finishing
import DbBuddy.Planner.RelationshipGraph

/-!
# The plan cache

A plan is looked up under the text of the intent and the hash of the schema, and
remembered under the text that the planning has left of the intent.  What else a plan
depends on is in neither key.
-/

namespace DbBuddy.Planner

open DbBuddy.Library DbBuddy.Sql

/-! ## The calls -/

/-- What a call is given besides its intent; the graph is empty if there is none. -/
structure PlanInputs where
  schema : List (String × List String)
  foreignKeys : ForeignKeyMap
  relationshipGraph : RelationshipGraph
  primaryKeys : List (String × List String)
  columnRoles : List (String × List (String × String))

/-- A call of `plan_query_execution`; `inferred` says whether the intent has the mark
of an inferred aggregation, and the hash is empty if there is none. -/
structure PlanCall where
  intent : Intent
  inferred : Bool
  inputs : PlanInputs
  schemaHash : String

/-- `PLAN_VERSION` -/
def planVersion : String := "v15"

section Cache

variable (unicode : Unicode)
variable (build : List (String × List String) → ForeignKeyMap → RelationshipGraph)

/-- What the planner knows; `build` makes a graph where none is given. -/
def PlanInputs.context (inputs : PlanInputs) : SchemaContext where
  schema := inputs.schema
  primaryKeys := inputs.primaryKeys
  columnRoles := inputs.columnRoles
  graph :=
    if inputs.relationshipGraph.entries.isEmpty then
      build inputs.schema inputs.foreignKeys
    else inputs.relationshipGraph

/-- The plan of a call without a cache. -/
def PlanCall.plan (call : PlanCall) : Except PlanError ExecutionPlan :=
  planQueryExecution unicode (call.inputs.context build) call.intent

/-! ## What the planning leaves of an intent -/

/-- A column in the one format is an entry with all its fields. -/
def columnSpec (column : IntentColumn) : ColumnSpec :=
  .dict (some column.table) (some column.column) (some column.aliasName)
    (some column.aggregation)

/-- The measure of an intent is the plan's, so that it is repaired with it. -/
def repairedRequest (schema : List (String × List String))
    (request : MeasureRequest) : MeasureRequest :=
  { request with column := request.column.map fun reference =>
      (reference.1, repaired unicode schema (some reference.1) reference.2) }

/-- The intent after a planning that has succeeded. -/
def leftIntent (context : SchemaContext) (intent : Intent) : Intent :=
  match prepare unicode context intent with
  | .error _ => intent
  | .ok prepared => { intent with
      select := prepared.select.map columnSpec
      columns := prepared.columns.map columnSpec
      aggregation := intent.aggregation.map
        (repairedRequest unicode context.schema) }

/-- The planning marks an intent whose aggregation it has inferred. -/
def infersAggregation (context : SchemaContext) (intent : Intent) : Bool :=
  intent.aggregation.isNone &&
    (rankedMeasure unicode context intent
      (chooseBaseTable context.graph intent.tables)).isSome

/-! ## The keys -/

variable (text : Intent → Bool → String) (digest : String → String)

/-- `_make_key` of a plan; `text` is what `str` makes of an intent's dictionary, and
`digest` is MD5. -/
def planKey (intent : Intent) (inferred : Bool) (schemaHash : String) : String :=
  let hashed := digest (planVersion ++ ":" ++ text intent inferred)
  if schemaHash = "" then "plan:" ++ hashed
  else "plan:" ++ schemaHash ++ ":" ++ hashed

/-- The cache of plans: a plan of an intent that is not valid is not kept. -/
def planCache : Memo PlanCall String (Except PlanError ExecutionPlan) where
  lookupKey call := planKey text digest call.intent call.inferred call.schemaHash
  storeKey call :=
    let context := call.inputs.context build
    planKey text digest (leftIntent unicode context call.intent)
      (call.inferred || infersAggregation unicode context call.intent)
      call.schemaHash
  answer call := call.plan unicode build
  keeps call := (call.plan unicode build).isOk && !call.intent.tables.contains "*"

/-! ## Planning again what was left -/

/-- A measure that needs no repair, and a SELECT list that is empty or has something
to read. -/
structure Settled (context : SchemaContext) (intent : Intent) : Prop where
  measure : intent.aggregation.map (repairedRequest unicode context.schema) =
    intent.aggregation
  select : intent.select = [] ∨ ∃ spec ∈ intent.select, spec ≠ .other

end Cache

section Again

variable {unicode : Unicode} {context : SchemaContext} {intent : Intent}

theorem normalize_columnSpec (base : Option String) (columns : List IntentColumn) :
    normalizeColumnStructure base (columns.map columnSpec) = columns := by
  induction columns with
  | nil => rfl
  | cons column rest inductionHypothesis =>
      unfold normalizeColumnStructure at inductionHypothesis ⊢
      rw [List.map_cons, List.filterMap_cons, inductionHypothesis]
      rfl

/-- An entry that can be read stays in the list. -/
theorem normalize_ne_nil {base : Option String} {select : List ColumnSpec}
    {spec : ColumnSpec} (isIn : spec ∈ select) (readable : spec ≠ .other) :
    normalizeColumnStructure base select ≠ [] := by
  intro isEmpty
  unfold normalizeColumnStructure at isEmpty
  have dropped := List.filterMap_eq_nil_iff.mp isEmpty spec isIn
  cases spec with
  | named column => cases dropped
  | dict table column aliasName aggregation => cases dropped
  | other => exact readable rfl

theorem prepare_ok {prepared : Prepared}
    (isPrepared : prepare unicode context intent = .ok prepared) :
    ∃ select, applySelectFallback unicode context intent = .ok select ∧
      prepared = ⟨chooseBaseTable context.graph intent.tables,
        normalizeColumnStructure (chooseBaseTable context.graph intent.tables)
          select,
        normalizeColumnStructure (chooseBaseTable context.graph intent.tables)
          intent.columns⟩ := by
  unfold prepare at isPrepared
  split at isPrepared
  · cases isPrepared
  · rename_i select isSelect
    cases isPrepared
    exact ⟨select, isSelect, rfl⟩

/-- The columns that were found are found again. -/
theorem applySelectFallback_again (base : Option String)
    (columns : List ColumnSpec) {select : List ColumnSpec}
    (readable : intent.select = [] ∨ ∃ spec ∈ intent.select, spec ≠ .other)
    (isSelect : applySelectFallback unicode context intent = .ok select) :
    ∃ again,
      applySelectFallback unicode context { intent with
        select := (normalizeColumnStructure base select).map columnSpec
        columns := columns } = .ok again ∧
      normalizeColumnStructure base again = normalizeColumnStructure base select := by
  by_cases isEmpty : normalizeColumnStructure base select = []
  · have noSelect : intent.select = [] := by
      rcases readable with noSelect | ⟨spec, isIn, isReadable⟩
      · exact noSelect
      · have sameSelect : select = intent.select := by
          unfold applySelectFallback at isSelect
          rw [if_pos (List.ne_nil_of_mem isIn)] at isSelect
          exact (Except.ok.inj isSelect).symm
        rw [sameSelect] at isEmpty
        exact absurd isEmpty (normalize_ne_nil isIn isReadable)
    refine ⟨select, ?_, rfl⟩
    have sameIntent : ({ intent with
        select := ([] : List IntentColumn).map columnSpec
        columns := columns } : Intent) = { intent with columns := columns } := by
      cases intent
      simp_all
    rw [isEmpty, sameIntent, ← isSelect]
    rfl
  · refine ⟨(normalizeColumnStructure base select).map columnSpec, ?_,
      normalize_columnSpec base _⟩
    unfold applySelectFallback
    exact if_pos fun noColumns => isEmpty (List.map_eq_nil_iff.mp noColumns)

theorem leftIntent_eq {prepared : Prepared} (settled : Settled unicode context intent)
    (isPrepared : prepare unicode context intent = .ok prepared) :
    leftIntent unicode context intent = { intent with
      select := prepared.select.map columnSpec
      columns := prepared.columns.map columnSpec } := by
  unfold leftIntent
  rw [isPrepared, settled.measure]

/-- What was left is prepared to what it was before. -/
theorem prepare_again {prepared : Prepared} (settled : Settled unicode context intent)
    (isPrepared : prepare unicode context intent = .ok prepared) :
    prepare unicode context { intent with
      select := prepared.select.map columnSpec
      columns := prepared.columns.map columnSpec } = .ok prepared := by
  obtain ⟨select, isSelect, rfl⟩ := prepare_ok isPrepared
  obtain ⟨again, isAgain, sameColumns⟩ :=
    applySelectFallback_again (chooseBaseTable context.graph intent.tables)
      ((normalizeColumnStructure
        (chooseBaseTable context.graph intent.tables) intent.columns).map columnSpec)
      settled.select isSelect
  unfold prepare
  rw [isAgain]
  dsimp only
  rw [sameColumns, normalize_columnSpec]

/-- A plan does not change if it is made again of what was left of its intent. -/
theorem planQueryExecution_again {plan : ExecutionPlan}
    (settled : Settled unicode context intent)
    (planned : planQueryExecution unicode context intent = .ok plan) :
    planQueryExecution unicode context (leftIntent unicode context intent) =
      .ok plan := by
  obtain ⟨prepared, isPrepared, _⟩ := planQueryExecution_steps planned
  rw [leftIntent_eq settled isPrepared]
  unfold planQueryExecution at planned ⊢
  rw [isPrepared] at planned
  rw [prepare_again settled isPrepared]
  exact planned

end Again

/-! ## What the cache returns -/

section Transparent

variable (unicode : Unicode)
variable (build : List (String × List String) → ForeignKeyMap → RelationshipGraph)

variable (text : Intent → Bool → String) (digest : String → String)

/-- The later call plans what the earlier one has left, with the same inputs. -/
def Follows (earlier later : PlanCall) : Prop :=
  later.inputs = earlier.inputs ∧
    later.intent = leftIntent unicode (earlier.inputs.context build)
      earlier.intent ∧
    Settled unicode (earlier.inputs.context build) earlier.intent

/-- Every call returns the plan that it would without a cache, and none that was made
with other inputs. -/
def Transparent
    (table : Memo.Table PlanCall String (Except PlanError ExecutionPlan)) : Prop :=
  ∀ reply ∈ table.replies,
    reply.answer = reply.request.plan unicode build ∧
      reply.origin.inputs = reply.request.inputs

variable {unicode : Unicode}
variable {build : List (String × List String) → ForeignKeyMap → RelationshipGraph}

theorem plan_of_follows {earlier later : PlanCall}
    (kept : (planCache unicode build text digest).keeps earlier = true)
    (follows : Follows unicode build earlier later) :
    later.plan unicode build = earlier.plan unicode build := by
  obtain ⟨sameInputs, isLeft, settled⟩ := follows
  have succeeds : (earlier.plan unicode build).isOk = true :=
    (Bool.and_eq_true_iff.mp kept).1
  unfold PlanCall.plan at succeeds ⊢
  rw [sameInputs, isLeft]
  cases planned : planQueryExecution unicode (earlier.inputs.context build)
      earlier.intent with
  | error refused =>
      rw [planned] at succeeds
      cases succeeds
  | ok plan => exact planQueryExecution_again settled planned

end Transparent

/-- The cache returns what the planner does in every run in which a call that may find
a plan plans the same intent with the same inputs. -/
theorem planQueryExecution_cached (unicode : Unicode)
    (build : List (String × List String) → ForeignKeyMap → RelationshipGraph)
    (text : Intent → Bool → String) (digest : String → String)
    (table : Memo.Table PlanCall String (Except PlanError ExecutionPlan))
    (run : (planCache unicode build text digest).system.Reaches
      (Memo.Separated (planCache unicode build text digest)
        (Follows unicode build)) Memo.blank table) :
    Transparent unicode build table := by
  have right := Memo.right_of_run
    (fun earlier later kept follows => plan_of_follows text digest kept follows) run
  intro reply isReply
  obtain ⟨isAnswer, isOrigin⟩ := right reply isReply
  refine ⟨isAnswer, ?_⟩
  rcases isOrigin with isOwn | ⟨sameInputs, _⟩
  · rw [isOwn]
  · exact sameInputs.symm

/-! ### Orders and the customers they are billed to -/

/-- An order refers to a customer by this column. -/
def ordersBy (column : String) : PlanInputs where
  schema := [("orders", ["total", "billing_id", "shipping_id"]),
    ("customers", ["id", "name"])]
  foreignKeys := [("orders", [⟨column, "customers", "id"⟩])]
  relationshipGraph := declaredGraph ["orders", "customers"]
    [("orders", [⟨column, "customers", "id"⟩])]
  primaryKeys := []
  columnRoles := []

def totalsAndNames : Intent where
  originalQuery := "totals and names"
  tables := ["orders", "customers"]
  select := [columnSpec ⟨"orders", "total", "total", ""⟩,
    columnSpec ⟨"customers", "name", "name", ""⟩]
  columns := []
  filters := []
  aggregation := none
  groupBy := none
  orderBy := none
  having := none
  limit := none
  requestedGrouping := false
  queryTokens := []
  measureAmbiguity := []

def namesBy (column : String) : PlanCall where
  intent := totalsAndNames
  inferred := false
  inputs := ordersBy column
  schemaHash := "9f2c"

/-- The columns that the plan joins on. -/
def joinedBy (column : String) : Option (List (String × String)) :=
  match (namesBy column).plan ascii (fun _ _ => ∅) with
  | .error _ => none
  | .ok plan => some (plan.joins.map fun join => (join.leftKey, join.rightKey))

theorem namesBy_plan {column : String} {keys : List (String × String)}
    (isJoined : joinedBy column = some keys) :
    ∃ plan, (namesBy column).plan ascii (fun _ _ => ∅) = .ok plan ∧
      plan.joins.map (fun join => (join.leftKey, join.rightKey)) = keys := by
  unfold joinedBy at isJoined
  split at isJoined
  · cases isJoined
  · rename_i plan isPlan
    cases isJoined
    exact ⟨plan, isPlan, rfl⟩

theorem joinedBy_billing :
    joinedBy "billing_id" = some [("id", "billing_id")] := by
  decide

theorem joinedBy_shipping :
    joinedBy "shipping_id" = some [("id", "shipping_id")] := by
  decide

theorem namesBy_left :
    leftIntent ascii ((ordersBy "billing_id").context fun _ _ => ∅)
      totalsAndNames = totalsAndNames := by
  decide

/-- The first call leaves its plan where the other one looks for it. -/
theorem namesBy_found (text : Intent → Bool → String) (digest : String → String)
    (column : String) :
    (planCache ascii (fun _ _ => ∅) text digest).keeps (namesBy "billing_id") =
        true ∧
      (planCache ascii (fun _ _ => ∅) text digest).storeKey
          (namesBy "billing_id") =
        (planCache ascii (fun _ _ => ∅) text digest).lookupKey
          (namesBy column) := by
  obtain ⟨plan, isPlan, _⟩ := namesBy_plan joinedBy_billing
  constructor
  · unfold planCache
    dsimp only
    rw [isPlan]
    rfl
  · have unmarked : infersAggregation ascii
        ((ordersBy "billing_id").context fun _ _ => ∅) totalsAndNames = false := by
      rfl
    unfold planCache namesBy
    dsimp only
    rw [namesBy_left, unmarked]
    rfl

/-- The dictionary of the intent as Python writes it. -/
def totalsAndNamesText : String :=
  "\x7b'original_query': 'totals and names', 'tables': ['orders', 'customers'], " ++
    "'select': [\x7b'table': 'orders', 'column': 'total', 'source': 'unknown', " ++
    "'alias': 'total', 'aggregation': None\x7d, \x7b'table': 'customers', " ++
    "'column': 'name', 'source': 'unknown', 'alias': 'name', " ++
    "'aggregation': None\x7d], 'columns': [], 'filters': [], " ++
    "'aggregation': None, 'group_by': None, 'order_by': None, 'having': None, " ++
    "'limit': None\x7d"

/-- The same call finds its plan again. -/
theorem planQueryExecution_cached_twice :
    Transparent ascii (fun _ _ => ∅)
      ((planCache ascii (fun _ _ => ∅) (fun _ _ => totalsAndNamesText)
        (fun _ => "636fcf8c67d31223b40e143c8707c2a2")).askedTwice
        (namesBy "billing_id") (namesBy "billing_id")) := by
  obtain ⟨kept, sameKey⟩ := namesBy_found (fun _ _ => totalsAndNamesText)
    (fun _ => "636fcf8c67d31223b40e143c8707c2a2") "billing_id"
  refine planQueryExecution_cached ascii (fun _ _ => ∅) _ _ _
    (Memo.reaches_askedTwice kept sameKey ?_ ?_)
  · intro earlier isEarlier
    cases isEarlier
  · intro earlier isEarlier _ _
    have isFirst := List.mem_singleton.mp isEarlier
    rw [isFirst]
    refine ⟨rfl, namesBy_left.symm, ⟨rfl, Or.inr ?_⟩⟩
    exact ⟨_, List.mem_cons_self, by decide⟩

/-- Whatever the texts and digests are, the plan for one foreign key is returned for
the other one. -/
theorem planQueryExecution_mixesKeys :
    ¬∃ (text : Intent → Bool → String) (digest : String → String),
      ∀ table, (planCache ascii (fun _ _ => ∅) text digest).system.Reaches
        (fun _ _ => True) Memo.blank table →
          Transparent ascii (fun _ _ => ∅) table := by
  rintro ⟨text, digest, transparent⟩
  obtain ⟨kept, sameKey⟩ := namesBy_found text digest "shipping_id"
  have mixed := transparent _ (Memo.reaches_askedTwice kept sameKey trivial trivial)
  have samePlan := (mixed _ (List.mem_cons_of_mem _ (List.mem_singleton_self _))).1
  obtain ⟨billed, isBilled, billedBy⟩ := namesBy_plan joinedBy_billing
  obtain ⟨shipped, isShipped, shippedBy⟩ := namesBy_plan joinedBy_shipping
  have same : billed = shipped := by
    exact Except.ok.inj (isBilled.symm.trans (Eq.trans samePlan isShipped))
  rw [same, shippedBy] at billedBy
  exact absurd billedBy (by decide)

end DbBuddy.Planner
