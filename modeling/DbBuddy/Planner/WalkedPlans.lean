import DbBuddy.Planner.ColumnRepair

/-!
# The check of a plan's columns, on any plan

The check walks the clauses of a plan that is a dictionary: an item has a table or none,
and a column that is a text or, for an aggregation, an item of its own.  A plan of the
planner is one of them.
-/

namespace DbBuddy.Planner

open DbBuddy.Library DbBuddy.Sql

/-! ## Plans as they are walked -/

/-- `item.get("column")` -/
inductive WalkedColumn where
  | text (column : String)
  | nested (table : Option String) (column : Option String)
  | other
  deriving DecidableEq, Repr

/-- An item of a clause; what is no text for a table is taken as the text of it. -/
structure WalkedItem where
  table : Option String
  column : WalkedColumn
  deriving DecidableEq, Repr

structure WalkedPlan where
  select : List WalkedItem
  columns : List WalkedItem
  groupBy : List WalkedItem
  filters : List WalkedItem
  orderBy : List WalkedItem
  having : List WalkedItem
  aggregation : List WalkedItem
  deriving DecidableEq, Repr

/-- A table, if one is given, and a column. -/
abbrev Reference := Option String × String

def WalkedItem.references (item : WalkedItem) : List Reference :=
  match item.column with
  | .text column => [(item.table, column)]
  | .nested table (some column) => [(table, column)]
  | _ => []

/-- The item with its column replaced. -/
def WalkedItem.map (change : Option String → String → String) (item : WalkedItem) :
    WalkedItem :=
  match item.column with
  | .text column => { item with column := .text (change item.table column) }
  | .nested table (some column) =>
      { item with column := .nested table (some (change table column)) }
  | _ => item

/-- The clauses, in the order they are walked. -/
def WalkedPlan.items (plan : WalkedPlan) : List WalkedItem :=
  plan.select ++ plan.columns ++ plan.groupBy ++ plan.filters ++ plan.orderBy ++
    plan.having ++ plan.aggregation

def WalkedPlan.references (plan : WalkedPlan) : List Reference :=
  plan.items.flatMap WalkedItem.references

def WalkedPlan.map (change : Option String → String → String) (plan : WalkedPlan) :
    WalkedPlan where
  select := plan.select.map (WalkedItem.map change)
  columns := plan.columns.map (WalkedItem.map change)
  groupBy := plan.groupBy.map (WalkedItem.map change)
  filters := plan.filters.map (WalkedItem.map change)
  orderBy := plan.orderBy.map (WalkedItem.map change)
  having := plan.having.map (WalkedItem.map change)
  aggregation := plan.aggregation.map (WalkedItem.map change)

/-- `_assert_columns_exist` -/
def assertWalked (unicode : Unicode) (schema : List (String × List String))
    (plan : WalkedPlan) : Except PlanError WalkedPlan :=
  if schema = [] then .ok plan
  else
    let missing := plan.references.filterMap fun reference =>
      (repairReference unicode schema reference.1 reference.2).missingReference
    if missing = [] then .ok (plan.map (repaired unicode schema))
    else .error (.missingColumns
      (missing.dedup.mergeSort fun name other => decide (name ≤ other)))

section Walking

variable {unicode : Unicode} {schema : List (String × List String)} {plan result : WalkedPlan}

theorem WalkedItem.references_map (change : Option String → String → String)
    (item : WalkedItem) : (item.map change).references =
      item.references.map fun reference =>
        (reference.1, change reference.1 reference.2) := by
  cases item with
  | mk table column =>
      cases column with
      | text column => rfl
      | nested inner column =>
          cases column with
          | none => rfl
          | some column => rfl
      | other => rfl

theorem WalkedPlan.references_map (change : Option String → String → String)
    (plan : WalkedPlan) : (plan.map change).references =
      plan.references.map fun reference =>
        (reference.1, change reference.1 reference.2) := by
  have isMap : (plan.map change).items = plan.items.map (WalkedItem.map change) := by
    simp only [WalkedPlan.items, WalkedPlan.map, List.map_append]
  unfold WalkedPlan.references
  rw [isMap, List.flatMap_map, List.map_flatMap]
  exact List.flatMap_congr fun item _ => item.references_map change

theorem WalkedItem.map_eq_self {change : Option String → String → String}
    {item : WalkedItem} (unchanged : ∀ reference ∈ item.references,
      change reference.1 reference.2 = reference.2) : item.map change = item := by
  unfold WalkedItem.references at unchanged
  unfold WalkedItem.map
  cases item with
  | mk table column =>
      cases column with
      | text column =>
          have same := unchanged (table, column) List.mem_cons_self
          dsimp only at same ⊢
          rw [same]
      | nested inner column =>
          cases column with
          | none => rfl
          | some column =>
              have same := unchanged (inner, column) List.mem_cons_self
              dsimp only at same ⊢
              rw [same]
      | other => rfl

/-- A change that leaves all references leaves the plan. -/
theorem WalkedPlan.map_eq_self {change : Option String → String → String}
    {plan : WalkedPlan} (unchanged : ∀ reference ∈ plan.references,
      change reference.1 reference.2 = reference.2) : plan.map change = plan := by
  have ofClause : ∀ clause : List WalkedItem, clause ⊆ plan.items →
      clause.map (WalkedItem.map change) = clause := by
    intro clause isPart
    have same : ∀ item ∈ clause, item.map change = item := by
      intro item isItem
      apply WalkedItem.map_eq_self
      intro reference isReference
      exact unchanged reference
        (List.mem_flatMap.mpr ⟨item, isPart isItem, isReference⟩)
    rw [List.map_congr_left same, List.map_id']
  unfold WalkedPlan.map
  rw [ofClause plan.select, ofClause plan.columns, ofClause plan.groupBy,
    ofClause plan.filters, ofClause plan.orderBy, ofClause plan.having,
    ofClause plan.aggregation]
  all_goals
    intro item isItem
    simp only [WalkedPlan.items, List.mem_append]
    tauto

theorem repairReference_nil (table : Option String) (column : String) :
    repairReference unicode [] table column = .keep := by
  have noEntry : ∀ name, tableEntry unicode [] name = none := fun _ => rfl
  unfold repairReference
  simp only [noEntry]
  split
  · rfl
  · split
    · rfl
    · split
      · rfl
      · split
        · rfl
        · rfl

theorem missingReference_eq_none {repair : Repair} :
    repair.missingReference = none ↔ ∀ reference, repair ≠ .missing reference := by
  cases repair with
  | keep => simp [Repair.missingReference]
  | replace column => simp [Repair.missingReference]
  | missing reference => simp [Repair.missingReference]

/-- The check returns if no reference is missing, and then with all of them repaired. -/
theorem assertWalked_eq_ok : assertWalked unicode schema plan = .ok result ↔
    (∀ reference ∈ plan.references, ∀ name,
      repairReference unicode schema reference.1 reference.2 ≠ .missing name) ∧
      result = plan.map (repaired unicode schema) := by
  unfold assertWalked
  by_cases noSchema : schema = []
  · rw [if_pos noSchema, noSchema]
    have same : plan.map (repaired unicode []) = plan := by
      apply WalkedPlan.map_eq_self
      intro reference _
      rw [repaired, repairReference_nil]
      rfl
    rw [same]
    constructor
    · intro isOk
      cases isOk
      refine ⟨?_, rfl⟩
      intro reference _ name isMissing
      rw [repairReference_nil] at isMissing
      cases isMissing
    · rintro ⟨_, rfl⟩
      rfl
  · rw [if_neg noSchema]
    have noneMissing : (plan.references.filterMap fun reference =>
        (repairReference unicode schema reference.1 reference.2).missingReference) = [] ↔
        ∀ reference ∈ plan.references, ∀ name,
          repairReference unicode schema reference.1 reference.2 ≠ .missing name := by
      rw [List.filterMap_eq_nil_iff]
      exact forall₂_congr fun reference _ => missingReference_eq_none
    dsimp only
    rw [← noneMissing]
    split
    · next isNil =>
        rw [Except.ok.injEq]
        exact ⟨fun same => ⟨isNil, same.symm⟩, fun both => both.2.symm⟩
    · next notNil =>
        constructor
        · intro isOk
          cases isOk
        · intro both
          exact absurd both.1 notNil

end Walking

/-! ## Plans of the planner -/

/-- A plan of the planner as it is walked; its WHERE and ORDER BY give no tables. -/
def ExecutionPlan.walked (plan : ExecutionPlan) : WalkedPlan where
  select := plan.select.map fun item => ⟨some item.table, .text item.column⟩
  columns := []
  groupBy := plan.groupBy.map fun group => ⟨some group.table, .text group.column⟩
  filters := plan.filters.map fun filter => ⟨none, .text filter.column⟩
  orderBy := plan.orderBy.toList.map fun order => ⟨none, .text order.column⟩
  having := plan.having.toList.map fun having => ⟨some having.table, .text having.column⟩
  aggregation := plan.aggregation.toList.map fun measure =>
    ⟨none, .nested (some measure.table) (some measure.column)⟩

theorem references_walked (plan : ExecutionPlan) :
    plan.walked.references = plan.references := by
  simp only [WalkedPlan.references, WalkedPlan.items, ExecutionPlan.walked,
    ExecutionPlan.references, List.flatMap_append, List.flatMap_map, WalkedItem.references,
    List.append_nil, List.append_assoc, ← List.map_eq_flatMap]

theorem walked_repairPlan (unicode : Unicode) (schema : List (String × List String))
    (plan : ExecutionPlan) : (repairPlan unicode schema plan).walked =
      plan.walked.map (repaired unicode schema) := by
  unfold repairPlan ExecutionPlan.walked WalkedPlan.map WalkedItem.map
  simp only [List.map_map, Option.toList_map, List.map_nil]
  rfl

/-- On a plan of the planner the check is the one that the planner makes. -/
theorem assertWalked_walked (unicode : Unicode) (schema : List (String × List String))
    (plan : ExecutionPlan) : assertWalked unicode schema plan.walked =
      (assertColumnsExist unicode schema plan).map ExecutionPlan.walked := by
  unfold assertWalked assertColumnsExist
  rw [references_walked]
  split
  · rfl
  · dsimp only
    split
    · rw [← walked_repairPlan]
      rfl
    · rfl

end DbBuddy.Planner
