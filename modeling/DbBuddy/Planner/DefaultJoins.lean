import DbBuddy.Planner.GraphSymmetry

/-!
# The pair that two tables are joined on by default

Of the keys between two tables, declared in either direction, the first one makes the
default pair of their edges; what primary keys suggest comes after them.
-/

namespace DbBuddy.Planner

open DbBuddy.Library

/-- The pair of columns that a key gives to the edge from `left` to `right`. -/
def InferredKey.joins (inferred : InferredKey) (left right : String) :
    Option (String × String) :=
  (inferred.orient left right).map fun keys => (keys.fromColumn, keys.toColumn)

/-- The keys that are declared between tables of the schema, in their order. -/
def declaredKeys (schema : TableColumns) (foreignKeys : ForeignKeyMap) :
    List InferredKey :=
  foreignKeys.flatMap fun item =>
    if item.1 ∈ schema then
      (item.2.filter fun key => decide (key.refTable ∈ schema)).map fun key =>
        ⟨item.1, key⟩
    else []

/-- All keys between tables of the schema: the declared ones, or the guessed ones if
none is declared, and those that primary keys suggest. -/
def keysInOrder (unicode : Unicode) (schema : TableColumns) (foreignKeys : ForeignKeyMap)
    (primaryKeys : TableColumns) : List InferredKey :=
  (if foreignKeys = [] then guessedKeys unicode schema
    else declaredKeys schema foreignKeys) ++ primaryKeyed unicode schema primaryKeys

section Defaults

variable {graph : RelationshipGraph} {table left right : String} {key : ForeignKey}

theorem defaultPair_addForeignKey (isTable : table ∈ graph) (isRef : key.refTable ∈ graph) :
    defaultPair (addForeignKey graph table key) left right =
      (defaultPair graph left right).or (InferredKey.joins ⟨table, key⟩ left right) := by
  have isRefThen : key.refTable ∈
      addEdge graph table key.refTable key.column key.refColumn := mem_addEdge.mpr isRef
  unfold addForeignKey
  rw [if_pos isRef, defaultPair_addEdge isRefThen, defaultPair_addEdge isTable,
    defaultPair_addEdge isTable]
  unfold InferredKey.joins InferredKey.orient
  dsimp only
  by_cases forth : left = table ∧ right = key.refTable
  · obtain ⟨rfl, rfl⟩ := forth
    by_cases same : left = key.refTable
    · simp only [← same, and_self, if_true, Option.getD_some]
      cases defaultPair graph left left with
      | none => rfl
      | some pair => rfl
    · simp only [same, false_and, and_self, if_true, if_false]
      cases defaultPair graph left key.refTable with
      | none => rfl
      | some pair => rfl
  · rw [if_neg forth, if_neg forth]
    by_cases back : left = key.refTable ∧ right = table
    · obtain ⟨rfl, rfl⟩ := back
      have apart : ¬ (key.refTable = right ∧ right = key.refTable) := forth
      simp only [apart, and_self, if_true, if_false]
      cases defaultPair graph key.refTable right with
      | none => rfl
      | some pair => rfl
    · simp only [back, if_false, Option.map_none, Option.or_none]

theorem defaultPair_addForeignKeys (keys : List ForeignKey) (isTable : table ∈ graph) :
    defaultPair (keys.foldl (fun graph key => addForeignKey graph table key) graph)
        left right =
      (defaultPair graph left right).or
        (((keys.filter fun key => decide (key.refTable ∈ graph)).map fun key =>
          InferredKey.mk table key).findSome? fun inferred =>
            inferred.joins left right) := by
  induction keys generalizing graph with
  | nil => simp
  | cons key rest inductionHypothesis =>
      have isTableThen : table ∈ addForeignKey graph table key :=
        mem_addForeignKey.mpr isTable
      have later := inductionHypothesis isTableThen
      simp only [mem_addForeignKey] at later
      rw [List.foldl_cons, later]
      by_cases isRef : key.refTable ∈ graph
      · rw [defaultPair_addForeignKey isTable isRef, Option.or_assoc, List.filter_cons,
          if_pos (decide_eq_true isRef), List.map_cons, List.findSome?_cons]
        cases InferredKey.joins ⟨table, key⟩ left right with
        | none => rfl
        | some pair => rfl
      · have skipped : addForeignKey graph table key = graph := by
          unfold addForeignKey
          rw [if_neg isRef]
        rw [skipped, List.filter_cons, if_neg (by simpa using isRef)]

theorem defaultPair_noEdges (tables : List String) :
    defaultPair (noEdges tables) left right = none := by
  rw [defaultPair, edge_noEdges]
  rfl

/-- The first declared key between two tables gives their default pair. -/
theorem defaultPair_declaredGraph (schema : TableColumns) (foreignKeys : ForeignKeyMap) :
    defaultPair (declaredGraph schema.keys foreignKeys) left right =
      (declaredKeys schema foreignKeys).findSome? fun inferred =>
        inferred.joins left right := by
  have folded : ∀ graph : RelationshipGraph, (∀ table, table ∈ graph ↔ table ∈ schema) →
      defaultPair (foreignKeys.foldl addForeignKeys graph) left right =
        (defaultPair graph left right).or
          ((declaredKeys schema foreignKeys).findSome? fun inferred =>
            inferred.joins left right) := by
    induction foreignKeys with
    | nil => simp [declaredKeys]
    | cons item rest inductionHypothesis =>
        intro graph same
        have sameThen : ∀ table, table ∈ addForeignKeys graph item ↔ table ∈ schema := by
          intro table
          rw [mem_addForeignKeys, same]
        have shown : declaredKeys schema (item :: rest) =
            declaredKeys schema [item] ++ declaredKeys schema rest := by
          simp [declaredKeys]
        rw [List.foldl_cons, inductionHypothesis _ sameThen, shown,
          List.findSome?_append, ← Option.or_assoc]
        congr 1
        unfold addForeignKeys declaredKeys
        by_cases isTable : item.1 ∈ schema
        · rw [if_pos ((same item.1).mpr isTable),
            defaultPair_addForeignKeys item.2 ((same item.1).mpr isTable)]
          simp only [same, List.flatMap_singleton, if_pos isTable]
        · rw [if_neg (fun isIn => isTable ((same item.1).mp isIn))]
          simp [isTable]
  have started := folded (noEdges schema.keys) fun table => mem_noEdges_keys
  rw [defaultPair_noEdges, Option.none_or] at started
  exact started

/-- The first key between two tables gives the default pair of the graph. -/
theorem defaultPair_buildRelationshipGraph (unicode : Unicode) (schema : TableColumns)
    (foreignKeys : ForeignKeyMap) (primaryKeys : TableColumns) :
    defaultPair (buildRelationshipGraph unicode schema foreignKeys primaryKeys)
        left right =
      (keysInOrder unicode schema foreignKeys primaryKeys).findSome? fun inferred =>
        inferred.joins left right := by
  have mapped : ∀ keys : List InferredKey,
      (keys.findSome? fun inferred => inferred.orient left right).map
          (fun keys => (keys.fromColumn, keys.toColumn)) =
        keys.findSome? fun inferred => inferred.joins left right := by
    intro keys
    rw [List.map_findSome?]
    rfl
  have found : defaultPair (foundGraph unicode schema foreignKeys) left right =
      (if foreignKeys = [] then guessedKeys unicode schema
        else declaredKeys schema foreignKeys).findSome? fun inferred =>
          inferred.joins left right := by
    by_cases noKeys : foreignKeys = []
    · rw [noKeys, if_pos rfl, defaultPair, edge_guessed, mapped]
    · rw [if_neg noKeys, foundGraph, if_neg noKeys, defaultPair_declaredGraph]
  unfold keysInOrder
  rw [List.findSome?_append, ← found, ← mapped, defaultPair, edge_buildRelationshipGraph,
    defaultPair]
  cases edge (foundGraph unicode schema foreignKeys) left right with
  | none => rfl
  | some keys => rfl

end Defaults

end DbBuddy.Planner
