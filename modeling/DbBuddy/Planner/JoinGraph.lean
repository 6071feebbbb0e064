import DbBuddy.Library.PathSearch
import DbBuddy.Library.PythonText
import DbBuddy.Library.GrowingTree
import Mathlib.Data.List.AList

/-!
# The relationship graph and the joins read from it

A relationship graph maps each table to its neighbours and the columns to join
them on.  Joins are found by a breadth-first search from the base table.
-/

namespace DbBuddy.Planner

open DbBuddy.Library

/-- The tables of a database and their columns.  No engine has a table without a
name, and no two names differ by case only. -/
structure Schema (unicode : Unicode) where
  tables : List (String × List String)
  named : ∀ table ∈ tables, table.1 ≠ ""
  distinct : (tables.map fun table => unicode.lower table.1).Nodup

namespace Schema

variable {unicode : Unicode}

def names (schema : Schema unicode) : List String :=
  schema.tables.map Prod.fst

/-- `schema.get(table, [])` -/
def columns (schema : Schema unicode) (table : String) : List String :=
  (schema.tables.lookup table).getD []

theorem ne_empty (schema : Schema unicode) {table : String}
    (isTable : table ∈ schema.names) : table ≠ "" := by
  obtain ⟨entry, isEntry, rfl⟩ := List.mem_map.mp isTable
  exact schema.named entry isEntry

theorem lower_injective (schema : Schema unicode) {table other : String}
    (isTable : table ∈ schema.names) (isOther : other ∈ schema.names)
    (same : unicode.lower table = unicode.lower other) : table = other := by
  obtain ⟨entry, isEntry, rfl⟩ := List.mem_map.mp isTable
  obtain ⟨entry', isEntry', rfl⟩ := List.mem_map.mp isOther
  have sameEntry := List.inj_on_of_nodup_map schema.distinct isEntry isEntry' same
  rw [sameEntry]

end Schema

/-- `JoinKeys`: the columns to join on, and the other ways to make the join. -/
structure JoinKeys where
  fromColumn : String
  toColumn : String
  alternates : List (String × String)
  deriving DecidableEq, Repr

/-- The default pair and the alternate ones. -/
def JoinKeys.pairs (keys : JoinKeys) : List (String × String) :=
  (keys.fromColumn, keys.toColumn) :: keys.alternates

/-- Tables in the order a dictionary lists them. -/
abbrev RelationshipGraph :=
  AList fun _ : String => AList fun _ : String => JoinKeys

/-- `graph.get(table, {}).items()` -/
def neighbours (graph : RelationshipGraph) (table : String) :
    List (String × JoinKeys) :=
  match graph.lookup table with
  | none => []
  | some edges => edges.entries.map fun edge => (edge.1, edge.2)

/-- All edges of the graph lead from a table of the schema to another one. -/
def Over {unicode : Unicode} (schema : Schema unicode)
    (graph : RelationshipGraph) : Prop :=
  ∀ table next keys, (next, keys) ∈ neighbours graph table →
    table ∈ schema.names ∧ next ∈ schema.names

/-! ## The search -/

/-- Every table of the graph, and every neighbour of one. -/
def allTables (graph : RelationshipGraph) : List String :=
  graph.keys ++ graph.keys.flatMap fun table =>
    (neighbours graph table).map Prod.fst

/-- More steps than any search in the graph takes. -/
def searchFuel (graph : RelationshipGraph) : ℕ :=
  ((allTables graph).length + 1) ^ ((allTables graph).length + 1) + 1

/-- A hop `(left, right, (left_key, right_key))` of a path. -/
abbrev Hop := PathSearch.Hop String JoinKeys

/-- `find_join_path` -/
def findJoinPath (graph : RelationshipGraph) (start target : String) : List Hop :=
  (PathSearch.search (neighbours graph) target (searchFuel graph) [(start, [])]
    []).getD []

/-- The path that a search for `table` finds. -/
abbrev Finds (graph : RelationshipGraph) (base table : String)
    (path : List Hop) : Prop :=
  PathSearch.Finds (neighbours graph) base table path

/-- The graph has a way from one table to the other. -/
abbrev Reachable (graph : RelationshipGraph) (base table : String) : Prop :=
  PathSearch.Reachable (neighbours graph) base table

variable {graph : RelationshipGraph} {base table : String}

theorem neighbours_of_notMem (absent : table ∉ graph.keys) :
    neighbours graph table = [] := by
  have noEdges : graph.lookup table = none := by
    rw [AList.lookup_eq_none, AList.mem_keys]
    exact absent
  simp [neighbours, noEdges]

theorem mem_allTables {next : String} {keys : JoinKeys}
    (isEdge : (next, keys) ∈ neighbours graph table) : next ∈ allTables graph := by
  have isTable : table ∈ graph.keys := by
    by_contra absent
    rw [neighbours_of_notMem absent] at isEdge
    cases isEdge
  exact List.mem_append_right _ (List.mem_flatMap.mpr
    ⟨table, isTable, List.mem_map.mpr ⟨(next, keys), isEdge, rfl⟩⟩)

theorem neighbours_length (table : String) :
    (neighbours graph table).length ≤ (allTables graph).length := by
  by_cases isTable : table ∈ graph.keys
  · have sublist : ((neighbours graph table).map Prod.fst).Sublist
        (graph.keys.flatMap fun table => (neighbours graph table).map Prod.fst) :=
      List.sublist_flatten_of_mem (List.mem_map.mpr ⟨table, isTable, rfl⟩)
    have bound := sublist.length_le
    simp only [List.length_map] at bound
    simp only [allTables, List.length_append]
    omega
  · simp [neighbours_of_notMem isTable]

/-- The loop ends, and finds the path if there is one. -/
theorem findJoinPath_spec (graph : RelationshipGraph) (base table : String) :
    PathSearch.search (neighbours graph) table (searchFuel graph) [(base, [])] [] =
        some (findJoinPath graph base table) ∧
      (Finds graph base table (findJoinPath graph base table) ∨
        (findJoinPath graph base table = [] ∧ ¬ Reachable graph base table)) := by
  have closed : ∀ node ∈ base :: allTables graph,
      ∀ next ∈ neighbours graph node, next.1 ∈ base :: allTables graph :=
    fun node _ next isEdge => List.mem_cons_of_mem _ (mem_allTables isEdge)
  obtain ⟨path, found, isPath⟩ := PathSearch.search_spec table
    (searchFuel graph) List.mem_cons_self closed
    (fun node _ => neighbours_length node)
    (by simp [searchFuel])
  have isFound : findJoinPath graph base table = path := by
    simp [findJoinPath, found]
  rw [isFound]
  exact ⟨found, isPath⟩

end DbBuddy.Planner
