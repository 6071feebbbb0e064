import DbBuddy.Library.WalkOrder
import DbBuddy.Planner.JoinPaths
import DbBuddy.Library.Dict
import Mathlib.Algebra.Order.BigOperators.Group.Finset

/-!
# The work of a join search

`find_join_path` marks a table when it leaves the queue and does not look at the mark
again, so a table that waits there twice is expanded twice.
-/

namespace DbBuddy.Planner

open DbBuddy.Library

/-- The tables whose neighbours `find_join_path` goes through, in order. -/
def expandedTables (graph : RelationshipGraph) (start target : String) : List String :=
  PathSearch.expansions (neighbours graph) target (searchFuel graph) [(start, [])] []

/-- How often the loop of `find_join_path` runs. -/
def loopCount (graph : RelationshipGraph) (start target : String) : ℕ :=
  PathSearch.iterations (neighbours graph) target (searchFuel graph) [(start, [])] []

/-- The number of directed edges. -/
def edgeCount (graph : RelationshipGraph) : ℕ :=
  (graph.keys.map fun table => (neighbours graph table).length).sum

/-- No table is expanded twice, and an edge is followed at most once. -/
structure LinearWork (graph : RelationshipGraph) (start target : String) : Prop where
  once : (expandedTables graph start target).Nodup
  bounded : loopCount graph start target ≤ edgeCount graph + 1

/-- In front of the target every edge leads back to a table reached before, or is the last
one of the first walk to its table. -/
abbrev Unshared (graph : RelationshipGraph) (start target : String) : Prop :=
  PathSearch.Unshared (neighbours graph) start target

variable {graph : RelationshipGraph} {start target : String}

theorem distinct_neighbours (graph : RelationshipGraph) :
    PathSearch.Distinct (neighbours graph) := by
  intro table
  unfold neighbours
  split
  · exact List.nodup_nil
  · next edges _ =>
      rw [List.map_map]
      exact edges.nodupKeys

/-- Tables that are expanded once have no more edges than the graph. -/
theorem sum_neighbours_le {tables : List String} (nodup : tables.Nodup) :
    (tables.map fun table => (neighbours graph table).length).sum ≤ edgeCount graph := by
  rw [edgeCount, ← List.sum_toFinset _ nodup, ← List.sum_toFinset _ graph.keys_nodup]
  apply Finset.sum_le_sum_of_ne_zero
  intro table _ hasEdges
  rw [List.mem_toFinset]
  by_contra absent
  rw [neighbours_of_notMem absent] at hasEdges
  exact hasEdges rfl

/-- The work is linear if and only if no table in front of the target can be reached in a
second way before it is expanded. -/
theorem linearWork_iff (graph : RelationshipGraph) (start target : String) :
    LinearWork graph start target ↔ Unshared graph start target := by
  obtain ⟨ends, _⟩ := findJoinPath_spec graph start target
  obtain ⟨taken, queue, progress, stops, isTaken, bound⟩ :=
    PathSearch.search_stops PathSearch.Progress.start (by simp) ends
  rw [List.map_nil, List.append_nil] at isTaken
  have once : (expandedTables graph start target).Nodup ↔ Unshared graph start target := by
    have isIff := progress.nodup_iff (distinct_neighbours graph) stops
    rw [isTaken, List.nodup_reverse] at isIff
    exact isIff
  constructor
  · intro work
    exact once.mp work.once
  · intro unshared
    refine ⟨once.mpr unshared, ?_⟩
    have nodup : (taken.map Prod.fst).Nodup := by
      rw [isTaken, List.nodup_reverse]
      exact once.mpr unshared
    calc loopCount graph start target
        ≤ taken.length + queue.length := by
          simpa [loopCount] using bound
      _ ≤ ((taken.map Prod.fst).map fun table => (neighbours graph table).length).sum + 1 :=
          progress.length_le
      _ ≤ edgeCount graph + 1 := Nat.succ_le_succ (sum_neighbours_le nodup)

/-- Edges on the columns of one name. -/
def edgesTo (column : String) (tables : List String) : Dict String JoinKeys :=
  tables.foldl (fun edges table => edges.assign table ⟨column, column, []⟩) ∅

/-- Two ways from the customers to the refunds, and the payments behind them. -/
def twoWays : RelationshipGraph :=
  Dict.assign (Dict.assign (Dict.assign (Dict.assign (Dict.assign ∅
    "customers" (edgesTo "customer_id" ["orders", "tickets"]))
    "orders" (edgesTo "order_id" ["customers", "refunds"]))
    "tickets" (edgesTo "ticket_id" ["customers", "refunds"]))
    "refunds" (edgesTo "refund_id" ["orders", "tickets", "payments"]))
    "payments" (edgesTo "refund_id" ["refunds"])

theorem not_linearWork_twoWays : ¬ LinearWork twoWays "customers" "payments" := by
  intro work
  exact absurd work.once (by decide)

example : expandedTables twoWays "customers" "payments" =
    ["customers", "orders", "tickets", "refunds", "refunds"] := by
  decide

end DbBuddy.Planner
