import DbBuddy.Planner.JoinGraph
import DbBuddy.Library.ShortestPaths

/-!
# The paths between two tables

The search for a join path ends in every graph, with a shortest path that passes no
table twice.
-/

namespace DbBuddy.Planner

open DbBuddy.Library

/-- A walk from one table to another along the edges of the graph, with their keys. -/
abbrev JoinWalk (graph : RelationshipGraph) (start target : String)
    (path : List Hop) : Prop :=
  PathSearch.Walk (neighbours graph) start target path

/-- What a join path is to be: empty where there is nothing to join or no way, and else
a walk without repetition that no other walk is shorter than. -/
structure IsJoinPath (graph : RelationshipGraph) (start target : String)
    (path : List Hop) : Prop where
  empty_iff : path = [] ↔ start = target ∨ ¬ ∃ walk, JoinWalk graph start target walk
  walk : path ≠ [] → JoinWalk graph start target path
  nodup : path ≠ [] → (path.map PathSearch.Hop.source ++ [target]).Nodup
  shortest : path ≠ [] → ∀ other, JoinWalk graph start target other →
    path.length ≤ other.length

section Paths

variable {graph : RelationshipGraph} {start target : String} {path path' : List Hop}

theorem reachable_iff_walk : Reachable graph start target ↔
    ∃ walk, JoinWalk graph start target walk := by
  constructor
  · intro isReachable
    exact isReachable.walk
  · intro ⟨walk, isWalk⟩
    exact isWalk.reachable

theorem isJoinPath_of_finds (finds : Finds graph start target path) :
    IsJoinPath graph start target path where
  empty_iff := by
    constructor
    · intro isEmpty
      rcases finds.parent with ⟨same, _⟩ | ⟨_, parent, before, keys, _, _, isPath⟩
      · exact Or.inl same.symm
      · rw [isEmpty] at isPath
        simp at isPath
    · intro cases'
      rcases cases' with same | noWalk
      · subst same
        exact finds.unique PathSearch.finds_start
      · exact absurd ⟨path, finds.walk⟩ noWalk
  walk := fun _ => finds.walk
  nodup := fun _ => finds.nodup
  shortest := fun _ _ isWalk => finds.shortest isWalk

theorem isJoinPath_of_unreachable (noWay : ¬ Reachable graph start target) :
    IsJoinPath graph start target [] where
  empty_iff := by
    rw [reachable_iff_walk] at noWay
    constructor
    · intro _
      exact Or.inr noWay
    · intro _
      rfl
  walk := fun notEmpty => absurd rfl notEmpty
  nodup := fun notEmpty => absurd rfl notEmpty
  shortest := fun notEmpty => absurd rfl notEmpty

/-- More fuel than a search needs changes nothing. -/
theorem search_of_le {fuel : ℕ} (enough : searchFuel graph ≤ fuel) :
    PathSearch.search (neighbours graph) target fuel [(start, [])] [] =
      some (findJoinPath graph start target) := by
  have closed : ∀ node ∈ start :: allTables graph,
      ∀ next ∈ neighbours graph node, next.1 ∈ start :: allTables graph :=
    fun node _ next isEdge => List.mem_cons_of_mem _ (mem_allTables isEdge)
  have lasts : ((allTables graph).length + 1) ^ (start :: allTables graph).length <
      fuel := by
    simp only [List.length_cons]
    exact Nat.lt_of_succ_le enough
  have isFound := PathSearch.search_spec target fuel List.mem_cons_self closed
    (fun node _ => neighbours_length node) lasts
  obtain ⟨path, found, isPath⟩ := isFound
  have isPath' := (findJoinPath_spec graph start target).2
  rw [found]
  apply congrArg some
  rcases isPath with finds | ⟨isEmpty, noWay⟩
  · rcases isPath' with finds' | ⟨_, noWay⟩
    · exact finds.unique finds'
    · exact absurd finds.reachable noWay
  · rcases isPath' with finds' | ⟨isEmpty', _⟩
    · exact absurd finds'.reachable noWay
    · rw [isEmpty, isEmpty']

end Paths

/-- In every graph the search ends, and it finds a shortest path from one table to the
other. -/
theorem findJoinPath_shortest (graph : RelationshipGraph) (start target : String) :
    (∀ fuel, searchFuel graph ≤ fuel →
      PathSearch.search (neighbours graph) target fuel [(start, [])] [] =
        some (findJoinPath graph start target)) ∧
      IsJoinPath graph start target (findJoinPath graph start target) := by
  constructor
  · intro fuel enough
    exact search_of_le enough
  · rcases (findJoinPath_spec graph start target).2 with finds | ⟨isEmpty, noWay⟩
    · exact isJoinPath_of_finds finds
    · rw [isEmpty]
      exact isJoinPath_of_unreachable noWay

end DbBuddy.Planner
