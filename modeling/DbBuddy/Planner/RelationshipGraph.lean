import DbBuddy.Planner.JoinGraph
import DbBuddy.Library.Dict

/-!
# Building the relationship graph

Each declared foreign key puts an edge into the graph in either direction.
-/

namespace DbBuddy.Planner

open DbBuddy.Library

/-- A foreign key of a table: its column, the table it refers to, and the column
there. -/
structure ForeignKey where
  column : String
  refTable : String
  refColumn : String
  deriving DecidableEq, Repr

/-- `ForeignKeyMap` as the items of the dictionary. -/
abbrev ForeignKeyMap := List (String × List ForeignKey)

/-- The keys of an edge with one pair more, unless it has that pair. -/
def JoinKeys.addPair (keys : JoinKeys) (column refColumn : String) : JoinKeys :=
  if (keys.fromColumn, keys.toColumn) = (column, refColumn) then keys
  else if (column, refColumn) ∈ keys.alternates then keys
  else { keys with alternates := keys.alternates ++ [(column, refColumn)] }

/-- `_add_edge`; the callers have checked that the table is in the graph. -/
def addEdge (graph : RelationshipGraph) (table refTable column refColumn : String) :
    RelationshipGraph :=
  match graph.lookup table with
  | none => graph
  | some edges =>
      match edges.lookup refTable with
      | none =>
          Dict.assign graph table
            (Dict.assign edges refTable ⟨column, refColumn, []⟩)
      | some keys =>
          Dict.assign graph table
            (Dict.assign edges refTable (keys.addPair column refColumn))

/-- Both directions of a foreign key, if the table it refers to is in the graph. -/
def addForeignKey (graph : RelationshipGraph) (table : String) (key : ForeignKey) :
    RelationshipGraph :=
  if key.refTable ∈ graph then
    addEdge (addEdge graph table key.refTable key.column key.refColumn)
      key.refTable table key.refColumn key.column
  else graph

/-- The foreign keys of one table, if it is in the graph. -/
def addForeignKeys (graph : RelationshipGraph)
    (item : String × List ForeignKey) : RelationshipGraph :=
  if item.1 ∈ graph then
    item.2.foldl (fun graph key => addForeignKey graph item.1 key) graph
  else graph

/-- The tables of a schema without any edge. -/
def noEdges (tables : List String) : RelationshipGraph :=
  tables.foldl (fun graph table => Dict.assign graph table ∅) ∅

/-- `build_relationship_graph`, as far as the declared foreign keys go. -/
def declaredGraph (tables : List String) (foreignKeys : ForeignKeyMap) :
    RelationshipGraph :=
  foreignKeys.foldl addForeignKeys (noEdges tables)

/-- The default pair of an edge and the alternate ones; none if there is no edge. -/
def edgePairs (graph : RelationshipGraph) (table refTable : String) :
    List (String × String) :=
  match graph.lookup table with
  | none => []
  | some edges =>
      match edges.lookup refTable with
      | none => []
      | some keys => keys.pairs

/-! ## What the graph holds -/

section Edges

variable {graph : RelationshipGraph} {table refTable other : String}
variable {column refColumn : String} {left right : String} {pair : String × String}

theorem JoinKeys.mem_pairs_addPair {keys : JoinKeys} :
    pair ∈ (keys.addPair column refColumn).pairs ↔
      pair ∈ keys.pairs ∨ pair = (column, refColumn) := by
  unfold JoinKeys.addPair
  split
  · rename_i isDefault
    constructor
    · exact Or.inl
    · rintro (isIn | rfl)
      · exact isIn
      · rw [JoinKeys.pairs, isDefault]
        exact List.mem_cons_self
  · split
    · rename_i isAlternate
      constructor
      · exact Or.inl
      · rintro (isIn | rfl)
        · exact isIn
        · exact List.mem_cons_of_mem _ isAlternate
    · simp only [JoinKeys.pairs, List.mem_cons, List.mem_append, List.not_mem_nil,
        or_false]
      exact or_assoc.symm

theorem mem_addEdge : other ∈ addEdge graph table refTable column refColumn ↔
    other ∈ graph := by
  unfold addEdge
  split
  · exact Iff.rfl
  · rename_i edges isTable
    have present : table ∈ graph := by
      apply AList.lookup_isSome.mp
      rw [isTable]
      rfl
    have unchanged : ∀ edges, other ∈ Dict.assign graph table edges ↔
        other ∈ graph := by
      intro edges
      rw [Dict.mem_assign]
      constructor
      · rintro (rfl | isIn)
        · exact present
        · exact isIn
      · exact Or.inr
    split
    · exact unchanged _
    · exact unchanged _

/-- One edge gets one pair more. -/
theorem mem_edgePairs_addEdge (isTable : table ∈ graph) :
    pair ∈ edgePairs (addEdge graph table refTable column refColumn) left right ↔
      pair ∈ edgePairs graph left right ∨
        left = table ∧ right = refTable ∧ pair = (column, refColumn) := by
  obtain ⟨edges, isEdges⟩ := Option.isSome_iff_exists.mp
    (AList.lookup_isSome.mpr isTable)
  have reassigned : ∀ edges', left ≠ table →
      edgePairs (Dict.assign graph table edges') left right =
        edgePairs graph left right := by
    intro edges' different
    unfold edgePairs
    rw [Dict.lookup_assign_of_ne different]
  unfold addEdge
  rw [isEdges]
  dsimp only
  by_cases sameTable : left = table
  · subst left
    cases isKeys : edges.lookup refTable with
    | none =>
        dsimp only
        by_cases sameRef : right = refTable
        · subst right
          simp [edgePairs, isEdges, isKeys, JoinKeys.pairs]
        · simp [edgePairs, isEdges, Dict.lookup_assign_of_ne sameRef, sameRef]
    | some keys =>
        dsimp only
        by_cases sameRef : right = refTable
        · subst right
          simp [edgePairs, isEdges, isKeys, JoinKeys.mem_pairs_addPair]
        · simp [edgePairs, isEdges, Dict.lookup_assign_of_ne sameRef, sameRef]
  · cases isKeys : edges.lookup refTable with
    | none =>
        dsimp only
        rw [reassigned _ sameTable]
        simp [sameTable]
    | some keys =>
        dsimp only
        rw [reassigned _ sameTable]
        simp [sameTable]

/-- A pair that a foreign key of `table` gives to the edge from `left` to `right`. -/
def ForeignKey.gives (key : ForeignKey) (table left right : String)
    (pair : String × String) : Prop :=
  left = table ∧ right = key.refTable ∧ pair = (key.column, key.refColumn) ∨
    left = key.refTable ∧ right = table ∧ pair = (key.refColumn, key.column)

theorem mem_addForeignKey {key : ForeignKey} :
    other ∈ addForeignKey graph table key ↔ other ∈ graph := by
  unfold addForeignKey
  split
  · rw [mem_addEdge, mem_addEdge]
  · exact Iff.rfl

theorem mem_edgePairs_addForeignKey {key : ForeignKey} (isTable : table ∈ graph) :
    pair ∈ edgePairs (addForeignKey graph table key) left right ↔
      pair ∈ edgePairs graph left right ∨
        key.refTable ∈ graph ∧ key.gives table left right pair := by
  unfold addForeignKey
  split
  · rename_i isRef
    rw [mem_edgePairs_addEdge (mem_addEdge.mpr isRef), mem_edgePairs_addEdge isTable]
    simp [isRef, ForeignKey.gives, or_assoc]
  · rename_i noRef
    simp [noRef]

theorem mem_foldl_addForeignKey (keys : List ForeignKey) :
    other ∈ keys.foldl (fun graph key => addForeignKey graph table key) graph ↔
      other ∈ graph := by
  induction keys generalizing graph with
  | nil =>
      exact Iff.rfl
  | cons key rest inductionHypothesis =>
      rw [List.foldl_cons, inductionHypothesis, mem_addForeignKey]

theorem mem_edgePairs_foldl_addForeignKey (keys : List ForeignKey)
    (isTable : table ∈ graph) :
    pair ∈ edgePairs (keys.foldl (fun graph key => addForeignKey graph table key)
        graph) left right ↔
      pair ∈ edgePairs graph left right ∨
        ∃ key ∈ keys, key.refTable ∈ graph ∧ key.gives table left right pair := by
  induction keys generalizing graph with
  | nil =>
      simp
  | cons key rest inductionHypothesis =>
      have present : table ∈ addForeignKey graph table key :=
        mem_addForeignKey.mpr isTable
      rw [List.foldl_cons, inductionHypothesis present,
        mem_edgePairs_addForeignKey isTable]
      simp only [mem_addForeignKey, List.exists_mem_cons_iff, or_assoc]

theorem mem_addForeignKeys {item : String × List ForeignKey} :
    other ∈ addForeignKeys graph item ↔ other ∈ graph := by
  unfold addForeignKeys
  split
  · exact mem_foldl_addForeignKey item.2
  · exact Iff.rfl

/-- What all the foreign keys of a map give to an edge. -/
theorem mem_edgePairs_foldl_addForeignKeys (foreignKeys : ForeignKeyMap) :
    pair ∈ edgePairs (foreignKeys.foldl addForeignKeys graph) left right ↔
      pair ∈ edgePairs graph left right ∨
        ∃ item ∈ foreignKeys, item.1 ∈ graph ∧ ∃ key ∈ item.2,
          key.refTable ∈ graph ∧ key.gives item.1 left right pair := by
  induction foreignKeys generalizing graph with
  | nil =>
      simp
  | cons item rest inductionHypothesis =>
      have first : pair ∈ edgePairs (addForeignKeys graph item) left right ↔
          pair ∈ edgePairs graph left right ∨
            item.1 ∈ graph ∧ ∃ key ∈ item.2,
              key.refTable ∈ graph ∧ key.gives item.1 left right pair := by
        unfold addForeignKeys
        split
        · rename_i isTable
          rw [mem_edgePairs_foldl_addForeignKey item.2 isTable]
          simp [isTable]
        · rename_i noTable
          simp [noTable]
      rw [List.foldl_cons, inductionHypothesis, first]
      simp only [mem_addForeignKeys, List.exists_mem_cons_iff, or_assoc]

theorem mem_foldl_assign (tables : List String) :
    other ∈ tables.foldl (fun graph table => Dict.assign graph table ∅) graph ↔
      other ∈ graph ∨ other ∈ tables := by
  induction tables generalizing graph with
  | nil =>
      simp
  | cons table rest inductionHypothesis =>
      rw [List.foldl_cons, inductionHypothesis, Dict.mem_assign, List.mem_cons,
        or_comm (a := other = table), or_assoc]

theorem mem_noEdges {tables : List String} :
    other ∈ noEdges tables ↔ other ∈ tables := by
  unfold noEdges
  rw [mem_foldl_assign]
  simp

theorem edgePairs_noEdges (tables : List String) :
    edgePairs (noEdges tables) left right = [] := by
  have bare : ∀ graph : RelationshipGraph,
      (∀ table edges, graph.lookup table = some edges → edges = ∅) →
      ∀ table edges,
        (tables.foldl (fun graph table => Dict.assign graph table ∅)
          graph).lookup table = some edges → edges = ∅ := by
    induction tables with
    | nil =>
        exact fun graph isBare => isBare
    | cons first rest inductionHypothesis =>
        intro graph isBare
        apply inductionHypothesis
        intro table edges found
        rw [Dict.lookup_assign] at found
        split at found
        · cases found
          rfl
        · exact isBare table edges found
  unfold edgePairs
  cases found : (noEdges tables).lookup left with
  | none =>
      rfl
  | some edges =>
      have isBare := bare ∅ (by simp) left edges found
      rw [isBare]
      rfl

/-- An edge of the graph carries the pairs that the foreign keys of its two tables
give to it, and no others. -/
theorem mem_edgePairs_declaredGraph (tables : List String)
    (foreignKeys : ForeignKeyMap) :
    pair ∈ edgePairs (declaredGraph tables foreignKeys) left right ↔
      ∃ item ∈ foreignKeys, item.1 ∈ tables ∧ ∃ key ∈ item.2,
        key.refTable ∈ tables ∧ key.gives item.1 left right pair := by
  unfold declaredGraph
  rw [mem_edgePairs_foldl_addForeignKeys, edgePairs_noEdges]
  simp [mem_noEdges]

end Edges

end DbBuddy.Planner
