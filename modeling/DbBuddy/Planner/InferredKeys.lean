import DbBuddy.Planner.RelationshipGraph
import DbBuddy.Planner.ColumnRepair

/-!
# Keys that the graph infers

Where no foreign key is declared, a column `<x>_id` is taken for one to a table `<x>`;
and a column is taken for one to the only table whose primary key has its name.  Of two
tables the first pair of columns stays.
-/

namespace DbBuddy.Planner

open DbBuddy.Library

/-- The tables of a schema, or those with a primary key, with columns of each. -/
abbrev TableColumns := Dict String (List String)

/-- `schema[table]` -/
def TableColumns.of (schema : TableColumns) (table : String) : List String :=
  (schema.lookup table).getD []

/-! ## Names that stand for tables -/

def endsWith (ending text : String) : Bool :=
  ending.toList.isSuffixOf text.toList

/-- `text[:-count]` -/
def dropEnd (count : ℕ) (text : String) : String :=
  String.ofList (text.toList.take (text.toList.length - count))

/-- `_name_candidates` -/
def nameCandidates (stem : String) : List String :=
  [stem, stem ++ "s"] ++
    (if endsWith "y" stem then [dropEnd 1 stem ++ "ies"] else []) ++
    if ["s", "x", "z", "ch", "sh"].any fun ending => endsWith ending stem then
      [stem ++ "es"]
    else []

/-- `_singular_forms` -/
def singularForms (stem : String) : List String :=
  (if endsWith "ies" stem then [dropEnd 3 stem ++ "y"] else []) ++
    (if endsWith "es" stem then [dropEnd 2 stem] else []) ++
    if endsWith "s" stem then [dropEnd 1 stem] else []

section Inference

variable (unicode : Unicode) (schema : TableColumns)

/-- `_resolve_referenced_table` -/
def resolveReferencedTable (column table : String) : Option String :=
  let lower := unicode.lower column
  if endsWith "_id" lower = false ∨ lower = "_id" then none
  else
    let stem := dropEnd 3 lower
    (nameCandidates stem ++ singularForms stem).findSome? fun candidate =>
      (lastSpelled unicode.lower schema.keys candidate).filter fun hit =>
        decide (hit ≠ table)

/-- `_primary_key_of` -/
def primaryKeyOf (columns : List String) (table : String) : Option String :=
  let spelled := lastSpelled unicode.lower columns
  let lower := unicode.lower table
  let stem := String.ofList (stripEnd 's' lower.toList)
  match ["id", "pk", lower ++ "_id", stem ++ "_id"].findSome? spelled with
  | some column => some column
  | none =>
      match (columns.map unicode.lower).dedup.filter (endsWith "_id") with
      | [only] => spelled only
      | _ => none

/-- A guess of the heuristic: a column of a table, and the table it refers to. -/
structure Guess where
  table : String
  column : String
  refTable : String
  deriving DecidableEq, Repr

/-- The guesses, in the order of the tables and their columns. -/
def guesses : List Guess :=
  schema.entries.flatMap fun entry => entry.2.filterMap fun column =>
    (resolveReferencedTable unicode schema column entry.1).map fun refTable =>
      ⟨entry.1, column, refTable⟩

/-- `ref_col`: the key of the table, or else the name of the column. -/
def Guess.refColumn (guess : Guess) : String :=
  (primaryKeyOf unicode (schema.of guess.refTable) guess.refTable).getD guess.column

/-- A key of a table that is only inferred. -/
structure InferredKey where
  table : String
  key : ForeignKey
  deriving DecidableEq, Repr

def guessedKeys : List InferredKey :=
  (guesses unicode schema).map fun guess =>
    ⟨guess.table, guess.column, guess.refTable, guess.refColumn unicode schema⟩

/-- `unique.get(name)`: the one table with this primary key. -/
def uniqueOwner (primaryKeys : TableColumns) (name : String) : Option String :=
  match (primaryKeys.entries.filter fun entry =>
      decide (entry.1 ∈ schema) &&
        decide (entry.2.map unicode.lower = [name])).map Sigma.fst with
  | [table] => some table
  | _ => none

/-- The columns with the name of a primary key, in the order of the tables. -/
def primaryKeyed (primaryKeys : TableColumns) : List InferredKey :=
  schema.entries.flatMap fun entry => entry.2.filterMap fun column =>
    match uniqueOwner unicode schema primaryKeys (unicode.lower column) with
    | none => none
    | some parent =>
        if parent = entry.1 ∨
            unicode.lower column ∈ (primaryKeys.of entry.1).map unicode.lower then none
        else some ⟨entry.1, column, parent, (primaryKeys.of parent).headD ""⟩

end Inference

/-! ## The graph -/

/-- `graph[table].setdefault(ref_table, (column, ref_column))` -/
def setDefault (graph : RelationshipGraph) (table refTable column refColumn : String) :
    RelationshipGraph :=
  match graph.lookup table with
  | none => graph
  | some edges =>
      if refTable ∈ edges then graph
      else Dict.assign graph table (Dict.assign edges refTable ⟨column, refColumn, []⟩)

/-- Both directions of an inferred key. -/
def addInferred (graph : RelationshipGraph) (inferred : InferredKey) :
    RelationshipGraph :=
  let key := inferred.key
  setDefault (setDefault graph inferred.table key.refTable key.column key.refColumn)
    key.refTable inferred.table key.refColumn key.column

/-- The graph before the primary keys are looked at. -/
def foundGraph (unicode : Unicode) (schema : TableColumns) (foreignKeys : ForeignKeyMap) :
    RelationshipGraph :=
  if foreignKeys = [] then
    (guessedKeys unicode schema).foldl addInferred (noEdges schema.keys)
  else declaredGraph schema.keys foreignKeys

/-- `build_relationship_graph` -/
def buildRelationshipGraph (unicode : Unicode) (schema : TableColumns)
    (foreignKeys : ForeignKeyMap) (primaryKeys : TableColumns) : RelationshipGraph :=
  (primaryKeyed unicode schema primaryKeys).foldl addInferred
    (foundGraph unicode schema foreignKeys)

/-- The keys of an edge. -/
def edge (graph : RelationshipGraph) (table refTable : String) : Option JoinKeys :=
  (graph.lookup table).bind fun edges => edges.lookup refTable

theorem edgePairs_eq (graph : RelationshipGraph) (table refTable : String) :
    edgePairs graph table refTable =
      ((edge graph table refTable).map JoinKeys.pairs).getD [] := by
  unfold edgePairs edge
  cases graph.lookup table with
  | none => rfl
  | some edges =>
      dsimp only [Option.bind_some]
      cases edges.lookup refTable with
      | none => rfl
      | some keys => rfl

/-! ## What an inferred key does to the edges -/

section Edges

variable {graph : RelationshipGraph} {table refTable column refColumn : String}
variable {left right other : String} {inferred : InferredKey} {keys : List InferredKey}

/-- The edge from `left` to `right` that an inferred key makes. -/
def InferredKey.orient (inferred : InferredKey) (left right : String) : Option JoinKeys :=
  let key := inferred.key
  if left = inferred.table ∧ right = key.refTable then
    some ⟨key.column, key.refColumn, []⟩
  else if left = key.refTable ∧ right = inferred.table then
    some ⟨key.refColumn, key.column, []⟩
  else none

theorem mem_setDefault : other ∈ setDefault graph table refTable column refColumn ↔
    other ∈ graph := by
  unfold setDefault
  split
  · exact Iff.rfl
  · next edges isTable =>
      have present : table ∈ graph := by
        apply AList.lookup_isSome.mp
        rw [isTable]
        rfl
      split
      · exact Iff.rfl
      · rw [Dict.mem_assign]
        constructor
        · intro isIn
          rcases isIn with rfl | isOld
          · exact present
          · exact isOld
        · exact Or.inr

/-- Only a missing edge is set. -/
theorem edge_setDefault (isTable : table ∈ graph) :
    edge (setDefault graph table refTable column refColumn) left right =
      (edge graph left right).or
        (if left = table ∧ right = refTable then some ⟨column, refColumn, []⟩
        else none) := by
  have found := AList.lookup_isSome.mpr isTable
  obtain ⟨edges, isEdges⟩ := Option.isSome_iff_exists.mp found
  unfold setDefault
  rw [isEdges]
  dsimp only
  by_cases isEdge : left = table ∧ right = refTable
  · obtain ⟨rfl, rfl⟩ := isEdge
    rw [if_pos (And.intro (Eq.refl left) (Eq.refl right))]
    by_cases present : right ∈ edges
    · have isSome := AList.lookup_isSome.mpr present
      obtain ⟨keys, isKeys⟩ := Option.isSome_iff_exists.mp isSome
      rw [if_pos present]
      simp [edge, isEdges, isKeys]
    · have isNone := AList.lookup_eq_none.mpr present
      rw [if_neg present]
      simp [edge, isEdges, isNone]
  · rw [if_neg isEdge, Option.or_none]
    split
    · rfl
    · by_cases sameTable : left = table
      · subst sameTable
        have otherRef : right ≠ refTable := fun same => isEdge ⟨rfl, same⟩
        simp [edge, isEdges, Dict.lookup_assign_of_ne otherRef]
      · simp [edge, Dict.lookup_assign_of_ne sameTable]

theorem mem_addInferred : other ∈ addInferred graph inferred ↔ other ∈ graph := by
  unfold addInferred
  rw [mem_setDefault, mem_setDefault]

theorem edge_addInferred (isTable : inferred.table ∈ graph)
    (isRef : inferred.key.refTable ∈ graph) :
    edge (addInferred graph inferred) left right =
      (edge graph left right).or (inferred.orient left right) := by
  unfold addInferred InferredKey.orient
  dsimp only
  rw [edge_setDefault (mem_setDefault.mpr isRef), edge_setDefault isTable, Option.or_assoc]
  congr 1
  split
  · rfl
  · rfl

/-- Of the keys between two tables the first one makes their edges. -/
theorem edge_foldl_addInferred
    (tables : ∀ inferred ∈ keys, inferred.table ∈ graph ∧
      inferred.key.refTable ∈ graph) :
    edge (keys.foldl addInferred graph) left right =
      (edge graph left right).or (keys.findSome? fun inferred =>
        inferred.orient left right) := by
  induction keys generalizing graph with
  | nil => simp
  | cons inferred rest inductionHypothesis =>
      obtain ⟨isTable, isRef⟩ := tables inferred List.mem_cons_self
      have tablesThen : ∀ later ∈ rest, later.table ∈ addInferred graph inferred ∧
          later.key.refTable ∈ addInferred graph inferred := by
        intro later isLater
        rw [mem_addInferred, mem_addInferred]
        exact tables later (List.mem_cons_of_mem _ isLater)
      rw [List.foldl_cons, inductionHypothesis tablesThen, edge_addInferred isTable isRef,
        Option.or_assoc, List.findSome?_cons]
      cases inferred.orient left right with
      | none => rfl
      | some keys => rfl

theorem edge_noEdges (tables : List String) : edge (noEdges tables) left right = none := by
  have noPairs := @edgePairs_noEdges left right tables
  rw [edgePairs_eq] at noPairs
  cases isEdge : edge (noEdges tables) left right with
  | none => rfl
  | some keys =>
      rw [isEdge] at noPairs
      cases noPairs

end Edges

/-! ## The inferred keys name tables and columns -/

section Names

variable {unicode : Unicode} {schema primaryKeys : TableColumns}
variable {foreignKeys : ForeignKeyMap} {columns : List String}
variable {table column refTable : String} {inferred : InferredKey}

theorem mem_of_lastSpelled {spell : String → String} {spelling : String}
    (found : lastSpelled spell columns spelling = some column) : column ∈ columns := by
  have isIn := List.mem_of_find?_eq_some found
  exact List.mem_reverse.mp isIn

theorem mem_of_primaryKeyOf (found : primaryKeyOf unicode columns table = some column) :
    column ∈ columns := by
  unfold primaryKeyOf at found
  dsimp only at found
  split at found
  · next isNamed =>
      cases found
      obtain ⟨candidate, _, isSpelled⟩ := List.exists_of_findSome?_eq_some isNamed
      exact mem_of_lastSpelled isSpelled
  · split at found
    · exact mem_of_lastSpelled found
    · cases found

theorem mem_of_resolveReferencedTable
    (found : resolveReferencedTable unicode schema column table = some refTable) :
    refTable ∈ schema ∧ refTable ≠ table := by
  unfold resolveReferencedTable at found
  dsimp only at found
  split at found
  · cases found
  · obtain ⟨candidate, _, isHit⟩ := List.exists_of_findSome?_eq_some found
    obtain ⟨isSpelled, other⟩ := Option.filter_eq_some_iff.mp isHit
    exact ⟨mem_of_lastSpelled isSpelled, of_decide_eq_true other⟩

theorem of_mem_entries {entry : Sigma fun _ : String => List String}
    (isEntry : entry ∈ schema.entries) :
    entry.1 ∈ schema ∧ schema.of entry.1 = entry.2 := by
  have found : schema.lookup entry.1 = some entry.2 :=
    AList.mem_lookup_iff.mpr isEntry
  refine ⟨List.mem_keys_of_mem isEntry, ?_⟩
  rw [TableColumns.of, found]
  rfl

/-- A guess is about a column of the schema and another table of it. -/
theorem of_mem_guesses {guess : Guess} (isGuess : guess ∈ guesses unicode schema) :
    guess.table ∈ schema ∧ guess.column ∈ schema.of guess.table ∧
      guess.refTable ∈ schema ∧ guess.refTable ≠ guess.table := by
  obtain ⟨entry, isEntry, isOfEntry⟩ := List.mem_flatMap.mp isGuess
  obtain ⟨column, isColumn, isResolved⟩ := List.mem_filterMap.mp isOfEntry
  obtain ⟨refTable, isRef, rfl⟩ := Option.map_eq_some_iff.mp isResolved
  obtain ⟨isTable, sameColumns⟩ := of_mem_entries isEntry
  obtain ⟨isRefTable, other⟩ := mem_of_resolveReferencedTable isRef
  rw [sameColumns]
  exact ⟨isTable, isColumn, isRefTable, other⟩

theorem of_uniqueOwner {name parent : String}
    (found : uniqueOwner unicode schema primaryKeys name = some parent) :
    parent ∈ schema ∧ parent ∈ primaryKeys ∧ ∃ key, primaryKeys.of parent = [key] := by
  unfold uniqueOwner at found
  split at found
  · next only =>
      cases found
      have isListed : parent ∈ (primaryKeys.entries.filter fun entry =>
          decide (entry.1 ∈ schema) &&
            decide (entry.2.map unicode.lower = [name])).map Sigma.fst := by
        rw [only]
        exact List.mem_singleton_self _
      obtain ⟨entry, isEntry, rfl⟩ := List.mem_map.mp isListed
      obtain ⟨isIn, passes⟩ := List.mem_filter.mp isEntry
      simp only [Bool.and_eq_true, decide_eq_true_eq] at passes
      obtain ⟨isTable, sameColumns⟩ := of_mem_entries isIn
      obtain ⟨key, isKey, _⟩ := List.map_eq_singleton_iff.mp passes.2
      exact ⟨passes.1, isTable, key, by rw [sameColumns, isKey]⟩
  · cases found

/-- A key that a primary key is inferred from leads to that key. -/
theorem of_mem_primaryKeyed
    (isKey : inferred ∈ primaryKeyed unicode schema primaryKeys) :
    inferred.table ∈ schema ∧ inferred.key.column ∈ schema.of inferred.table ∧
      inferred.key.refTable ∈ schema ∧
      inferred.key.refColumn ∈ primaryKeys.of inferred.key.refTable ∧
      inferred.key.refTable ≠ inferred.table := by
  obtain ⟨entry, isEntry, isOfEntry⟩ := List.mem_flatMap.mp isKey
  obtain ⟨column, isColumn, isInferred⟩ := List.mem_filterMap.mp isOfEntry
  obtain ⟨isTable, sameColumns⟩ := of_mem_entries isEntry
  split at isInferred
  · cases isInferred
  · next parent isParent =>
      split at isInferred
      · cases isInferred
      · next passes =>
          cases isInferred
          obtain ⟨isRef, _, key, isOnly⟩ := of_uniqueOwner isParent
          refine ⟨isTable, ?_, isRef, ?_, fun same => passes (Or.inl same)⟩
          · rw [sameColumns]
            exact isColumn
          · rw [isOnly]
            exact List.mem_cons_self

theorem mem_noEdges_keys : table ∈ noEdges schema.keys ↔ table ∈ schema :=
  mem_noEdges

theorem guessedKeys_tables : ∀ inferred ∈ guessedKeys unicode schema,
    inferred.table ∈ noEdges schema.keys ∧
      inferred.key.refTable ∈ noEdges schema.keys := by
  intro inferred isKey
  obtain ⟨guess, isGuess, rfl⟩ := List.mem_map.mp isKey
  obtain ⟨isTable, _, isRef, _⟩ := of_mem_guesses isGuess
  exact ⟨mem_noEdges_keys.mpr isTable, mem_noEdges_keys.mpr isRef⟩

theorem mem_foldl_addInferred {graph : RelationshipGraph} (keys : List InferredKey) :
    table ∈ keys.foldl addInferred graph ↔ table ∈ graph := by
  induction keys generalizing graph with
  | nil => exact Iff.rfl
  | cons inferred rest inductionHypothesis =>
      rw [List.foldl_cons, inductionHypothesis, mem_addInferred]

theorem mem_foldl_addForeignKeys {graph : RelationshipGraph} (keys : ForeignKeyMap) :
    table ∈ keys.foldl addForeignKeys graph ↔ table ∈ graph := by
  induction keys generalizing graph with
  | nil => exact Iff.rfl
  | cons item rest inductionHypothesis =>
      rw [List.foldl_cons, inductionHypothesis, mem_addForeignKeys]

theorem mem_foundGraph : table ∈ foundGraph unicode schema foreignKeys ↔
    table ∈ schema := by
  unfold foundGraph
  split
  · rw [mem_foldl_addInferred, mem_noEdges_keys]
  · unfold declaredGraph
    rw [mem_foldl_addForeignKeys, mem_noEdges_keys]

theorem primaryKeyed_tables : ∀ inferred ∈ primaryKeyed unicode schema primaryKeys,
    inferred.table ∈ foundGraph unicode schema foreignKeys ∧
      inferred.key.refTable ∈ foundGraph unicode schema foreignKeys := by
  intro inferred isKey
  obtain ⟨isTable, _, isRef, _⟩ := of_mem_primaryKeyed isKey
  exact ⟨mem_foundGraph.mpr isTable, mem_foundGraph.mpr isRef⟩

/-- The edges of the graph: those found, and else what the primary keys give. -/
theorem edge_buildRelationshipGraph {left right : String} :
    edge (buildRelationshipGraph unicode schema foreignKeys primaryKeys) left right =
      (edge (foundGraph unicode schema foreignKeys) left right).or
        ((primaryKeyed unicode schema primaryKeys).findSome? fun inferred =>
          inferred.orient left right) :=
  edge_foldl_addInferred primaryKeyed_tables

/-- The edges that are guessed. -/
theorem edge_guessed {left right : String} :
    edge (foundGraph unicode schema []) left right =
      (guessedKeys unicode schema).findSome? fun inferred =>
        inferred.orient left right := by
  unfold foundGraph
  rw [if_pos rfl, edge_foldl_addInferred guessedKeys_tables, edge_noEdges, Option.none_or]

end Names

end DbBuddy.Planner
