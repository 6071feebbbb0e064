import DbBuddy.Planner.InferredKeys

/-!
# The columns that the relationship graph joins on

A declared key and a primary key name columns that exist.  A guess names the column it
comes from on both sides where it finds no key of the other table.
-/

namespace DbBuddy.Planner

open DbBuddy.Library

/-- All pairs of all edges are made of columns that the two tables have. -/
def ColumnClosed (schema : TableColumns) (graph : RelationshipGraph) : Prop :=
  ∀ left right pair, pair ∈ edgePairs graph left right →
    pair.1 ∈ schema.of left ∧ pair.2 ∈ schema.of right

/-- The keys that are declared between tables of the schema name columns of theirs. -/
structure KeysExist (schema : TableColumns) (foreignKeys : ForeignKeyMap)
    (primaryKeys : TableColumns) : Prop where
  foreign : ∀ item ∈ foreignKeys, item.1 ∈ schema → ∀ key ∈ item.2,
    key.refTable ∈ schema →
      key.column ∈ schema.of item.1 ∧ key.refColumn ∈ schema.of key.refTable
  primary : ∀ table ∈ schema, primaryKeys.of table ⊆ schema.of table

/-- The guess relates the two tables, in either direction. -/
def Guess.relates (guess : Guess) (left right : String) : Bool :=
  decide (left = guess.table ∧ right = guess.refTable) ||
    decide (left = guess.refTable ∧ right = guess.table)

/-- Of the guesses about two tables the first one finds a key of the table it refers to,
or its column is there too. -/
def GuessesRecognised (unicode : Unicode) (schema : TableColumns) : Prop :=
  ∀ left right guess,
    ((guesses unicode schema).find? fun guess => guess.relates left right) = some guess →
    primaryKeyOf unicode (schema.of guess.refTable) guess.refTable ≠ none ∨
      guess.column ∈ schema.of guess.refTable

section Closure

variable {unicode : Unicode} {schema primaryKeys : TableColumns}
variable {foreignKeys : ForeignKeyMap} {left right : String} {guess : Guess}

/-- The key that a guess is about. -/
def Guess.inferred (guess : Guess) (unicode : Unicode) (schema : TableColumns) :
    InferredKey :=
  ⟨guess.table, guess.column, guess.refTable, guess.refColumn unicode schema⟩

theorem orient_of_not_relates (apart : guess.relates left right = false) :
    (guess.inferred unicode schema).orient left right = none := by
  simp only [Guess.relates, Bool.or_eq_false_iff, decide_eq_false_iff_not] at apart
  unfold InferredKey.orient Guess.inferred
  dsimp only
  rw [if_neg apart.1, if_neg apart.2]

/-- An edge of related tables has the columns of the guess, one way or the other. -/
theorem orient_of_relates (relates : guess.relates left right = true) :
    ∃ keys, (guess.inferred unicode schema).orient left right = some keys ∧
      ((left = guess.table ∧ right = guess.refTable ∧
          keys = ⟨guess.column, guess.refColumn unicode schema, []⟩) ∨
        (left = guess.refTable ∧ right = guess.table ∧
          keys = ⟨guess.refColumn unicode schema, guess.column, []⟩)) := by
  simp only [Guess.relates, Bool.or_eq_true, decide_eq_true_eq] at relates
  unfold InferredKey.orient Guess.inferred
  dsimp only
  by_cases forth : left = guess.table ∧ right = guess.refTable
  · rw [if_pos forth]
    exact ⟨_, rfl, Or.inl ⟨forth.1, forth.2, rfl⟩⟩
  · have back := relates.resolve_left forth
    rw [if_neg forth, if_pos back]
    exact ⟨_, rfl, Or.inr ⟨back.1, back.2, rfl⟩⟩

theorem findSome_guessed : ((guessedKeys unicode schema).findSome? fun inferred =>
      inferred.orient left right) =
    ((guesses unicode schema).find? fun guess => guess.relates left right).bind
      fun guess => (guess.inferred unicode schema).orient left right := by
  unfold guessedKeys
  induction guesses unicode schema with
  | nil => rfl
  | cons guess rest inductionHypothesis =>
      rw [List.map_cons, List.findSome?_cons, List.find?_cons, inductionHypothesis]
      cases relates : guess.relates left right with
      | false =>
          have isNone := @orient_of_not_relates unicode schema left right guess relates
          unfold Guess.inferred at isNone
          rw [isNone]
      | true =>
          obtain ⟨keys, isKeys, _⟩ :=
            @orient_of_relates unicode schema left right guess relates
          unfold Guess.inferred at isKeys
          rw [isKeys]
          exact isKeys.symm

theorem refColumn_mem_iff : guess.refColumn unicode schema ∈ schema.of guess.refTable ↔
    primaryKeyOf unicode (schema.of guess.refTable) guess.refTable ≠ none ∨
      guess.column ∈ schema.of guess.refTable := by
  unfold Guess.refColumn
  cases isKey : primaryKeyOf unicode (schema.of guess.refTable) guess.refTable with
  | none => simp
  | some column =>
      have isColumn := mem_of_primaryKeyOf isKey
      simp [isColumn]

/-- The guessed edges are closed just if their guesses are recognised. -/
theorem columnClosed_guessed_iff :
    ColumnClosed schema (foundGraph unicode schema []) ↔
      GuessesRecognised unicode schema := by
  constructor
  · intro closed left right guess isFirst
    have relates : guess.relates left right = true := by
      have passes := List.find?_some isFirst
      exact passes
    obtain ⟨keys, isKeys, isEither⟩ :=
      @orient_of_relates unicode schema left right guess relates
    have isPair : (keys.fromColumn, keys.toColumn) ∈
        edgePairs (foundGraph unicode schema []) left right := by
      rw [edgePairs_eq, edge_guessed, findSome_guessed, isFirst, Option.bind_some, isKeys]
      exact List.mem_cons_self
    have isColumn := closed left right _ isPair
    apply refColumn_mem_iff.mp
    rcases isEither with ⟨rfl, rfl, rfl⟩ | ⟨rfl, rfl, rfl⟩
    · exact isColumn.2
    · exact isColumn.1
  · intro recognised left right pair isPair
    rw [edgePairs_eq, edge_guessed, findSome_guessed] at isPair
    cases isFirst : (guesses unicode schema).find? fun guess =>
        guess.relates left right with
    | none =>
        rw [isFirst] at isPair
        cases isPair
    | some guess =>
        have relates : guess.relates left right = true := by
          have passes := List.find?_some isFirst
          exact passes
        have isGuess := List.mem_of_find?_eq_some isFirst
        obtain ⟨keys, isKeys, isEither⟩ :=
          @orient_of_relates unicode schema left right guess relates
        have isRef := refColumn_mem_iff.mpr (recognised left right guess isFirst)
        have isColumn := (of_mem_guesses isGuess).2.1
        rw [isFirst, Option.bind_some, isKeys] at isPair
        rcases isEither with ⟨rfl, rfl, rfl⟩ | ⟨rfl, rfl, rfl⟩
        · obtain rfl := List.mem_singleton.mp isPair
          exact ⟨isColumn, isRef⟩
        · obtain rfl := List.mem_singleton.mp isPair
          exact ⟨isRef, isColumn⟩

/-- Declared keys that exist make closed edges. -/
theorem columnClosed_declaredGraph
    (keysExist : KeysExist schema foreignKeys primaryKeys) :
    ColumnClosed schema (declaredGraph schema.keys foreignKeys) := by
  intro left right pair isPair
  have given := (mem_edgePairs_declaredGraph schema.keys foreignKeys).mp isPair
  obtain ⟨item, isItem, isTable, key, isKey, isRef, gives⟩ := given
  have columns := keysExist.foreign item isItem isTable key isKey isRef
  rcases gives with ⟨rfl, rfl, rfl⟩ | ⟨rfl, rfl, rfl⟩
  · exact columns
  · exact columns.symm

/-- What primary keys add is closed. -/
theorem columnClosed_build_iff (keysExist : KeysExist schema foreignKeys primaryKeys) :
    ColumnClosed schema (buildRelationshipGraph unicode schema foreignKeys primaryKeys) ↔
      ColumnClosed schema (foundGraph unicode schema foreignKeys) := by
  constructor
  · intro closed left right pair isPair
    apply closed left right pair
    rw [edgePairs_eq] at isPair ⊢
    rw [edge_buildRelationshipGraph]
    cases isEdge : edge (foundGraph unicode schema foreignKeys) left right with
    | none =>
        rw [isEdge] at isPair
        cases isPair
    | some keys =>
        rw [isEdge] at isPair
        exact isPair
  · intro closed left right pair isPair
    rw [edgePairs_eq, edge_buildRelationshipGraph] at isPair
    cases isEdge : edge (foundGraph unicode schema foreignKeys) left right with
    | some keys =>
        apply closed left right pair
        rw [edgePairs_eq, isEdge]
        rw [isEdge] at isPair
        exact isPair
    | none =>
        rw [isEdge, Option.none_or] at isPair
        cases found : (primaryKeyed unicode schema primaryKeys).findSome? fun inferred =>
            inferred.orient left right with
        | none =>
            rw [found] at isPair
            cases isPair
        | some keys =>
            obtain ⟨inferred, isInferred, isKeys⟩ :=
              List.exists_of_findSome?_eq_some found
            obtain ⟨_, isColumn, isRef, isKeyColumn, _⟩ := of_mem_primaryKeyed isInferred
            have isRefColumn := keysExist.primary _ isRef isKeyColumn
            rw [found] at isPair
            unfold InferredKey.orient at isKeys
            dsimp only at isKeys
            split at isKeys
            · next forth =>
                cases isKeys
                obtain rfl := List.mem_singleton.mp isPair
                rw [forth.1, forth.2]
                exact ⟨isColumn, isRefColumn⟩
            · split at isKeys
              · next back =>
                  cases isKeys
                  obtain rfl := List.mem_singleton.mp isPair
                  rw [back.1, back.2]
                  exact ⟨isRefColumn, isColumn⟩
              · cases isKeys

end Closure

/-- Given keys that exist, the graph joins on columns that exist just if foreign keys are
declared or the guesses are recognised. -/
theorem buildRelationshipGraph_closed_iff (unicode : Unicode) (schema : TableColumns)
    (foreignKeys : ForeignKeyMap) (primaryKeys : TableColumns)
    (keysExist : KeysExist schema foreignKeys primaryKeys) :
    ColumnClosed schema (buildRelationshipGraph unicode schema foreignKeys primaryKeys) ↔
      (foreignKeys = [] → GuessesRecognised unicode schema) := by
  rw [columnClosed_build_iff keysExist]
  constructor
  · intro closed noKeys
    rw [noKeys] at closed
    exact columnClosed_guessed_iff.mp closed
  · intro recognised
    by_cases noKeys : foreignKeys = []
    · rw [noKeys]
      exact columnClosed_guessed_iff.mpr (recognised noKeys)
    · unfold foundGraph
      rw [if_neg noKeys]
      exact columnClosed_declaredGraph keysExist

/-! ### Two tables without declared keys -/

/-- Events name the user they are of; the users have these columns. -/
def eventsOf (userColumns : List String) : TableColumns :=
  List.toAList [⟨"events", ["kind", "user_id"]⟩, ⟨"users", userColumns⟩]

theorem eventsOf_keysExist (userColumns : List String) :
    KeysExist (eventsOf userColumns) [] ∅ where
  foreign := by simp
  primary := by
    intro table _
    exact List.nil_subset _

theorem buildRelationshipGraph_closed_users :
    ColumnClosed (eventsOf ["id", "name"])
      (buildRelationshipGraph ascii (eventsOf ["id", "name"]) [] ∅) := by
  apply (buildRelationshipGraph_closed_iff ascii (eventsOf ["id", "name"]) [] ∅
    (eventsOf_keysExist _)).mpr
  intro _ left right guess isFirst
  have recognised : ∀ guess ∈ guesses ascii (eventsOf ["id", "name"]),
      primaryKeyOf ascii ((eventsOf ["id", "name"]).of guess.refTable) guess.refTable ≠
        none := by
    decide
  exact Or.inl (recognised guess (List.mem_of_find?_eq_some isFirst))

/-- Users without a recognised key are joined on a column that they do not have. -/
theorem buildRelationshipGraph_strays :
    KeysExist (eventsOf ["name"]) [] ∅ ∧
      ¬ ColumnClosed (eventsOf ["name"])
        (buildRelationshipGraph ascii (eventsOf ["name"]) [] ∅) := by
  refine ⟨eventsOf_keysExist _, ?_⟩
  intro closed
  have isPair : ("user_id", "user_id") ∈ edgePairs
      (buildRelationshipGraph ascii (eventsOf ["name"]) [] ∅) "events" "users" := by
    decide
  have isColumn := (closed _ _ _ isPair).2
  exact absurd isColumn (by decide)

end DbBuddy.Planner
