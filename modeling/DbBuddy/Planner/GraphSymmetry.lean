import DbBuddy.Planner.InferredKeys

/-!
# The relationship graph is symmetric

Every key, declared or inferred, puts a pair of columns into the edge from one table to
the other, and its mirror image into the edge back.
-/

namespace DbBuddy.Planner

open DbBuddy.Library

/-- The pair that an edge is joined on by default. -/
def defaultPair (graph : RelationshipGraph) (table refTable : String) :
    Option (String × String) :=
  (edge graph table refTable).map fun keys => (keys.fromColumn, keys.toColumn)

/-- Each edge has one back, with the mirror images of its pairs, and none twice.  Between
two tables the default pairs are mirror images too. -/
structure Symmetric (graph : RelationshipGraph) : Prop where
  edges : ∀ left right,
    (edge graph left right).isSome = true ↔ (edge graph right left).isSome = true
  mirrored : ∀ left right pair, pair ∈ edgePairs graph left right ↔
    pair.swap ∈ edgePairs graph right left
  nodup : ∀ left right, (edgePairs graph left right).Nodup
  defaults : ∀ left right, left ≠ right →
    defaultPair graph right left = (defaultPair graph left right).map Prod.swap

/-- What has to be shown: an edge is there if it has pairs. -/
structure Mirrored (graph : RelationshipGraph) : Prop where
  mirrored : ∀ left right pair, pair ∈ edgePairs graph left right →
    pair.swap ∈ edgePairs graph right left
  nodup : ∀ left right, (edgePairs graph left right).Nodup
  defaults : ∀ left right, left ≠ right →
    defaultPair graph right left = (defaultPair graph left right).map Prod.swap

section Graphs

variable {graph : RelationshipGraph} {left right table refTable : String}
variable {column refColumn : String} {keys : JoinKeys}

theorem isSome_edge_iff : (edge graph left right).isSome = true ↔
    ∃ pair, pair ∈ edgePairs graph left right := by
  rw [edgePairs_eq]
  cases edge graph left right with
  | none => simp
  | some keys => simp [JoinKeys.pairs]

theorem Mirrored.symmetric (mirror : Mirrored graph) : Symmetric graph where
  edges := by
    have oneWay : ∀ left right, (edge graph left right).isSome = true →
        (edge graph right left).isSome = true := by
      intro left right isThere
      obtain ⟨pair, isPair⟩ := isSome_edge_iff.mp isThere
      exact isSome_edge_iff.mpr ⟨pair.swap, mirror.mirrored left right pair isPair⟩
    intro left right
    exact ⟨oneWay left right, oneWay right left⟩
  mirrored := by
    intro left right pair
    constructor
    · exact mirror.mirrored left right pair
    · intro isPair
      have back := mirror.mirrored right left pair.swap isPair
      rwa [Prod.swap_swap] at back
  nodup := mirror.nodup
  defaults := mirror.defaults

/-! ## Declared keys -/

/-- The keys of an edge with one pair more. -/
def withPair (keys : Option JoinKeys) (column refColumn : String) : JoinKeys :=
  match keys with
  | none => ⟨column, refColumn, []⟩
  | some keys => keys.addPair column refColumn

theorem edge_addEdge (isTable : table ∈ graph) :
    edge (addEdge graph table refTable column refColumn) left right =
      if left = table ∧ right = refTable then
        some (withPair (edge graph table refTable) column refColumn)
      else edge graph left right := by
  have found := AList.lookup_isSome.mpr isTable
  obtain ⟨edges, isEdges⟩ := Option.isSome_iff_exists.mp found
  have shown : addEdge graph table refTable column refColumn =
      Dict.assign graph table (Dict.assign edges refTable
        (withPair (edges.lookup refTable) column refColumn)) := by
    unfold addEdge
    rw [isEdges]
    dsimp only
    cases edges.lookup refTable with
    | none => rfl
    | some keys => rfl
  have isEdge : edge graph table refTable = edges.lookup refTable := by
    rw [edge, isEdges]
    rfl
  rw [shown, isEdge]
  by_cases sameTable : left = table
  · subst sameTable
    by_cases sameRef : right = refTable
    · subst sameRef
      simp [edge]
    · simp [edge, isEdges, sameRef, Dict.lookup_assign_of_ne sameRef]
  · simp [edge, sameTable, Dict.lookup_assign_of_ne sameTable]

theorem nodup_addPair (nodup : keys.pairs.Nodup) :
    (keys.addPair column refColumn).pairs.Nodup := by
  unfold JoinKeys.addPair
  split
  · exact nodup
  · next other =>
      split
      · exact nodup
      · next absent =>
          have parts := List.nodup_cons.mp nodup
          apply List.nodup_cons.mpr
          constructor
          · intro isIn
            rcases List.mem_append.mp isIn with isAlternate | isNew
            · exact parts.1 isAlternate
            · exact other (List.mem_singleton.mp isNew)
          · apply List.nodup_append.mpr
            refine ⟨parts.2, List.nodup_singleton _, ?_⟩
            intro pair isAlternate last isLast same
            rw [same, List.mem_singleton.mp isLast] at isAlternate
            exact absent isAlternate

theorem nodup_addEdge (isTable : table ∈ graph)
    (nodup : ∀ left right, (edgePairs graph left right).Nodup) (left right : String) :
    (edgePairs (addEdge graph table refTable column refColumn) left right).Nodup := by
  have before := nodup table refTable
  rw [edgePairs_eq, edge_addEdge isTable]
  split
  · rw [edgePairs_eq] at before
    cases isEdge : edge graph table refTable with
    | none => exact List.nodup_singleton _
    | some keys =>
        rw [isEdge] at before
        exact nodup_addPair before
  · rw [← edgePairs_eq]
    exact nodup left right

/-- The first pair of an edge stays its default. -/
theorem defaultPair_addEdge (isTable : table ∈ graph) :
    defaultPair (addEdge graph table refTable column refColumn) left right =
      if left = table ∧ right = refTable then
        some ((defaultPair graph table refTable).getD (column, refColumn))
      else defaultPair graph left right := by
  unfold defaultPair
  rw [edge_addEdge isTable]
  split
  · cases edge graph table refTable with
    | none => rfl
    | some keys =>
        have kept : ((keys.addPair column refColumn).fromColumn,
            (keys.addPair column refColumn).toColumn) =
              (keys.fromColumn, keys.toColumn) := by
          unfold JoinKeys.addPair
          split
          · rfl
          · split
            · rfl
            · rfl
        exact congrArg some kept
  · rfl

theorem ForeignKey.gives_swap {key : ForeignKey} {pair : String × String}
    (gives : key.gives table left right pair) : key.gives table right left pair.swap := by
  rcases gives with ⟨rfl, rfl, rfl⟩ | ⟨rfl, rfl, rfl⟩
  · exact Or.inr ⟨rfl, rfl, rfl⟩
  · exact Or.inl ⟨rfl, rfl, rfl⟩

theorem mirrored_addForeignKey (mirror : Mirrored graph) (isTable : table ∈ graph)
    (key : ForeignKey) : Mirrored (addForeignKey graph table key) where
  mirrored := by
    intro left right pair isPair
    rcases (mem_edgePairs_addForeignKey isTable).mp isPair with isOld | ⟨isRef, gives⟩
    · exact (mem_edgePairs_addForeignKey isTable).mpr
        (Or.inl (mirror.mirrored left right pair isOld))
    · exact (mem_edgePairs_addForeignKey isTable).mpr (Or.inr ⟨isRef, ForeignKey.gives_swap gives⟩)
  nodup := by
    intro left right
    unfold addForeignKey
    split
    · next isRef =>
        apply nodup_addEdge (mem_addEdge.mpr isRef)
        exact nodup_addEdge isTable mirror.nodup
    · exact mirror.nodup left right
  defaults := by
    intro left right different
    unfold addForeignKey
    split
    · next isRef =>
        have before := mirror.defaults left right different
        have isRefThen : key.refTable ∈
            addEdge graph table key.refTable key.column key.refColumn :=
          mem_addEdge.mpr isRef
        simp only [defaultPair_addEdge isRefThen, defaultPair_addEdge isTable]
        by_cases forth : left = table ∧ right = key.refTable
        · obtain ⟨rfl, rfl⟩ := forth
          simp only [different, different.symm, and_self, if_true, if_false,
            before]
          cases defaultPair graph left key.refTable with
          | none => rfl
          | some pair => rfl
        · by_cases back : left = key.refTable ∧ right = table
          · obtain ⟨rfl, rfl⟩ := back
            simp only [different, different.symm, and_self, if_true, if_false,
              before]
            cases defaultPair graph key.refTable right with
            | none => rfl
            | some pair => rfl
          · have forth' : ¬ (right = key.refTable ∧ left = table) :=
              fun same => forth same.symm
            have back' : ¬ (right = table ∧ left = key.refTable) :=
              fun same => back same.symm
            rw [if_neg forth', if_neg back', if_neg back, if_neg forth]
            exact before
    · exact mirror.defaults left right different

theorem mirrored_noEdges (tables : List String) : Mirrored (noEdges tables) where
  mirrored := by
    intro left right pair isPair
    rw [edgePairs_noEdges] at isPair
    cases isPair
  nodup := by
    intro left right
    rw [edgePairs_noEdges]
    exact List.nodup_nil
  defaults := by
    intro left right _
    rw [defaultPair, defaultPair, edge_noEdges, edge_noEdges]
    rfl

theorem mirrored_addForeignKeys (mirror : Mirrored graph)
    (item : String × List ForeignKey) : Mirrored (addForeignKeys graph item) := by
  unfold addForeignKeys
  split
  · next isTable =>
      have both : ∀ (keys : List ForeignKey) (graph : RelationshipGraph),
          Mirrored graph → item.1 ∈ graph →
          Mirrored (keys.foldl (fun graph key => addForeignKey graph item.1 key)
            graph) := by
        intro keys
        induction keys with
        | nil => exact fun graph mirror _ => mirror
        | cons key rest inductionHypothesis =>
            intro graph mirror isTable
            apply inductionHypothesis
            · exact mirrored_addForeignKey mirror isTable key
            · exact mem_addForeignKey.mpr isTable
      exact both item.2 graph mirror isTable
  · exact mirror

theorem mirrored_declaredGraph (tables : List String) (foreignKeys : ForeignKeyMap) :
    Mirrored (declaredGraph tables foreignKeys) := by
  unfold declaredGraph
  have start := mirrored_noEdges tables
  generalize noEdges tables = graph at start
  induction foreignKeys generalizing graph with
  | nil => exact start
  | cons item rest inductionHypothesis =>
      rw [List.foldl_cons]
      exact inductionHypothesis _ (mirrored_addForeignKeys start item)

/-! ## Inferred keys -/

/-- The keys of an edge back. -/
def JoinKeys.mirror (keys : JoinKeys) : JoinKeys :=
  ⟨keys.toColumn, keys.fromColumn, keys.alternates.map Prod.swap⟩

theorem InferredKey.orient_swap {inferred : InferredKey}
    (apart : inferred.key.refTable ≠ inferred.table) :
    inferred.orient right left = (inferred.orient left right).map JoinKeys.mirror := by
  unfold InferredKey.orient
  dsimp only
  by_cases forth : left = inferred.table ∧ right = inferred.key.refTable
  · obtain ⟨rfl, rfl⟩ := forth
    simp only [apart, and_self, false_and, if_true, if_false]
    rfl
  · rw [if_neg forth]
    by_cases back : left = inferred.key.refTable ∧ right = inferred.table
    · rw [if_pos back, if_pos back.symm]
      rfl
    · rw [if_neg back, if_neg (fun same => back same.symm),
        if_neg (fun same => forth same.symm)]
      rfl

theorem findSome_orient_swap {inferredKeys : List InferredKey}
    (apart : ∀ inferred ∈ inferredKeys, inferred.key.refTable ≠ inferred.table) :
    (inferredKeys.findSome? fun inferred => inferred.orient right left) =
      (inferredKeys.findSome? fun inferred => inferred.orient left right).map
        JoinKeys.mirror := by
  induction inferredKeys with
  | nil => rfl
  | cons inferred rest inductionHypothesis =>
      have isApart := apart inferred List.mem_cons_self
      have later := inductionHypothesis fun other isIn =>
        apart other (List.mem_cons_of_mem _ isIn)
      rw [List.findSome?_cons, List.findSome?_cons, InferredKey.orient_swap isApart, later]
      cases inferred.orient left right with
      | none => rfl
      | some keys => rfl

theorem alternates_of_findSome_orient {inferredKeys : List InferredKey}
    (found : (inferredKeys.findSome? fun inferred => inferred.orient left right) =
      some keys) : keys.alternates = [] := by
  obtain ⟨inferred, _, isKeys⟩ := List.exists_of_findSome?_eq_some found
  unfold InferredKey.orient at isKeys
  dsimp only at isKeys
  split at isKeys
  · cases isKeys
    rfl
  · split at isKeys
    · cases isKeys
      rfl
    · cases isKeys

/-- Inferred keys fill edges that are missing in both directions. -/
theorem mirrored_foldl_addInferred (mirror : Mirrored graph)
    {inferredKeys : List InferredKey}
    (tables : ∀ inferred ∈ inferredKeys, inferred.table ∈ graph ∧
      inferred.key.refTable ∈ graph)
    (apart : ∀ inferred ∈ inferredKeys, inferred.key.refTable ≠ inferred.table) :
    Mirrored (inferredKeys.foldl addInferred graph) := by
  have isEdge : ∀ left right, edge (inferredKeys.foldl addInferred graph) left right =
      (edge graph left right).or (inferredKeys.findSome? fun inferred =>
        inferred.orient left right) := fun left right => edge_foldl_addInferred tables
  have edges := mirror.symmetric.edges
  -- an edge that was there is there in both directions, and so is one that was not
  have sameOr : ∀ left right,
      ((∃ keys, edge graph left right = some keys) ∧
        ∃ keys, edge graph right left = some keys) ∨
      edge graph left right = none ∧ edge graph right left = none := by
    intro left right
    have both := edges left right
    cases isForth : edge graph left right with
    | none =>
        rw [isForth] at both
        cases isBack : edge graph right left with
        | none => exact Or.inr ⟨rfl, rfl⟩
        | some keys =>
            rw [isBack] at both
            exact absurd (both.mpr rfl) (by decide)
    | some keys =>
        rw [isForth] at both
        exact Or.inl ⟨⟨keys, rfl⟩, Option.isSome_iff_exists.mp (both.mp rfl)⟩
  constructor
  · intro left right pair isPair
    rw [edgePairs_eq, isEdge] at isPair ⊢
    rcases sameOr left right with ⟨⟨forth, isForth⟩, back, isBack⟩ | ⟨isForth, isBack⟩
    · have old := mirror.mirrored left right pair
      rw [edgePairs_eq, edgePairs_eq, isForth, isBack] at old
      rw [isForth] at isPair
      rw [isBack]
      exact old isPair
    · rw [isForth, Option.none_or] at isPair
      rw [isBack, Option.none_or, findSome_orient_swap apart]
      cases found : inferredKeys.findSome? fun inferred => inferred.orient left right with
      | none =>
          rw [found] at isPair
          cases isPair
      | some keys =>
          have noMore := alternates_of_findSome_orient found
          rw [found] at isPair
          simp only [Option.map_some, Option.getD_some, JoinKeys.pairs, noMore,
            List.mem_singleton] at isPair
          rw [isPair]
          exact List.mem_cons_self
  · intro left right
    rw [edgePairs_eq, isEdge]
    rcases sameOr left right with ⟨⟨forth, isForth⟩, _⟩ | ⟨isForth, _⟩
    · have old := mirror.nodup left right
      rw [edgePairs_eq, isForth] at old
      rw [isForth]
      exact old
    · rw [isForth, Option.none_or]
      cases found : inferredKeys.findSome? fun inferred => inferred.orient left right with
      | none => exact List.nodup_nil
      | some keys =>
          have noMore := alternates_of_findSome_orient found
          simp [JoinKeys.pairs, noMore]
  · intro left right different
    unfold defaultPair
    rw [isEdge, isEdge]
    rcases sameOr left right with ⟨⟨forth, isForth⟩, back, isBack⟩ | ⟨isForth, isBack⟩
    · have old := mirror.defaults left right different
      unfold defaultPair at old
      rw [isForth, isBack] at old ⊢
      exact old
    · rw [isForth, isBack, Option.none_or, Option.none_or, findSome_orient_swap apart]
      cases inferredKeys.findSome? fun inferred => inferred.orient left right with
      | none => rfl
      | some keys => rfl

end Graphs

/-- The graph that is found without the primary keys is symmetric. -/
theorem mirrored_foundGraph (unicode : Unicode) (schema : TableColumns)
    (foreignKeys : ForeignKeyMap) : Mirrored (foundGraph unicode schema foreignKeys) := by
  unfold foundGraph
  split
  · apply mirrored_foldl_addInferred (mirrored_noEdges _) guessedKeys_tables
    intro inferred isKey
    obtain ⟨guess, isGuess, rfl⟩ := List.mem_map.mp isKey
    exact (of_mem_guesses isGuess).2.2.2
  · exact mirrored_declaredGraph _ _

/-- The graph is symmetric for every schema, all declared keys in any order, and all
primary keys. -/
theorem buildRelationshipGraph_symmetric (unicode : Unicode) (schema : TableColumns)
    (foreignKeys : ForeignKeyMap) (primaryKeys : TableColumns) :
    Symmetric (buildRelationshipGraph unicode schema foreignKeys primaryKeys) := by
  apply Mirrored.symmetric
  apply mirrored_foldl_addInferred (mirrored_foundGraph unicode schema foreignKeys)
  · exact primaryKeyed_tables
  · intro inferred isKey
    exact (of_mem_primaryKeyed isKey).2.2.2.2

end DbBuddy.Planner
