import DbBuddy.Planner.Joins

/-!
# The joins of a plan are a rooted tree

All joins come from found paths, and found paths form one tree.  Each pass keeps
the joins in an order in which every join starts at the base table or where an
earlier join has led.
-/

namespace DbBuddy.Planner

open DbBuddy.Library

section Referenced

variable {unicode : Unicode}

/-- Some clause of the plan names the table. -/
def Names (unicode : Unicode) (plan : Plan) (table : String) : Prop :=
  table ≠ "" ∧ table ∈ plan.items.flatMap (Item.tables unicode)

/-- The clauses spell the tables of the schema as the schema does. -/
def SpelledAs (schema : Schema unicode) (plan : Plan) : Prop :=
  ∀ table, Names unicode plan table → ∀ other ∈ schema.names,
    unicode.lower table = unicode.lower other → table = other

theorem mem_addTable {ordered : List String} {name table : String}
    (isIn : table ∈ addTable unicode ordered name) :
    table ∈ ordered ∨ (table ≠ "" ∧ table = name) := by
  unfold addTable at isIn
  split at isIn
  · exact Or.inl isIn
  · rename_i notEmpty
    split at isIn
    · exact Or.inl isIn
    · rcases List.mem_append.mp isIn with isOld | isNew
      · exact Or.inl isOld
      · cases List.mem_singleton.mp isNew
        exact Or.inr ⟨notEmpty, rfl⟩

theorem addTable_mono {ordered : List String} {table : String} (name : String)
    (isIn : table ∈ ordered) : table ∈ addTable unicode ordered name := by
  unfold addTable
  split
  · exact isIn
  · split
    · exact isIn
    · exact List.mem_append_left _ isIn

theorem addTable_covers (ordered : List String) {name : String}
    (notEmpty : name ≠ "") :
    ∃ table ∈ addTable unicode ordered name,
      unicode.lower table = unicode.lower name := by
  unfold addTable
  rw [if_neg notEmpty]
  split
  · rename_i isSpelled
    exact List.mem_map.mp isSpelled
  · exact ⟨name, List.mem_append_right _ List.mem_cons_self, rfl⟩

theorem mem_foldl_addTable {names ordered : List String} {table : String}
    (isIn : table ∈ names.foldl (addTable unicode) ordered) :
    table ∈ ordered ∨ (table ≠ "" ∧ table ∈ names) := by
  induction names generalizing ordered with
  | nil =>
      exact Or.inl isIn
  | cons name rest inductionHypothesis =>
      rcases inductionHypothesis isIn with isEarlier | ⟨notEmpty, isLater⟩
      · rcases mem_addTable isEarlier with isOld | ⟨notEmpty, rfl⟩
        · exact Or.inl isOld
        · exact Or.inr ⟨notEmpty, List.mem_cons_self⟩
      · exact Or.inr ⟨notEmpty, List.mem_cons_of_mem _ isLater⟩

theorem foldl_addTable_mono {names ordered : List String} {table : String}
    (isIn : table ∈ ordered) : table ∈ names.foldl (addTable unicode) ordered := by
  induction names generalizing ordered with
  | nil =>
      exact isIn
  | cons name rest inductionHypothesis =>
      exact inductionHypothesis (addTable_mono name isIn)

theorem foldl_addTable_covers {names ordered : List String} {name : String}
    (notEmpty : name ≠ "") (isName : name ∈ names) :
    ∃ table ∈ names.foldl (addTable unicode) ordered,
      unicode.lower table = unicode.lower name := by
  induction names generalizing ordered with
  | nil =>
      cases isName
  | cons first rest inductionHypothesis =>
      rcases List.mem_cons.mp isName with rfl | isLater
      · obtain ⟨table, isIn, sameLower⟩ := addTable_covers ordered notEmpty
        have isKept : table ∈
            rest.foldl (addTable unicode) (addTable unicode ordered name) :=
          foldl_addTable_mono isIn
        exact ⟨table, isKept, sameLower⟩
      · exact inductionHypothesis isLater

theorem names_of_referenced {plan : Plan} {table : String}
    (isReferenced : table ∈ tablesReferencedByPlan unicode plan []) :
    Names unicode plan table := by
  rcases mem_foldl_addTable isReferenced with isNone | isNamed
  · cases isNone
  · exact isNamed

/-- A table of the schema that some clause names is among the referenced ones. -/
theorem SpelledAs.referenced {schema : Schema unicode} {plan : Plan}
    {table : String} (spelled : SpelledAs schema plan)
    (isTable : table ∈ schema.names) (isNamed : Names unicode plan table) :
    table ∈ tablesReferencedByPlan unicode plan [] := by
  have covered : ∃ other ∈ tablesReferencedByPlan unicode plan [],
      unicode.lower other = unicode.lower table :=
    foldl_addTable_covers isNamed.1 isNamed.2
  obtain ⟨other, isReferenced, sameLower⟩ := covered
  have same := spelled other (names_of_referenced isReferenced) table isTable
    sameLower
  exact same ▸ isReferenced

end Referenced

/-! ## Joins along found paths -/

/-- The join is the last hop of the path that a search for its table finds, on
the default columns of that edge or on alternate ones. -/
def JoinFor (graph : RelationshipGraph) (base : String) (join : Join) : Prop :=
  ∃ path keys, Finds graph base join.rightTable
      (path ++ [⟨join.leftTable, join.rightTable, keys⟩]) ∧
    (join.rightTable, keys) ∈ neighbours graph join.leftTable ∧
    (join.leftKey, join.rightKey) ∈ keys.pairs

/-- Joins that grow from the base table along found paths. -/
structure Anchored (graph : RelationshipGraph) (base : Option String)
    (joins : List Join) : Prop where
  along : ∀ join ∈ joins, ∃ root, base = some root ∧ JoinFor graph root join
  grows : Grows Join.leftTable Join.rightTable {table | base = some table} joins

/-- The table is the base or one that is joined. -/
def InScope (base : String) (joins : List Join) (table : String) : Prop :=
  table = base ∨ ∃ join ∈ joins, join.rightTable = table

section Paths

variable {unicode : Unicode} {schema : Schema unicode} {graph : RelationshipGraph}
variable {base table : String} {joins : List Join}

theorem Over.reachable (isOver : Over schema graph)
    (isReachable : Reachable graph base table) (other : table ≠ base) :
    base ∈ schema.names ∧ table ∈ schema.names := by
  induction isReachable with
  | refl =>
      exact absurd rfl other
  | @tail middle next _ isEdge inductionHypothesis =>
      obtain ⟨keys, isEdge⟩ := isEdge
      obtain ⟨isMiddle, isNext⟩ := isOver middle next keys isEdge
      by_cases same : middle = base
      · exact ⟨same ▸ isMiddle, isNext⟩
      · exact ⟨(inductionHypothesis same).1, isNext⟩

theorem JoinFor.ne_base {join : Join} (isFor : JoinFor graph base join) :
    join.rightTable ≠ base := by
  obtain ⟨path, keys, finds, _⟩ := isFor
  exact finds.source.1

theorem JoinFor.tables (isOver : Over schema graph) {join : Join}
    (isFor : JoinFor graph base join) :
    base ∈ schema.names ∧ join.leftTable ∈ schema.names ∧
      join.rightTable ∈ schema.names := by
  have different := isFor.ne_base
  obtain ⟨path, keys, finds, isEdge, _⟩ := isFor
  exact ⟨(isOver.reachable finds.reachable different).1, isOver _ _ keys isEdge⟩

theorem Anchored.nil (base : Option String) : Anchored graph base [] :=
  ⟨by simp, trivial⟩

theorem Anchored.append {base : Option String} {more : List Join}
    (anchored : Anchored graph base joins)
    (anchoredMore : Anchored graph base more) :
    Anchored graph base (joins ++ more) where
  along join isJoin := by
    rcases List.mem_append.mp isJoin with isOld | isNew
    · exact anchored.along join isOld
    · exact anchoredMore.along join isNew
  grows := anchored.grows.append
    (anchoredMore.grows.mono Set.subset_union_left)

/-- A join whose left table is in scope can be added. -/
theorem Anchored.add (anchored : Anchored graph (some base) joins) {join : Join}
    (isFor : JoinFor graph base join) (inScope : InScope base joins join.leftTable) :
    Anchored graph (some base) (joins ++ [join]) where
  along join' isJoin := by
    rcases List.mem_append.mp isJoin with isOld | isNew
    · exact anchored.along join' isOld
    · cases List.mem_singleton.mp isNew
      exact ⟨base, rfl, isFor⟩
  grows := by
    refine anchored.grows.append ⟨?_, trivial⟩
    rcases inScope with isBase | isJoined
    · exact Or.inl (congrArg some isBase.symm)
    · exact Or.inr isJoined

theorem joinFor_ofHop {path : List Hop} {left right : String} {keys : JoinKeys}
    (finds : Finds graph base right (path ++ [⟨left, right, keys⟩]))
    (isEdge : (right, keys) ∈ neighbours graph left) :
    JoinFor graph base (Join.ofHop ⟨left, right, keys⟩) :=
  ⟨path, keys, finds, isEdge, List.mem_cons_self⟩

/-- The joins along a found path lead from the base to its table. -/
theorem Finds.anchored {path : List Hop} (finds : Finds graph base table path) :
    Anchored graph (some base) (path.map Join.ofHop) ∧
      InScope base (path.map Join.ofHop) table := by
  induction finds using PathSearch.Finds.induct with
  | nil => exact ⟨Anchored.nil _, Or.inl rfl⟩
  | snoc _ isEdge _ finds inductionHypothesis =>
      obtain ⟨anchored, inScope⟩ := inductionHypothesis
      rw [List.map_append]
      exact ⟨anchored.add (joinFor_ofHop finds isEdge) inScope,
        Or.inr ⟨_, List.mem_append_right _ List.mem_cons_self, rfl⟩⟩

/-- What `find_join_path` returns is a found path, or it is empty and there is
none. -/
theorem findJoinPath_finds (graph : RelationshipGraph) (base table : String) :
    Finds graph base table (findJoinPath graph base table) ∨
      (findJoinPath graph base table = [] ∧ ¬ Reachable graph base table) :=
  (findJoinPath_spec graph base table).2

theorem resolveJoins_anchored (graph : RelationshipGraph) (base : Option String)
    (tables : List String) :
    Anchored graph base (resolveJoins graph base tables) := by
  cases base with
  | none =>
      exact Anchored.nil none
  | some base =>
      induction tables with
      | nil =>
          exact Anchored.nil _
      | cons table rest inductionHypothesis =>
          refine Anchored.append ?_ inductionHypothesis
          dsimp only
          split
          · exact Anchored.nil _
          · rcases findJoinPath_finds graph base table with finds | ⟨isEmpty, _⟩
            · exact (Finds.anchored finds).1
            · rw [isEmpty]
              exact Anchored.nil _

/-! ## Roles -/

theorem lookup_entries {entries : List ((_ : String) × JoinKeys)}
    (distinct : entries.NodupKeys) {entry : (_ : String) × JoinKeys}
    (isEntry : entry ∈ entries) :
    (entries.map fun edge => (edge.1, edge.2)).lookup entry.1 = some entry.2 := by
  induction entries with
  | nil =>
      cases isEntry
  | cons first rest inductionHypothesis =>
      rw [List.nodupKeys_cons] at distinct
      rcases List.mem_cons.mp isEntry with rfl | isLater
      · simp
      · have different : entry.1 ≠ first.1 := by
          intro same
          exact distinct.1 (same ▸ List.mem_keys_of_mem isLater)
        simp only [List.map_cons, List.lookup_cons,
          beq_eq_false_iff_ne.mpr different]
        exact inductionHypothesis distinct.2 isLater

theorem neighbours_lookup {next : String} {keys : JoinKeys}
    (isEdge : (next, keys) ∈ neighbours graph table) :
    (neighbours graph table).lookup next = some keys := by
  unfold neighbours at isEdge ⊢
  split at isEdge
  · cases isEdge
  · rename_i edges _
    obtain ⟨entry, isEntry, sameEdge⟩ := List.mem_map.mp isEdge
    cases sameEdge
    exact lookup_entries edges.nodupKeys isEntry

theorem foldl_best_mem {scored : List ((String × String) × ℕ)}
    {best : Option (String × String) × ℕ} {keys : String × String}
    (isBest : (scored.foldl
      (fun best candidate =>
        if best.2 < candidate.2 then (some candidate.1, candidate.2) else best)
      best).1 = some keys) :
    best.1 = some keys ∨ keys ∈ scored.map Prod.fst := by
  induction scored generalizing best with
  | nil =>
      exact Or.inl isBest
  | cons candidate rest inductionHypothesis =>
      rcases inductionHypothesis isBest with isEarlier | isLater
      · dsimp only at isEarlier
        split at isEarlier
        · cases isEarlier
          exact Or.inr List.mem_cons_self
        · exact Or.inl isEarlier
      · exact Or.inr (List.mem_cons_of_mem _ isLater)

theorem bestRole_mem {candidates : List (String × String)}
    {front : Option String} {tokens : List String} {keys : String × String}
    (isBest : bestRole candidates front tokens = some keys) :
    keys ∈ candidates := by
  rcases foldl_best_mem isBest with isNone | isMember
  · cases isNone
  · obtain ⟨scored, isScored, rfl⟩ := List.mem_map.mp isMember
    obtain ⟨candidate, isCandidate, rfl⟩ := List.mem_map.mp isScored
    exact (List.of_mem_zip isCandidate).1

/-- A role changes the columns only, to a pair of the same edge. -/
theorem applyJoinRole_spec (graph : RelationshipGraph) (tokens : List String)
    (schema : Schema unicode) (join : Join) :
    (applyJoinRole graph tokens schema join).leftTable = join.leftTable ∧
      (applyJoinRole graph tokens schema join).rightTable = join.rightTable ∧
      ∀ keys, (join.rightTable, keys) ∈ neighbours graph join.leftTable →
        (join.leftKey, join.rightKey) ∈ keys.pairs →
        ((applyJoinRole graph tokens schema join).leftKey,
          (applyJoinRole graph tokens schema join).rightKey) ∈ keys.pairs := by
  unfold applyJoinRole
  dsimp only
  split
  · exact ⟨rfl, rfl, fun _ _ isPair => isPair⟩
  · split
    · exact ⟨rfl, rfl, fun _ _ isPair => isPair⟩
    · rename_i best isBest
      refine ⟨rfl, rfl, fun keys isEdge isPair => ?_⟩
      rcases List.mem_cons.mp (bestRole_mem isBest) with isOwn | isAlternate
      · rw [isOwn]
        exact isPair
      · rw [edgeAlternates, neighbours_lookup isEdge] at isAlternate
        exact List.mem_cons_of_mem _ isAlternate

theorem applyJoinRoles_anchored {base : Option String} (tokens : List String)
    (schema : Schema unicode) (anchored : Anchored graph base joins) :
    Anchored graph base (applyJoinRoles joins graph tokens schema) := by
  unfold applyJoinRoles
  split
  · exact anchored
  · refine ⟨?_, anchored.grows.map
      (fun join => (applyJoinRole_spec graph tokens schema join).1)
      (fun join => (applyJoinRole_spec graph tokens schema join).2.1)⟩
    intro join isJoin
    obtain ⟨old, isOld, rfl⟩ := List.mem_map.mp isJoin
    obtain ⟨root, isBase, path, keys, finds, isEdge, isPair⟩ :=
      anchored.along old isOld
    obtain ⟨sameLeft, sameRight, pairs⟩ :=
      applyJoinRole_spec graph tokens schema old
    refine ⟨root, isBase, path, keys, ?_, ?_, pairs keys isEdge isPair⟩
    · rw [sameLeft, sameRight]
      exact finds
    · rw [sameLeft, sameRight]
      exact isEdge

/-! ## Moving the base -/

theorem rebase_anchored {plan : Plan}
    (anchored : Anchored graph plan.baseTable plan.joins) :
    Anchored graph (rebaseOnReferencedTable unicode plan graph).baseTable
      (rebaseOnReferencedTable unicode plan graph).joins := by
  unfold rebaseOnReferencedTable
  split
  · exact anchored
  · exact Anchored.nil _

/-- Moving the base leaves the clauses as they are. -/
theorem rebase_items (plan : Plan) (graph : RelationshipGraph) :
    (rebaseOnReferencedTable unicode plan graph).items = plan.items := by
  unfold rebaseOnReferencedTable
  split
  · rfl
  · rfl

/-! ## Adding joins -/

theorem Anchored.mem_schema (isOver : Over schema graph)
    (anchored : Anchored graph (some base) joins)
    (isReachable : Reachable graph base table) (other : table ≠ base)
    {node : String} (inScope : InScope base joins node) :
    node ∈ schema.names := by
  rcases inScope with rfl | ⟨join, isJoin, rfl⟩
  · exact (isOver.reachable isReachable other).1
  · obtain ⟨root, _, isFor⟩ := anchored.along join isJoin
    exact (isFor.tables isOver).2.2

/-- The names in `scope` are those of the base and of the joined tables. -/
structure ScopeKept (unicode : Unicode) (graph : RelationshipGraph) (base : String)
    (found : List Join × List String) : Prop where
  anchored : Anchored graph (some base) found.1
  listed : ∀ name ∈ found.2, ∃ table, unicode.lower table = name ∧
    InScope base found.1 table
  holdsBase : unicode.lower base ∈ found.2
  holdsJoins : ∀ join ∈ found.1, unicode.lower join.rightTable ∈ found.2

theorem InScope.mono {more : List Join} (inScope : InScope base joins table)
    (isMore : joins ⊆ more) : InScope base more table := by
  rcases inScope with isBase | ⟨join, isJoin, isTable⟩
  · exact Or.inl isBase
  · exact Or.inr ⟨join, isMore isJoin, isTable⟩

theorem addHop_mono (found : List Join × List String) (hop : Hop) :
    found.2 ⊆ (addHop unicode found hop).2 := by
  unfold addHop
  split
  · exact fun _ isIn => isIn
  · exact fun _ isIn => List.mem_cons_of_mem _ isIn

theorem foldl_addHop_mono (path : List Hop) (found : List Join × List String) :
    found.2 ⊆ (path.foldl (addHop unicode) found).2 := by
  induction path generalizing found with
  | nil =>
      exact fun _ isIn => isIn
  | cons hop rest inductionHypothesis =>
      exact fun _ isIn => inductionHypothesis _ (addHop_mono found hop isIn)

theorem addHop_spec (isOver : Over schema graph)
    {found : List Join × List String} {path : List Hop} {left right : String}
    {keys : JoinKeys} (kept : ScopeKept unicode graph base found)
    (finds : Finds graph base right (path ++ [⟨left, right, keys⟩]))
    (isEdge : (right, keys) ∈ neighbours graph left)
    (isListed : unicode.lower left ∈ found.2) :
    ScopeKept unicode graph base (addHop unicode found ⟨left, right, keys⟩) ∧
      unicode.lower right ∈ (addHop unicode found ⟨left, right, keys⟩).2 := by
  have isFor := joinFor_ofHop finds isEdge
  obtain ⟨isBase, isLeft, _⟩ := isFor.tables isOver
  unfold addHop
  split
  · rename_i present
    exact ⟨kept, present⟩
  · obtain ⟨other, sameLower, inScope⟩ := kept.listed _ isListed
    have isOther : other ∈ schema.names :=
      kept.anchored.mem_schema isOver finds.reachable isFor.ne_base inScope
    have same := schema.lower_injective isOther isLeft sameLower
    refine ⟨⟨kept.anchored.add isFor (same ▸ inScope), ?_, ?_, ?_⟩,
      List.mem_cons_self⟩
    · intro name isName
      rcases List.mem_cons.mp isName with rfl | isOld
      · exact ⟨right, rfl, Or.inr
          ⟨_, List.mem_append_right _ List.mem_cons_self, rfl⟩⟩
      · obtain ⟨table, sameName, inScope⟩ := kept.listed name isOld
        exact ⟨table, sameName, inScope.mono (List.subset_append_left _ _)⟩
    · exact List.mem_cons_of_mem _ kept.holdsBase
    · intro join isJoin
      rcases List.mem_append.mp isJoin with isOld | isNew
      · exact List.mem_cons_of_mem _ (kept.holdsJoins join isOld)
      · cases List.mem_singleton.mp isNew
        exact List.mem_cons_self

/-- Adding the hops of a found path brings its table into scope. -/
theorem foldl_addHop_spec (isOver : Over schema graph)
    {found : List Join × List String} {path : List Hop}
    (kept : ScopeKept unicode graph base found)
    (finds : Finds graph base table path) :
    ScopeKept unicode graph base (path.foldl (addHop unicode) found) ∧
      unicode.lower table ∈ (path.foldl (addHop unicode) found).2 := by
  induction finds using PathSearch.Finds.induct with
  | nil => exact ⟨kept, kept.holdsBase⟩
  | snoc _ isEdge _ finds inductionHypothesis =>
      obtain ⟨keptBefore, isListed⟩ := inductionHypothesis
      rw [List.foldl_append]
      exact addHop_spec isOver keptBefore finds isEdge isListed

/-- The loop over the missing tables. -/
theorem foldl_missing_spec (isOver : Over schema graph) (missing : List String)
    {found : List Join × List String} (kept : ScopeKept unicode graph base found) :
    let all := missing.foldl
      (fun found table =>
        (findJoinPath graph base table).foldl (addHop unicode) found) found
    ScopeKept unicode graph base all ∧ found.2 ⊆ all.2 ∧
      ∀ table ∈ missing, Reachable graph base table →
        unicode.lower table ∈ all.2 := by
  induction missing generalizing found with
  | nil =>
      exact ⟨kept, fun _ isIn => isIn, by simp⟩
  | cons table rest inductionHypothesis =>
      dsimp only [List.foldl_cons]
      have monotone : found.2 ⊆
          ((findJoinPath graph base table).foldl (addHop unicode) found).2 :=
        foldl_addHop_mono _ found
      rcases findJoinPath_finds graph base table with finds | ⟨isEmpty, noWay⟩
      · obtain ⟨keptThen, isListed⟩ := foldl_addHop_spec isOver kept finds
        obtain ⟨keptAll, isMore, others⟩ := inductionHypothesis keptThen
        refine ⟨keptAll, fun _ isIn => isMore (monotone isIn), ?_⟩
        intro other isOther isReachable
        rcases List.mem_cons.mp isOther with rfl | isLater
        · exact isMore isListed
        · exact others other isLater isReachable
      · rw [isEmpty]
        obtain ⟨keptAll, isMore, others⟩ := inductionHypothesis kept
        refine ⟨keptAll, isMore, ?_⟩
        intro other isOther isReachable
        rcases List.mem_cons.mp isOther with rfl | isLater
        · exact absurd isReachable noWay
        · exact others other isLater isReachable

theorem mem_joinScope {plan : Plan} {name : String} :
    name ∈ joinScope unicode plan ↔ ∃ table, table ≠ "" ∧
      unicode.lower table = name ∧ (plan.baseTable = some table ∨
        ∃ join ∈ plan.joins, table = join.rightTable ∨
          table = join.leftTable) := by
  simp only [joinScope, List.mem_filterMap, List.mem_append, List.mem_flatMap,
    Option.mem_toList, List.mem_cons, List.not_mem_nil, or_false]
  constructor
  · rintro ⟨table, isTable, isName⟩
    split at isName
    · cases isName
    · rename_i notEmpty
      exact ⟨table, notEmpty, Option.some.inj isName, isTable⟩
  · rintro ⟨table, notEmpty, isName, isTable⟩
    exact ⟨table, isTable, by rw [if_neg notEmpty, isName]⟩

theorem joinScope_kept (isOver : Over schema graph) {plan : Plan}
    (isBase : plan.baseTable = some base) (notEmpty : base ≠ "")
    (anchored : Anchored graph plan.baseTable plan.joins) :
    ScopeKept unicode graph base (plan.joins, joinScope unicode plan) where
  anchored := isBase ▸ anchored
  listed name isName := by
    obtain ⟨table, _, sameName, isTable⟩ := mem_joinScope.mp isName
    refine ⟨table, sameName, ?_⟩
    rcases isTable with isTable | ⟨join, isJoin, rfl | rfl⟩
    · exact Or.inl (Option.some.inj (isTable.symm.trans isBase))
    · exact Or.inr ⟨join, isJoin, rfl⟩
    · obtain ⟨front, back, isAt⟩ := List.append_of_mem isJoin
      rcases anchored.grows.earlier isAt with isStart | ⟨earlier, isFront, isLeft⟩
      · exact Or.inl (Option.some.inj (isStart.symm.trans isBase))
      · refine Or.inr ⟨earlier, ?_, isLeft⟩
        rw [isAt]
        exact List.mem_append_left _ isFront
  holdsBase := mem_joinScope.mpr ⟨base, notEmpty, rfl, Or.inl isBase⟩
  holdsJoins join isJoin := by
    obtain ⟨root, _, isFor⟩ := anchored.along join isJoin
    exact mem_joinScope.mpr ⟨join.rightTable,
      schema.ne_empty (isFor.tables isOver).2.2, rfl,
      Or.inr ⟨join, isJoin, Or.inl rfl⟩⟩

/-- After reconciliation every table that a clause names and the graph reaches is
in scope. -/
structure Reconciled (unicode : Unicode) (graph : RelationshipGraph)
    (plan : Plan) : Prop where
  anchored : Anchored graph plan.baseTable plan.joins
  covered : ∀ base table, plan.baseTable = some base → Names unicode plan table →
    Reachable graph base table → InScope base plan.joins table

theorem reconcile_items (plan : Plan) (graph : RelationshipGraph) :
    (reconcileJoins unicode plan graph).items = plan.items := by
  unfold reconcileJoins
  split
  · rfl
  · split
    · rfl
    · rfl

/-- Reconciliation brings every referenced table into scope that the graph reaches. -/
theorem reconcile_referenced (isOver : Over schema graph) {plan : Plan}
    (anchored : Anchored graph plan.baseTable plan.joins) :
    Anchored graph plan.baseTable (reconcileJoins unicode plan graph).joins ∧
      ∀ base table, plan.baseTable = some base →
        table ∈ tablesReferencedByPlan unicode plan [] → Reachable graph base table →
        InScope base (reconcileJoins unicode plan graph).joins table := by
  unfold reconcileJoins
  split
  · rename_i noBase
    exact ⟨anchored, fun base _ isBase => by simp [noBase] at isBase⟩
  · rename_i base isBase
    split
    · rename_i isEmpty
      refine ⟨anchored, fun base' table isBase' isNamed isReachable => ?_⟩
      cases isBase.symm.trans isBase'
      by_cases same : table = base
      · exact Or.inl same
      · exact absurd isEmpty
          (schema.ne_empty (isOver.reachable isReachable same).1)
    · rename_i notEmpty
      have missing := foldl_missing_spec isOver
        ((tablesReferencedByPlan unicode plan []).filter fun table =>
          decide (unicode.lower table ∉ joinScope unicode plan))
        (joinScope_kept isOver isBase notEmpty anchored)
      obtain ⟨kept, isMore, reached⟩ := missing
      refine ⟨isBase ▸ kept.anchored,
        fun base' table isBase' isReferenced isReachable => ?_⟩
      cases isBase.symm.trans isBase'
      by_cases same : table = base
      · exact Or.inl same
      · have isTable := (isOver.reachable isReachable same).2
        obtain ⟨other, sameLower, isOther⟩ :=
          kept.listed (unicode.lower table) (by
            by_cases inScope : unicode.lower table ∈ joinScope unicode plan
            · exact isMore inScope
            · exact reached table
                (List.mem_filter.mpr ⟨isReferenced, decide_eq_true inScope⟩)
                isReachable)
        have isSchema := kept.anchored.mem_schema isOver isReachable same isOther
        exact schema.lower_injective isSchema isTable sameLower ▸ isOther

theorem reconcile_baseTable (plan : Plan) (graph : RelationshipGraph) :
    (reconcileJoins unicode plan graph).baseTable = plan.baseTable := by
  unfold reconcileJoins
  split
  · rfl
  · split
    · rfl
    · rfl

theorem reconcile_spec (isOver : Over schema graph) {plan : Plan}
    (spelled : SpelledAs schema plan)
    (anchored : Anchored graph plan.baseTable plan.joins) :
    Reconciled unicode graph (reconcileJoins unicode plan graph) := by
  obtain ⟨stillAnchored, reached⟩ :
      Anchored graph plan.baseTable (reconcileJoins unicode plan graph).joins ∧ _ :=
    reconcile_referenced isOver anchored
  constructor
  · rw [reconcile_baseTable]
    exact stillAnchored
  · intro base table isBase isNamed isReachable
    rw [reconcile_baseTable] at isBase
    by_cases same : table = base
    · exact Or.inl same
    · apply reached base table isBase _ isReachable
      rw [Names, reconcile_items] at isNamed
      exact spelled.referenced (isOver.reachable isReachable same).2 isNamed

/-! ## Dropping filters -/

theorem drop_baseTable (plan : Plan) :
    (dropUnreachableFilters unicode plan).baseTable = plan.baseTable ∧
      (dropUnreachableFilters unicode plan).joins = plan.joins := by
  unfold dropUnreachableFilters
  dsimp only
  split
  · exact ⟨rfl, rfl⟩
  · exact ⟨rfl, rfl⟩

/-- Dropping filters names no new table. -/
theorem drop_items (plan : Plan) :
    (dropUnreachableFilters unicode plan).items ⊆ plan.items := by
  unfold dropUnreachableFilters
  dsimp only
  split
  · exact fun _ isIn => isIn
  · intro item isItem
    simp only [Plan.items, List.mem_append, List.mem_filter] at isItem ⊢
    tauto

theorem Names.of_subset {plan narrowed : Plan}
    (isSubset : narrowed.items ⊆ plan.items)
    (isNamed : Names unicode narrowed table) : Names unicode plan table := by
  obtain ⟨item, isItem, isTable⟩ := List.mem_flatMap.mp isNamed.2
  exact ⟨isNamed.1, List.mem_flatMap.mpr ⟨item, isSubset isItem, isTable⟩⟩

theorem drop_reconciled {plan : Plan} (reconciled : Reconciled unicode graph plan) :
    Reconciled unicode graph (dropUnreachableFilters unicode plan) := by
  obtain ⟨sameBase, sameJoins⟩ :
      (dropUnreachableFilters unicode plan).baseTable = plan.baseTable ∧
        (dropUnreachableFilters unicode plan).joins = plan.joins :=
    drop_baseTable plan
  refine ⟨?_, ?_⟩
  · rw [sameBase, sameJoins]
    exact reconciled.anchored
  · rw [sameBase, sameJoins]
    exact fun base table isBase isNamed =>
      reconciled.covered base table isBase (isNamed.of_subset (drop_items plan))

/-! ## Pruning -/

/-- Keeping the first join of each table leaves a tree of the same tables. -/
theorem dedupe_spec {scope : Set String} (seen : List String)
    (along : ∀ join ∈ joins, join.rightTable ∈ schema.names)
    (grows : Grows Join.leftTable Join.rightTable scope joins)
    (known : ∀ name ∈ seen, ∃ table ∈ scope, unicode.lower table = name ∧
      table ∈ schema.names) :
    Grows Join.leftTable Join.rightTable scope
        (dedupeJoins unicode seen joins) ∧
      dedupeJoins unicode seen joins ⊆ joins ∧
      ((dedupeJoins unicode seen joins).map Join.rightTable).Nodup ∧
      (∀ join ∈ dedupeJoins unicode seen joins,
        unicode.lower join.rightTable ∉ seen) ∧
      ∀ join ∈ joins, join.rightTable ∈ scope ∨
        ∃ kept ∈ dedupeJoins unicode seen joins,
          kept.rightTable = join.rightTable := by
  induction joins generalizing scope seen with
  | nil =>
      exact ⟨trivial, by simp [dedupeJoins], by simp [dedupeJoins],
        by simp [dedupeJoins], by simp⟩
  | cons join rest inductionHypothesis =>
      have isTable := along join List.mem_cons_self
      have alongRest : ∀ later ∈ rest, later.rightTable ∈ schema.names :=
        fun later isLater => along later (List.mem_cons_of_mem _ isLater)
      have notEmpty : unicode.lower join.rightTable ≠ "" := fun isEmpty =>
        schema.ne_empty isTable ((unicode.lower_eq_empty _).mp isEmpty)
      unfold dedupeJoins
      dsimp only
      split
      · rename_i isSeen
        obtain ⟨table, inScope, sameLower, isKnown⟩ :=
          known _ (isSeen.resolve_left notEmpty)
        have same : table = join.rightTable :=
          schema.lower_injective isKnown isTable sameLower
        subst same
        have growsRest := grows.2
        rw [Set.insert_eq_of_mem inScope] at growsRest
        obtain ⟨growsKept, isSubset, distinct, isNew, allKept⟩ :=
          inductionHypothesis seen alongRest growsRest known
        refine ⟨growsKept, fun _ isIn => List.mem_cons_of_mem _ (isSubset isIn),
          distinct, isNew, ?_⟩
        intro other isOther
        rcases List.mem_cons.mp isOther with rfl | isLater
        · exact Or.inl inScope
        · exact allKept other isLater
      · rename_i notSeen
        have knownThen : ∀ name ∈ unicode.lower join.rightTable :: seen,
            ∃ table ∈ insert join.rightTable scope,
              unicode.lower table = name ∧ table ∈ schema.names := by
          intro name isName
          rcases List.mem_cons.mp isName with rfl | isOld
          · exact ⟨_, Set.mem_insert _ _, rfl, isTable⟩
          · obtain ⟨table, inScope, rest⟩ := known name isOld
            exact ⟨table, Set.mem_insert_of_mem _ inScope, rest⟩
        obtain ⟨growsKept, isSubset, distinct, isNew, allKept⟩ :=
          inductionHypothesis _ alongRest grows.2 knownThen
        refine ⟨⟨grows.1, growsKept⟩, List.cons_subset_cons _ isSubset, ?_, ?_, ?_⟩
        · rw [List.map_cons, List.nodup_cons]
          refine ⟨fun isAgain => ?_, distinct⟩
          obtain ⟨other, isOther, sameTable⟩ := List.mem_map.mp isAgain
          exact isNew other isOther (sameTable ▸ List.mem_cons_self)
        · intro other isOther
          rcases List.mem_cons.mp isOther with rfl | isLater
          · exact fun isSeen => notSeen (Or.inr isSeen)
          · exact fun isSeen => isNew other isLater (List.mem_cons_of_mem _ isSeen)
        · intro other isOther
          rcases List.mem_cons.mp isOther with rfl | isLater
          · exact Or.inr ⟨_, List.mem_cons_self, rfl⟩
          · rcases allKept other isLater with inScope | ⟨kept, isKept, sameTable⟩
            · rcases Set.mem_insert_iff.mp inScope with same | inScope
              · exact Or.inr ⟨join, List.mem_cons_self, same.symm⟩
              · exact Or.inl inScope
            · exact Or.inr ⟨kept, List.mem_cons_of_mem _ isKept, sameTable⟩

/-- What the walk from the end keeps of `joins`, and what is referenced then. -/
structure Pruned (unicode : Unicode) (schema : Schema unicode)
    (scope : Set String) (referenced : List String) (joins : List Join)
    (kept : List Join × List String) : Prop where
  grows : Grows Join.leftTable Join.rightTable scope kept.1
  sublist : kept.1.Sublist joins
  starts : ∀ join ∈ kept.1, unicode.lower join.leftTable ∈ kept.2
  origin : ∀ name ∈ kept.2, name ∈ referenced ∨
    ∃ join ∈ kept.1, unicode.lower join.leftTable = name
  more : referenced ⊆ kept.2
  keeps : ∀ join ∈ joins, unicode.lower join.rightTable ∈ referenced →
    join ∈ kept.1
  needed : ∀ join ∈ kept.1, ∃ table ∈ schema.names,
    unicode.lower table ∈ referenced ∧
      Leads Join.leftTable Join.rightTable kept.1 join.rightTable table

theorem keepReferenced_spec {scope : Set String} (referenced : List String)
    (along : ∀ join ∈ joins, join.leftTable ∈ schema.names ∧
      join.rightTable ∈ schema.names)
    (grows : Grows Join.leftTable Join.rightTable scope joins) :
    Pruned unicode schema scope referenced joins
      (keepReferenced unicode referenced joins) := by
  induction joins generalizing scope with
  | nil =>
      exact ⟨trivial, List.Sublist.refl _, by simp [keepReferenced],
        fun name isName => Or.inl isName, fun _ isIn => isIn, by simp,
        by simp [keepReferenced]⟩
  | cons join rest inductionHypothesis =>
      obtain ⟨isLeft, isRight⟩ := along join List.mem_cons_self
      have alongRest : ∀ later ∈ rest, later.leftTable ∈ schema.names ∧
          later.rightTable ∈ schema.names :=
        fun later isLater => along later (List.mem_cons_of_mem _ isLater)
      have pruned := inductionHypothesis alongRest grows.2
      unfold keepReferenced
      dsimp only
      split
      · rename_i isReferenced
        rw [if_neg (schema.ne_empty isLeft)]
        refine ⟨⟨grows.1, pruned.grows⟩, pruned.sublist.cons_cons join, ?_, ?_,
          fun _ isIn => List.mem_cons_of_mem _ (pruned.more isIn), ?_, ?_⟩
        · intro other isOther
          rcases List.mem_cons.mp isOther with rfl | isLater
          · exact List.mem_cons_self
          · exact List.mem_cons_of_mem _ (pruned.starts other isLater)
        · intro name isName
          rcases List.mem_cons.mp isName with rfl | isOld
          · exact Or.inr ⟨join, List.mem_cons_self, rfl⟩
          · rcases pruned.origin name isOld with isGiven | ⟨other, isKept, isStart⟩
            · exact Or.inl isGiven
            · exact Or.inr ⟨other, List.mem_cons_of_mem _ isKept, isStart⟩
        · intro other isOther isGiven
          rcases List.mem_cons.mp isOther with rfl | isLater
          · exact List.mem_cons_self
          · exact List.mem_cons_of_mem _ (pruned.keeps other isLater isGiven)
        · -- The join is needed by a clause, or by a join that is kept behind it.
          intro other isOther
          rcases List.mem_cons.mp isOther with rfl | isLater
          · rcases pruned.origin _ isReferenced with isGiven | ⟨next, isKept,
              isStart⟩
            · exact ⟨_, isRight, isGiven, Relation.ReflTransGen.refl⟩
            · obtain ⟨table, isTable, isGiven, leads⟩ := pruned.needed next isKept
              have isNext := alongRest next (pruned.sublist.subset isKept)
              have same := schema.lower_injective isNext.1 isRight isStart
              refine ⟨table, isTable, isGiven,
                (leads.mono (List.subset_cons_self _ _)).head ?_⟩
              exact ⟨next, List.mem_cons_of_mem _ isKept, same, rfl⟩
          · obtain ⟨table, isTable, isGiven, leads⟩ := pruned.needed other isLater
            exact ⟨table, isTable, isGiven,
              leads.mono (List.subset_cons_self _ _)⟩
      · rename_i notReferenced
        refine { pruned with grows := ?_, sublist := ?_, keeps := ?_ }
        · refine pruned.grows.without fun later isLater same => ?_
          exact notReferenced (same ▸ pruned.starts later isLater)
        · exact pruned.sublist.cons join
        · intro other isOther isGiven
          rcases List.mem_cons.mp isOther with rfl | isLater
          · exact absurd (pruned.more isGiven) notReferenced
          · exact pruned.keeps other isLater isGiven

end Paths

/-! ## The finished joins -/

/-- The joins of a plan are a tree that is rooted at its base table, on columns of
the graph's edges, and just what the clauses need. -/
structure Rooted (unicode : Unicode) (graph : RelationshipGraph) (plan : Plan) :
    Prop where
  baseFresh : ∀ join ∈ plan.joins, plan.baseTable ≠ some join.rightTable
  distinct : (plan.joins.map Join.rightTable).Nodup
  ordered : ∀ front join back, plan.joins = front ++ join :: back →
    plan.baseTable = some join.leftTable ∨
      ∃ earlier ∈ front, earlier.rightTable = join.leftTable
  keys : ∀ join ∈ plan.joins, ∃ keys,
    (join.rightTable, keys) ∈ neighbours graph join.leftTable ∧
      (join.leftKey, join.rightKey) ∈ keys.pairs
  covered : ∀ base table, plan.baseTable = some base →
    Names unicode plan table → Reachable graph base table →
    InScope base plan.joins table
  needed : ∀ join ∈ plan.joins, ∃ table, Names unicode plan table ∧
    Leads Join.leftTable Join.rightTable plan.joins join.rightTable table

section Finished

variable {unicode : Unicode} {schema : Schema unicode} {graph : RelationshipGraph}

theorem leads_last {joins : List Join} {node last : String}
    (leads : Leads Join.leftTable Join.rightTable joins node last) :
    node = last ∨ ∃ join ∈ joins, join.rightTable = last := by
  rcases Relation.ReflTransGen.cases_tail leads with isSame | ⟨_, _, join, isJoin,
    _, isLast⟩
  · exact Or.inl isSame.symm
  · exact Or.inr ⟨join, isJoin, isLast⟩

/-- Pruning a reconciled plan leaves a rooted tree. -/
theorem prune_rooted (isOver : Over schema graph) {plan : Plan}
    (spelled : SpelledAs schema plan)
    (reconciled : Reconciled unicode graph plan) :
    Rooted unicode graph (pruneUnusedJoins unicode plan) := by
  obtain ⟨anchored, covered⟩ := reconciled
  have tables : ∀ join ∈ plan.joins, join.leftTable ∈ schema.names ∧
      join.rightTable ∈ schema.names := by
    intro join isJoin
    obtain ⟨root, _, isFor⟩ := anchored.along join isJoin
    exact (isFor.tables isOver).2
  obtain ⟨growsOnce, isSubset, distinct, _, allKept⟩ :=
    dedupe_spec [] (fun join isJoin => (tables join isJoin).2) anchored.grows
      (by simp)
  have pruned := keepReferenced_spec
    (unicode.lower (plan.baseTable.getD "") ::
      (tablesReferencedByPlan unicode plan []).map unicode.lower)
    (fun join isJoin => tables join (isSubset isJoin)) growsOnce
  have along : ∀ join ∈ (pruneUnusedJoins unicode plan).joins,
      ∃ root, plan.baseTable = some root ∧ JoinFor graph root join :=
    fun join isJoin => anchored.along join (isSubset (pruned.sublist.subset isJoin))
  have fresh : ∀ join ∈ (pruneUnusedJoins unicode plan).joins,
      plan.baseTable ≠ some join.rightTable := by
    intro join isJoin isBase
    obtain ⟨root, isRoot, isFor⟩ := along join isJoin
    exact isFor.ne_base (Option.some.inj (isBase.symm.trans isRoot))
  refine ⟨fresh, distinct.sublist (pruned.sublist.map _), ?_, ?_, ?_, ?_⟩
  · intro front join back isAt
    exact pruned.grows.earlier isAt
  · intro join isJoin
    obtain ⟨root, _, path, keys, _, isEdge, isPair⟩ := along join isJoin
    exact ⟨keys, isEdge, isPair⟩
  · intro base table isBase isNamed isReachable
    rcases covered base table isBase isNamed isReachable with isSame | ⟨join,
      isJoin, rfl⟩
    · exact Or.inl isSame
    · rcases allKept join isJoin with isStart | ⟨kept, isKept, sameTable⟩
      · exact Or.inl (Option.some.inj (isStart.symm.trans isBase))
      · have isReferenced := spelled.referenced (tables join isJoin).2 isNamed
        refine Or.inr ⟨kept, pruned.keeps kept isKept ?_, sameTable⟩
        rw [sameTable]
        exact List.mem_cons_of_mem _ (List.mem_map_of_mem isReferenced)
  · intro join isJoin
    obtain ⟨table, isTable, isGiven, leads⟩ := pruned.needed join isJoin
    refine ⟨table, ?_, leads⟩
    rcases List.mem_cons.mp isGiven with isBase | isReferenced
    · -- No join leads back to the base.
      obtain ⟨root, isRoot, isFor⟩ := along join isJoin
      rw [isRoot] at isBase
      have same : table = root :=
        schema.lower_injective isTable (isFor.tables isOver).1 isBase
      subst same
      rcases leads_last leads with isLast | ⟨last, isLast, isRight⟩
      · exact absurd (isLast ▸ isRoot) (fresh join isJoin)
      · exact absurd (isRight ▸ isRoot) (fresh last isLast)
    · obtain ⟨named, isNamed, sameLower⟩ := List.mem_map.mp isReferenced
      have isName := names_of_referenced isNamed
      exact spelled named isName table isTable sameLower ▸ isName

/-- Whatever the base and the tables the joins are first resolved for, and
whatever the clauses are at the end: with or without the filters out of reach,
the finished joins are a rooted tree. -/
theorem finishedJoins_rooted (isOver : Over schema graph) (base : Option String)
    (targets tokens : List String) (clauses : Plan)
    (spelled : SpelledAs schema clauses) :
    let resolved := applyJoinRoles (resolveJoins graph base targets) graph tokens
      schema
    let plan := { clauses with baseTable := base, joins := resolved }
    let reconciled := reconcileJoins unicode
      (rebaseOnReferencedTable unicode plan graph) graph
    Rooted unicode graph (pruneUnusedJoins unicode reconciled) ∧
      Rooted unicode graph (pruneUnusedJoins unicode
        (dropUnreachableFilters unicode reconciled)) := by
  intro resolved plan reconciled
  have sameItems : reconciled.items = clauses.items :=
    (reconcile_items _ graph).trans (rebase_items plan graph)
  have anchored : Anchored graph plan.baseTable plan.joins :=
    applyJoinRoles_anchored tokens schema
      (resolveJoins_anchored graph base targets)
  have spelledThen : SpelledAs schema (rebaseOnReferencedTable unicode plan graph) :=
    fun table isNamed => spelled table
      (isNamed.of_subset (rebase_items plan graph ▸ List.Subset.refl _))
  have isReconciled := reconcile_spec isOver spelledThen (rebase_anchored anchored)
  have spelledLast : SpelledAs schema reconciled :=
    fun table isNamed => spelled table
      (isNamed.of_subset (sameItems ▸ List.Subset.refl _))
  refine ⟨prune_rooted isOver spelledLast isReconciled,
    prune_rooted isOver ?_ (drop_reconciled isReconciled)⟩
  exact fun table isNamed => spelledLast table (isNamed.of_subset (drop_items _))

end Finished

/-! ### A plan over three tables -/

def shopSchema : Schema ascii where
  tables := [("orders", ["id", "customer_id", "bill_customer_id"]),
    ("customers", ["id", "name"]), ("payments", ["id", "order_id"])]
  named := by decide
  distinct := by decide

def edgesOf (entries : List ((_ : String) × JoinKeys)) :
    AList fun _ : String => JoinKeys :=
  entries.toAList

def shopGraph : RelationshipGraph :=
  List.toAList [
    ⟨"orders", edgesOf [
      ⟨"customers", "customer_id", "id", [("bill_customer_id", "id")]⟩,
      ⟨"payments", "id", "order_id", []⟩]⟩,
    ⟨"customers", edgesOf [
      ⟨"orders", "id", "customer_id", [("id", "bill_customer_id")]⟩]⟩,
    ⟨"payments", edgesOf [⟨"orders", "order_id", "id", []⟩]⟩]

/-- "billed customers by name": the names of the customers, of orders. -/
def billedClauses : Plan where
  baseTable := none
  joins := []
  select := [⟨some "customers", some "name"⟩]
  columns := []
  filters := [⟨none, some "orders.id"⟩]
  groupBy := []
  orderBy := []
  having := []
  confidence := 0
  ambiguities := []

theorem shopGraph_over : Over shopSchema shopGraph := by
  have closed : ∀ table ∈ shopGraph.keys,
      table ∈ shopSchema.names ∧ ∀ next ∈ neighbours shopGraph table,
        next.1 ∈ shopSchema.names := by
    decide
  intro table next keys isEdge
  by_cases isTable : table ∈ shopGraph.keys
  · exact ⟨(closed table isTable).1, (closed table isTable).2 _ isEdge⟩
  · rw [neighbours_of_notMem isTable] at isEdge
    cases isEdge

theorem billed_spelled : SpelledAs shopSchema billedClauses := by
  have spelled : ∀ table ∈ billedClauses.items.flatMap (Item.tables ascii),
      ∀ other ∈ shopSchema.names, ascii.lower table = ascii.lower other →
        table = other := by
    decide
  exact fun table isNamed => spelled table isNamed.2

def billedPlan : Plan :=
  pruneUnusedJoins ascii (dropUnreachableFilters ascii (reconcileJoins ascii
    (rebaseOnReferencedTable ascii
      { billedClauses with
        baseTable := some "payments"
        joins := applyJoinRoles
          (resolveJoins shopGraph (some "payments") ["orders", "customers"])
          shopGraph ["bill"] shopSchema } shopGraph) shopGraph))

theorem finishedJoins_rooted_billed :
    billedPlan.joins = [⟨"payments", "orders", "order_id", "id"⟩,
        ⟨"orders", "customers", "bill_customer_id", "id"⟩] ∧
      Rooted ascii shopGraph billedPlan := by
  refine ⟨by decide, ?_⟩
  exact (finishedJoins_rooted shopGraph_over (some "payments")
    ["orders", "customers"] ["bill"] billedClauses billed_spelled).2

end DbBuddy.Planner
