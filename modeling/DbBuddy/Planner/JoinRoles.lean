import DbBuddy.Planner.Finishing
import DbBuddy.Planner.JoinPaths
import DbBuddy.Planner.KeyPairs
import DbBuddy.Planner.RelationshipGraph
import DbBuddy.Planner.RootedJoins

/-!
# The roles of the joins in a finished plan

The words of the question choose among the pairs of every join that is resolved early,
by their left columns; a join that the reconciliation adds keeps the default pair.
-/

namespace DbBuddy.Planner

open DbBuddy.Library DbBuddy.Sql

/-! ## What a join should be made on -/

section Roles

variable (columnsOf : String → List String) (tokens : List String)

/-- What the columns of both tables begin with. -/
def frontsOf (left right : String) : Option String × Option String :=
  (uniformColumnPrefix (columnsOf left), uniformColumnPrefix (columnsOf right))

/-- The join is made on the best pair of its edge. -/
def InBestRole (graph : RelationshipGraph) (join : Join) : Prop :=
  ∃ keys, (join.rightTable, keys) ∈ neighbours graph join.leftTable ∧
    IsBestPair (pairWords (frontsOf columnsOf join.leftTable join.rightTable)) keys tokens
      (join.leftKey, join.rightKey)

/-- The pair whose left column has most words of the question is the best of its edge. -/
def LeftTells (hop : Hop) : Prop :=
  ∀ pair, IsFirstPair (leftWords (uniformColumnPrefix (columnsOf hop.source))) hop.keys
      tokens pair →
    IsBestPair (pairWords (frontsOf columnsOf hop.source hop.target)) hop.keys tokens pair

/-- No other pair of the edge has more words of the question than the default one. -/
def DefaultTells (hop : Hop) : Prop :=
  let score := pairScore (pairWords (frontsOf columnsOf hop.source hop.target)) hop.keys
    tokens
  ∀ other ∈ hop.keys.alternates,
    score other ≤ score (hop.keys.fromColumn, hop.keys.toColumn)

end Roles

/-- The table that decides whether an item is in reach, if any. -/
def Item.decisive (unicode : Unicode) (item : Item) : Option String :=
  match item.table with
  | some table => if table = "" then item.column.bind (columnPrefix unicode) else some table
  | none => item.column.bind (columnPrefix unicode)

/-- What the joins of a plan are made of: what is known of the database, the words of the
question, the base table and the tables that are known early, and the clauses once all
are there. -/
structure JoinRequest where
  columnsOf : String → List String
  graph : RelationshipGraph
  tokens : List String
  base : Option String
  targets : List String
  clauses : Plan

namespace JoinRequest

variable (unicode : Unicode) (request : JoinRequest)

/-! ## The passes over the joins -/

/-- The plan with the joins that are resolved early, in the roles that the question
names. -/
def resolved : Plan :=
  { request.clauses with
    baseTable := request.base
    joins := joinsInRoles request.columnsOf
      (resolveJoins request.graph request.base request.targets) request.graph
      request.tokens }

/-- The plan once its base is moved. -/
def rebased : Plan :=
  rebaseOnReferencedTable unicode request.resolved request.graph

/-- The plan once the missing joins are there. -/
def reconciled : Plan :=
  reconcileJoins unicode (request.rebased unicode) request.graph

/-- The plan without the filters out of reach and the joins that nothing needs. -/
def finished : Plan :=
  pruneUnusedJoins unicode (dropUnreachableFilters unicode (request.reconciled unicode))

/-! ## When all joins are in their best roles -/

/-- The table that the base is moved to, if no clause names the base. -/
def movedTo : Option String :=
  rebaseCandidate unicode { request.clauses with baseTable := request.base } request.graph

/-- The table that the joins start from. -/
def start : Option String :=
  (request.movedTo unicode).or request.base

/-- The tables that joins are looked for: those that the clauses name, and unless the
base is moved those that are known early. -/
def goals : List String :=
  tablesReferencedByPlan unicode request.clauses [] ++
    if request.movedTo unicode = none then request.targets else []

/-- The ways from `home` to the tables that joins are looked for pass the table. -/
def Passes (home table : String) : Prop :=
  table = home ∨ ∃ goal ∈ request.goals unicode,
    ∃ hop ∈ findJoinPath request.graph home goal, hop.target = table

/-- The base is not moved, and a table that is known early is reached by the hop. -/
def ResolvedEarly (hop : Hop) : Prop :=
  request.movedTo unicode = none ∧ ∃ home, request.base = some home ∧
    ∃ target ∈ request.targets, hop ∈ findJoinPath request.graph home target

/-- The item is in a clause that is never dropped, or the table that decides about it, if
any, is on the ways. -/
def Stays (home : String) (item : Item) : Prop :=
  item ∈ request.clauses.select ++ request.clauses.columns ++ request.clauses.groupBy ∨
    (item ∈ request.clauses.filters ++ request.clauses.orderBy ++ request.clauses.having ∧
      ∀ name, item.decisive unicode = some name → name = "" ∨
        ∃ table, table ≠ "" ∧ request.Passes unicode home table ∧
          unicode.lower table = unicode.lower name)

/-- A clause that stays names the table. -/
def Wants (home table : String) : Prop :=
  ∃ item, request.Stays unicode home item ∧
    ∃ name ∈ item.tables unicode, name ≠ "" ∧ unicode.lower name = unicode.lower table

/-- On the ways to the tables that the remaining clauses name, the left columns tell the
pairs of every early hop apart, and the question names no other pair of a late one. -/
def RolesStand : Prop :=
  ∀ home table, request.start unicode = some home → request.Passes unicode home table →
    request.Wants unicode home table → ∀ hop ∈ findJoinPath request.graph home table,
      (request.ResolvedEarly unicode hop →
        LeftTells request.columnsOf request.tokens hop) ∧
      (¬request.ResolvedEarly unicode hop →
        DefaultTells request.columnsOf request.tokens hop)

end JoinRequest

section Roles

variable {columnsOf : String → List String} {tokens : List String} {hop : Hop}
variable {graph : RelationshipGraph}

/-! ## The pairs of the joins -/

/-- A join along a hop, on a pair of columns. -/
def hopJoin (hop : Hop) (pair : String × String) : Join :=
  ⟨hop.source, hop.target, pair.1, pair.2⟩

variable (columnsOf tokens) in
/-- The pair that `_apply_join_roles` chooses. -/
def chosenPair (hop : Hop) : String × String :=
  (bestRole hop.keys.pairs (uniformColumnPrefix (columnsOf hop.source)) tokens).getD
    (hop.keys.fromColumn, hop.keys.toColumn)

theorem chosenPair_first : IsFirstPair
    (leftWords (uniformColumnPrefix (columnsOf hop.source))) hop.keys tokens
    (chosenPair columnsOf tokens hop) :=
  bestRole_first

theorem chosenPair_noTokens :
    chosenPair columnsOf [] hop = (hop.keys.fromColumn, hop.keys.toColumn) := by
  apply chosenPair_first.unique
  apply isFirstPair_default
  intro pair _
  exact pairScore_noTokens pair

/-- The joins along hops of the graph, in the roles that the question names. -/
theorem joinsInRoles_hops {hops : List Hop}
    (edges : ∀ hop ∈ hops, (hop.target, hop.keys) ∈ neighbours graph hop.source) :
    joinsInRoles columnsOf (hops.map Join.ofHop) graph tokens =
      hops.map fun hop => hopJoin hop (chosenPair columnsOf tokens hop) := by
  unfold joinsInRoles
  split
  · next noTokens =>
      apply List.map_congr_left
      intro hop _
      rw [noTokens, chosenPair_noTokens]
      rfl
  · rw [List.map_map]
    apply List.map_congr_left
    intro hop isHop
    have alternates : edgeAlternates graph (Join.ofHop hop) = hop.keys.alternates := by
      rw [edgeAlternates, Join.ofHop, neighbours_lookup (edges hop isHop)]
    have chosen : chosenPair columnsOf tokens hop =
        (bestRole ((hop.keys.fromColumn, hop.keys.toColumn) :: hop.keys.alternates)
          (uniformColumnPrefix (columnsOf hop.source)) tokens).getD
            (hop.keys.fromColumn, hop.keys.toColumn) := rfl
    dsimp only [Function.comp_apply]
    rw [alternates]
    split
    · next noAlternates =>
        have isPair : chosenPair columnsOf tokens hop ∈ hop.keys.pairs :=
          chosenPair_first.mem
        rw [JoinKeys.pairs, noAlternates, List.mem_singleton] at isPair
        rw [isPair]
        rfl
    · dsimp only [Join.ofHop]
      rw [chosen]
      split
      · next isNone =>
          rw [isNone]
          rfl
      · next keys isKeys =>
          rw [isKeys]
          rfl

/-- What a hop is made into: on the pair that the question names, or on the default
one. -/
structure Roled (request : JoinRequest) (unicode : Unicode) (hop : Hop) (join : Join) :
    Prop where
  early : request.ResolvedEarly unicode hop →
    join = hopJoin hop (chosenPair request.columnsOf request.tokens hop)
  late : ¬request.ResolvedEarly unicode hop → join = Join.ofHop hop

variable {request : JoinRequest} {unicode : Unicode} {join : Join}

theorem Roled.tables (roled : Roled request unicode hop join) :
    join.leftTable = hop.source ∧ join.rightTable = hop.target := by
  by_cases isEarly : request.ResolvedEarly unicode hop
  · rw [roled.early isEarly]
    exact ⟨rfl, rfl⟩
  · rw [roled.late isEarly]
    exact ⟨rfl, rfl⟩

theorem inBestRole_hopJoin {pair : String × String}
    (isEdge : (hop.target, hop.keys) ∈ neighbours graph hop.source) :
    InBestRole columnsOf tokens graph (hopJoin hop pair) ↔
      IsBestPair (pairWords (frontsOf columnsOf hop.source hop.target)) hop.keys tokens
        pair := by
  constructor
  · intro ⟨keys, isKeys, best⟩
    have same : keys = hop.keys := by
      have found := neighbours_lookup isKeys
      rw [hopJoin, neighbours_lookup isEdge] at found
      exact (Option.some.inj found).symm
    rw [same] at best
    exact best
  · intro best
    exact ⟨hop.keys, isEdge, best⟩

/-- A join is in its best role just if the left columns tell, or the default does. -/
theorem Roled.inBestRole_iff (roled : Roled request unicode hop join)
    (isEdge : (hop.target, hop.keys) ∈ neighbours request.graph hop.source) :
    InBestRole request.columnsOf request.tokens request.graph join ↔
      (request.ResolvedEarly unicode hop →
        LeftTells request.columnsOf request.tokens hop) ∧
      (¬request.ResolvedEarly unicode hop →
        DefaultTells request.columnsOf request.tokens hop) := by
  by_cases isEarly : request.ResolvedEarly unicode hop
  · rw [roled.early isEarly, inBestRole_hopJoin isEdge]
    simp only [isEarly, true_implies, not_true_eq_false, false_implies, and_true]
    constructor
    · intro best pair isFirst
      rw [isFirst.unique chosenPair_first]
      exact best
    · intro tells
      exact tells _ chosenPair_first
  · have isDefault : Join.ofHop hop =
        hopJoin hop (hop.keys.fromColumn, hop.keys.toColumn) := rfl
    rw [roled.late isEarly, isDefault, inBestRole_hopJoin isEdge, isBestPair_default_iff]
    simp only [isEarly, false_implies, not_false_eq_true, true_implies, true_and]
    rfl

end Roles

/-! ## Where the joins are placed -/

section Placed

variable {unicode : Unicode} {schema : Schema unicode} {graph : RelationshipGraph}
variable {request : JoinRequest} {home table : String} {hop : Hop} {join : Join}

theorem findJoinPath_self (graph : RelationshipGraph) (home : String) :
    findJoinPath graph home home = [] := by
  rcases findJoinPath_finds graph home home with finds | ⟨isEmpty, _⟩
  · exact finds.unique PathSearch.finds_start
  · exact isEmpty

theorem findJoinPath_eq {path : List Hop} (finds : Finds graph home table path) :
    findJoinPath graph home table = path := by
  rcases findJoinPath_finds graph home table with isFound | ⟨_, noWay⟩
  · exact isFound.unique finds
  · exact absurd finds.reachable noWay

theorem finds_of_hop (isHop : hop ∈ findJoinPath graph home table) :
    Finds graph home table (findJoinPath graph home table) := by
  rcases findJoinPath_finds graph home table with finds | ⟨isEmpty, _⟩
  · exact finds
  · rw [isEmpty] at isHop
    cases isHop

theorem edge_of_hop (isHop : hop ∈ findJoinPath graph home table) :
    (hop.target, hop.keys) ∈ neighbours graph hop.source :=
  (finds_of_hop isHop).walk.edges hop isHop

/-- Early joins are found along the paths to the tables that are known early. -/
theorem resolveJoins_eq (targets : List String) :
    resolveJoins graph (some home) targets =
      (targets.flatMap (findJoinPath graph home)).map Join.ofHop := by
  rw [resolveJoins, List.map_flatMap]
  apply List.flatMap_congr
  intro table _
  split
  · next isHome => rw [isHome, findJoinPath_self, List.map_nil]
  · rfl

/-- The hops of the joins that are resolved early. -/
def JoinRequest.earlyHops (request : JoinRequest) (home : String) : List Hop :=
  request.targets.flatMap (findJoinPath request.graph home)

theorem mem_earlyHops : hop ∈ request.earlyHops home ↔
    ∃ target ∈ request.targets, hop ∈ findJoinPath request.graph home target :=
  List.mem_flatMap

theorem resolved_joins (isBase : request.base = some home) :
    request.resolved.joins = (request.earlyHops home).map fun hop =>
      hopJoin hop (chosenPair request.columnsOf request.tokens hop) := by
  have joins : request.resolved.joins = joinsInRoles request.columnsOf
      (resolveJoins request.graph request.base request.targets) request.graph
      request.tokens := rfl
  rw [joins, isBase, resolveJoins_eq]
  apply joinsInRoles_hops
  intro hop isHop
  obtain ⟨target, _, isOnPath⟩ := List.mem_flatMap.mp isHop
  exact edge_of_hop isOnPath

theorem resolved_noBase (isNone : request.base = none) : request.resolved.joins = [] := by
  have joins : request.resolved.joins = joinsInRoles request.columnsOf
      (resolveJoins request.graph request.base request.targets) request.graph
      request.tokens := rfl
  rw [joins, isNone, resolveJoins, joinsInRoles]
  split
  · rfl
  · rfl

theorem rebased_spec (request : JoinRequest) :
    (request.rebased unicode).baseTable = request.start unicode ∧
      (request.rebased unicode).joins =
        if request.movedTo unicode = none then request.resolved.joins else [] := by
  have candidate : rebaseCandidate unicode request.resolved request.graph =
      request.movedTo unicode := rfl
  unfold JoinRequest.rebased rebaseOnReferencedTable JoinRequest.start
  rw [candidate]
  cases request.movedTo unicode with
  | none => exact ⟨rfl, rfl⟩
  | some table => exact ⟨rfl, rfl⟩

theorem rebased_referenced (request : JoinRequest) :
    tablesReferencedByPlan unicode (request.rebased unicode) [] =
      tablesReferencedByPlan unicode request.clauses [] := by
  have items : (request.rebased unicode).items = request.clauses.items :=
    rebase_items _ _
  rw [tablesReferencedByPlan, items]
  rfl

/-- The joins of the plan before its missing joins are there. -/
theorem mem_rebased_joins : join ∈ (request.rebased unicode).joins ↔
    ∃ hop, request.ResolvedEarly unicode hop ∧
      join = hopJoin hop (chosenPair request.columnsOf request.tokens hop) := by
  rw [(rebased_spec request).2]
  unfold JoinRequest.ResolvedEarly
  cases moved : request.movedTo unicode with
  | none =>
      rw [if_pos rfl]
      cases isBase : request.base with
      | none => simp [resolved_noBase isBase]
      | some home =>
          rw [resolved_joins isBase, List.mem_map]
          simp [mem_earlyHops, eq_comm]
  | some table =>
      simp

theorem resolved_anchored (request : JoinRequest) :
    Anchored request.graph request.base request.resolved.joins := by
  cases isBase : request.base with
  | none =>
      rw [resolved_noBase isBase]
      exact Anchored.nil none
  | some home =>
      have onDefault : Anchored request.graph (some home)
          (resolveJoins request.graph (some home) request.targets) :=
        resolveJoins_anchored _ _ _
      rw [resolveJoins_eq] at onDefault
      rw [resolved_joins isBase]
      constructor
      · intro join isJoin
        obtain ⟨hop, isHop, rfl⟩ := List.mem_map.mp isJoin
        obtain ⟨target, _, isOnPath⟩ := mem_earlyHops.mp isHop
        obtain ⟨front, finds⟩ := (finds_of_hop isOnPath).upTo isOnPath
        exact ⟨home, rfl, front, hop.keys, finds, edge_of_hop isOnPath,
          chosenPair_first.mem⟩
      · refine Grows.of_map ?_ ?_ onDefault.grows
        · intro hop
          rfl
        · intro hop
          rfl

theorem rebased_anchored (request : JoinRequest) :
    Anchored request.graph (request.rebased unicode).baseTable
      (request.rebased unicode).joins :=
  rebase_anchored (resolved_anchored request)

theorem reconciled_base (request : JoinRequest) :
    (request.reconciled unicode).baseTable = request.start unicode :=
  (reconcile_baseTable _ _).trans (rebased_spec request).1

theorem reconciled_anchored (isOver : Over schema request.graph) :
    Anchored request.graph (request.start unicode) (request.reconciled unicode).joins := by
  rw [← (rebased_spec request).1]
  exact (reconcile_referenced isOver (rebased_anchored request)).1

/-! ## The joins that are added late -/

/-- What is appended when hops are added: joins for tables that were not in scope, so that
all tables that the hops lead to are in scope or joined. -/
theorem foldl_addHop_joins (hops : List Hop) (found : List Join × List String) :
    ∃ added, (hops.foldl (addHop unicode) found).1 = found.1 ++ added ∧
      (∀ join ∈ added, ∃ hop ∈ hops, join = Join.ofHop hop ∧
        unicode.lower hop.target ∉ found.2) ∧
      ∀ hop ∈ hops, unicode.lower hop.target ∈ found.2 ∨
        ∃ join ∈ added, unicode.lower join.rightTable = unicode.lower hop.target := by
  induction hops generalizing found with
  | nil => exact ⟨[], by simp, by simp, by simp⟩
  | cons hop rest inductionHypothesis =>
      obtain ⟨added, isFound, made, covered⟩ := inductionHypothesis (addHop unicode found hop)
      have fresh : ∀ join ∈ added, ∃ later ∈ hop :: rest, join = Join.ofHop later ∧
          unicode.lower later.target ∉ found.2 := by
        intro join isJoin
        obtain ⟨later, isLater, isHop, isNew⟩ := made join isJoin
        refine ⟨later, List.mem_cons_of_mem _ isLater, isHop, ?_⟩
        intro isOld
        exact isNew (addHop_mono found hop isOld)
      rw [List.foldl_cons, isFound]
      by_cases isOld : unicode.lower hop.target ∈ found.2
      · rw [addHop, if_pos isOld] at covered ⊢
        refine ⟨added, rfl, fresh, ?_⟩
        intro later isLater
        rcases List.mem_cons.mp isLater with isThat | isRest
        · rw [isThat]
          exact Or.inl isOld
        · exact covered later isRest
      · rw [addHop, if_neg isOld] at covered ⊢
        refine ⟨Join.ofHop hop :: added, by simp, ?_, ?_⟩
        · intro join isJoin
          rcases List.mem_cons.mp isJoin with isThat | isAdded
          · exact ⟨hop, List.mem_cons_self, isThat, isOld⟩
          · exact fresh join isAdded
        · intro later isLater
          have joined : unicode.lower (Join.ofHop hop).rightTable = unicode.lower hop.target :=
            rfl
          rcases List.mem_cons.mp isLater with isThat | isRest
          · rw [isThat]
            exact Or.inr ⟨_, List.mem_cons_self, joined⟩
          · rcases covered later isRest with isThere | ⟨join, isJoin, same⟩
            · rcases List.mem_cons.mp isThere with same | isThere
              · exact Or.inr ⟨_, List.mem_cons_self, joined.trans same.symm⟩
              · exact Or.inl isThere
            · exact Or.inr ⟨join, List.mem_cons_of_mem _ isJoin, same⟩

/-- The hop is on the way from a named base to a table that is named and not in scope. -/
def Lacks (unicode : Unicode) (graph : RelationshipGraph) (plan : Plan) (hop : Hop) : Prop :=
  ∃ base, plan.baseTable = some base ∧ base ≠ "" ∧
    ∃ table ∈ tablesReferencedByPlan unicode plan [],
      unicode.lower table ∉ joinScope unicode plan ∧ hop ∈ findJoinPath graph base table

/-- Reconciliation appends joins on the default columns of their edges, to tables that
were not in scope, and leaves out none that the plan lacks. -/
theorem reconcileJoins_appends (plan : Plan) :
    ∃ added, (reconcileJoins unicode plan graph).joins = plan.joins ++ added ∧
      (∀ join ∈ added, ∃ hop, Lacks unicode graph plan hop ∧ join = Join.ofHop hop ∧
        unicode.lower hop.target ∉ joinScope unicode plan) ∧
      ∀ hop, Lacks unicode graph plan hop →
        unicode.lower hop.target ∈ joinScope unicode plan ∨
          ∃ join ∈ added, unicode.lower join.rightTable = unicode.lower hop.target := by
  unfold reconcileJoins Lacks
  split
  · next noBase => exact ⟨[], by simp, by simp, by simp [noBase]⟩
  · next base isBase =>
      split
      · next isEmpty => exact ⟨[], by simp, by simp, by simp [isBase, isEmpty]⟩
      · next isNamed =>
          obtain ⟨added, isAll, made, covered⟩ := @foldl_addHop_joins unicode
            (((tablesReferencedByPlan unicode plan []).filter fun table =>
              decide (unicode.lower table ∉ joinScope unicode plan)).flatMap
                (findJoinPath graph base)) (plan.joins, joinScope unicode plan)
          rw [List.foldl_flatMap] at isAll
          simp only [List.mem_flatMap, List.mem_filter, decide_eq_true_eq] at made covered
          refine ⟨added, isAll, ?_, ?_⟩
          · intro join isJoin
            obtain ⟨hop, ⟨table, ⟨isGiven, isOut⟩, isHop⟩, isThat⟩ := made join isJoin
            exact ⟨hop, ⟨base, isBase, isNamed, table, isGiven, isOut, isHop⟩, isThat⟩
          · intro hop ⟨other, isOther, _, table, isGiven, isOut, isHop⟩
            rw [isBase] at isOther
            cases isOther
            exact covered hop ⟨table, ⟨isGiven, isOut⟩, isHop⟩

/-- An early hop leads on to a table that is known early. -/
theorem JoinRequest.ResolvedEarly.goal (isEarly : request.ResolvedEarly unicode hop)
    (isStart : request.start unicode = some home) :
    ∃ target ∈ request.targets, hop ∈ findJoinPath request.graph home target ∧
      target ∈ request.goals unicode := by
  obtain ⟨notMoved, base, isBase, target, isTarget, isOnPath⟩ := isEarly
  rw [JoinRequest.start, notMoved, Option.none_or, isBase] at isStart
  cases isStart
  refine ⟨target, isTarget, isOnPath, ?_⟩
  rw [JoinRequest.goals, if_pos notMoved]
  exact List.mem_append_right _ isTarget

/-- Each join of the reconciled plan is made of a hop on the way to a goal. -/
theorem reconciled_placed (isOver : Over schema request.graph)
    (isStart : request.start unicode = some home)
    (isJoin : join ∈ (request.reconciled unicode).joins) :
    ∃ goal ∈ request.goals unicode, ∃ hop ∈ findJoinPath request.graph home goal,
      Roled request unicode hop join := by
  obtain ⟨added, joins, late, _⟩ := @reconcileJoins_appends unicode request.graph
    (request.rebased unicode)
  have isJoin' : join ∈ (request.rebased unicode).joins ++ added := by
    rw [← joins]
    exact isJoin
  rcases List.mem_append.mp isJoin' with isEarly | isLate
  · obtain ⟨hop, isResolved, isThat⟩ := mem_rebased_joins.mp isEarly
    obtain ⟨target, isTarget, isOnPath, isGoal⟩ := isResolved.goal isStart
    refine ⟨target, isGoal, hop, isOnPath, fun _ => isThat, fun notEarly => ?_⟩
    exact absurd isResolved notEarly
  · obtain ⟨hop, ⟨base, isBase, _, table, isReferenced, _, isHop⟩, isThat, isNew⟩ :=
      late join isLate
    rw [(rebased_spec request).1, isStart] at isBase
    cases isBase
    rw [rebased_referenced] at isReferenced
    refine ⟨table, List.mem_append_left _ isReferenced, hop, isHop, ?_, fun _ => isThat⟩
    intro isResolved
    -- The hop of an early join leads into the scope.
    have isThere := mem_rebased_joins.mpr ⟨hop, isResolved, rfl⟩
    have notEmpty : hop.target ≠ "" :=
      schema.ne_empty (isOver _ _ hop.keys (edge_of_hop isHop)).2
    exact absurd (mem_joinScope.mpr ⟨hop.target, notEmpty, rfl,
      Or.inr ⟨_, isThere, Or.inl rfl⟩⟩) isNew

/-! ## What is in scope -/

/-- A table that joins lead to is led to along its found path. -/
theorem inScope_hops {joins : List Join} {path : List Hop}
    (anchored : Anchored graph (some home) joins) (finds : Finds graph home table path)
    (inScope : InScope home joins table) :
    ∀ hop ∈ path, InScope home joins hop.target := by
  induction finds using PathSearch.Finds.induct with
  | nil => simp
  | @snoc parent table _ _ _ _ notHome finds inductionHypothesis =>
      obtain ⟨join, isJoin, rfl⟩ := inScope.resolve_left notHome
      obtain ⟨root, isRoot, path', keys', finds', _⟩ := anchored.along join isJoin
      cases isRoot
      have sameHop := (List.append_inj' (finds.unique finds') rfl).2
      have isParent : parent = join.leftTable :=
        congrArg PathSearch.Hop.source (List.singleton_injective sameHop)
      have parentScope : InScope home joins parent := by
        obtain ⟨earlier, later, isAt⟩ := List.append_of_mem isJoin
        rcases anchored.grows.earlier isAt with isStart | ⟨other, isEarlier, isLeft⟩
        · exact Or.inl (isParent.trans (Option.some.inj isStart).symm)
        · refine Or.inr ⟨other, ?_, isLeft.trans isParent.symm⟩
          rw [isAt]
          exact List.mem_append_left _ isEarlier
      intro hop isHop
      rcases List.mem_append.mp isHop with isBefore | isThat
      · exact inductionHypothesis parentScope hop isBefore
      · rw [List.mem_singleton.mp isThat]
        exact Or.inr ⟨join, isJoin, rfl⟩

/-- The joins of the reconciled plan lead to the tables on the ways to the goals. -/
theorem inScope_iff_passes (isOver : Over schema request.graph)
    (isStart : request.start unicode = some home) :
    InScope home (request.reconciled unicode).joins table ↔
      request.Passes unicode home table := by
  constructor
  · intro inScope
    rcases inScope with isHome | ⟨join, isJoin, rfl⟩
    · exact Or.inl isHome
    · obtain ⟨goal, isGoal, hop, isHop, roled⟩ := reconciled_placed isOver isStart isJoin
      exact Or.inr ⟨goal, isGoal, hop, isHop, roled.tables.2.symm⟩
  · intro passes
    rcases passes with isHome | ⟨goal, isGoal, hop, isHop, rfl⟩
    · exact Or.inl isHome
    · have anchored : Anchored request.graph (request.start unicode)
          (request.reconciled unicode).joins := reconciled_anchored isOver
      rw [isStart] at anchored
      rcases List.mem_append.mp isGoal with isReferenced | isTarget
      · rw [← rebased_referenced] at isReferenced
        have isBase : (request.rebased unicode).baseTable = some home :=
          (rebased_spec request).1.trans isStart
        have reached := (reconcile_referenced isOver (rebased_anchored request)).2 home goal
          isBase isReferenced (finds_of_hop isHop).reachable
        exact inScope_hops anchored (finds_of_hop isHop) reached hop isHop
      · split at isTarget
        · next notMoved =>
            obtain ⟨added, joins, _⟩ := @reconcileJoins_appends unicode request.graph
              (request.rebased unicode)
            have isBase : request.base = some home := by
              rw [JoinRequest.start, notMoved, Option.none_or] at isStart
              exact isStart
            have isThere := mem_rebased_joins.mpr
              ⟨hop, ⟨notMoved, home, isBase, goal, isTarget, isHop⟩, rfl⟩
            have isAll : (request.reconciled unicode).joins =
                (request.rebased unicode).joins ++ added := joins
            rw [isAll]
            exact Or.inr ⟨_, List.mem_append_left _ isThere, rfl⟩
        · cases isTarget

/-- The scope of the joins, in lower case. -/
theorem mem_scope_iff (isOver : Over schema request.graph)
    (isStart : request.start unicode = some home) {name : String} :
    name ∈ joinScope unicode (request.reconciled unicode) ↔
      ∃ table, table ≠ "" ∧ request.Passes unicode home table ∧
        unicode.lower table = name := by
  rw [mem_joinScope]
  constructor
  · intro ⟨table, notEmpty, isName, isTable⟩
    refine ⟨table, notEmpty, ?_, isName⟩
    rw [← inScope_iff_passes isOver isStart]
    rcases isTable with isBase | ⟨join, isJoin, isRight | isLeft⟩
    · rw [reconciled_base, isStart] at isBase
      exact Or.inl (Option.some.inj isBase).symm
    · exact Or.inr ⟨join, isJoin, isRight.symm⟩
    · obtain ⟨front, back, isAt⟩ := List.append_of_mem isJoin
      rcases (reconciled_anchored isOver).grows.earlier isAt with isFirst |
        ⟨other, isFront, sameTable⟩
      · have isHome : request.start unicode = some join.leftTable := isFirst
        rw [isStart] at isHome
        exact Or.inl (isLeft.trans (Option.some.inj isHome).symm)
      · refine Or.inr ⟨other, ?_, sameTable.trans isLeft.symm⟩
        rw [isAt]
        exact List.mem_append_left _ isFront
  · intro ⟨table, notEmpty, passes, isName⟩
    refine ⟨table, notEmpty, isName, ?_⟩
    rcases (inScope_iff_passes isOver isStart).mpr passes with isHome | ⟨join, isJoin, isRight⟩
    · left
      rw [reconciled_base, isStart, isHome]
    · exact Or.inr ⟨join, isJoin, Or.inl isRight.symm⟩

theorem outOfScope_eq_false_iff {scope : List String} {item : Item} :
    outOfScope unicode scope item = false ↔
      ∀ name, item.decisive unicode = some name →
        name = "" ∨ unicode.lower name ∈ scope := by
  have decided : outOfScope unicode scope item = (item.decisive unicode).any fun table =>
      decide (table ≠ "") && decide (unicode.lower table ∉ scope) := by
    unfold outOfScope Item.decisive
    dsimp only
    generalize item.column.bind (columnPrefix unicode) = front
    cases item.table with
    | none =>
        cases front with
        | none => rfl
        | some name => rfl
    | some table =>
        by_cases isEmpty : table = ""
        · subst isEmpty
          cases front with
          | none => rfl
          | some name => rfl
        · simp [isEmpty]
  rw [decided]
  cases item.decisive unicode with
  | none => simp
  | some table =>
      by_cases isEmpty : table = ""
      · simp [isEmpty]
      · simp [isEmpty]

/-- Where there is a scope, what is out of it is dropped of three clauses. -/
theorem drop_clauses {plan : Plan} (isScope : joinScope unicode plan ≠ []) :
    dropUnreachableFilters unicode plan = { dropUnreachableFilters unicode plan with
      select := plan.select
      columns := plan.columns
      groupBy := plan.groupBy
      filters := plan.filters.filter fun item =>
        !outOfScope unicode (joinScope unicode plan) item
      having := plan.having.filter fun item =>
        !outOfScope unicode (joinScope unicode plan) item
      orderBy := plan.orderBy.filter fun item =>
        !outOfScope unicode (joinScope unicode plan) item } := by
  unfold dropUnreachableFilters
  dsimp only
  split
  · next unchanged =>
      have noneDropped := unchanged.resolve_left isScope
      have same : ∀ clause ∈ [("where", plan.filters), ("having", plan.having),
          ("order_by", plan.orderBy)], (clause.2.filter fun item =>
            !outOfScope unicode (joinScope unicode plan) item) = clause.2 := by
        intro clause isClause
        have notDropped := List.filter_eq_nil_iff.mp noneDropped clause isClause
        simpa using notDropped
      rw [same ("where", plan.filters) (by simp), same ("having", plan.having) (by simp),
        same ("order_by", plan.orderBy) (by simp)]
  · rfl

theorem mem_drop_items {plan : Plan} (isScope : joinScope unicode plan ≠ []) {item : Item} :
    item ∈ (dropUnreachableFilters unicode plan).items ↔
      item ∈ plan.select ++ plan.columns ++ plan.groupBy ∨
        (item ∈ plan.filters ++ plan.orderBy ++ plan.having ∧
          outOfScope unicode (joinScope unicode plan) item = false) := by
  rw [drop_clauses isScope]
  simp only [Plan.items, List.mem_append, List.mem_filter, Bool.not_eq_true']
  grind

/-- Moving the base and adding joins leaves the clauses as they are. -/
theorem reconciled_eq (request : JoinRequest) : ∃ base joins,
    request.reconciled unicode =
      { request.clauses with baseTable := base, joins := joins } := by
  unfold JoinRequest.reconciled JoinRequest.rebased reconcileJoins
    rebaseOnReferencedTable JoinRequest.resolved
  split
  · split
    · exact ⟨_, _, rfl⟩
    · exact ⟨_, _, rfl⟩
  · split
    · split
      · exact ⟨_, _, rfl⟩
      · exact ⟨_, _, rfl⟩
    · split
      · exact ⟨_, _, rfl⟩
      · exact ⟨_, _, rfl⟩

/-- What is left of the clauses. -/
theorem mem_dropped_iff (isOver : Over schema request.graph)
    (isStart : request.start unicode = some home) (notEmpty : home ≠ "") {item : Item} :
    item ∈ (dropUnreachableFilters unicode (request.reconciled unicode)).items ↔
      request.Stays unicode home item := by
  have isScope : joinScope unicode (request.reconciled unicode) ≠ [] := by
    apply List.ne_nil_of_mem
    exact (mem_scope_iff isOver isStart).mpr ⟨home, notEmpty, Or.inl rfl, rfl⟩
  obtain ⟨base, joins, isClauses⟩ := @reconciled_eq unicode request
  rw [mem_drop_items isScope, outOfScope_eq_false_iff]
  simp only [mem_scope_iff isOver isStart]
  rw [isClauses]
  rfl

/-! ## The joins that are left -/

theorem dedupeJoins_subset (seen : List String) (joins : List Join) :
    dedupeJoins unicode seen joins ⊆ joins := by
  induction joins generalizing seen with
  | nil => exact List.nil_subset _
  | cons join rest inductionHypothesis =>
      unfold dedupeJoins
      dsimp only
      split
      · exact List.subset_cons_of_subset _ (inductionHypothesis _)
      · exact List.cons_subset_cons _ (inductionHypothesis _)

theorem keepReferenced_subset (referenced : List String) (joins : List Join) :
    (keepReferenced unicode referenced joins).1 ⊆ joins := by
  induction joins with
  | nil => exact List.nil_subset _
  | cons join rest inductionHypothesis =>
      unfold keepReferenced
      dsimp only
      split
      · exact List.cons_subset_cons _ inductionHypothesis
      · exact List.subset_cons_of_subset _ inductionHypothesis

/-- The names that joins are kept for. -/
def JoinRequest.referenced (unicode : Unicode) (request : JoinRequest) : List String :=
  unicode.lower ((request.start unicode).getD "") ::
    (tablesReferencedByPlan unicode
      (dropUnreachableFilters unicode (request.reconciled unicode)) []).map unicode.lower

theorem finished_joins (request : JoinRequest) : (request.finished unicode).joins =
    (keepReferenced unicode (request.referenced unicode)
      (dedupeJoins unicode [] (request.reconciled unicode).joins)).1 := by
  obtain ⟨sameBase, sameJoins⟩ := @drop_baseTable unicode (request.reconciled unicode)
  rw [JoinRequest.finished, pruneUnusedJoins, sameBase, sameJoins, reconciled_base]
  rfl

theorem finished_subset (request : JoinRequest) :
    (request.finished unicode).joins ⊆ (request.reconciled unicode).joins := by
  rw [finished_joins]
  exact List.Subset.trans (keepReferenced_subset _ _) (dedupeJoins_subset _ _)

/-- Joins are kept for the base and for what the clauses that are left name. -/
theorem mem_referenced_iff (isOver : Over schema request.graph)
    (isStart : request.start unicode = some home) (notEmpty : home ≠ "") :
    unicode.lower table ∈ request.referenced unicode ↔
      unicode.lower table = unicode.lower home ∨ request.Wants unicode home table := by
  have isBase : (request.start unicode).getD "" = home := by
    rw [isStart, Option.getD_some]
  rw [JoinRequest.referenced, isBase, List.mem_cons, List.mem_map]
  apply or_congr_right
  constructor
  · intro ⟨name, isReferenced, same⟩
    obtain ⟨named, isNamed⟩ := names_of_referenced isReferenced
    obtain ⟨item, isItem, isTable⟩ := List.mem_flatMap.mp isNamed
    exact ⟨item, (mem_dropped_iff isOver isStart notEmpty).mp isItem, name, isTable, named,
      same⟩
  · intro ⟨item, stays, name, isTable, named, same⟩
    have isItem := (mem_dropped_iff isOver isStart notEmpty).mpr stays
    have covered : ∃ other ∈ tablesReferencedByPlan unicode
        (dropUnreachableFilters unicode (request.reconciled unicode)) [],
        unicode.lower other = unicode.lower name :=
      foldl_addTable_covers named (List.mem_flatMap.mpr ⟨item, isItem, isTable⟩)
    obtain ⟨other, isOther, sameName⟩ := covered
    exact ⟨other, isOther, sameName.trans same⟩

/-- What pruning leaves: joins that still grow from the base, one for each table that a
clause wants, and none that leads to no such table. -/
theorem finished_spec (isOver : Over schema request.graph)
    (isStart : request.start unicode = some home) (notEmpty : home ≠ "") :
    Anchored request.graph (some home) (request.finished unicode).joins ∧
      (∀ table, request.Passes unicode home table → table ≠ home →
        request.Wants unicode home table →
          ∃ join ∈ (request.finished unicode).joins, join.rightTable = table) ∧
      ∀ join ∈ (request.finished unicode).joins, ∃ table ∈ schema.names,
        (unicode.lower table = unicode.lower home ∨ request.Wants unicode home table) ∧
          Leads Join.leftTable Join.rightTable (request.finished unicode).joins
            join.rightTable table := by
  have anchored : Anchored request.graph (request.start unicode)
      (request.reconciled unicode).joins := reconciled_anchored isOver
  rw [isStart] at anchored
  have tables : ∀ join ∈ (request.reconciled unicode).joins,
      join.leftTable ∈ schema.names ∧ join.rightTable ∈ schema.names := by
    intro join isJoin
    obtain ⟨root, _, isFor⟩ := anchored.along join isJoin
    exact (isFor.tables isOver).2
  obtain ⟨growsOnce, isSubset, _, _, allKept⟩ :=
    dedupe_spec [] (fun join isJoin => (tables join isJoin).2) anchored.grows (by simp)
  have pruned := keepReferenced_spec (request.referenced unicode)
    (fun join isJoin => tables join (isSubset isJoin)) growsOnce
  have grows := pruned.grows
  have keeps := pruned.keeps
  have needed := pruned.needed
  rw [← finished_joins] at grows keeps needed
  refine ⟨⟨?_, grows⟩, ?_, ?_⟩
  · intro join isJoin
    exact anchored.along join (finished_subset request isJoin)
  · intro table passes notHome wants
    have inScope := (inScope_iff_passes isOver isStart).mpr passes
    obtain ⟨join, isJoin, isTable⟩ := inScope.resolve_left notHome
    rcases allKept join isJoin with isFirst | ⟨kept, isKept, sameTable⟩
    · have isHome : some home = some join.rightTable := isFirst
      exact absurd (isTable.symm.trans (Option.some.inj isHome).symm) notHome
    · refine ⟨kept, keeps kept isKept ?_, sameTable.trans isTable⟩
      rw [sameTable, isTable]
      exact (mem_referenced_iff isOver isStart notEmpty).mpr (Or.inr wants)
  · intro join isJoin
    obtain ⟨table, isTable, isGiven, leads⟩ := needed join isJoin
    exact ⟨table, isTable, (mem_referenced_iff isOver isStart notEmpty).mp isGiven, leads⟩

/-- A table that joins lead on to is reached by way of the first one's hop. -/
theorem finds_of_leads {joins : List Join} {start : String}
    (anchored : Anchored graph (some home) joins)
    (finds : ∃ path, Finds graph home start path ∧ hop ∈ path)
    (leads : Leads Join.leftTable Join.rightTable joins start table) :
    ∃ path, Finds graph home table path ∧ hop ∈ path := by
  induction leads with
  | refl => exact finds
  | tail _ isStep inductionHypothesis =>
      obtain ⟨join, isJoin, isLeft, isRight⟩ := isStep
      obtain ⟨path, toLeft, isHop⟩ := inductionHypothesis
      obtain ⟨root, isRoot, front, keys, toRight, _⟩ := anchored.along join isJoin
      cases isRoot
      rw [← isRight]
      refine ⟨_, toRight, ?_⟩
      have toSource : Finds graph home join.leftTable front := toRight.source.2
      rw [isLeft] at toSource
      rw [toSource.unique toLeft]
      exact List.mem_append_left _ isHop

/-- All joins of the finished plan are in their best roles just if, on the ways to the
tables that the clauses name, the left columns tell the pairs of every early hop apart
and the question names no other pair of a late one. -/
theorem finishedJoins_inRoles_iff (isOver : Over schema request.graph) :
    (∀ join ∈ (request.finished unicode).joins,
        InBestRole request.columnsOf request.tokens request.graph join) ↔
      request.RolesStand unicode := by
  constructor
  · intro inRoles home table isStart passes wants hop isHop
    obtain ⟨front, toHop⟩ := (finds_of_hop isHop).upTo isHop
    have hopNotHome : hop.target ≠ home := toHop.source.1
    have notHome : table ≠ home := by
      intro isHome
      rw [isHome, findJoinPath_self] at isHop
      cases isHop
    have notEmpty : home ≠ "" :=
      schema.ne_empty (isOver.reachable toHop.reachable hopNotHome).1
    obtain ⟨anchored, covered, _⟩ := finished_spec isOver isStart notEmpty
    obtain ⟨last, isLast, isTable⟩ := covered table passes notHome wants
    have inScope := inScope_hops anchored (finds_of_hop isHop)
      (Or.inr ⟨last, isLast, isTable⟩) hop isHop
    obtain ⟨join, isJoin, isRight⟩ := inScope.resolve_left hopNotHome
    obtain ⟨goal, _, other, isOther, roled⟩ :=
      reconciled_placed isOver isStart (finished_subset request isJoin)
    have same : other = hop :=
      (finds_of_hop isOther).hop_unique (finds_of_hop isHop) isOther isHop
        (roled.tables.2.symm.trans isRight)
    rw [same] at roled
    exact (roled.inBestRole_iff (edge_of_hop isHop)).mp (inRoles join isJoin)
  · intro stand join isJoin
    have isReconciled := finished_subset request isJoin
    obtain ⟨home, isStart, isFor⟩ :=
      (reconciled_anchored isOver).along join isReconciled
    have isHome : home ∈ schema.names := (isFor.tables isOver).1
    obtain ⟨anchored, _, needed⟩ :=
      finished_spec isOver isStart (schema.ne_empty isHome)
    obtain ⟨goal, _, hop, isHop, roled⟩ := reconciled_placed isOver isStart isReconciled
    obtain ⟨table, isTable, isNeeded, leads⟩ := needed join isJoin
    obtain ⟨front, toHop⟩ := (finds_of_hop isHop).upTo isHop
    rw [roled.tables.2] at leads
    obtain ⟨path, toTable, isOnPath⟩ := finds_of_leads anchored
      ⟨_, toHop, List.mem_append_right _ List.mem_cons_self⟩ leads
    have notHome : table ≠ home := by
      intro same
      rw [same] at toTable
      rw [toTable.unique PathSearch.finds_start] at isOnPath
      cases isOnPath
    have passes : request.Passes unicode home table := by
      apply (inScope_iff_passes isOver isStart).mp
      rcases leads_last leads with same | ⟨last, isLast, isRight⟩
      · exact Or.inr ⟨join, isReconciled, roled.tables.2.trans same⟩
      · exact Or.inr ⟨last, finished_subset request isLast, isRight⟩
    have wants : request.Wants unicode home table := by
      apply isNeeded.resolve_left
      intro sameLower
      exact notHome (schema.lower_injective isTable isHome sameLower)
    rw [← findJoinPath_eq toTable] at isOnPath
    rw [roled.inBestRole_iff (edge_of_hop isHop)]
    exact stand home table isStart passes wants hop isOnPath

end Placed

/-! ## The passes of the planner -/

section Planner

variable {unicode : Unicode} {context : SchemaContext}

theorem rebased_view (plan : ExecutionPlan) : (rebased unicode context plan).view =
    rebaseOnReferencedTable unicode plan.view context.graph := by
  unfold rebased rebaseOnReferencedTable
  split
  · rfl
  · rfl

theorem reconciled_view (plan : ExecutionPlan) : (reconciled unicode context plan).view =
    reconcileJoins unicode plan.view context.graph := by
  unfold reconciled reconcileJoins
  split
  · rfl
  · split
    · rfl
    · rfl

theorem reachable_view (plan : ExecutionPlan) :
    (reachable unicode plan).view.baseTable = plan.view.baseTable ∧
      (reachable unicode plan).view.joins = plan.view.joins := by
  unfold reachable
  split
  · exact ⟨rfl, rfl⟩
  · exact ⟨rfl, rfl⟩

theorem toList_filter_map {Clause : Type} (tablesOf : Clause → Item) (keeps : Item → Bool)
    (clause : Option Clause) :
    (clause.filter fun found => keeps (tablesOf found)).toList.map tablesOf =
      (clause.toList.map tablesOf).filter keeps := by
  cases clause with
  | none => rfl
  | some found =>
      cases isKept : keeps (tablesOf found) with
      | true => simp [Option.filter, isKept]
      | false => simp [Option.filter, isKept]

/-- Dropping filters leaves the same clauses in either plan. -/
theorem reachable_items (plan : ExecutionPlan) : (reachable unicode plan).view.items =
    (dropUnreachableFilters unicode plan.view).items := by
  by_cases noScope : joinScope unicode plan.view = []
  · rw [reachable, if_pos noScope, dropUnreachableFilters, if_pos (Or.inl noScope)]
  · rw [reachable, if_neg noScope, drop_clauses noScope]
    have filters : ((plan.filters.filter fun filter =>
        inReach unicode plan (filterTables filter)).map filterTables) =
          (plan.filters.map filterTables).filter (inReach unicode plan) := by
      rw [List.filter_map]
      rfl
    have having := toList_filter_map havingTables (inReach unicode plan) plan.having
    have orderBy := toList_filter_map orderTables (inReach unicode plan) plan.orderBy
    simp only [Plan.items, ExecutionPlan.view, filters, having, orderBy]
    rfl

theorem pruneUnusedJoins_congr {plan other : Plan} (sameBase : plan.baseTable = other.baseTable)
    (sameJoins : plan.joins = other.joins) (sameItems : plan.items = other.items) :
    (pruneUnusedJoins unicode plan).joins = (pruneUnusedJoins unicode other).joins := by
  have sameTables : tablesReferencedByPlan unicode plan [] =
      tablesReferencedByPlan unicode other [] := by
    rw [tablesReferencedByPlan, sameItems]
    rfl
  rw [pruneUnusedJoins, pruneUnusedJoins, sameBase, sameJoins, sameTables]

end Planner

/-! ### Billed orders -/

namespace Billed

/-- An order refers to a customer twice. -/
def context : SchemaContext where
  schema := [("orders", ["id", "total", "customer_id", "bill_customer_id"]),
    ("customers", ["id", "segment"])]
  primaryKeys := []
  columnRoles := []
  graph := declaredGraph ["orders", "customers"]
    [("orders", [⟨"customer_id", "customers", "id"⟩,
      ⟨"bill_customer_id", "customers", "id"⟩])]

def total : ColumnSpec :=
  .dict (some "orders") (some "total") none none

def segment : ColumnSpec :=
  .dict (some "customers") (some "segment") none none

/-- "totals of orders we bill ...". -/
def intent (tables : List String) (select : List ColumnSpec) (filters : List Filter) :
    Intent where
  originalQuery := "totals of orders we bill"
  tables := tables
  select := select
  columns := []
  filters := filters
  aggregation := none
  groupBy := none
  orderBy := none
  having := none
  limit := none
  requestedGrouping := false
  queryTokens := ["totals", "orders", "bill"]
  measureAmbiguity := []

/-- Only a filter names the customers. -/
def filtered : Intent :=
  intent ["orders"] [total] [⟨"customers.segment", "=", .scalar (.text "enterprise")⟩]

/-- The joins start from the customers. -/
def fromCustomers : Intent :=
  intent ["orders", "customers"] [total, segment] []

/-- The joins of a plan, if there is one. -/
def joins (intent : Intent) : Option (List Join) :=
  match planQueryExecution ascii context intent with
  | .error _ => none
  | .ok plan => some plan.joins

/-- The ways to join orders to customers, and back. -/
def customerKeys : JoinKeys :=
  ⟨"customer_id", "id", [("bill_customer_id", "id")]⟩

def orderKeys : JoinKeys :=
  ⟨"id", "customer_id", [("id", "bill_customer_id")]⟩

/-- A plan whose join is on the default pair of its edge forgets the role. -/
theorem forgets_of_joins {intent : Intent} (keys : JoinKeys) {left right : String}
    (planned : joins intent = some [⟨left, right, keys.fromColumn, keys.toColumn⟩])
    (isEdge : (right, keys) ∈ neighbours context.graph left) {other : String × String}
    (isOther : other ∈ keys.pairs)
    (isMore : pairScore (pairWords (frontsOf context.columns left right)) keys
        intent.queryTokens (keys.fromColumn, keys.toColumn) <
      pairScore (pairWords (frontsOf context.columns left right)) keys
        intent.queryTokens other) :
    ∃ plan, planQueryExecution ascii context intent = .ok plan ∧
      ¬ ∀ join ∈ plan.joins,
        InBestRole context.columns intent.queryTokens context.graph join := by
  unfold joins at planned
  split at planned
  · cases planned
  · next plan isPlan =>
      refine ⟨plan, isPlan, ?_⟩
      intro inRoles
      have isThere : ⟨left, right, keys.fromColumn, keys.toColumn⟩ ∈ plan.joins := by
        rw [Option.some.inj planned]
        exact List.mem_cons_self
      obtain ⟨keys', isEdge', best⟩ := inRoles _ isThere
      have found := neighbours_lookup isEdge'
      rw [neighbours_lookup isEdge] at found
      cases found
      exact absurd (best.most other isOther) (Nat.not_le_of_lt isMore)

/-- Orders with the customers who are billed, and a filter on their payments. -/
def request : JoinRequest where
  columnsOf := shopSchema.columns
  graph := shopGraph
  tokens := ["bill"]
  base := some "orders"
  targets := ["orders", "customers"]
  clauses := { billedClauses with
    select := [⟨some "orders", some "id"⟩, ⟨some "customers", some "name"⟩]
    filters := [⟨none, some "payments.id"⟩] }

end Billed

/-- The customers are joined early on the pair that the question names, the payments late
on the only one. -/
theorem finishedJoins_inRoles_request :
    (Billed.request.finished ascii).joins =
        [⟨"orders", "customers", "bill_customer_id", "id"⟩,
          ⟨"orders", "payments", "id", "order_id"⟩] ∧
      Billed.request.RolesStand ascii := by
  have joins : (Billed.request.finished ascii).joins =
      [⟨"orders", "customers", "bill_customer_id", "id"⟩,
        ⟨"orders", "payments", "id", "order_id"⟩] := by
    decide
  refine ⟨joins, ?_⟩
  apply (finishedJoins_inRoles_iff shopGraph_over).mp
  rw [joins]
  intro join isJoin
  rcases List.mem_cons.mp isJoin with isCustomers | isPayments
  · rw [isCustomers]
    exact ⟨⟨"customer_id", "id", [("bill_customer_id", "id")]⟩, by decide,
      ⟨by decide, by decide, by decide⟩⟩
  · rw [List.mem_singleton.mp isPayments]
    exact ⟨⟨"id", "order_id", []⟩, by decide, ⟨by decide, by decide, by decide⟩⟩

/-- The customers that only a filter names are not those who are billed, nor are they if
the joins start from them. -/
theorem planQueryExecution_forgetsRoles :
    (∃ plan, planQueryExecution ascii Billed.context Billed.filtered = .ok plan ∧
      ¬ ∀ join ∈ plan.joins, InBestRole Billed.context.columns
        Billed.filtered.queryTokens Billed.context.graph join) ∧
    ∃ plan, planQueryExecution ascii Billed.context Billed.fromCustomers = .ok plan ∧
      ¬ ∀ join ∈ plan.joins, InBestRole Billed.context.columns
        Billed.fromCustomers.queryTokens Billed.context.graph join := by
  have late : Billed.joins Billed.filtered =
      some [⟨"orders", "customers", "customer_id", "id"⟩] := by
    decide
  have early : Billed.joins Billed.fromCustomers =
      some [⟨"customers", "orders", "id", "customer_id"⟩] := by
    decide
  constructor
  · apply Billed.forgets_of_joins Billed.customerKeys late
    · decide
    · exact List.mem_cons_of_mem _ List.mem_cons_self
    · decide
  · apply Billed.forgets_of_joins Billed.orderKeys early
    · decide
    · exact List.mem_cons_of_mem _ List.mem_cons_self
    · decide

end DbBuddy.Planner
