import DbBuddy.Planner.JoinGraph
import Mathlib.Algebra.Order.Ring.Unbundled.Rat
import Mathlib.Data.Rat.Lemmas

/-!
# The passes over a plan's joins

The planner resolves joins from the tables it knows early, points them at the
foreign keys the question named, and once all clauses are there moves the base
table, adds joins, drops filters that stay out of reach and prunes what no clause
needs.
-/

namespace DbBuddy.Planner

open DbBuddy.Library

/-- What a clause says about tables: an item's `table` and `column`, where they
are texts. -/
structure Item where
  table : Option String
  column : Option String
  deriving DecidableEq, Repr

structure Join where
  leftTable : String
  rightTable : String
  leftKey : String
  rightKey : String
  deriving DecidableEq, Repr

/-- A plan.  A clause that is a single dictionary is a list of one item, and an
absent one is empty. -/
structure Plan where
  baseTable : Option String
  joins : List Join
  select : List Item
  columns : List Item
  filters : List Item
  groupBy : List Item
  orderBy : List Item
  having : List Item
  confidence : ℚ
  ambiguities : List String

/-- The clauses, in the order `_tables_referenced_by_plan` walks them. -/
def Plan.items (plan : Plan) : List Item :=
  plan.select ++ plan.columns ++ plan.filters ++ plan.groupBy ++ plan.orderBy ++
    plan.having

section Passes

variable (unicode : Unicode)

/-- What stands before the first dot of a column, if it can name a table. -/
def columnPrefix (column : String) : Option String :=
  if '.' ∈ column.toList then
    let start :=
      String.ofList (strip (column.toList.takeWhile fun char => char != '.'))
    if unicode.isIdentifier start then some start else none
  else none

/-- The tables an item names. -/
def Item.tables (item : Item) : List String :=
  item.table.toList ++ (item.column.bind (columnPrefix unicode)).toList

/-- `add`: an unnamed table and a second spelling are passed over. -/
def addTable (ordered : List String) (name : String) : List String :=
  if name = "" then ordered
  else if unicode.lower name ∈ ordered.map unicode.lower then ordered
  else ordered ++ [name]

/-- `_tables_referenced_by_plan` -/
def tablesReferencedByPlan (plan : Plan) (namedTables : List String) :
    List String :=
  (namedTables ++ plan.items.flatMap (Item.tables unicode)).foldl
    (addTable unicode) []

/-! ## Early: resolving joins -/

def Join.ofHop (hop : Hop) : Join where
  leftTable := hop.source
  rightTable := hop.target
  leftKey := hop.keys.fromColumn
  rightKey := hop.keys.toColumn

/-- `resolve_joins` -/
def resolveJoins (graph : RelationshipGraph) (base : Option String)
    (tables : List String) : List Join :=
  match base with
  | none => []
  | some base => tables.flatMap fun table =>
      if table = base then []
      else (findJoinPath graph base table).map Join.ofHop

/-- The lower-case, upper-case and digit runs that `split_identifier` matches at
each position, longest alternative first. -/
def splitFrom : ℕ → List Char → List (List Char)
  | 0, _ => []
  | _ + 1, [] => []
  | fuel + 1, char :: rest =>
      if char.isUpper then
        let run := (char :: rest).takeWhile Char.isUpper
        let after := (char :: rest).dropWhile Char.isUpper
        match after with
        | [] => [run]
        | next :: _ =>
            if next.isLower then
              if run.length = 1 then
                (char :: after.takeWhile Char.isLower) ::
                  splitFrom fuel (after.dropWhile Char.isLower)
              else
                -- The last capital begins the next word.
                run.dropLast ::
                  splitFrom fuel ((char :: rest).drop (run.length - 1))
            else run :: splitFrom fuel after
      else if char.isLower then
        (char :: rest).takeWhile Char.isLower ::
          splitFrom fuel (rest.dropWhile Char.isLower)
      else if char.isDigit then
        (char :: rest).takeWhile Char.isDigit ::
          splitFrom fuel (rest.dropWhile Char.isDigit)
      else splitFrom fuel rest

/-- `split_identifier` -/
def splitIdentifier (name : String) : List String :=
  (splitFrom name.toList.length name.toList).map fun part =>
    String.ofList (part.map Char.toLower)

/-- `uniform_column_prefix` -/
def uniformColumnPrefix (columns : List String) : Option String :=
  if columns.length < 2 then none
  else
    match columns.map splitIdentifier with
    | [] => none
    | first :: rest =>
        if (first :: rest).all fun parts =>
            decide (2 ≤ parts.length) && decide ((parts.headD "").length ≤ 3) &&
              decide (parts.head? = first.head?) then first.head?
        else none

/-- `column_match_tokens` -/
def columnMatchTokens (column : String) (front : Option String) : List String :=
  match splitIdentifier column, front with
  | first :: second :: rest, some front =>
      if front ≠ "" ∧ first = front then second :: rest
      else first :: second :: rest
  | parts, _ => parts

/-- How many words of the question a key's own words match, past the words all
candidates share. -/
def roleScore (owned shared tokens : List String) : ℕ :=
  ((owned.filter fun word => decide (word ∉ shared)).filter fun word =>
    decide (word ∈ tokens)).dedup.length

/-- The first candidate with the greatest score above zero. -/
def bestCandidate (scored : List ((String × String) × ℕ)) :
    Option (String × String) × ℕ :=
  scored.foldl
    (fun best candidate =>
      if best.2 < candidate.2 then (some candidate.1, candidate.2) else best)
    (none, 0)

/-- The other ways to make a join. -/
def edgeAlternates (graph : RelationshipGraph) (join : Join) :
    List (String × String) :=
  match (neighbours graph join.leftTable).lookup join.rightTable with
  | some keys => keys.alternates
  | none => []

/-- The pair whose columns the question names best, if it names any. -/
def bestRole (candidates : List (String × String)) (front : Option String)
    (tokens : List String) : Option (String × String) :=
  let tokenSets := candidates.map fun keys => columnMatchTokens keys.1 front
  -- Words every candidate has say nothing about which one was meant.
  let shared := (tokenSets.headD []).filter fun word =>
    tokenSets.all fun owned => decide (word ∈ owned)
  let scored := (candidates.zip tokenSets).map fun candidate =>
    (candidate.1, roleScore candidate.2 shared tokens)
  (bestCandidate scored).1

/-- The body of the loop of `_apply_join_roles`. -/
def applyJoinRole {unicode : Unicode} (graph : RelationshipGraph)
    (tokens : List String) (schema : Schema unicode) (join : Join) : Join :=
  let alternates := edgeAlternates graph join
  if alternates = [] then join
  else
    match bestRole ((join.leftKey, join.rightKey) :: alternates)
      (uniformColumnPrefix (schema.columns join.leftTable)) tokens with
    | none => join
    | some keys => { join with leftKey := keys.1, rightKey := keys.2 }

/-- `_apply_join_roles` -/
def applyJoinRoles {unicode : Unicode} (joins : List Join)
    (graph : RelationshipGraph) (tokens : List String)
    (schema : Schema unicode) : List Join :=
  if tokens = [] then joins
  else joins.map (applyJoinRole graph tokens schema)

/-! ## Late: with all clauses there -/

/-- `_join_scope` -/
def joinScope (plan : Plan) : List String :=
  (plan.baseTable.toList ++
      plan.joins.flatMap fun join => [join.rightTable, join.leftTable]).filterMap
    fun name => if name = "" then none else some (unicode.lower name)

/-- A referenced table from which the graph reaches all the other ones. -/
def reachesOthers (graph : RelationshipGraph) (referenced : List String)
    (candidate : String) : Bool :=
  (referenced.filter fun table =>
      decide (unicode.lower table ≠ unicode.lower candidate)).all fun table =>
    decide (unicode.lower table ∈ (neighbours graph candidate).map Prod.fst) ||
      decide (findJoinPath graph candidate table ≠ [])

/-- The table `_rebase_on_referenced_table` moves the base to, if it does. -/
def rebaseCandidate (plan : Plan) (graph : RelationshipGraph) : Option String :=
  let referenced := tablesReferencedByPlan unicode plan []
  match plan.baseTable with
  | none => none
  | some base =>
      if base = "" ∨ referenced = [] then none
      else if referenced.any fun table =>
          decide (unicode.lower table = unicode.lower base) then none
      else if referenced.all fun table =>
          decide (findJoinPath graph base table ≠ []) then none
      else referenced.find? (reachesOthers unicode graph referenced)

/-- `_rebase_on_referenced_table` -/
def rebaseOnReferencedTable (plan : Plan) (graph : RelationshipGraph) : Plan :=
  match rebaseCandidate unicode plan graph with
  | none => plan
  | some candidate => { plan with baseTable := some candidate, joins := [] }

/-- A hop is added unless its table is in scope. -/
def addHop (found : List Join × List String) (hop : Hop) :
    List Join × List String :=
  if unicode.lower hop.target ∈ found.2 then found
  else (found.1 ++ [Join.ofHop hop], unicode.lower hop.target :: found.2)

/-- `_reconcile_joins` -/
def reconcileJoins (plan : Plan) (graph : RelationshipGraph) : Plan :=
  match plan.baseTable with
  | none => plan
  | some base =>
      if base = "" then plan
      else
        let scope := joinScope unicode plan
        let missing := (tablesReferencedByPlan unicode plan []).filter
          fun table => decide (unicode.lower table ∉ scope)
        { plan with
          joins := (missing.foldl
            (fun found table =>
              (findJoinPath graph base table).foldl (addHop unicode) found)
            (plan.joins, scope)).1 }

/-- `out_of_scope` -/
def outOfScope (scope : List String) (item : Item) : Bool :=
  let table :=
    match item.table with
    | some table =>
        if table = "" then item.column.bind (columnPrefix unicode)
        else some table
    | none => item.column.bind (columnPrefix unicode)
  match table with
  | none => false
  | some table => decide (table ≠ "") && decide (unicode.lower table ∉ scope)

/-- `_drop_unreachable_filters` -/
def dropUnreachableFilters (plan : Plan) : Plan :=
  let scope := joinScope unicode plan
  let kept := fun clause : List Item =>
    clause.filter fun item => !outOfScope unicode scope item
  let dropped :=
    [("where", plan.filters), ("having", plan.having),
        ("order_by", plan.orderBy)].filter fun clause =>
      decide (kept clause.2 ≠ clause.2)
  if scope = [] ∨ dropped = [] then plan
  else { plan with
    filters := kept plan.filters
    having := kept plan.having
    orderBy := kept plan.orderBy
    ambiguities := plan.ambiguities ++
      ["Ignored " ++ "/".intercalate (dropped.map Prod.fst) ++
        " condition(s) on a table that cannot be related to " ++
        plan.baseTable.getD "None"]
    confidence := min plan.confidence (1 / 2) }

/-- `_dedupe_joins`, with the tables seen so far. -/
def dedupeJoins (seen : List String) : List Join → List Join
  | [] => []
  | join :: rest =>
      let right := unicode.lower join.rightTable
      if right = "" ∨ right ∈ seen then dedupeJoins seen rest
      else join :: dedupeJoins (right :: seen) rest

/-- The walk of `_prune_unused_joins` from the end: the joins kept, and the tables
that are referenced by then. -/
def keepReferenced (referenced : List String) :
    List Join → List Join × List String
  | [] => ([], referenced)
  | join :: rest =>
      let (kept, referenced) := keepReferenced referenced rest
      if unicode.lower join.rightTable ∈ referenced then
        (join :: kept,
          if join.leftTable = "" then referenced
          else unicode.lower join.leftTable :: referenced)
      else (kept, referenced)

/-- `_prune_unused_joins` -/
def pruneUnusedJoins (plan : Plan) : Plan :=
  let joins := dedupeJoins unicode [] plan.joins
  let referenced :=
    unicode.lower (plan.baseTable.getD "") ::
      (tablesReferencedByPlan unicode plan []).map unicode.lower
  { plan with joins := (keepReferenced unicode referenced joins).1 }

end Passes

end DbBuddy.Planner
