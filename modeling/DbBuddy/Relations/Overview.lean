import Mathlib.Data.Finset.Fold
import Mathlib.Data.Finset.Sort
import Mathlib.Data.List.Lex
import Mathlib.Data.Prod.Lex
import Mathlib.Data.Rat.Floor
import Mathlib.Data.String.Basic
import DbBuddy.Library.Gathering
import DbBuddy.Relations.Entities

/-!
# The overview of the databases

`build_overview_graph` turns the snapshots of all databases around: an index has, for every
entity, the databases that define it and those that refer to it, and every entity of the index
links each two of its databases.  A link keeps the best score that one entity gives it.
Scores are exact here.
-/

namespace DbBuddy.Relations

open DbBuddy.Library

/-! ## Snapshots -/

/-- What names an entity. -/
abbrev Token := List Char

instance isTrans_token : IsTrans Token (· ≤ ·) :=
  inferInstance

instance antisymm_token : @Std.Antisymm Token (· ≤ ·) :=
  inferInstance

instance total_token : @Std.Total Token (· ≤ ·) :=
  inferInstance

structure ForeignKey where
  referencedTable : Option (List Char)

structure Column where
  name : Option (List Char)

structure Table where
  name : Option (List Char)
  columns : List Column
  foreignKeys : List ForeignKey

structure Snapshot where
  tables : List Table

structure Database where
  id : String
  label : Option String
  engine : Option String
  database : Option String
  snapshot : Option Snapshot
  capturedAt : Option String

/-- `_STOPWORD_ENTITIES` -/
def stopwordEntities : Finset Token :=
  (["id", "type", "status", "state", "value", "key", "data", "kind", "code", "flag", "level",
    "category", "group", "class", "item", "record", "detail"].map String.toList).toFinset

/-- `_FREE_FANOUT` -/
def freeFanout : ℕ := 8

/-- `_MIN_COMPUTE_WEIGHT` -/
def minComputeWeight : ℚ := 5 / 100

/-- `_MAX_EDGES` -/
def maxEdges : ℕ := 1000

/-! ## The entities of one database -/

/-- The entities that a database models, and those that it mentions. -/
structure Signals where
  defines : Finset Token
  refers : Finset Token
  deriving DecidableEq

/-- `cname[:-3]`, where the name is one of a reference. -/
def referredName (lowercase : Lowercase) (column : Column) : Option (List Char) :=
  let name := lowercase.text (column.name.getD [])
  if endsWith ["_id"] name = true ∧ 3 < name.length then some (name.take (name.length - 3))
  else none

def Signals.addForeignKey (lowercase : Lowercase) (signals : Signals) (key : ForeignKey) :
    Signals :=
  { signals with refers := insert (normalizeEntity lowercase key.referencedTable) signals.refers }

def Signals.addColumn (lowercase : Lowercase) (signals : Signals) (column : Column) : Signals :=
  match referredName lowercase column with
  | some name =>
      { signals with refers := insert (normalizeEntity lowercase (some name)) signals.refers }
  | none => signals

/-- One pass of the loop over the tables. -/
def Signals.addTable (lowercase : Lowercase) (signals : Signals) (table : Table) : Signals :=
  let named :=
    { signals with defines := insert (normalizeEntity lowercase table.name) signals.defines }
  let referring := table.foreignKeys.foldl (Signals.addForeignKey lowercase) named
  table.columns.foldl (Signals.addColumn lowercase) referring

/-- `_entity_signals` -/
def entitySignals (lowercase : Lowercase) (snapshot : Snapshot) : Signals :=
  let signals := snapshot.tables.foldl (Signals.addTable lowercase) ⟨∅, ∅⟩
  ⟨signals.defines.erase [], signals.refers.erase []⟩

/-! ## The index -/

/-- The order in which Python goes through a set: any order there is. -/
structure SetOrder where
  list : Finset Token → List Token
  listed : ∀ tokens, (list tokens : Multiset Token) = tokens.val

/-- The databases of one entity. -/
structure Hit where
  defines : Finset String
  refers : Finset String
  deriving DecidableEq

/-- In which of its two sets a database is entered. -/
inductive Mention where
  | defines (id : String)
  | refers (id : String)
  deriving DecidableEq

def Hit.blank : Hit := ⟨∅, ∅⟩

def Hit.add (hit : Hit) : Mention → Hit
  | .defines id => { hit with defines := insert id hit.defines }
  | .refers id => { hit with refers := insert id hit.refers }

/-- `hit["defines"] | hit["refers"]` -/
def Hit.involved (hit : Hit) : Finset String :=
  hit.defines ∪ hit.refers

/-- `signals`: those of each database with a snapshot. -/
def signalsOf (lowercase : Lowercase) : List Database → Dict String Signals → Dict String Signals
  | [], signals => signals
  | database :: rest, signals =>
      match database.snapshot with
      | some snapshot =>
          signalsOf lowercase rest (signals.assign database.id (entitySignals lowercase snapshot))
      | none => signalsOf lowercase rest signals

/-- What the two loops over the sets of one database enter in the index. -/
def mentionsOf (order : SetOrder) (id : String) (signals : Signals) : List (Token × Mention) :=
  (((order.list signals.defines).filter fun token => token ∉ stopwordEntities).map
      fun token => (token, Mention.defines id)) ++
    ((order.list signals.refers).filter fun token => token ∉ stopwordEntities).map
      fun token => (token, Mention.refers id)

/-- `index` -/
def indexOf (order : SetOrder) (signals : Dict String Signals) : Dict Token Hit :=
  gather Hit.blank Hit.add
    (signals.entries.flatMap fun entry => mentionsOf order entry.fst entry.snd) ∅

/-! ## Scores -/

/-- `_token_weight` -/
def tokenWeight (fanout : ℕ) : ℚ :=
  if fanout ≤ freeFanout then 1 else freeFanout / fanout

/-- The rule of `_pair_confidence`, by which of the two defines and which refers. -/
def signalScore (firstDefines secondDefines firstRefers secondRefers : Bool) : ℚ :=
  if firstDefines && secondRefers || secondDefines && firstRefers then 9 / 10
  else if firstDefines && secondDefines then 7 / 10
  else 5 / 10

/-- `_pair_confidence` -/
def pairConfidence (first second : String) (hit : Hit) : ℚ :=
  signalScore (decide (first ∈ hit.defines)) (decide (second ∈ hit.defines))
    (decide (first ∈ hit.refers)) (decide (second ∈ hit.refers))

/-- `round(score, 2)`: to the nearest hundredth, and to the even one of two. -/
def roundHundredths (score : ℚ) : ℚ :=
  let low := ⌊score * 100⌋
  let rest := score * 100 - low
  if rest < 1 / 2 ∨ (rest = 1 / 2 ∧ low % 2 = 0) then low / 100 else (low + 1) / 100

/-! ## Links -/

/-- What is known of the link of two databases. -/
structure Link where
  confidence : ℚ
  shared : Finset Token

def Link.blank : Link := ⟨0, ∅⟩

/-- The best single entity wins. -/
def Link.add (link : Link) (found : Token × ℚ) : Link :=
  ⟨max link.confidence found.2, insert found.1 link.shared⟩

/-- `members[i], members[j]` for `i < j` -/
def pairsOf {Item : Type} : List Item → List (Item × Item)
  | [] => []
  | item :: rest => rest.map (fun other => (item, other)) ++ pairsOf rest

/-- What the loop over the pairs of one entity adds to the links. -/
def linksOf (token : Token) (hit : Hit) : List ((String × String) × (Token × ℚ)) :=
  let weight := tokenWeight hit.involved.card
  if hit.involved.card < 2 then []
  else if weight < minComputeWeight then []
  else (pairsOf (hit.involved.sort (· ≤ ·))).map fun pair =>
    (pair, (token, pairConfidence pair.1 pair.2 hit * weight))

/-- `pairs` -/
def pairLinks (index : Dict Token Hit) : Dict (String × String) Link :=
  gather Link.blank Link.add (index.entries.flatMap fun entry => linksOf entry.fst entry.snd) ∅

/-! ## The graph -/

structure Edge where
  source : String
  target : String
  confidence : ℚ
  shared : List Token
  sharedCount : ℕ
  kind : String
  deriving DecidableEq

/-- The edge that a link is shown as. -/
def Link.edge (pair : String × String) (link : Link) : Edge where
  source := pair.1
  target := pair.2
  confidence := roundHundredths link.confidence
  shared := (link.shared.sort (· ≤ ·)).take 8
  sharedCount := link.shared.card
  kind := "inferred"

structure Node where
  id : String
  label : String
  engine : Option String
  database : Option String
  tableCount : ℕ
  hasSnapshot : Bool
  capturedAt : Option String
  deriving DecidableEq

/-- `snapshot_table_count` -/
def snapshotTableCount (snapshot : Option Snapshot) : ℕ :=
  match snapshot with
  | none => 0
  | some snapshot => snapshot.tables.length

def Database.node (database : Database) : Node where
  id := database.id
  label := match database.label with
    | none => database.id
    | some label => if label = "" then database.id else label
  engine := database.engine
  database := database.database
  tableCount := snapshotTableCount database.snapshot
  hasSnapshot := database.snapshot.isSome
  capturedAt := database.capturedAt

structure Stats where
  databases : ℕ
  snapshotted : ℕ
  links : ℕ
  totalLinks : ℕ
  truncated : Bool
  deriving DecidableEq

structure OverviewGraph where
  level : String
  nodes : List Node
  edges : List Edge
  stats : Stats
  deriving DecidableEq

/-- The edges before the cut: sorted by their ends, and then by confidence. -/
def rankedEdges (pairs : Dict (String × String) Link) : List Edge :=
  ((pairs.entries.mergeSort fun entry other =>
      decide (toLex entry.fst ≤ toLex other.fst)).map
    fun entry => entry.snd.edge entry.fst).mergeSort fun edge other =>
      decide (other.confidence ≤ edge.confidence)

/-- `build_overview_graph` -/
def buildOverviewGraph (lowercase : Lowercase) (order : SetOrder) (databases : List Database) :
    OverviewGraph :=
  let signals := signalsOf lowercase databases ∅
  let edges := rankedEdges (pairLinks (indexOf order signals))
  let truncated := decide (maxEdges < edges.length)
  let kept := if truncated then edges.take maxEdges else edges
  { level := "overview"
    nodes := databases.map Database.node
    edges := kept
    stats :=
      { databases := databases.length
        snapshotted := signals.entries.length
        links := kept.length
        totalLinks := edges.length
        truncated := truncated } }

end DbBuddy.Relations
