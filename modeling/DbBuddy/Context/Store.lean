import DbBuddy.Library.TransitionSystem
import DbBuddy.Library.OrderedDict
import DbBuddy.Dialects.Engine

/-!
# The store of prepared database contexts

Five kinds of things outlive a call of the store: connection pools, resolved
schemas, prepared contexts, and two kinds of files.  Each is kept under a key of
its own, built from some of the fields of a configuration.  Pools and contexts
are objects that callers hold on to, so they live in a heap.

`createdFor`, `uses`, `served` and `written` are bookkeeping of the model: which
configuration a thing was created for, and who was handed what.
-/

namespace DbBuddy.Context

open DbBuddy.Library DbBuddy.Dialects

structure DBConfig where
  host : String
  user : String
  password : String
  database : String
  port : Option Int
  dbSchema : Option String
  engine : DatabaseEngine
  ai : Bool
  deriving DecidableEq, Repr

/-- The tables a configuration means: what tells two databases apart. -/
structure PhysicalTarget where
  engine : DatabaseEngine
  host : String
  port : Option Int
  database : String
  dbSchema : Option String
  deriving DecidableEq, Repr

def DBConfig.target (config : DBConfig) : PhysicalTarget where
  engine := config.engine
  host := config.host
  port := config.port
  database := config.database
  dbSchema := config.dbSchema

/-- A plain schema: tables and their columns. -/
abbrev Schema := List (String × List String)

/-- The content of a semantic layer or of a value index. -/
abbrev Layer := List (String × String)

/-- What the store takes from elsewhere: `SCHEMA_CACHE_TTL_SECONDS`, the two MD5
digests, and the rule-based mapping.  A hexadecimal digest has no bar in it. -/
structure Setup where
  ttl : Int
  schemaHash : Schema → String
  dbId : String → String
  mapSchema : Schema → Layer
  schemaHash_plain : ∀ schema, '|' ∉ (schemaHash schema).toList

/-! ## Keys -/

/-- `_schema_suffix` -/
def schemaSuffix (config : DBConfig) : String :=
  match config.dbSchema with
  | some schema => if schema = "" then "" else "|" ++ schema
  | none => ""

/-- `_db_key` -/
def dbKey (config : DBConfig) : String :=
  config.host ++ "|" ++ config.database ++ "|" ++ config.engine.value ++
    schemaSuffix config

/-- `_ctx_key` -/
def ctxKey (config : DBConfig) (schemaHash : String) : String :=
  dbKey config ++ "|" ++ schemaHash

/-- What the names of both persisted files end in. -/
def fileSuffix (setup : Setup) (config : DBConfig) (schemaHash : String) :
    String :=
  setup.dbId (config.host ++ "|" ++ config.database) ++ "_" ++ schemaHash ++
    ".json"

/-- `_semantic_path` -/
def semanticPath (setup : Setup) (config : DBConfig) (schemaHash : String) :
    String :=
  "semantic_" ++ fileSuffix setup config schemaHash

/-- `_value_index_path` -/
def valueIndexPath (setup : Setup) (config : DBConfig) (schemaHash : String) :
    String :=
  "valueidx_" ++ fileSuffix setup config schemaHash

/-! ## Objects and state -/

/-- A `_ConnectionPool`; an idle connection is the configuration that opened
it, which is the pool's own. -/
structure Pool where
  config : DBConfig
  idle : List DBConfig
  opened : ∀ opener ∈ idle, opener = config

def poolSize : ℕ := 5

def Pool.new (config : DBConfig) : Pool where
  config := config
  idle := []
  opened := by simp

/-- `close` -/
def Pool.close (pool : Pool) : Pool :=
  Pool.new pool.config

/-- `acquire`: the opener of the connection handed out, and the rest.  A reused
connection that does not answer its ping is replaced by a new one. -/
def Pool.acquire (pool : Pool) (alive : Bool) : DBConfig × Pool :=
  match idle : pool.idle with
  | [] => (pool.config, pool)
  | opener :: rest =>
      (if alive then opener else pool.config,
        { config := pool.config
          idle := rest
          opened := fun other isIdle =>
            pool.opened other (idle ▸ List.mem_cons_of_mem _ isIdle) })

/-- `release` of a connection the pool has handed out. -/
def Pool.release (pool : Pool) : Pool :=
  if pool.idle.length < poolSize then
    { config := pool.config
      idle := pool.config :: pool.idle
      opened := by
        intro opener isIdle
        rcases List.mem_cons.mp isIdle with rfl | older
        · rfl
        · exact pool.opened opener older }
  else pool

/-- A `DBContext`, as far as the store's keys decide what is in it. -/
structure DBContext where
  schemaHash : String
  semantic : Layer
  valueIndex : Layer
  analyzed : Bool
  pool : ℕ
  createdFor : DBConfig

structure CachedSchema where
  schema : Schema
  readAt : Int
  createdFor : DBConfig

structure StoredLayer where
  layer : Layer
  createdFor : DBConfig

inductive Resource where
  | connection
  | schemaCache
  | context
  | semanticLayer
  | valueIndex
  deriving DecidableEq, Repr

/-- A thing that was created for one configuration is handed to another. -/
structure Use where
  resource : Resource
  caller : DBConfig
  createdFor : DBConfig
  deriving DecidableEq, Repr

structure State where
  now : Int
  poolAt : ℕ → Option Pool
  nextPool : ℕ
  pools : OrderedDict String ℕ
  schemaCache : OrderedDict String CachedSchema
  contextAt : ℕ → Option DBContext
  nextContext : ℕ
  contexts : OrderedDict String ℕ
  semanticFiles : OrderedDict String StoredLayer
  valueIndexFiles : OrderedDict String StoredLayer
  held : List (DBConfig × ℕ)
  uses : List Use
  served : List DBConfig
  written : List (DBConfig × String)

def State.use (state : State) (resource : Resource)
    (caller createdFor : DBConfig) : State :=
  { state with uses := ⟨resource, caller, createdFor⟩ :: state.uses }

/-! ## Pools -/

/-- A connection of pool `pid` is borrowed for `caller` and given back. -/
def lend (state : State) (pid : ℕ) (caller : DBConfig) (alive : Bool) : State :=
  match state.poolAt pid with
  | none => state
  | some pool =>
      let (opener, rest) := pool.acquire alive
      { state with
        poolAt := Function.update state.poolAt pid (some rest.release)
        uses := ⟨.connection, caller, opener⟩ :: state.uses }

/-- Pop the pool under `key` and close it. -/
def dropPool (state : State) (key : String) : State :=
  match state.pools.lookup key with
  | none => state
  | some pid => { state with
      pools := state.pools.erase key
      poolAt := Function.update state.poolAt pid
        ((state.poolAt pid).map Pool.close) }

/-- The pool under the configuration's key, created if there is none. -/
def findPool (state : State) (config : DBConfig) : ℕ × State :=
  match state.pools.lookup (dbKey config) with
  | some pid => (pid, state)
  | none => (state.nextPool, { state with
      poolAt := Function.update state.poolAt state.nextPool
        (some (Pool.new config))
      nextPool := state.nextPool + 1
      pools := state.pools.insert (dbKey config) state.nextPool })

/-- `_get_pool` -/
def getPool (state : State) (config : DBConfig) (fresh : Bool) : ℕ × State :=
  if fresh then findPool (dropPool state (dbKey config)) config
  else findPool state config

/-! ## Schemas -/

/-- What the world answers during one call: the live schema, if it can be read,
and whether with types and keys; the refined layer and the sampled values; and
whether an idle connection is still alive. -/
structure Reading where
  live : Option Schema
  rich : Bool
  refined : Layer
  sampled : Layer
  alive : Bool

/-- A schema that is still fresh in the short-lived cache. -/
def freshSchema (setup : Setup) (state : State) (config : DBConfig) :
    Option CachedSchema :=
  if 0 < setup.ttl then
    (state.schemaCache.lookup (dbKey config)).filter fun entry =>
      decide (state.now - entry.readAt < setup.ttl)
  else none

/-- `_resolve_schema_ex`: the schema, and whether the rich one came with it. -/
def resolveSchemaEx (setup : Setup) (state : State) (config : DBConfig)
    (pid : ℕ) (reading : Reading) : Option (Schema × Bool) × State :=
  match freshSchema setup state config with
  | some entry =>
      (some (entry.schema, false),
        state.use .schemaCache config entry.createdFor)
  | none =>
      let lent := lend state pid config reading.alive
      match reading.live with
      | none => (none, lent)
      | some schema =>
          (some (schema, reading.rich),
            if 0 < setup.ttl then { lent with
              schemaCache := lent.schemaCache.insert (dbKey config)
                ⟨schema, lent.now, config⟩ }
            else lent)

/-! ## Layers -/

/-- `_build_semantic` -/
def buildSemantic (setup : Setup) (state : State) (config : DBConfig)
    (schema : Schema) (rebuild : Bool) (reading : Reading) : Layer × State :=
  let schemaHash := setup.schemaHash schema
  let path := semanticPath setup config schemaHash
  if rebuild then
    let layer := if config.ai then reading.refined else setup.mapSchema schema
    (layer, { state with
      semanticFiles := state.semanticFiles.insert path ⟨layer, config⟩
      written := (config, schemaHash) :: state.written })
  else
    match state.semanticFiles.lookup path with
    | some file =>
        (if file.layer = [] then setup.mapSchema schema else file.layer,
          state.use .semanticLayer config file.createdFor)
    | none => (setup.mapSchema schema, state)

/-- The dimension value index: sampled and persisted, or loaded. -/
def buildValueIndex (setup : Setup) (state : State) (config : DBConfig)
    (schema : Schema) (pid : ℕ) (rebuild : Bool) (reading : Reading) :
    Layer × State :=
  let schemaHash := setup.schemaHash schema
  let path := valueIndexPath setup config schemaHash
  if rebuild then
    let lent := lend state pid config reading.alive
    (reading.sampled, { lent with
      valueIndexFiles := lent.valueIndexFiles.insert path
        ⟨reading.sampled, config⟩
      written := (config, schemaHash) :: lent.written })
  else
    match state.valueIndexFiles.lookup path with
    | some file => (file.layer, state.use .valueIndex config file.createdFor)
    | none => ([], state)

/-! ## Contexts -/

/-- A context is returned: the caller holds it and the pool in it. -/
def hand (state : State) (config : DBConfig) (cid : ℕ) : State :=
  { state with held := (config, cid) :: state.held }

/-- A cached context adopts the present pool and is returned. -/
def adopt (state : State) (config : DBConfig) (pid cid : ℕ)
    (existing : DBContext) : State :=
  hand
    ({ state with
        contextAt := Function.update state.contextAt cid
          (some { existing with pool := pid }) }.use
      .context config existing.createdFor) config cid

/-- The build at the end of `get_context_ex`. -/
def buildContext (setup : Setup) (state : State) (config : DBConfig)
    (schema : Schema) (rich : Bool) (pid : ℕ) (rebuild : Bool)
    (reading : Reading) : State :=
  let schemaHash := setup.schemaHash schema
  let (semantic, state) :=
    buildSemantic setup state config schema rebuild reading
  let state := if rich then state else lend state pid config reading.alive
  let (valueIndex, state) :=
    buildValueIndex setup state config schema pid rebuild reading
  let context : DBContext :=
    { schemaHash := schemaHash
      semantic := semantic
      valueIndex := valueIndex
      analyzed :=
        (state.semanticFiles.lookup
          (semanticPath setup config schemaHash)).isSome
      pool := pid
      createdFor := config }
  hand
    { state with
      contextAt := Function.update state.contextAt state.nextContext
        (some context)
      nextContext := state.nextContext + 1
      contexts := state.contexts.insert (ctxKey config schemaHash)
        state.nextContext } config state.nextContext

/-- `get_context_ex` once the pool and the schema are there. -/
def contextFor (setup : Setup) (state : State) (config : DBConfig)
    (schema : Schema) (rich : Bool) (pid : ℕ) (rebuild : Bool)
    (reading : Reading) : State :=
  let build :=
    buildContext setup state config schema rich pid rebuild reading
  if rebuild then build
  else
    match state.contexts.lookup (ctxKey config (setup.schemaHash schema)) with
    | none => build
    | some cid =>
        match state.contextAt cid with
        | none => build
        | some existing => adopt state config pid cid existing

/-- `get_context_ex`.  A schema that cannot be read raises, and what has been
done by then stays. -/
def getContextEx (setup : Setup) (state : State) (config : DBConfig)
    (rebuild : Bool) (reading : Reading) : State :=
  let (pid, state) :=
    getPool { state with served := config :: state.served } config rebuild
  match resolveSchemaEx setup state config pid reading with
  | (none, state) => state
  | (some (schema, rich), state) =>
      contextFor setup state config schema rich pid rebuild reading

/-- `rebuild`, without the broadcast. -/
def rebuild (setup : Setup) (state : State) (config : DBConfig)
    (reading : Reading) : State :=
  getContextEx setup
    { state with schemaCache := state.schemaCache.erase (dbKey config) }
    config true reading

/-- `k.startswith(prefix)` -/
def startsWith (key start : String) : Bool :=
  start.toList.isPrefixOf key.toList

/-- `invalidate` -/
def invalidate (state : State) (config : DBConfig) : State :=
  let key := dbKey config
  let dropped := dropPool state key
  { dropped with
    contexts := dropped.contexts.keepKeys fun contextKey =>
      !(decide (contextKey = key) || startsWith contextKey (key ++ "|"))
    schemaCache := dropped.schemaCache.erase key
    served := dropped.served.filter fun other => decide (dbKey other ≠ key) }

inductive Label where
  | tick (elapsed : ℕ)
  | getContextEx (config : DBConfig) (rebuild : Bool) (reading : Reading)
  | rebuild (config : DBConfig) (reading : Reading)
  | invalidate (config : DBConfig)
  | connection (config : DBConfig) (cid : ℕ) (alive : Bool)

/-- `DBContext.connection` lends from the pool the context has by then. -/
def borrow (state : State) (config : DBConfig) (cid : ℕ) (alive : Bool) :
    Option State :=
  if (config, cid) ∈ state.held then
    (state.contextAt cid).map fun context =>
      lend state context.pool config alive
  else none

/-- One call of the store by some caller. -/
def step (setup : Setup) (state : State) : Label → Option State
  | .tick elapsed => some { state with now := state.now + elapsed }
  | .getContextEx config rebuild reading =>
      some (getContextEx setup state config rebuild reading)
  | .rebuild config reading => some (rebuild setup state config reading)
  | .invalidate config => some (invalidate state config)
  | .connection config cid alive => borrow state config cid alive

/-- A process that has just started.  Files may be there from an earlier one,
each under the path of the configuration it was written for. -/
structure Initial (setup : Setup) (state : State) : Prop where
  noPools : state.pools = ∅
  noSchemas : state.schemaCache = ∅
  noContexts : state.contexts = ∅
  noContextObjects : ∀ cid, state.contextAt cid = none
  noHolders : state.held = []
  noUses : state.uses = []
  poolIds : ∀ pid, state.nextPool ≤ pid → state.poolAt pid = none
  semanticFiles : ∀ path file, state.semanticFiles.lookup path = some file →
    ∃ schemaHash, (file.createdFor, schemaHash) ∈ state.written ∧
      path = semanticPath setup file.createdFor schemaHash
  valueIndexFiles : ∀ path file,
    state.valueIndexFiles.lookup path = some file →
    ∃ schemaHash, (file.createdFor, schemaHash) ∈ state.written ∧
      path = valueIndexPath setup file.createdFor schemaHash

def system (setup : Setup) : TransitionSystem State Label where
  initial := Initial setup
  step := step setup

end DbBuddy.Context
