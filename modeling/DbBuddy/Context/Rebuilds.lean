import DbBuddy.Context.Store

/-!
# Calls of the store that overlap

`get_context_ex` takes the store's lock in short sections and lets go of it for
the schema read and for the build, so a rebuild, a query, a schema change and an
invalidation can fall between any two of them.  Each section is one step here, as
is the beginning and the end of a schema read.

`events` numbers the steps.  `commits`, `barriers`, `superseded`, `startedAt` and
`readBegan` are bookkeeping of the model, as is `readAt`: the step at which the
schema read that something was made from began.
-/

namespace DbBuddy.Context

open DbBuddy.Library DbBuddy.Dialects

universe u

/-- `get_context_ex` as a query and as `process_schema` call it, and `rebuild`. -/
inductive CallKind where
  | get
  | force
  | rebuild
  deriving DecidableEq, Repr

/-- The `rebuild` argument that `get_context_ex` is called with. -/
def CallKind.forced : CallKind → Bool
  | .get => false
  | .force => true
  | .rebuild => true

structure Request where
  config : DBConfig
  kind : CallKind
  deriving DecidableEq, Repr

/-- `Setup`, with `FLIGHT_WAIT_SECONDS`. -/
structure SharedSetup extends Setup where
  flightWait : Int

/-! ## What is shared -/

/-- A schema, and when its read began. -/
structure SchemaRead where
  schema : Schema
  readAt : ℕ
  deriving DecidableEq, Repr

/-- A `_schema_cache` entry. -/
structure CachedRead where
  read : SchemaRead
  cachedAt : Int
  deriving DecidableEq, Repr

/-- A `DBContext`, as far as its schema goes, and what it was built for. -/
structure PreparedContext where
  createdFor : DBConfig
  read : SchemaRead
  deriving DecidableEq, Repr

/-- A schema change on a target. -/
structure DdlCommit where
  target : PhysicalTarget
  event : ℕ
  deriving DecidableEq, Repr

/-- A completed rebuild, or an invalidation, of what is kept under `key`. -/
structure Barrier where
  key : String
  began : ℕ
  completed : ℕ
  deriving DecidableEq, Repr

/-- Where a call stands.  A call that leads a flight has `fetched` its schema,
or failed to, before it takes the flight down, and has `landed` before it sets
the flight's event. -/
inductive CallPhase (Call : Type u) where
  | ready
  | entered
  | resolving
  | missed
  | waiting (leader : Call) (since : Int)
  | fetching (leads : Bool)
  | reading (leads : Bool) (readAt : ℕ)
  | fetched (outcome : Option SchemaRead)
  | landed (outcome : Option SchemaRead)
  | writing (read : SchemaRead)
  | resolved (read : SchemaRead)
  | building (read : SchemaRead)
  | answered (read : SchemaRead) (context : PreparedContext)
  | failed

/-- A leader goes on with what it read; a failed read raises. -/
def CallPhase.afterFlight {Call : Type u} : Option SchemaRead → CallPhase Call
  | some read => .writing read
  | none => .failed

/-- `_schema_cache`, `_schema_flights` and `_contexts`; a flight is named by the
call that leads it, and `flown` is what its sharers find once its event is set.
`superseded` marks the contexts that a completed rebuild left as they were. -/
structure SharedState (Call : Type u) where
  events : ℕ
  now : Int
  schemaCache : String → Option CachedRead
  flights : String → Option Call
  flown : Call → Option (Option SchemaRead)
  contexts : String → Option PreparedContext
  phase : Call → CallPhase Call
  commits : List DdlCommit
  barriers : List Barrier
  superseded : String → Bool
  startedAt : Call → ℕ
  readBegan : Call → Option ℕ

inductive SharedLabel (Call : Type u) where
  | tick (elapsed : ℕ)
  | commit (target : PhysicalTarget)
  | invalidate (config : DBConfig)
  | deliver (payload : Option String)
  | start (call : Call)
  | dropCached (call : Call)
  | lookup (call : Call)
  | enlist (call : Call)
  | wake (call : Call)
  | beginRead (call : Call)
  | endRead (call : Call) (schema : Option Schema)
  | takeDown (call : Call)
  | signal (call : Call)
  | writeBack (call : Call)
  | find (call : Call)
  | install (call : Call)
  | abandon (call : Call)

/-! ## The steps -/

namespace SharedState

variable {Call : Type u} [DecidableEq Call]

def setPhase (state : SharedState Call) (call : Call) (next : CallPhase Call) :
    SharedState Call :=
  { state with phase := Function.update state.phase call next }

/-- What `invalidate` and `_apply_remote_invalidation` do under the lock. -/
def drop (state : SharedState Call) (key : String) : SharedState Call :=
  { state with
    schemaCache := Function.update state.schemaCache key none
    contexts := fun contextKey =>
      if contextKey = key ∨ startsWith contextKey (key ++ "|") then none
      else state.contexts contextKey
    barriers := ⟨key, state.events, state.events⟩ :: state.barriers }

/-- `_apply_remote_invalidation`; a payload that is no string is `none`. -/
def applyRemoteInvalidation (state : SharedState Call)
    (payload : Option String) : SharedState Call :=
  match payload with
  | none => state
  | some key => if key = "" then state else state.drop key

/-- The cached schema, while it is fresh. -/
def cached (setup : SharedSetup) (state : SharedState Call) (key : String) :
    Option CachedRead :=
  if 0 < setup.ttl then
    (state.schemaCache key).filter fun entry =>
      decide (state.now - entry.cachedAt < setup.ttl)
  else none

/-- The flight's event is set. -/
def signalled (state : SharedState Call) (leader : Call) : Bool :=
  (state.flown leader).isSome

/-- The schema a sharer takes over, if its wait has not run out and the leader
has come back with one. -/
def sharedRead (state : SharedState Call) (leader : Call) : Option SchemaRead :=
  (state.flown leader).join

/-- The context under `contextKey` is one of `key`, and was read before. -/
def olderThan (state : SharedState Call) (key : String) (before : ℕ)
    (contextKey : String) : Bool :=
  (state.contexts contextKey).any fun context =>
    decide (dbKey context.createdFor = key) &&
      decide (context.read.readAt < before)

/-- The lock section at the end of `get_context_ex`, and its return: a forced
call has completed a rebuild. -/
def install (setup : SharedSetup) (request : Request) (state : SharedState Call)
    (call : Call) (read : SchemaRead) : SharedState Call :=
  let context : PreparedContext := ⟨request.config, read⟩
  let key := dbKey request.config
  let contextKey := ctxKey request.config (setup.schemaHash read.schema)
  { state with
    contexts := Function.update state.contexts contextKey (some context)
    phase := Function.update state.phase call (.answered read context)
    barriers :=
      if request.kind.forced then
        ⟨key, state.startedAt call, state.events⟩ :: state.barriers
      else state.barriers
    superseded := Function.update
      (fun other => state.superseded other ||
        request.kind.forced && state.olderThan key (state.startedAt call) other)
      contextKey false }

end SharedState

section Steps

variable {Call : Type u} [DecidableEq Call]

/-- One atomic step.  What a read sees is the environment's choice: it is several
statements, and a schema change may fall between them. -/
def sharedAct (setup : SharedSetup) (request : Call → Request)
    (state : SharedState Call) : SharedLabel Call → Option (SharedState Call)
  | .tick elapsed => some { state with now := state.now + elapsed }
  | .commit target => some { state with
      commits := ⟨target, state.events⟩ :: state.commits }
  | .invalidate config => some (state.drop (dbKey config))
  | .deliver payload => some (state.applyRemoteInvalidation payload)
  | .start call =>
      match state.phase call with
      | .ready => some
          ({ state with
              startedAt := Function.update state.startedAt call state.events
            }.setPhase call
              (if (request call).kind = CallKind.rebuild then .entered
                else .resolving))
      | _ => none
  -- The first lock section of `rebuild`.
  | .dropCached call =>
      match state.phase call with
      | .entered => some
          ({ state with
              schemaCache := Function.update state.schemaCache
                (dbKey (request call).config) none }.setPhase call .resolving)
      | _ => none
  | .lookup call =>
      match state.phase call with
      | .resolving =>
          match state.cached setup (dbKey (request call).config) with
          | some entry => some (state.setPhase call (.resolved entry.read))
          | none => some (state.setPhase call .missed)
      | _ => none
  | .enlist call =>
      match state.phase call with
      | .missed =>
          match state.flights (dbKey (request call).config) with
          | some leader =>
              some (state.setPhase call (.waiting leader state.now))
          | none => some
              ({ state with
                  flights := Function.update state.flights
                    (dbKey (request call).config) (some call) }.setPhase call
                (.fetching true))
      | _ => none
  | .wake call =>
      match state.phase call with
      | .waiting leader since =>
          if state.signalled leader then
            match state.sharedRead leader with
            | some read => some (state.setPhase call (.writing read))
            | none => some (state.setPhase call (.fetching false))
          else if since + setup.flightWait ≤ state.now then
            some (state.setPhase call (.fetching false))
          else none
      | _ => none
  | .beginRead call =>
      match state.phase call with
      | .fetching leads => some
          ({ state with
              readBegan := Function.update state.readBegan call
                (some state.events) }.setPhase call
            (.reading leads state.events))
      | _ => none
  | .endRead call schema =>
      match state.phase call with
      | .reading true readAt => some (state.setPhase call
          (.fetched (schema.map fun schema => ⟨schema, readAt⟩)))
      | .reading false readAt =>
          match schema with
          | some schema =>
              some (state.setPhase call (.writing ⟨schema, readAt⟩))
          | none => some (state.setPhase call .failed)
      | _ => none
  | .takeDown call =>
      match state.phase call with
      | .fetched outcome => some
          ({ state with
              flights := Function.update state.flights
                (dbKey (request call).config) none }.setPhase call
            (.landed outcome))
      | _ => none
  | .signal call =>
      match state.phase call with
      | .landed outcome => some
          ({ state with
              flown := Function.update state.flown call (some outcome)
            }.setPhase call (.afterFlight outcome))
      | _ => none
  | .writeBack call =>
      match state.phase call with
      | .writing read => some
          ({ state with
              schemaCache :=
                if 0 < setup.ttl then
                  Function.update state.schemaCache
                    (dbKey (request call).config) (some ⟨read, state.now⟩)
                else state.schemaCache }.setPhase call (.resolved read))
      | _ => none
  | .find call =>
      match state.phase call with
      | .resolved read =>
          match state.contexts
              (ctxKey (request call).config
                (setup.schemaHash read.schema)) with
          | some context =>
              if (request call).kind.forced then
                some (state.setPhase call (.building read))
              else some (state.setPhase call (.answered read context))
          | none => some (state.setPhase call (.building read))
      | _ => none
  | .install call =>
      match state.phase call with
      | .building read =>
          some (state.install setup (request call) call read)
      | _ => none
  -- The build raises.
  | .abandon call =>
      match state.phase call with
      | .building _ => some (state.setPhase call .failed)
      | _ => none

def sharedStep (setup : SharedSetup) (request : Call → Request)
    (state : SharedState Call) (label : SharedLabel Call) :
    Option (SharedState Call) :=
  (sharedAct setup request state label).map fun next =>
    { next with events := next.events + 1 }

/-- A process that has just started. -/
structure SharedInitial (state : SharedState Call) : Prop where
  noSchemas : ∀ key, state.schemaCache key = none
  noFlights : ∀ key, state.flights key = none
  noContexts : ∀ key, state.contexts key = none
  noCalls : ∀ call, state.phase call = .ready ∧ state.startedAt call = 0
  noReads : ∀ call, state.readBegan call = none ∧ state.flown call = none
  noBarriers : state.barriers = []
  noCommits : state.commits = []

def sharedSystem (setup : SharedSetup) (request : Call → Request) :
    TransitionSystem (SharedState Call) (SharedLabel Call) where
  initial := SharedInitial
  step := sharedStep setup request

end Steps

end DbBuddy.Context
