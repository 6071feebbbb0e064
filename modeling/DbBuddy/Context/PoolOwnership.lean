import DbBuddy.Context.Store
import DbBuddy.Library.Custody

/-!
# Who owns a pooled connection

Threads borrow connections through a context, whose pool may be exchanged while they work, or
from a pool that they hold on to; rebuilds and invalidations take pools out of the registry and
close them meanwhile.  Every operation on a queue is one step, and so is every reading of a
context's pool.
-/

namespace DbBuddy.Context.Ownership

open DbBuddy.Library DbBuddy.Library.Custody

/-! ## Threads -/

/-- Where a connection is borrowed from: `ctx.connection()` or `_pool_connection(pool)`. -/
inductive Source where
  | context (context : ℕ)
  | pool (pool : ℕ)
  deriving DecidableEq

/-- What a thread is about to do.  The pool is the one whose `acquire` was called. -/
inductive Phase where
  | resting
  /-- `self._idle.get_nowait()` -/
  | wanting (source : Source) (pool : ℕ)
  /-- `conn.ping()` -/
  | checking (source : Source) (pool conn : ℕ)
  /-- `self._new()` -/
  | opening (source : Source) (pool : ℕ)
  | holding (source : Source) (pool conn : ℕ)
  /-- `self._idle.put_nowait(conn)`, in the pool `target` -/
  | returning (pool target conn : ℕ)
  /-- the loop of `close`; then a pool for `next` is looked up -/
  | closing (pool : ℕ) (next : Option DBConfig)
  deriving DecidableEq

/-- The connection that a thread has. -/
def Phase.custody : Phase → Option ℕ
  | .checking _ _ conn => some conn
  | .holding _ _ conn => some conn
  | .returning _ _ conn => some conn
  | _ => none

/-- The pool that a thread borrows from and has not released to yet. -/
def Phase.acquired : Phase → Option ℕ
  | .wanting _ pool => some pool
  | .checking _ pool _ => some pool
  | .opening _ pool => some pool
  | .holding _ pool _ => some pool
  | .returning pool _ _ => some pool
  | _ => none

/-- Where a thread borrows from, until it has looked up the pool to release to. -/
def Phase.source : Phase → Option Source
  | .wanting source _ => some source
  | .checking source _ _ => some source
  | .opening source _ => some source
  | .holding source _ _ => some source
  | _ => none

/-! ## The state -/

/-- Pools, connections and contexts are numbered in the order they come into being.
`closed` and `openedBy` are bookkeeping: a call of `close` has ended, and the pool that has
opened a connection. -/
structure State where
  config : ℕ → Option DBConfig
  idle : ℕ → List ℕ
  closed : ℕ → Bool
  nextPool : ℕ
  openedBy : ℕ → Option ℕ
  credentials : ℕ → Option DBConfig
  isOpen : ℕ → Bool
  nextConnection : ℕ
  contexts : ℕ → Option ℕ
  nextContext : ℕ
  registry : String → Option ℕ
  threads : ℕ → Phase

def blank : State where
  config _ := none
  idle _ := []
  closed _ := false
  nextPool := 0
  openedBy _ := none
  credentials _ := none
  isOpen _ := false
  nextConnection := 0
  contexts _ := none
  nextContext := 0
  registry _ := none
  threads _ := .resting

namespace State

def setPhase (state : State) (thread : ℕ) (phase : Phase) : State :=
  { state with threads := Function.update state.threads thread phase }

/-- `self.pool`, or the pool itself. -/
def poolOf (state : State) : Source → Option ℕ
  | .context context => state.contexts context
  | .pool pool => if pool < state.nextPool then some pool else none

/-- The first of the idle connections is popped. -/
def pop (state : State) (pool : ℕ) (rest : List ℕ) : State :=
  { state with idle := Function.update state.idle pool rest }

/-- `conn.close()` -/
def closeConnection (state : State) (conn : ℕ) : State :=
  { state with isOpen := Function.update state.isOpen conn false }

/-- `_new`: a connection with the pool's configuration. -/
def openNew (state : State) (pool : ℕ) : State :=
  { state with
    openedBy := Function.update state.openedBy state.nextConnection (some pool)
    credentials := Function.update state.credentials state.nextConnection (state.config pool)
    isOpen := Function.update state.isOpen state.nextConnection true
    nextConnection := state.nextConnection + 1 }

/-- `put_nowait`, where there is room. -/
def push (state : State) (pool conn : ℕ) : State :=
  { state with idle := Function.update state.idle pool (conn :: state.idle pool) }

/-- A `LifoQueue` with no positive size is never full. -/
def Full (state : State) (size pool : ℕ) : Prop :=
  0 < size ∧ size ≤ (state.idle pool).length

instance (state : State) (size pool : ℕ) : Decidable (state.Full size pool) := by
  unfold Full
  infer_instance

/-- `_get_pool`, without `fresh`. -/
def lookup (state : State) (config : DBConfig) : State :=
  match state.registry (dbKey config) with
  | some _ => state
  | none =>
      { state with
        config := Function.update state.config state.nextPool (some config)
        idle := Function.update state.idle state.nextPool []
        closed := Function.update state.closed state.nextPool false
        nextPool := state.nextPool + 1
        registry := Function.update state.registry (dbKey config) (some state.nextPool) }

/-- What comes after `close`. -/
def proceed (state : State) : Option DBConfig → State
  | some config => state.lookup config
  | none => state

end State

/-! ## Steps -/

inductive Label where
  /-- a borrow begins: the pool is looked up, and its `acquire` called -/
  | start (thread : ℕ) (source : Source)
  | get (thread : ℕ)
  | check (thread : ℕ) (alive : Bool)
  | connect (thread : ℕ) (answers : Bool)
  /-- the work is done: the pool to release to is looked up -/
  | finish (thread : ℕ)
  | put (thread : ℕ)
  /-- `_get_pool(config)` -/
  | lookup (config : DBConfig)
  /-- a context is built with a pool -/
  | build (pool : ℕ)
  /-- `existing.pool = pool` -/
  | adopt (context pool : ℕ)
  /-- a pool is taken out of the registry to be closed: by an invalidation, or, with a
  configuration, by `_get_pool(config, fresh=True)` -/
  | discard (thread : ℕ) (key : String) (next : Option DBConfig)
  /-- one round of the loop of `close` -/
  | drain (thread : ℕ)

def step (size : ℕ) (state : State) : Label → Option State
  | .start thread source =>
      match state.threads thread, state.poolOf source with
      | .resting, some pool => some (state.setPhase thread (.wanting source pool))
      | _, _ => none
  | .get thread =>
      match state.threads thread with
      | .wanting source pool =>
          match state.idle pool with
          | [] => some (state.setPhase thread (.opening source pool))
          | conn :: rest =>
              some ((state.pop pool rest).setPhase thread (.checking source pool conn))
      | _ => none
  | .check thread alive =>
      match state.threads thread with
      | .checking source pool conn =>
          if alive then some (state.setPhase thread (.holding source pool conn))
          else some ((state.closeConnection conn).setPhase thread (.opening source pool))
      | _ => none
  | .connect thread answers =>
      match state.threads thread with
      | .opening source pool =>
          if answers then
            some ((state.openNew pool).setPhase thread
              (.holding source pool state.nextConnection))
          else some (state.setPhase thread .resting)
      | _ => none
  | .finish thread =>
      match state.threads thread with
      | .holding source pool conn =>
          match state.poolOf source with
          | some target => some (state.setPhase thread (.returning pool target conn))
          | none => none
      | _ => none
  | .put thread =>
      match state.threads thread with
      | .returning _ target conn =>
          if state.Full size target then
            some ((state.closeConnection conn).setPhase thread .resting)
          else some ((state.push target conn).setPhase thread .resting)
      | _ => none
  | .lookup config => some (state.lookup config)
  | .build pool =>
      if pool < state.nextPool then
        some { state with
          contexts := Function.update state.contexts state.nextContext (some pool)
          nextContext := state.nextContext + 1 }
      else none
  | .adopt context pool =>
      if context < state.nextContext ∧ pool < state.nextPool then
        some { state with contexts := Function.update state.contexts context (some pool) }
      else none
  | .discard thread key next =>
      match state.threads thread, state.registry key with
      | .resting, some pool =>
          some (State.setPhase { state with registry := Function.update state.registry key none }
            thread (.closing pool next))
      | .resting, none => some (state.proceed next)
      | _, _ => none
  | .drain thread =>
      match state.threads thread with
      | .closing pool next =>
          match state.idle pool with
          | conn :: rest => some ((state.pop pool rest).closeConnection conn)
          | [] =>
              some ((State.proceed
                { state with closed := Function.update state.closed pool true } next).setPhase
                  thread .resting)
      | _ => none

def system (size : ℕ) : TransitionSystem State Label where
  initial state := state = blank
  step := step size

/-! ## The law and when it holds -/

/-- Whom connections belong to. -/
structure Owned (size : ℕ) (state : State) : Prop where
  exclusive : ∀ first second conn, (state.threads first).custody = some conn →
    (state.threads second).custody = some conn → first = second
  bounded : ∀ pool, 0 < size → (state.idle pool).length ≤ size
  returned : ∀ pool conn, conn ∈ state.idle pool → state.openedBy conn = some pool
  returning : ∀ thread pool target conn,
    state.threads thread = .returning pool target conn → state.openedBy conn = some target
  lent : ∀ thread source pool conn, state.threads thread = .holding source pool conn →
    state.credentials conn = state.config pool
  closed : ∀ pool, state.closed pool = true →
    (∀ thread, (state.threads thread).acquired ≠ some pool) →
      ∀ conn, state.openedBy conn = some pool → state.isOpen conn = false

/-- A context gets another pool only while nothing is borrowed through it, `close` ends only
while nothing is borrowed from its pool, and nothing is borrowed from a closed pool. -/
def Careful (state : State) : Label → Prop
  | .start _ source => ∀ pool, state.poolOf source = some pool → state.closed pool = false
  | .adopt context pool => state.contexts context = some pool ∨
      ∀ thread, (state.threads thread).source ≠ some (.context context)
  | .drain thread => ∀ pool next, state.threads thread = .closing pool next →
      state.idle pool = [] → ∀ other, (state.threads other).acquired ≠ some pool
  | _ => True

/-! ## What is kept -/

/-- Where the connections are. -/
def State.ledger (state : State) : Ledger ℕ ℕ where
  hands thread := (state.threads thread).custody
  queues := state.idle
  live := state.isOpen
  made := state.nextConnection

/-- A thread borrows from a pool that is open, through what still has it, and has a connection
of that pool. -/
structure Phase.Ok (state : State) (phase : Phase) : Prop where
  known : ∀ pool, phase.acquired = some pool →
    pool < state.nextPool ∧ state.closed pool = false
  own : ∀ pool conn, phase.acquired = some pool → phase.custody = some conn →
    state.openedBy conn = some pool
  target : ∀ pool target conn, phase = .returning pool target conn → target = pool
  source : ∀ source pool, phase.source = some source → phase.acquired = some pool →
    state.poolOf source = some pool

/-- Pools have their own connections, and no more than they may; closed ones have none. -/
structure Stocked (size : ℕ) (state : State) : Prop where
  bounded : ∀ pool, 0 < size → (state.idle pool).length ≤ size
  home : ∀ pool conn, conn ∈ state.idle pool → state.openedBy conn = some pool
  empty : ∀ pool, state.closed pool = true → state.idle pool = []
  fresh : ∀ pool, state.nextPool ≤ pool → state.idle pool = []
  opened : ∀ conn pool, state.openedBy conn = some pool →
    conn < state.nextConnection ∧ pool < state.nextPool ∧
      state.credentials conn = state.config pool
  context : ∀ context pool, state.contexts context = some pool →
    context < state.nextContext ∧ pool < state.nextPool

structure Kept (size : ℕ) (state : State) : Prop where
  sound : state.ledger.Sound
  stocked : Stocked size state
  phases : ∀ thread, (state.threads thread).Ok state

section Keeping

variable {size : ℕ} {state next : State} {thread : ℕ} {phase : Phase}

/-- A phase stays fit where nothing that it rests on is taken away. -/
theorem Phase.Ok.mono (ok : phase.Ok state)
    (known : ∀ pool, phase.acquired = some pool → pool < state.nextPool →
      state.closed pool = false → pool < next.nextPool ∧ next.closed pool = false)
    (own : ∀ conn pool, state.openedBy conn = some pool → next.openedBy conn = some pool)
    (source : ∀ source pool, phase.source = some source → state.poolOf source = some pool →
      next.poolOf source = some pool) : phase.Ok next where
  known pool isAcquired := known pool isAcquired (ok.known pool isAcquired).1
    (ok.known pool isAcquired).2
  own pool conn isAcquired hasConn := own conn pool (ok.own pool conn isAcquired hasConn)
  target := ok.target
  source wanted pool isSource isAcquired :=
    source wanted pool isSource (ok.source wanted pool isSource isAcquired)

theorem ok_of_acquired_eq_none {phase : Phase} (none : phase.acquired = none)
    (notReturning : ∀ pool target conn, phase ≠ .returning pool target conn) :
    phase.Ok state where
  known pool isAcquired := by
    rw [none] at isAcquired
    cases isAcquired
  own pool conn isAcquired := by
    rw [none] at isAcquired
    cases isAcquired
  target pool target conn isReturning := absurd isReturning (notReturning pool target conn)
  source wanted pool _ isAcquired := by
    rw [none] at isAcquired
    cases isAcquired

theorem ok_resting : Phase.Ok state .resting :=
  ok_of_acquired_eq_none rfl fun _ _ _ isReturning => by cases isReturning

theorem ok_closing (pool : ℕ) (next : Option DBConfig) : Phase.Ok state (.closing pool next) :=
  ok_of_acquired_eq_none rfl fun _ _ _ isReturning => by cases isReturning

variable (state) in
/-- A change of phase is a change of hands. -/
theorem ledger_of_update (isThreads : next.threads = Function.update state.threads thread phase) :
    next.ledger = ⟨Function.update state.ledger.hands thread phase.custody, next.idle,
      next.isOpen, next.nextConnection⟩ := by
  have hands : next.ledger.hands =
      Function.update state.ledger.hands thread phase.custody := by
    funext other
    unfold State.ledger
    rw [isThreads]
    dsimp only
    by_cases isThread : other = thread
    · rw [isThread, Function.update_self, Function.update_self]
    · rw [Function.update_of_ne isThread, Function.update_of_ne isThread]
  rw [← hands]
  rfl

/-- A thread that keeps its connection, or has none. -/
theorem hands_of_custody (same : phase.custody = (state.threads thread).custody) :
    Function.update state.ledger.hands thread phase.custody = state.ledger.hands := by
  rw [same]
  exact Function.update_eq_self thread state.ledger.hands

theorem ok_update (phases : ∀ other, (state.threads other).Ok next)
    (ok : phase.Ok next) (other : ℕ) :
    (Function.update state.threads thread phase other).Ok next := by
  by_cases isThread : other = thread
  · rw [isThread, Function.update_self]
    exact ok
  · rw [Function.update_of_ne isThread]
    exact phases other

variable (state) in
theorem Kept.withPhase (isThreads : next.threads = Function.update state.threads thread phase)
    (sound : next.ledger.Sound) (stocked : Stocked size next)
    (others : ∀ other, (state.threads other).Ok next) (ok : phase.Ok next) : Kept size next where
  sound := sound
  stocked := stocked
  phases other := by
    rw [isThreads]
    exact ok_update others ok other

theorem Phase.Ok.setPhase {other : Phase} (ok : other.Ok state) :
    other.Ok (state.setPhase thread phase) :=
  ok.mono (fun _ _ isKnown isOpen => ⟨isKnown, isOpen⟩) (fun _ _ isOpened => isOpened)
    fun _ _ _ isPool => isPool

/-- A thread goes on with the same connection, or without one. -/
theorem Kept.setPhase (kept : Kept size state)
    (same : phase.custody = (state.threads thread).custody) (ok : phase.Ok state) :
    Kept size (state.setPhase thread phase) := by
  have isThreads : (state.setPhase thread phase).threads =
      Function.update state.threads thread phase := rfl
  refine Kept.withPhase state isThreads ?_ ?_ (fun other => (kept.phases other).setPhase) ok.setPhase
  · rw [ledger_of_update state isThreads, hands_of_custody same]
    exact kept.sound
  · exact ⟨kept.stocked.bounded, kept.stocked.home, kept.stocked.empty, kept.stocked.fresh,
      kept.stocked.opened, kept.stocked.context⟩

theorem update_eq_of_nil {idle : ℕ → List ℕ} {pool : ℕ} (isNil : idle pool = []) :
    Function.update idle pool [] = idle := by
  rw [← isNil]
  exact Function.update_eq_self pool idle

/-- A queue gets shorter at its head. -/
theorem Stocked.pop (stocked : Stocked size state) {pool conn : ℕ} {rest : List ℕ}
    (isIdle : state.idle pool = conn :: rest) : Stocked size (state.pop pool rest) := by
  have fewer : ∀ other, Function.update state.idle pool rest other <:+ state.idle other := by
    intro other
    by_cases same : other = pool
    · subst same
      rw [Function.update_self, isIdle]
      exact List.suffix_cons conn rest
    · have unchanged := Function.update_of_ne same rest state.idle
      exact unchanged ▸ List.suffix_rfl
  have stillEmpty : ∀ other, state.idle other = [] →
      Function.update state.idle pool rest other = [] := by
    intro other isEmpty
    have shorter := fewer other
    rw [isEmpty] at shorter
    exact List.suffix_nil.mp shorter
  exact {
    bounded := fun other positive =>
      Nat.le_trans (fewer other).length_le (stocked.bounded other positive)
    home := fun other thing isIn => stocked.home other thing ((fewer other).subset isIn)
    empty := fun other isClosed => stillEmpty other (stocked.empty other isClosed)
    fresh := fun other isFresh => stillEmpty other (stocked.fresh other isFresh)
    opened := stocked.opened
    context := stocked.context }

end Keeping

/-! ## Steps -/

section Steps

variable {size : ℕ} {state next : State}

theorem kept_blank : Kept size blank where
  sound := {
    oneHand := fun _ _ _ isHeld => by cases isHeld
    onceQueued := fun _ => List.nodup_nil
    oneQueue := fun _ _ _ isIn => by cases isIn
    handOrQueue := fun _ _ _ isHeld => by cases isHeld
    isMade := fun _ isPlaced => by
      rcases isPlaced with ⟨_, isHeld⟩ | ⟨_, isIn⟩
      · cases isHeld
      · cases isIn
    live_iff := fun _ => by
      constructor
      · intro isLive
        cases isLive
      · rintro (⟨_, isHeld⟩ | ⟨_, isIn⟩)
        · cases isHeld
        · cases isIn }
  stocked := {
    bounded := fun _ _ => Nat.zero_le _
    home := fun _ _ isIn => by cases isIn
    empty := fun _ _ => rfl
    fresh := fun _ _ => rfl
    opened := fun _ _ isOpened => by cases isOpened
    context := fun _ _ isContext => by cases isContext }
  phases _ := ok_resting

theorem poolOf_known (stocked : Stocked size state) {source : Source} {pool : ℕ}
    (isPool : state.poolOf source = some pool) : pool < state.nextPool := by
  cases source with
  | context context => exact (stocked.context context pool isPool).2
  | pool other =>
      obtain ⟨isKnown, same⟩ := Option.ite_none_right_eq_some.mp isPool
      cases same
      exact isKnown

/-- The pool that is looked up is new, or was there before. -/
theorem Kept.lookup (kept : Kept size state) (config : DBConfig) :
    Kept size (state.lookup config) := by
  unfold State.lookup
  split
  · exact kept
  · have stocked := kept.stocked
    have older : ∀ pool, pool < state.nextPool → pool ≠ state.nextPool :=
      fun pool isKnown => Nat.ne_of_lt isKnown
    have sameIdle : Function.update state.idle state.nextPool [] = state.idle :=
      update_eq_of_nil (stocked.fresh _ (Nat.le_refl _))
    refine ⟨?_, ?_, fun thread => (kept.phases thread).mono ?_ ?_ ?_⟩
    · have sound := kept.sound
      unfold State.ledger at sound ⊢
      rw [sameIdle]
      exact sound
    · refine ⟨?_, ?_, ?_, ?_, ?_, ?_⟩
      all_goals dsimp only
      · rw [sameIdle]
        exact stocked.bounded
      · rw [sameIdle]
        exact stocked.home
      · rw [sameIdle]
        intro pool isClosed
        by_cases isNew : pool = state.nextPool
        · rw [isNew]
          exact stocked.fresh _ (Nat.le_refl _)
        · rw [Function.update_of_ne isNew] at isClosed
          exact stocked.empty pool isClosed
      · rw [sameIdle]
        intro pool isFresh
        exact stocked.fresh pool (Nat.le_of_succ_le isFresh)
      · intro conn pool isOpened
        obtain ⟨isMade, isKnown, same⟩ := stocked.opened conn pool isOpened
        refine ⟨isMade, Nat.lt_succ_of_lt isKnown, ?_⟩
        rw [same, Function.update_of_ne (older pool isKnown)]
      · intro context pool isContext
        obtain ⟨isBuilt, isKnown⟩ := stocked.context context pool isContext
        exact ⟨isBuilt, Nat.lt_succ_of_lt isKnown⟩
    · intro pool _ isKnown isOpen
      refine ⟨Nat.lt_succ_of_lt isKnown, ?_⟩
      exact (Function.update_of_ne (older pool isKnown) _ _).trans isOpen
    · exact fun _ _ isOpened => isOpened
    · intro source pool _ isPool
      cases source with
      | context context => exact isPool
      | pool other =>
          obtain ⟨isKnown, same⟩ := Option.ite_none_right_eq_some.mp isPool
          exact (if_pos (Nat.lt_succ_of_lt isKnown)).trans same

theorem Kept.proceed (kept : Kept size state) (after : Option DBConfig) :
    Kept size (state.proceed after) := by
  cases after with
  | none => exact kept
  | some config => exact kept.lookup config

theorem threads_proceed (after : Option DBConfig) :
    (state.proceed after).threads = state.threads := by
  cases after with
  | none => rfl
  | some config =>
      unfold State.proceed State.lookup
      dsimp only
      split
      · rfl
      · rfl

variable {thread : ℕ}

theorem kept_start {source : Source} (kept : Kept size state)
    (careful : Careful state (.start thread source))
    (stepped : step size state (.start thread source) = some next) : Kept size next := by
  simp only [step] at stepped
  split at stepped
  · next pool isResting isPool =>
      cases stepped
      refine kept.setPhase (by rw [isResting]; rfl) ?_
      exact {
        known := fun other isAcquired => by
          cases isAcquired
          exact ⟨poolOf_known kept.stocked isPool, careful pool isPool⟩
        own := fun _ _ _ hasConn => by cases hasConn
        target := fun _ _ _ isReturning => by cases isReturning
        source := fun _ _ isSource isAcquired => by
          cases isSource
          cases isAcquired
          exact isPool }
  · cases stepped

/-- The pool to borrow from stays that of the phase before. -/
theorem Phase.Ok.continue {before after : Phase} (ok : before.Ok state)
    (acquired : after.acquired = before.acquired) (source : after.source = before.source)
    (custody : after.custody = before.custody ∨ after.custody = none)
    (notReturning : ∀ pool target conn, after ≠ .returning pool target conn) :
    after.Ok state where
  known pool isAcquired := ok.known pool (acquired ▸ isAcquired)
  own pool conn isAcquired hasConn := by
    rcases custody with same | none
    · exact ok.own pool conn (acquired ▸ isAcquired) (same ▸ hasConn)
    · rw [none] at hasConn
      cases hasConn
  target pool target conn isReturning := absurd isReturning (notReturning pool target conn)
  source wanted pool isSource isAcquired :=
    ok.source wanted pool (source ▸ isSource) (acquired ▸ isAcquired)

/-- An idle connection is popped. -/
theorem kept_get_pop {source : Source} {pool conn : ℕ} {rest : List ℕ} (kept : Kept size state)
    (isWanting : state.threads thread = .wanting source pool)
    (isIdle : state.idle pool = conn :: rest) :
    Kept size ((state.pop pool rest).setPhase thread (.checking source pool conn)) := by
  have ok := kept.phases thread
  rw [isWanting] at ok
  have isFree : state.ledger.hands thread = none := by
    unfold State.ledger
    dsimp only
    rw [isWanting]
    rfl
  refine Kept.withPhase state rfl ?_ ?_ ?_ ?_
  · rw [ledger_of_update state rfl]
    exact kept.sound.take isIdle isFree
  · have popped := kept.stocked.pop isIdle
    exact ⟨popped.bounded, popped.home, popped.empty, popped.fresh, popped.opened,
      popped.context⟩
  · intro other
    exact (kept.phases other).mono (fun _ _ isKnown isOpen => ⟨isKnown, isOpen⟩)
      (fun _ _ isOpened => isOpened) fun _ _ _ isPool => isPool
  · exact {
      known := fun other isAcquired => by
        cases isAcquired
        exact ok.known pool rfl
      own := fun other thing isAcquired hasConn => by
        cases isAcquired
        cases hasConn
        exact kept.stocked.home pool conn (isIdle ▸ List.mem_cons_self)
      target := fun _ _ _ isReturning => by cases isReturning
      source := fun wanted other isSource isAcquired => by
        cases isSource
        cases isAcquired
        exact ok.source source pool rfl rfl }

theorem kept_get (kept : Kept size state)
    (stepped : step size state (.get thread) = some next) : Kept size next := by
  simp only [step] at stepped
  split at stepped
  · next source pool isWanting =>
      have ok := kept.phases thread
      rw [isWanting] at ok
      split at stepped
      · next isEmpty =>
          cases stepped
          refine kept.setPhase (by rw [isWanting]; rfl) ?_
          exact ok.continue rfl rfl (Or.inl rfl) fun _ _ _ isReturning => by cases isReturning
      · next conn rest isIdle =>
          cases stepped
          exact kept_get_pop kept isWanting isIdle
  · cases stepped

/-- A connection that its thread has is closed, and the thread goes on without it. -/
theorem kept_closeConnection {phase : Phase} {conn : ℕ} (kept : Kept size state)
    (hasConn : (state.threads thread).custody = some conn) (none : phase.custody = none)
    (ok : phase.Ok state) : Kept size ((state.closeConnection conn).setPhase thread phase) := by
  refine Kept.withPhase state rfl ?_ ?_ ?_ ?_
  · rw [ledger_of_update state rfl, none]
    exact kept.sound.drop hasConn
  · have stocked := kept.stocked
    exact ⟨stocked.bounded, stocked.home, stocked.empty, stocked.fresh, stocked.opened,
      stocked.context⟩
  · intro other
    exact (kept.phases other).mono (fun _ _ isKnown isOpen => ⟨isKnown, isOpen⟩)
      (fun _ _ isOpened => isOpened) fun _ _ _ isPool => isPool
  · exact ok.mono (fun _ _ isKnown isOpen => ⟨isKnown, isOpen⟩)
      (fun _ _ isOpened => isOpened) fun _ _ _ isPool => isPool

theorem kept_check {alive : Bool} (kept : Kept size state)
    (stepped : step size state (.check thread alive) = some next) : Kept size next := by
  simp only [step] at stepped
  split at stepped
  · next source pool conn isChecking =>
      have ok := kept.phases thread
      rw [isChecking] at ok
      split at stepped
      · cases stepped
        refine kept.setPhase (by rw [isChecking]; rfl) ?_
        exact ok.continue rfl rfl (Or.inl rfl) fun _ _ _ isReturning => by cases isReturning
      · cases stepped
        refine kept_closeConnection kept (by rw [isChecking]; rfl) rfl ?_
        exact ok.continue rfl rfl (Or.inr rfl) fun _ _ _ isReturning => by cases isReturning
  · cases stepped

/-- A new connection belongs to the pool that opens it. -/
theorem kept_openNew {source : Source} {pool : ℕ} (kept : Kept size state)
    (isOpening : state.threads thread = .opening source pool) :
    Kept size ((state.openNew pool).setPhase thread
      (.holding source pool state.nextConnection)) := by
  have ok := kept.phases thread
  rw [isOpening] at ok
  have isFree : state.ledger.hands thread = none := by
    unfold State.ledger
    dsimp only
    rw [isOpening]
    rfl
  have stocked := kept.stocked
  have stays : ∀ conn other, state.openedBy conn = some other →
      Function.update state.openedBy state.nextConnection (some pool) conn = some other := by
    intro conn other isOpened
    have isOld := Nat.ne_of_lt (stocked.opened conn other isOpened).1
    exact (Function.update_of_ne isOld _ _).trans isOpened
  refine Kept.withPhase state rfl ?_ ?_ ?_ ?_
  · rw [ledger_of_update state rfl]
    exact kept.sound.make isFree
  · refine ⟨stocked.bounded, ?_, stocked.empty, stocked.fresh, ?_, stocked.context⟩
    · intro other conn isIn
      exact stays conn other (stocked.home other conn isIn)
    · intro conn other isOpened
      change Function.update state.openedBy state.nextConnection (some pool) conn =
        some other at isOpened
      change conn < state.nextConnection + 1 ∧ other < state.nextPool ∧
        Function.update state.credentials state.nextConnection (state.config pool) conn =
          state.config other
      by_cases isNew : conn = state.nextConnection
      · subst isNew
        rw [Function.update_self] at isOpened ⊢
        cases isOpened
        exact ⟨Nat.lt_succ_self _, (ok.known pool rfl).1, rfl⟩
      · rw [Function.update_of_ne isNew] at isOpened ⊢
        obtain ⟨isMade, isKnown, same⟩ := stocked.opened conn other isOpened
        exact ⟨Nat.lt_succ_of_lt isMade, isKnown, same⟩
  · intro other
    exact (kept.phases other).mono (fun _ _ isKnown isOpen => ⟨isKnown, isOpen⟩) stays
      fun _ _ _ isPool => isPool
  · exact {
      known := fun other isAcquired => by
        cases isAcquired
        exact ok.known pool rfl
      own := fun other conn isAcquired hasConn => by
        cases isAcquired
        cases hasConn
        exact Function.update_self state.nextConnection (some pool) state.openedBy
      target := fun _ _ _ isReturning => by cases isReturning
      source := fun wanted other isSource isAcquired => by
        cases isSource
        cases isAcquired
        exact ok.source source pool rfl rfl }

theorem kept_connect {answers : Bool} (kept : Kept size state)
    (stepped : step size state (.connect thread answers) = some next) : Kept size next := by
  simp only [step] at stepped
  split at stepped
  · next source pool isOpening =>
      split at stepped
      · cases stepped
        exact kept_openNew kept isOpening
      · cases stepped
        exact kept.setPhase (by rw [isOpening]; rfl) ok_resting
  · cases stepped

/-- The pool to release to is that of the borrow. -/
theorem kept_finish (kept : Kept size state)
    (stepped : step size state (.finish thread) = some next) : Kept size next := by
  simp only [step] at stepped
  split at stepped
  · next source pool conn isHolding =>
      have ok := kept.phases thread
      rw [isHolding] at ok
      have isPool := ok.source source pool rfl rfl
      rw [isPool] at stepped
      cases stepped
      refine kept.setPhase (by rw [isHolding]; rfl) ?_
      exact {
        known := fun other isAcquired => by
          cases isAcquired
          exact ok.known pool rfl
        own := fun other thing isAcquired hasConn => by
          cases isAcquired
          cases hasConn
          exact ok.own pool conn rfl rfl
        target := fun _ _ _ isReturning => by
          cases isReturning
          rfl
        source := fun _ _ isSource => by cases isSource }
  · cases stepped

theorem kept_put_push {pool conn : ℕ} (kept : Kept size state)
    (isReturning : state.threads thread = .returning pool pool conn)
    (notFull : ¬state.Full size pool) :
    Kept size ((state.push pool conn).setPhase thread .resting) := by
  have ok := kept.phases thread
  rw [isReturning] at ok
  have stocked := kept.stocked
  have hasConn : state.ledger.hands thread = some conn := by
    unfold State.ledger
    dsimp only
    rw [isReturning]
    rfl
  obtain ⟨isKnown, isOpen⟩ := ok.known pool rfl
  refine Kept.withPhase state rfl ?_ ?_ ?_ ok_resting
  · rw [ledger_of_update state rfl]
    exact kept.sound.put hasConn pool
  · refine ⟨?_, ?_, ?_, ?_, stocked.opened, stocked.context⟩
    · intro other positive
      change (Function.update state.idle pool (conn :: state.idle pool) other).length ≤ size
      by_cases same : other = pool
      · rw [same, Function.update_self, List.length_cons]
        by_contra tooMany
        exact notFull ⟨positive, by omega⟩
      · rw [Function.update_of_ne same]
        exact stocked.bounded other positive
    · intro other thing isIn
      change thing ∈ Function.update state.idle pool (conn :: state.idle pool) other at isIn
      change state.openedBy thing = some other
      by_cases same : other = pool
      · rw [same, Function.update_self] at isIn
        rw [same]
        rcases List.mem_cons.mp isIn with rfl | older
        · exact ok.own pool thing rfl rfl
        · exact stocked.home pool thing older
      · rw [Function.update_of_ne same] at isIn
        exact stocked.home other thing isIn
    · intro other isClosed
      have different : other ≠ pool := by
        rintro rfl
        exact Bool.false_ne_true (isOpen.symm.trans isClosed)
      exact (Function.update_of_ne different _ _).trans (stocked.empty other isClosed)
    · intro other isFresh
      have different : other ≠ pool := by
        rintro rfl
        exact absurd isKnown (Nat.not_lt_of_le isFresh)
      exact (Function.update_of_ne different _ _).trans (stocked.fresh other isFresh)
  · intro other
    exact (kept.phases other).mono (fun _ _ isKnown isOpen => ⟨isKnown, isOpen⟩)
      (fun _ _ isOpened => isOpened) fun _ _ _ isPool => isPool

theorem kept_put (kept : Kept size state)
    (stepped : step size state (.put thread) = some next) : Kept size next := by
  simp only [step] at stepped
  split at stepped
  · next pool target conn isReturning =>
      have ok := kept.phases thread
      rw [isReturning] at ok
      cases ok.target pool target conn rfl
      split at stepped
      · cases stepped
        exact kept_closeConnection kept (by rw [isReturning]; rfl) rfl ok_resting
      · next notFull =>
          cases stepped
          exact kept_put_push kept isReturning notFull
  · cases stepped

theorem kept_build {pool : ℕ} (kept : Kept size state)
    (stepped : step size state (.build pool) = some next) : Kept size next := by
  obtain ⟨isKnown, built⟩ := Option.ite_none_right_eq_some.mp stepped
  cases built
  have stocked := kept.stocked
  refine ⟨kept.sound, ?_, fun thread => (kept.phases thread).mono
    (fun _ _ isKnown isOpen => ⟨isKnown, isOpen⟩) (fun _ _ isOpened => isOpened) ?_⟩
  · refine ⟨stocked.bounded, stocked.home, stocked.empty, stocked.fresh, stocked.opened, ?_⟩
    intro context other isContext
    change Function.update state.contexts state.nextContext (some pool) context =
      some other at isContext
    change context < state.nextContext + 1 ∧ other < state.nextPool
    by_cases isNew : context = state.nextContext
    · rw [isNew, Function.update_self] at isContext
      cases isContext
      exact ⟨isNew ▸ Nat.lt_succ_self _, isKnown⟩
    · rw [Function.update_of_ne isNew] at isContext
      obtain ⟨isBuilt, isPool⟩ := stocked.context context other isContext
      exact ⟨Nat.lt_succ_of_lt isBuilt, isPool⟩
  · intro source other _ isPool
    cases source with
    | context context =>
        have isOld := Nat.ne_of_lt (stocked.context context other isPool).1
        exact (Function.update_of_ne isOld _ _).trans isPool
    | pool named => exact isPool

/-- Nothing that is borrowed through the context loses its pool. -/
theorem kept_adopt {context pool : ℕ} (kept : Kept size state)
    (careful : Careful state (.adopt context pool))
    (stepped : step size state (.adopt context pool) = some next) : Kept size next := by
  obtain ⟨⟨isBuilt, isKnown⟩, adopted⟩ := Option.ite_none_right_eq_some.mp stepped
  cases adopted
  have stocked := kept.stocked
  refine ⟨kept.sound, ?_, fun thread => (kept.phases thread).mono
    (fun _ _ isKnown isOpen => ⟨isKnown, isOpen⟩) (fun _ _ isOpened => isOpened) ?_⟩
  · refine ⟨stocked.bounded, stocked.home, stocked.empty, stocked.fresh, stocked.opened, ?_⟩
    intro other held isContext
    change Function.update state.contexts context (some pool) other = some held at isContext
    by_cases same : other = context
    · rw [same, Function.update_self] at isContext
      cases isContext
      exact ⟨same ▸ isBuilt, isKnown⟩
    · rw [Function.update_of_ne same] at isContext
      exact stocked.context other held isContext
  · intro source held isSource isPool
    cases source with
    | context other =>
        change Function.update state.contexts context (some pool) other = some held
        by_cases same : other = context
        · subst same
          rcases careful with unchanged | unused
          · rw [Function.update_self]
            exact unchanged.symm.trans isPool
          · exact absurd isSource (unused thread)
        · rw [Function.update_of_ne same]
          exact isPool
    | pool named => exact isPool

theorem kept_discard {key : String} {after : Option DBConfig} (kept : Kept size state)
    (stepped : step size state (.discard thread key after) = some next) : Kept size next := by
  simp only [step] at stepped
  split at stepped
  · next pool isResting isRegistered =>
      cases stepped
      have unregistered : Kept size
          { state with registry := Function.update state.registry key none } := by
        have stocked := kept.stocked
        refine ⟨kept.sound, ?_, fun other => (kept.phases other).mono
          (fun _ _ isKnown isOpen => ⟨isKnown, isOpen⟩) (fun _ _ isOpened => isOpened)
          fun _ _ _ isPool => isPool⟩
        exact ⟨stocked.bounded, stocked.home, stocked.empty, stocked.fresh, stocked.opened,
          stocked.context⟩
      exact unregistered.setPhase (by dsimp only; rw [isResting]; rfl) (ok_closing _ _)
  · cases stepped
    exact kept.proceed after
  · cases stepped

/-- `close` takes an idle connection out and closes it. -/
theorem kept_drain_pop {pool conn : ℕ} {rest : List ℕ} (kept : Kept size state)
    (isIdle : state.idle pool = conn :: rest) :
    Kept size ((state.pop pool rest).closeConnection conn) := by
  have popped := kept.stocked.pop isIdle
  refine ⟨kept.sound.scrap isIdle, ?_, fun other => (kept.phases other).mono
    (fun _ _ isKnown isOpen => ⟨isKnown, isOpen⟩) (fun _ _ isOpened => isOpened)
    fun _ _ _ isPool => isPool⟩
  exact ⟨popped.bounded, popped.home, popped.empty, popped.fresh, popped.opened, popped.context⟩

/-- `close` ends: the pool is empty, and nobody is about to fill it. -/
theorem kept_closed {pool : ℕ} (kept : Kept size state) (isEmpty : state.idle pool = [])
    (unused : ∀ other, (state.threads other).acquired ≠ some pool) :
    Kept size { state with closed := Function.update state.closed pool true } := by
  have stocked := kept.stocked
  refine ⟨kept.sound, ?_, fun other => (kept.phases other).mono ?_
    (fun _ _ isOpened => isOpened) fun _ _ _ isPool => isPool⟩
  · refine ⟨stocked.bounded, stocked.home, ?_, stocked.fresh, stocked.opened, stocked.context⟩
    intro named isClosed
    change Function.update state.closed pool true named = true at isClosed
    by_cases same : named = pool
    · rw [same]
      exact isEmpty
    · rw [Function.update_of_ne same] at isClosed
      exact stocked.empty named isClosed
  · intro named isAcquired isKnown isOpen
    have different : named ≠ pool := by
      rintro rfl
      exact unused other isAcquired
    exact ⟨isKnown, (Function.update_of_ne different _ _).trans isOpen⟩

theorem kept_drain (kept : Kept size state) (careful : Careful state (.drain thread))
    (stepped : step size state (.drain thread) = some next) : Kept size next := by
  simp only [step] at stepped
  split at stepped
  · next pool after isClosing =>
      split at stepped
      · next conn rest isIdle =>
          cases stepped
          exact kept_drain_pop kept isIdle
      · next isEmpty =>
          cases stepped
          have closed := (kept_closed kept isEmpty
            (careful pool after isClosing isEmpty)).proceed after
          refine closed.setPhase ?_ ok_resting
          rw [threads_proceed]
          dsimp only
          rw [isClosing]
          rfl
  · cases stepped

/-- What a careful step keeps. -/
theorem kept_step {label : Label} (kept : Kept size state) (careful : Careful state label)
    (stepped : step size state label = some next) : Kept size next := by
  cases label with
  | start thread source => exact kept_start kept careful stepped
  | get thread => exact kept_get kept stepped
  | check thread alive => exact kept_check kept stepped
  | connect thread answers => exact kept_connect kept stepped
  | finish thread => exact kept_finish kept stepped
  | put thread => exact kept_put kept stepped
  | lookup config =>
      cases stepped
      exact kept.lookup config
  | build pool => exact kept_build kept stepped
  | adopt context pool => exact kept_adopt kept careful stepped
  | discard thread key after => exact kept_discard kept stepped
  | drain thread => exact kept_drain kept careful stepped

end Steps

/-! ## Runs -/

section Runs

variable {size : ℕ} {state : State}

theorem Kept.owned (kept : Kept size state) : Owned size state where
  exclusive := kept.sound.oneHand
  bounded := kept.stocked.bounded
  returned := kept.stocked.home
  returning thread pool target conn isReturning := by
    have ok := kept.phases thread
    rw [isReturning] at ok
    rw [ok.target pool target conn rfl]
    exact ok.own pool conn rfl rfl
  lent thread source pool conn isHolding := by
    have ok := kept.phases thread
    rw [isHolding] at ok
    exact (kept.stocked.opened conn pool (ok.own pool conn rfl rfl)).2.2
  closed pool isClosed released conn isOpened := by
    by_contra isOpen
    have isPlaced := (kept.sound.live_iff conn).mp (eq_true_of_ne_false isOpen)
    rcases isPlaced with ⟨thread, hasConn⟩ | ⟨other, isIn⟩
    · have ok := kept.phases thread
      have someAcquired : ∃ acquired, (state.threads thread).acquired = some acquired := by
        change (state.threads thread).custody = some conn at hasConn
        cases isPhase : state.threads thread with
        | checking source held other => exact ⟨held, rfl⟩
        | holding source held other => exact ⟨held, rfl⟩
        | returning held target other => exact ⟨held, rfl⟩
        | resting => rw [isPhase] at hasConn; cases hasConn
        | wanting source held => rw [isPhase] at hasConn; cases hasConn
        | opening source held => rw [isPhase] at hasConn; cases hasConn
        | closing held after => rw [isPhase] at hasConn; cases hasConn
      obtain ⟨acquired, isAcquired⟩ := someAcquired
      have isOwn := ok.own acquired conn isAcquired hasConn
      rw [isOpened] at isOwn
      cases isOwn
      exact released thread isAcquired
    · have isHome := kept.stocked.home other conn isIn
      rw [isOpened] at isHome
      cases isHome
      have isEmpty := kept.stocked.empty pool isClosed
      change conn ∈ state.idle pool at isIn
      rw [isEmpty] at isIn
      cases isIn

/-- In every run of careful steps connections belong to one borrower, go back to the pool that
opened them, and are gone with it. -/
theorem owned_of_careful (size : ℕ) (state : State)
    (reachable : (system size).ReachableUnder Careful state) : Owned size state := by
  have kept : Kept size state := by
    refine reachable.invariant (Kept size) ?_ ?_
    · rintro _ rfl
      exact kept_blank
    · intro before label after holds careful stepped
      exact kept_step holds careful stepped
  exact kept.owned

end Runs

/-! ### Three runs -/

def shop (password : String) : DBConfig where
  host := "db"
  user := "app"
  password := password
  database := "shop"
  port := none
  dbSchema := none
  engine := .mysql
  ai := false

/-- A pool, a context, and a thread that has borrowed through it. -/
def borrowing : List Label :=
  [.lookup (shop "old"), .build 0, .start 0 (.context 0), .get 0, .connect 0 true]

/-- The connection is given back. -/
def returning : List Label := [.finish 0, .put 0]

/-- Another thread closes the pool, and has one made for `after`. -/
def closing (after : Option DBConfig) : List Label :=
  [.discard 1 (dbKey (shop "old")) after, .drain 1]

def ranFrom (labels : List Label) : State :=
  ((system poolSize).exec blank labels).getD blank

/-- Invalidated while a query runs. -/
def leaked : State := ranFrom (borrowing ++ closing none ++ returning)

/-- Rebuilt with another password while a query runs, and adopted by a second query. -/
def mixed : State :=
  ranFrom (borrowing ++ closing (some (shop "new")) ++ [Label.adopt 0 1] ++ returning)

theorem reachable_ranFrom {labels : List Label}
    (runs : ((system poolSize).exec blank labels).isSome = true) :
    (system poolSize).Reachable (ranFrom labels) :=
  TransitionSystem.reachable_of_exec labels rfl (TransitionSystem.exec_eq_getD runs)

/-- Closed when everything has been given back. -/
def settled : State :=
  ranFrom (borrowing ++ returning ++ closing none ++ [Label.drain 1])

theorem owned_settled : Owned poolSize settled := by
  have free : ∀ label ∈ [Label.get 0, .connect 0 true, .finish 0, .put 0,
      .discard 1 (dbKey (shop "old")) none], ∀ state, Careful state label := by
    intro label isIn state
    simp only [List.mem_cons, List.not_mem_nil, or_false] at isIn
    rcases isIn with rfl | rfl | rfl | rfl | rfl <;> exact trivial
  have atFirst : ∀ label ∈ [Label.lookup (shop "old"), .build 0], ∀ state,
      Careful state label := by
    intro label isIn state
    simp only [List.mem_cons, List.not_mem_nil, or_false] at isIn
    rcases isIn with rfl | rfl <;> exact trivial
  have built : (system poolSize).Reaches Careful blank
      (ranFrom [.lookup (shop "old"), .build 0]) :=
    TransitionSystem.reaches_of_exec_allowed _ atFirst rfl
  have started : (system poolSize).Reaches Careful blank
      (ranFrom [.lookup (shop "old"), .build 0, .start 0 (.context 0)]) := by
    refine built.tail (.start 0 (.context 0)) ?_ rfl
    intro pool isPool
    cases isPool
    rfl
  have emptied : (system poolSize).Reaches Careful blank
      (ranFrom (borrowing ++ returning ++ closing none)) := by
    refine (started.trans
      (TransitionSystem.reaches_of_exec_allowed _ free rfl)).tail (.drain 1) ?_ rfl
    intro pool after isClosing isEmpty
    cases isClosing
    cases isEmpty
  have reached : (system poolSize).ReachableUnder Careful settled := by
    refine ⟨blank, rfl, emptied.tail (.drain 1) ?_ rfl⟩
    intro pool after isClosing isEmpty other
    cases isClosing
    rcases other with _ | _ | other
    · decide
    · decide
    · have isResting : (ranFrom (borrowing ++ returning ++ closing none)).threads (other + 2) =
          .resting := rfl
      rw [isResting]
      exact fun isAcquired => by cases isAcquired
  exact owned_of_careful poolSize settled reached

/-- A connection stays open in a closed pool, and one with the old password lies in the new
pool. -/
theorem not_owned :
    ((system poolSize).Reachable leaked ∧ ¬Owned poolSize leaked) ∧
      (system poolSize).Reachable mixed ∧ ¬Owned poolSize mixed := by
  refine ⟨⟨reachable_ranFrom (by decide), ?_⟩, reachable_ranFrom (by decide), ?_⟩
  · intro owned
    have released : ∀ thread, (leaked.threads thread).acquired ≠ some 0 := by
      intro thread
      rcases thread with _ | _ | thread
      · decide
      · decide
      · have isResting : leaked.threads (thread + 2) = .resting := rfl
        rw [isResting]
        exact fun isAcquired => by cases isAcquired
    have isGone := owned.closed 0 (by decide) released 0 (by decide)
    exact absurd isGone (by decide)
  · intro owned
    have isHome := owned.returned 1 0 (by decide)
    exact absurd isHome (by decide)

end DbBuddy.Context.Ownership
