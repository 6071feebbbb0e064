import DbBuddy.Library.TransitionSystem
import DbBuddy.Library.OrderedDict

/-!
# The per-process revocation cache

`_account_state` answers from a small LRU cache that concurrent readers refill.
Three maps stand behind one lock: the cached rows, a generation counter for each
user that an invalidation bumps, and the reads that lead a flight.  A reader
takes the counter before its database read and publishes only if the counter is
the same afterwards.

Each lock section is one step, and so are the clock reading before the first of
them and the database read.  `readAt` is bookkeeping of the model: how many
changes of the row had been committed when the value was read.
-/

namespace DbBuddy.Auth.RevocationCache

open DbBuddy.Library

universe u

/-- The two columns of `users` that revocation looks at. -/
structure AccountState where
  tokenVersion : Int
  isActive : Bool
  deriving DecidableEq, Repr

/-- A cached `(expires_at, token_version, is_active)`. -/
structure CacheEntry where
  expiresAt : Int
  account : AccountState
  readAt : ℕ
  deriving DecidableEq, Repr

/-- `REVOCATION_CACHE_TTL`, `REVOCATION_CACHE_MAX` and `_FLIGHT_WAIT_SECONDS`;
clock readings and durations are in nanoseconds. -/
structure Config where
  ttl : Int
  maxEntries : ℕ
  flightWait : Int

/-! ## The maps behind `_rev_lock` -/

/-- `_rev_cache`, `_rev_gen` and `_rev_flights`; a flight is named by the reader
that leads it. -/
structure Store (Reader : Type u) where
  cache : OrderedDict String CacheEntry
  gens : String → Option ℕ
  flights : String → Option Reader

namespace Store

variable {Reader : Type u}

def empty : Store Reader where
  cache := ∅
  gens := fun _ => none
  flights := fun _ => none

/-- `_rev_gen.get(user_id, 0)` -/
def generation (store : Store Reader) (user : String) : ℕ :=
  (store.gens user).getD 0

/-- The cached row, when it has not expired by `now`. -/
def hit (store : Store Reader) (user : String) (now : Int) :
    Option CacheEntry :=
  (store.cache.lookup user).filter fun entry => decide (now < entry.expiresAt)

/-- `move_to_end` -/
def touch (store : Store Reader) (user : String) (entry : CacheEntry) :
    Store Reader :=
  { store with cache := store.cache.insert user entry }

/-- The cache `_evict_locked` leaves once it is over the limit: no expired
entry, and of the rest the most recent ones. -/
def survivors (config : Config) (store : Store Reader) (now : Int) :
    OrderedDict String CacheEntry :=
  (store.cache.keepIf fun entry => decide (now < entry.expiresAt)).trim
    config.maxEntries

/-- `_evict_locked` -/
def evict (config : Config) (store : Store Reader) (now : Int) :
    Store Reader :=
  if store.cache.size ≤ config.maxEntries then store
  else
    let kept := store.survivors config now
    { store with
      cache := kept
      gens := fun user =>
        if (kept.lookup user).isSome || (store.flights user).isSome then
          store.gens user
        else none }

/-- The publishing lock section at the end of `_account_state`. -/
def publish (config : Config) (store : Store Reader) (user : String)
    (generation : ℕ) (account : Option AccountState) (readAt : ℕ) (now : Int) :
    Store Reader :=
  match account with
  | some account =>
      if store.generation user = generation then
        (store.touch user ⟨now + config.ttl, account, readAt⟩).evict config now
      else store
  | none => store

/-- The lock section of `invalidate_revocation` and of
`_apply_remote_invalidation`. -/
def drop (store : Store Reader) (user : String) : Store Reader :=
  { store with
    cache := store.cache.erase user
    gens := Function.update store.gens user
      (some (store.generation user + 1)) }

/-- `invalidate_revocation`, without the broadcast to other workers. -/
def invalidateRevocation (store : Store Reader) (user : Option String) :
    Store Reader :=
  match user with
  | none => store
  | some user => if user = "" then store else store.drop user

/-- `_apply_remote_invalidation`; a payload that is no string is `none`. -/
def applyRemoteInvalidation (store : Store Reader) (payload : Option String) :
    Store Reader :=
  match payload with
  | none => store
  | some user => if user = "" then store else store.drop user

end Store

/-! ## Readers, the account rows, and the steps -/

/-- Where an answer came from. -/
inductive Source where
  | cached (readAt : ℕ)
  | database (readAt : ℕ)
  deriving DecidableEq, Repr

/-- Where one call of `_account_state` stands.  `landed` is a finished database
read whose flight, if it led one, has been taken down; `nobody` is the `None` a
missing user id is answered with. -/
inductive Phase (Reader : Type u) where
  | ready
  | clocked (now : Int)
  | waiting (leader : Reader) (since : Int)
  | reading (leads : Bool) (generation : ℕ)
  | fetched (generation : ℕ) (account : Option AccountState) (readAt : ℕ)
  | raised
  | landed (generation : ℕ) (account : Option AccountState) (readAt : ℕ)
  | answered (account : Option AccountState) (source : Source)
  | nobody
  | failed

/-- The flight's event is not set while its leader is in one of these phases. -/
def Phase.inFlight {Reader : Type u} : Phase Reader → Bool
  | .reading leads _ => leads
  | .fetched _ _ _ => true
  | .raised => true
  | _ => false

/-- What a finished call has returned. -/
def Phase.returned {Reader : Type u} :
    Phase Reader → Option (Option AccountState)
  | .answered account _ => some account
  | .nobody => some none
  | _ => none

/-- The generation a reader will still compare before it publishes. -/
def Phase.captured {Reader : Type u} : Phase Reader → Option ℕ
  | .reading _ generation => some generation
  | .fetched generation _ _ => some generation
  | .landed generation _ _ => some generation
  | _ => none

structure State (Reader : Type u) where
  now : Int
  rows : String → Option AccountState
  version : String → ℕ
  store : Store Reader
  phase : Reader → Phase Reader

/-- `commit` of an invalidation is the change of the row it was issued after. -/
inductive Label (Reader : Type u) where
  | tick (elapsed : ℕ)
  | commit (user : String) (row : Option AccountState)
  | invalidate (user : Option String) (commit : ℕ)
  | deliver (payload : Option String) (commit : ℕ)
  | start (reader : Reader)
  | lookup (reader : Reader)
  | wake (reader : Reader)
  | fetch (reader : Reader)
  | raise (reader : Reader)
  | settle (reader : Reader)
  | publish (reader : Reader)

section Steps

variable {Reader : Type u} [DecidableEq Reader]

def State.setPhase (state : State Reader) (reader : Reader)
    (next : Phase Reader) : State Reader :=
  { state with phase := Function.update state.phase reader next }

def State.setStore (state : State Reader) (store : Store Reader) :
    State Reader :=
  { state with store := store }

/-- The row change an invalidation names has been committed. -/
def State.committed (state : State Reader) (user : Option String)
    (commit : ℕ) : Bool :=
  decide (commit ≤ state.version (user.getD ""))

/-- One atomic step; `user` is the argument of each call, `""` for `None`. -/
def step (config : Config) (user : Reader → String) (state : State Reader) :
    Label Reader → Option (State Reader)
  | .tick elapsed => some { state with now := state.now + elapsed }
  | .commit target row => some { state with
      rows := Function.update state.rows target row
      version := Function.update state.version target
        (state.version target + 1) }
  | .invalidate target commit =>
      if state.committed target commit then
        some (state.setStore (state.store.invalidateRevocation target))
      else none
  | .deliver payload commit =>
      if state.committed payload commit then
        some (state.setStore (state.store.applyRemoteInvalidation payload))
      else none
  | .start reader =>
      match state.phase reader with
      | .ready =>
          if user reader = "" then
            some (state.setPhase reader .nobody)
          else some (state.setPhase reader (.clocked state.now))
      | _ => none
  | .lookup reader =>
      match state.phase reader with
      | .clocked now =>
          match state.store.hit (user reader) now with
          | some entry => some
              ((state.setStore (state.store.touch (user reader) entry)).setPhase
                reader (.answered (some entry.account) (.cached entry.readAt)))
          | none =>
              match state.store.flights (user reader) with
              | some leader =>
                  some (state.setPhase reader (.waiting leader state.now))
              | none => some
                  ((state.setStore { state.store with
                      flights := Function.update state.store.flights
                        (user reader) (some reader) }).setPhase
                    reader
                    (.reading true (state.store.generation (user reader))))
      | _ => none
  | .wake reader =>
      match state.phase reader with
      | .waiting leader since =>
          if (state.phase leader).inFlight ∧
              state.now < since + config.flightWait then none
          else match state.store.hit (user reader) state.now with
            | some entry => some
                ((state.setStore
                    (state.store.touch (user reader) entry)).setPhase
                  reader (.answered (some entry.account) (.cached entry.readAt)))
            | none => some (state.setPhase reader
                (.reading false (state.store.generation (user reader))))
      | _ => none
  | .fetch reader =>
      match state.phase reader with
      | .reading true generation => some (state.setPhase reader
          (.fetched generation (state.rows (user reader))
            (state.version (user reader))))
      | .reading false generation => some (state.setPhase reader
          (.landed generation (state.rows (user reader))
            (state.version (user reader))))
      | _ => none
  | .raise reader =>
      match state.phase reader with
      | .reading true _ => some (state.setPhase reader .raised)
      | .reading false _ => some (state.setPhase reader .failed)
      | _ => none
  -- The `finally`: the pop under the lock, and the event set right after it.
  | .settle reader =>
      match state.phase reader with
      | .fetched generation account readAt => some
          ((state.setStore { state.store with
              flights := Function.update state.store.flights
                (user reader) none }).setPhase
            reader (.landed generation account readAt))
      | .raised => some
          ((state.setStore { state.store with
              flights := Function.update state.store.flights
                (user reader) none }).setPhase
            reader .failed)
      | _ => none
  | .publish reader =>
      match state.phase reader with
      | .landed generation account readAt => some
          ((state.setStore (state.store.publish config (user reader) generation
              account readAt state.now)).setPhase
            reader (.answered account (.database readAt)))
      | _ => none

/-- A process that has just started: nothing cached, no call running. -/
def Initial (state : State Reader) : Prop :=
  state.store = Store.empty ∧ ∀ reader, state.phase reader = .ready

def system (config : Config) (user : Reader → String) :
    TransitionSystem (State Reader) (Label Reader) where
  initial := Initial
  step := step config user

end Steps

/-! ## What the store operations can do -/

section StoreLemmas

variable {Reader : Type u} {config : Config} {store : Store Reader}

namespace Store

theorem hit_eq_some {user : String} {now : Int} {entry : CacheEntry}
    (found : store.hit user now = some entry) :
    store.cache.lookup user = some entry ∧ now < entry.expiresAt := by
  obtain ⟨present, unexpired⟩ := Option.filter_eq_some_iff.mp found
  exact ⟨present, of_decide_eq_true unexpired⟩

@[simp]
theorem touch_gens (user : String) (entry : CacheEntry) :
    (store.touch user entry).gens = store.gens := rfl

@[simp]
theorem touch_generation (user other : String) (entry : CacheEntry) :
    (store.touch user entry).generation other = store.generation other := rfl

theorem touch_lookup {user : String} {entry : CacheEntry}
    (present : store.cache.lookup user = some entry) (other : String) :
    (store.touch user entry).cache.lookup other = store.cache.lookup other :=
  OrderedDict.lookup_insert_self present

theorem evict_lookup {now : Int} {user : String} {entry : CacheEntry}
    (present : (store.evict config now).cache.lookup user = some entry) :
    store.cache.lookup user = some entry := by
  unfold evict at present
  split at present
  · exact present
  · exact (OrderedDict.lookup_keepIf (OrderedDict.lookup_trim present)).1

/-- `_evict_locked` throws the counter of `user` away. -/
def prunes (config : Config) (store : Store Reader) (now : Int)
    (user : String) : Prop :=
  config.maxEntries < store.cache.size ∧
    (store.survivors config now).lookup user = none ∧
    store.flights user = none ∧ store.gens user ≠ none

theorem evict_gens_of_not_prunes {now : Int} {user : String}
    (kept : ¬ store.prunes config now user) :
    (store.evict config now).gens user = store.gens user := by
  unfold evict
  split
  · rfl
  · rename_i overfull
    by_cases live : ((store.survivors config now).lookup user).isSome ||
        (store.flights user).isSome
    · simp only [live, if_true]
    · simp only [live, Bool.false_eq_true, if_false]
      simp only [Bool.or_eq_true, not_or, Option.not_isSome_iff_eq_none] at live
      by_contra dropped
      exact kept ⟨not_le.mp overfull, live.1, live.2, fun isNone =>
        dropped isNone.symm⟩

variable (config) in
/-- A publication leaves the store alone or caches the value and evicts. -/
theorem publish_cases (user : String) (generation : ℕ)
    (account : Option AccountState) (readAt : ℕ) (now : Int) :
    store.publish config user generation account readAt now = store ∨
      ∃ value, account = some value ∧ store.generation user = generation ∧
        store.publish config user generation account readAt now =
          (store.touch user ⟨now + config.ttl, value, readAt⟩).evict
            config now := by
  cases account with
  | none =>
      exact Or.inl rfl
  | some value =>
      by_cases same : store.generation user = generation
      · exact Or.inr ⟨value, rfl, same, by simp [publish, same]⟩
      · exact Or.inl (by simp [publish, same])

@[simp]
theorem drop_generation_self (user : String) :
    (store.drop user).generation user = store.generation user + 1 := by
  simp [drop, generation]

theorem drop_generation_of_ne {user other : String} (different : other ≠ user) :
    (store.drop user).generation other = store.generation other := by
  simp [drop, generation, different]

theorem generation_le_drop (user other : String) :
    store.generation other ≤ (store.drop user).generation other := by
  by_cases same : other = user
  · subst other
    simp
  · rw [drop_generation_of_ne same]

theorem invalidateRevocation_cases (target : Option String) :
    store.invalidateRevocation target = store ∨
      ∃ user, target = some user ∧
        store.invalidateRevocation target = store.drop user := by
  cases target with
  | none =>
      exact Or.inl rfl
  | some user =>
      by_cases isEmpty : user = ""
      · exact Or.inl (by simp [invalidateRevocation, isEmpty])
      · exact Or.inr ⟨user, rfl, by simp [invalidateRevocation, isEmpty]⟩

/-- The listener's section and the local one do the same to the store. -/
theorem applyRemoteInvalidation_eq (payload : Option String) :
    store.applyRemoteInvalidation payload = store.invalidateRevocation payload :=
  rfl

end Store

end StoreLemmas

/-! ## What a step can do -/

section Inversion

variable {Reader : Type u} [DecidableEq Reader]
variable {config : Config} {user : Reader → String}
variable {state next : State Reader}

@[simp]
theorem State.setPhase_self (reader : Reader) (phase : Phase Reader) :
    (state.setPhase reader phase).phase reader = phase := by
  simp [State.setPhase]

theorem State.setPhase_of_ne {reader other : Reader} (phase : Phase Reader)
    (different : other ≠ reader) :
    (state.setPhase reader phase).phase other = state.phase other := by
  simp [State.setPhase, different]

@[simp]
theorem State.setPhase_store (reader : Reader) (phase : Phase Reader) :
    (state.setPhase reader phase).store = state.store := rfl

omit [DecidableEq Reader] in
@[simp]
theorem State.setStore_phase (store : Store Reader) :
    (state.setStore store).phase = state.phase := rfl

omit [DecidableEq Reader] in
@[simp]
theorem State.setStore_store (store : Store Reader) :
    (state.setStore store).store = store := rfl

/-- The value a reader holds or has answered with, and when it was read. -/
def Phase.learned : Phase Reader → Option (AccountState × ℕ)
  | .fetched _ (some account) readAt => some (account, readAt)
  | .landed _ (some account) readAt => some (account, readAt)
  | .answered (some account) (.cached readAt) => some (account, readAt)
  | .answered (some account) (.database readAt) => some (account, readAt)
  | _ => none

theorem step_drop {target : Option String} {commit : ℕ}
    (stepped : step config user state (.invalidate target commit) = some next ∨
      step config user state (.deliver target commit) = some next) :
    commit ≤ state.version (target.getD "") ∧
      next = state.setStore (state.store.invalidateRevocation target) := by
  simp only [step, State.committed, Store.applyRemoteInvalidation_eq, or_self,
    decide_eq_true_eq] at stepped
  split at stepped
  · cases stepped
    exact ⟨‹_›, rfl⟩
  · cases stepped

theorem step_start {reader : Reader}
    (stepped : step config user state (.start reader) = some next) :
    state.phase reader = .ready ∧
      (next = state.setPhase reader .nobody ∨
        next = state.setPhase reader (.clocked state.now)) := by
  simp only [step] at stepped
  split at stepped
  · refine ⟨‹_›, ?_⟩
    split at stepped
    · cases stepped
      exact Or.inl rfl
    · cases stepped
      exact Or.inr rfl
  · cases stepped

theorem step_lookup {reader : Reader}
    (stepped : step config user state (.lookup reader) = some next) :
    ∃ now, state.phase reader = .clocked now ∧
      ((∃ entry, state.store.hit (user reader) now = some entry ∧
          next = (state.setStore
            (state.store.touch (user reader) entry)).setPhase reader
              (.answered (some entry.account) (.cached entry.readAt))) ∨
        (∃ leader, next = state.setPhase reader (.waiting leader state.now)) ∨
        next = (state.setStore { state.store with
            flights := Function.update state.store.flights (user reader)
              (some reader) }).setPhase reader
            (.reading true (state.store.generation (user reader)))) := by
  simp only [step] at stepped
  split at stepped
  · refine ⟨_, ‹_›, ?_⟩
    split at stepped
    · cases stepped
      exact Or.inl ⟨_, ‹_›, rfl⟩
    · split at stepped
      · cases stepped
        exact Or.inr (Or.inl ⟨_, rfl⟩)
      · cases stepped
        exact Or.inr (Or.inr rfl)
  · cases stepped

theorem step_wake {reader : Reader}
    (stepped : step config user state (.wake reader) = some next) :
    ∃ leader since, state.phase reader = .waiting leader since ∧
      ((∃ entry, state.store.hit (user reader) state.now = some entry ∧
          next = (state.setStore
            (state.store.touch (user reader) entry)).setPhase reader
              (.answered (some entry.account) (.cached entry.readAt))) ∨
        next = state.setPhase reader
          (.reading false (state.store.generation (user reader)))) := by
  simp only [step] at stepped
  split at stepped
  · refine ⟨_, _, ‹_›, ?_⟩
    split at stepped
    · cases stepped
    · split at stepped
      · cases stepped
        exact Or.inl ⟨_, ‹_›, rfl⟩
      · cases stepped
        exact Or.inr rfl
  · cases stepped

theorem step_fetch {reader : Reader}
    (stepped : step config user state (.fetch reader) = some next) :
    ∃ leads generation, state.phase reader = .reading leads generation ∧
      ∃ phase : Phase Reader, next = state.setPhase reader phase ∧
        (phase = .fetched generation (state.rows (user reader))
            (state.version (user reader)) ∨
          phase = .landed generation (state.rows (user reader))
            (state.version (user reader))) := by
  simp only [step] at stepped
  split at stepped
  · cases stepped
    exact ⟨_, _, ‹_›, _, rfl, Or.inl rfl⟩
  · cases stepped
    exact ⟨_, _, ‹_›, _, rfl, Or.inr rfl⟩
  · cases stepped

theorem step_raise {reader : Reader}
    (stepped : step config user state (.raise reader) = some next) :
    next = state.setPhase reader .raised ∨
      next = state.setPhase reader .failed := by
  simp only [step] at stepped
  split at stepped
  · cases stepped
    exact Or.inl rfl
  · cases stepped
    exact Or.inr rfl
  · cases stepped

theorem step_settle {reader : Reader}
    (stepped : step config user state (.settle reader) = some next) :
    ∃ phase : Phase Reader,
      next = (state.setStore { state.store with
          flights := Function.update state.store.flights (user reader)
            none }).setPhase reader phase ∧
        ((∃ generation account readAt,
            state.phase reader = .fetched generation account readAt ∧
            phase = .landed generation account readAt) ∨
          phase = .failed) := by
  simp only [step] at stepped
  split at stepped
  · cases stepped
    exact ⟨_, rfl, Or.inl ⟨_, _, _, ‹_›, rfl⟩⟩
  · cases stepped
    exact ⟨_, rfl, Or.inr rfl⟩
  · cases stepped

theorem step_publish {reader : Reader}
    (stepped : step config user state (.publish reader) = some next) :
    ∃ generation account readAt,
      state.phase reader = .landed generation account readAt ∧
      next = (state.setStore (state.store.publish config (user reader)
          generation account readAt state.now)).setPhase reader
        (.answered account (.database readAt)) := by
  simp only [step] at stepped
  split at stepped
  · cases stepped
    exact ⟨_, _, _, ‹_›, rfl⟩
  · cases stepped

end Inversion

/-! ## Captured generations -/

section Invariant

variable {Reader : Type u} [DecidableEq Reader]
variable {config : Config} {user : Reader → String}
variable {state next : State Reader}

omit [DecidableEq Reader] in
/-- The step throws away no counter that a reader has captured and will still
compare; the publishing reader has just compared its own. -/
def KeepsCaptured (config : Config) (user : Reader → String)
    (state : State Reader) : Label Reader → Prop
  | .publish reader =>
      match state.phase reader with
      | .landed generation (some account) readAt =>
          state.store.generation (user reader) = generation →
            ∀ other, other ≠ reader → (state.phase other).captured ≠ none →
              ¬ (state.store.touch (user reader)
                  ⟨state.now + config.ttl, account, readAt⟩).prunes
                config state.now (user other)
      | _ => True
  | _ => True

omit [DecidableEq Reader] in
/-- No counter is below a generation captured from it. -/
def Bounded (user : Reader → String) (state : State Reader) : Prop :=
  ∀ reader generation, (state.phase reader).captured = some generation →
    generation ≤ state.store.generation (user reader)

omit [DecidableEq Reader] in
theorem publish_generation {reader other : Reader} {generation readAt : ℕ}
    {account : Option AccountState}
    (allowed : KeepsCaptured config user state (.publish reader))
    (landed : state.phase reader = .landed generation account readAt)
    (different : other ≠ reader)
    (captured : (state.phase other).captured ≠ none) :
    (state.store.publish config (user reader) generation account readAt
      state.now).generation (user other) =
        state.store.generation (user other) := by
  rcases state.store.publish_cases config (user reader) generation
    account readAt state.now with unchanged | ⟨value, rfl, current, evicted⟩
  · rw [unchanged]
  · simp only [KeepsCaptured, landed] at allowed
    have kept := allowed current other different captured
    rw [evicted, Store.generation, Store.evict_gens_of_not_prunes kept]
    rfl

omit [DecidableEq Reader] in
theorem bounded_initial (isInitial : Initial state) : Bounded user state := by
  intro reader generation captured
  rw [isInitial.2 reader] at captured
  cases captured

/-- One reader moves and no counter another reader has captured goes down. -/
theorem Bounded.move (bounded : Bounded user state) {store : Store Reader}
    {reader : Reader} {phase : Phase Reader}
    (kept : ∀ other, other ≠ reader → (state.phase other).captured ≠ none →
      state.store.generation (user other) ≤ store.generation (user other))
    (moved : ∀ generation, phase.captured = some generation →
      generation ≤ store.generation (user reader)) :
    Bounded user ((state.setStore store).setPhase reader phase) := by
  intro other generation captured
  by_cases same : other = reader
  · subst other
    rw [State.setPhase_self] at captured
    exact moved generation captured
  · rw [State.setPhase_of_ne _ same] at captured
    exact le_trans (bounded other generation captured)
      (kept other same (by simp_all))

omit [DecidableEq Reader] in
theorem bounded_drop (bounded : Bounded user state) (target : Option String) :
    Bounded user
      (state.setStore (state.store.invalidateRevocation target)) := by
  intro reader generation captured
  have below := bounded reader generation captured
  rcases state.store.invalidateRevocation_cases target with
    unchanged | ⟨dropped, _, changed⟩
  · rwa [State.setStore_store, unchanged]
  · rw [State.setStore_store, changed]
    exact le_trans below (Store.generation_le_drop dropped (user reader))

theorem bounded_step {label : Label Reader} (bounded : Bounded user state)
    (allowed : KeepsCaptured config user state label)
    (stepped : step config user state label = some next) :
    Bounded user next := by
  cases label with
  | tick elapsed =>
      cases stepped
      exact bounded
  | commit target row =>
      cases stepped
      exact bounded
  | invalidate target commit =>
      obtain ⟨_, rfl⟩ := step_drop (Or.inl stepped)
      exact bounded_drop bounded target
  | deliver payload commit =>
      obtain ⟨_, rfl⟩ := step_drop (Or.inr stepped)
      exact bounded_drop bounded payload
  | start reader =>
      obtain ⟨_, rfl | rfl⟩ := step_start stepped
      · exact bounded.move (fun _ _ _ => le_rfl) (by simp [Phase.captured])
      · exact bounded.move (fun _ _ _ => le_rfl) (by simp [Phase.captured])
  | lookup reader =>
      obtain ⟨_, _, ⟨_, _, rfl⟩ | ⟨_, rfl⟩ | rfl⟩ := step_lookup stepped
      · exact bounded.move (fun _ _ _ => le_rfl) (by simp [Phase.captured])
      · exact bounded.move (fun _ _ _ => le_rfl) (by simp [Phase.captured])
      · refine bounded.move (fun _ _ _ => le_rfl) ?_
        rintro generation captured
        cases captured
        exact le_rfl
  | wake reader =>
      obtain ⟨_, _, _, ⟨_, _, rfl⟩ | rfl⟩ := step_wake stepped
      · exact bounded.move (fun _ _ _ => le_rfl) (by simp [Phase.captured])
      · refine bounded.move (fun _ _ _ => le_rfl) ?_
        rintro generation captured
        cases captured
        exact le_rfl
  | fetch reader =>
      obtain ⟨_, generation, reading, _, rfl, rfl | rfl⟩ := step_fetch stepped
      all_goals
        refine bounded.move (fun _ _ _ => le_rfl) ?_
        rintro _ captured
        cases captured
        exact bounded reader generation (by rw [reading]; rfl)
  | raise reader =>
      rcases step_raise stepped with rfl | rfl
      · exact bounded.move (fun _ _ _ => le_rfl) (by simp [Phase.captured])
      · exact bounded.move (fun _ _ _ => le_rfl) (by simp [Phase.captured])
  | settle reader =>
      obtain ⟨_, rfl, ⟨generation, _, _, fetched, rfl⟩ | rfl⟩ :=
        step_settle stepped
      · refine bounded.move (fun _ _ _ => le_rfl) ?_
        rintro _ captured
        cases captured
        exact bounded reader generation (by rw [fetched]; rfl)
      · exact bounded.move (fun _ _ _ => le_rfl) (by simp [Phase.captured])
  | publish reader =>
      obtain ⟨generation, account, readAt, landed, rfl⟩ := step_publish stepped
      refine bounded.move ?_ (by simp [Phase.captured])
      intro other different captured
      exact le_of_eq (publish_generation allowed landed different captured).symm

theorem bounded_reachable
    (reachable : (system config user).ReachableUnder
      (KeepsCaptured config user) state) :
    Bounded user state :=
  reachable.invariant (Bounded user)
    (fun _ isInitial => bounded_initial isInitial)
    (fun _ _ _ bounded allowed stepped => bounded_step bounded allowed stepped)

/-! ## What an invalidation buys -/

omit [DecidableEq Reader] in
/-- From `horizon` on, every value of `target` that the cache holds unexpired, a
reader may still publish, or a later call learns, is `good`. -/
structure Purged (user : Reader → String) (target : String)
    (good : AccountState → ℕ → Prop) (horizon : Int) (isLater : Reader → Prop)
    (state : State Reader) : Prop where
  elapsed : horizon ≤ state.now
  row : ∀ account, state.rows target = some account →
    good account (state.version target)
  entries : ∀ entry, state.store.cache.lookup target = some entry →
    good entry.account entry.readAt ∨ entry.expiresAt ≤ horizon
  pending : ∀ reader account readAt, user reader = target →
    (state.phase reader).captured = some (state.store.generation target) →
    (state.phase reader).learned = some (account, readAt) →
    good account readAt
  clocked : ∀ reader now, isLater reader → user reader = target →
    state.phase reader = .clocked now → horizon ≤ now
  learned : ∀ reader account readAt, isLater reader → user reader = target →
    (state.phase reader).learned = some (account, readAt) → good account readAt

section Purge

variable {target : String} {good : AccountState → ℕ → Prop} {horizon : Int}
variable {isLater : Reader → Prop}

/-- One reader moves: the cache of `target` only loses entries and the counters
that count are the same. -/
theorem Purged.move (purged : Purged user target good horizon isLater state)
    {store : Store Reader} {reader : Reader} {phase : Phase Reader}
    (entries : ∀ entry, store.cache.lookup target = some entry →
      good entry.account entry.readAt ∨ entry.expiresAt ≤ horizon)
    (generations : ∀ other, other ≠ reader → user other = target →
      (state.phase other).captured ≠ none →
        store.generation target = state.store.generation target)
    (pending : ∀ account readAt, user reader = target →
      phase.captured = some (store.generation target) →
      phase.learned = some (account, readAt) → good account readAt)
    (clocked : ∀ now, isLater reader → user reader = target →
      phase = .clocked now → horizon ≤ now)
    (learned : ∀ account readAt, isLater reader → user reader = target →
      phase.learned = some (account, readAt) → good account readAt) :
    Purged user target good horizon isLater
      ((state.setStore store).setPhase reader phase) := by
  refine ⟨purged.elapsed, purged.row, entries, ?_, ?_, ?_⟩
  · intro other account readAt named captured held
    by_cases same : other = reader
    · subst other
      rw [State.setPhase_self] at captured held
      exact pending account readAt named captured held
    · rw [State.setPhase_of_ne _ same] at captured held
      rw [State.setStore_phase] at captured held
      have kept := generations other same named (by simp [captured])
      rw [State.setPhase_store, State.setStore_store, kept] at captured
      exact purged.pending other account readAt named captured held
  · intro other now isLate named clock
    by_cases same : other = reader
    · subst other
      rw [State.setPhase_self] at clock
      exact clocked now isLate named clock
    · rw [State.setPhase_of_ne _ same] at clock
      exact purged.clocked other now isLate named clock
  · intro other account readAt isLate named held
    by_cases same : other = reader
    · subst other
      rw [State.setPhase_self] at held
      exact learned account readAt isLate named held
    · rw [State.setPhase_of_ne _ same] at held
      exact purged.learned other account readAt isLate named held

/-- The new phase has learned nothing and does not wait for its first lookup. -/
theorem Purged.moveIgnorant
    (purged : Purged user target good horizon isLater state)
    {flights : String → Option Reader} {reader : Reader} {phase : Phase Reader}
    (notClocked : ∀ now, phase ≠ .clocked now) (ignorant : phase.learned = none) :
    Purged user target good horizon isLater
      ((state.setStore { state.store with flights := flights }).setPhase
        reader phase) :=
  purged.move purged.entries (fun _ _ _ _ => rfl)
    (by simp [ignorant]) (fun now _ _ clock => absurd clock (notClocked now))
    (by simp [ignorant])

/-- A call answers with the cached entry it found at `now`. -/
theorem Purged.moveHit (purged : Purged user target good horizon isLater state)
    {reader : Reader} {now : Int} {entry : CacheEntry}
    (found : state.store.hit (user reader) now = some entry)
    (late : isLater reader → user reader = target → horizon ≤ now) :
    Purged user target good horizon isLater
      ((state.setStore (state.store.touch (user reader) entry)).setPhase reader
        (.answered (some entry.account) (.cached entry.readAt))) := by
  obtain ⟨present, unexpired⟩ := Store.hit_eq_some found
  refine purged.move ?_ (fun _ _ _ _ => rfl) (by simp [Phase.captured])
    (by simp) ?_
  · intro other otherPresent
    rw [Store.touch_lookup present] at otherPresent
    exact purged.entries other otherPresent
  · intro account readAt isLate named held
    cases held
    rw [named] at present
    rcases purged.entries entry present with isGood | expired
    · exact isGood
    · have := late isLate named
      omega

theorem Purged.publish (purged : Purged user target good horizon isLater state)
    {reader : Reader} {generation readAt : ℕ} {account : Option AccountState}
    (allowed : KeepsCaptured config user state (.publish reader))
    (landed : state.phase reader = .landed generation account readAt) :
    Purged user target good horizon isLater
      ((state.setStore (state.store.publish config (user reader) generation
          account readAt state.now)).setPhase reader
        (.answered account (.database readAt))) := by
  refine purged.move ?_ ?_ (by simp [Phase.captured]) (by simp) ?_
  · intro entry present
    rcases state.store.publish_cases config (user reader) generation
      account readAt state.now with unchanged | ⟨value, rfl, current, evicted⟩
    · rw [unchanged] at present
      exact purged.entries entry present
    · rw [evicted] at present
      rcases OrderedDict.lookup_insert_cases (Store.evict_lookup present) with
        ⟨named, rfl⟩ | ⟨_, older⟩
      · -- The published value: its reader compared the counter just now.
        refine Or.inl (purged.pending reader value readAt named.symm ?_ ?_)
        · rw [landed, named, current]
          rfl
        · rw [landed]
          rfl
      · exact purged.entries entry older
  · intro other different named captured
    rw [← named]
    exact publish_generation allowed landed different captured
  · intro value readAt' isLate named held
    refine purged.learned reader value readAt' isLate named ?_
    rw [landed]
    cases account with
    | none =>
        cases held
    | some found =>
        exact held

/-- A database read: what it learns about `target` is its present row. -/
theorem Purged.fetch (purged : Purged user target good horizon isLater state)
    {reader : Reader} {phase : Phase Reader}
    (notClocked : ∀ now, phase ≠ .clocked now)
    (read : ∀ account readAt, phase.learned = some (account, readAt) →
      state.rows (user reader) = some account ∧
        state.version (user reader) = readAt) :
    Purged user target good horizon isLater (state.setPhase reader phase) := by
  have current : ∀ account readAt, user reader = target →
      phase.learned = some (account, readAt) → good account readAt := by
    intro account readAt named held
    obtain ⟨present, rfl⟩ := read account readAt held
    rw [named] at present ⊢
    exact purged.row account present
  exact purged.move purged.entries
    (fun _ _ _ _ => rfl)
    (fun account readAt named _ held => current account readAt named held)
    (fun now _ _ clock => absurd clock (notClocked now))
    (fun account readAt _ named held => current account readAt named held)

omit [DecidableEq Reader] in
/-- An invalidation empties the cache of its user and outdates every captured
generation. -/
theorem Purged.drop (purged : Purged user target good horizon isLater state)
    (bounded : Bounded user state) (dropped : Option String) :
    Purged user target good horizon isLater
      (state.setStore (state.store.invalidateRevocation dropped)) := by
  rcases state.store.invalidateRevocation_cases dropped with
    unchanged | ⟨name, _, changed⟩
  · rw [unchanged]
    exact purged
  · rw [changed]
    refine ⟨purged.elapsed, purged.row, ?_, ?_, purged.clocked, purged.learned⟩
    · intro entry present
      exact purged.entries entry (OrderedDict.lookup_erase_cases present).2
    · intro reader account readAt named captured held
      by_cases same : target = name
      · subst name
        have below := bounded reader _ captured
        rw [named, State.setStore_store, Store.drop_generation_self] at below
        omega
      · simp only [State.setStore_store,
          Store.drop_generation_of_ne same] at captured
        exact purged.pending reader account readAt named captured held

omit [DecidableEq Reader] in
/-- What an invalidation establishes for the calls that have not begun. -/
theorem purged_of_drop (bounded : Bounded user state) (named : target ≠ "")
    (row : ∀ account, state.rows target = some account →
      good account (state.version target)) :
    Purged user target good state.now
      (fun reader => state.phase reader = .ready)
      (state.setStore (state.store.invalidateRevocation (some target))) := by
  have dropped : state.store.invalidateRevocation (some target) =
      state.store.drop target := by
    simp [Store.invalidateRevocation, named]
  rw [dropped]
  refine ⟨Int.le_refl _, row, ?_, ?_, ?_, ?_⟩
  · intro entry present
    exact absurd rfl (OrderedDict.lookup_erase_cases present).1
  · intro reader account readAt ofTarget captured _
    have below := bounded reader _ captured
    rw [ofTarget, State.setStore_store, Store.drop_generation_self] at below
    omega
  · intro reader now ready _ clock
    rw [State.setStore_phase, ready] at clock
    cases clock
  · intro reader account readAt ready _ held
    rw [State.setStore_phase, ready] at held
    cases held

theorem purged_step {label : Label Reader}
    (purged : Purged user target good horizon isLater state)
    (bounded : Bounded user state)
    (allowed : KeepsCaptured config user state label)
    (kept : ∀ row, label = .commit target row → ∀ account,
      row = some account → good account (state.version target + 1))
    (stepped : step config user state label = some next) :
    Purged user target good horizon isLater next := by
  cases label with
  | tick elapsed =>
      cases stepped
      refine ⟨?_, purged.row, purged.entries, purged.pending, purged.clocked,
        purged.learned⟩
      exact Int.le_trans purged.elapsed (Int.le_add_of_nonneg_right (by omega))
  | commit changed row =>
      cases stepped
      refine ⟨purged.elapsed, ?_, purged.entries, purged.pending,
        purged.clocked, purged.learned⟩
      intro account present
      by_cases same : target = changed
      · subst changed
        simp only [Function.update_self] at present ⊢
        exact kept row rfl account present
      · simp only [Function.update_of_ne same] at present ⊢
        exact purged.row account present
  | invalidate dropped commit =>
      obtain ⟨_, rfl⟩ := step_drop (Or.inl stepped)
      exact purged.drop bounded dropped
  | deliver dropped commit =>
      obtain ⟨_, rfl⟩ := step_drop (Or.inr stepped)
      exact purged.drop bounded dropped
  | start reader =>
      obtain ⟨_, rfl | rfl⟩ := step_start stepped
      · exact purged.moveIgnorant (by simp) rfl
      · refine purged.move purged.entries
          (fun _ _ _ _ => rfl) (by simp [Phase.captured]) ?_
          (by simp [Phase.learned])
        intro now _ _ clock
        cases clock
        exact purged.elapsed
  | lookup reader =>
      obtain ⟨now, clocked, ⟨entry, found, rfl⟩ | ⟨_, rfl⟩ | rfl⟩ :=
        step_lookup stepped
      · exact purged.moveHit found fun isLate named =>
          purged.clocked reader now isLate named clocked
      · exact purged.moveIgnorant (by simp) rfl
      · exact purged.moveIgnorant (by simp) rfl
  | wake reader =>
      obtain ⟨_, _, _, ⟨entry, found, rfl⟩ | rfl⟩ := step_wake stepped
      · exact purged.moveHit found fun _ _ => purged.elapsed
      · exact purged.moveIgnorant (by simp) rfl
  | fetch reader =>
      obtain ⟨_, _, _, _, rfl, rfl | rfl⟩ := step_fetch stepped
      all_goals
        refine purged.fetch (by simp) ?_
        intro account readAt held
        cases found : state.rows (user reader) with
        | none =>
            simp [Phase.learned, found] at held
        | some value =>
            simpa [Phase.learned, found] using held
  | raise reader =>
      rcases step_raise stepped with rfl | rfl
      · exact purged.moveIgnorant (by simp) rfl
      · exact purged.moveIgnorant (by simp) rfl
  | settle reader =>
      obtain ⟨_, rfl, ⟨generation, account, readAt, fetched, rfl⟩ | rfl⟩ :=
        step_settle stepped
      · have same : (Phase.landed generation account readAt :
            Phase Reader).learned = (state.phase reader).learned := by
          rw [fetched]
          cases account <;> rfl
        refine purged.move purged.entries (fun _ _ _ _ => rfl) ?_ (by simp) ?_
        · intro value readAt' named captured held
          refine purged.pending reader value readAt' named ?_ (same ▸ held)
          rw [fetched]
          exact captured
        · intro value readAt' isLate named held
          exact purged.learned reader value readAt' isLate named (same ▸ held)
      · exact purged.moveIgnorant (by simp) rfl
  | publish reader =>
      obtain ⟨generation, account, readAt, landed, rfl⟩ := step_publish stepped
      exact purged.publish allowed landed

end Purge

end Invariant

/-! ## No stale resurrection -/

section NeverStale

variable {Reader : Type u} [DecidableEq Reader]

/-- Along every run whose steps satisfy `guard`: once an invalidation of
`target` that was issued after its change number `commit` has been applied, no
call that begins later is answered from the cache with a row read before that
change. -/
def NeverStale (config : Config) (user : Reader → String)
    (guard : State Reader → Label Reader → Prop) : Prop :=
  ∀ (state next later : State Reader) (target : String) (commit : ℕ)
    (reader : Reader) (account : AccountState) (readAt : ℕ),
    target ≠ "" →
    (system config user).ReachableUnder guard state →
    (step config user state (.invalidate (some target) commit) = some next ∨
      step config user state (.deliver (some target) commit) = some next) →
    (system config user).Reaches guard next later →
    user reader = target → next.phase reader = .ready →
    later.phase reader = .answered (some account) (.cached readAt) →
    commit ≤ readAt

/-- Only a commit of `target` changes its row, and its version counts them. -/
theorem step_row {config : Config} {user : Reader → String}
    {state next : State Reader} {label : Label Reader}
    (stepped : step config user state label = some next) (target : String) :
    (∃ row, label = .commit target row ∧ next.rows target = row ∧
        next.version target = state.version target + 1) ∨
      (next.rows target = state.rows target ∧
        next.version target = state.version target) := by
  cases label with
  | tick elapsed =>
      cases stepped
      exact Or.inr ⟨rfl, rfl⟩
  | commit changed row =>
      cases stepped
      by_cases same : target = changed
      · subst changed
        exact Or.inl ⟨row, rfl, by simp⟩
      · exact Or.inr (by simp [same])
  | invalidate dropped commit =>
      obtain ⟨_, rfl⟩ := step_drop (Or.inl stepped)
      exact Or.inr ⟨rfl, rfl⟩
  | deliver dropped commit =>
      obtain ⟨_, rfl⟩ := step_drop (Or.inr stepped)
      exact Or.inr ⟨rfl, rfl⟩
  | start reader =>
      obtain ⟨_, rfl | rfl⟩ := step_start stepped <;> exact Or.inr ⟨rfl, rfl⟩
  | lookup reader =>
      obtain ⟨_, _, ⟨_, _, rfl⟩ | ⟨_, rfl⟩ | rfl⟩ := step_lookup stepped <;>
        exact Or.inr ⟨rfl, rfl⟩
  | wake reader =>
      obtain ⟨_, _, _, ⟨_, _, rfl⟩ | rfl⟩ := step_wake stepped <;>
        exact Or.inr ⟨rfl, rfl⟩
  | fetch reader =>
      obtain ⟨_, _, _, _, rfl, _⟩ := step_fetch stepped
      exact Or.inr ⟨rfl, rfl⟩
  | raise reader =>
      rcases step_raise stepped with rfl | rfl <;> exact Or.inr ⟨rfl, rfl⟩
  | settle reader =>
      obtain ⟨_, rfl, _⟩ := step_settle stepped
      exact Or.inr ⟨rfl, rfl⟩
  | publish reader =>
      obtain ⟨_, _, _, _, rfl⟩ := step_publish stepped
      exact Or.inr ⟨rfl, rfl⟩

theorem version_le_of_step {config : Config} {user : Reader → String}
    {state next : State Reader} {label : Label Reader}
    (stepped : step config user state label = some next) (target : String) :
    state.version target ≤ next.version target := by
  rcases step_row stepped target with ⟨_, _, _, bumped⟩ | ⟨_, same⟩
  · exact bumped ▸ Nat.le_succ _
  · exact le_of_eq same.symm

/-- The cache keeps its promise along every run in which no eviction throws away
a counter that a reader has captured and has still to compare. -/
theorem accountState_neverStale (config : Config) (user : Reader → String) :
    NeverStale config user (KeepsCaptured config user) := by
  intro state next later target commit reader account readAt named reachable
    applied run asked ready answered
  have bounded : Bounded user state := bounded_reachable reachable
  obtain ⟨committed, rfl⟩ := step_drop applied
  have start : Purged user target (fun _ readAt => commit ≤ readAt) state.now
      (fun reader => state.phase reader = .ready)
      (state.setStore (state.store.invalidateRevocation (some target))) :=
    purged_of_drop bounded named (fun _ _ => committed)
  have kept := run.preserves
    (fun after => Bounded user after ∧ commit ≤ after.version target ∧
      Purged user target (fun _ readAt => commit ≤ readAt) state.now
        (fun reader => state.phase reader = .ready) after)
    (fun before label after holds allowed stepped =>
      ⟨bounded_step holds.1 allowed stepped,
        le_trans holds.2.1 (version_le_of_step stepped target),
        purged_step holds.2.2 holds.1 allowed
          (fun _ _ _ _ => Nat.le_succ_of_le holds.2.1) stepped⟩)
    ⟨bounded_drop bounded _, committed, start⟩
  exact kept.2.2.learned reader account readAt ready asked
    (by rw [answered]; rfl)

end NeverStale

/-! ### A counter pruned between a reader's capture and its publication -/

inductive PruneReader where
  | early
  | second
  | third
  | late
  deriving DecidableEq

def pruneConfig : Config where
  ttl := 10 * 1000000000
  maxEntries := 1
  flightWait := 5 * 1000000000

def pruneUser : PruneReader → String
  | .early => "u"
  | .second => "v"
  | .third => "w"
  | .late => "u"

def pruneStart : State PruneReader where
  now := 0
  rows := fun _ => some ⟨0, true⟩
  version := fun _ => 0
  store := Store.empty
  phase := fun _ => .ready

def pruneSystem : TransitionSystem (State PruneReader) (Label PruneReader) :=
  system pruneConfig pruneUser

/-- `early` reads the row of `u`, and `u` logs out. -/
def pruneBefore : List (Label PruneReader) :=
  [.start .early, .lookup .early, .fetch .early, .settle .early,
    .commit "u" (some ⟨1, true⟩)]

/-- Two other users fill the cache, so the counter of `u` goes; then `early`
publishes what it read. -/
def pruneAfter : List (Label PruneReader) :=
  [.start .second, .lookup .second, .fetch .second, .settle .second,
    .publish .second,
    .start .third, .lookup .third, .fetch .third, .settle .third,
    .publish .third,
    .publish .early, .start .late, .lookup .late]

def pruneCommitted : State PruneReader :=
  (pruneSystem.exec pruneStart pruneBefore).getD pruneStart

def pruneInvalidated : State PruneReader :=
  (pruneSystem.exec pruneCommitted [.invalidate (some "u") 1]).getD pruneStart

def pruneResurrected : State PruneReader :=
  (pruneSystem.exec pruneInvalidated pruneAfter).getD pruneStart

theorem accountState_resurrects :
    ¬ NeverStale pruneConfig pruneUser (fun _ _ => True) := by
  intro neverStale
  have resurrected : pruneResurrected.phase .late =
      .answered (some ⟨0, true⟩) (.cached 0) := rfl
  have starts : pruneSystem.initial pruneStart := ⟨rfl, fun _ => rfl⟩
  have reachable : pruneSystem.Reachable pruneCommitted :=
    TransitionSystem.reachable_of_exec pruneBefore starts rfl
  have run : pruneSystem.Reaches (fun _ _ => True) pruneInvalidated
      pruneResurrected :=
    TransitionSystem.reaches_of_exec pruneAfter rfl
  have stale := neverStale pruneCommitted pruneInvalidated pruneResurrected "u" 1
    .late ⟨0, true⟩ 0 (by decide) reachable (Or.inl rfl) run rfl rfl resurrected
  omega

/-! ### A cache refilled after the invalidation -/

def refillStart : State PruneReader :=
  (pruneSystem.exec pruneStart [.commit "u" (some ⟨1, true⟩)]).getD pruneStart

def refillInvalidated : State PruneReader :=
  (pruneSystem.exec refillStart [.invalidate (some "u") 1]).getD pruneStart

def refillLanded : State PruneReader :=
  (pruneSystem.exec refillInvalidated
    [.start .early, .lookup .early, .fetch .early, .settle .early]).getD
      pruneStart

def refillPublished : State PruneReader :=
  (pruneSystem.exec refillLanded [.publish .early]).getD pruneStart

def refillAnswered : State PruneReader :=
  (pruneSystem.exec refillPublished [.start .late, .lookup .late]).getD
    pruneStart

/-- The read after the change is the one the cache answers with. -/
theorem accountState_neverStale_refill :
    refillAnswered.phase .late = .answered (some ⟨1, true⟩) (.cached 1) ∧
      1 ≤ 1 := by
  have starts : pruneSystem.initial pruneStart := ⟨rfl, fun _ => rfl⟩
  have reachable : pruneSystem.ReachableUnder
      (KeepsCaptured pruneConfig pruneUser) refillStart :=
    ⟨pruneStart, starts, TransitionSystem.reaches_of_exec_allowed
      [.commit "u" (some ⟨1, true⟩)] (by simp [KeepsCaptured]) rfl⟩
  have landed : pruneSystem.Reaches (KeepsCaptured pruneConfig pruneUser)
      refillInvalidated refillLanded :=
    TransitionSystem.reaches_of_exec_allowed
      [.start .early, .lookup .early, .fetch .early, .settle .early]
      (by simp [KeepsCaptured]) rfl
  have alone : KeepsCaptured pruneConfig pruneUser refillLanded
      (.publish .early) := by
    rintro _ (_ | _ | _ | _) different captured
    all_goals exact absurd rfl (by assumption)
  have published : pruneSystem.Reaches (KeepsCaptured pruneConfig pruneUser)
      refillLanded refillPublished :=
    TransitionSystem.Reaches.single (.publish .early) alone rfl
  have answered : pruneSystem.Reaches (KeepsCaptured pruneConfig pruneUser)
      refillPublished refillAnswered :=
    TransitionSystem.reaches_of_exec_allowed [.start .late, .lookup .late]
      (by simp [KeepsCaptured]) rfl
  refine ⟨rfl, ?_⟩
  exact accountState_neverStale pruneConfig pruneUser refillStart
    refillInvalidated refillAnswered "u" 1 .late ⟨1, true⟩ 1 (by decide)
    reachable (Or.inl rfl) ((landed.trans published).trans answered) rfl rfl rfl

end DbBuddy.Auth.RevocationCache
