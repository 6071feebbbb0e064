import DbBuddy.Context.Rebuilds
import DbBuddy.Context.Isolation

/-!
# How old an answer can be

An answer rests on the schema its call resolved and on the context it is given.
Neither is older than the last rebuild or invalidation before the call, nor than
the call itself if it is a rebuild, as long as no step joins, keeps or leaves in
place what such a rebuild or invalidation was meant to replace.
-/

namespace DbBuddy.Context

open DbBuddy.Library DbBuddy.Dialects

universe u

variable {Call : Type u}

/-! ## What an answer must not be older than -/

/-- Something read at `readAt` is no older than any rebuild or invalidation of
`key` that has completed. -/
def Current (state : SharedState Call) (key : String) (readAt : ℕ) : Prop :=
  ∀ barrier ∈ state.barriers, barrier.key = key → barrier.began ≤ readAt

/-- The same for those that had completed before the call; and a rebuild reads
nothing that is older than itself. -/
structure Since (request : Call → Request) (state : SharedState Call)
    (call : Call) (readAt : ℕ) : Prop where
  barrier : ∀ barrier ∈ state.barriers,
    barrier.key = dbKey (request call).config →
    barrier.completed < state.startedAt call → barrier.began ≤ readAt
  forced : (request call).kind.forced → state.startedAt call ≤ readAt

/-- A rebuild returns what was read after every schema change before it, and no
call is answered with a schema or a context from before a rebuild or an
invalidation that had completed. -/
structure AnsweredFresh (request : Call → Request) (state : SharedState Call)
    (call : Call) (read : SchemaRead) (context : PreparedContext) : Prop where
  rebuild : (request call).kind.forced → ∀ commit ∈ state.commits,
    commit.target = (request call).config.target →
    commit.event < state.startedAt call → commit.event < context.read.readAt
  barrier : ∀ barrier ∈ state.barriers,
    barrier.key = dbKey (request call).config →
    barrier.completed < state.startedAt call →
    barrier.began ≤ read.readAt ∧ barrier.began ≤ context.read.readAt

def AnswersFresh (request : Call → Request) (state : SharedState Call) : Prop :=
  ∀ call read context, state.phase call = .answered read context →
    AnsweredFresh request state call read context

/-! ## The steps that keep it so -/

/-- A rebuild is not served a cached schema from before it; no call joins a read
that began before a rebuild or invalidation it comes after, and a rebuild none
that began before itself; nothing is written back or installed that was read
before a rebuild or invalidation completed since; a rebuild completes with no
fresh cached schema from before it; and no query finds the schema back at a
version whose context a rebuild has left in place. -/
def InTime (setup : SharedSetup) (request : Call → Request)
    (state : SharedState Call) : SharedLabel Call → Prop
  | .lookup call =>
      (request call).kind.forced → ∀ entry,
        state.cached setup (dbKey (request call).config) = some entry →
        state.startedAt call ≤ entry.read.readAt
  | .enlist call => ∀ leader readAt,
      state.flights (dbKey (request call).config) = some leader →
      state.readBegan leader = some readAt → Since request state call readAt
  | .writeBack call => ∀ read, state.phase call = .writing read →
      Current state (dbKey (request call).config) read.readAt
  | .find call => (request call).kind.forced = false → ∀ read,
      state.phase call = .resolved read →
      let contextKey :=
        ctxKey (request call).config (setup.schemaHash read.schema)
      state.contexts contextKey ≠ none → state.superseded contextKey = false
  | .install call => ∀ read, state.phase call = .building read →
      Current state (dbKey (request call).config) read.readAt ∧
        ((request call).kind.forced → ∀ entry,
          state.cached setup (dbKey (request call).config) = some entry →
          state.startedAt call ≤ entry.read.readAt)
  | _ => True

/-! ## The invariant -/

namespace CallPhase

/-- When the reads began that a call relies on. -/
def reads : CallPhase Call → List ℕ
  | .reading _ readAt => [readAt]
  | .fetched (some read) => [read.readAt]
  | .landed (some read) => [read.readAt]
  | .writing read => [read.readAt]
  | .resolved read => [read.readAt]
  | .building read => [read.readAt]
  | .answered read context => [read.readAt, context.read.readAt]
  | _ => []

/-- When the read of a flight began that is still to be signalled. -/
def led : CallPhase Call → Option ℕ
  | .reading true readAt => some readAt
  | .fetched (some read) => some read.readAt
  | .landed (some read) => some read.readAt
  | _ => none

/-- A call has not signalled a flight yet. -/
def unsignalled : CallPhase Call → Bool
  | .writing _ => false
  | .resolved _ => false
  | .building _ => false
  | .answered _ _ => false
  | .failed => false
  | _ => true

end CallPhase

/-- What holds of a call in `phase`. -/
structure CallInv (request : Call → Request) (state : SharedState Call)
    (call : Call) (phase : CallPhase Call) : Prop where
  reads : ∀ readAt ∈ phase.reads, Since request state call readAt
  led : ∀ readAt, phase.led = some readAt → state.readBegan call = some readAt
  waits : ∀ leader since, phase = .waiting leader since →
    ∀ readAt, state.readBegan leader = some readAt →
      Since request state call readAt
  unsignalled : phase.unsignalled = true → state.flown call = none

structure SharedInv (setup : SharedSetup) (request : Call → Request)
    (state : SharedState Call) : Prop where
  order : ∀ barrier ∈ state.barriers,
    barrier.began ≤ barrier.completed ∧ barrier.completed ≤ state.events
  started : ∀ call, state.startedAt call ≤ state.events
  cached : ∀ key entry, state.cached setup key = some entry →
    Current state key entry.read.readAt
  named : ∀ contextKey context, state.contexts contextKey = some context →
    ∃ schema,
      contextKey = ctxKey context.createdFor (setup.schemaHash schema)
  kept : ∀ contextKey context, state.contexts contextKey = some context →
    state.superseded contextKey = false →
    Current state (dbKey context.createdFor) context.read.readAt
  flown : ∀ call read, state.flown call = some (some read) →
    state.readBegan call = some read.readAt
  calls : ∀ call, CallInv request state call (state.phase call)

section Invariant

variable {setup : SharedSetup} {request : Call → Request}
variable {state next : SharedState Call}

/-! ### Small facts -/

theorem cached_eq_some {key : String} {entry : CachedRead} :
    state.cached setup key = some entry ↔ 0 < setup.ttl ∧
      state.schemaCache key = some entry ∧
      state.now - entry.cachedAt < setup.ttl := by
  unfold SharedState.cached
  split
  · rename_i enabled
    simp [Option.filter_eq_some_iff, enabled]
  · rename_i disabled
    simp [disabled]

/-- A read that begins now comes after everything. -/
theorem Since.now (inv : SharedInv setup request state) (call : Call) :
    Since request state call state.events where
  barrier barrier isBarrier _ _ := by
    have bounds := inv.order barrier isBarrier
    omega
  forced _ := inv.started call

theorem Current.since {call : Call} {readAt : ℕ}
    (current : Current state (dbKey (request call).config) readAt)
    (forced : (request call).kind.forced → state.startedAt call ≤ readAt) :
    Since request state call readAt where
  barrier barrier isBarrier same _ := current barrier isBarrier same
  forced := forced

/-- A phase that relies on no read, waits for nobody and leads nothing. -/
theorem CallInv.idle {call : Call} {phase : CallPhase Call}
    (noReads : phase.reads = []) (leadsNone : phase.led = none)
    (waitsNone : ∀ leader since, phase ≠ .waiting leader since)
    (unsignalled : phase.unsignalled = true → state.flown call = none) :
    CallInv request state call phase where
  reads readAt isRead := by
    simp [noReads] at isRead
  led readAt isLed := by
    simp [leadsNone] at isLed
  waits leader since isWaiting := absurd isWaiting (waitsNone leader since)
  unsignalled := unsignalled

/-- A phase past the schema read. -/
theorem CallInv.holds {call : Call} {phase : CallPhase Call}
    (reads : ∀ readAt ∈ phase.reads, Since request state call readAt)
    (leadsNone : phase.led = none)
    (waitsNone : ∀ leader since, phase ≠ .waiting leader since)
    (signalled : phase.unsignalled = false) :
    CallInv request state call phase where
  reads := reads
  led readAt isLed := by
    simp [leadsNone] at isLed
  waits leader since isWaiting := absurd isWaiting (waitsNone leader since)
  unsignalled isUnsignalled := by
    simp [signalled] at isUnsignalled

/-- What calls rely on is untouched by a step that only adds barriers that
complete now. -/
theorem CallInv.mono {call : Call} {phase : CallPhase Call}
    (holds : CallInv request state call phase)
    (barriers : ∀ barrier ∈ next.barriers, barrier ∈ state.barriers ∨
      next.startedAt call ≤ barrier.completed)
    (started : next.startedAt call = state.startedAt call)
    (began : next.readBegan = state.readBegan)
    (flown : next.flown call = state.flown call) :
    CallInv request next call phase := by
  have since : ∀ readAt, Since request state call readAt →
      Since request next call readAt := by
    intro readAt old
    refine ⟨?_, fun forced => started ▸ old.forced forced⟩
    intro barrier isBarrier same before
    rcases barriers barrier isBarrier with isOld | late
    · exact old.barrier barrier isOld same (started ▸ before)
    · omega
  exact ⟨fun readAt isRead => since readAt (holds.reads readAt isRead),
    fun readAt isLed => began ▸ holds.led readAt isLed,
    fun leader time isWaiting readAt isBegan => since readAt
      (holds.waits leader time isWaiting readAt (began ▸ isBegan)),
    fun isUnsignalled => flown ▸ holds.unsignalled isUnsignalled⟩

/-! ### The shared maps -/

theorem inv_advance (inv : SharedInv setup request state) :
    SharedInv setup request { state with events := state.events + 1 } := by
  refine ⟨?_, ?_, inv.cached, inv.named, inv.kept, inv.flown, ?_⟩
  · intro barrier isBarrier
    have bounds := inv.order barrier isBarrier
    exact ⟨bounds.1, Nat.le_succ_of_le bounds.2⟩
  · intro call
    exact Nat.le_succ_of_le (inv.started call)
  · intro call
    exact (inv.calls call).mono (fun _ isOld => Or.inl isOld) rfl rfl rfl

theorem inv_tick (inv : SharedInv setup request state) (elapsed : ℕ) :
    SharedInv setup request { state with now := state.now + elapsed } := by
  refine ⟨inv.order, inv.started, ?_, inv.named, inv.kept, inv.flown, ?_⟩
  · intro key entry isCached
    have parts := cached_eq_some.mp isCached
    have young : state.now - entry.cachedAt < setup.ttl := by
      have later := parts.2.2
      simp only at later
      omega
    exact inv.cached key entry (cached_eq_some.mpr ⟨parts.1, parts.2.1, young⟩)
  · intro call
    exact (inv.calls call).mono (fun _ isOld => Or.inl isOld) rfl rfl rfl

theorem inv_commit (inv : SharedInv setup request state)
    (target : PhysicalTarget) :
    SharedInv setup request
      { state with commits := ⟨target, state.events⟩ :: state.commits } := by
  refine ⟨inv.order, inv.started, inv.cached, inv.named, inv.kept, inv.flown,
    ?_⟩
  intro call
  exact (inv.calls call).mono (fun _ isOld => Or.inl isOld) rfl rfl rfl

/-- After an invalidation nothing is left of the key. -/
theorem inv_drop (inv : SharedInv setup request state) (key : String) :
    SharedInv setup request (state.drop key) := by
  have grown : ∀ other readAt, other ≠ key → Current state other readAt →
      Current (state.drop key) other readAt := by
    intro other readAt different current barrier isBarrier same
    rcases List.mem_cons.mp isBarrier with rfl | isOld
    · exact absurd same.symm different
    · exact current barrier isOld same
  have keptBefore : ∀ contextKey context,
      (state.drop key).contexts contextKey = some context →
      state.contexts contextKey = some context ∧
        ¬ startsWith contextKey (key ++ "|") := by
    intro contextKey context isKept
    simp only [SharedState.drop] at isKept
    split at isKept
    · cases isKept
    · rename_i survives
      exact ⟨isKept, fun starts => survives (Or.inr starts)⟩
  refine ⟨?_, inv.started, ?_, ?_, ?_, inv.flown, ?_⟩
  · intro barrier isBarrier
    rcases List.mem_cons.mp isBarrier with rfl | isOld
    · exact ⟨le_rfl, le_rfl⟩
    · exact inv.order barrier isOld
  · intro other entry isCached
    have parts := cached_eq_some.mp isCached
    by_cases same : other = key
    · have gone := parts.2.1
      simp [SharedState.drop, same] at gone
    · have before : state.cached setup other = some entry := by
        have present := parts.2.1
        simp only [SharedState.drop, Function.update_of_ne same] at present
        exact cached_eq_some.mpr ⟨parts.1, present, parts.2.2⟩
      exact grown other entry.read.readAt same (inv.cached other entry before)
  · intro contextKey context isKept
    exact inv.named contextKey context (keptBefore contextKey context isKept).1
  · intro contextKey context isKept notSuperseded
    have before := keptBefore contextKey context isKept
    refine grown _ _ ?_ (inv.kept contextKey context before.1 notSuperseded)
    rintro rfl
    obtain ⟨schema, rfl⟩ := inv.named contextKey context before.1
    exact before.2 (startsWith_ctxKey context.createdFor _)
  · intro call
    refine (inv.calls call).mono ?_ rfl rfl rfl
    intro barrier isBarrier
    rcases List.mem_cons.mp isBarrier with rfl | isOld
    · exact Or.inr (inv.started call)
    · exact Or.inl isOld

theorem inv_applyRemoteInvalidation (inv : SharedInv setup request state)
    (payload : Option String) :
    SharedInv setup request (state.applyRemoteInvalidation payload) := by
  cases payload with
  | none =>
      exact inv
  | some key =>
      simp only [SharedState.applyRemoteInvalidation]
      split
      · exact inv
      · exact inv_drop inv key

/-- A cached schema is put in place, or taken away. -/
theorem inv_cache (inv : SharedInv setup request state) (key : String)
    (entry : Option CachedRead)
    (current : ∀ present, entry = some present →
      Current state key present.read.readAt) :
    SharedInv setup request
      { state with
        schemaCache := Function.update state.schemaCache key entry } := by
  refine ⟨inv.order, inv.started, ?_, inv.named, inv.kept, inv.flown, ?_⟩
  · intro other present isCached
    have parts := cached_eq_some.mp isCached
    by_cases same : other = key
    · subst same
      have isEntry := parts.2.1
      simp only [Function.update_self] at isEntry
      exact current present isEntry
    · have isOld := parts.2.1
      simp only [Function.update_of_ne same] at isOld
      exact inv.cached other present
        (cached_eq_some.mpr ⟨parts.1, isOld, parts.2.2⟩)
  · intro call
    exact (inv.calls call).mono (fun _ isOld => Or.inl isOld) rfl rfl rfl

theorem inv_flights (inv : SharedInv setup request state)
    (flights : String → Option Call) :
    SharedInv setup request { state with flights := flights } := by
  refine ⟨inv.order, inv.started, inv.cached, inv.named, inv.kept, inv.flown,
    ?_⟩
  intro call
  exact (inv.calls call).mono (fun _ isOld => Or.inl isOld) rfl rfl rfl

theorem inv_sharedInitial (isInitial : SharedInitial state) :
    SharedInv setup request state where
  order barrier isBarrier := by
    simp [isInitial.noBarriers] at isBarrier
  started call := by
    simp [(isInitial.noCalls call).2]
  cached key entry isCached := by
    have present := (cached_eq_some.mp isCached).2.1
    simp [isInitial.noSchemas] at present
  named contextKey context isKept := by
    simp [isInitial.noContexts] at isKept
  kept contextKey context isKept := by
    simp [isInitial.noContexts] at isKept
  flown call read isFlown := by
    simp [(isInitial.noReads call).2] at isFlown
  calls call := by
    rw [(isInitial.noCalls call).1]
    exact CallInv.idle rfl rfl (by simp) (fun _ => (isInitial.noReads call).2)

/-- An answer rests on its call's reads. -/
theorem answersFresh_of_inv (inv : SharedInv setup request state) :
    AnswersFresh request state := by
  intro call read context answered
  have holds := inv.calls call
  rw [answered] at holds
  have sinceRead := holds.reads read.readAt (by simp [CallPhase.reads])
  have sinceContext :=
    holds.reads context.read.readAt (by simp [CallPhase.reads])
  refine ⟨?_, ?_⟩
  · intro forced commit _ _ before
    have own := sinceContext.forced forced
    omega
  · intro barrier isBarrier same before
    exact ⟨sinceRead.barrier barrier isBarrier same before,
      sinceContext.barrier barrier isBarrier same before⟩

/-! ### One step of a call -/

variable [DecidableEq Call]

theorem inv_move (inv : SharedInv setup request state) {call : Call}
    {phase : CallPhase Call} (holds : CallInv request state call phase) :
    SharedInv setup request (state.setPhase call phase) := by
  refine ⟨inv.order, inv.started, inv.cached, inv.named, inv.kept, inv.flown,
    ?_⟩
  intro other
  have others : CallInv request state other
      ((state.setPhase call phase).phase other) := by
    by_cases same : other = call
    · subst same
      simpa [SharedState.setPhase] using holds
    · simpa [SharedState.setPhase, same] using inv.calls other
  exact ⟨fun readAt isRead =>
      ⟨(others.reads readAt isRead).barrier, (others.reads readAt isRead).forced⟩,
    others.led, fun leader since isWaiting readAt began =>
      ⟨(others.waits leader since isWaiting readAt began).barrier,
        (others.waits leader since isWaiting readAt began).forced⟩,
    others.unsignalled⟩

/-- The call has not relied on anything yet. -/
theorem inv_start (inv : SharedInv setup request state) {call : Call}
    (ready : state.phase call = .ready) :
    SharedInv setup request
      { state with
        startedAt :=
          Function.update state.startedAt call state.events } := by
  refine ⟨inv.order, ?_, inv.cached, inv.named, inv.kept, inv.flown, ?_⟩
  · intro other
    by_cases same : other = call
    · simp [same]
    · simpa [same] using inv.started other
  · intro other
    by_cases same : other = call
    · subst same
      have before := inv.calls other
      simp only [ready] at before ⊢
      exact CallInv.idle rfl rfl (by simp) before.unsignalled
    · exact (inv.calls other).mono (fun _ isOld => Or.inl isOld)
        (Function.update_of_ne same _ _) rfl rfl

/-- Sharers of a flight whose read begins now have waited since before it. -/
theorem inv_beginRead (inv : SharedInv setup request state) {call : Call}
    {leads : Bool} (fetching : state.phase call = .fetching leads) :
    SharedInv setup request
      (({ state with
          readBegan := Function.update state.readBegan call
            (some state.events) } : SharedState Call).setPhase call
        (.reading leads state.events)) := by
  have unsignalled : state.flown call = none :=
    (inv.calls call).unsignalled (by rw [fetching]; rfl)
  have waits : ∀ other leader since, state.phase other = .waiting leader since →
      ∀ readAt,
        Function.update state.readBegan call (some state.events) leader =
          some readAt →
        Since request state other readAt := by
    intro other leader since isWaiting readAt began
    by_cases same : leader = call
    · simp only [same, Function.update_self, Option.some.injEq] at began
      exact began ▸ Since.now inv other
    · rw [Function.update_of_ne same] at began
      exact (inv.calls other).waits leader since isWaiting readAt began
  refine ⟨inv.order, inv.started, inv.cached, inv.named, inv.kept, ?_, ?_⟩
  · intro other read isFlown
    have different : other ≠ call := by
      rintro rfl
      exact absurd (unsignalled.symm.trans isFlown) (by simp)
    have began := inv.flown other read isFlown
    simpa [SharedState.setPhase, different] using began
  · intro other
    by_cases same : other = call
    · subst same
      have now := Since.now inv other
      simp only [SharedState.setPhase, Function.update_self]
      refine ⟨?_, ?_, by simp, fun _ => unsignalled⟩
      · intro readAt isRead
        have isNow : readAt = state.events := by
          simpa [CallPhase.reads] using isRead
        rw [isNow]
        exact ⟨now.barrier, now.forced⟩
      · intro readAt isLed
        cases leads with
        | false =>
            cases isLed
        | true =>
            cases isLed
            simp
    · have before := inv.calls other
      simp only [SharedState.setPhase, Function.update_of_ne same]
      refine ⟨?_, ?_, ?_, before.unsignalled⟩
      · intro readAt isRead
        have since := before.reads readAt isRead
        exact ⟨since.barrier, since.forced⟩
      · intro readAt isLed
        simpa [same] using before.led readAt isLed
      · intro leader since isWaiting readAt began
        have old := waits other leader since isWaiting readAt began
        exact ⟨old.barrier, old.forced⟩

/-- The flight's sharers find what its leader read. -/
theorem inv_signal (inv : SharedInv setup request state) {call : Call}
    {outcome : Option SchemaRead} (landed : state.phase call = .landed outcome) :
    SharedInv setup request
      (({ state with
          flown := Function.update state.flown call (some outcome) } :
            SharedState Call).setPhase call (.afterFlight outcome)) := by
  have before := inv.calls call
  rw [landed] at before
  refine ⟨inv.order, inv.started, inv.cached, inv.named, inv.kept, ?_, ?_⟩
  · intro other read isFlown
    by_cases same : other = call
    · subst same
      have isOutcome : outcome = some read := by
        simpa [SharedState.setPhase] using isFlown
      subst isOutcome
      exact before.led read.readAt rfl
    · have isOld : state.flown other = some (some read) := by
        simpa [SharedState.setPhase, same] using isFlown
      exact inv.flown other read isOld
  · intro other
    by_cases same : other = call
    · subst same
      simp only [SharedState.setPhase, Function.update_self]
      cases outcome with
      | none =>
          simp only [CallPhase.afterFlight]
          exact CallInv.idle rfl rfl (by simp) (by simp [CallPhase.unsignalled])
      | some read =>
          simp only [CallPhase.afterFlight]
          refine CallInv.holds ?_ rfl (by simp) rfl
          intro readAt isRead
          have since := before.reads readAt isRead
          exact ⟨since.barrier, since.forced⟩
    · simp only [SharedState.setPhase, Function.update_of_ne same]
      exact (inv.calls other).mono (fun _ isOld => Or.inl isOld) rfl rfl
        (Function.update_of_ne same _ _)

/-- A context that is found is no older than what has completed. -/
theorem inv_find (inv : SharedInv setup request state) {call : Call}
    {read : SchemaRead} {context : PreparedContext}
    (resolved : state.phase call = .resolved read)
    (isKept : state.contexts
      (ctxKey (request call).config (setup.schemaHash read.schema)) =
        some context)
    (isGet : (request call).kind.forced = false)
    (notSuperseded : state.superseded
      (ctxKey (request call).config (setup.schemaHash read.schema)) = false) :
    SharedInv setup request
      (state.setPhase call (.answered read context)) := by
  have before := inv.calls call
  rw [resolved] at before
  obtain ⟨schema, sameKey⟩ := inv.named _ context isKept
  have sameDb : dbKey (request call).config = dbKey context.createdFor :=
    (ctxKey_injective (setup.schemaHash_plain _) (setup.schemaHash_plain _)
      sameKey).1
  have current := inv.kept _ context isKept notSuperseded
  rw [← sameDb] at current
  refine inv_move inv (CallInv.holds ?_ rfl (by simp) rfl)
  intro readAt isRead
  simp only [CallPhase.reads, List.mem_cons, List.not_mem_nil, or_false]
    at isRead
  rcases isRead with rfl | rfl
  · exact before.reads _ (by simp [CallPhase.reads])
  · exact current.since (by simp [isGet])

omit [DecidableEq Call] in
theorem not_olderThan {key contextKey : String} {before : ℕ}
    {context : PreparedContext}
    (isKept : state.contexts contextKey = some context)
    (sameDb : dbKey context.createdFor = key)
    (young : state.olderThan key before contextKey = false) :
    before ≤ context.read.readAt := by
  simpa [SharedState.olderThan, isKept, sameDb] using young

/-- A context is installed; if that completes a rebuild, everything else that is
left of the key is no older than the rebuild, or marked. -/
theorem inv_install (inv : SharedInv setup request state) {call : Call}
    {read : SchemaRead} (building : state.phase call = .building read)
    (current : Current state (dbKey (request call).config) read.readAt)
    (cached : (request call).kind.forced → ∀ entry,
      state.cached setup (dbKey (request call).config) = some entry →
      state.startedAt call ≤ entry.read.readAt) :
    SharedInv setup request
      (state.install setup (request call) call read) := by
  have before := inv.calls call
  rw [building] at before
  have since := before.reads read.readAt (by simp [CallPhase.reads])
  -- The barrier a rebuild adds is its own.
  have grown : ∀ key readAt, Current state key readAt →
      ((request call).kind.forced → key = dbKey (request call).config →
        state.startedAt call ≤ readAt) →
      Current (state.install setup (request call) call read) key readAt := by
    intro key readAt old own barrier isBarrier same
    simp only [SharedState.install] at isBarrier
    split at isBarrier
    · rename_i forced
      rcases List.mem_cons.mp isBarrier with rfl | isOld
      · exact own forced same.symm
      · exact old barrier isOld same
    · exact old barrier isBarrier same
  refine ⟨?_, inv.started, ?_, ?_, ?_, inv.flown, ?_⟩
  · intro barrier isBarrier
    simp only [SharedState.install] at isBarrier
    split at isBarrier
    · rcases List.mem_cons.mp isBarrier with rfl | isOld
      · exact ⟨inv.started call, le_rfl⟩
      · exact inv.order barrier isOld
    · exact inv.order barrier isBarrier
  · intro key entry isCached
    refine grown key entry.read.readAt (inv.cached key entry isCached) ?_
    rintro forced rfl
    exact cached forced entry isCached
  · intro contextKey context isKept
    by_cases same : contextKey =
        ctxKey (request call).config (setup.schemaHash read.schema)
    · subst same
      simp only [SharedState.install, Function.update_self,
        Option.some.injEq] at isKept
      subst isKept
      exact ⟨read.schema, rfl⟩
    · simp only [SharedState.install, Function.update_of_ne same] at isKept
      exact inv.named contextKey context isKept
  · intro contextKey context isKept notSuperseded
    by_cases same : contextKey =
        ctxKey (request call).config (setup.schemaHash read.schema)
    · subst same
      simp only [SharedState.install, Function.update_self,
        Option.some.injEq] at isKept
      subst isKept
      exact grown _ _ current (fun forced _ => since.forced forced)
    · simp only [SharedState.install, Function.update_of_ne same] at isKept
      simp only [SharedState.install, Function.update_of_ne same,
        Bool.or_eq_false_iff] at notSuperseded
      refine grown _ _ (inv.kept contextKey context isKept notSuperseded.1) ?_
      intro forced sameDb
      have young := notSuperseded.2
      simp only [forced, Bool.true_and] at young
      exact not_olderThan isKept sameDb young
  · intro other
    have barriers : ∀ barrier ∈
        (state.install setup (request call) call read).barriers,
        barrier ∈ state.barriers ∨
          state.startedAt other ≤ barrier.completed := by
      intro barrier isBarrier
      simp only [SharedState.install] at isBarrier
      split at isBarrier
      · rcases List.mem_cons.mp isBarrier with rfl | isOld
        · exact Or.inr (inv.started other)
        · exact Or.inl isOld
      · exact Or.inl isBarrier
    by_cases same : other = call
    · subst same
      have answered : CallInv request state other
          (.answered read ⟨(request other).config, read⟩) := by
        refine CallInv.holds ?_ rfl (by simp) rfl
        intro readAt isRead
        have isSame : readAt = read.readAt := by
          simpa [CallPhase.reads] using isRead
        exact isSame ▸ since
      have after : CallInv request
          (state.install setup (request other) other read) other
          (.answered read ⟨(request other).config, read⟩) :=
        answered.mono barriers rfl rfl rfl
      simpa [SharedState.install] using after
    · have after : CallInv request
          (state.install setup (request call) call read) other
          (state.phase other) :=
        (inv.calls other).mono barriers rfl rfl rfl
      simpa [SharedState.install, same] using after

/-- A call that has not read yet rests on nothing. -/
theorem inv_rest (inv : SharedInv setup request state) {call : Call}
    {phase : CallPhase Call} (before : (state.phase call).unsignalled = true)
    (noReads : phase.reads = []) (leadsNone : phase.led = none)
    (waitsNone : ∀ leader since, phase ≠ .waiting leader since) :
    SharedInv setup request (state.setPhase call phase) := by
  have unsignalled : state.flown call = none :=
    (inv.calls call).unsignalled before
  exact inv_move inv (CallInv.idle noReads leadsNone waitsNone fun _ => unsignalled)

theorem inv_ofStart (inv : SharedInv setup request state) {call : Call}
    (acted : sharedAct setup request state (.start call) = some next) :
    SharedInv setup request next := by
  simp only [sharedAct] at acted
  split at acted
  · rename_i ready
    cases acted
    have started := inv_start inv ready
    have unsignalled : (state.phase call).unsignalled = true := by
      rw [ready]
      rfl
    split
    · exact inv_rest started unsignalled rfl rfl (by simp)
    · exact inv_rest started unsignalled rfl rfl (by simp)
  · cases acted

theorem inv_ofDropCached (inv : SharedInv setup request state) {call : Call}
    (acted : sharedAct setup request state (.dropCached call) = some next) :
    SharedInv setup request next := by
  simp only [sharedAct] at acted
  split at acted
  · rename_i entered
    cases acted
    have dropped : SharedInv setup request { state with
        schemaCache := Function.update state.schemaCache
          (dbKey (request call).config) none } :=
      inv_cache inv _ none (by simp)
    refine inv_rest dropped ?_ rfl rfl (by simp)
    rw [entered]
    rfl
  · cases acted

/-- A schema that is found in the cache is no older than the call asks for. -/
theorem inv_ofLookup (inv : SharedInv setup request state) {call : Call}
    (inTime : InTime setup request state (.lookup call))
    (acted : sharedAct setup request state (.lookup call) = some next) :
    SharedInv setup request next := by
  simp only [sharedAct] at acted
  split at acted
  · rename_i resolving
    split at acted
    · rename_i entry isCached
      cases acted
      refine inv_move inv (CallInv.holds ?_ rfl (by simp) rfl)
      intro readAt isRead
      have isSame : readAt = entry.read.readAt := by
        simpa [CallPhase.reads] using isRead
      rw [isSame]
      exact (inv.cached _ entry isCached).since
        (fun forced => inTime forced entry isCached)
    · cases acted
      refine inv_rest inv ?_ rfl rfl (by simp)
      rw [resolving]
      rfl
  · cases acted

theorem inv_ofEnlist (inv : SharedInv setup request state) {call : Call}
    (inTime : InTime setup request state (.enlist call))
    (acted : sharedAct setup request state (.enlist call) = some next) :
    SharedInv setup request next := by
  simp only [sharedAct] at acted
  split at acted
  · rename_i missed
    have before : (state.phase call).unsignalled = true := by
      rw [missed]
      rfl
    split at acted
    · rename_i leader isFlight
      cases acted
      refine inv_move inv ⟨by simp [CallPhase.reads],
        by simp [CallPhase.led], ?_, fun _ => (inv.calls call).unsignalled before⟩
      intro other since isWaiting readAt began
      cases isWaiting
      exact inTime leader readAt isFlight began
    · cases acted
      exact inv_rest (inv_flights inv _) before rfl rfl (by simp)
  · cases acted

/-- A sharer takes what its leader has read, or reads for itself. -/
theorem inv_ofWake (inv : SharedInv setup request state) {call : Call}
    (acted : sharedAct setup request state (.wake call) = some next) :
    SharedInv setup request next := by
  simp only [sharedAct] at acted
  split at acted
  · rename_i leader since waiting
    have alone : SharedInv setup request
        (state.setPhase call (.fetching false)) := by
      refine inv_rest inv ?_ rfl rfl (by simp)
      rw [waiting]
      rfl
    have before := inv.calls call
    rw [waiting] at before
    split at acted
    · split at acted
      · rename_i read isShared
        cases acted
        refine inv_move inv (CallInv.holds ?_ rfl (by simp) rfl)
        intro readAt isRead
        have isSame : readAt = read.readAt := by
          simpa [CallPhase.reads] using isRead
        have isFlown : state.flown leader = some (some read) :=
          Option.join_eq_some_iff.mp isShared
        rw [isSame]
        exact before.waits leader since rfl read.readAt
          (inv.flown leader read isFlown)
      · cases acted
        exact alone
    · split at acted
      · cases acted
        exact alone
      · cases acted
  · cases acted

theorem inv_ofEndRead (inv : SharedInv setup request state) {call : Call}
    {schema : Option Schema}
    (acted : sharedAct setup request state (.endRead call schema) = some next) :
    SharedInv setup request next := by
  simp only [sharedAct] at acted
  split at acted
  · rename_i readAt reading
    cases acted
    have before := inv.calls call
    rw [reading] at before
    have unsignalled : state.flown call = none := before.unsignalled rfl
    cases schema with
    | none =>
        exact inv_move inv
          (CallInv.idle rfl rfl (by simp) (fun _ => unsignalled))
    | some schema =>
        exact inv_move inv
          ⟨before.reads, before.led, by simp, fun _ => unsignalled⟩
  · rename_i readAt reading
    have before := inv.calls call
    rw [reading] at before
    cases schema with
    | none =>
        cases acted
        exact inv_move inv (CallInv.idle rfl rfl (by simp)
          (by simp [CallPhase.unsignalled]))
    | some schema =>
        cases acted
        exact inv_move inv (CallInv.holds before.reads rfl (by simp) rfl)
  · cases acted

theorem inv_ofTakeDown (inv : SharedInv setup request state) {call : Call}
    (acted : sharedAct setup request state (.takeDown call) = some next) :
    SharedInv setup request next := by
  simp only [sharedAct] at acted
  split at acted
  · rename_i outcome fetched
    cases acted
    have before := (inv_flights inv (Function.update state.flights
      (dbKey (request call).config) none)).calls call
    simp only [fetched] at before
    refine inv_move (inv_flights inv _) ⟨?_, ?_, by simp, fun _ =>
      before.unsignalled rfl⟩
    · cases outcome with
      | none =>
          simp [CallPhase.reads]
      | some read =>
          exact before.reads
    · cases outcome with
      | none =>
          simp [CallPhase.led]
      | some read =>
          exact before.led
  · cases acted

/-- What is written back is no older than what has completed. -/
theorem inv_ofWriteBack (inv : SharedInv setup request state) {call : Call}
    (inTime : InTime setup request state (.writeBack call))
    (acted : sharedAct setup request state (.writeBack call) = some next) :
    SharedInv setup request next := by
  simp only [sharedAct] at acted
  split at acted
  · rename_i read writing
    cases acted
    have before := inv.calls call
    rw [writing] at before
    split
    · refine inv_move (inv_cache inv _ _ ?_)
        (CallInv.holds ?_ rfl (by simp) rfl)
      · intro present isPresent
        cases isPresent
        exact inTime read writing
      · intro readAt isRead
        have since := before.reads readAt isRead
        exact ⟨since.barrier, since.forced⟩
    · exact inv_move inv (CallInv.holds before.reads rfl (by simp) rfl)
  · cases acted

theorem inv_ofFind (inv : SharedInv setup request state) {call : Call}
    (inTime : InTime setup request state (.find call))
    (acted : sharedAct setup request state (.find call) = some next) :
    SharedInv setup request next := by
  simp only [sharedAct] at acted
  split at acted
  · rename_i read resolved
    have before := inv.calls call
    rw [resolved] at before
    have building : SharedInv setup request
        (state.setPhase call (.building read)) :=
      inv_move inv (CallInv.holds before.reads rfl (by simp) rfl)
    split at acted
    · rename_i context isKept
      split at acted
      · cases acted
        exact building
      · rename_i notForced
        cases acted
        have isGet : (request call).kind.forced = false := by
          simpa using notForced
        exact inv_find inv resolved isKept isGet
          (inTime isGet read resolved (by simp [isKept]))
    · cases acted
      exact building
  · cases acted

theorem inv_act {label : SharedLabel Call} (inv : SharedInv setup request state)
    (inTime : InTime setup request state label)
    (acted : sharedAct setup request state label = some next) :
    SharedInv setup request next := by
  cases label with
  | tick elapsed =>
      cases acted
      exact inv_tick inv elapsed
  | commit target =>
      cases acted
      exact inv_commit inv target
  | invalidate config =>
      cases acted
      exact inv_drop inv (dbKey config)
  | deliver payload =>
      cases acted
      exact inv_applyRemoteInvalidation inv payload
  | start call => exact inv_ofStart inv acted
  | dropCached call => exact inv_ofDropCached inv acted
  | lookup call => exact inv_ofLookup inv inTime acted
  | enlist call => exact inv_ofEnlist inv inTime acted
  | wake call => exact inv_ofWake inv acted
  | beginRead call =>
      simp only [sharedAct] at acted
      split at acted
      · rename_i leads fetching
        cases acted
        exact inv_beginRead inv fetching
      · cases acted
  | endRead call schema => exact inv_ofEndRead inv acted
  | takeDown call => exact inv_ofTakeDown inv acted
  | signal call =>
      simp only [sharedAct] at acted
      split at acted
      · rename_i outcome landed
        cases acted
        exact inv_signal inv landed
      · cases acted
  | writeBack call => exact inv_ofWriteBack inv inTime acted
  | find call => exact inv_ofFind inv inTime acted
  | install call =>
      simp only [sharedAct] at acted
      split at acted
      · rename_i read building
        cases acted
        have parts := inTime read building
        exact inv_install inv building parts.1 parts.2
      · cases acted
  | abandon call =>
      simp only [sharedAct] at acted
      split at acted
      · cases acted
        exact inv_move inv (CallInv.idle rfl rfl (by simp)
          (by simp [CallPhase.unsignalled]))
      · cases acted

theorem inv_sharedStep {label : SharedLabel Call}
    (inv : SharedInv setup request state)
    (inTime : InTime setup request state label)
    (stepped : sharedStep setup request state label = some next) :
    SharedInv setup request next := by
  simp only [sharedStep, Option.map_eq_some_iff] at stepped
  obtain ⟨after, acted, rfl⟩ := stepped
  exact inv_advance (inv_act inv inTime acted)

end Invariant

/-- In every run whose steps are all in time, every answer is fresh. -/
theorem answers_fresh [DecidableEq Call] (setup : SharedSetup) (request : Call → Request)
    (state : SharedState Call)
    (reachable : (sharedSystem setup request).ReachableUnder
      (InTime setup request) state) :
    AnswersFresh request state := by
  have inv : SharedInv setup request state :=
    TransitionSystem.ReachableUnder.invariant (SharedInv setup request)
      (fun _ isInitial => inv_sharedInitial isInitial)
      (fun _ _ _ holds inTime stepped => inv_sharedStep holds inTime stepped)
      reachable
  exact answersFresh_of_inv inv

/-! ### A rebuild that joins a read from before the schema change -/

inductive Caller where
  | query
  | analyze
  | later
  deriving DecidableEq

def ledgerTarget : DBConfig where
  host := "h"
  user := "ana"
  password := "pw"
  database := "d"
  port := none
  dbSchema := none
  engine := .mysql
  ai := false

def ledgerRequest : Caller → Request
  | .query => ⟨ledgerTarget, .get⟩
  | .analyze => ⟨ledgerTarget, .rebuild⟩
  | .later => ⟨ledgerTarget, .get⟩

theorem ledgerHash_plain :
    Schema → '|' ∉ "7b809f480c851baf618690b46950b9ce".toList := by
  simp

def ledgerSetup : SharedSetup where
  ttl := 5
  schemaHash _ := "7b809f480c851baf618690b46950b9ce"
  dbId _ := "0cc175b9c0f1"
  mapSchema _ := []
  schemaHash_plain := ledgerHash_plain
  flightWait := 30

def ledgerSystem : TransitionSystem (SharedState Caller) (SharedLabel Caller) :=
  sharedSystem ledgerSetup ledgerRequest

def idleStore : SharedState Caller where
  events := 0
  now := 0
  schemaCache _ := none
  flights _ := none
  flown _ := none
  contexts _ := none
  phase _ := .ready
  commits := []
  barriers := []
  superseded _ := false
  startedAt _ := 0
  readBegan _ := none

theorem idleStore_initial : ledgerSystem.initial idleStore :=
  ⟨fun _ => rfl, fun _ => rfl, fun _ => rfl, fun _ => ⟨rfl, rfl⟩,
    fun _ => ⟨rfl, rfl⟩, rfl, rfl⟩

def ledgerRun (labels : List (SharedLabel Caller)) : SharedState Caller :=
  (ledgerSystem.exec idleStore labels).getD idleStore

def oldOrders : Schema := [("orders", ["id"])]

def newOrders : Schema := [("orders", ["id", "total"])]

def queryReads : List (SharedLabel Caller) :=
  [.start .query, .lookup .query, .enlist .query, .beginRead .query]

def queryLands : List (SharedLabel Caller) :=
  [.endRead .query (some oldOrders), .takeDown .query, .signal .query]

/-- The query is still reading when a column is added and the rebuild starts. -/
def joinedRun : List (SharedLabel Caller) :=
  queryReads ++
    [.commit ledgerTarget.target, .start .analyze, .dropCached .analyze,
      .lookup .analyze, .enlist .analyze] ++
    queryLands ++
    [.wake .analyze, .writeBack .analyze, .find .analyze, .install .analyze]

/-- The query is still reading when a column is added and the database is
invalidated. -/
def writtenBackRun : List (SharedLabel Caller) :=
  queryReads ++
    [.commit ledgerTarget.target, .invalidate ledgerTarget] ++
    queryLands ++
    [.writeBack .query, .start .later, .lookup .later, .find .later,
      .install .later]

/-- The rebuild returns what was read before the schema change, and a later call
what was read before the invalidation. -/
theorem answers_stale :
    (∃ state, ledgerSystem.Reachable state ∧
        state.phase .analyze = .answered ⟨oldOrders, 3⟩
          ⟨ledgerTarget, ⟨oldOrders, 3⟩⟩ ∧
        ¬ AnswersFresh ledgerRequest state) ∧
      ∃ state, ledgerSystem.Reachable state ∧
        state.phase .later = .answered ⟨oldOrders, 3⟩
          ⟨ledgerTarget, ⟨oldOrders, 3⟩⟩ ∧
        ¬ AnswersFresh ledgerRequest state := by
  refine ⟨⟨ledgerRun joinedRun, ?_, rfl, fun fresh => ?_⟩,
    ⟨ledgerRun writtenBackRun, ?_, rfl, fun fresh => ?_⟩⟩
  · exact TransitionSystem.reachable_of_exec joinedRun idleStore_initial rfl
  · have stale := (fresh .analyze _ _ rfl).rebuild rfl
      ⟨ledgerTarget.target, 4⟩ (by decide) rfl (by decide)
    exact absurd stale (by decide)
  · exact TransitionSystem.reachable_of_exec writtenBackRun idleStore_initial
      rfl
  · have stale := (fresh .later _ _ rfl).barrier ⟨dbKey ledgerTarget, 5, 5⟩
      (by decide) rfl (by decide)
    exact absurd stale.1 (by decide)

/-! ### A rebuild that reads for itself -/

def analyzeStarts : List (SharedLabel Caller) :=
  [.commit ledgerTarget.target, .start .analyze, .dropCached .analyze]

def analyzeReads : List (SharedLabel Caller) :=
  [.beginRead .analyze, .endRead .analyze (some newOrders), .takeDown .analyze,
    .signal .analyze]

def startedRun : List (SharedLabel Caller) :=
  analyzeStarts ++ [.lookup .analyze, .enlist .analyze] ++ analyzeReads

def rebuiltRun : List (SharedLabel Caller) :=
  startedRun ++ [.writeBack .analyze, .find .analyze, .install .analyze]

def ownReadRun : List (SharedLabel Caller) :=
  rebuiltRun ++ [.start .later, .lookup .later, .find .later]

/-! The runs between those of the four lists. -/

def missedRun : List (SharedLabel Caller) :=
  analyzeStarts.concat (.lookup .analyze)

def enlistedRun : List (SharedLabel Caller) :=
  missedRun.concat (.enlist .analyze)

def writtenRun : List (SharedLabel Caller) :=
  startedRun.concat (.writeBack .analyze)

def foundRun : List (SharedLabel Caller) :=
  writtenRun.concat (.find .analyze)

def askedRun : List (SharedLabel Caller) :=
  (rebuiltRun.concat (.start .later)).concat (.lookup .later)

/-- The rebuild's answer and the one the later query gets from the cache rest on
the read that follows the schema change. -/
theorem answers_fresh_ownRead :
    (ledgerRun ownReadRun).phase .later = .answered ⟨newOrders, 5⟩
        ⟨ledgerTarget, ⟨newOrders, 5⟩⟩ ∧
      AnswersFresh ledgerRequest (ledgerRun ownReadRun) := by
  have first : ledgerSystem.Reaches (InTime ledgerSetup ledgerRequest) idleStore
      (ledgerRun analyzeStarts) :=
    TransitionSystem.reaches_of_exec_allowed analyzeStarts
      (by simp [analyzeStarts, InTime]) rfl
  have missed : ledgerSystem.Reaches (InTime ledgerSetup ledgerRequest)
      (ledgerRun analyzeStarts)
      (ledgerRun missedRun) := by
    refine TransitionSystem.Reaches.single (.lookup .analyze) ?_ rfl
    intro _ entry isCached
    have isOwn : (none : Option CachedRead) = some entry := isCached
    cases isOwn
  have leads : ledgerSystem.Reaches (InTime ledgerSetup ledgerRequest)
      (ledgerRun missedRun)
      (ledgerRun enlistedRun) := by
    refine TransitionSystem.Reaches.single (.enlist .analyze) ?_ rfl
    intro leader readAt isFlight
    have isOwn : (none : Option Caller) = some leader := isFlight
    cases isOwn
  have read : ledgerSystem.Reaches (InTime ledgerSetup ledgerRequest)
      (ledgerRun enlistedRun)
      (ledgerRun startedRun) :=
    TransitionSystem.reaches_of_exec_allowed analyzeReads
      (by simp [analyzeReads, InTime]) rfl
  have written : ledgerSystem.Reaches (InTime ledgerSetup ledgerRequest)
      (ledgerRun startedRun)
      (ledgerRun writtenRun) := by
    refine TransitionSystem.Reaches.single (.writeBack .analyze) ?_ rfl
    intro read _ barrier isBarrier
    exact absurd isBarrier List.not_mem_nil
  have built : ledgerSystem.Reaches (InTime ledgerSetup ledgerRequest)
      (ledgerRun writtenRun)
      (ledgerRun foundRun) := by
    refine TransitionSystem.Reaches.single (.find .analyze) ?_ rfl
    intro isGet
    cases isGet
  have installed : ledgerSystem.Reaches (InTime ledgerSetup ledgerRequest)
      (ledgerRun foundRun)
      (ledgerRun rebuiltRun) := by
    refine TransitionSystem.Reaches.single (.install .analyze) ?_ rfl
    intro read _
    refine ⟨fun barrier isBarrier => absurd isBarrier List.not_mem_nil, ?_⟩
    intro _ entry isCached
    have isOwn : some (⟨⟨newOrders, 5⟩, 0⟩ : CachedRead) = some entry := isCached
    cases isOwn
    decide
  have asked : ledgerSystem.Reaches (InTime ledgerSetup ledgerRequest)
      (ledgerRun rebuiltRun)
      (ledgerRun askedRun) := by
    refine TransitionSystem.reaches_of_exec_allowed
      [.start .later, .lookup .later] ?_ rfl
    simp [InTime, ledgerRequest, CallKind.forced]
  have found : ledgerSystem.Reaches (InTime ledgerSetup ledgerRequest)
      (ledgerRun askedRun)
      (ledgerRun ownReadRun) := by
    refine TransitionSystem.Reaches.single (.find .later) ?_ rfl
    intro _ read isRead contextKey _
    have isOwn : (.resolved ⟨newOrders, 5⟩ : CallPhase Caller) =
        .resolved read := isRead
    cases isOwn
    rfl
  have run := ((((((((first.trans missed).trans leads).trans read).trans
    written).trans built).trans installed).trans asked).trans found)
  have reachable : ledgerSystem.ReachableUnder (InTime ledgerSetup ledgerRequest)
      (ledgerRun ownReadRun) := ⟨idleStore, idleStore_initial, run⟩
  exact ⟨rfl, answers_fresh ledgerSetup ledgerRequest (ledgerRun ownReadRun)
    reachable⟩

end DbBuddy.Context
