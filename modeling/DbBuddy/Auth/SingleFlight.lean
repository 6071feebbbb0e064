import DbBuddy.Auth.RevocationCache

/-!
# One database read for many calls

The first call that misses reads the row, and the calls that come while it does wait
for it.  It takes its flight down and signals it before it publishes what it has
read, so that for a moment there is neither a flight nor a value.
-/

namespace DbBuddy.Auth.SingleFlight

open DbBuddy.Library DbBuddy.Auth.RevocationCache

universe u

/-! ## Who has gone to the database -/

/-- A state and the readers that have gone to the database, in their order. -/
structure Watched (Reader : Type u) where
  state : State Reader
  reads : List Reader

/-- The database is read, or cannot be. -/
def goes {Reader : Type u} : Label Reader → List Reader
  | .fetch reader => [reader]
  | .raise reader => [reader]
  | _ => []

section Watching

variable {Reader : Type u} [DecidableEq Reader]

def watched (config : Config) (user : Reader → String) :
    TransitionSystem (Watched Reader) (Label Reader) where
  initial watch := Initial watch.state ∧ watch.reads = []
  step watch label := (step config user watch.state label).map fun next =>
    ⟨next, watch.reads ++ goes label⟩

omit [DecidableEq Reader] in
/-- Those that have gone there for one user. -/
def readsFor (user : Reader → String) (target : String) (reads : List Reader) :
    List Reader :=
  reads.filter fun reader => decide (user reader = target)

end Watching

/-! ## A flight and its calls -/

/-- The call has ended. -/
def hasEnded {Reader : Type u} : Phase Reader → Bool
  | .answered _ _ => true
  | .nobody => true
  | .failed => true
  | _ => false

/-- The leader has read, and its flight is down, but nothing is published. -/
def unpublished {Reader : Type u} : Phase Reader → Bool
  | .landed _ _ _ => true
  | _ => false

section Flight

variable {Reader : Type u} (config : Config) (user : Reader → String)
variable (leader : Reader)

/-- A leader is about to read, and every other call for its user has ended, waits for
it, or has found or will find nothing fresh. -/
structure Opened (watch : Watched Reader) : Prop where
  named : user leader ≠ ""
  leads : watch.state.phase leader =
    .reading true (watch.state.store.generation (user leader))
  flight : watch.state.store.flights (user leader) = some leader
  stale : ∀ entry, watch.state.store.cache.lookup (user leader) = some entry →
    entry.expiresAt ≤ watch.state.now
  callers : ∀ reader, user reader = user leader → reader ≠ leader →
    hasEnded (watch.state.phase reader) = true ∨
      watch.state.phase reader = .ready ∨
      (∃ now, watch.state.phase reader = .clocked now ∧
        watch.state.store.hit (user leader) now = none) ∨
      ∃ since, watch.state.phase reader = .waiting leader since
  unread : readsFor user (user leader) watch.reads = []

/-- The entry or the counter of a user is thrown away. -/
def Evicts (store : Store Reader) (now : Int) (target : String) : Prop :=
  ((store.cache.lookup target).isSome = true ∧
      (store.evict config now).cache.lookup target = none) ∨
    store.prunes config now target

/-- Once the leader has answered, its value has not expired at this time. -/
def Lasts (state : State Reader) (now : Int) : Prop :=
  hasEnded (state.phase leader) = true → ∀ entry,
    state.store.cache.lookup (user leader) = some entry → now < entry.expiresAt

/-- Nothing of the user is invalidated or thrown away, the leader's read succeeds
within the wait, and its value lasts. -/
def Calm (watch : Watched Reader) : Label Reader → Prop
  | .invalidate target _ => target ≠ some (user leader)
  | .deliver payload _ => payload ≠ some (user leader)
  | .raise reader => reader ≠ leader
  | .lookup reader => user reader = user leader →
      ∀ now, watch.state.phase reader = .clocked now →
        Lasts user leader watch.state now
  | .wake reader => user reader = user leader →
      (watch.state.phase leader).inFlight = false ∧
        Lasts user leader watch.state watch.state.now
  | .publish reader => ∀ generation account readAt,
      watch.state.phase reader = .landed generation (some account) readAt →
      watch.state.store.generation (user reader) = generation →
        ¬Evicts config (watch.state.store.touch (user reader)
          ⟨watch.state.now + config.ttl, account, readAt⟩) watch.state.now
          (user leader)
  | _ => True

/-- No call for the user looks between the end of the flight and the publication, and
the user has a row. -/
def Undisturbed (watch : Watched Reader) : Label Reader → Prop
  | .lookup reader => user reader = user leader →
      unpublished (watch.state.phase leader) = false
  | .wake reader => user reader = user leader →
      unpublished (watch.state.phase leader) = false
  | .fetch reader => reader = leader →
      (watch.state.rows (user leader)).isSome = true
  | _ => True

/-- The leader's is the one database read, and what it returns every call for its user
returns. -/
structure OneRead (start watch : Watched Reader) : Prop where
  once : (∃ generation, watch.state.phase leader = .reading true generation ∧
      readsFor user (user leader) watch.reads = []) ∨
    readsFor user (user leader) watch.reads = [leader]
  same : ∀ reader, user reader = user leader →
    hasEnded (start.state.phase reader) = false →
      hasEnded (watch.state.phase reader) = true →
        ∃ account, (watch.state.phase leader).returned = some account ∧
          (watch.state.phase reader).returned = some account

end Flight

/-! ## What the steps leave of a user's entries -/

section Stores

variable {Reader : Type u} {config : Config} {target : String}
variable {store next : Store Reader}

/-- Two stores hold the same for a user. -/
structure SameFor (target : String) (store next : Store Reader) : Prop where
  entry : next.cache.lookup target = store.cache.lookup target
  generation : next.generation target = store.generation target
  flight : next.flights target = store.flights target

theorem SameFor.hit (same : SameFor target store next) (now : Int) :
    next.hit target now = store.hit target now := by
  unfold Store.hit
  rw [same.entry]

theorem SameFor.refl (target : String) (store : Store Reader) :
    SameFor target store store :=
  ⟨rfl, rfl, rfl⟩

theorem sameFor_touch {other : String} {entry : CacheEntry} {now : Int}
    (found : store.hit other now = some entry) :
    SameFor target store (store.touch other entry) :=
  ⟨Store.touch_lookup (Store.hit_eq_some found).1 target, rfl, rfl⟩

theorem sameFor_invalidate {named : Option String} (different : named ≠ some target) :
    SameFor target store (store.invalidateRevocation named) := by
  rcases store.invalidateRevocation_cases named with same | ⟨other, isNamed, dropped⟩
  · rw [same]
    exact SameFor.refl target store
  · have isOther : target ≠ other := by
      intro same
      rw [isNamed, same] at different
      exact different rfl
    rw [dropped]
    refine ⟨?_, Store.drop_generation_of_ne isOther, rfl⟩
    exact AList.lookup_erase_ne isOther

theorem sameFor_flight {other : String}
    (different : target ≠ other) (leads : Option Reader) :
    SameFor target store
      { store with flights := Function.update store.flights other leads } :=
  ⟨rfl, rfl, Function.update_of_ne different _ _⟩

theorem SameFor.trans {last : Store Reader} (front : SameFor target store next)
    (back : SameFor target next last) : SameFor target store last :=
  ⟨back.entry.trans front.entry, back.generation.trans front.generation,
    back.flight.trans front.flight⟩

/-- Nothing of a user changes unless it is thrown away. -/
theorem sameFor_evict {now : Int} (kept : ¬Evicts config store now target) :
    SameFor target store (store.evict config now) := by
  have keptEntry : ¬((store.cache.lookup target).isSome = true ∧
      (store.evict config now).cache.lookup target = none) :=
    fun evicted => kept (Or.inl evicted)
  refine ⟨?_, ?_, ?_⟩
  · cases isAfter : (store.evict config now).cache.lookup target with
    | some entry => exact (Store.evict_lookup isAfter).symm
    | none =>
        cases isBefore : store.cache.lookup target with
        | none => rfl
        | some entry =>
            rw [isBefore] at keptEntry
            exact absurd ⟨rfl, isAfter⟩ keptEntry
  · have sameGens : (store.evict config now).gens target = store.gens target :=
      Store.evict_gens_of_not_prunes fun pruned => kept (Or.inr pruned)
    unfold Store.generation
    rw [sameGens]
  · unfold Store.evict
    split
    · rfl
    · rfl

/-- A publication for another user changes nothing. -/
theorem sameFor_publish {other : String} (different : target ≠ other)
    {generation readAt : ℕ} {account : Option AccountState} {now : Int}
    (kept : ∀ value, account = some value → store.generation other = generation →
      ¬Evicts config (store.touch other ⟨now + config.ttl, value, readAt⟩) now
        target) :
    SameFor target store
      (store.publish config other generation account readAt now) := by
  rcases store.publish_cases config other generation account readAt now with
    same | ⟨value, isValue, isGeneration, isPublished⟩
  · rw [same]
    exact SameFor.refl target store
  · rw [isPublished]
    have touched : SameFor target store
        (store.touch other ⟨now + config.ttl, value, readAt⟩) :=
      ⟨AList.lookup_insert_ne different, rfl, rfl⟩
    exact touched.trans (sameFor_evict (kept value isValue isGeneration))

end Stores

/-! ## The invariant of a flight -/

section Invariant

variable {Reader : Type u} {config : Config} {user : Reader → String}
variable {leader : Reader} {start watch : Watched Reader}

/-- How far the leader is. -/
inductive Stage (leader : Reader) (target : String) (store : Store Reader)
    (reads : List Reader) : Phase Reader → Prop
  | reading :
      store.flights target = some leader → reads = [] →
      Stage leader target store reads (.reading true (store.generation target))
  | fetched (account : AccountState) (readAt : ℕ) :
      store.flights target = some leader → reads = [leader] →
      Stage leader target store reads
        (.fetched (store.generation target) (some account) readAt)
  | landed (account : AccountState) (readAt : ℕ) :
      reads = [leader] →
      Stage leader target store reads
        (.landed (store.generation target) (some account) readAt)
  | answered (entry : CacheEntry) (readAt : ℕ) :
      store.cache.lookup target = some entry → reads = [leader] →
      Stage leader target store reads
        (.answered (some entry.account) (.database readAt))

/-- Where a call is that had not ended when the leader began: it finds nothing before
the leader has answered, and returns what that one did. -/
inductive Following (leader : Reader) (target : String) (store : Store Reader)
    (led : Phase Reader) : Phase Reader → Prop
  | ready : Following leader target store led .ready
  | clocked (now : Int) :
      (hasEnded led = false → store.hit target now = none) →
      Following leader target store led (.clocked now)
  | waiting (since : Int) : Following leader target store led (.waiting leader since)
  | answered (account : Option AccountState) (source : Source) :
      led.returned = some account →
      Following leader target store led (.answered account source)

structure Flying (user : Reader → String) (leader : Reader)
    (start watch : Watched Reader) : Prop where
  named : user leader ≠ ""
  began : hasEnded (start.state.phase leader) = false
  stage : Stage leader (user leader) watch.state.store
    (readsFor user (user leader) watch.reads) (watch.state.phase leader)
  stale : hasEnded (watch.state.phase leader) = false → ∀ entry,
    watch.state.store.cache.lookup (user leader) = some entry →
      entry.expiresAt ≤ watch.state.now
  others : ∀ reader, user reader = user leader → reader ≠ leader →
    (hasEnded (start.state.phase reader) = true ∧
        watch.state.phase reader = start.state.phase reader) ∨
      (hasEnded (start.state.phase reader) = false ∧
        Following leader (user leader) watch.state.store
          (watch.state.phase leader) (watch.state.phase reader))

theorem flying_of_opened (opened : Opened user leader start) :
    Flying user leader start start := by
  have leads := opened.leads
  have unended : hasEnded (start.state.phase leader) = false := by
    rw [leads]
    rfl
  refine ⟨opened.named, unended, ?_, fun _ => opened.stale, ?_⟩
  · rw [leads]
    exact Stage.reading opened.flight opened.unread
  · intro reader isUser different
    rcases opened.callers reader isUser different with
      ended | isReady | ⟨now, isClocked, misses⟩ | ⟨since, waits⟩
    · exact Or.inl ⟨ended, rfl⟩
    · refine Or.inr ?_
      rw [isReady]
      exact ⟨rfl, Following.ready⟩
    · refine Or.inr ?_
      rw [isClocked]
      exact ⟨rfl, Following.clocked now fun _ => misses⟩
    · refine Or.inr ?_
      rw [waits]
      exact ⟨rfl, Following.waiting since⟩

theorem Stage.once {store : Store Reader} {target : String} {reads : List Reader}
    {led : Phase Reader} (stage : Stage leader target store reads led) :
    (∃ generation, led = .reading true generation ∧ reads = []) ∨
      reads = [leader] := by
  cases stage with
  | reading _ unread => exact Or.inl ⟨_, rfl, unread⟩
  | fetched _ _ _ isRead => exact Or.inr isRead
  | landed _ _ isRead => exact Or.inr isRead
  | answered _ _ _ isRead => exact Or.inr isRead

theorem Stage.returned {store : Store Reader} {target : String} {reads : List Reader}
    {led : Phase Reader} (stage : Stage leader target store reads led)
    (ended : hasEnded led = true) : ∃ account, led.returned = some account := by
  cases stage with
  | reading _ _ => cases ended
  | fetched _ _ _ _ => cases ended
  | landed _ _ _ => cases ended
  | answered entry _ _ _ => exact ⟨some entry.account, rfl⟩

theorem oneRead_of_flying (flying : Flying user leader start watch) :
    OneRead user leader start watch := by
  refine ⟨flying.stage.once, ?_⟩
  intro reader isUser unended ended
  by_cases isLeader : reader = leader
  · rw [isLeader] at ended ⊢
    obtain ⟨account, returned⟩ := flying.stage.returned ended
    exact ⟨account, returned, returned⟩
  · rcases flying.others reader isUser isLeader with ⟨wasOver, _⟩ | ⟨_, follows⟩
    · rw [unended] at wasOver
      cases wasOver
    · generalize watch.state.phase reader = phase at follows ended
      cases follows with
      | ready => cases ended
      | clocked now misses => cases ended
      | waiting since => cases ended
      | answered account source returned => exact ⟨account, returned, rfl⟩

/-! ## What keeps the invariant -/

theorem Stage.same {store next : Store Reader} {target : String}
    {reads : List Reader} {led : Phase Reader} (same : SameFor target store next)
    (stage : Stage leader target store reads led) :
    Stage leader target next reads led := by
  cases stage with
  | reading flight unread =>
      rw [← same.generation]
      exact Stage.reading (same.flight.trans flight) unread
  | fetched account readAt flight isRead =>
      rw [← same.generation]
      exact Stage.fetched account readAt (same.flight.trans flight) isRead
  | landed account readAt isRead =>
      rw [← same.generation]
      exact Stage.landed account readAt isRead
  | answered entry readAt present isRead =>
      exact Stage.answered entry readAt (same.entry.trans present) isRead

theorem Following.same {store next : Store Reader} {target : String}
    {led phase : Phase Reader} (same : SameFor target store next)
    (follows : Following leader target store led phase) :
    Following leader target next led phase := by
  cases follows with
  | ready => exact Following.ready
  | clocked now misses =>
      exact Following.clocked now fun unended => (same.hit now).trans (misses unended)
  | waiting since => exact Following.waiting since
  | answered account source returned =>
      exact Following.answered account source returned

variable {next : Watched Reader}

/-- A step that changes nothing of the user and none of its calls. -/
theorem Flying.apart (flying : Flying user leader start watch)
    (same : SameFor (user leader) watch.state.store next.state.store)
    (later : watch.state.now ≤ next.state.now)
    (samePhases : ∀ reader, user reader = user leader →
      next.state.phase reader = watch.state.phase reader)
    (sameReads : readsFor user (user leader) next.reads =
      readsFor user (user leader) watch.reads) :
    Flying user leader start next := by
  have samePhase := samePhases leader rfl
  refine ⟨flying.named, flying.began, ?_, ?_, ?_⟩
  · rw [samePhase, sameReads]
    exact flying.stage.same same
  · rw [samePhase]
    intro unended entry present
    rw [same.entry] at present
    have wasStale := flying.stale unended entry present
    omega
  · intro reader isUser different
    rw [samePhases reader isUser, samePhase]
    exact (flying.others reader isUser different).imp id fun follows =>
      ⟨follows.1, follows.2.same same⟩

/-- A step of a call that follows the leader. -/
theorem Flying.follow [DecidableEq Reader] (flying : Flying user leader start watch)
    {caller : Reader} {phase : Phase Reader} (different : caller ≠ leader)
    (unended : hasEnded (watch.state.phase caller) = false)
    (phases : next.state.phase = Function.update watch.state.phase caller phase)
    (same : SameFor (user leader) watch.state.store next.state.store)
    (sameNow : next.state.now = watch.state.now)
    (sameReads : next.reads = watch.reads)
    (follows : Following leader (user leader) watch.state.store
      (watch.state.phase leader) phase) :
    Flying user leader start next := by
  have samePhase : ∀ reader, reader ≠ caller →
      next.state.phase reader = watch.state.phase reader := by
    intro reader notCaller
    rw [phases, Function.update_of_ne notCaller]
  have ledSame := samePhase leader (Ne.symm different)
  refine ⟨flying.named, flying.began, ?_, ?_, ?_⟩
  · rw [ledSame, sameReads]
    exact flying.stage.same same
  · rw [ledSame, sameNow]
    intro led entry present
    rw [same.entry] at present
    exact flying.stale led entry present
  · intro reader isUser notLeader
    rw [ledSame]
    by_cases isCaller : reader = caller
    · subst isCaller
      rw [phases, Function.update_self]
      rcases flying.others reader isUser notLeader with ⟨wasOver, isStart⟩ | ⟨began, _⟩
      · rw [isStart, wasOver] at unended
        cases unended
      · exact Or.inr ⟨began, follows.same same⟩
    · rw [samePhase reader isCaller]
      exact (flying.others reader isUser notLeader).imp id fun follows =>
        ⟨follows.1, follows.2.same same⟩

/-- The calls that follow do not notice how far a leader is that has not ended. -/
theorem Following.lead {store later : Store Reader} {target : String}
    {led ledNext phase : Phase Reader} (unended : hasEnded led = false)
    (sameEntry : hasEnded ledNext = false →
      later.cache.lookup target = store.cache.lookup target)
    (follows : Following leader target store led phase) :
    Following leader target later ledNext phase := by
  cases follows with
  | ready => exact Following.ready
  | clocked now misses =>
      refine Following.clocked now fun stillUnended => ?_
      have missed := misses unended
      unfold Store.hit at missed ⊢
      rw [sameEntry stillUnended]
      exact missed
  | waiting since => exact Following.waiting since
  | answered account source returned =>
      cases led with
      | answered account' source' => cases unended
      | nobody => cases unended
      | failed => cases unended
      | _ => cases returned

/-- A step of the leader. -/
theorem Flying.lead (flying : Flying user leader start watch)
    (unended : hasEnded (watch.state.phase leader) = false)
    (samePhase : ∀ reader, reader ≠ leader →
      next.state.phase reader = watch.state.phase reader)
    (sameNow : next.state.now = watch.state.now)
    (sameEntry : hasEnded (next.state.phase leader) = false →
      next.state.store.cache.lookup (user leader) =
        watch.state.store.cache.lookup (user leader))
    (stage : Stage leader (user leader) next.state.store
      (readsFor user (user leader) next.reads) (next.state.phase leader)) :
    Flying user leader start next := by
  refine ⟨flying.named, flying.began, stage, ?_, ?_⟩
  · intro stillUnended entry present
    rw [sameEntry stillUnended] at present
    rw [sameNow]
    exact flying.stale unended entry present
  · intro reader isUser different
    rw [samePhase reader different]
    exact (flying.others reader isUser different).imp id fun follows =>
      ⟨follows.1, follows.2.lead unended sameEntry⟩

/-- The call goes to the database or has been there. -/
def busy : Phase Reader → Bool
  | .reading _ _ => true
  | .fetched _ _ _ => true
  | .raised => true
  | .landed _ _ _ => true
  | _ => false

/-- Only the leader goes to the database for its user. -/
theorem Flying.busy_eq (flying : Flying user leader start watch) {reader : Reader}
    (isUser : user reader = user leader)
    (isBusy : busy (watch.state.phase reader) = true) : reader = leader := by
  by_contra different
  rcases flying.others reader isUser different with ⟨wasOver, isStart⟩ | ⟨_, follows⟩
  · rw [isStart] at isBusy
    generalize start.state.phase reader = phase at isBusy wasOver
    cases phase with
    | answered account source => cases isBusy
    | nobody => cases isBusy
    | failed => cases isBusy
    | _ => cases wasOver
  · generalize watch.state.phase reader = phase at follows isBusy
    cases follows with
    | ready => cases isBusy
    | clocked now misses => cases isBusy
    | waiting since => cases isBusy
    | answered account source returned => cases isBusy

/-- A call that has only begun is not the leader's. -/
theorem Flying.ne_leader (flying : Flying user leader start watch) {reader : Reader}
    (idle : busy (watch.state.phase reader) = false)
    (unended : hasEnded (watch.state.phase reader) = false) : reader ≠ leader := by
  intro isLeader
  have stage := flying.stage
  rw [isLeader] at idle unended
  generalize watch.state.phase leader = phase at stage idle unended
  cases stage with
  | reading _ _ => cases idle
  | fetched _ _ _ _ => cases idle
  | landed _ _ _ => cases idle
  | answered _ _ _ _ => cases unended

variable [DecidableEq Reader]

/-- A step of a call for another user. -/
theorem Flying.elsewhere (flying : Flying user leader start watch) {reader : Reader}
    (different : user reader ≠ user leader) {store : Store Reader}
    (same : SameFor (user leader) watch.state.store store) (phase : Phase Reader)
    {extra : List Reader} (isExtra : ∀ other ∈ extra, other = reader) :
    Flying user leader start
      ⟨(watch.state.setStore store).setPhase reader phase, watch.reads ++ extra⟩ := by
  refine flying.apart same (Int.le_refl _) ?_ ?_
  · intro other isUser
    refine State.setPhase_of_ne phase ?_
    intro isReader
    rw [isReader] at isUser
    exact different isUser
  · unfold readsFor
    rw [List.filter_append, List.append_right_eq_self, List.filter_eq_nil_iff]
    intro other isOther
    rw [isExtra other isOther]
    simpa using different

omit [DecidableEq Reader] in
theorem hit_of_lasts {store : Store Reader} {target : String} {now : Int}
    {entry : CacheEntry} (present : store.cache.lookup target = some entry)
    (lasts : now < entry.expiresAt) : store.hit target now = some entry := by
  unfold Store.hit
  rw [present]
  simp [lasts]

end Invariant

/-! ## The steps keep the invariant -/

section Steps

variable {Reader : Type u} [DecidableEq Reader] {config : Config}
variable {user : Reader → String} {leader : Reader} {start watch : Watched Reader}
variable {after : State Reader} {reader : Reader}

theorem flying_start (flying : Flying user leader start watch)
    (stepped : step config user watch.state (.start reader) = some after) :
    Flying user leader start ⟨after, watch.reads ++ goes (.start reader)⟩ := by
  obtain ⟨isReady, isNext⟩ := step_start stepped
  by_cases isUser : user reader = user leader
  · have isNamed : user reader ≠ "" := by
      rw [isUser]
      exact flying.named
    have isClocked : after = watch.state.setPhase reader (.clocked watch.state.now) := by
      simp only [step, isReady, isNamed, if_false] at stepped
      exact (Option.some.inj stepped).symm
    have different : reader ≠ leader :=
      flying.ne_leader (by rw [isReady]; rfl) (by rw [isReady]; rfl)
    rw [isClocked]
    refine flying.follow different (by rw [isReady]; rfl) rfl (SameFor.refl _ _) rfl
      (List.append_nil _) ?_
    refine Following.clocked watch.state.now fun unended => ?_
    unfold Store.hit
    rw [Option.filter_eq_none_iff]
    intro entry present
    have stale := flying.stale unended entry present
    simpa using stale
  · rcases isNext with isNext | isNext
    · rw [isNext]
      exact flying.elsewhere isUser (SameFor.refl _ _) _ (fun _ isExtra => by cases isExtra)
    · rw [isNext]
      exact flying.elsewhere isUser (SameFor.refl _ _) _ (fun _ isExtra => by cases isExtra)

theorem flying_lookup (flying : Flying user leader start watch)
    (calm : Calm config user leader watch (.lookup reader))
    (undisturbed : Undisturbed user leader watch (.lookup reader))
    (stepped : step config user watch.state (.lookup reader) = some after) :
    Flying user leader start ⟨after, watch.reads ++ goes (.lookup reader)⟩ := by
  obtain ⟨now, isClocked, isNext⟩ := step_lookup stepped
  by_cases isUser : user reader = user leader
  · have idle : busy (watch.state.phase reader) = false := by
      rw [isClocked]
      rfl
    have unended : hasEnded (watch.state.phase reader) = false := by
      rw [isClocked]
      rfl
    have different := flying.ne_leader idle unended
    have misses : hasEnded (watch.state.phase leader) = false →
        watch.state.store.hit (user leader) now = none := by
      rcases flying.others reader isUser different with ⟨wasOver, isStart⟩ | ⟨_, follows⟩
      · rw [isStart, wasOver] at unended
        cases unended
      · rw [isClocked] at follows
        cases follows with
        | clocked _ misses => exact misses
    have waits : watch.state.store.flights (user leader) = some leader →
        hasEnded (watch.state.phase leader) = false →
        Flying user leader start ⟨after, watch.reads ++ goes (.lookup reader)⟩ := by
      intro flight isLed
      simp only [step, isClocked, isUser, misses isLed, flight] at stepped
      cases stepped
      exact flying.follow different unended rfl (SameFor.refl _ _) rfl (List.append_nil _)
        (Following.waiting _)
    have stage := flying.stage
    generalize isLed : watch.state.phase leader = led at stage
    cases stage with
    | reading flight _ => exact waits flight (by rw [isLed]; rfl)
    | fetched account readAt flight _ => exact waits flight (by rw [isLed]; rfl)
    | landed account readAt _ =>
        have published := undisturbed isUser
        rw [isLed] at published
        cases published
    | answered entry readAt present _ =>
        have lasts := calm isUser now isClocked (by rw [isLed]; rfl) entry present
        have isHit := hit_of_lasts present lasts
        simp only [step, isClocked, isUser, isHit] at stepped
        cases stepped
        refine flying.follow different unended rfl (sameFor_touch isHit) rfl
          (List.append_nil _) ?_
        exact Following.answered _ _ (by rw [isLed]; rfl)
  · have noneExtra : ∀ other ∈ ([] : List Reader), other = reader :=
      fun _ isExtra => by cases isExtra
    rcases isNext with ⟨entry, isHit, isNext⟩ | ⟨leads, isNext⟩ | isNext
    · rw [isNext]
      exact flying.elsewhere isUser (sameFor_touch isHit) _ noneExtra
    · rw [isNext]
      exact flying.elsewhere isUser (SameFor.refl _ _) _ noneExtra
    · rw [isNext]
      exact flying.elsewhere isUser (sameFor_flight (Ne.symm isUser) _) _ noneExtra

theorem flying_wake (flying : Flying user leader start watch)
    (calm : Calm config user leader watch (.wake reader))
    (undisturbed : Undisturbed user leader watch (.wake reader))
    (stepped : step config user watch.state (.wake reader) = some after) :
    Flying user leader start ⟨after, watch.reads ++ goes (.wake reader)⟩ := by
  obtain ⟨waited, since, isWaiting, isNext⟩ := step_wake stepped
  by_cases isUser : user reader = user leader
  · have unended : hasEnded (watch.state.phase reader) = false := by
      rw [isWaiting]
      rfl
    have different := flying.ne_leader (by rw [isWaiting]; rfl) unended
    have isLeader : waited = leader := by
      rcases flying.others reader isUser different with ⟨wasOver, isStart⟩ | ⟨_, follows⟩
      · rw [isStart, wasOver] at unended
        cases unended
      · rw [isWaiting] at follows
        cases follows with
        | waiting _ => rfl
    obtain ⟨ended, lasts⟩ := calm isUser
    have stage := flying.stage
    generalize isLed : watch.state.phase leader = led at stage
    cases stage with
    | reading _ _ =>
        rw [isLed] at ended
        cases ended
    | fetched _ _ _ _ =>
        rw [isLed] at ended
        cases ended
    | landed _ _ _ =>
        have published := undisturbed isUser
        rw [isLed] at published
        cases published
    | answered entry readAt present _ =>
        have unexpired := lasts (by rw [isLed]; rfl) entry present
        have isHit := hit_of_lasts present unexpired
        simp only [step, isWaiting, isLeader, ended, isUser, isHit,
          Bool.false_eq_true, false_and, if_false] at stepped
        cases stepped
        refine flying.follow different unended rfl (sameFor_touch isHit) rfl
          (List.append_nil _) ?_
        exact Following.answered _ _ (by rw [isLed]; rfl)
  · have noneExtra : ∀ other ∈ ([] : List Reader), other = reader :=
      fun _ isExtra => by cases isExtra
    rcases isNext with ⟨entry, isHit, isNext⟩ | isNext
    · rw [isNext]
      exact flying.elsewhere isUser (sameFor_touch isHit) _ noneExtra
    · rw [isNext]
      exact flying.elsewhere isUser (SameFor.refl _ _) _ noneExtra

theorem flying_fetch (flying : Flying user leader start watch)
    (undisturbed : Undisturbed user leader watch (.fetch reader))
    (stepped : step config user watch.state (.fetch reader) = some after) :
    Flying user leader start ⟨after, watch.reads ++ goes (.fetch reader)⟩ := by
  obtain ⟨leads, generation, isReading, phase, isNext, _⟩ := step_fetch stepped
  by_cases isUser : user reader = user leader
  · have isLeader : reader = leader :=
      flying.busy_eq isUser (by rw [isReading]; rfl)
    rw [isLeader] at isReading stepped isNext ⊢
    obtain ⟨account, isRow⟩ := Option.isSome_iff_exists.mp (undisturbed isLeader)
    have stage := flying.stage
    rw [isReading] at stage
    cases stage with
    | reading flight unread =>
        simp only [step, isReading, isRow] at stepped
        cases stepped
        refine flying.lead (by rw [isReading]; rfl)
          (fun other notLeader => State.setPhase_of_ne _ notLeader) rfl
          (fun _ => rfl) ?_
        rw [State.setPhase_self]
        refine Stage.fetched account _ flight ?_
        unfold readsFor goes at *
        rw [List.filter_append, unread]
        simp
  · rw [isNext]
    refine flying.elsewhere isUser (SameFor.refl _ _) _ ?_
    intro other isExtra
    exact List.mem_singleton.mp isExtra

theorem flying_raise (flying : Flying user leader start watch)
    (calm : Calm config user leader watch (.raise reader))
    (stepped : step config user watch.state (.raise reader) = some after) :
    Flying user leader start ⟨after, watch.reads ++ goes (.raise reader)⟩ := by
  have isElsewhere : user reader ≠ user leader := by
    intro isUser
    refine calm (flying.busy_eq isUser ?_)
    simp only [step] at stepped
    split at stepped
    · rename_i isReading
      rw [isReading]
      rfl
    · rename_i isReading
      rw [isReading]
      rfl
    · cases stepped
  have isExtra : ∀ other ∈ goes (.raise reader), other = reader :=
    fun other isOther => List.mem_singleton.mp isOther
  rcases step_raise stepped with isNext | isNext
  · rw [isNext]
    exact flying.elsewhere isElsewhere (SameFor.refl _ _) _ isExtra
  · rw [isNext]
    exact flying.elsewhere isElsewhere (SameFor.refl _ _) _ isExtra

theorem flying_settle (flying : Flying user leader start watch)
    (stepped : step config user watch.state (.settle reader) = some after) :
    Flying user leader start ⟨after, watch.reads ++ goes (.settle reader)⟩ := by
  obtain ⟨phase, isNext, _⟩ := step_settle stepped
  by_cases isUser : user reader = user leader
  · have isLeader : reader = leader := by
      refine flying.busy_eq isUser ?_
      simp only [step] at stepped
      split at stepped
      · rename_i isFetched
        rw [isFetched]
        rfl
      · rename_i isRaised
        rw [isRaised]
        rfl
      · cases stepped
    rw [isLeader] at stepped ⊢
    have stage := flying.stage
    generalize isLed : watch.state.phase leader = led at stage
    cases stage with
    | reading _ _ =>
        simp only [step, isLed] at stepped
        cases stepped
    | fetched account readAt _ isRead =>
        simp only [step, isLed] at stepped
        cases stepped
        refine flying.lead (by rw [isLed]; rfl)
          (fun other notLeader => State.setPhase_of_ne _ notLeader) rfl
          (fun _ => rfl) ?_
        rw [State.setPhase_self]
        exact Stage.landed account readAt
          ((congrArg _ (List.append_nil watch.reads)).trans isRead)
    | landed _ _ _ =>
        simp only [step, isLed] at stepped
        cases stepped
    | answered _ _ _ _ =>
        simp only [step, isLed] at stepped
        cases stepped
  · rw [isNext]
    exact flying.elsewhere isUser (sameFor_flight (Ne.symm isUser) _) _
      (fun _ isExtra => by cases isExtra)

theorem flying_publish (flying : Flying user leader start watch)
    (calm : Calm config user leader watch (.publish reader))
    (stepped : step config user watch.state (.publish reader) = some after) :
    Flying user leader start ⟨after, watch.reads ++ goes (.publish reader)⟩ := by
  obtain ⟨generation, account, readAt, isLanded, isNext⟩ := step_publish stepped
  by_cases isUser : user reader = user leader
  · have isLeader : reader = leader :=
      flying.busy_eq isUser (by rw [isLanded]; rfl)
    rw [isLeader] at isLanded isNext calm ⊢
    have stage := flying.stage
    rw [isLanded] at stage
    cases stage with
    | landed value _ isRead =>
        have kept := calm _ value readAt isLanded rfl
        have isPublished : watch.state.store.publish config (user leader)
            (watch.state.store.generation (user leader)) (some value) readAt
            watch.state.now =
          (watch.state.store.touch (user leader)
            ⟨watch.state.now + config.ttl, value, readAt⟩).evict config
            watch.state.now := if_pos rfl
        have present : ((watch.state.store.touch (user leader)
            ⟨watch.state.now + config.ttl, value, readAt⟩).evict config
              watch.state.now).cache.lookup (user leader) =
          some ⟨watch.state.now + config.ttl, value, readAt⟩ :=
          (sameFor_evict kept).entry.trans (AList.lookup_insert _)
        rw [isNext, isPublished]
        refine flying.lead (by rw [isLanded]; rfl)
          (fun other notLeader => State.setPhase_of_ne _ notLeader) rfl ?_ ?_
        · intro unended
          rw [State.setPhase_self] at unended
          cases unended
        · rw [State.setPhase_self]
          exact Stage.answered ⟨watch.state.now + config.ttl, value, readAt⟩ readAt
            present ((congrArg _ (List.append_nil watch.reads)).trans isRead)
  · rw [isNext]
    refine flying.elsewhere isUser (sameFor_publish (Ne.symm isUser) ?_) _
      (fun _ isExtra => by cases isExtra)
    intro value isValue isGeneration
    rw [isValue] at isLanded
    exact calm generation value readAt isLanded isGeneration

/-- A step that is calm and does not disturb the flight keeps the invariant. -/
theorem flying_step {label : Label Reader} {next : Watched Reader}
    (flying : Flying user leader start watch)
    (calm : Calm config user leader watch label)
    (undisturbed : Undisturbed user leader watch label)
    (stepped : (watched config user).step watch label = some next) :
    Flying user leader start next := by
  obtain ⟨after, isStep, rfl⟩ := Option.map_eq_some_iff.mp stepped
  have sameReads : readsFor user (user leader) (watch.reads ++ []) =
      readsFor user (user leader) watch.reads := by
    rw [List.append_nil]
  cases label with
  | tick elapsed =>
      cases isStep
      refine flying.apart (SameFor.refl _ _) ?_ (fun _ _ => rfl) sameReads
      dsimp only
      omega
  | commit target row =>
      cases isStep
      exact flying.apart (SameFor.refl _ _) (Int.le_refl _) (fun _ _ => rfl) sameReads
  | invalidate target commit =>
      obtain ⟨_, rfl⟩ := step_drop (Or.inl isStep)
      exact flying.apart (sameFor_invalidate calm) (Int.le_refl _)
        (fun _ _ => rfl) sameReads
  | deliver payload commit =>
      obtain ⟨_, rfl⟩ := step_drop (Or.inr isStep)
      exact flying.apart (sameFor_invalidate calm) (Int.le_refl _)
        (fun _ _ => rfl) sameReads
  | start reader => exact flying_start flying isStep
  | lookup reader => exact flying_lookup flying calm undisturbed isStep
  | wake reader => exact flying_wake flying calm undisturbed isStep
  | fetch reader => exact flying_fetch flying undisturbed isStep
  | raise reader => exact flying_raise flying calm isStep
  | settle reader => exact flying_settle flying isStep
  | publish reader => exact flying_publish flying calm isStep

end Steps

/-- In every calm run that does not disturb the flight, its calls make one database
read and return what it found. -/
theorem accountState_readsOnce {Reader : Type u} [DecidableEq Reader]
    (config : Config) (user : Reader → String) (leader : Reader)
    (start watch : Watched Reader) (opened : Opened user leader start)
    (run : (watched config user).Reaches
      (fun state label => Calm config user leader state label ∧
        Undisturbed user leader state label) start watch) :
    OneRead user leader start watch := by
  have flying : Flying user leader start watch :=
    run.preserves (Flying user leader start)
      (fun _ _ _ flying allowed stepped =>
        flying_step flying allowed.1 allowed.2 stepped)
      (flying_of_opened opened)
  exact oneRead_of_flying flying

/-! ### A leader and one call that follows -/

def pairConfig : Config where
  ttl := 10 * 1000000000
  maxEntries := 100
  flightWait := 5 * 1000000000

def pairUser (_ : Bool) : String := "u"

/-- The user has a row, and nobody has asked for it. -/
def pairIdle : Watched Bool where
  state := {
    now := 0
    rows := fun _ => some ⟨0, true⟩
    version := fun _ => 0
    store := Store.empty
    phase := fun _ => .ready }
  reads := []

def pairRun (labels : List (Label Bool)) : Watched Bool :=
  ((watched pairConfig pairUser).exec pairIdle labels).getD pairIdle

/-- One call leads, and the other one waits for it. -/
def bothAsked : List (Label Bool) :=
  [.start true, .lookup true, .start false, .lookup false]

theorem bothAsked_opened : Opened pairUser true (pairRun bothAsked) := by
  refine ⟨by decide, rfl, rfl, ?_, ?_, rfl⟩
  · intro entry present
    cases present
  · intro reader _ different
    cases reader with
    | true => exact absurd rfl different
    | false => exact Or.inr (Or.inr (Or.inr ⟨0, rfl⟩))

def landedThen (labels : List (Label Bool)) : Watched Bool :=
  pairRun (bothAsked ++ [.fetch true, .settle true] ++ labels)

theorem landed_calm :
    (watched pairConfig pairUser).Reaches
      (fun state label => Calm pairConfig pairUser true state label ∧
        Undisturbed pairUser true state label)
      (pairRun bothAsked) (landedThen []) := by
  have fetched : (watched pairConfig pairUser).Reaches
      (fun state label => Calm pairConfig pairUser true state label ∧
        Undisturbed pairUser true state label)
      (pairRun bothAsked) (pairRun (bothAsked ++ [.fetch true])) :=
    TransitionSystem.Reaches.single (.fetch true) ⟨trivial, fun _ => rfl⟩ rfl
  exact TransitionSystem.Reaches.tail (.settle true) fetched ⟨trivial, trivial⟩ rfl

theorem accountState_readsOnce_pair :
    OneRead pairUser true (pairRun bothAsked)
      (landedThen [.publish true, .wake false]) := by
  have kept : Calm pairConfig pairUser true (landedThen []) (.publish true) := by
    intro generation account readAt isLanded _
    cases isLanded
    rintro (⟨_, gone⟩ | ⟨crowded, _⟩)
    · cases gone
    · exact absurd crowded (by decide)
  have published : (watched pairConfig pairUser).Reaches
      (fun state label => Calm pairConfig pairUser true state label ∧
        Undisturbed pairUser true state label)
      (pairRun bothAsked) (landedThen [.publish true]) :=
    TransitionSystem.Reaches.tail (.publish true) landed_calm ⟨kept, trivial⟩ rfl
  have lasts : Calm pairConfig pairUser true (landedThen [.publish true])
      (.wake false) := by
    refine fun _ => ⟨rfl, fun _ entry present => ?_⟩
    cases present
    decide
  exact accountState_readsOnce pairConfig pairUser true _ _ bothAsked_opened
    (TransitionSystem.Reaches.tail (.wake false) published ⟨lasts, fun _ => rfl⟩ rfl)

/-- The call that waits wakes up before the leader has published. -/
theorem accountState_readsTwice :
    ¬∀ watch, (watched pairConfig pairUser).Reaches
        (Calm pairConfig pairUser true) (pairRun bothAsked) watch →
      OneRead pairUser true (pairRun bothAsked) watch := by
  intro readsOnce
  have landed : (watched pairConfig pairUser).Reaches
      (Calm pairConfig pairUser true) (pairRun bothAsked) (landedThen []) :=
    landed_calm.weaken fun _ _ allowed => allowed.1
  have woken : (watched pairConfig pairUser).Reaches
      (Calm pairConfig pairUser true) (pairRun bothAsked)
      (landedThen [.wake false]) := by
    refine TransitionSystem.Reaches.tail (.wake false) landed ?_ rfl
    exact fun _ => ⟨rfl, fun ended => by cases ended⟩
  have read : (watched pairConfig pairUser).Reaches
      (Calm pairConfig pairUser true) (pairRun bothAsked)
      (landedThen [.wake false, .fetch false]) :=
    TransitionSystem.Reaches.tail (.fetch false) woken trivial rfl
  have twice : readsFor pairUser "u"
      (landedThen [.wake false, .fetch false]).reads = [true, false] := rfl
  rcases (readsOnce _ read).once with ⟨generation, isReading, _⟩ | once
  · cases isReading
  · exact absurd (twice.symm.trans once) (by decide)

end DbBuddy.Auth.SingleFlight
