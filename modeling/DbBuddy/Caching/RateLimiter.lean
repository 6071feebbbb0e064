import DbBuddy.Library.TransitionSystem
import DbBuddy.Library.Windows
import Mathlib.Data.List.MinMax
import Mathlib.Data.Rat.Floor
import Mathlib.Logic.Function.Basic
import Mathlib.Tactic.Linarith

/-!
# The request limiter

A request reads the clock, reads the list of the client's latest requests, and, if
the window has room, pushes its own clock reading onto it.  Each of these is a step of
its own, between which other requests of the client run; the store works.
-/

namespace DbBuddy.Caching.RateLimiting

open DbBuddy.Library DbBuddy.Library.Windows

universe u

/-- `max_requests` and `window_seconds` -/
structure RateLimiter where
  maxRequests : ℕ
  windowSeconds : ℤ
  deriving DecidableEq, Repr

/-- `int(value)` -/
def truncate (value : ℚ) : ℤ :=
  if 0 ≤ value then ⌊value⌋ else ⌈value⌉

def errorMessage (retryAfter : ℤ) : String :=
  "Rate limit exceeded. Try again in " ++ toString retryAfter ++ " seconds."

/-- Where one request stands.  One that has room keeps its clock reading; how many requests
had been recorded when it read the list is bookkeeping of the model. -/
inductive Phase where
  | ready
  | timed (currentTime : ℚ)
  | admitted (currentTime : ℚ) (recorded : ℕ)
  | allowed
  | refused (message : String)
  deriving DecidableEq, Repr

/-- The list of one client, with the latest push in front, and when the key expires.
`allowed` and `lapses` are bookkeeping of the model: the clock readings of the allowed
requests, and the instants at which a list has expired. -/
structure State (Request : Type u) where
  now : ℚ
  stored : List ℚ
  expiresAt : Option ℚ
  phase : Request → Phase
  allowed : List ℚ
  lapses : List ℚ

inductive Label (Request : Type u) where
  | tick (elapsed : ℚ)
  | lapse
  | readClock (request : Request)
  | readList (request : Request)
  | record (request : Request)

namespace RateLimiter

variable {Request : Type u} [DecidableEq Request] (limiter : RateLimiter)

/-- `timestamps`: those of the list that are within the window. -/
def timestamps (stored : List ℚ) (currentTime : ℚ) : List ℚ :=
  stored.filter fun stamp => decide (currentTime - limiter.windowSeconds < stamp)

/-- `retry_after` -/
def retryAfter (stamps : List ℚ) (currentTime : ℚ) : ℤ :=
  truncate (stamps.min?.getD currentTime + limiter.windowSeconds - currentTime) + 1

/-- Whether the key's time is up: it is gone before the next command. -/
def isDue (state : State Request) : Bool :=
  state.expiresAt.any fun expiry => decide (expiry ≤ state.now)

/-- One step: of the clock, of the store, or of a request. -/
def step (state : State Request) : Label Request → Option (State Request)
  | .tick elapsed =>
      if 0 ≤ elapsed then some { state with now := state.now + elapsed } else none
  | .lapse =>
      match state.expiresAt with
      | some expiry =>
          if expiry ≤ state.now then
            some { state with
              stored := []
              expiresAt := none
              lapses := state.lapses ++ [expiry] }
          else none
      | none => none
  | .readClock request =>
      match state.phase request with
      | .ready => some { state with
          phase := Function.update state.phase request (.timed state.now) }
      | _ => none
  | .readList request =>
      match state.phase request with
      | .timed currentTime =>
          if isDue state then none
          else
            let stamps := limiter.timestamps state.stored currentTime
            let next := if limiter.maxRequests ≤ stamps.length then
                Phase.refused (errorMessage (limiter.retryAfter stamps currentTime))
              else .admitted currentTime state.allowed.length
            some { state with phase := Function.update state.phase request next }
      | _ => none
  | .record request =>
      match state.phase request with
      | .admitted currentTime _ =>
          if isDue state then none
          else
            -- `lpush`, `ltrim` and `expire` in one transaction.
            some { state with
              stored := (currentTime :: state.stored).take limiter.maxRequests
              expiresAt := some (state.now + limiter.windowSeconds)
              phase := Function.update state.phase request .allowed
              allowed := state.allowed ++ [currentTime] }
      | _ => none

/-- A client nobody has seen a request of. -/
def Initial (state : State Request) : Prop :=
  state.stored = [] ∧ state.expiresAt = none ∧ state.allowed = [] ∧
    state.lapses = [] ∧ ∀ request, state.phase request = .ready

def system : TransitionSystem (State Request) (Label Request) where
  initial := Initial
  step := limiter.step

/-! ## What a step can do -/

section Inversion

variable {limiter : RateLimiter} {state next : State Request} {request : Request}

theorem step_tick {elapsed : ℚ}
    (stepped : limiter.step state (.tick elapsed) = some next) :
    0 ≤ elapsed ∧ next = { state with now := state.now + elapsed } := by
  simp only [step] at stepped
  split at stepped
  · rename_i forward
    cases stepped
    exact ⟨forward, rfl⟩
  · cases stepped

theorem step_lapse (stepped : limiter.step state .lapse = some next) :
    ∃ expiry, state.expiresAt = some expiry ∧ expiry ≤ state.now ∧
      next = { state with
        stored := []
        expiresAt := none
        lapses := state.lapses ++ [expiry] } := by
  simp only [step] at stepped
  split at stepped
  · rename_i expiry isSet
    split at stepped
    · rename_i isOver
      cases stepped
      exact ⟨expiry, isSet, isOver, rfl⟩
    · cases stepped
  · cases stepped

theorem step_readClock (stepped : limiter.step state (.readClock request) = some next) :
    next = { state with
      phase := Function.update state.phase request (.timed state.now) } := by
  simp only [step] at stepped
  split at stepped
  · cases stepped
    rfl
  · cases stepped

/-- Who reads the list is refused, or has counted fewer than the most. -/
theorem step_readList (stepped : limiter.step state (.readList request) = some next) :
    ∃ currentTime, state.phase request = .timed currentTime ∧
      ((∃ message, next = { state with
          phase := Function.update state.phase request (.refused message) }) ∨
        ((limiter.timestamps state.stored currentTime).length < limiter.maxRequests ∧
          next = { state with
            phase := Function.update state.phase request
              (.admitted currentTime state.allowed.length) })) := by
  simp only [step] at stepped
  split at stepped
  · rename_i currentTime isTimed
    refine ⟨currentTime, isTimed, ?_⟩
    split at stepped
    · cases stepped
    · split at stepped
      · cases stepped
        exact Or.inl ⟨_, rfl⟩
      · rename_i _ hasRoom
        cases stepped
        exact Or.inr ⟨not_le.mp hasRoom, rfl⟩
  · cases stepped

theorem step_record (stepped : limiter.step state (.record request) = some next) :
    ∃ currentTime recorded,
      state.phase request = .admitted currentTime recorded ∧
      next = { state with
        stored := (currentTime :: state.stored).take limiter.maxRequests
        expiresAt := some (state.now + limiter.windowSeconds)
        phase := Function.update state.phase request .allowed
        allowed := state.allowed ++ [currentTime] } := by
  simp only [step] at stepped
  split at stepped
  · rename_i currentTime recorded isAdmitted
    split at stepped
    · cases stepped
    · cases stepped
      exact ⟨currentTime, recorded, isAdmitted, rfl⟩
  · cases stepped

end Inversion

/-- No list expires between a request's reading of the clock and of the list, the requests
are recorded in the order of their clock readings, and none is recorded between another's
reading of the list and its recording. -/
def InTurn (state : State Request) : Label Request → Prop
  | .readList request =>
      match state.phase request with
      | .timed currentTime => ∀ lapse ∈ state.lapses, lapse ≤ currentTime
      | _ => True
  | .record request =>
      match state.phase request with
      | .admitted currentTime recorded =>
          (∀ instant ∈ state.allowed, instant ≤ currentTime) ∧
            state.allowed.length = recorded
      | _ => True
  | _ => True

end RateLimiter

/-! ## The invariant -/

namespace RateLimiter

variable {Request : Type u}

/-- What is known of a request under way: when it read the list, its window had room. -/
def PhaseSound (limiter : RateLimiter) (state : State Request) : Phase → Prop
  | .timed currentTime => currentTime ≤ state.now
  | .admitted currentTime recorded =>
      currentTime ≤ state.now ∧ recorded ≤ state.allowed.length ∧
        countAfter (currentTime - limiter.windowSeconds)
          (state.allowed.take recorded) < limiter.maxRequests
  | _ => True

/-- What holds while requests come in turn.  The list has the latest allowed requests,
as far as it is kept and none has expired. -/
structure Counted (limiter : RateLimiter) (state : State Request) : Prop where
  past : ∀ instant ∈ state.allowed, instant ≤ state.now
  sorted : state.stored.Pairwise (· ≥ ·)
  known : ∀ stamp ∈ state.stored, stamp ∈ state.allowed
  lasting : ∀ expiry, state.expiresAt = some expiry →
    ∀ instant ∈ state.allowed, instant ≤ expiry - limiter.windowSeconds
  covered : ∀ bound, (∀ lapse ∈ state.lapses, lapse - limiter.windowSeconds ≤ bound) →
    min limiter.maxRequests (countAfter bound state.allowed) ≤
      countAfter bound state.stored
  phases : ∀ request, PhaseSound limiter state (state.phase request)
  windowed : ∀ last, countWithin (limiter.windowSeconds : ℚ) last state.allowed ≤
    limiter.maxRequests

variable {limiter : RateLimiter} {state next : State Request} {request : Request}

theorem counted_initial (isInitial : Initial state) : Counted limiter state := by
  obtain ⟨stored, expiresAt, allowed, lapses, ready⟩ := isInitial
  refine ⟨?_, ?_, ?_, ?_, ?_, ?_, ?_⟩
  · simp [allowed]
  · simp [stored]
  · simp [stored]
  · simp [allowed]
  · simp [allowed]
  · intro request
    rw [ready request]
    trivial
  · simp [allowed, countWithin]

/-- What is known of a request stays true as time passes and others are allowed. -/
theorem PhaseSound.later {phase : Phase} (sound : PhaseSound limiter state phase)
    (forward : state.now ≤ next.now) (grown : state.allowed <+: next.allowed) :
    PhaseSound limiter next phase := by
  cases phase with
  | ready => trivial
  | timed currentTime => exact le_trans sound forward
  | admitted currentTime recorded =>
      obtain ⟨isPast, known, fits⟩ := sound
      refine ⟨le_trans isPast forward, le_trans known grown.length_le, ?_⟩
      obtain ⟨others, isGrown⟩ := grown
      rw [← isGrown, List.take_append_of_le_length known]
      exact fits
  | allowed => trivial
  | refused message => trivial

theorem counted_tick (counted : Counted limiter state) {elapsed : ℚ}
    (forward : 0 ≤ elapsed) :
    Counted limiter { state with now := state.now + elapsed } := by
  have later : state.now ≤ state.now + elapsed := by linarith
  refine ⟨?_, counted.sorted, counted.known, counted.lasting, counted.covered, ?_,
    counted.windowed⟩
  · intro instant isIn
    exact le_trans (counted.past instant isIn) later
  · intro request
    exact (counted.phases request).later later List.prefix_rfl

/-- What an expired list had is too old to count. -/
theorem counted_lapse (counted : Counted limiter state) {expiry : ℚ}
    (isSet : state.expiresAt = some expiry) :
    Counted limiter { state with
      stored := []
      expiresAt := none
      lapses := state.lapses ++ [expiry] } := by
  refine ⟨counted.past, List.Pairwise.nil, ?_, ?_, ?_, ?_, counted.windowed⟩
  · intro stamp isIn
    cases isIn
  · intro other isOther
    cases isOther
  · intro bound recent
    have early : ∀ instant ∈ state.allowed, instant ≤ bound := by
      intro instant isIn
      have isOld := counted.lasting expiry isSet instant isIn
      exact le_trans isOld (recent expiry (by simp))
    dsimp only
    rw [countAfter_eq_zero early]
    exact Nat.min_le_right _ _
  · intro request
    exact (counted.phases request).later le_rfl List.prefix_rfl

/-- Who has read a list that nothing is missing from has counted every request of its
window. -/
theorem phaseSound_admitted (counted : Counted limiter state) {currentTime : ℚ}
    (isTimed : state.phase request = .timed currentTime)
    (unlapsed : ∀ lapse ∈ state.lapses, lapse ≤ currentTime)
    (hasRoom : (limiter.timestamps state.stored currentTime).length <
      limiter.maxRequests) :
    PhaseSound limiter state (.admitted currentTime state.allowed.length) := by
  have isPast := counted.phases request
  rw [isTimed] at isPast
  refine ⟨isPast, Nat.le_refl _, ?_⟩
  have isCount : (limiter.timestamps state.stored currentTime).length =
      countAfter (currentTime - limiter.windowSeconds) state.stored :=
    countAfter_eq_length_filter.symm
  have atLeast := counted.covered (currentTime - limiter.windowSeconds)
    fun lapse isLapse => sub_le_sub_right (unlapsed lapse isLapse) _
  rw [List.take_length]
  omega

variable [DecidableEq Request]

/-- A request goes on to a phase that is sound, and nothing else changes. -/
theorem counted_setPhase (counted : Counted limiter state) {phase : Phase}
    (sound : PhaseSound limiter state phase) :
    Counted limiter { state with
      phase := Function.update state.phase request phase } := by
  refine ⟨counted.past, counted.sorted, counted.known, counted.lasting,
    counted.covered, ?_, counted.windowed⟩
  intro other
  dsimp only
  by_cases same : other = request
  · rw [same, Function.update_self]
    exact sound.later le_rfl List.prefix_rfl
  · rw [Function.update_of_ne same]
    exact (counted.phases other).later le_rfl List.prefix_rfl

/-- The recorded request fits into every window, and stands in front of the list. -/
theorem counted_record (counted : Counted limiter state) {currentTime : ℚ}
    {recorded : ℕ} (isAdmitted : state.phase request = .admitted currentTime recorded)
    (ordered : ∀ instant ∈ state.allowed, instant ≤ currentTime)
    (isAlone : state.allowed.length = recorded) :
    Counted limiter { state with
      stored := (currentTime :: state.stored).take limiter.maxRequests
      expiresAt := some (state.now + limiter.windowSeconds)
      phase := Function.update state.phase request .allowed
      allowed := state.allowed ++ [currentTime] } := by
  have sound := counted.phases request
  rw [isAdmitted] at sound
  obtain ⟨isPast, _, room⟩ := sound
  rw [← isAlone, List.take_length] at room
  have pastAll : ∀ instant ∈ state.allowed ++ [currentTime], instant ≤ state.now := by
    intro instant isIn
    rcases List.mem_append.mp isIn with isOld | isNew
    · exact counted.past instant isOld
    · rw [List.mem_singleton.mp isNew]
      exact isPast
  have sortedAll : (currentTime :: state.stored).Pairwise (· ≥ ·) :=
    List.pairwise_cons.mpr ⟨fun stamp isIn => ordered stamp (counted.known stamp isIn),
      counted.sorted⟩
  refine ⟨pastAll, ?_, ?_, ?_, ?_, ?_, ?_⟩
  · exact sortedAll.sublist (List.take_sublist _ _)
  · intro stamp isIn
    rcases List.mem_cons.mp (List.mem_of_mem_take isIn) with isNew | isOld
    · exact List.mem_append.mpr (Or.inr (List.mem_singleton.mpr isNew))
    · exact List.mem_append.mpr (Or.inl (counted.known stamp isOld))
  · intro expiry isSet instant isIn
    cases isSet
    have isPast := pastAll instant isIn
    linarith
  · intro bound recent
    have atLeast := counted.covered bound recent
    dsimp only
    rw [countAfter_take sortedAll, countAfter_cons, countAfter_append, countAfter_cons,
      countAfter_nil]
    omega
  · intro other
    dsimp only
    by_cases same : other = request
    · rw [same, Function.update_self]
      trivial
    · rw [Function.update_of_ne same]
      exact (counted.phases other).later le_rfl (List.prefix_append _ _)
  · intro last
    exact countWithin_append_le (counted.windowed last) room

theorem counted_step (counted : Counted limiter state) {label : Label Request}
    (allowed : InTurn state label)
    (stepped : limiter.step state label = some next) : Counted limiter next := by
  cases label with
  | tick elapsed =>
      obtain ⟨forward, rfl⟩ := step_tick stepped
      exact counted_tick counted forward
  | lapse =>
      obtain ⟨expiry, isSet, _, rfl⟩ := step_lapse stepped
      exact counted_lapse counted isSet
  | readClock request =>
      rw [step_readClock stepped]
      exact counted_setPhase counted (le_refl state.now)
  | readList request =>
      obtain ⟨currentTime, isTimed, ⟨message, rfl⟩ | ⟨hasRoom, rfl⟩⟩ :=
        step_readList stepped
      · exact counted_setPhase counted trivial
      · simp only [InTurn, isTimed] at allowed
        exact counted_setPhase counted
          (phaseSound_admitted counted isTimed allowed hasRoom)
  | record request =>
      obtain ⟨currentTime, recorded, isAdmitted, rfl⟩ := step_record stepped
      simp only [InTurn, isAdmitted] at allowed
      exact counted_record counted isAdmitted allowed.1 allowed.2

/-! ## The bound -/

/-- While the requests of a client come in turn, no window holds more allowed ones than
the most. -/
theorem requests_bounded
    (reachable : limiter.system.ReachableUnder InTurn state) (last : ℚ) :
    countWithin (limiter.windowSeconds : ℚ) last state.allowed ≤
      limiter.maxRequests := by
  have counted : Counted limiter state :=
    TransitionSystem.ReachableUnder.invariant (Counted limiter)
      (fun _ isInitial => counted_initial isInitial)
      (fun _ _ _ counted allowed stepped => counted_step counted allowed stepped)
      reachable
  exact counted.windowed last

/-! ### Three requests that overlap, and two at once -/

/-- A client whose requests are numbered. -/
def idleClient : State ℕ := ⟨0, [], none, fun _ => .ready, [], []⟩

def clientRun (limiter : RateLimiter) (labels : List (Label ℕ)) : State ℕ :=
  (limiter.system.exec idleClient labels).getD idleClient

def twoPerSecond : RateLimiter := ⟨2, 1⟩

def admits (state : State ℕ) : Label ℕ → Bool
  | .readList request =>
      match state.phase request with
      | .timed currentTime => decide (∀ lapse ∈ state.lapses, lapse ≤ currentTime)
      | _ => true
  | .record request =>
      match state.phase request with
      | .admitted currentTime recorded =>
          decide ((∀ instant ∈ state.allowed, instant ≤ currentTime) ∧
            state.allowed.length = recorded)
      | _ => true
  | _ => true

theorem inTurn_of_admits (state : State ℕ) (label : Label ℕ)
    (admitted : admits state label = true) : InTurn state label := by
  cases label with
  | readList request =>
      rw [admits] at admitted
      rw [InTurn]
      split at admitted
      next => exact of_decide_eq_true admitted
      next => trivial
  | record request =>
      rw [admits] at admitted
      rw [InTurn]
      split at admitted
      next => exact of_decide_eq_true admitted
      next => trivial
  | tick elapsed => trivial
  | lapse => trivial
  | readClock request => trivial

/-- All three have read the clock before the first one reads the list. -/
def overlapping : List (Label ℕ) :=
  [.readClock 0, .readClock 1, .tick (1 / 2), .readClock 2, .readList 0, .record 0,
    .readList 1, .record 1, .readList 2]

/-- Two of the three are allowed. -/
theorem requests_bounded_overlapping :
    (clientRun twoPerSecond overlapping).allowed = [0, 0] ∧
      (clientRun twoPerSecond overlapping).phase 2 = .refused (errorMessage 1) ∧
      countWithin ((twoPerSecond.windowSeconds : ℤ) : ℚ) (1 / 2)
        (clientRun twoPerSecond overlapping).allowed ≤ 2 := by
  have run : twoPerSecond.system.Reaches InTurn idleClient
      (clientRun twoPerSecond overlapping) :=
    TransitionSystem.reaches_of_execIf inTurn_of_admits overlapping (by decide +kernel)
  exact ⟨by decide +kernel, by decide +kernel,
    requests_bounded ⟨idleClient, ⟨rfl, rfl, rfl, rfl, fun _ => rfl⟩, run⟩ (1 / 2)⟩

/-- One request in a second. -/
def onePerSecond : RateLimiter := ⟨1, 1⟩

/-- Both requests read the list before either is recorded. -/
def twoAtOnce : List (Label ℕ) :=
  [.readClock 0, .readClock 1, .readList 0, .readList 1, .record 0, .record 1]

theorem requests_exceed :
    ¬ ∀ (limiter : RateLimiter) (state : State ℕ), limiter.system.Reachable state →
      ∀ last, countWithin (limiter.windowSeconds : ℚ) last state.allowed ≤
        limiter.maxRequests := by
  intro bounded
  have isInitial : onePerSecond.system.initial idleClient :=
    ⟨rfl, rfl, rfl, rfl, fun _ => rfl⟩
  have reached : onePerSecond.system.Reachable (clientRun onePerSecond twoAtOnce) :=
    TransitionSystem.reachable_of_exec twoAtOnce isInitial
      (TransitionSystem.exec_eq_getD (by decide +kernel))
  have atMost := bounded onePerSecond _ reached 0
  revert atMost
  decide +kernel

end RateLimiter

end DbBuddy.Caching.RateLimiting
