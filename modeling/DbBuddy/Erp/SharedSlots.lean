import DbBuddy.Library.Binary64
import DbBuddy.Library.TransitionSystem
import DbBuddy.Library.SortedSet
import Mathlib.Data.Set.Card
import Mathlib.Algebra.Order.Floor.Ring
import Mathlib.Data.Rat.Floor
import Mathlib.Tactic.Linarith

/-!
# The shared concurrency ceiling of one target database

`_SharedSlots` keeps one sorted set per target: a member is a worker's token,
its score the instant its lease ends.  An attempt reads the clock, runs one
transaction that prunes, adds and counts, and a losing attempt takes its entry
back out in a second command.  Times are seconds, and what the worker computes from
them is a float; the server's own clock, which decides when the whole key lapses,
counts whole milliseconds.
-/

namespace DbBuddy.Erp.SharedSlots

open DbBuddy.Library
open DbBuddy.Library.SortedSet

universe u

/-- The ceiling of one target and the lease of a slot. -/
structure Settings where
  limit : Nat
  leaseMs : Nat
  limit_pos : 1 ≤ limit
  leaseMs_pos : 1 ≤ leaseMs

/-- `self._lease`, the float of the seconds. -/
def Settings.lease (settings : Settings) : ℚ :=
  Binary64.nearest (settings.leaseMs / 1000)

/-- `self._lease * 1000` -/
def Settings.leaseProduct (settings : Settings) : ℚ :=
  Binary64.nearest (settings.lease * 1000)

/-- `int(self._lease * 1000)`, the argument of `pexpire`. -/
def Settings.leaseArgument (settings : Settings) : Int :=
  ⌊settings.leaseProduct⌋

/-- `now + self._lease` -/
def Settings.score (settings : Settings) (stamp : ℚ) : ℚ :=
  Binary64.nearest (stamp + settings.lease)

theorem Settings.lease_pos (settings : Settings) : 0 < settings.lease := by
  have positive : (0 : ℚ) < settings.leaseMs := by
    exact_mod_cast settings.leaseMs_pos
  exact Binary64.nearest_pos (div_pos positive (by norm_num))

theorem Settings.score_mono (settings : Settings) {stamp later : ℚ} (atEpoch : 0 ≤ stamp)
    (inOrder : stamp ≤ later) : settings.score stamp ≤ settings.score later := by
  have leasePos := settings.lease_pos
  exact Binary64.nearest_mono (by linarith) (by linarith)

theorem Settings.score_nonneg (settings : Settings) {stamp : ℚ} (atEpoch : 0 ≤ stamp) :
    0 ≤ settings.score stamp := by
  have leasePos := settings.lease_pos
  have isPos : 0 < settings.score stamp := Binary64.nearest_pos (by linarith)
  exact isPos.le

/-- Where one `query_slot` call stands.  `holding` and `losing` carry the score
its own transaction stored. -/
inductive Phase where
  | waiting
  | stamped (now : ℚ)
  | holding (expiry : ℚ)
  | losing (expiry : ℚ)
  | finished
  deriving DecidableEq, Repr

/-- The store's key for one target, the shared clock and every worker. -/
structure State (Worker : Type u) where
  now : ℚ
  members : SortedSet String
  expireAt : Int
  phase : Worker → Phase
  crashed : Worker → Bool

variable {Worker : Type u}

/-- The server's clock, truncated to whole milliseconds. -/
def State.serverMs (state : State Worker) : Int :=
  ⌊state.now * 1000⌋

/-- What a command sees under the key: nothing once its time to live is over. -/
def State.stored (state : State Worker) : SortedSet String :=
  if state.expireAt < state.serverMs then [] else state.members

inductive Label (Worker : Type u) where
  | tick (elapsed : ℚ)
  | readClock (worker : Worker)
  | transaction (worker : Worker)
  | withdraw (worker : Worker)
  | release (worker : Worker)
  | giveUp (worker : Worker)
  | crash (worker : Worker)

/-- `zremrangebyscore`, `zadd` and `zcard` of the acquire transaction. -/
def acquireMembers (settings : Settings) (token : String) (stamp : ℚ)
    (stored : SortedSet String) : SortedSet String :=
  zadd token (settings.score stamp) (zremrangebyscore 0 stamp stored)

variable [DecidableEq Worker]

/-- The transaction of `acquire`, and the decision its caller takes on the count
alone: nobody else can change it. -/
def acquire (settings : Settings) (token : Worker → String)
    (worker : Worker) (stamp : ℚ) (state : State Worker) : State Worker :=
  let added := acquireMembers settings (token worker) stamp state.stored
  let expiry := settings.score stamp
  { state with
    members := added
    expireAt := state.serverMs + settings.leaseArgument
    phase := Function.update state.phase worker <|
      if zcard added ≤ settings.limit then .holding expiry
      else .losing expiry }

/-- One `zrem` of the worker's own token. -/
def remove (token : Worker → String) (worker : Worker) (next : Phase)
    (state : State Worker) : State Worker :=
  { state with
    members := zrem (token worker) state.stored
    phase := Function.update state.phase worker next }

/-- One atomic step.  A reply that never arrives, and a release that fails, leave
the store as a crash of the worker does. -/
def step (settings : Settings) (token : Worker → String)
    (state : State Worker) : Label Worker → Option (State Worker)
  | .tick elapsed =>
      if 0 ≤ elapsed then some { state with now := state.now + elapsed }
      else none
  | .readClock worker =>
      if state.crashed worker then none
      else match state.phase worker with
        | .waiting => some { state with
            phase := Function.update state.phase worker (.stamped state.now) }
        | _ => none
  | .transaction worker =>
      if state.crashed worker then none
      else match state.phase worker with
        | .stamped stamp => some (acquire settings token worker stamp state)
        | _ => none
  | .withdraw worker =>
      if state.crashed worker then none
      else match state.phase worker with
        | .losing _ => some (remove token worker .waiting state)
        | _ => none
  | .release worker =>
      if state.crashed worker then none
      else match state.phase worker with
        | .holding _ => some (remove token worker .finished state)
        | _ => none
  | .giveUp worker =>
      if state.crashed worker then none
      else match state.phase worker with
        | .waiting => some { state with
            phase := Function.update state.phase worker .finished }
        | _ => none
  | .crash worker =>
      some { state with crashed := Function.update state.crashed worker true }

/-- No key, no attempt started, and a clock that reads a time after the epoch. -/
def Initial (state : State Worker) : Prop :=
  0 ≤ state.now ∧ state.members = [] ∧
    (∀ worker, state.phase worker = .waiting) ∧
    ∀ worker, state.crashed worker = false

def system (settings : Settings) (token : Worker → String) :
    TransitionSystem (State Worker) (Label Worker) where
  initial := Initial
  step := step settings token

omit [DecidableEq Worker] in
/-- Admitted, not released, and the stored expiry has not passed. -/
def Live (state : State Worker) (worker : Worker) : Prop :=
  ∃ expiry, state.phase worker = .holding expiry ∧ state.now < expiry

omit [DecidableEq Worker] in
/-- The score that a transaction stores is before the end of the millisecond that comes
one lease after the one it runs in. -/
def InTime (settings : Settings) (state : State Worker) : Label Worker → Prop
  | .transaction worker =>
      match state.phase worker with
      | .stamped stamp =>
          settings.score stamp * 1000 < state.serverMs + settings.leaseMs + 1
      | _ => True
  | _ => True

/-! ## The invariant -/

omit [DecidableEq Worker] in
/-- What every reachable state satisfies.  `deadline` says the key outlives each
of its members, so the lapse of the key drops no lease still running. -/
structure Inv (settings : Settings) (token : Worker → String)
    (state : State Worker) : Prop where
  clock : 0 ≤ state.now
  stamps : ∀ worker stamp, state.phase worker = .stamped stamp →
    0 ≤ stamp ∧ stamp ≤ state.now
  owned : ∀ entry ∈ state.members, ∃ worker, token worker = entry.1 ∧
    (state.phase worker = .holding entry.2 ∨
      state.phase worker = .losing entry.2)
  positive : ∀ entry ∈ state.members, 0 ≤ entry.2
  ceiling : ∀ entry ∈ state.members, entry.2 ≤ settings.score state.now
  deadline : ∀ entry ∈ state.members, entry.2 * 1000 < state.expireAt + 1
  renewed : ∀ entry ∈ state.members,
    state.expireAt ≤ state.serverMs + settings.leaseArgument
  present : ∀ worker expiry, state.phase worker = .holding expiry →
    state.now < expiry → (token worker, expiry) ∈ state.members
  bound : {worker | Live state worker}.encard ≤ settings.limit

section Invariant

variable {settings : Settings} {token : Worker → String}
variable {state : State Worker}

omit [DecidableEq Worker] in
theorem mem_of_mem_stored {entry : String × ℚ}
    (member : entry ∈ state.stored) : entry ∈ state.members := by
  unfold State.stored at member
  split at member
  · simp at member
  · exact member

omit [DecidableEq Worker] in
/-- An entry whose lease still runs is visible: its key has not lapsed. -/
theorem Inv.mem_stored (inv : Inv settings token state)
    {entry : String × ℚ} (member : entry ∈ state.members)
    (running : state.now < entry.2) : entry ∈ state.stored := by
  unfold State.stored
  split
  · rename_i lapsed
    have deadline := inv.deadline entry member
    have past : (state.expireAt : ℚ) + 1 ≤ state.serverMs := by
      exact_mod_cast lapsed
    have floored : (state.serverMs : ℚ) ≤ state.now * 1000 :=
      Int.floor_le _
    linarith
  · exact member

omit [DecidableEq Worker] in
/-- Distinct live workers sit under distinct tokens, so the entries count them. -/
theorem live_encard_le (distinct : Function.Injective token)
    (entries : SortedSet String) (live : Set Worker)
    (listed : ∀ worker ∈ live, ∃ expiry, (token worker, expiry) ∈ entries) :
    live.encard ≤ zcard entries := by
  have image : token '' live ⊆ ((entries.map Prod.fst).toFinset : Set String) := by
    rintro _ ⟨worker, isLive, rfl⟩
    obtain ⟨expiry, member⟩ := listed worker isLive
    simpa using ⟨expiry, member⟩
  calc
    live.encard = (token '' live).encard :=
      (distinct.encard_image live).symm
    _ ≤ ((entries.map Prod.fst).toFinset : Set String).encard :=
      Set.encard_le_encard image
    _ = ((entries.map Prod.fst).toFinset.card : ℕ∞) :=
      Set.encard_coe_eq_coe_finsetCard _
    _ ≤ (entries.map Prod.fst).length := by
      exact_mod_cast List.toFinset_card_le _
    _ = zcard entries := by
      simp [zcard]

omit [DecidableEq Worker] in
theorem inv_initial (isInitial : Initial state) : Inv settings token state := by
  obtain ⟨clock, empty, waiting, _⟩ := isInitial
  refine ⟨clock, ?_, ?_, ?_, ?_, ?_, ?_, ?_, ?_⟩
  · intro worker stamp stamped
    rw [waiting worker] at stamped
    cases stamped
  · simp [empty]
  · simp [empty]
  · simp [empty]
  · simp [empty]
  · simp [empty]
  · intro worker expiry holding
    rw [waiting worker] at holding
    cases holding
  · have nobody : {worker | Live state worker} = ∅ := by
      ext worker
      simp [Live, waiting worker]
    rw [nobody, Set.encard_empty]
    exact bot_le

omit [DecidableEq Worker] in
theorem inv_tick (inv : Inv settings token state) {elapsed : ℚ}
    (forward : 0 ≤ elapsed) :
    Inv settings token { state with now := state.now + elapsed } where
  clock := by
    have clock := inv.clock
    dsimp only
    linarith
  stamps := by
    intro worker stamp stamped
    obtain ⟨lower, upper⟩ := inv.stamps worker stamp stamped
    exact ⟨lower, by dsimp only; linarith⟩
  owned := inv.owned
  positive := inv.positive
  ceiling := by
    intro entry member
    have later : settings.score state.now ≤ settings.score (state.now + elapsed) :=
      settings.score_mono inv.clock (by linarith)
    exact (inv.ceiling entry member).trans later
  deadline := inv.deadline
  renewed := by
    intro entry member
    have later : state.serverMs ≤ ⌊(state.now + elapsed) * 1000⌋ :=
      Int.floor_le_floor (by linarith)
    have renewed := inv.renewed entry member
    change state.expireAt ≤ ⌊(state.now + elapsed) * 1000⌋ + settings.leaseArgument
    linarith
  present := by
    intro worker expiry holding running
    dsimp only at running
    exact inv.present worker expiry holding (by linarith)
  bound := by
    refine le_trans (Set.encard_le_encard ?_) inv.bound
    rintro worker ⟨expiry, holding, running⟩
    dsimp only at running
    exact ⟨expiry, holding, by linarith⟩

/-- A worker that is neither holding nor losing moves to another such phase; the
store is not touched. -/
theorem inv_idle (inv : Inv settings token state) {worker : Worker}
    {next : Phase}
    (wasIdle : ∀ expiry, state.phase worker ≠ .holding expiry ∧
      state.phase worker ≠ .losing expiry)
    (isIdle : ∀ expiry, next ≠ .holding expiry)
    (stampValid : ∀ stamp, next = .stamped stamp →
      0 ≤ stamp ∧ stamp ≤ state.now) :
    Inv settings token
      { state with phase := Function.update state.phase worker next } where
  clock := inv.clock
  stamps := by
    intro other stamp stamped
    by_cases same : other = worker
    · subst other
      exact stampValid stamp (by simpa using stamped)
    · exact inv.stamps other stamp (by simpa [same] using stamped)
  owned := by
    intro entry member
    obtain ⟨owner, tokenEq, phase⟩ := inv.owned entry member
    have different : owner ≠ worker := by
      rintro rfl
      rcases phase with holding | losing
      · exact (wasIdle entry.2).1 holding
      · exact (wasIdle entry.2).2 losing
    exact ⟨owner, tokenEq, by simpa [different] using phase⟩
  positive := inv.positive
  ceiling := inv.ceiling
  deadline := inv.deadline
  renewed := inv.renewed
  present := by
    intro other expiry holding running
    by_cases same : other = worker
    · subst other
      exact absurd (by simpa using holding) (isIdle expiry)
    · exact inv.present other expiry (by simpa [same] using holding) running
  bound := by
    refine le_trans (Set.encard_le_encard ?_) inv.bound
    rintro other ⟨expiry, holding, running⟩
    by_cases same : other = worker
    · subst other
      exact absurd (by simpa using holding) (isIdle expiry)
    · exact ⟨expiry, by simpa [same] using holding, running⟩

/-- Taking one's own entry out leaves every other worker's lease in place. -/
theorem inv_remove (inv : Inv settings token state)
    (distinct : Function.Injective token) {worker : Worker} {next : Phase}
    (isIdle : ∀ expiry, next ≠ .holding expiry)
    (unstamped : ∀ stamp, next ≠ .stamped stamp) :
    Inv settings token (remove token worker next state) where
  clock := inv.clock
  stamps := by
    intro other stamp stamped
    by_cases same : other = worker
    · subst other
      exact absurd (by simpa [remove] using stamped) (unstamped stamp)
    · exact inv.stamps other stamp (by simpa [remove, same] using stamped)
  owned := by
    intro entry member
    simp only [remove, mem_zrem] at member
    obtain ⟨owner, tokenEq, phase⟩ :=
      inv.owned entry (mem_of_mem_stored member.1)
    have different : owner ≠ worker := by
      rintro rfl
      exact member.2 tokenEq.symm
    exact ⟨owner, tokenEq, by simpa [remove, different] using phase⟩
  positive := by
    intro entry member
    simp only [remove, mem_zrem] at member
    exact inv.positive entry (mem_of_mem_stored member.1)
  ceiling := by
    intro entry member
    simp only [remove, mem_zrem] at member
    exact inv.ceiling entry (mem_of_mem_stored member.1)
  deadline := by
    intro entry member
    simp only [remove, mem_zrem] at member
    exact inv.deadline entry (mem_of_mem_stored member.1)
  renewed := by
    intro entry member
    simp only [remove, mem_zrem] at member
    exact inv.renewed entry (mem_of_mem_stored member.1)
  present := by
    intro other expiry holding running
    by_cases same : other = worker
    · subst other
      exact absurd (by simpa [remove] using holding) (isIdle expiry)
    · have member :=
        inv.present other expiry (by simpa [remove, same] using holding) running
      simp only [remove, mem_zrem]
      exact ⟨inv.mem_stored member running,
        fun tokenEq => same (distinct tokenEq)⟩
  bound := by
    refine le_trans (Set.encard_le_encard ?_) inv.bound
    rintro other ⟨expiry, holding, running⟩
    by_cases same : other = worker
    · subst other
      exact absurd (by simpa [remove] using holding) (isIdle expiry)
    · exact ⟨expiry, by simpa [remove, same] using holding, running⟩

@[simp]
theorem mem_acquireMembers {own : String} {stamp : ℚ}
    {stored : SortedSet String} {entry : String × ℚ} :
    entry ∈ acquireMembers settings own stamp stored ↔
      entry = (own, settings.score stamp) ∨
        ((entry ∈ stored ∧ ¬ (0 ≤ entry.2 ∧ entry.2 ≤ stamp)) ∧
          entry.1 ≠ own) := by
  simp only [acquireMembers, mem_zadd, mem_zremrangebyscore]

theorem acquire_phase_self (worker : Worker) (stamp : ℚ) :
    (acquire settings token worker stamp state).phase worker =
      if zcard (acquireMembers settings (token worker) stamp state.stored) ≤
          settings.limit then
        .holding (settings.score stamp)
      else
        .losing (settings.score stamp) := by
  simp [acquire]

theorem acquire_phase_of_ne {worker other : Worker} (stamp : ℚ)
    (different : other ≠ worker) :
    (acquire settings token worker stamp state).phase other =
      state.phase other := by
  simp [acquire, different]

/-- The transaction keeps every running lease: it prunes by a stamp no later
than the clock. -/
theorem acquire_present (inv : Inv settings token state)
    (distinct : Function.Injective token) {worker : Worker} {stamp : ℚ}
    (stamped : state.phase worker = .stamped stamp)
    {other : Worker} {expiry : ℚ}
    (holding : (acquire settings token worker stamp state).phase other =
      .holding expiry)
    (running : state.now < expiry) :
    (token other, expiry) ∈
      acquireMembers settings (token worker) stamp state.stored := by
  rw [mem_acquireMembers]
  by_cases same : other = worker
  · subst other
    rw [acquire_phase_self] at holding
    split at holding
    · cases holding
      exact Or.inl rfl
    · cases holding
  · rw [acquire_phase_of_ne stamp same] at holding
    have member := inv.present other expiry holding running
    have upper := (inv.stamps worker stamp stamped).2
    refine Or.inr ⟨⟨inv.mem_stored member running, ?_⟩, ?_⟩
    · intro pruned
      exact absurd pruned.2 (by linarith)
    · exact fun tokenEq => same (distinct tokenEq)

/-- Over the limit nobody is admitted; within it, the count bounds everybody
whose lease still runs. -/
theorem acquire_bound (inv : Inv settings token state)
    (distinct : Function.Injective token) {worker : Worker} {stamp : ℚ}
    (stamped : state.phase worker = .stamped stamp) :
    {other | Live (acquire settings token worker stamp state) other}.encard ≤
      settings.limit := by
  by_cases admitted :
      zcard (acquireMembers settings (token worker) stamp state.stored) ≤
        settings.limit
  · have counted :=
      live_encard_le distinct
        (acquireMembers settings (token worker) stamp state.stored)
        {other | Live (acquire settings token worker stamp state) other}
        (by
          rintro other ⟨expiry, holding, running⟩
          exact ⟨expiry,
            acquire_present inv distinct stamped holding running⟩)
    exact counted.trans (by exact_mod_cast admitted)
  · refine le_trans (Set.encard_le_encard ?_) inv.bound
    rintro other ⟨expiry, holding, running⟩
    by_cases same : other = worker
    · subst other
      rw [acquire_phase_self, if_neg admitted] at holding
      cases holding
    · rw [acquire_phase_of_ne stamp same] at holding
      exact ⟨expiry, holding, running⟩

/-- The key is given the lease from now on; what an older entry was given is over
earlier. -/
theorem inv_acquire (whole : settings.leaseMs ≤ settings.leaseProduct)
    (inv : Inv settings token state) (distinct : Function.Injective token)
    {worker : Worker} {stamp : ℚ} (stamped : state.phase worker = .stamped stamp)
    (inTime : settings.score stamp * 1000 < state.serverMs + settings.leaseMs + 1) :
    Inv settings token (acquire settings token worker stamp state) := by
  obtain ⟨lower, upper⟩ := inv.stamps worker stamp stamped
  have argument : (settings.leaseMs : ℤ) ≤ settings.leaseArgument :=
    Int.le_floor.mpr (by exact_mod_cast whole)
  refine ⟨inv.clock, ?_, ?_, ?_, ?_, ?_, ?_, ?_, acquire_bound inv distinct stamped⟩
  · intro other otherStamp otherStamped
    by_cases same : other = worker
    · subst other
      rw [acquire_phase_self] at otherStamped
      split at otherStamped <;> cases otherStamped
    · rw [acquire_phase_of_ne stamp same] at otherStamped
      exact inv.stamps other otherStamp otherStamped
  · intro entry member
    rcases mem_acquireMembers.mp member with rfl | ⟨⟨old, _⟩, foreign⟩
    · refine ⟨worker, rfl, ?_⟩
      rw [acquire_phase_self]
      split
      · exact Or.inl rfl
      · exact Or.inr rfl
    · obtain ⟨owner, tokenEq, phase⟩ :=
        inv.owned entry (mem_of_mem_stored old)
      have different : owner ≠ worker := by
        rintro rfl
        exact foreign tokenEq.symm
      exact ⟨owner, tokenEq, by rwa [acquire_phase_of_ne stamp different]⟩
  · intro entry member
    rcases mem_acquireMembers.mp member with rfl | ⟨⟨old, _⟩, _⟩
    · exact settings.score_nonneg lower
    · exact inv.positive entry (mem_of_mem_stored old)
  · intro entry member
    rcases mem_acquireMembers.mp member with rfl | ⟨⟨old, _⟩, _⟩
    · exact settings.score_mono lower upper
    · exact inv.ceiling entry (mem_of_mem_stored old)
  · intro entry member
    change entry.2 * 1000 < ((state.serverMs + settings.leaseArgument : ℤ) : ℚ) + 1
    rcases mem_acquireMembers.mp member with rfl | ⟨⟨old, _⟩, _⟩
    · have given : ((state.serverMs + settings.leaseMs : ℤ) : ℚ) ≤
          ((state.serverMs + settings.leaseArgument : ℤ) : ℚ) := by
        exact_mod_cast add_le_add_right argument state.serverMs
      push_cast at given ⊢
      linarith
    · have deadline := inv.deadline entry (mem_of_mem_stored old)
      have renewed : (state.expireAt : ℚ) ≤
          ((state.serverMs + settings.leaseArgument : ℤ) : ℚ) := by
        exact_mod_cast inv.renewed entry (mem_of_mem_stored old)
      linarith
  · intro entry member
    exact le_rfl
  · intro other expiry holding running
    exact acquire_present inv distinct stamped holding running

theorem inv_step (whole : settings.leaseMs ≤ settings.leaseProduct)
    (distinct : Function.Injective token)
    {label : Label Worker} {next : State Worker}
    (inv : Inv settings token state) (inTime : InTime settings state label)
    (stepped : step settings token state label = some next) :
    Inv settings token next := by
  cases label with
  | tick elapsed =>
      simp only [step] at stepped
      split at stepped
      · cases stepped
        exact inv_tick inv ‹_›
      · cases stepped
  | readClock worker =>
      simp only [step] at stepped
      split at stepped
      · cases stepped
      · split at stepped
        · cases stepped
          rename_i waiting
          exact inv_idle inv (by simp [waiting]) (by simp)
            (by rintro stamp ⟨⟩; exact ⟨inv.clock, le_refl _⟩)
        · cases stepped
  | transaction worker =>
      simp only [step] at stepped
      split at stepped
      · cases stepped
      · split at stepped
        · cases stepped
          rename_i stamp stamped
          simp only [InTime, stamped] at inTime
          exact inv_acquire whole inv distinct stamped inTime
        · cases stepped
  | withdraw worker =>
      simp only [step] at stepped
      split at stepped
      · cases stepped
      · split at stepped
        · cases stepped
          exact inv_remove inv distinct (by simp) (by simp)
        · cases stepped
  | release worker =>
      simp only [step] at stepped
      split at stepped
      · cases stepped
      · split at stepped
        · cases stepped
          exact inv_remove inv distinct (by simp) (by simp)
        · cases stepped
  | giveUp worker =>
      simp only [step] at stepped
      split at stepped
      · cases stepped
      · split at stepped
        · cases stepped
          rename_i waiting
          exact inv_idle inv (by simp [waiting]) (by simp) (by simp)
        · cases stepped
  | crash worker =>
      cases stepped
      exact ⟨inv.clock, inv.stamps, inv.owned, inv.positive, inv.ceiling,
        inv.deadline, inv.renewed, inv.present, inv.bound⟩

/-- Every state that is reached in time satisfies the invariant. -/
theorem inv_reachable (whole : settings.leaseMs ≤ settings.leaseProduct)
    (distinct : Function.Injective token)
    (reachable : (system settings token).ReachableUnder (InTime settings) state) :
    Inv settings token state :=
  TransitionSystem.ReachableUnder.invariant (Inv settings token)
    (fun _ isInitial => inv_initial isInitial)
    (fun _ _ _ inv inTime stepped => inv_step whole distinct inv inTime stepped)
    reachable

end Invariant

/-! ## Slots do not leak -/

/-- Every step but another acquire transaction. -/
def NoTransaction (_ : State Worker) : Label Worker → Prop
  | .transaction _ => False
  | _ => True

section Leak

variable {settings : Settings} {token : Worker → String}
variable {state : State Worker}

/-- Without a transaction the entries only get fewer, and the clock only later. -/
theorem step_members_subset {label : Label Worker} {next : State Worker}
    (quiet : NoTransaction state label)
    (stepped : step settings token state label = some next) :
    (∀ entry ∈ next.members, entry ∈ state.members) ∧
      state.now ≤ next.now := by
  cases label with
  | transaction worker =>
      exact False.elim quiet
  | tick elapsed =>
      simp only [step] at stepped
      split at stepped
      · cases stepped
        exact ⟨fun _ member => member, by dsimp only; linarith⟩
      · cases stepped
  | crash worker =>
      cases stepped
      exact ⟨fun _ member => member, le_refl _⟩
  | readClock worker | giveUp worker =>
      simp only [step] at stepped
      split at stepped
      · cases stepped
      · split at stepped
        · cases stepped
          exact ⟨fun _ member => member, le_refl _⟩
        · cases stepped
  | withdraw worker | release worker =>
      simp only [step] at stepped
      split at stepped
      · cases stepped
      · split at stepped
        · cases stepped
          refine ⟨fun entry member => ?_, le_refl _⟩
          simp only [remove, mem_zrem] at member
          exact mem_of_mem_stored member.1
        · cases stepped

theorem run_members_subset {target : State Worker}
    (run : (system settings token).Reaches NoTransaction state target) :
    ∀ entry ∈ target.members, entry ∈ state.members := by
  refine run.preserves
    (fun later => ∀ entry ∈ later.members, entry ∈ state.members)
    ?_ (fun _ member => member)
  intro before label after subset quiet stepped entry member
  exact subset entry ((step_members_subset quiet stepped).1 entry member)

/-- A transaction whose stamp is past every stored score counts its own entry
only. -/
theorem acquire_of_all_expired {worker : Worker} {stamp : ℚ}
    (expired : ∀ entry ∈ state.members, 0 ≤ entry.2 ∧ entry.2 ≤ stamp) :
    (acquire settings token worker stamp state).phase worker =
      .holding (settings.score stamp) := by
  have pruned : zremrangebyscore 0 stamp state.stored = [] :=
    zremrangebyscore_eq_nil fun entry member =>
      expired entry (mem_of_mem_stored member)
  have single :
      zcard (acquireMembers settings (token worker) stamp state.stored) = 1 := by
    simp [acquireMembers, pruned, zadd, zrem, zcard]
  rw [acquire_phase_self, single, if_pos settings.limit_pos]

end Leak

/-- If no millisecond of the lease is lost in the product, and no score is rounded beyond
its lease, the ceiling holds in every state; whatever occupies the key is an admitted
token, a losing entry still to be withdrawn or expired; and the first transaction stamped
one lease later is admitted. -/
theorem sharedSlots_safe (settings : Settings) (token : Worker → String)
    (distinct : Function.Injective token)
    (whole : settings.leaseMs ≤ settings.leaseProduct) (state : State Worker)
    (reachable : (system settings token).ReachableUnder (InTime settings) state) :
    {worker | Live state worker}.encard ≤ settings.limit ∧
      (∀ entry ∈ state.stored,
        (∃ worker, token worker = entry.1 ∧
          state.phase worker = .holding entry.2 ∧ Live state worker) ∨
        (∃ worker, token worker = entry.1 ∧
          state.phase worker = .losing entry.2) ∨
        entry.2 ≤ state.now) ∧
      ∀ later worker stamp,
        (system settings token).Reaches NoTransaction state later →
        later.phase worker = .stamped stamp →
        later.crashed worker = false →
        settings.score state.now ≤ stamp →
        ∃ admitted,
          step settings token later (.transaction worker) = some admitted ∧
            admitted.phase worker = .holding (settings.score stamp) := by
  have inv := inv_reachable whole distinct reachable
  refine ⟨inv.bound, ?_, ?_⟩
  · intro entry member
    obtain ⟨worker, tokenEq, holding | losing⟩ :=
      inv.owned entry (mem_of_mem_stored member)
    · by_cases running : state.now < entry.2
      · exact Or.inl
          ⟨worker, tokenEq, holding, entry.2, holding, running⟩
      · exact Or.inr (Or.inr (not_lt.mp running))
    · exact Or.inr (Or.inl ⟨worker, tokenEq, losing⟩)
  · intro later worker stamp run stamped alive elapsed
    refine ⟨acquire settings token worker stamp later, ?_, ?_⟩
    · simp [step, alive, stamped]
    · apply acquire_of_all_expired
      intro entry member
      have old := run_members_subset run entry member
      exact ⟨inv.positive entry old,
        (inv.ceiling entry old).trans elapsed⟩

/-! ### One slot, two workers -/

def twoTokens : Bool → String
  | false => "4711-a"
  | true => "4712-b"

def idle : State Bool :=
  { now := 1700000000, members := [], expireAt := 0
    phase := fun _ => .waiting, crashed := fun _ => false }

theorem idle_initial : Initial idle :=
  ⟨by decide, rfl, fun _ => rfl, fun _ => rfl⟩

def slotRun (settings : Settings) (source : State Bool) (labels : List (Label Bool)) :
    State Bool :=
  ((system settings twoTokens).exec source labels).getD idle

def oneMinute : Settings :=
  ⟨1, 60000, by decide, by decide⟩

/-- Worker `false` gets the only slot, and `true` loses. -/
def contended : List (Label Bool) :=
  [.readClock false, .transaction false, .tick (1 / 1024), .readClock true,
    .transaction true]

/-- The loser withdraws, the holder crashes, and a lease later the loser tries again. -/
def abandoned : List (Label Bool) :=
  [.withdraw true, .crash false, .tick 60, .readClock true]

def admitsInTime (settings : Settings) (state : State Bool) : Label Bool → Bool
  | .transaction worker =>
      match state.phase worker with
      | .stamped stamp =>
          decide (settings.score stamp * 1000 < state.serverMs + settings.leaseMs + 1)
      | _ => true
  | _ => true

theorem inTime_of_admits (settings : Settings) (state : State Bool) (label : Label Bool)
    (admitted : admitsInTime settings state label = true) : InTime settings state label := by
  cases label with
  | transaction worker =>
      rw [admitsInTime] at admitted
      rw [InTime]
      split at admitted
      next => exact of_decide_eq_true admitted
      next => trivial
  | _ => trivial

def admitsQuiet (_ : State Bool) : Label Bool → Bool
  | .transaction _ => false
  | _ => true

theorem noTransaction_of_admits (state : State Bool) (label : Label Bool)
    (admitted : admitsQuiet state label = true) : NoTransaction state label := by
  cases label with
  | transaction worker => cases admitted
  | _ => trivial

theorem sharedSlots_safe_handover :
    {worker | Live (slotRun oneMinute idle contended) worker}.encard ≤ 1 ∧
      ∃ admitted,
        step oneMinute twoTokens
            (slotRun oneMinute (slotRun oneMinute idle contended) abandoned)
            (.transaction true) = some admitted ∧
          admitted.phase true =
            .holding (oneMinute.score (1700000000 + 1 / 1024 + 60)) := by
  have run : (system oneMinute twoTokens).Reaches (InTime oneMinute) idle
      (slotRun oneMinute idle contended) :=
    TransitionSystem.reaches_of_execIf (inTime_of_admits oneMinute) contended
      (by decide +kernel)
  have quiet : (system oneMinute twoTokens).Reaches NoTransaction
      (slotRun oneMinute idle contended)
      (slotRun oneMinute (slotRun oneMinute idle contended) abandoned) :=
    TransitionSystem.reaches_of_execIf noTransaction_of_admits abandoned
      (by decide +kernel)
  obtain ⟨bound, _, handover⟩ := sharedSlots_safe oneMinute twoTokens (by decide)
    (by decide +kernel) (slotRun oneMinute idle contended) ⟨idle, idle_initial, run⟩
  refine ⟨bound, handover _ true _ quiet ?_ ?_ ?_⟩
  · decide +kernel
  · decide +kernel
  · decide +kernel

/-! ### A lease of 64.1 seconds -/

/-- Its product with 1000 is below 64100. -/
def oddLease : Settings :=
  ⟨1, 64100, by decide, by decide⟩

/-- The key lapses a quarter of a millisecond before the lease of its only member. -/
def lapsed : List (Label Bool) :=
  [.tick (1 / 2048), .readClock false, .transaction false, .tick (64 + 817 / 8192),
    .readClock true, .transaction true]

instance (state : State Bool) (worker : Bool) : Decidable (Live state worker) :=
  match isPhase : state.phase worker with
  | .holding expiry =>
      if running : state.now < expiry then isTrue ⟨expiry, isPhase, running⟩
      else isFalse fun live => by
        obtain ⟨other, isOther, runs⟩ := live
        rw [isPhase] at isOther
        cases isOther
        exact running runs
  | .waiting | .stamped _ | .losing _ | .finished => isFalse fun live => by
      obtain ⟨other, isOther, _⟩ := live
      rw [isPhase] at isOther
      cases isOther

theorem sharedSlots_exceed :
    ¬ ∀ (settings : Settings) (token : Bool → String), Function.Injective token →
      ∀ state : State Bool, (system settings token).Reachable state →
        {worker | Live state worker}.encard ≤ settings.limit := by
  intro bounded
  have reached : (system oddLease twoTokens).exec idle lapsed =
      some (slotRun oddLease idle lapsed) :=
    TransitionSystem.exec_eq_getD (by decide +kernel)
  have bound := bounded oddLease twoTokens (by decide) _
    (TransitionSystem.reachable_of_exec lapsed idle_initial reached)
  have held : Live (slotRun oddLease idle lapsed) false ∧
      Live (slotRun oddLease idle lapsed) true := by
    decide +kernel
  have same : false = true := Set.encard_le_one_iff.mp bound false true held.1 held.2
  cases same

end DbBuddy.Erp.SharedSlots
