import DbBuddy.Library.TransitionSystem

/-!
# Single-use execution tokens

`/query` stores the statement it produced under the hash of an opaque token and
`/execute` redeems it.  A redemption loads the row, compares user and target,
reads the clock, runs one guarded `UPDATE` and commits.  These are separate
steps; the row an uncommitted `UPDATE` has written is locked until its
transaction ends, so another call's `UPDATE` waits for it.
-/

namespace DbBuddy.Auth.ExecutionTokens

open DbBuddy.Library

universe u

/-- `TOKEN_TTL_SECONDS`, in the microseconds a `datetime` counts. -/
def tokenTtl : Int := 300 * 1000000

/-- Why `redeem` refused. -/
inductive TokenError where
  | tokenInvalid
  | tokenExpiredOrUsed
  | tokenContextMismatch
  deriving DecidableEq, Repr

/-- The text each refusal carries. -/
def TokenError.message : TokenError → String
  | .tokenInvalid => "This execution token is not valid."
  | .tokenExpiredOrUsed =>
      "This execution token has already been used or has expired."
  | .tokenContextMismatch =>
      "This execution token was issued for a different database connection."

/-- The HTTP status `_resolve_execute_sql` answers a refusal with. -/
def TokenError.status : TokenError → Nat
  | .tokenInvalid => 400
  | .tokenExpiredOrUsed => 409
  | .tokenContextMismatch => 409

/-- One row of `execution_tokens`. -/
structure ExecutionToken where
  userId : String
  sql : String
  safetyCategory : String
  contextHash : String
  createdAt : Int
  expiresAt : Int
  consumedAt : Option Int
  deriving DecidableEq, Repr

/-- What `issue` is given besides the raw token it draws. -/
structure IssueRequest where
  userId : String
  sql : String
  safetyCategory : String
  contextHash : String
  deriving DecidableEq, Repr

/-- What one call of `redeem` is given. -/
structure RedeemRequest where
  token : String
  userId : String
  contextHash : String
  deriving DecidableEq, Repr

/-- The row `issue` adds. -/
def issuedRow (request : IssueRequest) (now : Int) : ExecutionToken where
  userId := request.userId
  sql := request.sql
  safetyCategory := request.safetyCategory
  contextHash := request.contextHash
  createdAt := now
  expiresAt := now + tokenTtl
  consumedAt := none

/-- The checks `redeem` makes on the row it loaded, before consuming it. -/
def checkRow (request : RedeemRequest) :
    Option ExecutionToken → Except TokenError ExecutionToken
  | none => .error .tokenInvalid
  | some row =>
      if row.userId ≠ request.userId then .error .tokenInvalid
      else if row.contextHash ≠ request.contextHash then
        .error .tokenContextMismatch
      else .ok row

/-- The `WHERE` of the guarded `UPDATE`. -/
def ExecutionToken.redeemableAt (row : ExecutionToken) (now : Int) : Bool :=
  row.consumedAt.isNone && decide (now < row.expiresAt)

/-- Where one call stands.  `redeemed` is what `_resolve_execute_sql` returns,
with the instant the row records as `consumed_at`. -/
inductive Phase where
  | ready
  | loaded
  | stamped (now : Int)
  | consumed (now : Int) (row : ExecutionToken)
  | redeemed (now : Int) (sql safetyCategory : String)
  | refused (error : TokenError)
  | aborted
  deriving DecidableEq, Repr

/-- The reading of the clock that a call has taken and uses. -/
def Phase.clock : Phase → Option Int
  | .stamped now => some now
  | .consumed now _ => some now
  | .redeemed now _ _ => some now
  | _ => none

/-- The clock has not been read. -/
def Phase.early : Phase → Bool
  | .ready => true
  | .loaded => true
  | _ => false

/-- The committed table, the locks of uncommitted updates, and every call. -/
structure State (Call : Type u) where
  now : Int
  rows : String → Option ExecutionToken
  lockedBy : String → Option Call
  phase : Call → Phase

inductive Label (Call : Type u) where
  | tick (elapsed : Nat)
  | issue (raw : String) (request : IssueRequest)
  | load (call : Call)
  | readClock (call : Call)
  | update (call : Call)
  | commit (call : Call)
  | rollback (call : Call)

section Steps

variable {Call : Type u} [DecidableEq Call]

def State.setPhase (state : State Call) (call : Call) (next : Phase) :
    State Call :=
  { state with phase := Function.update state.phase call next }

/-- One atomic step.  `hashToken` is `_hash_token`, `request` the arguments of
each call; a rollback stands for a failed commit and for a worker that dies. -/
def step (hashToken : String → String) (request : Call → RedeemRequest)
    (state : State Call) : Label Call → Option (State Call)
  | .tick elapsed => some { state with now := state.now + elapsed }
  | .issue raw issueRequest =>
      match state.rows (hashToken raw) with
      | some _ => none
      | none => some { state with
          rows := Function.update state.rows (hashToken raw)
            (some (issuedRow issueRequest state.now)) }
  | .load call =>
      match state.phase call with
      | .ready =>
          match checkRow (request call)
              (state.rows (hashToken (request call).token)) with
          | .ok _ => some (state.setPhase call .loaded)
          | .error error => some (state.setPhase call (.refused error))
      | _ => none
  | .readClock call =>
      match state.phase call with
      | .loaded => some (state.setPhase call (.stamped state.now))
      | _ => none
  | .update call =>
      match state.phase call with
      | .stamped now =>
          let id := hashToken (request call).token
          -- Another transaction's uncommitted write: the statement blocks.
          if state.lockedBy id ≠ none then none
          else match state.rows id with
            | some row =>
                if row.redeemableAt now then
                  some { state.setPhase call (.consumed now row) with
                    lockedBy := Function.update state.lockedBy id (some call) }
                else some (state.setPhase call (.refused .tokenExpiredOrUsed))
            | none =>
                some (state.setPhase call (.refused .tokenExpiredOrUsed))
      | _ => none
  | .commit call =>
      match state.phase call with
      | .consumed now row =>
          let id := hashToken (request call).token
          some
            { state.setPhase call
                (.redeemed now row.sql row.safetyCategory) with
              rows := Function.update state.rows id
                (some { row with consumedAt := some now })
              lockedBy := Function.update state.lockedBy id none }
      | _ => none
  | .rollback call =>
      match state.phase call with
      | .consumed _ _ => some { state.setPhase call .aborted with
          lockedBy := Function.update state.lockedBy
            (hashToken (request call).token) none }
      | .loaded => some (state.setPhase call .aborted)
      | .stamped _ => some (state.setPhase call .aborted)
      | _ => none

/-- No call has started, and nothing is locked. -/
def Initial (state : State Call) : Prop :=
  (∀ id, state.rows id = none) ∧ (∀ id, state.lockedBy id = none) ∧
    ∀ call, state.phase call = .ready

def system (hashToken : String → String) (request : Call → RedeemRequest) :
    TransitionSystem (State Call) (Label Call) where
  initial := Initial
  step := step hashToken request

end Steps

/-! ## What a step can do -/

section Inversion

variable {Call : Type u} [DecidableEq Call]
variable {hashToken : String → String} {request : Call → RedeemRequest}
variable {state next : State Call}

@[simp]
theorem State.setPhase_self (call : Call) (phase : Phase) :
    (state.setPhase call phase).phase call = phase := by
  simp [State.setPhase]

theorem State.setPhase_of_ne {call other : Call} (phase : Phase)
    (different : other ≠ call) :
    (state.setPhase call phase).phase other = state.phase other := by
  simp [State.setPhase, different]

@[simp]
theorem State.setPhase_rows (call : Call) (phase : Phase) :
    (state.setPhase call phase).rows = state.rows := rfl

@[simp]
theorem State.setPhase_lockedBy (call : Call) (phase : Phase) :
    (state.setPhase call phase).lockedBy = state.lockedBy := rfl

theorem checkRow_eq_ok {asked : RedeemRequest}
    {stored : Option ExecutionToken} {row : ExecutionToken}
    (passed : checkRow asked stored = .ok row) :
    stored = some row ∧ row.userId = asked.userId ∧
      row.contextHash = asked.contextHash := by
  cases stored with
  | none =>
      cases passed
  | some found =>
      simp only [checkRow] at passed
      split at passed
      · cases passed
      · split at passed
        · cases passed
        · cases passed
          exact ⟨rfl, not_not.mp ‹_›, not_not.mp ‹_›⟩

/-- `_hash_token` of the token a call presents. -/
def idOf (hashToken : String → String) (request : Call → RedeemRequest)
    (call : Call) : String :=
  hashToken (request call).token

theorem step_issue {raw : String} {issueRequest : IssueRequest}
    (stepped : step hashToken request state (.issue raw issueRequest) =
      some next) :
    state.rows (hashToken raw) = none ∧
      next = { state with
        rows := Function.update state.rows (hashToken raw)
          (some (issuedRow issueRequest state.now)) } := by
  simp only [step] at stepped
  split at stepped
  · cases stepped
  · cases stepped
    exact ⟨‹_›, rfl⟩

theorem step_load {call : Call}
    (stepped : step hashToken request state (.load call) = some next) :
    state.phase call = .ready ∧
      ((∃ row, checkRow (request call)
            (state.rows (idOf hashToken request call)) = .ok row ∧
          next = state.setPhase call .loaded) ∨
        ∃ error, next = state.setPhase call (.refused error)) := by
  simp only [step] at stepped
  split at stepped
  · refine ⟨‹_›, ?_⟩
    split at stepped
    · cases stepped
      exact Or.inl ⟨_, ‹_›, rfl⟩
    · cases stepped
      exact Or.inr ⟨_, rfl⟩
  · cases stepped

theorem step_readClock {call : Call}
    (stepped : step hashToken request state (.readClock call) = some next) :
    state.phase call = .loaded ∧
      next = state.setPhase call (.stamped state.now) := by
  simp only [step] at stepped
  split at stepped
  · cases stepped
    exact ⟨‹_›, rfl⟩
  · cases stepped

theorem step_update {call : Call}
    (stepped : step hashToken request state (.update call) = some next) :
    ∃ now, state.phase call = .stamped now ∧
      state.lockedBy (idOf hashToken request call) = none ∧
      ((∃ row, state.rows (idOf hashToken request call) = some row ∧
          row.redeemableAt now = true ∧
          next = { state.setPhase call (.consumed now row) with
            lockedBy := Function.update state.lockedBy
              (idOf hashToken request call) (some call) }) ∨
        next = state.setPhase call (.refused .tokenExpiredOrUsed)) := by
  simp only [step] at stepped
  split at stepped
  · refine ⟨_, ‹_›, ?_⟩
    split at stepped
    · cases stepped
    · refine ⟨not_not.mp ‹_›, ?_⟩
      split at stepped
      · split at stepped
        · cases stepped
          exact Or.inl ⟨_, ‹_›, ‹_›, rfl⟩
        · cases stepped
          exact Or.inr rfl
      · cases stepped
        exact Or.inr rfl
  · cases stepped

theorem step_commit {call : Call}
    (stepped : step hashToken request state (.commit call) = some next) :
    ∃ now row, state.phase call = .consumed now row ∧
      next =
        { state.setPhase call (.redeemed now row.sql row.safetyCategory) with
          rows := Function.update state.rows (idOf hashToken request call)
            (some { row with consumedAt := some now })
          lockedBy := Function.update state.lockedBy
            (idOf hashToken request call) none } := by
  simp only [step] at stepped
  split at stepped
  · cases stepped
    exact ⟨_, _, ‹_›, rfl⟩
  · cases stepped

theorem step_rollback {call : Call}
    (stepped : step hashToken request state (.rollback call) = some next) :
    ((∃ now row, state.phase call = .consumed now row) ∧
        next = { state.setPhase call .aborted with
          lockedBy := Function.update state.lockedBy
            (idOf hashToken request call) none }) ∨
      ((∀ now row, state.phase call ≠ .consumed now row) ∧
        next = state.setPhase call .aborted) := by
  simp only [step] at stepped
  split at stepped
  · cases stepped
    exact Or.inl ⟨⟨_, _, ‹_›⟩, rfl⟩
  · cases stepped
    refine Or.inr ⟨?_, rfl⟩
    simp_all
  · cases stepped
    refine Or.inr ⟨?_, rfl⟩
    simp_all
  · cases stepped

end Inversion

/-! ## The invariant -/

/-- The stored row belongs to the caller and to the caller's target. -/
def Matches (asked : RedeemRequest) (row : ExecutionToken) : Prop :=
  row.userId = asked.userId ∧ row.contextHash = asked.contextHash

section Invariant

variable {Call : Type u} [DecidableEq Call]

omit [DecidableEq Call] in
/-- What every reachable state satisfies.  An uncommitted `UPDATE` and its lock
come together, which is what makes the committed one unique. -/
structure Inv (hashToken : String → String) (request : Call → RedeemRequest)
    (state : State Call) : Prop where
  checked : ∀ call,
    (state.phase call = .loaded ∨ ∃ now, state.phase call = .stamped now) →
      ∃ row, state.rows (idOf hashToken request call) = some row ∧
        Matches (request call) row
  consumed : ∀ call now row, state.phase call = .consumed now row →
    state.rows (idOf hashToken request call) = some row ∧
      Matches (request call) row ∧ row.redeemableAt now = true ∧
      state.lockedBy (idOf hashToken request call) = some call
  locked : ∀ id call, state.lockedBy id = some call →
    id = idOf hashToken request call ∧
      ∃ now row, state.phase call = .consumed now row
  redeemed : ∀ call now sql category,
    state.phase call = .redeemed now sql category →
      ∃ row, state.rows (idOf hashToken request call) = some row ∧
        Matches (request call) row ∧ row.consumedAt = some now ∧
        now < row.expiresAt ∧ row.sql = sql ∧ row.safetyCategory = category
  once : ∀ call other now sql category later text grade,
    state.phase call = .redeemed now sql category →
    state.phase other = .redeemed later text grade →
    idOf hashToken request call = idOf hashToken request other →
    call = other

variable {hashToken : String → String} {request : Call → RedeemRequest}
variable {state next : State Call}

omit [DecidableEq Call] in
theorem inv_initial (isInitial : Initial state) :
    Inv hashToken request state := by
  obtain ⟨_, unlocked, ready⟩ := isInitial
  refine ⟨?_, ?_, ?_, ?_, ?_⟩
  · rintro call (loaded | ⟨now, stamped⟩)
    · simp [ready call] at loaded
    · simp [ready call] at stamped
  · intro call now row consumed
    simp [ready call] at consumed
  · intro id call locked
    simp [unlocked id] at locked
  · intro call now sql category redeemed
    simp [ready call] at redeemed
  · intro call other now sql category later text grade redeemed
    simp [ready call] at redeemed

/-- A call that moves on and has redeemed nothing leaves all redemptions to the
others. -/
theorem redeemed_of_setPhase {call other : Call} {phase : Phase} {now : Int}
    {sql category : String}
    (notRedeemed : ∀ now sql category, phase ≠ .redeemed now sql category)
    (redeemed : (state.setPhase call phase).phase other = .redeemed now sql category) :
    state.phase other = .redeemed now sql category := by
  by_cases same : other = call
  · subst other
    exact absurd (by simpa using redeemed) (notRedeemed now sql category)
  · rwa [State.setPhase_of_ne phase same] at redeemed

/-- A call that holds no lock moves to a phase that holds none and has redeemed
nothing. -/
theorem inv_setPhase (inv : Inv hashToken request state) {call : Call}
    {phase : Phase}
    (wasUnlocked : ∀ now row, state.phase call ≠ .consumed now row)
    (isUnlocked : ∀ now row, phase ≠ .consumed now row)
    (notRedeemed : ∀ now sql category, phase ≠ .redeemed now sql category)
    (matched : (phase = .loaded ∨ ∃ now, phase = .stamped now) →
      ∃ row, state.rows (idOf hashToken request call) = some row ∧
        Matches (request call) row) :
    Inv hashToken request (state.setPhase call phase) := by
  refine ⟨?_, ?_, ?_, ?_, ?_⟩
  · intro other checked
    by_cases same : other = call
    · subst other
      exact matched (by simpa using checked)
    · rw [State.setPhase_of_ne phase same] at checked
      exact inv.checked other checked
  · intro other now row consumed
    by_cases same : other = call
    · subst other
      exact absurd (by simpa using consumed) (isUnlocked now row)
    · rw [State.setPhase_of_ne phase same] at consumed
      exact inv.consumed other now row consumed
  · intro id holder locked
    obtain ⟨idEq, now, row, consumed⟩ := inv.locked id holder locked
    have different : holder ≠ call := by
      rintro rfl
      exact wasUnlocked now row consumed
    exact ⟨idEq, now, row, by
      rwa [State.setPhase_of_ne phase different]⟩
  · intro other now sql category redeemed
    exact inv.redeemed other now sql category
      (redeemed_of_setPhase notRedeemed redeemed)
  · intro first second now sql category later text grade
      firstRedeemed secondRedeemed sameId
    exact inv.once first second now sql category later text grade
      (redeemed_of_setPhase notRedeemed firstRedeemed)
      (redeemed_of_setPhase notRedeemed secondRedeemed) sameId

omit [DecidableEq Call] in
/-- Adding a row under a fresh id disturbs no call. -/
theorem inv_issue (inv : Inv hashToken request state) {id : String}
    (fresh : state.rows id = none) (row : ExecutionToken) :
    Inv hashToken request
      { state with rows := Function.update state.rows id (some row) } := by
  have kept : ∀ {key : String} {found : ExecutionToken},
      state.rows key = some found →
        Function.update state.rows id (some row) key = some found := by
    intro key found present
    have different : key ≠ id := by
      rintro rfl
      rw [fresh] at present
      cases present
    rwa [Function.update_of_ne different]
  refine ⟨?_, ?_, inv.locked, ?_, inv.once⟩
  · intro call checked
    obtain ⟨found, present, matched⟩ := inv.checked call checked
    exact ⟨found, kept present, matched⟩
  · intro call now found consumed
    obtain ⟨present, rest⟩ := inv.consumed call now found consumed
    exact ⟨kept present, rest⟩
  · intro call now sql category redeemed
    obtain ⟨found, present, rest⟩ :=
      inv.redeemed call now sql category redeemed
    exact ⟨found, kept present, rest⟩

/-- The guarded `UPDATE` that matched: the row is locked by this call alone. -/
theorem inv_update (inv : Inv hashToken request state) {call : Call}
    {now : Int} {row : ExecutionToken}
    (stamped : state.phase call = .stamped now)
    (free : state.lockedBy (idOf hashToken request call) = none)
    (present : state.rows (idOf hashToken request call) = some row)
    (guarded : row.redeemableAt now = true) :
    Inv hashToken request
      { state.setPhase call (.consumed now row) with
        lockedBy := Function.update state.lockedBy
          (idOf hashToken request call) (some call) } := by
  have matched : Matches (request call) row := by
    obtain ⟨found, foundPresent, matched⟩ :=
      inv.checked call (Or.inr ⟨now, stamped⟩)
    rw [present] at foundPresent
    cases foundPresent
    exact matched
  have notRedeemed : ∀ later sql category,
      Phase.consumed now row ≠ .redeemed later sql category := by
    intro later sql category same
    cases same
  refine ⟨?_, ?_, ?_, ?_, ?_⟩
  · intro other checked
    by_cases same : other = call
    · subst other
      simp at checked
    · simp only [State.setPhase_of_ne _ same] at checked
      exact inv.checked other checked
  · intro other later found consumed
    by_cases same : other = call
    · subst other
      simp only [State.setPhase_self, Phase.consumed.injEq] at consumed
      obtain ⟨rfl, rfl⟩ := consumed
      exact ⟨present, matched, guarded, by simp⟩
    · simp only [State.setPhase_of_ne _ same] at consumed
      obtain ⟨otherPresent, otherMatched, otherGuarded, otherLocked⟩ :=
        inv.consumed other later found consumed
      have different : idOf hashToken request other ≠
          idOf hashToken request call := by
        intro sameId
        rw [sameId, free] at otherLocked
        cases otherLocked
      exact ⟨otherPresent, otherMatched, otherGuarded, by
        simpa [Function.update_of_ne different] using otherLocked⟩
  · intro id holder locked
    by_cases sameId : id = idOf hashToken request call
    · subst id
      simp only [Function.update_self, Option.some.injEq] at locked
      subst holder
      exact ⟨rfl, now, row, by simp⟩
    · simp only [Function.update_of_ne sameId] at locked
      obtain ⟨idEq, later, found, consumed⟩ := inv.locked id holder locked
      have different : holder ≠ call := by
        rintro rfl
        exact sameId idEq
      exact ⟨idEq, later, found, by
        simpa [State.setPhase_of_ne _ different] using consumed⟩
  · intro other later sql category redeemed
    exact inv.redeemed other later sql category
      (redeemed_of_setPhase notRedeemed redeemed)
  · intro first second early sql category later text grade
      firstRedeemed secondRedeemed sameId
    exact inv.once first second early sql category later text grade
      (redeemed_of_setPhase notRedeemed firstRedeemed)
      (redeemed_of_setPhase notRedeemed secondRedeemed) sameId

theorem redeemableAt_iff {row : ExecutionToken} {now : Int} :
    row.redeemableAt now = true ↔
      row.consumedAt = none ∧ now < row.expiresAt := by
  simp [ExecutionToken.redeemableAt]

omit [DecidableEq Call] in
/-- While a call's `UPDATE` is uncommitted, nobody has redeemed its token. -/
theorem Inv.not_redeemed_of_consumed (inv : Inv hashToken request state)
    {call other : Call} {now later : Int} {row : ExecutionToken}
    {sql category : String}
    (consumed : state.phase call = .consumed now row)
    (redeemed : state.phase other = .redeemed later sql category) :
    idOf hashToken request other ≠ idOf hashToken request call := by
  intro sameId
  obtain ⟨present, _, guarded, _⟩ := inv.consumed call now row consumed
  obtain ⟨found, foundPresent, _, used, _⟩ :=
    inv.redeemed other later sql category redeemed
  rw [sameId, present] at foundPresent
  cases foundPresent
  rw [(redeemableAt_iff.mp guarded).1] at used
  cases used

omit [DecidableEq Call] in
/-- Two calls cannot both hold the uncommitted write of one row. -/
theorem Inv.consumed_unique (inv : Inv hashToken request state)
    {call other : Call} {now later : Int} {row found : ExecutionToken}
    (consumed : state.phase call = .consumed now row)
    (otherConsumed : state.phase other = .consumed later found)
    (sameId : idOf hashToken request other = idOf hashToken request call) :
    other = call := by
  obtain ⟨_, _, _, locked⟩ := inv.consumed call now row consumed
  obtain ⟨_, _, _, otherLocked⟩ := inv.consumed other later found otherConsumed
  rw [sameId, locked] at otherLocked
  cases otherLocked
  rfl

/-- A call that gives its lock back leaves the writes of the others uncommitted, and
these are of other rows. -/
theorem Inv.consumed_others (inv : Inv hashToken request state)
    {call other : Call} {now later : Int} {row found : ExecutionToken} {phase : Phase}
    (consumed : state.phase call = .consumed now row)
    (isOver : ∀ later found, phase ≠ .consumed later found)
    (otherConsumed : (state.setPhase call phase).phase other = .consumed later found) :
    idOf hashToken request other ≠ idOf hashToken request call ∧
      state.phase other = .consumed later found := by
  by_cases same : other = call
  · subst other
    exact absurd (by simpa using otherConsumed) (isOver later found)
  · rw [State.setPhase_of_ne phase same] at otherConsumed
    exact ⟨fun sameId => same (inv.consumed_unique consumed otherConsumed sameId),
      otherConsumed⟩

/-- The locks that are left are those of the other calls. -/
theorem Inv.locked_others (inv : Inv hashToken request state) {call holder : Call}
    {id : String} {phase : Phase}
    (locked : Function.update state.lockedBy (idOf hashToken request call) none id =
      some holder) :
    id = idOf hashToken request holder ∧
      ∃ later found, (state.setPhase call phase).phase holder = .consumed later found := by
  by_cases sameId : id = idOf hashToken request call
  · subst id
    simp at locked
  · simp only [Function.update_of_ne sameId] at locked
    obtain ⟨idEq, later, found, otherConsumed⟩ := inv.locked id holder locked
    have different : holder ≠ call := by
      rintro rfl
      exact sameId idEq
    exact ⟨idEq, later, found, by
      rwa [State.setPhase_of_ne phase different]⟩

theorem inv_commit (inv : Inv hashToken request state) {call : Call}
    {now : Int} {row : ExecutionToken}
    (consumed : state.phase call = .consumed now row) :
    Inv hashToken request
      { state.setPhase call (.redeemed now row.sql row.safetyCategory) with
        rows := Function.update state.rows (idOf hashToken request call)
          (some { row with consumedAt := some now })
        lockedBy := Function.update state.lockedBy
          (idOf hashToken request call) none } := by
  obtain ⟨present, matched, guarded, _⟩ := inv.consumed call now row consumed
  obtain ⟨_, inTime⟩ := redeemableAt_iff.mp guarded
  have isOver : ∀ later found,
      Phase.redeemed now row.sql row.safetyCategory ≠ .consumed later found := by
    intro later found same
    cases same
  refine ⟨?_, ?_, ?_, ?_, ?_⟩
  · intro other checked
    by_cases same : other = call
    · subst other
      simp at checked
    · simp only [State.setPhase_of_ne _ same] at checked
      obtain ⟨found, foundPresent, foundMatched⟩ := inv.checked other checked
      by_cases sameId : idOf hashToken request other =
          idOf hashToken request call
      · rw [sameId, present] at foundPresent
        cases foundPresent
        exact ⟨{ row with consumedAt := some now },
          by simp [sameId], foundMatched⟩
      · exact ⟨found, by
          simpa [Function.update_of_ne sameId] using foundPresent,
          foundMatched⟩
  · intro other later found otherConsumed
    obtain ⟨different, still⟩ := inv.consumed_others consumed isOver otherConsumed
    simpa [Function.update_of_ne different] using inv.consumed other later found still
  · intro id holder locked
    exact inv.locked_others locked
  · intro other later sql category redeemed
    by_cases same : other = call
    · subst other
      simp only [State.setPhase_self, Phase.redeemed.injEq] at redeemed
      obtain ⟨rfl, rfl, rfl⟩ := redeemed
      exact ⟨{ row with consumedAt := some now }, by simp, matched, rfl,
        inTime, rfl, rfl⟩
    · simp only [State.setPhase_of_ne _ same] at redeemed
      have different := inv.not_redeemed_of_consumed consumed redeemed
      simpa [Function.update_of_ne different] using
        inv.redeemed other later sql category redeemed
  · intro first second early sql category later text grade
      firstRedeemed secondRedeemed sameId
    by_cases firstSame : first = call
    · subst first
      by_cases secondSame : second = call
      · exact secondSame.symm
      · simp only [State.setPhase_of_ne _ secondSame] at secondRedeemed
        exact absurd sameId.symm
          (inv.not_redeemed_of_consumed consumed secondRedeemed)
    · simp only [State.setPhase_of_ne _ firstSame] at firstRedeemed
      by_cases secondSame : second = call
      · subst second
        exact absurd sameId
          (inv.not_redeemed_of_consumed consumed firstRedeemed)
      · simp only [State.setPhase_of_ne _ secondSame] at secondRedeemed
        exact inv.once first second early sql category later text grade
          firstRedeemed secondRedeemed sameId

/-- A rollback of the uncommitted write gives the lock back and nothing else. -/
theorem inv_rollback (inv : Inv hashToken request state) {call : Call}
    {now : Int} {row : ExecutionToken}
    (consumed : state.phase call = .consumed now row) :
    Inv hashToken request
      { state.setPhase call .aborted with
        lockedBy := Function.update state.lockedBy
          (idOf hashToken request call) none } := by
  have isOver : ∀ later found, Phase.aborted ≠ .consumed later found := by
    intro later found same
    cases same
  have notRedeemed : ∀ later sql category,
      Phase.aborted ≠ .redeemed later sql category := by
    intro later sql category same
    cases same
  refine ⟨?_, ?_, ?_, ?_, ?_⟩
  · intro other checked
    by_cases same : other = call
    · subst other
      simp at checked
    · simp only [State.setPhase_of_ne _ same] at checked
      exact inv.checked other checked
  · intro other later found otherConsumed
    obtain ⟨different, still⟩ := inv.consumed_others consumed isOver otherConsumed
    simpa [Function.update_of_ne different] using inv.consumed other later found still
  · intro id holder locked
    exact inv.locked_others locked
  · intro other later sql category redeemed
    exact inv.redeemed other later sql category
      (redeemed_of_setPhase notRedeemed redeemed)
  · intro first second early sql category later text grade
      firstRedeemed secondRedeemed sameId
    exact inv.once first second early sql category later text grade
      (redeemed_of_setPhase notRedeemed firstRedeemed)
      (redeemed_of_setPhase notRedeemed secondRedeemed) sameId

theorem inv_step {label : Label Call} (inv : Inv hashToken request state)
    (stepped : step hashToken request state label = some next) :
    Inv hashToken request next := by
  cases label with
  | tick elapsed =>
      cases stepped
      exact ⟨inv.checked, inv.consumed, inv.locked, inv.redeemed, inv.once⟩
  | issue raw issueRequest =>
      obtain ⟨fresh, rfl⟩ := step_issue stepped
      exact inv_issue inv fresh _
  | load call =>
      obtain ⟨ready, ⟨row, passed, rfl⟩ | ⟨error, rfl⟩⟩ := step_load stepped
      · obtain ⟨present, matched⟩ := checkRow_eq_ok passed
        exact inv_setPhase inv (by simp [ready]) (by simp) (by simp)
          (fun _ => ⟨row, present, matched⟩)
      · exact inv_setPhase inv (by simp [ready]) (by simp) (by simp) (by simp)
  | readClock call =>
      obtain ⟨loaded, rfl⟩ := step_readClock stepped
      exact inv_setPhase inv (by simp [loaded]) (by simp) (by simp)
        (fun _ => inv.checked call (Or.inl loaded))
  | update call =>
      obtain ⟨now, stamped, free, ⟨row, present, guarded, rfl⟩ | rfl⟩ :=
        step_update stepped
      · exact inv_update inv stamped free present guarded
      · exact inv_setPhase inv (by simp [stamped]) (by simp) (by simp)
          (by simp)
  | commit call =>
      obtain ⟨now, row, consumed, rfl⟩ := step_commit stepped
      exact inv_commit inv consumed
  | rollback call =>
      rcases step_rollback stepped with
        ⟨⟨now, row, consumed⟩, rfl⟩ | ⟨unlocked, rfl⟩
      · exact inv_rollback inv consumed
      · exact inv_setPhase inv unlocked (by simp) (by simp) (by simp)

theorem inv_reachable
    (reachable : (system hashToken request).Reachable state) :
    Inv hashToken request state :=
  reachable.invariant (Inv hashToken request)
    (fun _ isInitial => inv_initial isInitial)
    (fun _ _ _ inv stepped => inv_step inv stepped)

/-! ## What was issued stays -/

omit [DecidableEq Call] in
/-- The row under `id` is the one `issued`, used or not. -/
def StillIssued (id : String) (issued : ExecutionToken)
    (later : State Call) : Prop :=
  ∃ consumedAt, later.rows id = some { issued with consumedAt := consumedAt }

theorem step_stillIssued {label : Label Call} {id : String}
    {issued : ExecutionToken} (inv : Inv hashToken request state)
    (held : StillIssued id issued state)
    (stepped : step hashToken request state label = some next) :
    StillIssued id issued next := by
  obtain ⟨consumedAt, present⟩ := held
  cases label with
  | tick elapsed =>
      cases stepped
      exact ⟨consumedAt, present⟩
  | issue raw issueRequest =>
      obtain ⟨fresh, rfl⟩ := step_issue stepped
      have different : id ≠ hashToken raw := by
        rintro rfl
        rw [fresh] at present
        cases present
      exact ⟨consumedAt, by simpa [Function.update_of_ne different] using present⟩
  | load call =>
      obtain ⟨_, ⟨_, _, rfl⟩ | ⟨_, rfl⟩⟩ := step_load stepped
      · exact ⟨consumedAt, present⟩
      · exact ⟨consumedAt, present⟩
  | readClock call =>
      obtain ⟨_, rfl⟩ := step_readClock stepped
      exact ⟨consumedAt, present⟩
  | update call =>
      obtain ⟨_, _, _, ⟨_, _, _, rfl⟩ | rfl⟩ := step_update stepped
      · exact ⟨consumedAt, present⟩
      · exact ⟨consumedAt, present⟩
  | commit call =>
      obtain ⟨now, row, consumed, rfl⟩ := step_commit stepped
      by_cases sameId : id = idOf hashToken request call
      · subst id
        have stored := (inv.consumed call now row consumed).1
        rw [present] at stored
        cases stored
        exact ⟨some now, by simp⟩
      · exact ⟨consumedAt, by simpa [Function.update_of_ne sameId] using present⟩
  | rollback call =>
      rcases step_rollback stepped with ⟨_, rfl⟩ | ⟨_, rfl⟩
      · exact ⟨consumedAt, present⟩
      · exact ⟨consumedAt, present⟩

theorem run_stillIssued {target : State Call} {id : String}
    {issued : ExecutionToken} (inv : Inv hashToken request state)
    (held : StillIssued id issued state)
    (run : (system hashToken request).Reaches (fun _ _ => True) state target) :
    Inv hashToken request target ∧ StillIssued id issued target := by
  refine run.preserves
    (fun later => Inv hashToken request later ∧ StillIssued id issued later)
    ?_ ⟨inv, held⟩
  intro before label after kept _ stepped
  exact ⟨inv_step kept.1 stepped, step_stillIssued kept.1 kept.2 stepped⟩

/-- A step that ends a call in a refusal touches neither the table nor a lock. -/
theorem step_refused_unchanged {label : Label Call} {call : Call}
    {error : TokenError}
    (stepped : step hashToken request state label = some next)
    (running : state.phase call ≠ .refused error)
    (refused : next.phase call = .refused error) :
    next.rows = state.rows ∧ next.lockedBy = state.lockedBy := by
  have acting : ∀ {actor : Call} {phase : Phase},
      (state.setPhase actor phase).phase call = .refused error →
        phase = .refused error := by
    intro actor phase moved
    by_cases same : call = actor
    · subst call
      simpa using moved
    · rw [State.setPhase_of_ne phase same] at moved
      exact absurd moved running
  cases label with
  | tick elapsed =>
      cases stepped
      exact absurd refused running
  | issue raw issueRequest =>
      obtain ⟨_, rfl⟩ := step_issue stepped
      exact absurd refused running
  | load actor =>
      obtain ⟨_, ⟨_, _, rfl⟩ | ⟨_, rfl⟩⟩ := step_load stepped
      · exact ⟨rfl, rfl⟩
      · exact ⟨rfl, rfl⟩
  | readClock actor =>
      obtain ⟨_, rfl⟩ := step_readClock stepped
      exact ⟨rfl, rfl⟩
  | update actor =>
      obtain ⟨_, _, _, ⟨_, _, _, rfl⟩ | rfl⟩ := step_update stepped
      · cases acting refused
      · exact ⟨rfl, rfl⟩
  | commit actor =>
      obtain ⟨_, _, _, rfl⟩ := step_commit stepped
      cases acting refused
  | rollback actor =>
      rcases step_rollback stepped with ⟨_, rfl⟩ | ⟨_, rfl⟩
      · cases acting refused
      · exact ⟨rfl, rfl⟩

end Invariant

/-! ## The reading of the clock -/

/-- How a call moves on while the clock stands at `now`. -/
inductive Moves (now : Int) : Phase → Phase → Prop
  | load : Moves now .ready .loaded
  | refuse (phase : Phase) (error : TokenError) : Moves now phase (.refused error)
  | abort (phase : Phase) : Moves now phase .aborted
  | read : Moves now .loaded (.stamped now)
  | consume (stamp : Int) (row : ExecutionToken) :
      Moves now (.stamped stamp) (.consumed stamp row)
  | redeem (stamp : Int) (row : ExecutionToken) :
      Moves now (.consumed stamp row) (.redeemed stamp row.sql row.safetyCategory)

theorem Moves.late {now : Int} {before after : Phase} (moves : Moves now before after)
    (isLate : before.early = false) : after.early = false := by
  cases moves with
  | load => cases isLate
  | refuse _ error => rfl
  | abort _ => rfl
  | read => rfl
  | consume stamp row => rfl
  | redeem stamp row => rfl

/-- Only a call that has not read the clock reads it, as it stands. -/
theorem Moves.clock {now reading : Int} {before after : Phase} (moves : Moves now before after)
    (hasRead : after.clock = some reading) :
    before.clock = some reading ∨ before.early = true ∧ reading = now := by
  cases moves with
  | load => cases hasRead
  | refuse _ error => cases hasRead
  | abort _ => cases hasRead
  | read =>
      cases hasRead
      exact Or.inr ⟨rfl, rfl⟩
  | consume stamp row => exact Or.inl hasRead
  | redeem stamp row => exact Or.inl hasRead

section Clock

variable {Call : Type u} [DecidableEq Call]
variable {hashToken : String → String} {request : Call → RedeemRequest}
variable {state next : State Call} {label : Label Call}

/-- A step moves one call, or none. -/
theorem step_moves (stepped : step hashToken request state label = some next) :
    state.now ≤ next.now ∧
      (next.phase = state.phase ∨ ∃ actor phase,
        next.phase = Function.update state.phase actor phase ∧
          Moves state.now (state.phase actor) phase) := by
  cases label with
  | tick elapsed =>
      cases stepped
      exact ⟨by dsimp only; omega, Or.inl rfl⟩
  | issue raw issueRequest =>
      obtain ⟨_, rfl⟩ := step_issue stepped
      exact ⟨Int.le_refl _, Or.inl rfl⟩
  | load actor =>
      obtain ⟨isReady, ⟨_, _, rfl⟩ | ⟨error, rfl⟩⟩ := step_load stepped
      · exact ⟨Int.le_refl _, Or.inr ⟨actor, .loaded, rfl, isReady ▸ Moves.load⟩⟩
      · exact ⟨Int.le_refl _, Or.inr ⟨actor, .refused error, rfl, Moves.refuse _ error⟩⟩
  | readClock actor =>
      obtain ⟨isLoaded, rfl⟩ := step_readClock stepped
      exact ⟨Int.le_refl _, Or.inr ⟨actor, .stamped state.now, rfl, isLoaded ▸ Moves.read⟩⟩
  | update actor =>
      obtain ⟨stamp, isStamped, _, ⟨row, _, _, rfl⟩ | rfl⟩ := step_update stepped
      · exact ⟨Int.le_refl _, Or.inr ⟨actor, .consumed stamp row, rfl,
          isStamped ▸ Moves.consume stamp row⟩⟩
      · exact ⟨Int.le_refl _, Or.inr ⟨actor, _, rfl, Moves.refuse _ _⟩⟩
  | commit actor =>
      obtain ⟨stamp, row, isConsumed, rfl⟩ := step_commit stepped
      exact ⟨Int.le_refl _, Or.inr ⟨actor, _, rfl, isConsumed ▸ Moves.redeem stamp row⟩⟩
  | rollback actor =>
      rcases step_rollback stepped with ⟨_, rfl⟩ | ⟨_, rfl⟩
      · exact ⟨Int.le_refl _, Or.inr ⟨actor, .aborted, rfl, Moves.abort _⟩⟩
      · exact ⟨Int.le_refl _, Or.inr ⟨actor, .aborted, rfl, Moves.abort _⟩⟩

/-- What a step does to one call. -/
theorem step_moves_call (stepped : step hashToken request state label = some next)
    (call : Call) :
    next.phase call = state.phase call ∨
      Moves state.now (state.phase call) (next.phase call) := by
  obtain ⟨_, same | ⟨actor, phase, moved, moves⟩⟩ := step_moves stepped
  · exact Or.inl (congrFun same call)
  · rw [moved]
    by_cases isActor : call = actor
    · subst isActor
      rw [Function.update_self]
      exact Or.inr moves
    · rw [Function.update_of_ne isActor]
      exact Or.inl rfl

/-- A reading of the clock that comes after an instant is not before it, and not ahead of the
clock. -/
structure ReadSince (since : Int) (call : Call) (state : State Call) : Prop where
  later : since ≤ state.now
  within : ∀ reading, (state.phase call).clock = some reading →
    since ≤ reading ∧ reading ≤ state.now

theorem ReadSince.step {since : Int} {call : Call} (readSince : ReadSince since call state)
    (stepped : step hashToken request state label = some next) :
    ReadSince since call next := by
  obtain ⟨isLater, _⟩ := step_moves stepped
  refine ⟨Int.le_trans readSince.later isLater, ?_⟩
  intro reading hasRead
  have old : (state.phase call).clock = some reading ∨ reading = state.now := by
    rcases step_moves_call stepped call with same | moves
    · rw [same] at hasRead
      exact Or.inl hasRead
    · exact (moves.clock hasRead).imp_right And.right
  rcases old with before | isNow
  · obtain ⟨lower, upper⟩ := readSince.within reading before
    exact ⟨lower, Int.le_trans upper isLater⟩
  · rw [isNow]
    exact ⟨readSince.later, isLater⟩

/-- A call reads the clock once. -/
structure ReadAt (instant : Int) (call : Call) (state : State Call) : Prop where
  late : (state.phase call).early = false
  only : ∀ reading, (state.phase call).clock = some reading → reading = instant

theorem ReadAt.step {instant : Int} {call : Call} (readAt : ReadAt instant call state)
    (stepped : step hashToken request state label = some next) :
    ReadAt instant call next := by
  rcases step_moves_call stepped call with same | moves
  · constructor
    · rw [same]
      exact readAt.late
    · rw [same]
      exact readAt.only
  · refine ⟨moves.late readAt.late, ?_⟩
    intro reading hasRead
    rcases moves.clock hasRead with before | ⟨isEarly, _⟩
    · exact readAt.only reading before
    · rw [readAt.late] at isEarly
      cases isEarly

/-- A call that has not read the clock reads it no earlier than it stands. -/
theorem redeemed_since {later : State Call} {call : Call} {now : Int} {sql category : String}
    (isEarly : (state.phase call).early = true)
    (run : (system hashToken request).Reaches (fun _ _ => True) state later)
    (redeemed : later.phase call = .redeemed now sql category) :
    state.now ≤ now ∧ now ≤ later.now := by
  have start : ReadSince state.now call state := by
    refine ⟨Int.le_refl _, fun reading hasRead => ?_⟩
    cases isPhase : state.phase call with
    | ready => simp [isPhase, Phase.clock] at hasRead
    | loaded => simp [isPhase, Phase.clock] at hasRead
    | stamped stamp => simp [isPhase, Phase.early] at isEarly
    | consumed stamp row => simp [isPhase, Phase.early] at isEarly
    | redeemed stamp text grade => simp [isPhase, Phase.early] at isEarly
    | refused error => simp [isPhase, Phase.early] at isEarly
    | aborted => simp [isPhase, Phase.early] at isEarly
  have readSince : ReadSince state.now call later :=
    run.preserves (ReadSince state.now call)
      (fun _ _ _ readSince _ stepped => readSince.step stepped) start
  exact readSince.within now (by rw [redeemed]; rfl)

/-- The instant of a redemption is what the clock showed at the reading. -/
theorem redeemed_at_reading {stamped later : State Call} {call : Call} {now : Int}
    {sql category : String}
    (stepped : step hashToken request state (.readClock call) = some stamped)
    (run : (system hashToken request).Reaches (fun _ _ => True) stamped later)
    (redeemed : later.phase call = .redeemed now sql category) : now = state.now := by
  obtain ⟨_, rfl⟩ := step_readClock stepped
  have start : ReadAt state.now call (state.setPhase call (.stamped state.now)) := by
    constructor
    · rw [State.setPhase_self]
      rfl
    · intro reading hasRead
      rw [State.setPhase_self] at hasRead
      exact (Option.some.inj hasRead).symm
  have readAt : ReadAt state.now call later :=
    run.preserves (ReadAt state.now call)
      (fun _ _ _ readAt _ stepped => readAt.step stepped) start
  exact readAt.only now (by rw [redeemed]; rfl)

end Clock

/-! ## Single use -/

section SingleUse

variable {Call : Type u} [DecidableEq Call]
variable {hashToken : String → String} {request : Call → RedeemRequest}

/-- A redeemed token was presented by its issuer for the target it was issued for,
in time, and yields the statement that was stored. -/
theorem redeemed_of_issued {state issued later : State Call} {raw : String}
    {issueRequest : IssueRequest} {call : Call} {now : Int} {sql category : String}
    (inv : Inv hashToken request state)
    (stepped : step hashToken request state (.issue raw issueRequest) =
      some issued)
    (run : (system hashToken request).Reaches (fun _ _ => True) issued later)
    (redeemed : later.phase call = .redeemed now sql category)
    (presented : (request call).token = raw) :
    (request call).userId = issueRequest.userId ∧
      (request call).contextHash = issueRequest.contextHash ∧
      now < state.now + tokenTtl ∧
      sql = issueRequest.sql ∧ category = issueRequest.safetyCategory := by
  subst presented
  have issuedInv : Inv hashToken request issued := inv_step inv stepped
  obtain ⟨_, rfl⟩ := step_issue stepped
  have held : StillIssued (hashToken (request call).token)
      (issuedRow issueRequest state.now)
      { state with
        rows := Function.update state.rows (hashToken (request call).token)
          (some (issuedRow issueRequest state.now)) } :=
    ⟨none, by simp [issuedRow]⟩
  obtain ⟨laterInv, consumedAt, present⟩ :=
    run_stillIssued issuedInv held run
  obtain ⟨row, stored, ⟨userEq, contextEq⟩, _, inTime, sqlEq, gradeEq⟩ :=
    laterInv.redeemed call now sql category redeemed
  rw [idOf, present] at stored
  cases stored
  exact ⟨userEq.symm, contextEq.symm, inTime, sqlEq.symm, gradeEq.symm⟩

/-- In every interleaving: a token is redeemed and committed by one call at most;
a redemption is the issuer's, for the issued target, and its reading of the clock, which it
records, comes before the expiry; that is what the clock shows when the call reads it, after
its check of the row; a refused call leaves the token as it was; and the redeemed
statement is the one stored at issue. -/
theorem redeem_singleUse (hashToken : String → String)
    (request : Call → RedeemRequest) (state : State Call)
    (reachable : (system hashToken request).Reachable state) :
    (∀ call other now sql category later text grade,
      state.phase call = .redeemed now sql category →
      state.phase other = .redeemed later text grade →
      (request call).token = (request other).token →
      call = other) ∧
    (∀ call now sql category,
      state.phase call = .redeemed now sql category →
      ∃ row, state.rows (hashToken (request call).token) = some row ∧
        row.userId = (request call).userId ∧
        row.contextHash = (request call).contextHash ∧
        row.consumedAt = some now ∧ now < row.expiresAt ∧
        sql = row.sql ∧ category = row.safetyCategory) ∧
    (∀ later call now sql category,
      (system hashToken request).Reaches (fun _ _ => True) state later →
      later.phase call = .redeemed now sql category →
      ((state.phase call).early = true → state.now ≤ now ∧ now ≤ later.now) ∧
      ∀ before, step hashToken request before (.readClock call) = some state →
        now = before.now) ∧
    (∀ label next call error,
      step hashToken request state label = some next →
      state.phase call ≠ .refused error →
      next.phase call = .refused error →
      next.rows = state.rows ∧ next.lockedBy = state.lockedBy) ∧
    ∀ raw issueRequest issued later call now sql category,
      step hashToken request state (.issue raw issueRequest) = some issued →
      (system hashToken request).Reaches (fun _ _ => True) issued later →
      later.phase call = .redeemed now sql category →
      (request call).token = raw →
      (request call).userId = issueRequest.userId ∧
        (request call).contextHash = issueRequest.contextHash ∧
        now < state.now + tokenTtl ∧
        sql = issueRequest.sql ∧ category = issueRequest.safetyCategory := by
  have inv := inv_reachable reachable
  refine ⟨?_, ?_, ?_, ?_, ?_⟩
  · intro call other now sql category later text grade
      redeemed otherRedeemed sameToken
    exact inv.once call other now sql category later text grade
      redeemed otherRedeemed (congrArg hashToken sameToken)
  · intro call now sql category redeemed
    obtain ⟨row, present, ⟨userEq, contextEq⟩, used, inTime, sqlEq, gradeEq⟩ :=
      inv.redeemed call now sql category redeemed
    exact ⟨row, present, userEq, contextEq, used, inTime, sqlEq.symm,
      gradeEq.symm⟩
  · intro later call now sql category run redeemed
    refine ⟨fun isEarly => redeemed_since isEarly run redeemed, ?_⟩
    intro before stepped
    exact redeemed_at_reading stepped run redeemed
  · intro label next call error stepped running refused
    exact step_refused_unchanged stepped running refused
  · intro raw issueRequest issued later call now sql category
      stepped run redeemed presented
    exact redeemed_of_issued inv stepped run redeemed presented

end SingleUse

/-! ### Two calls racing for one token -/

def raceHash (token : String) : String :=
  "sha256:" ++ token

def raceRequest (_ : Bool) : RedeemRequest :=
  ⟨"raw", "u1", "mysql|erp"⟩

def raceIssue : IssueRequest :=
  ⟨"u1", "DELETE FROM t WHERE id = 1", "write", "mysql|erp"⟩

def raceStart : State Bool :=
  { now := 0, rows := fun _ => none, lockedBy := fun _ => none
    phase := fun _ => .ready }

def raceRun (labels : List (Label Bool)) : State Bool :=
  ((system raceHash raceRequest).exec raceStart labels).getD raceStart

theorem raceStart_initial : (system raceHash raceRequest).initial raceStart :=
  ⟨fun _ => rfl, fun _ => rfl, fun _ => rfl⟩

/-- Both calls load the row and read the clock before one of them updates it. -/
def racing : List (Label Bool) :=
  [.issue "raw" raceIssue, .load true, .load false, .readClock false, .tick 1000,
    .readClock true, .update false, .commit false, .update true]

theorem redeem_singleUse_race :
    (raceRun racing).phase false = .redeemed 0 raceIssue.sql raceIssue.safetyCategory ∧
      (raceRun racing).phase true = .refused .tokenExpiredOrUsed ∧
      ∀ other later text grade, (raceRun racing).phase other = .redeemed later text grade →
        false = other := by
  have reachable : (system raceHash raceRequest).Reachable (raceRun racing) :=
    TransitionSystem.reachable_of_exec racing raceStart_initial rfl
  refine ⟨rfl, rfl, ?_⟩
  intro other later text grade redeemed
  exact (redeem_singleUse raceHash raceRequest (raceRun racing) reachable).1
    false other 0 _ _ later text grade rfl redeemed rfl

/-- A call reads the clock in time, and its update runs when the token has expired. -/
def delayed : List (Label Bool) :=
  [.issue "raw" raceIssue, .load true, .readClock true, .tick 300000000]

theorem redeem_outlives :
    ¬ ∀ state next : State Bool, (system raceHash raceRequest).Reachable state →
      ∀ call now row, step raceHash raceRequest state (.update call) = some next →
        next.phase call = .consumed now row → state.now < row.expiresAt := by
  intro inTime
  have reachable : (system raceHash raceRequest).Reachable (raceRun delayed) :=
    TransitionSystem.reachable_of_exec delayed raceStart_initial rfl
  have isBefore := inTime (raceRun delayed) (raceRun (delayed ++ [.update true])) reachable
    true 0 (issuedRow raceIssue 0) rfl rfl
  revert isBefore
  decide

end DbBuddy.Auth.ExecutionTokens
