import DbBuddy.Auth.RevocationCache

/-!
# Ending a user's sessions

Logout, deactivation and deletion change the account row, and a request that
trusts its token's claims compares them with what `_account_state` answers.
Each endpoint loads the row, changes it, commits, and may invalidate the cached
state, in an order of its own.  The cache, its readers and the account rows are
those of the revocation cache; an operation's commit is a change of the row.
-/

namespace DbBuddy.Auth.SessionRevocation

open DbBuddy.Library
open DbBuddy.Auth.RevocationCache

universe u v

/-- The claims of an access token that the revocation check reads. -/
structure Claims where
  sub : String
  tv : Int
  deriving DecidableEq, Repr

/-- The revocation check of `get_token_payload`, given what `_account_state`
answered: the claims, or the text of the 401. -/
def tokenPayload (claims : Claims) : Option AccountState → Except String Claims
  | none => .error "User not found or inactive"
  | some account =>
      if account.isActive = false then .error "User not found or inactive"
      else if claims.tv ≠ account.tokenVersion then
        .error "Access token has been revoked"
      else .ok claims

/-- The endpoints that change `token_version` or `is_active`.  `logout` stands
for every endpoint that bumps the version, commits and then invalidates. -/
inductive Kind where
  | logout
  | updateUser (isActive : Bool)
  | deleteUser
  deriving DecidableEq, Repr

structure Request where
  kind : Kind
  target : String
  deriving DecidableEq, Repr

/-- Where one endpoint call stands, with the row its session loaded. -/
inductive OpPhase where
  | ready
  | loaded (account : AccountState)
  | invalidated (account : AccountState)
  | committed (account : AccountState)
  | returned (account : AccountState)
  | aborted
  deriving DecidableEq, Repr

/-- The loaded account had sessions to end and the call was made to end them. -/
def Kind.endsSessions (kind : Kind) (account : AccountState) : Bool :=
  match kind with
  | .logout => true
  | .updateUser isActive => account.isActive && !isActive
  | .deleteUser => true

/-- The endpoint writes `token_version`. -/
def Kind.bumps (kind : Kind) (loaded : AccountState) : Bool :=
  match kind with
  | .logout => true
  | .updateUser isActive => loaded.isActive && !isActive
  | .deleteUser => false

/-- The row after the `UPDATE` of one endpoint.  The session writes the columns
whose value it changed and leaves the others as it finds them. -/
def Kind.write (kind : Kind) (loaded current : AccountState) :
    Option AccountState :=
  match kind with
  | .logout => some { current with tokenVersion := loaded.tokenVersion + 1 }
  | .updateUser isActive => some
      { tokenVersion :=
          if loaded.isActive && !isActive then loaded.tokenVersion + 1
          else current.tokenVersion
        isActive :=
          if isActive = loaded.isActive then current.isActive else isActive }
  | .deleteUser => none

/-- The row a call has loaded and not committed. -/
def OpPhase.inHand : OpPhase → Option AccountState
  | .loaded account => some account
  | .invalidated account => some account
  | _ => none

structure State (Reader : Type u) (Op : Type v) where
  base : RevocationCache.State Reader
  phase : Op → OpPhase

inductive Label (Reader : Type u) (Op : Type v) where
  | cache (label : RevocationCache.Label Reader)
  | register (target : String)
  | load (op : Op)
  | invalidate (op : Op)
  | commit (op : Op)
  | abort (op : Op)

section Steps

variable {Reader : Type u} {Op : Type v} [DecidableEq Reader] [DecidableEq Op]

def State.setPhase (state : State Reader Op) (op : Op) (next : OpPhase) :
    State Reader Op :=
  { state with phase := Function.update state.phase op next }

def State.setBase (state : State Reader Op)
    (base : RevocationCache.State Reader) : State Reader Op :=
  { state with base := base }

/-- The user a request's token names. -/
def subject (claims : Reader → Claims) (reader : Reader) : String :=
  (claims reader).sub

/-- A step of the revocation cache's system, lifted. -/
def cacheStep (config : Config) (claims : Reader → Claims)
    (state : State Reader Op) (label : RevocationCache.Label Reader) :
    Option (State Reader Op) :=
  (RevocationCache.step config (subject claims) state.base label).map
    state.setBase

/-- One atomic step.  Rows change only through an endpoint or a registration,
which gives the new account an id no earlier one had. -/
def step (config : Config) (claims : Reader → Claims) (request : Op → Request)
    (state : State Reader Op) : Label Reader Op → Option (State Reader Op)
  | .cache (.commit _ _) => none
  | .cache label => cacheStep config claims state label
  | .register target =>
      if state.base.rows target = none ∧ state.base.version target = 0 then
        cacheStep config claims state (.commit target (some ⟨0, true⟩))
      else none
  | .load op =>
      match state.phase op with
      | .ready =>
          match state.base.rows (request op).target with
          | some account =>
              if (request op).kind = .logout ∧ account.isActive = false then
                some (state.setPhase op .aborted)
              else some (state.setPhase op (.loaded account))
          | none => some (state.setPhase op .aborted)
      | _ => none
  | .invalidate op =>
      match (request op).kind, state.phase op with
      -- `update_user` invalidates as soon as it has changed the loaded object.
      | .updateUser _, .loaded account =>
          (cacheStep config claims state (.invalidate (request op).target
            (state.base.version (request op).target))).map
              fun next => next.setPhase op (.invalidated account)
      | .logout, .committed account =>
          (cacheStep config claims state (.invalidate (request op).target
            (state.base.version (request op).target))).map
              fun next => next.setPhase op (.returned account)
      | _, _ => none
  | .commit op =>
      let target := (request op).target
      match state.base.rows target with
      | none =>
          match state.phase op with
          | .loaded _ => some (state.setPhase op .aborted)
          | .invalidated _ => some (state.setPhase op .aborted)
          | _ => none
      | some current =>
          match (request op).kind, state.phase op with
          | .logout, .loaded account =>
              (cacheStep config claims state
                (.commit target (Kind.write .logout account current))).map
                  fun next => next.setPhase op (.committed account)
          | .updateUser isActive, .invalidated account =>
              (cacheStep config claims state (.commit target
                (Kind.write (.updateUser isActive) account current))).map
                  fun next => next.setPhase op (.returned account)
          | .deleteUser, .loaded account =>
              (cacheStep config claims state
                (.commit target (Kind.write .deleteUser account current))).map
                  fun next => next.setPhase op (.returned account)
          | _, _ => none
  | .abort op =>
      match state.phase op with
      | .loaded _ => some (state.setPhase op .aborted)
      | .invalidated _ => some (state.setPhase op .aborted)
      | _ => none

def Initial (state : State Reader Op) : Prop :=
  RevocationCache.Initial state.base ∧ ∀ op, state.phase op = .ready

def system (config : Config) (claims : Reader → Claims)
    (request : Op → Request) :
    TransitionSystem (State Reader Op) (Label Reader Op) where
  initial := Initial
  step := step config claims request

end Steps

/-! ## What a step can do -/

section Inversion

variable {Reader : Type u} {Op : Type v} [DecidableEq Reader] [DecidableEq Op]
variable {config : Config} {claims : Reader → Claims} {request : Op → Request}
variable {state next : State Reader Op}

omit [DecidableEq Reader] in
@[simp]
theorem State.setPhase_self (op : Op) (phase : OpPhase) :
    (state.setPhase op phase).phase op = phase := by
  simp [State.setPhase]

omit [DecidableEq Reader] in
theorem State.setPhase_of_ne {op other : Op} (phase : OpPhase)
    (different : other ≠ op) :
    (state.setPhase op phase).phase other = state.phase other := by
  simp [State.setPhase, different]

omit [DecidableEq Op] in
theorem cacheStep_eq_some {label : RevocationCache.Label Reader}
    (stepped : cacheStep config claims state label = some next) :
    ∃ base, RevocationCache.step config (subject claims) state.base label =
        some base ∧
      next = state.setBase base := by
  obtain ⟨base, taken, rfl⟩ := Option.map_eq_some_iff.mp stepped
  exact ⟨base, taken, rfl⟩

theorem cacheStep_map_eq_some {label : RevocationCache.Label Reader} {op : Op}
    {phase : OpPhase}
    (stepped : (cacheStep config claims state label).map
      (fun after => after.setPhase op phase) = some next) :
    ∃ base, RevocationCache.step config (subject claims) state.base label =
        some base ∧
      next = (state.setBase base).setPhase op phase := by
  obtain ⟨_, lifted, rfl⟩ := Option.map_eq_some_iff.mp stepped
  obtain ⟨base, taken, rfl⟩ := cacheStep_eq_some lifted
  exact ⟨base, taken, rfl⟩

theorem step_cache {label : RevocationCache.Label Reader}
    (stepped : step config claims request state (.cache label) = some next) :
    (∀ target row, label ≠ .commit target row) ∧
      ∃ base, RevocationCache.step config (subject claims) state.base label =
          some base ∧
        next = state.setBase base := by
  cases label with
  | commit target row =>
      cases stepped
  | _ =>
      exact ⟨by simp, cacheStep_eq_some stepped⟩

theorem step_register {target : String}
    (stepped : step config claims request state (.register target) =
      some next) :
    state.base.rows target = none ∧ state.base.version target = 0 ∧
      ∃ base, RevocationCache.step config (subject claims) state.base
          (.commit target (some ⟨0, true⟩)) = some base ∧
        next = state.setBase base := by
  simp only [step] at stepped
  split at stepped
  · rename_i isNew
    exact ⟨isNew.1, isNew.2, cacheStep_eq_some stepped⟩
  · cases stepped

theorem step_load {op : Op}
    (stepped : step config claims request state (.load op) = some next) :
    state.phase op = .ready ∧
      (next = state.setPhase op .aborted ∨
        ∃ account, state.base.rows (request op).target = some account ∧
          next = state.setPhase op (.loaded account)) := by
  simp only [step] at stepped
  split at stepped
  · refine ⟨‹_›, ?_⟩
    split at stepped
    · split at stepped
      · cases stepped
        exact Or.inl rfl
      · cases stepped
        exact Or.inr ⟨_, ‹_›, rfl⟩
    · cases stepped
      exact Or.inl rfl
  · cases stepped

theorem step_invalidate {op : Op}
    (stepped : step config claims request state (.invalidate op) = some next) :
    ∃ loaded phase base,
      RevocationCache.step config (subject claims) state.base
        (.invalidate (request op).target
          (state.base.version (request op).target)) = some base ∧
      next = (state.setBase base).setPhase op phase ∧
      ((state.phase op = .loaded loaded ∧ phase = .invalidated loaded) ∨
        (state.phase op = .committed loaded ∧ phase = .returned loaded)) := by
  simp only [step] at stepped
  split at stepped
  · obtain ⟨base, taken, rfl⟩ := cacheStep_map_eq_some stepped
    exact ⟨_, _, base, taken, rfl, Or.inl ⟨‹_›, rfl⟩⟩
  · obtain ⟨base, taken, rfl⟩ := cacheStep_map_eq_some stepped
    exact ⟨_, _, base, taken, rfl, Or.inr ⟨‹_›, rfl⟩⟩
  · cases stepped

/-- Where an endpoint stands once its transaction has committed. -/
def Kind.afterCommit (kind : Kind) (loaded : AccountState) : OpPhase :=
  match kind with
  | .logout => .committed loaded
  | .updateUser _ => .returned loaded
  | .deleteUser => .returned loaded

theorem step_commit {op : Op}
    (stepped : step config claims request state (.commit op) = some next) :
    next = state.setPhase op .aborted ∨
      ∃ loaded current base, (state.phase op).inHand = some loaded ∧
        state.base.rows (request op).target = some current ∧
        RevocationCache.step config (subject claims) state.base
          (.commit (request op).target
            ((request op).kind.write loaded current)) = some base ∧
        next = (state.setBase base).setPhase op
          ((request op).kind.afterCommit loaded) := by
  simp only [step] at stepped
  split at stepped
  · split at stepped
    · cases stepped
      exact Or.inl rfl
    · cases stepped
      exact Or.inl rfl
    · cases stepped
  · rename_i current present
    refine Or.inr ?_
    split at stepped
    case h_4 =>
      cases stepped
    all_goals
      rename_i isKind isPhase
      obtain ⟨base, taken, rfl⟩ := cacheStep_map_eq_some stepped
      exact ⟨_, current, base, by rw [isPhase]; rfl, present,
        by rw [isKind]; exact taken, by rw [isKind]; rfl⟩

theorem step_abort {op : Op}
    (stepped : step config claims request state (.abort op) = some next) :
    next = state.setPhase op .aborted := by
  simp only [step] at stepped
  split at stepped
  · cases stepped
    rfl
  · cases stepped
    rfl
  · cases stepped

end Inversion

/-! ## The order that revokes -/

section Guard

variable {Reader : Type u} {Op : Type v}

/-- No value of `target` is cached unexpired, and no reader holds one that it
may still publish. -/
def NothingKept (claims : Reader → Claims)
    (base : RevocationCache.State Reader) (target : String) : Prop :=
  (∀ entry, base.store.cache.lookup target = some entry →
    entry.expiresAt ≤ base.now) ∧
  ∀ reader, subject claims reader = target →
    (base.phase reader).captured = some (base.store.generation target) →
    (base.phase reader).learned = none

/-- The steps that keep revocation complete.  An eviction keeps the counters that
readers have captured; a call that bumps the version has loaded the present one;
and when an endpoint that does not invalidate afterwards commits, nothing of the
old row is kept. -/
def RevokesInOrder (config : Config) (claims : Reader → Claims)
    (request : Op → Request) (state : State Reader Op) :
    Label Reader Op → Prop
  | .cache label => KeepsCaptured config (subject claims) state.base label
  | .commit op =>
      ∀ loaded current, (state.phase op).inHand = some loaded →
        state.base.rows (request op).target = some current →
        ((request op).kind.bumps loaded = true →
          current.tokenVersion = loaded.tokenVersion) ∧
        ((request op).kind ≠ .logout →
          (request op).kind.endsSessions loaded = true →
          NothingKept claims state.base (request op).target)
  | _ => True

end Guard

/-! ## The version of an account only grows -/

/-- `floor` is a lower bound of the account's version; `none` bounds the version
of an account that is gone. -/
def Above : Option Int → AccountState → Prop
  | none, _ => False
  | some least, account => least ≤ account.tokenVersion

theorem Above.mono {floor : Option Int} {smaller larger : AccountState}
    (above : Above floor smaller)
    (grows : smaller.tokenVersion ≤ larger.tokenVersion) :
    Above floor larger := by
  cases floor with
  | none =>
      exact above
  | some least =>
      exact Int.le_trans above grows

section Versions

variable {Reader : Type u} {Op : Type v} [DecidableEq Reader] [DecidableEq Op]
variable {config : Config} {claims : Reader → Claims} {request : Op → Request}
variable {state next : State Reader Op}

omit [DecidableEq Reader] in
/-- Every account the change leaves was there with no larger version, or is
new. -/
def Grows (base : RevocationCache.State Reader) (target : String)
    (row : Option AccountState) : Prop :=
  ∀ account, row = some account →
    (∃ current, base.rows target = some current ∧
      current.tokenVersion ≤ account.tokenVersion) ∨
    (base.rows target = none ∧ base.version target = 0)

omit [DecidableEq Reader] in
/-- The row of `target` stays above `floor`; once gone it does not come back. -/
structure Held (target : String) (floor : Option Int)
    (base : RevocationCache.State Reader) : Prop where
  row : ∀ account, base.rows target = some account → Above floor account
  gone : base.rows target = none → 1 ≤ base.version target

theorem write_grows {kind : Kind} {loaded current written : AccountState}
    (isCurrent : kind.bumps loaded = true →
      current.tokenVersion = loaded.tokenVersion)
    (isWritten : kind.write loaded current = some written) :
    current.tokenVersion ≤ written.tokenVersion := by
  cases kind with
  | logout =>
      cases isWritten
      have same := isCurrent rfl
      simp only
      omega
  | updateUser isActive =>
      cases isWritten
      by_cases bumped : (loaded.isActive && !isActive) = true
      · have same := isCurrent bumped
        simp only [bumped, if_true]
        omega
      · simp [bumped]
  | deleteUser =>
      cases isWritten

/-- Every allowed step leaves the cache's system alone or is an allowed step of
it, and changes no row but to let it grow. -/
theorem step_base {label : Label Reader Op}
    (allowed : RevokesInOrder config claims request state label)
    (stepped : step config claims request state label = some next) :
    next.base = state.base ∨
      ∃ inner, KeepsCaptured config (subject claims) state.base inner ∧
        RevocationCache.step config (subject claims) state.base inner =
          some next.base ∧
        ∀ target row, inner = .commit target row →
          Grows state.base target row := by
  cases label with
  | cache inner =>
      obtain ⟨notCommit, base, taken, rfl⟩ := step_cache stepped
      exact Or.inr ⟨inner, allowed, taken, fun target row isCommit =>
        absurd isCommit (notCommit target row)⟩
  | register target =>
      obtain ⟨absent, unused, base, taken, rfl⟩ := step_register stepped
      refine Or.inr ⟨.commit target (some ⟨0, true⟩), trivial, taken, ?_⟩
      rintro other row isCommit account _
      cases isCommit
      exact Or.inr ⟨absent, unused⟩
  | load op =>
      obtain ⟨_, rfl | ⟨_, _, rfl⟩⟩ := step_load stepped
      · exact Or.inl rfl
      · exact Or.inl rfl
  | invalidate op =>
      obtain ⟨_, _, base, taken, rfl, _⟩ := step_invalidate stepped
      exact Or.inr ⟨.invalidate _ _, trivial, taken,
        fun _ _ isCommit => by cases isCommit⟩
  | commit op =>
      rcases step_commit stepped with
        rfl | ⟨loaded, current, base, inHand, present, taken, rfl⟩
      · exact Or.inl rfl
      · refine Or.inr ⟨.commit _ _, trivial, taken, ?_⟩
        rintro other row isCommit account written
        cases isCommit
        have isCurrent := (allowed loaded current inHand present).1
        exact Or.inl ⟨current, present, write_grows isCurrent written⟩
  | abort op =>
      obtain rfl := step_abort stepped
      exact Or.inl rfl

theorem bounded_lift {label : Label Reader Op}
    (bounded : Bounded (subject claims) state.base)
    (allowed : RevokesInOrder config claims request state label)
    (stepped : step config claims request state label = some next) :
    Bounded (subject claims) next.base := by
  rcases step_base allowed stepped with same | ⟨inner, kept, taken, _⟩
  · rwa [same]
  · exact bounded_step bounded kept taken

theorem held_step {target : String} {floor : Option Int}
    {label : Label Reader Op} (held : Held target floor state.base)
    (allowed : RevokesInOrder config claims request state label)
    (stepped : step config claims request state label = some next) :
    Held target floor next.base := by
  rcases step_base allowed stepped with same | ⟨inner, _, taken, grows⟩
  · rwa [same]
  · rcases step_row taken target with
      ⟨row, isCommit, rowEq, versionEq⟩ | ⟨rowEq, versionEq⟩
    · refine ⟨?_, fun _ => by omega⟩
      intro account present
      rw [rowEq] at present
      rcases grows target row isCommit account present with
        ⟨current, wasThere, larger⟩ | ⟨absent, unused⟩
      · exact (held.row current wasThere).mono larger
      · have := held.gone absent
        omega
    · refine ⟨?_, ?_⟩
      · intro account present
        exact held.row account (rowEq ▸ present)
      · intro absent
        exact versionEq ▸ held.gone (rowEq ▸ absent)

/-- Purged stays purged while the row stays above the floor. -/
theorem purged_lift {target : String} {floor : Option Int} {horizon : Int}
    {isLater : Reader → Prop} {label : Label Reader Op}
    (purged : Purged (subject claims) target (fun account _ =>
      Above floor account) horizon isLater state.base)
    (bounded : Bounded (subject claims) state.base)
    (held : Held target floor state.base)
    (allowed : RevokesInOrder config claims request state label)
    (stepped : step config claims request state label = some next) :
    Purged (subject claims) target (fun account _ => Above floor account)
      horizon isLater next.base := by
  rcases step_base allowed stepped with same | ⟨inner, kept, taken, grows⟩
  · rwa [same]
  · refine purged_step purged bounded kept ?_ taken
    intro row isCommit account present
    rcases grows target row isCommit account present with
      ⟨current, wasThere, larger⟩ | ⟨absent, unused⟩
    · exact (held.row current wasThere).mono larger
    · have := held.gone absent
      omega

end Versions

/-! ## One endpoint call, from its first step to its return -/

section Progress

variable {Reader : Type u} {Op : Type v} [DecidableEq Reader] [DecidableEq Op]
variable {config : Config} {claims : Reader → Claims} {request : Op → Request}
variable {state next : State Reader Op}

omit [DecidableEq Reader] [DecidableEq Op] in
/-- What one call has achieved so far against tokens of version `tv`. -/
def Progress (claims : Reader → Claims) (request : Request) (tv : Int)
    (base : RevocationCache.State Reader) : OpPhase → Prop
  | .ready => True
  | .loaded account => tv ≤ account.tokenVersion
  | .invalidated account => tv ≤ account.tokenVersion
  | .committed _ => Held request.target (some (tv + 1)) base
  | .returned account => request.kind.endsSessions account = true →
      ∃ floor, (floor = some (tv + 1) ∨ floor = none) ∧
        Held request.target floor base ∧
        ∃ horizon, Purged (subject claims) request.target
          (fun account _ => Above floor account) horizon (fun _ => False) base
  | .aborted => True

theorem Progress.lift {tv : Int} {asked : Request} {phase : OpPhase}
    {label : Label Reader Op}
    (progress : Progress claims asked tv state.base phase)
    (bounded : Bounded (subject claims) state.base)
    (allowed : RevokesInOrder config claims request state label)
    (stepped : step config claims request state label = some next) :
    Progress claims asked tv next.base phase := by
  cases phase with
  | ready =>
      exact progress
  | loaded account =>
      exact progress
  | invalidated account =>
      exact progress
  | committed account =>
      exact held_step progress allowed stepped
  | returned account =>
      intro ends
      obtain ⟨floor, which, held, horizon, purged⟩ := progress ends
      exact ⟨floor, which, held_step held allowed stepped, horizon,
        purged_lift purged bounded held allowed stepped⟩
  | aborted =>
      exact progress

omit [DecidableEq Op] in
/-- A commit that leaves nothing of the old row behind purges at once. -/
theorem purged_of_nothingKept {target : String} {row : Option AccountState}
    {floor : Option Int} {base after : RevocationCache.State Reader}
    (kept : NothingKept claims base target)
    (taken : RevocationCache.step config (subject claims) base
      (.commit target row) = some after)
    (above : ∀ account, row = some account → Above floor account) :
    Purged (subject claims) target (fun account _ => Above floor account)
      base.now (fun _ => False) after := by
  cases taken
  refine ⟨Int.le_refl _, ?_, ?_, ?_, fun _ _ isLate => isLate.elim,
    fun _ _ _ isLate => isLate.elim⟩
  · intro account present
    exact above account (by simpa using present)
  · intro entry present
    exact Or.inr (kept.1 entry present)
  · intro reader account readAt named captured held
    have ignorant := kept.2 reader named captured
    rw [ignorant] at held
    cases held

omit [DecidableEq Reader] [DecidableEq Op] in
/-- The calls that have not begun when everything is purged are the later ones. -/
theorem purged_restart {target : String} {floor : Option Int} {horizon : Int}
    {isLater : Reader → Prop} {base : RevocationCache.State Reader}
    (purged : Purged (subject claims) target
      (fun account _ => Above floor account) horizon isLater base)
    (later : Reader → Prop)
    (notBegun : ∀ reader, later reader → base.phase reader = .ready) :
    Purged (subject claims) target (fun account _ => Above floor account)
      horizon later base := by
  refine ⟨purged.elapsed, purged.row, purged.entries, purged.pending, ?_, ?_⟩
  · intro reader now isLate _ clock
    rw [notBegun reader isLate] at clock
    cases clock
  · intro reader account readAt isLate _ held
    rw [notBegun reader isLate] at held
    cases held

omit [DecidableEq Op] in
/-- The commit of an endpoint brings it as far as `Progress` says. -/
theorem progress_commit {op : Op} {tv : Int} {loaded current : AccountState}
    {base : RevocationCache.State Reader}
    (progress : tv ≤ loaded.tokenVersion)
    (allowed : RevokesInOrder config claims request state (.commit op))
    (inHand : (state.phase op).inHand = some loaded)
    (present : state.base.rows (request op).target = some current)
    (taken : RevocationCache.step config (subject claims) state.base
      (.commit (request op).target ((request op).kind.write loaded current)) =
        some base) :
    Progress claims (request op) tv base
      ((request op).kind.afterCommit loaded) := by
  obtain ⟨_, kept⟩ := allowed loaded current inHand present
  have stored : base.rows (request op).target =
        (request op).kind.write loaded current ∧
      1 ≤ base.version (request op).target := by
    cases taken
    simp
  cases isKind : (request op).kind with
  | logout =>
      refine ⟨?_, fun _ => stored.2⟩
      intro account found
      rw [stored.1, isKind] at found
      cases found
      simp only [Above]
      omega
  | updateUser isActive =>
      intro ends
      rw [isKind] at ends kept
      have above : ∀ account,
          (request op).kind.write loaded current = some account →
            Above (some (tv + 1)) account := by
        intro account written
        rw [isKind] at written
        cases written
        have bumped : (loaded.isActive && !isActive) = true := ends
        simp only [Above, bumped, if_true]
        omega
      exact ⟨_, Or.inl rfl, ⟨fun account found =>
          above account (stored.1 ▸ found), fun _ => stored.2⟩,
        _, purged_of_nothingKept (kept (by simp) ends) taken above⟩
  | deleteUser =>
      intro ends
      rw [isKind] at ends kept
      have above : ∀ account,
          (request op).kind.write loaded current = some account →
            Above none account := by
        intro account written
        rw [isKind] at written
        cases written
      exact ⟨_, Or.inr rfl, ⟨fun account found =>
          above account (stored.1 ▸ found), fun _ => stored.2⟩,
        _, purged_of_nothingKept (kept (by simp) ends) taken above⟩

theorem progress_step {op : Op} {tv : Int} {label : Label Reader Op}
    (named : (request op).target ≠ "")
    (bounded : Bounded (subject claims) state.base)
    (held : Held (request op).target (some tv) state.base)
    (progress : Progress claims (request op) tv state.base (state.phase op))
    (allowed : RevokesInOrder config claims request state label)
    (stepped : step config claims request state label = some next) :
    Progress claims (request op) tv next.base (next.phase op) := by
  have lifted : next.phase op = state.phase op →
      Progress claims (request op) tv next.base (next.phase op) := fun same =>
    same ▸ progress.lift bounded allowed stepped
  have aborted : ∀ {other : Op}, next = state.setPhase other .aborted →
      Progress claims (request op) tv next.base (next.phase op) := by
    rintro other rfl
    by_cases same : op = other
    · subst other
      rw [State.setPhase_self]
      exact trivial
    · exact lifted (State.setPhase_of_ne _ same)
  cases label with
  | cache inner =>
      obtain ⟨_, _, _, rfl⟩ := step_cache stepped
      exact lifted rfl
  | register target =>
      obtain ⟨_, _, _, _, rfl⟩ := step_register stepped
      exact lifted rfl
  | load other =>
      obtain ⟨_, isAborted | ⟨account, present, rfl⟩⟩ := step_load stepped
      · exact aborted isAborted
      · by_cases same : op = other
        · subst other
          rw [State.setPhase_self]
          exact held.row account present
        · exact lifted (State.setPhase_of_ne _ same)
  | invalidate other =>
      obtain ⟨loaded, phase, base, taken, rfl, moved⟩ := step_invalidate stepped
      by_cases same : op = other
      · subst other
        rw [State.setPhase_self]
        rcases moved with ⟨was, rfl⟩ | ⟨was, rfl⟩
        · rw [was] at progress
          exact progress
        · -- Logout: the row is above the floor, and now the cache forgets.
          rw [was] at progress
          intro _
          obtain ⟨_, rfl⟩ := step_drop (Or.inl taken)
          have purged : Purged (subject claims) (request op).target
              (fun account _ => Above (some (tv + 1)) account) state.base.now
              (fun reader => state.base.phase reader = .ready) _ :=
            purged_of_drop bounded named progress.row
          exact ⟨_, Or.inl rfl, ⟨progress.row, progress.gone⟩, _,
            purged_restart purged _ (fun _ isLate => isLate.elim)⟩
      · exact lifted (State.setPhase_of_ne _ same)
  | commit other =>
      rcases step_commit stepped with
        isAborted | ⟨loaded, current, base, inHand, present, taken, rfl⟩
      · exact aborted isAborted
      · by_cases same : op = other
        · subst other
          rw [State.setPhase_self]
          have below : tv ≤ loaded.tokenVersion := by
            cases was : state.phase op with
            | loaded account =>
                rw [was] at progress inHand
                cases inHand
                exact progress
            | invalidated account =>
                rw [was] at progress inHand
                cases inHand
                exact progress
            | _ =>
                rw [was] at inHand
                cases inHand
          exact progress_commit below allowed inHand present taken
        · exact lifted (State.setPhase_of_ne _ same)
  | abort other =>
      exact aborted (step_abort stepped)

end Progress

/-! ## Revocation is complete -/

section Complete

variable {Reader : Type u} {Op : Type v} [DecidableEq Reader] [DecidableEq Op]

/-- Along every run whose steps satisfy `guard`: a call of an endpoint that ends
the sessions of its target begins after an access token of the target was
minted, and returns; no request that begins after that is authorised by the
token. -/
def RevocationComplete (config : Config) (claims : Reader → Claims)
    (request : Op → Request)
    (guard : State Reader Op → Label Reader Op → Prop) : Prop :=
  ∀ (minted begun returned later : State Reader Op) (op : Op) (reader : Reader)
    (account loaded : AccountState) (answer : Option AccountState)
    (payload : Claims),
    (request op).target ≠ "" →
    (system config claims request).ReachableUnder guard minted →
    minted.base.rows (request op).target = some account →
    claims reader = ⟨(request op).target, account.tokenVersion⟩ →
    (system config claims request).Reaches guard minted begun →
    begun.phase op = .ready →
    (system config claims request).Reaches guard begun returned →
    returned.phase op = .returned loaded →
    (request op).kind.endsSessions loaded = true →
    returned.base.phase reader = .ready →
    (system config claims request).Reaches guard returned later →
    (later.base.phase reader).returned = some answer →
    tokenPayload (claims reader) answer ≠ .ok payload

variable {config : Config} {claims : Reader → Claims} {request : Op → Request}

omit [DecidableEq Reader] in
/-- A call answered with an account has learned it. -/
theorem learned_of_returned {phase : Phase Reader} {account : AccountState}
    (answered : phase.returned = some (some account)) :
    ∃ readAt, phase.learned = some (account, readAt) := by
  cases phase with
  | answered found source =>
      cases answered
      cases source with
      | cached readAt =>
          exact ⟨readAt, rfl⟩
      | database readAt =>
          exact ⟨readAt, rfl⟩
  | _ =>
      cases answered

/-- A token of another version is refused. -/
theorem tokenPayload_of_ne {asked payload : Claims} {account : AccountState}
    (different : asked.tv ≠ account.tokenVersion) :
    tokenPayload asked (some account) ≠ .ok payload := by
  intro granted
  rw [tokenPayload, if_pos different] at granted
  split at granted
  · cases granted
  · cases granted

theorem bounded_run {state : State Reader Op}
    (reachable : (system config claims request).ReachableUnder
      (RevokesInOrder config claims request) state) :
    Bounded (subject claims) state.base :=
  reachable.invariant (fun state => Bounded (subject claims) state.base)
    (fun state (isInitial : Initial state) => bounded_initial isInitial.1)
    (fun _ _ _ bounded allowed stepped => bounded_lift bounded allowed stepped)

/-- The revoking endpoints keep their promise along every run that keeps the
order. -/
theorem revocation_complete (config : Config) (claims : Reader → Claims)
    (request : Op → Request) :
    RevocationComplete config claims request
      (RevokesInOrder config claims request) := by
  intro minted begun returned later op reader account loaded answer payload
    named reachable present ofAccount toBegun notBegun toReturned hasReturned
    ends notStarted toLater answered
  have mintedHeld : Held (request op).target (some account.tokenVersion)
      minted.base := by
    refine ⟨?_, ?_⟩
    · intro found isRow
      rw [present] at isRow
      cases isRow
      exact Int.le_refl _
    · intro absent
      rw [present] at absent
      cases absent
  obtain ⟨begunBounded, begunHeld⟩ := toBegun.preserves
    (fun state => Bounded (subject claims) state.base ∧
      Held (request op).target (some account.tokenVersion) state.base)
    (fun _ _ _ holds allowed stepped =>
      ⟨bounded_lift holds.1 allowed stepped,
        held_step holds.2 allowed stepped⟩)
    ⟨bounded_run reachable, mintedHeld⟩
  have begunProgress : Progress claims (request op) account.tokenVersion
      begun.base (begun.phase op) := by
    rw [notBegun]
    exact trivial
  obtain ⟨returnedBounded, _, progress⟩ := toReturned.preserves
    (fun state => Bounded (subject claims) state.base ∧
      Held (request op).target (some account.tokenVersion) state.base ∧
      Progress claims (request op) account.tokenVersion state.base
        (state.phase op))
    (fun _ _ _ holds allowed stepped =>
      ⟨bounded_lift holds.1 allowed stepped,
        held_step holds.2.1 allowed stepped,
        progress_step named holds.1 holds.2.1 holds.2.2 allowed stepped⟩)
    ⟨begunBounded, begunHeld, begunProgress⟩
  rw [hasReturned] at progress
  obtain ⟨floor, which, held, horizon, purged⟩ := progress ends
  obtain ⟨_, _, laterPurged⟩ := toLater.preserves
    (fun state => Bounded (subject claims) state.base ∧
      Held (request op).target floor state.base ∧
      Purged (subject claims) (request op).target
        (fun found _ => Above floor found) horizon (fun call => call = reader)
        state.base)
    (fun _ _ _ holds allowed stepped =>
      ⟨bounded_lift holds.1 allowed stepped,
        held_step holds.2.1 allowed stepped,
        purged_lift holds.2.2 holds.1 holds.2.1 allowed stepped⟩)
    ⟨returnedBounded, held, purged_restart purged _ (by
      rintro _ rfl
      exact notStarted)⟩
  cases answer with
  | none =>
      simp [tokenPayload]
  | some found =>
      obtain ⟨readAt, learned⟩ := learned_of_returned answered
      have above := laterPurged.learned reader found readAt rfl
        (by rw [subject, ofAccount]) learned
      rcases which with rfl | rfl
      · have newer : account.tokenVersion ≠ found.tokenVersion := by
          simp only [Above] at above
          omega
        exact tokenPayload_of_ne (by rwa [ofAccount])
      · exact above.elim

end Complete

/-! ### Sessions that outlive a deactivation and a deletion

Request `false` fills the cache and request `true` comes after the return; both
carry a token of the account's first version. -/

def outliveClaims (_ : Bool) : Claims :=
  ⟨"u", 0⟩

def outliveConfig : Config where
  ttl := 10 * 1000000000
  maxEntries := 10000
  flightWait := 5 * 1000000000

def deactivation (_ : Unit) : Request :=
  ⟨.updateUser false, "u"⟩

def deletion (_ : Unit) : Request :=
  ⟨.deleteUser, "u"⟩

def outliveStart : State Bool Unit where
  base :=
    { now := 0
      rows := fun _ => some ⟨0, true⟩
      version := fun _ => 0
      store := Store.empty
      phase := fun _ => .ready }
  phase := fun _ => .ready

def outliveRun (request : Unit → Request) (state : State Bool Unit)
    (labels : List (Label Bool Unit)) : State Bool Unit :=
  ((system outliveConfig outliveClaims request).exec state labels).getD state

/-- Request `false` reads the account and publishes what it read. -/
def outliveFill : List (Label Bool Unit) :=
  [.cache (.start false), .cache (.lookup false), .cache (.fetch false),
    .cache (.settle false), .cache (.publish false)]

def outliveAsk : List (Label Bool Unit) :=
  [.cache (.start true), .cache (.lookup true)]

/-- The read falls between the invalidation and the commit of `update_user`. -/
def deactivationSteps : List (Label Bool Unit) :=
  [.load (), .invalidate ()] ++ outliveFill ++ [.commit ()]

/-- `delete_user` commits and invalidates nothing. -/
def deletionSteps : List (Label Bool Unit) :=
  outliveFill ++ [.load (), .commit ()]

theorem revocation_outlived :
    ¬ RevocationComplete outliveConfig outliveClaims deactivation
        (fun _ _ => True) ∧
      ¬ RevocationComplete outliveConfig outliveClaims deletion
        (fun _ _ => True) := by
  have starts : ∀ request,
      (system outliveConfig outliveClaims request).Reachable outliveStart :=
    fun _ => ⟨outliveStart, ⟨⟨rfl, fun _ => rfl⟩, fun _ => rfl⟩,
      TransitionSystem.Reaches.refl⟩
  constructor
  · intro complete
    let returned := outliveRun deactivation outliveStart deactivationSteps
    let later := outliveRun deactivation returned outliveAsk
    exact complete outliveStart outliveStart returned later () true ⟨0, true⟩
      ⟨0, true⟩ (some ⟨0, true⟩) ⟨"u", 0⟩ (by decide) (starts _) rfl rfl
      TransitionSystem.Reaches.refl rfl
      (TransitionSystem.reaches_of_exec deactivationSteps rfl) rfl rfl rfl
      (TransitionSystem.reaches_of_exec outliveAsk rfl) rfl rfl
  · intro complete
    let returned := outliveRun deletion outliveStart deletionSteps
    let later := outliveRun deletion returned outliveAsk
    exact complete outliveStart outliveStart returned later () true ⟨0, true⟩
      ⟨0, true⟩ (some ⟨0, true⟩) ⟨"u", 0⟩ (by decide) (starts _) rfl rfl
      TransitionSystem.Reaches.refl rfl
      (TransitionSystem.reaches_of_exec deletionSteps rfl) rfl rfl rfl
      (TransitionSystem.reaches_of_exec outliveAsk rfl) rfl rfl

/-! ### A logout in order -/

def logoutRequest (_ : Unit) : Request :=
  ⟨.logout, "u"⟩

def logoutLoaded : State Bool Unit :=
  outliveRun logoutRequest outliveStart [.load ()]

def logoutReturned : State Bool Unit :=
  outliveRun logoutRequest logoutLoaded [.commit (), .invalidate ()]

def logoutAsked : State Bool Unit :=
  outliveRun logoutRequest logoutReturned
    (outliveAsk ++ [.cache (.fetch true), .cache (.settle true)])

def logoutAnswered : State Bool Unit :=
  outliveRun logoutRequest logoutAsked [.cache (.publish true)]

/-- The token of before the logout is refused by a request after it. -/
theorem revocation_complete_logout :
    (logoutAnswered.base.phase true).returned = some (some ⟨1, true⟩) ∧
      tokenPayload ⟨"u", 0⟩ (some ⟨1, true⟩) ≠ .ok ⟨"u", 0⟩ := by
  let order := RevokesInOrder outliveConfig outliveClaims logoutRequest
  let logout := system outliveConfig outliveClaims logoutRequest
  have starts : logout.ReachableUnder order outliveStart :=
    ⟨outliveStart, ⟨⟨rfl, fun _ => rfl⟩, fun _ => rfl⟩,
      TransitionSystem.Reaches.refl⟩
  have loaded : logout.Reaches order outliveStart logoutLoaded :=
    TransitionSystem.reaches_of_exec_allowed [.load ()]
      (by simp [order, RevokesInOrder]) rfl
  have committed : logout.Reaches order logoutLoaded
      (outliveRun logoutRequest logoutLoaded [.commit ()]) := by
    refine TransitionSystem.Reaches.single (.commit ()) ?_ rfl
    rintro account current inHand present
    cases inHand
    cases present
    exact ⟨fun _ => rfl, fun notLogout => absurd rfl notLogout⟩
  have invalidated : logout.Reaches order
      (outliveRun logoutRequest logoutLoaded [.commit ()]) logoutReturned :=
    TransitionSystem.reaches_of_exec_allowed [.invalidate ()]
      (by simp [order, RevokesInOrder]) rfl
  have asked : logout.Reaches order logoutReturned logoutAsked :=
    TransitionSystem.reaches_of_exec_allowed
      (outliveAsk ++ [.cache (.fetch true), .cache (.settle true)])
      (by simp [outliveAsk, order, RevokesInOrder, KeepsCaptured]) rfl
  have answered : logout.Reaches order logoutAsked logoutAnswered := by
    refine TransitionSystem.Reaches.single (.cache (.publish true)) ?_ rfl
    rintro _ (_ | _) different captured
    · exact absurd rfl captured
    · exact absurd rfl different
  refine ⟨rfl, ?_⟩
  exact revocation_complete outliveConfig outliveClaims logoutRequest
    outliveStart outliveStart logoutReturned logoutAnswered () true ⟨0, true⟩
    ⟨0, true⟩ (some ⟨1, true⟩) ⟨"u", 0⟩ (by decide) starts rfl rfl
    TransitionSystem.Reaches.refl rfl
    ((loaded.trans committed).trans invalidated) rfl rfl rfl
    (asked.trans answered) rfl

end DbBuddy.Auth.SessionRevocation
