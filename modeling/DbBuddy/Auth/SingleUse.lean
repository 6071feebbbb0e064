import DbBuddy.Library.Exclusion
import DbBuddy.Library.TransitionSystem
import Mathlib.Data.Int.Notation
import Mathlib.Data.List.Nodup

/-!
# Credentials for a single use

A reset link, a confirmation link and a recovery code are read, checked and marked as
used, and what marks them is committed in a later step than they were read in.  A
request for a new link spends the old ones first; its update sees what is committed
then.
-/

namespace DbBuddy.Auth.SingleUse

open DbBuddy.Library

universe u

/-! ## The tables -/

/-- `PasswordResetToken` and `EmailVerificationToken` -/
inductive Kind where
  | reset
  | verification
  deriving DecidableEq

/-- A row by its `token_hash`; `used` says whether `used_at` is set. -/
structure TokenRow where
  user : String
  expiresAt : ℤ
  used : Bool
  deriving DecidableEq

/-- The columns of `users` that the flows look at; `mfaEnabled` says that a secret is
there too, and `codes` are the hashed recovery codes. -/
structure Account where
  active : Bool
  verified : Bool
  mfaEnabled : Bool
  codes : List String
  deriving DecidableEq

/-- The rows of one table by their hash. -/
abbrev TokenTable := String → Option TokenRow

/-- The tokens of a user that were not used. -/
def outstanding (table : TokenTable) (user token : String) : Bool :=
  match table token with
  | some row => decide (row.user = user) && !row.used
  | none => false

/-- `used_at` is set in some rows. -/
def markUsed (table : TokenTable) (chosen : String → Bool) : TokenTable :=
  fun token => (table token).map fun row =>
    if chosen token then { row with used := true } else row

/-! ## The requests -/

/-- What a request does.  The hash of a new token and the codes of an enrolment are
drawn by the server; `totp` says whether the code is the current one. -/
inductive Call where
  | confirm (kind : Kind) (token : String)
  | issue (kind : Kind) (user token : String)
  | mfaLogin (user digest : String) (totp : Bool)
  | mfaVerify (user : String) (codes : List String)
  | mfaDisable (user : String)

/-- Where a request stands: what it has found so far. -/
inductive Phase where
  | ready
  | found (user : String)
  | admitted
  | spending (spent : String → Bool) (now : ℤ)
  | holding (codes : List String)
  | accepted
  | refused

/-- `redeemed` and `consumed` are bookkeeping of the model: the tokens and the recovery
codes that were accepted. -/
structure State (Request : Type u) where
  clock : ℤ
  account : String → Account
  tokens : Kind → TokenTable
  phase : Request → Phase
  redeemed : List (Kind × String)
  consumed : List (String × String)

inductive Label (Request : Type u) where
  | tick (elapsed : ℕ)
  | setActive (user : String) (active : Bool)
  | reject (request : Request)
  | read (request : Request)
  | check (request : Request)
  | commit (request : Request)

section Steps

variable {Request : Type u} [DecidableEq Request]

def State.setPhase (state : State Request) (request : Request) (next : Phase) :
    State Request :=
  { state with phase := Function.update state.phase request next }

def State.setAccount (state : State Request) (user : String) (account : Account) :
    State Request :=
  { state with account := Function.update state.account user account }

def State.setTable (state : State Request) (kind : Kind) (table : TokenTable) :
    State Request :=
  { state with tokens := Function.update state.tokens kind table }

/-- A link goes to an active account, and to confirm an address only if that was not
done. -/
def mayIssue (kind : Kind) (account : Account) : Bool :=
  match kind with
  | .reset => account.active
  | .verification => account.active && !account.verified

/-- The first reading of a request. -/
def readOf (state : State Request) : Call → Phase
  | .confirm kind token =>
      match state.tokens kind token with
      | none => .refused
      | some row =>
          if row.used = true ∨ row.expiresAt ≤ state.clock then .refused
          else .found row.user
  | .issue kind user _ =>
      if mayIssue kind (state.account user) then .found user else .refused
  | .mfaLogin user digest totp =>
      let account := state.account user
      if account.active = true ∧ account.mfaEnabled = true then
        if totp then .admitted
        else if digest ∈ account.codes then .holding account.codes
        else .refused
      else .refused
  | .mfaVerify user _ =>
      if (state.account user).mfaEnabled then .refused else .admitted
  | .mfaDisable user =>
      if (state.account user).mfaEnabled then .admitted else .refused

/-- What a request reads next, or its update of the old tokens. -/
def checkOf (state : State Request) (user : String) : Call → Option Phase
  | .confirm _ _ =>
      some (if (state.account user).active then .admitted else .refused)
  | .issue kind _ _ =>
      some (.spending (outstanding (state.tokens kind) user) state.clock)
  | _ => none

/-- What a request commits.  A hash is in a table once. -/
def commitOf (ttl : Kind → ℤ) (state : State Request) (request : Request) :
    Call → Option (State Request)
  | .confirm kind token =>
      match state.phase request with
      | .admitted =>
          let spent := (state.setTable kind (markUsed (state.tokens kind)
            fun other => decide (other = token))).setPhase request .accepted
          let user := ((state.tokens kind token).map TokenRow.user).getD ""
          let account := state.account user
          let confirmed :=
            match kind with
            | .reset => spent
            | .verification =>
                spent.setAccount user { account with verified := true }
          some { confirmed with redeemed := state.redeemed ++ [(kind, token)] }
      | _ => none
  | .issue kind user token =>
      match state.phase request with
      | .spending spent now =>
          if (state.tokens kind token).isSome then
            some (state.setPhase request .refused)
          else
            some ((state.setTable kind (Function.update
              (markUsed (state.tokens kind) spent) token
              (some ⟨user, now + ttl kind, false⟩))).setPhase request .accepted)
      | _ => none
  | .mfaLogin user digest _ =>
      match state.phase request with
      | .admitted => some (state.setPhase request .accepted)
      | .holding codes => some
          { (state.setAccount user { state.account user with
              codes := codes.erase digest }).setPhase request .accepted with
            consumed := state.consumed ++ [(user, digest)] }
      | _ => none
  | .mfaVerify user codes =>
      match state.phase request with
      | .admitted => some ((state.setAccount user { state.account user with
          mfaEnabled := true
          codes := codes }).setPhase request .accepted)
      | _ => none
  | .mfaDisable user =>
      match state.phase request with
      | .admitted => some ((state.setAccount user { state.account user with
          mfaEnabled := false
          codes := [] }).setPhase request .accepted)
      | _ => none

/-- One atomic step.  A request may be rejected for what it brings along: it is
throttled, its challenge has expired, or a code is wrong. -/
def step (call : Request → Call) (ttl : Kind → ℤ) (state : State Request) :
    Label Request → Option (State Request)
  | .tick elapsed => some { state with clock := state.clock + elapsed }
  | .setActive user active =>
      some (state.setAccount user { state.account user with active := active })
  | .reject request =>
      match state.phase request with
      | .ready => some (state.setPhase request .refused)
      | _ => none
  | .read request =>
      match state.phase request with
      | .ready => some (state.setPhase request (readOf state (call request)))
      | _ => none
  | .check request =>
      match state.phase request with
      | .found user =>
          (checkOf state user (call request)).map (state.setPhase request)
      | _ => none
  | .commit request => commitOf ttl state request (call request)

/-- No token and no code is there, and no request has begun. -/
def Initial (state : State Request) : Prop :=
  (∀ kind token, state.tokens kind token = none) ∧
    (∀ user, (state.account user).codes = []) ∧
    (∀ request, state.phase request = .ready) ∧
    state.redeemed = [] ∧ state.consumed = []

def system (call : Request → Call) (ttl : Kind → ℤ) :
    TransitionSystem (State Request) (Label Request) where
  initial := Initial
  step := step call ttl

end Steps

/-! ## The law and when it holds -/

section Law

variable {Request : Type u}

/-- No token and no code is accepted twice, a code that was accepted is not there any
more, and a user has one live reset link at most. -/
structure UsedOnce (state : State Request) : Prop where
  tokens : state.redeemed.Nodup
  codes : state.consumed.Nodup
  gone : ∀ user digest, (user, digest) ∈ state.consumed →
    digest ∉ (state.account user).codes
  live : ∀ first second firstRow secondRow,
    state.tokens .reset first = some firstRow →
    state.tokens .reset second = some secondRow →
    firstRow.user = secondRow.user →
    firstRow.used = false → secondRow.used = false →
    state.clock < firstRow.expiresAt → state.clock < secondRow.expiresAt →
      first = second

/-- A request commits on what it has read: the token was not used since, no reset token
of the user was issued since, or the codes are the same.  New codes are new. -/
def Unchanged (call : Request → Call) (state : State Request) : Label Request → Prop
  | .commit request =>
      match call request with
      | .confirm kind token => ∀ row, state.tokens kind token = some row →
          row.used = false
      | .issue kind user _ => kind = .reset → ∀ spent now,
          state.phase request = .spending spent now →
            ∀ token, outstanding (state.tokens kind) user token = true →
              spent token = true
      | .mfaLogin user _ _ => ∀ codes, state.phase request = .holding codes →
          (state.account user).codes = codes
      | .mfaVerify user codes => codes.Nodup ∧
          ∀ digest ∈ codes, (user, digest) ∉ state.consumed
      | .mfaDisable _ => True
  | _ => True

end Law

/-! ## What the steps do -/

section Effects

@[simp]
theorem markUsed_apply (table : TokenTable) (chosen : String → Bool) (token : String) :
    markUsed table chosen token = (table token).map fun row =>
      if chosen token then { row with used := true } else row := rfl

/-- A row that is not used now was not used before, and it was not chosen. -/
theorem unused_of_markUsed {table : TokenTable} {chosen : String → Bool}
    {token : String} {row : TokenRow} (found : markUsed table chosen token = some row)
    (unused : row.used = false) : table token = some row ∧ chosen token = false := by
  rw [markUsed_apply] at found
  cases stored : table token with
  | none =>
      rw [stored] at found
      cases found
  | some old =>
      rw [stored] at found
      have isRow : (if chosen token then { old with used := true } else old) = row :=
        Option.some.inj found
      by_cases isChosen : chosen token = true
      · rw [if_pos isChosen] at isRow
        rw [← isRow] at unused
        cases unused
      · rw [if_neg isChosen] at isRow
        exact ⟨by rw [isRow], by simpa using isChosen⟩

/-- Marking loses no row, and what was used stays so. -/
theorem used_markUsed {table : TokenTable} {token : String} {row : TokenRow}
    (found : table token = some row) (isUsed : row.used = true)
    (chosen : String → Bool) :
    ∃ marked, markUsed table chosen token = some marked ∧ marked.used = true := by
  refine ⟨if chosen token then { row with used := true } else row, ?_, ?_⟩
  · rw [markUsed_apply, found, Option.map_some]
  · by_cases isChosen : chosen token = true
    · rw [if_pos isChosen]
    · rw [if_neg isChosen]
      exact isUsed

theorem isSome_markUsed (table : TokenTable) (chosen : String → Bool)
    (token : String) : (markUsed table chosen token).isSome = (table token).isSome := by
  rw [markUsed_apply, Option.isSome_map]

theorem outstanding_eq_true {table : TokenTable} {token : String} {row : TokenRow}
    (found : table token = some row) (unused : row.used = false) :
    outstanding table row.user token = true := by
  simp [outstanding, found, unused]

end Effects

/-! ## The invariant -/

/-- What was redeemed is marked, and no user has two unused reset tokens. -/
structure TokensSound (tokens : Kind → TokenTable)
    (redeemed : List (Kind × String)) : Prop where
  once : redeemed.Nodup
  marked : ∀ kind token, (kind, token) ∈ redeemed →
    ∃ row, tokens kind token = some row ∧ row.used = true
  single : ∀ first second firstRow secondRow,
    tokens .reset first = some firstRow → tokens .reset second = some secondRow →
    firstRow.user = secondRow.user →
    firstRow.used = false → secondRow.used = false → first = second

structure CodesSound (account : String → Account)
    (consumed : List (String × String)) : Prop where
  once : consumed.Nodup
  gone : ∀ user digest, (user, digest) ∈ consumed → digest ∉ (account user).codes
  distinct : ∀ user, (account user).codes.Nodup

/-- A token that is being confirmed is there, and a code that was found is in the list
that was read. -/
structure PhaseSound (tokens : Kind → TokenTable) (call : Call) (phase : Phase) :
    Prop where
  found : ∀ kind token user, call = .confirm kind token → phase = .found user →
    (tokens kind token).isSome = true
  admitted : ∀ kind token, call = .confirm kind token → phase = .admitted →
    (tokens kind token).isSome = true
  holding : ∀ user digest totp codes, call = .mfaLogin user digest totp →
    phase = .holding codes → digest ∈ codes

structure Sound {Request : Type u} (call : Request → Call) (state : State Request) :
    Prop where
  tokens : TokensSound state.tokens state.redeemed
  codes : CodesSound state.account state.consumed
  phases : ∀ request, PhaseSound state.tokens (call request) (state.phase request)

section Tokens

variable {tokens : Kind → TokenTable} {redeemed : List (Kind × String)}

/-- A token that is unused at the commit is redeemed for the first time. -/
theorem TokensSound.redeem (sound : TokensSound tokens redeemed) {kind : Kind}
    {token : String} {row : TokenRow} (stored : tokens kind token = some row)
    (unused : row.used = false) :
    TokensSound (Function.update tokens kind
        (markUsed (tokens kind) fun other => decide (other = token)))
      (redeemed ++ [(kind, token)]) := by
  have isNew : (kind, token) ∉ redeemed := by
    intro isOld
    obtain ⟨marked, isMarked, isUsed⟩ := sound.marked kind token isOld
    rw [stored] at isMarked
    cases isMarked
    rw [unused] at isUsed
    cases isUsed
  have unmarked : ∀ other found, Function.update tokens kind
      (markUsed (tokens kind) fun other => decide (other = token)) .reset other =
        some found → found.used = false → tokens .reset other = some found := by
    intro other found isFound stillUnused
    by_cases isKind : Kind.reset = kind
    · rw [← isKind, Function.update_self] at isFound
      exact (unused_of_markUsed isFound stillUnused).1
    · rwa [Function.update_of_ne isKind] at isFound
  constructor
  · rw [List.nodup_append]
    refine ⟨sound.once, List.nodup_singleton _, ?_⟩
    intro one isOld other isLast same
    rw [same, List.mem_singleton.mp isLast] at isOld
    exact isNew isOld
  · intro otherKind other isRedeemed
    rcases List.mem_append.mp isRedeemed with isOld | isLast
    · obtain ⟨marked, isMarked, isUsed⟩ := sound.marked otherKind other isOld
      by_cases isKind : otherKind = kind
      · subst isKind
        rw [Function.update_self]
        exact used_markUsed isMarked isUsed _
      · rw [Function.update_of_ne isKind]
        exact ⟨marked, isMarked, isUsed⟩
    · cases List.mem_singleton.mp isLast
      refine ⟨{ row with used := true }, ?_, rfl⟩
      rw [Function.update_self, markUsed_apply, stored, Option.map_some,
        if_pos (decide_eq_true rfl)]
  · intro first second firstRow secondRow isFirst isSecond sameUser firstUnused
      secondUnused
    exact sound.single first second firstRow secondRow
      (unmarked first firstRow isFirst firstUnused)
      (unmarked second secondRow isSecond secondUnused)
      sameUser firstUnused secondUnused

/-- A new token is the only one of its user, once every outstanding one is spent. -/
theorem TokensSound.issue (sound : TokensSound tokens redeemed) {kind : Kind}
    {user token : String} {spent : String → Bool} (isNew : tokens kind token = none)
    (covered : kind = .reset → ∀ other, outstanding (tokens kind) user other = true →
      spent other = true) (expiresAt : ℤ) :
    TokensSound (Function.update tokens kind
        (Function.update (markUsed (tokens kind) spent) token
          (some ⟨user, expiresAt, false⟩))) redeemed := by
  have split : ∀ other found, Function.update tokens kind
      (Function.update (markUsed (tokens kind) spent) token
        (some ⟨user, expiresAt, false⟩)) .reset other = some found →
      found.used = false →
        (kind = .reset ∧ other = token ∧ found.user = user) ∨
          (tokens .reset other = some found ∧
            (kind = .reset → found.user ≠ user)) := by
    intro other found isFound unused
    by_cases isKind : Kind.reset = kind
    · subst isKind
      rw [Function.update_self] at isFound
      by_cases isToken : other = token
      · rw [isToken, Function.update_self] at isFound
        cases isFound
        exact Or.inl ⟨rfl, isToken, rfl⟩
      · rw [Function.update_of_ne isToken] at isFound
        obtain ⟨stored, unspent⟩ := unused_of_markUsed isFound unused
        refine Or.inr ⟨stored, fun _ sameUser => ?_⟩
        have isSpent := covered rfl other
          (by rw [← sameUser]; exact outstanding_eq_true stored unused)
        rw [unspent] at isSpent
        cases isSpent
    · rw [Function.update_of_ne isKind] at isFound
      exact Or.inr ⟨isFound, fun same => absurd same.symm isKind⟩
  constructor
  · exact sound.once
  · intro otherKind other isRedeemed
    obtain ⟨marked, isMarked, isUsed⟩ := sound.marked otherKind other isRedeemed
    by_cases isKind : otherKind = kind
    · subst isKind
      have different : other ≠ token := by
        intro same
        rw [same, isNew] at isMarked
        cases isMarked
      rw [Function.update_self, Function.update_of_ne different]
      exact used_markUsed isMarked isUsed spent
    · rw [Function.update_of_ne isKind]
      exact ⟨marked, isMarked, isUsed⟩
  · intro first second firstRow secondRow isFirst isSecond sameUser firstUnused
      secondUnused
    rcases split first firstRow isFirst firstUnused with
      ⟨isReset, firstNew, firstUser⟩ | ⟨firstOld, firstOther⟩
    · rcases split second secondRow isSecond secondUnused with
        ⟨_, secondNew, _⟩ | ⟨_, secondOther⟩
      · exact firstNew.trans secondNew.symm
      · exact absurd (sameUser.symm.trans firstUser) (secondOther isReset)
    · rcases split second secondRow isSecond secondUnused with
        ⟨isReset, _, secondUser⟩ | ⟨secondOld, _⟩
      · exact absurd (sameUser.trans secondUser) (firstOther isReset)
      · exact sound.single first second firstRow secondRow firstOld secondOld
          sameUser firstUnused secondUnused

end Tokens

section Codes

variable {account : String → Account} {consumed : List (String × String)}

/-- A list of codes that were not consumed may take the place of another one. -/
theorem CodesSound.replace (sound : CodesSound account consumed) {user : String}
    {next : Account} (distinct : next.codes.Nodup)
    (fresh : ∀ digest ∈ next.codes, (user, digest) ∉ consumed) :
    CodesSound (Function.update account user next) consumed := by
  constructor
  · exact sound.once
  · intro other digest isConsumed isThere
    by_cases same : other = user
    · rw [same, Function.update_self] at isThere
      rw [same] at isConsumed
      exact fresh digest isThere isConsumed
    · rw [Function.update_of_ne same] at isThere
      exact sound.gone other digest isConsumed isThere
  · intro other
    by_cases same : other = user
    · rw [same, Function.update_self]
      exact distinct
    · rw [Function.update_of_ne same]
      exact sound.distinct other

/-- The other columns say nothing about the codes. -/
theorem CodesSound.keep (sound : CodesSound account consumed)
    {later : String → Account}
    (sameCodes : ∀ user, (later user).codes = (account user).codes) :
    CodesSound later consumed := by
  constructor
  · exact sound.once
  · intro user digest isConsumed
    rw [sameCodes user]
    exact sound.gone user digest isConsumed
  · intro user
    rw [sameCodes user]
    exact sound.distinct user

/-- A code of the stored list is consumed for the first time, and then it is gone. -/
theorem CodesSound.consume (sound : CodesSound account consumed) {user digest : String}
    {next : Account} (isThere : digest ∈ (account user).codes)
    (erased : next.codes = (account user).codes.erase digest) :
    CodesSound (Function.update account user next) (consumed ++ [(user, digest)]) := by
  have isNew : (user, digest) ∉ consumed :=
    fun isOld => sound.gone user digest isOld isThere
  have kept : CodesSound (Function.update account user next) consumed := by
    apply sound.replace
    · rw [erased]
      exact (sound.distinct user).erase digest
    · intro other isLeft isConsumed
      rw [erased] at isLeft
      exact sound.gone user other isConsumed (List.mem_of_mem_erase isLeft)
  constructor
  · rw [List.nodup_append]
    refine ⟨sound.once, List.nodup_singleton _, ?_⟩
    intro one isOld other isLast same
    rw [same, List.mem_singleton.mp isLast] at isOld
    exact isNew isOld
  · intro other code isConsumed
    rcases List.mem_append.mp isConsumed with isOld | isLast
    · exact kept.gone other code isOld
    · cases List.mem_singleton.mp isLast
      rw [Function.update_self, erased]
      exact (sound.distinct user).not_mem_erase
  · exact kept.distinct

theorem codes_update_of_same {user : String} {next : Account}
    (same : next.codes = (account user).codes) (other : String) :
    (Function.update account user next other).codes = (account other).codes := by
  by_cases isUser : other = user
  · rw [isUser, Function.update_self, same]
  · rw [Function.update_of_ne isUser]

end Codes

section Phases

variable {tokens later : Kind → TokenTable} {call : Call} {phase : Phase}

/-- Rows stay, so what was found is still there. -/
theorem PhaseSound.grow (sound : PhaseSound tokens call phase)
    (grows : ∀ kind token, (tokens kind token).isSome = true →
      (later kind token).isSome = true) : PhaseSound later call phase := by
  constructor
  · intro kind token user isCall isPhase
    exact grows kind token (sound.found kind token user isCall isPhase)
  · intro kind token isCall isPhase
    exact grows kind token (sound.admitted kind token isCall isPhase)
  · exact sound.holding

/-- A phase that keeps nothing of what was read. -/
def Phase.idle : Phase → Bool
  | .ready => true
  | .accepted => true
  | .refused => true
  | _ => false

theorem phaseSound_idle (idle : phase.idle = true) : PhaseSound tokens call phase := by
  constructor
  · intro kind token user _ isPhase
    rw [isPhase] at idle
    cases idle
  · intro kind token _ isPhase
    rw [isPhase] at idle
    cases idle
  · intro user digest totp codes _ isPhase
    rw [isPhase] at idle
    cases idle

/-- Only a confirmation and a second factor rest on what they have read. -/
theorem phaseSound_other (notConfirm : ∀ kind token, call ≠ .confirm kind token)
    (notLogin : ∀ user digest totp, call ≠ .mfaLogin user digest totp) :
    PhaseSound tokens call phase := by
  constructor
  · intro kind token user isCall
    exact absurd isCall (notConfirm kind token)
  · intro kind token isCall
    exact absurd isCall (notConfirm kind token)
  · intro user digest totp codes isCall
    exact absurd isCall (notLogin user digest totp)

/-- What a confirmation rests on is the row. -/
theorem phaseSound_confirm {kind : Kind} {token : String}
    (isThere : (tokens kind token).isSome = true) :
    PhaseSound tokens (.confirm kind token) phase := by
  constructor
  · intro otherKind other user isCall _
    cases isCall
    exact isThere
  · intro otherKind other isCall _
    cases isCall
    exact isThere
  · intro user digest totp codes isCall
    cases isCall

/-- A confirmation finds the row that it read. -/
theorem phaseSound_readOf {Request : Type u} (state : State Request) (call : Call) :
    PhaseSound state.tokens call (readOf state call) := by
  cases call with
  | confirm kind token =>
      cases stored : state.tokens kind token with
      | none =>
          simp only [readOf, stored]
          exact phaseSound_idle rfl
      | some row =>
          apply phaseSound_confirm
          rw [stored, Option.isSome_some]
  | issue kind user token =>
      apply phaseSound_other
      · intro otherKind other isCall
        cases isCall
      · intro other digest totp isCall
        cases isCall
  | mfaLogin user digest totp =>
      constructor
      · intro kind token found isCall
        cases isCall
      · intro kind token isCall
        cases isCall
      · intro other code current codes isCall isPhase
        cases isCall
        simp only [readOf] at isPhase
        split at isPhase
        · split at isPhase
          · cases isPhase
          · split at isPhase
            · rename_i isThere
              cases isPhase
              exact isThere
            · cases isPhase
        · cases isPhase
  | mfaVerify user codes =>
      apply phaseSound_other
      · intro kind token isCall
        cases isCall
      · intro other digest totp isCall
        cases isCall
  | mfaDisable user =>
      apply phaseSound_other
      · intro kind token isCall
        cases isCall
      · intro other digest totp isCall
        cases isCall

/-- The account of a found row is looked up; the row is not read again. -/
theorem phaseSound_checkOf {Request : Type u} {state : State Request} {user : String}
    {next : Phase} (sound : PhaseSound state.tokens call (.found user))
    (checked : checkOf state user call = some next) :
    PhaseSound state.tokens call next := by
  cases call with
  | confirm kind token =>
      exact phaseSound_confirm (sound.found kind token user rfl rfl)
  | issue kind owner token =>
      apply phaseSound_other
      · intro otherKind other isCall
        cases isCall
      · intro other digest totp isCall
        cases isCall
  | mfaLogin owner digest totp => cases checked
  | mfaVerify owner codes => cases checked
  | mfaDisable owner => cases checked

end Phases

/-! ## Steps keep the invariant -/

section Invariant

variable {Request : Type u} [DecidableEq Request] {call : Request → Call}
variable {ttl : Kind → ℤ} {state next : State Request} {request : Request}

theorem phases_update {tokens : Kind → TokenTable} {phase : Request → Phase}
    (phases : ∀ other, PhaseSound tokens (call other) (phase other))
    {reached : Phase} (sound : PhaseSound tokens (call request) reached)
    (other : Request) :
    PhaseSound tokens (call other) (Function.update phase request reached other) := by
  by_cases same : other = request
  · rw [same, Function.update_self]
    exact sound
  · rw [Function.update_of_ne same]
    exact phases other

theorem Sound.move (sound : Sound call state) {reached : Phase}
    (phase : PhaseSound state.tokens (call request) reached) :
    Sound call (state.setPhase request reached) :=
  ⟨sound.tokens, sound.codes, phases_update sound.phases phase⟩

/-- A confirmation that is committed marks its row, whatever the row says by then. -/
theorem commitOf_confirm {kind : Kind} {token : String}
    (committed : commitOf ttl state request (.confirm kind token) = some next) :
    state.phase request = .admitted ∧
      next.tokens = Function.update state.tokens kind
        (markUsed (state.tokens kind) fun other => decide (other = token)) ∧
      next.phase = Function.update state.phase request .accepted ∧
      next.redeemed = state.redeemed ++ [(kind, token)] ∧
      next.consumed = state.consumed ∧
      ∀ user, (next.account user).codes = (state.account user).codes := by
  simp only [commitOf] at committed
  split at committed
  · rename_i isAdmitted
    cases committed
    cases kind with
    | reset =>
        exact ⟨isAdmitted, rfl, rfl, rfl, rfl, fun _ => rfl⟩
    | verification =>
        exact ⟨isAdmitted, rfl, rfl, rfl, rfl, codes_update_of_same rfl⟩
  · cases committed

theorem commitOf_issue {kind : Kind} {user token : String}
    (committed : commitOf ttl state request (.issue kind user token) = some next) :
    next = state.setPhase request .refused ∨
      ∃ spent now, state.phase request = .spending spent now ∧
        state.tokens kind token = none ∧
        next = (state.setTable kind (Function.update
          (markUsed (state.tokens kind) spent) token
          (some ⟨user, now + ttl kind, false⟩))).setPhase request .accepted := by
  simp only [commitOf] at committed
  split at committed
  · rename_i spent now isSpending
    split at committed
    · cases committed
      exact Or.inl rfl
    · rename_i isNew
      cases committed
      exact Or.inr ⟨spent, now, isSpending, by simpa using isNew, rfl⟩
  · cases committed

theorem commitOf_mfaLogin {user digest : String} {totp : Bool}
    (committed : commitOf ttl state request (.mfaLogin user digest totp) = some next) :
    next = state.setPhase request .accepted ∨
      ∃ codes, state.phase request = .holding codes ∧
        next = { (state.setAccount user { state.account user with
            codes := codes.erase digest }).setPhase request .accepted with
          consumed := state.consumed ++ [(user, digest)] } := by
  simp only [commitOf] at committed
  split at committed
  · cases committed
    exact Or.inl rfl
  · rename_i codes isHolding
    cases committed
    exact Or.inr ⟨codes, isHolding, rfl⟩
  · cases committed

theorem commitOf_mfaVerify {user : String} {codes : List String}
    (committed : commitOf ttl state request (.mfaVerify user codes) = some next) :
    next = (state.setAccount user { state.account user with
      mfaEnabled := true
      codes := codes }).setPhase request .accepted := by
  simp only [commitOf] at committed
  split at committed
  · cases committed
    rfl
  · cases committed

theorem commitOf_mfaDisable {user : String}
    (committed : commitOf ttl state request (.mfaDisable user) = some next) :
    next = (state.setAccount user { state.account user with
      mfaEnabled := false
      codes := [] }).setPhase request .accepted := by
  simp only [commitOf] at committed
  split at committed
  · cases committed
    rfl
  · cases committed

/-- A request that writes to a table takes no row from it. -/
theorem grows_update {tokens : Kind → TokenTable} {kind : Kind} {table : TokenTable}
    (grows : ∀ token, (tokens kind token).isSome = true →
      (table token).isSome = true) (otherKind : Kind) (token : String)
    (isThere : (tokens otherKind token).isSome = true) :
    (Function.update tokens kind table otherKind token).isSome = true := by
  by_cases isKind : otherKind = kind
  · rw [isKind] at isThere
    rw [isKind, Function.update_self]
    exact grows token isThere
  · rw [Function.update_of_ne isKind]
    exact isThere

/-- What a request commits is sound as long as what it has read is still so. -/
theorem sound_commit (sound : Sound call state)
    (unchanged : Unchanged call state (.commit request))
    (committed : commitOf ttl state request (call request) = some next) :
    Sound call next := by
  have phaseHere := sound.phases request
  simp only [Unchanged] at unchanged
  cases isCall : call request with
  | confirm kind token =>
      rw [isCall] at committed unchanged phaseHere
      obtain ⟨isAdmitted, sameTokens, samePhase, sameRedeemed, sameConsumed,
        sameCodes⟩ := commitOf_confirm committed
      have isThere := phaseHere.admitted kind token rfl isAdmitted
      obtain ⟨row, stored⟩ := Option.isSome_iff_exists.mp isThere
      constructor
      · rw [sameTokens, sameRedeemed]
        exact sound.tokens.redeem stored (unchanged row stored)
      · rw [sameConsumed]
        exact sound.codes.keep sameCodes
      · rw [sameTokens, samePhase]
        refine phases_update (fun other => (sound.phases other).grow ?_)
          (phaseSound_idle rfl)
        apply grows_update
        intro other isThere
        rw [isSome_markUsed]
        exact isThere
  | issue kind user token =>
      rw [isCall] at committed unchanged
      rcases commitOf_issue committed with rfl | ⟨spent, now, isSpending, isNew, rfl⟩
      · exact sound.move (phaseSound_idle rfl)
      · constructor
        · exact sound.tokens.issue isNew
            (fun isReset => unchanged isReset spent now isSpending) (now + ttl kind)
        · exact sound.codes
        · refine phases_update (fun other => (sound.phases other).grow ?_)
            (phaseSound_idle rfl)
          apply grows_update
          intro other isThere
          by_cases same : other = token
          · rw [same, Function.update_self, Option.isSome_some]
          · rw [Function.update_of_ne same, isSome_markUsed]
            exact isThere
  | mfaLogin user digest totp =>
      rw [isCall] at committed unchanged phaseHere
      rcases commitOf_mfaLogin committed with rfl | ⟨codes, isHolding, rfl⟩
      · exact sound.move (phaseSound_idle rfl)
      · have sameCodes := unchanged codes isHolding
        have isThere := phaseHere.holding user digest totp codes rfl isHolding
        constructor
        · exact sound.tokens
        · exact sound.codes.consume (by rw [sameCodes]; exact isThere)
            (by rw [sameCodes])
        · exact phases_update sound.phases (phaseSound_idle rfl)
  | mfaVerify user codes =>
      rw [isCall] at committed unchanged
      rw [commitOf_mfaVerify committed]
      constructor
      · exact sound.tokens
      · exact sound.codes.replace unchanged.1 unchanged.2
      · exact phases_update sound.phases (phaseSound_idle rfl)
  | mfaDisable user =>
      rw [isCall] at committed
      rw [commitOf_mfaDisable committed]
      constructor
      · exact sound.tokens
      · refine sound.codes.replace List.nodup_nil ?_
        intro digest isThere
        cases isThere
      · exact phases_update sound.phases (phaseSound_idle rfl)

/-- The clock, the administrators and the readings of a request change nothing of what
was accepted. -/
theorem sound_step (sound : Sound call state) {label : Label Request}
    (unchanged : Unchanged call state label)
    (stepped : step call ttl state label = some next) : Sound call next := by
  cases label with
  | tick elapsed =>
      cases stepped
      exact ⟨sound.tokens, sound.codes, sound.phases⟩
  | setActive user active =>
      cases stepped
      exact ⟨sound.tokens, sound.codes.keep (codes_update_of_same rfl), sound.phases⟩
  | reject request =>
      simp only [step] at stepped
      split at stepped
      · cases stepped
        exact sound.move (phaseSound_idle rfl)
      · cases stepped
  | read request =>
      simp only [step] at stepped
      split at stepped
      · cases stepped
        exact sound.move (phaseSound_readOf state (call request))
      · cases stepped
  | check request =>
      simp only [step] at stepped
      split at stepped
      · rename_i user isFound
        obtain ⟨reached, isChecked, rfl⟩ := Option.map_eq_some_iff.mp stepped
        have phaseHere := sound.phases request
        rw [isFound] at phaseHere
        exact sound.move (phaseSound_checkOf phaseHere isChecked)
      · cases stepped
  | commit request =>
      exact sound_commit sound unchanged stepped

omit [DecidableEq Request] in
theorem sound_initial (isInitial : Initial state) : Sound call state := by
  obtain ⟨noTokens, noCodes, allReady, noneRedeemed, noneConsumed⟩ := isInitial
  refine ⟨⟨?_, ?_, ?_⟩, ⟨?_, ?_, ?_⟩, ?_⟩
  · rw [noneRedeemed]
    exact List.nodup_nil
  · intro kind token isRedeemed
    rw [noneRedeemed] at isRedeemed
    cases isRedeemed
  · intro first second firstRow secondRow isFirst
    rw [noTokens] at isFirst
    cases isFirst
  · rw [noneConsumed]
    exact List.nodup_nil
  · intro user digest isConsumed
    rw [noneConsumed] at isConsumed
    cases isConsumed
  · intro user
    rw [noCodes]
    exact List.nodup_nil
  · intro request
    rw [allReady]
    exact phaseSound_idle rfl

omit [DecidableEq Request] in
theorem Sound.usedOnce (sound : Sound call state) : UsedOnce state := by
  constructor
  · exact sound.tokens.once
  · exact sound.codes.once
  · exact sound.codes.gone
  · intro first second firstRow secondRow isFirst isSecond sameUser firstUnused
      secondUnused _ _
    exact sound.tokens.single first second firstRow secondRow isFirst isSecond
      sameUser firstUnused secondUnused

end Invariant

/-- In every run in which each request commits on what is still so, every link and
every code is accepted once at most, and no two reset links of a user live. -/
theorem credentials_usedOnce {Request : Type u} [DecidableEq Request]
    (call : Request → Call) (ttl : Kind → ℤ) {state : State Request}
    (reachable : (system call ttl).ReachableUnder (Unchanged call) state) :
    UsedOnce state := by
  have sound : Sound call state := by
    refine reachable.invariant (Sound call) ?_ ?_
    · intro start isInitial
      exact sound_initial isInitial
    · intro before label after holds unchanged stepped
      exact sound_step holds unchanged stepped
  exact sound.usedOnce

/-! ### Requests of one user -/

/-- Nothing was issued, and the account is active. -/
def fresh : State ℕ where
  clock := 0
  account _ := ⟨true, false, false, []⟩
  tokens _ _ := none
  phase _ := .ready
  redeemed := []
  consumed := []

theorem fresh_initial : Initial fresh :=
  ⟨fun _ _ => rfl, fun _ => rfl, fun _ => rfl, rfl, rfl⟩

def callOf (calls : List Call) (request : ℕ) : Call :=
  calls.getD request (.mfaDisable "ana")

/-- Links are valid for an hour. -/
def hour : Kind → ℤ := fun _ => 3600

def requestsRun (calls : List Call) (labels : List (Label ℕ)) : State ℕ :=
  ((system (callOf calls) hour).exec fresh labels).getD fresh

/-- A request with two readings, and one with one. -/
def mailed (request : ℕ) : List (Label ℕ) := [.read request, .check request]

def recovery : List Call :=
  [.issue .reset "ana" "t1", .confirm .reset "t1", .mfaVerify "ana" ["c1", "c2"],
    .mfaLogin "ana" "c1" false]

/-- The labels of the recovery, one after the other. -/
def recoveryLabels : List (Label ℕ) :=
  [.read 0, .check 0, .commit 0, .read 1, .check 1, .commit 1, .read 2, .commit 2, .read 3,
    .commit 3]

/-- One after the other: a link is mailed and followed, and a recovery code is used. -/
theorem credentials_usedOnce_recovery :
    UsedOnce (requestsRun recovery (mailed 0 ++ [.commit 0] ++ mailed 1 ++
      [.commit 1, .read 2, .commit 2, .read 3, .commit 3])) ∧
    (requestsRun recovery (mailed 0 ++ [.commit 0] ++ mailed 1 ++
      [.commit 1, .read 2, .commit 2, .read 3, .commit 3])).redeemed =
        [(.reset, "t1")] ∧
    (requestsRun recovery (mailed 0 ++ [.commit 0] ++ mailed 1 ++
      [.commit 1, .read 2, .commit 2, .read 3, .commit 3])).consumed =
        [("ana", "c1")] := by
  refine ⟨?_, by decide, by decide⟩
  have reads : ∀ request, ∀ label ∈ mailed request, ∀ state,
      Unchanged (callOf recovery) state label := by
    intro request label isLabel state
    rcases List.mem_cons.mp isLabel with rfl | isSecond
    · trivial
    · rw [List.mem_singleton.mp isSecond]
      trivial
  have asked : (system (callOf recovery) hour).Reaches (Unchanged (callOf recovery))
      fresh (requestsRun recovery (mailed 0)) :=
    TransitionSystem.reaches_of_exec_allowed (mailed 0) (reads 0) rfl
  have issued : (system (callOf recovery) hour).Reaches (Unchanged (callOf recovery))
      fresh (requestsRun recovery (recoveryLabels.take 3)) := by
    refine TransitionSystem.Reaches.tail (.commit 0) asked ?_ rfl
    intro _ spent now _ token isThere
    cases isThere
  have followed : (system (callOf recovery) hour).Reaches (Unchanged (callOf recovery))
      fresh (requestsRun recovery (recoveryLabels.take 5)) :=
    issued.trans
      (TransitionSystem.reaches_of_exec_allowed (mailed 1) (reads 1) rfl)
  have confirmed : (system (callOf recovery) hour).Reaches
      (Unchanged (callOf recovery)) fresh
      (requestsRun recovery (recoveryLabels.take 6)) := by
    refine TransitionSystem.Reaches.tail (.commit 1) followed ?_ rfl
    intro row isRow
    cases isRow
    rfl
  have enrolling : (system (callOf recovery) hour).Reaches
      (Unchanged (callOf recovery)) fresh
      (requestsRun recovery (recoveryLabels.take 7)) :=
    TransitionSystem.Reaches.tail (.read 2) confirmed trivial rfl
  have enrolled : (system (callOf recovery) hour).Reaches
      (Unchanged (callOf recovery)) fresh
      (requestsRun recovery (recoveryLabels.take 8)) := by
    refine TransitionSystem.Reaches.tail (.commit 2) enrolling ?_ rfl
    refine ⟨by decide, ?_⟩
    intro digest _ isConsumed
    cases isConsumed
  have held : (system (callOf recovery) hour).Reaches
      (Unchanged (callOf recovery)) fresh
      (requestsRun recovery (recoveryLabels.take 9)) :=
    TransitionSystem.Reaches.tail (.read 3) enrolled trivial rfl
  have spent : (system (callOf recovery) hour).Reaches
      (Unchanged (callOf recovery)) fresh (requestsRun recovery recoveryLabels) := by
    refine TransitionSystem.Reaches.tail (.commit 3) held ?_ rfl
    intro codes isHolding
    cases isHolding
    rfl
  exact credentials_usedOnce (callOf recovery) hour ⟨fresh, fresh_initial, spent⟩

def twoConfirms (kind : Kind) : List Call :=
  [.issue kind "ana" "t1", .confirm kind "t1", .confirm kind "t1"]

def twoLogins (digest : String) : List Call :=
  [.mfaVerify "ana" ["c1", "c2"], .mfaLogin "ana" "c1" false,
    .mfaLogin "ana" digest false]

def twoLinks : List Call :=
  [.issue .reset "ana" "t1", .issue .reset "ana" "t2"]

/-- Both requests read before either of them commits. -/
def confirmsOverlap : List (Label ℕ) :=
  mailed 0 ++ [.commit 0] ++ mailed 1 ++ mailed 2 ++ [.commit 1, .commit 2]

def loginsOverlap : List (Label ℕ) :=
  [.read 0, .commit 0, .read 1, .read 2, .commit 1, .commit 2]

def linksOverlap : List (Label ℕ) :=
  mailed 0 ++ mailed 1 ++ [.commit 0, .commit 1]

/-- Either part of the law fails where two requests overlap: a link of either kind is
accepted twice, and so is a code; the codes that the second login has read come back;
and two links live. -/
theorem credentials_usedTwice :
    (∀ kind, ¬∀ state, (system (callOf (twoConfirms kind)) hour).Reachable state →
      state.redeemed.Nodup) ∧
    (¬∀ state, (system (callOf (twoLogins "c1")) hour).Reachable state →
      state.consumed.Nodup) ∧
    (¬∀ state, (system (callOf (twoLogins "c2")) hour).Reachable state →
      ∀ user digest, (user, digest) ∈ state.consumed →
        digest ∉ (state.account user).codes) ∧
    ¬∀ state, (system (callOf twoLinks) hour).Reachable state → UsedOnce state := by
  refine ⟨?_, ?_, ?_, ?_⟩
  · intro kind once
    cases kind with
    | reset =>
        have reached : (system (callOf (twoConfirms .reset)) hour).Reachable
            (requestsRun (twoConfirms .reset) confirmsOverlap) :=
          TransitionSystem.reachable_of_exec confirmsOverlap fresh_initial rfl
        exact absurd (once _ reached) (by decide)
    | verification =>
        have reached : (system (callOf (twoConfirms .verification)) hour).Reachable
            (requestsRun (twoConfirms .verification) confirmsOverlap) :=
          TransitionSystem.reachable_of_exec confirmsOverlap fresh_initial rfl
        exact absurd (once _ reached) (by decide)
  · intro once
    have reached : (system (callOf (twoLogins "c1")) hour).Reachable
        (requestsRun (twoLogins "c1") loginsOverlap) :=
      TransitionSystem.reachable_of_exec loginsOverlap fresh_initial rfl
    exact absurd (once _ reached) (by decide)
  · intro gone
    have reached : (system (callOf (twoLogins "c2")) hour).Reachable
        (requestsRun (twoLogins "c2") loginsOverlap) :=
      TransitionSystem.reachable_of_exec loginsOverlap fresh_initial rfl
    have isConsumed : ("ana", "c1") ∈
        (requestsRun (twoLogins "c2") loginsOverlap).consumed := by
      decide
    exact absurd (gone _ reached "ana" "c1" isConsumed) (by decide)
  · intro once
    have reached : (system (callOf twoLinks) hour).Reachable
        (requestsRun twoLinks linksOverlap) :=
      TransitionSystem.reachable_of_exec linksOverlap fresh_initial rfl
    have same : "t1" = "t2" :=
      (once _ reached).live "t1" "t2" ⟨"ana", 3600, false⟩ ⟨"ana", 3600, false⟩
        rfl rfl rfl rfl rfl (by decide) (by decide)
    exact absurd same (by decide)

end DbBuddy.Auth.SingleUse
