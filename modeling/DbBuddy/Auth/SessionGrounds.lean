import DbBuddy.Auth.SignIn

/-!
# What a session is issued for

Every request's effect on the tables that signing in looks at, with the grounds for
each pair that comes out of it.  From that: no session before the address is
confirmed, and none on a password alone where a second factor is on.
-/

namespace DbBuddy.Auth.SignIn

open DbBuddy.Library
open DbBuddy.Auth.SingleUse (Kind)
open DbBuddy.Publishing (HttpError Table check found bind_eq_ok check_eq_ok found_eq_ok
  toOption_eq_some)

variable {env : Environment} {state after source target : State} {label : Label}
  {user : String}

/-! ## Effects -/

/-- There is a pair that still is a session of the account. -/
def HasSession (state : State) (user : String) (account : Account) : Prop :=
  ∃ session ∈ state.pairs, session.user = user ∧
    session.tokenVersion = account.tokenVersion

/-- The request shows a current code or a recovery code that is left. -/
def ShowsFactor (env : Environment) (state : State) (user : String) : Label → Prop
  | .mfaLogin other code _ now => other = user ∧
      ∃ account secret, state.accounts.lookup user = some account ∧
        account.mfaSecret = some secret ∧
        (verifyTotp env secret code now = true ∨
          hashRecoveryCode env code ∈ account.recoveryCodes)
  | _ => False

/-- What a pair for the account is issued for. -/
inductive Grounds (env : Environment) (state : State) (label : Label) (user : String) :
    Prop where
  | registered (isOff : env.requireEmailVerification = false)
      (isFresh : freshAccount state user = true)
  | password (account : Account) (isAccount : state.accounts.lookup user = some account)
      (isConfirmed : env.requireEmailVerification = false ∨ account.emailVerified = true)
      (isSingle : account.mfaEnabled = false)
  | session (account : Account) (isAccount : state.accounts.lookup user = some account)
      (has : HasSession state user account)
  | secondFactor (account : Account)
      (isAccount : state.accounts.lookup user = some account)
      (isChallenged : user ∈ state.challenges) (shows : ShowsFactor env state user label)
  | apiKey (account : Account) (isAccount : state.accounts.lookup user = some account)
      (id : String) (key : ApiKey) (isKey : state.keys.lookup id = some key)
      (isOwner : key.user = user) (isLive : key.isRevoked = false)

/-- What a request makes of an account that stays. -/
structure Evolves (state : State) (label : Label) (user : String) (old new : Account) :
    Prop where
  active : old.isActive = true → new.isActive = true ∨ label = .setActive user false
  confirmed : old.emailVerified = true → new.emailVerified = true
  version : old.tokenVersion ≤ new.tokenVersion
  factor : old.mfaEnabled = true → new.mfaEnabled = true ∨ HasSession state user old

inductive AccountChange (state : State) (label : Label) (accounts : Table Account)
    (id : String) : Prop where
  | same (isSame : accounts.lookup id = state.accounts.lookup id)
  | deleted (isDeletion : label = .deleteAccount id)
      (isGone : accounts.lookup id = none)
  | created (isFresh : freshAccount state id = true)
  | evolved (old new : Account) (isOld : state.accounts.lookup id = some old)
      (isNew : accounts.lookup id = some new) (evolves : Evolves state label id old new)

inductive KeyChange (env : Environment) (state : State) (label : Label)
    (keys : Table ApiKey) : Prop where
  | same (isSame : keys = state.keys)
  | created (session : Pair) (id : String) (tokenPrefix secret : Text)
      (isLabel : label = .createKey session id tokenPrefix secret) (account : Account)
      (isAccount : state.accounts.lookup session.user = some account)
      (has : HasSession state session.user account)
      (isUnused : state.keys.lookup id = none)
      (isFree : (state.keys.first fun key => decide (key.tokenPrefix = tokenPrefix)).isSome =
        false)
      (isWritten : keys = state.keys.insert id
        ⟨session.user, tokenPrefix, hashApiKey env (plaintext tokenPrefix secret), false⟩)
  | revoked (session : Pair) (id : String) (key : ApiKey)
      (isLabel : label = .revokeKey session id)
      (isKey : state.keys.lookup id = some key) (isOwner : key.user = session.user)
      (isWritten : keys = state.keys.insert id { key with isRevoked := true })
  | removed (user : String) (isLabel : label = .deleteAccount user)
      (isKept : keys = state.keys.keepIf fun key => decide (key.user ≠ user))

structure Effect (env : Environment) (state : State) (label : Label) (after : State) :
    Prop where
  accounts : ∀ id, AccountChange state label after.accounts id
  pairs : ∀ pair ∈ after.pairs, pair ∈ state.pairs ∨
    (Grounds env state label pair.user ∧ ∃ account,
      after.accounts.lookup pair.user = some account)
  challenges : ∀ user ∈ after.challenges, user ∈ state.challenges ∨
    ∃ account, state.accounts.lookup user = some account ∧
      (env.requireEmailVerification = false ∨ account.emailVerified = true)
  keys : KeyChange env state label after.keys

/-- A key was there, and is not less revoked, or its owner has a session. -/
theorem KeyChange.origin {keys : Table ApiKey} {id : String} {key : ApiKey}
    (change : KeyChange env state label keys) (isKey : keys.lookup id = some key) :
    (∃ old, state.keys.lookup id = some old ∧ old.user = key.user ∧
        (old.isRevoked = true → key.isRevoked = true)) ∨
      ∃ account, state.accounts.lookup key.user = some account ∧
        HasSession state key.user account := by
  cases change with
  | same isSame =>
      rw [isSame] at isKey
      exact Or.inl ⟨key, isKey, rfl, fun isRevoked => isRevoked⟩
  | created session other tokenPrefix secret _ account isAccount has _ _ isWritten =>
      rw [isWritten] at isKey
      rcases OrderedDict.lookup_insert_cases isKey with ⟨_, isNew⟩ | ⟨_, isOld⟩
      · rw [isNew]
        exact Or.inr ⟨account, isAccount, has⟩
      · exact Or.inl ⟨key, isOld, rfl, fun isRevoked => isRevoked⟩
  | revoked session other old _ wasKey _ isWritten =>
      rw [isWritten] at isKey
      rcases OrderedDict.lookup_insert_cases isKey with ⟨isOther, isNew⟩ | ⟨_, isOld⟩
      · rw [isOther, isNew]
        exact Or.inl ⟨old, wasKey, rfl, fun _ => rfl⟩
      · exact Or.inl ⟨key, isOld, rfl, fun isRevoked => isRevoked⟩
  | removed user _ isKept =>
      rw [isKept] at isKey
      exact Or.inl ⟨key, (OrderedDict.lookup_keepIf isKey).1, rfl,
        fun isRevoked => isRevoked⟩

/-- Nothing but accounts and links changes. -/
theorem Effect.quiet (accounts : ∀ id, AccountChange state label after.accounts id)
    (pairs : after.pairs = state.pairs) (challenges : after.challenges = state.challenges)
    (keys : after.keys = state.keys) : Effect env state label after where
  accounts := accounts
  pairs := by
    intro pair isPair
    exact Or.inl (pairs ▸ isPair)
  challenges := by
    intro user isChallenged
    exact Or.inl (challenges ▸ isChallenged)
  keys := .same keys

/-- One pair is issued. -/
theorem Effect.issuing {account : Account} {amr : Option (List String)} {before : State}
    (accounts : ∀ id, AccountChange state label before.accounts id)
    (isAccount : before.accounts.lookup user = some account)
    (grounds : Grounds env state label user)
    (pairs : before.pairs = state.pairs) (challenges : before.challenges = state.challenges)
    (keys : before.keys = state.keys) :
    Effect env state label (issuePair before user account amr) where
  accounts := accounts
  pairs := by
    intro pair isPair
    rcases List.mem_cons.mp isPair with isNew | isOld
    · rw [isNew]
      exact Or.inr ⟨grounds, account, isAccount⟩
    · exact Or.inl (pairs ▸ isOld)
  challenges := by
    intro user isChallenged
    exact Or.inl (challenges ▸ isChallenged)
  keys := .same keys

theorem unchanged (id : String) : AccountChange state label state.accounts id :=
  .same rfl

theorem rewritten {old new : Account} (isOld : state.accounts.lookup user = some old)
    (evolves : Evolves state label user old new) (id : String) :
    AccountChange state label (state.accounts.insert user new) id := by
  by_cases isUser : id = user
  · subst id
    exact .evolved old new isOld (AList.lookup_insert _) evolves
  · exact .same (AList.lookup_insert_ne isUser)

theorem added {new : Account} (isFresh : freshAccount state user = true) (id : String) :
    AccountChange state label (state.accounts.insert user new) id := by
  by_cases isUser : id = user
  · subst id
    exact .created isFresh
  · exact .same (AList.lookup_insert_ne isUser)

/-! ## Each endpoint -/

/-- The account behind a session. -/
theorem getCurrentUser_eq_ok {session : Pair} {account : Account}
    (passed : getCurrentUser state session = .ok account) :
    state.accounts.lookup session.user = some account ∧ account.isActive = true ∧
      session.tokenVersion = account.tokenVersion := by
  obtain ⟨row, isRow, rest⟩ := bind_eq_ok passed
  obtain ⟨_, isActive, rest⟩ := bind_eq_ok rest
  obtain ⟨_, isCurrent, done⟩ := bind_eq_ok rest
  cases done
  exact ⟨found_eq_ok isRow, check_eq_ok isActive, check_eq_ok isCurrent⟩

theorem hasSession_of_getCurrentUser {session : Pair} {account : Account}
    (isIssued : session ∈ state.pairs)
    (passed : getCurrentUser state session = .ok account) :
    HasSession state session.user account :=
  ⟨session, isIssued, rfl, (getCurrentUser_eq_ok passed).2.2⟩

theorem effect_register {id token : String} {email passwordHash : Text} {retryAfter : ℕ}
    {now : ℤ} (isFresh : freshAccount state id = true)
    (ran : register env state id email passwordHash token retryAfter now = .ok after) :
    Effect env state label after := by
  obtain ⟨_, _, rest⟩ := bind_eq_ok ran
  obtain ⟨_, _, rest⟩ := bind_eq_ok rest
  obtain ⟨_, _, rest⟩ := bind_eq_ok rest
  split at rest
  next isOn =>
    cases rest
    exact .quiet (added isFresh) rfl rfl rfl
  next isOff =>
    cases rest
    exact .issuing (added isFresh) (AList.lookup_insert _)
      (.registered (Bool.eq_false_of_not_eq_true isOff) isFresh) rfl rfl rfl

theorem effect_createAccount {id : String} {email passwordHash : Text}
    (isFresh : freshAccount state id = true)
    (ran : createAccount env state id email passwordHash = .ok after) :
    Effect env state label after := by
  obtain ⟨_, _, done⟩ := bind_eq_ok ran
  cases done
  exact .quiet (added isFresh) rfl rfl rfl

theorem effect_login {email password : Text} {rehashed : Option Text} {retryAfter : ℕ}
    (ran : login env state email password rehashed retryAfter = .ok after) :
    Effect env state label after := by
  obtain ⟨_, _, rest⟩ := bind_eq_ok ran
  obtain ⟨⟨id, account⟩, isFound, rest⟩ := bind_eq_ok rest
  have isAccount := (OrderedDict.lookup_first (found_eq_ok isFound)).1
  obtain ⟨_, _, rest⟩ := bind_eq_ok rest
  obtain ⟨_, _, rest⟩ := bind_eq_ok rest
  obtain ⟨_, isVerified, rest⟩ := bind_eq_ok rest
  have isConfirmed := check_eq_ok isVerified
  have evolves : Evolves state label id account
      { account with passwordHash := rehashed.getD account.passwordHash } :=
    ⟨Or.inl, fun isTrue => isTrue, le_rfl, Or.inl⟩
  dsimp only at rest
  split at rest
  next isOn =>
    cases rest
    refine ⟨rewritten isAccount evolves, fun pair isPair => Or.inl isPair, ?_, .same rfl⟩
    intro user isChallenged
    rcases List.mem_cons.mp isChallenged with isNew | isOld
    · rw [isNew]
      exact Or.inr ⟨account, isAccount, isConfirmed⟩
    · exact Or.inl isOld
  next isOff =>
    cases rest
    exact .issuing (rewritten isAccount evolves) (AList.lookup_insert _)
      (.password account isAccount isConfirmed (Bool.eq_false_of_not_eq_true isOff))
      rfl rfl rfl

theorem effect_refresh {token : Pair} {fromCookie csrfOk : Bool}
    (isIssued : token ∈ state.pairs)
    (ran : refresh state token fromCookie csrfOk = .ok after) :
    Effect env state label after := by
  obtain ⟨_, _, rest⟩ := bind_eq_ok ran
  obtain ⟨account, isFound, rest⟩ := bind_eq_ok rest
  obtain ⟨_, _, rest⟩ := bind_eq_ok rest
  obtain ⟨_, isCurrent, done⟩ := bind_eq_ok rest
  cases done
  have isAccount := found_eq_ok isFound
  exact .issuing unchanged isAccount
    (.session account isAccount ⟨token, isIssued, rfl, check_eq_ok isCurrent⟩) rfl rfl rfl

/-- A request that a session sends and that writes the account behind it. -/
theorem effect_write {session : Pair} {account new : Account}
    (passed : getCurrentUser state session = .ok account)
    (evolves : Evolves state label session.user account new) :
    Effect env state label (writeAccount state session.user new) :=
  .quiet (rewritten (getCurrentUser_eq_ok passed).1 evolves) rfl rfl rfl

theorem effect_logout {session : Pair} (ran : logout state session = .ok after) :
    Effect env state label after := by
  obtain ⟨account, isAccount, done⟩ := bind_eq_ok ran
  cases done
  exact effect_write isAccount ⟨Or.inl, fun isTrue => isTrue, Nat.le_succ _, Or.inl⟩

theorem effect_mfaSetup {session : Pair} {secret : Text}
    (ran : mfaSetup state session secret = .ok after) : Effect env state label after := by
  obtain ⟨account, isAccount, rest⟩ := bind_eq_ok ran
  obtain ⟨_, _, done⟩ := bind_eq_ok rest
  cases done
  exact effect_write isAccount ⟨Or.inl, fun isTrue => isTrue, le_rfl, Or.inl⟩

theorem effect_mfaVerify {session : Pair} {code : Text} {codes : List Text} {now : ℤ}
    (ran : mfaVerify env state session code codes now = .ok after) :
    Effect env state label after := by
  obtain ⟨account, isAccount, rest⟩ := bind_eq_ok ran
  obtain ⟨_, _, rest⟩ := bind_eq_ok rest
  obtain ⟨secret, _, rest⟩ := bind_eq_ok rest
  obtain ⟨_, _, done⟩ := bind_eq_ok rest
  cases done
  exact effect_write isAccount ⟨Or.inl, fun isTrue => isTrue, le_rfl, fun _ => Or.inl rfl⟩

theorem effect_mfaLogin {id : String} {code : Text} {retryAfter : ℕ} {now : ℤ}
    (isChallenged : id ∈ state.challenges) (isLabel : label = .mfaLogin id code retryAfter now)
    (ran : mfaLogin env state id code retryAfter now = .ok after) :
    Effect env state label after := by
  obtain ⟨account, isFound, rest⟩ := bind_eq_ok ran
  obtain ⟨_, _, rest⟩ := bind_eq_ok rest
  obtain ⟨secret, isSecret, rest⟩ := bind_eq_ok rest
  obtain ⟨_, _, rest⟩ := bind_eq_ok rest
  have isAccount := found_eq_ok isFound
  split at rest
  next isCode =>
    cases rest
    have shows : ShowsFactor env state id label := by
      rw [isLabel]
      exact ⟨rfl, account, secret, isAccount, found_eq_ok isSecret, Or.inl isCode⟩
    exact .issuing unchanged isAccount
      (.secondFactor account isAccount isChallenged shows) rfl rfl rfl
  next =>
    obtain ⟨_, isLeft, done⟩ := bind_eq_ok rest
    cases done
    have shows : ShowsFactor env state id label := by
      rw [isLabel]
      exact ⟨rfl, account, secret, isAccount, found_eq_ok isSecret,
        Or.inr (check_eq_ok isLeft)⟩
    exact .issuing (rewritten isAccount ⟨Or.inl, fun isTrue => isTrue, le_rfl, Or.inl⟩)
      (AList.lookup_insert _) (.secondFactor account isAccount isChallenged shows)
      rfl rfl rfl

theorem effect_mfaDisable {session : Pair} {password code : Text} {now : ℤ}
    (isIssued : session ∈ state.pairs)
    (ran : mfaDisable env state session password code now = .ok after) :
    Effect env state label after := by
  obtain ⟨account, passed, rest⟩ := bind_eq_ok ran
  obtain ⟨_, _, rest⟩ := bind_eq_ok rest
  obtain ⟨_, _, done⟩ := bind_eq_ok rest
  cases done
  have isAccount := (getCurrentUser_eq_ok passed).1
  have has := hasSession_of_getCurrentUser isIssued passed
  exact .issuing
    (rewritten isAccount ⟨Or.inl, fun isTrue => isTrue, Nat.le_succ _, fun _ => Or.inr has⟩)
    (AList.lookup_insert _) (.session account isAccount has) rfl rfl rfl

theorem effect_requestLink {kind : Kind} {email : Text} {token : String} {retryAfter : ℕ}
    {now : ℤ} (ran : requestLink env state kind email token retryAfter now = .ok after) :
    Effect env state label after := by
  obtain ⟨_, _, rest⟩ := bind_eq_ok ran
  split at rest
  next =>
    cases rest
    exact .quiet unchanged rfl rfl rfl
  next =>
    split at rest
    next =>
      cases rest
      exact .quiet unchanged rfl rfl rfl
    next =>
      cases rest
      exact .quiet unchanged rfl rfl rfl

/-- Redeeming a link spends it, and finds its account. -/
theorem redeemLink_eq_ok {kind : Kind} {token id : String} {now : ℤ} {account : Account}
    (passed : redeemLink state kind token now = .ok (after, id, account)) :
    state.accounts.lookup id = some account ∧ ∃ tokens,
      after = { state with tokens := tokens } := by
  obtain ⟨row, _, rest⟩ := bind_eq_ok passed
  obtain ⟨_, _, rest⟩ := bind_eq_ok rest
  obtain ⟨_, _, rest⟩ := bind_eq_ok rest
  obtain ⟨found, isFound, rest⟩ := bind_eq_ok rest
  obtain ⟨_, _, done⟩ := bind_eq_ok rest
  cases done
  exact ⟨found_eq_ok isFound, _, rfl⟩

theorem effect_confirmPasswordReset {token : String} {passwordHash : Text} {now : ℤ}
    (ran : confirmPasswordReset state token passwordHash now = .ok after) :
    Effect env state label after := by
  obtain ⟨⟨redeemed, id, account⟩, isRedeemed, done⟩ := bind_eq_ok ran
  obtain ⟨isAccount, tokens, isSpent⟩ := redeemLink_eq_ok isRedeemed
  cases done
  subst isSpent
  exact .quiet (rewritten isAccount ⟨Or.inl, fun isTrue => isTrue, Nat.le_succ _, Or.inl⟩)
    rfl rfl rfl

theorem effect_confirmEmailVerification {token : String} {now : ℤ}
    (ran : confirmEmailVerification state token now = .ok after) :
    Effect env state label after := by
  obtain ⟨⟨redeemed, id, account⟩, isRedeemed, done⟩ := bind_eq_ok ran
  obtain ⟨isAccount, tokens, isSpent⟩ := redeemLink_eq_ok isRedeemed
  cases done
  subst isSpent
  exact .quiet (rewritten isAccount ⟨Or.inl, fun _ => rfl, le_rfl, Or.inl⟩) rfl rfl rfl

theorem effect_createKey {session : Pair} {id : String} {tokenPrefix secret : Text}
    (isIssued : session ∈ state.pairs) (isUnused : state.keys.lookup id = none)
    (ran : createKey env state session id tokenPrefix secret = .ok after) :
    Effect env state (.createKey session id tokenPrefix secret) after := by
  obtain ⟨account, passed, rest⟩ := bind_eq_ok ran
  obtain ⟨_, isFree, done⟩ := bind_eq_ok rest
  cases done
  exact ⟨unchanged, fun _ isPair => Or.inl isPair, fun _ isChallenged => Or.inl isChallenged,
    .created session id tokenPrefix secret rfl account (getCurrentUser_eq_ok passed).1
      (hasSession_of_getCurrentUser isIssued passed) isUnused (check_eq_ok isFree) rfl⟩

theorem effect_revokeKey {session : Pair} {id : String}
    (ran : revokeKey state session id = .ok after) :
    Effect env state (.revokeKey session id) after := by
  obtain ⟨_, _, rest⟩ := bind_eq_ok ran
  obtain ⟨key, isFound, rest⟩ := bind_eq_ok rest
  obtain ⟨_, isOwner, done⟩ := bind_eq_ok rest
  cases done
  exact ⟨unchanged, fun _ isPair => Or.inl isPair, fun _ isChallenged => Or.inl isChallenged,
    .revoked session id key rfl (found_eq_ok isFound) (check_eq_ok isOwner) rfl⟩

theorem effect_exchangeKey {token : Text}
    (ran : exchangeKey env state token = .ok after) : Effect env state label after := by
  obtain ⟨tokenPrefix, _, rest⟩ := bind_eq_ok ran
  obtain ⟨⟨id, key⟩, isFound, rest⟩ := bind_eq_ok rest
  obtain ⟨_, isLive, rest⟩ := bind_eq_ok rest
  obtain ⟨_, _, rest⟩ := bind_eq_ok rest
  obtain ⟨account, isRow, rest⟩ := bind_eq_ok rest
  obtain ⟨_, _, done⟩ := bind_eq_ok rest
  cases done
  have isAccount := found_eq_ok isRow
  exact .issuing unchanged isAccount
    (.apiKey account isAccount id key (OrderedDict.lookup_first (found_eq_ok isFound)).1
      rfl (check_eq_ok isLive)) rfl rfl rfl

theorem effect_setActive {id : String} {isActive : Bool} :
    Effect env state (.setActive id isActive) (setActive state id isActive) := by
  unfold setActive
  split
  next =>
    exact .quiet unchanged rfl rfl rfl
  next account isAccount =>
    have evolves : Evolves state (.setActive id isActive) id account
        { account with
          isActive := isActive
          tokenVersion := if account.isActive && !isActive then account.tokenVersion + 1
            else account.tokenVersion } := by
      refine ⟨?_, fun isTrue => isTrue, ?_, Or.inl⟩
      · intro _
        cases isActive with
        | true =>
            exact Or.inl rfl
        | false =>
            exact Or.inr rfl
      · dsimp only
        split
        · exact Nat.le_succ _
        · exact le_rfl
    exact .quiet (rewritten isAccount evolves) rfl rfl rfl

theorem effect_deleteAccount {id : String} :
    Effect env state (.deleteAccount id) (deleteAccount state id) := by
  refine ⟨?_, fun _ isPair => Or.inl isPair, fun _ isChallenged => Or.inl isChallenged,
    .removed id rfl rfl⟩
  intro other
  by_cases isDeleted : other = id
  · subst other
    exact .deleted rfl (AList.lookup_erase _ _)
  · exact .same (AList.lookup_erase_ne isDeleted)

/-- A new pair has its grounds, and an account changes only as the endpoints let it. -/
theorem step_effect (stepped : step env state label = some after) :
    Effect env state label after := by
  cases label with
  | register id email passwordHash token retryAfter now =>
      obtain ⟨isFresh, ran⟩ := Option.ite_none_right_eq_some.mp stepped
      exact effect_register isFresh (toOption_eq_some ran)
  | createAccount id email passwordHash =>
      obtain ⟨isFresh, ran⟩ := Option.ite_none_right_eq_some.mp stepped
      exact effect_createAccount isFresh (toOption_eq_some ran)
  | login email password rehashed retryAfter =>
      exact effect_login (toOption_eq_some stepped)
  | refresh token fromCookie csrfOk =>
      obtain ⟨isIssued, ran⟩ := Option.ite_none_right_eq_some.mp stepped
      exact effect_refresh isIssued (toOption_eq_some ran)
  | logout session =>
      obtain ⟨_, ran⟩ := Option.ite_none_right_eq_some.mp stepped
      exact effect_logout (toOption_eq_some ran)
  | mfaSetup session secret =>
      obtain ⟨_, ran⟩ := Option.ite_none_right_eq_some.mp stepped
      exact effect_mfaSetup (toOption_eq_some ran)
  | mfaVerify session code codes now =>
      obtain ⟨_, ran⟩ := Option.ite_none_right_eq_some.mp stepped
      exact effect_mfaVerify (toOption_eq_some ran)
  | mfaLogin id code retryAfter now =>
      obtain ⟨isChallenged, ran⟩ := Option.ite_none_right_eq_some.mp stepped
      exact effect_mfaLogin isChallenged rfl (toOption_eq_some ran)
  | mfaDisable session password code now =>
      obtain ⟨isIssued, ran⟩ := Option.ite_none_right_eq_some.mp stepped
      exact effect_mfaDisable isIssued (toOption_eq_some ran)
  | requestLink kind email token retryAfter now =>
      exact effect_requestLink (toOption_eq_some stepped)
  | confirmPasswordReset token passwordHash now =>
      exact effect_confirmPasswordReset (toOption_eq_some stepped)
  | confirmEmailVerification token now =>
      exact effect_confirmEmailVerification (toOption_eq_some stepped)
  | createKey session id tokenPrefix secret =>
      obtain ⟨⟨isIssued, isUnused⟩, ran⟩ := Option.ite_none_right_eq_some.mp stepped
      exact effect_createKey isIssued (Option.isNone_iff_eq_none.mp isUnused)
        (toOption_eq_some ran)
  | revokeKey session id =>
      obtain ⟨_, ran⟩ := Option.ite_none_right_eq_some.mp stepped
      exact effect_revokeKey (toOption_eq_some ran)
  | exchangeKey token =>
      exact effect_exchangeKey (toOption_eq_some stepped)
  | setActive id isActive =>
      cases stepped
      exact effect_setActive
  | deleteAccount id =>
      cases stepped
      exact effect_deleteAccount

/-! ## Confirmed addresses -/

/-- Something that opens a session of the account has been handed out. -/
def Admitted (state : State) (user : String) : Prop :=
  (∃ pair ∈ state.pairs, pair.user = user) ∨ user ∈ state.challenges ∨
    ∃ id key, state.keys.lookup id = some key ∧ key.user = user

theorem lookup_of_fresh (isFresh : freshAccount state user = true) :
    state.accounts.lookup user = none := by
  simp only [freshAccount, Bool.and_eq_true, Option.isNone_iff_eq_none] at isFresh
  exact isFresh.1.1.1

theorem not_admitted_of_fresh (isFresh : freshAccount state user = true) :
    ¬ Admitted state user := by
  simp only [freshAccount, Bool.and_eq_true, Option.isNone_iff_eq_none, List.all_eq_true,
    decide_eq_true_eq] at isFresh
  rintro (⟨pair, isPair, isUser⟩ | isChallenged | ⟨id, key, isKey, isUser⟩)
  · exact isFresh.1.1.2 pair isPair isUser
  · exact isFresh.1.2 user isChallenged rfl
  · have isOther := OrderedDict.first_eq_none isFresh.2 isKey
    rw [isUser] at isOther
    simp at isOther

def Confirmed (state : State) : Prop :=
  ∀ user account, Admitted state user → state.accounts.lookup user = some account →
    account.emailVerified = true

/-- Who is admitted had been, or has a confirmed address. -/
theorem admitted_before (enforced : env.requireEmailVerification = true)
    (effect : Effect env state label after) (admitted : Admitted after user) :
    Admitted state user ∨ ∃ account, state.accounts.lookup user = some account ∧
      account.emailVerified = true := by
  have isOn : ¬ env.requireEmailVerification = false := by
    rw [enforced]
    exact Bool.noConfusion
  rcases admitted with ⟨pair, isPair, isUser⟩ | isChallenged | ⟨id, key, isKey, isUser⟩
  · subst isUser
    rcases effect.pairs pair isPair with isOld | ⟨grounds, _⟩
    · exact Or.inl (Or.inl ⟨pair, isOld, rfl⟩)
    · cases grounds with
      | registered isOff _ =>
          exact absurd isOff isOn
      | password account isAccount isConfirmed _ =>
          exact Or.inr ⟨account, isAccount, isConfirmed.resolve_left isOn⟩
      | session account _ has =>
          obtain ⟨session, isIssued, isUser, _⟩ := has
          exact Or.inl (Or.inl ⟨session, isIssued, isUser⟩)
      | secondFactor account _ isChallenged _ =>
          exact Or.inl (Or.inr (Or.inl isChallenged))
      | apiKey account _ id key isKey isOwner _ =>
          exact Or.inl (Or.inr (Or.inr ⟨id, key, isKey, isOwner⟩))
  · rcases effect.challenges user isChallenged with isOld | ⟨account, isAccount, isConfirmed⟩
    · exact Or.inl (Or.inr (Or.inl isOld))
    · exact Or.inr ⟨account, isAccount, isConfirmed.resolve_left isOn⟩
  · subst isUser
    rcases effect.keys.origin isKey with ⟨old, isOld, isSame, _⟩ | ⟨account, _, has⟩
    · exact Or.inl (Or.inr (Or.inr ⟨id, old, isOld, isSame⟩))
    · obtain ⟨session, isIssued, isOwner, _⟩ := has
      exact Or.inl (Or.inl ⟨session, isIssued, isOwner⟩)

theorem step_confirmed (enforced : env.requireEmailVerification = true)
    (confirmed : Confirmed state) (stepped : step env state label = some after) :
    Confirmed after := by
  have effect := step_effect stepped
  intro user account admitted isAccount
  have before := admitted_before enforced effect admitted
  have cleared : ∀ old, state.accounts.lookup user = some old →
      old.emailVerified = true := by
    intro old isOld
    rcases before with wasAdmitted | ⟨other, isOther, isConfirmed⟩
    · exact confirmed user old wasAdmitted isOld
    · cases isOld.symm.trans isOther
      exact isConfirmed
  cases effect.accounts user with
  | same isSame =>
      exact cleared account (isSame ▸ isAccount)
  | deleted _ isGone =>
      cases isGone.symm.trans isAccount
  | created isFresh =>
      rcases before with wasAdmitted | ⟨other, isOther, _⟩
      · exact absurd wasAdmitted (not_admitted_of_fresh isFresh)
      · cases (lookup_of_fresh isFresh).symm.trans isOther
  | evolved old new isOld isNew evolves =>
      cases isNew.symm.trans isAccount
      exact evolves.confirmed (cleared old isOld)

/-- Where confirmation is required, whoever holds a session, a challenge or a key of an
account has confirmed its address, through registrations, second factors, refreshed
sessions, exchanged keys and whatever an admin does. -/
theorem confirmed_before_session (enforced : env.requireEmailVerification = true)
    (reachable : (system env).Reachable state) {account : Account}
    (admitted : Admitted state user)
    (isAccount : state.accounts.lookup user = some account) :
    account.emailVerified = true := by
  have confirmed := reachable.invariant Confirmed
    (fun start isInitial => by
      rintro user account (⟨pair, isPair, _⟩ | isChallenged | ⟨id, key, isKey, _⟩) _
      · rw [isInitial.1] at isPair
        exact absurd isPair List.not_mem_nil
      · rw [isInitial.2.1] at isChallenged
        exact absurd isChallenged List.not_mem_nil
      · rw [isInitial.2.2] at isKey
        cases isKey)
    (fun _ _ _ confirmed stepped => step_confirmed enforced confirmed stepped)
  exact confirmed user account admitted isAccount

/-- A server that stores passwords marked, where the code is the secret. -/
def desk (enforced : Bool) : Environment where
  lowercase := asciiLowercase
  verifyPassword stored password := decide (stored = '#' :: password)
  totp secret code _ := decide (secret = code)
  sha256 text := '%' :: text
  requireEmailVerification := enforced
  allowedDomains := []
  ttl _ := 100

def unused : State := ⟨∅, ∅, fun _ _ => none, [], []⟩

/-- Registering, following the link, and signing in. -/
def confirming : List Label :=
  [.register "ann" ['a'] ['#', 'p'] "link" 0 0, .confirmEmailVerification "link" 5,
    .login ['a'] ['p'] none 0]

def entered : State :=
  ((system (desk true)).exec unused confirming).getD unused

theorem confirmed_before_session_entered :
    Admitted entered "ann" ∧ ∃ account, entered.accounts.lookup "ann" = some account ∧
      account.emailVerified = true :=
  have admitted : Admitted entered "ann" := Or.inl ⟨_, List.mem_cons_self, rfl⟩
  ⟨admitted, _, rfl, confirmed_before_session rfl
    (TransitionSystem.reachable_of_exec confirming ⟨rfl, rfl, rfl⟩
      (TransitionSystem.exec_eq_getD rfl)) admitted rfl⟩

/-! ## Second factors -/

/-- A second factor is on, and nobody has a session or a key that works. -/
def Guarded (state : State) (user : String) : Prop :=
  ∃ account, state.accounts.lookup user = some account ∧ account.mfaEnabled = true ∧
    (∀ pair ∈ state.pairs, pair.user = user → pair.tokenVersion < account.tokenVersion) ∧
    ∀ id key, state.keys.lookup id = some key → key.user = user → key.isRevoked = true

theorem Guarded.not_hasSession {account : Account} (guarded : Guarded state user)
    (isAccount : state.accounts.lookup user = some account) :
    ¬ HasSession state user account := by
  rintro ⟨session, isIssued, isUser, isCurrent⟩
  obtain ⟨row, isRow, _, isStale, _⟩ := guarded
  cases isAccount.symm.trans isRow
  have isOlder := isStale session isIssued isUser
  omega

theorem Guarded.not_grounds (guarded : Guarded state user)
    (hidden : ¬ ShowsFactor env state user label) : ¬ Grounds env state label user := by
  have has := @guarded.not_hasSession
  obtain ⟨row, isRow, isOn, _, isRevoked⟩ := guarded
  intro grounds
  cases grounds with
  | registered _ isFresh =>
      cases (lookup_of_fresh isFresh).symm.trans isRow
  | password account isAccount _ isSingle =>
      cases isAccount.symm.trans isRow
      cases isSingle.symm.trans isOn
  | session account isAccount session =>
      exact has _ isAccount session
  | secondFactor account _ _ shows =>
      exact hidden shows
  | apiKey account _ id key isKey isOwner isLive =>
      cases isLive.symm.trans (isRevoked id key isKey isOwner)

theorem step_guarded (guarded : Guarded state user)
    (hidden : ¬ ShowsFactor env state user label) (stays : label ≠ .deleteAccount user)
    (stepped : step env state label = some after) :
    Guarded after user ∧ ∀ pair ∈ after.pairs, pair.user = user → pair ∈ state.pairs := by
  have effect := step_effect stepped
  have isOld : ∀ pair ∈ after.pairs, pair.user = user → pair ∈ state.pairs := by
    intro pair isPair isUser
    rcases effect.pairs pair isPair with isOld | ⟨grounds, _⟩
    · exact isOld
    · rw [isUser] at grounds
      exact absurd grounds (guarded.not_grounds hidden)
  refine ⟨?_, isOld⟩
  have has := @guarded.not_hasSession
  obtain ⟨row, isRow, isOn, isStale, isRevoked⟩ := guarded
  have revoked : ∀ id key, after.keys.lookup id = some key → key.user = user →
      key.isRevoked = true := by
    intro id key isKey isUser
    rcases effect.keys.origin isKey with
      ⟨old, wasKey, isSame, remains⟩ | ⟨account, isAccount, session⟩
    · exact remains (isRevoked id old wasKey (isSame.trans isUser))
    · rw [isUser] at isAccount session
      exact absurd session (has _ isAccount)
  cases effect.accounts user with
  | same isSame =>
      exact ⟨row, isSame.trans isRow, isOn,
        fun pair isPair isUser => isStale pair (isOld pair isPair isUser) isUser, revoked⟩
  | deleted isDeletion _ =>
      exact absurd isDeletion stays
  | created isFresh =>
      cases (lookup_of_fresh isFresh).symm.trans isRow
  | evolved old new wasOld isNew evolves =>
      cases wasOld.symm.trans isRow
      refine ⟨new, isNew, (evolves.factor isOn).resolve_right (has _ isRow), ?_, revoked⟩
      intro pair isPair isUser
      exact lt_of_lt_of_le (isStale pair (isOld pair isPair isUser) isUser) evolves.version

/-- While no current code and no recovery code is shown, no session of the account comes
up, whatever else anyone requests: with the password, with a reset one, with links from
its mailbox, with its challenges and revoked keys; and the factor stays on. -/
theorem second_factor_needed (guarded : Guarded source user)
    (run : (system env).Reaches (fun state label =>
      ¬ ShowsFactor env state user label ∧ label ≠ .deleteAccount user) source target) :
    (∀ pair ∈ target.pairs, pair.user = user → pair ∈ source.pairs) ∧
      Guarded target user := by
  have kept := run.preserves
    (fun state => Guarded state user ∧
      ∀ pair ∈ state.pairs, pair.user = user → pair ∈ source.pairs)
    (fun state label after kept allowed stepped => by
      obtain ⟨guarded, isOld⟩ := step_guarded kept.1 allowed.1 allowed.2 stepped
      refine ⟨guarded, ?_⟩
      intro pair isPair isUser
      exact kept.2 pair (isOld pair isPair isUser) isUser)
    ⟨guarded, fun pair isPair _ => isPair⟩
  exact ⟨kept.2, kept.1⟩

/-- Ann turns a second factor on and signs out. -/
def enrolling : List Label :=
  [.register "ann" ['a'] ['#', 'p'] "link" 0 0, .mfaSetup ⟨"ann", 0, ["pwd"]⟩ ['s'],
    .mfaVerify ⟨"ann", 0, ["pwd"]⟩ ['s'] [['r']] 1, .logout ⟨"ann", 0, ["pwd"]⟩]

/-- Someone else knows the password, and reads the mail. -/
def intruding : List Label :=
  [.login ['a'] ['p'] none 0, .requestLink .reset ['a'] "reset" 0 2,
    .confirmPasswordReset "reset" ['#', 'q'] 3, .login ['a'] ['q'] none 0]

def enrolled : State :=
  ((system (desk false)).exec unused enrolling).getD unused

def intruded : State :=
  ((system (desk false)).exec enrolled intruding).getD enrolled

theorem second_factor_needed_intruded :
    intruded.challenges = ["ann", "ann"] ∧
      ∀ pair ∈ intruded.pairs, pair.user = "ann" → pair ∈ enrolled.pairs := by
  have guarded : Guarded enrolled "ann" :=
    ⟨_, rfl, rfl, by decide, fun _ _ isKey => nomatch isKey⟩
  have allowed : ∀ label ∈ intruding, ∀ state,
      ¬ ShowsFactor (desk false) state "ann" label ∧ label ≠ .deleteAccount "ann" := by
    intro label isIn state
    simp only [intruding, List.mem_cons, List.not_mem_nil, or_false] at isIn
    rcases isIn with same | same | same | same <;> subst same <;>
      exact ⟨id, fun same => Label.noConfusion same⟩
  have run : (system (desk false)).Reaches _ enrolled intruded :=
    TransitionSystem.reaches_of_exec_allowed intruding allowed
      (TransitionSystem.exec_eq_getD rfl)
  exact ⟨rfl, (second_factor_needed guarded run).1⟩

end DbBuddy.Auth.SignIn
