import DbBuddy.Cli.Session

/-!
# A command line that holds a key

While the key stands and its owner is active, every command is answered: for the account
of a token that still works, and for the owner of the key otherwise.
-/

namespace DbBuddy.Cli

open DbBuddy.Library
open DbBuddy.Auth
open DbBuddy.Auth.SignIn (Stands Drawn plaintext hashApiKey issuePair step_effect
  step_account getCurrentUser_eq_ok exchangeKey_live)
open DbBuddy.Publishing (HttpError check ok_bind bind_eq_ok check_eq_ok found_eq_ok
  bind_ne_error check_ne_error found_ne_error)

variable {env : SignIn.Environment} {envKey : Option Text} {net : Network}
  {world after : World} {session : Session} {id owner : String}
  {tokenPrefix secret : Text}

/-! ## The backend's side -/

/-- The key opens sessions of its owner. -/
structure Served (env : SignIn.Environment) (server : SignIn.State) (id owner : String)
    (tokenPrefix secret : Text) : Prop where
  stands : Stands server id
    ⟨owner, tokenPrefix, hashApiKey env (plaintext tokenPrefix secret), false⟩
  active : ∃ account, server.accounts.lookup owner = some account ∧
    account.isActive = true

/-- What leaves a key working. -/
def Leaves (owner id : String) (label : SignIn.Label) : Prop :=
  SignIn.Spares owner id label ∧ label ≠ .setActive owner false

theorem Served.step {server served : SignIn.State} {label : SignIn.Label}
    (holds : Served env server id owner tokenPrefix secret) (leaves : Leaves owner id label)
    (stepped : SignIn.step env server label = some served) :
    Served env served id owner tokenPrefix secret := by
  refine ⟨?_, ?_⟩
  · rcases holds.stands.step leaves.1.1 stepped with remains | ⟨other, isLabel, _⟩
    · exact remains
    · exact absurd isLabel (leaves.1.2 other)
  · obtain ⟨account, isAccount, isActive⟩ := holds.active
    cases (step_effect stepped).accounts owner with
    | same isSame =>
        exact ⟨account, isSame.trans isAccount, isActive⟩
    | deleted isDeletion _ =>
        exact absurd isDeletion leaves.1.1
    | created isFresh =>
        cases (SignIn.lookup_of_fresh isFresh).symm.trans isAccount
    | evolved old new isOld isNew evolves =>
        cases isOld.symm.trans isAccount
        exact ⟨new, isNew, (evolves.active isActive).resolve_right leaves.2⟩

/-- Requests that take nothing away from any account or key. -/
def Harmless : SignIn.Label → Prop
  | .deleteAccount _ | .revokeKey _ _ | .setActive _ _ => False
  | _ => True

theorem Harmless.leaves {label : SignIn.Label} (harmless : Harmless label) :
    Leaves owner id label := by
  refine ⟨⟨?_, ?_⟩, ?_⟩
  · intro same
    rw [same] at harmless
    exact harmless
  · intro session same
    rw [same] at harmless
    exact harmless
  · intro same
    rw [same] at harmless
    exact harmless

/-! ## What a command does to the backend and the file -/

/-- The backend has gone on by harmless requests, the next session has the same key, and
one from the environment was not written. -/
structure Progress (env : SignIn.Environment) (envKey : Option Text)
    (world after : World) : Prop where
  server : (SignIn.system env).Reaches (fun _ label => Harmless label) world.server
    after.server
  key : (load envKey after.file).apiKey = (load envKey world.file).apiKey
  unwritten : (truthy envKey).isSome = true → after.file.apiKey = world.file.apiKey

theorem Progress.refl : Progress env envKey world world :=
  ⟨.refl, rfl, fun _ => rfl⟩

theorem Progress.trans {last : World} (first : Progress env envKey world after)
    (second : Progress env envKey after last) : Progress env envKey world last :=
  ⟨first.server.trans second.server, second.key.trans first.key,
    fun given => (second.unwritten given).trans (first.unwritten given)⟩

/-- Writing the file keeps the key that a session is made with. -/
theorem load_persist {file : Credentials}
    (isKey : session.apiKey = (load envKey file).apiKey) :
    (load envKey (persist envKey session file)).apiKey = (load envKey file).apiKey := by
  simp only [load, persist] at isKey ⊢
  cases given : truthy envKey with
  | some key =>
      simp
  | none =>
      rw [given, Option.none_or] at isKey
      simp [isKey]

theorem persist_unwritten {file : Credentials} (given : (truthy envKey).isSome = true) :
    (persist envKey session file).apiKey = file.apiKey := by
  obtain ⟨key, isKey⟩ := Option.isSome_iff_exists.mp given
  simp [persist, isKey]

/-- A command up to the session it goes on with. -/
structure Kept (env : SignIn.Environment) (envKey : Option Text) (world : World)
    (result : World × Except Failure Session) : Prop where
  progress : Progress env envKey world result.1
  key : ∀ session, result.2 = .ok session →
    session.apiKey = (load envKey result.1.file).apiKey

theorem Kept.failed {failure : Failure} :
    Kept env envKey world (world, .error failure) :=
  ⟨.refl, fun _ isOk => nomatch isOk⟩

theorem adopt_kept {server : SignIn.State} {label : SignIn.Label}
    (stepped : SignIn.step env world.server label = some server)
    (harmless : Harmless label)
    (isKey : session.apiKey = (load envKey world.file).apiKey) :
    Kept env envKey world ((adopt envKey world server session).1,
      .ok (adopt envKey world server session).2) := by
  have adoptedKey : (adopt envKey world server session).2.apiKey =
      (load envKey world.file).apiKey := isKey
  have remains : (load envKey (adopt envKey world server session).1.file).apiKey =
      (load envKey world.file).apiKey := load_persist adoptedKey
  refine ⟨⟨TransitionSystem.Reaches.single label harmless stepped, remains,
    persist_unwritten⟩, ?_⟩
  intro adopted isOk
  cases isOk
  exact isKey.trans remains.symm

theorem exchangeApiKey_kept (isKey : session.apiKey = (load envKey world.file).apiKey) :
    Kept env envKey world (exchangeApiKey env envKey net world session) := by
  unfold exchangeApiKey
  split
  · cases exchanged : SignIn.exchangeKey env world.server (session.apiKey.getD []) with
    | error error =>
        exact .failed
    | ok server =>
        have stepped : SignIn.step env world.server
            (.exchangeKey (session.apiKey.getD [])) = some server := by
          rw [SignIn.step, exchanged]
          rfl
        exact adopt_kept stepped trivial isKey
  · exact .failed

theorem reexchange_kept {message : String}
    (isKey : session.apiKey = (load envKey world.file).apiKey) :
    Kept env envKey world (reexchange env envKey net world session message) := by
  unfold reexchange
  split
  · exact exchangeApiKey_kept isKey
  · exact .failed

theorem ensureToken_kept (isKey : session.apiKey = (load envKey world.file).apiKey) :
    Kept env envKey world (ensureToken env envKey net world session) := by
  unfold ensureToken
  split
  · refine ⟨.refl, ?_⟩
    intro same isOk
    cases isOk
    exact isKey
  · exact reexchange_kept isKey

theorem callRefresh_step {server : SignIn.State} {token : Token}
    (answered : callRefresh net world.server token = .ok server) :
    SignIn.step env world.server (.refresh token.pair false true) = some server := by
  obtain ⟨_, _, rest⟩ := bind_eq_ok answered
  obtain ⟨_, isIssued, rest⟩ := bind_eq_ok rest
  obtain ⟨_, _, done⟩ := bind_eq_ok rest
  rw [SignIn.step, if_pos (check_eq_ok isIssued), done]
  rfl

theorem refreshOrReexchange_kept
    (isKey : session.apiKey = (load envKey world.file).apiKey) :
    Kept env envKey world (refreshOrReexchange env envKey net world session) := by
  unfold refreshOrReexchange
  split
  next =>
    exact reexchange_kept isKey
  next token isToken =>
    split
    · cases answered : callRefresh net world.server token with
      | error error =>
          exact reexchange_kept isKey
      | ok server =>
          exact adopt_kept (callRefresh_step answered) trivial isKey
    · exact .failed

theorem raw_progress (isKey : session.apiKey = (load envKey world.file).apiKey) :
    Progress env envKey world (raw env envKey net world session).1 ∧
      ∀ next answer, (raw env envKey net world session).2 = .ok (next, answer) →
        next.apiKey = (load envKey (raw env envKey net world session).1.file).apiKey := by
  have kept : Kept env envKey world (ensureToken env envKey net world session) :=
    ensureToken_kept isKey
  unfold raw
  cases ensured : ensureToken env envKey net world session with
  | mk middle outcome =>
      rw [ensured] at kept
      cases outcome with
      | error failure =>
          exact ⟨kept.progress, fun _ _ isOk => nomatch isOk⟩
      | ok ready =>
          dsimp only
          split
          · refine ⟨kept.progress, ?_⟩
            intro next answer isOk
            cases isOk
            exact kept.key ready rfl
          · exact ⟨kept.progress, fun _ _ isOk => nomatch isOk⟩

theorem request_progress :
    Progress env envKey world (request env envKey net world).1 := by
  have isLoaded : (load envKey world.file).apiKey = (load envKey world.file).apiKey := rfl
  obtain ⟨first, keyed⟩ := @raw_progress env envKey net world (load envKey world.file)
    isLoaded
  unfold request
  cases answered : raw env envKey net world (load envKey world.file) with
  | mk middle outcome =>
      rw [answered] at first keyed
      rcases outcome with failure | ⟨session, error | account⟩
      · exact first
      · dsimp only
        split
        · have kept : Kept env envKey middle
              (refreshOrReexchange env envKey net middle session) :=
            refreshOrReexchange_kept (keyed session (.error error) rfl)
          cases refreshed : refreshOrReexchange env envKey net middle session with
          | mk later outcome =>
              rw [refreshed] at kept
              have second := first.trans kept.progress
              cases outcome with
              | error failure =>
                  exact second
              | ok ready =>
                  have third := (@raw_progress env envKey net later ready
                    (kept.key ready rfl)).1
                  dsimp only
                  split
                  next final _ isFinal =>
                    rw [isFinal] at third
                    exact second.trans third
                  next final _ _ isFinal =>
                    rw [isFinal] at third
                    exact second.trans third
        · exact first
      · exact first

theorem completeMfa_progress {user : String} {code : Text} {retryAfter : ℕ} {now : ℤ}
    (isChallenged : user ∈ world.server.challenges)
    (isKey : session.apiKey = (load envKey world.file).apiKey) :
    Progress env envKey world
      (completeMfa env envKey net world session user code retryAfter now).1 := by
  unfold completeMfa
  split
  · cases answered : SignIn.mfaLogin env world.server user code retryAfter now with
    | error error =>
        exact .refl
    | ok server =>
        have stepped : SignIn.step env world.server
            (.mfaLogin user code retryAfter now) = some server := by
          rw [SignIn.step, if_pos isChallenged, answered]
          rfl
        exact (adopt_kept stepped trivial isKey).progress
  · exact .refl

/-- A sign-in issues a challenge or a pair. -/
theorem login_cases {server signedIn : SignIn.State} {email password : Text}
    {rehashed : Option Text} {retryAfter : ℕ}
    (answered : SignIn.login env server email password rehashed retryAfter =
      .ok signedIn) :
    (∃ user, signedIn.challenges = user :: server.challenges) ∨
      ∃ pair, signedIn.pairs = pair :: server.pairs := by
  obtain ⟨_, _, rest⟩ := bind_eq_ok answered
  obtain ⟨⟨user, account⟩, _, rest⟩ := bind_eq_ok rest
  obtain ⟨_, _, rest⟩ := bind_eq_ok rest
  obtain ⟨_, _, rest⟩ := bind_eq_ok rest
  obtain ⟨_, _, rest⟩ := bind_eq_ok rest
  dsimp only at rest
  split at rest
  · cases rest
    exact Or.inl ⟨user, rfl⟩
  · cases rest
    exact Or.inr ⟨_, rfl⟩

theorem loginPassword_progress {email password code : Text} {rehashed : Option Text}
    {retryAfter codeRetryAfter : ℕ} {now : ℤ} :
    Progress env envKey world (loginPassword env envKey net world email password rehashed
      retryAfter code codeRetryAfter now).1 := by
  unfold loginPassword
  dsimp only
  split
  · cases answered : SignIn.login env world.server email password rehashed retryAfter with
    | error error =>
        exact .refl
    | ok server =>
        have stepped : SignIn.step env world.server
            (.login email password rehashed retryAfter) = some server := by
          rw [SignIn.step, answered]
          rfl
        dsimp only
        split
        next isChallenge =>
          have signedIn : Progress env envKey world { world with server := server } :=
            ⟨TransitionSystem.Reaches.single
              (.login email password rehashed retryAfter) trivial stepped, rfl,
              fun _ => rfl⟩
          refine signedIn.trans (completeMfa_progress ?_ rfl)
          rcases login_cases answered with ⟨user, isUser⟩ | ⟨pair, isPair⟩
          · dsimp only
            rw [isUser]
            exact List.mem_cons_self
          · rw [isPair, List.length_cons] at isChallenge
            omega
        next =>
          exact (adopt_kept stepped trivial rfl).progress
  · exact .refl

/-! ## What a command is answered -/

theorem callAuthorized_issued {server : SignIn.State} {pair : SignIn.Pair} {serial : ℕ}
    {account : SignIn.Account} (isIssued : pair ∈ server.pairs)
    (isTimely : net.accessExpired ≤ serial)
    (isAccount : server.accounts.lookup pair.user = some account)
    (isActive : account.isActive = true)
    (isCurrent : pair.tokenVersion = account.tokenVersion) :
    callAuthorized net server (some ⟨pair, serial⟩) = .ok account := by
  simp only [callAuthorized, check, isIssued, isTimely, if_true, ok_bind,
    SignIn.getCurrentUser, isAccount, Publishing.found, isActive, isCurrent]
  rfl

/-- The pair that was just issued works. -/
theorem adopt_answers {before : SignIn.State} {user : String} {account : SignIn.Account}
    {amr : Option (List String)} (timely : Timely net world)
    (isAccount : before.accounts.lookup user = some account)
    (isActive : account.isActive = true) :
    callAuthorized net (issuePair before user account amr)
      (adopt envKey world (issuePair before user account amr) session).2.accessToken =
        .ok account :=
  callAuthorized_issued List.mem_cons_self timely.1 isAccount isActive rfl

theorem callAuthorized_error {server : SignIn.State} {token : Option Token}
    {error : HttpError} (failed : callAuthorized net server token = .error error) :
    error.status = 401 := by
  by_contra otherStatus
  have different : ∀ detail, (⟨401, detail⟩ : HttpError) ≠ error := by
    intro detail same
    exact otherStatus (congrArg HttpError.status same.symm)
  revert failed
  cases token with
  | none =>
      intro same
      cases same
      exact otherStatus rfl
  | some token =>
      refine bind_ne_error (check_ne_error (different _)) fun _ _ => ?_
      refine bind_ne_error (check_ne_error (different _)) fun _ _ => ?_
      refine bind_ne_error (found_ne_error (different _)) fun _ _ => ?_
      refine bind_ne_error (check_ne_error (different _)) fun _ _ => ?_
      refine bind_ne_error (check_ne_error (different _)) fun _ _ => ?_
      exact fun same => nomatch same

/-- A call that goes through is for the account of its token. -/
theorem callAuthorized_eq_ok {server : SignIn.State} {token : Token}
    {account : SignIn.Account}
    (answered : callAuthorized net server (some token) = .ok account) :
    server.accounts.lookup token.pair.user = some account := by
  obtain ⟨_, _, rest⟩ := bind_eq_ok answered
  obtain ⟨_, _, rest⟩ := bind_eq_ok rest
  exact (getCurrentUser_eq_ok rest).1

/-- A refresh that goes through issues a pair for the account of its token. -/
theorem callRefresh_eq_ok {server refreshed : SignIn.State} {token : Token}
    (answered : callRefresh net server token = .ok refreshed) :
    ∃ account, server.accounts.lookup token.pair.user = some account ∧
      account.isActive = true ∧
      refreshed = issuePair server token.pair.user account none := by
  obtain ⟨_, _, rest⟩ := bind_eq_ok answered
  obtain ⟨_, _, rest⟩ := bind_eq_ok rest
  obtain ⟨_, _, rest⟩ := bind_eq_ok rest
  obtain ⟨_, _, rest⟩ := bind_eq_ok rest
  obtain ⟨account, isAccount, rest⟩ := bind_eq_ok rest
  obtain ⟨_, isActive, rest⟩ := bind_eq_ok rest
  obtain ⟨_, _, done⟩ := bind_eq_ok rest
  cases done
  exact ⟨account, found_eq_ok isAccount, check_eq_ok isActive, rfl⟩

/-- The account that a command runs for: of the first token that works, or of the key.
A refresh token is tried only where there is an access token. -/
def actingUser (net : Network) (world : World) (owner : String) : String :=
  match world.file.accessToken with
  | none => owner
  | some token =>
      if (callAuthorized net world.server (some token)).isOk then token.pair.user
      else match world.file.refreshToken with
        | none => owner
        | some token =>
            if (callRefresh net world.server token).isOk then token.pair.user else owner

/-- A session that a call of the user goes out from and comes back to. -/
structure Ready (net : Network) (result : World × Except Failure Session)
    (user : String) (account : SignIn.Account) : Prop where
  row : result.1.server.accounts.lookup user = some account
  opens : ∃ session, result.2 = .ok session ∧ session.accessToken.isSome = true ∧
    callAuthorized net result.1.server session.accessToken = .ok account

theorem raw_of_token (isUp : net.isUp = true) (isToken : session.accessToken.isSome = true) :
    raw env envKey net world session =
      (world, .ok (session, callAuthorized net world.server session.accessToken)) := by
  simp only [raw, ensureToken, isToken, if_true, isUp]

theorem adopt_ready {user : String} {account : SignIn.Account} {amr : Option (List String)}
    (timely : Timely net world)
    (isAccount : world.server.accounts.lookup user = some account)
    (isActive : account.isActive = true) :
    Ready net ((adopt envKey world (issuePair world.server user account amr) session).1,
      .ok (adopt envKey world (issuePair world.server user account amr) session).2)
      user account :=
  ⟨isAccount, _, rfl, rfl, adopt_answers timely isAccount isActive⟩

theorem reexchange_ready {message : String} (drawn : Drawn tokenPrefix secret)
    (served : Served env world.server id owner tokenPrefix secret)
    (isKey : session.apiKey = some (plaintext tokenPrefix secret))
    (isUp : net.isUp = true) (timely : Timely net world) :
    ∃ account, Ready net (reexchange env envKey net world session message) owner
      account := by
  obtain ⟨account, isAccount, isActive⟩ := served.active
  have exchanged := exchangeKey_live drawn served.stands.distinct served.stands.row
    isAccount
  rw [isActive, if_pos rfl] at exchanged
  have given : (truthy session.apiKey).isSome = true := by
    rw [isKey]
    rfl
  refine ⟨account, ?_⟩
  rw [reexchange, if_pos given, exchangeApiKey, if_pos isUp, isKey, Option.getD_some,
    exchanged]
  exact adopt_ready timely isAccount isActive

/-- What the command comes back with. -/
def AnsweredFor (result : World × Except Failure (Except HttpError SignIn.Account))
    (user : String) : Prop :=
  ∃ account, result.2 = .ok (.ok account) ∧
    result.1.server.accounts.lookup user = some account

/-- The token of the file is refused, and the session is renewed. -/
theorem request_renewed {token : Token} {error : HttpError} {user : String}
    {account : SignIn.Account} (isUp : net.isUp = true)
    (isToken : world.file.accessToken = some token)
    (refused : callAuthorized net world.server (some token) = .error error)
    (ready : Ready net (refreshOrReexchange env envKey net world (load envKey world.file))
      user account) : AnsweredFor (request env envKey net world) user := by
  have isLoaded : (load envKey world.file).accessToken = some token := isToken
  have isSome : (load envKey world.file).accessToken.isSome = true := by
    rw [isLoaded]
    rfl
  obtain ⟨isAccount, session, isOk, hasToken, answers⟩ := ready
  cases renewed : refreshOrReexchange env envKey net world (load envKey world.file) with
  | mk later outcome =>
      rw [renewed] at isAccount isOk answers
      dsimp only at isOk
      subst isOk
      have isAnswered : request env envKey net world = (later, .ok (.ok account)) := by
        simp only [request, raw_of_token isUp isSome, isLoaded, refused, renewed,
          callAuthorized_error refused, if_true, raw_of_token isUp hasToken, answers]
      refine ⟨account, congrArg Prod.snd isAnswered, ?_⟩
      rw [isAnswered]
      exact isAccount

theorem refreshOrReexchange_ready {user : String} (drawn : Drawn tokenPrefix secret)
    (served : Served env world.server id owner tokenPrefix secret)
    (isKey : session.apiKey = some (plaintext tokenPrefix secret))
    (isUp : net.isUp = true) (timely : Timely net world)
    (isUser : user = match session.refreshToken with
      | none => owner
      | some token =>
          if (callRefresh net world.server token).isOk then token.pair.user else owner) :
    ∃ account, Ready net (refreshOrReexchange env envKey net world session) user
      account := by
  rw [isUser, refreshOrReexchange]
  cases session.refreshToken with
  | none =>
      exact reexchange_ready drawn served isKey isUp timely
  | some token =>
      cases refreshed : callRefresh net world.server token with
      | error error =>
          simp only [refreshed, isUp, if_true, Except.isOk, Except.toBool,
            Bool.false_eq_true, if_false]
          exact reexchange_ready drawn served isKey isUp timely
      | ok server =>
          obtain ⟨account, isAccount, isActive, isIssued⟩ := callRefresh_eq_ok refreshed
          simp only [refreshed, isUp, if_true, Except.isOk, Except.toBool]
          rw [isIssued]
          exact ⟨account, adopt_ready timely isAccount isActive⟩

/-- With a standing key a command is answered. -/
theorem request_answered (drawn : Drawn tokenPrefix secret)
    (served : Served env world.server id owner tokenPrefix secret)
    (held : (load envKey world.file).apiKey = some (plaintext tokenPrefix secret))
    (isUp : net.isUp = true) (timely : Timely net world) :
    AnsweredFor (request env envKey net world) (actingUser net world owner) := by
  cases isToken : world.file.accessToken with
  | none =>
      have acts : actingUser net world owner = owner := by
        rw [actingUser, isToken]
      have noToken : (load envKey world.file).accessToken.isSome = false := by
        rw [load, isToken]
        rfl
      have renews : ∃ account, Ready net
          (reexchange env envKey net world (load envKey world.file) notLoggedIn) owner
          account := reexchange_ready drawn served held isUp timely
      obtain ⟨account, isAccount, session, isOk, _, answers⟩ := renews
      rw [acts]
      cases renewed : reexchange env envKey net world (load envKey world.file)
          notLoggedIn with
      | mk later outcome =>
          rw [renewed] at isAccount isOk answers
          dsimp only at isOk
          subst isOk
          have isAnswered : request env envKey net world = (later, .ok (.ok account)) := by
            simp only [request, raw, ensureToken, noToken, Bool.false_eq_true, if_false,
              renewed, isUp, if_true, answers]
          refine ⟨account, congrArg Prod.snd isAnswered, ?_⟩
          rw [isAnswered]
          exact isAccount
  | some token =>
      have isLoaded : (load envKey world.file).accessToken = some token := isToken
      cases answered : callAuthorized net world.server (some token) with
      | ok account =>
          have acts : actingUser net world owner = token.pair.user := by
            simp only [actingUser, isToken, answered, Except.isOk, Except.toBool, if_true]
          have isSome : (load envKey world.file).accessToken.isSome = true := by
            rw [isLoaded]
            rfl
          have isAnswered : request env envKey net world = (world, .ok (.ok account)) := by
            simp only [request, raw_of_token isUp isSome, isLoaded, answered]
          rw [acts]
          refine ⟨account, congrArg Prod.snd isAnswered, ?_⟩
          rw [isAnswered]
          exact callAuthorized_eq_ok answered
      | error error =>
          have renews : ∃ account, Ready net
              (refreshOrReexchange env envKey net world (load envKey world.file))
              (actingUser net world owner) account := by
            apply refreshOrReexchange_ready drawn served held isUp timely
            simp only [actingUser, isToken, answered, Except.isOk, Except.toBool,
              Bool.false_eq_true, if_false, load]
          obtain ⟨account, ready⟩ := renews
          exact request_renewed isUp isToken answered ready

/-! ## Every run -/

/-- Neither is the key taken away, nor does the command line sign out or take another
key. -/
def Holds (owner id : String) : Label → Prop
  | .server label => Leaves owner id label
  | .logout _ | .loginApiKey _ _ => False
  | _ => True

structure Standing (env : SignIn.Environment) (envKey : Option Text) (world : World)
    (id owner : String) (tokenPrefix secret : Text) : Prop where
  served : Served env world.server id owner tokenPrefix secret
  held : (load envKey world.file).apiKey = some (plaintext tokenPrefix secret)

theorem Standing.progress (standing : Standing env envKey world id owner tokenPrefix secret)
    (progress : Progress env envKey world after) :
    Standing env envKey after id owner tokenPrefix secret where
  served := progress.server.preserves
    (fun server => Served env server id owner tokenPrefix secret)
    (fun _ _ _ served harmless stepped => served.step harmless.leaves stepped)
    standing.served
  held := progress.key.trans standing.held

theorem Standing.step {label : Label}
    (standing : Standing env envKey world id owner tokenPrefix secret)
    (holds : Holds owner id label) (stepped : Cli.step env envKey world label = some after) :
    Standing env envKey after id owner tokenPrefix secret := by
  cases label with
  | server label =>
      obtain ⟨server, isStep, isAfter⟩ := Option.map_eq_some_iff.mp stepped
      subst isAfter
      exact ⟨standing.served.step holds isStep, standing.held⟩
  | request net =>
      obtain ⟨_, done⟩ := Option.ite_none_right_eq_some.mp stepped
      cases done
      exact standing.progress request_progress
  | loginApiKey net key =>
      exact False.elim holds
  | loginPassword net email password rehashed retryAfter code codeRetryAfter now =>
      obtain ⟨_, done⟩ := Option.ite_none_right_eq_some.mp stepped
      cases done
      exact standing.progress loginPassword_progress
  | logout net =>
      exact False.elim holds

/-- A command line that holds a standing key stays signed in: whatever it and everyone
else request, sign-ins with other passwords included, a command that reaches the backend
is answered, for the account of a token that still works and else for the key's owner. -/
theorem standing_key_answers {source target : World} (drawn : Drawn tokenPrefix secret)
    (standing : Standing env envKey source id owner tokenPrefix secret)
    (run : (system env envKey).Reaches (fun _ label => Holds owner id label) source target)
    (isUp : net.isUp = true) (timely : Timely net target) :
    AnsweredFor (request env envKey net target) (actingUser net target owner) := by
  have kept := run.preserves
    (fun world => Standing env envKey world id owner tokenPrefix secret)
    (fun _ _ _ standing holds stepped => standing.step holds stepped) standing
  exact request_answered drawn kept.served kept.held isUp timely

/-! Ann signs the command line in with her key, and signs out in the browser. -/

def reached : Network := ⟨true, 0, 0, false⟩

def signedIn : World :=
  (loginApiKey (SignIn.desk false) none reached ⟨SignIn.keyed, ⟨none, none, none⟩⟩
    (plaintext ['7'] ['z'])).1

def signedOut : World :=
  ((system (SignIn.desk false) none).exec signedIn
    [.server (.logout SignIn.annsSession)]).getD signedIn

theorem standing_key_answers_signedOut :
    (callAuthorized reached signedOut.server signedOut.file.accessToken).isOk = false ∧
      AnsweredFor (request (SignIn.desk false) none reached signedOut) "ann" := by
  have drawn : Drawn ['7'] ['z'] :=
    ⟨by decide, by decide, fun _ isIn => List.mem_singleton.mp isIn ▸ rfl,
      fun _ isIn => List.mem_singleton.mp isIn ▸ rfl⟩
  have isKeyed : (SignIn.system (SignIn.desk false)).exec SignIn.unused
      [.register "ann" ['a'] ['#', 'p'] "link" 0 0,
        .createKey SignIn.annsSession "key" ['7'] ['z']] = some SignIn.keyed := rfl
  have reachable : (SignIn.system (SignIn.desk false)).Reachable SignIn.keyed :=
    TransitionSystem.reachable_of_exec _ ⟨rfl, rfl, rfl⟩ isKeyed
  have stands : Stands signedIn.server "key"
      ⟨"ann", ['7'], hashApiKey (SignIn.desk false) (plaintext ['7'] ['z']), false⟩ :=
    ⟨rfl, ⟨_, rfl⟩, @SignIn.distinct_of_reachable _ SignIn.keyed reachable⟩
  have standing : Standing (SignIn.desk false) none signedIn "key" "ann" ['7'] ['z'] :=
    ⟨⟨stands, _, rfl, rfl⟩, rfl⟩
  have run : (system (SignIn.desk false) none).Reaches (fun _ label => Holds "ann" "key" label)
      signedIn signedOut :=
    TransitionSystem.Reaches.single (.server (.logout SignIn.annsSession))
      ⟨⟨SignIn.Label.noConfusion, fun _ => SignIn.Label.noConfusion⟩,
        SignIn.Label.noConfusion⟩ rfl
  have timely : Timely reached signedOut := ⟨Nat.zero_le _, Nat.zero_le _⟩
  exact ⟨rfl, standing_key_answers drawn standing run rfl timely⟩

theorem step_unwritten {label : Label} (given : (truthy envKey).isSome = true)
    (stepped : Cli.step env envKey world label = some after) :
    after.file.apiKey = world.file.apiKey ∨ after.file.apiKey = none := by
  cases label with
  | server label =>
      obtain ⟨server, _, isAfter⟩ := Option.map_eq_some_iff.mp stepped
      subst isAfter
      exact Or.inl rfl
  | request net =>
      obtain ⟨_, done⟩ := Option.ite_none_right_eq_some.mp stepped
      cases done
      exact Or.inl (request_progress.unwritten given)
  | loginApiKey net key =>
      obtain ⟨_, done⟩ := Option.ite_none_right_eq_some.mp stepped
      cases done
      apply Or.inl
      unfold loginApiKey exchangeApiKey
      split
      · split
        · rfl
        · exact persist_unwritten given
      · rfl
  | loginPassword net email password rehashed retryAfter code codeRetryAfter now =>
      obtain ⟨_, done⟩ := Option.ite_none_right_eq_some.mp stepped
      cases done
      exact Or.inl (loginPassword_progress.unwritten given)
  | logout net =>
      obtain ⟨_, done⟩ := Option.ite_none_right_eq_some.mp stepped
      cases done
      exact Or.inr rfl

/-- A key from the environment is never written: in any run the file has the key that
was in it, or none. -/
theorem environment_key_unwritten {source target : World}
    (given : (truthy envKey).isSome = true)
    (run : (system env envKey).Reaches (fun _ _ => True) source target) :
    target.file.apiKey = source.file.apiKey ∨ target.file.apiKey = none :=
  run.preserves
    (fun world => world.file.apiKey = source.file.apiKey ∨ world.file.apiKey = none)
    (fun _ _ _ kept _ stepped => by
      rcases step_unwritten given stepped with same | gone
      · exact kept.imp same.trans same.trans
      · exact Or.inr gone) (Or.inl rfl)

/-- Another key is in the file than in the environment. -/
def olderKey : World :=
  ⟨SignIn.keyed, ⟨none, none, some ['o', 'l', 'd']⟩⟩

def environmentRun (labels : List Label) : World :=
  ((system (SignIn.desk false) (some (plaintext ['7'] ['z']))).exec olderKey labels).getD
    olderKey

/-- The key is exchanged and the tokens are written, and once more after a sign-out. -/
theorem environment_key_unwritten_exchanged :
    (environmentRun [.request reached]).file.accessToken.isSome = true ∧
      ((environmentRun [.request reached]).file.apiKey = some ['o', 'l', 'd'] ∨
        (environmentRun [.request reached]).file.apiKey = none) ∧
      (environmentRun [.request reached, .logout reached,
          .request reached]).file.accessToken.isSome = true ∧
      ((environmentRun [.request reached, .logout reached,
          .request reached]).file.apiKey = some ['o', 'l', 'd'] ∨
        (environmentRun [.request reached, .logout reached,
          .request reached]).file.apiKey = none) := by
  have given : (truthy (some (plaintext ['7'] ['z']))).isSome = true := rfl
  have run : ∀ labels, (system (SignIn.desk false) (some (plaintext ['7'] ['z']))).exec
      olderKey labels = some (environmentRun labels) →
      (system (SignIn.desk false) (some (plaintext ['7'] ['z']))).Reaches (fun _ _ => True)
        olderKey (environmentRun labels) :=
    fun labels executed => TransitionSystem.reaches_of_exec labels executed
  refine ⟨rfl, ?_, rfl, ?_⟩
  · exact environment_key_unwritten given (run _ rfl)
  · exact environment_key_unwritten given (run _ rfl)

end DbBuddy.Cli
