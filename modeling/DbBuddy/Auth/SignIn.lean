import DbBuddy.Admin.Accounts
import DbBuddy.Auth.SingleUse
import DbBuddy.Publishing.Endpoints

/-!
# Signing in

Every endpoint that hands out a session, and those that change what signing in takes:
passwords, second factors, confirmed addresses and API keys.  Argon2, TOTP and SHA-256
are parameters; a token is what the server has signed, so a request can only bring
along one that was issued, and one that has expired is not used.  Secrets stand for
what they decrypt to, and links for their hashes.
-/

namespace DbBuddy.Auth.SignIn

open DbBuddy.Library
open DbBuddy.Admin (normalized emailDomain)
open DbBuddy.Auth.SingleUse (Kind TokenTable TokenRow outstanding markUsed)
open DbBuddy.Publishing (HttpError Table check found bind_eq_ok check_eq_ok
  found_eq_ok toOption_eq_some)

abbrev Text := List Char

structure Account where
  email : Text
  passwordHash : Text
  isActive : Bool
  emailVerified : Bool
  tokenVersion : ℕ
  mfaEnabled : Bool
  mfaSecret : Option Text
  recoveryCodes : List Text
  deriving DecidableEq, Repr

structure ApiKey where
  user : String
  tokenPrefix : Text
  tokenHash : Text
  isRevoked : Bool
  deriving DecidableEq, Repr

/-- The claims of a token pair. -/
structure Pair where
  user : String
  tokenVersion : ℕ
  amr : List String
  deriving DecidableEq, Repr

/-- The tables, and which pairs and challenges were issued. -/
structure State where
  accounts : Table Account
  keys : Table ApiKey
  tokens : Kind → TokenTable
  pairs : List Pair
  challenges : List String

/-- What is outside of the code, and the settings. -/
structure Environment where
  lowercase : Lowercase
  verifyPassword : Text → Text → Bool
  totp : Text → Text → ℤ → Bool
  sha256 : Text → Text
  requireEmailVerification : Bool
  allowedDomains : List Text
  ttl : Kind → ℤ

def verifyTotp (env : Environment) (secret code : Text) (now : ℤ) : Bool :=
  env.totp secret (strip code) now

def hashRecoveryCode (env : Environment) (code : Text) : Text :=
  env.sha256 (env.lowercase.text (strip code))

def hashApiKey (env : Environment) (token : Text) : Text :=
  env.sha256 (strip token)

/-! ## Sessions -/

/-- `get_current_user` on the claims of a token. -/
def getCurrentUser (state : State) (session : Pair) : Except HttpError Account := do
  let account ← found (state.accounts.lookup session.user)
    ⟨401, "User not found or inactive"⟩
  check (account.isActive = true) ⟨401, "User not found or inactive"⟩
  check (session.tokenVersion = account.tokenVersion)
    ⟨401, "Access token has been revoked"⟩
  return account

/-- `_issue_pair`; without methods the token says `pwd`. -/
def issuePair (state : State) (user : String) (account : Account)
    (amr : Option (List String)) : State :=
  { state with pairs := ⟨user, account.tokenVersion, amr.getD ["pwd"]⟩ :: state.pairs }

def writeAccount (state : State) (user : String) (account : Account) : State :=
  { state with accounts := state.accounts.insert user account }

/-- `_require_verified` -/
def requireVerified (env : Environment) (account : Account) : Except HttpError Unit :=
  check (env.requireEmailVerification = false ∨ account.emailVerified = true)
    ⟨403, "Confirm your email address before signing in. " ++
      "Check your inbox, or request a new link."⟩

def newAccount (email passwordHash : Text) : Account where
  email := email
  passwordHash := passwordHash
  isActive := true
  emailVerified := false
  tokenVersion := 0
  mfaEnabled := false
  mfaSecret := none
  recoveryCodes := []

/-- `_issue_verification`: the open links of the user are spent, and a new one is out. -/
def issueLink (env : Environment) (state : State) (kind : Kind) (user token : String)
    (now : ℤ) : State :=
  { state with
    tokens := Function.update state.tokens kind (Function.update
      (markUsed (state.tokens kind) (outstanding (state.tokens kind) user)) token
      (some ⟨user, now + env.ttl kind, false⟩)) }

section Endpoints

variable (env : Environment) (state : State)

def emailTaken (email : Text) : Bool :=
  (state.accounts.first fun account => decide (account.email = email)).isSome

def register (id : String) (email passwordHash : Text) (token : String) (retryAfter : ℕ)
    (now : ℤ) : Except HttpError State := do
  let email := normalized env.lowercase email
  check (retryAfter = 0) ⟨429, "Too many registration attempts. Try again later."⟩
  check (env.allowedDomains = [] ∨ emailDomain email ∈ env.allowedDomains)
    ⟨403, "Self-registration is not permitted for this email domain."⟩
  check (emailTaken state email = false)
    ⟨409, "An account with this email already exists."⟩
  let account := newAccount email passwordHash
  let state := issueLink env (writeAccount state id account) .verification id token now
  -- With verification enforced the answer is a 202 without a session.
  if env.requireEmailVerification then return state
  else return issuePair state id account none

/-- An account that an admin creates, or the start of the server. -/
def createAccount (id : String) (email passwordHash : Text) : Except HttpError State := do
  let email := normalized env.lowercase email
  check (emailTaken state email = false)
    ⟨409, "An account with this email already exists."⟩
  return writeAccount state id (newAccount email passwordHash)

def invalidPassword : HttpError := ⟨401, "Invalid email or password."⟩

/-- `login`; `rehashed` is the new hash if the one that is stored is out of date. -/
def login (email password : Text) (rehashed : Option Text) (retryAfter : ℕ) :
    Except HttpError State := do
  check (retryAfter = 0) ⟨429, "Too many failed sign-in attempts. Try again later."⟩
  let (user, account) ← found
    (state.accounts.first fun account =>
      decide (account.email = normalized env.lowercase email)) invalidPassword
  check (env.verifyPassword account.passwordHash password = true) invalidPassword
  check (account.isActive = true) invalidPassword
  requireVerified env account
  let account := { account with passwordHash := rehashed.getD account.passwordHash }
  let state := writeAccount state user account
  if account.mfaEnabled then return { state with challenges := user :: state.challenges }
  else return issuePair state user account (some ["pwd"])

/-- `refresh` with a refresh token of a pair; one from a cookie takes a CSRF check. -/
def refresh (token : Pair) (fromCookie csrfOk : Bool) : Except HttpError State := do
  check (fromCookie = false ∨ csrfOk = true) ⟨403, "Missing or invalid CSRF token."⟩
  let account ← found (state.accounts.lookup token.user)
    ⟨401, "User not found or inactive"⟩
  check (account.isActive = true) ⟨401, "User not found or inactive"⟩
  check (token.tokenVersion = account.tokenVersion)
    ⟨401, "Refresh token has been revoked"⟩
  return issuePair state token.user account none

def logout (session : Pair) : Except HttpError State := do
  let account ← getCurrentUser state session
  return writeAccount state session.user
    { account with tokenVersion := account.tokenVersion + 1 }

def mfaSetup (session : Pair) (secret : Text) : Except HttpError State := do
  let account ← getCurrentUser state session
  check (account.mfaEnabled = false)
    ⟨400, "MFA is already enabled. Disable it first to re-enroll."⟩
  return writeAccount state session.user { account with mfaSecret := some secret }

def mfaVerify (session : Pair) (code : Text) (codes : List Text) (now : ℤ) :
    Except HttpError State := do
  let account ← getCurrentUser state session
  check (account.mfaEnabled = false) ⟨400, "MFA is already enabled."⟩
  let secret ← found account.mfaSecret
    ⟨400, "Start enrollment with /auth/mfa/setup first."⟩
  check (verifyTotp env secret code now = true)
    ⟨400, "That code didn't match. Try again."⟩
  return writeAccount state session.user
    { account with
      mfaEnabled := true
      recoveryCodes := codes.map (hashRecoveryCode env) }

def mfaUnavailable : HttpError := ⟨401, "Verification is not available for this account."⟩

/-- `mfa_login` with a challenge for the user: a current code, or a recovery code. -/
def mfaLogin (user : String) (code : Text) (retryAfter : ℕ) (now : ℤ) :
    Except HttpError State := do
  let account ← found (state.accounts.lookup user) mfaUnavailable
  check (account.isActive = true ∧ account.mfaEnabled = true) mfaUnavailable
  let secret ← found account.mfaSecret mfaUnavailable
  check (retryAfter = 0) ⟨429, "Too many failed verification attempts. Try again later."⟩
  if verifyTotp env secret code now then
    return issuePair state user account (some ["pwd", "otp"])
  else
    check (hashRecoveryCode env code ∈ account.recoveryCodes)
      ⟨401, "That code didn't match."⟩
    let account := { account with
      recoveryCodes := account.recoveryCodes.erase (hashRecoveryCode env code) }
    return issuePair (writeAccount state user account) user account
      (some ["pwd", "recovery"])

/-- `mfa_disable`; a field that is left out is the empty text. -/
def mfaDisable (session : Pair) (password code : Text) (now : ℤ) :
    Except HttpError State := do
  let account ← getCurrentUser state session
  check (account.mfaEnabled = true) ⟨400, "MFA is not enabled."⟩
  check ((password ≠ [] ∧ env.verifyPassword account.passwordHash password = true) ∨
      (code ≠ [] ∧ account.mfaSecret.any
        (fun secret => verifyTotp env secret code now) = true))
    ⟨401, "Confirm your password or a current code to disable MFA."⟩
  let account := { account with
    mfaEnabled := false
    mfaSecret := none
    recoveryCodes := []
    tokenVersion := account.tokenVersion + 1 }
  return issuePair (writeAccount state session.user account) session.user account
    (some ["pwd"])

/-! Links by mail. -/

def tooManyRequests : Kind → HttpError
  | .reset => ⟨429, "Too many reset requests. Try again later."⟩
  | .verification => ⟨429, "Too many requests. Try again later."⟩

/-- `request_password_reset` and `request_email_verification`: an address without an
account the link is for gets the same answer. -/
def requestLink (kind : Kind) (email : Text) (token : String) (retryAfter : ℕ)
    (now : ℤ) : Except HttpError State := do
  check (retryAfter = 0) (tooManyRequests kind)
  match state.accounts.first fun account =>
      decide (account.email = normalized env.lowercase email) with
  | none => return state
  | some (user, account) =>
      if account.isActive && (decide (kind = .reset) || !account.emailVerified) then
        return issueLink env state kind user token now
      else return state

def invalidLink : Kind → HttpError
  | .reset => ⟨400, "That reset link is invalid or has expired."⟩
  | .verification => ⟨400, "That confirmation link is invalid or has expired."⟩

/-- `confirm_password_reset` and `confirm_email_verification` up to their effect. -/
def redeemLink (kind : Kind) (token : String) (now : ℤ) :
    Except HttpError (State × String × Account) := do
  let row ← found (state.tokens kind token) (invalidLink kind)
  check (row.used = false) (invalidLink kind)
  check (now < row.expiresAt) (invalidLink kind)
  let account ← found (state.accounts.lookup row.user) (invalidLink kind)
  check (account.isActive = true) (invalidLink kind)
  return ({ state with
    tokens := Function.update state.tokens kind
      (markUsed (state.tokens kind) fun other => decide (other = token)) },
    row.user, account)

def confirmPasswordReset (token : String) (passwordHash : Text) (now : ℤ) :
    Except HttpError State := do
  let (state, user, account) ← redeemLink state .reset token now
  return writeAccount state user
    { account with
      passwordHash := passwordHash
      tokenVersion := account.tokenVersion + 1 }

def confirmEmailVerification (token : String) (now : ℤ) : Except HttpError State := do
  let (state, user, account) ← redeemLink state .verification token now
  return writeAccount state user { account with emailVerified := true }

/-! API keys. -/

/-- `parse_api_key_prefix`: three parts about the first two underscores. -/
def parseApiKeyPrefix (token : Text) : Option Text :=
  let body := strip token
  match body.dropWhile (fun char => decide (char ≠ '_')) with
  | [] => none
  | _ :: rest =>
      match rest.dropWhile (fun char => decide (char ≠ '_')) with
      | [] => none
      | _ :: _ =>
          let tokenPrefix := rest.takeWhile fun char => decide (char ≠ '_')
          if body.takeWhile (fun char => decide (char ≠ '_')) = ['d', 'b', 'k'] ∧
            tokenPrefix ≠ [] then some tokenPrefix
          else none

/-- `generate_api_key`, given what is drawn. -/
def plaintext (tokenPrefix secret : Text) : Text :=
  ['d', 'b', 'k', '_'] ++ tokenPrefix ++ '_' :: secret

/-- `create_key`; a prefix that is taken violates the unique column. -/
def createKey (session : Pair) (id : String) (tokenPrefix secret : Text) :
    Except HttpError State := do
  let _ ← getCurrentUser state session
  check ((state.keys.first fun key => decide (key.tokenPrefix = tokenPrefix)).isSome =
    false) ⟨500, "Internal Server Error"⟩
  return { state with
    keys := state.keys.insert id
      ⟨session.user, tokenPrefix, hashApiKey env (plaintext tokenPrefix secret),
        false⟩ }

def revokeKey (session : Pair) (id : String) : Except HttpError State := do
  let _ ← getCurrentUser state session
  let key ← found (state.keys.lookup id) ⟨404, "API key not found"⟩
  check (key.user = session.user) ⟨404, "API key not found"⟩
  return { state with keys := state.keys.insert id { key with isRevoked := true } }

def invalidKey : HttpError := ⟨401, "Invalid or revoked API key."⟩

def exchangeKey (token : Text) : Except HttpError State := do
  let token := strip token
  let tokenPrefix ← found (parseApiKeyPrefix token) invalidKey
  let (_, key) ← found
    (state.keys.first fun key => decide (key.tokenPrefix = tokenPrefix)) invalidKey
  check (key.isRevoked = false) invalidKey
  check (hashApiKey env token = key.tokenHash) invalidKey
  let account ← found (state.accounts.lookup key.user) invalidKey
  check (account.isActive = true) invalidKey
  return issuePair state key.user account (some ["apikey"])

/-! What an admin does to an account. -/

def setActive (user : String) (isActive : Bool) : State :=
  match state.accounts.lookup user with
  | none => state
  | some account => writeAccount state user
      { account with
        isActive := isActive
        tokenVersion := if account.isActive && !isActive then account.tokenVersion + 1
          else account.tokenVersion }

def deleteAccount (user : String) : State :=
  { state with
    accounts := state.accounts.erase user
    keys := state.keys.keepIf fun key => decide (key.user ≠ user) }

end Endpoints

/-! ## Sequences of requests -/

inductive Label where
  | register (id : String) (email passwordHash : Text) (token : String) (retryAfter : ℕ)
      (now : ℤ)
  | createAccount (id : String) (email passwordHash : Text)
  | login (email password : Text) (rehashed : Option Text) (retryAfter : ℕ)
  | refresh (token : Pair) (fromCookie csrfOk : Bool)
  | logout (session : Pair)
  | mfaSetup (session : Pair) (secret : Text)
  | mfaVerify (session : Pair) (code : Text) (codes : List Text) (now : ℤ)
  | mfaLogin (user : String) (code : Text) (retryAfter : ℕ) (now : ℤ)
  | mfaDisable (session : Pair) (password code : Text) (now : ℤ)
  | requestLink (kind : Kind) (email : Text) (token : String) (retryAfter : ℕ) (now : ℤ)
  | confirmPasswordReset (token : String) (passwordHash : Text) (now : ℤ)
  | confirmEmailVerification (token : String) (now : ℤ)
  | createKey (session : Pair) (id : String) (tokenPrefix secret : Text)
  | revokeKey (session : Pair) (id : String)
  | exchangeKey (token : Text)
  | setActive (user : String) (isActive : Bool)
  | deleteAccount (user : String)

/-- An identifier that was not used before. -/
def freshAccount (state : State) (id : String) : Bool :=
  (state.accounts.lookup id).isNone &&
    state.pairs.all (fun pair => decide (pair.user ≠ id)) &&
    state.challenges.all (fun user => decide (user ≠ id)) &&
    (state.keys.first fun key => decide (key.user = id)).isNone

/-- A request that fails changes nothing and is no step.  A request brings tokens along
that were issued. -/
def step (env : Environment) (state : State) : Label → Option State
  | .register id email passwordHash token retryAfter now =>
      if freshAccount state id then
        (register env state id email passwordHash token retryAfter now).toOption
      else none
  | .createAccount id email passwordHash =>
      if freshAccount state id then
        (createAccount env state id email passwordHash).toOption
      else none
  | .login email password rehashed retryAfter =>
      (login env state email password rehashed retryAfter).toOption
  | .refresh token fromCookie csrfOk =>
      if token ∈ state.pairs then (refresh state token fromCookie csrfOk).toOption
      else none
  | .logout session =>
      if session ∈ state.pairs then (logout state session).toOption else none
  | .mfaSetup session secret =>
      if session ∈ state.pairs then (mfaSetup state session secret).toOption else none
  | .mfaVerify session code codes now =>
      if session ∈ state.pairs then
        (mfaVerify env state session code codes now).toOption
      else none
  | .mfaLogin user code retryAfter now =>
      if user ∈ state.challenges then
        (mfaLogin env state user code retryAfter now).toOption
      else none
  | .mfaDisable session password code now =>
      if session ∈ state.pairs then
        (mfaDisable env state session password code now).toOption
      else none
  | .requestLink kind email token retryAfter now =>
      (requestLink env state kind email token retryAfter now).toOption
  | .confirmPasswordReset token passwordHash now =>
      (confirmPasswordReset state token passwordHash now).toOption
  | .confirmEmailVerification token now =>
      (confirmEmailVerification state token now).toOption
  | .createKey session id tokenPrefix secret =>
      if session ∈ state.pairs ∧ (state.keys.lookup id).isNone then
        (createKey env state session id tokenPrefix secret).toOption
      else none
  | .revokeKey session id =>
      if session ∈ state.pairs then (revokeKey state session id).toOption else none
  | .exchangeKey token => (exchangeKey env state token).toOption
  | .setActive user isActive => some (setActive state user isActive)
  | .deleteAccount user => some (deleteAccount state user)

/-- No account has signed in yet. -/
def Initial (state : State) : Prop :=
  state.pairs = [] ∧ state.challenges = [] ∧ state.keys = ∅

def system (env : Environment) : TransitionSystem State Label where
  initial := Initial
  step := step env

end DbBuddy.Auth.SignIn
