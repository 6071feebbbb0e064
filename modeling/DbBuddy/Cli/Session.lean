import DbBuddy.Auth.ApiKeys

/-!
# The session of the command line

`Session` keeps two tokens and a key in a file, and calls the backend that signs it in.
A command makes a session of what is in the file; what its calls meet on the way (a
backend that is down, tokens that have run out, a budget that is used up) is given.
There is one backend.
-/

namespace DbBuddy.Cli

open DbBuddy.Library
open DbBuddy.Auth
open DbBuddy.Publishing (HttpError check)

abbrev Text := List Char

/-- A token with its place in the order in which they were issued. -/
structure Token where
  pair : SignIn.Pair
  serial : ℕ
  deriving DecidableEq, Repr

/-- `credentials.json`; a file that is missing or damaged has nothing in it. -/
structure Credentials where
  accessToken : Option Token
  refreshToken : Option Token
  apiKey : Option Text
  deriving DecidableEq, Repr

structure Session where
  accessToken : Option Token
  refreshToken : Option Token
  apiKey : Option Text
  deriving DecidableEq, Repr

structure World where
  server : SignIn.State
  file : Credentials

/-- What the calls of a command meet.  Tokens of a kind live equally long: those that
have expired are the first that were issued. -/
structure Network where
  isUp : Bool
  accessExpired : ℕ
  refreshExpired : ℕ
  isLimited : Bool

inductive Failure where
  | authRequired (message : String)
  | sessionError (message : String)
  deriving DecidableEq, Repr

/-- A text that is there and not empty. -/
def truthy (text : Option Text) : Option Text :=
  text.filter fun chars => decide (chars ≠ [])

/-! ## What the backend answers -/

/-- Any endpoint behind `get_current_user`, up to the account it runs for. -/
def callAuthorized (net : Network) (server : SignIn.State) (token : Option Token) :
    Except HttpError SignIn.Account :=
  match token with
  | none => .error ⟨401, "Invalid access token"⟩
  | some token => do
      check (token.pair ∈ server.pairs) ⟨401, "Invalid access token"⟩
      check (net.accessExpired ≤ token.serial) ⟨401, "Access token expired"⟩
      SignIn.getCurrentUser server token.pair

/-- `/auth/refresh` with the token in the body. -/
def callRefresh (net : Network) (server : SignIn.State) (token : Token) :
    Except HttpError SignIn.State := do
  check (net.isLimited = false) ⟨429, "Too many requests. Try again shortly."⟩
  check (token.pair ∈ server.pairs) ⟨401, "Invalid refresh token"⟩
  check (net.refreshExpired ≤ token.serial) ⟨401, "Refresh token expired"⟩
  SignIn.refresh server token.pair false true

section Commands

variable (env : SignIn.Environment) (envKey : Option Text) (net : Network)

/-! ## The session -/

/-- `__init__`; a key from the environment wins. -/
def load (file : Credentials) : Session where
  accessToken := file.accessToken
  refreshToken := file.refreshToken
  apiKey := (truthy envKey).or file.apiKey

/-- `_persist`; a key from the environment is not written. -/
def persist (session : Session) (file : Credentials) : Credentials where
  accessToken := session.accessToken
  refreshToken := session.refreshToken
  apiKey :=
    if (truthy session.apiKey).isSome && (truthy envKey).isNone then session.apiKey
    else file.apiKey

/-- The session takes the pair that was issued, and writes the file. -/
def adopt (world : World) (server : SignIn.State) (session : Session) : World × Session :=
  let issued := server.pairs.head?.map fun pair => ⟨pair, world.server.pairs.length⟩
  let session := { session with accessToken := issued, refreshToken := issued }
  (⟨server, persist envKey session world.file⟩, session)

def unreachable : Failure :=
  .sessionError "Could not reach the DB Buddy backend"

/-- `_exchange_api_key` -/
def exchangeApiKey (world : World) (session : Session) :
    World × Except Failure Session :=
  if net.isUp then
    match SignIn.exchangeKey env world.server (session.apiKey.getD []) with
    | .error error => (world, .error (.authRequired ("API key rejected: " ++ error.detail)))
    | .ok server =>
        let (world, session) := adopt envKey world server session
        (world, .ok session)
  else (world, .error unreachable)

/-- The last resort of a session whose tokens do not work. -/
def reexchange (world : World) (session : Session) (message : String) :
    World × Except Failure Session :=
  if (truthy session.apiKey).isSome then exchangeApiKey env envKey net world session
  else (world, .error (.authRequired message))

def notLoggedIn : String :=
  "Not logged in. Run 'dbbuddy login' or 'dbbuddy login --api-key'."

/-- `_ensure_token` -/
def ensureToken (world : World) (session : Session) : World × Except Failure Session :=
  if session.accessToken.isSome then (world, .ok session)
  else reexchange env envKey net world session notLoggedIn

def sessionExpired : String :=
  "Your session expired. Run 'dbbuddy login' again."

/-- `_refresh_or_reexchange` -/
def refreshOrReexchange (world : World) (session : Session) :
    World × Except Failure Session :=
  match session.refreshToken with
  | none => reexchange env envKey net world session sessionExpired
  | some token =>
      if net.isUp then
        match callRefresh net world.server token with
        | .ok server =>
            let (world, session) := adopt envKey world server session
            (world, .ok session)
        | .error _ => reexchange env envKey net world session sessionExpired
      else (world, .error unreachable)

/-- `_raw` with authentication. -/
def raw (world : World) (session : Session) :
    World × Except Failure (Session × Except HttpError SignIn.Account) :=
  match ensureToken env envKey net world session with
  | (world, .error failure) => (world, .error failure)
  | (world, .ok session) =>
      if net.isUp then
        (world, .ok (session, callAuthorized net world.server session.accessToken))
      else (world, .error unreachable)

/-- `request`: one refresh on a 401. -/
def request (world : World) :
    World × Except Failure (Except HttpError SignIn.Account) :=
  match raw env envKey net world (load envKey world.file) with
  | (world, .error failure) => (world, .error failure)
  | (world, .ok (_, .ok account)) => (world, .ok (.ok account))
  | (world, .ok (session, .error error)) =>
      if error.status = 401 then
        match refreshOrReexchange env envKey net world session with
        | (world, .error failure) => (world, .error failure)
        | (world, .ok session) =>
            match raw env envKey net world session with
            | (world, .error failure) => (world, .error failure)
            | (world, .ok (_, answer)) => (world, .ok answer)
      else (world, .ok (.error error))

/-- `login_api_key` -/
def loginApiKey (world : World) (key : Text) : World × Except Failure Session :=
  exchangeApiKey env envKey net world
    { load envKey world.file with apiKey := some (strip key) }

/-- `complete_mfa` -/
def completeMfa (world : World) (session : Session) (user : String) (code : Text)
    (retryAfter : ℕ) (now : ℤ) : World × Except Failure Session :=
  if net.isUp then
    match SignIn.mfaLogin env world.server user code retryAfter now with
    | .error error =>
        (world, .error (.sessionError ("MFA verification failed: " ++ error.detail)))
    | .ok server =>
        let (world, session) := adopt envKey world server session
        (world, .ok session)
  else (world, .error unreachable)

/-- `login_password`, with the code that is asked for where a challenge comes back. -/
def loginPassword (world : World) (email password : Text) (rehashed : Option Text)
    (retryAfter : ℕ) (code : Text) (codeRetryAfter : ℕ) (now : ℤ) :
    World × Except Failure Session :=
  let session := load envKey world.file
  if net.isUp then
    match SignIn.login env world.server email password rehashed retryAfter with
    | .error error => (world, .error (.sessionError ("Login failed: " ++ error.detail)))
    | .ok server =>
        if server.pairs.length = world.server.pairs.length then
          completeMfa env envKey net { world with server := server } session
            (server.challenges.headD "") code codeRetryAfter now
        else
          let (world, session) := adopt envKey world server session
          (world, .ok session)
  else (world, .error unreachable)

/-- `logout`: the backend is told if it can be, and the file goes. -/
def logout (world : World) : World :=
  let server := match world.file.accessToken with
    | none => world.server
    | some token =>
        match callAuthorized net world.server (some token) with
        | .error _ => world.server
        | .ok _ =>
            if net.isUp then
              ((SignIn.logout world.server token.pair).toOption).getD world.server
            else world.server
  ⟨server, ⟨none, none, none⟩⟩

end Commands

/-! ## Commands beside everyone else's requests -/

inductive Label where
  | server (label : SignIn.Label)
  | request (net : Network)
  | loginApiKey (net : Network) (key : Text)
  | loginPassword (net : Network) (email password : Text) (rehashed : Option Text)
      (retryAfter : ℕ) (code : Text) (codeRetryAfter : ℕ) (now : ℤ)
  | logout (net : Network)

/-- A token that is not out yet has not expired. -/
def Timely (net : Network) (world : World) : Prop :=
  net.accessExpired ≤ world.server.pairs.length ∧
    net.refreshExpired ≤ world.server.pairs.length

instance (net : Network) (world : World) : Decidable (Timely net world) :=
  inferInstanceAs (Decidable (_ ∧ _))

def step (env : SignIn.Environment) (envKey : Option Text) (world : World) :
    Label → Option World
  | .server label => (SignIn.step env world.server label).map fun server =>
      { world with server := server }
  | .request net =>
      if Timely net world then some (request env envKey net world).1 else none
  | .loginApiKey net key =>
      if Timely net world then some (loginApiKey env envKey net world key).1 else none
  | .loginPassword net email password rehashed retryAfter code codeRetryAfter now =>
      if Timely net world then
        some (loginPassword env envKey net world email password rehashed retryAfter code
          codeRetryAfter now).1
      else none
  | .logout net => if Timely net world then some (logout net world) else none

/-- Nobody has signed in, and there is no file. -/
def system (env : SignIn.Environment) (envKey : Option Text) :
    TransitionSystem World Label where
  initial world := SignIn.Initial world.server ∧ world.file = ⟨none, none, none⟩
  step := step env envKey

end DbBuddy.Cli
