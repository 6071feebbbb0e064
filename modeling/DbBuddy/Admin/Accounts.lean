import DbBuddy.Library.Handles
import DbBuddy.Library.TransitionSystem
import DbBuddy.Publishing.Platform

/-!
# Accounts, roles and organisations

The account tables, what a start of the server does to them, and the endpoints of
user and organisation administration.  Each endpoint either fails with an HTTP
error or returns the tables it commits; a request names the session it comes with,
and a new row's identifier is one that no row has.
-/

namespace DbBuddy.Admin

open DbBuddy.Library
open DbBuddy.Publishing (HttpError Table check found orNone)

abbrev Text := List Char

/-! ## Tables -/

structure Organization where
  name : Text
  slug : Text
  isDefault : Bool
  deriving DecidableEq, Repr

/-- A role is known by its name, which is unique. -/
structure Role where
  permissions : List String
  deriving DecidableEq, Repr

/-- Rows from before there were organisations have none. -/
structure User where
  email : Text
  isActive : Bool
  tokenVersion : ℕ
  organizationId : Option String
  roles : List String
  deriving DecidableEq, Repr

structure State where
  organizations : Table Organization
  roles : Table Role
  users : Table User

/-- Python's tables, and `REGISTRATION_ALLOWED_DOMAINS`. -/
structure Environment where
  lowercase : Lowercase
  allowedDomains : List Text

/-- What the roles of these names grant, unsorted. -/
def rolePermissions (state : State) (names : List String) : List String :=
  names.flatMap fun name => ((state.roles.lookup name).map Role.permissions).getD []

/-- `permission_names` -/
def permissionNames (state : State) (user : User) : List String :=
  rolePermissions state user.roles

def isPlatformAdmin (state : State) (user : User) : Bool :=
  decide ("org:manage" ∈ permissionNames state user)

/-! ## Organisation handles -/

/-- `[a-z0-9]` -/
def isSlugChar (char : Char) : Bool :=
  (decide (97 ≤ char.toNat) && decide (char.toNat ≤ 122)) ||
    (decide (48 ≤ char.toNat) && decide (char.toNat ≤ 57))

def slugify (lowercase : Lowercase) (name : Text) : Text :=
  let slug := stripBoth '-' (collapse isSlugChar '-' false (lowercase.text (strip name)))
  if slug = [] then ['o', 'r', 'g'] else slug

def slugTaken (state : State) (slug : Text) : Bool :=
  (state.organizations.first fun org => decide (org.slug = slug)).isSome

/-- The candidates of `unique_slug`: the base itself, then the base with a number
behind it, from two on. -/
def slugCandidate (base : Text) : ℕ → Text
  | 0 => base
  | tried + 1 => base ++ '-' :: Nat.toDigits 10 (tried + 2)

/-- `unique_slug` tries at most one candidate more than there are organisations. -/
def uniqueSlug (lowercase : Lowercase) (state : State) (name : Text) : Text :=
  firstFree (slugTaken state) (slugCandidate (slugify lowercase name))
    state.organizations.size 0

/-! ## Seeding -/

/-- The keys of `PERMISSIONS`. -/
def PERMISSIONS : List String :=
  ["query:run", "query:write:manual", "connection:manage", "schema:analyze",
    "history:read", "chart:save", "chart:publish", "report:view", "user:manage",
    "audit:read", "org:manage", "settings:ai", "settings:system",
    "settings:security", "job:manage"]

def ROLES : List (String × List String) :=
  [("admin", ["org:manage", "user:manage", "audit:read", "connection:manage",
      "report:view", "settings:ai", "settings:system", "settings:security"]),
    ("org_admin", ["user:manage", "connection:manage", "report:view", "settings:ai",
      "audit:read", "job:manage"]),
    ("analyst", ["query:run", "query:write:manual", "connection:manage",
      "schema:analyze", "history:read", "chart:save", "chart:publish", "report:view",
      "settings:ai", "job:manage"]),
    ("user", ["report:view"])]

/-- Every permission of a role is in the catalogue, so no role fails to be seeded. -/
theorem permissions_known : ∀ role ∈ ROLES, role.2 ⊆ PERMISSIONS := by
  decide

def seedRolesAndPermissions (state : State) : State :=
  { state with
    roles := ROLES.foldl (fun roles role => roles.insert role.1 ⟨role.2⟩) state.roles }

def serverError : HttpError := ⟨500, "Internal Server Error"⟩

/-- `one_or_none` on the organisations that are marked as the default. -/
def defaultOrg (state : State) : Except HttpError (Option String) :=
  match state.organizations.keysOf Organization.isDefault with
  | [] => .ok none
  | [id] => .ok (some id)
  | _ => .error serverError

def DEFAULT_ORG_NAME : Text := "Default Organization".toList

/-- Accounts without an organisation join one. -/
def backfill (state : State) (orgId : String) : State :=
  { state with
    users := state.users.updateAll (fun user => user.organizationId.isNone)
      fun user => { user with organizationId := some orgId } }

def bootstrapDefaultOrg (env : Environment) (state : State) (newId : String) :
    Except HttpError (State × String) := do
  match ← defaultOrg state with
  | some orgId => return (backfill state orgId, orgId)
  | none =>
      let org : Organization :=
        { name := DEFAULT_ORG_NAME
          slug := uniqueSlug env.lowercase state "default".toList
          isDefault := true }
      return (backfill
        { state with organizations := state.organizations.insert newId org } newId,
        newId)

/-- `email.lower().strip()` -/
def normalized (lowercase : Lowercase) (email : Text) : Text :=
  strip (lowercase.text email)

def emailTaken (state : State) (email : Text) : Bool :=
  (state.users.first fun user => decide (user.email = email)).isSome

/-- A role is granted if there is one of that name. -/
def grantedIfKnown (state : State) (role : String) : List String :=
  if (state.roles.lookup role).isSome then [role] else []

/-- `bootstrap_admin`; a variable that is not set reads as an empty one. -/
def bootstrapAdmin (env : Environment) (state : State) (orgId newId : String)
    (adminEmail adminPassword : Text) : State :=
  if adminEmail = [] ∨ adminPassword = [] then state
  else
    let email := normalized env.lowercase adminEmail
    if emailTaken state email then state
    else { state with
      users := state.users.insert newId
        { email := email
          isActive := true
          tokenVersion := 0
          organizationId := some orgId
          roles := grantedIfKnown state "admin" } }

/-- What `init_db` commits to the account tables. -/
def startup (env : Environment) (state : State) (orgId userId : String)
    (adminEmail adminPassword : Text) : Except HttpError State := do
  let (state, org) ← bootstrapDefaultOrg env (seedRolesAndPermissions state) orgId
  return bootstrapAdmin env state org userId adminEmail adminPassword

/-! ## Sessions -/

/-- What an access token says of its account. -/
structure Session where
  user : String
  tokenVersion : ℕ
  deriving DecidableEq, Repr

/-- `get_current_user`, given a token that decodes. -/
def getCurrentUser (state : State) (session : Session) : Except HttpError User := do
  let user ← found (state.users.lookup session.user)
    ⟨401, "User not found or inactive"⟩
  check (user.isActive = true) ⟨401, "User not found or inactive"⟩
  check (session.tokenVersion = user.tokenVersion)
    ⟨401, "Access token has been revoked"⟩
  return user

def requirePermission (state : State) (session : Session) (permission : String) :
    Except HttpError User := do
  let user ← getCurrentUser state session
  check (permission ∈ permissionNames state user)
    ⟨403, "Missing permission: " ++ permission⟩
  return user

def logout (state : State) (session : Session) : Except HttpError State := do
  let user ← getCurrentUser state session
  return { state with
    users := state.users.insert session.user
      { user with tokenVersion := user.tokenVersion + 1 } }

/-! ## Registration -/

/-- `email.rsplit("@", 1)[-1]`, and nothing without an at sign. -/
def emailDomain (email : Text) : Text :=
  if '@' ∈ email then (email.reverse.takeWhile (fun char => decide (char ≠ '@'))).reverse
  else []

/-- `register`, for a source address that is locked out for `retryAfter` seconds. -/
def register (env : Environment) (state : State) (id : String) (email : Text)
    (retryAfter : ℕ) : Except HttpError State := do
  let email := normalized env.lowercase email
  check (retryAfter = 0) ⟨429, "Too many registration attempts. Try again later."⟩
  check (env.allowedDomains = [] ∨ emailDomain email ∈ env.allowedDomains)
    ⟨403, "Self-registration is not permitted for this email domain."⟩
  check (emailTaken state email = false)
    ⟨409, "An account with this email already exists."⟩
  -- Without a default organisation the row has none, which the column refuses.
  let org ← found (← defaultOrg state) serverError
  return { state with
    users := state.users.insert id
      { email := email
        isActive := true
        tokenVersion := 0
        organizationId := some org
        roles := grantedIfKnown state "analyst" } }

/-! ## User administration -/

def ORG_ADMIN_GRANTABLE : List String := ["analyst", "user"]

/-- `_resolve_roles`, as the names of the roles. -/
def resolveRoles (state : State) (actor : User) :
    List String → Except HttpError (List String)
  | [] => return []
  | name :: rest => do
      let _ ← found (state.roles.lookup name) ⟨400, "Unknown role: " ++ name⟩
      check (isPlatformAdmin state actor = true ∨ name ∈ ORG_ADMIN_GRANTABLE)
        ⟨403, "You may not grant the '" ++ name ++ "' role."⟩
      return name :: (← resolveRoles state actor rest)

structure AdminUserCreate where
  email : Text
  role : String := "analyst"
  organizationId : Option String := none
  deriving DecidableEq, Repr

structure AdminUserPatch where
  roles : Option (List String) := none
  isActive : Option Bool := none
  organizationId : Option String := none
  deriving DecidableEq, Repr

def targetOrgNotFound : HttpError := ⟨400, "Target organization not found."⟩

/-- The organisation `create_user` puts the account into. -/
def organizationFor (state : State) (actor : User) (requested : Option String) :
    Except HttpError (Option String) :=
  if isPlatformAdmin state actor then do
    let org := (orNone requested).or actor.organizationId
    let _ ← found (org.bind state.organizations.lookup) targetOrgNotFound
    return org
  else return actor.organizationId

def createUser (env : Environment) (state : State) (session : Session) (id : String)
    (req : AdminUserCreate) : Except HttpError State := do
  let actor ← requirePermission state session "user:manage"
  let email := normalized env.lowercase req.email
  check (emailTaken state email = false)
    ⟨409, "An account with this email already exists."⟩
  let org ← organizationFor state actor req.organizationId
  let roles ← resolveRoles state actor [req.role]
  return { state with
    users := state.users.insert id
      { email := email
        isActive := true
        tokenVersion := 0
        organizationId := org
        roles := roles } }

def userNotFound : HttpError := ⟨404, "User not found"⟩

/-- `_target_in_scope_or_404` -/
def targetInScopeOr404 (state : State) (userId : String) (actor : User) :
    Except HttpError User := do
  let target ← found (state.users.lookup userId) userNotFound
  check (isPlatformAdmin state actor = true ∨
    target.organizationId = actor.organizationId) userNotFound
  check (isPlatformAdmin state actor = true ∨
    "org:manage" ∉ permissionNames state target)
    ⟨403, "You may not modify this user."⟩
  return target

/-- The `roles` of a patch; a role that is named twice is held once. -/
def patchRoles (state : State) (actor target : User) (roles : Option (List String)) :
    Except HttpError User :=
  match roles with
  | none => return target
  | some names => do
      let roles ← resolveRoles state actor names
      return { target with roles := roles.dedup }

/-- The `is_active` of a patch. -/
def patchActive (target : User) (isSelf : Bool) (isActive : Option Bool) :
    Except HttpError User :=
  match isActive with
  | none => return target
  | some isActive => do
      check (isSelf = false ∨ isActive = true)
        ⟨400, "You cannot deactivate your own account."⟩
      return { target with
        tokenVersion := if target.isActive && !isActive then target.tokenVersion + 1
          else target.tokenVersion
        isActive := isActive }

/-- The `organization_id` of a patch. -/
def patchOrganization (state : State) (actor target : User)
    (organizationId : Option String) : Except HttpError User :=
  match organizationId with
  | none => return target
  | some org => do
      check (isPlatformAdmin state actor = true)
        ⟨403, "Only a platform admin can move users between orgs."⟩
      let _ ← found (state.organizations.lookup org) targetOrgNotFound
      return { target with organizationId := some org }

def updateUser (state : State) (session : Session) (userId : String)
    (req : AdminUserPatch) : Except HttpError State := do
  let actor ← requirePermission state session "user:manage"
  let target ← targetInScopeOr404 state userId actor
  let isSelf := decide (userId = session.user)
  let target ← patchRoles state actor target req.roles
  let target ← patchActive target isSelf req.isActive
  -- Of one's own account there is one object, which has its new roles by now.
  let actor := if isSelf then target else actor
  let target ← patchOrganization state actor target req.organizationId
  return { state with users := state.users.insert userId target }

def deleteUser (state : State) (session : Session) (userId : String) :
    Except HttpError State := do
  let actor ← requirePermission state session "user:manage"
  let _ ← targetInScopeOr404 state userId actor
  check (userId ≠ session.user) ⟨400, "You cannot delete your own account."⟩
  return { state with users := state.users.erase userId }

/-! ## Organisations -/

def orgNotFound : HttpError := ⟨404, "Organization not found"⟩

/-- `_visible_or_404` -/
def visibleOr404 (state : State) (orgId : String) (actor : User) :
    Except HttpError Organization := do
  let org ← found (state.organizations.lookup orgId) orgNotFound
  check (isPlatformAdmin state actor = true ∨ actor.organizationId = some orgId)
    orgNotFound
  return org

/-- `_member_count` -/
def memberCount (state : State) (orgId : String) : ℕ :=
  (state.users.keysOf fun user => decide (user.organizationId = some orgId)).length

def createOrg (env : Environment) (state : State) (session : Session) (id : String)
    (name : Text) : Except HttpError State := do
  let _ ← requirePermission state session "org:manage"
  return { state with
    organizations := state.organizations.insert id
      { name := strip name
        slug := uniqueSlug env.lowercase state name
        isDefault := false } }

def renameOrg (state : State) (session : Session) (orgId : String) (name : Text) :
    Except HttpError State := do
  let actor ← requirePermission state session "user:manage"
  let org ← visibleOr404 state orgId actor
  return { state with
    organizations := state.organizations.insert orgId { org with name := strip name } }

def deleteOrg (state : State) (session : Session) (orgId : String) :
    Except HttpError State := do
  let _ ← requirePermission state session "org:manage"
  let org ← found (state.organizations.lookup orgId) orgNotFound
  check (org.isDefault = false) ⟨400, "The default organization cannot be deleted."⟩
  check (memberCount state orgId = 0)
    ⟨400, "Reassign members before deleting this organization."⟩
  return { state with organizations := state.organizations.erase orgId }

/-! ## Sequences of requests -/

inductive Label where
  | startup (orgId userId : String) (adminEmail adminPassword : Text)
  | register (id : String) (email : Text) (retryAfter : ℕ)
  | logout (session : Session)
  | createUser (session : Session) (id : String) (req : AdminUserCreate)
  | updateUser (session : Session) (userId : String) (req : AdminUserPatch)
  | deleteUser (session : Session) (userId : String)
  | createOrg (session : Session) (id : String) (name : Text)
  | renameOrg (session : Session) (orgId : String) (name : Text)
  | deleteOrg (session : Session) (orgId : String)

/-- The session a request comes with. -/
def Label.session : Label → Option Session
  | .startup .. | .register .. => none
  | .logout session | .createUser session .. | .updateUser session ..
  | .deleteUser session .. | .createOrg session .. | .renameOrg session ..
  | .deleteOrg session .. => some session

/-- A new account, or a new organisation, has an identifier of its own. -/
def freshUser (state : State) (id : String) : Bool :=
  (state.users.lookup id).isNone

def freshOrg (state : State) (id : String) : Bool :=
  (state.organizations.lookup id).isNone &&
    (state.users.first fun user => decide (user.organizationId = some id)).isNone

/-- A request that fails changes nothing and is no step. -/
def step (env : Environment) (state : State) : Label → Option State
  | .startup orgId userId adminEmail adminPassword =>
      if freshOrg state orgId && freshUser state userId then
        (startup env state orgId userId adminEmail adminPassword).toOption
      else none
  | .register id email retryAfter =>
      if freshUser state id then (register env state id email retryAfter).toOption
      else none
  | .logout session => (logout state session).toOption
  | .createUser session id req =>
      if freshUser state id then (createUser env state session id req).toOption
      else none
  | .updateUser session userId req => (updateUser state session userId req).toOption
  | .deleteUser session userId => (deleteUser state session userId).toOption
  | .createOrg session id name =>
      if freshOrg state id then (createOrg env state session id name).toOption
      else none
  | .renameOrg session orgId name => (renameOrg state session orgId name).toOption
  | .deleteOrg session orgId => (deleteOrg state session orgId).toOption

/-- Accounts from before there were organisations, each with its own address. -/
structure Legacy (state : State) : Prop where
  organizations : state.organizations = ∅
  orgless : ∀ id user, state.users.lookup id = some user → user.organizationId = none
  emails : ∀ id other user second, state.users.lookup id = some user →
    state.users.lookup other = some second → user.email = second.email → id = other

/-- The first start of the server, on such tables. -/
def Initial (env : Environment) (state : State) : Prop :=
  ∃ legacy orgId userId adminEmail adminPassword, Legacy legacy ∧
    step env legacy (.startup orgId userId adminEmail adminPassword) = some state

def system (env : Environment) : TransitionSystem State Label where
  initial := Initial env
  step := step env

end DbBuddy.Admin
