import DbBuddy.Admin.Accounts
import DbBuddy.Publishing.Endpoints

/-!
# What an administration endpoint has checked

What is known of the rows behind a request that went through, and what the request
made of them.
-/

namespace DbBuddy.Admin

open DbBuddy.Library
open DbBuddy.Publishing (HttpError check found orNone bind_eq_ok check_eq_ok
  found_eq_ok)

variable {state after : State} {session : Session}

/-! ## Sessions -/

/-- The account behind a session: it is active, and its tokens are still good. -/
structure SignedIn (state : State) (session : Session) (actor : User) : Prop where
  row : state.users.lookup session.user = some actor
  active : actor.isActive = true
  version : session.tokenVersion = actor.tokenVersion

theorem getCurrentUser_eq_ok {actor : User}
    (passed : getCurrentUser state session = .ok actor) :
    SignedIn state session actor := by
  obtain ⟨user, isUser, rest⟩ := bind_eq_ok passed
  obtain ⟨_, isActive, rest⟩ := bind_eq_ok rest
  obtain ⟨_, isCurrent, done⟩ := bind_eq_ok rest
  cases done
  exact ⟨found_eq_ok isUser, check_eq_ok isActive, check_eq_ok isCurrent⟩

theorem requirePermission_eq_ok {permission : String} {actor : User}
    (passed : requirePermission state session permission = .ok actor) :
    SignedIn state session actor ∧ permission ∈ permissionNames state actor := by
  obtain ⟨user, isUser, rest⟩ := bind_eq_ok passed
  obtain ⟨_, isAllowed, done⟩ := bind_eq_ok rest
  cases done
  exact ⟨getCurrentUser_eq_ok isUser, check_eq_ok isAllowed⟩

theorem logout_eq_ok (passed : logout state session = .ok after) :
    ∃ actor, SignedIn state session actor ∧ after = { state with
      users := state.users.insert session.user
        { actor with tokenVersion := actor.tokenVersion + 1 } } := by
  obtain ⟨actor, isActor, done⟩ := bind_eq_ok passed
  cases done
  exact ⟨actor, getCurrentUser_eq_ok isActor, rfl⟩

/-! ## Roles -/

/-- Roles that exist and that the account may grant. -/
def Granted (state : State) (actor : User) (names : List String) : Prop :=
  ∀ name ∈ names, (∃ role, state.roles.lookup name = some role) ∧
    (isPlatformAdmin state actor = true ∨ name ∈ ORG_ADMIN_GRANTABLE)

theorem resolveRoles_eq_ok {actor : User} {names roles : List String}
    (passed : resolveRoles state actor names = .ok roles) :
    roles = names ∧ Granted state actor names := by
  induction names generalizing roles with
  | nil =>
      cases passed
      exact ⟨rfl, fun _ isIn => absurd isIn List.not_mem_nil⟩
  | cons name rest inductionHypothesis =>
      obtain ⟨role, isRole, later⟩ := bind_eq_ok passed
      obtain ⟨_, isAllowed, later⟩ := bind_eq_ok later
      obtain ⟨others, isRest, done⟩ := bind_eq_ok later
      obtain ⟨same, granted⟩ := inductionHypothesis isRest
      cases done
      refine ⟨by rw [same], ?_⟩
      intro other isIn
      rcases List.mem_cons.mp isIn with isFirst | isBehind
      · rw [isFirst]
        exact ⟨⟨role, found_eq_ok isRole⟩, check_eq_ok isAllowed⟩
      · exact granted other isBehind

/-! ## Creating an account -/

theorem organizationFor_eq_ok {actor : User} {requested org : Option String}
    (passed : organizationFor state actor requested = .ok org) :
    org = actor.organizationId ∨
      (isPlatformAdmin state actor = true ∧
        ∃ id row, org = some id ∧ state.organizations.lookup id = some row) := by
  unfold organizationFor at passed
  split at passed
  next isAdmin =>
    obtain ⟨row, isRow, done⟩ := bind_eq_ok passed
    cases done
    obtain ⟨id, isId, isOrg⟩ := Option.bind_eq_some_iff.mp (found_eq_ok isRow)
    exact Or.inr ⟨isAdmin, id, row, isId, isOrg⟩
  next =>
    cases passed
    exact Or.inl rfl

/-- The new account of a request, beside those there were. -/
structure Creation (env : Environment) (state after : State) (session : Session)
    (id : String) (req : AdminUserCreate) (actor created : User) : Prop where
  signedIn : SignedIn state session actor
  allowed : "user:manage" ∈ permissionNames state actor
  email : created.email = normalized env.lowercase req.email
  free : emailTaken state created.email = false
  organization : created.organizationId = actor.organizationId ∨
    (isPlatformAdmin state actor = true ∧ ∃ id row,
      created.organizationId = some id ∧ state.organizations.lookup id = some row)
  roles : created.roles = [req.role]
  granted : Granted state actor [req.role]
  result : after = { state with users := state.users.insert id created }

theorem createUser_eq_ok {env : Environment} {id : String} {req : AdminUserCreate}
    (passed : createUser env state session id req = .ok after) :
    ∃ actor created, Creation env state after session id req actor created := by
  obtain ⟨actor, isActor, rest⟩ := bind_eq_ok passed
  obtain ⟨signedIn, allowed⟩ := requirePermission_eq_ok isActor
  obtain ⟨_, isFree, rest⟩ := bind_eq_ok rest
  obtain ⟨org, isOrg, rest⟩ := bind_eq_ok rest
  obtain ⟨roles, isRoles, done⟩ := bind_eq_ok rest
  obtain ⟨same, granted⟩ := resolveRoles_eq_ok isRoles
  cases done
  refine ⟨actor, ⟨normalized env.lowercase req.email, true, 0, org, roles⟩, ?_⟩
  exact
    { signedIn := signedIn
      allowed := allowed
      email := rfl
      free := check_eq_ok isFree
      organization := organizationFor_eq_ok isOrg
      roles := same
      granted := granted
      result := rfl }

/-! ## Changing one -/

theorem targetInScopeOr404_eq_ok {userId : String} {actor target : User}
    (passed : targetInScopeOr404 state userId actor = .ok target) :
    state.users.lookup userId = some target ∧
      (isPlatformAdmin state actor = true ∨
        target.organizationId = actor.organizationId) ∧
      (isPlatformAdmin state actor = true ∨
        "org:manage" ∉ permissionNames state target) := by
  obtain ⟨row, isRow, rest⟩ := bind_eq_ok passed
  obtain ⟨_, isInScope, rest⟩ := bind_eq_ok rest
  obtain ⟨_, isSpared, done⟩ := bind_eq_ok rest
  cases done
  exact ⟨found_eq_ok isRow, check_eq_ok isInScope, check_eq_ok isSpared⟩

theorem patchRoles_eq_ok {actor target changed : User} {roles : Option (List String)}
    (passed : patchRoles state actor target roles = .ok changed) :
    changed = { target with roles := (roles.map List.dedup).getD target.roles } ∧
      ∀ names, roles = some names → Granted state actor names := by
  cases roles with
  | none =>
      cases passed
      exact ⟨rfl, fun _ isNone => nomatch isNone⟩
  | some names =>
      obtain ⟨resolved, isResolved, done⟩ := bind_eq_ok passed
      obtain ⟨same, granted⟩ := resolveRoles_eq_ok isResolved
      cases done
      refine ⟨by rw [same]; rfl, ?_⟩
      intro others isOthers
      cases isOthers
      exact granted

theorem patchActive_eq_ok {target changed : User} {isSelf : Bool}
    {isActive : Option Bool}
    (passed : patchActive target isSelf isActive = .ok changed) :
    changed = { target with
        tokenVersion := changed.tokenVersion
        isActive := changed.isActive } ∧
      (isSelf = true → target.isActive = true → changed.isActive = true) := by
  cases isActive with
  | none =>
      cases passed
      exact ⟨rfl, fun _ active => active⟩
  | some isActive =>
      obtain ⟨_, isAllowed, done⟩ := bind_eq_ok passed
      cases done
      refine ⟨rfl, ?_⟩
      intro isSelf _
      rcases check_eq_ok isAllowed with other | active
      · rw [isSelf] at other
        cases other
      · exact active

theorem patchOrganization_eq_ok {actor target changed : User} {org : Option String}
    (passed : patchOrganization state actor target org = .ok changed) :
    changed = { target with organizationId := changed.organizationId } ∧
      (changed.organizationId = target.organizationId ∨
        (isPlatformAdmin state actor = true ∧ ∃ id row,
          changed.organizationId = some id ∧
            state.organizations.lookup id = some row)) := by
  cases org with
  | none =>
      cases passed
      exact ⟨rfl, Or.inl rfl⟩
  | some id =>
      obtain ⟨_, isAllowed, rest⟩ := bind_eq_ok passed
      obtain ⟨row, isRow, done⟩ := bind_eq_ok rest
      cases done
      exact ⟨rfl, Or.inr ⟨check_eq_ok isAllowed, id, row, rfl, found_eq_ok isRow⟩⟩

/-- What became of the account that a request changes.  Of one's own account the
new roles are asked whether it may be moved. -/
structure Change (state after : State) (session : Session) (userId : String)
    (req : AdminUserPatch) (actor target changed : User) : Prop where
  signedIn : SignedIn state session actor
  allowed : "user:manage" ∈ permissionNames state actor
  row : state.users.lookup userId = some target
  inScope : isPlatformAdmin state actor = true ∨
    target.organizationId = actor.organizationId
  spared : isPlatformAdmin state actor = true ∨
    "org:manage" ∉ permissionNames state target
  email : changed.email = target.email
  roles : changed.roles = (req.roles.map List.dedup).getD target.roles
  granted : ∀ names, req.roles = some names → Granted state actor names
  active : userId = session.user → changed.isActive = true
  organization : changed.organizationId = target.organizationId ∨
    (isPlatformAdmin state (if userId = session.user then changed else actor) = true ∧
      ∃ id row, changed.organizationId = some id ∧
        state.organizations.lookup id = some row)
  result : after = { state with users := state.users.insert userId changed }

theorem isPlatformAdmin_congr {user other : User} (same : user.roles = other.roles) :
    isPlatformAdmin state user = isPlatformAdmin state other := by
  unfold isPlatformAdmin permissionNames
  rw [same]

theorem updateUser_eq_ok {userId : String} {req : AdminUserPatch}
    (passed : updateUser state session userId req = .ok after) :
    ∃ actor target changed,
      Change state after session userId req actor target changed := by
  obtain ⟨actor, isActor, rest⟩ := bind_eq_ok passed
  obtain ⟨signedIn, allowed⟩ := requirePermission_eq_ok isActor
  obtain ⟨target, isTarget, rest⟩ := bind_eq_ok rest
  obtain ⟨row, inScope, spared⟩ := targetInScopeOr404_eq_ok isTarget
  obtain ⟨withRoles, isWithRoles, rest⟩ := bind_eq_ok rest
  obtain ⟨rolesEq, granted⟩ := patchRoles_eq_ok isWithRoles
  obtain ⟨withActive, isWithActive, rest⟩ := bind_eq_ok rest
  obtain ⟨activeEq, staysActive⟩ := patchActive_eq_ok isWithActive
  obtain ⟨changed, isChanged, done⟩ := bind_eq_ok rest
  obtain ⟨orgEq, organization⟩ := patchOrganization_eq_ok isChanged
  cases done
  have sameRoles : changed.roles = withActive.roles := by
    rw [orgEq]
  have isRoles : changed.roles = (req.roles.map List.dedup).getD target.roles := by
    rw [sameRoles, activeEq, rolesEq]
  have sameOrg : withActive.organizationId = target.organizationId := by
    rw [activeEq, rolesEq]
  refine ⟨actor, target, changed, ?_⟩
  refine
    { signedIn := signedIn
      allowed := allowed
      row := row
      inScope := inScope
      spared := spared
      email := by rw [orgEq, activeEq, rolesEq]
      roles := isRoles
      granted := granted
      active := ?_
      organization := ?_
      result := rfl }
  · intro isSelf
    have sameRow : target = actor := by
      rw [isSelf, signedIn.row] at row
      exact (Option.some.inj row).symm
    have before : withRoles.isActive = true := by
      rw [rolesEq, sameRow]
      exact signedIn.active
    rw [orgEq]
    exact staysActive (decide_eq_true isSelf) before
  · rw [sameOrg] at organization
    refine organization.imp_right ?_
    intro moved
    refine ⟨?_, moved.2⟩
    split
    next isSelf =>
      have mayMove := moved.1
      rw [if_pos (decide_eq_true isSelf)] at mayMove
      rw [isPlatformAdmin_congr sameRoles]
      exact mayMove
    next isOther =>
      have mayMove := moved.1
      rw [if_neg (by simpa using isOther)] at mayMove
      exact mayMove

/-- What a deletion has checked of the account it removes. -/
structure Removal (state after : State) (session : Session) (userId : String)
    (actor target : User) : Prop where
  signedIn : SignedIn state session actor
  row : state.users.lookup userId = some target
  inScope : isPlatformAdmin state actor = true ∨
    target.organizationId = actor.organizationId
  spared : isPlatformAdmin state actor = true ∨
    "org:manage" ∉ permissionNames state target
  other : userId ≠ session.user
  result : after = { state with users := state.users.erase userId }

theorem deleteUser_eq_ok {userId : String}
    (passed : deleteUser state session userId = .ok after) :
    ∃ actor target, Removal state after session userId actor target := by
  obtain ⟨actor, isActor, rest⟩ := bind_eq_ok passed
  obtain ⟨signedIn, _⟩ := requirePermission_eq_ok isActor
  obtain ⟨target, isTarget, rest⟩ := bind_eq_ok rest
  obtain ⟨row, inScope, spared⟩ := targetInScopeOr404_eq_ok isTarget
  obtain ⟨_, isOther, done⟩ := bind_eq_ok rest
  cases done
  exact ⟨actor, target, signedIn, row, inScope, spared, check_eq_ok isOther, rfl⟩

/-! ## Organisations -/

theorem createOrg_eq_ok {env : Environment} {id : String} {name : Text}
    (passed : createOrg env state session id name = .ok after) :
    (∃ actor, SignedIn state session actor ∧
        "org:manage" ∈ permissionNames state actor) ∧
      after = { state with
        organizations := state.organizations.insert id
          ⟨strip name, uniqueSlug env.lowercase state name, false⟩ } := by
  obtain ⟨actor, isActor, done⟩ := bind_eq_ok passed
  cases done
  exact ⟨⟨actor, requirePermission_eq_ok isActor⟩, rfl⟩

theorem renameOrg_eq_ok {orgId : String} {name : Text}
    (passed : renameOrg state session orgId name = .ok after) :
    ∃ actor org, SignedIn state session actor ∧
      state.organizations.lookup orgId = some org ∧
      (isPlatformAdmin state actor = true ∨ actor.organizationId = some orgId) ∧
      after = { state with
        organizations := state.organizations.insert orgId
          { org with name := strip name } } := by
  obtain ⟨actor, isActor, rest⟩ := bind_eq_ok passed
  obtain ⟨org, isVisible, done⟩ := bind_eq_ok rest
  obtain ⟨row, isRow, later⟩ := bind_eq_ok isVisible
  obtain ⟨_, inScope, same⟩ := bind_eq_ok later
  cases same
  cases done
  exact ⟨actor, org, (requirePermission_eq_ok isActor).1, found_eq_ok isRow,
    check_eq_ok inScope, rfl⟩

theorem deleteOrg_eq_ok {orgId : String}
    (passed : deleteOrg state session orgId = .ok after) :
    ∃ actor org, SignedIn state session actor ∧
      "org:manage" ∈ permissionNames state actor ∧
      state.organizations.lookup orgId = some org ∧ org.isDefault = false ∧
      memberCount state orgId = 0 ∧
      after = { state with organizations := state.organizations.erase orgId } := by
  obtain ⟨actor, isActor, rest⟩ := bind_eq_ok passed
  obtain ⟨signedIn, allowed⟩ := requirePermission_eq_ok isActor
  obtain ⟨org, isOrg, rest⟩ := bind_eq_ok rest
  obtain ⟨_, isOrdinary, rest⟩ := bind_eq_ok rest
  obtain ⟨_, isEmpty, done⟩ := bind_eq_ok rest
  cases done
  exact ⟨actor, org, signedIn, allowed, found_eq_ok isOrg, check_eq_ok isOrdinary,
    check_eq_ok isEmpty, rfl⟩

/-! ## Registration -/

/-- A registration puts an account into the default organisation. -/
structure Registration (env : Environment) (state after : State) (id : String)
    (email : Text) (org : String) (created : User) : Prop where
  email : created.email = normalized env.lowercase email
  free : emailTaken state created.email = false
  organization : created.organizationId = some org
  isDefault : defaultOrg state = .ok (some org)
  roles : created.roles = grantedIfKnown state "analyst"
  result : after = { state with users := state.users.insert id created }

theorem register_eq_ok {env : Environment} {id : String} {email : Text}
    {retryAfter : ℕ} (passed : register env state id email retryAfter = .ok after) :
    ∃ org created, Registration env state after id email org created := by
  obtain ⟨_, _, rest⟩ := bind_eq_ok passed
  obtain ⟨_, _, rest⟩ := bind_eq_ok rest
  obtain ⟨_, isFree, rest⟩ := bind_eq_ok rest
  obtain ⟨org, isOrg, rest⟩ := bind_eq_ok rest
  obtain ⟨id', isId, done⟩ := bind_eq_ok rest
  cases done
  have isDefault := found_eq_ok isId
  subst isDefault
  exact ⟨id', ⟨_, true, 0, some id', _⟩,
    { email := rfl
      free := check_eq_ok isFree
      organization := rfl
      isDefault := isOrg
      roles := rfl
      result := rfl }⟩

end DbBuddy.Admin
