import DbBuddy.Admin.Tenancy
import Mathlib.Data.List.Dedup

/-!
# What accounts can do to accounts

Without a platform admin acting, a request touches the accounts of the actor's own
organisation that are no platform admins, and grants no more than the roles that an
organisation admin may grant.  With platform admins acting, one of them stays active
unless one takes the role off itself.
-/

namespace DbBuddy.Admin

open DbBuddy.Library
open DbBuddy.Publishing (bind_eq_ok check_eq_ok found_eq_ok toOption_eq_some)

variable {env : Environment} {source state after target : State}

/-- The account holds the permission. -/
def Holds (state : State) (id permission : String) : Prop :=
  ∃ user, state.users.lookup id = some user ∧ permission ∈ permissionNames state user

abbrev PlatformAdmin (state : State) (id : String) : Prop :=
  Holds state id "org:manage"

/-- A start of the server that makes a new platform admin. -/
def Provisions (env : Environment) (state : State) : Label → Prop
  | .startup _ _ adminEmail adminPassword =>
      adminEmail ≠ [] ∧ adminPassword ≠ [] ∧
        emailTaken state (normalized env.lowercase adminEmail) = false
  | _ => False

/-! ## Roles -/

theorem rolePermissions_congr
    (same : ∀ name, after.roles.lookup name = state.roles.lookup name)
    (names : List String) : rolePermissions after names = rolePermissions state names := by
  unfold rolePermissions
  apply List.flatMap_congr
  intro name _
  rw [same name]

theorem permissionNames_congr
    (same : ∀ name, after.roles.lookup name = state.roles.lookup name) (user : User) :
    permissionNames after user = permissionNames state user :=
  rolePermissions_congr same user.roles

theorem mem_rolePermissions {names : List String} {permission : String} :
    permission ∈ rolePermissions state names ↔
      ∃ name ∈ names, ∃ role, state.roles.lookup name = some role ∧
        permission ∈ role.permissions := by
  unfold rolePermissions
  rw [List.mem_flatMap]
  refine exists_congr fun name => and_congr_right fun _ => ?_
  cases state.roles.lookup name with
  | none =>
      simp
  | some role =>
      simp

/-- The permissions of roles do not depend on how often a role is named. -/
theorem mem_rolePermissions_dedup {names : List String} {permission : String} :
    permission ∈ rolePermissions state names.dedup ↔
      permission ∈ rolePermissions state names := by
  rw [mem_rolePermissions, mem_rolePermissions]
  simp only [List.mem_dedup]

/-- What an organisation admin may grant allows to manage nothing. -/
theorem not_mem_grantable (tenancy : Tenancy state) {names : List String}
    (grantable : names ⊆ ORG_ADMIN_GRANTABLE) {permission : String}
    (isManaging : permission = "org:manage" ∨ permission = "user:manage") :
    permission ∉ rolePermissions state names := by
  have granted : ∀ name ∈ ORG_ADMIN_GRANTABLE, ∃ role ∈ ROLES, role.1 = name ∧
      "org:manage" ∉ role.2 ∧ "user:manage" ∉ role.2 := by
    decide
  intro holds
  obtain ⟨name, isName, row, isRow, isIn⟩ := mem_rolePermissions.mp holds
  obtain ⟨role, isRole, sameName, noOrg, noUser⟩ := granted name (grantable isName)
  rw [← sameName, tenancy.catalogue role isRole] at isRow
  cases isRow
  rcases isManaging with isOrg | isUser
  · rw [isOrg] at isIn
    exact noOrg isIn
  · rw [isUser] at isIn
    exact noUser isIn

/-- An account that may manage organisations is a platform admin. -/
theorem isPlatformAdmin_iff {user : User} :
    isPlatformAdmin state user = true ↔ "org:manage" ∈ permissionNames state user :=
  decide_eq_true_iff

/-! ## What a request touches without a platform admin -/

/-- A row of the accounts before and after a request. -/
structure Touched (state : State) (session : Option Session)
    (before after : Option User) : Prop where
  spared : ∀ old, before = some old → "org:manage" ∉ permissionNames state old
  within : ∀ old, before = some old → ∃ signed actor, session = some signed ∧
    state.users.lookup signed.user = some actor ∧
    old.organizationId = actor.organizationId
  roles : ∀ new, after = some new →
    (∃ old, before = some old ∧ new.roles = old.roles) ∨
      new.roles ⊆ ORG_ADMIN_GRANTABLE
  place : ∀ new, after = some new →
    (∃ signed actor, session = some signed ∧
      state.users.lookup signed.user = some actor ∧
      new.organizationId = actor.organizationId) ∨
      (session = none ∧ new.roles = ["analyst"] ∧
        ∃ org, new.organizationId = some org ∧
          state.organizations.selected Organization.isDefault = {org})

/-- A row of the organisations: only the actor's own may have a new name. -/
def Renamed (state : State) (session : Option Session) (id : String)
    (before after : Option Organization) : Prop :=
  ∃ signed actor old new, session = some signed ∧
    state.users.lookup signed.user = some actor ∧ actor.organizationId = some id ∧
    before = some old ∧ after = some new ∧ new.slug = old.slug ∧
    new.isDefault = old.isDefault

/-- What is left of the tables by a request that no platform admin makes. -/
structure Ordinary (state after : State) (session : Option Session) : Prop where
  roles : ∀ name, after.roles.lookup name = state.roles.lookup name
  organizations : ∀ id,
    after.organizations.lookup id = state.organizations.lookup id ∨
      Renamed state session id (state.organizations.lookup id)
        (after.organizations.lookup id)
  users : ∀ id, after.users.lookup id = state.users.lookup id ∨
    Touched state session (state.users.lookup id) (after.users.lookup id)

/-- Only one account is written. -/
theorem ordinary_write {session : Option Session} {id : String} {user : User}
    (touched : Touched state session (state.users.lookup id) (some user)) :
    Ordinary state { state with users := state.users.insert id user } session where
  roles _ := rfl
  organizations _ := Or.inl rfl
  users := by
    intro other
    by_cases same : other = id
    · subst same
      rw [AList.lookup_insert]
      exact Or.inr touched
    · exact Or.inl (AList.lookup_insert_ne same)

theorem not_platformAdmin_of_row {id : String} {user : User}
    (plain : ¬ PlatformAdmin state id) (isUser : state.users.lookup id = some user) :
    isPlatformAdmin state user = false := by
  apply eq_false_of_ne_true
  intro isAdmin
  exact plain ⟨user, isUser, isPlatformAdmin_iff.mp isAdmin⟩

theorem granted_subset {actor : User} {names : List String}
    (isOrdinary : isPlatformAdmin state actor = false)
    (granted : Granted state actor names) : names ⊆ ORG_ADMIN_GRANTABLE := by
  intro name isIn
  rcases (granted name isIn).2 with isAdmin | grantable
  · rw [isOrdinary] at isAdmin
    cases isAdmin
  · exact grantable

theorem logout_ordinary {session : Session} (plain : ¬ PlatformAdmin state session.user)
    (passed : logout state session = .ok after) :
    Ordinary state after (some session) := by
  obtain ⟨actor, signedIn, isAfter⟩ := logout_eq_ok passed
  rw [isAfter]
  apply ordinary_write
  rw [signedIn.row]
  have isOrdinary := not_platformAdmin_of_row plain signedIn.row
  exact
    { spared := by
        intro old isOld
        cases isOld
        exact of_decide_eq_false isOrdinary
      within := by
        intro old isOld
        cases isOld
        exact ⟨session, actor, rfl, signedIn.row, rfl⟩
      roles := by
        intro new isNew
        cases isNew
        exact Or.inl ⟨actor, rfl, rfl⟩
      place := by
        intro new isNew
        cases isNew
        exact Or.inl ⟨session, actor, rfl, signedIn.row, rfl⟩ }

/-- A new account touches no old one. -/
theorem Touched.created {session : Option Session} {before : Option User} {user : User}
    (absent : before = none) (roles : user.roles ⊆ ORG_ADMIN_GRANTABLE)
    (place : (∃ signed actor, session = some signed ∧
      state.users.lookup signed.user = some actor ∧
      user.organizationId = actor.organizationId) ∨
      (session = none ∧ user.roles = ["analyst"] ∧
        ∃ org, user.organizationId = some org ∧
          state.organizations.selected Organization.isDefault = {org})) :
    Touched state session before (some user) where
  spared := by
    intro old isOld
    rw [absent] at isOld
    cases isOld
  within := by
    intro old isOld
    rw [absent] at isOld
    cases isOld
  roles := by
    intro new isNew
    cases isNew
    exact Or.inr roles
  place := by
    intro new isNew
    cases isNew
    exact place

theorem register_ordinary {id : String} {email : Text} {retryAfter : ℕ}
    (tenancy : Tenancy state) (fresh : state.users.lookup id = none)
    (passed : register env state id email retryAfter = .ok after) :
    Ordinary state after none := by
  obtain ⟨org, created, registration⟩ := register_eq_ok passed
  have isAnalyst : created.roles = ["analyst"] := by
    have known : state.roles.lookup "analyst" = some ⟨_⟩ :=
      tenancy.catalogue ("analyst", _) (List.mem_of_getElem? (i := 2) rfl)
    rw [registration.roles, grantedIfKnown, known]
    rfl
  rw [registration.result]
  apply ordinary_write
  apply Touched.created fresh
  · rw [isAnalyst]
    decide
  · exact Or.inr ⟨rfl, isAnalyst, org, registration.organization,
      defaultOrg_some registration.isDefault⟩

theorem createUser_ordinary {session : Session} {id : String} {req : AdminUserCreate}
    (plain : ¬ PlatformAdmin state session.user) (fresh : state.users.lookup id = none)
    (passed : createUser env state session id req = .ok after) :
    Ordinary state after (some session) := by
  obtain ⟨actor, created, creation⟩ := createUser_eq_ok passed
  have isOrdinary := not_platformAdmin_of_row plain creation.signedIn.row
  rw [creation.result]
  apply ordinary_write
  apply Touched.created fresh
  · rw [creation.roles]
    exact granted_subset isOrdinary creation.granted
  · rcases creation.organization with same | ⟨isAdmin, _⟩
    · exact Or.inl ⟨session, actor, rfl, creation.signedIn.row, same⟩
    · rw [isOrdinary] at isAdmin
      cases isAdmin

theorem updateUser_ordinary {session : Session} {userId : String} {req : AdminUserPatch}
    (tenancy : Tenancy state) (plain : ¬ PlatformAdmin state session.user)
    (passed : updateUser state session userId req = .ok after) :
    Ordinary state after (some session) := by
  obtain ⟨actor, target, changed, change⟩ := updateUser_eq_ok passed
  have isOrdinary := not_platformAdmin_of_row plain change.signedIn.row
  have notAdmin : ¬ isPlatformAdmin state actor = true := by
    rw [isOrdinary]
    exact Bool.false_ne_true
  have inScope := change.inScope.resolve_left notAdmin
  have spared := change.spared.resolve_left notAdmin
  have roles : changed.roles = target.roles ∨ changed.roles ⊆ ORG_ADMIN_GRANTABLE := by
    cases isNamed : req.roles with
    | none =>
        left
        rw [change.roles, isNamed]
        rfl
    | some names =>
        right
        have isRoles : changed.roles = names.dedup := by
          rw [change.roles, isNamed]
          rfl
        rw [isRoles]
        intro name isIn
        exact granted_subset isOrdinary (change.granted names isNamed)
          (List.mem_dedup.mp isIn)
  -- Moving takes a platform admin, which a change of one's own roles does not make.
  have staysOrdinary : isPlatformAdmin state changed = false := by
    apply eq_false_of_ne_true
    intro isAdmin
    rcases roles with same | grantable
    · rw [isPlatformAdmin_congr same] at isAdmin
      exact spared (isPlatformAdmin_iff.mp isAdmin)
    · exact not_mem_grantable tenancy grantable (Or.inl rfl)
        (isPlatformAdmin_iff.mp isAdmin)
  have stays : changed.organizationId = target.organizationId := by
    rcases change.organization with same | ⟨isAdmin, _⟩
    · exact same
    · split at isAdmin
      · rw [staysOrdinary] at isAdmin
        cases isAdmin
      · exact absurd isAdmin notAdmin
  rw [change.result]
  apply ordinary_write
  rw [change.row]
  exact
    { spared := by
        intro old isOld
        cases isOld
        exact spared
      within := by
        intro old isOld
        cases isOld
        exact ⟨session, actor, rfl, change.signedIn.row, inScope⟩
      roles := by
        intro new isNew
        cases isNew
        exact roles.imp_left fun same => ⟨target, rfl, same⟩
      place := by
        intro new isNew
        cases isNew
        exact Or.inl ⟨session, actor, rfl, change.signedIn.row, stays.trans inScope⟩ }

theorem deleteUser_ordinary {session : Session} {userId : String}
    (plain : ¬ PlatformAdmin state session.user)
    (passed : deleteUser state session userId = .ok after) :
    Ordinary state after (some session) := by
  obtain ⟨actor, target, removal⟩ := deleteUser_eq_ok passed
  have isOrdinary := not_platformAdmin_of_row plain removal.signedIn.row
  have notAdmin : ¬ isPlatformAdmin state actor = true := by
    rw [isOrdinary]
    exact Bool.false_ne_true
  rw [removal.result]
  refine ⟨fun _ => rfl, fun _ => Or.inl rfl, ?_⟩
  intro id
  by_cases same : id = userId
  · subst same
    right
    dsimp only
    rw [AList.lookup_erase, removal.row]
    exact
      { spared := by
          intro old isOld
          cases isOld
          exact removal.spared.resolve_left notAdmin
        within := by
          intro old isOld
          cases isOld
          exact ⟨session, actor, rfl, removal.signedIn.row,
            removal.inScope.resolve_left notAdmin⟩
        roles := fun _ isNone => nomatch isNone
        place := fun _ isNone => nomatch isNone }
  · exact Or.inl (AList.lookup_erase_ne same)

theorem renameOrg_ordinary {session : Session} {orgId : String} {name : Text}
    (plain : ¬ PlatformAdmin state session.user)
    (passed : renameOrg state session orgId name = .ok after) :
    Ordinary state after (some session) := by
  obtain ⟨actor, org, signedIn, isOrg, inScope, isAfter⟩ := renameOrg_eq_ok passed
  have isOrdinary := not_platformAdmin_of_row plain signedIn.row
  have isHome : actor.organizationId = some orgId := by
    apply inScope.resolve_left
    rw [isOrdinary]
    exact Bool.false_ne_true
  rw [isAfter]
  refine ⟨fun _ => rfl, ?_, fun _ => Or.inl rfl⟩
  intro id
  by_cases same : id = orgId
  · subst same
    right
    dsimp only
    rw [AList.lookup_insert, isOrg]
    exact ⟨session, actor, org, _, rfl, signedIn.row, isHome, rfl, rfl, rfl, rfl⟩
  · exact Or.inl (AList.lookup_insert_ne same)

/-! A start of the server that makes no account. -/

theorem emailTaken_iff {email : Text} : emailTaken state email = true ↔
    ∃ id user, state.users.lookup id = some user ∧ user.email = email := by
  unfold emailTaken
  rw [OrderedDict.first_isSome]
  constructor
  · rintro ⟨id, user, isUser, isEmail⟩
    exact ⟨id, user, isUser, of_decide_eq_true isEmail⟩
  · rintro ⟨id, user, isUser, isEmail⟩
    exact ⟨id, user, isUser, decide_eq_true isEmail⟩

theorem seed_roles (tenancy : Tenancy state) (name : String) :
    (seedRolesAndPermissions state).roles.lookup name = state.roles.lookup name := by
  have isSeeded : (seedRolesAndPermissions state).roles = seeded ROLES state.roles := rfl
  rw [isSeeded]
  by_cases known : name ∈ ROLES.map Prod.fst
  · obtain ⟨role, isRole, isName⟩ := List.mem_map.mp known
    rw [← isName, tenancy.catalogue role isRole]
    exact lookup_seeded (by decide) state.roles role isRole
  · exact lookup_seeded_ne known state.roles

theorem backfill_users (tenancy : Tenancy state) (orgId id : String) :
    (backfill state orgId).users.lookup id = state.users.lookup id := by
  unfold backfill
  dsimp only
  rw [OrderedDict.lookup_updateAll_eq_map]
  cases isUser : state.users.lookup id with
  | none =>
      rfl
  | some user =>
      obtain ⟨org, _, isOrg, _⟩ := tenancy.placed id user isUser
      rw [Option.map_some, isOrg, Option.isNone_some, if_neg Bool.false_ne_true]

/-- A restart finds its default organisation and everyone in place. -/
theorem bootstrapDefaultOrg_again {newId orgId : String} (tenancy : Tenancy state)
    (passed : bootstrapDefaultOrg env (seedRolesAndPermissions state) newId =
      .ok (after, orgId)) :
    after = backfill (seedRolesAndPermissions state) orgId := by
  obtain ⟨default, isDefault, rest⟩ := bind_eq_ok passed
  cases default with
  | some id =>
      cases rest
      rfl
  | none =>
      obtain ⟨only, isOnly⟩ := tenancy.oneDefault
      have noDefault : state.organizations.selected Organization.isDefault = ∅ :=
        defaultOrg_none isDefault
      rw [isOnly] at noDefault
      exact absurd noDefault (Set.singleton_ne_empty only)

theorem seeded_tenancy (tenancy : Tenancy state) :
    Tenancy (seedRolesAndPermissions state) :=
  { tenancy with
    catalogue := lookup_seeded (by decide) state.roles }

theorem startup_ordinary {orgId userId : String} {adminEmail adminPassword : Text}
    (tenancy : Tenancy state)
    (unprovisioned : ¬ Provisions env state
      (.startup orgId userId adminEmail adminPassword))
    (passed : startup env state orgId userId adminEmail adminPassword = .ok after) :
    Ordinary state after none := by
  obtain ⟨⟨placed, org⟩, isPlaced, done⟩ := bind_eq_ok passed
  have isBackfilled := bootstrapDefaultOrg_again tenancy isPlaced
  have sameUsers : ∀ id, placed.users.lookup id = state.users.lookup id := by
    intro id
    rw [isBackfilled]
    exact backfill_users (seeded_tenancy tenancy) org id
  have isAfter : after = placed := by
    have isMade : after =
        bootstrapAdmin env placed org userId adminEmail adminPassword := by
      cases done
      rfl
    rw [isMade]
    unfold bootstrapAdmin
    split
    · rfl
    next given =>
      dsimp only
      split
      · rfl
      next free =>
        refine absurd ⟨fun isEmpty => given (Or.inl isEmpty),
          fun isEmpty => given (Or.inr isEmpty), ?_⟩ unprovisioned
        apply eq_false_of_ne_true
        intro isTaken
        apply free
        obtain ⟨id, user, isUser, isEmail⟩ := emailTaken_iff.mp isTaken
        exact emailTaken_iff.mpr ⟨id, user, (sameUsers id).trans isUser, isEmail⟩
  rw [isAfter]
  refine ⟨?_, ?_, fun id => Or.inl (sameUsers id)⟩
  · intro name
    rw [isBackfilled]
    exact seed_roles tenancy name
  · intro id
    rw [isBackfilled]
    exact Or.inl rfl

/-- Everything a request can do that no platform admin makes. -/
theorem step_ordinary {label : Label} (tenancy : Tenancy state)
    (plain : ∀ session, label.session = some session →
      ¬ PlatformAdmin state session.user)
    (unprovisioned : ¬ Provisions env state label)
    (stepped : step env state label = some after) :
    Ordinary state after label.session := by
  cases label with
  | startup orgId userId adminEmail adminPassword =>
      obtain ⟨_, passed⟩ := Option.ite_none_right_eq_some.mp stepped
      exact startup_ordinary tenancy unprovisioned (toOption_eq_some passed)
  | register id email retryAfter =>
      obtain ⟨fresh, passed⟩ := Option.ite_none_right_eq_some.mp stepped
      exact register_ordinary tenancy (Option.isNone_iff_eq_none.mp fresh)
        (toOption_eq_some passed)
  | logout session =>
      exact logout_ordinary (plain session rfl) (toOption_eq_some stepped)
  | createUser session id req =>
      obtain ⟨fresh, passed⟩ := Option.ite_none_right_eq_some.mp stepped
      exact createUser_ordinary (plain session rfl) (Option.isNone_iff_eq_none.mp fresh)
        (toOption_eq_some passed)
  | updateUser session userId req =>
      exact updateUser_ordinary tenancy (plain session rfl) (toOption_eq_some stepped)
  | deleteUser session userId =>
      exact deleteUser_ordinary (plain session rfl) (toOption_eq_some stepped)
  | createOrg session id name =>
      obtain ⟨_, passed⟩ := Option.ite_none_right_eq_some.mp stepped
      obtain ⟨⟨actor, signedIn, allowed⟩, _⟩ := createOrg_eq_ok (toOption_eq_some passed)
      exact absurd ⟨actor, signedIn.row, allowed⟩ (plain session rfl)
  | renameOrg session orgId name =>
      exact renameOrg_ordinary (plain session rfl) (toOption_eq_some stepped)
  | deleteOrg session orgId =>
      obtain ⟨actor, _, signedIn, allowed, _⟩ :=
        deleteOrg_eq_ok (toOption_eq_some stepped)
      exact absurd ⟨actor, signedIn.row, allowed⟩ (plain session rfl)

end DbBuddy.Admin
