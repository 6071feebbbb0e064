import DbBuddy.Admin.Privileges

/-!
# Who can become what

Three facts about whole runs of the administration endpoints: accounts that are no
platform admins make nobody one and manage no more than before; those of one
organisation leave every other one alone; and the platform is never without an
active admin, unless the last one takes the role off itself.
-/

namespace DbBuddy.Admin

open DbBuddy.Library
open DbBuddy.Publishing (bind_eq_ok toOption_eq_some)

variable {env : Environment} {source state after target : State}

theorem lookup_of_fresh {id other : String} {user : User}
    (fresh : state.users.lookup id = none) (isUser : state.users.lookup other = some user) :
    other ≠ id := by
  intro same
  rw [same, fresh] at isUser
  cases isUser

/-! ## No escalation -/

/-- Nobody who is a platform admin at the source acts, and no start of the server
makes one. -/
def Outsiders (env : Environment) (source state : State) (label : Label) : Prop :=
  (∀ session, label.session = some session → ¬ PlatformAdmin source session.user) ∧
    ¬ Provisions env state label

/-- What of the source stays as it was. -/
structure Unescalated (source state : State) : Prop where
  tenancy : Tenancy state
  roles : ∀ name, state.roles.lookup name = source.roles.lookup name
  admins : ∀ id, PlatformAdmin source id →
    state.users.lookup id = source.users.lookup id
  managers : ∀ id permission, permission = "org:manage" ∨ permission = "user:manage" →
    Holds state id permission → Holds source id permission
  organizations : ∀ id,
    (state.organizations.lookup id).map (fun org => (org.slug, org.isDefault)) =
      (source.organizations.lookup id).map fun org => (org.slug, org.isDefault)

theorem Unescalated.platformAdmin (kept : Unescalated source state) {id : String}
    (isAdmin : PlatformAdmin source id) : PlatformAdmin state id := by
  obtain ⟨user, isUser, holds⟩ := isAdmin
  refine ⟨user, ?_, ?_⟩
  · rw [kept.admins id ⟨user, isUser, holds⟩]
    exact isUser
  · rw [permissionNames_congr kept.roles]
    exact holds

/-- A request that touches ordinary accounts only keeps the others as they are. -/
theorem Unescalated.ordinary {session : Option Session} (kept : Unescalated source state)
    (tenancyAfter : Tenancy after) (ordinary : Ordinary state after session) :
    Unescalated source after where
  tenancy := tenancyAfter
  roles name := (ordinary.roles name).trans (kept.roles name)
  admins := by
    intro id isAdmin
    rcases ordinary.users id with same | touched
    · exact same.trans (kept.admins id isAdmin)
    · obtain ⟨user, isUser, holds⟩ := kept.platformAdmin isAdmin
      exact absurd holds (touched.spared user isUser)
  managers := by
    intro id permission isManaging holdsAfter
    obtain ⟨user, isUser, holds⟩ := holdsAfter
    have holdsBefore : permission ∈ permissionNames state user := by
      rw [← permissionNames_congr ordinary.roles]
      exact holds
    apply kept.managers id permission isManaging
    rcases ordinary.users id with same | touched
    · exact ⟨user, same.symm.trans isUser, holdsBefore⟩
    · rcases touched.roles user isUser with ⟨old, isOld, sameRoles⟩ | grantable
      · refine ⟨old, isOld, ?_⟩
        rw [permissionNames, ← sameRoles]
        exact holdsBefore
      · exact absurd holdsBefore (not_mem_grantable kept.tenancy grantable isManaging)
  organizations := by
    intro id
    rw [← kept.organizations id]
    rcases ordinary.organizations id with same | renamed
    · rw [same]
    · obtain ⟨_, _, old, new, _, _, _, isOld, isNew, sameSlug, sameDefault⟩ := renamed
      rw [isOld, isNew, Option.map_some, Option.map_some, sameSlug, sameDefault]

theorem step_unescalated {label : Label} (kept : Unescalated source state)
    (outsiders : Outsiders env source state label)
    (stepped : step env state label = some after) : Unescalated source after := by
  have plain : ∀ session, label.session = some session →
      ¬ PlatformAdmin state session.user := by
    intro session isSession isAdmin
    exact outsiders.1 session isSession
      (kept.managers session.user "org:manage" (Or.inl rfl) isAdmin)
  exact kept.ordinary (step_tenancy kept.tenancy stepped)
    (step_ordinary kept.tenancy plain outsiders.2 stepped)

/-- Whatever accounts request that were no platform admins to begin with: the
platform admins stay the same accounts with the same rows, nobody comes to manage
users who did not, and organisations neither appear nor disappear. -/
theorem no_escalation (reachable : (system env).Reachable source)
    (run : (system env).Reaches (Outsiders env source) source target) :
    (∀ id, PlatformAdmin target id ↔ PlatformAdmin source id) ∧
      (∀ id, PlatformAdmin source id →
        target.users.lookup id = source.users.lookup id) ∧
      (∀ id, Holds target id "user:manage" → Holds source id "user:manage") ∧
      ∀ id, (target.organizations.lookup id).map
          (fun org => (org.slug, org.isDefault)) =
        (source.organizations.lookup id).map fun org => (org.slug, org.isDefault) := by
  have start : Unescalated source source :=
    ⟨tenancy_of_reachable reachable, fun _ => rfl, fun _ _ => rfl,
      fun _ _ _ holds => holds, fun _ => rfl⟩
  have kept := run.preserves (Unescalated source)
    (fun _ _ _ kept outsiders stepped => step_unescalated kept outsiders stepped) start
  refine ⟨?_, kept.admins, ?_, kept.organizations⟩
  · intro id
    exact ⟨kept.managers id "org:manage" (Or.inl rfl), kept.platformAdmin⟩
  · intro id
    exact kept.managers id "user:manage" (Or.inr rfl)

/-- The lead of an organisation takes somebody on and grants a role. -/
def hiring : List Label :=
  [.createUser ⟨"lead", 0⟩ "clerk" { email := "clerk@north.org".toList, role := "user" },
    .updateUser ⟨"lead", 0⟩ "clerk" { roles := some ["analyst", "user"] }]

def hired : State :=
  ((system office).exec staffed hiring).getD staffed

theorem lead_ordinary : ¬ PlatformAdmin staffed "lead" := by
  rintro ⟨user, isUser, holds⟩
  have isLead : staffed.users.lookup "lead" =
      some ⟨"lead@north.org".toList, true, 0, some "north", ["org_admin"]⟩ := rfl
  rw [isLead] at isUser
  cases isUser
  revert holds
  decide

theorem hiring_run :
    (system office).Reaches (Outsiders office staffed) staffed hired := by
  apply TransitionSystem.reaches_of_exec_allowed hiring
  · intro label isIn state
    have allowed : ∀ session, label.session = some session → session.user = "lead" := by
      rcases List.mem_pair.mp isIn with isFirst | isSecond
      · subst isFirst
        rintro _ ⟨⟩
        rfl
      · subst isSecond
        rintro _ ⟨⟩
        rfl
    refine ⟨?_, ?_⟩
    · intro session isSession
      rw [allowed session isSession]
      exact lead_ordinary
    · rcases List.mem_pair.mp isIn with isFirst | isSecond
      · subst isFirst
        exact id
      · subst isSecond
        exact id
  · exact TransitionSystem.exec_eq_getD (by decide)

theorem no_escalation_hired : hired.users.lookup "root" = staffed.users.lookup "root" ∧
    ¬ PlatformAdmin hired "clerk" := by
  have result := no_escalation staffed_reachable hiring_run
  have isRoot : PlatformAdmin staffed "root" :=
    ⟨_, rfl, by decide⟩
  refine ⟨result.2.1 "root" isRoot, ?_⟩
  intro isAdmin
  obtain ⟨user, isUser, _⟩ := (result.1 "clerk").mp isAdmin
  have isNobody : staffed.users.lookup "clerk" = none := rfl
  rw [isNobody] at isUser
  cases isUser

/-! ## Organisations apart -/

/-- Whoever acts is in the organisation and no platform admin. -/
def Insiders (env : Environment) (org : String) (state : State) (label : Label) : Prop :=
  (∀ session, label.session = some session → ∃ actor,
    state.users.lookup session.user = some actor ∧ actor.organizationId = some org ∧
    isPlatformAdmin state actor = false) ∧
    ¬ Provisions env state label

/-- What of the other organisations stays as it was. -/
structure Apart (org : String) (source state : State) : Prop where
  tenancy : Tenancy state
  others : ∀ id user, source.users.lookup id = some user →
    user.organizationId ≠ some org → state.users.lookup id = some user
  newcomers : ∀ id user, state.users.lookup id = some user →
    user.organizationId ≠ some org → source.users.lookup id = some user ∨
      (user.roles = ["analyst"] ∧ ∃ home, user.organizationId = some home ∧
        source.organizations.selected Organization.isDefault = {home})
  organizations : ∀ id, id ≠ org →
    state.organizations.lookup id = source.organizations.lookup id
  sameDefault : state.organizations.selected Organization.isDefault =
    source.organizations.selected Organization.isDefault

theorem Ordinary.sameDefault {session : Option Session}
    (ordinary : Ordinary state after session) :
    after.organizations.selected Organization.isDefault =
      state.organizations.selected Organization.isDefault := by
  ext id
  rcases ordinary.organizations id with same | renamed
  · simp only [OrderedDict.selected, Set.mem_ofPred_eq, same]
  · obtain ⟨_, _, old, new, _, _, _, isOld, isNew, _, sameDefault⟩ := renamed
    rw [OrderedDict.mem_selected isNew, OrderedDict.mem_selected isOld, sameDefault]

/-- Whoever is signed in belongs to the organisation. -/
theorem insider_home {org : String} {session : Option Session} {signed : Session}
    {actor : User} (insiders : ∀ signed, session = some signed → ∃ actor,
      state.users.lookup signed.user = some actor ∧ actor.organizationId = some org ∧
      isPlatformAdmin state actor = false)
    (isSession : session = some signed)
    (isActor : state.users.lookup signed.user = some actor) :
    actor.organizationId = some org := by
  obtain ⟨other, isOther, isHome, _⟩ := insiders signed isSession
  rw [isActor] at isOther
  cases isOther
  exact isHome

theorem Apart.ordinary {org : String} {session : Option Session}
    (kept : Apart org source state) (tenancyAfter : Tenancy after)
    (insiders : ∀ signed, session = some signed → ∃ actor,
      state.users.lookup signed.user = some actor ∧ actor.organizationId = some org ∧
      isPlatformAdmin state actor = false)
    (ordinary : Ordinary state after session) : Apart org source after where
  tenancy := tenancyAfter
  others := by
    intro id user isUser isElsewhere
    have wasThere := kept.others id user isUser isElsewhere
    rcases ordinary.users id with same | touched
    · exact same.trans wasThere
    · obtain ⟨signed, actor, isSession, isActor, sameOrg⟩ :=
        touched.within user wasThere
      rw [sameOrg] at isElsewhere
      exact absurd (insider_home insiders isSession isActor) isElsewhere
  newcomers := by
    intro id user isUser isElsewhere
    rcases ordinary.users id with same | touched
    · exact kept.newcomers id user (same.symm.trans isUser) isElsewhere
    · rcases touched.place user isUser with
        ⟨signed, actor, isSession, isActor, sameOrg⟩ | ⟨_, isAnalyst, home, isHome, isDefault⟩
      · rw [sameOrg] at isElsewhere
        exact absurd (insider_home insiders isSession isActor) isElsewhere
      · exact Or.inr ⟨isAnalyst, home, isHome, kept.sameDefault.symm.trans isDefault⟩
  organizations := by
    intro id different
    rcases ordinary.organizations id with same | renamed
    · exact same.trans (kept.organizations id different)
    · obtain ⟨signed, actor, _, _, isSession, isActor, isOrg, _⟩ := renamed
      rw [insider_home insiders isSession isActor] at isOrg
      exact absurd (Option.some.inj isOrg).symm different
  sameDefault := ordinary.sameDefault.trans kept.sameDefault

theorem step_apart {org : String} {label : Label} (kept : Apart org source state)
    (insiders : Insiders env org state label)
    (stepped : step env state label = some after) : Apart org source after := by
  apply kept.ordinary (step_tenancy kept.tenancy stepped) insiders.1
  apply step_ordinary kept.tenancy ?_ insiders.2 stepped
  intro session isSession isAdmin
  obtain ⟨actor, isActor, _, isOrdinary⟩ := insiders.1 session isSession
  obtain ⟨user, isUser, holds⟩ := isAdmin
  rw [isActor] at isUser
  cases isUser
  rw [isPlatformAdmin_iff.mpr holds] at isOrdinary
  cases isOrdinary

/-- Requests of one organisation's own accounts, none of them a platform admin's,
leave the accounts of the others and the other organisations exactly as they were;
beside them only self-registered analysts of the default organisation appear. -/
theorem organizations_apart {org : String} (reachable : (system env).Reachable source)
    (run : (system env).Reaches (Insiders env org) source target) :
    (∀ id user, source.users.lookup id = some user →
        user.organizationId ≠ some org → target.users.lookup id = some user) ∧
      (∀ id user, target.users.lookup id = some user →
        user.organizationId ≠ some org → source.users.lookup id = some user ∨
          (user.roles = ["analyst"] ∧ ∃ home, user.organizationId = some home ∧
            source.organizations.selected Organization.isDefault = {home})) ∧
      ∀ id, id ≠ org →
        target.organizations.lookup id = source.organizations.lookup id := by
  have start : Apart org source source :=
    ⟨tenancy_of_reachable reachable, fun _ _ isUser _ => isUser,
      fun _ _ isUser _ => Or.inl isUser, fun _ _ => rfl, rfl⟩
  have kept := run.preserves (Apart org source)
    (fun _ _ _ kept insiders stepped => step_apart kept insiders stepped) start
  exact ⟨kept.others, kept.newcomers, kept.organizations⟩

def renamed : State :=
  (step office staffed (.renameOrg ⟨"lead", 0⟩ "north" "Northern".toList)).getD staffed

theorem organizations_apart_renamed :
    renamed.organizations.lookup "main" = staffed.organizations.lookup "main" := by
  have insiders : Insiders office "north" staffed
      (.renameOrg ⟨"lead", 0⟩ "north" "Northern".toList) := by
    refine ⟨?_, id⟩
    rintro _ ⟨⟩
    exact ⟨_, rfl, rfl, by decide⟩
  have run : (system office).Reaches (Insiders office "north") staffed renamed :=
    TransitionSystem.Reaches.single _ insiders rfl
  exact (organizations_apart staffed_reachable run).2.2 "main" (by decide)

/-! ## An admin survives -/

/-- Somebody can sign in who manages the platform. -/
def ActiveAdmin (state : State) : Prop :=
  ∃ id user, state.users.lookup id = some user ∧ user.isActive = true ∧
    "org:manage" ∈ permissionNames state user

/-- A request to give one's own account roles that do not manage the platform. -/
def StepsDown (state : State) : Label → Prop
  | .updateUser session userId req => userId = session.user ∧
      ∃ names, req.roles = some names ∧ "org:manage" ∉ rolePermissions state names
  | _ => False

/-- Writing another account leaves the admin in place. -/
theorem ActiveAdmin.write {id : String} {admin user : User} {other : String}
    (isAdmin : state.users.lookup id = some admin) (active : admin.isActive = true)
    (holds : "org:manage" ∈ permissionNames state admin) (different : id ≠ other) :
    ActiveAdmin { state with users := state.users.insert other user } :=
  ⟨id, admin, (AList.lookup_insert_ne different).trans isAdmin, active, holds⟩

theorem updateUser_active {session : Session} {userId : String} {req : AdminUserPatch}
    (someone : ActiveAdmin state) (stays : ¬ StepsDown state (.updateUser session userId req))
    (passed : updateUser state session userId req = .ok after) : ActiveAdmin after := by
  obtain ⟨id, admin, isAdmin, active, holds⟩ := someone
  obtain ⟨actor, target, changed, change⟩ := updateUser_eq_ok passed
  rw [change.result]
  by_cases same : id = userId
  · subst same
    have isTarget : target = admin := by
      have row := change.row
      rw [isAdmin] at row
      exact (Option.some.inj row).symm
    by_cases isSelf : id = session.user
    · refine ⟨id, changed, AList.lookup_insert state.users, change.active isSelf, ?_⟩
      show "org:manage" ∈ rolePermissions state changed.roles
      rw [change.roles]
      cases isNamed : req.roles with
      | none =>
          rw [isTarget]
          exact holds
      | some names =>
          by_contra lost
          apply stays
          refine ⟨isSelf, names, isNamed, ?_⟩
          intro kept
          exact lost (mem_rolePermissions_dedup.mpr kept)
    · -- Only a platform admin may change one, and the actor stays.
      have isActing : isPlatformAdmin state actor = true := by
        rcases change.spared with isActing | spared
        · exact isActing
        · rw [isTarget] at spared
          exact absurd holds spared
      exact ActiveAdmin.write change.signedIn.row change.signedIn.active
        (isPlatformAdmin_iff.mp isActing) (Ne.symm isSelf)
  · exact ActiveAdmin.write isAdmin active holds same

theorem deleteUser_active {session : Session} {userId : String}
    (someone : ActiveAdmin state)
    (passed : deleteUser state session userId = .ok after) : ActiveAdmin after := by
  obtain ⟨id, admin, isAdmin, active, holds⟩ := someone
  obtain ⟨actor, target, removal⟩ := deleteUser_eq_ok passed
  rw [removal.result]
  by_cases same : id = userId
  · subst same
    have isActing : isPlatformAdmin state actor = true := by
      rcases removal.spared with isActing | spared
      · exact isActing
      · have row := removal.row
        rw [isAdmin] at row
        cases row
        exact absurd holds spared
    exact ⟨session.user, actor,
      (AList.lookup_erase_ne (Ne.symm removal.other)).trans removal.signedIn.row,
      removal.signedIn.active, isPlatformAdmin_iff.mp isActing⟩
  · exact ⟨id, admin, (AList.lookup_erase_ne same).trans isAdmin, active, holds⟩

theorem logout_active {session : Session} (someone : ActiveAdmin state)
    (passed : logout state session = .ok after) : ActiveAdmin after := by
  obtain ⟨id, admin, isAdmin, active, holds⟩ := someone
  obtain ⟨actor, signedIn, isAfter⟩ := logout_eq_ok passed
  rw [isAfter]
  by_cases same : id = session.user
  · subst same
    have row := signedIn.row
    rw [isAdmin] at row
    cases row
    exact ⟨session.user, _, AList.lookup_insert state.users, active, holds⟩
  · exact ActiveAdmin.write isAdmin active holds same

theorem startup_active {orgId userId : String} {adminEmail adminPassword : Text}
    (tenancy : Tenancy state) (someone : ActiveAdmin state)
    (fresh : state.users.lookup userId = none)
    (passed : startup env state orgId userId adminEmail adminPassword = .ok after) :
    ActiveAdmin after := by
  obtain ⟨id, admin, isAdmin, active, holds⟩ := someone
  obtain ⟨⟨placed, org⟩, isPlaced, done⟩ := bind_eq_ok passed
  have isBackfilled := bootstrapDefaultOrg_again tenancy isPlaced
  have isAdminPlaced : placed.users.lookup id = some admin := by
    rw [isBackfilled]
    exact (backfill_users (seeded_tenancy tenancy) org id).trans isAdmin
  have holdsPlaced : "org:manage" ∈ permissionNames placed admin := by
    rw [isBackfilled]
    show "org:manage" ∈ rolePermissions (seedRolesAndPermissions state) admin.roles
    rw [rolePermissions_congr (seed_roles tenancy)]
    exact holds
  have isMade : after = bootstrapAdmin env placed org userId adminEmail adminPassword := by
    cases done
    rfl
  rw [isMade]
  unfold bootstrapAdmin
  split
  · exact ⟨id, admin, isAdminPlaced, active, holdsPlaced⟩
  · dsimp only
    split
    · exact ⟨id, admin, isAdminPlaced, active, holdsPlaced⟩
    · exact ActiveAdmin.write isAdminPlaced active holdsPlaced
        (lookup_of_fresh fresh isAdmin)

theorem step_active {label : Label} (tenancy : Tenancy state) (someone : ActiveAdmin state)
    (stays : ¬ StepsDown state label) (stepped : step env state label = some after) :
    ActiveAdmin after := by
  cases label with
  | startup orgId userId adminEmail adminPassword =>
      obtain ⟨fresh, passed⟩ := Option.ite_none_right_eq_some.mp stepped
      exact startup_active tenancy someone
        (Option.isNone_iff_eq_none.mp (Bool.and_eq_true_iff.mp fresh).2)
        (toOption_eq_some passed)
  | register id email retryAfter =>
      obtain ⟨fresh, passed⟩ := Option.ite_none_right_eq_some.mp stepped
      obtain ⟨_, _, registration⟩ := register_eq_ok (toOption_eq_some passed)
      obtain ⟨adminId, admin, isAdmin, active, holds⟩ := someone
      rw [registration.result]
      exact ActiveAdmin.write isAdmin active holds
        (lookup_of_fresh (Option.isNone_iff_eq_none.mp fresh) isAdmin)
  | logout session =>
      exact logout_active someone (toOption_eq_some stepped)
  | createUser session id req =>
      obtain ⟨fresh, passed⟩ := Option.ite_none_right_eq_some.mp stepped
      obtain ⟨_, _, creation⟩ := createUser_eq_ok (toOption_eq_some passed)
      obtain ⟨adminId, admin, isAdmin, active, holds⟩ := someone
      rw [creation.result]
      exact ActiveAdmin.write isAdmin active holds
        (lookup_of_fresh (Option.isNone_iff_eq_none.mp fresh) isAdmin)
  | updateUser session userId req =>
      exact updateUser_active someone stays (toOption_eq_some stepped)
  | deleteUser session userId =>
      exact deleteUser_active someone (toOption_eq_some stepped)
  | createOrg session id name =>
      obtain ⟨_, passed⟩ := Option.ite_none_right_eq_some.mp stepped
      obtain ⟨_, isAfter⟩ := createOrg_eq_ok (toOption_eq_some passed)
      rw [isAfter]
      exact someone
  | renameOrg session orgId name =>
      obtain ⟨_, _, _, _, _, isAfter⟩ := renameOrg_eq_ok (toOption_eq_some stepped)
      rw [isAfter]
      exact someone
  | deleteOrg session orgId =>
      obtain ⟨_, _, _, _, _, _, _, isAfter⟩ := deleteOrg_eq_ok (toOption_eq_some stepped)
      rw [isAfter]
      exact someone

/-- Where there is an active platform admin there is one after any run, in which
admins may deactivate, demote, move and delete one another, as long as none steps
down from its own account.  A request is one step. -/
theorem admin_survives (reachable : (system env).Reachable source)
    (someone : ActiveAdmin source)
    (run : (system env).Reaches (fun state label => ¬ StepsDown state label)
      source target) : ActiveAdmin target := by
  have start : Tenancy source ∧ ActiveAdmin source :=
    ⟨tenancy_of_reachable reachable, someone⟩
  have kept := run.preserves (fun state => Tenancy state ∧ ActiveAdmin state)
    (fun _ _ _ kept stays stepped =>
      ⟨step_tenancy kept.1 stepped, step_active kept.1 kept.2 stays stepped⟩) start
  exact kept.2

/-- The admin has a deputy, who demotes the admin. -/
def deposing : List Label :=
  [.createUser ⟨"root", 0⟩ "deputy" { email := "deputy@acme.org".toList, role := "admin" },
    .updateUser ⟨"deputy", 0⟩ "root" { roles := some ["user"] }]

def deposed : State :=
  ((system office).exec staffed deposing).getD staffed

theorem admin_survives_deposed : ActiveAdmin deposed := by
  apply admin_survives staffed_reachable
  · exact ⟨"root", _, rfl, rfl, by decide⟩
  · apply TransitionSystem.reaches_of_exec_allowed deposing
    · intro label isIn state
      rcases List.mem_pair.mp isIn with isFirst | isSecond
      · subst isFirst
        exact id
      · subst isSecond
        rintro ⟨same, _⟩
        exact absurd same (by decide)
    · exact TransitionSystem.exec_eq_getD (by decide)

end DbBuddy.Admin
