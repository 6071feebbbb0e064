import DbBuddy.Admin.Endpoints
import DbBuddy.Admin.Slugs

/-!
# Every account belongs to an organisation

From the first start of the server on, whatever is requested: there is one default
organisation, every account is in an organisation that exists, no two organisations
share a slug and no two accounts an address, and the roles are those of the
catalogue.
-/

namespace DbBuddy.Admin

open DbBuddy.Library
open DbBuddy.Library.OrderedDict (Distinct)
open DbBuddy.Publishing (bind_eq_ok check_eq_ok found_eq_ok toOption_eq_some)

/-- What the tables of a running server satisfy. -/
structure Tenancy (state : State) : Prop where
  oneDefault : ∃ id, state.organizations.selected Organization.isDefault = {id}
  placed : ∀ id user, state.users.lookup id = some user →
    ∃ org row, user.organizationId = some org ∧ state.organizations.lookup org = some row
  slugs : Distinct state.organizations Organization.slug
  handles : ∀ id org, state.organizations.lookup id = some org → IsSlug org.slug
  emails : Distinct state.users User.email
  catalogue : ∀ role ∈ ROLES, state.roles.lookup role.1 = some ⟨role.2⟩

variable {env : Environment} {state after : State}

/-! ## The default organisation -/

theorem defaultOrg_some {id : String} (isDefault : defaultOrg state = .ok (some id)) :
    state.organizations.selected Organization.isDefault = {id} := by
  unfold defaultOrg at isDefault
  split at isDefault
  · cases isDefault
  next only isOnly =>
    cases isDefault
    ext other
    rw [← OrderedDict.mem_keysOf, isOnly, List.mem_singleton, Set.mem_singleton_iff]
  · cases isDefault

theorem defaultOrg_none (isNone : defaultOrg state = .ok none) :
    state.organizations.selected Organization.isDefault = ∅ := by
  unfold defaultOrg at isNone
  split at isNone
  next noKey =>
    refine Set.eq_empty_of_forall_notMem ?_
    intro id isSelected
    have isKey := OrderedDict.mem_keysOf.mpr isSelected
    rw [noKey] at isKey
    exact absurd isKey List.not_mem_nil
  · cases isNone
  · cases isNone

theorem lookup_of_default {id : String}
    (isDefault : state.organizations.selected Organization.isDefault = {id}) :
    ∃ org, state.organizations.lookup id = some org := by
  have isSelected : id ∈ state.organizations.selected Organization.isDefault := by
    rw [isDefault]
    exact rfl
  obtain ⟨org, isOrg, _⟩ := isSelected
  exact ⟨org, isOrg⟩

/-! ## Accounts -/

/-- Writing an account with an organisation and an address of its own. -/
theorem Tenancy.writeUser {id : String} {user : User} (tenancy : Tenancy state)
    (placed : ∃ org row, user.organizationId = some org ∧
      state.organizations.lookup org = some row)
    (own : ∀ other second, other ≠ id → state.users.lookup other = some second →
      second.email ≠ user.email) :
    Tenancy { state with users := state.users.insert id user } where
  oneDefault := tenancy.oneDefault
  placed := by
    intro other second isSecond
    rcases OrderedDict.lookup_insert_cases isSecond with ⟨_, isNew⟩ | ⟨_, wasThere⟩
    · rw [isNew]
      exact placed
    · exact tenancy.placed other second wasThere
  slugs := tenancy.slugs
  handles := tenancy.handles
  emails := tenancy.emails.insert own
  catalogue := tenancy.catalogue

/-- Changing an account that stays at its address. -/
theorem Tenancy.changeUser {id : String} {user target : User} (tenancy : Tenancy state)
    (isTarget : state.users.lookup id = some target) (sameEmail : user.email = target.email)
    (placed : ∃ org row, user.organizationId = some org ∧
      state.organizations.lookup org = some row) :
    Tenancy { state with users := state.users.insert id user } := by
  apply tenancy.writeUser placed
  intro other second otherNe isSecond same
  exact otherNe (tenancy.emails other id second target isSecond isTarget
    (same.trans sameEmail))

theorem email_ne {id : String} {user : User} {email : Text}
    (free : emailTaken state email = false) (present : state.users.lookup id = some user) :
    user.email ≠ email :=
  OrderedDict.ne_of_first_isNone free present

theorem logout_tenancy {session : Session} (tenancy : Tenancy state)
    (passed : logout state session = .ok after) : Tenancy after := by
  obtain ⟨actor, signedIn, isAfter⟩ := logout_eq_ok passed
  rw [isAfter]
  exact tenancy.changeUser signedIn.row rfl (tenancy.placed _ actor signedIn.row)

theorem register_tenancy {id : String} {email : Text} {retryAfter : ℕ}
    (tenancy : Tenancy state)
    (passed : register env state id email retryAfter = .ok after) : Tenancy after := by
  obtain ⟨org, created, registration⟩ := register_eq_ok passed
  obtain ⟨row, isRow⟩ := lookup_of_default (defaultOrg_some registration.isDefault)
  rw [registration.result]
  apply tenancy.writeUser ⟨org, row, registration.organization, isRow⟩
  intro other second _ isSecond
  exact email_ne registration.free isSecond

theorem createUser_tenancy {session : Session} {id : String} {req : AdminUserCreate}
    (tenancy : Tenancy state)
    (passed : createUser env state session id req = .ok after) : Tenancy after := by
  obtain ⟨actor, created, creation⟩ := createUser_eq_ok passed
  rw [creation.result]
  apply tenancy.writeUser
  · rcases creation.organization with same | ⟨_, placed⟩
    · rw [same]
      exact tenancy.placed _ actor creation.signedIn.row
    · exact placed
  · intro other second _ isSecond
    exact email_ne creation.free isSecond

theorem updateUser_tenancy {session : Session} {userId : String} {req : AdminUserPatch}
    (tenancy : Tenancy state)
    (passed : updateUser state session userId req = .ok after) : Tenancy after := by
  obtain ⟨actor, target, changed, change⟩ := updateUser_eq_ok passed
  rw [change.result]
  apply tenancy.changeUser change.row change.email
  rcases change.organization with same | ⟨_, placed⟩
  · rw [same]
    exact tenancy.placed userId target change.row
  · exact placed

theorem deleteUser_tenancy {session : Session} {userId : String}
    (tenancy : Tenancy state)
    (passed : deleteUser state session userId = .ok after) : Tenancy after := by
  obtain ⟨_, _, removal⟩ := deleteUser_eq_ok passed
  rw [removal.result]
  exact
    { oneDefault := tenancy.oneDefault
      placed := fun id user isUser =>
        tenancy.placed id user (OrderedDict.lookup_erase_cases isUser).2
      slugs := tenancy.slugs
      handles := tenancy.handles
      emails := tenancy.emails.erase
      catalogue := tenancy.catalogue }

/-! ## Organisations -/

theorem slug_ne {id : String} {org : Organization} {name : Text}
    (present : state.organizations.lookup id = some org) :
    org.slug ≠ uniqueSlug env.lowercase state name :=
  OrderedDict.ne_of_first_isNone (uniqueSlug_free state name) present

theorem createOrg_tenancy {session : Session} {id : String} {name : Text}
    (tenancy : Tenancy state) (fresh : state.organizations.lookup id = none)
    (passed : createOrg env state session id name = .ok after) : Tenancy after := by
  obtain ⟨_, isAfter⟩ := createOrg_eq_ok passed
  rw [isAfter]
  refine
    { oneDefault := ?_
      placed := ?_
      slugs := ?_
      handles := ?_
      emails := tenancy.emails
      catalogue := tenancy.catalogue }
  · obtain ⟨only, isOnly⟩ := tenancy.oneDefault
    refine ⟨only, ?_⟩
    dsimp only
    rw [OrderedDict.selected_insert fresh]
    exact (if_neg Bool.false_ne_true).trans isOnly
  · intro other user isUser
    obtain ⟨org, row, isOrg, isRow⟩ := tenancy.placed other user isUser
    have stays : (state.organizations.insert id
        ⟨strip name, uniqueSlug env.lowercase state name, false⟩).lookup org ≠ none := by
      apply OrderedDict.lookup_insert_ne_none
      rw [isRow]
      exact Option.some_ne_none row
    obtain ⟨kept, isKept⟩ := Option.ne_none_iff_exists'.mp stays
    exact ⟨org, kept, isOrg, isKept⟩
  · apply tenancy.slugs.insert
    intro other second _ isSecond
    exact slug_ne isSecond
  · intro other org isOrg
    rcases OrderedDict.lookup_insert_cases isOrg with ⟨_, isNew⟩ | ⟨_, wasThere⟩
    · rw [isNew]
      exact uniqueSlug_isSlug state name
    · exact tenancy.handles other org wasThere

theorem renameOrg_tenancy {session : Session} {orgId : String} {name : Text}
    (tenancy : Tenancy state)
    (passed : renameOrg state session orgId name = .ok after) : Tenancy after := by
  obtain ⟨_, org, _, isOrg, _, isAfter⟩ := renameOrg_eq_ok passed
  have rows : ∀ other row, (state.organizations.insert orgId
      { org with name := strip name }).lookup other = some row →
      ∃ old, state.organizations.lookup other = some old ∧ row.slug = old.slug ∧
        row.isDefault = old.isDefault := by
    intro other row isRow
    rcases OrderedDict.lookup_insert_cases isRow with ⟨isOther, isNew⟩ | ⟨_, wasThere⟩
    · subst isOther isNew
      exact ⟨org, isOrg, rfl, rfl⟩
    · exact ⟨row, wasThere, rfl, rfl⟩
  rw [isAfter]
  refine
    { oneDefault := ?_
      placed := ?_
      slugs := tenancy.slugs.rewrite isOrg rfl
      handles := ?_
      emails := tenancy.emails
      catalogue := tenancy.catalogue }
  · obtain ⟨only, isOnly⟩ := tenancy.oneDefault
    refine ⟨only, ?_⟩
    rw [← isOnly]
    ext other
    by_cases isRenamed : other = orgId
    · subst isRenamed
      rw [OrderedDict.mem_selected isOrg,
        OrderedDict.mem_selected (AList.lookup_insert state.organizations)]
    · simp only [OrderedDict.selected, Set.mem_ofPred_eq, AList.lookup_insert_ne isRenamed]
  · intro other user isUser
    obtain ⟨home, row, isHome, isRow⟩ := tenancy.placed other user isUser
    have stays : (state.organizations.insert orgId
        { org with name := strip name }).lookup home ≠ none := by
      apply OrderedDict.lookup_insert_ne_none
      rw [isRow]
      exact Option.some_ne_none row
    obtain ⟨kept, isKept⟩ := Option.ne_none_iff_exists'.mp stays
    exact ⟨home, kept, isHome, isKept⟩
  · intro other row isRow
    obtain ⟨old, wasThere, sameSlug, _⟩ := rows other row isRow
    rw [sameSlug]
    exact tenancy.handles other old wasThere

theorem deleteOrg_tenancy {session : Session} {orgId : String}
    (tenancy : Tenancy state)
    (passed : deleteOrg state session orgId = .ok after) : Tenancy after := by
  obtain ⟨_, org, _, _, isOrg, isOrdinary, isEmpty, isAfter⟩ := deleteOrg_eq_ok passed
  have otherThan : ∀ {id row}, state.organizations.lookup id = some row → id ≠ orgId →
      (state.organizations.erase orgId).lookup id = some row := by
    intro id row isRow different
    rw [AList.lookup_erase_ne different]
    exact isRow
  rw [isAfter]
  refine
    { oneDefault := ?_
      placed := ?_
      slugs := tenancy.slugs.erase
      handles := fun id row isRow =>
        tenancy.handles id row (OrderedDict.lookup_erase_cases isRow).2
      emails := tenancy.emails
      catalogue := tenancy.catalogue }
  · obtain ⟨only, isOnly⟩ := tenancy.oneDefault
    refine ⟨only, ?_⟩
    rw [← isOnly]
    ext id
    constructor
    · rintro ⟨row, isRow, passes⟩
      exact ⟨row, (OrderedDict.lookup_erase_cases isRow).2, passes⟩
    · rintro ⟨row, isRow, passes⟩
      refine ⟨row, otherThan isRow ?_, passes⟩
      intro same
      rw [same, isOrg] at isRow
      cases isRow
      rw [isOrdinary] at passes
      cases passes
  · intro id user isUser
    obtain ⟨home, row, isHome, isRow⟩ := tenancy.placed id user isUser
    refine ⟨home, row, isHome, otherThan isRow ?_⟩
    intro same
    have noMember := List.length_eq_zero_iff.mp isEmpty
    have isMember : id ∈ state.users.keysOf
        fun user => decide (user.organizationId = some orgId) := by
      apply OrderedDict.mem_keysOf.mpr
      exact ⟨user, isUser, decide_eq_true (by rw [isHome, same])⟩
    rw [noMember] at isMember
    exact absurd isMember List.not_mem_nil

/-! ## Starting the server -/

/-- The roles that the catalogue seeds. -/
def seeded (rows : List (String × List String)) (roles : Publishing.Table Role) :
    Publishing.Table Role :=
  rows.foldl (fun roles role => roles.insert role.1 ⟨role.2⟩) roles

theorem lookup_seeded_ne {rows : List (String × List String)} {name : String}
    (absent : name ∉ rows.map Prod.fst) (roles : Publishing.Table Role) :
    (seeded rows roles).lookup name = roles.lookup name := by
  induction rows generalizing roles with
  | nil =>
      rfl
  | cons role rest inductionHypothesis =>
      rw [List.map_cons, List.mem_cons, not_or] at absent
      calc (seeded (role :: rest) roles).lookup name
          = (seeded rest (roles.insert role.1 ⟨role.2⟩)).lookup name := rfl
        _ = (roles.insert role.1 ⟨role.2⟩).lookup name := inductionHypothesis absent.2 _
        _ = roles.lookup name := AList.lookup_insert_ne absent.1

theorem lookup_seeded {rows : List (String × List String)}
    (named : (rows.map Prod.fst).Nodup) (roles : Publishing.Table Role) :
    ∀ role ∈ rows, (seeded rows roles).lookup role.1 = some ⟨role.2⟩ := by
  induction rows generalizing roles with
  | nil =>
      intro role isIn
      exact absurd isIn List.not_mem_nil
  | cons first rest inductionHypothesis =>
      rw [List.map_cons, List.nodup_cons] at named
      intro role isIn
      rcases List.mem_cons.mp isIn with isFirst | isBehind
      · subst isFirst
        calc (seeded (role :: rest) roles).lookup role.1
            = (seeded rest (roles.insert role.1 ⟨role.2⟩)).lookup role.1 := rfl
          _ = (roles.insert role.1 ⟨role.2⟩).lookup role.1 :=
              lookup_seeded_ne named.1 _
          _ = some ⟨role.2⟩ := AList.lookup_insert roles
      · exact inductionHypothesis named.2 _ role isBehind

/-- Tables that the server can be started on: accounts may be without an
organisation, but not in one that is gone. -/
structure Startable (state : State) : Prop where
  placed : ∀ id user org, state.users.lookup id = some user →
    user.organizationId = some org → ∃ row, state.organizations.lookup org = some row
  slugs : Distinct state.organizations Organization.slug
  handles : ∀ id org, state.organizations.lookup id = some org → IsSlug org.slug
  emails : Distinct state.users User.email

theorem Legacy.startable (legacy : Legacy state) : Startable state where
  placed := by
    intro id user org isUser isOrg
    rw [legacy.orgless id user isUser] at isOrg
    cases isOrg
  slugs := by
    rw [legacy.organizations]
    exact OrderedDict.distinct_empty
  handles := by
    intro id org isOrg
    rw [legacy.organizations, AList.lookup_empty] at isOrg
    cases isOrg
  emails := legacy.emails

theorem Tenancy.startable (tenancy : Tenancy state) : Startable state where
  placed := by
    intro id user org isUser isOrg
    obtain ⟨home, row, isHome, isRow⟩ := tenancy.placed id user isUser
    rw [isHome] at isOrg
    cases isOrg
    exact ⟨row, isRow⟩
  slugs := tenancy.slugs
  handles := tenancy.handles
  emails := tenancy.emails

/-- The accounts without an organisation put into one that exists. -/
theorem backfill_tenancy {orgId : String} (startable : Startable state)
    (isDefault : state.organizations.selected Organization.isDefault = {orgId})
    (catalogue : ∀ role ∈ ROLES, state.roles.lookup role.1 = some ⟨role.2⟩) :
    Tenancy (backfill state orgId) where
  oneDefault := ⟨orgId, isDefault⟩
  placed := by
    intro id user isUser
    obtain ⟨old, wasThere, isUser⟩ := OrderedDict.lookup_updateAll isUser
    obtain ⟨row, isRow⟩ := lookup_of_default isDefault
    cases isHome : old.organizationId with
    | none =>
        rw [isHome, Option.isNone_none, if_pos rfl] at isUser
        rw [isUser]
        exact ⟨orgId, row, rfl, isRow⟩
    | some home =>
        rw [isHome, Option.isNone_some, if_neg Bool.false_ne_true] at isUser
        rw [isUser]
        obtain ⟨place, isPlace⟩ := startable.placed id old home wasThere isHome
        exact ⟨home, place, isHome, isPlace⟩
  slugs := startable.slugs
  handles := startable.handles
  emails := startable.emails.updateAll fun _ => rfl
  catalogue := catalogue

theorem bootstrapDefaultOrg_tenancy {newId orgId : String} (startable : Startable state)
    (fresh : state.organizations.lookup newId = none)
    (catalogue : ∀ role ∈ ROLES, state.roles.lookup role.1 = some ⟨role.2⟩)
    (passed : bootstrapDefaultOrg env state newId = .ok (after, orgId)) :
    Tenancy after ∧ ∃ row, after.organizations.lookup orgId = some row := by
  obtain ⟨default, isDefault, rest⟩ := bind_eq_ok passed
  cases default with
  | some id =>
      cases rest
      have only := defaultOrg_some isDefault
      exact ⟨backfill_tenancy startable only catalogue, lookup_of_default only⟩
  | none =>
      cases rest
      let org : Organization :=
        ⟨DEFAULT_ORG_NAME, uniqueSlug env.lowercase state "default".toList, true⟩
      have only : OrderedDict.selected (state.organizations.insert newId org)
          Organization.isDefault = {newId} := by
        rw [OrderedDict.selected_insert fresh, defaultOrg_none isDefault]
        exact (if_pos rfl).trans (insert_empty_eq newId)
      refine ⟨backfill_tenancy ?_ only catalogue, lookup_of_default only⟩
      refine
        { placed := ?_
          slugs := ?_
          handles := ?_
          emails := startable.emails }
      · intro id user home isUser isHome
        obtain ⟨row, isRow⟩ := startable.placed id user home isUser isHome
        have stays : (state.organizations.insert newId org).lookup home ≠ none := by
          apply OrderedDict.lookup_insert_ne_none
          rw [isRow]
          exact Option.some_ne_none row
        exact Option.ne_none_iff_exists'.mp stays
      · apply startable.slugs.insert
        intro other second _ isSecond
        exact slug_ne isSecond
      · intro other row isRow
        rcases OrderedDict.lookup_insert_cases isRow with ⟨_, isNew⟩ | ⟨_, wasThere⟩
        · rw [isNew]
          exact uniqueSlug_isSlug state "default".toList
        · exact startable.handles other row wasThere

theorem bootstrapAdmin_tenancy {orgId newId : String} {adminEmail adminPassword : Text}
    (tenancy : Tenancy state)
    (isOrg : ∃ row, state.organizations.lookup orgId = some row) :
    Tenancy (bootstrapAdmin env state orgId newId adminEmail adminPassword) := by
  unfold bootstrapAdmin
  split
  · exact tenancy
  · dsimp only
    split
    · exact tenancy
    next free =>
      obtain ⟨row, isRow⟩ := isOrg
      apply tenancy.writeUser ⟨orgId, row, rfl, isRow⟩
      intro other second _ isSecond
      exact email_ne (eq_false_of_ne_true free) isSecond

theorem startup_tenancy {orgId userId : String} {adminEmail adminPassword : Text}
    (startable : Startable state) (fresh : state.organizations.lookup orgId = none)
    (passed : startup env state orgId userId adminEmail adminPassword = .ok after) :
    Tenancy after := by
  obtain ⟨⟨placed, org⟩, isPlaced, done⟩ := bind_eq_ok passed
  cases done
  have seededRoles : ∀ role ∈ ROLES,
      (seedRolesAndPermissions state).roles.lookup role.1 = some ⟨role.2⟩ :=
    lookup_seeded (by decide) state.roles
  have startableSeeded : Startable (seedRolesAndPermissions state) :=
    ⟨startable.placed, startable.slugs, startable.handles, startable.emails⟩
  obtain ⟨tenancy, isOrg⟩ :=
    bootstrapDefaultOrg_tenancy startableSeeded fresh seededRoles isPlaced
  exact bootstrapAdmin_tenancy tenancy isOrg

/-! ## Every run -/

theorem freshOrg_lookup {id : String} (fresh : freshOrg state id = true) :
    state.organizations.lookup id = none :=
  Option.isNone_iff_eq_none.mp (Bool.and_eq_true_iff.mp fresh).1

theorem step_tenancy {label : Label} (tenancy : Tenancy state)
    (stepped : step env state label = some after) : Tenancy after := by
  cases label with
  | startup orgId userId adminEmail adminPassword =>
      obtain ⟨fresh, passed⟩ := Option.ite_none_right_eq_some.mp stepped
      exact startup_tenancy tenancy.startable
        (freshOrg_lookup (Bool.and_eq_true_iff.mp fresh).1) (toOption_eq_some passed)
  | register id email retryAfter =>
      obtain ⟨_, passed⟩ := Option.ite_none_right_eq_some.mp stepped
      exact register_tenancy tenancy (toOption_eq_some passed)
  | logout session =>
      exact logout_tenancy tenancy (toOption_eq_some stepped)
  | createUser session id req =>
      obtain ⟨_, passed⟩ := Option.ite_none_right_eq_some.mp stepped
      exact createUser_tenancy tenancy (toOption_eq_some passed)
  | updateUser session userId req =>
      exact updateUser_tenancy tenancy (toOption_eq_some stepped)
  | deleteUser session userId =>
      exact deleteUser_tenancy tenancy (toOption_eq_some stepped)
  | createOrg session id name =>
      obtain ⟨fresh, passed⟩ := Option.ite_none_right_eq_some.mp stepped
      exact createOrg_tenancy tenancy (freshOrg_lookup fresh) (toOption_eq_some passed)
  | renameOrg session orgId name =>
      exact renameOrg_tenancy tenancy (toOption_eq_some stepped)
  | deleteOrg session orgId =>
      exact deleteOrg_tenancy tenancy (toOption_eq_some stepped)

theorem initial_tenancy (isInitial : Initial env state) : Tenancy state := by
  obtain ⟨legacy, orgId, userId, adminEmail, adminPassword, isLegacy, started⟩ := isInitial
  obtain ⟨fresh, passed⟩ := Option.ite_none_right_eq_some.mp started
  exact startup_tenancy isLegacy.startable
    (freshOrg_lookup (Bool.and_eq_true_iff.mp fresh).1) (toOption_eq_some passed)

theorem tenancy_of_reachable (reachable : (system env).Reachable state) : Tenancy state :=
  reachable.invariant Tenancy (fun _ isInitial => initial_tenancy isInitial)
    (fun _ _ _ tenancy stepped => step_tenancy tenancy stepped)

theorem defaultOrg_of_selected {id : String}
    (isDefault : state.organizations.selected Organization.isDefault = {id}) :
    defaultOrg state = .ok (some id) := by
  have keys : state.organizations.entries.keys.Nodup := state.organizations.nodupKeys
  have distinct : (state.organizations.keysOf Organization.isDefault).Nodup :=
    keys.sublist (List.filter_sublist.map Sigma.fst)
  have members : ∀ key, key ∈ state.organizations.keysOf Organization.isDefault ↔
      key = id := by
    intro key
    rw [OrderedDict.mem_keysOf, isDefault, Set.mem_singleton_iff]
  unfold defaultOrg
  cases isList : state.organizations.keysOf Organization.isDefault with
  | nil =>
      have isIn := (members id).mpr rfl
      rw [isList] at isIn
      exact absurd isIn List.not_mem_nil
  | cons first rest =>
      rw [isList] at distinct members
      have isFirst := (members first).mp List.mem_cons_self
      cases rest with
      | nil =>
          rw [isFirst]
      | cons second others =>
          have isSecond := (members second).mp
            (List.mem_cons_of_mem _ List.mem_cons_self)
          rw [isFirst, isSecond] at distinct
          exact absurd List.mem_cons_self (List.nodup_cons.mp distinct).1

/-- On a running server registration finds its organisation and a restart succeeds,
every account is in an organisation that exists, addresses and slugs are unique, and
every slug is what `slugify` makes of it. -/
theorem every_account_placed (reachable : (system env).Reachable state) :
    (∃ id, defaultOrg state = .ok (some id)) ∧
      (∀ orgId userId adminEmail adminPassword, ∃ after,
        startup env state orgId userId adminEmail adminPassword = .ok after) ∧
      (∀ id user, state.users.lookup id = some user → ∃ org row,
        user.organizationId = some org ∧ state.organizations.lookup org = some row) ∧
      Distinct state.users User.email ∧
      Distinct state.organizations Organization.slug ∧
      ∀ id org, state.organizations.lookup id = some org →
        slugify env.lowercase org.slug = org.slug := by
  have tenancy := tenancy_of_reachable reachable
  obtain ⟨default, isDefault⟩ := tenancy.oneDefault
  have isFound := defaultOrg_of_selected isDefault
  refine ⟨⟨default, isFound⟩, ?_, tenancy.placed, tenancy.emails, tenancy.slugs, ?_⟩
  · intro orgId userId adminEmail adminPassword
    have isSeeded : defaultOrg (seedRolesAndPermissions state) = .ok (some default) :=
      isFound
    refine ⟨bootstrapAdmin env (backfill (seedRolesAndPermissions state) default) default
      userId adminEmail adminPassword, ?_⟩
    rw [startup, bootstrapDefaultOrg, isSeeded]
    rfl
  · intro id org isOrg
    exact slugify_slug (tenancy.handles id org isOrg)

/-! A server, and what its first admin does on it. -/

def office : Environment := ⟨asciiLowercase, []⟩

def unstarted : State := ⟨∅, ∅, ∅⟩

theorem unstarted_legacy : Legacy unstarted where
  organizations := rfl
  orgless := fun _ _ isUser => nomatch isUser
  emails := OrderedDict.distinct_empty

def started : State :=
  (step office unstarted (.startup "main" "root" "Root@Acme.org".toList
    "secret-pass".toList)).getD unstarted

theorem started_initial : Initial office started :=
  ⟨unstarted, "main", "root", "Root@Acme.org".toList, "secret-pass".toList,
    unstarted_legacy, rfl⟩

/-- An organisation and its admin are created, and a client registers. -/
def staffing : List Label :=
  [.createOrg ⟨"root", 0⟩ "north" "  North & Sons ".toList,
    .createUser ⟨"root", 0⟩ "lead"
      { email := "lead@north.org".toList, role := "org_admin",
        organizationId := some "north" },
    .register "guest" "Guest@mail.org".toList 0]

def staffed : State :=
  ((system office).exec started staffing).getD started

theorem staffed_reachable : (system office).Reachable staffed :=
  TransitionSystem.reachable_of_exec staffing started_initial
    (TransitionSystem.exec_eq_getD (by decide))

theorem every_account_placed_staffed :
    (∃ id, defaultOrg staffed = .ok (some id)) ∧
      ∃ org row, staffed.organizations.lookup "north" = some row ∧
        row.slug = "north-sons".toList ∧ org = slugify office.lowercase row.slug :=
  ⟨(every_account_placed staffed_reachable).1, _, _, rfl, rfl, rfl⟩

end DbBuddy.Admin
