import DbBuddy.Publishing.References

/-!
# References without foreign keys

Beside the tables of the endpoints stand the schema snapshots, the audit log and
the verification links: they only ever name a connection or an account.  In the
whole store no reference dangles, as long as no deletion leaves behind a row that
names what it deletes.
-/

namespace DbBuddy.Publishing

open DbBuddy.Library

/-! ## The whole store -/

structure SchemaSnapshot where
  connectionId : String
  data : String
  deriving DecidableEq, Repr

structure AuditLog where
  userId : Option String
  action : String
  deriving DecidableEq, Repr

structure EmailVerificationToken where
  userId : String
  deriving DecidableEq, Repr

structure Store where
  tables : State
  snapshots : Table SchemaSnapshot
  auditLogs : List AuditLog
  verificationTokens : List EmailVerificationToken

/-- The snapshots of the connections that one account owns are dropped. -/
def dropSnapshots (store : Store) (userId : String) : Table SchemaSnapshot :=
  store.snapshots.keepIf fun snap =>
    !(store.tables.connections.lookup snap.connectionId).any
      fun conn => decide (conn.userId = userId)

/-- `_capture_snapshot`: one snapshot for each connection. -/
def captureSnapshot (snapshots : Table SchemaSnapshot)
    (id connectionId data : String) : Table SchemaSnapshot :=
  match snapshots.first fun snap => decide (snap.connectionId = connectionId) with
  | some (existing, snap) => snapshots.insert existing { snap with data := data }
  | none => snapshots.insert id ⟨connectionId, data⟩

/-- The audit row that an endpoint writes, if it writes one. -/
def audited : Label → Option AuditLog
  | .createConnection actor _ _ _ => some ⟨some actor, "create"⟩
  | .updateConnection actor _ _ => some ⟨some actor, "update"⟩
  | .deleteConnection actor _ => some ⟨some actor, "delete"⟩
  | .createChart actor _ _ => some ⟨some actor, "create"⟩
  | .publishChart actor _ _ _ => some ⟨some actor, "publish"⟩
  | .unpublishChart actor _ => some ⟨some actor, "unpublish"⟩
  | .deleteChart actor _ => some ⟨some actor, "delete"⟩
  | .createDashboard actor _ => some ⟨some actor, "create"⟩
  | .deleteDashboard actor _ => some ⟨some actor, "delete"⟩
  | .pinChart actor _ _ _ => some ⟨some actor, "pin"⟩
  | .unpinChart _ _ _ => none
  | .publishDashboard actor _ _ => some ⟨some actor, "publish"⟩
  | .unpublishDashboard actor _ => some ⟨some actor, "unpublish"⟩
  | .createOrg actor _ => some ⟨some actor, "create"⟩
  | .createUser actor _ _ _ => some ⟨some actor, "create"⟩
  | .register id _ _ => some ⟨some id, "register"⟩
  | .updateUser actor _ _ _ => some ⟨some actor, "update"⟩
  | .deleteUser actor _ => some ⟨some actor, "delete"⟩
  | .runReport actor _ => some ⟨some actor, "run"⟩
  | .runDashboard actor _ => some ⟨some actor, "run"⟩

/-- The audit rows of a deleted account are kept without their actor. -/
def deattribute (auditLogs : List AuditLog) (userId : String) : List AuditLog :=
  auditLogs.map fun entry =>
    if entry.userId = some userId then { entry with userId := none } else entry

def snapshotsAfter (store : Store) : Label → Table SchemaSnapshot
  | .deleteConnection _ id =>
      store.snapshots.keepIf fun snap => decide (snap.connectionId ≠ id)
  | .deleteUser _ userId => dropSnapshots store userId
  | _ => store.snapshots

def auditLogsAfter (store : Store) (label : Label) : List AuditLog :=
  let kept := match label with
    | .deleteUser _ userId => deattribute store.auditLogs userId
    | _ => store.auditLogs
  (audited label).toList ++ kept

/-- Registration mints a verification link; no deletion takes it back. -/
def verificationTokensAfter (store : Store) :
    Label → List EmailVerificationToken
  | .register id _ _ => ⟨id⟩ :: store.verificationTokens
  | _ => store.verificationTokens

inductive StoreLabel where
  | endpoint (label : Label)
  | deleteAllCharts (actor : String)
  | deleteAllConnections (actor : String)
  | snapshotConnection (actor id connectionId data : String)

def storeStep (env : Environment) (store : Store) : StoreLabel → Option Store
  | .endpoint label =>
      (step env store.tables label).map fun tables =>
        { tables := tables
          snapshots := snapshotsAfter store label
          auditLogs := auditLogsAfter store label
          verificationTokens := verificationTokensAfter store label }
  | .deleteAllCharts actor =>
      (Publishing.deleteAllCharts store.tables actor).toOption.map fun tables =>
        { store with
          tables := tables
          auditLogs := ⟨some actor, "delete_all"⟩ :: store.auditLogs }
  | .deleteAllConnections actor =>
      (Publishing.deleteAllConnections store.tables actor).toOption.map
        fun tables =>
          { store with
            tables := tables
            snapshots := dropSnapshots store actor
            auditLogs := ⟨some actor, "delete_all"⟩ :: store.auditLogs }
  | .snapshotConnection actor id connectionId data =>
      if unused store.snapshots id then
        (do
          let _ ← requirePermission store.tables actor .schemaAnalyze
          let _ ← ownConnection store.tables actor connectionId
          return { store with
            snapshots := captureSnapshot store.snapshots id connectionId data
            auditLogs := ⟨some actor, "snapshot"⟩ :: store.auditLogs } :
          Except HttpError Store).toOption
      else none

/-- Accounts and organisations, and nothing else yet. -/
def StoreInitial (store : Store) : Prop :=
  Initial store.tables ∧ store.snapshots = ∅ ∧ store.auditLogs = [] ∧
    store.verificationTokens = []

def storeSystem (env : Environment) : TransitionSystem Store StoreLabel where
  initial := StoreInitial
  step := storeStep env

/-! ## Listing -/

def missing : HttpError := ⟨500, "Internal Server Error"⟩

/-- `_report_out` reads the chart of its report. -/
def reportOut (state : State) (entry : (_ : String) × PublishedReport) :
    Except HttpError (String × SavedChart) := do
  let chart ← found (state.charts.lookup entry.snd.chartId) missing
  return (entry.fst, chart)

def listReports (state : State) (actor : String) :
    Except HttpError (List (String × SavedChart)) := do
  let user ← requirePermission state actor .reportView
  (state.reports.entries.filter fun entry =>
    decide (entry.snd.status = .active ∧
      entry.snd.organizationId = user.organizationId ∧
      (entry.snd.visibility = .organization ∨
        entry.snd.publishedBy = actor))).mapM (reportOut state)

/-- `_out` reads the dashboard of its publication, and skips an item whose chart
is gone. -/
def publishedOut (state : State) (entry : (_ : String) × PublishedDashboard) :
    Except HttpError (String × List (String × SavedChart)) := do
  let dashboard ← found (state.dashboards.lookup entry.snd.dashboardId) missing
  return (entry.snd.dashboardId, dashboard.items.filterMap fun item =>
    (state.charts.lookup item.chartId).map fun chart => (item.id, chart))

def listPublished (state : State) (actor : String) :
    Except HttpError (List (String × List (String × SavedChart))) := do
  let user ← requirePermission state actor .reportView
  (state.publishedDashboards.entries.filter fun entry =>
    decide (entry.snd.status = .active ∧
      entry.snd.organizationId = user.organizationId ∧
      (entry.snd.visibility = .organization ∨
        entry.snd.publishedBy = actor))).mapM (publishedOut state)

/-! ## What is wanted -/

/-- Every stored reference is null or names a row.  An item is stored in its
dashboard: the two go together. -/
structure NoDangling (store : Store) : Prop where
  reportChart : ∀ id report, store.tables.reports.lookup id = some report →
    IsRow store.tables.charts report.chartId
  recordDashboard : ∀ id record,
    store.tables.publishedDashboards.lookup id = some record →
    IsRow store.tables.dashboards record.dashboardId
  itemChart : ∀ id dashboard item,
    store.tables.dashboards.lookup id = some dashboard →
    item ∈ dashboard.items → IsRow store.tables.charts item.chartId
  chartConnection : ∀ id chart connectionId,
    store.tables.charts.lookup id = some chart →
    chart.databaseConnectionId = some connectionId →
    IsRow store.tables.connections connectionId
  snapshotConnection : ∀ id snap, store.snapshots.lookup id = some snap →
    IsRow store.tables.connections snap.connectionId
  connectionUser : ∀ id conn, store.tables.connections.lookup id = some conn →
    IsRow store.tables.users conn.userId
  chartUser : ∀ id chart, store.tables.charts.lookup id = some chart →
    IsRow store.tables.users chart.userId
  dashboardUser : ∀ id dashboard,
    store.tables.dashboards.lookup id = some dashboard →
    IsRow store.tables.users dashboard.userId
  reportPublisher : ∀ id report, store.tables.reports.lookup id = some report →
    IsRow store.tables.users report.publishedBy
  recordPublisher : ∀ id record,
    store.tables.publishedDashboards.lookup id = some record →
    IsRow store.tables.users record.publishedBy
  auditUser : ∀ entry ∈ store.auditLogs, ∀ userId, entry.userId = some userId →
    IsRow store.tables.users userId
  tokenUser : ∀ token ∈ store.verificationTokens,
    IsRow store.tables.users token.userId

/-- No listing and no run meets a chart or dashboard that is gone. -/
def NothingMissing (env : Environment) (state : State) : Prop :=
  ∀ actor id, listReports state actor ≠ .error missing ∧
    listPublished state actor ≠ .error missing ∧
    runReport env.decrypt env.isRead state actor id ≠ .error missing ∧
    runDashboard env.decrypt env.isRead state actor id ≠ .error missing

/-- A create request names only rows that are there. -/
def NamesRows (store : Store) : StoreLabel → Prop
  | .endpoint (.createChart _ _ req) =>
      ∀ connectionId, req.databaseConnectionId = some connectionId →
        IsRow store.tables.connections connectionId
  | _ => True

/-- Nothing that a deletion forgets names what it deletes: no publication names
the chart or the dashboard, no chart names the connection, and nobody else's
chart names a connection of the account, nor does a verification link name the
account. -/
def LeavesNothing (store : Store) : StoreLabel → Prop
  | .endpoint (.deleteChart _ chartId) =>
      ∀ id report, store.tables.reports.lookup id = some report →
        report.chartId ≠ chartId
  | .endpoint (.deleteConnection _ connectionId) =>
      ∀ id chart, store.tables.charts.lookup id = some chart →
        chart.databaseConnectionId ≠ some connectionId
  | .endpoint (.deleteDashboard _ dashboardId) =>
      ∀ id record, store.tables.publishedDashboards.lookup id = some record →
        record.dashboardId ≠ dashboardId
  | .endpoint (.deleteUser _ userId) =>
      (∀ id chart connectionId conn,
        store.tables.charts.lookup id = some chart →
        chart.databaseConnectionId = some connectionId →
        store.tables.connections.lookup connectionId = some conn →
        conn.userId = userId → chart.userId = userId) ∧
      ∀ token ∈ store.verificationTokens, token.userId ≠ userId
  | .deleteAllCharts actor =>
      ∀ id report chart, store.tables.reports.lookup id = some report →
        store.tables.charts.lookup report.chartId = some chart →
        chart.userId ≠ actor
  | .deleteAllConnections actor =>
      ∀ id chart connectionId conn,
        store.tables.charts.lookup id = some chart →
        chart.databaseConnectionId = some connectionId →
        store.tables.connections.lookup connectionId = some conn →
        conn.userId ≠ actor
  | _ => True

/-! ## The tables beside -/

/-- An audit row or a verification link names the account. -/
def NamesUser (store : Store) (userId : String) : Prop :=
  (∃ entry ∈ store.auditLogs, entry.userId = some userId) ∨
    ∃ token ∈ store.verificationTokens, token.userId = userId

/-- A snapshot names the connection. -/
def NamesConnection (store : Store) (connectionId : String) : Prop :=
  ∃ id snap, store.snapshots.lookup id = some snap ∧
    snap.connectionId = connectionId

/-- The account that the audit row of a label names, other than a new one. -/
theorem isRow_of_audited {env : Environment} {state next : State} {label : Label}
    {userId action : String}
    (stepped : step env state label = some next)
    (names : audited label = some ⟨some userId, action⟩)
    (noRegister : ∀ id organizationId permissions,
      label ≠ .register id organizationId permissions) :
    IsRow state.users userId := by
  have permitted : ∀ {Result : Type} {actor : String} {permission : Permission}
      {rest : User → Except HttpError Result} {result : Result},
      requirePermission state actor permission >>= rest = .ok result →
      IsRow state.users actor := by
    intro Result actor permission rest result ran
    obtain ⟨user, isPermitted, _⟩ := bind_eq_ok ran
    exact isRow_of_lookup (requirePermission_eq_ok isPermitted)
  cases label with
  | createConnection | createChart | publishChart | createDashboard | publishDashboard
  | createUser =>
      cases names
      obtain ⟨_, ran⟩ := Option.ite_none_right_eq_some.mp stepped
      exact permitted (toOption_eq_some ran)
  | runReport | runDashboard =>
      cases names
      obtain ⟨executions, ran, _⟩ := Option.map_eq_some_iff.mp stepped
      exact permitted (toOption_eq_some ran)
  | register id organizationId permissions =>
      exact absurd rfl (noRegister id organizationId permissions)
  | unpinChart =>
      cases names
  | deleteChart =>
      cases names
      obtain ⟨user, isUser, _⟩ := bind_eq_ok (toOption_eq_some stepped)
      exact isRow_of_lookup (currentUser_eq_ok isUser)
  | updateConnection | deleteConnection | unpublishChart | deleteDashboard | pinChart
  | unpublishDashboard | createOrg | updateUser | deleteUser =>
      cases names
      exact permitted (toOption_eq_some stepped)

section Beside

variable {store : Store} {userId : String}

theorem mem_deattribute {auditLogs : List AuditLog} {deleted : String}
    {entry : AuditLog} (present : entry ∈ deattribute auditLogs deleted)
    (names : entry.userId = some userId) :
    userId ≠ deleted ∧ ∃ old ∈ auditLogs, old.userId = some userId := by
  obtain ⟨old, wasThere, rfl⟩ := List.mem_map.mp present
  by_cases theirs : old.userId = some deleted
  · simp [theirs] at names
  · simp only [theirs, if_false] at names
    refine ⟨?_, old, wasThere, names⟩
    rintro rfl
    exact theirs names

/-- After a deletion of the account only a verification link still names it. -/
theorem namesUser_after {label : Label} {tables : State}
    {snapshots : Table SchemaSnapshot}
    (names : NamesUser ⟨tables, snapshots, auditLogsAfter store label,
      verificationTokensAfter store label⟩ userId) :
    (∃ action, audited label = some ⟨some userId, action⟩) ∨
      (NamesUser store userId ∧ ∀ actor, label = .deleteUser actor userId →
        ∃ token ∈ store.verificationTokens, token.userId = userId) := by
  rcases names with ⟨entry, isEntry, isUser⟩ | ⟨token, isToken, isUser⟩
  · rcases List.mem_append.mp isEntry with isNew | isOld
    · obtain ⟨author, action⟩ := entry
      cases isUser
      exact Or.inl ⟨action, Option.mem_toList.mp isNew⟩
    · refine Or.inr ?_
      split at isOld
      · rename_i other deleted
        obtain ⟨different, old, wasThere, named⟩ := mem_deattribute isOld isUser
        refine ⟨Or.inl ⟨old, wasThere, named⟩, ?_⟩
        intro actor same
        cases same
        exact absurd rfl different
      · rename_i noDeletion
        refine ⟨Or.inl ⟨entry, isOld, isUser⟩, ?_⟩
        intro actor same
        exact absurd same (noDeletion actor userId)
  · simp only [verificationTokensAfter] at isToken
    split at isToken
    · rename_i id organizationId permissions
      rcases List.mem_cons.mp isToken with rfl | older
      · cases isUser
        exact Or.inl ⟨"register", rfl⟩
      · refine Or.inr ⟨Or.inr ⟨token, older, isUser⟩, ?_⟩
        intro actor same
        cases same
    · refine Or.inr ⟨Or.inr ⟨token, isToken, isUser⟩, ?_⟩
      intro actor same
      exact ⟨token, isToken, isUser⟩

theorem mem_dropSnapshots {id : String} {snap : SchemaSnapshot}
    (present : (dropSnapshots store userId).lookup id = some snap) :
    store.snapshots.lookup id = some snap ∧
      ∀ conn, store.tables.connections.lookup snap.connectionId = some conn →
        conn.userId ≠ userId := by
  obtain ⟨older, kept⟩ := OrderedDict.lookup_keepIf present
  refine ⟨older, ?_⟩
  intro conn isConn
  simpa [isConn] using kept

theorem namesConnection_after {label : Label} {tables : State}
    {auditLogs : List AuditLog} {tokens : List EmailVerificationToken}
    {connectionId : String}
    (names : NamesConnection
      ⟨tables, snapshotsAfter store label, auditLogs, tokens⟩ connectionId) :
    NamesConnection store connectionId ∧
      (∀ actor, label ≠ .deleteConnection actor connectionId) ∧
      ∀ actor deleted conn, label = .deleteUser actor deleted →
        store.tables.connections.lookup connectionId = some conn →
        conn.userId ≠ deleted := by
  obtain ⟨id, snap, present, rfl⟩ := names
  simp only [snapshotsAfter] at present
  split at present
  · obtain ⟨older, kept⟩ := OrderedDict.lookup_keepIf present
    refine ⟨⟨id, snap, older, rfl⟩, ?_, ?_⟩
    · intro actor same
      cases same
      exact of_decide_eq_true kept rfl
    · intro actor deleted conn same
      cases same
  · obtain ⟨older, spared⟩ := mem_dropSnapshots present
    refine ⟨⟨id, snap, older, rfl⟩, ?_, ?_⟩
    · intro actor same
      cases same
    · intro actor deleted conn same isConn
      cases same
      exact spared conn isConn
  · rename_i noConnection noUser
    refine ⟨⟨id, snap, present, rfl⟩, ?_, ?_⟩
    · intro actor same
      exact noConnection actor _ same
    · intro actor deleted conn same
      exact absurd same (noUser actor deleted)

/-- One audit row more names its actor. -/
theorem namesUser_cons {actor action : String} {tables : State}
    {snapshots : Table SchemaSnapshot}
    (names : NamesUser ⟨tables, snapshots, ⟨some actor, action⟩ :: store.auditLogs,
      store.verificationTokens⟩ userId) :
    userId = actor ∨ NamesUser store userId := by
  rcases names with ⟨entry, isEntry, isUser⟩ | token
  · rcases List.mem_cons.mp isEntry with rfl | older
    · cases isUser
      exact Or.inl rfl
    · exact Or.inr (Or.inl ⟨entry, older, isUser⟩)
  · exact Or.inr (Or.inr token)

theorem namesConnection_capture {tables : State} {auditLogs : List AuditLog}
    {tokens : List EmailVerificationToken} {id captured data connectionId : String}
    (names : NamesConnection
      ⟨tables, captureSnapshot store.snapshots id captured data, auditLogs, tokens⟩
      connectionId) :
    connectionId = captured ∨ NamesConnection store connectionId := by
  obtain ⟨key, snap, present, rfl⟩ := names
  simp only [captureSnapshot] at present
  split at present
  · rename_i existing old isFirst
    rcases OrderedDict.lookup_insert_cases present with ⟨_, rfl⟩ | ⟨_, older⟩
    · exact Or.inr ⟨existing, old, (OrderedDict.lookup_first isFirst).1, rfl⟩
    · exact Or.inr ⟨key, snap, older, rfl⟩
  · rcases OrderedDict.lookup_insert_cases present with ⟨_, rfl⟩ | ⟨_, older⟩
    · exact Or.inl rfl
    · exact Or.inr ⟨key, snap, older, rfl⟩

end Beside

/-! ## Runs -/

/-- The invariant of the store. -/
def StoreSound (store : Store) : Prop :=
  Sound (NamesUser store) (NamesConnection store) store.tables

section Runs

variable {env : Environment} {store next : Store}

theorem storeSound_initial (isInitial : StoreInitial store) :
    StoreSound store := by
  obtain ⟨tables, noSnapshots, noAudits, noTokens⟩ := isInitial
  refine sound_initial tables ?_ ?_
  · rintro userId (⟨entry, isEntry, _⟩ | ⟨token, isToken, _⟩)
    · simp [noAudits] at isEntry
    · simp [noTokens] at isToken
  · rintro connectionId ⟨id, snap, present, _⟩
    simp [noSnapshots] at present

theorem spares_of_leaves {label : Label} {tables : State}
    (named : NamesRows store (.endpoint label))
    (leaves : LeavesNothing store (.endpoint label))
    (stepped : step env store.tables label = some tables) :
    Spares
      (NamesUser ⟨tables, snapshotsAfter store label, auditLogsAfter store label,
        verificationTokensAfter store label⟩)
      (NamesConnection ⟨tables, snapshotsAfter store label,
        auditLogsAfter store label, verificationTokensAfter store label⟩)
      store.tables label := by
  cases label with
  | createChart actor id req =>
      exact named
  | deleteChart actor chartId =>
      exact leaves
  | deleteConnection actor connectionId =>
      refine ⟨?_, leaves⟩
      intro names
      exact (namesConnection_after names).2.1 actor rfl
  | deleteDashboard actor dashboardId =>
      exact leaves
  | deleteUser actor userId =>
      refine ⟨?_, ?_, leaves.1⟩
      · intro names
        rcases namesUser_after names with ⟨action, isActor⟩ | ⟨_, stays⟩
        · cases isActor
          obtain ⟨_, _, _, _, different, _⟩ :=
            deleteUser_eq_ok (toOption_eq_some stepped)
          exact different rfl
        · obtain ⟨token, isToken, isTheirs⟩ := stays actor rfl
          exact leaves.2 token isToken isTheirs
      · intro id conn names isConn
        exact (namesConnection_after names).2.2 actor userId conn rfl isConn
  | _ => trivial

theorem storeSound_endpoint {label : Label} (sound : StoreSound store)
    (named : NamesRows store (.endpoint label))
    (leaves : LeavesNothing store (.endpoint label))
    (stepped : storeStep env store (.endpoint label) = some next) :
    StoreSound next := by
  obtain ⟨tables, ran, rfl⟩ := Option.map_eq_some_iff.mp stepped
  by_cases registers : ∃ id organizationId permissions,
      label = .register id organizationId permissions
  · -- The rows beside name an account that is new.
    obtain ⟨id, organizationId, permissions, rfl⟩ := registers
    obtain ⟨_, registered⟩ := Option.ite_none_right_eq_some.mp ran
    cases toOption_eq_some registered
    have grown := sound.insertUser id ⟨organizationId, permissions⟩
    refine grown.refs ?_ grown.snapshot
    intro userId names
    rcases namesUser_after names with ⟨action, isNew⟩ | ⟨older, _⟩
    · cases isNew
      simp [IsRow]
    · exact grown.user userId older
  · refine sound_step (sound.refs ?_ ?_) (spares_of_leaves named leaves ran) ran
    · intro userId names
      rcases namesUser_after names with ⟨action, isActor⟩ | ⟨older, _⟩
      · refine isRow_of_audited ran isActor ?_
        intro id organizationId permissions same
        exact registers ⟨id, organizationId, permissions, same⟩
      · exact sound.user userId older
    · intro connectionId names
      exact sound.snapshot connectionId (namesConnection_after names).1

/-- An audit row that names an account that is there. -/
theorem StoreSound.userRef (sound : StoreSound store) {actor action : String}
    {tables : State} {snapshots : Table SchemaSnapshot}
    (isUser : IsRow store.tables.users actor) {userId : String}
    (names : NamesUser ⟨tables, snapshots, ⟨some actor, action⟩ :: store.auditLogs,
      store.verificationTokens⟩ userId) :
    IsRow store.tables.users userId := by
  rcases namesUser_cons names with rfl | older
  · exact isUser
  · exact sound.user userId older

theorem storeSound_step {label : StoreLabel} (sound : StoreSound store)
    (named : NamesRows store label) (leaves : LeavesNothing store label)
    (stepped : storeStep env store label = some next) : StoreSound next := by
  cases label with
  | endpoint label =>
      exact storeSound_endpoint sound named leaves stepped
  | deleteAllCharts actor =>
      obtain ⟨tables, ran, rfl⟩ := Option.map_eq_some_iff.mp stepped
      have call := toOption_eq_some ran
      obtain ⟨user, isUser, _⟩ := bind_eq_ok call
      refine sound_deleteAllCharts (sound.refs ?_ sound.snapshot) leaves call
      intro userId names
      exact sound.userRef (isRow_of_lookup (currentUser_eq_ok isUser)) names
  | deleteAllConnections actor =>
      obtain ⟨tables, ran, rfl⟩ := Option.map_eq_some_iff.mp stepped
      have call := toOption_eq_some ran
      obtain ⟨user, permitted, _⟩ := bind_eq_ok call
      refine sound_deleteAllConnections (sound.refs ?_ ?_) ?_ leaves call
      · intro userId names
        exact sound.userRef (isRow_of_lookup (requirePermission_eq_ok permitted)) names
      · rintro connectionId ⟨id, snap, present, rfl⟩
        exact sound.snapshot _ ⟨id, snap, (mem_dropSnapshots present).1, rfl⟩
      · rintro connectionId conn ⟨id, snap, present, rfl⟩ isConn
        exact (mem_dropSnapshots present).2 conn isConn
  | snapshotConnection actor id connectionId data =>
      obtain ⟨_, ran⟩ := Option.ite_none_right_eq_some.mp stepped
      obtain ⟨user, permitted, rest⟩ := bind_eq_ok (toOption_eq_some ran)
      obtain ⟨conn, isOwn, done⟩ := bind_eq_ok rest
      cases done
      refine sound.refs ?_ ?_
      · intro userId names
        exact sound.userRef (isRow_of_lookup (requirePermission_eq_ok permitted)) names
      · intro other names
        rcases namesConnection_capture names with rfl | older
        · exact isRow_of_lookup (ownConnection_eq_ok isOwn).1
        · exact sound.snapshot other older

theorem StoreSound.noDangling (sound : StoreSound store) : NoDangling store where
  reportChart id report present := (sound.report id report present).isRow
  recordDashboard id record present := (sound.record id record present).isRow
  itemChart id dashboard item present isItem :=
    (sound.item id dashboard item present isItem).isRow
  chartConnection := sound.source
  snapshotConnection id snap present := sound.snapshot _ ⟨id, snap, present, rfl⟩
  connectionUser := sound.connection
  chartUser := sound.chart
  dashboardUser := sound.dashboard
  reportPublisher _ _ present := sound.reportPublisher present
  recordPublisher _ _ present := sound.recordPublisher present
  auditUser entry isEntry userId names := sound.user userId
    (Or.inl ⟨entry, isEntry, names⟩)
  tokenUser token isToken := sound.user _ (Or.inr ⟨token, isToken, rfl⟩)

end Runs

/-! ## Nothing missing -/

section Missing

variable {userRef connectionRef : String → Prop} {state : State} {actor : String}

theorem requirePermission_ne_missing {permission : Permission} :
    requirePermission state actor permission ≠ .error missing := by
  refine bind_ne_error (found_ne_error (by simp [missing])) ?_
  intro user _
  refine bind_ne_error (check_ne_error (by simp [missing])) ?_
  intro _ _ same
  cases same

theorem Sound.listReports_ne_missing (sound : Sound userRef connectionRef state) :
    listReports state actor ≠ .error missing := by
  refine bind_ne_error requirePermission_ne_missing ?_
  intro user _
  refine mapM_ne_error ?_
  intro entry isEntry
  have present := AList.mem_lookup_iff.mpr (List.mem_filter.mp isEntry).1
  have isChart := (sound.report _ entry.snd present).isRow
  refine bind_ne_error (found_of_ne_none isChart) ?_
  intro chart _ same
  cases same

theorem Sound.listPublished_ne_missing (sound : Sound userRef connectionRef state) :
    listPublished state actor ≠ .error missing := by
  refine bind_ne_error requirePermission_ne_missing ?_
  intro user _
  refine mapM_ne_error ?_
  intro entry isEntry
  have present := AList.mem_lookup_iff.mpr (List.mem_filter.mp isEntry).1
  have isDashboard := (sound.record _ entry.snd present).isRow
  refine bind_ne_error (found_of_ne_none isDashboard) ?_
  intro dashboard _ same
  cases same

theorem Sound.runReport_ne_missing (sound : Sound userRef connectionRef state)
    {decrypt : String → Option String} {isRead : String → Bool}
    {reportId : String} :
    runReport decrypt isRead state actor reportId ≠ .error missing := by
  refine bind_ne_error requirePermission_ne_missing ?_
  intro user _
  refine bind_ne_error ?_ ?_
  · refine bind_ne_error (found_ne_error (by simp [missing, reportNotFound])) ?_
    intro report _
    refine bind_ne_error (check_ne_error (by simp [missing, reportNotFound])) ?_
    intro _ _ same
    cases same
  · intro report isVisible
    have isReport := (visibleOr404_eq_ok isVisible).1
    have isChart := (sound.report reportId report isReport).isRow
    refine bind_ne_error (found_of_ne_none isChart) ?_
    intro chart _ same
    cases same

theorem Sound.publishedOr404_ne_missing
    (sound : Sound userRef connectionRef state) {dashboardId : String}
    {user : User} : publishedOr404 state dashboardId actor user ≠ .error missing := by
  refine bind_ne_error (found_ne_error (by simp [missing, dashboardNotFound])) ?_
  rintro ⟨recordId, record⟩ isFirst
  have present := (OrderedDict.lookup_first (found_eq_ok isFirst)).1
  refine bind_ne_error (check_ne_error (by simp [missing, dashboardNotFound])) ?_
  intro _ _
  exact found_of_ne_none (sound.record recordId record present).isRow

theorem buildJobs_ne_missing {decrypt : String → Option String}
    {organizationId : String} {items : List DashboardItem}
    (present : ∀ item ∈ items, IsRow state.charts item.chartId) :
    buildJobs decrypt state organizationId items ≠ .error missing := by
  induction items with
  | nil =>
      intro same
      cases same
  | cons item rest inductionHypothesis =>
      refine bind_ne_error (found_of_ne_none (present item List.mem_cons_self)) ?_
      intro chart _
      refine bind_ne_error (inductionHypothesis ?_) ?_
      · intro later isLater
        exact present later (List.mem_cons_of_mem _ isLater)
      · intro jobs _ same
        cases same

theorem Sound.runDashboard_ne_missing (sound : Sound userRef connectionRef state)
    {decrypt : String → Option String} {isRead : String → Bool}
    {dashboardId : String} :
    runDashboard decrypt isRead state actor dashboardId ≠ .error missing := by
  refine bind_ne_error requirePermission_ne_missing ?_
  intro user _
  refine bind_ne_error ?_ ?_
  · unfold visibleDashboard
    split
    · split
      · intro same
        cases same
      · exact sound.publishedOr404_ne_missing
    · exact sound.publishedOr404_ne_missing
  · intro dashboard isVisible
    obtain ⟨id, isDashboard⟩ : ∃ id, state.dashboards.lookup id = some dashboard := by
      rcases visibleDashboard_eq_ok isVisible with
        ⟨id, present, _⟩ | ⟨recordId, record, _, _, _, present⟩
      · exact ⟨id, present⟩
      · exact ⟨record.dashboardId, present⟩
    refine bind_ne_error (buildJobs_ne_missing ?_) ?_
    · intro item isItem
      exact (sound.item id dashboard item isDashboard isItem).isRow
    · intro jobs _ same
      cases same

end Missing

/-- In every state that a run reaches whose creations name what is there and whose
deletions leave nothing behind, every reference names a row, and no listing and no
run meets one that is gone. -/
theorem no_dangling (env : Environment) (store : Store)
    (reachable : (storeSystem env).ReachableUnder
      (fun before label => NamesRows before label ∧ LeavesNothing before label)
      store) :
    NoDangling store ∧ NothingMissing env store.tables := by
  have sound : StoreSound store := reachable.invariant StoreSound
    (fun _ isInitial => storeSound_initial isInitial)
    (fun _ _ _ holds allowed stepped =>
      storeSound_step holds allowed.1 allowed.2 stepped)
  refine ⟨sound.noDangling, ?_⟩
  intro actor id
  exact ⟨Sound.listReports_ne_missing sound, Sound.listPublished_ne_missing sound,
    Sound.runReport_ne_missing sound, Sound.runDashboard_ne_missing sound⟩

/-! ### Rows that deletions forget -/

def orphanEnv : Environment where
  encrypt := fun password => password
  decrypt := some
  isRead := fun sql => decide (sql = "SELECT 1")

def orphanStart : Store where
  tables :=
    { organizations := ["a"]
      users :=
        AList.insert "ana"
          ⟨"a", [.chartSave, .chartPublish, .reportView, .connectionManage,
            .schemaAnalyze]⟩
        (AList.insert "root" ⟨"a", [.userManage, .orgManage]⟩ ∅)
      connections := ∅
      charts := ∅
      reports := ∅
      dashboards := ∅
      publishedDashboards := ∅ }
  snapshots := ∅
  auditLogs := []
  verificationTokens := []

def orphanRun (labels : List StoreLabel) : Store :=
  ((storeSystem orphanEnv).exec orphanStart labels).getD orphanStart

theorem orphanStart_initial : (storeSystem orphanEnv).initial orphanStart :=
  ⟨⟨rfl, rfl, rfl, rfl, rfl⟩, rfl, rfl, rfl⟩

theorem orphanRun_reachable {guard : Store → StoreLabel → Prop}
    {labels : List StoreLabel}
    (allowed : ∀ label ∈ labels, ∀ store, guard store label)
    (executed : (storeSystem orphanEnv).exec orphanStart labels =
      some (orphanRun labels)) :
    (storeSystem orphanEnv).ReachableUnder guard (orphanRun labels) :=
  ⟨orphanStart, orphanStart_initial,
    TransitionSystem.reaches_of_exec_allowed labels allowed executed⟩

/-- A published chart is deleted. -/
def chartSteps : List StoreLabel :=
  [.endpoint (.createChart "ana" "c" ⟨none, "SELECT 1"⟩),
    .endpoint (.publishChart "ana" "c" "r" .organization),
    .endpoint (.deleteChart "ana" "c")]

/-- A published dashboard is deleted. -/
def dashboardSteps : List StoreLabel :=
  [.endpoint (.createChart "ana" "c" ⟨none, "SELECT 1"⟩),
    .endpoint (.createDashboard "ana" "d"),
    .endpoint (.pinChart "ana" "d" "i" "c"),
    .endpoint (.publishDashboard "ana" "d" "p"),
    .endpoint (.deleteDashboard "ana" "d")]

/-- An account that registered itself is deleted. -/
def accountSteps : List StoreLabel :=
  [.endpoint (.register "new" "a" []), .endpoint (.deleteUser "root" "new")]

def connectedSteps : List StoreLabel :=
  [.endpoint (.createConnection "ana" "k" ⟨"pg", "h", none, "x", none, "u"⟩ "s")]

def sourcedLabel : StoreLabel :=
  .endpoint (.createChart "ana" "c" ⟨some "k", "SELECT 1"⟩)

/-- The connections of a saved chart's owner are cleared. -/
def connectionSteps : List StoreLabel :=
  connectedSteps ++ [sourcedLabel, .deleteAllConnections "ana"]

theorem connectionSteps_reachable :
    (storeSystem orphanEnv).ReachableUnder NamesRows
      (orphanRun connectionSteps) := by
  have connected : (storeSystem orphanEnv).Reaches NamesRows orphanStart
      (orphanRun connectedSteps) :=
    TransitionSystem.reaches_of_exec_allowed connectedSteps
      (by simp [connectedSteps, NamesRows]) rfl
  have saved : (storeSystem orphanEnv).Reaches NamesRows
      (orphanRun connectedSteps)
      (orphanRun (connectedSteps ++ [sourcedLabel])) := by
    refine TransitionSystem.Reaches.single sourcedLabel ?_ rfl
    intro connectionId names
    cases names
    exact isRow_of_lookup rfl
  have cleared : (storeSystem orphanEnv).Reaches NamesRows
      (orphanRun (connectedSteps ++ [sourcedLabel]))
      (orphanRun connectionSteps) :=
    TransitionSystem.Reaches.single (.deleteAllConnections "ana") trivial rfl
  exact ⟨orphanStart, orphanStart_initial, (connected.trans saved).trans cleared⟩

theorem dangling_references :
    ((storeSystem orphanEnv).ReachableUnder NamesRows (orphanRun chartSteps) ∧
        ¬ NoDangling (orphanRun chartSteps) ∧
        listReports (orphanRun chartSteps).tables "ana" = .error missing ∧
        runReport orphanEnv.decrypt orphanEnv.isRead (orphanRun chartSteps).tables
          "ana" "r" = .error missing) ∧
      ((storeSystem orphanEnv).ReachableUnder NamesRows
          (orphanRun dashboardSteps) ∧
        ¬ NoDangling (orphanRun dashboardSteps) ∧
        listPublished (orphanRun dashboardSteps).tables "ana" = .error missing) ∧
      ((storeSystem orphanEnv).ReachableUnder NamesRows
          (orphanRun connectionSteps) ∧
        ¬ NoDangling (orphanRun connectionSteps)) ∧
      ((storeSystem orphanEnv).ReachableUnder NamesRows (orphanRun accountSteps) ∧
        ¬ NoDangling (orphanRun accountSteps)) := by
  refine ⟨⟨orphanRun_reachable ?_ rfl, ?_, rfl, rfl⟩,
    ⟨orphanRun_reachable ?_ rfl, ?_, rfl⟩, ⟨connectionSteps_reachable, ?_⟩,
    ⟨orphanRun_reachable ?_ rfl, ?_⟩⟩
  · simp [chartSteps, NamesRows]
  · intro sound
    exact sound.reportChart "r" ⟨"c", "ana", "a", .active, .organization⟩ rfl rfl
  · simp [dashboardSteps, NamesRows]
  · intro sound
    exact sound.recordDashboard "p" ⟨"d", "ana", "a", .active, .organization⟩ rfl rfl
  · intro sound
    exact sound.chartConnection "c" ⟨"ana", some "k", "SELECT 1", false⟩ "k" rfl rfl
      rfl
  · simp [accountSteps, NamesRows]
  · intro sound
    exact sound.tokenUser ⟨"new"⟩ (List.mem_singleton.mpr rfl) rfl

/-- A chart and a dashboard are published; another chart, its connection and another
dashboard are deleted. -/
def soundSteps : List StoreLabel :=
  connectedSteps ++ [.snapshotConnection "ana" "s" "k" "tables",
    .endpoint (.createChart "ana" "c" ⟨none, "SELECT 1"⟩),
    .endpoint (.publishChart "ana" "c" "r" .organization),
    .endpoint (.createDashboard "ana" "d"),
    .endpoint (.pinChart "ana" "d" "i" "c"),
    .endpoint (.publishDashboard "ana" "d" "p"),
    .endpoint (.unpublishChart "ana" "c"),
    .endpoint (.createChart "ana" "e" ⟨some "k", "SELECT 1"⟩),
    .endpoint (.createDashboard "ana" "f"),
    .endpoint (.pinChart "ana" "f" "j" "e"),
    .endpoint (.deleteChart "ana" "e"),
    .endpoint (.deleteConnection "ana" "k"),
    .endpoint (.deleteDashboard "ana" "f")]

/-- Nothing is created or deleted but what the rows allow; no account is deleted. -/
def admits (store : Store) : StoreLabel → Bool
  | .endpoint (.createChart _ _ req) =>
      req.databaseConnectionId.all fun id => (store.tables.connections.lookup id).isSome
  | .endpoint (.deleteChart _ chartId) =>
      store.tables.reports.entries.all fun entry => decide (entry.snd.chartId ≠ chartId)
  | .endpoint (.deleteConnection _ connectionId) =>
      store.tables.charts.entries.all fun entry =>
        decide (entry.snd.databaseConnectionId ≠ some connectionId)
  | .endpoint (.deleteDashboard _ dashboardId) =>
      store.tables.publishedDashboards.entries.all fun entry =>
        decide (entry.snd.dashboardId ≠ dashboardId)
  | .endpoint (.deleteUser _ _) => false
  | .deleteAllCharts _ => false
  | .deleteAllConnections _ => false
  | _ => true

theorem passes_of_all {Row : Type} {table : Table Row} (test : Row → Prop)
    [DecidablePred test]
    (all : (table.entries.all fun entry => decide (test entry.snd)) = true) {id : String}
    {row : Row} (present : table.lookup id = some row) : test row := by
  have isEntry := AList.mem_lookup_iff.mp present
  exact of_decide_eq_true (List.all_eq_true.mp all _ isEntry)

theorem guarded_of_admits (store : Store) (label : StoreLabel)
    (admitted : admits store label = true) :
    NamesRows store label ∧ LeavesNothing store label := by
  cases label with
  | endpoint label =>
      cases label
      case createChart actor id req =>
        refine ⟨?_, trivial⟩
        intro connectionId names
        simp only [admits, names, Option.all_some] at admitted
        obtain ⟨conn, present⟩ := Option.isSome_iff_exists.mp admitted
        exact isRow_of_lookup present
      case deleteChart actor chartId =>
        refine ⟨trivial, ?_⟩
        intro id row present
        unfold admits at admitted
        exact passes_of_all (fun report => report.chartId ≠ chartId) admitted present
      case deleteConnection actor connectionId =>
        refine ⟨trivial, ?_⟩
        intro id row present
        unfold admits at admitted
        exact passes_of_all (fun chart => chart.databaseConnectionId ≠ some connectionId)
          admitted present
      case deleteDashboard actor dashboardId =>
        refine ⟨trivial, ?_⟩
        intro id row present
        unfold admits at admitted
        exact passes_of_all (fun record => record.dashboardId ≠ dashboardId) admitted present
      case deleteUser actor userId => cases admitted
      all_goals exact ⟨trivial, trivial⟩
  | deleteAllCharts actor => cases admitted
  | deleteAllConnections actor => cases admitted
  | snapshotConnection actor id connectionId content => exact ⟨trivial, trivial⟩

/-- What was published is still there, and what was deleted is gone. -/
theorem no_dangling_published :
    ((orphanRun soundSteps).tables.connections.lookup "k" = none ∧
      (orphanRun soundSteps).tables.reports.lookup "r" ≠ none) ∧
    NoDangling (orphanRun soundSteps) ∧
      NothingMissing orphanEnv (orphanRun soundSteps).tables := by
  have run : (storeSystem orphanEnv).Reaches
      (fun before label => NamesRows before label ∧ LeavesNothing before label)
      orphanStart (orphanRun soundSteps) :=
    TransitionSystem.reaches_of_execIf guarded_of_admits soundSteps (by decide +kernel)
  refine ⟨by decide +kernel, ?_⟩
  exact no_dangling orphanEnv (orphanRun soundSteps) ⟨orphanStart, orphanStart_initial, run⟩

end DbBuddy.Publishing
