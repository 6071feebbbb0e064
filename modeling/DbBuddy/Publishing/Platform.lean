import DbBuddy.Library.TransitionSystem
import DbBuddy.Library.OrderedDict

/-!
# Connections, charts, dashboards and their publications

The tables behind the chart, report, dashboard, connection and user endpoints,
and each endpoint as a function that either fails with an HTTP error or returns
the tables it commits.  A new row gets an identifier that no row uses and no row
mentions; no foreign key is enforced, so a row may name one that is gone.
-/

namespace DbBuddy.Publishing

open DbBuddy.Library

/-- An `HTTPException`. -/
structure HttpError where
  status : ℕ
  detail : String
  deriving DecidableEq, Repr

/-- The permissions the modelled endpoints ask for. -/
inductive Permission where
  | chartSave
  | chartPublish
  | reportView
  | connectionManage
  | userManage
  | orgManage
  | schemaAnalyze
  deriving DecidableEq, Repr

def Permission.name : Permission → String
  | .chartSave => "chart:save"
  | .chartPublish => "chart:publish"
  | .reportView => "report:view"
  | .connectionManage => "connection:manage"
  | .userManage => "user:manage"
  | .orgManage => "org:manage"
  | .schemaAnalyze => "schema:analyze"

structure User where
  organizationId : String
  permissions : List Permission
  deriving DecidableEq, Repr

/-- Where a connection leads, and as whom. -/
structure ConnectionTarget where
  engine : String
  host : String
  port : Option Int
  database : String
  dbSchema : Option String
  username : String
  deriving DecidableEq, Repr

structure DatabaseConnection where
  userId : String
  target : ConnectionTarget
  passwordEncrypted : String
  deriving DecidableEq, Repr

structure SavedChart where
  userId : String
  databaseConnectionId : Option String
  sql : String
  isPublished : Bool
  deriving DecidableEq, Repr

inductive PublicationStatus where
  | active
  | revoked
  deriving DecidableEq, Repr

inductive Visibility where
  | organization
  | restricted
  deriving DecidableEq, Repr

structure PublishedReport where
  chartId : String
  publishedBy : String
  organizationId : String
  status : PublicationStatus
  visibility : Visibility
  deriving DecidableEq, Repr

structure DashboardItem where
  id : String
  chartId : String
  deriving DecidableEq, Repr

structure Dashboard where
  userId : String
  organizationId : String
  items : List DashboardItem
  isPublished : Bool
  deriving DecidableEq, Repr

structure PublishedDashboard where
  dashboardId : String
  publishedBy : String
  organizationId : String
  status : PublicationStatus
  visibility : Visibility
  deriving DecidableEq, Repr

/-- A table, by primary key. -/
abbrev Table (Row : Type) := OrderedDict String Row

structure State where
  organizations : List String
  users : Table User
  connections : Table DatabaseConnection
  charts : Table SavedChart
  reports : Table PublishedReport
  dashboards : Table Dashboard
  publishedDashboards : Table PublishedDashboard

/-! ## Checks -/

def check (condition : Prop) [Decidable condition] (error : HttpError) :
    Except HttpError Unit :=
  if condition then .ok () else .error error

def found {Row : Type} (row : Option Row) (error : HttpError) :
    Except HttpError Row :=
  match row with
  | some row => .ok row
  | none => .error error

/-- `get_current_user` -/
def currentUser (state : State) (actor : String) : Except HttpError User :=
  found (state.users.lookup actor) ⟨401, "User not found or inactive"⟩

/-- `require_permission` -/
def requirePermission (state : State) (actor : String)
    (permission : Permission) : Except HttpError User := do
  let user ← currentUser state actor
  check (permission ∈ user.permissions)
    ⟨403, "Missing permission: " ++ permission.name⟩
  return user

def isPlatformAdmin (user : User) : Bool :=
  decide (Permission.orgManage ∈ user.permissions)

def chartNotFound : HttpError := ⟨404, "Chart not found"⟩
def reportNotFound : HttpError := ⟨404, "Report not found"⟩
def dashboardNotFound : HttpError := ⟨404, "Dashboard not found"⟩
def itemNotFound : HttpError := ⟨404, "Dashboard item not found"⟩
def connectionNotFound : HttpError := ⟨404, "Connection not found"⟩

/-! ## Connections -/

structure ConnectionUpdate where
  engine : Option String
  host : Option String
  port : Option Int
  username : Option String
  database : Option String
  dbSchema : Option String
  password : Option String

/-- `req.db_schema or None` -/
def orNone (text : Option String) : Option String :=
  text.filter fun text => decide (text ≠ "")

/-- The caller's own connection. -/
def ownConnection (state : State) (actor connectionId : String) :
    Except HttpError DatabaseConnection := do
  let conn ← found (state.connections.lookup connectionId) connectionNotFound
  check (conn.userId = actor) connectionNotFound
  return conn

def createConnection (encrypt : String → String) (state : State)
    (actor id : String) (target : ConnectionTarget) (password : String) :
    Except HttpError State := do
  let _ ← requirePermission state actor .connectionManage
  return { state with
    connections := state.connections.insert id
      { userId := actor
        target := { target with dbSchema := orNone target.dbSchema }
        passwordEncrypted := encrypt password } }

/-- `update_connection`, given an engine name that is already canonical. -/
def updateConnection (encrypt : String → String) (state : State)
    (actor id : String) (req : ConnectionUpdate) : Except HttpError State := do
  let _ ← requirePermission state actor .connectionManage
  let conn ← ownConnection state actor id
  let target : ConnectionTarget :=
    { engine := req.engine.getD conn.target.engine
      host := req.host.getD conn.target.host
      port := req.port.or conn.target.port
      username := req.username.getD conn.target.username
      database := req.database.getD conn.target.database
      dbSchema := match req.dbSchema with
        | some schema => orNone (some schema)
        | none => conn.target.dbSchema }
  return { state with
    connections := state.connections.insert id
      { conn with
        target := target
        passwordEncrypted := match orNone req.password with
          | some password => encrypt password
          | none => conn.passwordEncrypted } }

def deleteConnection (state : State) (actor id : String) :
    Except HttpError State := do
  let _ ← requirePermission state actor .connectionManage
  let _ ← ownConnection state actor id
  return { state with connections := state.connections.erase id }

/-! ## Charts and reports -/

structure ChartIn where
  databaseConnectionId : Option String
  sql : String
  deriving DecidableEq, Repr

def ownChart (state : State) (actor chartId : String) :
    Except HttpError SavedChart := do
  let chart ← found (state.charts.lookup chartId) chartNotFound
  check (chart.userId = actor) chartNotFound
  return chart

/-- `create_chart`: the connection is stored as the request names it. -/
def createChart (state : State) (actor id : String) (req : ChartIn) :
    Except HttpError State := do
  let _ ← requirePermission state actor .chartSave
  return { state with
    charts := state.charts.insert id
      { userId := actor
        databaseConnectionId := req.databaseConnectionId
        sql := req.sql
        isPublished := false } }

/-- The publication that `publish_chart` looks for. -/
def isActiveFor (chartId : String) (report : PublishedReport) : Bool :=
  decide (report.chartId = chartId ∧ report.status = .active)

def publishChart (state : State) (actor chartId reportId : String)
    (visibility : Visibility) : Except HttpError State := do
  let user ← requirePermission state actor .chartPublish
  let chart ← ownChart state actor chartId
  let reports := match state.reports.first (isActiveFor chartId) with
    | none => state.reports.insert reportId
        { chartId := chartId
          publishedBy := actor
          organizationId := user.organizationId
          status := .active
          visibility := visibility }
    | some (existing, report) => state.reports.insert existing
        { report with publishedBy := actor, visibility := visibility }
  return { state with
    reports := reports
    charts := state.charts.insert chartId { chart with isPublished := true } }

def unpublishChart (state : State) (actor chartId : String) :
    Except HttpError State := do
  let _ ← requirePermission state actor .chartPublish
  let chart ← ownChart state actor chartId
  return { state with
    reports := state.reports.updateAll (isActiveFor chartId)
      fun report => { report with status := .revoked }
    charts := state.charts.insert chartId { chart with isPublished := false } }

/-- `delete_chart` unpins the chart from every dashboard. -/
def deleteChart (state : State) (actor chartId : String) :
    Except HttpError State := do
  let _ ← currentUser state actor
  let _ ← ownChart state actor chartId
  return { state with
    charts := state.charts.erase chartId
    dashboards := state.dashboards.updateAll (fun _ => true)
      fun dashboard => { dashboard with
        items := dashboard.items.filter fun item =>
          decide (item.chartId ≠ chartId) } }

/-! ## Dashboards -/

def maxChartsPerDashboard : ℕ := 40

/-- `_owned_or_404` -/
def ownedOr404 (state : State) (dashboardId actor : String) :
    Except HttpError Dashboard := do
  let dashboard ← found (state.dashboards.lookup dashboardId) dashboardNotFound
  check (dashboard.userId = actor) dashboardNotFound
  return dashboard

def createDashboard (state : State) (actor id : String) :
    Except HttpError State := do
  let user ← requirePermission state actor .chartSave
  return { state with
    dashboards := state.dashboards.insert id
      { userId := actor
        organizationId := user.organizationId
        items := []
        isPublished := false } }

/-- `delete_dashboard`: its items go with it, and its publications would only if the
foreign key were enforced. -/
def deleteDashboard (state : State) (actor id : String) :
    Except HttpError State := do
  let _ ← requirePermission state actor .chartSave
  let _ ← ownedOr404 state id actor
  return { state with dashboards := state.dashboards.erase id }

def pinChart (state : State) (actor dashboardId itemId chartId : String) :
    Except HttpError State := do
  let _ ← requirePermission state actor .chartSave
  let dashboard ← ownedOr404 state dashboardId actor
  let _ ← ownChart state actor chartId
  if dashboard.items.any fun item => decide (item.chartId = chartId) then
    return state
  else
    check (dashboard.items.length < maxChartsPerDashboard)
      ⟨409, "A dashboard can hold at most 40 charts. Split this into more " ++
        "than one dashboard."⟩
    return { state with
      dashboards := state.dashboards.insert dashboardId
        { dashboard with items := dashboard.items ++ [⟨itemId, chartId⟩] } }

def unpinChart (state : State) (actor dashboardId itemId : String) :
    Except HttpError State := do
  let _ ← requirePermission state actor .chartSave
  let dashboard ← ownedOr404 state dashboardId actor
  check (dashboard.items.any fun item => decide (item.id = itemId)) itemNotFound
  return { state with
    dashboards := state.dashboards.insert dashboardId
      { dashboard with
        items := dashboard.items.eraseP fun item => decide (item.id = itemId) } }

/-- The record `publish` looks for, revoked or not. -/
def isRecordOf (dashboardId : String) (record : PublishedDashboard) : Bool :=
  decide (record.dashboardId = dashboardId)

def publishDashboard (state : State) (actor dashboardId recordId : String) :
    Except HttpError State := do
  let user ← requirePermission state actor .chartPublish
  let dashboard ← ownedOr404 state dashboardId actor
  check (dashboard.items ≠ [])
    ⟨409, "Pin at least one chart before publishing this dashboard."⟩
  let records := match state.publishedDashboards.first
      (isRecordOf dashboardId) with
    | none => state.publishedDashboards.insert recordId
        { dashboardId := dashboardId
          publishedBy := actor
          organizationId := user.organizationId
          status := .active
          visibility := .organization }
    | some (existing, record) => state.publishedDashboards.insert existing
        { record with status := .active }
  return { state with
    publishedDashboards := records
    dashboards := state.dashboards.insert dashboardId
      { dashboard with isPublished := true } }

def unpublishDashboard (state : State) (actor dashboardId : String) :
    Except HttpError State := do
  let _ ← requirePermission state actor .chartPublish
  let dashboard ← ownedOr404 state dashboardId actor
  let records := match state.publishedDashboards.first
      (isRecordOf dashboardId) with
    | none => state.publishedDashboards
    | some (existing, record) => state.publishedDashboards.insert existing
        { record with status := .revoked }
  return { state with
    publishedDashboards := records
    dashboards := state.dashboards.insert dashboardId
      { dashboard with isPublished := false } }

/-! ## Users and organisations -/

def createOrg (state : State) (actor id : String) : Except HttpError State := do
  let _ ← requirePermission state actor .orgManage
  return { state with organizations := id :: state.organizations }

/-- The organisation `create_user` puts the account into. -/
def createUser (state : State) (actor id : String) (permissions : List Permission)
    (organizationId : Option String) : Except HttpError State := do
  let user ← requirePermission state actor .userManage
  let org := if isPlatformAdmin user then
      (orNone organizationId).getD user.organizationId
    else user.organizationId
  check (isPlatformAdmin user = false ∨ org ∈ state.organizations)
    ⟨400, "Target organization not found."⟩
  return { state with users := state.users.insert id ⟨org, permissions⟩ }

/-- Self-registration joins the default organisation. -/
def register (state : State) (id organizationId : String)
    (permissions : List Permission) : Except HttpError State :=
  return { state with users := state.users.insert id ⟨organizationId, permissions⟩ }

/-- `_target_in_scope_or_404` -/
def targetInScopeOr404 (state : State) (userId : String) (actor : User) :
    Except HttpError User := do
  let target ← found (state.users.lookup userId) ⟨404, "User not found"⟩
  check (isPlatformAdmin actor = true ∨
      target.organizationId = actor.organizationId) ⟨404, "User not found"⟩
  check (isPlatformAdmin actor = true ∨ isPlatformAdmin target = false)
    ⟨403, "You may not modify this user."⟩
  return target

/-- `update_user`: new roles, and the move to another organisation. -/
def updateUser (state : State) (actor userId : String)
    (permissions : Option (List Permission)) (organizationId : Option String) :
    Except HttpError State := do
  let user ← requirePermission state actor .userManage
  let target ← targetInScopeOr404 state userId user
  match organizationId with
  | none => return { state with
      users := state.users.insert userId
        { target with permissions := permissions.getD target.permissions } }
  | some org =>
      check (isPlatformAdmin user = true)
        ⟨403, "Only a platform admin can move users between orgs."⟩
      check (org ∈ state.organizations) ⟨400, "Target organization not found."⟩
      return { state with
        users := state.users.insert userId
          ⟨org, permissions.getD target.permissions⟩ }

/-- `_purge_user_owned_data` -/
def purgeUserOwnedData (state : State) (userId : String) : State :=
  { state with
    reports := state.reports.keepIf fun report =>
      decide (report.publishedBy ≠ userId)
    publishedDashboards := state.publishedDashboards.keepIf fun record =>
      decide (record.publishedBy ≠ userId) &&
        !(state.dashboards.lookup record.dashboardId).any
          fun dashboard => decide (dashboard.userId = userId)
    dashboards := state.dashboards.keepIf fun dashboard =>
      decide (dashboard.userId ≠ userId)
    charts := state.charts.keepIf fun chart => decide (chart.userId ≠ userId)
    connections := state.connections.keepIf fun conn =>
      decide (conn.userId ≠ userId) }

def deleteUser (state : State) (actor userId : String) :
    Except HttpError State := do
  let user ← requirePermission state actor .userManage
  let _ ← targetInScopeOr404 state userId user
  check (userId ≠ actor) ⟨400, "You cannot delete your own account."⟩
  return { purgeUserOwnedData state userId with
    users := state.users.erase userId }

/-! ## Running charts -/

/-- A `ChartJob`; its source is the connection it was resolved from, with the
decrypted password, when there is one. -/
structure ChartJob where
  chartId : String
  sql : String
  organizationId : String
  source : Option (String × ConnectionTarget × String)
  deriving DecidableEq, Repr

/-- One `ChartJob` of `_execute_report` or `_build_jobs`. -/
def chartJob (decrypt : String → Option String) (state : State)
    (chartId organizationId : String) (chart : SavedChart) : ChartJob where
  chartId := chartId
  sql := chart.sql
  organizationId := organizationId
  source := do
    let connectionId ← orNone chart.databaseConnectionId
    let conn ← state.connections.lookup connectionId
    let password ← decrypt conn.passwordEncrypted
    return (connectionId, conn.target, password)

/-- SQL of a chart that ran on a stored connection. -/
structure Execution where
  chartId : String
  connectionId : String
  deriving DecidableEq, Repr

/-- `execute_chart` reaches the connection only for a read, given a source; a
result served from the cache executes nothing. -/
def executeChart (isRead : String → Bool) (job : ChartJob) : List Execution :=
  if isRead job.sql then
    match job.source with
    | some (connectionId, _, _) => [⟨job.chartId, connectionId⟩]
    | none => []
  else []

/-- `_visible_or_404` -/
def visibleOr404 (state : State) (reportId actor : String) (user : User) :
    Except HttpError PublishedReport := do
  let report ← found (state.reports.lookup reportId) reportNotFound
  check (report.status = .active ∧
    report.organizationId = user.organizationId ∧
    (report.visibility = .restricted → report.publishedBy = actor))
    reportNotFound
  return report

def runReport (decrypt : String → Option String) (isRead : String → Bool)
    (state : State) (actor reportId : String) :
    Except HttpError (List Execution) := do
  let user ← requirePermission state actor .reportView
  let report ← visibleOr404 state reportId actor user
  -- A report whose chart is gone fails on the missing object.
  let chart ← found (state.charts.lookup report.chartId)
    ⟨500, "Internal Server Error"⟩
  return executeChart isRead
    (chartJob decrypt state report.chartId report.organizationId chart)

/-- The publication `_published_or_404` looks for. -/
def isPublishedTo (dashboardId organizationId : String)
    (record : PublishedDashboard) : Bool :=
  decide (record.dashboardId = dashboardId ∧ record.status = .active ∧
    record.organizationId = organizationId)

/-- `_published_or_404` -/
def publishedOr404 (state : State) (dashboardId actor : String) (user : User) :
    Except HttpError Dashboard := do
  let (_, record) ← found (state.publishedDashboards.first
    (isPublishedTo dashboardId user.organizationId)) dashboardNotFound
  check (record.visibility = .restricted → record.publishedBy = actor)
    dashboardNotFound
  -- A record whose dashboard is gone fails on the missing object.
  found (state.dashboards.lookup record.dashboardId) ⟨500, "Internal Server Error"⟩

/-- `_visible_dashboard` -/
def visibleDashboard (state : State) (dashboardId actor : String)
    (user : User) : Except HttpError Dashboard :=
  match state.dashboards.lookup dashboardId with
  | some dashboard =>
      if dashboard.userId = actor then .ok dashboard
      else publishedOr404 state dashboardId actor user
  | none => publishedOr404 state dashboardId actor user

/-- `_build_jobs` on the items of a dashboard; an item whose chart is gone fails
on the missing object. -/
def buildJobs (decrypt : String → Option String) (state : State)
    (organizationId : String) :
    List DashboardItem → Except HttpError (List ChartJob)
  | [] => return []
  | item :: rest => do
      let chart ← found (state.charts.lookup item.chartId)
        ⟨500, "Internal Server Error"⟩
      let jobs ← buildJobs decrypt state organizationId rest
      return chartJob decrypt state item.chartId organizationId chart :: jobs

def runDashboard (decrypt : String → Option String) (isRead : String → Bool)
    (state : State) (actor dashboardId : String) :
    Except HttpError (List Execution) := do
  let user ← requirePermission state actor .reportView
  let dashboard ← visibleDashboard state dashboardId actor user
  let jobs ← buildJobs decrypt state dashboard.organizationId dashboard.items
  return jobs.flatMap (executeChart isRead)

/-! ## Sequences of operations -/

/-- A drawn identifier is no key of `table`. -/
def unused {Row : Type} (table : Table Row) (id : String) : Bool :=
  (table.lookup id).isNone

def freshConnection (state : State) (id : String) : Bool :=
  unused state.connections id &&
    (state.charts.first fun chart =>
      decide (chart.databaseConnectionId = some id)).isNone

def freshChart (state : State) (id : String) : Bool :=
  unused state.charts id &&
    (state.reports.first fun report => decide (report.chartId = id)).isNone &&
    (state.dashboards.first fun dashboard =>
      dashboard.items.any fun item => decide (item.chartId = id)).isNone

def freshDashboard (state : State) (id : String) : Bool :=
  unused state.dashboards id &&
    (state.publishedDashboards.first fun record =>
      decide (record.dashboardId = id)).isNone

/-- An endpoint call; `actor` is the user the request authenticated as, and a new
row's identifier is part of the label. -/
inductive Label where
  | createConnection (actor id : String) (target : ConnectionTarget)
      (password : String)
  | updateConnection (actor id : String) (req : ConnectionUpdate)
  | deleteConnection (actor id : String)
  | createChart (actor id : String) (req : ChartIn)
  | publishChart (actor chartId reportId : String) (visibility : Visibility)
  | unpublishChart (actor chartId : String)
  | deleteChart (actor chartId : String)
  | createDashboard (actor id : String)
  | deleteDashboard (actor id : String)
  | pinChart (actor dashboardId itemId chartId : String)
  | unpinChart (actor dashboardId itemId : String)
  | publishDashboard (actor dashboardId recordId : String)
  | unpublishDashboard (actor dashboardId : String)
  | createOrg (actor id : String)
  | createUser (actor id : String) (permissions : List Permission)
      (organizationId : Option String)
  | register (id organizationId : String) (permissions : List Permission)
  | updateUser (actor userId : String) (permissions : Option (List Permission))
      (organizationId : Option String)
  | deleteUser (actor userId : String)
  | runReport (actor reportId : String)
  | runDashboard (actor dashboardId : String)

/-- What the endpoints take from elsewhere: Fernet and the read/write gate. -/
structure Environment where
  encrypt : String → String
  decrypt : String → Option String
  isRead : String → Bool

/-- A call that fails changes nothing and is no step. -/
def step (env : Environment) (state : State) : Label → Option State
  | .createConnection actor id target password =>
      if freshConnection state id then
        (createConnection env.encrypt state actor id target password).toOption
      else none
  | .updateConnection actor id req =>
      (updateConnection env.encrypt state actor id req).toOption
  | .deleteConnection actor id => (deleteConnection state actor id).toOption
  | .createChart actor id req =>
      if freshChart state id then (createChart state actor id req).toOption
      else none
  | .publishChart actor chartId reportId visibility =>
      if unused state.reports reportId then
        (publishChart state actor chartId reportId visibility).toOption
      else none
  | .unpublishChart actor chartId =>
      (unpublishChart state actor chartId).toOption
  | .deleteChart actor chartId => (deleteChart state actor chartId).toOption
  | .createDashboard actor id =>
      if freshDashboard state id then (createDashboard state actor id).toOption
      else none
  | .deleteDashboard actor id => (deleteDashboard state actor id).toOption
  | .pinChart actor dashboardId itemId chartId =>
      (pinChart state actor dashboardId itemId chartId).toOption
  | .unpinChart actor dashboardId itemId =>
      (unpinChart state actor dashboardId itemId).toOption
  | .publishDashboard actor dashboardId recordId =>
      if unused state.publishedDashboards recordId then
        (publishDashboard state actor dashboardId recordId).toOption
      else none
  | .unpublishDashboard actor dashboardId =>
      (unpublishDashboard state actor dashboardId).toOption
  | .createOrg actor id => (createOrg state actor id).toOption
  | .createUser actor id permissions organizationId =>
      if unused state.users id then
        (createUser state actor id permissions organizationId).toOption
      else none
  | .register id organizationId permissions =>
      if unused state.users id then
        (register state id organizationId permissions).toOption
      else none
  | .updateUser actor userId permissions organizationId =>
      (updateUser state actor userId permissions organizationId).toOption
  | .deleteUser actor userId => (deleteUser state actor userId).toOption
  | .runReport actor reportId =>
      (runReport env.decrypt env.isRead state actor reportId).toOption.map
        fun _ => state
  | .runDashboard actor dashboardId =>
      (runDashboard env.decrypt env.isRead state actor dashboardId).toOption.map
        fun _ => state

/-- Accounts and organisations, and nothing else yet. -/
def Initial (state : State) : Prop :=
  state.connections = ∅ ∧ state.charts = ∅ ∧ state.reports = ∅ ∧
    state.dashboards = ∅ ∧ state.publishedDashboards = ∅

def system (env : Environment) : TransitionSystem State Label where
  initial := Initial
  step := step env

end DbBuddy.Publishing
