import DbBuddy.Publishing.Endpoints

/-!
# Rows that other rows name

No foreign key is enforced, so each deletion has to take along what names the
deleted row.  Every endpoint keeps that a reference names a row and that the two
have one owner, where nothing is deleted that is named from where the deletion
does not look.
-/

namespace DbBuddy.Publishing

open DbBuddy.Library

/-! ## Deleting all of an account's rows -/

/-- `delete_all_charts` -/
def deleteAllCharts (state : State) (actor : String) : Except HttpError State := do
  let _ ← currentUser state actor
  return { state with
    charts := state.charts.keepIf fun chart => decide (chart.userId ≠ actor)
    dashboards := state.dashboards.updateAll (fun _ => true)
      fun dashboard => { dashboard with
        items := dashboard.items.filter fun item =>
          !(state.charts.lookup item.chartId).any
            fun chart => decide (chart.userId = actor) } }

/-- `delete_all_connections` -/
def deleteAllConnections (state : State) (actor : String) :
    Except HttpError State := do
  let _ ← requirePermission state actor .connectionManage
  return { state with
    connections := state.connections.keepIf fun conn =>
      decide (conn.userId ≠ actor) }

/-! ## Rows and their owners -/

/-- The row that a reference names is there. -/
def IsRow {Row : Type} (table : Table Row) (id : String) : Prop :=
  table.lookup id ≠ none

/-- The row `id` is there, and `userId` owns it. -/
def Owned {Row : Type} (owner : Row → String) (table : Table Row)
    (id userId : String) : Prop :=
  ∃ row, table.lookup id = some row ∧ owner row = userId

section Owned

variable {Row : Type} {owner : Row → String} {table : Table Row}
variable {id userId : String}

theorem isRow_of_lookup {row : Row} (present : table.lookup id = some row) :
    IsRow table id := by
  simp [IsRow, present]

theorem Owned.isRow (owned : Owned owner table id userId) : IsRow table id := by
  obtain ⟨row, present, _⟩ := owned
  exact isRow_of_lookup present

/-- An old row is written over by one of the same owner. -/
theorem Owned.insert (owned : Owned owner table id userId) {key : String} {row : Row}
    (same : ∀ old, table.lookup key = some old → owner old = owner row) :
    Owned owner (table.insert key row) id userId := by
  obtain ⟨old, present, isOwner⟩ := owned
  by_cases written : id = key
  · subst key
    exact ⟨row, by simp, (same old present).symm.trans isOwner⟩
  · exact ⟨old, by rwa [AList.lookup_insert_ne written], isOwner⟩

theorem Owned.erase (owned : Owned owner table id userId) {key : String}
    (different : id ≠ key) : Owned owner (table.erase key) id userId := by
  obtain ⟨row, present, isOwner⟩ := owned
  exact ⟨row, by rwa [AList.lookup_erase_ne different], isOwner⟩

theorem Owned.keepIf (owned : Owned owner table id userId) {keep : Row → Bool}
    (kept : ∀ row, table.lookup id = some row → keep row = true) :
    Owned owner (table.keepIf keep) id userId := by
  obtain ⟨row, present, isOwner⟩ := owned
  exact ⟨row, OrderedDict.lookup_keepIf_eq_some present (kept row present), isOwner⟩

theorem IsRow.insert (present : IsRow table id) {key : String} {row : Row} :
    IsRow (table.insert key row) id :=
  OrderedDict.lookup_insert_ne_none present

theorem IsRow.erase (present : IsRow table id) {key : String}
    (different : id ≠ key) : IsRow (table.erase key) id := by
  unfold IsRow
  rwa [AList.lookup_erase_ne different]

theorem IsRow.keepIf (present : IsRow table id) {keep : Row → Bool}
    (kept : ∀ row, table.lookup id = some row → keep row = true) :
    IsRow (table.keepIf keep) id := by
  obtain ⟨row, isRow⟩ := Option.ne_none_iff_exists'.mp present
  exact isRow_of_lookup
    (OrderedDict.lookup_keepIf_eq_some isRow (kept row isRow))

end Owned

/-! ## The invariant -/

/-- A publication is its chart's or dashboard's owner's, and an item's chart is
its dashboard's owner's: so what an account owns is only named from there.
`userRef` and `connectionRef` are what the rows of other tables name. -/
structure Sound (userRef connectionRef : String → Prop) (state : State) : Prop where
  user : ∀ userId, userRef userId → IsRow state.users userId
  snapshot : ∀ connectionId, connectionRef connectionId →
    IsRow state.connections connectionId
  connection : ∀ id conn, state.connections.lookup id = some conn →
    IsRow state.users conn.userId
  chart : ∀ id chart, state.charts.lookup id = some chart →
    IsRow state.users chart.userId
  source : ∀ id chart connectionId, state.charts.lookup id = some chart →
    chart.databaseConnectionId = some connectionId →
    IsRow state.connections connectionId
  report : ∀ id report, state.reports.lookup id = some report →
    Owned SavedChart.userId state.charts report.chartId report.publishedBy
  dashboard : ∀ id dashboard, state.dashboards.lookup id = some dashboard →
    IsRow state.users dashboard.userId
  item : ∀ id dashboard item, state.dashboards.lookup id = some dashboard →
    item ∈ dashboard.items →
    Owned SavedChart.userId state.charts item.chartId dashboard.userId
  record : ∀ id record, state.publishedDashboards.lookup id = some record →
    Owned Dashboard.userId state.dashboards record.dashboardId record.publishedBy

section Keeping

variable {userRef connectionRef : String → Prop} {state : State}

theorem sound_initial (isInitial : Initial state)
    (noUser : ∀ userId, ¬ userRef userId)
    (noConnection : ∀ connectionId, ¬ connectionRef connectionId) :
    Sound userRef connectionRef state := by
  obtain ⟨noConnections, noCharts, noReports, noDashboards, noRecords⟩ :=
    isInitial
  constructor
  · intro userId named
    exact absurd named (noUser userId)
  · intro connectionId named
    exact absurd named (noConnection connectionId)
  · intro id conn present
    simp [noConnections] at present
  · intro id chart present
    simp [noCharts] at present
  · intro id chart connectionId present
    simp [noCharts] at present
  · intro id report present
    simp [noReports] at present
  · intro id dashboard present
    simp [noDashboards] at present
  · intro id dashboard item present
    simp [noDashboards] at present
  · intro id record present
    simp [noRecords] at present

/-- The other tables may name any rows that are there. -/
theorem Sound.refs (sound : Sound userRef connectionRef state)
    {users connections : String → Prop}
    (user : ∀ userId, users userId → IsRow state.users userId)
    (snapshot : ∀ connectionId, connections connectionId →
      IsRow state.connections connectionId) :
    Sound users connections state :=
  ⟨user, snapshot, sound.connection, sound.chart, sound.source, sound.report,
    sound.dashboard, sound.item, sound.record⟩

theorem Sound.reportPublisher (sound : Sound userRef connectionRef state) {id : String}
    {report : PublishedReport} (present : state.reports.lookup id = some report) :
    IsRow state.users report.publishedBy := by
  obtain ⟨chart, isChart, isOwner⟩ := sound.report id report present
  rw [← isOwner]
  exact sound.chart _ chart isChart

theorem Sound.recordPublisher (sound : Sound userRef connectionRef state) {id : String}
    {record : PublishedDashboard}
    (present : state.publishedDashboards.lookup id = some record) :
    IsRow state.users record.publishedBy := by
  obtain ⟨dashboard, isDashboard, isOwner⟩ := sound.record id record present
  rw [← isOwner]
  exact sound.dashboard _ dashboard isDashboard

theorem Sound.insertUser (sound : Sound userRef connectionRef state) (id : String) (user : User) :
    Sound userRef connectionRef { state with users := state.users.insert id user } := by
  refine ⟨?_, sound.snapshot, ?_, ?_, sound.source, sound.report, ?_, sound.item,
    sound.record⟩
  · intro userId named
    exact (sound.user userId named).insert
  · intro connId conn present
    exact (sound.connection connId conn present).insert
  · intro chartId chart present
    exact (sound.chart chartId chart present).insert
  · intro dashboardId dashboard present
    exact (sound.dashboard dashboardId dashboard present).insert

theorem Sound.insertConnection (sound : Sound userRef connectionRef state) {id : String}
    {conn : DatabaseConnection} (owner : IsRow state.users conn.userId) :
    Sound userRef connectionRef { state with connections := state.connections.insert id conn } := by
  refine ⟨sound.user, ?_, ?_, sound.chart, ?_, sound.report, sound.dashboard,
    sound.item, sound.record⟩
  · intro connectionId named
    exact (sound.snapshot connectionId named).insert
  · intro connId found present
    rcases OrderedDict.lookup_insert_cases present with ⟨_, rfl⟩ | ⟨_, older⟩
    · exact owner
    · exact sound.connection connId found older
  · intro chartId chart connectionId isChart names
    exact (sound.source chartId chart connectionId isChart names).insert

theorem Sound.insertChart (sound : Sound userRef connectionRef state) {id : String} {chart : SavedChart}
    (owner : IsRow state.users chart.userId)
    (source : ∀ connectionId, chart.databaseConnectionId = some connectionId →
      IsRow state.connections connectionId)
    (same : ∀ old, state.charts.lookup id = some old →
      old.userId = chart.userId) :
    Sound userRef connectionRef { state with charts := state.charts.insert id chart } := by
  refine ⟨sound.user, sound.snapshot, sound.connection, ?_, ?_, ?_,
    sound.dashboard, ?_, sound.record⟩
  · intro chartId found present
    rcases OrderedDict.lookup_insert_cases present with ⟨_, rfl⟩ | ⟨_, older⟩
    · exact owner
    · exact sound.chart chartId found older
  · intro chartId found connectionId present names
    rcases OrderedDict.lookup_insert_cases present with ⟨_, rfl⟩ | ⟨_, older⟩
    · exact source connectionId names
    · exact sound.source chartId found connectionId older names
  · intro reportId report present
    exact (sound.report reportId report present).insert same
  · intro dashboardId dashboard item present isItem
    exact (sound.item dashboardId dashboard item present isItem).insert same

theorem Sound.setReports (sound : Sound userRef connectionRef state) {reports : Table PublishedReport}
    (named : ∀ id report, reports.lookup id = some report →
      Owned SavedChart.userId state.charts report.chartId report.publishedBy) :
    Sound userRef connectionRef { state with reports := reports } :=
  ⟨sound.user, sound.snapshot, sound.connection, sound.chart, sound.source, named,
    sound.dashboard, sound.item, sound.record⟩

theorem Sound.insertReport (sound : Sound userRef connectionRef state) {id : String}
    {report : PublishedReport}
    (named : Owned SavedChart.userId state.charts report.chartId
      report.publishedBy) :
    Sound userRef connectionRef { state with reports := state.reports.insert id report } := by
  refine sound.setReports ?_
  intro reportId found present
  rcases OrderedDict.lookup_insert_cases present with ⟨_, rfl⟩ | ⟨_, older⟩
  · exact named
  · exact sound.report reportId found older

theorem Sound.insertDashboard (sound : Sound userRef connectionRef state) {id : String}
    {dashboard : Dashboard} (owner : IsRow state.users dashboard.userId)
    (items : ∀ item ∈ dashboard.items,
      Owned SavedChart.userId state.charts item.chartId dashboard.userId)
    (same : ∀ old, state.dashboards.lookup id = some old →
      old.userId = dashboard.userId) :
    Sound userRef connectionRef { state with dashboards := state.dashboards.insert id dashboard } := by
  refine ⟨sound.user, sound.snapshot, sound.connection, sound.chart, sound.source,
    sound.report, ?_, ?_, ?_⟩
  · intro dashboardId found present
    rcases OrderedDict.lookup_insert_cases present with ⟨_, rfl⟩ | ⟨_, older⟩
    · exact owner
    · exact sound.dashboard dashboardId found older
  · intro dashboardId found item present isItem
    rcases OrderedDict.lookup_insert_cases present with ⟨_, rfl⟩ | ⟨_, older⟩
    · exact items item isItem
    · exact sound.item dashboardId found item older isItem
  · intro recordId record present
    exact (sound.record recordId record present).insert same

/-- Setting the status of a chart changes no reference. -/
theorem Sound.setChartStatus (sound : Sound userRef connectionRef state)
    {id : String} {chart : SavedChart}
    (present : state.charts.lookup id = some chart) (isPublished : Bool) :
    Sound userRef connectionRef { state with
      charts := state.charts.insert id
        { chart with isPublished := isPublished } } := by
  refine sound.insertChart (sound.chart id chart present) ?_ ?_
  · intro connectionId names
    exact sound.source id chart connectionId present names
  · intro old isOld
    cases present.symm.trans isOld
    rfl

/-- A dashboard is written over with the same owner and no item that is new. -/
theorem Sound.setDashboard (sound : Sound userRef connectionRef state) {id : String}
    {dashboard changed : Dashboard}
    (present : state.dashboards.lookup id = some dashboard)
    (ownerEq : changed.userId = dashboard.userId)
    (included : changed.items ⊆ dashboard.items) :
    Sound userRef connectionRef { state with dashboards := state.dashboards.insert id changed } := by
  refine sound.insertDashboard ?_ ?_ ?_
  · rw [ownerEq]
    exact sound.dashboard id dashboard present
  · intro item isItem
    rw [ownerEq]
    exact sound.item id dashboard item present (included isItem)
  · intro old isOld
    cases present.symm.trans isOld
    exact ownerEq.symm

theorem Sound.insertRecord (sound : Sound userRef connectionRef state) {id : String}
    {record : PublishedDashboard}
    (named : Owned Dashboard.userId state.dashboards record.dashboardId
      record.publishedBy) :
    Sound userRef connectionRef { state with
      publishedDashboards := state.publishedDashboards.insert id record } := by
  refine ⟨sound.user, sound.snapshot, sound.connection, sound.chart, sound.source,
    sound.report, sound.dashboard, sound.item, ?_⟩
  intro recordId found present
  rcases OrderedDict.lookup_insert_cases present with ⟨_, rfl⟩ | ⟨_, older⟩
  · exact named
  · exact sound.record recordId found older

/-- Charts are deleted that no publication and no item names. -/
theorem Sound.fewerCharts (sound : Sound userRef connectionRef state) {charts : Table SavedChart}
    {dashboards : Table Dashboard}
    (older : ∀ id chart, charts.lookup id = some chart →
      state.charts.lookup id = some chart)
    (reports : ∀ id report, state.reports.lookup id = some report →
      Owned SavedChart.userId charts report.chartId report.publishedBy)
    (items : ∀ id dashboard, dashboards.lookup id = some dashboard →
      ∃ old, state.dashboards.lookup id = some old ∧
        old.userId = dashboard.userId ∧
        ∀ item ∈ dashboard.items, item ∈ old.items ∧
          ∀ chart, state.charts.lookup item.chartId = some chart →
            charts.lookup item.chartId = some chart)
    (records : ∀ id record, state.publishedDashboards.lookup id = some record →
      Owned Dashboard.userId dashboards record.dashboardId record.publishedBy) :
    Sound userRef connectionRef { state with charts := charts, dashboards := dashboards } := by
  refine ⟨sound.user, sound.snapshot, sound.connection, ?_, ?_, reports, ?_, ?_,
    records⟩
  · intro id chart present
    exact sound.chart id chart (older id chart present)
  · intro id chart connectionId present names
    exact sound.source id chart connectionId (older id chart present) names
  · intro id dashboard present
    obtain ⟨old, isOld, ownerEq, _⟩ := items id dashboard present
    rw [← ownerEq]
    exact sound.dashboard id old isOld
  · intro id dashboard item present isItem
    obtain ⟨old, isOld, ownerEq, kept⟩ := items id dashboard present
    obtain ⟨wasItem, stays⟩ := kept item isItem
    obtain ⟨chart, isChart, isOwner⟩ := sound.item id old item isOld wasItem
    exact ⟨chart, stays chart isChart, isOwner.trans ownerEq⟩

end Keeping

/-! ## Every endpoint keeps it -/

section Steps

variable {userRef connectionRef : String → Prop} {state next : State}
variable {actor : String}

theorem sound_publishChart {chartId reportId : String} {visibility : Visibility}
    (sound : Sound userRef connectionRef state)
    (ran : publishChart state actor chartId reportId visibility = .ok next) :
    Sound userRef connectionRef next := by
  obtain ⟨user, chart, reports, isUser, isChart, isOwner, written, rfl⟩ :=
    publishChart_eq_ok ran
  have named : Owned SavedChart.userId state.charts chartId actor :=
    ⟨chart, isChart, isOwner⟩
  rcases written with rfl | ⟨existing, report, isFirst, rfl⟩
  · exact (sound.insertReport named).setChartStatus isChart true
  · have active := (OrderedDict.lookup_first isFirst).2
    have ofChart := (of_decide_eq_true active).1
    refine (sound.insertReport ?_).setChartStatus isChart true
    rw [ofChart]
    exact named

theorem sound_unpublishChart {chartId : String}
    (sound : Sound userRef connectionRef state)
    (ran : unpublishChart state actor chartId = .ok next) :
    Sound userRef connectionRef next := by
  obtain ⟨user, chart, isUser, isChart, isOwner, rfl⟩ := unpublishChart_eq_ok ran
  have revoked : Sound userRef connectionRef { state with
      reports := state.reports.updateAll (isActiveFor chartId)
        fun report => { report with status := .revoked } } := by
    refine sound.setReports ?_
    intro id report present
    obtain ⟨old, wasThere, changed⟩ := OrderedDict.lookup_updateAll present
    have named := sound.report id old wasThere
    split at changed
    · rw [changed]
      exact named
    · rw [changed]
      exact named
  exact revoked.setChartStatus isChart false

theorem sound_deleteChart {chartId : String}
    (sound : Sound userRef connectionRef state)
    (unnamed : ∀ id report, state.reports.lookup id = some report →
      report.chartId ≠ chartId)
    (ran : deleteChart state actor chartId = .ok next) :
    Sound userRef connectionRef next := by
  obtain ⟨user, chart, isUser, isChart, isOwner, rfl⟩ := deleteChart_eq_ok ran
  refine sound.fewerCharts ?_ ?_ ?_ ?_
  · intro id other present
    exact (OrderedDict.lookup_erase_cases present).2
  · intro id report present
    exact (sound.report id report present).erase (unnamed id report present)
  · intro id dashboard present
    obtain ⟨old, wasThere, rfl⟩ := OrderedDict.lookup_updateAll present
    refine ⟨old, wasThere, rfl, ?_⟩
    intro item isItem
    obtain ⟨wasItem, different⟩ := List.mem_filter.mp isItem
    refine ⟨wasItem, ?_⟩
    intro other isOther
    rwa [AList.lookup_erase_ne (of_decide_eq_true different)]
  · intro id record present
    obtain ⟨dashboard, isDashboard, isOwner⟩ := sound.record id record present
    exact ⟨_, OrderedDict.lookup_updateAll_eq_some isDashboard, isOwner⟩

theorem sound_deleteAllCharts (sound : Sound userRef connectionRef state)
    (unnamed : ∀ id report chart, state.reports.lookup id = some report →
      state.charts.lookup report.chartId = some chart → chart.userId ≠ actor)
    (ran : deleteAllCharts state actor = .ok next) :
    Sound userRef connectionRef next := by
  obtain ⟨_, _, done⟩ := bind_eq_ok ran
  cases done
  refine sound.fewerCharts ?_ ?_ ?_ ?_
  · intro id chart present
    exact (OrderedDict.lookup_keepIf present).1
  · intro id report present
    refine (sound.report id report present).keepIf ?_
    intro chart isChart
    exact decide_eq_true (unnamed id report chart present isChart)
  · intro id dashboard present
    obtain ⟨old, wasThere, rfl⟩ := OrderedDict.lookup_updateAll present
    refine ⟨old, wasThere, rfl, ?_⟩
    intro item isItem
    obtain ⟨wasItem, different⟩ := List.mem_filter.mp isItem
    refine ⟨wasItem, ?_⟩
    intro chart isChart
    refine OrderedDict.lookup_keepIf_eq_some isChart ?_
    simpa [isChart] using different
  · intro id record present
    obtain ⟨dashboard, isDashboard, isOwner⟩ := sound.record id record present
    exact ⟨_, OrderedDict.lookup_updateAll_eq_some isDashboard, isOwner⟩

/-- Connections are deleted that nothing names. -/
theorem Sound.fewerConnections (sound : Sound userRef connectionRef state)
    {connections : Table DatabaseConnection}
    (older : ∀ id conn, connections.lookup id = some conn →
      state.connections.lookup id = some conn)
    (snapshots : ∀ id, connectionRef id → IsRow connections id)
    (sources : ∀ id chart connectionId, state.charts.lookup id = some chart →
      chart.databaseConnectionId = some connectionId →
      IsRow connections connectionId) :
    Sound userRef connectionRef { state with connections := connections } := by
  refine ⟨sound.user, snapshots, ?_, sound.chart, sources, sound.report,
    sound.dashboard, sound.item, sound.record⟩
  intro id conn present
  exact sound.connection id conn (older id conn present)

theorem sound_deleteConnection {id : String}
    (sound : Sound userRef connectionRef state) (noSnapshot : ¬ connectionRef id)
    (unnamed : ∀ chartId chart, state.charts.lookup chartId = some chart →
      chart.databaseConnectionId ≠ some id)
    (ran : deleteConnection state actor id = .ok next) :
    Sound userRef connectionRef next := by
  obtain ⟨user, conn, isUser, isConn, isOwner, rfl⟩ := deleteConnection_eq_ok ran
  refine sound.fewerConnections ?_ ?_ ?_
  · intro other found present
    exact (OrderedDict.lookup_erase_cases present).2
  · intro other named
    refine (sound.snapshot other named).erase ?_
    rintro rfl
    exact noSnapshot named
  · intro chartId chart other isChart names
    refine (sound.source chartId chart other isChart names).erase ?_
    rintro rfl
    exact unnamed chartId chart isChart names

theorem sound_deleteAllConnections (sound : Sound userRef connectionRef state)
    (noSnapshot : ∀ id conn, connectionRef id →
      state.connections.lookup id = some conn → conn.userId ≠ actor)
    (unnamed : ∀ chartId chart id conn,
      state.charts.lookup chartId = some chart →
      chart.databaseConnectionId = some id →
      state.connections.lookup id = some conn → conn.userId ≠ actor)
    (ran : deleteAllConnections state actor = .ok next) :
    Sound userRef connectionRef next := by
  obtain ⟨_, _, done⟩ := bind_eq_ok ran
  cases done
  refine sound.fewerConnections ?_ ?_ ?_
  · intro id conn present
    exact (OrderedDict.lookup_keepIf present).1
  · intro id named
    refine (sound.snapshot id named).keepIf ?_
    intro conn isConn
    exact decide_eq_true (noSnapshot id conn named isConn)
  · intro chartId chart id isChart names
    refine (sound.source chartId chart id isChart names).keepIf ?_
    intro conn isConn
    exact decide_eq_true (unnamed chartId chart id conn isChart names isConn)

theorem sound_deleteDashboard {id : String}
    (sound : Sound userRef connectionRef state)
    (unnamed : ∀ recordId record,
      state.publishedDashboards.lookup recordId = some record →
      record.dashboardId ≠ id)
    (ran : deleteDashboard state actor id = .ok next) :
    Sound userRef connectionRef next := by
  obtain ⟨user, dashboard, isUser, isDashboard, isOwner, rfl⟩ :=
    deleteDashboard_eq_ok ran
  refine ⟨sound.user, sound.snapshot, sound.connection, sound.chart, sound.source,
    sound.report, ?_, ?_, ?_⟩
  · intro other found present
    exact sound.dashboard other found (OrderedDict.lookup_erase_cases present).2
  · intro other found item present isItem
    exact sound.item other found item (OrderedDict.lookup_erase_cases present).2
      isItem
  · intro recordId record present
    exact (sound.record recordId record present).erase
      (unnamed recordId record present)

theorem sound_pinChart {dashboardId itemId chartId : String}
    (sound : Sound userRef connectionRef state)
    (ran : pinChart state actor dashboardId itemId chartId = .ok next) :
    Sound userRef connectionRef next := by
  obtain ⟨user, dashboard, chart, isUser, isDashboard, isOwner, isChart,
    chartOwner, written⟩ := pinChart_eq_ok ran
  rcases written with ⟨_, rfl⟩ | ⟨_, rfl⟩
  · exact sound
  · refine sound.insertDashboard
      (sound.dashboard dashboardId dashboard isDashboard) ?_ ?_
    · intro item isItem
      rcases List.mem_append.mp isItem with older | isNew
      · exact sound.item dashboardId dashboard item isDashboard older
      · cases List.mem_singleton.mp isNew
        exact ⟨chart, isChart, chartOwner.trans isOwner.symm⟩
    · intro old isOld
      cases isDashboard.symm.trans isOld
      rfl

theorem sound_publishDashboard {dashboardId recordId : String}
    (sound : Sound userRef connectionRef state)
    (ran : publishDashboard state actor dashboardId recordId = .ok next) :
    Sound userRef connectionRef next := by
  obtain ⟨user, dashboard, records, isUser, isDashboard, isOwner, written, rfl⟩ :=
    publishDashboard_eq_ok ran
  rcases written with rfl | ⟨existing, record, isFirst, rfl⟩
  · have named : Owned Dashboard.userId state.dashboards dashboardId actor :=
      ⟨dashboard, isDashboard, isOwner⟩
    exact (sound.insertRecord named).setDashboard isDashboard rfl
      (List.Subset.refl _)
  · have named := sound.record existing record (OrderedDict.lookup_first isFirst).1
    refine (sound.insertRecord ?_).setDashboard isDashboard rfl
      (List.Subset.refl _)
    exact named

theorem sound_unpublishDashboard {dashboardId : String}
    (sound : Sound userRef connectionRef state)
    (ran : unpublishDashboard state actor dashboardId = .ok next) :
    Sound userRef connectionRef next := by
  obtain ⟨user, dashboard, records, isUser, isDashboard, isOwner, written, rfl⟩ :=
    unpublishDashboard_eq_ok ran
  rcases written with rfl | ⟨existing, record, isFirst, rfl⟩
  · exact sound.setDashboard isDashboard rfl (List.Subset.refl _)
  · have named := sound.record existing record (OrderedDict.lookup_first isFirst).1
    refine (sound.insertRecord ?_).setDashboard isDashboard rfl
      (List.Subset.refl _)
    exact named

theorem sound_deleteUser {userId : String}
    (sound : Sound userRef connectionRef state) (noUser : ¬ userRef userId)
    (noSnapshot : ∀ id conn, connectionRef id →
      state.connections.lookup id = some conn → conn.userId ≠ userId)
    (unnamed : ∀ chartId chart id conn,
      state.charts.lookup chartId = some chart →
      chart.databaseConnectionId = some id →
      state.connections.lookup id = some conn → conn.userId = userId →
      chart.userId = userId)
    (ran : deleteUser state actor userId = .ok next) :
    Sound userRef connectionRef next := by
  obtain ⟨user, target, isUser, isTarget, different, rfl⟩ := deleteUser_eq_ok ran
  refine ⟨?_, ?_, ?_, ?_, ?_, ?_, ?_, ?_, ?_⟩
  · intro other named
    refine (sound.user other named).erase ?_
    rintro rfl
    exact noUser named
  · intro id named
    refine (sound.snapshot id named).keepIf ?_
    intro conn isConn
    exact decide_eq_true (noSnapshot id conn named isConn)
  · intro id conn present
    obtain ⟨older, kept⟩ := OrderedDict.lookup_keepIf present
    exact (sound.connection id conn older).erase (of_decide_eq_true kept)
  · intro id chart present
    obtain ⟨older, kept⟩ := OrderedDict.lookup_keepIf present
    exact (sound.chart id chart older).erase (of_decide_eq_true kept)
  · intro chartId chart id present names
    obtain ⟨older, kept⟩ := OrderedDict.lookup_keepIf present
    refine (sound.source chartId chart id older names).keepIf ?_
    intro conn isConn
    refine decide_eq_true ?_
    intro isTheirs
    exact of_decide_eq_true kept
      (unnamed chartId chart id conn older names isConn isTheirs)
  · intro id report present
    obtain ⟨older, kept⟩ := OrderedDict.lookup_keepIf present
    have named := sound.report id report older
    refine named.keepIf ?_
    intro chart isChart
    obtain ⟨found, isFound, isOwner⟩ := named
    cases isChart.symm.trans isFound
    exact decide_eq_true (isOwner ▸ of_decide_eq_true kept)
  · intro id dashboard present
    obtain ⟨older, kept⟩ := OrderedDict.lookup_keepIf present
    exact (sound.dashboard id dashboard older).erase (of_decide_eq_true kept)
  · intro id dashboard item present isItem
    obtain ⟨older, kept⟩ := OrderedDict.lookup_keepIf present
    have named := sound.item id dashboard item older isItem
    refine named.keepIf ?_
    intro chart isChart
    obtain ⟨found, isFound, isOwner⟩ := named
    cases isChart.symm.trans isFound
    exact decide_eq_true (isOwner ▸ of_decide_eq_true kept)
  · intro id record present
    obtain ⟨older, kept⟩ := OrderedDict.lookup_keepIf present
    simp only [Bool.and_eq_true, decide_eq_true_eq] at kept
    have named := sound.record id record older
    refine named.keepIf ?_
    intro dashboard isDashboard
    obtain ⟨found, isFound, isOwner⟩ := named
    cases isDashboard.symm.trans isFound
    exact decide_eq_true (isOwner ▸ kept.1)

/-- What `sound_step` needs of a label: a new chart names a connection that is
there, and what is deleted is not named from where the deletion does not look. -/
def Spares (userRef connectionRef : String → Prop) (state : State) : Label → Prop
  | .createChart _ _ req =>
      ∀ connectionId, req.databaseConnectionId = some connectionId →
        IsRow state.connections connectionId
  | .deleteChart _ chartId =>
      ∀ id report, state.reports.lookup id = some report →
        report.chartId ≠ chartId
  | .deleteConnection _ connectionId =>
      ¬ connectionRef connectionId ∧
        ∀ id chart, state.charts.lookup id = some chart →
          chart.databaseConnectionId ≠ some connectionId
  | .deleteDashboard _ dashboardId =>
      ∀ id record, state.publishedDashboards.lookup id = some record →
        record.dashboardId ≠ dashboardId
  | .deleteUser _ userId =>
      ¬ userRef userId ∧
        (∀ id conn, connectionRef id → state.connections.lookup id = some conn →
          conn.userId ≠ userId) ∧
        ∀ chartId chart id conn, state.charts.lookup chartId = some chart →
          chart.databaseConnectionId = some id →
          state.connections.lookup id = some conn → conn.userId = userId →
          chart.userId = userId
  | _ => True

theorem sound_step {env : Environment} {label : Label}
    (sound : Sound userRef connectionRef state)
    (spares : Spares userRef connectionRef state label)
    (stepped : step env state label = some next) :
    Sound userRef connectionRef next := by
  cases label with
  | createConnection actor id target password =>
      obtain ⟨_, ran⟩ := Option.ite_none_right_eq_some.mp stepped
      obtain ⟨user, conn, isUser, isOwner, rfl⟩ :=
        createConnection_eq_ok (toOption_eq_some ran)
      refine sound.insertConnection ?_
      rw [isOwner]
      exact isRow_of_lookup isUser
  | updateConnection actor id req =>
      obtain ⟨user, conn, isUser, isOwner, rfl⟩ :=
        updateConnection_eq_ok (toOption_eq_some stepped)
      refine sound.insertConnection ?_
      rw [isOwner]
      exact isRow_of_lookup isUser
  | deleteConnection actor id =>
      exact sound_deleteConnection sound spares.1 spares.2 (toOption_eq_some stepped)
  | createChart actor id req =>
      obtain ⟨fresh, ran⟩ := Option.ite_none_right_eq_some.mp stepped
      obtain ⟨user, isUser, rfl⟩ := createChart_eq_ok (toOption_eq_some ran)
      simp only [freshChart, unused, Bool.and_eq_true,
        Option.isNone_iff_eq_none] at fresh
      refine sound.insertChart (isRow_of_lookup isUser) spares ?_
      intro old isOld
      rw [fresh.1.1] at isOld
      cases isOld
  | publishChart actor chartId reportId visibility =>
      obtain ⟨_, ran⟩ := Option.ite_none_right_eq_some.mp stepped
      exact sound_publishChart sound (toOption_eq_some ran)
  | unpublishChart actor chartId =>
      exact sound_unpublishChart sound (toOption_eq_some stepped)
  | deleteChart actor chartId =>
      exact sound_deleteChart sound spares (toOption_eq_some stepped)
  | createDashboard actor id =>
      obtain ⟨fresh, ran⟩ := Option.ite_none_right_eq_some.mp stepped
      obtain ⟨user, isUser, rfl⟩ := createDashboard_eq_ok (toOption_eq_some ran)
      simp only [freshDashboard, unused, Bool.and_eq_true,
        Option.isNone_iff_eq_none] at fresh
      refine sound.insertDashboard (isRow_of_lookup isUser) (by simp) ?_
      intro old isOld
      rw [fresh.1] at isOld
      cases isOld
  | deleteDashboard actor id =>
      exact sound_deleteDashboard sound spares (toOption_eq_some stepped)
  | pinChart actor dashboardId itemId chartId =>
      exact sound_pinChart sound (toOption_eq_some stepped)
  | unpinChart actor dashboardId itemId =>
      obtain ⟨user, dashboard, isUser, isDashboard, isOwner, rfl⟩ :=
        unpinChart_eq_ok (toOption_eq_some stepped)
      exact sound.setDashboard isDashboard rfl List.eraseP_subset
  | publishDashboard actor dashboardId recordId =>
      obtain ⟨_, ran⟩ := Option.ite_none_right_eq_some.mp stepped
      exact sound_publishDashboard sound (toOption_eq_some ran)
  | unpublishDashboard actor dashboardId =>
      exact sound_unpublishDashboard sound (toOption_eq_some stepped)
  | createOrg actor id =>
      obtain ⟨user, isUser, rfl⟩ := createOrg_eq_ok (toOption_eq_some stepped)
      exact ⟨sound.user, sound.snapshot, sound.connection, sound.chart, sound.source,
        sound.report, sound.dashboard, sound.item, sound.record⟩
  | createUser actor id permissions organizationId =>
      obtain ⟨_, ran⟩ := Option.ite_none_right_eq_some.mp stepped
      obtain ⟨user, created, isUser, rfl⟩ := createUser_eq_ok (toOption_eq_some ran)
      exact sound.insertUser id created
  | register id organizationId permissions =>
      obtain ⟨_, ran⟩ := Option.ite_none_right_eq_some.mp stepped
      cases toOption_eq_some ran
      exact sound.insertUser id _
  | updateUser actor userId permissions organizationId =>
      obtain ⟨user, target, changed, isUser, isTarget, _, rfl⟩ :=
        updateUser_eq_ok (toOption_eq_some stepped)
      exact sound.insertUser userId changed
  | deleteUser actor userId =>
      exact sound_deleteUser sound spares.1 spares.2.1 spares.2.2
        (toOption_eq_some stepped)
  | runReport actor reportId =>
      obtain ⟨_, _, rfl⟩ := Option.map_eq_some_iff.mp stepped
      exact sound
  | runDashboard actor dashboardId =>
      obtain ⟨_, _, rfl⟩ := Option.map_eq_some_iff.mp stepped
      exact sound

end Steps

end DbBuddy.Publishing
