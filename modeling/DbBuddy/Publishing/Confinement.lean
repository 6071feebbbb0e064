import DbBuddy.Publishing.Endpoints

/-!
# Which connection a run reaches

A run follows a chain of identifiers: publication, dashboard item, chart,
connection.  Each is written by another endpoint, so confinement is an invariant
of all the tables together: every chart names a connection of its own owner, and
every active publication names the organisation its chart's or dashboard's owner
is in.
-/

namespace DbBuddy.Publishing

open DbBuddy.Library

/-! ## The invariant -/

/-- The owner of `userId` is in `organizationId`, if the account is there. -/
def OwnerIn (state : State) (userId organizationId : String) : Prop :=
  ∀ owner, state.users.lookup userId = some owner →
    owner.organizationId = organizationId

/-- What the chain of identifiers satisfies in every state. -/
structure Inv (state : State) : Prop where
  connection : ∀ chartId chart connectionId conn,
    state.charts.lookup chartId = some chart →
    chart.databaseConnectionId = some connectionId →
    state.connections.lookup connectionId = some conn →
    conn.userId = chart.userId
  chartOwner : ∀ chartId chart, state.charts.lookup chartId = some chart →
    state.users.lookup chart.userId ≠ none
  report : ∀ reportId report chart, state.reports.lookup reportId = some report →
    report.status = .active →
    state.charts.lookup report.chartId = some chart →
    OwnerIn state chart.userId report.organizationId
  dashboardOwner : ∀ dashboardId dashboard,
    state.dashboards.lookup dashboardId = some dashboard →
    state.users.lookup dashboard.userId ≠ none
  item : ∀ dashboardId dashboard item chart,
    state.dashboards.lookup dashboardId = some dashboard →
    item ∈ dashboard.items → state.charts.lookup item.chartId = some chart →
    chart.userId = dashboard.userId
  record : ∀ recordId record dashboard,
    state.publishedDashboards.lookup recordId = some record →
    record.status = .active →
    state.dashboards.lookup record.dashboardId = some dashboard →
    OwnerIn state dashboard.userId record.organizationId

theorem inv_initial {state : State} (isInitial : Initial state) : Inv state := by
  obtain ⟨noConnections, noCharts, noReports, noDashboards, noRecords⟩ :=
    isInitial
  refine ⟨?_, ?_, ?_, ?_, ?_, ?_⟩
  · intro chartId chart _ _ present
    simp [noCharts] at present
  · intro chartId chart present
    simp [noCharts] at present
  · intro reportId report _ present
    simp [noReports] at present
  · intro dashboardId dashboard present
    simp [noDashboards] at present
  · intro dashboardId dashboard _ _ present
    simp [noDashboards] at present
  · intro recordId record _ present
    simp [noRecords] at present

/-- No row of `next` says more than a row of `state`: rows may be gone, be
revoked, lose items, or change in what the invariant does not read. -/
structure Fewer (state next : State) : Prop where
  users : ∀ userId, (next.users.lookup userId).map User.organizationId =
    (state.users.lookup userId).map User.organizationId
  connections : ∀ id conn, next.connections.lookup id = some conn →
    ∃ old, state.connections.lookup id = some old ∧ old.userId = conn.userId
  charts : ∀ id chart, next.charts.lookup id = some chart →
    ∃ old, state.charts.lookup id = some old ∧ old.userId = chart.userId ∧
      old.databaseConnectionId = chart.databaseConnectionId
  reports : ∀ id report, next.reports.lookup id = some report →
    report.status = .active →
    ∃ old, state.reports.lookup id = some old ∧ old.status = .active ∧
      old.chartId = report.chartId ∧ old.organizationId = report.organizationId
  dashboards : ∀ id dashboard, next.dashboards.lookup id = some dashboard →
    ∃ old, state.dashboards.lookup id = some old ∧
      old.userId = dashboard.userId ∧ dashboard.items ⊆ old.items
  records : ∀ id record, next.publishedDashboards.lookup id = some record →
    record.status = .active →
    ∃ old, state.publishedDashboards.lookup id = some old ∧
      old.status = .active ∧ old.dashboardId = record.dashboardId ∧
      old.organizationId = record.organizationId

theorem Fewer.refl (state : State) : Fewer state state where
  users _ := rfl
  connections _ conn present := ⟨conn, present, rfl⟩
  charts _ chart present := ⟨chart, present, rfl, rfl⟩
  reports _ report present isActive := ⟨report, present, isActive, rfl, rfl⟩
  dashboards _ dashboard present := ⟨dashboard, present, rfl, fun _ => id⟩
  records _ record present isActive := ⟨record, present, isActive, rfl, rfl⟩

section Keeping

variable {state next : State}

theorem Fewer.isUser (fewer : Fewer state next) {userId : String}
    (present : state.users.lookup userId ≠ none) :
    next.users.lookup userId ≠ none := by
  have same := fewer.users userId
  intro absent
  rw [absent] at same
  exact present (Option.map_eq_none_iff.mp same.symm)

theorem Fewer.ownerIn (fewer : Fewer state next)
    {userId organizationId : String}
    (isIn : OwnerIn state userId organizationId) :
    OwnerIn next userId organizationId := by
  intro owner present
  have same := fewer.users userId
  rw [present] at same
  obtain ⟨old, oldPresent, sameOrg⟩ := Option.map_eq_some_iff.mp same.symm
  rw [← sameOrg]
  exact isIn old oldPresent

theorem Inv.fewer (inv : Inv state) (fewer : Fewer state next) : Inv next := by
  refine ⟨?_, ?_, ?_, ?_, ?_, ?_⟩
  · intro chartId chart connectionId conn isChart names isConn
    obtain ⟨oldChart, chartPresent, ownerEq, connEq⟩ :=
      fewer.charts chartId chart isChart
    obtain ⟨oldConn, connPresent, connOwner⟩ :=
      fewer.connections connectionId conn isConn
    rw [← ownerEq, ← connOwner]
    exact inv.connection chartId oldChart connectionId oldConn chartPresent
      (connEq.trans names) connPresent
  · intro chartId chart isChart
    obtain ⟨old, present, ownerEq, _⟩ := fewer.charts chartId chart isChart
    rw [← ownerEq]
    exact fewer.isUser (inv.chartOwner chartId old present)
  · intro reportId report chart isReport isActive isChart
    obtain ⟨oldReport, reportPresent, wasActive, chartEq, orgEq⟩ :=
      fewer.reports reportId report isReport isActive
    obtain ⟨oldChart, chartPresent, ownerEq, _⟩ := fewer.charts _ chart isChart
    rw [← ownerEq, ← orgEq]
    exact fewer.ownerIn (inv.report reportId oldReport oldChart reportPresent
      wasActive (chartEq ▸ chartPresent))
  · intro dashboardId dashboard isDashboard
    obtain ⟨old, present, ownerEq, _⟩ :=
      fewer.dashboards dashboardId dashboard isDashboard
    rw [← ownerEq]
    exact fewer.isUser (inv.dashboardOwner dashboardId old present)
  · intro dashboardId dashboard item chart isDashboard isItem isChart
    obtain ⟨old, present, ownerEq, included⟩ :=
      fewer.dashboards dashboardId dashboard isDashboard
    obtain ⟨oldChart, chartPresent, chartOwner, _⟩ := fewer.charts _ chart isChart
    rw [← ownerEq, ← chartOwner]
    exact inv.item dashboardId old item oldChart present (included isItem)
      chartPresent
  · intro recordId record dashboard isRecord isActive isDashboard
    obtain ⟨oldRecord, recordPresent, wasActive, dashboardEq, orgEq⟩ :=
      fewer.records recordId record isRecord isActive
    obtain ⟨old, present, ownerEq, _⟩ := fewer.dashboards _ dashboard isDashboard
    rw [← ownerEq, ← orgEq]
    exact fewer.ownerIn (inv.record recordId oldRecord old recordPresent
      wasActive (dashboardEq ▸ present))

/-! ## One row more -/

theorem Inv.insertConnection (inv : Inv state) {id : String}
    {conn : DatabaseConnection}
    (unnamed : ∀ chartId chart, state.charts.lookup chartId = some chart →
      chart.databaseConnectionId ≠ some id) :
    Inv { state with connections := state.connections.insert id conn } := by
  refine ⟨?_, inv.chartOwner, inv.report, inv.dashboardOwner, inv.item,
    inv.record⟩
  intro chartId chart connectionId found isChart names isConn
  rcases OrderedDict.lookup_insert_cases isConn with ⟨rfl, _⟩ | ⟨_, older⟩
  · exact absurd names (unnamed chartId chart isChart)
  · exact inv.connection chartId chart connectionId found isChart names older

theorem Inv.insertChart (inv : Inv state) {id : String} {chart : SavedChart}
    (owner : state.users.lookup chart.userId ≠ none)
    (owned : ∀ connectionId conn,
      chart.databaseConnectionId = some connectionId →
      state.connections.lookup connectionId = some conn →
      conn.userId = chart.userId)
    (unreported : ∀ reportId report,
      state.reports.lookup reportId = some report → report.chartId ≠ id)
    (unpinned : ∀ dashboardId dashboard item,
      state.dashboards.lookup dashboardId = some dashboard →
      item ∈ dashboard.items → item.chartId ≠ id) :
    Inv { state with charts := state.charts.insert id chart } := by
  refine ⟨?_, ?_, ?_, inv.dashboardOwner, ?_, inv.record⟩
  · intro chartId found connectionId conn isChart names isConn
    rcases OrderedDict.lookup_insert_cases isChart with ⟨_, rfl⟩ | ⟨_, older⟩
    · exact owned connectionId conn names isConn
    · exact inv.connection chartId found connectionId conn older names isConn
  · intro chartId found isChart
    rcases OrderedDict.lookup_insert_cases isChart with ⟨_, rfl⟩ | ⟨_, older⟩
    · exact owner
    · exact inv.chartOwner chartId found older
  · intro reportId report found isReport isActive isChart
    rcases OrderedDict.lookup_insert_cases isChart with ⟨same, _⟩ | ⟨_, older⟩
    · exact absurd same (unreported reportId report isReport)
    · exact inv.report reportId report found isReport isActive older
  · intro dashboardId dashboard item found isDashboard isItem isChart
    rcases OrderedDict.lookup_insert_cases isChart with ⟨same, _⟩ | ⟨_, older⟩
    · exact absurd same (unpinned dashboardId dashboard item isDashboard isItem)
    · exact inv.item dashboardId dashboard item found isDashboard isItem older

theorem Inv.insertReport (inv : Inv state) {id : String}
    {report : PublishedReport}
    (isIn : ∀ chart, state.charts.lookup report.chartId = some chart →
      report.status = .active →
      OwnerIn state chart.userId report.organizationId) :
    Inv { state with reports := state.reports.insert id report } := by
  refine ⟨inv.connection, inv.chartOwner, ?_, inv.dashboardOwner, inv.item,
    inv.record⟩
  intro reportId found chart isReport isActive isChart
  rcases OrderedDict.lookup_insert_cases isReport with ⟨_, rfl⟩ | ⟨_, older⟩
  · exact isIn chart isChart isActive
  · exact inv.report reportId found chart older isActive isChart

theorem Inv.insertDashboard (inv : Inv state) {id : String}
    {dashboard : Dashboard}
    (owner : state.users.lookup dashboard.userId ≠ none)
    (items : ∀ item chart, item ∈ dashboard.items →
      state.charts.lookup item.chartId = some chart →
      chart.userId = dashboard.userId)
    (records : ∀ recordId record,
      state.publishedDashboards.lookup recordId = some record →
      record.status = .active → record.dashboardId = id →
      OwnerIn state dashboard.userId record.organizationId) :
    Inv { state with dashboards := state.dashboards.insert id dashboard } := by
  refine ⟨inv.connection, inv.chartOwner, inv.report, ?_, ?_, ?_⟩
  · intro dashboardId found isDashboard
    rcases OrderedDict.lookup_insert_cases isDashboard with ⟨_, rfl⟩ | ⟨_, older⟩
    · exact owner
    · exact inv.dashboardOwner dashboardId found older
  · intro dashboardId found item chart isDashboard isItem isChart
    rcases OrderedDict.lookup_insert_cases isDashboard with ⟨_, rfl⟩ | ⟨_, older⟩
    · exact items item chart isItem isChart
    · exact inv.item dashboardId found item chart older isItem isChart
  · intro recordId record found isRecord isActive isDashboard
    rcases OrderedDict.lookup_insert_cases isDashboard with
      ⟨same, rfl⟩ | ⟨_, older⟩
    · exact records recordId record isRecord isActive same
    · exact inv.record recordId record found isRecord isActive older

theorem Inv.insertRecord (inv : Inv state) {id : String}
    {record : PublishedDashboard}
    (isIn : ∀ dashboard,
      state.dashboards.lookup record.dashboardId = some dashboard →
      record.status = .active →
      OwnerIn state dashboard.userId record.organizationId) :
    Inv { state with
      publishedDashboards := state.publishedDashboards.insert id record } := by
  refine ⟨inv.connection, inv.chartOwner, inv.report, inv.dashboardOwner,
    inv.item, ?_⟩
  intro recordId found dashboard isRecord isActive isDashboard
  rcases OrderedDict.lookup_insert_cases isRecord with ⟨_, rfl⟩ | ⟨_, older⟩
  · exact isIn dashboard isDashboard isActive
  · exact inv.record recordId found dashboard older isActive isDashboard

/-- An account is new, or its active publications name its organisation. -/
theorem Inv.insertUser (inv : Inv state) {id : String} {user : User}
    (reports : ∀ reportId report chart,
      state.reports.lookup reportId = some report → report.status = .active →
      state.charts.lookup report.chartId = some chart → chart.userId = id →
      report.organizationId = user.organizationId)
    (records : ∀ recordId record dashboard,
      state.publishedDashboards.lookup recordId = some record →
      record.status = .active →
      state.dashboards.lookup record.dashboardId = some dashboard →
      dashboard.userId = id → record.organizationId = user.organizationId) :
    Inv { state with users := state.users.insert id user } := by
  have stays : ∀ userId, state.users.lookup userId ≠ none →
      (state.users.insert id user).lookup userId ≠ none := by
    intro userId present
    by_cases same : userId = id
    · subst userId
      simp
    · rwa [AList.lookup_insert_ne same]
  refine ⟨inv.connection, ?_, ?_, ?_, inv.item, ?_⟩
  · intro chartId chart isChart
    exact stays _ (inv.chartOwner chartId chart isChart)
  · intro reportId report chart isReport isActive isChart owner isOwner
    rcases OrderedDict.lookup_insert_cases isOwner with ⟨same, rfl⟩ | ⟨_, older⟩
    · exact (reports reportId report chart isReport isActive isChart same).symm
    · exact inv.report reportId report chart isReport isActive isChart owner older
  · intro dashboardId dashboard isDashboard
    exact stays _ (inv.dashboardOwner dashboardId dashboard isDashboard)
  · intro recordId record dashboard isRecord isActive isDashboard owner isOwner
    rcases OrderedDict.lookup_insert_cases isOwner with ⟨same, rfl⟩ | ⟨_, older⟩
    · exact (records recordId record dashboard isRecord isActive isDashboard
        same).symm
    · exact inv.record recordId record dashboard isRecord isActive isDashboard
        owner older

end Keeping

/-! ## Every endpoint keeps it -/

section Endpoints

variable {state next : State} {actor : String}

theorem inv_createConnection {encrypt : String → String} {id password : String}
    {target : ConnectionTarget} (inv : Inv state)
    (fresh : freshConnection state id = true)
    (ran : createConnection encrypt state actor id target password = .ok next) :
    Inv next := by
  obtain ⟨_, _, done⟩ := bind_eq_ok ran
  cases done
  simp only [freshConnection, Bool.and_eq_true,
    Option.isNone_iff_eq_none] at fresh
  refine inv.insertConnection ?_
  intro chartId chart isChart names
  have absent := OrderedDict.first_eq_none fresh.2 isChart
  simp [names] at absent

theorem inv_updateConnection {encrypt : String → String} {id : String}
    {req : ConnectionUpdate} (inv : Inv state)
    (ran : updateConnection encrypt state actor id req = .ok next) :
    Inv next := by
  obtain ⟨_, _, rest⟩ := bind_eq_ok ran
  obtain ⟨conn, isOwn, done⟩ := bind_eq_ok rest
  cases done
  obtain ⟨present, _⟩ := ownConnection_eq_ok isOwn
  refine inv.fewer { Fewer.refl state with connections := ?_ }
  intro other found isConn
  rcases OrderedDict.lookup_insert_cases isConn with ⟨rfl, rfl⟩ | ⟨_, older⟩
  · exact ⟨conn, present, rfl⟩
  · exact ⟨found, older, rfl⟩

theorem inv_deleteConnection {id : String} (inv : Inv state)
    (ran : deleteConnection state actor id = .ok next) : Inv next := by
  obtain ⟨_, _, rest⟩ := bind_eq_ok ran
  obtain ⟨_, _, done⟩ := bind_eq_ok rest
  cases done
  refine inv.fewer { Fewer.refl state with connections := ?_ }
  intro other found isConn
  exact ⟨found, (OrderedDict.lookup_erase_cases isConn).2, rfl⟩

theorem inv_createChart {id : String} {req : ChartIn} (inv : Inv state)
    (fresh : freshChart state id = true)
    (owned : ∀ connectionId conn, req.databaseConnectionId = some connectionId →
      state.connections.lookup connectionId = some conn → conn.userId = actor)
    (ran : createChart state actor id req = .ok next) : Inv next := by
  obtain ⟨_, permitted, done⟩ := bind_eq_ok ran
  cases done
  simp only [freshChart, Bool.and_eq_true, Option.isNone_iff_eq_none] at fresh
  refine inv.insertChart ?_ owned ?_ ?_
  · simp [requirePermission_eq_ok permitted]
  · intro reportId report isReport same
    have absent := OrderedDict.first_eq_none fresh.1.2 isReport
    simp [same] at absent
  · intro dashboardId dashboard item isDashboard isItem same
    have absent := OrderedDict.first_eq_none fresh.2 isDashboard
    exact absent (List.any_eq_true.mpr ⟨item, isItem, by simpa using same⟩)

/-- Setting the status of a chart says nothing new. -/
theorem Inv.setChartStatus (inv : Inv state) {id : String} {chart : SavedChart}
    (present : state.charts.lookup id = some chart) (isPublished : Bool) :
    Inv { state with
      charts := state.charts.insert id
        { chart with isPublished := isPublished } } := by
  refine inv.fewer { Fewer.refl state with charts := ?_ }
  intro other found isChart
  rcases OrderedDict.lookup_insert_cases isChart with ⟨rfl, rfl⟩ | ⟨_, older⟩
  · exact ⟨chart, present, rfl, rfl⟩
  · exact ⟨found, older, rfl, rfl⟩

theorem Inv.setDashboard (inv : Inv state) {id : String}
    {dashboard changed : Dashboard}
    (present : state.dashboards.lookup id = some dashboard)
    (ownerEq : changed.userId = dashboard.userId)
    (included : changed.items ⊆ dashboard.items) :
    Inv { state with dashboards := state.dashboards.insert id changed } := by
  refine inv.fewer { Fewer.refl state with dashboards := ?_ }
  intro other found isDashboard
  rcases OrderedDict.lookup_insert_cases isDashboard with ⟨rfl, rfl⟩ | ⟨_, older⟩
  · exact ⟨dashboard, present, ownerEq.symm, included⟩
  · exact ⟨found, older, rfl, List.Subset.refl _⟩

theorem inv_publishChart {chartId reportId : String} {visibility : Visibility}
    (inv : Inv state)
    (ran : publishChart state actor chartId reportId visibility = .ok next) :
    Inv next := by
  obtain ⟨user, permitted, rest⟩ := bind_eq_ok ran
  obtain ⟨chart, isOwn, done⟩ := bind_eq_ok rest
  have isUser := requirePermission_eq_ok permitted
  obtain ⟨present, ownerEq⟩ := ownChart_eq_ok isOwn
  cases done
  split
  · refine (inv.insertReport ?_).setChartStatus present true
    intro found isChart _ owner isOwner
    cases present.symm.trans isChart
    rw [ownerEq, isUser] at isOwner
    cases isOwner
    rfl
  · rename_i existing report isFirst
    refine (inv.insertReport ?_).setChartStatus present true
    intro found isChart isActive
    exact inv.report existing report found
      (OrderedDict.lookup_first isFirst).1 isActive isChart

theorem inv_unpublishChart {chartId : String} (inv : Inv state)
    (ran : unpublishChart state actor chartId = .ok next) : Inv next := by
  obtain ⟨_, _, rest⟩ := bind_eq_ok ran
  obtain ⟨chart, isOwn, done⟩ := bind_eq_ok rest
  obtain ⟨present, _⟩ := ownChart_eq_ok isOwn
  cases done
  have revoked : Inv { state with
      reports := state.reports.updateAll (isActiveFor chartId)
        fun report => { report with status := .revoked } } := by
    refine inv.fewer { Fewer.refl state with reports := ?_ }
    intro reportId report isReport isActive
    obtain ⟨old, wasThere, rfl⟩ := OrderedDict.lookup_updateAll isReport
    split at isActive
    · cases isActive
    · rename_i other
      exact ⟨old, wasThere, isActive, by simp [other], by simp [other]⟩
  exact revoked.setChartStatus present false

theorem inv_deleteChart {chartId : String} (inv : Inv state)
    (ran : deleteChart state actor chartId = .ok next) : Inv next := by
  obtain ⟨_, _, rest⟩ := bind_eq_ok ran
  obtain ⟨_, _, done⟩ := bind_eq_ok rest
  cases done
  refine inv.fewer { Fewer.refl state with charts := ?_, dashboards := ?_ }
  · intro other found isChart
    exact ⟨found, (OrderedDict.lookup_erase_cases isChart).2, rfl, rfl⟩
  · intro dashboardId dashboard isDashboard
    obtain ⟨old, wasThere, rfl⟩ := OrderedDict.lookup_updateAll isDashboard
    exact ⟨old, wasThere, rfl, List.filter_sublist.subset⟩

theorem inv_createDashboard {id : String} (inv : Inv state)
    (fresh : freshDashboard state id = true)
    (ran : createDashboard state actor id = .ok next) : Inv next := by
  obtain ⟨user, permitted, done⟩ := bind_eq_ok ran
  cases done
  simp only [freshDashboard, Bool.and_eq_true,
    Option.isNone_iff_eq_none] at fresh
  refine inv.insertDashboard ?_ (by simp) ?_
  · simp [requirePermission_eq_ok permitted]
  · intro recordId record isRecord _ same
    have absent := OrderedDict.first_eq_none fresh.2 isRecord
    simp [same] at absent

theorem inv_deleteDashboard {id : String} (inv : Inv state)
    (ran : deleteDashboard state actor id = .ok next) : Inv next := by
  obtain ⟨_, _, rest⟩ := bind_eq_ok ran
  obtain ⟨_, _, done⟩ := bind_eq_ok rest
  cases done
  refine inv.fewer { Fewer.refl state with dashboards := ?_ }
  intro other found isDashboard
  exact ⟨found, (OrderedDict.lookup_erase_cases isDashboard).2, rfl,
    List.Subset.refl _⟩

theorem inv_pinChart {dashboardId itemId chartId : String} (inv : Inv state)
    (ran : pinChart state actor dashboardId itemId chartId = .ok next) :
    Inv next := by
  obtain ⟨_, _, rest⟩ := bind_eq_ok ran
  obtain ⟨dashboard, isOwn, rest⟩ := bind_eq_ok rest
  obtain ⟨chart, isOwnChart, rest⟩ := bind_eq_ok rest
  obtain ⟨present, ownerEq⟩ := ownedOr404_eq_ok isOwn
  obtain ⟨chartPresent, chartOwner⟩ := ownChart_eq_ok isOwnChart
  split at rest
  · cases rest
    exact inv
  · obtain ⟨_, _, done⟩ := bind_eq_ok rest
    cases done
    refine inv.insertDashboard
      (inv.dashboardOwner dashboardId dashboard present) ?_ ?_
    · intro item found isItem isChart
      rcases List.mem_append.mp isItem with older | isNew
      · exact inv.item dashboardId dashboard item found present older isChart
      · cases List.mem_singleton.mp isNew
        cases chartPresent.symm.trans isChart
        exact chartOwner.trans ownerEq.symm
    · rintro recordId record isRecord isActive rfl
      exact inv.record recordId record dashboard isRecord isActive present

theorem inv_unpinChart {dashboardId itemId : String} (inv : Inv state)
    (ran : unpinChart state actor dashboardId itemId = .ok next) :
    Inv next := by
  obtain ⟨_, _, rest⟩ := bind_eq_ok ran
  obtain ⟨dashboard, isOwn, rest⟩ := bind_eq_ok rest
  obtain ⟨_, _, done⟩ := bind_eq_ok rest
  cases done
  exact inv.setDashboard (ownedOr404_eq_ok isOwn).1 rfl
    List.eraseP_subset

theorem inv_publishDashboard {dashboardId recordId : String} (inv : Inv state)
    (current : ∀ existing record owner,
      state.publishedDashboards.first (isRecordOf dashboardId) =
        some (existing, record) →
      state.users.lookup actor = some owner →
      record.organizationId = owner.organizationId)
    (ran : publishDashboard state actor dashboardId recordId = .ok next) :
    Inv next := by
  obtain ⟨user, permitted, rest⟩ := bind_eq_ok ran
  obtain ⟨dashboard, isOwn, rest⟩ := bind_eq_ok rest
  obtain ⟨_, _, done⟩ := bind_eq_ok rest
  have isUser := requirePermission_eq_ok permitted
  obtain ⟨present, ownerEq⟩ := ownedOr404_eq_ok isOwn
  have inUsersOrg : OwnerIn state dashboard.userId user.organizationId := by
    intro owner isOwner
    rw [ownerEq, isUser] at isOwner
    cases isOwner
    rfl
  cases done
  split
  · refine (inv.insertRecord ?_).setDashboard present rfl
      (List.Subset.refl _)
    intro found isDashboard _
    cases present.symm.trans isDashboard
    exact inUsersOrg
  · rename_i existing record isFirst
    refine (inv.insertRecord ?_).setDashboard present rfl
      (List.Subset.refl _)
    intro found isDashboard _
    have isRecord := (OrderedDict.lookup_first isFirst).2
    simp only [isRecordOf, decide_eq_true_eq] at isRecord
    have sameRow : some dashboard = some found := by
      rw [← present, ← isRecord]
      exact isDashboard
    cases sameRow
    simp only [current existing record user isFirst isUser]
    exact inUsersOrg

theorem inv_unpublishDashboard {dashboardId : String} (inv : Inv state)
    (ran : unpublishDashboard state actor dashboardId = .ok next) :
    Inv next := by
  obtain ⟨_, _, rest⟩ := bind_eq_ok ran
  obtain ⟨dashboard, isOwn, done⟩ := bind_eq_ok rest
  have present := (ownedOr404_eq_ok isOwn).1
  cases done
  split
  · exact inv.setDashboard present rfl (List.Subset.refl _)
  · exact (inv.insertRecord (by simp)).setDashboard present rfl
      (List.Subset.refl _)

theorem inv_createOrg {id : String} (inv : Inv state)
    (ran : createOrg state actor id = .ok next) : Inv next := by
  obtain ⟨_, _, done⟩ := bind_eq_ok ran
  cases done
  exact inv.fewer { Fewer.refl state with }

/-- An account that does not exist yet owns nothing. -/
theorem inv_newUser {id : String} (inv : Inv state) (user : User)
    (fresh : unused state.users id = true) :
    Inv { state with users := state.users.insert id user } := by
  have absent := Option.isNone_iff_eq_none.mp fresh
  refine inv.insertUser ?_ ?_
  · rintro reportId report chart _ _ isChart rfl
    exact absurd absent (inv.chartOwner _ chart isChart)
  · rintro recordId record dashboard _ _ isDashboard rfl
    exact absurd absent (inv.dashboardOwner _ dashboard isDashboard)

theorem inv_createUser {id : String} {permissions : List Permission}
    {organizationId : Option String} (inv : Inv state)
    (fresh : unused state.users id = true)
    (ran : createUser state actor id permissions organizationId = .ok next) :
    Inv next := by
  obtain ⟨_, _, rest⟩ := bind_eq_ok ran
  obtain ⟨_, _, done⟩ := bind_eq_ok rest
  cases done
  exact inv_newUser inv _ fresh

/-- A move leaves no active publication in another organisation than the new. -/
def MovesNothing (state : State) (userId organizationId : String) : Prop :=
  (∀ reportId report chart, state.reports.lookup reportId = some report →
    report.status = .active →
    state.charts.lookup report.chartId = some chart → chart.userId = userId →
    report.organizationId = organizationId) ∧
  ∀ recordId record dashboard,
    state.publishedDashboards.lookup recordId = some record →
    record.status = .active →
    state.dashboards.lookup record.dashboardId = some dashboard →
    dashboard.userId = userId → record.organizationId = organizationId

theorem inv_updateUser {userId : String}
    {permissions : Option (List Permission)} {organizationId : Option String}
    (inv : Inv state)
    (moves : ∀ org, organizationId = some org → MovesNothing state userId org)
    (ran : updateUser state actor userId permissions organizationId =
      .ok next) :
    Inv next := by
  obtain ⟨_, _, rest⟩ := bind_eq_ok ran
  obtain ⟨target, inScope, rest⟩ := bind_eq_ok rest
  have present := targetInScopeOr404_eq_ok inScope
  cases organizationId with
  | none =>
      cases rest
      refine inv.fewer { Fewer.refl state with users := ?_ }
      intro other
      by_cases same : other = userId
      · subst other
        simp [present]
      · rw [AList.lookup_insert_ne same]
  | some org =>
      obtain ⟨_, _, rest⟩ := bind_eq_ok rest
      obtain ⟨_, _, done⟩ := bind_eq_ok rest
      cases done
      exact inv.insertUser (moves org rfl).1 (moves org rfl).2

theorem inv_deleteUser {userId : String} (inv : Inv state)
    (ran : deleteUser state actor userId = .ok next) : Inv next := by
  obtain ⟨_, _, rest⟩ := bind_eq_ok ran
  obtain ⟨_, _, rest⟩ := bind_eq_ok rest
  obtain ⟨_, _, done⟩ := bind_eq_ok rest
  cases done
  -- Charts and dashboards of the account go with it, so owners stay.
  have stays : ∀ other, decide (other ≠ userId) = true →
      state.users.lookup other ≠ none →
      (state.users.erase userId).lookup other ≠ none := by
    intro other different present
    rwa [AList.lookup_erase_ne (of_decide_eq_true different)]
  have ownerIn : ∀ {other org}, OwnerIn state other org →
      OwnerIn { purgeUserOwnedData state userId with
        users := state.users.erase userId } other org :=
    fun isIn owner isOwner =>
      isIn owner (OrderedDict.lookup_erase_cases isOwner).2
  refine ⟨?_, ?_, ?_, ?_, ?_, ?_⟩
  · intro chartId chart connectionId conn isChart names isConn
    exact inv.connection chartId chart connectionId conn
      (OrderedDict.lookup_keepIf isChart).1 names
      (OrderedDict.lookup_keepIf isConn).1
  · intro chartId chart isChart
    obtain ⟨older, different⟩ := OrderedDict.lookup_keepIf isChart
    exact stays _ different (inv.chartOwner chartId chart older)
  · intro reportId report chart isReport isActive isChart
    exact ownerIn (inv.report reportId report chart
      (OrderedDict.lookup_keepIf isReport).1 isActive
      (OrderedDict.lookup_keepIf isChart).1)
  · intro dashboardId dashboard isDashboard
    obtain ⟨older, different⟩ := OrderedDict.lookup_keepIf isDashboard
    exact stays _ different (inv.dashboardOwner dashboardId dashboard older)
  · intro dashboardId dashboard item chart isDashboard isItem isChart
    exact inv.item dashboardId dashboard item chart
      (OrderedDict.lookup_keepIf isDashboard).1 isItem
      (OrderedDict.lookup_keepIf isChart).1
  · intro recordId record dashboard isRecord isActive isDashboard
    exact ownerIn (inv.record recordId record dashboard
      (OrderedDict.lookup_keepIf isRecord).1 isActive
      (OrderedDict.lookup_keepIf isDashboard).1)

end Endpoints

/-! ## Runs -/

/-- The steps that keep every reference inside its owner's reach: a new chart
names no one else's connection, a move leaves no active publication behind, and
a dashboard that is published again has a record of its owner's organisation. -/
def KeepsReferences (state : State) : Label → Prop
  | .createChart actor _ req =>
      ∀ connectionId conn, req.databaseConnectionId = some connectionId →
        state.connections.lookup connectionId = some conn → conn.userId = actor
  | .updateUser _ userId _ organizationId =>
      ∀ org, organizationId = some org → MovesNothing state userId org
  | .publishDashboard actor dashboardId _ =>
      ∀ existing record owner,
        state.publishedDashboards.first (isRecordOf dashboardId) =
          some (existing, record) →
        state.users.lookup actor = some owner →
        record.organizationId = owner.organizationId
  | _ => True

section Runs

variable {env : Environment} {state next : State}

theorem inv_step {label : Label} (inv : Inv state)
    (allowed : KeepsReferences state label)
    (stepped : step env state label = some next) : Inv next := by
  cases label with
  | createConnection actor id target password =>
      obtain ⟨fresh, ran⟩ := Option.ite_none_right_eq_some.mp stepped
      exact inv_createConnection inv fresh (toOption_eq_some ran)
  | updateConnection actor id req =>
      exact inv_updateConnection inv (toOption_eq_some stepped)
  | deleteConnection actor id =>
      exact inv_deleteConnection inv (toOption_eq_some stepped)
  | createChart actor id req =>
      obtain ⟨fresh, ran⟩ := Option.ite_none_right_eq_some.mp stepped
      exact inv_createChart inv fresh allowed (toOption_eq_some ran)
  | publishChart actor chartId reportId visibility =>
      obtain ⟨_, ran⟩ := Option.ite_none_right_eq_some.mp stepped
      exact inv_publishChart inv (toOption_eq_some ran)
  | unpublishChart actor chartId =>
      exact inv_unpublishChart inv (toOption_eq_some stepped)
  | deleteChart actor chartId =>
      exact inv_deleteChart inv (toOption_eq_some stepped)
  | createDashboard actor id =>
      obtain ⟨fresh, ran⟩ := Option.ite_none_right_eq_some.mp stepped
      exact inv_createDashboard inv fresh (toOption_eq_some ran)
  | deleteDashboard actor id =>
      exact inv_deleteDashboard inv (toOption_eq_some stepped)
  | pinChart actor dashboardId itemId chartId =>
      exact inv_pinChart inv (toOption_eq_some stepped)
  | unpinChart actor dashboardId itemId =>
      exact inv_unpinChart inv (toOption_eq_some stepped)
  | publishDashboard actor dashboardId recordId =>
      obtain ⟨_, ran⟩ := Option.ite_none_right_eq_some.mp stepped
      exact inv_publishDashboard inv allowed (toOption_eq_some ran)
  | unpublishDashboard actor dashboardId =>
      exact inv_unpublishDashboard inv (toOption_eq_some stepped)
  | createOrg actor id =>
      exact inv_createOrg inv (toOption_eq_some stepped)
  | createUser actor id permissions organizationId =>
      obtain ⟨fresh, ran⟩ := Option.ite_none_right_eq_some.mp stepped
      exact inv_createUser inv fresh (toOption_eq_some ran)
  | register id organizationId permissions =>
      obtain ⟨fresh, ran⟩ := Option.ite_none_right_eq_some.mp stepped
      cases toOption_eq_some ran
      exact inv_newUser inv _ fresh
  | updateUser actor userId permissions organizationId =>
      exact inv_updateUser inv allowed (toOption_eq_some stepped)
  | deleteUser actor userId =>
      exact inv_deleteUser inv (toOption_eq_some stepped)
  | runReport actor reportId =>
      obtain ⟨_, _, rfl⟩ := Option.map_eq_some_iff.mp stepped
      exact inv
  | runDashboard actor dashboardId =>
      obtain ⟨_, _, rfl⟩ := Option.map_eq_some_iff.mp stepped
      exact inv

theorem inv_reachable
    (reachable : (system env).ReachableUnder KeepsReferences state) :
    Inv state :=
  reachable.invariant Inv (fun _ isInitial => inv_initial isInitial)
    (fun _ _ _ inv allowed stepped => inv_step inv allowed stepped)

/-- The connection belongs to the owner of the chart, and the user who asked for
the run is in the organisation that owner is in. -/
def Confined (state : State) (actor : String) (execution : Execution) : Prop :=
  ∃ chart conn owner requester,
    state.charts.lookup execution.chartId = some chart ∧
    state.connections.lookup execution.connectionId = some conn ∧
    conn.userId = chart.userId ∧
    state.users.lookup chart.userId = some owner ∧
    state.users.lookup actor = some requester ∧
    requester.organizationId = owner.organizationId

/-- Every execution of every report run and dashboard run is confined. -/
def RunsConfined (env : Environment) (state : State) : Prop :=
  (∀ actor reportId executions execution,
    runReport env.decrypt env.isRead state actor reportId = .ok executions →
    execution ∈ executions → Confined state actor execution) ∧
  ∀ actor dashboardId executions execution,
    runDashboard env.decrypt env.isRead state actor dashboardId =
      .ok executions →
    execution ∈ executions → Confined state actor execution

/-- What a chart executes on, it was resolved from. -/
theorem mem_executeChart {isRead : String → Bool}
    {decrypt : String → Option String} {chartId organizationId : String}
    {chart : SavedChart} {execution : Execution}
    (isExecuted : execution ∈ executeChart isRead
      (chartJob decrypt state chartId organizationId chart)) :
    execution.chartId = chartId ∧
      chart.databaseConnectionId = some execution.connectionId ∧
      ∃ conn, state.connections.lookup execution.connectionId = some conn := by
  unfold executeChart at isExecuted
  split at isExecuted
  · split at isExecuted
    · rename_i connectionId target password isSource
      cases List.mem_singleton.mp isExecuted
      simp only [chartJob, Option.bind_eq_bind, Option.pure_def,
        Option.bind_eq_some_iff, Option.some.injEq, Prod.mk.injEq] at isSource
      obtain ⟨_, named, conn, present, _, _, rfl, _⟩ := isSource
      exact ⟨rfl, (Option.filter_eq_some_iff.mp named).1, conn, present⟩
    · cases isExecuted
  · cases isExecuted

/-- A chart run is confined when the requester is where the owner is. -/
theorem confined_of_executed (inv : Inv state) {isRead : String → Bool}
    {decrypt : String → Option String}
    {actor chartId organizationId : String} {chart : SavedChart}
    {requester : User} {execution : Execution}
    (isExecuted : execution ∈ executeChart isRead
      (chartJob decrypt state chartId organizationId chart))
    (isChart : state.charts.lookup chartId = some chart)
    (isUser : state.users.lookup actor = some requester)
    (together : OwnerIn state chart.userId requester.organizationId) :
    Confined state actor execution := by
  obtain ⟨sameChart, names, conn, isConn⟩ := mem_executeChart isExecuted
  obtain ⟨owner, isOwner⟩ :=
    Option.ne_none_iff_exists'.mp (inv.chartOwner chartId chart isChart)
  exact ⟨chart, conn, owner, requester, sameChart ▸ isChart, isConn,
    inv.connection chartId chart _ conn isChart names isConn, isOwner, isUser,
    (together owner isOwner).symm⟩

theorem mem_buildJobs {decrypt : String → Option String}
    {organizationId : String} {items : List DashboardItem}
    {jobs : List ChartJob} {job : ChartJob}
    (built : buildJobs decrypt state organizationId items = .ok jobs)
    (isJob : job ∈ jobs) :
    ∃ item chart, item ∈ items ∧
      state.charts.lookup item.chartId = some chart ∧
      job = chartJob decrypt state item.chartId organizationId chart := by
  induction items generalizing jobs with
  | nil =>
      cases built
      cases isJob
  | cons item rest inductionHypothesis =>
      obtain ⟨chart, isChart, remaining⟩ := bind_eq_ok built
      obtain ⟨others, builtRest, done⟩ := bind_eq_ok remaining
      cases done
      rcases List.mem_cons.mp isJob with rfl | isOther
      · exact ⟨item, chart, List.mem_cons_self, found_eq_ok isChart, rfl⟩
      · obtain ⟨found, row, isItem, isRow, jobEq⟩ :=
          inductionHypothesis builtRest isOther
        exact ⟨found, row, List.mem_cons_of_mem _ isItem, isRow, jobEq⟩

/-- In every state that a run reaches by steps that keep references, every
report run and dashboard run is confined. -/
theorem runs_confined (env : Environment) (state : State)
    (reachable : (system env).ReachableUnder KeepsReferences state) :
    RunsConfined env state := by
  have inv := inv_reachable reachable
  constructor
  · intro actor reportId executions execution ran isExecution
    obtain ⟨user, permitted, rest⟩ := bind_eq_ok ran
    obtain ⟨report, isVisible, rest⟩ := bind_eq_ok rest
    obtain ⟨chart, isChart, done⟩ := bind_eq_ok rest
    cases done
    obtain ⟨isReport, isActive, sameOrg⟩ := visibleOr404_eq_ok isVisible
    have isChartRow := found_eq_ok isChart
    have together := inv.report reportId report chart isReport isActive isChartRow
    rw [sameOrg] at together
    exact confined_of_executed inv isExecution isChartRow
      (requirePermission_eq_ok permitted) together
  · intro actor dashboardId executions execution ran isExecution
    obtain ⟨user, permitted, rest⟩ := bind_eq_ok ran
    obtain ⟨dashboard, isVisible, rest⟩ := bind_eq_ok rest
    obtain ⟨jobs, built, done⟩ := bind_eq_ok rest
    cases done
    have isUser := requirePermission_eq_ok permitted
    obtain ⟨job, isJob, isExecuted⟩ := List.mem_flatMap.mp isExecution
    obtain ⟨item, chart, isItem, isChart, rfl⟩ := mem_buildJobs built isJob
    rcases visibleDashboard_eq_ok isVisible with
      ⟨id, isDashboard, isOwner⟩ |
      ⟨recordId, record, isRecord, isActive, sameOrg, isDashboard⟩
    · have sameOwner := inv.item id dashboard item chart isDashboard isItem isChart
      refine confined_of_executed inv isExecuted isChart isUser ?_
      intro owner ownerRow
      rw [sameOwner, isOwner, isUser] at ownerRow
      cases ownerRow
      rfl
    · have sameOwner := inv.item _ dashboard item chart isDashboard isItem isChart
      have together := inv.record recordId record dashboard isRecord isActive
        isDashboard
      rw [sameOrg, ← sameOwner] at together
      exact confined_of_executed inv isExecuted isChart isUser together

end Runs

/-! ### Three ways out

`ana` analyses in organisation `a`, `cli` is a client there, `own` owns a
connection and `root` administers the platform. -/

def escapeEnv : Environment where
  encrypt := fun password => password
  decrypt := some
  isRead := fun sql => decide (sql = "SELECT 1")

def escapeStart : State where
  organizations := ["a", "b"]
  users :=
    AList.insert "ana"
      ⟨"a", [.chartSave, .chartPublish, .reportView, .connectionManage]⟩
    (AList.insert "own" ⟨"b", [.connectionManage]⟩
    (AList.insert "cli" ⟨"a", [.reportView]⟩
    (AList.insert "root" ⟨"b", [.userManage, .orgManage]⟩ ∅)))
  connections := ∅
  charts := ∅
  reports := ∅
  dashboards := ∅
  publishedDashboards := ∅

def escapeTarget : ConnectionTarget :=
  ⟨"mysql", "db", some 3306, "erp", none, "reader"⟩

def escapeRun (labels : List Label) : State :=
  ((system escapeEnv).exec escapeStart labels).getD escapeStart

/-- The request names a connection of someone else. -/
def foreignSteps : List Label :=
  [.createConnection "own" "k" escapeTarget "secret",
    .createChart "ana" "c" ⟨some "k", "SELECT 1"⟩,
    .publishChart "ana" "c" "r" .organization]

/-- The owner of a published chart moves; the publication stays. -/
def movedSteps : List Label :=
  [.createConnection "ana" "k" escapeTarget "secret",
    .createChart "ana" "c" ⟨some "k", "SELECT 1"⟩,
    .publishChart "ana" "c" "r" .organization,
    .updateUser "root" "ana" none (some "b")]

/-- A revoked record is reactivated after its owner moved. -/
def republishedSteps : List Label :=
  [.createConnection "ana" "k" escapeTarget "secret",
    .createChart "ana" "c" ⟨some "k", "SELECT 1"⟩,
    .createDashboard "ana" "d", .pinChart "ana" "d" "i" "c",
    .publishDashboard "ana" "d" "p", .unpublishDashboard "ana" "d",
    .updateUser "root" "ana" none (some "b"),
    .publishDashboard "ana" "d" "p2"]

theorem escapeRun_reachable (labels : List Label)
    (executed : (system escapeEnv).exec escapeStart labels =
      some (escapeRun labels)) :
    (system escapeEnv).Reachable (escapeRun labels) := by
  have starts : (system escapeEnv).initial escapeStart :=
    ⟨rfl, rfl, rfl, rfl, rfl⟩
  exact TransitionSystem.reachable_of_exec labels starts executed

/-- A confined run of a chart on a connection, read off the rows. -/
theorem escape_rows {state : State} {actor : String} {chart : SavedChart}
    {conn : DatabaseConnection} {owner requester : User}
    (confined : Confined state actor ⟨"c", "k"⟩)
    (isChart : state.charts.lookup "c" = some chart)
    (isConn : state.connections.lookup "k" = some conn)
    (isOwner : state.users.lookup chart.userId = some owner)
    (isUser : state.users.lookup actor = some requester) :
    conn.userId = chart.userId ∧
      requester.organizationId = owner.organizationId := by
  obtain ⟨chart', conn', owner', requester', chartRow, connRow, sameOwner,
    ownerRow, userRow, sameOrg⟩ := confined
  cases isChart.symm.trans chartRow
  cases isConn.symm.trans connRow
  cases isOwner.symm.trans ownerRow
  cases isUser.symm.trans userRow
  exact ⟨sameOwner, sameOrg⟩

theorem runs_escape :
    ((system escapeEnv).Reachable (escapeRun foreignSteps) ∧
        ¬ RunsConfined escapeEnv (escapeRun foreignSteps)) ∧
      ((system escapeEnv).Reachable (escapeRun movedSteps) ∧
        ¬ RunsConfined escapeEnv (escapeRun movedSteps)) ∧
      ((system escapeEnv).Reachable (escapeRun republishedSteps) ∧
        ¬ RunsConfined escapeEnv (escapeRun republishedSteps)) := by
  refine ⟨⟨escapeRun_reachable _ rfl, ?_⟩, ⟨escapeRun_reachable _ rfl, ?_⟩,
    ⟨escapeRun_reachable _ rfl, ?_⟩⟩
  · rintro ⟨reports, _⟩
    have confined := reports "cli" "r" [⟨"c", "k"⟩] ⟨"c", "k"⟩ rfl (by simp)
    have rows := escape_rows confined rfl rfl rfl rfl
    exact absurd rows.1 (by decide)
  · rintro ⟨reports, _⟩
    have confined := reports "cli" "r" [⟨"c", "k"⟩] ⟨"c", "k"⟩ rfl (by simp)
    have rows := escape_rows confined rfl rfl rfl rfl
    exact absurd rows.2 (by decide)
  · rintro ⟨_, dashboards⟩
    have confined := dashboards "cli" "d" [⟨"c", "k"⟩] ⟨"c", "k"⟩ rfl (by simp)
    have rows := escape_rows confined rfl rfl rfl rfl
    exact absurd rows.2 (by decide)

/-! ### A client's run of a published chart -/

def confinedSteps : List Label :=
  [.createConnection "ana" "k" escapeTarget "secret",
    .createChart "ana" "c" ⟨some "k", "SELECT 1"⟩,
    .publishChart "ana" "c" "r" .organization]

def confinedConnected : State :=
  escapeRun [.createConnection "ana" "k" escapeTarget "secret"]

theorem runs_confined_client :
    runReport escapeEnv.decrypt escapeEnv.isRead (escapeRun confinedSteps)
        "cli" "r" = .ok [⟨"c", "k"⟩] ∧
      Confined (escapeRun confinedSteps) "cli" ⟨"c", "k"⟩ := by
  have starts : (system escapeEnv).initial escapeStart :=
    ⟨rfl, rfl, rfl, rfl, rfl⟩
  have connected : (system escapeEnv).Reaches KeepsReferences escapeStart
      confinedConnected :=
    TransitionSystem.reaches_of_exec_allowed
      [.createConnection "ana" "k" escapeTarget "secret"]
      (by simp [KeepsReferences]) rfl
  have saved : (system escapeEnv).Reaches KeepsReferences confinedConnected
      (escapeRun [.createConnection "ana" "k" escapeTarget "secret",
        .createChart "ana" "c" ⟨some "k", "SELECT 1"⟩]) := by
    refine TransitionSystem.Reaches.single
      (.createChart "ana" "c" ⟨some "k", "SELECT 1"⟩) ?_ rfl
    intro connectionId conn names present
    cases names
    have isConn : some conn = some ⟨"ana", escapeTarget, "secret"⟩ :=
      present.symm.trans rfl
    cases isConn
    rfl
  have published : (system escapeEnv).Reaches KeepsReferences _
      (escapeRun confinedSteps) :=
    (connected.trans saved).trans <| TransitionSystem.Reaches.single
      (.publishChart "ana" "c" "r" .organization) trivial rfl
  have reachable : (system escapeEnv).ReachableUnder KeepsReferences
      (escapeRun confinedSteps) := ⟨escapeStart, starts, published⟩
  refine ⟨rfl, ?_⟩
  exact (runs_confined escapeEnv (escapeRun confinedSteps) reachable).1 "cli"
    "r" [⟨"c", "k"⟩] ⟨"c", "k"⟩ rfl (by simp)

end DbBuddy.Publishing
