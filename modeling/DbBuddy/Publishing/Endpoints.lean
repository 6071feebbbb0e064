import DbBuddy.Publishing.Platform

/-!
# What an endpoint has checked

An endpoint that returns has passed each of its checks: what is known of the rows
that they have found.
-/

namespace DbBuddy.Publishing

open DbBuddy.Library

/-! ## Reading an endpoint backwards -/

section Backwards

variable {Value Result : Type}

theorem ok_bind (value : Value) (next : Value → Except HttpError Result) :
    (Except.ok value : Except HttpError Value) >>= next = next value :=
  rfl

theorem bind_eq_ok {first : Except HttpError Value}
    {next : Value → Except HttpError Result} {result : Result}
    (ran : first >>= next = .ok result) :
    ∃ value, first = .ok value ∧ next value = .ok result := by
  cases first with
  | error error =>
      cases ran
  | ok value =>
      exact ⟨value, rfl, ran⟩

theorem check_eq_ok {condition : Prop} [Decidable condition] {error : HttpError}
    {value : Unit} (passed : check condition error = .ok value) : condition := by
  unfold check at passed
  split at passed
  · assumption
  · cases passed

theorem found_eq_ok {row : Option Value} {error : HttpError} {value : Value}
    (passed : found row error = .ok value) : row = some value := by
  cases row with
  | none =>
      cases passed
  | some present =>
      cases passed
      rfl

theorem toOption_eq_some {call : Except HttpError Result} {result : Result}
    (ran : call.toOption = some result) : call = .ok result := by
  cases call with
  | error error =>
      cases ran
  | ok value =>
      cases ran
      rfl

/-! Which errors a call does not end in. -/

theorem bind_ne_error {first : Except HttpError Value}
    {next : Value → Except HttpError Result} {error : HttpError}
    (firstNe : first ≠ .error error)
    (nextNe : ∀ value, first = .ok value → next value ≠ .error error) :
    first >>= next ≠ .error error := by
  cases first with
  | error other =>
      intro same
      cases same
      exact firstNe rfl
  | ok value =>
      exact nextNe value rfl

theorem check_ne_error {condition : Prop} [Decidable condition]
    {other error : HttpError} (different : other ≠ error) :
    check condition other ≠ .error error := by
  unfold check
  split
  · simp
  · simpa using different

theorem found_ne_error {row : Option Value} {other error : HttpError}
    (different : other ≠ error) : found row other ≠ .error error := by
  cases row with
  | none =>
      simpa [found] using different
  | some present =>
      simp [found]

theorem found_of_ne_none {row : Option Value} {other error : HttpError}
    (present : row ≠ none) : found row other ≠ .error error := by
  cases row with
  | none =>
      exact absurd rfl present
  | some value =>
      simp [found]

theorem mapM_ne_error {values : List Value}
    {call : Value → Except HttpError Result} {error : HttpError}
    (each : ∀ value ∈ values, call value ≠ .error error) :
    values.mapM call ≠ .error error := by
  induction values with
  | nil =>
      intro same
      cases same
  | cons value rest inductionHypothesis =>
      rw [List.mapM_cons]
      refine bind_ne_error (each value List.mem_cons_self) ?_
      intro result _
      refine bind_ne_error (inductionHypothesis ?_) ?_
      · intro later isLater
        exact each later (List.mem_cons_of_mem _ isLater)
      · intro results _ same
        cases same

end Backwards

section Checks

variable {state : State} {actor : String}

theorem currentUser_eq_ok {user : User}
    (passed : currentUser state actor = .ok user) :
    state.users.lookup actor = some user :=
  found_eq_ok passed

theorem requirePermission_eq_ok {permission : Permission} {user : User}
    (passed : requirePermission state actor permission = .ok user) :
    state.users.lookup actor = some user := by
  obtain ⟨row, isUser, rest⟩ := bind_eq_ok passed
  obtain ⟨_, _, done⟩ := bind_eq_ok rest
  cases done
  exact currentUser_eq_ok isUser

theorem ownConnection_eq_ok {id : String} {conn : DatabaseConnection}
    (passed : ownConnection state actor id = .ok conn) :
    state.connections.lookup id = some conn ∧ conn.userId = actor := by
  obtain ⟨row, isRow, rest⟩ := bind_eq_ok passed
  obtain ⟨_, isOwner, done⟩ := bind_eq_ok rest
  cases done
  exact ⟨found_eq_ok isRow, check_eq_ok isOwner⟩

theorem ownChart_eq_ok {id : String} {chart : SavedChart}
    (passed : ownChart state actor id = .ok chart) :
    state.charts.lookup id = some chart ∧ chart.userId = actor := by
  obtain ⟨row, isRow, rest⟩ := bind_eq_ok passed
  obtain ⟨_, isOwner, done⟩ := bind_eq_ok rest
  cases done
  exact ⟨found_eq_ok isRow, check_eq_ok isOwner⟩

theorem ownedOr404_eq_ok {id : String} {dashboard : Dashboard}
    (passed : ownedOr404 state id actor = .ok dashboard) :
    state.dashboards.lookup id = some dashboard ∧ dashboard.userId = actor := by
  obtain ⟨row, isRow, rest⟩ := bind_eq_ok passed
  obtain ⟨_, isOwner, done⟩ := bind_eq_ok rest
  cases done
  exact ⟨found_eq_ok isRow, check_eq_ok isOwner⟩

theorem targetInScopeOr404_eq_ok {id : String} {user target : User}
    (passed : targetInScopeOr404 state id user = .ok target) :
    state.users.lookup id = some target := by
  obtain ⟨row, isRow, rest⟩ := bind_eq_ok passed
  obtain ⟨_, _, rest⟩ := bind_eq_ok rest
  obtain ⟨_, _, done⟩ := bind_eq_ok rest
  cases done
  exact found_eq_ok isRow

theorem visibleOr404_eq_ok {reportId : String} {user : User}
    {report : PublishedReport}
    (passed : visibleOr404 state reportId actor user = .ok report) :
    state.reports.lookup reportId = some report ∧ report.status = .active ∧
      report.organizationId = user.organizationId := by
  obtain ⟨row, isRow, rest⟩ := bind_eq_ok passed
  obtain ⟨_, isVisible, done⟩ := bind_eq_ok rest
  cases done
  obtain ⟨isActive, sameOrg, _⟩ := check_eq_ok isVisible
  exact ⟨found_eq_ok isRow, isActive, sameOrg⟩

/-- A dashboard is run by its owner, or through an active publication to the
organisation of whoever runs it. -/
theorem visibleDashboard_eq_ok {dashboardId : String} {user : User}
    {dashboard : Dashboard}
    (passed : visibleDashboard state dashboardId actor user = .ok dashboard) :
    (∃ id, state.dashboards.lookup id = some dashboard ∧
        dashboard.userId = actor) ∨
      ∃ recordId record,
        state.publishedDashboards.lookup recordId = some record ∧
        record.status = .active ∧
        record.organizationId = user.organizationId ∧
        state.dashboards.lookup record.dashboardId = some dashboard := by
  have published : ∀ {shown : Dashboard},
      publishedOr404 state dashboardId actor user = .ok shown →
      ∃ recordId record,
        state.publishedDashboards.lookup recordId = some record ∧
        record.status = .active ∧
        record.organizationId = user.organizationId ∧
        state.dashboards.lookup record.dashboardId = some shown := by
    intro shown isShown
    obtain ⟨⟨recordId, record⟩, isFirst, rest⟩ := bind_eq_ok isShown
    obtain ⟨_, _, done⟩ := bind_eq_ok rest
    obtain ⟨isRecord, selected⟩ :=
      OrderedDict.lookup_first (found_eq_ok isFirst)
    obtain ⟨_, isActive, sameOrg⟩ := of_decide_eq_true selected
    exact ⟨recordId, record, isRecord, isActive, sameOrg, found_eq_ok done⟩
  unfold visibleDashboard at passed
  split at passed
  · rename_i draft isDraft
    split at passed
    · cases passed
      exact Or.inl ⟨dashboardId, isDraft, by assumption⟩
    · exact Or.inr (published passed)
  · exact Or.inr (published passed)

end Checks

/-! ## What each endpoint commits -/

section Commits

variable {state next : State} {actor : String}

theorem createConnection_eq_ok {encrypt : String → String} {id password : String}
    {target : ConnectionTarget}
    (ran : createConnection encrypt state actor id target password = .ok next) :
    ∃ user conn, state.users.lookup actor = some user ∧ conn.userId = actor ∧
      next = { state with connections := state.connections.insert id conn } := by
  obtain ⟨user, permitted, done⟩ := bind_eq_ok ran
  cases done
  exact ⟨user, _, requirePermission_eq_ok permitted, rfl, rfl⟩

theorem updateConnection_eq_ok {encrypt : String → String} {id : String}
    {req : ConnectionUpdate}
    (ran : updateConnection encrypt state actor id req = .ok next) :
    ∃ user conn, state.users.lookup actor = some user ∧ conn.userId = actor ∧
      next = { state with connections := state.connections.insert id conn } := by
  obtain ⟨user, permitted, rest⟩ := bind_eq_ok ran
  obtain ⟨conn, isOwn, done⟩ := bind_eq_ok rest
  cases done
  refine ⟨user, _, requirePermission_eq_ok permitted, ?_, rfl⟩
  exact (ownConnection_eq_ok isOwn).2

theorem deleteConnection_eq_ok {id : String}
    (ran : deleteConnection state actor id = .ok next) :
    ∃ user conn, state.users.lookup actor = some user ∧
      state.connections.lookup id = some conn ∧ conn.userId = actor ∧
      next = { state with connections := state.connections.erase id } := by
  obtain ⟨user, permitted, rest⟩ := bind_eq_ok ran
  obtain ⟨conn, isOwn, done⟩ := bind_eq_ok rest
  have own := ownConnection_eq_ok isOwn
  cases done
  exact ⟨user, conn, requirePermission_eq_ok permitted, own.1, own.2, rfl⟩

theorem createChart_eq_ok {id : String} {req : ChartIn}
    (ran : createChart state actor id req = .ok next) :
    ∃ user, state.users.lookup actor = some user ∧
      next = { state with
        charts := state.charts.insert id
          ⟨actor, req.databaseConnectionId, req.sql, false⟩ } := by
  obtain ⟨user, permitted, done⟩ := bind_eq_ok ran
  cases done
  exact ⟨user, requirePermission_eq_ok permitted, rfl⟩

theorem publishChart_eq_ok {chartId reportId : String} {visibility : Visibility}
    (ran : publishChart state actor chartId reportId visibility = .ok next) :
    ∃ user chart reports, state.users.lookup actor = some user ∧
      state.charts.lookup chartId = some chart ∧ chart.userId = actor ∧
      (reports = state.reports.insert reportId
          ⟨chartId, actor, user.organizationId, .active, visibility⟩ ∨
        ∃ existing report,
          state.reports.first (isActiveFor chartId) = some (existing, report) ∧
          reports = state.reports.insert existing
            { report with publishedBy := actor, visibility := visibility }) ∧
      next = { state with
        reports := reports
        charts := state.charts.insert chartId
          { chart with isPublished := true } } := by
  obtain ⟨user, permitted, rest⟩ := bind_eq_ok ran
  obtain ⟨chart, isOwn, done⟩ := bind_eq_ok rest
  have own := ownChart_eq_ok isOwn
  cases done
  refine ⟨user, chart, _, requirePermission_eq_ok permitted, own.1, own.2, ?_, rfl⟩
  split
  · exact Or.inl rfl
  · rename_i existing report isFirst
    exact Or.inr ⟨existing, report, isFirst, rfl⟩

theorem unpublishChart_eq_ok {chartId : String}
    (ran : unpublishChart state actor chartId = .ok next) :
    ∃ user chart, state.users.lookup actor = some user ∧
      state.charts.lookup chartId = some chart ∧ chart.userId = actor ∧
      next = { state with
        reports := state.reports.updateAll (isActiveFor chartId)
          fun report => { report with status := .revoked }
        charts := state.charts.insert chartId
          { chart with isPublished := false } } := by
  obtain ⟨user, permitted, rest⟩ := bind_eq_ok ran
  obtain ⟨chart, isOwn, done⟩ := bind_eq_ok rest
  have own := ownChart_eq_ok isOwn
  cases done
  exact ⟨user, chart, requirePermission_eq_ok permitted, own.1, own.2, rfl⟩

theorem deleteChart_eq_ok {chartId : String}
    (ran : deleteChart state actor chartId = .ok next) :
    ∃ user chart, state.users.lookup actor = some user ∧
      state.charts.lookup chartId = some chart ∧ chart.userId = actor ∧
      next = { state with
        charts := state.charts.erase chartId
        dashboards := state.dashboards.updateAll (fun _ => true)
          fun dashboard => { dashboard with
            items := dashboard.items.filter fun item =>
              decide (item.chartId ≠ chartId) } } := by
  obtain ⟨user, isUser, rest⟩ := bind_eq_ok ran
  obtain ⟨chart, isOwn, done⟩ := bind_eq_ok rest
  have own := ownChart_eq_ok isOwn
  cases done
  exact ⟨user, chart, currentUser_eq_ok isUser, own.1, own.2, rfl⟩

theorem createDashboard_eq_ok {id : String}
    (ran : createDashboard state actor id = .ok next) :
    ∃ user, state.users.lookup actor = some user ∧
      next = { state with
        dashboards := state.dashboards.insert id
          ⟨actor, user.organizationId, [], false⟩ } := by
  obtain ⟨user, permitted, done⟩ := bind_eq_ok ran
  cases done
  exact ⟨user, requirePermission_eq_ok permitted, rfl⟩

theorem deleteDashboard_eq_ok {id : String}
    (ran : deleteDashboard state actor id = .ok next) :
    ∃ user dashboard, state.users.lookup actor = some user ∧
      state.dashboards.lookup id = some dashboard ∧ dashboard.userId = actor ∧
      next = { state with dashboards := state.dashboards.erase id } := by
  obtain ⟨user, permitted, rest⟩ := bind_eq_ok ran
  obtain ⟨dashboard, isOwn, done⟩ := bind_eq_ok rest
  have own := ownedOr404_eq_ok isOwn
  cases done
  exact ⟨user, dashboard, requirePermission_eq_ok permitted, own.1, own.2, rfl⟩

/-- Pinning a pinned chart again changes no row that is modelled. -/
theorem pinChart_eq_ok {dashboardId itemId chartId : String}
    (ran : pinChart state actor dashboardId itemId chartId = .ok next) :
    ∃ user dashboard chart, state.users.lookup actor = some user ∧
      state.dashboards.lookup dashboardId = some dashboard ∧
      dashboard.userId = actor ∧
      state.charts.lookup chartId = some chart ∧ chart.userId = actor ∧
      ((dashboard.items.any (fun item => decide (item.chartId = chartId)) = true ∧
          next = state) ∨
        dashboard.items.any (fun item => decide (item.chartId = chartId)) = false ∧
          next = { state with
            dashboards := state.dashboards.insert dashboardId
              { dashboard with
                items := dashboard.items ++ [⟨itemId, chartId⟩] } }) := by
  obtain ⟨user, permitted, rest⟩ := bind_eq_ok ran
  obtain ⟨dashboard, isOwn, rest⟩ := bind_eq_ok rest
  obtain ⟨chart, isOwnChart, rest⟩ := bind_eq_ok rest
  have own := ownedOr404_eq_ok isOwn
  have ownChart := ownChart_eq_ok isOwnChart
  refine ⟨user, dashboard, chart, requirePermission_eq_ok permitted, own.1, own.2,
    ownChart.1, ownChart.2, ?_⟩
  split at rest
  · rename_i isPinned
    cases rest
    exact Or.inl ⟨isPinned, rfl⟩
  · rename_i notPinned
    obtain ⟨_, _, done⟩ := bind_eq_ok rest
    cases done
    exact Or.inr ⟨by simpa using notPinned, rfl⟩

theorem unpinChart_eq_ok {dashboardId itemId : String}
    (ran : unpinChart state actor dashboardId itemId = .ok next) :
    ∃ user dashboard, state.users.lookup actor = some user ∧
      state.dashboards.lookup dashboardId = some dashboard ∧
      dashboard.userId = actor ∧
      next = { state with
        dashboards := state.dashboards.insert dashboardId
          { dashboard with
            items := dashboard.items.eraseP fun item =>
              decide (item.id = itemId) } } := by
  obtain ⟨user, permitted, rest⟩ := bind_eq_ok ran
  obtain ⟨dashboard, isOwn, rest⟩ := bind_eq_ok rest
  obtain ⟨_, _, done⟩ := bind_eq_ok rest
  have own := ownedOr404_eq_ok isOwn
  cases done
  exact ⟨user, dashboard, requirePermission_eq_ok permitted, own.1, own.2, rfl⟩

theorem publishDashboard_eq_ok {dashboardId recordId : String}
    (ran : publishDashboard state actor dashboardId recordId = .ok next) :
    ∃ user dashboard records, state.users.lookup actor = some user ∧
      state.dashboards.lookup dashboardId = some dashboard ∧
      dashboard.userId = actor ∧
      (records = state.publishedDashboards.insert recordId
          ⟨dashboardId, actor, user.organizationId, .active, .organization⟩ ∨
        ∃ existing record,
          state.publishedDashboards.first (isRecordOf dashboardId) =
            some (existing, record) ∧
          records = state.publishedDashboards.insert existing
            { record with status := .active }) ∧
      next = { state with
        publishedDashboards := records
        dashboards := state.dashboards.insert dashboardId
          { dashboard with isPublished := true } } := by
  obtain ⟨user, permitted, rest⟩ := bind_eq_ok ran
  obtain ⟨dashboard, isOwn, rest⟩ := bind_eq_ok rest
  obtain ⟨_, _, done⟩ := bind_eq_ok rest
  have own := ownedOr404_eq_ok isOwn
  cases done
  refine ⟨user, dashboard, _, requirePermission_eq_ok permitted, own.1, own.2, ?_,
    rfl⟩
  split
  · exact Or.inl rfl
  · rename_i existing record isFirst
    exact Or.inr ⟨existing, record, isFirst, rfl⟩

theorem unpublishDashboard_eq_ok {dashboardId : String}
    (ran : unpublishDashboard state actor dashboardId = .ok next) :
    ∃ user dashboard records, state.users.lookup actor = some user ∧
      state.dashboards.lookup dashboardId = some dashboard ∧
      dashboard.userId = actor ∧
      (records = state.publishedDashboards ∨
        ∃ existing record,
          state.publishedDashboards.first (isRecordOf dashboardId) =
            some (existing, record) ∧
          records = state.publishedDashboards.insert existing
            { record with status := .revoked }) ∧
      next = { state with
        publishedDashboards := records
        dashboards := state.dashboards.insert dashboardId
          { dashboard with isPublished := false } } := by
  obtain ⟨user, permitted, rest⟩ := bind_eq_ok ran
  obtain ⟨dashboard, isOwn, done⟩ := bind_eq_ok rest
  have own := ownedOr404_eq_ok isOwn
  cases done
  refine ⟨user, dashboard, _, requirePermission_eq_ok permitted, own.1, own.2, ?_,
    rfl⟩
  split
  · exact Or.inl rfl
  · rename_i existing record isFirst
    exact Or.inr ⟨existing, record, isFirst, rfl⟩

theorem createOrg_eq_ok {id : String}
    (ran : createOrg state actor id = .ok next) :
    ∃ user, state.users.lookup actor = some user ∧
      next = { state with organizations := id :: state.organizations } := by
  obtain ⟨user, permitted, done⟩ := bind_eq_ok ran
  cases done
  exact ⟨user, requirePermission_eq_ok permitted, rfl⟩

theorem createUser_eq_ok {id : String} {permissions : List Permission}
    {organizationId : Option String}
    (ran : createUser state actor id permissions organizationId = .ok next) :
    ∃ user created, state.users.lookup actor = some user ∧
      next = { state with users := state.users.insert id created } := by
  obtain ⟨user, permitted, rest⟩ := bind_eq_ok ran
  obtain ⟨_, _, done⟩ := bind_eq_ok rest
  cases done
  exact ⟨user, _, requirePermission_eq_ok permitted, rfl⟩

theorem updateUser_eq_ok {userId : String}
    {permissions : Option (List Permission)} {organizationId : Option String}
    (ran : updateUser state actor userId permissions organizationId = .ok next) :
    ∃ user target changed, state.users.lookup actor = some user ∧
      state.users.lookup userId = some target ∧
      changed.organizationId = organizationId.getD target.organizationId ∧
      next = { state with users := state.users.insert userId changed } := by
  obtain ⟨user, permitted, rest⟩ := bind_eq_ok ran
  obtain ⟨target, inScope, rest⟩ := bind_eq_ok rest
  have isUser := requirePermission_eq_ok permitted
  have isTarget := targetInScopeOr404_eq_ok inScope
  cases organizationId with
  | none =>
      cases rest
      refine ⟨user, target, _, isUser, isTarget, ?_, rfl⟩
      rfl
  | some org =>
      obtain ⟨_, _, rest⟩ := bind_eq_ok rest
      obtain ⟨_, _, done⟩ := bind_eq_ok rest
      cases done
      refine ⟨user, target, _, isUser, isTarget, ?_, rfl⟩
      rfl

theorem deleteUser_eq_ok {userId : String}
    (ran : deleteUser state actor userId = .ok next) :
    ∃ user target, state.users.lookup actor = some user ∧
      state.users.lookup userId = some target ∧ userId ≠ actor ∧
      next = { purgeUserOwnedData state userId with
        users := state.users.erase userId } := by
  obtain ⟨user, permitted, rest⟩ := bind_eq_ok ran
  obtain ⟨target, inScope, rest⟩ := bind_eq_ok rest
  obtain ⟨_, different, done⟩ := bind_eq_ok rest
  cases done
  exact ⟨user, target, requirePermission_eq_ok permitted,
    targetInScopeOr404_eq_ok inScope, check_eq_ok different, rfl⟩

end Commits

end DbBuddy.Publishing
