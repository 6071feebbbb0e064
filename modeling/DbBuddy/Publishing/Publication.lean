import DbBuddy.Publishing.Endpoints

/-!
# Publishing and withdrawing at the same time

A publication is recorded twice: as the status of the draft, and as a record with
a status of its own.  A request reads both in one step and commits in a later one.
An assignment is only written where it changes what was loaded, so what a request
commits depends on what it has read.
-/

namespace DbBuddy.Publishing.Publication

open DbBuddy.Library

/-! ## The requests -/

inductive Call where
  | publishChart (actor chartId : String) (visibility : Visibility)
  | unpublishChart (actor chartId : String)
  | publishDashboard (actor dashboardId : String)
  | unpublishDashboard (actor dashboardId : String)
  deriving DecidableEq, Repr

/-- What a request has loaded when it commits. -/
inductive Loaded where
  | publishChart (actor chartId : String) (visibility : Visibility) (user : User)
      (chart : SavedChart) (report : Option (String × PublishedReport))
  | unpublishChart (chartId : String) (chart : SavedChart)
      (revoked : List String)
  | publishDashboard (actor dashboardId : String) (user : User)
      (dashboard : Dashboard) (record : Option (String × PublishedDashboard))
  | unpublishDashboard (dashboardId : String) (dashboard : Dashboard)
      (record : Option (String × PublishedDashboard))
  deriving DecidableEq, Repr

/-- What a request reads, with the checks of its endpoint. -/
def readOf (tables : Publishing.State) : Call → Except HttpError Loaded
  | .publishChart actor chartId visibility => do
      let user ← requirePermission tables actor .chartPublish
      let chart ← ownChart tables actor chartId
      return .publishChart actor chartId visibility user chart
        (tables.reports.first (isActiveFor chartId))
  | .unpublishChart actor chartId => do
      let _ ← requirePermission tables actor .chartPublish
      let chart ← ownChart tables actor chartId
      return .unpublishChart chartId chart
        (tables.reports.keysOf (isActiveFor chartId))
  | .publishDashboard actor dashboardId => do
      let user ← requirePermission tables actor .chartPublish
      let dashboard ← ownedOr404 tables dashboardId actor
      check (dashboard.items ≠ [])
        ⟨409, "Pin at least one chart before publishing this dashboard."⟩
      return .publishDashboard actor dashboardId user dashboard
        (tables.publishedDashboards.first (isRecordOf dashboardId))
  | .unpublishDashboard actor dashboardId => do
      let _ ← requirePermission tables actor .chartPublish
      let dashboard ← ownedOr404 tables dashboardId actor
      return .unpublishDashboard dashboardId dashboard
        (tables.publishedDashboards.first (isRecordOf dashboardId))

/-- The stored value after an assignment to a loaded attribute: nothing is written
where the assignment changes nothing. -/
def written {Value : Type} [DecidableEq Value] (loaded assigned stored : Value) :
    Value :=
  if loaded = assigned then stored else assigned

/-- Setting the status of the one draft. -/
def setChart (tables : Publishing.State) (chartId : String)
    (loaded isPublished : Bool) : Table SavedChart :=
  tables.charts.changeKeys (fun id => decide (id = chartId)) fun chart =>
    { chart with isPublished := written loaded isPublished chart.isPublished }

def setDashboard (tables : Publishing.State) (dashboardId : String)
    (loaded isPublished : Bool) : Table Dashboard :=
  tables.dashboards.changeKeys (fun id => decide (id = dashboardId))
    fun dashboard => { dashboard with
      isPublished := written loaded isPublished dashboard.isPublished }

def setRecord (tables : Publishing.State) (recordId : String)
    (loaded status : PublicationStatus) : Table PublishedDashboard :=
  tables.publishedDashboards.changeKeys (fun id => decide (id = recordId))
    fun record => { record with
      status := written loaded status record.status }

/-- What a request commits; `newId` is the key of a row it adds. -/
def commitOf (tables : Publishing.State) (newId : String) :
    Loaded → Publishing.State
  | .publishChart actor chartId visibility user chart report =>
      let reports := match report with
        | none => tables.reports.insert newId
            { chartId := chartId
              publishedBy := actor
              organizationId := user.organizationId
              status := .active
              visibility := visibility }
        | some (existing, loaded) =>
            tables.reports.changeKeys (fun id => decide (id = existing))
              fun row => { row with
                publishedBy := written loaded.publishedBy actor row.publishedBy
                visibility :=
                  written loaded.visibility visibility row.visibility }
      { tables with
        reports := reports
        charts := setChart tables chartId chart.isPublished true }
  | .unpublishChart chartId chart revoked =>
      { tables with
        reports := tables.reports.changeKeys (fun id => decide (id ∈ revoked))
          fun report => { report with status := .revoked }
        charts := setChart tables chartId chart.isPublished false }
  | .publishDashboard actor dashboardId user dashboard record =>
      let records := match record with
        | none => tables.publishedDashboards.insert newId
            { dashboardId := dashboardId
              publishedBy := actor
              organizationId := user.organizationId
              status := .active
              visibility := .organization }
        | some (existing, loaded) =>
            setRecord tables existing loaded.status .active
      { tables with
        publishedDashboards := records
        dashboards :=
          setDashboard tables dashboardId dashboard.isPublished true }
  | .unpublishDashboard dashboardId dashboard record =>
      let records := match record with
        | none => tables.publishedDashboards
        | some (existing, loaded) =>
            setRecord tables existing loaded.status .revoked
      { tables with
        publishedDashboards := records
        dashboards :=
          setDashboard tables dashboardId dashboard.isPublished false }

inductive Phase where
  | ready
  | holding (loaded : Loaded)
  deriving DecidableEq, Repr

structure State (Request : Type) where
  tables : Publishing.State
  phase : Request → Phase

inductive Label (Request : Type) where
  | read (request : Request) (call : Call)
  | commit (request : Request) (newId : String)

section Steps

variable {Request : Type} [DecidableEq Request]

/-- One atomic step; a request that fails its checks is no step. -/
def step (state : State Request) : Label Request → Option (State Request)
  | .read request call =>
      match state.phase request with
      | .ready => (readOf state.tables call).toOption.map fun loaded =>
          { state with
            phase := Function.update state.phase request (.holding loaded) }
      | .holding _ => none
  | .commit request newId =>
      match state.phase request with
      | .ready => none
      | .holding loaded =>
          if unused state.tables.reports newId &&
              unused state.tables.publishedDashboards newId then
            some
              { tables := commitOf state.tables newId loaded
                phase := Function.update state.phase request .ready }
          else none

/-! ## The law and when it holds -/

/-- A draft's status, where there is a draft, agrees with the set of its active
records. -/
structure Agrees (isPublished : Option Bool) (active : Set String) : Prop where
  status : ∀ published, isPublished = some published →
    (published = true ↔ active.Nonempty)
  unique : active.Subsingleton

/-- A record that makes the dashboard published. -/
def isActiveRecordOf (dashboardId : String) (record : PublishedDashboard) : Bool :=
  isRecordOf dashboardId record && decide (record.status = .active)

def chartStatus (tables : Publishing.State) (chartId : String) : Option Bool :=
  (tables.charts.lookup chartId).map SavedChart.isPublished

def dashboardStatus (tables : Publishing.State) (dashboardId : String) :
    Option Bool :=
  (tables.dashboards.lookup dashboardId).map Dashboard.isPublished

def ChartAgrees (tables : Publishing.State) (chartId : String) : Prop :=
  Agrees (chartStatus tables chartId)
    (tables.reports.selected (isActiveFor chartId))

def DashboardAgrees (tables : Publishing.State) (dashboardId : String) : Prop :=
  Agrees (dashboardStatus tables dashboardId)
    (tables.publishedDashboards.selected (isActiveRecordOf dashboardId))

/-- A dashboard has one record, active or revoked. -/
def OneRecord (tables : Publishing.State) (dashboardId : String) : Prop :=
  (tables.publishedDashboards.selected (isRecordOf dashboardId)).Subsingleton

/-- No request is in progress, and what is stored agrees. -/
def Initial (state : State Request) : Prop :=
  (∀ chartId, ChartAgrees state.tables chartId) ∧
    (∀ dashboardId, DashboardAgrees state.tables dashboardId) ∧
    (∀ dashboardId, OneRecord state.tables dashboardId) ∧
    ∀ request, state.phase request = .ready

def system (Request : Type) [DecidableEq Request] :
    TransitionSystem (State Request) (Label Request) where
  initial := Initial
  step := step

/-- What a request writes rests on what is still so: a chart or dashboard gets a
new record while it has none, and a chart is withdrawn while no other record of it
is active than those it has found. -/
def StillSo (tables : Publishing.State) : Loaded → Prop
  | .publishChart _ chartId _ _ _ none =>
      tables.reports.selected (isActiveFor chartId) = ∅
  | .unpublishChart chartId _ revoked =>
      revoked ≠ [] →
        ∀ id ∈ tables.reports.selected (isActiveFor chartId), id ∈ revoked
  | .publishDashboard _ dashboardId _ _ none =>
      tables.publishedDashboards.selected (isRecordOf dashboardId) = ∅
  | _ => True

/-- Every request commits while what it rests on is still so. -/
def CommitsInTime (state : State Request) : Label Request → Prop
  | .read _ _ => True
  | .commit request _ =>
      ∀ loaded, state.phase request = .holding loaded →
        StillSo state.tables loaded

end Steps

/-! ## Rows stay what they are rows of -/

def isReportOf (chartId : String) (report : PublishedReport) : Bool :=
  decide (report.chartId = chartId)

/-- No report changes its chart and no record its dashboard; none is deleted. -/
structure Keeps (tables next : Publishing.State) : Prop where
  reports : ∀ chartId, tables.reports.selected (isReportOf chartId) ⊆
    next.reports.selected (isReportOf chartId)
  records : ∀ dashboardId,
    tables.publishedDashboards.selected (isRecordOf dashboardId) ⊆
      next.publishedDashboards.selected (isRecordOf dashboardId)

section Rows

variable {tables : Publishing.State} {newId : String}

theorem selected_setRecord {recordId : String}
    {loaded status : PublicationStatus} {dashboardId : String} :
    (setRecord tables recordId loaded status).selected (isRecordOf dashboardId) =
      tables.publishedDashboards.selected (isRecordOf dashboardId) :=
  OrderedDict.selected_changeKeys fun _ _ _ _ => rfl

/-- Publishing again writes what no test of a publication reads. -/
theorem selected_republished {existing actor : String} {loaded : PublishedReport}
    {visibility : Visibility} {test : PublishedReport → Bool}
    (unseen : ∀ report publishedBy shown,
      test { report with publishedBy := publishedBy, visibility := shown } =
        test report) :
    OrderedDict.selected (tables.reports.changeKeys
        (fun id => decide (id = existing))
        fun row => { row with
          publishedBy := written loaded.publishedBy actor row.publishedBy
          visibility := written loaded.visibility visibility row.visibility })
      test = tables.reports.selected test :=
  OrderedDict.selected_changeKeys fun _ report _ _ => unseen report _ _

theorem selected_revoked {revoked : List String} {chartId : String} :
    OrderedDict.selected (tables.reports.changeKeys
        (fun id => decide (id ∈ revoked))
        fun report => { report with status := .revoked })
      (isReportOf chartId) = tables.reports.selected (isReportOf chartId) :=
  OrderedDict.selected_changeKeys fun _ _ _ _ => rfl

theorem subset_selected_insert {Row : Type} {table : Table Row} {row : Row}
    {test : Row → Bool} (fresh : table.lookup newId = none) :
    table.selected test ⊆ OrderedDict.selected (table.insert newId row) test := by
  rw [OrderedDict.selected_insert fresh]
  split
  · exact Set.subset_insert newId _
  · exact Set.Subset.rfl

theorem keeps_commitOf {loaded : Loaded}
    (freshReport : tables.reports.lookup newId = none)
    (freshRecord : tables.publishedDashboards.lookup newId = none) :
    Keeps tables (commitOf tables newId loaded) := by
  cases loaded with
  | publishChart actor chartId visibility user chart report =>
      refine ⟨?_, fun _ => Set.Subset.rfl⟩
      intro other
      cases report with
      | none =>
          exact subset_selected_insert freshReport
      | some found =>
          exact (selected_republished fun _ _ _ => rfl).ge
  | unpublishChart chartId chart revoked =>
      refine ⟨?_, fun _ => Set.Subset.rfl⟩
      intro other
      exact selected_revoked.ge
  | publishDashboard actor dashboardId user dashboard record =>
      refine ⟨fun _ => Set.Subset.rfl, ?_⟩
      intro other
      cases record with
      | none =>
          exact subset_selected_insert freshRecord
      | some found =>
          exact selected_setRecord.ge
  | unpublishDashboard dashboardId dashboard record =>
      refine ⟨fun _ => Set.Subset.rfl, ?_⟩
      intro other
      cases record with
      | none =>
          exact Set.Subset.rfl
      | some found =>
          exact selected_setRecord.ge

/-! ## The status of a draft after a commit -/

theorem written_same {Value : Type} [DecidableEq Value] (value stored : Value) :
    written value value stored = stored := by
  simp [written]

theorem written_of_ne {Value : Type} [DecidableEq Value]
    {loaded assigned : Value} (different : loaded ≠ assigned) (stored : Value) :
    written loaded assigned stored = assigned := by
  simp [written, different]

theorem chartStatus_setChart (chartId other : String) (loaded isPublished : Bool)
    (reports : Table PublishedReport) :
    chartStatus { tables with
        reports := reports
        charts := setChart tables chartId loaded isPublished } other =
      if other = chartId then
        (chartStatus tables other).map (written loaded isPublished)
      else chartStatus tables other := by
  simp only [chartStatus, setChart, OrderedDict.lookup_changeKeys, Option.map_map]
  by_cases same : other = chartId
  · simp only [same, decide_true, if_true]
    rfl
  · simp only [same, decide_false, if_false]
    rfl

theorem dashboardStatus_setDashboard (dashboardId other : String)
    (loaded isPublished : Bool) (records : Table PublishedDashboard) :
    dashboardStatus { tables with
        publishedDashboards := records
        dashboards := setDashboard tables dashboardId loaded isPublished } other =
      if other = dashboardId then
        (dashboardStatus tables other).map (written loaded isPublished)
      else dashboardStatus tables other := by
  simp only [dashboardStatus, setDashboard, OrderedDict.lookup_changeKeys,
    Option.map_map]
  by_cases same : other = dashboardId
  · simp only [same, decide_true, if_true]
    rfl
  · simp only [same, decide_false, if_false]
    rfl

theorem agrees_published {status : Option Bool} (id : String) :
    Agrees (status.map (written false true)) {id} := by
  refine ⟨?_, Set.subsingleton_singleton⟩
  intro published isStatus
  obtain ⟨stored, _, rfl⟩ := Option.map_eq_some_iff.mp isStatus
  simp [written]

theorem agrees_withdrawn {status : Option Bool} :
    Agrees (status.map (written true false)) ∅ := by
  refine ⟨?_, Set.subsingleton_empty⟩
  intro published isStatus
  obtain ⟨stored, _, rfl⟩ := Option.map_eq_some_iff.mp isStatus
  simp [written]

theorem map_written_same (status : Option Bool) (value : Bool) :
    status.map (written value value) = status := by
  cases status with
  | none =>
      rfl
  | some stored =>
      simp [written_same]

/-! ## Charts -/

section Charts

variable {actor chartId other : String}

theorem chartAgrees_set {reports : Table PublishedReport}
    {loaded isPublished : Bool} (agrees : ChartAgrees tables other)
    (elsewhere : other ≠ chartId → reports.selected (isActiveFor other) =
      tables.reports.selected (isActiveFor other))
    (here : Agrees ((chartStatus tables chartId).map (written loaded isPublished))
      (reports.selected (isActiveFor chartId))) :
    ChartAgrees { tables with
      reports := reports
      charts := setChart tables chartId loaded isPublished } other := by
  unfold ChartAgrees
  rw [chartStatus_setChart]
  by_cases same : other = chartId
  · subst other
    rw [if_pos rfl]
    exact here
  · rw [if_neg same, elsewhere same]
    exact agrees

theorem chartAgrees_publishNew {visibility : Visibility} {user : User}
    {chart : SavedChart} (agrees : ChartAgrees tables other)
    (fresh : tables.reports.lookup newId = none)
    (wasDraft : chart.isPublished = false)
    (noActive : tables.reports.selected (isActiveFor chartId) = ∅) :
    ChartAgrees (commitOf tables newId
      (.publishChart actor chartId visibility user chart none)) other := by
  refine chartAgrees_set agrees ?_ ?_
  · intro different
    rw [OrderedDict.selected_insert fresh]
    simp [isActiveFor, Ne.symm different]
  · rw [OrderedDict.selected_insert fresh, noActive, wasDraft]
    simpa [isActiveFor] using agrees_published newId

/-- Publishing what is published writes no status. -/
theorem chartAgrees_publishAgain {visibility : Visibility} {user : User}
    {chart : SavedChart} {found : String × PublishedReport}
    (agrees : ∀ chartId, ChartAgrees tables chartId)
    (wasPublished : chart.isPublished = true) :
    ChartAgrees (commitOf tables newId
      (.publishChart actor chartId visibility user chart (some found))) other := by
  refine chartAgrees_set (agrees other) ?_ ?_
  · intro _
    exact selected_republished fun _ _ _ => rfl
  · rw [selected_republished fun _ _ _ => rfl, wasPublished, map_written_same]
    exact agrees chartId

theorem mem_selected_revoked {revoked : List String} {id : String} :
    id ∈ OrderedDict.selected (tables.reports.changeKeys
        (fun id => decide (id ∈ revoked))
        fun report => { report with status := .revoked })
      (isActiveFor chartId) ↔
      id ∈ tables.reports.selected (isActiveFor chartId) ∧ id ∉ revoked := by
  rw [OrderedDict.mem_selected_changeKeys]
  constructor
  · rintro ⟨report, present, active⟩
    by_cases isRevoked : id ∈ revoked
    · simp [isRevoked, isActiveFor] at active
    · simp only [isRevoked, decide_false, Bool.false_eq_true, if_false] at active
      exact ⟨⟨report, present, active⟩, isRevoked⟩
  · rintro ⟨⟨report, present, active⟩, notRevoked⟩
    exact ⟨report, present, by simpa [notRevoked] using active⟩

theorem isReportOf_of_active {report : PublishedReport}
    (active : isActiveFor chartId report = true) :
    isReportOf chartId report = true := by
  simp only [isActiveFor, decide_eq_true_eq] at active
  simp [isReportOf, active.1]

theorem chartAgrees_unpublish {chart : SavedChart} {revoked : List String}
    (agrees : ∀ chartId, ChartAgrees tables chartId)
    (status : chart.isPublished = decide (revoked ≠ []))
    (theirs : ∀ id ∈ revoked, id ∈ tables.reports.selected (isReportOf chartId))
    (stillSo : revoked ≠ [] →
      ∀ id ∈ tables.reports.selected (isActiveFor chartId), id ∈ revoked) :
    ChartAgrees (commitOf tables newId (.unpublishChart chartId chart revoked))
      other := by
  refine chartAgrees_set (agrees other) ?_ ?_
  · intro different
    ext id
    rw [mem_selected_revoked]
    refine and_iff_left_of_imp ?_
    rintro ⟨report, present, active⟩ isRevoked
    -- A revoked record is one of the chart that is withdrawn.
    have ofThis := (OrderedDict.mem_selected present).mp (theirs id isRevoked)
    have ofOther := isReportOf_of_active active
    simp only [isReportOf, decide_eq_true_eq] at ofThis ofOther
    exact different (ofOther.symm.trans ofThis)
  · by_cases nothing : revoked = []
    · have unchanged : OrderedDict.selected (tables.reports.changeKeys
          (fun id => decide (id ∈ revoked))
          fun report => { report with status := .revoked })
          (isActiveFor chartId) = tables.reports.selected (isActiveFor chartId) := by
        ext id
        rw [mem_selected_revoked, nothing]
        simp
      rw [unchanged, status, nothing]
      simpa [map_written_same, ChartAgrees] using agrees chartId
    · have none : OrderedDict.selected (tables.reports.changeKeys
          (fun id => decide (id ∈ revoked))
          fun report => { report with status := .revoked })
          (isActiveFor chartId) = ∅ := by
        refine Set.eq_empty_of_forall_notMem ?_
        intro id isActive
        obtain ⟨wasActive, notRevoked⟩ := mem_selected_revoked.mp isActive
        exact notRevoked (stillSo nothing id wasActive)
      rw [none, status]
      simpa [nothing] using agrees_withdrawn

end Charts

/-! ## Dashboards -/

section Dashboards

variable {actor dashboardId other : String}

theorem dashboardAgrees_set {records : Table PublishedDashboard}
    {loaded isPublished : Bool} (agrees : DashboardAgrees tables other)
    (elsewhere : other ≠ dashboardId → records.selected (isActiveRecordOf other) =
      tables.publishedDashboards.selected (isActiveRecordOf other))
    (here : Agrees
      ((dashboardStatus tables dashboardId).map (written loaded isPublished))
      (records.selected (isActiveRecordOf dashboardId))) :
    DashboardAgrees { tables with
      publishedDashboards := records
      dashboards := setDashboard tables dashboardId loaded isPublished }
      other := by
  unfold DashboardAgrees
  rw [dashboardStatus_setDashboard]
  by_cases same : other = dashboardId
  · subst other
    rw [if_pos rfl]
    exact here
  · rw [if_neg same, elsewhere same]
    exact agrees

theorem mem_isActiveRecordOf {record : PublishedDashboard} :
    isActiveRecordOf dashboardId record = true ↔
      record.dashboardId = dashboardId ∧ record.status = .active := by
  simp [isActiveRecordOf, isRecordOf]

theorem selected_active_subset :
    tables.publishedDashboards.selected (isActiveRecordOf dashboardId) ⊆
      tables.publishedDashboards.selected (isRecordOf dashboardId) := by
  rintro id ⟨record, present, active⟩
  refine ⟨record, present, ?_⟩
  simp [isRecordOf, (mem_isActiveRecordOf.mp active).1]

theorem dashboardAgrees_publishNew {user : User} {dashboard : Dashboard}
    (agrees : DashboardAgrees tables other)
    (fresh : tables.publishedDashboards.lookup newId = none)
    (wasDraft : dashboard.isPublished = false)
    (noRecord : tables.publishedDashboards.selected (isRecordOf dashboardId) = ∅) :
    DashboardAgrees (commitOf tables newId
      (.publishDashboard actor dashboardId user dashboard none)) other := by
  have noActive : tables.publishedDashboards.selected
      (isActiveRecordOf dashboardId) = ∅ :=
    Set.subset_empty_iff.mp (noRecord ▸ selected_active_subset)
  refine dashboardAgrees_set agrees ?_ ?_
  · intro different
    rw [OrderedDict.selected_insert fresh]
    simp [isActiveRecordOf, isRecordOf, Ne.symm different]
  · rw [OrderedDict.selected_insert fresh, noActive, wasDraft]
    simpa [isActiveRecordOf, isRecordOf] using agrees_published newId

/-- The one record that a dashboard has is set. -/
theorem dashboardAgrees_setRecord {dashboard : Dashboard} {existing : String}
    {loaded : PublicationStatus} (status : PublicationStatus)
    (agrees : ∀ dashboardId, DashboardAgrees tables dashboardId)
    (one : OneRecord tables dashboardId)
    (theirs : existing ∈
      tables.publishedDashboards.selected (isRecordOf dashboardId))
    (loadedStatus : dashboard.isPublished = decide (loaded = .active)) :
    DashboardAgrees { tables with
      publishedDashboards := setRecord tables existing loaded status
      dashboards := setDashboard tables dashboardId dashboard.isPublished
        (decide (status = .active)) } other := by
  refine dashboardAgrees_set (agrees other) ?_ ?_
  · intro different
    refine OrderedDict.selected_changeKeys ?_
    intro id record present isThis
    have ofThis := (OrderedDict.mem_selected present).mp
      (of_decide_eq_true isThis ▸ theirs)
    have notOther : isRecordOf other record = false := by
      simp only [isRecordOf, decide_eq_true_eq] at ofThis
      simp [isRecordOf, ofThis, Ne.symm different]
    have still : isRecordOf other { record with
        status := written loaded status record.status } = false := notOther
    simp [isActiveRecordOf, notOther, still]
  · by_cases same : loaded = status
    · subst status
      -- Nothing changes, so nothing is written.
      have unchanged : OrderedDict.selected (setRecord tables existing loaded loaded)
          (isActiveRecordOf dashboardId) =
          tables.publishedDashboards.selected (isActiveRecordOf dashboardId) := by
        refine OrderedDict.selected_changeKeys ?_
        intro id record _ _
        rw [written_same]
      rw [unchanged, loadedStatus, map_written_same]
      exact agrees dashboardId
    · have lone : ∀ id, id ∈ OrderedDict.selected
          (setRecord tables existing loaded status) (isActiveRecordOf dashboardId) ↔
          id = existing ∧ status = .active := by
        intro id
        rw [setRecord, OrderedDict.mem_selected_changeKeys]
        constructor
        · rintro ⟨record, present, active⟩
          have isThis : id = existing := by
            refine one ⟨record, present, ?_⟩ theirs
            by_cases chosen : id = existing
            · simp only [chosen, decide_true, if_true] at active
              simpa [isRecordOf] using (mem_isActiveRecordOf.mp active).1
            · simp only [chosen, decide_false, Bool.false_eq_true,
                if_false] at active
              simpa [isRecordOf] using (mem_isActiveRecordOf.mp active).1
          simp only [isThis, decide_true, if_true, written_of_ne same] at active
          exact ⟨isThis, (mem_isActiveRecordOf.mp active).2⟩
        · rintro ⟨rfl, isActive⟩
          obtain ⟨record, present, ofThis⟩ := theirs
          refine ⟨record, present, ?_⟩
          simp only [decide_true, if_true, written_of_ne same]
          exact mem_isActiveRecordOf.mpr ⟨of_decide_eq_true ofThis, isActive⟩
      rw [loadedStatus]
      cases status with
      | active =>
          have isLone : OrderedDict.selected
              (setRecord tables existing loaded .active)
              (isActiveRecordOf dashboardId) = {existing} := by
            ext id
            simp [lone]
          rw [isLone]
          simpa [same] using agrees_published existing
      | revoked =>
          have isEmpty : OrderedDict.selected
              (setRecord tables existing loaded .revoked)
              (isActiveRecordOf dashboardId) = ∅ := by
            ext id
            simp [lone]
          have wasActive : loaded = .active := by
            cases loaded with
            | active =>
                rfl
            | revoked =>
                exact absurd rfl same
          rw [isEmpty, wasActive]
          simpa using agrees_withdrawn

/-- Withdrawing what has no record writes nothing. -/
theorem dashboardAgrees_unpublishNone {dashboard : Dashboard}
    (agrees : ∀ dashboardId, DashboardAgrees tables dashboardId)
    (wasDraft : dashboard.isPublished = false) :
    DashboardAgrees (commitOf tables newId
      (.unpublishDashboard dashboardId dashboard none)) other := by
  refine dashboardAgrees_set (agrees other) (fun _ => rfl) ?_
  rw [wasDraft, map_written_same]
  exact agrees dashboardId

end Dashboards

end Rows

/-! ## What a request has loaded -/

/-- The status that was loaded is the one of the record that was found. -/
def RecordSound (tables : Publishing.State) (dashboardId : String)
    (dashboard : Dashboard) : Option (String × PublishedDashboard) → Prop
  | none => dashboard.isPublished = false
  | some (existing, record) =>
      dashboard.isPublished = decide (record.status = .active) ∧
        existing ∈ tables.publishedDashboards.selected (isRecordOf dashboardId)

def LoadedSound (tables : Publishing.State) : Loaded → Prop
  | .publishChart _ _ _ _ chart report => chart.isPublished = report.isSome
  | .unpublishChart chartId chart revoked =>
      chart.isPublished = decide (revoked ≠ []) ∧
        ∀ id ∈ revoked, id ∈ tables.reports.selected (isReportOf chartId)
  | .publishDashboard _ dashboardId _ dashboard record =>
      RecordSound tables dashboardId dashboard record
  | .unpublishDashboard dashboardId dashboard record =>
      RecordSound tables dashboardId dashboard record

/-- The invariant. -/
structure Sound {Request : Type} (state : State Request) : Prop where
  charts : ∀ chartId, ChartAgrees state.tables chartId
  dashboards : ∀ dashboardId, DashboardAgrees state.tables dashboardId
  one : ∀ dashboardId, OneRecord state.tables dashboardId
  loaded : ∀ request loaded, state.phase request = .holding loaded →
    LoadedSound state.tables loaded

section Loading

variable {tables next : Publishing.State}

theorem RecordSound.keeps {dashboardId : String} {dashboard : Dashboard}
    {record : Option (String × PublishedDashboard)}
    (sound : RecordSound tables dashboardId dashboard record)
    (kept : Keeps tables next) :
    RecordSound next dashboardId dashboard record := by
  cases record with
  | none =>
      exact sound
  | some found =>
      exact ⟨sound.1, kept.records dashboardId sound.2⟩

theorem LoadedSound.keeps {loaded : Loaded} (sound : LoadedSound tables loaded)
    (kept : Keeps tables next) : LoadedSound next loaded := by
  cases loaded with
  | publishChart actor chartId visibility user chart report =>
      exact sound
  | unpublishChart chartId chart revoked =>
      refine ⟨sound.1, ?_⟩
      intro id isRevoked
      exact kept.reports chartId (sound.2 id isRevoked)
  | publishDashboard actor dashboardId user dashboard record =>
      exact RecordSound.keeps sound kept
  | unpublishDashboard dashboardId dashboard record =>
      exact RecordSound.keeps sound kept

/-- A status that agrees says whether there is an active record. -/
theorem Agrees.status_eq {status : Option Bool} {active : Set String}
    (agrees : Agrees status active) {published : Bool}
    (isStatus : status = some published) {found : Bool}
    (finds : found = true ↔ active.Nonempty) : published = found := by
  rw [Bool.eq_iff_iff, agrees.status published isStatus, finds]

theorem recordSound_first {dashboardId : String} {dashboard : Dashboard}
    (agrees : DashboardAgrees tables dashboardId)
    (one : OneRecord tables dashboardId)
    (present : tables.dashboards.lookup dashboardId = some dashboard) :
    RecordSound tables dashboardId dashboard
      (tables.publishedDashboards.first (isRecordOf dashboardId)) := by
  have isStatus : dashboardStatus tables dashboardId =
      some dashboard.isPublished := by
    simp [dashboardStatus, present]
  cases isFirst : tables.publishedDashboards.first (isRecordOf dashboardId) with
  | none =>
      refine agrees.status_eq isStatus ?_
      have noRecord := OrderedDict.selected_eq_empty_of_first isFirst
      have noActive := Set.subset_empty_iff.mp (noRecord ▸ selected_active_subset)
      rw [noActive]
      simp
  | some found =>
      obtain ⟨existing, record⟩ := found
      have isRecord := OrderedDict.lookup_first isFirst
      have member := OrderedDict.mem_selected_of_first isFirst
      refine ⟨agrees.status_eq isStatus ?_, member⟩
      rw [decide_eq_true_eq]
      constructor
      · intro isActive
        refine ⟨existing, record, isRecord.1, ?_⟩
        simp [isActiveRecordOf, isRecord.2, isActive]
      · rintro ⟨id, found, present, active⟩
        have sameKey : id = existing :=
          one (selected_active_subset ⟨found, present, active⟩) member
        subst sameKey
        cases isRecord.1.symm.trans present
        exact (mem_isActiveRecordOf.mp active).2

theorem loadedSound_readOf {call : Call} {loaded : Loaded}
    (charts : ∀ chartId, ChartAgrees tables chartId)
    (dashboards : ∀ dashboardId, DashboardAgrees tables dashboardId)
    (one : ∀ dashboardId, OneRecord tables dashboardId)
    (read : readOf tables call = .ok loaded) : LoadedSound tables loaded := by
  cases call with
  | publishChart actor chartId visibility =>
      obtain ⟨user, _, rest⟩ := bind_eq_ok read
      obtain ⟨chart, isOwn, done⟩ := bind_eq_ok rest
      cases done
      have isStatus : chartStatus tables chartId = some chart.isPublished := by
        simp [chartStatus, (ownChart_eq_ok isOwn).1]
      exact (charts chartId).status_eq isStatus OrderedDict.first_isSome
  | unpublishChart actor chartId =>
      obtain ⟨user, _, rest⟩ := bind_eq_ok read
      obtain ⟨chart, isOwn, done⟩ := bind_eq_ok rest
      cases done
      have isStatus : chartStatus tables chartId = some chart.isPublished := by
        simp [chartStatus, (ownChart_eq_ok isOwn).1]
      refine ⟨(charts chartId).status_eq isStatus ?_, ?_⟩
      · rw [decide_eq_true_eq]
        exact OrderedDict.keysOf_ne_nil
      · intro id isKey
        obtain ⟨report, present, active⟩ := OrderedDict.mem_keysOf.mp isKey
        exact ⟨report, present, isReportOf_of_active active⟩
  | publishDashboard actor dashboardId =>
      obtain ⟨user, _, rest⟩ := bind_eq_ok read
      obtain ⟨dashboard, isOwn, rest⟩ := bind_eq_ok rest
      obtain ⟨_, _, done⟩ := bind_eq_ok rest
      cases done
      exact recordSound_first (dashboards dashboardId) (one dashboardId)
        (ownedOr404_eq_ok isOwn).1
  | unpublishDashboard actor dashboardId =>
      obtain ⟨user, _, rest⟩ := bind_eq_ok read
      obtain ⟨dashboard, isOwn, done⟩ := bind_eq_ok rest
      cases done
      exact recordSound_first (dashboards dashboardId) (one dashboardId)
        (ownedOr404_eq_ok isOwn).1

end Loading

/-! ## Runs -/

section Runs

variable {tables : Publishing.State} {newId : String} {loaded : Loaded}

theorem chartAgrees_commitOf (charts : ∀ chartId, ChartAgrees tables chartId)
    (fresh : tables.reports.lookup newId = none)
    (sound : LoadedSound tables loaded) (stillSo : StillSo tables loaded)
    (chartId : String) : ChartAgrees (commitOf tables newId loaded) chartId := by
  cases loaded with
  | publishChart actor published visibility user chart report =>
      cases report with
      | none =>
          exact chartAgrees_publishNew (charts chartId) fresh sound stillSo
      | some found =>
          exact chartAgrees_publishAgain charts sound
  | unpublishChart withdrawn chart revoked =>
      exact chartAgrees_unpublish charts sound.1 sound.2 stillSo
  | publishDashboard actor dashboardId user dashboard record =>
      exact charts chartId
  | unpublishDashboard dashboardId dashboard record =>
      exact charts chartId

theorem dashboardAgrees_commitOf
    (dashboards : ∀ dashboardId, DashboardAgrees tables dashboardId)
    (one : ∀ dashboardId, OneRecord tables dashboardId)
    (fresh : tables.publishedDashboards.lookup newId = none)
    (sound : LoadedSound tables loaded) (stillSo : StillSo tables loaded)
    (dashboardId : String) :
    DashboardAgrees (commitOf tables newId loaded) dashboardId := by
  cases loaded with
  | publishChart actor chartId visibility user chart report =>
      exact dashboards dashboardId
  | unpublishChart chartId chart revoked =>
      exact dashboards dashboardId
  | publishDashboard actor published user dashboard record =>
      cases record with
      | none =>
          exact dashboardAgrees_publishNew (dashboards dashboardId) fresh sound stillSo
      | some found =>
          exact dashboardAgrees_setRecord .active dashboards (one published)
            sound.2 sound.1
  | unpublishDashboard withdrawn dashboard record =>
      cases record with
      | none =>
          exact dashboardAgrees_unpublishNone dashboards sound
      | some found =>
          exact dashboardAgrees_setRecord .revoked dashboards (one withdrawn)
            sound.2 sound.1

theorem oneRecord_commitOf (one : ∀ dashboardId, OneRecord tables dashboardId)
    (fresh : tables.publishedDashboards.lookup newId = none)
    (stillSo : StillSo tables loaded) (dashboardId : String) :
    OneRecord (commitOf tables newId loaded) dashboardId := by
  cases loaded with
  | publishChart actor chartId visibility user chart report =>
      exact one dashboardId
  | unpublishChart chartId chart revoked =>
      exact one dashboardId
  | publishDashboard actor published user dashboard record =>
      unfold OneRecord
      cases record with
      | none =>
          simp only [commitOf]
          rw [OrderedDict.selected_insert fresh]
          split
          · rename_i ofThis
            have noRecord : tables.publishedDashboards.selected
                (isRecordOf published) = ∅ := stillSo
            rw [← of_decide_eq_true ofThis, noRecord]
            simp
          · exact one dashboardId
      | some found =>
          simp only [commitOf]
          rw [selected_setRecord]
          exact one dashboardId
  | unpublishDashboard withdrawn dashboard record =>
      unfold OneRecord
      cases record with
      | none =>
          exact one dashboardId
      | some found =>
          simp only [commitOf]
          rw [selected_setRecord]
          exact one dashboardId

variable {Request : Type} [DecidableEq Request] {state next : State Request}

omit [DecidableEq Request] in
theorem sound_initial (isInitial : Initial state) : Sound state := by
  obtain ⟨charts, dashboards, one, ready⟩ := isInitial
  refine ⟨charts, dashboards, one, ?_⟩
  intro request loaded holding
  rw [ready request] at holding
  cases holding

theorem sound_step {label : Label Request} (sound : Sound state)
    (inTime : CommitsInTime state label) (stepped : step state label = some next) :
    Sound next := by
  cases label with
  | read request call =>
      simp only [step] at stepped
      split at stepped
      · obtain ⟨read, isRead, rfl⟩ := Option.map_eq_some_iff.mp stepped
        refine ⟨sound.charts, sound.dashboards, sound.one, ?_⟩
        intro other loaded holding
        by_cases same : other = request
        · subst other
          simp only [Function.update_self, Phase.holding.injEq] at holding
          subst holding
          exact loadedSound_readOf sound.charts sound.dashboards sound.one
            (toOption_eq_some isRead)
        · simp only [Function.update_of_ne same] at holding
          exact sound.loaded other loaded holding
      · cases stepped
  | commit request newId =>
      simp only [step] at stepped
      split at stepped
      · cases stepped
      · rename_i loaded holds
        obtain ⟨fresh, committed⟩ := Option.ite_none_right_eq_some.mp stepped
        cases committed
        simp only [unused, Bool.and_eq_true, Option.isNone_iff_eq_none] at fresh
        have loadedSound := sound.loaded request loaded holds
        have stillSo := inTime loaded holds
        refine ⟨chartAgrees_commitOf sound.charts fresh.1 loadedSound stillSo,
          dashboardAgrees_commitOf sound.dashboards sound.one fresh.2 loadedSound
            stillSo, oneRecord_commitOf sound.one fresh.2 stillSo, ?_⟩
        intro other held holding
        by_cases same : other = request
        · subst other
          simp at holding
        · simp only [Function.update_of_ne same] at holding
          exact (sound.loaded other held holding).keeps (keeps_commitOf fresh.1 fresh.2)

end Runs

/-- In every state that a run reaches whose requests commit in time, the status of
every chart and dashboard agrees with its records: it is published exactly when it
has an active one, and it never has two. -/
theorem publications_agree (Request : Type) [DecidableEq Request]
    (state : State Request)
    (reachable : (system Request).ReachableUnder CommitsInTime state) :
    (∀ chartId, ChartAgrees state.tables chartId) ∧
      ∀ dashboardId, DashboardAgrees state.tables dashboardId := by
  have sound : Sound state := reachable.invariant Sound
    (fun _ isInitial => sound_initial isInitial)
    (fun _ _ _ holds inTime stepped => sound_step holds inTime stepped)
  exact ⟨sound.charts, sound.dashboards⟩

/-! ## A request on its own -/

/-- Two states with the same rows, in whatever order. -/
structure SameRows (left right : Publishing.State) : Prop where
  organizations : left.organizations = right.organizations
  users : left.users = right.users
  connections : left.connections = right.connections
  charts : ∀ id, left.charts.lookup id = right.charts.lookup id
  reports : ∀ id, left.reports.lookup id = right.reports.lookup id
  dashboards : ∀ id, left.dashboards.lookup id = right.dashboards.lookup id
  records : ∀ id, left.publishedDashboards.lookup id =
    right.publishedDashboards.lookup id

/-- The endpoint that serves a call. -/
def endpoint (tables : Publishing.State) (newId : String) :
    Call → Except HttpError Publishing.State
  | .publishChart actor chartId visibility =>
      publishChart tables actor chartId newId visibility
  | .unpublishChart actor chartId => unpublishChart tables actor chartId
  | .publishDashboard actor dashboardId =>
      publishDashboard tables actor dashboardId newId
  | .unpublishDashboard actor dashboardId =>
      unpublishDashboard tables actor dashboardId

section Alone

variable {tables next : Publishing.State} {newId : String}

theorem written_loaded {Value : Type} [DecidableEq Value] (loaded assigned : Value) :
    written loaded assigned loaded = assigned := by
  unfold written
  split
  · assumption
  · rfl

theorem lookup_setChart {chartId : String} {chart : SavedChart} (isPublished : Bool)
    (present : tables.charts.lookup chartId = some chart) (id : String) :
    (setChart tables chartId chart.isPublished isPublished).lookup id =
      (tables.charts.insert chartId
        { chart with isPublished := isPublished }).lookup id := by
  rw [setChart, OrderedDict.lookup_changeKeys_eq_insert present, written_loaded]

theorem lookup_setDashboard {dashboardId : String} {dashboard : Dashboard}
    (isPublished : Bool)
    (present : tables.dashboards.lookup dashboardId = some dashboard) (id : String) :
    (setDashboard tables dashboardId dashboard.isPublished isPublished).lookup id =
      (tables.dashboards.insert dashboardId
        { dashboard with isPublished := isPublished }).lookup id := by
  rw [setDashboard, OrderedDict.lookup_changeKeys_eq_insert present, written_loaded]

theorem lookup_setRecord {recordId : String} {record : PublishedDashboard}
    (status : PublicationStatus)
    (present : tables.publishedDashboards.lookup recordId = some record)
    (id : String) :
    (setRecord tables recordId record.status status).lookup id =
      (tables.publishedDashboards.insert recordId
        { record with status := status }).lookup id := by
  rw [setRecord, OrderedDict.lookup_changeKeys_eq_insert present, written_loaded]

/-- Where no other request comes between, reading and committing is what the
endpoint does. -/
theorem endpoint_eq_ok {call : Call} (ran : endpoint tables newId call = .ok next) :
    ∃ loaded, readOf tables call = .ok loaded ∧
      SameRows (commitOf tables newId loaded) next := by
  cases call with
  | publishChart actor chartId visibility =>
      obtain ⟨user, permitted, rest⟩ := bind_eq_ok ran
      obtain ⟨chart, isOwn, done⟩ := bind_eq_ok rest
      have present := (ownChart_eq_ok isOwn).1
      refine ⟨.publishChart actor chartId visibility user chart
        (tables.reports.first (isActiveFor chartId)), ?_, ?_⟩
      · simp only [readOf, permitted, isOwn]
        rfl
      · cases done
        refine ⟨rfl, rfl, rfl, lookup_setChart true present, ?_, fun _ => rfl,
          fun _ => rfl⟩
        intro id
        cases isFirst : tables.reports.first (isActiveFor chartId) with
        | none =>
            rfl
        | some found =>
            have isReport := (OrderedDict.lookup_first isFirst).1
            simp only [commitOf]
            rw [OrderedDict.lookup_changeKeys_eq_insert isReport, written_loaded,
              written_loaded]
  | unpublishChart actor chartId =>
      obtain ⟨user, permitted, rest⟩ := bind_eq_ok ran
      obtain ⟨chart, isOwn, done⟩ := bind_eq_ok rest
      have present := (ownChart_eq_ok isOwn).1
      refine ⟨.unpublishChart chartId chart
        (tables.reports.keysOf (isActiveFor chartId)), ?_, ?_⟩
      · simp only [readOf, permitted, isOwn]
        rfl
      · cases done
        refine ⟨rfl, rfl, rfl, lookup_setChart false present, ?_, fun _ => rfl,
          fun _ => rfl⟩
        intro id
        simp only [commitOf]
        rw [OrderedDict.lookup_changeKeys, OrderedDict.lookup_updateAll_eq_map]
        refine Option.map_congr ?_
        intro report isReport
        have isKey : id ∈ tables.reports.keysOf (isActiveFor chartId) ↔
            isActiveFor chartId report = true := by
          rw [OrderedDict.mem_keysOf, OrderedDict.mem_selected isReport]
        simp only [decide_eq_true_eq, isKey]
  | publishDashboard actor dashboardId =>
      obtain ⟨user, permitted, rest⟩ := bind_eq_ok ran
      obtain ⟨dashboard, isOwn, rest⟩ := bind_eq_ok rest
      obtain ⟨_, hasItems, done⟩ := bind_eq_ok rest
      have present := (ownedOr404_eq_ok isOwn).1
      refine ⟨.publishDashboard actor dashboardId user dashboard
        (tables.publishedDashboards.first (isRecordOf dashboardId)), ?_, ?_⟩
      · simp only [readOf, permitted, isOwn, ok_bind, hasItems]
        rfl
      · cases done
        refine ⟨rfl, rfl, rfl, fun _ => rfl, fun _ => rfl,
          lookup_setDashboard true present, ?_⟩
        intro id
        cases isFirst : tables.publishedDashboards.first (isRecordOf dashboardId) with
        | none =>
            rfl
        | some found =>
            exact lookup_setRecord .active (OrderedDict.lookup_first isFirst).1 id
  | unpublishDashboard actor dashboardId =>
      obtain ⟨user, permitted, rest⟩ := bind_eq_ok ran
      obtain ⟨dashboard, isOwn, done⟩ := bind_eq_ok rest
      have present := (ownedOr404_eq_ok isOwn).1
      refine ⟨.unpublishDashboard dashboardId dashboard
        (tables.publishedDashboards.first (isRecordOf dashboardId)), ?_, ?_⟩
      · simp only [readOf, permitted, isOwn]
        rfl
      · cases done
        refine ⟨rfl, rfl, rfl, fun _ => rfl, fun _ => rfl,
          lookup_setDashboard false present, ?_⟩
        intro id
        cases isFirst : tables.publishedDashboards.first (isRecordOf dashboardId) with
        | none =>
            rfl
        | some found =>
            exact lookup_setRecord .revoked (OrderedDict.lookup_first isFirst).1 id

end Alone

/-! ### Requests that overlap -/

def overlapTables : Publishing.State where
  organizations := ["a"]
  users := AList.insert "ana" ⟨"a", [.chartSave, .chartPublish]⟩ ∅
  connections := ∅
  charts := AList.insert "c" ⟨"ana", none, "SELECT 1", false⟩ ∅
  reports := ∅
  dashboards := AList.insert "d" ⟨"ana", "a", [⟨"i", "c"⟩], false⟩ ∅
  publishedDashboards := ∅

def overlapStart : State (Fin 2) where
  tables := overlapTables
  phase := fun _ => .ready

def overlapRun (labels : List (Label (Fin 2))) : State (Fin 2) :=
  ((system (Fin 2)).exec overlapStart labels).getD overlapStart

theorem agrees_draft {status : Option Bool}
    (isDraft : ∀ published, status = some published → published = false) :
    Agrees status ∅ := by
  refine ⟨?_, Set.subsingleton_empty⟩
  intro published isStatus
  simp [isDraft published isStatus]

theorem overlapStart_initial : (system (Fin 2)).initial overlapStart := by
  refine ⟨?_, ?_, ?_, fun _ => rfl⟩
  · intro chartId
    have noReport : overlapTables.reports.selected (isActiveFor chartId) = ∅ :=
      OrderedDict.selected_eq_empty_of_first rfl
    unfold ChartAgrees
    rw [show overlapStart.tables = overlapTables from rfl, noReport]
    refine agrees_draft ?_
    intro published isStatus
    obtain ⟨chart, present, rfl⟩ := Option.map_eq_some_iff.mp isStatus
    rcases OrderedDict.lookup_insert_cases present with ⟨_, rfl⟩ | ⟨_, older⟩
    · rfl
    · cases older
  · intro dashboardId
    have noRecord : overlapTables.publishedDashboards.selected
        (isActiveRecordOf dashboardId) = ∅ :=
      OrderedDict.selected_eq_empty_of_first rfl
    unfold DashboardAgrees
    rw [show overlapStart.tables = overlapTables from rfl, noRecord]
    refine agrees_draft ?_
    intro published isStatus
    obtain ⟨dashboard, present, rfl⟩ := Option.map_eq_some_iff.mp isStatus
    rcases OrderedDict.lookup_insert_cases present with ⟨_, rfl⟩ | ⟨_, older⟩
    · rfl
    · cases older
  · intro dashboardId
    have noRecord : overlapTables.publishedDashboards.selected
        (isRecordOf dashboardId) = ∅ :=
      OrderedDict.selected_eq_empty_of_first rfl
    unfold OneRecord
    rw [show overlapStart.tables = overlapTables from rfl, noRecord]
    exact Set.subsingleton_empty

def publishC : Call := .publishChart "ana" "c" .organization

/-- Two requests publish a chart that has no record yet. -/
def twiceSteps : List (Label (Fin 2)) :=
  [.read 0 publishC, .read 1 publishC, .commit 0 "r", .commit 1 "s"]

/-- A request withdraws what it has found, after the chart was withdrawn and
published again. -/
def withdrawnSteps : List (Label (Fin 2)) :=
  [.read 0 publishC, .commit 0 "r", .read 0 (.unpublishChart "ana" "c"),
    .read 1 (.unpublishChart "ana" "c"), .commit 1 "x", .read 1 publishC,
    .commit 1 "s", .commit 0 "y"]

/-- Two requests publish a dashboard that has no record yet. -/
def dashboardSteps : List (Label (Fin 2)) :=
  [.read 0 (.publishDashboard "ana" "d"), .read 1 (.publishDashboard "ana" "d"),
    .commit 0 "p", .commit 1 "q"]

def Settled (state : State (Fin 2)) : Prop :=
  ∀ request, state.phase request = .ready

theorem publications_disagree :
    ((system (Fin 2)).Reachable (overlapRun twiceSteps) ∧
        Settled (overlapRun twiceSteps) ∧
        ¬ ChartAgrees (overlapRun twiceSteps).tables "c") ∧
      ((system (Fin 2)).Reachable (overlapRun withdrawnSteps) ∧
        Settled (overlapRun withdrawnSteps) ∧
        ¬ ChartAgrees (overlapRun withdrawnSteps).tables "c") ∧
      ((system (Fin 2)).Reachable (overlapRun dashboardSteps) ∧
        Settled (overlapRun dashboardSteps) ∧
        ¬ DashboardAgrees (overlapRun dashboardSteps).tables "d") := by
  have reached : ∀ labels, (system (Fin 2)).exec overlapStart labels =
      some (overlapRun labels) → (system (Fin 2)).Reachable (overlapRun labels) :=
    fun labels executed =>
      TransitionSystem.reachable_of_exec labels overlapStart_initial executed
  refine ⟨⟨reached _ rfl, ?_, ?_⟩, ⟨reached _ rfl, ?_, ?_⟩, ⟨reached _ rfl, ?_, ?_⟩⟩
  · intro request
    match request with
    | 0 => rfl
    | 1 => rfl
  · intro agrees
    have first : "r" ∈ (overlapRun twiceSteps).tables.reports.selected
        (isActiveFor "c") := ⟨_, rfl, rfl⟩
    have second : "s" ∈ (overlapRun twiceSteps).tables.reports.selected
        (isActiveFor "c") := ⟨_, rfl, rfl⟩
    exact absurd (agrees.unique first second) (by decide)
  · intro request
    match request with
    | 0 => rfl
    | 1 => rfl
  · intro agrees
    have active : "s" ∈ (overlapRun withdrawnSteps).tables.reports.selected
        (isActiveFor "c") := ⟨_, rfl, rfl⟩
    exact absurd ((agrees.status false rfl).mpr ⟨"s", active⟩) (by decide)
  · intro request
    match request with
    | 0 => rfl
    | 1 => rfl
  · intro agrees
    have first : "p" ∈ (overlapRun dashboardSteps).tables.publishedDashboards.selected
        (isActiveRecordOf "d") := ⟨_, rfl, rfl⟩
    have second : "q" ∈
        (overlapRun dashboardSteps).tables.publishedDashboards.selected
          (isActiveRecordOf "d") := ⟨_, rfl, rfl⟩
    exact absurd (agrees.unique first second) (by decide)

/-- A chart and a dashboard are published at the same time; then the chart is withdrawn
while another request has found its record. -/
def inTimeSteps : List (Label (Fin 2)) :=
  [.read 0 publishC, .read 1 (.publishDashboard "ana" "d"), .commit 1 "p", .commit 0 "r",
    .read 0 publishC, .read 1 (.unpublishChart "ana" "c"), .commit 1 "x", .commit 0 "y"]

def admits (state : State (Fin 2)) : Label (Fin 2) → Bool
  | .read _ _ => true
  | .commit request _ =>
      match state.phase request with
      | .holding (.publishChart _ chartId _ _ _ none) =>
          (state.tables.reports.first (isActiveFor chartId)).isNone
      | .holding (.unpublishChart chartId _ revoked) =>
          (state.tables.reports.keysOf (isActiveFor chartId)).all (· ∈ revoked)
      | .holding (.publishDashboard _ dashboardId _ _ none) =>
          (state.tables.publishedDashboards.first (isRecordOf dashboardId)).isNone
      | _ => true

theorem commitsInTime_of_admits (state : State (Fin 2)) (label : Label (Fin 2))
    (admitted : admits state label = true) : CommitsInTime state label := by
  cases label with
  | read request call => trivial
  | commit request newId =>
      intro loaded holding
      simp only [admits, holding] at admitted
      cases loaded with
      | publishChart actor chartId visibility user chart report =>
          cases report with
          | none =>
              exact OrderedDict.selected_eq_empty_of_first (Option.isNone_iff_eq_none.mp admitted)
          | some found => trivial
      | unpublishChart chartId chart revoked =>
          intro _ id isActive
          have isKey := OrderedDict.mem_keysOf.mpr isActive
          exact of_decide_eq_true (List.all_eq_true.mp admitted id isKey)
      | publishDashboard actor dashboardId user dashboard record =>
          cases record with
          | none =>
              exact OrderedDict.selected_eq_empty_of_first (Option.isNone_iff_eq_none.mp admitted)
          | some found => trivial
      | unpublishDashboard dashboardId dashboard record => trivial

/-- The dashboard stays published, and the chart is withdrawn. -/
theorem publications_agree_inTime :
    (chartStatus (overlapRun inTimeSteps).tables "c" = some false ∧
      dashboardStatus (overlapRun inTimeSteps).tables "d" = some true) ∧
    (∀ chartId, ChartAgrees (overlapRun inTimeSteps).tables chartId) ∧
      ∀ dashboardId, DashboardAgrees (overlapRun inTimeSteps).tables dashboardId := by
  have run : (system (Fin 2)).Reaches CommitsInTime overlapStart (overlapRun inTimeSteps) :=
    TransitionSystem.reaches_of_execIf commitsInTime_of_admits inTimeSteps
      (by decide +kernel)
  refine ⟨by decide +kernel, ?_⟩
  exact publications_agree (Fin 2) _ ⟨overlapStart, overlapStart_initial, run⟩

end DbBuddy.Publishing.Publication
