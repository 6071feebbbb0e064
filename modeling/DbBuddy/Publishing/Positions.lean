import Mathlib.Data.List.Dedup
import DbBuddy.Library.Ranks
import DbBuddy.Publishing.References

/-!
# Positions of dashboard items

Each item of a dashboard carries its position, and a dashboard is shown in their
order.  Pinning counts the items, unpinning and reordering number them through; the
deletion of a chart takes its items and leaves the positions of the others.
-/

namespace DbBuddy.Publishing.Positions

open DbBuddy.Library

/-! ## The operations -/

/-- The tables, and the position of each item. -/
structure State where
  tables : Publishing.State
  position : String → ℕ

/-- `Dashboard.items`, ordered by `DashboardItem.position`. -/
def State.shown (state : State) (dashboard : Dashboard) : List DashboardItem :=
  inOrder (fun item => state.position item.id) dashboard.items

def itemIds (items : List DashboardItem) : List String :=
  items.map DashboardItem.id

def notExactly : HttpError :=
  ⟨400, "The submitted order must list exactly this dashboard's items, once each."⟩

/-- `reorder`: the submitted list is compared with the set of the items, its length as
well as its members. -/
def reorder (state : State) (actor dashboardId : String) (submitted : List String) :
    Except HttpError State := do
  let _ ← requirePermission state.tables actor .chartSave
  let dashboard ← ownedOr404 state.tables dashboardId actor
  let current := (itemIds dashboard.items).dedup
  check (submitted.length = current.length ∧ submitted ⊆ current ∧
    current ⊆ submitted) notExactly
  return { state with position := assignRanks state.position submitted 0 }

/-- `position=len(d.items)`, unless the chart is pinned already. -/
def pinned (state : State) (dashboardId itemId chartId : String) : String → ℕ :=
  match state.tables.dashboards.lookup dashboardId with
  | some dashboard =>
      if dashboard.items.any fun item => decide (item.chartId = chartId) then
        state.position
      else Function.update state.position itemId dashboard.items.length
  | none => state.position

/-- `for index, remaining in enumerate(d.items): remaining.position = index` -/
def unpinned (state : State) (dashboardId itemId : String) : String → ℕ :=
  match state.tables.dashboards.lookup dashboardId with
  | some dashboard =>
      let remaining := (state.shown dashboard).eraseP fun item =>
        decide (item.id = itemId)
      assignRanks state.position (itemIds remaining) 0
  | none => state.position

def positionAfter (state : State) : Publishing.Label → String → ℕ
  | .pinChart _ dashboardId itemId chartId => pinned state dashboardId itemId chartId
  | .unpinChart _ dashboardId itemId => unpinned state dashboardId itemId
  | _ => state.position

/-- The identifier of a new item is that of no item. -/
def freshItem (state : State) : Publishing.Label → Bool
  | .pinChart _ _ itemId _ =>
      (state.tables.dashboards.first fun dashboard =>
        decide (itemId ∈ itemIds dashboard.items)).isNone
  | _ => true

inductive Label where
  | platform (label : Publishing.Label)
  | reorder (actor dashboardId : String) (submitted : List String)
  | deleteAllCharts (actor : String)

def step (env : Environment) (state : State) : Label → Option State
  | .platform label =>
      if freshItem state label then
        (Publishing.step env state.tables label).map fun tables =>
          { tables := tables, position := positionAfter state label }
      else none
  | .reorder actor dashboardId submitted =>
      (Positions.reorder state actor dashboardId submitted).toOption
  | .deleteAllCharts actor =>
      (Publishing.deleteAllCharts state.tables actor).toOption.map fun tables =>
        { state with tables := tables }

def system (env : Environment) : TransitionSystem State Label where
  initial := fun state => Initial state.tables
  step := step env

/-! ## The law and when it holds -/

/-- The positions are `0, …, n - 1` in the order shown. -/
def Dense (state : State) : Prop :=
  ∀ dashboardId dashboard, state.tables.dashboards.lookup dashboardId = some dashboard →
    (state.shown dashboard).map (fun item => state.position item.id) =
      List.range dashboard.items.length

/-- Whatever is submitted, a reorder keeps every dashboard's items. -/
def ReorderKeeps (state : State) : Prop :=
  ∀ actor dashboardId submitted next,
    reorder state actor dashboardId submitted = .ok next →
    ∀ id dashboard, next.tables.dashboards.lookup id = some dashboard →
      ∃ old, state.tables.dashboards.lookup id = some old ∧
        (next.shown dashboard).Perm (state.shown old)

/-- A chart that is deleted stands last in every dashboard that shows it. -/
def DeletesLast (state : State) : Label → Prop
  | .platform (.deleteChart _ chartId) =>
      ∀ dashboardId dashboard,
        state.tables.dashboards.lookup dashboardId = some dashboard →
        ((state.shown dashboard).filter fun item =>
          decide (item.chartId ≠ chartId)) <+: state.shown dashboard
  | _ => True

/-! ## What the other endpoints do to the items -/

/-- A dashboard has the items and the owner it had, or is empty; and the charts of
its items are still its owner's. -/
structure KeepsItems (tables next : Publishing.State) : Prop where
  items : ∀ id dashboard, next.dashboards.lookup id = some dashboard →
    dashboard.items = [] ∨ ∃ old, tables.dashboards.lookup id = some old ∧
      dashboard.items = old.items ∧ dashboard.userId = old.userId
  charts : ∀ id dashboard chartId, next.dashboards.lookup id = some dashboard →
    Owned SavedChart.userId tables.charts chartId dashboard.userId →
    Owned SavedChart.userId next.charts chartId dashboard.userId

/-- The labels that change the items of a dashboard. -/
def changesItems : Publishing.Label → Bool
  | .pinChart _ _ _ _ => true
  | .unpinChart _ _ _ => true
  | .deleteChart _ _ => true
  | _ => false

section Keeping

variable {tables next : Publishing.State}

theorem keepsItems_of_same (sameDashboards : next.dashboards = tables.dashboards)
    (sameCharts : next.charts = tables.charts) : KeepsItems tables next := by
  constructor
  · intro id dashboard present
    rw [sameDashboards] at present
    exact Or.inr ⟨dashboard, present, rfl, rfl⟩
  · intro id dashboard chartId _ owned
    rwa [sameCharts]

theorem keepsItems_setChart {id : String} {chart : SavedChart}
    {reports : Table PublishedReport}
    (same : ∀ old, tables.charts.lookup id = some old →
      old.userId = chart.userId) :
    KeepsItems tables { tables with
      reports := reports
      charts := tables.charts.insert id chart } := by
  constructor
  · intro other dashboard present
    exact Or.inr ⟨dashboard, present, rfl, rfl⟩
  · intro other dashboard chartId _ owned
    exact owned.insert same

theorem keepsItems_setDashboard {id : String} {dashboard changed : Dashboard}
    {records : Table PublishedDashboard}
    (present : tables.dashboards.lookup id = some dashboard)
    (sameItems : changed.items = dashboard.items)
    (sameOwner : changed.userId = dashboard.userId) :
    KeepsItems tables { tables with
      publishedDashboards := records
      dashboards := tables.dashboards.insert id changed } := by
  constructor
  · intro other found isFound
    rcases OrderedDict.lookup_insert_cases isFound with ⟨rfl, rfl⟩ | ⟨_, older⟩
    · exact Or.inr ⟨dashboard, present, sameItems, sameOwner⟩
    · exact Or.inr ⟨found, older, rfl, rfl⟩
  · intro other found chartId _ owned
    exact owned

theorem keepsItems_deleteUser {userId : String} :
    KeepsItems tables { purgeUserOwnedData tables userId with
      users := tables.users.erase userId } := by
  constructor
  · intro id dashboard present
    exact Or.inr ⟨dashboard, (OrderedDict.lookup_keepIf present).1, rfl, rfl⟩
  · intro id dashboard chartId present owned
    obtain ⟨_, kept⟩ := OrderedDict.lookup_keepIf present
    refine owned.keepIf ?_
    intro chart isChart
    obtain ⟨found, isFound, isOwner⟩ := owned
    cases isChart.symm.trans isFound
    exact decide_eq_true (isOwner ▸ of_decide_eq_true kept)

theorem keepsItems_step {env : Environment} {label : Publishing.Label}
    (other : changesItems label = false)
    (stepped : Publishing.step env tables label = some next) :
    KeepsItems tables next := by
  cases label with
  | pinChart actor dashboardId itemId chartId =>
      cases other
  | unpinChart actor dashboardId itemId =>
      cases other
  | deleteChart actor chartId =>
      cases other
  | createConnection actor id target password =>
      obtain ⟨_, ran⟩ := Option.ite_none_right_eq_some.mp stepped
      obtain ⟨user, conn, isUser, isOwner, rfl⟩ :=
        createConnection_eq_ok (toOption_eq_some ran)
      exact keepsItems_of_same rfl rfl
  | updateConnection actor id req =>
      obtain ⟨user, conn, isUser, isOwner, rfl⟩ :=
        updateConnection_eq_ok (toOption_eq_some stepped)
      exact keepsItems_of_same rfl rfl
  | deleteConnection actor id =>
      obtain ⟨user, conn, isUser, isConn, isOwner, rfl⟩ :=
        deleteConnection_eq_ok (toOption_eq_some stepped)
      exact keepsItems_of_same rfl rfl
  | createChart actor id req =>
      obtain ⟨fresh, ran⟩ := Option.ite_none_right_eq_some.mp stepped
      obtain ⟨user, isUser, rfl⟩ := createChart_eq_ok (toOption_eq_some ran)
      simp only [freshChart, unused, Bool.and_eq_true,
        Option.isNone_iff_eq_none] at fresh
      refine keepsItems_setChart ?_
      intro old isOld
      rw [fresh.1.1] at isOld
      cases isOld
  | publishChart actor chartId reportId visibility =>
      obtain ⟨_, ran⟩ := Option.ite_none_right_eq_some.mp stepped
      obtain ⟨user, chart, reports, isUser, isChart, isOwner, _, rfl⟩ :=
        publishChart_eq_ok (toOption_eq_some ran)
      refine keepsItems_setChart ?_
      intro old isOld
      cases isChart.symm.trans isOld
      rfl
  | unpublishChart actor chartId =>
      obtain ⟨user, chart, isUser, isChart, isOwner, rfl⟩ :=
        unpublishChart_eq_ok (toOption_eq_some stepped)
      refine keepsItems_setChart ?_
      intro old isOld
      cases isChart.symm.trans isOld
      rfl
  | createDashboard actor id =>
      obtain ⟨_, ran⟩ := Option.ite_none_right_eq_some.mp stepped
      obtain ⟨user, isUser, rfl⟩ := createDashboard_eq_ok (toOption_eq_some ran)
      constructor
      · intro other found isFound
        rcases OrderedDict.lookup_insert_cases isFound with ⟨_, rfl⟩ | ⟨_, older⟩
        · exact Or.inl rfl
        · exact Or.inr ⟨found, older, rfl, rfl⟩
      · intro other found chartId _ owned
        exact owned
  | deleteDashboard actor id =>
      obtain ⟨user, dashboard, isUser, isDashboard, isOwner, rfl⟩ :=
        deleteDashboard_eq_ok (toOption_eq_some stepped)
      constructor
      · intro other found isFound
        exact Or.inr ⟨found, (OrderedDict.lookup_erase_cases isFound).2, rfl, rfl⟩
      · intro other found chartId _ owned
        exact owned
  | publishDashboard actor dashboardId recordId =>
      obtain ⟨_, ran⟩ := Option.ite_none_right_eq_some.mp stepped
      obtain ⟨user, dashboard, records, isUser, isDashboard, isOwner, _, rfl⟩ :=
        publishDashboard_eq_ok (toOption_eq_some ran)
      exact keepsItems_setDashboard isDashboard rfl rfl
  | unpublishDashboard actor dashboardId =>
      obtain ⟨user, dashboard, records, isUser, isDashboard, isOwner, _, rfl⟩ :=
        unpublishDashboard_eq_ok (toOption_eq_some stepped)
      exact keepsItems_setDashboard isDashboard rfl rfl
  | createOrg actor id =>
      obtain ⟨user, isUser, rfl⟩ := createOrg_eq_ok (toOption_eq_some stepped)
      exact keepsItems_of_same rfl rfl
  | createUser actor id permissions organizationId =>
      obtain ⟨_, ran⟩ := Option.ite_none_right_eq_some.mp stepped
      obtain ⟨user, created, isUser, rfl⟩ := createUser_eq_ok (toOption_eq_some ran)
      exact keepsItems_of_same rfl rfl
  | register id organizationId permissions =>
      obtain ⟨_, ran⟩ := Option.ite_none_right_eq_some.mp stepped
      cases toOption_eq_some ran
      exact keepsItems_of_same rfl rfl
  | updateUser actor userId permissions organizationId =>
      obtain ⟨user, target, changed, isUser, isTarget, _, rfl⟩ :=
        updateUser_eq_ok (toOption_eq_some stepped)
      exact keepsItems_of_same rfl rfl
  | deleteUser actor userId =>
      obtain ⟨user, target, isUser, isTarget, different, rfl⟩ :=
        deleteUser_eq_ok (toOption_eq_some stepped)
      exact keepsItems_deleteUser
  | runReport actor reportId =>
      obtain ⟨_, _, rfl⟩ := Option.map_eq_some_iff.mp stepped
      exact keepsItems_of_same rfl rfl
  | runDashboard actor dashboardId =>
      obtain ⟨_, _, rfl⟩ := Option.map_eq_some_iff.mp stepped
      exact keepsItems_of_same rfl rfl

end Keeping

/-! ## The invariant -/

/-- Every dashboard is ranked; an item is in one dashboard, and its chart is that of
the dashboard's owner. -/
structure Sound (state : State) : Prop where
  ranked : ∀ id dashboard, state.tables.dashboards.lookup id = some dashboard →
    Ranked (fun item => state.position item.id) dashboard.items
  nodup : ∀ id dashboard, state.tables.dashboards.lookup id = some dashboard →
    (itemIds dashboard.items).Nodup
  apart : ∀ first second dashboard other itemId,
    state.tables.dashboards.lookup first = some dashboard →
    state.tables.dashboards.lookup second = some other →
    itemId ∈ itemIds dashboard.items → itemId ∈ itemIds other.items →
    first = second
  owned : ∀ id dashboard item,
    state.tables.dashboards.lookup id = some dashboard →
    item ∈ dashboard.items →
    Owned SavedChart.userId state.tables.charts item.chartId dashboard.userId

theorem mem_itemIds {items : List DashboardItem} {item : DashboardItem}
    (isItem : item ∈ items) : item.id ∈ itemIds items :=
  List.mem_map.mpr ⟨item, isItem, rfl⟩

theorem sound_initial {state : State} (isInitial : Initial state.tables) :
    Sound state := by
  obtain ⟨_, _, _, noDashboards, _⟩ := isInitial
  constructor
  · intro id dashboard present
    simp [noDashboards] at present
  · intro id dashboard present
    simp [noDashboards] at present
  · intro first second dashboard other itemId present
    simp [noDashboards] at present
  · intro id dashboard item present
    simp [noDashboards] at present

section Steps

variable {state : State} {next : Publishing.State} {env : Environment} {actor : String}

theorem Sound.dense (sound : Sound state) : Dense state :=
  fun id dashboard present => ranked_iff.mp (sound.ranked id dashboard present)

theorem Sound.keeps (sound : Sound state) (kept : KeepsItems state.tables next) :
    Sound ⟨next, state.position⟩ := by
  constructor
  · intro id dashboard present
    rcases kept.items id dashboard present with empty | ⟨old, wasThere, same, _⟩
    · rw [empty]
      exact ranked_nil
    · rw [same]
      exact sound.ranked id old wasThere
  · intro id dashboard present
    rcases kept.items id dashboard present with empty | ⟨old, wasThere, same, _⟩
    · simp [empty, itemIds]
    · rw [same]
      exact sound.nodup id old wasThere
  · intro first second dashboard other itemId isFirst isSecond inFirst inSecond
    rcases kept.items first dashboard isFirst with empty | ⟨old, wasThere, same, _⟩
    · simp [empty, itemIds] at inFirst
    rcases kept.items second other isSecond with empty | ⟨old', wasThere', same', _⟩
    · simp [empty, itemIds] at inSecond
    rw [same] at inFirst
    rw [same'] at inSecond
    exact sound.apart first second old old' itemId wasThere wasThere' inFirst inSecond
  · intro id dashboard item present isItem
    rcases kept.items id dashboard present with empty | ⟨old, wasThere, same, owner⟩
    · simp [empty] at isItem
    refine kept.charts id dashboard item.chartId present ?_
    rw [owner]
    exact sound.owned id old item wasThere (same ▸ isItem)

/-- A dashboard is written over, with items of its own or new ones; the positions of
all other items stay. -/
theorem Sound.setItems (sound : Sound state) {id : String}
    {dashboard : Dashboard} {items : List DashboardItem} {position : String → ℕ}
    (present : state.tables.dashboards.lookup id = some dashboard)
    (ranked : Ranked (fun item => position item.id) items)
    (nodup : (itemIds items).Nodup)
    (fromHere : ∀ itemId ∈ itemIds items, ∀ other board,
      state.tables.dashboards.lookup other = some board →
      itemId ∈ itemIds board.items → other = id)
    (stay : ∀ other board, other ≠ id →
      state.tables.dashboards.lookup other = some board →
      ∀ item ∈ board.items, position item.id = state.position item.id)
    (owned : ∀ item ∈ items,
      Owned SavedChart.userId state.tables.charts item.chartId dashboard.userId) :
    Sound
      { tables := { state.tables with
          dashboards := state.tables.dashboards.insert id
            { dashboard with items := items } }
        position := position } := by
  constructor
  · intro other found isFound
    rcases OrderedDict.lookup_insert_cases isFound with ⟨_, rfl⟩ | ⟨different, older⟩
    · exact ranked
    · exact (sound.ranked other found older).congr (stay other found different older)
  · intro other found isFound
    rcases OrderedDict.lookup_insert_cases isFound with ⟨_, rfl⟩ | ⟨_, older⟩
    · exact nodup
    · exact sound.nodup other found older
  · intro first second board board' itemId isFirst isSecond inFirst inSecond
    rcases OrderedDict.lookup_insert_cases isFirst with ⟨rfl, rfl⟩ | ⟨_, older⟩
    · rcases OrderedDict.lookup_insert_cases isSecond with ⟨rfl, rfl⟩ | ⟨_, older'⟩
      · rfl
      · exact (fromHere itemId inFirst second board' older' inSecond).symm
    · rcases OrderedDict.lookup_insert_cases isSecond with ⟨rfl, rfl⟩ | ⟨_, older'⟩
      · exact fromHere itemId inSecond first board older inFirst
      · exact sound.apart first second board board' itemId older older' inFirst inSecond
  · intro other found item isFound isItem
    rcases OrderedDict.lookup_insert_cases isFound with ⟨_, rfl⟩ | ⟨_, older⟩
    · exact owned item isItem
    · exact sound.owned other found item older isItem

theorem sound_pinChart {dashboardId itemId chartId : String} (sound : Sound state)
    (fresh : freshItem state (.pinChart actor dashboardId itemId chartId) = true)
    (ran : pinChart state.tables actor dashboardId itemId chartId = .ok next) :
    Sound ⟨next, pinned state dashboardId itemId chartId⟩ := by
  obtain ⟨user, dashboard, chart, isUser, isDashboard, isOwner, isChart, chartOwner,
    written⟩ := pinChart_eq_ok ran
  have new : ∀ other board, state.tables.dashboards.lookup other = some board →
      itemId ∉ itemIds board.items := by
    intro other board present isIn
    have absent := OrderedDict.first_eq_none (Option.isNone_iff_eq_none.mp fresh) present
    exact absent (decide_eq_true isIn)
  rcases written with ⟨isPinned, rfl⟩ | ⟨notPinned, rfl⟩
  · have same : pinned state dashboardId itemId chartId = state.position := by
      simp only [pinned, isDashboard, isPinned, if_true]
    rw [same]
    exact sound
  · have counted : pinned state dashboardId itemId chartId =
        Function.update state.position itemId dashboard.items.length := by
      simp only [pinned, isDashboard, notPinned, Bool.false_eq_true, if_false]
    have old : ∀ other board, state.tables.dashboards.lookup other = some board →
        ∀ item ∈ board.items,
          Function.update state.position itemId dashboard.items.length item.id =
            state.position item.id := by
      intro other board present item isItem
      refine Function.update_of_ne ?_ _ _
      intro same
      exact new other board present (same ▸ mem_itemIds isItem)
    rw [counted]
    refine sound.setItems isDashboard ?_ ?_ ?_ ?_ ?_
    · refine Ranked.append ?_ (Function.update_self _ _ _)
      exact (sound.ranked dashboardId dashboard isDashboard).congr
        (old dashboardId dashboard isDashboard)
    · simp only [itemIds, List.map_append, List.map_singleton]
      refine List.nodup_append.mpr
        ⟨sound.nodup dashboardId dashboard isDashboard, by simp, ?_⟩
      intro id isOld other isNew same
      cases List.mem_singleton.mp isNew
      exact new dashboardId dashboard isDashboard (same ▸ isOld)
    · intro id isId other board present isIn
      simp only [itemIds, List.map_append, List.map_singleton, List.mem_append,
        List.mem_singleton] at isId
      rcases isId with older | rfl
      · exact sound.apart other dashboardId board dashboard id present isDashboard isIn
          older
      · exact absurd isIn (new other board present)
    · intro other board _ present
      exact old other board present
    · intro item isItem
      rcases List.mem_append.mp isItem with older | isNew
      · exact sound.owned dashboardId dashboard item isDashboard older
      · cases List.mem_singleton.mp isNew
        exact ⟨chart, isChart, chartOwner.trans isOwner.symm⟩

/-- Positions given anew to items of one dashboard leave those of the others. -/
theorem stay_of_assigned {ids : List String} {dashboardId : String}
    {dashboard : Dashboard} (sound : Sound state)
    (present : state.tables.dashboards.lookup dashboardId = some dashboard)
    (theirs : ∀ id ∈ ids, id ∈ itemIds dashboard.items) :
    ∀ other board, other ≠ dashboardId →
      state.tables.dashboards.lookup other = some board →
      ∀ item ∈ board.items,
        assignRanks state.position ids 0 item.id = state.position item.id := by
  intro other board different isOther item isItem
  refine assignRanks_of_notMem ?_ state.position 0
  intro isAssigned
  exact different (sound.apart other dashboardId board dashboard item.id isOther present
    (mem_itemIds isItem) (theirs item.id isAssigned))

theorem sound_unpinChart {dashboardId itemId : String} (sound : Sound state)
    (ran : unpinChart state.tables actor dashboardId itemId = .ok next) :
    Sound ⟨next, unpinned state dashboardId itemId⟩ := by
  obtain ⟨user, dashboard, isUser, isDashboard, isOwner, rfl⟩ := unpinChart_eq_ok ran
  have nodup := sound.nodup dashboardId dashboard isDashboard
  have numbered : unpinned state dashboardId itemId =
      assignRanks state.position (itemIds ((state.shown dashboard).eraseP
        fun item => decide (item.id = itemId))) 0 := by
    simp only [unpinned, isDashboard]
  have shownPerm : (state.shown dashboard).Perm dashboard.items :=
    inOrder_perm _ dashboard.items
  -- At most one item has the identifier, so either list loses the same one.
  have alone : dashboard.items.Pairwise fun first second =>
      decide (first.id = itemId) = true → ¬ decide (second.id = itemId) = true := by
    have different := List.pairwise_map.mp nodup
    refine different.imp ?_
    intro first second distinct isFirst isSecond
    simp only [decide_eq_true_eq] at isFirst isSecond
    exact distinct (isFirst.trans isSecond.symm)
  have remaining : (dashboard.items.eraseP fun item => decide (item.id = itemId)).Perm
      ((state.shown dashboard).eraseP fun item => decide (item.id = itemId)) :=
    List.Perm.eraseP _ alone shownPerm.symm
  have remainingNodup : (itemIds (dashboard.items.eraseP
      fun item => decide (item.id = itemId))).Nodup :=
    nodup.sublist (List.eraseP_sublist.map _)
  have remainingIds := remaining.map DashboardItem.id
  rw [numbered]
  refine sound.setItems isDashboard ?_ remainingNodup ?_ ?_ ?_
  · exact ranked_assignRanks (remainingIds.nodup_iff.mp remainingNodup) remainingIds
      state.position
  · intro id isId other board present isIn
    refine sound.apart other dashboardId board dashboard id present isDashboard isIn ?_
    exact (List.eraseP_sublist.map _).subset isId
  · refine stay_of_assigned sound isDashboard ?_
    intro id isId
    exact (List.eraseP_sublist.map _).subset (remainingIds.mem_iff.mpr isId)
  · intro item isItem
    exact sound.owned dashboardId dashboard item isDashboard (List.mem_of_mem_eraseP isItem)

/-- What is submitted is an arrangement of the dashboard's items. -/
theorem reorder_eq_ok {dashboardId : String} {submitted : List String}
    {after : State} (ran : reorder state actor dashboardId submitted = .ok after) :
    ∃ dashboard, state.tables.dashboards.lookup dashboardId = some dashboard ∧
      submitted.Perm (itemIds dashboard.items).dedup ∧
      after = { state with position := assignRanks state.position submitted 0 } := by
  obtain ⟨user, _, rest⟩ := bind_eq_ok ran
  obtain ⟨dashboard, isOwn, rest⟩ := bind_eq_ok rest
  obtain ⟨_, passed, done⟩ := bind_eq_ok rest
  cases done
  obtain ⟨sameLength, _, included⟩ := check_eq_ok passed
  have fewer : List.Subperm (itemIds dashboard.items).dedup submitted :=
    List.subperm_of_subset (List.nodup_dedup _) included
  exact ⟨dashboard, (ownedOr404_eq_ok isOwn).1,
    (fewer.perm_of_length_le sameLength.le).symm, rfl⟩

theorem sound_reorder {dashboardId : String} {submitted : List String} {after : State}
    (sound : Sound state)
    (ran : reorder state actor dashboardId submitted = .ok after) : Sound after := by
  obtain ⟨dashboard, isDashboard, arranged, rfl⟩ := reorder_eq_ok ran
  have nodup := sound.nodup dashboardId dashboard isDashboard
  rw [List.dedup_eq_self.mpr nodup] at arranged
  have stay := stay_of_assigned sound isDashboard
    (fun id isId => arranged.mem_iff.mp isId)
  refine ⟨?_, sound.nodup, sound.apart, sound.owned⟩
  intro id found isFound
  by_cases same : id = dashboardId
  · subst id
    cases isDashboard.symm.trans isFound
    exact ranked_assignRanks (arranged.nodup_iff.mpr nodup) arranged.symm state.position
  · exact (sound.ranked id found isFound).congr (stay id found same isFound)

/-- A reorder changes positions and nothing else, in any state. -/
theorem reorderKeeps (state : State) : ReorderKeeps state := by
  intro actor dashboardId submitted after ran id dashboard present
  obtain ⟨_, _, _, rfl⟩ := reorder_eq_ok ran
  refine ⟨dashboard, present, ?_⟩
  exact (inOrder_perm _ dashboard.items).trans (inOrder_perm _ dashboard.items).symm

/-- Items are dropped from every dashboard, and their charts may be gone. -/
theorem Sound.dropItems (sound : Sound state) {keep : DashboardItem → Bool}
    {charts : Table SavedChart}
    (ranked : ∀ id dashboard, state.tables.dashboards.lookup id = some dashboard →
      Ranked (fun item => state.position item.id) (dashboard.items.filter keep))
    (stay : ∀ item chart, keep item = true →
      state.tables.charts.lookup item.chartId = some chart →
      charts.lookup item.chartId = some chart) :
    Sound
      { tables := { state.tables with
          charts := charts
          dashboards := state.tables.dashboards.updateAll (fun _ => true)
            fun dashboard => { dashboard with items := dashboard.items.filter keep } }
        position := state.position } := by
  have older : ∀ {id : String} {dashboard : Dashboard},
      (state.tables.dashboards.updateAll (fun _ => true) fun dashboard =>
        { dashboard with items := dashboard.items.filter keep }).lookup id =
          some dashboard →
      ∃ old, state.tables.dashboards.lookup id = some old ∧
        dashboard = { old with items := old.items.filter keep } := by
    intro id dashboard present
    obtain ⟨old, wasThere, rfl⟩ := OrderedDict.lookup_updateAll present
    exact ⟨old, wasThere, rfl⟩
  have fewer : ∀ items : List DashboardItem,
      (itemIds (items.filter keep)).Sublist (itemIds items) :=
    fun items => List.filter_sublist.map _
  constructor
  · intro id dashboard present
    obtain ⟨old, wasThere, rfl⟩ := older present
    exact ranked id old wasThere
  · intro id dashboard present
    obtain ⟨old, wasThere, rfl⟩ := older present
    exact (sound.nodup id old wasThere).sublist (fewer old.items)
  · intro first second dashboard other itemId isFirst isSecond inFirst inSecond
    obtain ⟨old, wasThere, rfl⟩ := older isFirst
    obtain ⟨old', wasThere', rfl⟩ := older isSecond
    exact sound.apart first second old old' itemId wasThere wasThere'
      ((fewer old.items).subset inFirst) ((fewer old'.items).subset inSecond)
  · intro id dashboard item present isItem
    obtain ⟨old, wasThere, rfl⟩ := older present
    obtain ⟨wasItem, isKept⟩ := List.mem_filter.mp isItem
    obtain ⟨chart, isChart, isOwner⟩ := sound.owned id old item wasThere wasItem
    exact ⟨chart, stay item chart isKept isChart, isOwner⟩

theorem sound_deleteChart {chartId : String} (sound : Sound state)
    (last : DeletesLast state (.platform (.deleteChart actor chartId)))
    (ran : deleteChart state.tables actor chartId = .ok next) :
    Sound ⟨next, state.position⟩ := by
  obtain ⟨user, chart, isUser, isChart, isOwner, rfl⟩ := deleteChart_eq_ok ran
  refine sound.dropItems ?_ ?_
  · intro id dashboard present
    exact (sound.ranked id dashboard present).filter (last id dashboard present)
  · intro item found isKept isFound
    rwa [AList.lookup_erase_ne (of_decide_eq_true isKept)]

/-- A dashboard loses all its items, or none: its charts are its owner's. -/
theorem sound_deleteAllCharts (sound : Sound state)
    (ran : deleteAllCharts state.tables actor = .ok next) :
    Sound ⟨next, state.position⟩ := by
  obtain ⟨_, _, done⟩ := bind_eq_ok ran
  cases done
  refine sound.dropItems ?_ ?_
  · intro id dashboard present
    by_cases isActor : dashboard.userId = actor
    · have none : (dashboard.items.filter fun item =>
          !(state.tables.charts.lookup item.chartId).any
            fun chart => decide (chart.userId = actor)) = [] := by
        refine List.filter_eq_nil_iff.mpr ?_
        intro item isItem
        obtain ⟨chart, isChart, isOwner⟩ := sound.owned id dashboard item present isItem
        simp [isChart, isOwner.trans isActor]
      rw [none]
      exact ranked_nil
    · have all : (dashboard.items.filter fun item =>
          !(state.tables.charts.lookup item.chartId).any
            fun chart => decide (chart.userId = actor)) = dashboard.items := by
        refine List.filter_eq_self.mpr ?_
        intro item isItem
        obtain ⟨chart, isChart, isOwner⟩ := sound.owned id dashboard item present isItem
        simp [isChart, isOwner, isActor]
      rw [all]
      exact sound.ranked id dashboard present
  · intro item chart isKept isChart
    refine OrderedDict.lookup_keepIf_eq_some isChart ?_
    simpa [isChart] using isKept

theorem sound_step {label : Label} {after : State} (sound : Sound state)
    (last : DeletesLast state label) (stepped : step env state label = some after) :
    Sound after := by
  cases label with
  | platform label =>
      obtain ⟨fresh, moved⟩ := Option.ite_none_right_eq_some.mp stepped
      obtain ⟨tables, ran, rfl⟩ := Option.map_eq_some_iff.mp moved
      by_cases changes : changesItems label = true
      · cases label with
        | pinChart actor dashboardId itemId chartId =>
            exact sound_pinChart sound fresh (toOption_eq_some ran)
        | unpinChart actor dashboardId itemId =>
            exact sound_unpinChart sound (toOption_eq_some ran)
        | deleteChart actor chartId =>
            exact sound_deleteChart sound last (toOption_eq_some ran)
        | _ => cases changes
      · have other : changesItems label = false := by simpa using changes
        have same : positionAfter state label = state.position := by
          cases label with
          | pinChart actor dashboardId itemId chartId => cases other
          | unpinChart actor dashboardId itemId => cases other
          | _ => rfl
        rw [same]
        exact sound.keeps (keepsItems_step other ran)
  | reorder actor dashboardId submitted =>
      exact sound_reorder sound (toOption_eq_some stepped)
  | deleteAllCharts actor =>
      obtain ⟨tables, ran, rfl⟩ := Option.map_eq_some_iff.mp stepped
      exact sound_deleteAllCharts sound (toOption_eq_some ran)

end Steps

/-- In every state that a run reaches whose deleted charts stood last, the positions
of every dashboard are dense; and a reorder keeps every item, whatever is
submitted. -/
theorem positions_dense (env : Environment) (state : State)
    (reachable : (system env).ReachableUnder DeletesLast state) :
    Dense state ∧ ReorderKeeps state := by
  have sound : Sound state := reachable.invariant Sound
    (fun _ isInitial => sound_initial isInitial)
    (fun _ _ _ holds last stepped => sound_step holds last stepped)
  exact ⟨sound.dense, reorderKeeps state⟩

/-! ### A gap that stays open -/

def boardEnv : Environment where
  encrypt := fun password => password
  decrypt := some
  isRead := fun _ => true

def boardStart : State where
  tables :=
    { organizations := ["a"]
      users := AList.insert "ana" ⟨"a", [.chartSave, .chartPublish]⟩ ∅
      connections := ∅
      charts := ∅
      reports := ∅
      dashboards := ∅
      publishedDashboards := ∅ }
  position := fun _ => 0

def boardRun (labels : List Label) : State :=
  ((system boardEnv).exec boardStart labels).getD boardStart

theorem boardRun_reachable {guard : State → Label → Prop} {labels : List Label}
    (allowed : ∀ label ∈ labels, ∀ state, guard state label)
    (executed : ((system boardEnv).exec boardStart labels).isSome = true) :
    (system boardEnv).ReachableUnder guard (boardRun labels) :=
  ⟨boardStart, ⟨rfl, rfl, rfl, rfl, rfl⟩,
    TransitionSystem.reaches_of_exec_allowed labels allowed
      (TransitionSystem.exec_eq_getD executed)⟩

/-- Three charts on one dashboard. -/
def pinSteps : List Label :=
  [.platform (.createChart "ana" "x" ⟨none, "SELECT 1"⟩),
    .platform (.createChart "ana" "y" ⟨none, "SELECT 2"⟩),
    .platform (.createChart "ana" "z" ⟨none, "SELECT 3"⟩),
    .platform (.createDashboard "ana" "d"),
    .platform (.pinChart "ana" "d" "i" "x"),
    .platform (.pinChart "ana" "d" "j" "y"),
    .platform (.pinChart "ana" "d" "k" "z")]

/-- The first of the charts is deleted. -/
def gapSteps : List Label :=
  pinSteps ++ [.platform (.deleteChart "ana" "x")]

/-- Another chart is pinned into what is left. -/
def clashSteps : List Label :=
  gapSteps ++ [.platform (.createChart "ana" "w" ⟨none, "SELECT 4"⟩),
    .platform (.pinChart "ana" "d" "l" "w")]

/-- The positions of a dashboard, in the order shown. -/
def positionsOf (state : State) (dashboardId : String) : Option (List ℕ) :=
  (state.tables.dashboards.lookup dashboardId).map fun dashboard =>
    (state.shown dashboard).map fun item => state.position item.id

theorem Dense.positionsOf {state : State} {dashboardId : String} {places : List ℕ}
    (dense : Dense state) (shown : positionsOf state dashboardId = some places) :
    places = List.range places.length := by
  obtain ⟨dashboard, present, rfl⟩ := Option.map_eq_some_iff.mp shown
  have ranks := dense dashboardId dashboard present
  have sameLength := congrArg List.length ranks
  rw [List.length_range] at sameLength
  rw [sameLength]
  exact ranks

theorem positions_clash :
    ((system boardEnv).Reachable (boardRun gapSteps) ∧
        positionsOf (boardRun gapSteps) "d" = some [1, 2] ∧
        ¬ Dense (boardRun gapSteps)) ∧
      ((system boardEnv).Reachable (boardRun clashSteps) ∧
        positionsOf (boardRun clashSteps) "d" = some [1, 2, 2] ∧
        ¬ Dense (boardRun clashSteps)) := by
  have gap : positionsOf (boardRun gapSteps) "d" = some [1, 2] := rfl
  have clash : positionsOf (boardRun clashSteps) "d" = some [1, 2, 2] := rfl
  refine ⟨⟨boardRun_reachable (fun _ _ _ => trivial) rfl, gap, ?_⟩,
    boardRun_reachable (fun _ _ _ => trivial) rfl, clash, ?_⟩
  · intro dense
    have same := dense.positionsOf gap
    simp [List.range_succ] at same
  · intro dense
    have same := dense.positionsOf clash
    simp [List.range_succ] at same

/-- An item is unpinned, the others trade places, the chart that stands last by then is
deleted and another one is pinned. -/
def denseSteps : List Label :=
  pinSteps ++ [.platform (.unpinChart "ana" "d" "i"),
    .reorder "ana" "d" ["k", "j"],
    .platform (.deleteChart "ana" "y"),
    .platform (.pinChart "ana" "d" "l" "x")]

def admits (state : State) : Label → Bool
  | .platform (.deleteChart _ chartId) =>
      state.tables.dashboards.entries.all fun entry =>
        decide (((state.shown entry.snd).filter fun item =>
          decide (item.chartId ≠ chartId)) <+: state.shown entry.snd)
  | _ => true

theorem deletesLast_of_admits (state : State) (label : Label)
    (admitted : admits state label = true) : DeletesLast state label := by
  cases label with
  | platform label =>
      cases label
      case deleteChart actor chartId =>
        intro dashboardId dashboard present
        have isEntry := AList.mem_lookup_iff.mp present
        exact of_decide_eq_true (List.all_eq_true.mp admitted _ isEntry)
      all_goals trivial
  | reorder actor dashboardId submitted => trivial
  | deleteAllCharts actor => trivial

/-- The chart that was pinned last is in the place of the deleted one. -/
theorem positions_dense_traded :
    positionsOf (boardRun denseSteps) "d" = some [0, 1] ∧
      Dense (boardRun denseSteps) ∧ ReorderKeeps (boardRun denseSteps) := by
  have run : (system boardEnv).Reaches DeletesLast boardStart (boardRun denseSteps) :=
    TransitionSystem.reaches_of_execIf deletesLast_of_admits denseSteps (by decide +kernel)
  refine ⟨rfl, ?_⟩
  exact positions_dense boardEnv (boardRun denseSteps)
    ⟨boardStart, ⟨rfl, rfl, rfl, rfl, rfl⟩, run⟩

end DbBuddy.Publishing.Positions
