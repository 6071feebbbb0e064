import DbBuddy.Auth.LoginWindows
import DbBuddy.Library.PythonText

/-!
# Budgets of requests

An endpoint that costs something has a budget for each caller, counted in the windows of the
login throttle.  While the shared window is away, a budget either lets every request through or
counts in the window of the process.  Throughout a run it is there or it is away.
-/

namespace DbBuddy.Auth.RequestBudgets

open DbBuddy.Library
open DbBuddy.Auth.LoginWindows

/-! ## Who calls -/

structure Budget where
  name : String
  maxRequests : ℕ
  failOpen : Bool
  deriving DecidableEq, Repr

/-- `ANALYZE_BUDGET` -/
def analyzeBudget : Budget := ⟨"analyze", 20, true⟩

/-- `QUERY_BUDGET` -/
def queryBudget : Budget := ⟨"query", 300, true⟩

/-- `PROVIDER_TEST_BUDGET` -/
def providerTestBudget : Budget := ⟨"provider_test", 30, true⟩

/-- `REFRESH_BUDGET` -/
def refreshBudget : Budget := ⟨"refresh", 60, false⟩

def endpointBudgets : List Budget :=
  [analyzeBudget, queryBudget, providerTestBudget, refreshBudget]

/-- The name of a budget is known from its key, and the budget from its name. -/
theorem plain_of_endpoint : ∀ budget ∈ endpointBudgets, ':' ∉ budget.name.toList := by
  decide

theorem eq_of_name_eq : ∀ budget ∈ endpointBudgets, ∀ other ∈ endpointBudgets,
    other.name = budget.name → other = budget := by
  decide

/-- A request: the window is read for it at one time, and written at that time or later. -/
structure Request where
  budget : Budget
  authorization : Option (List Char)
  clientIp : Option String
  checkedAt : ℚ
  recordedAt : ℚ
  inOrder : checkedAt ≤ recordedAt

/-- A deployment: the windows that it has, its worker processes, and the subject of a token whose
signature it verifies. -/
structure Deployment where
  backend : Backend
  workers : ℕ
  subject : List Char → Option String

namespace Deployment

variable (setup : Deployment)

/-- The token of a header, that begins with "bearer" in any case. -/
def bearer (authorization : List Char) : Option (List Char) :=
  if (authorization.take 7).map Char.toLower = "bearer ".toList then
    some (strip (authorization.drop 7))
  else none

/-- `who` in `budget_key` -/
def who (request : Request) : String :=
  let subject := ((request.authorization.bind bearer).bind setup.subject).getD ""
  if subject ≠ "" then "user:" ++ subject
  else
    let clientIp := request.clientIp.getD ""
    "ip:" ++ if clientIp = "" then "-" else clientIp

/-- `budget_key` -/
def budgetKey (request : Request) : String :=
  "rl::" ++ request.budget.name ++ "::" ++ setup.who request

/-! ## The check -/

/-- Whether a budget counts at all. -/
def enforces (budget : Budget) : Bool :=
  !(budget.failOpen && setup.backend == .inProcess)

/-- `retry_after` -/
def retryAfter (state : State) (key : String) (maxAttempts : ℕ) (now : ℚ) : Option ℤ :=
  match setup.backend with
  | .redis => (state.shared key).retryAfter maxAttempts now
  | .inProcess => localRetryAfter setup.workers maxAttempts now (state.inProcess key)

/-- `check` of `make_check`: the seconds to wait, if the request may not proceed. -/
def check (state : State) (request : Request) : Option ℤ × State :=
  if setup.enforces request.budget = false then (none, state)
  else
    let key := setup.budgetKey request
    let pruned := step state ⟨key, request.checkedAt, .check⟩
    let locked :=
      (setup.retryAfter state key request.budget.maxRequests request.checkedAt).getD 0
    if locked ≠ 0 then (some locked, pruned)
    else (none, step pruned ⟨key, request.recordedAt, .recordFailure⟩)

/-- How many requests a window holds at most; a window without any serves one. -/
def cap (budget : Budget) : ℕ :=
  match setup.backend with
  | .redis => max 1 budget.maxRequests
  | .inProcess => localCap setup.workers budget.maxRequests

end Deployment

/-- What has been served so far. -/
structure Ledger where
  state : State
  served : List Request

def Ledger.handle (setup : Deployment) (ledger : Ledger) (request : Request) : Ledger :=
  let answer := setup.check ledger.state request
  ⟨answer.2, if answer.1 = none then ledger.served ++ [request] else ledger.served⟩

def run (setup : Deployment) (requests : List Request) : Ledger :=
  requests.foldl (Ledger.handle setup) ⟨initial, []⟩

/-! ## What the windows hold -/

section Counting

variable {setup : Deployment} {state : State} {key : String} {times : List ℚ} {now : ℚ}
variable {budget : Budget} {request : Request} {served : List Request}

theorem one_le_cap : 1 ≤ setup.cap budget := by
  rw [Deployment.cap]
  split
  next => exact Nat.le_max_left 1 budget.maxRequests
  next => exact Nat.le_max_left 1 _

/-- What a window tells that holds the times of requests. -/
theorem retryAfter_eq (tracks : Tracks state key times now) :
    setup.retryAfter state key budget.maxRequests now =
      if setup.cap budget ≤ (inWindow now times).length then
        (inWindow now times).head?.map fun oldest => secondsToWait oldest now
      else none := by
  rw [Deployment.retryAfter, Deployment.cap]
  cases setup.backend with
  | redis =>
      have inOrder : (inWindow now times).Pairwise fun first second => min first second = first :=
        (inWindow_sorted tracks.sorted).imp fun isEarlier => min_eq_left isEarlier
      simp only [SharedWindow.retryAfter, tracks.shared now le_rfl, List.min?_eq_head? inOrder]
      cases inWindow now times with
      | nil => simp
      | cons first rest =>
          have isOne : max 1 budget.maxRequests ≤ (first :: rest).length ↔
              budget.maxRequests ≤ (first :: rest).length := by
            rw [List.length_cons]
            omega
          simp only [isOne]
  | inProcess =>
      simp only [localRetryAfter, tracks.prune_eq le_rfl]
      cases inWindow now times with
      | nil => simp
      | cons first rest => rfl

/-- A request is refused while the window is full. -/
theorem refused_iff (isCounted : setup.enforces request.budget = true)
    (tracks : Tracks state (setup.budgetKey request) times request.checkedAt) :
    (setup.check state request).1 ≠ none ↔
      setup.cap request.budget ≤ (inWindow request.checkedAt times).length := by
  rw [Deployment.check, isCounted, if_neg (by decide)]
  dsimp only
  rw [retryAfter_eq tracks]
  split
  next isFull =>
    have isPositive : 0 < (inWindow request.checkedAt times).length :=
      lt_of_lt_of_le one_le_cap isFull
    obtain ⟨oldest, isOldest⟩ : ∃ oldest, (inWindow request.checkedAt times).head? =
        some oldest := by
      cases held : inWindow request.checkedAt times with
      | nil =>
          rw [held] at isPositive
          cases isPositive
      | cons first rest => exact ⟨first, rfl⟩
    have isWait := one_le_secondsToWait isOldest
    rw [isOldest, Option.map_some, Option.getD_some, if_pos (by omega)]
    exact iff_of_true nofun isFull
  next hasRoom =>
    rw [Option.getD_none, if_neg (by decide)]
    exact iff_of_false (fun isNone => isNone rfl) hasRoom

/-- The times of the requests that have been counted under a key. -/
def recordedTimes (setup : Deployment) (key : String) (served : List Request) : List ℚ :=
  (served.filter fun request =>
    setup.enforces request.budget && setup.budgetKey request == key).map Request.recordedAt

/-- The times of the requests that have been served within a budget, under a key. -/
def servedTimes (setup : Deployment) (budget : Budget) (key : String)
    (served : List Request) : List ℚ :=
  (served.filter fun request =>
    request.budget == budget && setup.budgetKey request == key).map Request.recordedAt

theorem servedTimes_sublist (isCounted : setup.enforces budget = true) :
    (servedTimes setup budget key served).Sublist (recordedTimes setup key served) := by
  apply List.Sublist.map
  apply List.monotone_filter_right
  intro request isOne
  simp only [Bool.and_eq_true, beq_iff_eq] at isOne ⊢
  rw [isOne.1]
  exact ⟨isCounted, isOne.2⟩

/-- The windows hold what has been counted, after one more request. -/
theorem tracks_check {ledger : Ledger}
    (tracks : Tracks ledger.state key (recordedTimes setup key ledger.served)
      request.checkedAt) :
    Tracks (ledger.handle setup request).state key
      (recordedTimes setup key (ledger.handle setup request).served) request.recordedAt := by
  rw [Ledger.handle, Deployment.check]
  by_cases isCounted : setup.enforces request.budget = true
  · rw [isCounted, if_neg (by decide)]
    by_cases isKey : setup.budgetKey request = key
    · subst isKey
      dsimp only
      split
      next => exact tracks.of_check.mono request.inOrder
      next =>
        have recorded : recordedTimes setup (setup.budgetKey request)
            (ledger.served ++ [request]) =
              recordedTimes setup (setup.budgetKey request) ledger.served ++
                [request.recordedAt] := by
          rw [recordedTimes, List.filter_append, List.map_append]
          simp [recordedTimes, isCounted]
        rw [if_pos rfl, recorded]
        exact (tracks.of_check.mono request.inOrder).of_recordFailure
    · have recorded : recordedTimes setup key (ledger.served ++ [request]) =
          recordedTimes setup key ledger.served := by
        rw [recordedTimes, List.filter_append, List.map_append]
        simp [recordedTimes, isKey]
      have elsewhere : ∀ time action,
          (⟨setup.budgetKey request, time, action⟩ : Event).key ≠ key := fun _ _ => isKey
      dsimp only
      split
      next => exact (tracks.of_other (elsewhere request.checkedAt .check)).mono request.inOrder
      next =>
        rw [if_pos rfl, recorded]
        have afterCheck := tracks.of_other (elsewhere request.checkedAt .check)
        exact (afterCheck.of_other (elsewhere request.recordedAt .recordFailure)).mono
          request.inOrder
  · have notCounted := Bool.eq_false_iff.mpr isCounted
    have recorded : recordedTimes setup key (ledger.served ++ [request]) =
        recordedTimes setup key ledger.served := by
      rw [recordedTimes, List.filter_append, List.map_append]
      simp [recordedTimes, notCounted]
    rw [if_pos notCounted, if_pos rfl, recorded]
    exact tracks.mono request.inOrder

end Counting

/-! ## Runs -/

section Runs

variable {setup : Deployment} {requests : List Request} {budget : Budget} {key : String}
variable {request : Request} {now : ℚ}

/-- The requests come one after another. -/
def OneByOne (requests : List Request) : Prop :=
  requests.Pairwise fun first second => first.recordedAt ≤ second.checkedAt

theorem run_append : run setup (requests ++ [request]) =
    (run setup requests).handle setup request := by
  rw [run, List.foldl_append]
  rfl

theorem tracks_run (oneByOne : OneByOne requests)
    (early : ∀ request ∈ requests, request.recordedAt ≤ now) :
    Tracks (run setup requests).state key
      (recordedTimes setup key (run setup requests).served) now := by
  induction requests using List.reverseRecOn generalizing now with
  | nil => exact Tracks.initially
  | append_singleton requests request inductionHypothesis =>
      have parts := List.pairwise_append.mp oneByOne
      have before : ∀ other ∈ requests, other.recordedAt ≤ request.checkedAt :=
        fun other isIn => parts.2.2 other isIn request List.mem_cons_self
      have isPast : request.recordedAt ≤ now := early request (by simp)
      rw [run_append]
      exact (tracks_check (inductionHypothesis parts.1 before)).mono isPast

/-- A served request has found room in its window. -/
theorem room_of_served {times : List ℚ} {state : State}
    (isCounted : setup.enforces request.budget = true)
    (tracks : Tracks state (setup.budgetKey request) times request.checkedAt)
    (isServed : (setup.check state request).1 = none) :
    Windows.countAfter (request.checkedAt - window) times < setup.cap request.budget := by
  rw [← length_inWindow]
  by_contra isFull
  exact (refused_iff isCounted tracks).mpr (Nat.le_of_not_lt isFull) isServed

theorem countWithin_servedTimes_le (isCounted : setup.enforces budget = true)
    (oneByOne : OneByOne requests) (last : ℚ) :
    Windows.countWithin window last
      (servedTimes setup budget key (run setup requests).served) ≤ setup.cap budget := by
  induction requests using List.reverseRecOn with
  | nil => exact Nat.zero_le _
  | append_singleton requests request inductionHypothesis =>
      have parts := List.pairwise_append.mp oneByOne
      have before := inductionHypothesis parts.1
      rw [run_append, Ledger.handle]
      dsimp only
      split
      next isServed =>
        by_cases isOne : request.budget = budget ∧ setup.budgetKey request = key
        · obtain ⟨isBudget, isKey⟩ := isOne
          subst isBudget isKey
          have tracks : Tracks (run setup requests).state (setup.budgetKey request)
              (recordedTimes setup (setup.budgetKey request) (run setup requests).served)
              request.checkedAt :=
            tracks_run parts.1 fun other isIn => parts.2.2 other isIn request List.mem_cons_self
          have added : servedTimes setup request.budget (setup.budgetKey request)
              ((run setup requests).served ++ [request]) =
                servedTimes setup request.budget (setup.budgetKey request)
                  (run setup requests).served ++ [request.recordedAt] := by
            rw [servedTimes, List.filter_append, List.map_append]
            simp [servedTimes]
          rw [added]
          apply Windows.countWithin_append_le before
          calc
            Windows.countAfter (request.recordedAt - window)
                (servedTimes setup request.budget (setup.budgetKey request)
                  (run setup requests).served)
              ≤ Windows.countAfter (request.checkedAt - window)
                (servedTimes setup request.budget (setup.budgetKey request)
                  (run setup requests).served) :=
                Windows.countAfter_anti (sub_le_sub_right request.inOrder window)
            _ ≤ Windows.countAfter (request.checkedAt - window)
                (recordedTimes setup (setup.budgetKey request) (run setup requests).served) :=
                (servedTimes_sublist isCounted).countP_le
            _ < setup.cap request.budget := room_of_served isCounted tracks isServed
        · have same : servedTimes setup budget key ((run setup requests).served ++ [request]) =
              servedTimes setup budget key (run setup requests).served := by
            rw [servedTimes, List.filter_append, List.map_append]
            simp [servedTimes, isOne]
          rw [same]
          exact before
      next => exact before

/-- A budget that counts never serves more than its cap in a window, wherever the window ends;
it refuses a request only while it has served as many under the key of the request within the
time of a window; and a budget that does not count serves every request. -/
theorem budget_caps_window (setup : Deployment) (requests : List Request)
    (oneByOne : OneByOne requests) :
    (∀ budget key last, setup.enforces budget = true →
      Windows.countWithin window last
        (servedTimes setup budget key (run setup requests).served) ≤ setup.cap budget) ∧
    ∀ request : Request, (∀ earlier ∈ requests, earlier.recordedAt ≤ request.checkedAt) →
      ((setup.check (run setup requests).state request).1 ≠ none ↔
        setup.enforces request.budget = true ∧
        setup.cap request.budget ≤ Windows.countAfter (request.checkedAt - window)
          (recordedTimes setup (setup.budgetKey request) (run setup requests).served)) := by
  constructor
  · intro budget key last isCounted
    exact countWithin_servedTimes_le isCounted oneByOne last
  · intro request early
    by_cases isCounted : setup.enforces request.budget = true
    · rw [refused_iff isCounted (tracks_run oneByOne early), length_inWindow]
      exact (and_iff_right isCounted).symm
    · rw [Deployment.check, if_pos (Bool.eq_false_iff.mpr isCounted)]
      exact iff_of_false (fun isNone => isNone rfl) fun isFull => isCounted isFull.1

end Runs

/-- A deployment that knows no token. -/
def sharedShop : Deployment := ⟨.redis, 1, fun _ => none⟩

def twoAnalyses : Budget := ⟨"analyze", 2, true⟩

def analysisAt (time : ℚ) : Request := ⟨twoAnalyses, none, some "10.0.0.7", time, time, le_rfl⟩

/-- The third request within a window is refused. -/
theorem budget_caps_window_third :
    (sharedShop.check (run sharedShop [analysisAt 0, analysisAt 10]).state
      (analysisAt 20)).1 ≠ none := by
  have oneByOne : OneByOne [analysisAt 0, analysisAt 10] := by
    apply List.pairwise_pair.mpr
    decide +kernel
  have early : ∀ earlier ∈ [analysisAt 0, analysisAt 10],
      earlier.recordedAt ≤ (analysisAt 20).checkedAt := by
    intro earlier isIn
    rcases List.mem_pair.mp isIn with isFirst | isSecond
    · rw [isFirst]
      decide +kernel
    · rw [isSecond]
      decide +kernel
  exact ((budget_caps_window sharedShop [analysisAt 0, analysisAt 10] oneByOne).2
    (analysisAt 20) early).mpr ⟨rfl, by decide +kernel⟩

/-! ## Budgets apart -/

section Apart

variable {setup : Deployment} {first second : State} {key : String} {event : Event}
variable {request : Request} {requests : List Request}

/-- Two states hold the same under a key. -/
def SameAt (key : String) (first second : State) : Prop :=
  first.shared key = second.shared key ∧ first.inProcess key = second.inProcess key

theorem sameAt_step_own (same : SameAt event.key first second) :
    SameAt event.key (step first event) (step second event) := by
  obtain ⟨isShared, isInProcess⟩ := same
  rw [step, step, isShared, isInProcess]
  cases event.action with
  | recordFailure => simp [SameAt, State.write]
  | reset => simp [SameAt, State.write]
  | check => simp [SameAt, State.write]

theorem sameAt_step_other (isOther : event.key ≠ key) (same : SameAt key first second) :
    SameAt key (step first event) second := by
  obtain ⟨isShared, isInProcess⟩ := same
  rw [step]
  cases event.action with
  | recordFailure => simp [SameAt, State.write, isOther.symm, isShared, isInProcess]
  | reset => simp [SameAt, State.write, isOther.symm, isShared, isInProcess]
  | check => simp [SameAt, State.write, isOther.symm, isShared, isInProcess]

theorem check_own (same : SameAt (setup.budgetKey request) first second) :
    (setup.check first request).1 = (setup.check second request).1 ∧
      SameAt (setup.budgetKey request) (setup.check first request).2
        (setup.check second request).2 := by
  have sameAnswer : setup.retryAfter first (setup.budgetKey request)
      request.budget.maxRequests request.checkedAt =
        setup.retryAfter second (setup.budgetKey request) request.budget.maxRequests
          request.checkedAt := by
    rw [Deployment.retryAfter, Deployment.retryAfter, same.1, same.2]
  have pruned := @sameAt_step_own first second
    ⟨setup.budgetKey request, request.checkedAt, .check⟩ same
  rw [Deployment.check, Deployment.check]
  dsimp only
  rw [sameAnswer]
  split
  next => exact ⟨rfl, same⟩
  next =>
    split
    next => exact ⟨rfl, pruned⟩
    next =>
      exact ⟨rfl, @sameAt_step_own _ _
        ⟨setup.budgetKey request, request.recordedAt, .recordFailure⟩ pruned⟩

theorem check_other (isOther : setup.budgetKey request ≠ key)
    (same : SameAt key first second) : SameAt key (setup.check first request).2 second := by
  have pruned := @sameAt_step_other first second key
    ⟨setup.budgetKey request, request.checkedAt, .check⟩ isOther same
  rw [Deployment.check]
  dsimp only
  split
  next => exact same
  next =>
    split
    next => exact pruned
    next =>
      exact @sameAt_step_other _ _ _
        ⟨setup.budgetKey request, request.recordedAt, .recordFailure⟩ isOther pruned

/-- What is held under a key comes from the requests of that key. -/
theorem sameAt_run : SameAt key (run setup requests).state
    (run setup (requests.filter fun other => setup.budgetKey other == key)).state := by
  induction requests using List.reverseRecOn with
  | nil => exact ⟨rfl, rfl⟩
  | append_singleton requests request inductionHypothesis =>
      rw [run_append, List.filter_append, List.filter_singleton]
      by_cases isKey : setup.budgetKey request = key
      · subst isKey
        rw [beq_self_eq_true, cond_true, run_append]
        exact (check_own inductionHypothesis).2
      · rw [beq_false_of_ne isKey, cond_false, List.append_nil]
        exact check_other isKey inductionHypothesis

theorem takeWhile_plain {front back : List Char} (isPlain : ':' ∉ front) :
    (front ++ ':' :: back).takeWhile (fun char => char != ':') = front := by
  rw [List.takeWhile_append_of_pos, List.takeWhile_cons_of_neg (by decide), List.append_nil]
  intro char isIn
  exact bne_iff_ne.mpr fun isColon => isPlain (isColon ▸ isIn)

theorem budgetKey_eq_iff {other : Request} (isPlain : ':' ∉ request.budget.name.toList)
    (isOtherPlain : ':' ∉ other.budget.name.toList) :
    setup.budgetKey other = setup.budgetKey request ↔
      other.budget.name = request.budget.name ∧ setup.who other = setup.who request := by
  constructor
  · intro same
    have cut : other.budget.name.toList ++ ':' :: ':' :: (setup.who other).toList =
        request.budget.name.toList ++ ':' :: ':' :: (setup.who request).toList := by
      have sameText := congrArg String.toList same
      simpa [Deployment.budgetKey] using sameText
    have sameName := congrArg (List.takeWhile fun char => char != ':') cut
    rw [takeWhile_plain isOtherPlain, takeWhile_plain isPlain] at sameName
    rw [sameName] at cut
    have sameWho := List.cons_injective (List.cons_injective (List.append_cancel_left cut))
    exact ⟨String.toList_inj.mp sameName, String.toList_inj.mp sameWho⟩
  · intro ⟨sameName, sameWho⟩
    rw [Deployment.budgetKey, Deployment.budgetKey, sameName, sameWho]

/-- The answer to a request comes from the requests of its own budget and caller: with the others
left out of the run it is the same, and the budgets of the endpoints, and callers that are told
apart, have different keys. -/
theorem budgets_apart (setup : Deployment) (requests : List Request) (request : Request) :
    (setup.check (run setup requests).state request).1 =
      (setup.check (run setup (requests.filter fun other =>
        setup.budgetKey other == setup.budgetKey request)).state request).1 ∧
    ∀ other : Request, request.budget ∈ endpointBudgets → other.budget ∈ endpointBudgets →
      (setup.budgetKey other = setup.budgetKey request ↔
        other.budget = request.budget ∧ setup.who other = setup.who request) := by
  constructor
  · exact (check_own sameAt_run).1
  · intro other isEndpoint isOtherEndpoint
    rw [budgetKey_eq_iff (plain_of_endpoint _ isEndpoint) (plain_of_endpoint _ isOtherEndpoint)]
    constructor
    · intro ⟨sameName, sameWho⟩
      exact ⟨eq_of_name_eq _ isEndpoint _ isOtherEndpoint sameName, sameWho⟩
    · intro ⟨sameBudget, sameWho⟩
      exact ⟨congrArg Budget.name sameBudget, sameWho⟩

end Apart

end DbBuddy.Auth.RequestBudgets
