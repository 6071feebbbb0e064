import DbBuddy.Auth.LoginGuard
import DbBuddy.Library.Windows
import Mathlib.Data.Rat.Floor

/-!
# The two windows of the login throttle

The failures of a key stand in a sorted set of the shared cache and in a deque of the
process.  Each of the two prunes what the window has left, counts the rest, and tells
the seconds to wait from the oldest one.  Times are the seconds of the clock, with
any fraction.
-/

namespace DbBuddy.Auth.LoginWindows

open DbBuddy.Library
open DbBuddy.Auth.LoginGuard (maxFailures)

/-! ## The windows -/

/-- `WINDOW_SECONDS` -/
def window : ℚ := 900

/-- `int(value)` rounds towards zero. -/
def truncate (value : ℚ) : ℤ :=
  if 0 ≤ value then ⌊value⌋ else ⌈value⌉

/-- `int(oldest + WINDOW_SECONDS - now) + 1` -/
def secondsToWait (oldest now : ℚ) : ℤ :=
  truncate (oldest + window - now) + 1

/-- The failures that the window holds. -/
def inWindow (now : ℚ) (failures : List ℚ) : List ℚ :=
  failures.filter fun failure => decide (now - window < failure)

/-- The sorted set of a key: its scores, and when the key expires. -/
structure SharedWindow where
  scores : List ℚ
  expiresAt : ℚ
  deriving DecidableEq, Repr

namespace SharedWindow

def empty : SharedWindow := ⟨[], 0⟩

/-- What is there of a key that may have expired, after `zremrangebyscore`. -/
def pruned (shared : SharedWindow) (now : ℚ) : List ℚ :=
  if shared.expiresAt ≤ now then [] else inWindow now shared.scores

/-- `_shared_count`: the set that is left. -/
def counted (shared : SharedWindow) (now : ℚ) : SharedWindow :=
  { shared with scores := shared.pruned now }

def retryAfter (shared : SharedWindow) (maxAttempts : ℕ) (now : ℚ) : Option ℤ :=
  if maxAttempts ≤ (shared.pruned now).length then
    (shared.pruned now).min?.map fun oldest => secondsToWait oldest now
  else none

def recordFailure (shared : SharedWindow) (now : ℚ) : SharedWindow :=
  ⟨shared.pruned now ++ [now], now + window⟩

end SharedWindow

/-- `_prune` -/
def prune (now : ℚ) (failures : List ℚ) : List ℚ :=
  failures.dropWhile fun failure => decide (failure ≤ now - window)

/-- `_local_cap` -/
def localCap (workers maxAttempts : ℕ) : ℕ :=
  max 1 ((maxAttempts + workers - 1) / workers)

/-- `retry_after` without the shared window. -/
def localRetryAfter (workers maxAttempts : ℕ) (now : ℚ) (failures : List ℚ) :
    Option ℤ :=
  match prune now failures with
  | [] => none
  | oldest :: rest =>
      if localCap workers maxAttempts ≤ (oldest :: rest).length then
        some (secondsToWait oldest now)
      else none

/-! ## Histories -/

inductive Action where
  | recordFailure
  | reset
  | check
  deriving DecidableEq, Repr

structure Event where
  key : String
  time : ℚ
  action : Action
  deriving DecidableEq, Repr

/-- The windows of all keys; each of the two sees every event, as it does where it
alone decides. -/
structure State where
  shared : String → SharedWindow
  inProcess : String → List ℚ

def initial : State :=
  ⟨fun _ => SharedWindow.empty, fun _ => []⟩

/-- The two windows of the key of an event. -/
def State.write (state : State) (key : String) (shared : SharedWindow)
    (failures : List ℚ) : State :=
  ⟨Function.update state.shared key shared,
    Function.update state.inProcess key failures⟩

def step (state : State) (event : Event) : State :=
  let shared := state.shared event.key
  let failures := state.inProcess event.key
  match event.action with
  | .recordFailure =>
      state.write event.key (shared.recordFailure event.time)
        (prune event.time failures ++ [event.time])
  | .reset => state.write event.key SharedWindow.empty []
  | .check =>
      state.write event.key (shared.counted event.time) (prune event.time failures)

def run (history : List Event) : State :=
  history.foldl step initial

/-- Which of the windows decides. -/
inductive Backend where
  | redis
  | inProcess
  deriving DecidableEq, Repr

/-- `retry_after`, with one worker. -/
def State.retryAfter (state : State) (backend : Backend) (key : String) (now : ℚ) :
    Option ℤ :=
  match backend with
  | .redis => (state.shared key).retryAfter maxFailures now
  | .inProcess => localRetryAfter 1 maxFailures now (state.inProcess key)

/-- The failures of a key since it was cleared last. -/
def uncleared (key : String) (history : List Event) : List ℚ :=
  history.foldl
    (fun failures event =>
      if event.key = key then
        match event.action with
        | .recordFailure => failures ++ [event.time]
        | .reset => []
        | .check => failures
      else failures)
    []

/-! ## The law and when it holds -/

/-- The windows block while they hold as many failures as are allowed, and agree in
that; after the seconds that are told the key is free, and not more than one second
later than it might be. -/
structure Exact (state : State) (failures : List ℚ) (key : String) (now : ℚ) : Prop where
  blocks : ∀ backend, (state.retryAfter backend key now).isSome = true ↔
    maxFailures ≤ (inWindow now failures).length
  agree : (state.retryAfter .redis key now).isSome =
    (state.retryAfter .inProcess key now).isSome
  freed : ∀ backend seconds, state.retryAfter backend key now = some seconds →
    (step state ⟨key, now, .check⟩).retryAfter backend key (now + seconds) = none
  prompt : ∀ backend seconds (wait : ℚ),
    state.retryAfter backend key now = some seconds → 0 ≤ wait →
    (step state ⟨key, now, .check⟩).retryAfter backend key (now + wait) = none →
    seconds ≤ wait + 1

/-- No whole number of seconds from now on falls between the times at which the
oldest failure leaves the window and the latest but four does. -/
def LeavesTogether (now : ℚ) (failures : List ℚ) : Prop :=
  ∀ oldest last, (inWindow now failures).head? = some oldest →
    (inWindow now failures).reverse[maxFailures - 1]? = some last →
    ∀ seconds : ℤ, oldest + window < now + seconds → last + window ≤ now + seconds

/-! ## What the window holds -/

section Window

variable {now later failure : ℚ} {failures others : List ℚ}

theorem inWindow_append : inWindow now (failures ++ others) =
    inWindow now failures ++ inWindow now others :=
  List.filter_append _ _

theorem mem_inWindow : failure ∈ inWindow now failures ↔
    failure ∈ failures ∧ now - window < failure := by
  unfold inWindow
  rw [List.mem_filter, decide_eq_true_iff]

theorem inWindow_sorted (sorted : failures.Pairwise (· ≤ ·)) :
    (inWindow now failures).Pairwise (· ≤ ·) :=
  sorted.filter _

/-- Nothing is lost that a later window holds. -/
theorem inWindow_inWindow (order : now ≤ later) :
    inWindow later (inWindow now failures) = inWindow later failures := by
  unfold inWindow
  rw [List.filter_filter]
  apply List.filter_congr
  intro failure _
  by_cases isIn : later - window < failure
  · have wasIn : now - window < failure := lt_of_le_of_lt (by linarith) isIn
    simp [isIn, wasIn]
  · simp [isIn]

theorem inWindow_eq_nil (early : ∀ failure ∈ failures, failure ≤ now)
    (order : now + window ≤ later) : inWindow later failures = [] := by
  apply List.filter_eq_nil_iff.mpr
  intro failure isIn stays
  have isLater := of_decide_eq_true stays
  have isEarly := early failure isIn
  linarith

theorem prune_eq_inWindow (sorted : failures.Pairwise (· ≤ ·)) :
    prune now failures = inWindow now failures :=
  Windows.dropWhile_eq_filter sorted

theorem length_inWindow :
    (inWindow now failures).length = Windows.countAfter (now - window) failures :=
  Windows.countAfter_eq_length_filter.symm

end Window

/-! ## Both windows hold the failures that stand -/

theorem SharedWindow.pruned_empty {now : ℚ} : SharedWindow.empty.pruned now = [] :=
  ite_self _

/-- What the two windows of a key have to do with its failures: each holds, now and
later, what the window holds of them. -/
structure Tracks (state : State) (key : String) (failures : List ℚ) (now : ℚ) : Prop where
  early : ∀ failure ∈ failures, failure ≤ now
  sorted : failures.Pairwise (· ≤ ·)
  dequeEarly : ∀ failure ∈ state.inProcess key, failure ≤ now
  dequeSorted : (state.inProcess key).Pairwise (· ≤ ·)
  shared : ∀ later, now ≤ later →
    (state.shared key).pruned later = inWindow later failures
  inProcess : ∀ later, now ≤ later →
    inWindow later (state.inProcess key) = inWindow later failures

namespace Tracks

variable {state : State} {key : String} {failures : List ℚ} {now later : ℚ}

theorem initially : Tracks initial key [] now where
  early := by simp
  sorted := List.Pairwise.nil
  dequeEarly := by simp [initial]
  dequeSorted := List.Pairwise.nil
  shared := by
    intro later _
    exact SharedWindow.pruned_empty
  inProcess := by
    intro later _
    rfl

theorem mono (tracks : Tracks state key failures now) (order : now ≤ later) :
    Tracks state key failures later where
  early := fun failure isIn => le_trans (tracks.early failure isIn) order
  sorted := tracks.sorted
  dequeEarly := fun failure isIn => le_trans (tracks.dequeEarly failure isIn) order
  dequeSorted := tracks.dequeSorted
  shared := fun last after => tracks.shared last (le_trans order after)
  inProcess := fun last after => tracks.inProcess last (le_trans order after)

theorem prune_eq (tracks : Tracks state key failures now) (order : now ≤ later) :
    prune later (state.inProcess key) = inWindow later failures := by
  rw [prune_eq_inWindow tracks.dequeSorted]
  exact tracks.inProcess later order

/-- The events of other keys touch neither window. -/
theorem of_other (tracks : Tracks state key failures now) {event : Event}
    (other : event.key ≠ key) : Tracks (step state event) key failures now := by
  have sharedSame : (step state event).shared key = state.shared key := by
    cases event with
    | mk eventKey time action =>
        cases action <;> exact Function.update_of_ne (Ne.symm other) _ _
  have dequeSame : (step state event).inProcess key = state.inProcess key := by
    cases event with
    | mk eventKey time action =>
        cases action <;> exact Function.update_of_ne (Ne.symm other) _ _
  constructor
  · exact tracks.early
  · exact tracks.sorted
  · rw [dequeSame]
    exact tracks.dequeEarly
  · rw [dequeSame]
    exact tracks.dequeSorted
  · rw [sharedSame]
    exact tracks.shared
  · rw [dequeSame]
    exact tracks.inProcess

/-- Writing two windows that hold what stands of the failures. -/
theorem of_write {shared : SharedWindow} {deque : List ℚ}
    (early : ∀ failure ∈ failures, failure ≤ now)
    (sorted : failures.Pairwise (· ≤ ·))
    (sharedHolds : ∀ later, now ≤ later → shared.pruned later = inWindow later failures)
    (dequeHolds : deque = inWindow now failures) :
    Tracks (state.write key shared deque) key failures now where
  early := early
  sorted := sorted
  dequeEarly := by
    intro failure isIn
    have held : failure ∈ inWindow now failures := by
      simpa [State.write, dequeHolds] using isIn
    exact early failure (mem_inWindow.mp held).1
  dequeSorted := by
    simp only [State.write, Function.update_self, dequeHolds]
    exact inWindow_sorted sorted
  shared := by
    simp only [State.write, Function.update_self]
    exact sharedHolds
  inProcess := by
    intro later order
    simp only [State.write, Function.update_self, dequeHolds]
    exact inWindow_inWindow order

theorem of_check (tracks : Tracks state key failures now) :
    Tracks (step state ⟨key, now, .check⟩) key failures now := by
  apply of_write tracks.early tracks.sorted
  · intro later order
    have keptNow := tracks.shared now le_rfl
    have keptLater := tracks.shared later order
    unfold SharedWindow.counted
    rw [SharedWindow.pruned, keptNow, inWindow_inWindow order]
    split
    · next expired =>
        rw [SharedWindow.pruned, if_pos expired] at keptLater
        exact keptLater
    · rfl
  · exact tracks.prune_eq le_rfl

theorem of_recordFailure (tracks : Tracks state key failures now) :
    Tracks (step state ⟨key, now, .recordFailure⟩) key (failures ++ [now]) now := by
  have early : ∀ failure ∈ failures ++ [now], failure ≤ now := by
    intro failure isIn
    rcases List.mem_append.mp isIn with isOld | isNew
    · exact tracks.early failure isOld
    · rw [List.mem_singleton.mp isNew]
  have sorted : (failures ++ [now]).Pairwise (· ≤ ·) := by
    apply List.pairwise_append.mpr
    refine ⟨tracks.sorted, List.pairwise_singleton _ _, ?_⟩
    intro failure isOld last isNew
    rw [List.mem_singleton.mp isNew]
    exact tracks.early failure isOld
  apply of_write early sorted
  · intro later order
    unfold SharedWindow.recordFailure
    rw [SharedWindow.pruned, tracks.shared now le_rfl]
    split
    · next expired => exact (inWindow_eq_nil early expired).symm
    · rw [inWindow_append, inWindow_append, inWindow_inWindow order]
  · have holdsNow : inWindow now [now] = [now] := by
      simp [inWindow, window]
    rw [inWindow_append, holdsNow, tracks.prune_eq le_rfl]

theorem of_reset : Tracks (step state ⟨key, now, .reset⟩) key [] now := by
  apply of_write
  · simp
  · exact List.Pairwise.nil
  · intro later _
    exact SharedWindow.pruned_empty
  · rfl

end Tracks

section Runs

variable {key : String} {history : List Event} {event : Event} {now : ℚ}

theorem uncleared_append_of_ne (other : event.key ≠ key) :
    uncleared key (history ++ [event]) = uncleared key history := by
  unfold uncleared
  rw [List.foldl_append, List.foldl_cons, List.foldl_nil, if_neg other]

theorem uncleared_append_of_eq (same : event.key = key) :
    uncleared key (history ++ [event]) =
      match event.action with
      | .recordFailure => uncleared key history ++ [event.time]
      | .reset => []
      | .check => uncleared key history := by
  unfold uncleared
  rw [List.foldl_append, List.foldl_cons, List.foldl_nil, if_pos same]

/-- The windows hold what stands of the failures after one more event. -/
theorem tracks_step
    (tracks : Tracks (run history) key (uncleared key history) event.time) :
    Tracks (run (history ++ [event])) key (uncleared key (history ++ [event]))
      event.time := by
  have runs : run (history ++ [event]) = step (run history) event := by
    unfold run
    rw [List.foldl_append, List.foldl_cons, List.foldl_nil]
  rw [runs]
  by_cases same : event.key = key
  · rw [uncleared_append_of_eq same]
    cases event with
    | mk eventKey time action =>
        subst same
        cases action with
        | recordFailure => exact tracks.of_recordFailure
        | reset => exact Tracks.of_reset
        | check => exact tracks.of_check
  · rw [uncleared_append_of_ne same]
    exact tracks.of_other same

/-- The windows hold what stands of the failures after every history. -/
theorem tracks_run
    (sorted : history.Pairwise fun first second => first.time ≤ second.time)
    (early : ∀ event ∈ history, event.time ≤ now) :
    Tracks (run history) key (uncleared key history) now := by
  induction history using List.reverseRecOn generalizing now with
  | nil => exact Tracks.initially
  | append_singleton history event inductionHypothesis =>
      have parts := List.pairwise_append.mp sorted
      have before : ∀ other ∈ history, other.time ≤ event.time := fun other isIn =>
        parts.2.2 other isIn event List.mem_cons_self
      have tracks := inductionHypothesis parts.1 before
      have isPast : event.time ≤ now := early event (by simp)
      exact (tracks_step tracks).mono isPast

end Runs

/-! ## What the windows tell -/

/-- The seconds to wait, by the failures that stand. -/
def told (now : ℚ) (failures : List ℚ) : Option ℤ :=
  if maxFailures ≤ (inWindow now failures).length then
    (inWindow now failures).head?.map fun oldest => secondsToWait oldest now
  else none

section Telling

variable {state : State} {key : String} {failures : List ℚ} {now later oldest last : ℚ}
  {seconds : ℤ}

theorem told_eq_none : told now failures = none ↔
    ¬ maxFailures ≤ (inWindow now failures).length := by
  unfold told
  split
  · next isFull =>
      cases held : inWindow now failures with
      | nil =>
          rw [held] at isFull
          exact absurd isFull (by decide)
      | cons first rest =>
          rw [held] at isFull
          simpa using isFull
  · next hasRoom => simp [hasRoom]

theorem isSome_told : (told now failures).isSome = true ↔
    maxFailures ≤ (inWindow now failures).length := by
  rw [← not_iff_not, ← told_eq_none, Bool.not_eq_true, Option.isSome_eq_false_iff,
    Option.isNone_iff_eq_none]

/-- What is told comes from the oldest failure of a full window. -/
theorem told_eq_some (isTold : told now failures = some seconds) :
    ∃ oldest, (inWindow now failures).head? = some oldest ∧
      maxFailures ≤ (inWindow now failures).length ∧
      seconds = secondsToWait oldest now := by
  have isFull : maxFailures ≤ (inWindow now failures).length := by
    apply isSome_told.mp
    rw [isTold]
    rfl
  unfold told at isTold
  rw [if_pos isFull] at isTold
  have found := Option.map_eq_some_iff.mp isTold
  obtain ⟨oldest, isOldest, same⟩ := found
  exact ⟨oldest, isOldest, isFull, same.symm⟩

/-- Both windows tell the same. -/
theorem Tracks.retryAfter_eq (tracks : Tracks state key failures now)
    (order : now ≤ later) (backend : Backend) :
    state.retryAfter backend key later = told later failures := by
  cases backend with
  | redis =>
      have inOrder : (inWindow later failures).Pairwise
          fun first second => min first second = first :=
        (inWindow_sorted tracks.sorted).imp fun isEarlier => min_eq_left isEarlier
      simp only [State.retryAfter, SharedWindow.retryAfter, tracks.shared later order,
        List.min?_eq_head? inOrder]
      rfl
  | inProcess =>
      have cap : localCap 1 maxFailures = maxFailures := by decide
      simp only [State.retryAfter, localRetryAfter, tracks.prune_eq order, cap, told]
      cases inWindow later failures with
      | nil => rfl
      | cons first rest => rfl

/-- The oldest failure that the window holds leaves it within what is told. -/
theorem secondsToWait_eq (isOldest : (inWindow now failures).head? = some oldest) :
    secondsToWait oldest now = ⌊oldest + window - now⌋ + 1 := by
  have held := (mem_inWindow.mp (List.mem_of_mem_head? isOldest)).2
  have nonneg : 0 ≤ oldest + window - now := by linarith
  unfold secondsToWait truncate
  rw [if_pos nonneg]

theorem one_le_secondsToWait (isOldest : (inWindow now failures).head? = some oldest) :
    1 ≤ secondsToWait oldest now := by
  have held := (mem_inWindow.mp (List.mem_of_mem_head? isOldest)).2
  have nonneg : 0 ≤ ⌊oldest + window - now⌋ := by
    apply Int.floor_nonneg.mpr
    linarith
  rw [secondsToWait_eq isOldest]
  omega

/-- The window is full just as long as it holds the latest failure but four. -/
theorem full_iff_last (sorted : failures.Pairwise (· ≤ ·)) (order : now ≤ later)
    (isLast : (inWindow now failures).reverse[maxFailures - 1]? = some last) :
    maxFailures ≤ (inWindow later failures).length ↔ later - window < last := by
  have inOrder : (inWindow now failures).reverse.Pairwise (· ≥ ·) :=
    List.pairwise_reverse.mpr (inWindow_sorted sorted)
  rw [← inWindow_inWindow order, length_inWindow, ← Windows.countAfter_reverse,
    Windows.lt_iff_countAfter inOrder isLast]
  rfl

/-- A window that is full has a latest failure but four. -/
theorem exists_last (isFull : maxFailures ≤ (inWindow now failures).length) :
    ∃ last, (inWindow now failures).reverse[maxFailures - 1]? = some last := by
  have positive : 0 < maxFailures := by decide
  have isThere : maxFailures - 1 < (inWindow now failures).reverse.length := by
    rw [List.length_reverse]
    omega
  exact ⟨_, List.getElem?_eq_getElem isThere⟩

/-- The oldest failure that the window holds is the first. -/
theorem oldest_le (sorted : failures.Pairwise (· ≤ ·))
    (isOldest : (inWindow now failures).head? = some oldest) :
    ∀ failure ∈ inWindow now failures, oldest ≤ failure := by
  intro failure isIn
  have inOrder : (inWindow now failures).Pairwise (· ≤ ·) := inWindow_sorted sorted
  cases held : inWindow now failures with
  | nil =>
      rw [held] at isIn
      cases isIn
  | cons first rest =>
      rw [held] at isIn isOldest inOrder
      have same : first = oldest := Option.some.inj isOldest
      subst same
      rcases List.mem_cons.mp isIn with rfl | isLater
      · exact le_rfl
      · exact (List.pairwise_cons.mp inOrder).1 failure isLater

/-- The key is not free before the oldest failure leaves the window. -/
theorem oldest_left (sorted : failures.Pairwise (· ≤ ·)) (order : now ≤ later)
    (isOldest : (inWindow now failures).head? = some oldest)
    (isFull : maxFailures ≤ (inWindow now failures).length)
    (isFree : told later failures = none) : oldest + window ≤ later := by
  by_contra stays
  have all : inWindow later (inWindow now failures) = inWindow now failures := by
    apply List.filter_eq_self.mpr
    intro failure isIn
    apply decide_eq_true
    have isLater := oldest_le sorted isOldest failure isIn
    linarith
  rw [inWindow_inWindow order] at all
  rw [← all] at isFull
  exact told_eq_none.mp isFree isFull

end Telling

/-! ## When the windows are exact -/

section Exactness

variable {history : List Event} {key : String} {now : ℚ} {failures : List ℚ}
  {state : State}

theorem Tracks.blocks (tracks : Tracks state key failures now) (backend : Backend) :
    (state.retryAfter backend key now).isSome = true ↔
      maxFailures ≤ (inWindow now failures).length := by
  rw [tracks.retryAfter_eq le_rfl]
  exact isSome_told

theorem Tracks.prompt (tracks : Tracks state key failures now) {backend : Backend}
    {seconds : ℤ} {wait : ℚ} (isTold : state.retryAfter backend key now = some seconds)
    (nonneg : 0 ≤ wait)
    (isFree : (step state ⟨key, now, .check⟩).retryAfter backend key (now + wait) =
      none) : seconds ≤ wait + 1 := by
  have order : now ≤ now + wait := by linarith
  rw [tracks.retryAfter_eq le_rfl] at isTold
  rw [tracks.of_check.retryAfter_eq order] at isFree
  obtain ⟨oldest, isOldest, isFull, rfl⟩ := told_eq_some isTold
  have hasLeft := oldest_left tracks.sorted order isOldest isFull isFree
  have rounded : (⌊oldest + window - now⌋ : ℚ) ≤ oldest + window - now :=
    Int.floor_le _
  rw [secondsToWait_eq isOldest]
  push_cast
  linarith

/-- A key is free after the seconds told just when no failure that keeps the window full
outstays the oldest one. -/
theorem Tracks.freed_iff (tracks : Tracks state key failures now) :
    (∀ backend seconds, state.retryAfter backend key now = some seconds →
      (step state ⟨key, now, .check⟩).retryAfter backend key (now + seconds) = none) ↔
      LeavesTogether now failures := by
  have isOrdered : ∀ {seconds : ℤ}, 1 ≤ seconds → now ≤ now + seconds := by
    intro seconds positive
    have cast : (1 : ℚ) ≤ seconds := by exact_mod_cast positive
    linarith
  constructor
  · intro freed oldest last isOldest isLast seconds hasLeft
    have isFull : maxFailures ≤ (inWindow now failures).length := by
      have bound := (List.getElem?_eq_some_iff.mp isLast).1
      rw [List.length_reverse] at bound
      omega
    have isTold : told now failures = some (secondsToWait oldest now) := by
      unfold told
      rw [if_pos isFull, isOldest]
      rfl
    have order := isOrdered (one_le_secondsToWait isOldest)
    have isFree : told (now + secondsToWait oldest now) failures = none := by
      rw [← tracks.of_check.retryAfter_eq order .redis]
      apply freed .redis
      rw [tracks.retryAfter_eq le_rfl]
      exact isTold
    have hasLeftLast := mt (full_iff_last tracks.sorted order isLast).mpr
      (told_eq_none.mp isFree)
    -- what is told is the first whole number of seconds after the oldest has left
    have first : secondsToWait oldest now ≤ seconds := by
      rw [secondsToWait_eq isOldest]
      have below : ⌊oldest + window - now⌋ < seconds := by
        apply Int.floor_lt.mpr
        linarith
      omega
    have cast : (secondsToWait oldest now : ℚ) ≤ seconds := by exact_mod_cast first
    linarith
  · intro together backend seconds isTold
    rw [tracks.retryAfter_eq le_rfl] at isTold
    obtain ⟨oldest, isOldest, isFull, rfl⟩ := told_eq_some isTold
    obtain ⟨last, isLast⟩ := exists_last isFull
    have order := isOrdered (one_le_secondsToWait isOldest)
    rw [tracks.of_check.retryAfter_eq order, told_eq_none,
      full_iff_last tracks.sorted order isLast]
    have hasLeft : oldest + window < now + secondsToWait oldest now := by
      rw [secondsToWait_eq isOldest]
      have rounded := Int.lt_floor_add_one (oldest + window - now)
      push_cast
      linarith
    have hasLeftLast := together oldest last isOldest isLast _ hasLeft
    linarith

/-- After every history the windows block, agree and are prompt; the seconds that they
tell suffice just when the failures that keep the window full leave it together. -/
theorem windows_exact (history : List Event) (key : String) (now : ℚ)
    (sorted : history.Pairwise fun first second => first.time ≤ second.time)
    (early : ∀ event ∈ history, event.time ≤ now) :
    Exact (run history) (uncleared key history) key now ↔
      LeavesTogether now (uncleared key history) := by
  have tracks : Tracks (run history) key (uncleared key history) now :=
    tracks_run sorted early
  constructor
  · intro isExact
    exact tracks.freed_iff.mp isExact.freed
  · intro together
    constructor
    · exact tracks.blocks
    · rw [tracks.retryAfter_eq le_rfl, tracks.retryAfter_eq le_rfl]
    · exact tracks.freed_iff.mpr together
    · intro backend seconds wait isTold nonneg isFree
      exact tracks.prompt isTold nonneg isFree

end Exactness

/-- So many failures of one key, ten seconds apart. -/
def failuresInRow (count : ℕ) : List Event :=
  (List.range count).map fun index =>
    ⟨"10.0.0.7:ada@example.com", 10 * index, .recordFailure⟩

/-- Five failures leave the window with the oldest of them. -/
theorem windows_exact_five :
    Exact (run (failuresInRow 5)) (uncleared "10.0.0.7:ada@example.com" (failuresInRow 5))
      "10.0.0.7:ada@example.com" 60 := by
  apply (windows_exact (failuresInRow 5) "10.0.0.7:ada@example.com" 60
    (by decide +kernel) (by decide +kernel)).mpr
  intro oldest last isOldest isLast seconds hasLeft
  have oldestZero : oldest = 0 := by
    have found : some oldest = some 0 := isOldest.symm.trans (by decide +kernel)
    exact Option.some.inj found
  have lastZero : last = 0 := by
    have found : some last = some 0 := isLast.symm.trans (by decide +kernel)
    exact Option.some.inj found
  rw [oldestZero] at hasLeft
  rw [lastZero]
  exact le_of_lt hasLeft

/-- Of six failures five are still there when the oldest has left. -/
theorem windows_not_exact : ¬ Exact (run (failuresInRow 6))
    (uncleared "10.0.0.7:ada@example.com" (failuresInRow 6))
      "10.0.0.7:ada@example.com" 60 := by
  intro isExact
  have freed := isExact.freed .redis 841 (by decide +kernel)
  have stays : (step (run (failuresInRow 6))
      ⟨"10.0.0.7:ada@example.com", 60, .check⟩).retryAfter .redis
        "10.0.0.7:ada@example.com" (60 + (841 : ℤ)) ≠ none := by
    decide +kernel
  exact stays freed

end DbBuddy.Auth.LoginWindows
