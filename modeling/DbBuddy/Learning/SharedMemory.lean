import DbBuddy.Library.Dict
import DbBuddy.Library.Exclusion
import DbBuddy.Library.TransitionSystem
import DbBuddy.Planner.Intents
import Mathlib.Data.List.MinMax

/-!
# The learning memory

All databases share one file of what was learned.  An update loads the memory of its
own scope, counts what it has learned, reads the whole file again, puts its scope in
and writes the file: it empties the file first and fills it afterwards.  A file that
cannot be read counts as blank.
-/

namespace DbBuddy.Learning

open DbBuddy.Library DbBuddy.Planner

universe u

/-! ## What a question teaches -/

/-- `stopwords` -/
def stopwords : List String :=
  ["the", "is", "of", "by", "with", "and", "or", "in", "on", "at", "to", "for",
    "from", "as", "a", "an", "top", "most", "highest", "lowest", "show", "get",
    "list", "find", "what", "how", "many", "much", "more", "than", "average",
    "count", "per", "total", "user", "users"]

/-- `MEASURE_COLUMNS` -/
def measureColumns : List String :=
  ["amount", "price", "value", "total", "cost", "revenue"]

/-- `MEASURE_TERMS` -/
def measureTerms : List String :=
  ["revenue", "sales", "income", "earnings", "profit", "payments", "amount",
    "value", "cost", "total", "price"]

section Lessons

variable (unicode : Unicode)

/-- `extract_keywords` -/
def extractKeywords (query : String) : List String :=
  let tokens := ((words (unicode.lower query).toList).map String.ofList).filter
    fun word => decide (3 ≤ word.toList.length ∧ word ∉ stopwords)
  let paid := if "revenue" ∈ tokens then tokens ++ ["payments"] else tokens
  if "person" ∈ paid then paid ++ ["users"] else paid

/-- What one update counts: some terms that mean a column, and a use of the column
and of its table. -/
structure Lesson where
  terms : List String
  table : String
  column : String
  deriving DecidableEq, Repr

/-- The lesson of a question that was answered, if there is one. -/
def lesson (enabled success : Bool) (query : String) (intent : Intent) :
    Option Lesson :=
  if enabled = false ∨ success = false ∨ intent.tables = [] then none
  else
    match intent.aggregation.bind MeasureRequest.column with
    | none => none
    | some (table, column) =>
        if table = "" ∨ column = "" ∨ unicode.lower column ∉ measureColumns then none
        else some ⟨(extractKeywords unicode query).filter fun term =>
          decide (unicode.lower term ∈ measureTerms), table, column⟩

end Lessons

/-! ## The memory of a scope -/

abbrev Counts := Dict String ℕ

/-- One more of a key. -/
def Counts.bump (counts : Counts) (key : String) : Counts :=
  counts.assign key ((counts.lookup key).getD 0 + 1)

structure Memory where
  mappings : Dict String Counts
  columnUsage : Counts
  tableUsage : Counts
  deriving DecidableEq

namespace Memory

/-- `_EMPTY_SCOPE` -/
def blank : Memory := ⟨∅, ∅, ∅⟩

/-- `MAX_MAPPINGS_PER_TERM` -/
def maxMappingsPerTerm : ℕ := 3

/-- `min(counts, key=counts.get)`, the first of the lowest ones. -/
def lowest (counts : Counts) : Option String :=
  (counts.entries.argmin fun entry => entry.snd).map Sigma.fst

/-- `add_mapping`; `none` is the `KeyError` of a target that the pruning has
removed and the log then asks for. -/
def addMapping (memory : Memory) (term target : String) : Option Memory :=
  let counted := Counts.bump ((memory.mappings.lookup term).getD ∅) target
  if maxMappingsPerTerm < counted.entries.length then
    match lowest counted with
    | none => none
    | some weakest =>
        if weakest = target then none
        else some { memory with
          mappings := memory.mappings.assign term (counted.erase weakest) }
  else some { memory with mappings := memory.mappings.assign term counted }

/-- Every term of a lesson, one after another. -/
def addMappings (memory : Memory) (target : String) : List String → Option Memory
  | [] => some memory
  | term :: rest =>
      (memory.addMapping term target).bind fun added => added.addMappings target rest

/-- What an update makes of the memory it has loaded. -/
def learn (memory : Memory) (lesson : Lesson) : Option Memory :=
  let reference := lesson.table ++ "." ++ lesson.column
  (memory.addMappings reference lesson.terms).map fun mapped =>
    { mapped with
      columnUsage := Counts.bump mapped.columnUsage reference
      tableUsage := Counts.bump mapped.tableUsage lesson.table }

end Memory

/-! ## The file and its updates -/

/-- The file: absent, not readable as it is being written, or whole. -/
inductive Content where
  | missing
  | broken
  | whole (scopes : String → Option Memory)

/-- `_load_file` -/
def Content.scopes : Content → String → Option Memory
  | .whole scopes => scopes
  | _ => fun _ => none

/-- `load_memory` -/
def Content.memory (content : Content) (scope : String) : Memory :=
  (content.scopes scope).getD Memory.blank

/-- `DEFAULT_SCOPE` -/
def defaultScope : String := "_unscoped"

/-- The scope that `save_memory` writes. -/
def savedScope (scope : String) : String :=
  if scope = "" then defaultScope else scope

/-- What one call of `update_memory` is given. -/
structure Update where
  scope : String
  lesson : Lesson

/-- Where one update stands.  `gathered` and `emptied` hold what it will write. -/
inductive Phase where
  | ready
  | loaded (memory : Memory)
  | gathered (scopes : String → Option Memory)
  | emptied (scopes : String → Option Memory)
  | finished
  | failed

/-- Between the second reading of the file and the end of the writing. -/
def Phase.saving : Phase → Bool
  | .gathered _ => true
  | .emptied _ => true
  | _ => false

/-- Between the first reading and the end. -/
def Phase.underWay : Phase → Bool
  | .loaded _ => true
  | .gathered _ => true
  | .emptied _ => true
  | _ => false

/-- `history` is bookkeeping of the model: the updates that have been written. -/
structure State (Call : Type u) where
  content : Content
  history : List Call
  phase : Call → Phase

/-- `covers`: the new text is at least as long as one that was written after the file
was emptied for it. -/
inductive Label (Call : Type u) where
  | load (call : Call)
  | gather (call : Call)
  | empty (call : Call)
  | fill (call : Call) (covers : Bool)

section Steps

variable {Call : Type u} [DecidableEq Call]

def State.setPhase (state : State Call) (call : Call) (next : Phase) : State Call :=
  { state with phase := Function.update state.phase call next }

/-- One atomic step. -/
def step (update : Call → Update) (state : State Call) :
    Label Call → Option (State Call)
  | .load call =>
      match state.phase call with
      | .ready => some (state.setPhase call
          (.loaded (state.content.memory (update call).scope)))
      | _ => none
  | .gather call =>
      match state.phase call with
      | .loaded memory =>
          match memory.learn (update call).lesson with
          | none => some (state.setPhase call .failed)
          | some learned => some (state.setPhase call
              (.gathered (Function.update state.content.scopes
                (savedScope (update call).scope) (some learned))))
      | _ => none
  | .empty call =>
      match state.phase call with
      | .gathered scopes => some
          { state.setPhase call (.emptied scopes) with content := .broken }
      | _ => none
  | .fill call covers =>
      match state.phase call with
      | .emptied scopes => some
          { state.setPhase call .finished with
            content :=
              match state.content with
              | .whole _ => if covers then .whole scopes else .broken
              | _ => .whole scopes
            history := state.history ++ [call] }
      | _ => none

/-- A file that can be read, and no update yet. -/
def Initial (state : State Call) : Prop :=
  state.content ≠ .broken ∧ state.history = [] ∧
    ∀ call, state.phase call = .ready

def system (update : Call → Update) :
    TransitionSystem (State Call) (Label Call) where
  initial := Initial
  step := step update

end Steps

/-! ## What a step can do -/

section Inversion

variable {Call : Type u} [DecidableEq Call] {update : Call → Update}
variable {state next : State Call} {call : Call}

theorem step_load (stepped : step update state (.load call) = some next) :
    state.phase call = .ready ∧ next = state.setPhase call
      (.loaded (state.content.memory (update call).scope)) := by
  simp only [step] at stepped
  split at stepped
  · rename_i isReady
    cases stepped
    exact ⟨isReady, rfl⟩
  · cases stepped

theorem step_gather (stepped : step update state (.gather call) = some next) :
    ∃ memory, state.phase call = .loaded memory ∧
      (memory.learn (update call).lesson = none ∧
          next = state.setPhase call .failed ∨
        ∃ learned, memory.learn (update call).lesson = some learned ∧
          next = state.setPhase call (.gathered (Function.update
            state.content.scopes (savedScope (update call).scope)
              (some learned)))) := by
  simp only [step] at stepped
  split at stepped
  · rename_i memory isLoaded
    refine ⟨memory, isLoaded, ?_⟩
    split at stepped
    · rename_i fails
      cases stepped
      exact Or.inl ⟨fails, rfl⟩
    · rename_i learned learns
      cases stepped
      exact Or.inr ⟨learned, learns, rfl⟩
  · cases stepped

theorem step_empty (stepped : step update state (.empty call) = some next) :
    ∃ scopes, state.phase call = .gathered scopes ∧
      next = { state.setPhase call (.emptied scopes) with content := .broken } := by
  simp only [step] at stepped
  split at stepped
  · rename_i scopes isGathered
    cases stepped
    exact ⟨scopes, isGathered, rfl⟩
  · cases stepped

theorem step_fill {covers : Bool}
    (stepped : step update state (.fill call covers) = some next) :
    ∃ scopes, state.phase call = .emptied scopes ∧
      next = { state.setPhase call .finished with
        content :=
          match state.content with
          | .whole _ => if covers then .whole scopes else .broken
          | _ => .whole scopes
        history := state.history ++ [call] } := by
  simp only [step] at stepped
  split at stepped
  · rename_i scopes isEmptied
    cases stepped
    exact ⟨scopes, isEmptied, rfl⟩
  · cases stepped

end Inversion

/-! ## What is learned one update after another -/

section Replay

variable {Call : Type u} (update : Call → Update)

/-- One update of the memories of all scopes. -/
def taught (memories : String → Memory) (call : Call) :
    Option (String → Memory) :=
  ((memories (update call).scope).learn (update call).lesson).map
    (Function.update memories (update call).scope)

/-- Some updates, one after another. -/
def replay (memories : String → Memory) (history : List Call) :
    Option (String → Memory) :=
  history.foldlM (taught update) memories

variable {update}

theorem replay_append {memories replayed : String → Memory} {history : List Call}
    (isReplayed : replay update memories history = some replayed) (call : Call) :
    replay update memories (history ++ [call]) = taught update replayed call := by
  unfold replay at isReplayed ⊢
  rw [List.foldlM_append, isReplayed]
  simp

/-- An update changes no other scope. -/
theorem taught_of_ne {memories learned : String → Memory} {call : Call}
    {scope : String} (isTaught : taught update memories call = some learned)
    (different : scope ≠ (update call).scope) : learned scope = memories scope := by
  unfold taught at isTaught
  obtain ⟨own, _, rfl⟩ := Option.map_eq_some_iff.mp isTaught
  exact Function.update_of_ne different _ _

/-- Updates of other scopes change nothing. -/
theorem replay_of_ne {memories replayed : String → Memory} {history : List Call}
    {scope : String} (isReplayed : replay update memories history = some replayed)
    (different : ∀ call ∈ history, scope ≠ (update call).scope) :
    replayed scope = memories scope := by
  induction history generalizing memories with
  | nil =>
      cases isReplayed
      rfl
  | cons call rest inductionHypothesis =>
      unfold replay at isReplayed
      rw [List.foldlM_cons] at isReplayed
      obtain ⟨learned, isTaught, isRest⟩ := Option.bind_eq_some_iff.mp isReplayed
      rw [inductionHypothesis isRest fun later isLater =>
        different later (List.mem_cons_of_mem _ isLater)]
      exact taught_of_ne isTaught (different call List.mem_cons_self)

end Replay

/-! ## The invariant -/

section Invariant

variable {Call : Type u}

/-- A call saves while no other one does, on top of what it has loaded, in a scope of
its own name, and a lesson that its memory takes. -/
def Separate (update : Call → Update) (state : State Call) : Label Call → Prop
  | .gather call => (∀ other, (state.phase other).saving = false) ∧
      (update call).scope ≠ "" ∧
      ∀ memory, state.phase call = .loaded memory →
        state.content.memory (update call).scope = memory ∧
          (memory.learn (update call).lesson).isSome = true
  | _ => True

/-- What a call is about to write is what its update makes of the memories. -/
def Writes (update : Call → Update) (memories : String → Memory) (call : Call)
    (scopes : String → Option Memory) : Prop :=
  ∃ learned, taught update memories call = some learned ∧
    ∀ scope, (scopes scope).getD Memory.blank = learned scope

/-- Only the call that has emptied the file keeps it from being read, and the file
holds the written updates and no others. -/
structure Steady (update : Call → Update) (start : String → Memory)
    (state : State Call) : Prop where
  alone : Alone Phase.saving state.phase
  unfailed : ∀ call, state.phase call ≠ .failed
  nodup : state.history.Nodup
  written : ∀ call, call ∈ state.history ↔ state.phase call = .finished
  emptied : state.content = .broken ↔
    ∃ call scopes, state.phase call = .emptied scopes
  holds : ∃ memories, replay update start state.history = some memories ∧
    (state.content ≠ .broken → ∀ scope,
      state.content.memory scope = memories scope) ∧
    ∀ call scopes,
      state.phase call = .gathered scopes ∨ state.phase call = .emptied scopes →
        Writes update memories call scopes

variable [DecidableEq Call] {update : Call → Update} {start : String → Memory}
variable {state next : State Call} {call : Call}

omit [DecidableEq Call] in
theorem steady_initial (isInitial : Initial state) :
    Steady update state.content.memory state := by
  obtain ⟨readable, noHistory, ready⟩ := isInitial
  refine ⟨?_, ?_, ?_, ?_, ?_, ?_⟩
  · exact alone_of_idle fun call => by rw [ready call]; rfl
  · intro call isFailed
    simp [ready call] at isFailed
  · simp [noHistory]
  · intro call
    simp [noHistory, ready call]
  · simp [readable, ready]
  · refine ⟨state.content.memory, by rw [noHistory]; rfl, fun _ _ => rfl, ?_⟩
    intro call scopes saving
    simp [ready call] at saving

/-- A step of a call that neither empties the file nor ends, and that writes, if it
will, what its update makes of the memories. -/
theorem steady_setPhase {phase : Phase} (steady : Steady update start state)
    (alone : Alone Phase.saving (Function.update state.phase call phase))
    (wasOpen : state.phase call ≠ .finished)
    (unemptied : ∀ scopes, state.phase call ≠ .emptied scopes)
    (isOpen : phase ≠ .finished ∧ phase ≠ .failed)
    (notEmptied : ∀ scopes, phase ≠ .emptied scopes)
    (writes : ∀ memories scopes,
      replay update start state.history = some memories →
      (state.content ≠ .broken → ∀ scope,
        state.content.memory scope = memories scope) →
      phase = .gathered scopes → Writes update memories call scopes) :
    Steady update start (state.setPhase call phase) := by
  refine ⟨alone, ?_, steady.nodup, ?_, ?_, ?_⟩
  · intro other isFailed
    rcases update_eq_iff.mp isFailed with ⟨_, same⟩ | ⟨_, wasFailed⟩
    · exact isOpen.2 same
    · exact steady.unfailed other wasFailed
  · intro other
    rw [State.setPhase, update_eq_iff]
    constructor
    · intro isWritten
      have wasFinished := (steady.written other).mp isWritten
      refine Or.inr ⟨?_, wasFinished⟩
      intro same
      rw [same] at wasFinished
      exact wasOpen wasFinished
    · rintro (⟨_, same⟩ | ⟨_, wasFinished⟩)
      · exact absurd same isOpen.1
      · exact (steady.written other).mpr wasFinished
  · refine steady.emptied.trans ?_
    constructor
    · rintro ⟨other, scopes, wasEmptied⟩
      refine ⟨other, scopes, update_eq_iff.mpr (Or.inr ⟨?_, wasEmptied⟩)⟩
      intro same
      rw [same] at wasEmptied
      exact unemptied scopes wasEmptied
    · rintro ⟨other, scopes, isEmptied⟩
      rcases update_eq_iff.mp isEmptied with ⟨_, same⟩ | ⟨_, wasEmptied⟩
      · exact absurd same (notEmptied scopes)
      · exact ⟨other, scopes, wasEmptied⟩
  · obtain ⟨memories, isReplayed, held, wrote⟩ := steady.holds
    refine ⟨memories, isReplayed, held, ?_⟩
    rintro other scopes (isGathered | isEmptied)
    · rcases update_eq_iff.mp isGathered with ⟨isCall, same⟩ | ⟨_, wasGathered⟩
      · rw [isCall]
        exact writes memories scopes isReplayed held same
      · exact wrote other scopes (Or.inl wasGathered)
    · rcases update_eq_iff.mp isEmptied with ⟨_, same⟩ | ⟨_, wasEmptied⟩
      · exact absurd same (notEmptied scopes)
      · exact wrote other scopes (Or.inr wasEmptied)

theorem steady_load (steady : Steady update start state)
    (stepped : step update state (.load call) = some next) :
    Steady update start next := by
  obtain ⟨isReady, rfl⟩ := step_load stepped
  refine steady_setPhase steady (steady.alone.update_idle rfl call) ?_ ?_ ?_ ?_ ?_
  · simp [isReady]
  · simp [isReady]
  · simp
  · simp
  · intro memories scopes _ _ isGathered
    cases isGathered

/-- A call that saves on top of what it has loaded writes its update. -/
theorem steady_gather (steady : Steady update start state)
    (separate : Separate update state (.gather call))
    (stepped : step update state (.gather call) = some next) :
    Steady update start next := by
  obtain ⟨idle, named, fits⟩ := separate
  have sameScope : savedScope (update call).scope = (update call).scope :=
    if_neg named
  obtain ⟨memory, isLoaded, went⟩ := step_gather stepped
  obtain ⟨sameMemory, learnable⟩ := fits memory isLoaded
  rcases went with ⟨fails, _⟩ | ⟨learned, learns, rfl⟩
  · rw [fails] at learnable
    cases learnable
  · have readable : state.content ≠ .broken := by
      intro isBroken
      obtain ⟨other, scopes, isEmptied⟩ := steady.emptied.mp isBroken
      have isIdle := idle other
      rw [isEmptied] at isIdle
      cases isIdle
    have only := onlyActive_of_idle idle call
    refine steady_setPhase steady (only.alone_update _) ?_ ?_ ?_ ?_ ?_
    · simp [isLoaded]
    · simp [isLoaded]
    · simp
    · simp
    · intro memories scopes _ held isGathered
      cases isGathered
      have isHeld := held readable (update call).scope
      refine ⟨Function.update memories (update call).scope learned, ?_, ?_⟩
      · rw [taught, ← isHeld, sameMemory, learns]
        rfl
      · intro scope
        rw [sameScope]
        by_cases same : scope = (update call).scope
        · subst same
          rw [Function.update_self, Function.update_self]
          rfl
        · rw [Function.update_of_ne same, Function.update_of_ne same]
          exact held readable scope

theorem steady_empty (steady : Steady update start state)
    (stepped : step update state (.empty call) = some next) :
    Steady update start next := by
  obtain ⟨scopes, isGathered, rfl⟩ := step_empty stepped
  have only : OnlyActive Phase.saving state.phase call :=
    steady.alone.only (by rw [isGathered]; rfl)
  obtain ⟨memories, isReplayed, _, wrote⟩ := steady.holds
  refine ⟨only.alone_update _, ?_, steady.nodup, ?_, ?_, memories, isReplayed, ?_, ?_⟩
  · intro other isFailed
    rcases update_eq_iff.mp isFailed with ⟨_, same⟩ | ⟨_, wasFailed⟩
    · cases same
    · exact steady.unfailed other wasFailed
  · intro other
    refine (steady.written other).trans ?_
    constructor
    · intro wasFinished
      refine update_eq_iff.mpr (Or.inr ⟨?_, wasFinished⟩)
      intro same
      rw [same, isGathered] at wasFinished
      cases wasFinished
    · intro isFinished
      rcases update_eq_iff.mp isFinished with ⟨_, same⟩ | ⟨_, wasFinished⟩
      · cases same
      · exact wasFinished
  · refine ⟨fun _ => ⟨call, scopes, Function.update_self _ _ _⟩, fun _ => rfl⟩
  · intro unbroken
    exact absurd rfl unbroken
  · rintro other written (isStill | isEmptied)
    · rcases update_eq_iff.mp isStill with ⟨_, same⟩ | ⟨_, wasGathered⟩
      · cases same
      · exact wrote other written (Or.inl wasGathered)
    · rcases update_eq_iff.mp isEmptied with ⟨isCall, same⟩ | ⟨_, wasEmptied⟩
      · cases same
        rw [isCall]
        exact wrote call scopes (Or.inl isGathered)
      · exact wrote other written (Or.inr wasEmptied)

/-- The file is whole again, with one update more. -/
theorem steady_fill {covers : Bool} (steady : Steady update start state)
    (stepped : step update state (.fill call covers) = some next) :
    Steady update start next := by
  obtain ⟨scopes, isEmptied, rfl⟩ := step_fill stepped
  have only : OnlyActive Phase.saving state.phase call :=
    steady.alone.only (by rw [isEmptied]; rfl)
  have isBroken : state.content = .broken :=
    steady.emptied.mpr ⟨call, scopes, isEmptied⟩
  obtain ⟨memories, isReplayed, _, wrote⟩ := steady.holds
  obtain ⟨learned, isTaught, agrees⟩ := wrote call scopes (Or.inr isEmptied)
  have stillSaving : ∀ other, (Function.update state.phase call .finished other).saving =
      false := by
    intro other
    by_cases same : other = call
    · rw [same, Function.update_self]
      rfl
    · rw [Function.update_of_ne same]
      exact only other same
  have unwritten : call ∉ state.history := by
    intro isIn
    have isFinished := (steady.written call).mp isIn
    rw [isEmptied] at isFinished
    cases isFinished
  refine ⟨alone_of_idle stillSaving, ?_, ?_, ?_, ?_, learned, ?_, ?_, ?_⟩
  · intro other isFailed
    rcases update_eq_iff.mp isFailed with ⟨_, same⟩ | ⟨_, wasFailed⟩
    · cases same
    · exact steady.unfailed other wasFailed
  · rw [List.nodup_append]
    refine ⟨steady.nodup, List.nodup_singleton call, ?_⟩
    intro one isOld other isNew same
    rw [same, List.mem_singleton.mp isNew] at isOld
    exact unwritten isOld
  · intro other
    dsimp only [State.setPhase]
    rw [List.mem_append, List.mem_singleton, steady.written other, update_eq_iff]
    constructor
    · rintro (wasFinished | isCall)
      · refine Or.inr ⟨?_, wasFinished⟩
        intro same
        rw [same, isEmptied] at wasFinished
        cases wasFinished
      · exact Or.inl ⟨isCall, rfl⟩
    · rintro (⟨isCall, _⟩ | ⟨_, wasFinished⟩)
      · exact Or.inr isCall
      · exact Or.inl wasFinished
  · rw [isBroken]
    constructor
    · intro isStill
      cases isStill
    · rintro ⟨other, still, isEmptied⟩
      have unsaved := stillSaving other
      rw [show Function.update state.phase call .finished other = .emptied still
        from isEmptied] at unsaved
      cases unsaved
  · rw [← isTaught]
    exact replay_append isReplayed call
  · intro _ scope
    rw [isBroken]
    exact agrees scope
  · intro other still saving
    have unsaved := stillSaving other
    rcases saving with isGathered | isEmptied
    · rw [show Function.update state.phase call .finished other = .gathered still
        from isGathered] at unsaved
      cases unsaved
    · rw [show Function.update state.phase call .finished other = .emptied still
        from isEmptied] at unsaved
      cases unsaved

theorem steady_step (steady : Steady update start state) {label : Label Call}
    (separate : Separate update state label)
    (stepped : step update state label = some next) : Steady update start next := by
  cases label with
  | load call => exact steady_load steady stepped
  | gather call => exact steady_gather steady separate stepped
  | empty call => exact steady_empty steady stepped
  | fill call covers => exact steady_fill steady stepped

end Invariant

/-! ## No update is lost -/

section Law

variable {Call : Type u}

/-- Every update that has begun is in the file, once, on top of what the file held
at the start; and a scope without updates is as it was. -/
structure NothingLost (update : Call → Update) (start : String → Memory)
    (state : State Call) : Prop where
  begun : ∀ call, state.phase call = .ready ∨ call ∈ state.history
  once : state.history.Nodup
  kept : ∃ memories, replay update start state.history = some memories ∧
    ∀ scope, state.content.memory scope = memories scope
  apart : ∀ scope, (∀ call ∈ state.history, scope ≠ (update call).scope) →
    state.content.memory scope = start scope

variable [DecidableEq Call]

/-- In every run whose calls save apart from each other, nothing is lost once all of
them have ended. -/
theorem updateMemory_keepsAll (update : Call → Update) {start state : State Call}
    (isInitial : Initial start)
    (run : (system update).Reaches (Separate update) start state)
    (ended : ∀ call, (state.phase call).underWay = false) :
    NothingLost update start.content.memory state := by
  have steady : Steady update start.content.memory state :=
    run.preserves (Steady update start.content.memory)
      (fun _ _ _ steady separate stepped => steady_step steady separate stepped)
      (steady_initial isInitial)
  have readable : state.content ≠ .broken := by
    intro isBroken
    obtain ⟨call, scopes, isEmptied⟩ := steady.emptied.mp isBroken
    have hasEnded := ended call
    rw [isEmptied] at hasEnded
    cases hasEnded
  obtain ⟨memories, isReplayed, held, _⟩ := steady.holds
  refine ⟨?_, steady.nodup, ⟨memories, isReplayed, held readable⟩, ?_⟩
  · intro call
    have hasEnded := ended call
    cases isPhase : state.phase call with
    | ready => exact Or.inl rfl
    | finished => exact Or.inr ((steady.written call).mpr isPhase)
    | failed => exact absurd isPhase (steady.unfailed call)
    | loaded memory => simp [isPhase, Phase.underWay] at hasEnded
    | gathered scopes => simp [isPhase, Phase.underWay] at hasEnded
    | emptied scopes => simp [isPhase, Phase.underWay] at hasEnded
  · intro scope different
    rw [held readable scope]
    exact replay_of_ne isReplayed different

end Law

/-! ### Two databases that are asked at once -/

/-- Revenue is looked for in both databases. -/
def twoShops (call : Bool) : Update :=
  ⟨if call then "books" else "toys", ⟨["revenue"], "payments", "amount"⟩⟩

def noFile : State Bool := ⟨.missing, [], fun _ => .ready⟩

def shopsRun (labels : List (Label Bool)) : State Bool :=
  ((system twoShops).exec noFile labels).getD noFile

/-- Both databases are loaded before the one is saved, and then the other. -/
def inTurn : List (Label Bool) :=
  [.load false, .load true, .gather false, .empty false, .fill false true,
    .gather true, .empty true, .fill true true]

/-- What a call writes of its own accord once it has gathered it. -/
theorem reaches_written (call : Bool) {state next : State Bool}
    (executed : (system twoShops).exec state [.empty call, .fill call true] = some next) :
    (system twoShops).Reaches (Separate twoShops) state next := by
  apply TransitionSystem.reaches_of_exec_allowed [.empty call, .fill call true] _ executed
  intro label isNext source
  rcases List.mem_pair.mp isNext with rfl | rfl
  · trivial
  · trivial

/-- Either database has learned its lesson. -/
theorem updateMemory_keepsAll_both :
    (shopsRun inTurn).history = [false, true] ∧
      NothingLost twoShops noFile.content.memory (shopsRun inTurn) := by
  have loaded : (system twoShops).Reaches (Separate twoShops) noFile
      (shopsRun [.load false, .load true]) :=
    (TransitionSystem.Reaches.single (.load false) trivial rfl).trans
      (TransitionSystem.Reaches.single (.load true) trivial rfl)
  have toysFirst : Separate twoShops (shopsRun [.load false, .load true]) (.gather false) := by
    refine ⟨fun other => ?_, by decide, fun memory isLoaded => ?_⟩
    · cases other with
      | false => rfl
      | true => rfl
    · cases isLoaded
      exact ⟨rfl, rfl⟩
  have toys : (system twoShops).Reaches (Separate twoShops) noFile
      (shopsRun (inTurn.take 5)) :=
    (loaded.tail (.gather false) toysFirst rfl).trans (reaches_written false rfl)
  have booksNext : Separate twoShops (shopsRun (inTurn.take 5)) (.gather true) := by
    refine ⟨fun other => ?_, by decide, fun memory isLoaded => ?_⟩
    · cases other with
      | false => rfl
      | true => rfl
    · cases isLoaded
      exact ⟨rfl, rfl⟩
  have books : (system twoShops).Reaches (Separate twoShops) noFile (shopsRun inTurn) :=
    (toys.tail (.gather true) booksNext rfl).trans (reaches_written true rfl)
  refine ⟨rfl, ?_⟩
  apply updateMemory_keepsAll twoShops ⟨by simp [noFile], rfl, fun _ => rfl⟩ books
  intro call
  cases call with
  | false => rfl
  | true => rfl

/-- Both read the file before either has written it. -/
def atOnce : List (Label Bool) :=
  [.load false, .load true, .gather false, .gather true, .empty false,
    .fill false true, .empty true, .fill true true]

theorem updateMemory_loses :
    ¬ ∀ state, (system twoShops).Reaches (fun _ _ => True) noFile state →
      (∀ call, (state.phase call).underWay = false) →
      NothingLost twoShops noFile.content.memory state := by
  intro keepsAll
  have reached : (system twoShops).Reaches (fun _ _ => True) noFile
      (shopsRun atOnce) :=
    TransitionSystem.reaches_of_exec atOnce rfl
  have ended : ∀ call, ((shopsRun atOnce).phase call).underWay = false := by
    intro call
    cases call with
    | false => rfl
    | true => rfl
  obtain ⟨memories, isReplayed, holds⟩ := (keepsAll _ reached ended).kept
  have toys := holds "toys"
  have replayed : (replay twoShops noFile.content.memory
      (shopsRun atOnce).history).map (fun memories =>
        (memories "toys").tableUsage.lookup "payments") = some (some 1) := by
    decide
  rw [isReplayed, Option.map_some, ← toys] at replayed
  revert replayed
  decide

end DbBuddy.Learning
