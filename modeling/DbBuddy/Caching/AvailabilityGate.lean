import Mathlib.Data.List.Basic

/-!
# The availability gate of the Redis client

After a run of errors the client parks itself and lets nothing through until a
cooldown is over.  Every command (`get`, `set`, `delete`, `flush_db` and
`clear_prefix`) asks the gate first and tells it how the server answered; a `set`
of a value that cannot be serialised sends nothing and tells nothing, and
`invalidate_schema_cache` is two `clear_prefix` commands behind a check of its own.
-/

namespace DbBuddy.Caching

/-- `ERROR_THRESHOLD` and `RECOVERY_SECONDS`, the latter in the unit of the clock. -/
structure GateConfig where
  errorThreshold : Int
  recovery : ℕ
  deriving DecidableEq, Repr

/-- `connected`, `_consecutive_errors` and `_blocked_until`; the gate has tripped
unless the last of them is zero. -/
structure Gate where
  connected : Bool
  consecutiveErrors : ℕ
  blockedUntil : Int
  deriving DecidableEq, Repr

/-- A command that is not answered before it is issued. -/
structure Command where
  issued : ℕ
  settled : ℕ
  fails : Bool
  deriving DecidableEq, Repr

namespace Gate

/-- A client whose constructor has reached the server. -/
def fresh : Gate := ⟨true, 0, 0⟩

def Tripped (gate : Gate) : Prop := gate.blockedUntil ≠ 0

instance (gate : Gate) : Decidable gate.Tripped :=
  inferInstanceAs (Decidable (gate.blockedUntil ≠ 0))

/-- `_available` -/
def available (gate : Gate) (now : Int) : Bool :=
  if gate.connected = false then false
  else if gate.Tripped ∧ now < gate.blockedUntil then false
  else true

/-- `_note_success` -/
def noteSuccess (gate : Gate) : Gate :=
  if gate.consecutiveErrors ≠ 0 ∨ gate.Tripped then
    { gate with consecutiveErrors := 0, blockedUntil := 0 }
  else gate

/-- `_note_error` -/
def noteError (config : GateConfig) (gate : Gate) (now : Int) : Gate :=
  let errors := gate.consecutiveErrors + 1
  if config.errorThreshold ≤ errors ∧ ¬ gate.Tripped then
    { gate with
      consecutiveErrors := errors
      blockedUntil := now + config.recovery }
  else { gate with consecutiveErrors := errors }

/-- A command is sent if the gate lets it through. -/
def sends (gate : Gate) (command : Command) : Bool :=
  gate.available command.issued

/-- One command. -/
def issue (config : GateConfig) (gate : Gate) (command : Command) : Gate :=
  if gate.sends command then
    if command.fails then gate.noteError config command.settled
    else gate.noteSuccess
  else gate

/-- The gate after some commands. -/
def after (config : GateConfig) (gate : Gate) (commands : List Command) : Gate :=
  commands.foldl (issue config) gate

end Gate

/-- The commands come one after another, on a clock that has left zero. -/
def InOrder (commands : List Command) : Prop :=
  (∀ command ∈ commands,
    0 < command.issued ∧ command.issued ≤ command.settled) ∧
    commands.Pairwise fun command later => command.settled ≤ later.issued

/-! ## What one command does -/

section Steps

variable {config : GateConfig} {gate : Gate} {command : Command}

@[simp]
theorem after_nil : gate.after config [] = gate := rfl

@[simp]
theorem after_cons (commands : List Command) :
    gate.after config (command :: commands) =
      (gate.issue config command).after config commands := rfl

theorem after_append (front back : List Command) :
    gate.after config (front ++ back) =
      (gate.after config front).after config back :=
  List.foldl_append

/-- A connected gate lets through what comes when it is not tripped, or when its
cooldown is over. -/
theorem sends_iff :
    gate.sends command = true ↔
      gate.connected = true ∧
        (gate.Tripped → gate.blockedUntil ≤ command.issued) := by
  unfold Gate.sends Gate.available
  split
  · rename_i apart
    simp [apart]
  · rename_i together
    have isConnected : gate.connected = true := by simpa using together
    split
    · rename_i parked
      simp only [Bool.false_eq_true, false_iff, not_and]
      intro _ isOver
      have later := isOver parked.1
      omega
    · rename_i isOpen
      simp only [true_iff]
      refine ⟨isConnected, fun tripped => ?_⟩
      by_contra early
      exact isOpen ⟨tripped, by omega⟩

/-- No command connects or disconnects the client. -/
@[simp]
theorem issue_connected :
    (gate.issue config command).connected = gate.connected := by
  unfold Gate.issue Gate.noteError Gate.noteSuccess
  simp only
  split_ifs
  all_goals rfl

/-- A tripped gate keeps the end of its first cooldown until a command
succeeds. -/
theorem issue_of_tripped (tripped : gate.Tripped)
    (fails : gate.sends command = true → command.fails = true) :
    (gate.issue config command).blockedUntil = gate.blockedUntil := by
  unfold Gate.issue
  split
  · rename_i isSent
    rw [if_pos (fails isSent)]
    unfold Gate.noteError
    simp [tripped]
  · rfl

/-- A success resets the gate. -/
theorem issue_of_success (isSent : gate.sends command = true)
    (succeeds : command.fails = false) :
    gate.issue config command = ⟨gate.connected, 0, 0⟩ := by
  unfold Gate.issue Gate.noteSuccess
  rw [if_pos isSent, if_neg (by simp [succeeds])]
  split
  · rfl
  · rename_i isReset
    have isZero : gate.consecutiveErrors = 0 ∧ gate.blockedUntil = 0 := by
      simpa [Gate.Tripped] using isReset
    cases gate
    simp_all

/-- An error below the threshold is counted, and one that reaches it trips the
gate. -/
theorem issue_of_failure (config : GateConfig) (isConnected : gate.connected = true)
    (untripped : ¬ gate.Tripped) (fails : command.fails = true) :
    gate.issue config command =
      ⟨true, gate.consecutiveErrors + 1,
        if config.errorThreshold ≤ (gate.consecutiveErrors + 1 : ℕ) then
          command.settled + config.recovery else 0⟩ := by
  have isSent : gate.sends command = true :=
    sends_iff.mpr ⟨isConnected, fun tripped => absurd tripped untripped⟩
  have isZero : gate.blockedUntil = 0 := not_not.mp untripped
  unfold Gate.issue Gate.noteError
  rw [if_pos isSent, if_pos fails]
  simp only [untripped, not_false_eq_true, and_true]
  split
  · rw [isConnected]
  · rw [isConnected, isZero]

end Steps

/-! ## Outages -/

section Outages

variable (config : GateConfig)

/-- No command of these that is sent succeeds. -/
def NoneSucceeds : Gate → List Command → Prop
  | _, [] => True
  | gate, command :: rest =>
      (gate.sends command = true → command.fails = true) ∧
        NoneSucceeds (gate.issue config command) rest

variable {config} {gate : Gate}

theorem after_connected (commands : List Command) :
    (gate.after config commands).connected = gate.connected := by
  induction commands generalizing gate with
  | nil => rfl
  | cons command rest inductionHypothesis =>
      rw [after_cons, inductionHypothesis, issue_connected]

/-- An outage does not move the end of the cooldown. -/
theorem after_of_tripped {commands : List Command} (tripped : gate.Tripped)
    (outage : NoneSucceeds config gate commands) :
    (gate.after config commands).blockedUntil = gate.blockedUntil := by
  induction commands generalizing gate with
  | nil => rfl
  | cons command rest inductionHypothesis =>
      have kept : (gate.issue config command).blockedUntil = gate.blockedUntil :=
        issue_of_tripped tripped outage.1
      have stillTripped : (gate.issue config command).Tripped := by
        rw [Gate.Tripped, kept]
        exact tripped
      rw [after_cons, inductionHypothesis stillTripped outage.2, kept]

/-- From a gate that has counted some errors, an outage trips it exactly when it
brings the count to the threshold. -/
theorem after_outage {commands : List Command} (isConnected : gate.connected = true)
    (untripped : ¬ gate.Tripped)
    (onClock : ∀ command ∈ commands, 0 < command.settled)
    (outage : NoneSucceeds config gate commands) :
    (gate.after config commands).Tripped ↔
      commands ≠ [] ∧
        config.errorThreshold ≤
          (gate.consecutiveErrors + commands.length : ℕ) := by
  induction commands generalizing gate with
  | nil => simp [untripped]
  | cons command rest inductionHypothesis =>
      have settled := onClock command List.mem_cons_self
      have isSent : gate.sends command = true :=
        sends_iff.mpr ⟨isConnected, fun tripped => absurd tripped untripped⟩
      have issued := issue_of_failure config isConnected untripped
        (outage.1 isSent)
      rw [after_cons]
      by_cases reaches :
          config.errorThreshold ≤ (gate.consecutiveErrors + 1 : ℕ)
      · have trips : (gate.issue config command).Tripped := by
          rw [issued, if_pos reaches]
          have later : (command.settled + config.recovery : Int) ≠ 0 := by omega
          exact later
        have stays : ((gate.issue config command).after config rest).Tripped := by
          rw [Gate.Tripped, after_of_tripped trips outage.2]
          exact trips
        simp only [stays, true_iff, ne_eq, reduceCtorEq, not_false_eq_true,
          true_and, List.length_cons]
        omega
      · have counts : gate.issue config command =
            ⟨true, gate.consecutiveErrors + 1, 0⟩ := by
          rw [issued, if_neg reaches]
        have counted := inductionHypothesis (by rw [counts])
          (by simp [counts, Gate.Tripped])
          (fun later isLater => onClock later (List.mem_cons_of_mem _ isLater))
          outage.2
        rw [counted, counts]
        cases rest with
        | nil =>
            simp only [ne_eq, not_true_eq_false, false_and, false_iff, reduceCtorEq,
              not_false_eq_true, true_and, List.length_cons, List.length_nil]
            exact reaches
        | cons next others =>
            simp only [ne_eq, reduceCtorEq, not_false_eq_true, true_and,
              List.length_cons]
            omega

end Outages

/-! ## What the gate promises -/

section Law

variable (config : GateConfig) (gate : Gate) (commands : List Command)

/-- Of an outage, any two commands that are sent once the gate has tripped are as
far apart as the cooldown is long. -/
def SpacedOut : Prop :=
  ∀ front first between second back,
    commands = front ++ first :: (between ++ second :: back) →
    (gate.after config front).Tripped →
    NoneSucceeds config (gate.after config front) (first :: between) →
    (gate.after config front).sends first = true →
    (gate.after config (front ++ first :: between)).sends second = true →
    first.issued + config.recovery ≤ second.issued

/-- After a success the gate trips again with the error that reaches the
threshold, and with no earlier one. -/
def Rearmed : Prop :=
  ∀ front command outage back,
    commands = front ++ command :: (outage ++ back) →
    (gate.after config front).sends command = true →
    command.fails = false →
    NoneSucceeds config (gate.after config (front ++ [command])) outage →
    ((gate.after config (front ++ command :: outage)).Tripped ↔
      outage ≠ [] ∧ config.errorThreshold ≤ outage.length)

/-- What the gate is for. -/
structure GateLaw : Prop where
  spacedOut : SpacedOut config gate commands
  rearmed : Rearmed config gate commands

/-- Of an outage, no two commands are issued within the length of the cooldown
once the first cooldown is over. -/
def Patient : Prop :=
  ∀ front first between second back,
    commands = front ++ first :: (between ++ second :: back) →
    (gate.after config front).Tripped →
    NoneSucceeds config (gate.after config front) (first :: between) →
    (gate.after config front).blockedUntil ≤ first.issued →
    first.issued + config.recovery ≤ second.issued

end Law

section Proofs

variable {config : GateConfig} {gate : Gate} {commands : List Command}

/-- Without a connection nothing is sent, and nothing is counted. -/
theorem after_of_apart (isApart : gate.connected = false) (commands : List Command) :
    gate.after config commands = gate := by
  induction commands with
  | nil => rfl
  | cons command rest inductionHypothesis =>
      have unsent : gate.sends command = false := by
        simp [Gate.sends, Gate.available, isApart]
      have still : gate.issue config command = gate := by
        simp [Gate.issue, unsent]
      rw [after_cons, still, inductionHypothesis]

/-- Only a connected client trips its gate. -/
theorem connected_of_tripped {front : List Command} (untripped : ¬ gate.Tripped)
    (tripped : (gate.after config front).Tripped) :
    (gate.after config front).connected = true := by
  by_contra isApart
  rw [after_connected, Bool.not_eq_true] at isApart
  rw [after_of_apart isApart] at tripped
  exact untripped tripped

/-- Commands in order, at two places of the list. -/
theorem issued_le {front between back : List Command} {first second : Command}
    (inOrder : InOrder commands)
    (placed : commands = front ++ first :: (between ++ second :: back)) :
    first.issued ≤ second.issued := by
  have isFirst : first ∈ commands := by simp [placed]
  have settled := (inOrder.1 first isFirst).2
  have pairs := inOrder.2
  rw [placed, List.pairwise_append, List.pairwise_cons] at pairs
  have later := pairs.2.1.1 second (by simp)
  omega

/-- After the first cooldown of an outage the gate lets everything through. -/
theorem spacedOut_iff (untripped : ¬ gate.Tripped) (inOrder : InOrder commands) :
    SpacedOut config gate commands ↔ Patient config gate commands := by
  constructor
  · intro spaced front first between second back placed tripped outage isOver
    have isConnected := connected_of_tripped untripped tripped
    have sendsFirst : (gate.after config front).sends first = true :=
      sends_iff.mpr ⟨isConnected, fun _ => isOver⟩
    have kept : (gate.after config (front ++ first :: between)).blockedUntil =
        (gate.after config front).blockedUntil := by
      rw [after_append]
      exact after_of_tripped tripped outage
    have inTime := issued_le inOrder placed
    have sendsSecond :
        (gate.after config (front ++ first :: between)).sends second = true := by
      refine sends_iff.mpr ⟨?_, fun _ => ?_⟩
      · rw [after_connected, ← after_connected front]
        exact isConnected
      · rw [kept]
        omega
    exact spaced front first between second back placed tripped outage sendsFirst
      sendsSecond
  · intro patient front first between second back placed tripped outage sendsFirst _
    exact patient front first between second back placed tripped outage
      ((sends_iff.mp sendsFirst).2 tripped)

/-- A success always re-arms the gate. -/
theorem rearmed (inOrder : InOrder commands) : Rearmed config gate commands := by
  intro front command outage back placed isSent succeeds fails
  have isConnected : (gate.after config front).connected = true :=
    (sends_iff.mp isSent).1
  have reset : gate.after config (front ++ [command]) = ⟨true, 0, 0⟩ := by
    rw [after_append, after_cons, after_nil, issue_of_success isSent succeeds,
      isConnected]
  have onClock : ∀ later ∈ outage, 0 < later.settled := by
    intro later isLater
    have times := inOrder.1 later (by simp [placed, isLater])
    omega
  have whole : front ++ command :: outage = (front ++ [command]) ++ outage := by simp
  rw [whole, after_append]
  rw [reset] at fails ⊢
  have counted := after_outage rfl (by simp [Gate.Tripped]) onClock fails
  simpa using counted

/-- The gate keeps its promise exactly on the runs that leave it alone: nothing
spaces out the commands that come after the first cooldown of an outage. -/
theorem gate_spacesOut_iff (connected : Bool) (inOrder : InOrder commands) :
    GateLaw config ⟨connected, 0, 0⟩ commands ↔
      Patient config ⟨connected, 0, 0⟩ commands := by
  have untripped : ¬ Gate.Tripped ⟨connected, 0, 0⟩ := by simp [Gate.Tripped]
  constructor
  · intro law
    exact (spacedOut_iff untripped inOrder).mp law.spacedOut
  · intro patient
    exact ⟨(spacedOut_iff untripped inOrder).mpr patient, rearmed inOrder⟩

end Proofs

/-! ### A server that stays away -/

/-- The defaults, in seconds. -/
def defaultGate : GateConfig := ⟨3, 30⟩

/-- Three errors, and two retries after the cooldown. -/
def longOutage : List Command :=
  [⟨1, 3, true⟩, ⟨4, 6, true⟩, ⟨7, 9, true⟩, ⟨39, 41, true⟩, ⟨42, 44, true⟩]

/-- Three errors, two retries that are far enough apart, and a success. -/
def recovered : List Command :=
  [⟨1, 3, true⟩, ⟨4, 6, true⟩, ⟨7, 9, true⟩, ⟨39, 41, true⟩, ⟨70, 72, true⟩,
    ⟨105, 106, false⟩]

/-- The gate trips with the third command, and the later ones are far enough apart. -/
theorem recovered_patient : Patient defaultGate ⟨true, 0, 0⟩ recovered := by
  intro front first between second back placed tripped _ _
  have early : ∀ count < 3,
      ¬ (Gate.after defaultGate ⟨true, 0, 0⟩ (recovered.take count)).Tripped := by
    decide
  have isFront : front = recovered.take front.length := by
    rw [placed, List.take_left]
  have isLate : 3 ≤ front.length := by
    by_contra tooEarly
    rw [isFront] at tripped
    exact early front.length (by omega) tripped
  have isRest : recovered.drop front.length = first :: (between ++ second :: back) := by
    rw [placed, List.drop_left]
  have spaced : (recovered.drop 3).Pairwise fun first second =>
      first.issued + defaultGate.recovery ≤ second.issued := by
    decide
  have apart : ((recovered.drop 3).drop (front.length - 3)).Pairwise _ := spaced.drop
  rw [List.drop_drop, Nat.add_sub_cancel' isLate, isRest, List.pairwise_cons] at apart
  exact apart.1 second (by simp)

theorem gate_spacesOut_recovered :
    (Gate.after defaultGate ⟨true, 0, 0⟩ (recovered.take 3)).sends ⟨39, 41, true⟩ = true ∧
      (Gate.after defaultGate ⟨true, 0, 0⟩ (recovered.take 4)).sends ⟨70, 72, true⟩ = true ∧
      GateLaw defaultGate ⟨true, 0, 0⟩ recovered := by
  refine ⟨by decide, by decide, ?_⟩
  exact (gate_spacesOut_iff true ⟨by decide, by decide⟩).mpr recovered_patient

/-- The two retries are three seconds apart. -/
theorem gate_floods : ¬ GateLaw defaultGate ⟨true, 0, 0⟩ longOutage := by
  intro law
  have apart := law.spacedOut [⟨1, 3, true⟩, ⟨4, 6, true⟩, ⟨7, 9, true⟩]
    ⟨39, 41, true⟩ [] ⟨42, 44, true⟩ [] rfl (by decide)
    ⟨fun _ => rfl, trivial⟩ (by decide) (by decide)
  revert apart
  decide

end DbBuddy.Caching
