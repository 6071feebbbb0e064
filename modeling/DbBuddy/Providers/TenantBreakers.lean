import DbBuddy.Library.Unwinding
import DbBuddy.Providers.CircuitBreaker
import DbBuddy.Providers.FallbackGraph

/-!
# One breaker registry for all organisations

The registry is global to the process and keyed by the label of a provider, the
display name of its record.  Calls of several organisations take their steps in any
order, and each call asks, tries and reports as in `generate_with_chain`; what a
provider replies is given from outside.
-/

namespace DbBuddy.Providers.TenantBreakers

open DbBuddy.Library
open DbBuddy.Providers.FallbackGraph (ProviderRuntimeConfig)

universe u v

/-! ## Calls of organisations -/

/-- `cfg.name or cfg.adapter` -/
def label (cfg : ProviderRuntimeConfig) : String :=
  if cfg.name = "" then cfg.adapter else cfg.name

def labels (chain : List ProviderRuntimeConfig) : List String :=
  chain.map label

/-- How an attempt ends: with the parsed value, an error of either kind, or one that
the chain does not catch. -/
inductive Reply (Value : Type v) where
  | value (value : Value)
  | transient
  | recoverable
  | escapes
  deriving DecidableEq, Repr

/-- The providers a call has tried, in order, and the value it has got. -/
structure Attempts (Value : Type v) where
  tried : List String
  value : Option Value
  deriving DecidableEq, Repr

structure Run (Call : Type u) (Value : Type v) where
  core : Providers.State Call
  attempts : Call → Attempts Value

inductive Event (Call : Type u) where
  | tick (elapsed : ℕ)
  | advance (call : Call)
  | reset
  deriving DecidableEq, Repr

section Runs

variable {Call : Type u} [DecidableEq Call] {Value : Type v}

def Reply.step (call : Call) : Reply Value → Providers.Label Call
  | .value _ => .answer call .value
  | .transient => .answer call .transient
  | .recoverable => .answer call .recoverable
  | .escapes => .escape call

/-- The step that a call takes next; a reply is that of an attempt, by the number of
providers that are left. -/
def nextStep (reply : ℕ → Reply Value) (call : Call) : Phase → Providers.Label Call
  | .trying _ => .ask call
  | .granted _ _ rest => (reply rest.length).step call
  | _ => .report call

/-- The registry and the phases after a step; a call that has ended takes none. -/
def take (config : BreakerConfig) (core : Providers.State Call)
    (step : Providers.Label Call) : Providers.State Call :=
  (Providers.step config core step).getD core

/-- What is recorded of a call that goes from one phase to another. -/
def Attempts.after (attempts : Attempts Value) (reply : ℕ → Reply Value) :
    Phase → Phase → Attempts Value
  | .trying _, .granted provider _ _ =>
      { attempts with tried := attempts.tried ++ [provider] }
  | .granted _ _ rest, _ => match reply rest.length with
      | .value value => { attempts with value := some value }
      | _ => attempts
  | _, _ => attempts

def advance (config : BreakerConfig) (reply : Call → ℕ → Reply Value)
    (state : Run Call Value) (call : Call) : Run Call Value :=
  let phase := state.core.phase call
  let core := take config state.core (nextStep (reply call) call phase)
  { core := core
    attempts := Function.update state.attempts call
      ((state.attempts call).after (reply call) phase (core.phase call)) }

def perform (config : BreakerConfig) (reply : Call → ℕ → Reply Value)
    (state : Run Call Value) : Event Call → Run Call Value
  | .tick elapsed => { state with core := take config state.core (.tick elapsed) }
  | .advance call => advance config reply state call
  | .reset => { state with core := take config state.core .reset }

def runFrom (config : BreakerConfig) (reply : Call → ℕ → Reply Value)
    (start : Run Call Value) (events : List (Event Call)) : Run Call Value :=
  events.foldl (perform config reply) start

/-- No call has asked a breaker. -/
def Initial (chain : Call → List ProviderRuntimeConfig) (start : Run Call Value) :
    Prop :=
  Providers.Initial (fun call => labels (chain call)) start.core ∧
    ∀ call, start.attempts call = ⟨[], none⟩

/-- What a call has returned: the value and the label, or nothing. -/
def result (state : Run Call Value) (call : Call) : Option (Option (Value × String)) :=
  match state.core.phase call with
  | .returned none => some none
  | .returned (some provider) =>
      some ((state.attempts call).value.map fun value => (value, provider))
  | _ => none

/-! ## The law and when it holds -/

variable {Org : Type u} [DecidableEq Org]

/-- The events that are not steps of the organisation's calls. -/
def ofOthers (orgOf : Call → Org) (org : Org) : Event Call → Bool
  | .advance call => decide (orgOf call ≠ org)
  | _ => true

/-- Runs that differ in the replies to one organisation, and in when its calls take
their steps: the calls of the others try the same providers and return the same. -/
def Isolated (Value : Type v) (config : BreakerConfig)
    (chain : Call → List ProviderRuntimeConfig) (orgOf : Call → Org) (org : Org) :
    Prop :=
  ∀ (start : Run Call Value) reply reply' events events', Initial chain start →
    (∀ call, orgOf call ≠ org → reply call = reply' call) →
    events.filter (ofOthers orgOf org) = events'.filter (ofOthers orgOf org) →
    ∀ call, orgOf call ≠ org →
      ((runFrom config reply start events).attempts call).tried =
          ((runFrom config reply' start events').attempts call).tried ∧
        result (runFrom config reply start events) call =
          result (runFrom config reply' start events') call

/-- No step of the organisation's calls changes a breaker that another one uses. -/
def Untouched (Value : Type v) (config : BreakerConfig)
    (chain : Call → List ProviderRuntimeConfig) (orgOf : Call → Org) (org : Org) :
    Prop :=
  ∀ (start : Run Call Value) reply events, Initial chain start →
    ∀ call, orgOf call = org → ∀ other, orgOf other ≠ org →
      ∀ provider ∈ labels (chain other),
        (advance config reply (runFrom config reply start events) call).core.breaker
            provider =
          (runFrom config reply start events).core.breaker provider

/-- No label of the organisation's chains is one of another organisation's. -/
def Apart (chain : Call → List ProviderRuntimeConfig) (orgOf : Call → Org) (org : Org) :
    Prop :=
  ∀ call other, orgOf call = org → orgOf other ≠ org →
    ∀ provider ∈ labels (chain call), provider ∉ labels (chain other)

end Runs

/-! ## A step is local -/

/-- The providers that a call may still ask or report on. -/
def providersOf : Phase → List String
  | .trying chain => chain
  | .granted provider _ rest => provider :: rest
  | .answered provider _ _ rest => provider :: rest
  | .returned _ => []
  | .raised => []

section Local

variable {Call : Type u} [DecidableEq Call] {Value : Type v}
variable {config : BreakerConfig} {core : Providers.State Call} {call : Call}
variable {reply : ℕ → Reply Value}

/-- The phase that a call comes to, and the entry that it changes. -/
def move (config : BreakerConfig) (now : Int) (breaker : String → Entry)
    (reply : ℕ → Reply Value) : Phase → Phase × Option (String × Entry)
  | .trying [] => (.returned none, none)
  | .trying (provider :: rest) =>
      let (allowed, probe, entry) := (breaker provider).allow now
      if allowed then (.granted provider probe rest, some (provider, entry))
      else (.trying rest, none)
  | .granted provider probe rest => match reply rest.length with
      | .value _ => (.answered provider probe .value rest, none)
      | .transient => (.answered provider probe .transient rest, none)
      | .recoverable => (.answered provider probe .recoverable rest, none)
      | .escapes => (.raised, none)
  | .answered provider _ .value _ =>
      (.returned (some provider), some (provider, Entry.fresh))
  | .answered provider _ outcome rest =>
      let (entry, returns) := (breaker provider).recordFailure config
        (decide (outcome = .transient)) now
      (if returns then .trying rest else .raised, some (provider, entry))
  | phase => (phase, none)

def put (core : Providers.State Call) (call : Call) :
    Phase × Option (String × Entry) → Providers.State Call
  | (phase, some (provider, entry)) => (core.setEntry provider entry).setPhase call phase
  | (phase, none) => core.setPhase call phase

theorem setPhase_same {phase : Phase} (isPhase : core.phase call = phase) :
    core.setPhase call phase = core := by
  subst isPhase
  simp [Providers.State.setPhase]

theorem take_eq_put :
    take config core (nextStep reply call (core.phase call)) =
      put core call (move config core.now core.breaker reply (core.phase call)) := by
  cases isPhase : core.phase call with
  | trying chain =>
      cases chain with
      | nil =>
          simp [take, nextStep, Providers.step, move, put, isPhase]
      | cons provider rest =>
          simp only [take, nextStep, Providers.step, move, isPhase]
          split
          · rfl
          · rfl
  | granted provider probe rest =>
      simp only [take, nextStep, move]
      cases reply rest.length with
      | value value => simp [Reply.step, Providers.step, put, isPhase]
      | transient => simp [Reply.step, Providers.step, put, isPhase]
      | recoverable => simp [Reply.step, Providers.step, put, isPhase]
      | escapes => simp [Reply.step, Providers.step, put, isPhase]
  | answered provider probe outcome rest =>
      cases outcome with
      | value => simp [take, nextStep, Providers.step, move, put, isPhase]
      | transient => simp [take, nextStep, Providers.step, move, put, isPhase]
      | recoverable => simp [take, nextStep, Providers.step, move, put, isPhase]
  | returned provider =>
      simp [take, nextStep, Providers.step, move, put, isPhase, setPhase_same]
  | raised =>
      simp [take, nextStep, Providers.step, move, put, isPhase, setPhase_same]

@[simp]
theorem put_now {moved : Phase × Option (String × Entry)} :
    (put core call moved).now = core.now := by
  unfold put
  split
  · rfl
  · rfl

@[simp]
theorem put_phase {moved : Phase × Option (String × Entry)} :
    (put core call moved).phase call = moved.1 := by
  unfold put
  split
  · exact Providers.State.setPhase_self _
  · exact Providers.State.setPhase_self _

theorem put_phase_of_ne {moved : Phase × Option (String × Entry)} {other : Call}
    (different : other ≠ call) : (put core call moved).phase other = core.phase other := by
  unfold put
  split
  · exact Providers.State.setPhase_of_ne _ different
  · exact Providers.State.setPhase_of_ne _ different

/-- The breaker of a provider after a move. -/
theorem put_breaker {moved : Phase × Option (String × Entry)} {provider : String} :
    (put core call moved).breaker provider =
      match moved.2 with
      | some (changed, entry) => if provider = changed then entry else core.breaker provider
      | none => core.breaker provider := by
  obtain ⟨phase, change⟩ := moved
  cases change with
  | none => rfl
  | some written =>
      simp only [put, Providers.State.setPhase_breaker, Providers.State.setEntry,
        Function.update_apply]

/-- A move depends on the breakers of the call's own providers. -/
theorem move_congr {breaker breaker' : String → Entry} {now : Int} {phase : Phase}
    (same : ∀ provider ∈ providersOf phase, breaker provider = breaker' provider) :
    move config now breaker reply phase = move config now breaker' reply phase := by
  cases phase with
  | trying chain =>
      cases chain with
      | nil => rfl
      | cons provider rest =>
          simp only [move, same provider List.mem_cons_self]
  | granted provider probe rest => rfl
  | answered provider probe outcome rest =>
      cases outcome with
      | value => rfl
      | transient => simp only [move, same provider List.mem_cons_self]
      | recoverable => simp only [move, same provider List.mem_cons_self]
  | returned provider => rfl
  | raised => rfl

/-- A call comes to providers that it had, and changes the breaker of one of them. -/
theorem move_within {breaker : String → Entry} {now : Int} {phase : Phase} :
    providersOf (move config now breaker reply phase).1 ⊆ providersOf phase ∧
      ∀ provider entry, (move config now breaker reply phase).2 = some (provider, entry) →
        provider ∈ providersOf phase := by
  cases phase with
  | trying chain =>
      cases chain with
      | nil => simp [move, providersOf]
      | cons provider rest =>
          simp only [move]
          split
          · refine ⟨List.Subset.refl _, ?_⟩
            intro changed entry isChanged
            cases isChanged
            exact List.mem_cons_self
          · exact ⟨List.subset_cons_self provider rest, by simp⟩
  | granted provider probe rest =>
      simp only [move]
      split
      · exact ⟨List.Subset.refl _, by simp⟩
      · exact ⟨List.Subset.refl _, by simp⟩
      · exact ⟨List.Subset.refl _, by simp⟩
      · exact ⟨List.nil_subset _, by simp⟩
  | answered provider probe outcome rest =>
      have fewer : ∀ returns : Bool,
          providersOf (if returns = true then .trying rest else .raised) ⊆
            provider :: rest := by
        intro returns
        cases returns with
        | false => exact List.nil_subset _
        | true => exact List.subset_cons_self provider rest
      have own : ∀ (entry : Entry) (changed : String) (other : Entry),
          some (provider, entry) = some (changed, other) →
            changed ∈ provider :: rest := by
        intro entry changed other isChanged
        cases isChanged
        exact List.mem_cons_self
      cases outcome with
      | value => exact ⟨List.nil_subset _, own _⟩
      | transient => exact ⟨fewer _, own _⟩
      | recoverable => exact ⟨fewer _, own _⟩
  | returned provider => simp [move]
  | raised => simp [move]

/-- A breaker that is none of the call's own stays as it is. -/
theorem put_move_breaker {provider : String}
    (notOwn : provider ∉ providersOf (core.phase call)) :
    (put core call (move config core.now core.breaker reply (core.phase call))).breaker
      provider = core.breaker provider := by
  rw [put_breaker]
  split
  · rename_i changed entry isChanged
    refine if_neg ?_
    intro same
    exact notOwn (same ▸ move_within.2 changed entry isChanged)
  · rfl

end Local

/-! ## Organisations with labels of their own -/

section Views

variable {Call : Type u} {Value : Type v} {Org : Type u}
variable {chain : Call → List ProviderRuntimeConfig} {orgOf : Call → Org} {org : Org}

/-- Every call has only providers of its chain before it. -/
def Within (chain : Call → List ProviderRuntimeConfig) (state : Run Call Value) : Prop :=
  ∀ call, providersOf (state.core.phase call) ⊆ labels (chain call)

theorem within_initial {start : Run Call Value} (isInitial : Initial chain start) :
    Within chain start := by
  intro call
  rw [isInitial.1.2 call]
  exact List.Subset.refl _

/-- What the others can tell of two states is the same. -/
structure Alike (chain : Call → List ProviderRuntimeConfig) (orgOf : Call → Org)
    (org : Org) (state state' : Run Call Value) : Prop where
  now : state.core.now = state'.core.now
  phases : ∀ call, orgOf call ≠ org → state.core.phase call = state'.core.phase call
  attempts : ∀ call, orgOf call ≠ org → state.attempts call = state'.attempts call
  breakers : ∀ call, orgOf call ≠ org → ∀ provider ∈ labels (chain call),
    state.core.breaker provider = state'.core.breaker provider
  within : Within chain state
  within' : Within chain state'

theorem Alike.symm {state state' : Run Call Value}
    (alike : Alike chain orgOf org state state') : Alike chain orgOf org state' state where
  now := alike.now.symm
  phases := fun call isOther => (alike.phases call isOther).symm
  attempts := fun call isOther => (alike.attempts call isOther).symm
  breakers := fun call isOther provider isOwn =>
    (alike.breakers call isOther provider isOwn).symm
  within := alike.within'
  within' := alike.within

end Views

section Tenants

variable {Call : Type u} [DecidableEq Call] {Value : Type v} {Org : Type u}
variable {config : BreakerConfig} {chain : Call → List ProviderRuntimeConfig}
variable {orgOf : Call → Org} {org : Org} {reply reply' : Call → ℕ → Reply Value}
variable {state state' : Run Call Value} {call : Call}

theorem advance_core :
    (advance config reply state call).core =
      put state.core call (move config state.core.now state.core.breaker (reply call)
        (state.core.phase call)) :=
  take_eq_put

theorem Within.advance (within : Within chain state) :
    Within chain (advance config reply state call) := by
  intro other
  rw [advance_core]
  by_cases same : other = call
  · subst same
    rw [put_phase]
    exact List.Subset.trans move_within.1 (within other)
  · rw [put_phase_of_ne same]
    exact within other

/-- A step of the organisation's call changes no breaker that another one uses. -/
theorem advance_breaker (apart : Apart chain orgOf org) (within : Within chain state)
    (isOwn : orgOf call = org) {other : Call} (isOther : orgOf other ≠ org)
    {provider : String} (used : provider ∈ labels (chain other)) :
    (advance config reply state call).core.breaker provider =
      state.core.breaker provider := by
  rw [advance_core]
  refine put_move_breaker ?_
  intro isCalls
  exact apart call other isOwn isOther provider (within call isCalls) used

/-- A step of the organisation's call is not seen by the others. -/
theorem Alike.unseen (apart : Apart chain orgOf org)
    (alike : Alike chain orgOf org state state') (isOwn : orgOf call = org) :
    Alike chain orgOf org (advance config reply state call) state' := by
  have different : ∀ other, orgOf other ≠ org → other ≠ call := by
    intro other isOther same
    exact isOther (same ▸ isOwn)
  constructor
  · rw [advance_core, put_now]
    exact alike.now
  · intro other isOther
    rw [advance_core, put_phase_of_ne (different other isOther)]
    exact alike.phases other isOther
  · intro other isOther
    have same : (advance config reply state call).attempts other = state.attempts other :=
      Function.update_of_ne (different other isOther) _ _
    rw [same]
    exact alike.attempts other isOther
  · intro other isOther provider used
    rw [advance_breaker apart alike.within isOwn isOther used]
    exact alike.breakers other isOther provider used
  · exact alike.within.advance
  · exact alike.within'

/-- A step of another call is the same in both runs. -/
theorem Alike.seen (alike : Alike chain orgOf org state state')
    (sameReply : reply call = reply' call) (isOther : orgOf call ≠ org) :
    Alike chain orgOf org (advance config reply state call)
      (advance config reply' state' call) := by
  have sameMove : move config state.core.now state.core.breaker (reply call)
        (state.core.phase call) =
      move config state'.core.now state'.core.breaker (reply' call)
        (state'.core.phase call) := by
    rw [alike.now, sameReply, alike.phases call isOther]
    refine move_congr ?_
    intro provider isOwn
    exact alike.breakers call isOther provider (alike.within' call isOwn)
  have samePhase : (advance config reply state call).core.phase call =
      (advance config reply' state' call).core.phase call := by
    rw [advance_core, advance_core, put_phase, put_phase, sameMove]
  constructor
  · rw [advance_core, advance_core, put_now, put_now]
    exact alike.now
  · intro other isOther'
    by_cases same : other = call
    · subst same
      exact samePhase
    · rw [advance_core, advance_core, put_phase_of_ne same, put_phase_of_ne same]
      exact alike.phases other isOther'
  · intro other isOther'
    by_cases same : other = call
    · subst same
      have recorded : ∀ (replies : Call → ℕ → Reply Value) (run : Run Call Value),
          (advance config replies run other).attempts other =
            (run.attempts other).after (replies other) (run.core.phase other)
              ((advance config replies run other).core.phase other) :=
        fun _ _ => Function.update_self _ _ _
      rw [recorded, recorded, samePhase, alike.attempts other isOther,
        alike.phases other isOther, sameReply]
    · have unchanged : ∀ (replies : Call → ℕ → Reply Value) (run : Run Call Value),
          (advance config replies run call).attempts other = run.attempts other :=
        fun _ _ => Function.update_of_ne same _ _
      rw [unchanged, unchanged]
      exact alike.attempts other isOther'
  · intro other isOther' provider used
    rw [advance_core, advance_core, put_breaker, put_breaker, sameMove]
    split
    · split
      · rfl
      · exact alike.breakers other isOther' provider used
    · exact alike.breakers other isOther' provider used
  · exact alike.within.advance
  · exact alike.within'.advance

theorem unwinding [DecidableEq Org] (apart : Apart chain orgOf org)
    (sameReplies : ∀ call, orgOf call ≠ org → reply call = reply' call) :
    Unwinding (perform config reply) (perform config reply') (ofOthers orgOf org)
      (Alike chain orgOf org) := by
  constructor
  · intro state state' event hidden alike
    cases event with
    | tick elapsed => cases hidden
    | reset => cases hidden
    | advance call => exact alike.unseen apart (by simpa [ofOthers] using hidden)
  · intro state state' event hidden alike
    cases event with
    | tick elapsed => cases hidden
    | reset => cases hidden
    | advance call =>
        exact (alike.symm.unseen apart (by simpa [ofOthers] using hidden)).symm
  · intro state state' event isSeen alike
    cases event with
    | tick elapsed =>
        refine ⟨?_, alike.phases, alike.attempts, alike.breakers, alike.within,
          alike.within'⟩
        exact congrArg (· + (elapsed : Int)) alike.now
    | reset =>
        exact ⟨alike.now, alike.phases, alike.attempts, fun _ _ _ _ => rfl, alike.within,
          alike.within'⟩
    | advance call =>
        have isOther : orgOf call ≠ org := of_decide_eq_true isSeen
        exact alike.seen (sameReplies call isOther) isOther

theorem within_runFrom {start : Run Call Value} {events : List (Event Call)}
    (within : Within chain start) : Within chain (runFrom config reply start events) := by
  induction events generalizing start with
  | nil => exact within
  | cons event rest inductionHypothesis =>
      refine inductionHypothesis ?_
      cases event with
      | tick elapsed => exact within
      | reset => exact within
      | advance call => exact within.advance

end Tenants

/-- Organisations whose labels no other organisation uses are not told apart by what
their providers reply, and open and close no breaker of another one. -/
theorem tenants_isolated {Call Org : Type u} [DecidableEq Call] [DecidableEq Org]
    (Value : Type v) (config : BreakerConfig) (chain : Call → List ProviderRuntimeConfig)
    (orgOf : Call → Org) (org : Org) (apart : Apart chain orgOf org) :
    Isolated Value config chain orgOf org ∧ Untouched Value config chain orgOf org := by
  constructor
  · intro start reply reply' events events' isInitial sameReplies sameEvents call isOther
    have within := within_initial isInitial
    have alike : Alike chain orgOf org start start :=
      ⟨rfl, fun _ _ => rfl, fun _ _ => rfl, fun _ _ _ _ => rfl, within, within⟩
    have views : Unwinding (perform config reply) (perform config reply')
        (ofOthers orgOf org) (Alike chain orgOf org) := unwinding apart sameReplies
    have ended := views.run sameEvents alike
    have sameAttempts := ended.attempts call isOther
    have samePhase := ended.phases call isOther
    refine ⟨congrArg Attempts.tried sameAttempts, ?_⟩
    simp only [result, runFrom, sameAttempts, samePhase]
  · intro start reply events isInitial call isOwn other isOther provider used
    exact advance_breaker apart (within_runFrom (within_initial isInitial)) isOwn isOther
      used

/-! ### Two organisations with a provider of one name -/

/-- The defaults: five failures, and one to five minutes. -/
def defaultConfig : BreakerConfig := ⟨5, 60 * 10 ^ 9, 300 * 10 ^ 9⟩

def named (name : String) : ProviderRuntimeConfig :=
  ⟨"openai_compatible", "m", some "https://api.openai.com/v1", none, name⟩

/-- Call `0` is that of organisation `b`. -/
def twoOrgs (call : ℕ) : String := if call = 0 then "b" else "a"

def sharedChain (_ : ℕ) : List ProviderRuntimeConfig := [named "OpenAI"]

def startOf (chain : ℕ → List ProviderRuntimeConfig) : Run ℕ String where
  core :=
    { now := 0
      breaker := fun _ => Entry.fresh
      phase := fun call => .trying (labels (chain call)) }
  attempts := fun _ => ⟨[], none⟩

theorem startOf_initial (chain : ℕ → List ProviderRuntimeConfig) :
    Initial chain (startOf chain) :=
  ⟨⟨fun _ => rfl, fun _ => rfl⟩, fun _ => rfl⟩

/-- The provider of organisation `a` fails, or replies; that of `b` replies. -/
def replies (fails : Bool) (call : ℕ) (_ : ℕ) : Reply String :=
  if call = 0 then .value "sql" else if fails then .transient else .value "text"

def stepsOf (call : ℕ) : List (Event ℕ) :=
  [.advance call, .advance call, .advance call]

/-- Five calls of `a`, then that of `b`. -/
def sixCalls : List (Event ℕ) :=
  stepsOf 1 ++ stepsOf 2 ++ stepsOf 3 ++ stepsOf 4 ++ stepsOf 5 ++ stepsOf 0

theorem tenants_share_breaker :
    ¬ Isolated String defaultConfig sharedChain twoOrgs "a" ∧
      ¬ Untouched String defaultConfig sharedChain twoOrgs "a" ∧
      result (runFrom defaultConfig (replies true) (startOf sharedChain) sixCalls) 0 =
        some none ∧
      result (runFrom defaultConfig (replies false) (startOf sharedChain) sixCalls) 0 =
        some (some ("sql", "OpenAI")) := by
  have opened :
      result (runFrom defaultConfig (replies true) (startOf sharedChain) sixCalls) 0 =
        some none := by
    decide
  have closed :
      result (runFrom defaultConfig (replies false) (startOf sharedChain) sixCalls) 0 =
        some (some ("sql", "OpenAI")) := by
    decide
  have sameReplies : ∀ call, twoOrgs call ≠ "a" →
      replies true call = replies false call := by
    intro call isOther
    by_cases isFirst : call = 0
    · funext position
      simp [replies, isFirst]
    · simp [twoOrgs, isFirst] at isOther
  refine ⟨?_, ?_, opened, closed⟩
  · intro isolated
    have same := (isolated (startOf sharedChain) (replies true) (replies false) sixCalls
      sixCalls (startOf_initial sharedChain) sameReplies rfl 0 (by decide)).2
    rw [opened, closed] at same
    cases same
  · intro untouched
    have failed := untouched (startOf sharedChain) (replies true)
      [.advance 1, .advance 1] (startOf_initial sharedChain) 1 rfl 0 (by decide)
      "OpenAI" (by decide)
    exact absurd failed (by decide)

/-- Each organisation names its provider after itself. -/
def ownChain (call : ℕ) : List ProviderRuntimeConfig :=
  [named (if call = 0 then "OpenAI of b" else "OpenAI of a")]

theorem tenants_isolated_named :
    Isolated String defaultConfig ownChain twoOrgs "a" ∧
      Untouched String defaultConfig ownChain twoOrgs "a" := by
  refine tenants_isolated String defaultConfig ownChain twoOrgs "a" ?_
  intro call other isOwn isOther
  have isCalls : call ≠ 0 := by
    intro isFirst
    simp [twoOrgs, isFirst] at isOwn
  have isFirst : other = 0 := by
    by_contra notFirst
    simp [twoOrgs, notFirst] at isOther
  simp [ownChain, labels, label, named, isCalls, isFirst]

end DbBuddy.Providers.TenantBreakers
