import DbBuddy.Providers.TenantBreakers
import Mathlib.Algebra.GroupWithZero.Nat

/-!
# One prompt through a chain of providers

`generate_with_chain` asks the breaker of each provider, calls it with retries while its errors
are transient, and goes on to the next one when it has failed.  Breakers, providers and the
random waits answer by all that has happened before, so that other calls may go on meanwhile.
-/

namespace DbBuddy.Providers.Chain

open DbBuddy.Providers.FallbackGraph (ProviderRuntimeConfig)
open DbBuddy.Providers.TenantBreakers (label)

/-- `RetryPolicy`; durations are in microseconds. -/
structure RetryPolicy where
  maxAttempts : ℕ
  baseDelay : ℕ
  maxDelay : ℕ
  retryAfterCap : ℕ

/-- How a call of `generate` ends: with a text, with a transient error and what the server asks
to wait, with an error that a retry would not help, with a `ValueError`, `TypeError` or
`KeyError`, or with another exception. -/
inductive Reply where
  | text (text : String)
  | transient (retryAfter : Option ℕ) (rateLimited : Bool)
  | recoverable
  | unusable
  | escapes
  deriving DecidableEq

/-- What `parse` does with a text. -/
inductive Parsed (Value : Type) where
  | value (value : Value)
  | unusable
  | escapes

/-- `outcome` of a metric. -/
inductive Metric where
  | skipped
  | failover
  | success
  deriving DecidableEq

inductive Event where
  | asked (provider : String) (allowed : Bool)
  | called (config : ProviderRuntimeConfig)
  | waited (delay : ℕ)
  | recorded (provider : String) (outcome : Metric) (attempts : ℕ) (rateLimited : Bool)
  | failed (provider : String) (transient : Bool)
  | succeeded (provider : String)

/-- What is around a chain: the breakers, the adapters, the providers, `random.uniform`, and
whether `record_failure` returns. -/
structure Environment where
  allows : List Event → String → Bool
  registered : String → Bool
  reply : List Event → ProviderRuntimeConfig → Reply
  uniform : List Event → ℕ → ℕ
  uniform_le : ∀ history bound, uniform history bound ≤ bound
  records : List Event → String → Bool

/-- `None`, a number of microseconds, or an `OverflowError`. -/
inductive Delay where
  | stop
  | wait (delay : ℕ)
  | overflow

section Retries

variable (policy : RetryPolicy) (env : Environment)

/-- `_retry_delay`; a power of two from `2 ** 1024` on does not convert to the float it is
multiplied with. -/
def retryDelay (history : List Event) (retryAfter : Option ℕ) (attempt : ℕ) : Delay :=
  match retryAfter with
  | some wait =>
      if policy.retryAfterCap < wait then .stop else .wait (min wait policy.maxDelay)
  | none =>
      if attempt - 1 < 1024 then
        .wait (env.uniform history (min (policy.baseDelay * 2 ^ (attempt - 1)) policy.maxDelay))
      else .overflow

/-- How `_generate_with_retries` ends. -/
inductive Attempt where
  | text (text : String) (attempts : ℕ) (rateLimited : Bool)
  | transient (attempts : ℕ) (rateLimited : Bool)
  | recoverable
  | unusable
  | escapes

/-- `_generate_with_retries`, with as many attempts left behind this one as `left` says. -/
def generateWithRetries (config : ProviderRuntimeConfig) :
    (left attempt : ℕ) → (rateLimited : Bool) → List Event → Attempt × List Event
  | left, attempt, rateLimited, history =>
      match env.reply history config with
      | .text text => (.text text attempt rateLimited, [.called config])
      | .recoverable => (.recoverable, [.called config])
      | .unusable => (.unusable, [.called config])
      | .escapes => (.escapes, [.called config])
      | .transient retryAfter limited =>
          match left with
          | 0 => (.transient attempt (rateLimited || limited), [.called config])
          | left + 1 =>
              match retryDelay policy env (history ++ [.called config]) retryAfter attempt with
              | .stop => (.transient attempt (rateLimited || limited), [.called config])
              | .overflow => (.escapes, [.called config])
              | .wait delay =>
                  let next := generateWithRetries config left (attempt + 1)
                    (rateLimited || limited) (history ++ [.called config, .waited delay])
                  (next.1, .called config :: .waited delay :: next.2)

end Retries

section Chain

variable {Value : Type} (policy : RetryPolicy) (env : Environment)
variable (parse : String → Parsed Value)

/-- What the body of the loop over the chain does with an attempt. -/
inductive Settled (Value : Type) where
  | value (value : Value) (attempts : ℕ) (rateLimited : Bool)
  | failed (transient : Bool) (attempts : ℕ) (rateLimited : Bool)
  | escapes

def settle : Attempt → Settled Value
  | .text text attempts rateLimited =>
      match parse text with
      | .value value => .value value attempts rateLimited
      | .unusable => .failed false 1 false
      | .escapes => .escapes
  | .transient attempts rateLimited => .failed true attempts rateLimited
  | .recoverable => .failed false 1 false
  | .unusable => .failed false 1 false
  | .escapes => .escapes

/-- `get_provider`, and the call with its retries. -/
def attemptWith (config : ProviderRuntimeConfig) (history : List Event) :
    Attempt × List Event :=
  if env.registered config.adapter = true then
    generateWithRetries policy env config (policy.maxAttempts - 1) 1 false history
  else (.unusable, [])

/-- One provider of the chain: its value, the next one, or an exception. -/
inductive Tried (Value : Type) where
  | value (value : Value)
  | next
  | raised

/-- The body of the loop over the chain. -/
def tryProvider (config : ProviderRuntimeConfig) (history : List Event) :
    Tried Value × List Event :=
  let provider := label config
  if env.allows history provider = false then
    (.next, [.asked provider false, .recorded provider .skipped 0 false])
  else
    let attempt := attemptWith policy env config (history ++ [.asked provider true])
    let events := .asked provider true :: attempt.2
    match settle parse attempt.1 with
    | .value value attempts rateLimited =>
        (.value value,
          events ++ [.recorded provider .success attempts rateLimited, .succeeded provider])
    | .failed transient attempts rateLimited =>
        let events := events ++ [.recorded provider .failover attempts rateLimited]
        if env.records (history ++ events) provider = true then
          (.next, events ++ [.failed provider transient])
        else (.raised, events)
    | .escapes => (.raised, events)

inductive ChainResult (Value : Type) where
  | answered (value : Value) (provider : String)
  | exhausted
  | raised

/-- `generate_with_chain` -/
def generateWithChain : List ProviderRuntimeConfig → List Event → ChainResult Value × List Event
  | [], _ => (.exhausted, [])
  | config :: rest, history =>
      match tryProvider policy env parse config history with
      | (.value value, events) => (.answered value (label config), events)
      | (.raised, events) => (.raised, events)
      | (.next, events) =>
          let later := generateWithChain rest (history ++ events)
          (later.1, events ++ later.2)

end Chain

/-! ## What is counted of a run -/

def Event.called? : Event → Option ProviderRuntimeConfig
  | .called config => some config
  | _ => none

def Event.waited? : Event → Option ℕ
  | .waited delay => some delay
  | _ => none

def Event.asked? : Event → Option String
  | .asked provider _ => some provider
  | _ => none

/-- A request that a breaker has let go. -/
def Event.granted? : Event → Option String
  | .asked provider true => some provider
  | _ => none

/-- What a breaker is told about a request. -/
def Event.reported? : Event → Option String
  | .failed provider _ => some provider
  | .succeeded provider => some provider
  | _ => none

def Event.recorded? : Event → Option String
  | .recorded provider _ _ _ => some provider
  | _ => none

def calls (events : List Event) : List ProviderRuntimeConfig :=
  events.filterMap Event.called?

def waits (events : List Event) : List ℕ :=
  events.filterMap Event.waited?

/-- In a run that goes on from `history` a provider is called and replies with a text. -/
def Replies (env : Environment) (history events : List Event) (config : ProviderRuntimeConfig)
    (text : String) : Prop :=
  ∃ before after, events = before ++ .called config :: after ∧
    env.reply (history ++ before) config = .text text

section Replying

variable {env : Environment} {config : ProviderRuntimeConfig} {text : String}
variable {history front events before after : List Event}

/-- A call among the events of two runs is a call of the first one or of the second one. -/
theorem split_called (isSplit : front ++ events = before ++ .called config :: after) :
    (∃ between, front = before ++ .called config :: between ∧ after = between ++ events) ∨
      ∃ between, before = front ++ between ∧ events = between ++ .called config :: after := by
  rcases List.append_eq_append_iff.mp isSplit with ⟨between, isBefore, isEvents⟩ |
    ⟨between, isFront, isRest⟩
  · exact Or.inr ⟨between, isBefore, isEvents⟩
  · cases between with
    | nil =>
        refine Or.inr ⟨[], ?_, isRest.symm⟩
        rw [isFront, List.append_nil, List.append_nil]
    | cons first between =>
        rw [List.cons_append] at isRest
        obtain ⟨isCall, isAfter⟩ := List.cons.inj isRest
        rw [← isCall] at isFront
        exact Or.inl ⟨between, isFront, isAfter⟩

theorem Replies.append (replies : Replies env history front config text) :
    Replies env history (front ++ events) config text := by
  obtain ⟨before, after, isFront, isReply⟩ := replies
  refine ⟨before, after ++ events, ?_, isReply⟩
  rw [isFront, List.append_assoc, List.cons_append]

theorem Replies.behind (replies : Replies env (history ++ front) events config text) :
    Replies env history (front ++ events) config text := by
  obtain ⟨before, after, isEvents, isReply⟩ := replies
  refine ⟨front ++ before, after, ?_, ?_⟩
  · rw [isEvents, List.append_assoc]
  · rw [← List.append_assoc]
    exact isReply

/-- Where nobody is called, no call is found. -/
theorem not_called (noCalls : calls events = [])
    (isSplit : events = before ++ .called config :: after) : False := by
  have isCalled : config ∈ calls events :=
    List.mem_filterMap.mpr ⟨.called config, by rw [isSplit]; simp, rfl⟩
  rw [noCalls] at isCalled
  cases isCalled

end Replying

/-! ## One provider -/

section Retrying

variable {policy : RetryPolicy} {env : Environment} {config : ProviderRuntimeConfig}
variable {left attempt : ℕ} {rateLimited : Bool} {history : List Event}

/-- What retries are: calls of one provider with waits between them, and the attempts that are
told are the calls. -/
structure Retried (policy : RetryPolicy) (env : Environment) (config : ProviderRuntimeConfig)
    (left attempt : ℕ) (history : List Event) (result : Attempt × List Event) : Prop where
  counted : ∃ n ≤ left, calls result.2 = List.replicate (n + 1) config ∧
    (waits result.2).sum ≤ n * policy.maxDelay ∧
    (∀ text tried limited, result.1 = .text text tried limited → tried = attempt + n) ∧
    (∀ tried limited, result.1 = .transient tried limited → tried = attempt + n)
  quiet : ∀ event ∈ result.2, event = .called config ∨ ∃ delay, event = .waited delay
  text : ∀ text tried limited, result.1 = .text text tried limited →
    Replies env history result.2 config text
  first : ∀ before after other text, result.2 = before ++ .called other :: after →
    env.reply (history ++ before) other = .text text →
    after = [] ∧ ∃ tried limited, result.1 = .text text tried limited

/-- A call behind which no other one is made. -/
theorem retried_once {result : Attempt}
    (isText : ∀ text, env.reply history config = .text text →
      ∃ limited, result = .text text attempt limited)
    (wasText : ∀ text tried limited, result = .text text tried limited →
      tried = attempt ∧ env.reply history config = .text text)
    (isTransient : ∀ tried limited, result = .transient tried limited → tried = attempt) :
    Retried policy env config left attempt history (result, [.called config]) where
  counted := ⟨0, Nat.zero_le _, rfl, Nat.zero_le _,
    fun text tried limited isResult => (wasText text tried limited isResult).1, isTransient⟩
  quiet _ isIn := Or.inl (List.mem_singleton.mp isIn)
  text text tried limited isResult := by
    refine ⟨[], [], rfl, ?_⟩
    rw [List.append_nil]
    exact (wasText text tried limited isResult).2
  first before after other text isSplit isReply := by
    have isOne : [.called config] = before ++ .called other :: after := isSplit
    rcases List.singleton_eq_append_iff.mp isOne with ⟨isBefore, isRest⟩ | ⟨_, isRest⟩
    · obtain ⟨isOther, isAfter⟩ := List.cons.inj isRest
      cases isOther
      rw [isBefore, List.append_nil] at isReply
      obtain ⟨limited, isResult⟩ := isText text isReply
      exact ⟨isAfter, attempt, limited, isResult⟩
    · cases isRest

theorem retryDelay_le {retryAfter : Option ℕ} {delay : ℕ}
    (isWait : retryDelay policy env history retryAfter attempt = .wait delay) :
    delay ≤ policy.maxDelay := by
  rw [retryDelay.eq_def] at isWait
  split at isWait
  next wait =>
    split at isWait
    next => cases isWait
    next =>
      cases isWait
      exact Nat.min_le_right _ _
  next =>
    split at isWait
    next =>
      cases isWait
      exact (env.uniform_le _ _).trans (Nat.min_le_right _ _)
    next => cases isWait

/-- A wait, and what comes behind it. -/
theorem Retried.later {delay : ℕ} {result : Attempt × List Event}
    (isShort : delay ≤ policy.maxDelay)
    (noText : ∀ text, env.reply history config ≠ .text text)
    (retried : Retried policy env config left (attempt + 1)
      (history ++ [.called config, .waited delay]) result) :
    Retried policy env config (left + 1) attempt history
      (result.1, .called config :: .waited delay :: result.2) where
  counted := by
    obtain ⟨n, isFew, isCalls, isWaits, isText, isTransient⟩ := retried.counted
    refine ⟨n + 1, Nat.succ_le_succ isFew, ?_, ?_, ?_, ?_⟩
    · rw [List.replicate_succ, ← isCalls]
      rfl
    · have isSum : (waits (.called config :: .waited delay :: result.2)).sum =
          delay + (waits result.2).sum := List.sum_cons
      rw [isSum, Nat.succ_mul, Nat.add_comm]
      exact Nat.add_le_add isWaits isShort
    · intro text tried limited isResult
      rw [isText text tried limited isResult]
      omega
    · intro tried limited isResult
      rw [isTransient tried limited isResult]
      omega
  quiet event isIn := by
    rcases List.mem_cons.mp isIn with isCall | isIn
    · exact Or.inl isCall
    · rcases List.mem_cons.mp isIn with isWait | isLater
      · exact Or.inr ⟨delay, isWait⟩
      · exact retried.quiet event isLater
  text text tried limited isResult := (retried.text text tried limited isResult).behind
  first before after other text isSplit isReply := by
    have isCut : [.called config, .waited delay] ++ result.2 =
        before ++ .called other :: after := isSplit
    rcases split_called isCut with ⟨between, isFront, _⟩ | ⟨between, isBefore, isRest⟩
    · cases before with
      | nil =>
          cases isFront
          rw [List.append_nil] at isReply
          exact absurd isReply (noText text)
      | cons first before =>
          rw [List.cons_append] at isFront
          have isWait := (List.cons.inj isFront).2
          cases before with
          | nil => cases isWait
          | cons second before =>
              have isEmpty := (List.cons.inj isWait).2
              exact absurd isEmpty.symm (List.append_ne_nil_of_right_ne_nil before nofun)
    · rw [isBefore, ← List.append_assoc] at isReply
      exact retried.first between after other text isRest isReply

theorem retried_of_reply {text : String}
    (isReply : env.reply history config = .text text) :
    Retried policy env config left attempt history
      (.text text attempt rateLimited, [.called config]) := by
  apply retried_once
  · intro other isOther
    cases isReply.symm.trans isOther
    exact ⟨rateLimited, rfl⟩
  · intro _ _ _ isText
    cases isText
    exact ⟨rfl, isReply⟩
  · intro _ _ isTransient
    cases isTransient

theorem noText_of_reply {reply : Reply} (isReply : env.reply history config = reply)
    (different : ∀ text, reply ≠ .text text) (text : String) :
    env.reply history config ≠ .text text := by
  rw [isReply]
  exact different text

theorem retried_of_transient (noText : ∀ text, env.reply history config ≠ .text text) :
    Retried policy env config left attempt history
      (.transient attempt rateLimited, [.called config]) := by
  apply retried_once
  · intro text isText
    exact absurd isText (noText text)
  · intro _ _ _ isText
    cases isText
  · intro _ _ isTransient
    cases isTransient
    rfl

theorem retried_of_error {result : Attempt}
    (noReply : ∀ text, env.reply history config ≠ .text text)
    (noText : ∀ text tried limited, result ≠ .text text tried limited)
    (noTransient : ∀ tried limited, result ≠ .transient tried limited) :
    Retried policy env config left attempt history (result, [.called config]) := by
  apply retried_once
  · intro text isText
    exact absurd isText (noReply text)
  · intro text tried limited isText
    exact absurd isText (noText text tried limited)
  · intro tried limited isTransient
    exact absurd isTransient (noTransient tried limited)

theorem retried_generateWithRetries :
    Retried policy env config left attempt history
      (generateWithRetries policy env config left attempt rateLimited history) := by
  induction left generalizing attempt rateLimited history with
  | zero =>
      rw [generateWithRetries]
      split
      next isReply => exact retried_of_reply isReply
      next isReply =>
        exact retried_of_error (noText_of_reply isReply nofun) (fun _ _ _ => nofun) nofun
      next isReply =>
        exact retried_of_error (noText_of_reply isReply nofun) (fun _ _ _ => nofun) nofun
      next isReply =>
        exact retried_of_error (noText_of_reply isReply nofun) (fun _ _ _ => nofun) nofun
      next isReply => exact retried_of_transient (noText_of_reply isReply nofun)
  | succ left inductionHypothesis =>
      rw [generateWithRetries]
      split
      next isReply => exact retried_of_reply isReply
      next isReply =>
        exact retried_of_error (noText_of_reply isReply nofun) (fun _ _ _ => nofun) nofun
      next isReply =>
        exact retried_of_error (noText_of_reply isReply nofun) (fun _ _ _ => nofun) nofun
      next isReply =>
        exact retried_of_error (noText_of_reply isReply nofun) (fun _ _ _ => nofun) nofun
      next isReply =>
        dsimp only
        split
        next => exact retried_of_transient (noText_of_reply isReply nofun)
        next =>
          exact retried_of_error (noText_of_reply isReply nofun) (fun _ _ _ => nofun) nofun
        next isWait =>
          exact inductionHypothesis.later (retryDelay_le isWait)
            (noText_of_reply isReply nofun)

end Retrying

section Turns

variable {Value : Type} {policy : RetryPolicy} {env : Environment}
variable {parse : String → Parsed Value} {config : ProviderRuntimeConfig}
variable {history events : List Event}

/-- Calls and waits are nothing else. -/
theorem filterMap_quiet {Item : Type} {select : Event → Option Item}
    (noCall : ∀ config, select (.called config) = none)
    (noWait : ∀ delay, select (.waited delay) = none)
    (quiet : ∀ event ∈ events, event = .called config ∨ ∃ delay, event = .waited delay) :
    events.filterMap select = [] := by
  apply List.filterMap_eq_nil_iff.mpr
  intro event isIn
  rcases quiet event isIn with isCall | ⟨delay, isWait⟩
  · rw [isCall]
    exact noCall config
  · rw [isWait]
    exact noWait delay

/-- What a chain spends on one provider, at most. -/
def RetryPolicy.mostCalls (policy : RetryPolicy) : ℕ :=
  policy.maxAttempts - 1 + 1

def RetryPolicy.mostWait (policy : RetryPolicy) : ℕ :=
  (policy.maxAttempts - 1) * policy.maxDelay

/-- One provider of the chain: it is asked for once, called no more than the policy lets, a
request that its breaker has let go is reported once, and one metric is recorded. -/
structure Turn (policy : RetryPolicy) (env : Environment) (parse : String → Parsed Value)
    (config : ProviderRuntimeConfig) (history : List Event)
    (result : Tried Value × List Event) : Prop where
  asked : result.2.filterMap Event.asked? = [label config]
  called : ∃ n ≤ policy.mostCalls, calls result.2 = List.replicate n config
  waited : (waits result.2).sum ≤ policy.mostWait
  reported : (result.1 = .raised → False) →
    result.2.filterMap Event.granted? = result.2.filterMap Event.reported?
  recorded : (result.1 = .raised → False) →
    result.2.filterMap Event.recorded? = [label config]
  value : ∀ value, result.1 = .value value →
    (∃ text, Replies env history result.2 config text ∧ parse text = .value value) ∧
    ∃ tried limited, .recorded (label config) .success tried limited ∈ result.2 ∧
      calls result.2 = List.replicate tried config
  first : ∀ before after other text value, result.2 = before ++ .called other :: after →
    env.reply (history ++ before) other = .text text → parse text = .value value →
    result.1 = .value value ∧ calls after = []

/-- What the calls of one provider are, whatever its adapter. -/
structure Spent (policy : RetryPolicy) (env : Environment) (config : ProviderRuntimeConfig)
    (history : List Event) (result : Attempt × List Event) : Prop where
  called : ∃ n ≤ policy.mostCalls, calls result.2 = List.replicate n config
  waited : (waits result.2).sum ≤ policy.mostWait
  quiet : ∀ event ∈ result.2, event = .called config ∨ ∃ delay, event = .waited delay
  text : ∀ text tried limited, result.1 = .text text tried limited →
    calls result.2 = List.replicate tried config ∧ Replies env history result.2 config text
  first : ∀ before after other text, result.2 = before ++ .called other :: after →
    env.reply (history ++ before) other = .text text →
    after = [] ∧ ∃ tried limited, result.1 = .text text tried limited

theorem spent_attemptWith :
    Spent policy env config history (attemptWith policy env config history) := by
  rw [attemptWith]
  split
  next =>
    have retried : Retried policy env config (policy.maxAttempts - 1) 1 history
        (generateWithRetries policy env config (policy.maxAttempts - 1) 1 false history) :=
      retried_generateWithRetries
    obtain ⟨n, isFew, isCalls, isWaits, isText, _⟩ := retried.counted
    refine ⟨⟨n + 1, Nat.succ_le_succ isFew, isCalls⟩, ?_, retried.quiet, ?_, retried.first⟩
    · exact isWaits.trans (Nat.mul_le_mul_right policy.maxDelay isFew)
    · intro text tried limited isResult
      rw [isText text tried limited isResult, Nat.add_comm]
      exact ⟨isCalls, retried.text text tried limited isResult⟩
  next =>
    refine ⟨⟨0, Nat.zero_le _, rfl⟩, Nat.zero_le _, ?_, ?_, ?_⟩
    · intro event isIn
      cases isIn
    · intro text tried limited isResult
      cases isResult
    · intro before after other text isSplit
      exact (not_called rfl isSplit).elim

theorem text_of_settle {attempt : Attempt} {value : Value} {tried : ℕ} {limited : Bool}
    (isValue : settle parse attempt = .value value tried limited) :
    ∃ text, attempt = .text text tried limited ∧ parse text = .value value := by
  cases attempt with
  | text text attempts rateLimited =>
      rw [settle] at isValue
      split at isValue
      next isParsed =>
        cases isValue
        exact ⟨text, rfl, isParsed⟩
      next => cases isValue
      next => cases isValue
  | transient => cases isValue
  | recoverable => cases isValue
  | unusable => cases isValue
  | escapes => cases isValue

/-- What a request that has been let go leaves, with what its end adds. -/
theorem Spent.filterMap_eq {Item : Type} {select : Event → Option Item}
    {result : Attempt × List Event} (spent : Spent policy env config history result)
    (noCall : ∀ config, select (.called config) = none)
    (noWait : ∀ delay, select (.waited delay) = none) (ending : List Event) :
    (.asked (label config) true :: result.2 ++ ending).filterMap select =
      [Event.asked (label config) true].filterMap select ++ ending.filterMap select := by
  have noItem : result.2.filterMap select = [] := filterMap_quiet noCall noWait spent.quiet
  rw [← List.singleton_append, List.filterMap_append, List.filterMap_append, noItem,
    List.append_nil]

/-- The turn of a provider whose breaker has let the request go. -/
theorem Spent.turn {result : Attempt × List Event} {tried : Tried Value} {ending : List Event}
    (spent : Spent policy env config (history ++ [.asked (label config) true]) result)
    (noCalls : calls ending = [])
    (noWaits : waits ending = []) (notAsked : ending.filterMap Event.asked? = [])
    (isTold : (tried = .raised → False) →
      ending.filterMap Event.granted? = [] ∧
      ending.filterMap Event.reported? = [label config] ∧
      ending.filterMap Event.recorded? = [label config])
    (isValue : ∀ value, tried = .value value →
      ∃ text attempts limited, result.1 = .text text attempts limited ∧
        parse text = .value value ∧ .recorded (label config) .success attempts limited ∈ ending)
    (ofText : ∀ text value attempts limited, result.1 = .text text attempts limited →
      parse text = .value value → tried = .value value) :
    Turn policy env parse config history
      (tried, .asked (label config) true :: result.2 ++ ending) := by
  have sameCalls : calls (.asked (label config) true :: result.2 ++ ending) = calls result.2 := by
    rw [calls, List.filterMap_append, ← calls, ← calls, noCalls, List.append_nil]
    rfl
  have sameWaits : waits (.asked (label config) true :: result.2 ++ ending) = waits result.2 := by
    rw [waits, List.filterMap_append, ← waits, ← waits, noWaits, List.append_nil]
    rfl
  refine ⟨?_, ?_, ?_, ?_, ?_, ?_, ?_⟩
  · rw [spent.filterMap_eq (fun _ => rfl) (fun _ => rfl), notAsked]
    rfl
  · rw [sameCalls]
    exact spent.called
  · rw [sameWaits]
    exact spent.waited
  · intro notRaised
    obtain ⟨noGrant, isReport, _⟩ := isTold notRaised
    rw [spent.filterMap_eq (fun _ => rfl) (fun _ => rfl),
      spent.filterMap_eq (fun _ => rfl) (fun _ => rfl), noGrant, isReport]
    rfl
  · intro notRaised
    rw [spent.filterMap_eq (fun _ => rfl) (fun _ => rfl), (isTold notRaised).2.2]
    rfl
  · intro value hasValue
    obtain ⟨text, attempts, limited, isText, isParsed, isRecorded⟩ := isValue value hasValue
    obtain ⟨isCalls, replies⟩ := spent.text text attempts limited isText
    refine ⟨⟨text, replies.behind.append, isParsed⟩, attempts, limited, ?_, ?_⟩
    · exact List.mem_append_right _ isRecorded
    · rw [sameCalls]
      exact isCalls
  · intro before after other text value isSplit isReply isParsed
    rcases split_called isSplit with ⟨between, isFront, isAfter⟩ | ⟨between, _, isEnding⟩
    · have isCut : [.asked (label config) true] ++ result.2 =
          before ++ .called other :: between := isFront
      rcases split_called isCut with ⟨_, isAsked, _⟩ | ⟨earlier, isBefore, isResult⟩
      · exact (not_called rfl isAsked).elim
      · rw [isBefore, ← List.append_assoc] at isReply
        obtain ⟨isLast, attempts, limited, isText⟩ :=
          spent.first earlier between other text isResult isReply
        refine ⟨ofText text value attempts limited isText isParsed, ?_⟩
        rw [isAfter, isLast]
        exact noCalls
    · exact (not_called noCalls isEnding).elim

theorem settle_of_text {attempt : Attempt} {text : String} {value : Value} {tried : ℕ}
    {limited : Bool} (isText : attempt = .text text tried limited)
    (isParsed : parse text = .value value) :
    settle parse attempt = .value value tried limited := by
  rw [isText, settle, isParsed]

/-- What is settled otherwise has no text that parses. -/
theorem noValue {attempt : Attempt} {settled : Settled Value} {tried : Tried Value}
    (isSettled : settle parse attempt = settled)
    (different : ∀ value tried limited, settled ≠ .value value tried limited)
    (text : String) (value : Value) (attempts : ℕ) (limited : Bool)
    (isText : attempt = .text text attempts limited) (isParsed : parse text = .value value) :
    tried = .value value :=
  absurd (isSettled.symm.trans (settle_of_text isText isParsed))
    (different value attempts limited)

theorem turn_tryProvider :
    Turn policy env parse config history (tryProvider policy env parse config history) := by
  have spent : Spent policy env config (history ++ [.asked (label config) true])
      (attemptWith policy env config (history ++ [.asked (label config) true])) :=
    spent_attemptWith
  rw [tryProvider]
  dsimp only
  split
  next =>
    refine ⟨rfl, ⟨0, Nat.zero_le _, rfl⟩, Nat.zero_le _, fun _ => rfl, fun _ => rfl, nofun, ?_⟩
    intro before after other text value isSplit
    exact (not_called rfl isSplit).elim
  next =>
    split
    next value attempts rateLimited isSettled =>
      apply spent.turn rfl rfl rfl (fun _ => ⟨rfl, rfl, rfl⟩)
      · intro other isValue
        cases isValue
        obtain ⟨text, isText, isParsed⟩ := text_of_settle isSettled
        exact ⟨text, attempts, rateLimited, isText, isParsed, List.mem_cons_self⟩
      · intro text other tried limited isText isParsed
        cases isSettled.symm.trans (settle_of_text isText isParsed)
        rfl
    next transient attempts rateLimited isSettled =>
      split
      next =>
        rw [List.append_assoc]
        exact spent.turn rfl rfl rfl (fun _ => ⟨rfl, rfl, rfl⟩) nofun (noValue isSettled nofun)
      next =>
        exact spent.turn rfl rfl rfl (fun notRaised => (notRaised rfl).elim) nofun
          (noValue isSettled nofun)
    next isSettled =>
      have raised : Turn policy env parse config history (.raised, .asked (label config) true ::
          (attemptWith policy env config (history ++ [.asked (label config) true])).2 ++ []) :=
        spent.turn rfl rfl rfl (fun notRaised => (notRaised rfl).elim) nofun
          (noValue isSettled nofun)
      rw [List.append_nil] at raised
      exact raised

end Turns

/-! ## The chain -/

section Running

variable {Value : Type} {policy : RetryPolicy} {env : Environment}
variable {parse : String → Parsed Value} {config : ProviderRuntimeConfig}
variable {chain rest : List ProviderRuntimeConfig} {history events : List Event}

/-- What a run of a chain is. -/
structure Ran (policy : RetryPolicy) (env : Environment) (parse : String → Parsed Value)
    (chain : List ProviderRuntimeConfig) (history : List Event)
    (result : ChainResult Value × List Event) : Prop where
  called : (calls result.2).length ≤ chain.length * policy.mostCalls
  waited : (waits result.2).sum ≤ chain.length * policy.mostWait
  asked : result.2.filterMap Event.asked? <+: chain.map label
  answered : ∀ value provider, result.1 = .answered value provider →
    ∃ front config back, chain = front ++ config :: back ∧ provider = label config ∧
      result.2.filterMap Event.asked? = (front ++ [config]).map label ∧
      (∀ other ∈ calls result.2, other ∈ front ++ [config]) ∧
      ∃ text, Replies env history result.2 config text ∧ parse text = .value value
  first : ∀ before after other text value, result.2 = before ++ .called other :: after →
    env.reply (history ++ before) other = .text text → parse text = .value value →
    result.1 = .answered value (label other) ∧ calls after = []
  exhausted : result.1 = .exhausted → result.2.filterMap Event.asked? = chain.map label
  reported : (result.1 = .raised → False) →
    result.2.filterMap Event.granted? = result.2.filterMap Event.reported? ∧
    result.2.filterMap Event.recorded? = result.2.filterMap Event.asked?

theorem Turn.length_calls {result : Tried Value × List Event}
    (turn : Turn policy env parse config history result) :
    (calls result.2).length ≤ policy.mostCalls ∧ ∀ other ∈ calls result.2, other = config := by
  obtain ⟨n, isFew, isCalls⟩ := turn.called
  rw [isCalls, List.length_replicate]
  exact ⟨isFew, fun other isIn => List.eq_of_mem_replicate isIn⟩

/-- The chain ends with this provider. -/
theorem Turn.last {tried : Tried Value} {outcome : ChainResult Value}
    (turn : Turn policy env parse config history (tried, events))
    (isLast : tried = .raised ∧ outcome = .raised ∨
      ∃ value, tried = .value value ∧ outcome = .answered value (label config)) :
    Ran policy env parse (config :: rest) history (outcome, events) where
  called := by
    rw [List.length_cons, Nat.succ_mul, Nat.add_comm]
    exact turn.length_calls.1.trans (Nat.le_add_right _ _)
  waited := by
    rw [List.length_cons, Nat.succ_mul, Nat.add_comm]
    exact turn.waited.trans (Nat.le_add_right _ _)
  asked := by
    rw [turn.asked]
    exact List.prefix_append [label config] (rest.map label)
  answered value provider isAnswer := by
    rcases isLast with ⟨_, isRaised⟩ | ⟨other, isValue, isOutcome⟩
    · rw [isRaised] at isAnswer
      cases isAnswer
    · rw [isOutcome] at isAnswer
      cases isAnswer
      exact ⟨[], config, rest, rfl, rfl, turn.asked,
        fun other isIn => List.mem_singleton.mpr (turn.length_calls.2 other isIn),
        (turn.value value isValue).1⟩
  first before after other text value isSplit isReply isParsed := by
    obtain ⟨hasValue, isLastCall⟩ := turn.first before after other text value isSplit isReply
      isParsed
    refine ⟨?_, isLastCall⟩
    have isConfig : other = config := by
      apply turn.length_calls.2
      exact List.mem_filterMap.mpr ⟨.called other, by rw [isSplit]; simp, rfl⟩
    rcases isLast with ⟨isRaised, _⟩ | ⟨given, isValue, isOutcome⟩
    · cases isRaised.symm.trans hasValue
    · cases isValue.symm.trans hasValue
      rw [isConfig]
      exact isOutcome
  exhausted isExhausted := by
    rcases isLast with ⟨_, isRaised⟩ | ⟨other, _, isOutcome⟩
    · rw [isRaised] at isExhausted
      cases isExhausted
    · rw [isOutcome] at isExhausted
      cases isExhausted
  reported notRaised := by
    rcases isLast with ⟨_, isRaised⟩ | ⟨value, isValue, _⟩
    · exact absurd isRaised notRaised
    · have notRaised : tried = .raised → False := by
        rw [isValue]
        exact nofun
      exact ⟨turn.reported notRaised, (turn.recorded notRaised).trans turn.asked.symm⟩

/-- The chain goes on behind this provider. -/
theorem Turn.next {later : ChainResult Value × List Event}
    (turn : Turn policy env parse config history (.next, events))
    (ran : Ran policy env parse rest (history ++ events) later) :
    Ran policy env parse (config :: rest) history (later.1, events ++ later.2) where
  called := by
    rw [calls, List.filterMap_append, List.length_append, List.length_cons, Nat.succ_mul,
      Nat.add_comm]
    exact Nat.add_le_add ran.called turn.length_calls.1
  waited := by
    rw [waits, List.filterMap_append, List.sum_append, List.length_cons, Nat.succ_mul,
      Nat.add_comm]
    exact Nat.add_le_add ran.waited turn.waited
  asked := by
    rw [List.filterMap_append, turn.asked]
    exact (List.prefix_append_right_inj [label config]).mpr ran.asked
  answered value provider isAnswer := by
    obtain ⟨front, other, back, isChain, isProvider, isAsked, areCalled, text, replies, isParsed⟩ :=
      ran.answered value provider isAnswer
    refine ⟨config :: front, other, back, ?_, isProvider, ?_, ?_, text, replies.behind, isParsed⟩
    · rw [isChain, List.cons_append]
    · rw [List.filterMap_append, turn.asked, isAsked]
      rfl
    · intro called isCalled
      rw [calls, List.filterMap_append] at isCalled
      rcases List.mem_append.mp isCalled with isFirst | isLater
      · rw [turn.length_calls.2 called isFirst]
        exact List.mem_cons_self
      · exact List.mem_cons_of_mem config (areCalled called isLater)
  first before after other text value isSplit isReply isParsed := by
    rcases split_called isSplit with ⟨between, isFront, _⟩ | ⟨between, isBefore, isLater⟩
    · have isValue := (turn.first before between other text value isFront isReply isParsed).1
      cases isValue
    · rw [isBefore, ← List.append_assoc] at isReply
      exact ran.first between after other text value isLater isReply isParsed
  exhausted isExhausted := by
    rw [List.filterMap_append, turn.asked, ran.exhausted isExhausted]
    rfl
  reported notRaised := by
    obtain ⟨isReported, isRecorded⟩ := ran.reported notRaised
    have isNext : (Tried.next : Tried Value) = .raised → False := nofun
    rw [List.filterMap_append, List.filterMap_append, List.filterMap_append,
      List.filterMap_append, turn.reported isNext, turn.recorded isNext, turn.asked, isReported,
      isRecorded]
    exact ⟨rfl, rfl⟩

theorem ran_generateWithChain :
    Ran policy env parse chain history (generateWithChain policy env parse chain history) := by
  induction chain generalizing history with
  | nil =>
      refine ⟨Nat.zero_le _, Nat.zero_le _, List.nil_prefix, nofun, ?_, fun _ => rfl,
        fun _ => ⟨rfl, rfl⟩⟩
      intro before after other text value isSplit
      exact (not_called rfl isSplit).elim
  | cons config rest inductionHypothesis =>
      have turn : Turn policy env parse config history
          (tryProvider policy env parse config history) := turn_tryProvider
      rw [generateWithChain]
      split
      next value events isTried =>
        rw [isTried] at turn
        exact turn.last (Or.inr ⟨value, rfl, rfl⟩)
      next events isTried =>
        rw [isTried] at turn
        exact turn.last (Or.inl ⟨rfl, rfl⟩)
      next events isTried =>
        rw [isTried] at turn
        exact turn.next inductionHypothesis

/-- A prompt goes down the chain in its order, within what the policy lets each provider have.
The first text that parses is the answer, and nobody is called after it; an answer is such a
text, and its provider the last one that has been asked; a chain without an answer has asked
them all, and unless an exception escapes, every breaker is told how a request it has let go
has ended. -/
theorem chain_in_order (policy : RetryPolicy) (env : Environment)
    (parse : String → Parsed Value) (chain : List ProviderRuntimeConfig)
    (history : List Event) :
    let result := generateWithChain policy env parse chain history
    (calls result.2).length ≤ chain.length * policy.mostCalls ∧
    (waits result.2).sum ≤ chain.length * policy.mostWait ∧
    result.2.filterMap Event.asked? <+: chain.map label ∧
    (∀ before after config text value, result.2 = before ++ .called config :: after →
      env.reply (history ++ before) config = .text text → parse text = .value value →
      result.1 = .answered value (label config) ∧ calls after = []) ∧
    (∀ value provider, result.1 = .answered value provider →
      ∃ front config back, chain = front ++ config :: back ∧ provider = label config ∧
        result.2.filterMap Event.asked? = (front ++ [config]).map label ∧
        (∀ other ∈ calls result.2, other ∈ front ++ [config]) ∧
        ∃ text, Replies env history result.2 config text ∧ parse text = .value value) ∧
    (result.1 = .exhausted → result.2.filterMap Event.asked? = chain.map label) ∧
    (result.1 ≠ .raised →
      result.2.filterMap Event.granted? = result.2.filterMap Event.reported? ∧
      result.2.filterMap Event.recorded? = result.2.filterMap Event.asked?) := by
  have ran : Ran policy env parse chain history
      (generateWithChain policy env parse chain history) := ran_generateWithChain
  exact ⟨ran.called, ran.waited, ran.asked, ran.first, ran.answered, ran.exhausted,
    ran.reported⟩

end Running

end DbBuddy.Providers.Chain
