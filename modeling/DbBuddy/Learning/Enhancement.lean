import DbBuddy.Learning.SharedMemory

/-!
# What a question recalls

Before a question is planned, the words of it that a scope has learned bring their columns with
them.  A hint is only ever put behind the question, and only if the schema has what it names.
-/

namespace DbBuddy.Learning

open DbBuddy.Library DbBuddy.Planner

universe u

/-! ## Recall -/

/-- How often a memory counts a target for a term. -/
def Memory.countOf (memory : Memory) (term target : String) : ℕ :=
  (((memory.mappings.lookup term).getD ∅).lookup target).getD 0

/-- `get_best_mapping` -/
def Memory.getBestMapping (memory : Memory) (threshold : ℕ) (term : String) : Option String :=
  match ((memory.mappings.lookup term).getD ∅).entries.argmax fun entry => entry.snd with
  | none => none
  | some best => if best.snd < threshold then none else some best.fst

/-- `MEASURE_SYNONYMS` -/
def measureSynonyms : List (String × String) :=
  [("revenue", "payments"), ("sales", "payments"), ("income", "payments"),
    ("earnings", "payments"), ("profit", "payments")]

/-- `TABLE_SYNONYMS` -/
def tableSynonyms : List (String × String) :=
  [("person", "users"), ("people", "users")]

/-- `_term_variants` -/
def termVariants (term : String) : List String :=
  if term.toList.getLast? = some 's' ∧ 1 < term.toList.length then
    [term, String.ofList term.toList.dropLast]
  else [term, term ++ "s"]

/-- `add` in `_candidate_terms` -/
def addTerm (candidates : List String) (term : String) : List String :=
  (termVariants term).foldl (fun candidates variant =>
    if variant ∈ candidates then candidates else candidates ++ [variant]) candidates

/-- `_candidate_terms` -/
def candidateTerms (token : String) : List String :=
  let synonyms := (termVariants token).filterMap fun variant =>
    List.lookup variant measureSynonyms
  synonyms.foldl addTerm (addTerm [] token)

/-- `_resolve_mapping` -/
def resolveMapping (memory : Memory) (threshold : ℕ) (token : String) : Option String :=
  (candidateTerms token).findSome? fun candidate =>
    (memory.getBestMapping threshold candidate).filter fun mapping => decide (mapping ≠ "")

/-! ## Hints -/

/-- `mapping.split(".", 1)` -/
def tablePart (mapping : String) : String :=
  String.ofList (mapping.toList.takeWhile fun char => char != '.')

def columnPart (mapping : String) : String :=
  String.ofList ((mapping.toList.dropWhile fun char => char != '.').drop 1)

/-- `_injection_tokens` -/
def injectionTokens (mapping : String) : List String :=
  if '.' ∈ mapping.toList ∧ tablePart mapping ≠ "" then [mapping, tablePart mapping]
  else [mapping]

section Enhancing

variable (unicode : Unicode)

/-- `_injection_is_valid`; of two tables with one name in lower case the last one counts. -/
def injectionIsValid (schema : Dict String (List String)) (inject : String) : Bool :=
  if schema.entries = [] then true
  else
    let token := unicode.lower inject
    let columnsOf (table : String) :=
      (schema.entries.reverse.find? fun entry => unicode.lower entry.fst == table).map Sigma.snd
    if '.' ∈ token.toList then
      ((columnsOf (tablePart token)).getD []).any fun column =>
        unicode.lower column == columnPart token
    else (columnsOf token).isSome

/-- `query.lower().split()` -/
def queryTokens (query : String) : List String :=
  (words (unicode.lower query).toList).map String.ofList

variable (memory : Memory) (threshold : ℕ) (schema : Dict String (List String))

/-- What the question asks to put behind it, in order. -/
def injections (tokens : List String) : List String :=
  (tableSynonyms.filter fun synonym => decide (synonym.1 ∈ tokens)).map Prod.snd ++
    tokens.flatMap fun token =>
      (resolveMapping memory threshold token).toList.flatMap injectionTokens

/-- One of them, unless the question or a hint has it, or the schema does not. -/
def inject (tokens appended : List String) (token : String) : List String :=
  if token ∈ tokens ++ appended ∨ injectionIsValid unicode schema token = false then appended
  else appended ++ [token]

/-- `appended` -/
def appended (query : String) : List String :=
  let tokens := queryTokens unicode query
  if memory.mappings.entries = [] then []
  else (injections memory threshold tokens).foldl (inject unicode schema tokens) []

/-- `enhance_query` -/
def enhanceQuery (query : String) : String :=
  let hints := appended unicode memory threshold schema query
  if hints = [] then query else query ++ " " ++ " ".intercalate hints

end Enhancing

/-! ## What is recalled has been taught -/

section Recalling

variable {memory after : Memory} {term target other : String} {threshold : ℕ}

theorem threshold_le_countOf (isBest : memory.getBestMapping threshold term = some target) :
    threshold ≤ memory.countOf term target := by
  rw [Memory.getBestMapping] at isBest
  split at isBest
  next => cases isBest
  next best isMost =>
    split at isBest
    next => cases isBest
    next isEnough =>
      cases isBest
      have isEntry := AList.mem_lookup_iff.mpr (List.argmax_mem isMost)
      rw [Memory.countOf, isEntry]
      exact Nat.le_of_not_lt isEnough

theorem resolveMapping_cases {token : String}
    (isResolved : resolveMapping memory threshold token = some target) :
    ∃ candidate ∈ candidateTerms token, threshold ≤ memory.countOf candidate target := by
  obtain ⟨candidate, isIn, isMapping⟩ := List.exists_of_findSome?_eq_some isResolved
  obtain ⟨isBest, _⟩ := Option.filter_eq_some_iff.mp isMapping
  exact ⟨candidate, isIn, threshold_le_countOf isBest⟩

/-- The counts of a term after one more of a target, and after the pruning of another one. -/
def Pruned (before after : Counts) (other : String) : Prop :=
  after = before.bump other ∨ ∃ weakest, after = (before.bump other).erase weakest

theorem lookup_of_pruned {before pruned : Counts} (isPruned : Pruned before pruned other) :
    (pruned.lookup target).getD 0 ≤
      (before.lookup target).getD 0 + if other = target then 1 else 0 := by
  have isBump : ((before.bump other).lookup target).getD 0 ≤
      (before.lookup target).getD 0 + if other = target then 1 else 0 := by
    rw [Counts.bump, Dict.lookup_assign]
    by_cases isTarget : target = other
    · subst isTarget
      simp
    · simp [isTarget]
  rcases isPruned with isWhole | ⟨weakest, isErased⟩
  · rw [isWhole]
    exact isBump
  · rw [isErased]
    by_cases isWeakest : target = weakest
    · rw [isWeakest, AList.lookup_erase]
      exact Nat.zero_le _
    · rw [AList.lookup_erase_ne isWeakest]
      exact isBump

/-- What adding a mapping does. -/
theorem addMapping_cases {added : String} (isAdded : memory.addMapping added other = some after) :
    ∃ pruned, Pruned ((memory.mappings.lookup added).getD ∅) pruned other ∧
      after = { memory with mappings := memory.mappings.assign added pruned } := by
  rw [Memory.addMapping] at isAdded
  split at isAdded
  next =>
    split at isAdded
    next => cases isAdded
    next weakest _ =>
      split at isAdded
      next => cases isAdded
      next =>
        cases isAdded
        exact ⟨_, Or.inr ⟨weakest, rfl⟩, rfl⟩
  next =>
    cases isAdded
    exact ⟨_, Or.inl rfl, rfl⟩

/-- To add a mapping counts one more of it at most. -/
theorem countOf_addMapping {added : String}
    (isAdded : memory.addMapping added other = some after) :
    after.countOf term target ≤
      memory.countOf term target + if added = term ∧ other = target then 1 else 0 := by
  obtain ⟨pruned, isPruned, isAfter⟩ := addMapping_cases isAdded
  rw [Memory.countOf, isAfter, Dict.lookup_assign]
  by_cases isTerm : term = added
  · subst isTerm
    have one := @lookup_of_pruned target other _ _ isPruned
    rw [if_pos rfl, Option.getD_some]
    simpa [Memory.countOf] using one
  · rw [if_neg isTerm]
    exact Nat.le_add_right _ _

theorem countOf_addMappings {terms : List String}
    (isAdded : memory.addMappings other terms = some after) :
    after.countOf term target ≤
      memory.countOf term target + if other = target then terms.count term else 0 := by
  induction terms generalizing memory with
  | nil =>
      cases isAdded
      exact Nat.le_add_right _ _
  | cons first rest inductionHypothesis =>
      obtain ⟨between, isFirst, isRest⟩ := Option.bind_eq_some_iff.mp isAdded
      have one := @countOf_addMapping memory between term target other first isFirst
      have more := inductionHypothesis isRest
      rw [List.count_cons]
      by_cases isTarget : other = target
      · rw [if_pos isTarget] at more ⊢
        by_cases isTerm : first = term
        · rw [if_pos ⟨isTerm, isTarget⟩] at one
          rw [if_pos (beq_iff_eq.mpr isTerm)]
          omega
        · rw [if_neg fun both => isTerm both.1] at one
          omega
      · rw [if_neg isTarget] at more ⊢
        rw [if_neg fun both => isTarget both.2] at one
        omega

/-- What a lesson speaks of. -/
def Lesson.reference (lesson : Lesson) : String :=
  lesson.table ++ "." ++ lesson.column

theorem countOf_learn {lesson : Lesson} (isLearned : memory.learn lesson = some after) :
    after.countOf term target ≤ memory.countOf term target +
      if lesson.reference = target then lesson.terms.count term else 0 := by
  obtain ⟨mapped, isMapped, isAfter⟩ := Option.map_eq_some_iff.mp isLearned
  subst isAfter
  exact @countOf_addMappings memory mapped term target _ _ isMapped

end Recalling

/-- A memory counts no mapping more often than the terms for its target say. -/
def Within (memory : Memory) (taught : String → List String) : Prop :=
  ∀ term target, memory.countOf term target ≤ (taught target).count term

theorem within_blank {taught : String → List String} : Within Memory.blank taught :=
  fun _ _ => Nat.zero_le _

/-! ## Updates that race -/

section Races

variable {Call : Type u} {update : Call → Update} {history : List Call} {call other : Call}
variable {memory : Memory} {scope target : String}

/-- The terms that the updates of a scope have taught for a target. -/
def taughtTerms (update : Call → Update) (history : List Call) (scope target : String) :
    List String :=
  ((history.map update).filter fun call =>
    savedScope call.scope == scope && call.lesson.reference == target).flatMap
      fun call => call.lesson.terms

theorem taughtTerms_append :
    taughtTerms update (history ++ [call]) scope target =
      taughtTerms update history scope target ++
        if savedScope (update call).scope = scope ∧ (update call).lesson.reference = target then
          (update call).lesson.terms
        else [] := by
  rw [taughtTerms, List.map_append, List.filter_append, List.flatMap_append, ← taughtTerms,
    List.map_singleton, List.filter_singleton]
  congr 1
  by_cases isOwn : savedScope (update call).scope = scope ∧
      (update call).lesson.reference = target
  · rw [if_pos isOwn, isOwn.1, isOwn.2]
    simp
  · rw [if_neg isOwn]
    rw [not_and_or] at isOwn
    rcases isOwn with isOther | isOther
    · simp [beq_false_of_ne isOther]
    · simp [beq_false_of_ne isOther]

/-- An update that is written in between teaches nothing away. -/
theorem Within.between (within : Within memory (taughtTerms update (history ++ [other]) scope)) :
    Within memory (taughtTerms update (history ++ [call] ++ [other]) scope) := by
  intro term target
  have counted := within term target
  rw [taughtTerms_append, List.count_append] at counted ⊢
  rw [taughtTerms_append, List.count_append]
  omega

theorem Within.later (within : Within memory (taughtTerms update history scope)) :
    Within memory (taughtTerms update (history ++ [call]) scope) := by
  intro term target
  have counted := within term target
  rw [taughtTerms_append, List.count_append]
  omega

/-- No update is saved in a scope without a name. -/
theorem savedScope_ne {name : String} : savedScope name ≠ "" := by
  rw [savedScope]
  split
  next => decide
  next isNamed => exact isNamed

theorem Within.saved (within : Within memory (taughtTerms update history scope)) :
    Within memory (taughtTerms update history (savedScope scope)) := by
  by_cases noName : scope = ""
  · have nothing : ∀ target, taughtTerms update history scope target = [] := by
      intro target
      rw [taughtTerms, noName]
      simp [savedScope_ne]
    intro term target
    have counted := within term target
    rw [nothing, List.count_nil] at counted
    exact counted.trans (Nat.zero_le _)
  · rw [savedScope, if_neg noName]
    exact within

theorem Within.learn {after : Memory}
    (within : Within memory (taughtTerms update history (savedScope (update call).scope)))
    (isLearned : memory.learn (update call).lesson = some after) :
    Within after (taughtTerms update (history ++ [call]) (savedScope (update call).scope)) := by
  intro term target
  have counted := within term target
  have more := @countOf_learn memory after term target _ isLearned
  rw [taughtTerms_append, List.count_append]
  by_cases isTarget : (update call).lesson.reference = target
  · rw [if_pos isTarget] at more
    rw [if_pos ⟨rfl, isTarget⟩]
    omega
  · rw [if_neg isTarget] at more
    omega

/-- However the updates race: the file, what is loaded and what is about to be written count
nothing that has not been taught. -/
structure Taught (update : Call → Update) (state : State Call) : Prop where
  content : ∀ scope, Within (state.content.memory scope) (taughtTerms update state.history scope)
  loaded : ∀ call memory, state.phase call = .loaded memory →
    Within memory (taughtTerms update state.history (savedScope (update call).scope))
  gathered : ∀ call scopes, state.phase call = .gathered scopes ∨
      state.phase call = .emptied scopes →
    ∀ scope, Within ((scopes scope).getD Memory.blank)
      (taughtTerms update (state.history ++ [call]) scope)

variable [DecidableEq Call] {state next : State Call}

/-- One call goes on, and the file may change. -/
theorem Taught.write (taught : Taught update state) {content : Content} {phase : Phase}
    (isContent : ∀ scope, Within (content.memory scope) (taughtTerms update state.history scope))
    (isLoaded : ∀ memory, phase = .loaded memory →
      Within memory (taughtTerms update state.history (savedScope (update call).scope)))
    (isSaving : ∀ scopes, phase = .gathered scopes ∨ phase = .emptied scopes → ∀ scope,
      Within ((scopes scope).getD Memory.blank)
        (taughtTerms update (state.history ++ [call]) scope)) :
    Taught update { state.setPhase call phase with content := content } where
  content := isContent
  loaded other memory isPhase := by
    by_cases same : other = call
    · subst same
      have isSelf : phase = .loaded memory := by
        simpa [State.setPhase] using isPhase
      exact isLoaded memory isSelf
    · have isOther : state.phase other = .loaded memory := by
        simpa [State.setPhase, same] using isPhase
      exact taught.loaded other memory isOther
  gathered other scopes isPhase := by
    by_cases same : other = call
    · subst same
      have isSelf : phase = .gathered scopes ∨ phase = .emptied scopes := by
        simpa [State.setPhase] using isPhase
      exact isSaving scopes isSelf
    · have isOther : state.phase other = .gathered scopes ∨
          state.phase other = .emptied scopes := by
        simpa [State.setPhase, same] using isPhase
      exact taught.gathered other scopes isOther

theorem Taught.load (taught : Taught update state)
    (stepped : step update state (.load call) = some next) : Taught update next := by
  obtain ⟨_, isNext⟩ := step_load stepped
  subst isNext
  apply taught.write taught.content
  · intro memory isLoaded
    cases isLoaded
    exact (taught.content _).saved
  · intro scopes isSaving
    rcases isSaving with isGathered | isEmptied
    · cases isGathered
    · cases isEmptied

theorem Taught.gather (taught : Taught update state)
    (stepped : step update state (.gather call) = some next) : Taught update next := by
  obtain ⟨memory, isLoaded, ⟨_, isNext⟩ | ⟨learned, isLearned, isNext⟩⟩ := step_gather stepped
  · subst isNext
    apply taught.write taught.content (fun memory isAgain => by cases isAgain)
    intro scopes isSaving
    rcases isSaving with isGathered | isEmptied
    · cases isGathered
    · cases isEmptied
  · subst isNext
    apply taught.write taught.content (fun memory isAgain => by cases isAgain)
    intro scopes isSaving scope
    rcases isSaving with isGathered | isEmptied
    · cases isGathered
      by_cases isOwn : scope = savedScope (update call).scope
      · rw [isOwn, Function.update_self, Option.getD_some]
        exact (taught.loaded call memory isLoaded).learn isLearned
      · rw [Function.update_of_ne isOwn]
        exact (taught.content scope).later
    · cases isEmptied

theorem Taught.empty (taught : Taught update state)
    (stepped : step update state (.empty call) = some next) : Taught update next := by
  obtain ⟨scopes, isGathered, isNext⟩ := step_empty stepped
  subst isNext
  have blank : ∀ scope, Within (Content.broken.memory scope)
      (taughtTerms update state.history scope) := fun _ => within_blank
  apply taught.write blank (fun memory isAgain => by cases isAgain)
  intro others isSaving
  rcases isSaving with isAgain | isEmptied
  · cases isAgain
  · cases isEmptied
    exact taught.gathered call scopes (Or.inl isGathered)

omit [DecidableEq Call] in
/-- One more update is in the history. -/
theorem Taught.later (taught : Taught update state) :
    Taught update { state with history := state.history ++ [call] } where
  content scope := (taught.content scope).later
  loaded other memory isLoaded := (taught.loaded other memory isLoaded).later
  gathered other scopes isSaving scope := (taught.gathered other scopes isSaving scope).between

theorem Taught.fill {covers : Bool} (taught : Taught update state)
    (stepped : step update state (.fill call covers) = some next) : Taught update next := by
  obtain ⟨scopes, isEmptied, isNext⟩ := step_fill stepped
  subst isNext
  have written := taught.gathered call scopes (Or.inr isEmptied)
  have grown : Taught update { state with history := state.history ++ [call] } := taught.later
  apply grown.write
  · intro scope
    split
    next =>
      split
      next => exact written scope
      next => exact within_blank
    next => exact written scope
  · intro memory isAgain
    cases isAgain
  · intro others isSaving
    rcases isSaving with isAgain | isAgain
    · cases isAgain
    · cases isAgain

theorem Taught.step (taught : Taught update state) {label : Label Call}
    (stepped : step update state label = some next) : Taught update next := by
  cases label with
  | load call => exact taught.load stepped
  | gather call => exact taught.gather stepped
  | empty call => exact taught.empty stepped
  | fill call covers => exact taught.fill stepped

end Races

/-! ## What stands behind a question -/

section Hints

variable {unicode : Unicode} {schema : Dict String (List String)} {tokens offered : List String}
variable {memory : Memory} {threshold : ℕ} {hints : List String} {token query : String}

theorem mem_foldl_inject
    (isIn : token ∈ offered.foldl (inject unicode schema tokens) hints) :
    token ∈ hints ∨
      token ∈ offered ∧ token ∉ tokens ∧ injectionIsValid unicode schema token = true := by
  induction offered generalizing hints with
  | nil => exact Or.inl isIn
  | cons first rest inductionHypothesis =>
      rcases inductionHypothesis isIn with isFirst | ⟨inRest, isNew⟩
      · rw [inject] at isFirst
        split at isFirst
        next => exact Or.inl isFirst
        next isNew =>
          rw [not_or, List.mem_append, not_or, Bool.not_eq_false] at isNew
          rcases List.mem_append.mp isFirst with isOld | isToken
          · exact Or.inl isOld
          · rw [List.mem_singleton.mp isToken]
            exact Or.inr ⟨List.mem_cons_self, isNew.1.1, isNew.2⟩
      · exact Or.inr ⟨List.mem_cons_of_mem first inRest, isNew⟩

theorem nodup_foldl_inject (isNodup : hints.Nodup) :
    (offered.foldl (inject unicode schema tokens) hints).Nodup := by
  induction offered generalizing hints with
  | nil => exact isNodup
  | cons first rest inductionHypothesis =>
      apply inductionHypothesis
      rw [inject]
      split
      next => exact isNodup
      next isNew =>
        rw [not_or, List.mem_append, not_or] at isNew
        exact List.Nodup.append isNodup (List.nodup_singleton first)
          (List.disjoint_singleton.mpr isNew.1.2)

theorem appended_spec (isIn : token ∈ appended unicode memory threshold schema query) :
    token ∈ injections memory threshold (queryTokens unicode query) ∧
      token ∉ queryTokens unicode query ∧ injectionIsValid unicode schema token = true := by
  rw [appended] at isIn
  split at isIn
  next => cases isIn
  next =>
    rcases mem_foldl_inject isIn with isNone | isOffered
    · cases isNone
    · exact isOffered

/-- A hint is the table of a synonym in the question, or part of what its scope has been taught
for one of its words. -/
theorem mem_injections (isIn : token ∈ injections memory threshold tokens) :
    (∃ synonym ∈ tableSynonyms, synonym.1 ∈ tokens ∧ token = synonym.2) ∨
      ∃ word ∈ tokens, ∃ term ∈ candidateTerms word, ∃ target,
        token ∈ injectionTokens target ∧ threshold ≤ memory.countOf term target := by
  rcases List.mem_append.mp isIn with isTable | isLearned
  · obtain ⟨synonym, isSynonym, isToken⟩ := List.mem_map.mp isTable
    obtain ⟨inTable, inTokens⟩ := List.mem_filter.mp isSynonym
    exact Or.inl ⟨synonym, inTable, of_decide_eq_true inTokens, isToken.symm⟩
  · obtain ⟨word, isWord, isHint⟩ := List.mem_flatMap.mp isLearned
    obtain ⟨target, isTarget, isPart⟩ := List.mem_flatMap.mp isHint
    obtain ⟨term, isTerm, isCounted⟩ := resolveMapping_cases (Option.mem_toList.mp isTarget)
    exact Or.inr ⟨word, isWord, term, isTerm, target, isPart, isCounted⟩

end Hints

theorem taught_initial {Call : Type u} {update : Call → Update} {state : State Call}
    (isInitial : Initial state) (noFile : state.content = .missing) : Taught update state where
  content scope := by
    rw [noFile]
    exact within_blank
  loaded call memory isLoaded := by
    rw [isInitial.2.2 call] at isLoaded
    cases isLoaded
  gathered call scopes isSaving := by
    rw [isInitial.2.2 call] at isSaving
    rcases isSaving with isGathered | isEmptied
    · cases isGathered
    · cases isEmptied

/-- A question only ever gets hints put behind it, each of them once and none that it has: the
table of a synonym that stands in it, or what the updates of its own scope have taught, at least
as often as the threshold says, for a word of it; and the schema has what a hint names.  The
updates may race in any way: what they lose is not recalled, but nothing else is. -/
theorem enhancement_is_grounded {Call : Type u} [DecidableEq Call] (unicode : Unicode)
    (update : Call → Update) (start state : State Call) (scope query : String) (threshold : ℕ)
    (schema : Dict String (List String)) (isInitial : Initial start)
    (noFile : start.content = .missing)
    (run : (system update).Reaches (fun _ _ => True) start state) :
    ∃ hints : List String, hints.Nodup ∧
      enhanceQuery unicode (state.content.memory scope) threshold schema query =
        (if hints = [] then query else query ++ " " ++ " ".intercalate hints) ∧
      ∀ hint ∈ hints, hint ∉ queryTokens unicode query ∧
        injectionIsValid unicode schema hint = true ∧
        ((∃ synonym ∈ tableSynonyms, synonym.1 ∈ queryTokens unicode query ∧ hint = synonym.2) ∨
          ∃ word ∈ queryTokens unicode query, ∃ term ∈ candidateTerms word, ∃ target,
            hint ∈ injectionTokens target ∧
            threshold ≤ (taughtTerms update state.history scope target).count term) := by
  have taught : Taught update state :=
    run.preserves (Taught update) (fun _ _ _ taught _ stepped => taught.step stepped)
      (taught_initial isInitial noFile)
  refine ⟨appended unicode (state.content.memory scope) threshold schema query, ?_, rfl, ?_⟩
  · rw [appended]
    split
    next => exact List.nodup_nil
    next => exact nodup_foldl_inject List.nodup_nil
  · intro hint isHint
    obtain ⟨isInjected, isNew, isValid⟩ := appended_spec isHint
    refine ⟨isNew, isValid, ?_⟩
    rcases mem_injections isInjected with isSynonym | ⟨word, isWord, term, isTerm, target, isPart,
      isCounted⟩
    · exact Or.inl isSynonym
    · exact Or.inr ⟨word, isWord, term, isTerm, target, isPart,
        isCounted.trans (taught.content scope term target)⟩

def paymentsSchema : Dict String (List String) where
  entries := [⟨"payments", ["id", "amount"]⟩]
  nodupKeys := List.nodup_singleton _

/-- Two answers about revenue, in one scope. -/
def revenueTaught (_ : Bool) : Update := ⟨"shop", ["revenue"], "payments", "amount"⟩

def saveAlone (call : Bool) : List (Label Bool) :=
  [.load call, .gather call, .empty call, .fill call true]

def revenueRun : State Bool :=
  ((system revenueTaught).exec noFile (saveAlone false ++ saveAlone true)).getD noFile

/-- What has been taught twice stands behind the question. -/
theorem enhancement_is_grounded_revenue :
    enhanceQuery ascii (revenueRun.content.memory "shop") 2 paymentsSchema "Revenue per day" =
        "Revenue per day payments.amount payments" ∧
      ∃ hints : List String, hints.Nodup ∧
        enhanceQuery ascii (revenueRun.content.memory "shop") 2 paymentsSchema "Revenue per day" =
          if hints = [] then "Revenue per day"
          else "Revenue per day" ++ " " ++ " ".intercalate hints := by
  have run : (system revenueTaught).Reaches (fun _ _ => True) noFile revenueRun :=
    TransitionSystem.reaches_of_exec (saveAlone false ++ saveAlone true) rfl
  obtain ⟨hints, isNodup, isText, _⟩ := enhancement_is_grounded ascii revenueTaught noFile
    revenueRun "shop" "Revenue per day" 2 paymentsSchema
    ⟨by simp [noFile], rfl, fun _ => rfl⟩ rfl run
  exact ⟨by decide +kernel, hints, isNodup, isText⟩

end DbBuddy.Learning
