import DbBuddy.Planner.ColumnRoles
import DbBuddy.Providers.AnswerKeys
import DbBuddy.Providers.ProviderChain

/-!
# The labels of columns

Analyzing a schema asks the provider chain for a word about each column, a chunk of columns at a
time.  A column that nobody has answered for gets a label made of its own name, and the layer
says so.
-/

namespace DbBuddy.Providers.Labelling

open DbBuddy.Library
open DbBuddy.Insights (Text)
open DbBuddy.Planner.ValueGrounding (Info Role Roles Semantic aiRoleFromTerm infoOf
  lookup_foldl_assign overlayAiRoles roleOf roleOf_overlayAiRoles)
open DbBuddy.Providers.Chain
open DbBuddy.Providers.FallbackGraph (ProviderRuntimeConfig)
open DbBuddy.Providers.TenantBreakers (label)

/-! ## One column -/

/-- `{"term": …, "provider": …}` -/
structure Result where
  term : Text
  provider : Option String

/-- `_TOKEN_EXPANSIONS` -/
def tokenExpansions : List (String × String) :=
  [("id", "identifier"), ("ids", "identifiers"), ("qty", "quantity"), ("amt", "amount"),
    ("val", "value"), ("num", "number"), ("desc", "description"), ("ts", "timestamp"),
    ("dt", "date"), ("url", "url"), ("img", "image"), ("msg", "message"),
    ("ref", "reference"), ("pct", "percent")]

/-- `CANONICAL_TERMS` -/
def canonicalTerms : List String :=
  ["value", "quantity", "name", "date", "identifier", "status", "description"]

/-- `re.sub(r"([a-z])([A-Z])", r"\1 \2", name)` -/
def camelSplit : Text → Text
  | first :: second :: rest =>
      if first.isLower = true ∧ second.isUpper = true then
        first :: ' ' :: camelSplit (second :: rest)
      else first :: camelSplit (second :: rest)
  | text => text

/-- `" ".join(tokens)` -/
def joinWords (tokens : List Text) : Text :=
  [' '].intercalate tokens

section Columns

variable (unicode : Unicode) (lowercase : Lowercase) (isAlnum : Text → Bool)

def expand (token : Text) : Text :=
  match tokenExpansions.lookup (String.ofList token) with
  | some expansion => expansion.toList
  | none => token

/-- `_normalize` -/
def normalize (name : Text) : Text :=
  let spaced := (camelSplit name).map fun char => if char = '_' then ' ' else char
  joinWords ((words (lowercase.text spaced)).map expand)

/-- `_fallback_result` -/
def fallbackResult (column : Text) : Result :=
  ⟨normalize lowercase column, none⟩

/-- `_as_result`, of a value that is a `str` or not. -/
def asResult (value : Option Text) (column : Text) (provider : String) : Result :=
  match value with
  | none => fallbackResult lowercase column
  | some text =>
      let cleaned := lowercase.text (strip text)
      if cleaned = [] ∨ cleaned = "unknown".toList then fallbackResult lowercase column
      else if isAlnum cleaned = true then ⟨cleaned, some provider⟩
      else
        match canonicalTerms.find? fun term => containsText term.toList cleaned with
        | some term => ⟨term.toList, some provider⟩
        | none => fallbackResult lowercase column

/-! ## Chunks -/

variable {Other : Type} [DecidableEq Other]

def classifyChunk : ℕ := 30

/-- `column_keys[start:start + _CLASSIFY_CHUNK]`, for each start. -/
def chunks (columns : List Text) : List (List Text) :=
  (List.range ((columns.length + (classifyChunk - 1)) / classifyChunk)).map fun n =>
    (columns.drop (n * classifyChunk)).take classifyChunk

/-- `results.update({column: … for column in chunk})` -/
def update (results : Dict Text Result) (chunk : List Text) (result : Text → Result) :
    Dict Text Result :=
  chunk.foldl (fun results column => results.assign column (result column)) results

variable (policy : RetryPolicy) (env : Environment)
variable (parse : String → Parsed (Answer Other (Option Text)))
variable (chain : List ProviderRuntimeConfig)

/-- What the columns of a chunk get from an outcome. -/
def resultOf (outcome : ChainResult (Answer Other (Option Text))) (column : Text) : Result :=
  match outcome with
  | .answered parsed provider =>
      asResult lowercase isAlnum (matchValue unicode (String.ofList column) parsed).join column
        provider
  | _ => fallbackResult lowercase column

/-- The loop over the chunks; `none` where an exception escapes. -/
def classifyChunks : List (List Text) → Dict Text Result → List Event →
    Option (Dict Text Result) × List Event
  | [], results, _ => (some results, [])
  | chunk :: rest, results, history =>
      match generateWithChain policy env parse chain history with
      | (.raised, events) => (none, events)
      | (outcome, events) =>
          let later := classifyChunks rest
            (update results chunk (resultOf unicode lowercase isAlnum outcome)) (history ++ events)
          (later.1, events ++ later.2)

/-- `classify_columns` -/
def classifyColumns (columns : List Text) (history : List Event) :
    Option (Dict Text Result) × List Event :=
  if columns = [] then (some ∅, [])
  else if chain = [] then (some (update ∅ columns (fallbackResult lowercase)), [])
  else
    classifyChunks unicode lowercase isAlnum policy env parse chain (chunks columns) ∅ history

/-! ## The layer -/

/-- What the semantic layer keeps about a column. -/
structure Label where
  term : Text
  source : String
  provider : Option String

abbrev Layer := Dict Text (Dict Text Label)

/-- `f"{table}.{column}"` -/
def columnKey (table column : Text) : Text :=
  table ++ '.' :: column

def columnKeys (layer : Layer) : List Text :=
  layer.entries.flatMap fun table => table.2.keys.map (columnKey table.1)

/-- `text.split(".")[-1]` -/
def lastPart (text : Text) : Text :=
  (text.splitOn '.').getLast?.getD []

/-- The body of the loop over the columns. -/
def relabel (results : Dict Text Result) (table column : Text) : Label :=
  let raw := (results.lookup column).or (results.lookup (columnKey table column))
  let term := (raw.map fun result => lastPart result.term).getD []
  if term = [] ∨ term = "unknown".toList then ⟨normalize lowercase column, "rule", none⟩
  else
    let provider := raw.bind Result.provider
    ⟨term, if (provider.getD "") = "" then "rule" else "ai", provider⟩

/-- `ai_refine`, with a provider chain. -/
def aiRefine (layer : Layer) (history : List Event) : Option Layer × List Event :=
  if columnKeys layer = [] then (some layer, [])
  else
    let classified := classifyColumns unicode lowercase isAlnum policy env parse chain
      (columnKeys layer) history
    (classified.1.map fun results =>
      OrderedDict.mapValues layer fun table columns =>
        OrderedDict.mapValues columns fun column _ => relabel lowercase results table column,
      classified.2)

end Columns

/-! ## The chunks -/

section Chunking

variable {columns : List Text} {column : Text} {n : ℕ}

theorem length_chunks : (chunks columns).length = (columns.length + 29) / 30 := by
  rw [chunks, List.length_map, List.length_range]
  rfl

theorem getElem?_chunks (isChunk : n < (columns.length + 29) / 30) :
    (chunks columns)[n]? = some ((columns.drop (n * classifyChunk)).take classifyChunk) := by
  have isRange : n < (columns.length + (classifyChunk - 1)) / classifyChunk := isChunk
  rw [chunks, List.getElem?_map, List.getElem?_range isRange, Option.map_some]

/-- A chunk holds the columns of its places. -/
theorem mem_chunk_iff :
    column ∈ (columns.drop (n * classifyChunk)).take classifyChunk ↔
      ∃ place, place / classifyChunk = n ∧ columns[place]? = some column := by
  have isPositive : 0 < classifyChunk := by decide
  rw [List.mem_iff_getElem?]
  constructor
  · intro ⟨offset, isColumn⟩
    rw [List.getElem?_take] at isColumn
    split at isColumn
    next isSmall =>
      rw [List.getElem?_drop] at isColumn
      refine ⟨n * classifyChunk + offset, ?_, isColumn⟩
      rw [Nat.mul_comm, Nat.mul_add_div isPositive, Nat.div_eq_of_lt isSmall, Nat.add_zero]
    next => cases isColumn
  · intro ⟨place, isPart, isColumn⟩
    refine ⟨place % classifyChunk, ?_⟩
    rw [List.getElem?_take, if_pos (Nat.mod_lt place isPositive), List.getElem?_drop, ← isPart,
      Nat.div_add_mod']
    exact isColumn

end Chunking

/-! ## Where a label comes from -/

section Sources

variable {unicode : Unicode} {lowercase : Lowercase} {isAlnum : Text → Bool}
variable {Other : Type} [DecidableEq Other]
variable {policy : RetryPolicy} {env : Environment}
variable {parse : String → Parsed (Answer Other (Option Text))}
variable {chain : List ProviderRuntimeConfig} {history : List Event}
variable {results : Dict Text Result} {layer : Layer} {table column : Text}

/-- What a result of a column is: made of its name, or read from a text that a provider of the
chain has replied with in the run. -/
def Told (unicode : Unicode) (lowercase : Lowercase) (isAlnum : Text → Bool) (env : Environment)
    (parse : String → Parsed (Answer Other (Option Text))) (chain : List ProviderRuntimeConfig)
    (history events : List Event) (column : Text) (result : Result) : Prop :=
  result = fallbackResult lowercase column ∨
    ∃ config ∈ chain, ∃ text parsed, Replies env history events config text ∧
      parse text = .value parsed ∧
      result = asResult lowercase isAlnum
        (matchValue unicode (String.ofList column) parsed).join column (label config)

theorem Told.append {result : Result} {passed events : List Event}
    (told : Told unicode lowercase isAlnum env parse chain history passed column result) :
    Told unicode lowercase isAlnum env parse chain history (passed ++ events) column result := by
  rcases told with isOwn | ⟨config, isIn, text, parsed, replies, rest⟩
  · exact Or.inl isOwn
  · exact Or.inr ⟨config, isIn, text, parsed, replies.append, rest⟩

theorem told_resultOf {passed : List Event}
    {result : ChainResult (Answer Other (Option Text)) × List Event}
    (ran : Ran policy env parse chain (history ++ passed) result) :
    Told unicode lowercase isAlnum env parse chain history (passed ++ result.2) column
      (resultOf unicode lowercase isAlnum result.1 column) := by
  cases isOutcome : result.1 with
  | answered parsed provider =>
      obtain ⟨front, config, back, isChain, isProvider, _, _, text, replies, isParsed⟩ :=
        ran.answered parsed provider isOutcome
      refine Or.inr ⟨config, ?_, text, parsed, replies.behind, isParsed, ?_⟩
      · rw [isChain]
        exact List.mem_append_right front List.mem_cons_self
      · rw [isProvider]
        rfl
  | exhausted => exact Or.inl rfl
  | raised => exact Or.inl rfl

/-- What a run over chunks is that goes on from `history` and what has `passed` since. -/
structure Classified (unicode : Unicode) (lowercase : Lowercase) (isAlnum : Text → Bool)
    (policy : RetryPolicy) (env : Environment)
    (parse : String → Parsed (Answer Other (Option Text))) (chain : List ProviderRuntimeConfig)
    (parts : List (List Text)) (before : Dict Text Result) (history passed : List Event)
    (result : Option (Dict Text Result) × List Event) : Prop where
  called : (calls result.2).length ≤ parts.length * (chain.length * policy.mostCalls)
  waited : (waits result.2).sum ≤ parts.length * (chain.length * policy.mostWait)
  told : ∀ after, result.1 = some after →
    (∀ column entry, before.lookup column = some entry →
      Told unicode lowercase isAlnum env parse chain history passed column entry) →
    ∀ column entry, after.lookup column = some entry →
      Told unicode lowercase isAlnum env parse chain history (passed ++ result.2) column entry

theorem classified_classifyChunks {parts : List (List Text)} {passed : List Event} :
    Classified unicode lowercase isAlnum policy env parse chain parts results history passed
      (classifyChunks unicode lowercase isAlnum policy env parse chain parts results
        (history ++ passed)) := by
  induction parts generalizing results passed with
  | nil =>
      refine ⟨Nat.zero_le _, Nat.zero_le _, ?_⟩
      intro after isAfter areTold column entry isEntry
      cases isAfter
      exact (areTold column entry isEntry).append
  | cons chunk rest inductionHypothesis =>
      have ran : Ran policy env parse chain (history ++ passed)
          (generateWithChain policy env parse chain (history ++ passed)) :=
        ran_generateWithChain
      rw [classifyChunks]
      split
      next events isRun =>
        rw [isRun] at ran
        refine ⟨?_, ?_, nofun⟩
        · rw [List.length_cons, Nat.succ_mul]
          exact ran.called.trans (Nat.le_add_left _ _)
        · rw [List.length_cons, Nat.succ_mul]
          exact ran.waited.trans (Nat.le_add_left _ _)
      next outcome events _ isRun =>
        rw [isRun] at ran
        have later := @inductionHypothesis
          (update results chunk (resultOf unicode lowercase isAlnum outcome)) (passed ++ events)
        rw [← List.append_assoc] at later
        refine ⟨?_, ?_, ?_⟩
        · rw [calls, List.filterMap_append, List.length_append, List.length_cons, Nat.succ_mul,
            Nat.add_comm]
          exact Nat.add_le_add later.called ran.called
        · rw [waits, List.filterMap_append, List.sum_append, List.length_cons, Nat.succ_mul,
            Nat.add_comm]
          exact Nat.add_le_add later.waited ran.waited
        · intro after isAfter areTold column entry isEntry
          rw [← List.append_assoc]
          refine later.told after isAfter ?_ column entry isEntry
          intro column entry isEntry
          rw [update, lookup_foldl_assign] at isEntry
          split at isEntry
          next =>
            cases isEntry
            exact told_resultOf ran
          next => exact (areTold column entry isEntry).append

theorem classified_classifyColumns {columns : List Text} :
    Classified unicode lowercase isAlnum policy env parse chain (chunks columns) ∅ history []
      (classifyColumns unicode lowercase isAlnum policy env parse chain columns history) := by
  rw [classifyColumns]
  split
  next =>
    refine ⟨Nat.zero_le _, Nat.zero_le _, ?_⟩
    intro after isAfter areTold
    cases isAfter
    exact areTold
  next =>
    split
    next =>
      refine ⟨Nat.zero_le _, Nat.zero_le _, ?_⟩
      intro after isAfter areTold column entry isEntry
      cases isAfter
      rw [update, lookup_foldl_assign] at isEntry
      split at isEntry
      next =>
        cases isEntry
        exact Or.inl rfl
      next => exact areTold column entry isEntry
    next =>
      have classified := @classified_classifyChunks unicode lowercase isAlnum Other _ policy env
        parse chain history ∅ (chunks columns) []
      rw [List.append_nil] at classified
      exact classified

/-- A value is either not used or its provider is named. -/
theorem asResult_cases {value : Option Text} {provider : String} :
    asResult lowercase isAlnum value column provider = fallbackResult lowercase column ∨
      (asResult lowercase isAlnum value column provider).provider = some provider := by
  cases value with
  | none => exact Or.inl rfl
  | some text =>
      rw [asResult]
      split
      next => exact Or.inl rfl
      next =>
        split
        next => exact Or.inr rfl
        next =>
          split
          next => exact Or.inr rfl
          next => exact Or.inl rfl

/-- The two names that a column is looked for under. -/
def IsKey (table column key : Text) : Prop :=
  key = column ∨ key = columnKey table column

/-- A label made of the name of the column. -/
structure OwnName (lowercase : Lowercase) (table column : Text) (given : Label) : Prop where
  source : given.source = "rule"
  provider : given.provider = none
  term : given.term = normalize lowercase column ∨
    ∃ key, IsKey table column key ∧ given.term = lastPart (normalize lowercase key)

/-- A label that a provider has given: read from a text that it has replied with in the run. -/
structure GivenBy (unicode : Unicode) (lowercase : Lowercase) (isAlnum : Text → Bool)
    (env : Environment) (parse : String → Parsed (Answer Other (Option Text)))
    (history events : List Event) (config : ProviderRuntimeConfig) (table column : Text)
    (given : Label) : Prop where
  provider : given.provider = some (label config)
  source : given.source = if label config = "" then "rule" else "ai"
  known : given.term ≠ [] ∧ given.term ≠ "unknown".toList
  reply : ∃ key, IsKey table column key ∧ ∃ text parsed,
    Replies env history events config text ∧ parse text = .value parsed ∧
    given.term = lastPart (asResult lowercase isAlnum
      (matchValue unicode (String.ofList key) parsed).join key (label config)).term

theorem relabel_told {events : List Event}
    (areTold : ∀ key entry, results.lookup key = some entry →
      Told unicode lowercase isAlnum env parse chain history events key entry) :
    OwnName lowercase table column (relabel lowercase results table column) ∨
      ∃ config ∈ chain, GivenBy unicode lowercase isAlnum env parse history events config table
        column (relabel lowercase results table column) := by
  cases isRaw : (results.lookup column).or (results.lookup (columnKey table column)) with
  | none =>
      rw [relabel, isRaw]
      exact Or.inl ⟨rfl, rfl, Or.inl rfl⟩
  | some result =>
      have isFound : ∃ key, IsKey table column key ∧ results.lookup key = some result := by
        rcases Option.or_eq_some_iff.mp isRaw with isOwn | ⟨_, isQualified⟩
        · exact ⟨column, Or.inl rfl, isOwn⟩
        · exact ⟨columnKey table column, Or.inr rfl, isQualified⟩
      obtain ⟨key, isKey, isResult⟩ := isFound
      rw [relabel, isRaw]
      dsimp only [Option.map_some, Option.getD_some, Option.bind_some]
      split
      next => exact Or.inl ⟨rfl, rfl, Or.inl rfl⟩
      next isKnown =>
        -- a result without a provider is the name again
        have ofFallback : result = fallbackResult lowercase key →
            OwnName lowercase table column ⟨lastPart result.term,
              if result.provider.getD "" = "" then "rule" else "ai", result.provider⟩ := by
          intro isFallback
          subst isFallback
          exact ⟨rfl, rfl, Or.inr ⟨key, isKey, rfl⟩⟩
        rcases areTold key result isResult with isFallback | isAnswer
        · exact Or.inl (ofFallback isFallback)
        · obtain ⟨config, isIn, text, parsed, isReply, isParsed, isRead⟩ := isAnswer
          rcases asResult_cases with isFallback | isNamed
          · exact Or.inl (ofFallback (isRead.trans isFallback))
          · rw [← isRead] at isNamed
            refine Or.inr ⟨config, isIn, isNamed, ?_, not_or.mp isKnown, key, isKey, text,
              parsed, isReply, isParsed, congrArg (fun read => lastPart read.term) isRead⟩
            dsimp only
            rw [isNamed, Option.getD_some]

/-- The label of a column. -/
def labelOf (layer : Layer) (place : Text × Text) : Option Label :=
  (layer.lookup place.1).bind fun columns => columns.lookup place.2

theorem columnKeys_ne_nil {given : Label} (isLabel : labelOf layer (table, column) = some given) :
    columnKeys layer ≠ [] := by
  obtain ⟨columns, isTable, isColumn⟩ := Option.bind_eq_some_iff.mp isLabel
  have isIn : column ∈ columns.keys :=
    AList.mem_keys.mp (AList.lookup_isSome.mp (Option.isSome_iff_exists.mpr ⟨given, isColumn⟩))
  have isEntry : (⟨table, columns⟩ : Sigma fun _ : Text => Dict Text Label) ∈ layer.entries :=
    AList.mem_lookup_iff.mp isTable
  exact List.ne_nil_of_mem (List.mem_flatMap.mpr ⟨_, isEntry, List.mem_map_of_mem isIn⟩)

/-- A change of what is kept about each column, table by table. -/
theorem lookup_mapColumns {Value Changed : Type} {dict : Dict Text (Dict Text Value)}
    {change : Text → Text → Value → Changed} :
    ((OrderedDict.mapValues dict fun table columns =>
        OrderedDict.mapValues columns fun column value => change table column value).lookup
          table).bind (fun columns => columns.lookup column) =
      ((dict.lookup table).bind fun columns => columns.lookup column).map
        (change table column) := by
  rw [OrderedDict.lookup_mapValues]
  cases dict.lookup table with
  | none => rfl
  | some columns =>
      rw [Option.map_some, Option.bind_some, Option.bind_some, OrderedDict.lookup_mapValues]

/-- A refined layer has the columns it had, with labels that say where they come from. -/
theorem labelOf_aiRefine {after : Layer}
    (isRefined : (aiRefine unicode lowercase isAlnum policy env parse chain layer history).1 =
      some after) :
    (labelOf after (table, column)).isSome = (labelOf layer (table, column)).isSome ∧
    ∀ given, labelOf after (table, column) = some given →
      OwnName lowercase table column given ∨
        ∃ config ∈ chain, GivenBy unicode lowercase isAlnum env parse history
          (aiRefine unicode lowercase isAlnum policy env parse chain layer history).2 config
          table column given := by
  have classified : Classified unicode lowercase isAlnum policy env parse chain
      (chunks (columnKeys layer)) ∅ history [] (classifyColumns unicode lowercase isAlnum policy
        env parse chain (columnKeys layer) history) := classified_classifyColumns
  rw [aiRefine] at isRefined ⊢
  split at isRefined
  next noColumns =>
    cases isRefined
    exact ⟨rfl, fun given isLabel => absurd noColumns (columnKeys_ne_nil isLabel)⟩
  next someColumns =>
    rw [if_neg someColumns]
    obtain ⟨results, isRun, isLayer⟩ := Option.map_eq_some_iff.mp isRefined
    have areTold : ∀ key entry, results.lookup key = some entry →
        Told unicode lowercase isAlnum env parse chain history
          (classifyColumns unicode lowercase isAlnum policy env parse chain (columnKeys layer)
            history).2 key entry := by
      apply classified.told results isRun
      intro key entry isEntry
      rw [AList.lookup_empty] at isEntry
      cases isEntry
    have isGiven : labelOf after (table, column) =
        (labelOf layer (table, column)).map fun _ =>
          relabel lowercase results table column := by
      rw [← isLayer]
      exact lookup_mapColumns
    rw [isGiven]
    refine ⟨Option.isSome_map, ?_⟩
    intro given isLabel
    obtain ⟨_, _, isRelabelled⟩ := Option.map_eq_some_iff.mp isLabel
    rw [← isRelabelled]
    exact relabel_told areTold

/-- What refining a layer spends. -/
theorem spent_aiRefine :
    let events := (aiRefine unicode lowercase isAlnum policy env parse chain layer history).2
    let requests := ((columnKeys layer).length + 29) / 30
    (calls events).length ≤ requests * (chain.length * policy.mostCalls) ∧
      (waits events).sum ≤ requests * (chain.length * policy.mostWait) := by
  have classified : Classified unicode lowercase isAlnum policy env parse chain
      (chunks (columnKeys layer)) ∅ history [] (classifyColumns unicode lowercase isAlnum policy
        env parse chain (columnKeys layer) history) := classified_classifyColumns
  dsimp only
  rw [aiRefine, ← length_chunks]
  split
  next => exact ⟨Nat.zero_le _, Nat.zero_le _⟩
  next => exact ⟨classified.called, classified.waited⟩

/-- The layer says where its labels come from: a run is over as soon as each provider has had
its calls for each chunk, no column comes or goes, and a label is either made of the name of
its column, or a provider of the chain has replied with it in the run. -/
theorem labels_name_their_source (unicode : Unicode) (lowercase : Lowercase)
    (isAlnum : Text → Bool) (policy : RetryPolicy) (env : Environment)
    (parse : String → Parsed (Answer Other (Option Text))) (chain : List ProviderRuntimeConfig)
    (layer : Layer) (history : List Event) :
    let refined := aiRefine unicode lowercase isAlnum policy env parse chain layer history
    let requests := ((columnKeys layer).length + 29) / 30
    (calls refined.2).length ≤ requests * (chain.length * policy.mostCalls) ∧
    (waits refined.2).sum ≤ requests * (chain.length * policy.mostWait) ∧
    ∀ after, refined.1 = some after → ∀ table column : Text,
      (labelOf after (table, column)).isSome = (labelOf layer (table, column)).isSome ∧
      ∀ given, labelOf after (table, column) = some given →
        OwnName lowercase table column given ∨
          ∃ config ∈ chain, GivenBy unicode lowercase isAlnum env parse history refined.2
            config table column given := by
  exact ⟨spent_aiRefine.1, spent_aiRefine.2, fun _ isRefined _ _ => labelOf_aiRefine isRefined⟩

/-! ## A request that fails -/

variable {columns : List Text} {n : ℕ}

/-- What requests leave, each with its chunk. -/
def gathered (unicode : Unicode) (lowercase : Lowercase) (isAlnum : Text → Bool)
    (before : Dict Text Result)
    (answers : List (List Text × ChainResult (Answer Other (Option Text)))) :
    Dict Text Result :=
  answers.foldl (fun results answer =>
    update results answer.1 (resultOf unicode lowercase isAlnum answer.2)) before

section Gathered

variable {answers : List (List Text × ChainResult (Answer Other (Option Text)))}

theorem lookup_gathered_of_notMem (isElsewhere : ∀ answer ∈ answers, column ∉ answer.1) :
    (gathered unicode lowercase isAlnum results answers).lookup column =
      results.lookup column := by
  induction answers generalizing results with
  | nil => rfl
  | cons first rest inductionHypothesis =>
      rw [gathered, List.foldl_cons, ← gathered,
        inductionHypothesis fun answer isIn => isElsewhere answer (List.mem_cons_of_mem first isIn),
        update, lookup_foldl_assign, if_neg (isElsewhere first List.mem_cons_self)]

/-- A column has what its last chunk has been given. -/
theorem lookup_gathered {answer : List Text × ChainResult (Answer Other (Option Text))}
    (isAnswer : answers[n]? = some answer) (isIn : column ∈ answer.1)
    (isLast : ∀ later other, answers[later]? = some other → column ∈ other.1 → later ≤ n) :
    (gathered unicode lowercase isAlnum results answers).lookup column =
      some (resultOf unicode lowercase isAlnum answer.2 column) := by
  induction answers generalizing results n with
  | nil => cases isAnswer
  | cons first rest inductionHypothesis =>
      rw [gathered, List.foldl_cons, ← gathered]
      cases n with
      | zero =>
          cases isAnswer
          have isElsewhere : ∀ other ∈ rest, column ∉ other.1 := by
            intro other isOther isAgain
            obtain ⟨later, isLater⟩ := List.mem_iff_getElem?.mp isOther
            exact Nat.not_succ_le_zero later (isLast (later + 1) other isLater isAgain)
          rw [lookup_gathered_of_notMem isElsewhere, update, lookup_foldl_assign, if_pos isIn]
      | succ n =>
          apply inductionHypothesis isAnswer
          intro later other isOther isAgain
          exact Nat.le_of_succ_le_succ (isLast (later + 1) other isOther isAgain)

end Gathered

/-- How requests of the chain end that are made one after the other. -/
def EndInTurn (policy : RetryPolicy) (env : Environment)
    (parse : String → Parsed (Answer Other (Option Text))) (chain : List ProviderRuntimeConfig)
    (history : List Event)
    (ends : List (ChainResult (Answer Other (Option Text)) × List Event)) : Prop :=
  ∀ n ended, ends[n]? = some ended →
    generateWithChain policy env parse chain
      (history ++ (ends.take n).flatMap Prod.snd) = ended

omit [DecidableEq Other] in
theorem EndInTurn.cons {ended : ChainResult (Answer Other (Option Text)) × List Event}
    {ends : List (ChainResult (Answer Other (Option Text)) × List Event)}
    (isEnd : generateWithChain policy env parse chain history = ended)
    (inTurn : EndInTurn policy env parse chain (history ++ ended.2) ends) :
    EndInTurn policy env parse chain history (ended :: ends) := by
  intro n other isOther
  cases n with
  | zero =>
      cases isOther
      rw [List.take_zero, List.flatMap_nil, List.append_nil]
      exact isEnd
  | succ n =>
      rw [List.take_succ_cons, List.flatMap_cons, ← List.append_assoc]
      exact inTurn n other isOther

/-- The requests of a run over chunks: the last one raises, or there is one for each chunk. -/
theorem classifyChunks_cases {parts : List (List Text)} :
    ∃ ends : List (ChainResult (Answer Other (Option Text)) × List Event),
      EndInTurn policy env parse chain history ends ∧
      (classifyChunks unicode lowercase isAlnum policy env parse chain parts results
        history).2 = ends.flatMap Prod.snd ∧
      ((∃ front last, ends = front ++ [last] ∧ (∀ ended ∈ front, ended.1 ≠ .raised) ∧
          last.1 = .raised ∧
          (classifyChunks unicode lowercase isAlnum policy env parse chain parts results
            history).1 = none) ∨
        (ends.length = parts.length ∧ (∀ ended ∈ ends, ended.1 ≠ .raised) ∧
          (classifyChunks unicode lowercase isAlnum policy env parse chain parts results
            history).1 = some (gathered unicode lowercase isAlnum results
              (parts.zip (ends.map Prod.fst))))) := by
  induction parts generalizing results history with
  | nil => exact ⟨[], nofun, rfl, Or.inr ⟨rfl, nofun, rfl⟩⟩
  | cons chunk rest inductionHypothesis =>
      rw [classifyChunks]
      split
      next events isRun =>
        refine ⟨[(.raised, events)], EndInTurn.cons isRun nofun, ?_,
          Or.inl ⟨[], _, rfl, nofun, rfl, rfl⟩⟩
        rw [List.flatMap_singleton]
      next outcome events notRaised isRun =>
        obtain ⟨ends, inTurn, isEvents, isEnd⟩ := @inductionHypothesis (history ++ events)
          (update results chunk (resultOf unicode lowercase isAlnum outcome))
        refine ⟨(outcome, events) :: ends, EndInTurn.cons isRun inTurn, ?_, ?_⟩
        · rw [List.flatMap_cons, ← isEvents]
        · have answered : ∀ {others : List (ChainResult (Answer Other (Option Text)) ×
                List Event)},
              (∀ ended ∈ others, ended.1 ≠ .raised) →
              ∀ ended ∈ (outcome, events) :: others, ended.1 ≠ .raised := by
            intro others areEnds ended isIn
            rcases List.mem_cons.mp isIn with isFirst | isLater
            · rw [isFirst]
              exact notRaised
            · exact areEnds ended isLater
          rcases isEnd with ⟨front, last, areEnds, areFront, isRaised, isNone⟩ |
            ⟨sameLength, areEnds, isSome⟩
          · exact Or.inl ⟨(outcome, events) :: front, last, by rw [areEnds, List.cons_append],
              answered areFront, isRaised, isNone⟩
          · exact Or.inr ⟨congrArg Nat.succ sameLength, answered areEnds, isSome⟩

theorem place_lt {place : ℕ} (isColumn : columns[place]? = some column) :
    place / 30 < (columns.length + 29) / 30 := by
  have isPlace : place < columns.length := (List.getElem?_eq_some_iff.mp isColumn).1
  omega

/-- A column has what the request for the chunk of its last place has given it. -/
theorem lookup_gathered_place {outcomes : List (ChainResult (Answer Other (Option Text)))}
    {place : ℕ} (sameLength : outcomes.length = (columns.length + 29) / 30)
    (isColumn : columns[place]? = some column)
    (isLast : ∀ later, columns[later]? = some column → later ≤ place) :
    ∃ outcome, outcomes[place / 30]? = some outcome ∧
      (gathered unicode lowercase isAlnum results ((chunks columns).zip outcomes)).lookup column =
        some (resultOf unicode lowercase isAlnum outcome column) := by
  have isChunk := getElem?_chunks (place_lt isColumn)
  have isOutcome : place / 30 < outcomes.length := sameLength.symm ▸ place_lt isColumn
  have isAnswer : ((chunks columns).zip outcomes)[place / 30]? = some
      ((columns.drop (place / 30 * classifyChunk)).take classifyChunk,
        outcomes[place / 30]) := by
    rw [List.getElem?_zip_eq_some, isChunk, List.getElem?_eq_getElem isOutcome]
    exact ⟨rfl, rfl⟩
  refine ⟨outcomes[place / 30], List.getElem?_eq_getElem isOutcome, ?_⟩
  apply lookup_gathered isAnswer (mem_chunk_iff.mpr ⟨place, rfl, isColumn⟩)
  -- a chunk behind that of the last place does not hold the column
  intro later other isOther isAgain
  obtain ⟨isPart, _⟩ := List.getElem?_zip_eq_some.mp isOther
  have isLater : later < (columns.length + 29) / 30 := by
    rw [← length_chunks]
    exact (List.getElem?_eq_some_iff.mp isPart).1
  rw [getElem?_chunks isLater, Option.some.injEq] at isPart
  rw [← isPart] at isAgain
  obtain ⟨otherPlace, isOtherPart, isOtherColumn⟩ := mem_chunk_iff.mp isAgain
  rw [← isOtherPart]
  exact Nat.div_le_div_right (isLast otherPlace isOtherColumn)

/-- A request that fails costs its own columns their answer, and no others: the requests are
made one after the other, and unless the last one raises, there is one for each chunk and the
column at a place has what the request for its chunk has given it; a column that comes again has
it from its last place. -/
theorem chunk_fails_alone (unicode : Unicode) (lowercase : Lowercase) (isAlnum : Text → Bool)
    (policy : RetryPolicy) (env : Environment)
    (parse : String → Parsed (Answer Other (Option Text))) (chain : List ProviderRuntimeConfig)
    (columns : List Text) (history : List Event) :
    let classified := classifyColumns unicode lowercase isAlnum policy env parse chain columns
      history
    ∃ ends : List (ChainResult (Answer Other (Option Text)) × List Event),
      EndInTurn policy env parse chain history ends ∧
      classified.2 = ends.flatMap Prod.snd ∧
      ((∃ front last, ends = front ++ [last] ∧ (∀ ended ∈ front, ended.1 ≠ .raised) ∧
          last.1 = .raised ∧ classified.1 = none) ∨
        ∃ results, classified.1 = some results ∧
          ends.length = (columns.length + 29) / 30 ∧ (∀ ended ∈ ends, ended.1 ≠ .raised) ∧
          ∀ place column, columns[place]? = some column →
            (∀ later, columns[later]? = some column → later ≤ place) →
            ∃ ended, ends[place / 30]? = some ended ∧ results.lookup column =
              some (resultOf unicode lowercase isAlnum ended.1 column)) := by
  dsimp only
  rw [classifyColumns]
  split
  next noColumns =>
    subst noColumns
    exact ⟨[], nofun, rfl, Or.inr ⟨∅, rfl, rfl, nofun,
      fun place column isColumn => by cases isColumn⟩⟩
  next =>
    split
    next noChain =>
      subst noChain
      refine ⟨List.replicate ((columns.length + 29) / 30) (.exhausted, []), ?_, ?_,
        Or.inr ⟨_, rfl, List.length_replicate, ?_, ?_⟩⟩
      · intro n ended isEnd
        rw [List.eq_of_mem_replicate (List.mem_of_getElem? isEnd)]
        rfl
      · apply (List.flatMap_eq_nil_iff.mpr ?_).symm
        intro ended isIn
        rw [List.eq_of_mem_replicate isIn]
      · intro ended isIn
        rw [List.eq_of_mem_replicate isIn]
        exact nofun
      · intro place column isColumn _
        refine ⟨(.exhausted, []), ?_, ?_⟩
        · rw [List.getElem?_replicate, if_pos (place_lt isColumn)]
        · rw [update, lookup_foldl_assign, if_pos (List.mem_of_getElem? isColumn)]
          rfl
    next =>
      obtain ⟨ends, inTurn, isEvents, isEnd⟩ := @classifyChunks_cases unicode lowercase isAlnum
        Other _ policy env parse chain history ∅ (chunks columns)
      refine ⟨ends, inTurn, isEvents, isEnd.imp_right ?_⟩
      intro ⟨sameLength, areEnds, isSome⟩
      rw [length_chunks] at sameLength
      refine ⟨_, isSome, sameLength, areEnds, ?_⟩
      intro place column isColumn isLast
      obtain ⟨outcome, isOutcome, isGiven⟩ := @lookup_gathered_place unicode lowercase isAlnum
        Other _ ∅ column columns (ends.map Prod.fst) place
        ((List.length_map _).trans sameLength) isColumn isLast
      rw [List.getElem?_map, Option.map_eq_some_iff] at isOutcome
      obtain ⟨ended, isEnded, isFirst⟩ := isOutcome
      rw [← isFirst] at isGiven
      exact ⟨ended, isEnded, isGiven⟩

/-! ## What the labels do to the roles -/

/-- The label, as the roles read it. -/
def Label.info (given : Label) : Info :=
  .labelled (some given.source.toList) (some given.term)

def semanticOf (layer : Layer) : Semantic :=
  OrderedDict.mapValues layer fun _ columns =>
    OrderedDict.mapValues columns fun _ given => given.info

theorem infoOf_semanticOf :
    infoOf (semanticOf layer) (table, column) =
      (labelOf layer (table, column)).map Label.info :=
  lookup_mapColumns

theorem source_of_aiRole {given : Label} {role : Role}
    (isRole : given.info.aiRole lowercase = some role) :
    given.source = "ai" ∧ aiRoleFromTerm lowercase (some given.term) = some role := by
  rw [Label.info, Info.aiRole] at isRole
  split at isRole
  next isAi =>
    rw [Option.some.injEq] at isAi
    exact ⟨String.toList_inj.mp isAi, isRole⟩
  next => cases isRole

/-- A role that analyzing a schema changes was a weak one, and a provider of the chain, with a
name, has replied in the run with the term of the new one. -/
theorem roles_change_by_reply (unicode : Unicode) (lowercase : Lowercase)
    (isAlnum : Text → Bool) (policy : RetryPolicy) (env : Environment)
    (parse : String → Parsed (Answer Other (Option Text))) (chain : List ProviderRuntimeConfig)
    (layer : Layer) (history : List Event) (prior : Roles) :
    let refined := aiRefine unicode lowercase isAlnum policy env parse chain layer history
    refined.1 = none ∨ ∃ after, refined.1 = some after ∧ ∀ table column : Text,
      let overlaid := roleOf (overlayAiRoles lowercase prior (semanticOf after)) (table, column)
      overlaid = roleOf prior (table, column) ∨
        ∃ role newRole given, roleOf prior (table, column) = some role ∧ role.isWeak = true ∧
          overlaid = some newRole ∧ labelOf after (table, column) = some given ∧
          aiRoleFromTerm lowercase (some given.term) = some newRole ∧
          ∃ config ∈ chain, label config ≠ "" ∧
            GivenBy unicode lowercase isAlnum env parse history refined.2 config table column
              given := by
  dsimp only
  cases isRefined : (aiRefine unicode lowercase isAlnum policy env parse chain layer history).1 with
  | none => exact Or.inl rfl
  | some after =>
      refine Or.inr ⟨after, rfl, ?_⟩
      intro table column
      rw [roleOf_overlayAiRoles, infoOf_semanticOf]
      cases roleOf prior (table, column) with
      | none => exact Or.inl rfl
      | some role =>
          cases isLabel : labelOf after (table, column) with
          | none => exact Or.inl rfl
          | some given =>
              rw [Option.map_some, Option.map_some, Option.map_some, Option.getD_some,
                Info.overlaid]
              split
              next isWeak =>
                cases isAi : given.info.aiRole lowercase with
                | none => exact Or.inl rfl
                | some newRole =>
                    obtain ⟨isSource, isTerm⟩ := source_of_aiRole isAi
                    refine Or.inr ⟨role, newRole, given, rfl, isWeak, rfl, rfl, isTerm, ?_⟩
                    rcases (labelOf_aiRefine isRefined).2 given isLabel with
                      isOwn | ⟨config, isIn, isGiven⟩
                    · rw [isOwn.source] at isSource
                      exact absurd isSource (by decide)
                    · refine ⟨config, isIn, ?_, isGiven⟩
                      intro noName
                      rw [isGiven.source, if_pos noName] at isSource
                      exact absurd isSource (by decide)
              next => exact Or.inl rfl

end Sources

end DbBuddy.Providers.Labelling
