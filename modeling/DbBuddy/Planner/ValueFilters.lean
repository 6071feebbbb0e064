import DbBuddy.Library.FoundGroups
import DbBuddy.Planner.ColumnValues

/-!
# Values that a question names

Grammar says which words of a question may be values.  A word that a sampled column holds is
compared with that column; a name that no column holds is compared with the column that names a
row; a guess that no column holds is dropped.
-/

namespace DbBuddy.Planner.ValueGrounding

open DbBuddy.Library
open DbBuddy.Insights (Tables Text fold)
open DbBuddy.Planner.TypeHandlers (Spec Target word oneWord spaces)

/-! ## Words that are no values -/

/-- `_VALUE_STOPWORDS` -/
def valueStopwords : List String :=
  ["give", "me", "show", "get", "find", "list", "display", "fetch", "tell", "return", "lookup",
    "look", "search", "all", "the", "a", "an", "of", "for", "to", "about", "please", "with",
    "and", "or", "from", "in", "is", "are", "by", "on", "at", "as", "details", "detail", "info",
    "information", "record", "records", "data", "row", "rows", "result", "results", "entry",
    "entries", "named", "called", "name", "where", "who", "whose", "that", "this", "these",
    "those", "everyone", "anybody", "anyone", "their", "his", "her", "its", "what", "when",
    "why", "how", "which", "was", "were", "do", "does", "did", "user", "users", "customer",
    "customers", "client", "clients", "employee", "employees", "person", "people", "member",
    "members", "account", "accounts"]

/-- `_ENTITY_NOUNS` -/
def entityNouns : List String :=
  ["user", "users", "customer", "customers", "client", "clients", "employee", "employees",
    "person", "people", "member", "members", "account", "accounts", "student", "students",
    "buyer", "buyers", "seller", "sellers", "author", "authors", "owner", "owners", "admin",
    "admins"]

/-- `_TEMPORAL_WORDS` -/
def temporalWords : List String :=
  ["last", "this", "previous", "next", "past", "recent", "today", "yesterday", "month",
    "monthly", "week", "weekly", "year", "yearly", "day", "daily", "quarter", "quarterly",
    "date", "time", "ago", "hour", "minute", "since"]

/-- The keys of `AGGREGATION_KEYWORDS`. -/
def aggregationWords : List String :=
  ["sum", "total", "count", "number", "avg", "average", "max", "min"]

/-- `_MEASURE_FRAGMENTS` -/
def measureFragments : List String :=
  ["revenue", "sales", "amount", "price", "total", "value", "cost", "subtotal"]

/-- What the columns of a schema are called, and what stands in them between underscores. -/
def columnWords (lowered : Text) : List Text :=
  lowered :: lowered.splitOn '_'

section Candidates

variable (tables : Tables) (letters : Letters)

/-- `token.lower()` -/
def lower (text : Text) : Text :=
  tables.lowercase.text text

/-- `_excluded_value_vocab` -/
def excludedValueVocab (schema : TypeHandlers.Schema) : List Text :=
  valueStopwords.map String.toList ++
    (schema.entries.flatMap fun table =>
      [lower tables table.1, stripEnd 's' (lower tables table.1)] ++
        table.2.flatMap fun column => columnWords (lower tables column)) ++
    temporalWords.map String.toList ++ aggregationWords.map String.toList ++
    measureFragments.map String.toList

/-- `_is_filter_value` -/
def isFilterValue (excluded : List Text) (token : Text) : Bool :=
  let t := lower tables token
  if t.contains '.' = true then false
  else if excluded.contains t = true ∨ isDigits letters t = true then false
  else decide (2 ≤ t.length) || (!t.isEmpty && t.all letters.isAlpha)

/-- `_add` -/
def add (excluded : List Text) (candidates : List Text) (token : Text) : List Text :=
  if isFilterValue tables letters excluded token = true ∧
      (candidates.map (lower tables)).contains (lower tables token) = false then
    candidates ++ [token]
  else candidates

/-! ## Where grammar looks -/

/-- `[A-Za-z]` -/
def isLetter (char : Char) : Bool :=
  char.isAlpha

/-- The groups of `re.finditer(pattern, query)`. -/
def foundGroups (parts : List Part) (query : Text) : List (List Text) :=
  (findAll tables.isWord parts query).map fun entry => entry.2.groups

/-- `[A-Za-z][\w]*` -/
def tokenPattern : Pattern :=
  .token tables.isWord isLetter

/-- "Alice's details" -/
def possessives (query : Text) : List Text :=
  (foundGroups tables [.plain .boundary, .group (tokenPattern tables),
    .plain (.literal id "'s".toList), .plain .boundary] query).flatten

/-- "named Alice", in any case -/
def marked (query : Text) : List Text :=
  (foundGroups tables [.plain .boundary, .plain (oneWord ["named", "called"]), .plain spaces,
    .group (.token tables.isWord fun char => isLetter (fold char))] query).flatten

/-- The second word of a pair whose first one passes. -/
def secondIf (test : Text → Bool) : List Text → Option Text
  | [head, token] => if test head = true then some token else none
  | _ => none

/-- The first word of a pair whose second one passes. -/
def firstIf (test : Text → Bool) : List Text → Option Text
  | [token, head] => if test head = true then some token else none
  | _ => none

/-- "user Alice" -/
def afterNouns (query : Text) : List Text :=
  (foundGroups tables [.plain .boundary, .group (.many tables.isWord), .plain spaces,
    .group (tokenPattern tables)] query).filterMap
      (secondIf fun head => oneOf entityNouns (lower tables head))

/-- `entity_nouns` -/
def isEntityNoun (schema : TypeHandlers.Schema) (text : Text) : Bool :=
  oneOf entityNouns text || schema.keys.any fun table =>
    lower tables table == text || stripEnd 's' (lower tables table) == text

/-- The pairs of words that two of the rules look at. -/
def wordPairs (query : Text) : List (List Text) :=
  foundGroups tables (pairParts tables.isWord isLetter) query

def isHeadNoun (schema : TypeHandlers.Schema) (head : Text) : Bool :=
  isEntityNoun tables schema (lower tables head) ||
    isEntityNoun tables schema (stripEnd 's' (lower tables head))

/-- "shipped orders" -/
def beforeNouns (schema : TypeHandlers.Schema) (query : Text) : List Text :=
  (wordPairs tables query).filterMap (firstIf (isHeadNoun tables schema))

/-- A column's name, or more than one letter of it between underscores. -/
def isColumnWord (schema : TypeHandlers.Schema) (head : Text) : Bool :=
  (schema.entries.flatMap fun table => table.2.map (lower tables)).any fun column =>
    column == head || (column.splitOn '_').any fun part =>
      decide (1 < part.length) && part == head

/-- "status shipped" -/
def afterColumns (schema : TypeHandlers.Schema) (query : Text) : List Text :=
  (wordPairs tables query).filterMap
    (secondIf fun head => isColumnWord tables schema (lower tables head))

/-- `re.findall(r"[A-Za-z][\w]*", query)` -/
def queryWords (query : Text) : List Text :=
  (foundGroups tables [.group (tokenPattern tables)] query).flatten

/-- `is_analytical` -/
def isAnalytical (excluded : List Text) (query : Text) : Bool :=
  ((queryWords tables query).any fun word =>
    excluded.contains (lower tables word) &&
      (oneOf aggregationWords (lower tables word) || oneOf temporalWords (lower tables word))) ||
  containsAny measureFragments (lower tables query)

/-- `re.fullmatch(r"[A-Z][a-z]+", word)` -/
def isProperNoun : Text → Bool
  | first :: second :: rest =>
      Char.isUpper first && (second :: rest).all Char.isLower
  | _ => false

/-! ## Candidates -/

/-- `candidates`, with `attributive` and `col_value_candidates`. -/
structure Candidates where
  found : List Text
  attributive : List Text
  colValue : List Text

/-- `_add`, and the candidate is taken down if it is a new one. -/
def addGuess (excluded : List Text) (state : List Text × List Text) (token : Text) :
    List Text × List Text :=
  let found := add tables letters excluded state.1 token
  if state.1.length < found.length then
    (found, state.2 ++ found.getLast?.toList.map (lower tables))
  else (found, state.2)

/-- The words that a possessive, a marker or an entity noun speaks for. -/
def namedTokens (query : Text) : List Text :=
  possessives tables query ++ marked tables query ++ afterNouns tables query

/-- The names in a short question that asks for no number. -/
def loneTokens (schema : TypeHandlers.Schema) (query : Text) : List Text :=
  let words := queryWords tables query
  if isAnalytical tables (excludedValueVocab tables schema) query = false ∧ words.length ≤ 6 then
    words.filter isProperNoun
  else []

/-- The rules of `extract_value_filters` for candidates, in their order. -/
def candidatesOf (query : Text) (schema : TypeHandlers.Schema) : Candidates :=
  let excluded := excludedValueVocab tables schema
  let named := (namedTokens tables query).foldl (add tables letters excluded) []
  let before :=
    (beforeNouns tables schema query).foldl (addGuess tables letters excluded) (named, [])
  let behind :=
    (afterColumns tables schema query).foldl (addGuess tables letters excluded) (before.1, [])
  if behind.1 = [] then
    ⟨(loneTokens tables schema query).foldl (add tables letters excluded) behind.1, before.2,
      behind.2⟩
  else ⟨behind.1, before.2, behind.2⟩

/-! ## Filters -/

/-- `{"column": f"{table}.{column}", "operator": "=", "value": value}` -/
def equals (place : Text × Text) (value : Text) : Spec :=
  ⟨place.1 ++ '.' :: place.2, "=", .one (.text value)⟩

/-- The first table with a column that names its rows. -/
def identifierTarget (schema : TypeHandlers.Schema) (inPlay : List Text) (roles : Roles) :
    Option (Text × Text) :=
  (inPlay ++ schema.keys).findSome? fun table =>
    ((findIdentifierColumn tables.lowercase table schema roles).filter fun column =>
      decide (column ≠ [])).map fun column => (table, column)

/-- `value[:1].isupper()` -/
def startsUpper (value : Text) : Bool :=
  (value.head?.map letters.isUpper).getD false

/-- The filters of the candidates that the index knows. -/
def confirmedFilters (index : ValueIndex) (inPlay values : List Text) :
    List Spec :=
  values.filterMap fun value =>
    (resolveValue tables.lowercase value index inPlay).map fun place => equals place value

/-- The candidates that the index does not know and that are no guesses. -/
def unknownNames (index : ValueIndex) (inPlay : List Text)
    (candidates : Candidates) : List Text :=
  candidates.found.filter fun value =>
    (resolveValue tables.lowercase value index inPlay).isNone &&
      !candidates.attributive.contains (lower tables value) &&
      !candidates.colValue.contains (lower tables value)

/-- `extract_value_filters` -/
def extractValueFilters (query : Text) (schema : TypeHandlers.Schema) (inPlay : List Text)
    (roles : Roles) (index : ValueIndex) : List Spec :=
  let candidates := candidatesOf tables letters query schema
  let filters := confirmedFilters tables index inPlay candidates.found
  let remaining := unknownNames tables index inPlay candidates
  match identifierTarget tables schema inPlay roles with
  | none => filters
  | some target => filters ++ (remaining.filter (startsUpper letters)).map (equals target)

end Candidates

/-! ## What is a candidate -/

section Adding

variable {tables : Tables} {letters : Letters} {excluded candidates tokens : List Text}
variable {token value : Text} {state : List Text × List Text}

theorem mem_foldl_add (isIn : value ∈ tokens.foldl (add tables letters excluded) candidates) :
    value ∈ candidates ∨
      value ∈ tokens ∧ isFilterValue tables letters excluded value = true := by
  induction tokens generalizing candidates with
  | nil => exact Or.inl isIn
  | cons token rest inductionHypothesis =>
      rcases inductionHypothesis isIn with isFirst | ⟨inRest, isValue⟩
      · rw [add] at isFirst
        split at isFirst
        next isNew =>
          rcases List.mem_append.mp isFirst with isOld | isToken
          · exact Or.inl isOld
          · rw [List.mem_singleton.mp isToken]
            exact Or.inr ⟨List.mem_cons_self, isNew.1⟩
        next => exact Or.inl isFirst
      · exact Or.inr ⟨List.mem_cons_of_mem _ inRest, isValue⟩

theorem prefix_add : candidates <+: add tables letters excluded candidates token := by
  rw [add]
  split
  next => exact List.prefix_append _ _
  next => exact List.prefix_refl _

theorem prefix_foldl_add :
    candidates <+: tokens.foldl (add tables letters excluded) candidates := by
  induction tokens generalizing candidates with
  | nil => exact List.prefix_refl _
  | cons token rest inductionHypothesis => exact prefix_add.trans inductionHypothesis

/-- No two candidates are the same up to case. -/
theorem nodup_foldl_add (nodup : (candidates.map (lower tables)).Nodup) :
    ((tokens.foldl (add tables letters excluded) candidates).map (lower tables)).Nodup := by
  induction tokens generalizing candidates with
  | nil => exact nodup
  | cons token rest inductionHypothesis =>
      apply inductionHypothesis
      rw [add]
      split
      next isNew =>
        rw [List.map_append, List.map_singleton, ← List.concat_eq_append, List.nodup_concat]
        refine ⟨?_, nodup⟩
        intro isOld
        rw [List.contains_iff_mem.mpr isOld] at isNew
        exact Bool.noConfusion isNew.2
      next => exact nodup

/-- A token that may be a value is a candidate, in some spelling. -/
theorem exists_of_foldl_add (isToken : token ∈ tokens)
    (isValue : isFilterValue tables letters excluded token = true) :
    ∃ value ∈ tokens.foldl (add tables letters excluded) candidates,
      lower tables value = lower tables token := by
  induction tokens generalizing candidates with
  | nil => cases isToken
  | cons first rest inductionHypothesis =>
      rcases List.mem_cons.mp isToken with isFirst | inRest
      · have isThere : ∃ value ∈ add tables letters excluded candidates token,
            lower tables value = lower tables token := by
          rw [add]
          split
          next => exact ⟨token, List.mem_append_right _ (List.mem_singleton_self _), rfl⟩
          next isOld =>
            have inOld : lower tables token ∈ candidates.map (lower tables) := by
              by_contra isNew
              apply isOld
              refine ⟨isValue, ?_⟩
              rw [Bool.eq_false_iff, Ne, List.contains_iff_mem]
              exact isNew
            obtain ⟨value, isIn, same⟩ := List.mem_map.mp inOld
            exact ⟨value, isIn, same⟩
        obtain ⟨value, isIn, same⟩ := isThere
        rw [← isFirst, List.foldl_cons]
        exact ⟨value, prefix_foldl_add.subset isIn, same⟩
      · exact inductionHypothesis inRest

theorem foldl_addGuess_fst :
    (tokens.foldl (addGuess tables letters excluded) state).1 =
      tokens.foldl (add tables letters excluded) state.1 := by
  induction tokens generalizing state with
  | nil => rfl
  | cons token rest inductionHypothesis =>
      rw [List.foldl_cons, List.foldl_cons, inductionHypothesis, addGuess]
      split
      next => rfl
      next => rfl

theorem subset_addGuess : state.2 ⊆ (addGuess tables letters excluded state token).2 := by
  rw [addGuess]
  split
  next => exact List.subset_append_left _ _
  next => exact List.Subset.refl _

theorem subset_foldl_addGuess (tokens : List Text) (state : List Text × List Text) :
    state.2 ⊆ (tokens.foldl (addGuess tables letters excluded) state).2 := by
  induction tokens generalizing state with
  | nil => exact List.Subset.refl _
  | cons token rest inductionHypothesis =>
      exact List.Subset.trans subset_addGuess (inductionHypothesis _)

theorem mem_addGuess (isIn : value ∈ (addGuess tables letters excluded state token).1) :
    value ∈ state.1 ∨ lower tables value ∈ (addGuess tables letters excluded state token).2 := by
  rw [addGuess] at isIn ⊢
  split at isIn
  next isLonger =>
    rw [if_pos isLonger]
    rw [add] at isIn isLonger ⊢
    split at isIn
    next isNew =>
      rcases List.mem_append.mp isIn with isOld | isToken
      · exact Or.inl isOld
      · rw [List.mem_singleton.mp isToken, if_pos isNew, List.getLast?_concat]
        exact Or.inr (List.mem_append_right _ (List.mem_singleton_self _))
    next => exact Or.inl isIn
  next notLonger =>
    rw [add] at isIn notLonger
    split at isIn
    next isNew =>
      rw [if_pos isNew, List.length_append] at notLonger
      exact absurd (Nat.lt_succ_self _) notLonger
    next => exact Or.inl isIn

/-- What is a candidate only by a guess is taken down. -/
theorem mem_foldl_addGuess
    (isIn : value ∈ (tokens.foldl (addGuess tables letters excluded) state).1) :
    value ∈ state.1 ∨
      lower tables value ∈ (tokens.foldl (addGuess tables letters excluded) state).2 := by
  induction tokens generalizing state with
  | nil => exact Or.inl isIn
  | cons token rest inductionHypothesis =>
      rcases inductionHypothesis isIn with isFirst | isGuess
      · rcases mem_addGuess isFirst with isOld | isGuess
        · exact Or.inl isOld
        · exact Or.inr (subset_foldl_addGuess rest _ isGuess)
      · exact Or.inr isGuess

end Adding

end DbBuddy.Planner.ValueGrounding
