import DbBuddy.Library.Dict
import DbBuddy.Library.JsonValues
import DbBuddy.Planner.PlanCache

/-!
# What the planning writes into the intent

The intent is a dictionary, and the key of a plan is made of its text: before the
planning when the plan is looked up, and after it when the plan is stored.  In
between the planning replaces the lists of columns, marks an aggregation that it has
inferred, and repairs the column of the measure in place.
-/

namespace DbBuddy.Planner.StoredPlans

open DbBuddy.Library DbBuddy.Sql

/-! ## Dictionaries -/

abbrev IntentDict := Dict String PyValue

/-- `items.get(key)` -/
def getItem (key : String) : List String → List PyValue → Option PyValue
  | other :: keys, value :: values =>
      if other = key then some value else getItem key keys values
  | _, _ => none

/-- `items[key] = new`, for a key that is there. -/
def setItem (key : String) (new : PyValue) : List String → List PyValue → List PyValue
  | other :: keys, value :: values =>
      if other = key then new :: values else value :: setItem key new keys values
  | _, values => values

theorem setItem_eq_self {key : String} {new old : PyValue} {keys : List String}
    {values : List PyValue} (present : getItem key keys values = some old) :
    setItem key new keys values = values ↔ new = old := by
  induction keys generalizing values with
  | nil => cases present
  | cons other keys inductionHypothesis =>
      cases values with
      | nil => cases present
      | cons value values =>
          unfold getItem at present
          unfold setItem
          by_cases isKey : other = key
          · rw [if_pos isKey] at present ⊢
            cases present
            simp
          · rw [if_neg isKey] at present ⊢
            simp only [List.cons.injEq, true_and]
            exact inductionHypothesis present

/-! ## The one format -/

def columnKeys : List String := ["table", "column", "source", "alias", "aggregation"]

/-- An entry with the five fields in their order. -/
def InFormat (item : PyValue) : Prop :=
  ∃ table column source aliasName aggregation,
    item = .dict columnKeys [table, column, source, aliasName, aggregation]

/-- `normalize_column_structure`, for one entry. -/
def normalizeColumn (base : Option String) : PyValue → Option PyValue
  | .dict keys values =>
      let column := (getItem "column" keys values).getD (.str "")
      some (.dict columnKeys
        [(getItem "table" keys values).getD (.str (base.getD "")),
          column,
          (getItem "source" keys values).getD (.str "unknown"),
          (getItem "alias" keys values).getD column,
          (getItem "aggregation" keys values).getD .none])
  | .str column =>
      some (.dict columnKeys
        [.str (base.getD ""), .str column, .str "fallback", .str column, .none])
  | _ => none

def normalizeColumns (base : Option String) (items : List PyValue) : List PyValue :=
  items.filterMap (normalizeColumn base)

theorem inFormat_of_normalizeColumn {base : Option String} {item normalized : PyValue}
    (isNormalized : normalizeColumn base item = some normalized) :
    InFormat normalized := by
  cases item with
  | dict keys values =>
      cases isNormalized
      exact ⟨_, _, _, _, _, rfl⟩
  | str column =>
      cases isNormalized
      exact ⟨_, _, _, _, _, rfl⟩
  | _ => cases isNormalized

theorem normalizeColumn_of_inFormat {base : Option String} {item : PyValue}
    (inFormat : InFormat item) : normalizeColumn base item = some item := by
  obtain ⟨table, column, source, aliasName, aggregation, rfl⟩ := inFormat
  rfl

/-- The entries that the normalisation leaves as they are. -/
theorem normalizeColumns_eq_self {base : Option String} {items : List PyValue} :
    normalizeColumns base items = items ↔ ∀ item ∈ items, InFormat item := by
  constructor
  · intro same item isItem
    rw [← same] at isItem
    obtain ⟨source, _, isNormalized⟩ := List.mem_filterMap.mp isItem
    exact inFormat_of_normalizeColumn isNormalized
  · intro inFormat
    have kept : items.filterMap (normalizeColumn base) = items.filterMap some :=
      List.filterMap_congr fun item isItem =>
        normalizeColumn_of_inFormat (inFormat item isItem)
    rw [normalizeColumns, kept, List.filterMap_some]

/-! ## The mutations -/

section Mutations

variable (unicode : Unicode) (context : SchemaContext)

/-- An entry as the fallback makes it. -/
def fallbackItem : ColumnSpec → PyValue
  | .dict table column aliasName _ =>
      .dict ["table", "column", "alias", "aggregation"]
        [.str (table.getD ""), .str (column.getD ""), .str (aliasName.getD ""), .none]
  | .named column => .str column
  | .other => .none

/-- The list that is selected from: the intent's own, unless it is empty. -/
def selectItems (dict : IntentDict) (fallback : List ColumnSpec) : List PyValue :=
  match dict.lookup "select" with
  | some (.list (item :: rest)) => item :: rest
  | _ => fallback.map fallbackItem

/-- `intent.get("columns", [])` -/
def columnItems (dict : IntentDict) : List PyValue :=
  match dict.lookup "columns" with
  | some (.list items) => items
  | _ => []

/-- A measure after `_assert_columns_exist`, which writes into its column. -/
def repairValue (schema : List (String × List String)) : PyValue → PyValue
  | .dict keys values => match getItem "column" keys values with
      | some (.dict fields inner) =>
          match getItem "table" fields inner, getItem "column" fields inner with
          | some (.str table), some (.str column) =>
              .dict keys (setItem "column"
                (.dict fields (setItem "column"
                  (.str (repaired unicode schema (some table) column)) fields inner))
                keys values)
          | _, _ => .dict keys values
      | _ => .dict keys values
  | value => value

def repairMeasure (schema : List (String × List String)) (dict : IntentDict) :
    IntentDict :=
  match dict.lookup "aggregation" with
  | some value => dict.assign "aggregation" (repairValue unicode schema value)
  | none => dict

/-- `intent["_aggregation_inferred"] = True` -/
def markInferred (infers : Bool) (dict : IntentDict) : IntentDict :=
  if infers then dict.assign "_aggregation_inferred" (.bool true) else dict

/-- The dictionary after a planning that has succeeded. -/
def leftDict (dict : IntentDict) (intent : Intent) : IntentDict :=
  match applySelectFallback unicode context intent with
  | .error _ => dict
  | .ok fallback =>
      let base := chooseBaseTable context.graph intent.tables
      let listed := (dict.assign "select"
        (.list (normalizeColumns base (selectItems dict fallback)))).assign "columns"
          (.list (normalizeColumns base (columnItems dict)))
      repairMeasure unicode context.schema
        (markInferred (infersAggregation unicode context intent) listed)

end Mutations

/-! ## What a dictionary spells -/

/-- What `if value` takes for false. -/
def falsy : PyValue → Bool
  | .none => true
  | .bool value => !value
  | .int value => decide (value = 0)
  | .str value => decide (value = "")
  | .list items => items.isEmpty
  | .dict keys _ => keys.isEmpty
  | .float bits => decide (bits = 0 ∨ bits = 0x8000000000000000)
  | .other _ => false

/-- A field of a column: absent, `None` or a text. -/
inductive FieldSpells : Option PyValue → Option String → Prop
  | absent : FieldSpells none none
  | unset : FieldSpells (some .none) (some "")
  | text (text : String) : FieldSpells (some (.str text)) (some text)

/-- An entry of a list of columns. -/
inductive ColumnSpells : PyValue → ColumnSpec → Prop
  | named (column : String) : ColumnSpells (.str column) (.named column)
  | dict {keys : List String} {values : List PyValue}
      {table column aliasName aggregation : Option String}
      (isTable : FieldSpells (getItem "table" keys values) table)
      (isColumn : FieldSpells (getItem "column" keys values) column)
      (isAlias : FieldSpells (getItem "alias" keys values) aliasName)
      (isAggregation : FieldSpells (getItem "aggregation" keys values) aggregation) :
      ColumnSpells (.dict keys values) (.dict table column aliasName aggregation)
  | other {item : PyValue} (dropped : ∀ base, normalizeColumn base item = none) :
      ColumnSpells item .other

inductive SelectSpells : Option PyValue → List ColumnSpec → Prop
  | absent : SelectSpells none []
  | empty {value : PyValue} (isFalsy : falsy value = true) : SelectSpells (some value) []
  | list {item : PyValue} {rest : List PyValue} {specs : List ColumnSpec}
      (spells : List.Forall₂ ColumnSpells (item :: rest) specs) :
      SelectSpells (some (.list (item :: rest))) specs

inductive ColumnsSpell : Option PyValue → List ColumnSpec → Prop
  | absent : ColumnsSpell none []
  | list {items : List PyValue} {specs : List ColumnSpec}
      (spells : List.Forall₂ ColumnSpells items specs) :
      ColumnsSpell (some (.list items)) specs

/-- A measure with a function and a column; one that lacks a field is not planned. -/
inductive MeasureSpells : Option PyValue → Option MeasureRequest → Prop
  | absent : MeasureSpells none none
  | empty {value : PyValue} (isFalsy : falsy value = true) :
      MeasureSpells (some value) none
  | dict {keys fields : List String} {values inner : List PyValue}
      {function table column : String}
      (isFunction : getItem "function" keys values = some (.str function))
      (hasColumn : getItem "column" keys values = some (.dict fields inner))
      (isTable : getItem "table" fields inner = some (.str table))
      (isColumn : getItem "column" fields inner = some (.str column)) :
      MeasureSpells (some (.dict keys values)) (some ⟨function, some (table, column)⟩)

/-- The fields that the planning writes, as the planner reads them.  The dictionary
has the others besides. -/
structure Spells (dict : IntentDict) (intent : Intent) : Prop where
  select : SelectSpells (dict.lookup "select") intent.select
  columns : ColumnsSpell (dict.lookup "columns") intent.columns
  aggregation : MeasureSpells (dict.lookup "aggregation") intent.aggregation

/-! ## When nothing is written -/

section Unchanged

variable (unicode : Unicode) (context : SchemaContext)

/-- There is no table to select from, and the question does not ask for all rows. -/
def FindsNothing (intent : Intent) : Prop :=
  intent.tables = [] ∧
    ¬ (showsAll unicode intent.originalQuery = true ∧
      hasAggregationWord unicode intent.originalQuery = false ∧
      intent.aggregation = none)

/-- Both lists are there with entries in the one format, an aggregation that is going
to be inferred is marked, and the measure needs no repair. -/
structure Unchanged (dict : IntentDict) (intent : Intent) : Prop where
  select :
    (∃ items, dict.lookup "select" = some (.list items) ∧ items ≠ [] ∧
        ∀ item ∈ items, InFormat item) ∨
      dict.lookup "select" = some (.list []) ∧ FindsNothing unicode intent
  columns : ∃ items, dict.lookup "columns" = some (.list items) ∧
    ∀ item ∈ items, InFormat item
  mark : infersAggregation unicode context intent = true →
    dict.lookup "_aggregation_inferred" = some (.bool true)
  measure : intent.aggregation.map (repairedRequest unicode context.schema) =
    intent.aggregation

end Unchanged

section Written

variable {unicode : Unicode} {context : SchemaContext} {dict : IntentDict}
variable {intent : Intent} {schema : List (String × List String)}

theorem lookup_repairMeasure {key : String} (other : key ≠ "aggregation") :
    (repairMeasure unicode schema dict).lookup key = dict.lookup key := by
  unfold repairMeasure
  split
  · exact Dict.lookup_assign_of_ne other
  · rfl

theorem repairMeasure_aggregation :
    (repairMeasure unicode schema dict).lookup "aggregation" =
      (dict.lookup "aggregation").map (repairValue unicode schema) := by
  unfold repairMeasure
  split
  · rename_i value present
    rw [present]
    exact Dict.lookup_assign_self
  · rename_i absent
    rw [absent]
    rfl

theorem lookup_markInferred {key : String} {infers : Bool}
    (other : key ≠ "_aggregation_inferred") :
    (markInferred infers dict).lookup key = dict.lookup key := by
  unfold markInferred
  split
  · exact Dict.lookup_assign_of_ne other
  · rfl

/-- The dictionary is left as it is when each value is the one that is written. -/
theorem leftDict_eq_self {fallback : List ColumnSpec}
    (isFallback : applySelectFallback unicode context intent = .ok fallback) :
    leftDict unicode context dict intent = dict ↔
      dict.lookup "select" = some (.list (normalizeColumns
          (chooseBaseTable context.graph intent.tables) (selectItems dict fallback))) ∧
        dict.lookup "columns" = some (.list (normalizeColumns
          (chooseBaseTable context.graph intent.tables) (columnItems dict))) ∧
        (infersAggregation unicode context intent = true →
          dict.lookup "_aggregation_inferred" = some (.bool true)) ∧
        (dict.lookup "aggregation").map (repairValue unicode context.schema) =
          dict.lookup "aggregation" := by
  simp only [leftDict, isFallback]
  constructor
  · intro same
    have sameLookup : ∀ key, dict.lookup key = (leftDict unicode context dict
        intent).lookup key := by
      intro key
      simp only [leftDict, isFallback, same]
    simp only [leftDict, isFallback] at sameLookup
    refine ⟨?_, ?_, ?_, ?_⟩
    · rw [sameLookup "select", lookup_repairMeasure (by decide),
        lookup_markInferred (by decide), Dict.lookup_assign_of_ne (by decide),
        Dict.lookup_assign_self]
    · rw [sameLookup "columns", lookup_repairMeasure (by decide),
        lookup_markInferred (by decide), Dict.lookup_assign_self]
    · intro infers
      rw [sameLookup "_aggregation_inferred", lookup_repairMeasure (by decide), infers]
      exact Dict.lookup_assign_self
    · conv_rhs => rw [sameLookup "aggregation"]
      rw [repairMeasure_aggregation, lookup_markInferred (by decide),
        Dict.lookup_assign_of_ne (by decide), Dict.lookup_assign_of_ne (by decide)]
  · intro ⟨isSelect, isColumns, isMarked, isRepaired⟩
    rw [Dict.assign_eq_self.mpr isSelect, Dict.assign_eq_self.mpr isColumns]
    have marked : markInferred (infersAggregation unicode context intent) dict =
        dict := by
      unfold markInferred
      split
      · rename_i infers
        exact Dict.assign_eq_self.mpr (isMarked infers)
      · rfl
    rw [marked]
    unfold repairMeasure
    split
    · rename_i value present
      rw [present] at isRepaired
      refine Dict.assign_eq_self.mpr ?_
      rw [present]
      exact isRepaired.symm
    · rfl

/-! ### The fallback -/

theorem representativeFallback_eq_nil {found : List (String × String)}
    {tables : List String} :
    representativeFallback schema found tables = .ok [] ↔ found = [] ∧ tables = [] := by
  induction tables generalizing found with
  | nil => simp [representativeFallback]
  | cons table rest inductionHypothesis =>
      unfold representativeFallback
      split
      · simp
      · rename_i column _
        rw [inductionHypothesis]
        constructor
        · intro ⟨isEmpty, _⟩
          split at isEmpty
          · rename_i isIn
            rw [isEmpty] at isIn
            cases isIn
          · simp at isEmpty
        · intro ⟨_, isEmpty⟩
          cases isEmpty

theorem fallback_eq_nil (noSelect : intent.select = []) :
    applySelectFallback unicode context intent = .ok [] ↔ FindsNothing unicode intent := by
  unfold applySelectFallback FindsNothing
  rw [if_neg (by simpa using noSelect)]
  dsimp only
  by_cases showsAll : showsAll unicode intent.originalQuery = true ∧
      hasAggregationWord unicode intent.originalQuery = false ∧ intent.aggregation = none
  · rw [if_pos showsAll]
    simp [showsAll]
  · rw [if_neg showsAll]
    have sorted : ∀ order : String → String → Bool,
        intent.tables.mergeSort order = [] ↔ intent.tables = [] := by
      intro order
      rw [← List.length_eq_zero_iff, List.length_mergeSort, List.length_eq_zero_iff]
    split
    · rename_i refused isRefused
      constructor
      · intro absurd
        cases absurd
      · intro ⟨noTables, _⟩
        simp [noTables, numericFallback, representativeFallback] at isRefused
    · rename_i columns isFound
      simp only [Except.ok.injEq, List.map_eq_nil_iff]
      constructor
      · intro isEmpty
        rw [isEmpty] at isFound
        exact ⟨(sorted _).mp (representativeFallback_eq_nil.mp isFound).2, showsAll⟩
      · intro ⟨noTables, _⟩
        simpa [noTables, numericFallback, representativeFallback] using isFound

/-- The fallback's entries are dictionaries. -/
theorem fallback_dict {fallback : List ColumnSpec} (noSelect : intent.select = [])
    (isFallback : applySelectFallback unicode context intent = .ok fallback) :
    ∀ spec ∈ fallback, ∃ table column aliasName,
      spec = .dict (some table) (some column) (some aliasName) none := by
  unfold applySelectFallback at isFallback
  rw [if_neg (by simpa using noSelect)] at isFallback
  dsimp only at isFallback
  intro spec isSpec
  split at isFallback
  · cases isFallback
    cases List.mem_singleton.mp isSpec
    exact ⟨_, _, _, rfl⟩
  · split at isFallback
    · cases isFallback
    · cases isFallback
      obtain ⟨column, _, rfl⟩ := List.mem_map.mp isSpec
      exact ⟨_, _, _, rfl⟩

theorem normalizeColumns_fallback {base : Option String} {fallback : List ColumnSpec}
    (dicts : ∀ spec ∈ fallback, ∃ table column aliasName,
      spec = .dict (some table) (some column) (some aliasName) none) :
    normalizeColumns base (fallback.map fallbackItem) = [] ↔ fallback = [] := by
  constructor
  · intro isEmpty
    cases fallback with
    | nil => rfl
    | cons spec rest =>
        obtain ⟨table, column, aliasName, rfl⟩ := dicts spec List.mem_cons_self
        cases isEmpty
  · intro isEmpty
    rw [isEmpty]
    rfl

end Written

/-! ### Each field by itself -/

section Items

variable {dict : IntentDict} {fallback : List ColumnSpec}

theorem selectItems_falsy {value : PyValue} (present : dict.lookup "select" = some value)
    (isFalsy : falsy value = true) :
    selectItems dict fallback = fallback.map fallbackItem := by
  unfold selectItems
  rw [present]
  split
  · rename_i item rest same
    cases same
    cases isFalsy
  · rfl

theorem selectItems_list {item : PyValue} {rest : List PyValue}
    (present : dict.lookup "select" = some (.list (item :: rest))) :
    selectItems dict fallback = item :: rest := by
  unfold selectItems
  rw [present]

theorem columnItems_list {items : List PyValue}
    (present : dict.lookup "columns" = some (.list items)) :
    columnItems dict = items := by
  unfold columnItems
  rw [present]

end Items

section Fields

variable {unicode : Unicode} {context : SchemaContext} {dict : IntentDict}
variable {intent : Intent} {schema : List (String × List String)}

theorem select_written {base : Option String} {fallback : List ColumnSpec}
    (spells : SelectSpells (dict.lookup "select") intent.select)
    (isFallback : applySelectFallback unicode context intent = .ok fallback) :
    dict.lookup "select" =
        some (.list (normalizeColumns base (selectItems dict fallback))) ↔
      (∃ items, dict.lookup "select" = some (.list items) ∧ items ≠ [] ∧
          ∀ item ∈ items, InFormat item) ∨
        dict.lookup "select" = some (.list []) ∧ FindsNothing unicode intent := by
  generalize isValue : dict.lookup "select" = value at spells ⊢
  generalize isIntents : intent.select = specs at spells
  cases spells with
  | absent => simp
  | @empty value isFalsy =>
      have nothingNormal : normalizeColumns base (fallback.map fallbackItem) = [] ↔
          fallback = [] :=
        normalizeColumns_fallback (fallback_dict isIntents isFallback)
      rw [← fallback_eq_nil isIntents, isFallback, Except.ok.injEq, ← nothingNormal]
      rw [selectItems_falsy isValue isFalsy]
      constructor
      · intro same
        cases same
        have isEmpty : normalizeColumns base (fallback.map fallbackItem) = [] :=
          List.isEmpty_iff.mp isFalsy
        exact Or.inr ⟨congrArg (fun items => some (PyValue.list items)) isEmpty, isEmpty⟩
      · intro cases'
        rcases cases' with ⟨items, same, notEmpty, _⟩ | ⟨same, isEmpty⟩
        · cases same
          exact absurd (List.isEmpty_iff.mp isFalsy) notEmpty
        · rw [same, isEmpty]
  | @list item rest specs spelled =>
      rw [selectItems_list isValue]
      constructor
      · intro same
        have isNormal : item :: rest = normalizeColumns base (item :: rest) := by
          simpa using same
        exact Or.inl ⟨item :: rest, rfl, List.cons_ne_nil item rest,
          normalizeColumns_eq_self.mp isNormal.symm⟩
      · intro cases'
        rcases cases' with ⟨items, same, _, inFormat⟩ | ⟨same, _⟩
        · cases same
          rw [normalizeColumns_eq_self.mpr inFormat]
        · cases same

theorem columns_written {base : Option String}
    (spells : ColumnsSpell (dict.lookup "columns") intent.columns) :
    dict.lookup "columns" = some (.list (normalizeColumns base (columnItems dict))) ↔
      ∃ items, dict.lookup "columns" = some (.list items) ∧
        ∀ item ∈ items, InFormat item := by
  generalize isValue : dict.lookup "columns" = value at spells ⊢
  generalize intent.columns = specs at spells
  cases spells with
  | absent => simp
  | @list items specs spelled =>
      rw [columnItems_list isValue]
      constructor
      · intro same
        have isNormal : items = normalizeColumns base items := by simpa using same
        exact ⟨items, rfl, normalizeColumns_eq_self.mp isNormal.symm⟩
      · intro ⟨items', same, inFormat⟩
        cases same
        rw [normalizeColumns_eq_self.mpr inFormat]

theorem repairValue_falsy {value : PyValue} (isFalsy : falsy value = true) :
    repairValue unicode schema value = value := by
  cases value with
  | dict keys values =>
      have noKeys : keys = [] := List.isEmpty_iff.mp isFalsy
      subst noKeys
      rfl
  | _ => rfl

theorem measure_written
    (spells : MeasureSpells (dict.lookup "aggregation") intent.aggregation) :
    (dict.lookup "aggregation").map (repairValue unicode schema) =
        dict.lookup "aggregation" ↔
      intent.aggregation.map (repairedRequest unicode schema) = intent.aggregation := by
  generalize dict.lookup "aggregation" = value at spells ⊢
  generalize intent.aggregation = measure at spells ⊢
  cases spells with
  | absent => simp
  | empty isFalsy => simp [repairValue_falsy isFalsy]
  | @dict keys fields values inner function table column isFunction hasColumn isTable
      isColumn =>
      have written : repairValue unicode schema (.dict keys values) =
          .dict keys (setItem "column" (.dict fields (setItem "column"
            (.str (repaired unicode schema (some table) column)) fields inner)) keys
              values) := by
        simp only [repairValue, hasColumn, isTable, isColumn]
      rw [Option.map_some, Option.map_some, written]
      simp only [Option.some.injEq, PyValue.dict.injEq, true_and, repairedRequest,
        Option.map_some, MeasureRequest.mk.injEq, Prod.mk.injEq]
      rw [setItem_eq_self hasColumn]
      simp only [PyValue.dict.injEq, true_and]
      rw [setItem_eq_self isColumn, PyValue.str.injEq]

/-- The planning leaves the dictionary as it is exactly when there is nothing to
write. -/
theorem leftDict_eq_self_iff {fallback : List ColumnSpec} (spells : Spells dict intent)
    (isFallback : applySelectFallback unicode context intent = .ok fallback) :
    leftDict unicode context dict intent = dict ↔ Unchanged unicode context dict intent := by
  rw [leftDict_eq_self isFallback, select_written spells.select isFallback,
    columns_written spells.columns, measure_written spells.aggregation]
  constructor
  · intro ⟨isSelect, isColumns, isMarked, isRepaired⟩
    exact ⟨isSelect, isColumns, isMarked, isRepaired⟩
  · intro unchanged
    exact ⟨unchanged.select, unchanged.columns, unchanged.mark, unchanged.measure⟩

end Fields

/-! ## The two keys -/

section Keys

variable (digest : String → String)

/-- `_make_key` of a plan, for the text of a dictionary. -/
def textKey (text schemaHash : String) : String :=
  let hashed := digest (planVersion ++ ":" ++ text)
  if schemaHash = "" then "plan:" ++ hashed
  else "plan:" ++ schemaHash ++ ":" ++ hashed

variable {digest} {text other schemaHash : String}

theorem textKey_inj :
    textKey digest text schemaHash = textKey digest other schemaHash ↔
      digest (planVersion ++ ":" ++ text) = digest (planVersion ++ ":" ++ other) := by
  unfold textKey
  dsimp only
  by_cases noHash : schemaHash = ""
  · rw [if_pos noHash, if_pos noHash]
    exact String.append_right_inj _
  · rw [if_neg noHash, if_neg noHash]
    exact String.append_right_inj _

end Keys

/-- The planning completes, and the intent is valid, so that the plan is stored. -/
def Stores (unicode : Unicode)
    (build : List (String × List String) → ForeignKeyMap → RelationshipGraph)
    (inputs : PlanInputs) (intent : Intent) : Prop :=
  (∃ plan, planQueryExecution unicode (inputs.context build) intent = .ok plan) ∧
    "*" ∉ intent.tables

theorem planQueryExecution_fallback {unicode : Unicode} {context : SchemaContext}
    {intent : Intent} {plan : ExecutionPlan}
    (planned : planQueryExecution unicode context intent = .ok plan) :
    ∃ fallback, applySelectFallback unicode context intent = .ok fallback := by
  obtain ⟨prepared, isPrepared, _⟩ := planQueryExecution_steps planned
  obtain ⟨fallback, isFallback, _⟩ := prepare_ok isPrepared
  exact ⟨fallback, isFallback⟩

/-- A stored plan is found by the same call again exactly when the planning has
nothing to write into the intent; `str` is the text of a dictionary, and the digest
tells the dictionary from what is left of it. -/
theorem plan_found_again (unicode : Unicode)
    (build : List (String × List String) → ForeignKeyMap → RelationshipGraph)
    (str : IntentDict → String) (digest : String → String) (inputs : PlanInputs)
    (schemaHash : String) (dict : IntentDict) (intent : Intent)
    (spells : Spells dict intent) (stores : Stores unicode build inputs intent)
    (apart : digest (planVersion ++ ":" ++ str dict) =
        digest (planVersion ++ ":" ++
          str (leftDict unicode (inputs.context build) dict intent)) →
      leftDict unicode (inputs.context build) dict intent = dict) :
    textKey digest (str dict) schemaHash =
        textKey digest (str (leftDict unicode (inputs.context build) dict intent))
          schemaHash ↔
      Unchanged unicode (inputs.context build) dict intent := by
  obtain ⟨plan, planned⟩ := stores.1
  obtain ⟨fallback, isFallback⟩ := planQueryExecution_fallback planned
  rw [← leftDict_eq_self_iff spells isFallback, textKey_inj]
  constructor
  · intro sameDigest
    exact apart sameDigest
  · intro same
    rw [same]

/-! ### Columns with a confidence -/

/-- A column in the one format. -/
def formatted (table column : String) : PyValue :=
  .dict columnKeys [.str table, .str column, .str "unknown", .str column, .none]

/-- A column as the intent builder lists it, with a confidence of `1.0`. -/
def confident (table column : String) : PyValue :=
  .dict ["table", "column", "confidence"]
    [.str table, .str column, .float 0x3FF0000000000000]

def namesDict (columns : List PyValue) : IntentDict where
  entries :=
    [⟨"original_query", .str "totals and names"⟩,
      ⟨"tables", .list [.str "orders", .str "customers"]⟩,
      ⟨"select", .list [formatted "orders" "total", formatted "customers" "name"]⟩,
      ⟨"columns", .list columns⟩,
      ⟨"filters", .list []⟩,
      ⟨"aggregation", .none⟩,
      ⟨"group_by", .none⟩,
      ⟨"order_by", .none⟩,
      ⟨"having", .none⟩,
      ⟨"limit", .none⟩]
  nodupKeys := by simp [List.NodupKeys, List.keys]

def namesIntent (columns : List ColumnSpec) : Intent :=
  { totalsAndNames with columns := columns }

theorem formatted_spells (table column : String) :
    ColumnSpells (formatted table column) (columnSpec ⟨table, column, column, ""⟩) :=
  ColumnSpells.dict (FieldSpells.text _) (FieldSpells.text _) (FieldSpells.text _)
    FieldSpells.unset

theorem namesDict_spells {columns : List PyValue} {specs : List ColumnSpec}
    (spells : List.Forall₂ ColumnSpells columns specs) :
    Spells (namesDict columns) (namesIntent specs) where
  select := SelectSpells.list (List.Forall₂.cons (formatted_spells _ _)
    (List.Forall₂.cons (formatted_spells _ _) List.Forall₂.nil))
  columns := ColumnsSpell.list spells
  aggregation := MeasureSpells.empty rfl

/-- The builder's columns lack the other fields. -/
def confidentSpecs : List ColumnSpec :=
  [.dict (some "orders") (some "total") none none]

theorem namesIntent_stores {columns : List ColumnSpec}
    (planned : (planQueryExecution ascii ((ordersBy "billing_id").context fun _ _ => ∅)
      (namesIntent columns)).isOk = true) :
    Stores ascii (fun _ _ => ∅) (ordersBy "billing_id") (namesIntent columns) := by
  have noStar : "*" ∉ ["orders", "customers"] := by decide
  refine ⟨?_, noStar⟩
  generalize planQueryExecution ascii _ _ = outcome at planned
  cases outcome with
  | error refused => cases planned
  | ok plan => exact ⟨plan, rfl⟩

theorem plan_not_found_again :
    Spells (namesDict [confident "orders" "total"]) (namesIntent confidentSpecs) ∧
      Stores ascii (fun _ _ => ∅) (ordersBy "billing_id") (namesIntent confidentSpecs) ∧
      (leftDict ascii ((ordersBy "billing_id").context fun _ _ => ∅)
        (namesDict [confident "orders" "total"]) (namesIntent confidentSpecs)).lookup
          "columns" = some (.list [formatted "orders" "total"]) ∧
      ∀ (str : IntentDict → String) (digest : String → String) (schemaHash : String),
        digest (planVersion ++ ":" ++ str (namesDict [confident "orders" "total"])) ≠
          digest (planVersion ++ ":" ++ str (leftDict ascii
            ((ordersBy "billing_id").context fun _ _ => ∅)
            (namesDict [confident "orders" "total"]) (namesIntent confidentSpecs))) →
        textKey digest (str (namesDict [confident "orders" "total"])) schemaHash ≠
          textKey digest (str (leftDict ascii
            ((ordersBy "billing_id").context fun _ _ => ∅)
            (namesDict [confident "orders" "total"]) (namesIntent confidentSpecs)))
            schemaHash := by
  refine ⟨?_, ?_, rfl, ?_⟩
  · refine namesDict_spells (List.Forall₂.cons ?_ List.Forall₂.nil)
    exact ColumnSpells.dict (FieldSpells.text _) (FieldSpells.text _) FieldSpells.absent
      FieldSpells.absent
  · exact namesIntent_stores (by decide)
  · intro str digest schemaHash different sameKey
    exact different (textKey_inj.mp sameKey)

theorem plan_found_again_formatted :
    textKey (fun _ => "636fcf8c67d31223b40e143c8707c2a2") totalsAndNamesText "9f2c" =
        textKey (fun _ => "636fcf8c67d31223b40e143c8707c2a2") totalsAndNamesText "9f2c" ↔
      Unchanged ascii ((ordersBy "billing_id").context fun _ _ => ∅) (namesDict [])
        (namesIntent []) := by
  refine plan_found_again ascii (fun _ _ => ∅) (fun _ => totalsAndNamesText)
    (fun _ => "636fcf8c67d31223b40e143c8707c2a2") (ordersBy "billing_id") "9f2c"
    (namesDict []) (namesIntent []) (namesDict_spells List.Forall₂.nil)
    (namesIntent_stores (by decide)) ?_
  intro _
  rfl

end DbBuddy.Planner.StoredPlans
