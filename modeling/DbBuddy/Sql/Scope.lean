import DbBuddy.Sql.Emission

/-!
# Every column is qualified by a table of the statement

A table in front of a column should be the table of FROM or the one that a JOIN adds.
The compiler checks the tables that the items of the clauses name against all tables
that the joins name, whether they come to be in the text or not.
-/

namespace DbBuddy.Sql

open DbBuddy.Library DbBuddy.Dialects

section Scope

variable (unicode : Unicode)

/-! ## Scope -/

/-- The condition of each JOIN names what is there before it, and what it adds. -/
def JoinsInScope (scope : List String) : List (String × List Token) → Prop
  | [] => True
  | (target, tokens) :: rest =>
      (∀ table ∈ tablesIn unicode tokens,
        unicode.lower table ∈ unicode.lower target :: scope) ∧
      JoinsInScope (unicode.lower target :: scope) rest

namespace EmittedClauses

/-- The table of FROM, and those that the JOINs in the text add. -/
def scope (clauses : EmittedClauses) : List String :=
  (clauses.baseTable :: clauses.joins.map Prod.fst).map unicode.lower

/-- The clauses that may name all of them. -/
def ownTokens (clauses : EmittedClauses) (conditions : List Token) : List Token :=
  clauses.select ++ conditions ++ clauses.groupBy ++ clauses.having ++
    clauses.orderBy

structure InScope (clauses : EmittedClauses) (conditions : List Token) : Prop where
  joins : JoinsInScope unicode [unicode.lower clauses.baseTable] clauses.joins
  own : ∀ table ∈ tablesIn unicode (clauses.ownTokens conditions),
    unicode.lower table ∈ clauses.scope unicode

end EmittedClauses

mutual

/-- Each statement names its own tables only, and so do its subqueries. -/
def Emission.InScope : Emission → Prop
  | .mk clauses conditions =>
      clauses.InScope unicode conditions.own ∧ conditions.InScope

def Fragments.InScope : Fragments → Prop
  | .nil => True
  | .plain _ rest => rest.InScope
  | .nested _ subquery rest => subquery.InScope ∧ rest.InScope

end

/-! ## What the scope check leaves open -/

/-- The table in front of a dotted column. -/
def dottedTable (column : String) : List String :=
  let left := column.toList.takeWhile fun char => char != '.'
  let right := (column.toList.dropWhile fun char => char != '.').drop 1
  if '.' ∈ column.toList ∧ plainIdentifier left = true ∧ right ≠ [] then
    [String.ofList (strip left)]
  else []

/-- The table that a complete join adds, and the tables that its condition names. -/
def JoinItem.names (join : JoinItem) : Option (String × List String) :=
  match join.leftTable, join.rightTable with
  | some left, some right =>
      if left = "" ∨ right = "" ∨ join.leftKey = "" ∨ join.rightKey = "" then none
      else some (right, left :: right ::
        (dottedTable join.leftKey ++ dottedTable join.rightKey))
  | _, _ =>
      if join.table = "" ∨ join.on = "" then none
      else some (join.table, namesIn unicode join.on)

/-- The condition of each complete join names FROM, the tables of complete joins
before it, and its own. -/
def JoinsKept (scope : List String) : List (String × List String) → Prop
  | [] => True
  | (added, names) :: rest =>
      (∀ name ∈ names, unicode.lower name ∈ unicode.lower added :: scope) ∧
        JoinsKept (unicode.lower added :: scope) rest

instance decidableJoinsKept : (scope : List String) →
    (joins : List (String × List String)) → Decidable (JoinsKept unicode scope joins)
  | _, [] => inferInstanceAs (Decidable True)
  | scope, (added, _) :: rest =>
      have := decidableJoinsKept (unicode.lower added :: scope) rest
      inferInstanceAs (Decidable (_ ∧ _))

/-- FROM, and the tables of complete joins. -/
def Clauses.joined (clauses : Clauses) : List String :=
  (clauses.baseTable.getD "None" ::
    (clauses.joins.filterMap (JoinItem.names unicode)).map Prod.fst).map unicode.lower

/-- The conditions of the joins are in order; the tables that the check does not look
at are joined; and so are those that it lets pass because an incomplete join or the
left side of a join names them. -/
structure Clauses.Kept (clauses : Clauses) (own : List Token) : Prop where
  joins : JoinsKept unicode [unicode.lower (clauses.baseTable.getD "None")]
    (clauses.joins.filterMap (JoinItem.names unicode))
  unchecked : ∀ table ∈ uncheckedTables unicode own,
    unicode.lower table ∈ clauses.joined unicode
  listedOnly : ∀ table ∈ checkedTables own,
    unicode.lower table ∈
      tablesInScope unicode (clauses.baseTable.getD "None") clauses.joins →
    unicode.lower table ∈ clauses.joined unicode

variable (parameterize : Bool) (installed : DatabaseEngine → Bool)

mutual

/-- A plan keeps, in itself and in its subqueries, to the tables that it joins where
the scope check does not look. -/
def Plan.KeepsScope (engine : DatabaseEngine) : Plan → Prop
  | .mk clauses conditions =>
      clauses.Kept unicode
        ((emitClauses unicode parameterize engine (dialectOf installed engine)
            clauses).ownTokens
          (conditions.emission unicode parameterize installed
            (dialectOf installed engine)).own) ∧
      conditions.KeepsScope (dialectOf installed engine)

def Conditions.KeepsScope (dialect : Option DatabaseEngine) : Conditions → Prop
  | .nil => True
  | .plain _ rest => rest.KeepsScope dialect
  | .nested item subquery rest =>
      ((subqueryStart unicode dialect item).isSome = true →
        subquery.KeepsScope (dialect.getD .mysql)) ∧ rest.KeepsScope dialect

end

end Scope

/-! ## What the scope check looks at -/

section Checked

variable {unicode : Unicode} {dialect : Option DatabaseEngine}
variable {first later : List Token}

@[simp] theorem checkedTables_nil : checkedTables [] = [] := by
  rfl

@[simp] theorem checkedTables_text (shown : String) (rest : List Token) :
    checkedTables (.text shown :: rest) = checkedTables rest := by
  rfl

@[simp] theorem checkedTables_verbatim (shown : String) (rest : List Token) :
    checkedTables (.verbatim shown :: rest) = checkedTables rest := by
  rfl

@[simp] theorem checkedTables_append :
    checkedTables (first ++ later) = checkedTables first ++ checkedTables later := by
  simp [checkedTables]

theorem mem_checkedTables_between {separator table : String}
    {parts : List (List Token)}
    (isIn : table ∈ checkedTables (tokensBetween separator parts)) :
    ∃ part ∈ parts, table ∈ checkedTables part := by
  induction parts with
  | nil =>
      cases isIn
  | cons part rest inductionHypothesis =>
      by_cases isLast : rest = []
      · rw [isLast] at isIn
        exact ⟨part, List.mem_cons_self, isIn⟩
      · rw [tokensBetween_cons separator isLast, checkedTables_append,
          checkedTables_text] at isIn
        rcases List.mem_append.mp isIn with isFirst | isLater
        · exact ⟨part, List.mem_cons_self, isFirst⟩
        · obtain ⟨other, isOther, isThere⟩ := inductionHypothesis isLater
          exact ⟨other, List.mem_cons_of_mem _ isOther, isThere⟩

/-- What is not looked at is no checked table. -/
theorem checkedTables_quoteRefTokens_false (text : String) :
    checkedTables (quoteRefTokens unicode dialect false text) = [] := by
  unfold quoteRefTokens
  dsimp only
  split
  · rfl
  · split
    · rfl
    · rfl

theorem checkedTables_refTokens_false (table column : String) :
    checkedTables (refTokens unicode dialect false table column) = [] := by
  unfold refTokens
  rw [checkedTables_append, checkedTables_quoteRefTokens_false, List.append_nil]
  split
  · rfl
  · rfl

/-- The tables of a reference are those that the check takes from its item. -/
theorem checkedTables_refTokens (dialect : Option DatabaseEngine)
    {name table column : String}
    (isIn : name ∈ checkedTables (refTokens unicode dialect true table column)) :
    unicode.lower name ∈ referencedTables unicode table column := by
  unfold refTokens at isIn
  rw [checkedTables_append] at isIn
  unfold referencedTables
  rcases List.mem_append.mp isIn with isTable | isLeft
  · refine List.mem_append_left _ ?_
    split at isTable
    · cases isTable
    · rename_i notEmpty
      cases List.mem_singleton.mp isTable
      rw [if_neg notEmpty]
      exact List.mem_singleton.mpr rfl
  · refine List.mem_append_right _ ?_
    unfold quoteRefTokens at isLeft
    dsimp only at isLeft
    split at isLeft
    · cases isLeft
    · split at isLeft
      · rename_i isDotted
        unfold qualifierOf
        rw [if_pos isDotted.1]
        dsimp only
        cases isName : unicode.isIdentifier (String.ofList
            (strip (column.toList.takeWhile fun char => char != '.'))) with
        | true =>
            rw [isName] at isLeft
            have sameName : name = String.ofList
                (strip (column.toList.takeWhile fun char => char != '.')) := by
              simpa [checkedTables, Token.checkedTables] using isLeft
            rw [sameName]
            simp
        | false =>
            rw [isName] at isLeft
            cases isLeft
      · cases isLeft

theorem checkedTables_valueTokens (parameterize : Bool) (value : Value) :
    checkedTables (valueTokens parameterize value) = [] := by
  unfold valueTokens
  split
  · rfl
  · split
    · rfl
    · rfl

theorem checkedTables_operator {operator : Operator} {parameterize : Bool}
    {column : List Token} {value : Value} {table : String}
    (isIn : table ∈
      checkedTables (operator.tokens dialect parameterize column value)) :
    table ∈ checkedTables column := by
  cases operator with
  | binary token sql =>
      simp only [Operator.tokens, checkedTables_append, checkedTables_text,
        checkedTables_verbatim] at isIn
      split at isIn
      · simpa using isIn
      · simpa [checkedTables_valueTokens] using isIn
  | unary sql =>
      simpa [Operator.tokens] using isIn
  | range token sql =>
      simp only [Operator.tokens] at isIn
      split at isIn
      · simpa [checkedTables_valueTokens] using isIn
      · cases isIn
  | set token sql negated =>
      simp only [Operator.tokens] at isIn
      split at isIn
      · cases isIn
      · simp only [checkedTables_append, checkedTables_text, checkedTables_verbatim,
          checkedTables_nil, List.append_nil] at isIn
        rcases List.mem_append.mp isIn with isColumn | isValue
        · exact isColumn
        · obtain ⟨part, isPart, isThere⟩ := mem_checkedTables_between isValue
          obtain ⟨member, -, rfl⟩ := List.mem_map.mp isPart
          rw [checkedTables_valueTokens] at isThere
          cases isThere
  | ilike =>
      have noRhs : checkedTables (if value = .scalar .null then [Token.text "NULL"]
          else valueTokens parameterize value) = [] := by
        split
        · rfl
        · exact checkedTables_valueTokens _ _
      simp only [Operator.tokens, ilikeTokens] at isIn
      split at isIn
      · simpa [noRhs] using isIn
      · simpa [noRhs] using isIn

theorem checkedTables_condition {item : ConditionItem} {parameterize : Bool}
    {tokens : List Token} {table : String}
    (areTokens : conditionTokens unicode dialect parameterize item = some tokens)
    (isIn : table ∈ checkedTables tokens) :
    unicode.lower table ∈ referencedTables unicode item.table item.column := by
  unfold conditionTokens at areTokens
  split at areTokens
  · cases areTokens
  · dsimp only at areTokens
    split at areTokens
    · cases areTokens
      refine checkedTables_refTokens dialect ?_
      simpa [checkedTables_quoteRefTokens_false] using isIn
    · cases areTokens
      exact checkedTables_refTokens _ (checkedTables_operator isIn)

theorem checkedTables_subqueryStart {item : ConditionItem} {tokens : List Token}
    {table : String} (areTokens : subqueryStart unicode dialect item = some tokens)
    (isIn : table ∈ checkedTables tokens) :
    unicode.lower table ∈ referencedTables unicode item.table item.column := by
  unfold subqueryStart at areTokens
  split at areTokens
  · cases areTokens
    cases isIn
  · cases areTokens
    refine checkedTables_refTokens dialect ?_
    simpa using isIn
  · cases areTokens

theorem checkedTables_add {tokens : Option (List Token)} {rest : Fragments}
    {table : String} (isIn : table ∈ checkedTables (Fragments.add tokens rest).own) :
    (∃ present, tokens = some present ∧ table ∈ checkedTables present) ∨
      table ∈ checkedTables rest.own := by
  cases tokens with
  | none => exact .inr isIn
  | some present =>
      simp only [Fragments.add, Fragments.own, checkedTables_append,
        List.mem_append] at isIn
      rcases isIn with isPresent | isRest
      · exact .inl ⟨present, rfl, isPresent⟩
      · exact .inr isRest

/-- The conditions of a statement, without those of its subqueries. -/
theorem checkedTables_conditions {parameterize : Bool}
    {installed : DatabaseEngine → Bool} {table : String} (conditions : Conditions)
    (isIn : table ∈ checkedTables
      (conditions.emission unicode parameterize installed dialect).own) :
    ∃ item ∈ conditions.items,
      unicode.lower table ∈ referencedTables unicode item.table item.column := by
  cases conditions with
  | nil =>
      unfold Conditions.emission at isIn
      cases isIn
  | plain item rest =>
      unfold Conditions.emission at isIn
      rw [Conditions.items, List.exists_mem_cons_iff]
      rcases checkedTables_add isIn with ⟨tokens, areTokens, isThere⟩ | isLater
      · exact .inl (checkedTables_condition areTokens isThere)
      · exact .inr (checkedTables_conditions rest isLater)
  | nested item subquery rest =>
      unfold Conditions.emission at isIn
      rw [Conditions.items, List.exists_mem_cons_iff]
      split at isIn
      · next before isStart =>
          rw [Fragments.own, checkedTables_append, List.mem_append] at isIn
          rcases isIn with isBefore | isLater
          · exact .inl (checkedTables_subqueryStart isStart isBefore)
          · exact .inr (checkedTables_conditions rest isLater)
      · rcases checkedTables_add isIn with ⟨tokens, areTokens, isThere⟩ | isLater
        · exact .inl (checkedTables_condition areTokens isThere)
        · exact .inr (checkedTables_conditions rest isLater)

theorem checkedTables_select {select : List SelectItem} {table : String}
    (isIn : table ∈ checkedTables (selectTokens unicode dialect select)) :
    ∃ item ∈ select,
      unicode.lower table ∈ referencedTables unicode item.table item.column := by
  unfold selectTokens at isIn
  split at isIn
  · cases isIn
  · obtain ⟨part, isPart, isThere⟩ := mem_checkedTables_between isIn
    obtain ⟨item, isItem, rfl⟩ := List.mem_map.mp isPart
    refine ⟨item, isItem, checkedTables_refTokens dialect ?_⟩
    unfold selectItemTokens at isThere
    split at isThere
    · cases isThere
    · rw [checkedTables_append] at isThere
      rcases List.mem_append.mp isThere with isReference | isAlias
      · split at isReference
        · exact isReference
        · simpa using isReference
      · split at isAlias
        · cases isAlias
        · cases isAlias

theorem checkedTables_groupBy {groupBy : List GroupItem} {table : String}
    (isIn : table ∈ checkedTables (groupByTokens unicode dialect groupBy)) :
    ∃ item ∈ groupBy,
      unicode.lower table ∈ referencedTables unicode item.table item.column := by
  unfold groupByTokens at isIn
  dsimp only at isIn
  split at isIn
  · cases isIn
  · rw [checkedTables_text] at isIn
    obtain ⟨part, isPart, isThere⟩ := mem_checkedTables_between isIn
    obtain ⟨item, isItem, arePart⟩ := List.mem_filterMap.mp isPart
    unfold groupTokens at arePart
    split at arePart
    · cases arePart
    · cases arePart
      exact ⟨item, isItem, checkedTables_refTokens _ isThere⟩

theorem checkedTables_having {having : Option HavingItem} {parameterize : Bool}
    {table : String}
    (isIn : table ∈
      checkedTables (havingTokens unicode dialect parameterize having)) :
    ∃ item ∈ having.toList,
      unicode.lower table ∈ referencedTables unicode item.table item.column := by
  unfold havingTokens at isIn
  split at isIn
  · cases isIn
  · rename_i item
    split at isIn
    · simp only [checkedTables_text, checkedTables_verbatim, checkedTables_append,
        List.mem_append] at isIn
      rcases isIn with isReference | isValue
      · exact ⟨item, List.mem_singleton.mpr rfl, checkedTables_refTokens _ isReference⟩
      · split at isValue
        · cases isValue
        · cases isValue
    · cases isIn

theorem checkedTables_measure_false (direction function table column : String) :
    checkedTables (measureTokens unicode dialect false direction function table
      column) = [] := by
  simp [measureTokens, checkedTables_refTokens_false]

/-- Only an ordering by its own column is looked at. -/
theorem checkedTables_orderBranch {aggregation : Option Aggregation}
    {groupBy : List GroupItem} {order : OrderItem} {direction table : String}
    (isIn : table ∈ checkedTables
      (orderBranchTokens unicode dialect aggregation groupBy order direction)) :
    unicode.lower table ∈ referencedTables unicode order.table order.column := by
  unfold orderBranchTokens at isIn
  cases isAggregation : order.aggregation with
  | some function =>
      rw [isAggregation] at isIn
      dsimp only at isIn
      split at isIn
      · have isReference : table ∈ checkedTables
            (refTokens unicode dialect true order.table order.column) := by
          simpa [measureTokens] using isIn
        exact checkedTables_refTokens dialect isReference
      · cases isIn
  | none =>
      rw [isAggregation] at isIn
      dsimp only at isIn
      split at isIn
      · unfold orderExpressionTokens at isIn
        cases isMeasure : structuredMeasure aggregation with
        | some measure =>
            rw [isMeasure] at isIn
            cases isParsed : aggregateExpression unicode order.column with
            | some parsed =>
                rw [isParsed] at isIn
                simp [checkedTables_measure_false] at isIn
            | none =>
                rw [isParsed] at isIn
                simp [checkedTables_measure_false] at isIn
        | none =>
            rw [isMeasure] at isIn
            cases isParsed : aggregateExpression unicode order.column with
            | some parsed =>
                rw [isParsed] at isIn
                simp [checkedTables_quoteRefTokens_false] at isIn
            | none =>
                rw [isParsed] at isIn
                simp at isIn
      · unfold orderColumnTokens at isIn
        cases isMeasure : structuredMeasure aggregation with
        | some measure =>
            rw [isMeasure] at isIn
            dsimp only at isIn
            split at isIn
            · simp [checkedTables_measure_false] at isIn
            · cases isIn
        | none =>
            rw [isMeasure] at isIn
            cases isIn

theorem checkedTables_orderBy {aggregation : Option Aggregation}
    {groupBy : List GroupItem} {orderBy : List (Option OrderItem)} {table : String}
    (isIn : table ∈ checkedTables
      (orderByTokens unicode dialect aggregation groupBy orderBy)) :
    ∃ order, some order ∈ orderBy ∧
      unicode.lower table ∈ referencedTables unicode order.table order.column := by
  cases orderBy with
  | nil => cases isIn
  | cons first rest =>
      cases first with
      | none => cases isIn
      | some order =>
          refine ⟨order, List.mem_cons_self, ?_⟩
          simp only [orderByTokens] at isIn
          split at isIn
          · have isReference : table ∈ checkedTables
                (refTokens unicode dialect true order.table order.column) := by
              simpa using isIn
            exact checkedTables_refTokens dialect isReference
          · exact checkedTables_orderBranch isIn

end Checked

/-! ## The check -/

section Check

variable {unicode : Unicode} {clauses : Clauses} {conditions : List ConditionItem}
variable {orderBy : List (Option OrderItem)}

/-- What the items of the clauses name is named by FROM or by some join. -/
theorem listed_of_assert {baseTable : String} (hasBase : baseTable ≠ "")
    (inScope : assertTablesInScope unicode baseTable clauses conditions orderBy =
      .ok ()) :
    (∀ item ∈ clauses.select, ∀ name ∈ referencedTables unicode item.table item.column,
      name ∈ tablesInScope unicode baseTable clauses.joins) ∧
    (∀ item ∈ conditions, ∀ name ∈ referencedTables unicode item.table item.column,
      name ∈ tablesInScope unicode baseTable clauses.joins) ∧
    (∀ item ∈ clauses.groupBy,
      ∀ name ∈ referencedTables unicode item.table item.column,
      name ∈ tablesInScope unicode baseTable clauses.joins) ∧
    (∀ item ∈ clauses.having.toList,
      ∀ name ∈ referencedTables unicode item.table item.column,
      name ∈ tablesInScope unicode baseTable clauses.joins) ∧
    (∀ order, some order ∈ orderBy →
      ∀ name ∈ referencedTables unicode order.table order.column,
      name ∈ tablesInScope unicode baseTable clauses.joins) := by
  unfold assertTablesInScope at inScope
  dsimp only at inScope
  split at inScope
  · rename_i noneMissing
    have hasScope : tablesInScope unicode baseTable clauses.joins ≠ [] := by
      simp [tablesInScope, hasBase]
    have isNil := noneMissing.resolve_left hasScope
    have allListed := List.filter_eq_nil_iff.mp isNil
    simp only [List.mem_append, decide_eq_true_eq, not_not] at allListed
    refine ⟨?_, ?_, ?_, ?_, ?_⟩
    · intro item isItem name isName
      exact allListed name (.inl (.inl (.inl (.inl
        (List.mem_flatMap.mpr ⟨item, isItem, isName⟩)))))
    · intro item isItem name isName
      exact allListed name (.inl (.inl (.inl (.inr
        (List.mem_flatMap.mpr ⟨item, isItem, isName⟩)))))
    · intro item isItem name isName
      exact allListed name (.inl (.inl (.inr
        (List.mem_flatMap.mpr ⟨item, isItem, isName⟩))))
    · intro item isItem name isName
      exact allListed name (.inl (.inr
        (List.mem_flatMap.mpr ⟨item, isItem, isName⟩)))
    · intro order isOrder name isName
      exact allListed name (.inr (List.mem_flatMap.mpr ⟨some order, isOrder,
        List.mem_flatMap.mpr ⟨order, by simp, isName⟩⟩))
  · cases inScope

/-- Every table that the check looks at is named by FROM or by some join. -/
theorem checked_listed {parameterize : Bool} {installed : DatabaseEngine → Bool}
    {engine : DatabaseEngine} {dialect : Option DatabaseEngine}
    (subconditions : Conditions)
    (hasBase : clauses.baseTable.getD "None" ≠ "")
    (rebuilt : rebuildOrder clauses = .ok orderBy)
    (inScope : assertTablesInScope unicode (clauses.baseTable.getD "None") clauses
      subconditions.items orderBy = .ok ()) :
    ∀ table ∈ checkedTables
      ((emitClauses unicode parameterize engine dialect clauses).ownTokens
        (subconditions.emission unicode parameterize installed dialect).own),
      unicode.lower table ∈
        tablesInScope unicode (clauses.baseTable.getD "None") clauses.joins := by
  intro table isIn
  obtain ⟨select, condition, group, having, order⟩ := listed_of_assert hasBase inScope
  simp only [EmittedClauses.ownTokens, emitClauses, rebuilt, checkedTables_append,
    List.mem_append] at isIn
  rcases isIn with (((isSelect | isCondition) | isGroup) | isHaving) | isOrder
  · obtain ⟨item, isItem, isName⟩ := checkedTables_select isSelect
    exact select item isItem _ isName
  · obtain ⟨item, isItem, isName⟩ := checkedTables_conditions _ isCondition
    exact condition item isItem _ isName
  · obtain ⟨item, isItem, isName⟩ := checkedTables_groupBy isGroup
    exact group item isItem _ isName
  · obtain ⟨item, isItem, isName⟩ := checkedTables_having isHaving
    exact having item isItem _ isName
  · obtain ⟨item, isItem, isName⟩ := checkedTables_orderBy isOrder
    exact order item isItem _ isName

theorem tablesIn_text (shown : String) (rest : List Token) :
    tablesIn unicode (.text shown :: rest) = tablesIn unicode rest := by
  rfl

theorem mem_tablesIn_append (first later : List Token) (name : String) :
    name ∈ tablesIn unicode (first ++ later) ↔
      name ∈ tablesIn unicode first ∨ name ∈ tablesIn unicode later := by
  simp only [tablesIn, checkedTables_append, uncheckedTables, List.flatMap_append,
    List.mem_append]
  exact or_or_or_comm

theorem tablesIn_quoteRefTokens (unicode : Unicode) (dialect : Option DatabaseEngine)
    (column name : String) :
    name ∈ tablesIn unicode (quoteRefTokens unicode dialect false column) ↔
      name ∈ dottedTable column := by
  unfold tablesIn
  rw [checkedTables_quoteRefTokens_false, List.nil_append]
  unfold quoteRefTokens dottedTable
  dsimp only
  split
  · rename_i isStar
    rw [isStar]
    simp [uncheckedTables, Token.uncheckedTables]
  · split
    · simp [uncheckedTables, Token.uncheckedTables]
    · simp [uncheckedTables, Token.uncheckedTables]

theorem tablesIn_refTokens (unicode : Unicode) (dialect : Option DatabaseEngine)
    {table : String} (notEmpty : table ≠ "") (column name : String) :
    name ∈ tablesIn unicode (refTokens unicode dialect false table column) ↔
      name = table ∨ name ∈ dottedTable column := by
  have sameRest := tablesIn_quoteRefTokens unicode dialect column name
  unfold tablesIn at sameRest ⊢
  rw [checkedTables_quoteRefTokens_false, List.nil_append] at sameRest
  rw [checkedTables_refTokens_false, List.nil_append, ← sameRest, refTokens,
    if_neg notEmpty]
  exact List.mem_cons

/-- A JOIN in the text is a complete join of the plan. -/
theorem joinTokens_names (unicode : Unicode) (dialect : Option DatabaseEngine) (join : JoinItem) :
    (join.names unicode = none ∧ joinTokens unicode dialect join = none) ∨
      ∃ added names tokens, join.names unicode = some (added, names) ∧
        joinTokens unicode dialect join = some (added, tokens) ∧
        ∀ name, name ∈ tablesIn unicode tokens ↔ name ∈ names := by
  have oldFormat :
      ((if join.table = "" ∨ join.on = "" then none
          else some (join.table, namesIn unicode join.on)) = none ∧
        (if join.table = "" ∨ join.on = "" then none
          else some (join.table,
            [Token.text (normalizeJoinType unicode join.type ++ " " ++
              quote unicode join.table dialect ++ " ON "),
              Token.verbatim join.on])) = none) ∨
      ∃ added names tokens,
        (if join.table = "" ∨ join.on = "" then none
          else some (join.table, namesIn unicode join.on)) = some (added, names) ∧
        (if join.table = "" ∨ join.on = "" then none
          else some (join.table,
            [Token.text (normalizeJoinType unicode join.type ++ " " ++
              quote unicode join.table dialect ++ " ON "),
              Token.verbatim join.on])) = some (added, tokens) ∧
        ∀ name, name ∈ tablesIn unicode tokens ↔ name ∈ names := by
    by_cases isIncomplete : join.table = "" ∨ join.on = ""
    · exact .inl ⟨if_pos isIncomplete, if_pos isIncomplete⟩
    · refine .inr ⟨_, _, _, if_neg isIncomplete, if_neg isIncomplete, ?_⟩
      intro name
      simp [tablesIn, uncheckedTables, Token.uncheckedTables]
  unfold JoinItem.names joinTokens
  cases join.leftTable with
  | none => exact oldFormat
  | some left =>
      cases join.rightTable with
      | none => exact oldFormat
      | some right =>
          dsimp only
          by_cases isIncomplete :
              left = "" ∨ right = "" ∨ join.leftKey = "" ∨ join.rightKey = ""
          · exact .inl ⟨if_pos isIncomplete, if_pos isIncomplete⟩
          · refine .inr ⟨_, _, _, if_neg isIncomplete, if_neg isIncomplete, ?_⟩
            simp only [not_or] at isIncomplete
            intro name
            rw [tablesIn_text, mem_tablesIn_append, tablesIn_text,
              tablesIn_refTokens unicode dialect isIncomplete.1,
              tablesIn_refTokens unicode dialect isIncomplete.2.1]
            simp only [List.mem_cons, List.mem_append]
            exact or_or_or_comm.trans or_assoc

theorem joinsInScope_iff_kept (unicode : Unicode) (dialect : Option DatabaseEngine)
    (joins : List JoinItem) (scope : List String) :
    JoinsInScope unicode scope (joins.filterMap (joinTokens unicode dialect)) ↔
      JoinsKept unicode scope (joins.filterMap (JoinItem.names unicode)) := by
  induction joins generalizing scope with
  | nil => exact Iff.rfl
  | cons join rest inductionHypothesis =>
      rcases joinTokens_names unicode dialect join with
        ⟨noNames, noTokens⟩ | ⟨added, names, tokens, areNames, areTokens, same⟩
      · rw [List.filterMap_cons_none noNames, List.filterMap_cons_none noTokens]
        exact inductionHypothesis scope
      · rw [List.filterMap_cons_some areNames, List.filterMap_cons_some areTokens]
        unfold JoinsInScope JoinsKept
        rw [inductionHypothesis]
        simp only [same]

theorem joined_eq (unicode : Unicode) (clauses : Clauses) (parameterize : Bool)
    (engine : DatabaseEngine) (dialect : Option DatabaseEngine) :
    (emitClauses unicode parameterize engine dialect clauses).scope unicode =
      clauses.joined unicode := by
  have sameTargets :
      (clauses.joins.filterMap (joinTokens unicode dialect)).map Prod.fst =
        (clauses.joins.filterMap (JoinItem.names unicode)).map Prod.fst := by
    rw [List.map_filterMap, List.map_filterMap]
    refine List.filterMap_congr fun join _ => ?_
    rcases joinTokens_names unicode dialect join with
      ⟨noNames, noTokens⟩ | ⟨added, names, tokens, areNames, areTokens, -⟩
    · rw [noNames, noTokens]
      rfl
    · rw [areNames, areTokens]
      rfl
  simp only [EmittedClauses.scope, emitClauses, Clauses.joined, sameTargets]

/-- Where what is checked is listed, the rest is left to the plan. -/
theorem inScope_iff_kept {clauses : Clauses} {parameterize : Bool}
    {engine : DatabaseEngine} {dialect : Option DatabaseEngine} {own : List Token}
    (areListed : ∀ table ∈ checkedTables
      ((emitClauses unicode parameterize engine dialect clauses).ownTokens own),
      unicode.lower table ∈
        tablesInScope unicode (clauses.baseTable.getD "None") clauses.joins) :
    (emitClauses unicode parameterize engine dialect clauses).InScope unicode own ↔
      clauses.Kept unicode
        ((emitClauses unicode parameterize engine dialect clauses).ownTokens own) := by
  have sameJoins := joinsInScope_iff_kept unicode dialect clauses.joins
    [unicode.lower (clauses.baseTable.getD "None")]
  have sameScope := joined_eq unicode clauses parameterize engine dialect
  constructor
  · intro inScope
    refine ⟨sameJoins.mp inScope.joins, ?_, ?_⟩
    · intro table isUnchecked
      rw [← sameScope]
      exact inScope.own table (List.mem_append_right _ isUnchecked)
    · intro table isChecked _
      rw [← sameScope]
      exact inScope.own table (List.mem_append_left _ isChecked)
  · intro kept
    refine ⟨sameJoins.mpr kept.joins, ?_⟩
    intro table isIn
    rw [sameScope]
    rcases List.mem_append.mp isIn with isChecked | isUnchecked
    · exact kept.listedOnly table isChecked (areListed table isChecked)
    · exact kept.unchecked table isUnchecked

end Check

section Plans

variable (unicode : Unicode) (parameterize : Bool)
variable (installed : DatabaseEngine → Bool)

theorem Fragments.add_inScope (tokens : Option (List Token)) (rest : Fragments) :
    (Fragments.add tokens rest).InScope unicode ↔ rest.InScope unicode := by
  cases tokens with
  | none => exact Iff.rfl
  | some tokens =>
      unfold Fragments.add
      rw [Fragments.InScope]

mutual

theorem emission_inScope_iff {engine : DatabaseEngine} : (plan : Plan) →
    {statement : Rendered} →
    compileSql unicode installed parameterize engine plan = .ok statement →
    ((plan.emission unicode parameterize installed engine).InScope unicode ↔
      plan.KeepsScope unicode parameterize installed engine)
  | .mk clauses conditions, statement, isOk => by
      unfold compileSql at isOk
      unfold Plan.emission Plan.KeepsScope Emission.InScope
      obtain ⟨orderBy, fragments, rebuilt, isRendered, hasBase, inScope, -⟩ :=
        assemble_ok isOk
      rw [inScope_iff_kept (checked_listed conditions hasBase rebuilt inScope),
        fragments_inScope_iff conditions isRendered]

theorem fragments_inScope_iff {dialect : Option DatabaseEngine} :
    (conditions : Conditions) → {fragments : List String × List Value} →
    renderConditions unicode installed parameterize dialect conditions =
      .ok fragments →
    ((conditions.emission unicode parameterize installed dialect).InScope unicode ↔
      conditions.KeepsScope unicode parameterize installed dialect)
  | .nil, fragments, _ => by
      unfold Conditions.emission Conditions.KeepsScope Fragments.InScope
      exact Iff.rfl
  | .plain item rest, fragments, isOk => by
      unfold renderConditions at isOk
      unfold Conditions.emission Conditions.KeepsScope
      obtain ⟨fragment, later, -, isRest, -⟩ := consRendered_ok isOk
      rw [Fragments.add_inScope]
      exact fragments_inScope_iff rest isRest
  | .nested item subquery rest, fragments, isOk => by
      unfold renderConditions at isOk
      unfold Conditions.emission Conditions.KeepsScope
      obtain ⟨fragment, later, isFirst, isRest, -⟩ := consRendered_ok isOk
      rcases renderNested_ok isFirst with
        ⟨before, compiled, isStart, isCompiled, -⟩ | ⟨noStart, -⟩
      · rw [isStart]
        simp only [Option.isSome_some, true_implies]
        unfold Fragments.InScope
        rw [emission_inScope_iff subquery isCompiled,
          fragments_inScope_iff rest isRest]
      · rw [noStart, Fragments.add_inScope]
        simp only [Option.isSome_none, Bool.false_eq_true, false_implies, true_and]
        exact fragments_inScope_iff rest isRest

end

/-- A plan that is compiled is compiled to the text of its emission, in which every
column is qualified by a table of its statement if and only if the plan keeps to the
tables that it joins where the scope check does not look. -/
theorem compileSql_inScope_iff {engine : DatabaseEngine} {plan : Plan}
    {statement : Rendered}
    (compiled : compileSql unicode installed parameterize engine plan =
      .ok statement) :
    statement.1 = (plan.emission unicode parameterize installed engine).shown ∧
      ((plan.emission unicode parameterize installed engine).InScope unicode ↔
        plan.KeepsScope unicode parameterize installed engine) :=
  ⟨compileSql_shown unicode parameterize installed plan compiled,
    emission_inScope_iff unicode parameterize installed plan compiled⟩

end Plans

/-! ### A join with the table that is selected -/

namespace Crm

/-- The names of the customers, from the orders with a join. -/
def customerNames (left leftKey right rightKey : String) : Plan :=
  .mk
    { select := [
        { table := "customers", column := "name", aliasName := "", aggregation := "" }]
      baseTable := some "orders"
      joins := [
        { leftTable := some left
          rightTable := some right
          leftKey := leftKey
          rightKey := rightKey
          table := ""
          on := ""
          type := "JOIN" }]
      groupBy := []
      having := none
      orderBy := []
      orderIsList := true
      aggregation := none
      limit := none } .nil

end Crm

theorem compileSql_inScope_customers :
    ∃ statement, compileSql ascii (fun _ => true) false .mysql
        (Crm.customerNames "orders" "customer_id" "customers" "id") =
        .ok (statement, []) ∧
      ((Crm.customerNames "orders" "customer_id" "customers" "id").emission ascii false
        (fun _ => true) .mysql).InScope ascii := by
  have compiled : compileSql ascii (fun _ => true) false .mysql
      (Crm.customerNames "orders" "customer_id" "customers" "id") =
      .ok ("SELECT customers.name FROM orders JOIN customers ON " ++
        "orders.customer_id = customers.id", []) := by
    decide
  have kept : (Crm.customerNames "orders" "customer_id" "customers" "id").KeepsScope
      ascii false (fun _ => true) .mysql :=
    ⟨⟨by decide, by decide, by decide⟩, trivial⟩
  exact ⟨_, compiled,
    (compileSql_inScope_iff ascii false (fun _ => true) compiled).2.mpr kept⟩

/-! ### A join from a table that is nowhere joined -/

/-- The customers are let pass as the left side of the join, which joins the regions
only. -/
theorem compileSql_strays :
    compileSql ascii (fun _ => true) false .mysql
        (Crm.customerNames "customers" "region_id" "regions" "id") =
        .ok ("SELECT customers.name FROM orders JOIN regions ON " ++
          "customers.region_id = regions.id", []) ∧
      ¬ ((Crm.customerNames "customers" "region_id" "regions" "id").emission ascii
        false (fun _ => true) .mysql).InScope ascii := by
  constructor
  · decide
  · intro inScope
    have ownTables := inScope.1.own "customers" (by decide)
    revert ownTables
    decide

end DbBuddy.Sql
