import DbBuddy.Sql.Compiler
import DbBuddy.Library.Template

/-!
# The two renderings of a plan agree

What all operators render is a text with holes that the bound values fill, as long
as no text the plan has written out itself looks like a hole.
-/

namespace DbBuddy.Sql

open DbBuddy.Library DbBuddy.Dialects

/-- A text without percent signs. -/
def Plain (text : String) : Prop :=
  '%' ∉ text.toList

instance (text : String) : Decidable (Plain text) :=
  inferInstanceAs (Decidable ('%' ∉ text.toList))

/-! ## Texts that are written out -/

section Texts

variable {unicode : Unicode} {dialect : Option DatabaseEngine}
variable {text more : String}

@[simp] theorem plain_append : Plain (text ++ more) ↔ Plain text ∧ Plain more := by
  simp [Plain, not_or]

theorem plain_ofList {chars : List Char} (notIn : '%' ∉ chars) :
    Plain (String.ofList chars) := by
  rwa [Plain, String.toList_ofList]

/-- Part of a plain text is plain. -/
theorem Plain.part {chars : List Char} (isPlain : Plain text)
    (isPart : chars ⊆ text.toList) : Plain (String.ofList chars) :=
  plain_ofList fun isIn => isPlain (isPart isIn)

theorem plain_intercalate {separator : String} {parts : List String}
    (separatorPlain : Plain separator) (partsPlain : ∀ part ∈ parts, Plain part) :
    Plain (separator.intercalate parts) := by
  induction parts with
  | nil =>
      rw [String.intercalate_nil]
      decide
  | cons part rest inductionHypothesis =>
      have restPlain := inductionHypothesis fun other isOther =>
        partsPlain other (List.mem_cons_of_mem _ isOther)
      have partPlain := partsPlain part List.mem_cons_self
      by_cases isLast : rest = []
      · rw [isLast, String.intercalate_singleton]
        exact partPlain
      · rw [String.intercalate_cons_of_ne_nil isLast]
        simp only [plain_append]
        exact ⟨⟨partPlain, separatorPlain⟩, restPlain⟩

theorem plain_quoteWith {quote : Char} (notPercent : quote ≠ '%')
    (isPlain : Plain text) : Plain (quoteWith quote text) := by
  refine plain_ofList fun isIn => ?_
  rcases List.mem_cons.mp isIn with isQuote | isIn
  · exact notPercent isQuote.symm
  · rcases List.mem_append.mp isIn with isIn | isLast
    · obtain ⟨char, isChar, isDoubled⟩ := List.mem_flatMap.mp isIn
      split at isDoubled
      · simp [notPercent.symm] at isDoubled
      · cases List.mem_singleton.mp isDoubled
        exact isPlain isChar
    · exact notPercent (List.mem_singleton.mp isLast).symm

theorem plain_quote (isPlain : Plain text) : Plain (quote unicode text dialect) := by
  unfold quote
  split
  · cases dialect with
    | none =>
        exact plain_quoteWith (by decide) isPlain
    | some engine =>
        refine plain_quoteWith ?_ isPlain
        cases engine with
        | mysql => decide
        | postgres => decide
        | sqlserver => decide
  · exact isPlain

theorem plain_quoteRef (isPlain : Plain text) :
    Plain (quoteRef unicode text dialect) := by
  unfold quoteRef
  dsimp only
  split
  · exact isPlain
  · split
    · simp only [plain_append]
      refine ⟨⟨plain_quote ?_, by decide⟩, plain_quote ?_⟩
      · exact isPlain.part (List.takeWhile_sublist _).subset
      · exact isPlain.part fun _ isIn =>
          (List.dropWhile_sublist _).subset (List.mem_of_mem_drop isIn)
    · exact plain_quote isPlain

theorem plain_ref {table column : String} (tablePlain : Plain table)
    (columnPlain : Plain column) : Plain (ref unicode table column dialect) := by
  unfold ref
  split
  · exact plain_quoteRef columnPlain
  · simp only [plain_append]
    exact ⟨⟨plain_quote tablePlain, by decide⟩, plain_quoteRef columnPlain⟩

theorem plain_upper (isPlain : Plain text) : Plain (unicode.upper text) :=
  fun isIn => isPlain (unicode.upper_percent text isIn)

theorem plain_repr (count : ℕ) : Plain count.repr := by
  intro isIn
  rw [Nat.toList_repr] at isIn
  have isDigit := Nat.isDigit_of_mem_toDigits (by decide) (by decide) isIn
  exact absurd isDigit (by decide)

/-! ## Clauses -/

/-- What an item of the SELECT list writes out. -/
def SelectItem.verbatim (item : SelectItem) : List String :=
  [item.table, item.column, item.aliasName, item.aggregation]

theorem plain_selectPart {item : SelectItem}
    (isPlain : ∀ text ∈ item.verbatim, Plain text) :
    Plain (selectPart unicode dialect item) := by
  simp only [SelectItem.verbatim, List.forall_mem_cons] at isPlain
  obtain ⟨tablePlain, columnPlain, aliasPlain, aggregationPlain, _⟩ := isPlain
  have reference : Plain (ref unicode item.table item.column dialect) :=
    plain_ref tablePlain columnPlain
  have measured : Plain (if item.aggregation = "" then
      ref unicode item.table item.column dialect
    else item.aggregation ++ "(" ++ ref unicode item.table item.column dialect ++
      ")") := by
    split
    · exact reference
    · simp only [plain_append]
      exact ⟨⟨⟨aggregationPlain, by decide⟩, reference⟩, by decide⟩
  unfold selectPart
  dsimp only
  split
  · decide
  · split
    · simp only [plain_append]
      exact ⟨⟨measured, by decide⟩, plain_quote aliasPlain⟩
    · exact measured

theorem plain_normalizeJoinType (isPlain : Plain text) :
    Plain (normalizeJoinType unicode text) := by
  have upperPlain : Plain
      (unicode.upper (String.ofList (strip text.toList))) :=
    plain_upper (isPlain.part (strip_subset _))
  unfold normalizeJoinType
  dsimp only
  split
  · decide
  · split
    · exact upperPlain
    · simp only [plain_append]
      exact ⟨upperPlain, by decide⟩

/-- What a join writes out. -/
def JoinItem.verbatim (join : JoinItem) : List String :=
  join.leftTable.toList ++ join.rightTable.toList ++
    [join.leftKey, join.rightKey, join.table, join.on, join.type]

theorem plain_joinPart {join : JoinItem} {part : String}
    (isPlain : ∀ text ∈ join.verbatim, Plain text)
    (isPart : joinPart unicode dialect join = some part) : Plain part := by
  simp only [JoinItem.verbatim, List.forall_mem_append,
    List.forall_mem_cons] at isPlain
  obtain ⟨⟨leftPlain, rightPlain⟩, leftKey, rightKey, table, on, type, _⟩ :=
    isPlain
  unfold joinPart at isPart
  split at isPart
  · rename_i left right isLeft isRight
    rw [isLeft] at leftPlain
    rw [isRight] at rightPlain
    have leftTable := leftPlain left (by simp)
    have rightTable := rightPlain right (by simp)
    split at isPart
    · cases isPart
    · cases isPart
      simp only [plain_append]
      exact ⟨⟨⟨⟨⟨by decide, plain_quote rightTable⟩, by decide⟩,
        plain_ref leftTable leftKey⟩, by decide⟩, plain_ref rightTable rightKey⟩
  · split at isPart
    · cases isPart
    · cases isPart
      simp only [plain_append]
      exact ⟨⟨⟨⟨plain_normalizeJoinType type, by decide⟩, plain_quote table⟩,
        by decide⟩, on⟩

theorem plain_orderDirection (direction : String) :
    Plain (orderDirection unicode direction) := by
  unfold orderDirection
  dsimp only
  split
  · rename_i isKnown
    rcases isKnown with isAsc | isDesc
    · rw [isAsc]
      decide
    · rw [isDesc]
      decide
  · decide

theorem plain_aggregateExpression {column function inner : String}
    (isPlain : Plain column)
    (parsed : aggregateExpression unicode column = some (function, inner)) :
    Plain function ∧ Plain inner := by
  unfold aggregateExpression at parsed
  dsimp only at parsed
  have start : column.toList.dropWhile isSpace ⊆ column.toList :=
    (List.dropWhile_sublist _).subset
  split at parsed
  · rename_i rest isOpen
    have restPart : rest ⊆ column.toList := by
      intro char isIn
      have isLater : char ∈ '(' :: rest := List.mem_cons_of_mem _ isIn
      rw [← isOpen] at isLater
      exact start ((List.dropWhile_sublist _).subset
        ((List.dropWhile_sublist _).subset isLater))
    split at parsed
    · split at parsed
      · cases parsed
        refine ⟨isPlain.part fun _ isIn => start
            ((List.takeWhile_sublist _).subset isIn),
          isPlain.part fun _ isIn => restPart ((List.dropWhile_sublist _).subset
            ((List.takeWhile_sublist _).subset isIn))⟩
      · cases parsed
    · cases parsed
  · cases parsed

/-- What an ordering writes out. -/
def OrderItem.verbatim (item : OrderItem) : List String :=
  [item.table, item.column] ++ item.aggregation.toList

/-- What an aggregation writes out. -/
def Aggregation.verbatim (plan : Aggregation) : List String :=
  plan.function :: plan.column.toList.flatMap fun column => [column.1, column.2]

theorem plain_orderByMeasure {function table column direction : String}
    (functionPlain : Plain function) (tablePlain : Plain table)
    (columnPlain : Plain column) (directionPlain : Plain direction) :
    Plain (orderByMeasure unicode dialect direction function table column) := by
  simp only [orderByMeasure, plain_append]
  exact ⟨⟨⟨⟨⟨by decide, functionPlain⟩, by decide⟩,
    plain_ref tablePlain columnPlain⟩, by decide⟩, directionPlain⟩

theorem plain_structuredMeasure {aggregation : Option Aggregation}
    {function table column : String}
    (aggregationPlain : ∀ plan, aggregation = some plan →
      ∀ text ∈ plan.verbatim, Plain text)
    (isMeasure : structuredMeasure aggregation = some (function, table, column)) :
    Plain function ∧ Plain table ∧ Plain column := by
  unfold structuredMeasure at isMeasure
  split at isMeasure
  · cases isMeasure
  · rename_i plan
    split at isMeasure
    · cases isMeasure
    · rename_i table' column' isColumn
      split at isMeasure
      · cases isMeasure
        have written : plan.verbatim = [plan.function, table, column] := by
          simp [Aggregation.verbatim, isColumn]
        have allPlain := aggregationPlain plan rfl
        rw [written] at allPlain
        exact ⟨allPlain _ (by simp), allPlain _ (by simp), allPlain _ (by simp)⟩
      · cases isMeasure

theorem plain_orderByExpression {aggregation : Option Aggregation}
    {direction column : String} (columnPlain : Plain column)
    (aggregationPlain : ∀ plan, aggregation = some plan →
      ∀ text ∈ plan.verbatim, Plain text)
    (directionPlain : Plain direction) :
    Plain (orderByExpression unicode dialect direction aggregation column) := by
  unfold orderByExpression
  split
  · rename_i isMeasure parsed
    obtain ⟨_, table, measured⟩ := plain_structuredMeasure aggregationPlain isMeasure
    exact plain_orderByMeasure (plain_aggregateExpression columnPlain parsed).1
      table measured directionPlain
  · rename_i isMeasure _
    obtain ⟨function, table, measured⟩ :=
      plain_structuredMeasure aggregationPlain isMeasure
    exact plain_orderByMeasure function table measured directionPlain
  · rename_i parsed
    obtain ⟨functionPlain, innerPlain⟩ :=
      plain_aggregateExpression columnPlain parsed
    simp only [plain_append]
    exact ⟨⟨⟨⟨⟨by decide, functionPlain⟩, by decide⟩,
      plain_quoteRef innerPlain⟩, by decide⟩, directionPlain⟩
  · simp only [plain_append]
    exact ⟨⟨⟨by decide, columnPlain⟩, by decide⟩, directionPlain⟩

theorem plain_orderByBranches {aggregation : Option Aggregation}
    {groupBy : List GroupItem} {order : OrderItem} {direction : String}
    (orderPlain : ∀ text ∈ order.verbatim, Plain text)
    (aggregationPlain : ∀ plan, aggregation = some plan →
      ∀ text ∈ plan.verbatim, Plain text)
    (directionPlain : Plain direction) :
    Plain (orderByBranches unicode dialect aggregation groupBy order
      direction) := by
  have tablePlain : Plain order.table := orderPlain _ (by simp [OrderItem.verbatim])
  have columnPlain : Plain order.column :=
    orderPlain _ (by simp [OrderItem.verbatim])
  unfold orderByBranches
  split
  · rename_i function isFunction
    have functionPlain : Plain function :=
      orderPlain _ (by simp [OrderItem.verbatim, isFunction])
    split
    · exact plain_orderByMeasure functionPlain tablePlain columnPlain
        directionPlain
    · decide
  · split
    · exact plain_orderByExpression columnPlain aggregationPlain directionPlain
    · unfold orderByColumn
      split
      · decide
      · rename_i isMeasure
        obtain ⟨function, table, measured⟩ :=
          plain_structuredMeasure aggregationPlain isMeasure
        split
        · exact plain_orderByMeasure function table measured directionPlain
        · decide

theorem plain_orderByClause {aggregation : Option Aggregation}
    {groupBy : List GroupItem} {orderBy : List (Option OrderItem)}
    (orderPlain : ∀ order, some order ∈ orderBy →
      ∀ text ∈ order.verbatim, Plain text)
    (aggregationPlain : ∀ plan, aggregation = some plan →
      ∀ text ∈ plan.verbatim, Plain text) :
    Plain (orderByClause unicode dialect aggregation groupBy orderBy) := by
  unfold orderByClause
  split
  · decide
  · decide
  · rename_i order rest
    have itemPlain := orderPlain order List.mem_cons_self
    have directionPlain : Plain (orderDirection unicode (order.direction.getD "ASC")) :=
      plain_orderDirection _
    dsimp only
    split
    · simp only [plain_append]
      exact ⟨⟨⟨by decide, plain_ref (itemPlain _ (by simp [OrderItem.verbatim]))
        (itemPlain _ (by simp [OrderItem.verbatim]))⟩, by decide⟩,
        directionPlain⟩
    · exact plain_orderByBranches itemPlain aggregationPlain directionPlain

/-- What an item of GROUP BY writes out. -/
def GroupItem.verbatim (group : GroupItem) : List String :=
  [group.table, group.column]

theorem plain_groupByClause {groupBy : List GroupItem}
    (isPlain : ∀ group ∈ groupBy, ∀ text ∈ group.verbatim, Plain text) :
    Plain (groupByClause unicode dialect groupBy) := by
  have partsPlain : ∀ part ∈ groupBy.filterMap (groupPart unicode dialect),
      Plain part := by
    intro part isPart
    obtain ⟨group, isGroup, isPart⟩ := List.mem_filterMap.mp isPart
    have groupPlain := isPlain group isGroup
    simp only [GroupItem.verbatim, List.forall_mem_cons] at groupPlain
    unfold groupPart at isPart
    split at isPart
    · cases isPart
    · cases isPart
      exact plain_ref groupPlain.1 groupPlain.2.1
  unfold groupByClause
  dsimp only
  split
  · decide
  · simp only [plain_append]
    exact ⟨by decide, plain_intercalate (by decide) partsPlain⟩

theorem plain_selectClause {select : List SelectItem}
    (isPlain : ∀ item ∈ select, ∀ text ∈ item.verbatim, Plain text) :
    Plain (selectClause unicode dialect select) := by
  unfold selectClause
  split
  · decide
  · refine plain_intercalate (by decide) fun part isPart => ?_
    obtain ⟨item, isItem, rfl⟩ := List.mem_map.mp isPart
    exact plain_selectPart (isPlain item isItem)

theorem plain_joinClause {joins : List JoinItem}
    (isPlain : ∀ join ∈ joins, ∀ text ∈ join.verbatim, Plain text) :
    Plain (joinClause unicode dialect joins) := by
  refine plain_intercalate (by decide) fun part isPart => ?_
  obtain ⟨join, isJoin, isPart⟩ := List.mem_filterMap.mp isPart
  exact plain_joinPart (isPlain join isJoin) isPart

theorem plain_limitClauses (engine : DatabaseEngine) (limit : Option ℤ) :
    Plain (limitClauses engine limit).1 ∧ Plain (limitClauses engine limit).2 := by
  unfold limitClauses
  split
  · decide
  · split
    · split
      · simp only [plain_append]
        exact ⟨⟨⟨by decide, plain_repr _⟩, by decide⟩, by decide⟩
      · simp only [plain_append]
        exact ⟨by decide, by decide, plain_repr _⟩
    · decide

theorem plain_spaced (isPlain : Plain text) : Plain (spaced text) := by
  unfold spaced
  split
  · decide
  · simp only [plain_append]
    exact ⟨by decide, isPlain⟩

end Texts

/-! ## Agreement -/

/-- A text as its characters, and a value as the characters of its literal. -/
def literal (value : Value) : List Char :=
  (renderLiteral value).toList

/-- The first rendering has a hole for each of its values, the second one has
their literals in the place of the holes, and nothing to bind. -/
def Agrees (bound inline : Rendered) : Prop :=
  Fills literal bound.1.toList bound.2 inline.1.toList ∧ inline.2 = []

/-- Two outcomes are refused for the same reason, or are related. -/
def BothOk {α β : Type} (related : α → β → Prop) :
    Except CompileError α → Except CompileError β → Prop
  | .ok first, .ok second => related first second
  | .error refused, .error refused' => refused = refused'
  | _, _ => False

theorem BothOk.imp {α β : Type} {related weaker : α → β → Prop}
    {first : Except CompileError α} {second : Except CompileError β}
    (bothOk : BothOk related first second)
    (implied : ∀ value value', related value value' → weaker value value') :
    BothOk weaker first second := by
  cases first with
  | error refused =>
      cases second with
      | error refused' => exact bothOk
      | ok value' => exact bothOk.elim
  | ok value =>
      cases second with
      | error refused' => exact bothOk.elim
      | ok value' => exact implied value value' bothOk

/-- Fragments that agree one by one. -/
inductive FragmentsAgree : List String → List Value → List String → Prop
  | nil : FragmentsAgree [] [] []
  | cons {fragment shown : String} {params later : List Value}
      {fragments rest : List String} :
      Agrees (fragment, params) (shown, []) → FragmentsAgree fragments later rest →
      FragmentsAgree (fragment :: fragments) (params ++ later) (shown :: rest)

section Agreement

variable {unicode : Unicode} {dialect : Option DatabaseEngine}
variable {text more bound inline moreInline : String}
variable {params later : List Value}

theorem agrees_text (isPlain : Plain text) : Agrees (text, []) (text, []) :=
  ⟨Fills.plain isPlain, rfl⟩

theorem Agrees.append (agrees : Agrees (bound, params) (inline, []))
    (agreesToo : Agrees (more, later) (moreInline, [])) :
    Agrees (bound ++ more, params ++ later) (inline ++ moreInline, []) := by
  refine ⟨?_, rfl⟩
  simp only [String.toList_append]
  exact agrees.1.append agreesToo.1

/-- A plain text in front of what agrees. -/
theorem Agrees.after (isPlain : Plain text)
    (agrees : Agrees (bound, params) (inline, [])) :
    Agrees (text ++ bound, params) (text ++ inline, []) :=
  (agrees_text isPlain).append agrees

/-- A plain text behind what agrees. -/
theorem Agrees.before (agrees : Agrees (bound, params) (inline, []))
    (isPlain : Plain text) :
    Agrees (bound ++ text, params) (inline ++ text, []) := by
  have appended := agrees.append (agrees_text isPlain)
  rwa [List.append_nil] at appended

/-- One hole, and the literal in its place. -/
theorem agrees_hole (value : Value) :
    Agrees ("%s", [value]) (renderLiteral value, []) := by
  have hole : "%s".toList = ['%', 's'] := by
    decide
  refine ⟨?_, rfl⟩
  rw [hole]
  exact Fills.one literal value

theorem FragmentsAgree.intercalate {separator : String}
    {fragments rest : List String} {params : List Value}
    (separatorPlain : Plain separator)
    (agree : FragmentsAgree fragments params rest) :
    Agrees (separator.intercalate fragments, params)
      (separator.intercalate rest, []) := by
  induction agree with
  | nil =>
      rw [String.intercalate_nil]
      exact agrees_text (by decide)
  | cons first later inductionHypothesis =>
      cases later with
      | nil =>
          rw [String.intercalate_singleton, String.intercalate_singleton,
            List.append_nil]
          exact first
      | cons second others =>
          rw [String.intercalate_cons_cons, String.intercalate_cons_cons]
          exact (first.before separatorPlain).append inductionHypothesis

theorem renderEach_agree (values : List Value) :
    FragmentsAgree (renderEach true values).1 (renderEach true values).2
      (renderEach false values).1 := by
  induction values with
  | nil =>
      exact FragmentsAgree.nil
  | cons value rest inductionHypothesis =>
      exact FragmentsAgree.cons (agrees_hole value) inductionHypothesis

/-- The text an operator writes out. -/
def Operator.written : Operator → String
  | .binary _ sql => sql
  | .unary sql => sql
  | .range _ sql => sql
  | .set _ sql _ => sql
  | .ilike => ""

theorem ilikeFragment_agrees {column : String} (columnPlain : Plain column)
    (agrees : Agrees (bound, params) (inline, [])) :
    Agrees (ilikeFragment dialect column bound, params)
      (ilikeFragment dialect column inline, []) := by
  have portable : Agrees
      ("LOWER(" ++ column ++ ") LIKE LOWER(" ++ bound ++ ")", params)
      ("LOWER(" ++ column ++ ") LIKE LOWER(" ++ inline ++ ")", []) := by
    refine (Agrees.after ?_ agrees).before (by decide)
    simp only [plain_append]
    exact ⟨⟨by decide, columnPlain⟩, by decide⟩
  cases dialect with
  | none =>
      exact portable
  | some engine =>
      unfold ilikeFragment
      simp only [DatabaseEngine.renderIlike]
      split
      · refine agrees.after ?_
        simp only [plain_append]
        exact ⟨columnPlain, by decide⟩
      · exact portable

/-- Each operator puts its placeholders in the order in which it binds. -/
theorem Operator.render_agrees {operator : Operator} {column : String}
    (operatorPlain : Plain operator.written) (columnPlain : Plain column)
    (value : Value) :
    BothOk Agrees (operator.render column value true dialect)
      (operator.render column value false dialect) := by
  cases operator with
  | binary token sql =>
      simp only [Operator.render]
      split
      · refine agrees_text ?_
        simp only [plain_append]
        exact ⟨⟨⟨columnPlain, by decide⟩, operatorPlain⟩, by decide⟩
      · simp only [renderOne, if_true, Bool.false_eq_true, if_false]
        refine (agrees_hole value).after ?_
        simp only [plain_append]
        exact ⟨⟨⟨columnPlain, by decide⟩, operatorPlain⟩, by decide⟩
  | unary sql =>
      refine agrees_text ?_
      simp only [plain_append]
      exact ⟨⟨columnPlain, by decide⟩, operatorPlain⟩
  | range token sql =>
      simp only [Operator.render]
      split
      · rename_i kind low high shown
        split
        · rfl
        · have startPlain : Plain (column ++ " " ++ sql ++ " ") := by
            simp only [plain_append]
            exact ⟨⟨⟨columnPlain, by decide⟩, operatorPlain⟩, by decide⟩
          have andPlain : Plain " AND " := by
            decide
          simp only [renderOne, if_true, Bool.false_eq_true, if_false]
          exact (((agrees_hole (.scalar low)).after startPlain).before
            andPlain).append (agrees_hole (.scalar high))
      · rfl
  | set token sql negated =>
      have startPlain : Plain (column ++ " " ++ sql ++ " (") := by
        simp only [plain_append]
        exact ⟨⟨⟨columnPlain, by decide⟩, operatorPlain⟩, by decide⟩
      have commaPlain : Plain ", " := by
        decide
      have endPlain : Plain ")" := by
        decide
      simp only [Operator.render]
      split
      · cases negated with
        | false => exact agrees_text (by decide)
        | true => exact agrees_text (by decide)
      · split
        · rfl
        · exact (((renderEach_agree _).intercalate commaPlain).after
            startPlain).before endPlain
  | ilike =>
      simp only [Operator.render]
      split
      · exact ilikeFragment_agrees columnPlain (agrees_text (by decide))
      · simp only [renderOne, if_true, Bool.false_eq_true, if_false]
        exact ilikeFragment_agrees columnPlain (agrees_hole value)

theorem mem_of_lookup {entries : List (String × Operator)} {key : String}
    {operator : Operator} (found : entries.lookup key = some operator) :
    (key, operator) ∈ entries := by
  induction entries with
  | nil =>
      cases found
  | cons entry rest inductionHypothesis =>
      obtain ⟨token, registered⟩ := entry
      rw [List.lookup_cons] at found
      split at found
      · rename_i isKey
        cases found
        rw [beq_iff_eq.mp isKey]
        exact List.mem_cons_self
      · exact List.mem_cons_of_mem _ (inductionHypothesis found)

theorem plain_getOperator {token : String} (isPlain : Plain token) :
    Plain (getOperator unicode token).written := by
  have registered : ∀ entry ∈ operators, Plain entry.2.written := by
    decide
  unfold getOperator
  cases found : operators.lookup (upperStrip unicode token) with
  | none =>
      exact isPlain
  | some operator =>
      have isEntry := mem_of_lookup found
      rw [Option.getD_some]
      exact registered _ isEntry

/-! ## Conditions -/

/-- What a condition writes out. -/
def ConditionItem.verbatim (item : ConditionItem) : List String :=
  [item.table, item.column] ++ item.operator.toList ++ item.columnRef.toList

theorem plain_quoteCondition {item : ConditionItem}
    (isPlain : ∀ text ∈ item.verbatim, Plain text) :
    ∀ text ∈ (quoteCondition unicode dialect item).verbatim, Plain text := by
  simp only [ConditionItem.verbatim, List.forall_mem_append, List.forall_mem_cons,
    Option.mem_toList] at isPlain ⊢
  obtain ⟨⟨⟨table, column, noMore⟩, operator⟩, reference⟩ := isPlain
  refine ⟨⟨⟨?_, ?_, noMore⟩, operator⟩, ?_⟩
  · simp only [quoteCondition]
    split
    · exact table
    · decide
  · simp only [quoteCondition]
    split
    · decide
    · exact plain_ref table column
  · intro text isReference
    simp only [quoteCondition, Option.map_eq_some_iff] at isReference
    obtain ⟨written, isWritten, rfl⟩ := isReference
    split
    · decide
    · exact plain_quoteRef (reference written isWritten)

/-- What is rendered agrees, or nothing is rendered. -/
def AgreeIfAny : Option Rendered → Option Rendered → Prop
  | none, none => True
  | some bound, some inline => Agrees bound inline
  | _, _ => False

theorem BothOk.map_some {first second : Except CompileError Rendered}
    (bothOk : BothOk Agrees first second) :
    BothOk AgreeIfAny (first.map some) (second.map some) := by
  cases first with
  | error refused =>
      cases second with
      | error refused' => exact bothOk
      | ok inline => exact bothOk
  | ok bound =>
      cases second with
      | error refused' => exact bothOk
      | ok inline => exact bothOk

theorem renderCondition_agrees {item : ConditionItem}
    (isPlain : ∀ text ∈ item.verbatim, Plain text) :
    BothOk AgreeIfAny (renderCondition unicode item true dialect)
      (renderCondition unicode item false dialect) := by
  simp only [ConditionItem.verbatim, List.forall_mem_append, List.forall_mem_cons,
    Option.mem_toList] at isPlain
  obtain ⟨⟨⟨_, columnPlain, _⟩, operator⟩, reference⟩ := isPlain
  have operatorPlain : Plain (item.operator.getD "=") := by
    cases isOperator : item.operator with
    | none => decide
    | some token => exact operator token isOperator
  unfold renderCondition
  split
  · trivial
  · dsimp only
    split
    · rename_i written isWritten
      refine agrees_text ?_
      simp only [plain_append]
      exact ⟨⟨⟨⟨columnPlain, by decide⟩, operatorPlain⟩, by decide⟩,
        reference written isWritten⟩
    · refine BothOk.map_some (Operator.render_agrees ?_ columnPlain _)
      refine plain_getOperator ?_
      split
      · split
        · decide
        · split
          · decide
          · exact operatorPlain
      · exact operatorPlain

theorem plain_quantifiedStart {item : ConditionItem} {start quantifier : String}
    (columnPlain : Plain item.column)
    (isStart : quantifiedStart unicode item = .ok (start, quantifier)) :
    Plain start := by
  have known : ∀ comparator ∈ comparators, Plain comparator := by
    decide
  have knownToo : ∀ quantifier ∈ ["ANY", "ALL"], Plain quantifier := by
    decide
  unfold quantifiedStart at isStart
  dsimp only at isStart
  split at isStart
  · cases isStart
  · split at isStart
    · cases isStart
    · rename_i isComparator
      split at isStart
      · cases isStart
      · rename_i isQuantifier
        cases isStart
        simp only [plain_append]
        exact ⟨⟨⟨⟨columnPlain, by decide⟩, known _ (not_not.mp isComparator)⟩,
          by decide⟩, knownToo _ (not_not.mp isQuantifier)⟩

theorem renderPlain_agrees {item : ConditionItem}
    (isPlain : ∀ text ∈ item.verbatim, Plain text) :
    BothOk AgreeIfAny (renderPlain unicode item true dialect)
      (renderPlain unicode item false dialect) := by
  unfold renderPlain
  split
  · rfl
  · split
    · rfl
    · rfl
  · exact renderCondition_agrees isPlain

theorem Agrees.inParentheses {bound inline : Rendered} (isPlain : Plain text)
    (agrees : Agrees bound inline) :
    Agrees (text ++ " (" ++ bound.1 ++ ")", bound.2)
      (text ++ " (" ++ inline.1 ++ ")", inline.2) := by
  have opened : Plain (text ++ " (") := by
    simp only [plain_append]
    exact ⟨isPlain, by decide⟩
  have closed : Plain ")" := by
    decide
  obtain ⟨fills, isNone⟩ := agrees
  have inner : Agrees (bound.1, bound.2) (inline.1, []) := ⟨fills, rfl⟩
  rw [isNone]
  exact (inner.after opened).before closed

theorem renderNested_agrees {item : ConditionItem}
    {compiled shown : Except CompileError Rendered}
    (isPlain : ∀ text ∈ item.verbatim, Plain text)
    (subquery : BothOk Agrees compiled shown) :
    BothOk AgreeIfAny (renderNested unicode item true dialect compiled)
      (renderNested unicode item false dialect shown) := by
  have columnPlain : Plain item.column := isPlain _ (by simp [ConditionItem.verbatim])
  have keywordPlain : ∀ negated, Plain (existsKeyword negated) := by
    decide
  unfold renderNested
  split
  · rename_i negated _
    cases compiled with
    | error refused =>
        cases shown with
        | error refused' => exact subquery
        | ok inline => exact subquery
    | ok bound =>
        cases shown with
        | error refused' => exact subquery
        | ok inline => exact Agrees.inParentheses (keywordPlain negated) subquery
  · cases isStart : quantifiedStart unicode item with
    | error refused =>
        rfl
    | ok parts =>
        cases compiled with
        | error refused =>
            cases shown with
            | error refused' => exact subquery
            | ok inline => exact subquery
        | ok bound =>
            cases shown with
            | error refused' => exact subquery
            | ok inline =>
                exact Agrees.inParentheses
                  (plain_quantifiedStart columnPlain isStart) subquery
  · exact renderCondition_agrees isPlain

/-- Lists of fragments that agree. -/
def FragmentListsAgree (bound inline : List String × List Value) : Prop :=
  FragmentsAgree bound.1 bound.2 inline.1 ∧ inline.2 = []

theorem consRendered_agree {first shown : Except CompileError (Option Rendered)}
    {rest shownRest : Except CompileError (List String × List Value)}
    (firstAgree : BothOk AgreeIfAny first shown)
    (restAgree : BothOk FragmentListsAgree rest shownRest) :
    BothOk FragmentListsAgree (consRendered first rest)
      (consRendered shown shownRest) := by
  cases first with
  | error refused =>
      cases shown with
      | error refused' => exact firstAgree
      | ok inline => exact firstAgree.elim
  | ok bound =>
      cases shown with
      | error refused' => exact firstAgree.elim
      | ok inline =>
          cases rest with
          | error refused =>
              cases shownRest with
              | error refused' =>
                  cases bound with
                  | none => exact restAgree
                  | some fragment => exact restAgree
              | ok later => exact restAgree.elim
          | ok fragments =>
              cases shownRest with
              | error refused' => exact restAgree.elim
              | ok later =>
                  cases bound with
                  | none =>
                      cases inline with
                      | none => exact restAgree
                      | some fragment => exact firstAgree.elim
                  | some fragment =>
                      cases inline with
                      | none => exact firstAgree.elim
                      | some shownFragment =>
                          obtain ⟨fills, isNone⟩ := firstAgree
                          exact ⟨FragmentsAgree.cons ⟨fills, rfl⟩ restAgree.1,
                            by simp [isNone, restAgree.2]⟩

/-! ## Statements -/

/-- What HAVING writes out, but for its value. -/
def HavingItem.verbatim (having : HavingItem) : List String :=
  [having.aggregation, having.table, having.column, having.operator]

/-- The texts of a plan's clauses that are written out. -/
def Clauses.verbatim (clauses : Clauses) : List String :=
  clauses.select.flatMap SelectItem.verbatim ++ clauses.baseTable.toList ++
    clauses.joins.flatMap JoinItem.verbatim ++
    clauses.groupBy.flatMap GroupItem.verbatim ++
    clauses.having.toList.flatMap HavingItem.verbatim ++
    clauses.orderBy.flatMap (fun order =>
      order.toList.flatMap OrderItem.verbatim) ++
    clauses.aggregation.toList.flatMap Aggregation.verbatim

/-- The value of HAVING is a number, or anything else but a text. -/
def HavingItem.NotText (having : HavingItem) : Prop :=
  ∀ chars, having.value ≠ .text chars

theorem HavingItem.NotText.shown {having : HavingItem}
    (notText : having.NotText) :
    showHaving having.value = renderLiteral (.scalar having.value) := by
  cases isValue : having.value with
  | text chars => exact absurd isValue (notText chars)
  | null => rfl
  | boolean value => rfl
  | number shown => rfl
  | other shown => rfl

/-- Clauses that agree, both of which are there or neither. -/
def ClausesAgree (bound inline : Rendered) : Prop :=
  Agrees bound inline ∧ (bound.1 = "" ↔ inline.1 = "")

theorem havingClause_agrees {having : Option HavingItem}
    (isPlain : ∀ item, having = some item → ∀ text ∈ item.verbatim, Plain text)
    (notText : ∀ item, having = some item → item.NotText) :
    ClausesAgree (havingClause unicode true dialect having)
      (havingClause unicode false dialect having) := by
  have none : ClausesAgree ("", []) ("", []) :=
    ⟨agrees_text (by decide), Iff.rfl⟩
  unfold havingClause
  split
  · exact none
  · rename_i item
    have itemPlain := isPlain item rfl
    simp only [HavingItem.verbatim, List.forall_mem_cons] at itemPlain
    obtain ⟨aggregation, table, column, operator, _⟩ := itemPlain
    have start : Plain ("HAVING " ++ item.aggregation ++ "(" ++
        ref unicode item.table item.column dialect ++ ") " ++ item.operator ++
        " ") := by
      simp only [plain_append]
      exact ⟨⟨⟨⟨⟨⟨by decide, aggregation⟩, by decide⟩, plain_ref table column⟩,
        by decide⟩, operator⟩, by decide⟩
    split
    · rw [(notText item rfl).shown]
      simp only [if_true, Bool.false_eq_true, if_false]
      refine ⟨(agrees_hole (.scalar item.value)).after start, ?_⟩
      simp
    · exact none

theorem whereClause_agrees {fragments shown : List String} {params : List Value}
    (agree : FragmentsAgree fragments params shown) :
    ClausesAgree
      (if fragments = [] then "" else "WHERE " ++ " AND ".intercalate fragments,
        params)
      (if shown = [] then "" else "WHERE " ++ " AND ".intercalate shown, []) := by
  have joined : Agrees (" AND ".intercalate fragments, params)
      (" AND ".intercalate shown, []) := agree.intercalate (by decide)
  cases agree with
  | nil =>
      exact ⟨agrees_text (by decide), Iff.rfl⟩
  | cons first later =>
      refine ⟨joined.after (by decide), ?_⟩
      simp

theorem ClausesAgree.spaced {bound inline : Rendered}
    (agree : ClausesAgree bound inline) :
    Agrees (DbBuddy.Sql.spaced bound.1, bound.2)
      (DbBuddy.Sql.spaced inline.1, []) := by
  obtain ⟨agrees, sameEmpty⟩ := agree
  unfold DbBuddy.Sql.spaced
  by_cases isEmpty : bound.1 = ""
  · have fills := agrees.1
    rw [if_pos isEmpty, if_pos (sameEmpty.mp isEmpty)]
    rw [isEmpty, sameEmpty.mp isEmpty] at fills
    exact ⟨fills, rfl⟩
  · obtain ⟨fills, isNone⟩ := agrees
    have whole : Agrees (bound.1, bound.2) (inline.1, []) := ⟨fills, rfl⟩
    rw [if_neg isEmpty, if_neg (sameEmpty.not.mp isEmpty)]
    exact whole.after (by decide)

/-- An ordering that is rebuilt takes its texts from the plan's aggregation. -/
theorem plain_rebuildOrder {clauses : Clauses} {orderBy : List (Option OrderItem)}
    (orderPlain : ∀ order, some order ∈ clauses.orderBy →
      ∀ text ∈ order.verbatim, Plain text)
    (aggregationPlain : ∀ plan, clauses.aggregation = some plan →
      ∀ text ∈ plan.verbatim, Plain text)
    (rebuilt : rebuildOrder clauses = .ok orderBy) :
    ∀ order, some order ∈ orderBy → ∀ text ∈ order.verbatim, Plain text := by
  unfold rebuildOrder at rebuilt
  split at rebuilt
  · rename_i order _ isOrder
    rw [isOrder] at orderPlain
    split at rebuilt
    · split at rebuilt
      · cases rebuilt
        exact orderPlain
      · rename_i plan isPlan
        split at rebuilt
        · cases rebuilt
        · rename_i table column isColumn
          cases rebuilt
          have allPlain := aggregationPlain plan isPlan
          simp only [Aggregation.verbatim, isColumn, Option.toList_some,
            List.flatMap_singleton, List.forall_mem_cons] at allPlain
          obtain ⟨function, tablePlain, columnPlain, _⟩ := allPlain
          intro other isOther
          cases List.mem_singleton.mp isOther
          simp only [OrderItem.verbatim, Option.toList_some, List.forall_mem_append,
            List.forall_mem_cons]
          simp [function, tablePlain, columnPlain]
    · cases rebuilt
      exact orderPlain
  · cases rebuilt
    exact orderPlain

/-- The texts of the clauses are plain, clause by clause. -/
structure ClausesPlain (clauses : Clauses) : Prop where
  select : ∀ item ∈ clauses.select, ∀ text ∈ item.verbatim, Plain text
  baseTable : ∀ text ∈ clauses.baseTable, Plain text
  joins : ∀ join ∈ clauses.joins, ∀ text ∈ join.verbatim, Plain text
  groupBy : ∀ group ∈ clauses.groupBy, ∀ text ∈ group.verbatim, Plain text
  having : ∀ item, clauses.having = some item → ∀ text ∈ item.verbatim, Plain text
  orderBy : ∀ order, some order ∈ clauses.orderBy → ∀ text ∈ order.verbatim,
    Plain text
  aggregation : ∀ plan, clauses.aggregation = some plan →
    ∀ text ∈ plan.verbatim, Plain text

theorem Clauses.plain_of_verbatim {clauses : Clauses}
    (isPlain : ∀ text ∈ clauses.verbatim, Plain text) : ClausesPlain clauses := by
  simp only [Clauses.verbatim, List.forall_mem_append, List.mem_flatMap,
    Option.mem_toList, forall_exists_index, and_imp] at isPlain
  obtain ⟨⟨⟨⟨⟨⟨select, baseTable⟩, joins⟩, groupBy⟩, having⟩, orderBy⟩,
    aggregation⟩ := isPlain
  exact
    { select := fun item isItem text isText => select text item isItem isText
      baseTable := baseTable
      joins := fun join isJoin text isText => joins text join isJoin isText
      groupBy := fun group isGroup text isText => groupBy text group isGroup isText
      having := fun item isItem text isText => having text item isItem isText
      orderBy := fun order isOrder text isText =>
        orderBy text (some order) isOrder order rfl isText
      aggregation := fun plan isPlan text isText =>
        aggregation text plan isPlan isText }

/-- WHERE and HAVING bind their values in the order in which they stand. -/
theorem statement_agrees {start groupBy orderBy limit : String}
    {condition inlineCondition having inlineHaving : Rendered}
    (startPlain : Plain start) (groupPlain : Plain groupBy)
    (orderPlain : Plain orderBy) (limitPlain : Plain limit)
    (conditionAgrees : ClausesAgree condition inlineCondition)
    (havingAgrees : ClausesAgree having inlineHaving) :
    Agrees
      (start ++ spaced condition.1 ++ spaced groupBy ++ spaced having.1 ++
        spaced orderBy ++ spaced limit, condition.2 ++ having.2)
      (start ++ spaced inlineCondition.1 ++ spaced groupBy ++
        spaced inlineHaving.1 ++ spaced orderBy ++ spaced limit,
        inlineCondition.2 ++ inlineHaving.2) := by
  have upToHaving := ((conditionAgrees.spaced.after startPlain).before
    (plain_spaced groupPlain)).append havingAgrees.spaced
  rw [conditionAgrees.1.2, havingAgrees.1.2]
  exact (upToHaving.before (plain_spaced orderPlain)).before
    (plain_spaced limitPlain)

/-- The clauses around WHERE and HAVING are the same in both renderings. -/
theorem assemble_agrees {engine : DatabaseEngine} {clauses : Clauses}
    {conditions : List ConditionItem}
    {rendered inlined : Except CompileError (List String × List Value)}
    (isPlain : ClausesPlain clauses)
    (notText : ∀ item, clauses.having = some item → item.NotText)
    (agree : BothOk FragmentListsAgree rendered inlined) :
    BothOk Agrees
      (assemble unicode true engine dialect clauses conditions rendered)
      (assemble unicode false engine dialect clauses conditions inlined) := by
  unfold assemble
  split
  · rfl
  · rename_i orderBy rebuilt
    have orderPlain : ∀ order, some order ∈ orderBy →
        ∀ text ∈ order.verbatim, Plain text :=
      plain_rebuildOrder isPlain.orderBy isPlain.aggregation rebuilt
    have basePlain : Plain (clauses.baseTable.getD "None") := by
      cases isBase : clauses.baseTable with
      | none => decide
      | some baseTable => exact isPlain.baseTable baseTable isBase
    dsimp only
    split
    · rfl
    · cases rendered with
      | error refused =>
          cases inlined with
          | error refused' => exact agree
          | ok shown => exact agree.elim
      | ok bound =>
          cases inlined with
          | error refused' => exact agree.elim
          | ok shown =>
              obtain ⟨fragments, params⟩ := bound
              obtain ⟨shownFragments, shownParams⟩ := shown
              obtain ⟨fragmentsAgree, isNone⟩ := agree
              dsimp only at fragmentsAgree isNone ⊢
              split
              · rfl
              · have start : Plain ("SELECT " ++
                    (limitClauses engine clauses.limit).1 ++
                    selectClause unicode dialect clauses.select ++ " FROM " ++
                    quote unicode (clauses.baseTable.getD "None") dialect ++
                    spaced (joinClause unicode dialect clauses.joins)) := by
                  simp only [plain_append]
                  exact ⟨⟨⟨⟨⟨by decide, (plain_limitClauses _ _).1⟩,
                    plain_selectClause isPlain.select⟩, by decide⟩,
                    plain_quote basePlain⟩,
                    plain_spaced (plain_joinClause isPlain.joins)⟩
                have groupPlain : Plain (groupByClause unicode dialect
                    clauses.groupBy) := plain_groupByClause isPlain.groupBy
                have orderClausePlain : Plain (orderByClause unicode dialect
                    clauses.aggregation clauses.groupBy orderBy) :=
                  plain_orderByClause orderPlain isPlain.aggregation
                have havingAgrees : ClausesAgree
                    (havingClause unicode true dialect clauses.having)
                    (havingClause unicode false dialect clauses.having) :=
                  havingClause_agrees isPlain.having notText
                have whole := statement_agrees start groupPlain orderClausePlain
                  (plain_limitClauses engine clauses.limit).2
                  (whereClause_agrees fragmentsAgree) havingAgrees
                rw [isNone]
                exact whole

end Agreement

/-! ## Plans and the plans of their subqueries -/

mutual

/-- What a plan writes out as it stands, in its subqueries too. -/
def Plan.verbatim : Plan → List String
  | .mk clauses conditions => clauses.verbatim ++ conditions.verbatim

def Conditions.verbatim : Conditions → List String
  | .nil => []
  | .plain item rest => item.verbatim ++ rest.verbatim
  | .nested item subquery rest =>
      item.verbatim ++ subquery.verbatim ++ rest.verbatim

end

mutual

/-- The HAVING of a plan and of its subqueries. -/
def Plan.havings : Plan → List HavingItem
  | .mk clauses conditions => clauses.having.toList ++ conditions.havings

def Conditions.havings : Conditions → List HavingItem
  | .nil => []
  | .plain _ rest => rest.havings
  | .nested _ subquery rest => subquery.havings ++ rest.havings

end

section Plans

variable (unicode : Unicode) (installed : DatabaseEngine → Bool)

mutual

theorem compileSql_agrees (engine : DatabaseEngine) :
    (plan : Plan) → (∀ text ∈ plan.verbatim, Plain text) →
      (∀ having ∈ plan.havings, having.NotText) →
      BothOk Agrees (compileSql unicode installed true engine plan)
        (compileSql unicode installed false engine plan)
  | .mk clauses conditions, isPlain, notText => by
      simp only [Plan.verbatim, List.forall_mem_append] at isPlain
      simp only [Plan.havings, List.forall_mem_append, Option.mem_toList] at notText
      unfold compileSql
      exact assemble_agrees (Clauses.plain_of_verbatim isPlain.1) notText.1
        (renderConditions_agree (dialectOf installed engine) conditions isPlain.2
          notText.2)

theorem renderConditions_agree (dialect : Option DatabaseEngine) :
    (conditions : Conditions) → (∀ text ∈ conditions.verbatim, Plain text) →
      (∀ having ∈ conditions.havings, having.NotText) →
      BothOk FragmentListsAgree
        (renderConditions unicode installed true dialect conditions)
        (renderConditions unicode installed false dialect conditions)
  | .nil, _, _ => by
      unfold renderConditions
      exact ⟨FragmentsAgree.nil, rfl⟩
  | .plain item rest, isPlain, notText => by
      simp only [Conditions.verbatim, List.forall_mem_append] at isPlain
      simp only [Conditions.havings] at notText
      have quoted : ∀ text ∈ (quoteCondition unicode dialect item).verbatim,
          Plain text := plain_quoteCondition isPlain.1
      have first : BothOk AgreeIfAny
          (renderPlain unicode (quoteCondition unicode dialect item) true dialect)
          (renderPlain unicode (quoteCondition unicode dialect item) false dialect) :=
        renderPlain_agrees quoted
      have later := renderConditions_agree dialect rest isPlain.2 notText
      unfold renderConditions
      exact consRendered_agree first later
  | .nested item subquery rest, isPlain, notText => by
      simp only [Conditions.verbatim, List.forall_mem_append] at isPlain
      simp only [Conditions.havings, List.forall_mem_append] at notText
      obtain ⟨⟨itemPlain, subqueryPlain⟩, restPlain⟩ := isPlain
      unfold renderConditions
      exact consRendered_agree
        (renderNested_agrees (plain_quoteCondition itemPlain)
          (compileSql_agrees (dialect.getD .mysql) subquery subqueryPlain notText.1))
        (renderConditions_agree dialect rest restPlain notText.2)

end

end Plans

/-- The placeholders are as many as the values to bind, and the values' literals in
the places of the placeholders, from left to right, make the text that is shown. -/
def RenderingsAgree (bound inline : Rendered) : Prop :=
  holes bound.1.toList = bound.2.length ∧
    fill literal bound.1.toList bound.2 = some inline.1.toList ∧ inline.2 = []

instance (bound inline : Rendered) : Decidable (RenderingsAgree bound inline) :=
  inferInstanceAs (Decidable (_ ∧ _ ∧ _))

theorem Agrees.renderingsAgree {bound inline : Rendered}
    (agrees : Agrees bound inline) : RenderingsAgree bound inline :=
  ⟨agrees.1.holes_eq, agrees.1.fill_eq, agrees.2⟩

/-- Every plan is refused in both renderings for the same reason, or compiled to two
renderings that agree. -/
theorem renderings_agree (unicode : Unicode) (installed : DatabaseEngine → Bool)
    (engine : DatabaseEngine) (plan : Option Plan)
    (isPlain : ∀ present ∈ plan, ∀ text ∈ present.verbatim, Plain text)
    (notText : ∀ present ∈ plan, ∀ having ∈ present.havings, having.NotText) :
    BothOk RenderingsAgree
      (compileExecutionPlan unicode installed true engine plan)
      (compileExecutionPlan unicode installed false engine plan) := by
  cases plan with
  | none =>
      rfl
  | some present =>
      have agree := compileSql_agrees unicode installed engine present
        (isPlain present rfl) (notText present rfl)
      exact agree.imp fun _ _ => Agrees.renderingsAgree

/-! ### A plan with subqueries -/

namespace Shop

def everyColumn : SelectItem :=
  { table := "", column := "*", aliasName := "", aggregation := "" }

/-- `SELECT *` of one table. -/
def fromTable (baseTable : String) : Clauses :=
  { select := [everyColumn]
    baseTable := some baseTable
    joins := []
    groupBy := []
    having := none
    orderBy := []
    orderIsList := true
    aggregation := none
    limit := none }

def compare (table column operator : String) (value : Value) : ConditionItem :=
  { table := table
    column := column
    operator := some operator
    columnRef := none
    value := some value
    values := none
    comparator := none
    quantifier := "" }

def number (shown : String) : Value :=
  .scalar (.number shown)

/-- Orders of good customers and with some paid line, by their value. -/
def orders : Plan :=
  .mk { fromTable "orders" with
      having := some
        { aggregation := "SUM"
          table := "orders"
          column := "total"
          operator := ">"
          value := .number "100" } }
    (.plain (compare "orders" "status" "IN"
        (.items .list [.text "paid", .text "it's"] "['paid', \"it's\"]"))
      (.nested (compare "" "" "EXISTS" (number "0"))
        (.mk (fromTable "lines")
          (.plain (compare "lines" "price" "BETWEEN"
            (.items .list [.number "1", .number "9"] "[1, 9]")) .nil))
        (.plain (compare "orders" "city" "ILIKE" (.scalar (.text "a%s"))) .nil)))

end Shop

theorem renderings_agree_orders :
    BothOk RenderingsAgree
      (compileExecutionPlan ascii (fun _ => true) true .mysql (some Shop.orders))
      (compileExecutionPlan ascii (fun _ => true) false .mysql
        (some Shop.orders)) := by
  have isPlain : ∀ text ∈ Shop.orders.verbatim, Plain text := by
    decide
  have havings : Shop.orders.havings =
      [⟨"SUM", "orders", "total", ">", .number "100"⟩] := by
    rfl
  refine renderings_agree ascii (fun _ => true) .mysql (some Shop.orders) ?_ ?_
  · intro present isPresent
    cases isPresent
    exact isPlain
  · intro present isPresent having isHaving chars
    cases isPresent
    rw [havings] at isHaving
    cases List.mem_singleton.mp isHaving
    exact Scalar.noConfusion

/-! ### A pattern in an ON text -/

namespace Shop

/-- Orders above some value, joined with special items. -/
def specialItems : Plan :=
  .mk { fromTable "orders" with
      joins := [
        { leftTable := none
          rightTable := none
          leftKey := ""
          rightKey := ""
          table := "items"
          on := "items.kind LIKE '%special%'"
          type := "JOIN" }] }
    (.plain (compare "orders" "total" ">" (number "10")) .nil)

end Shop

/-- An ON text is taken over as it stands, with what looks like a placeholder. -/
theorem renderings_differ :
    ¬ BothOk RenderingsAgree
      (compileExecutionPlan ascii (fun _ => true) true .mysql
        (some Shop.specialItems))
      (compileExecutionPlan ascii (fun _ => true) false .mysql
        (some Shop.specialItems)) := by
  have bound : compileExecutionPlan ascii (fun _ => true) true .mysql
      (some Shop.specialItems) =
      .ok ("SELECT * FROM orders JOIN items ON " ++
        "items.kind LIKE '%special%' WHERE orders.total > %s",
        [Shop.number "10"]) := by
    rfl
  have inline : compileExecutionPlan ascii (fun _ => true) false .mysql
      (some Shop.specialItems) =
      .ok ("SELECT * FROM orders JOIN items ON " ++
        "items.kind LIKE '%special%' WHERE orders.total > 10", []) := by
    rfl
  have twoHoles : holes ("SELECT * FROM orders JOIN items ON " ++
      "items.kind LIKE '%special%' WHERE orders.total > %s").toList = 2 := by
    rfl
  rw [bound, inline]
  rintro ⟨oneHole, -⟩
  dsimp only at oneHole
  rw [twoHoles] at oneHole
  cases oneHole

end DbBuddy.Sql
