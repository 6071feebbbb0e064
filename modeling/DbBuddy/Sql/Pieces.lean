import DbBuddy.Sql.Compiler

/-!
# What a plan is written with, piece by piece

Both renderings of a plan are made of the same pieces: texts that stand as they
are, and values, which one rendering binds and the other writes out.
-/

namespace DbBuddy.Sql

open DbBuddy.Library DbBuddy.Dialects

/-- A piece of a statement.  The value of HAVING is written out in its own way. -/
inductive Piece where
  | text (shown : String)
  | operand (value : Value)
  | having (value : Scalar)
  deriving DecidableEq, Repr

namespace Piece

def shown (parameterize : Bool) : Piece → String
  | .text shown => shown
  | .operand value => if parameterize then "%s" else renderLiteral value
  | .having value => if parameterize then "%s" else showHaving value

def params : Piece → List Value
  | .text _ => []
  | .operand value => [value]
  | .having value => [.scalar value]

end Piece

/-! ## Rendering -/

def showPieces (parameterize : Bool) : List Piece → String
  | [] => ""
  | piece :: rest => piece.shown parameterize ++ showPieces parameterize rest

/-- The values of pieces, from left to right. -/
def valuesOf (pieces : List Piece) : List Value :=
  pieces.flatMap Piece.params

def renderPieces (parameterize : Bool) (pieces : List Piece) : Rendered :=
  (showPieces parameterize pieces, if parameterize then valuesOf pieces else [])

/-- Pieces with a text between each two lists of them. -/
def between (separator : String) : List (List Piece) → List Piece
  | [] => []
  | [last] => last
  | first :: rest => first ++ .text separator :: between separator rest

section Rendering

variable {parameterize : Bool} {first later : List Piece}

@[simp] theorem showPieces_nil : showPieces parameterize [] = "" := by
  rfl

@[simp] theorem showPieces_cons (piece : Piece) (rest : List Piece) :
    showPieces parameterize (piece :: rest) =
      piece.shown parameterize ++ showPieces parameterize rest := by
  rfl

@[simp] theorem showPieces_append :
    showPieces parameterize (first ++ later) =
      showPieces parameterize first ++ showPieces parameterize later := by
  induction first with
  | nil =>
      simp
  | cons piece rest inductionHypothesis =>
      rw [List.cons_append, showPieces_cons, showPieces_cons, inductionHypothesis,
        String.append_assoc]

@[simp] theorem valuesOf_append :
    valuesOf (first ++ later) = valuesOf first ++ valuesOf later := by
  simp [valuesOf]

@[simp] theorem valuesOf_nil : valuesOf [] = [] := by
  rfl

@[simp] theorem valuesOf_text (shown : String) (rest : List Piece) :
    valuesOf (.text shown :: rest) = valuesOf rest := by
  rfl

@[simp] theorem valuesOf_operand (value : Value) (rest : List Piece) :
    valuesOf (.operand value :: rest) = value :: valuesOf rest := by
  rfl

@[simp] theorem valuesOf_having (value : Scalar) (rest : List Piece) :
    valuesOf (.having value :: rest) = .scalar value :: valuesOf rest := by
  rfl

theorem between_cons (separator : String) {rest : List (List Piece)}
    (notLast : rest ≠ []) :
    between separator (first :: rest) =
      first ++ .text separator :: between separator rest := by
  cases rest with
  | nil => exact absurd rfl notLast
  | cons second others => rfl

theorem showPieces_between (separator : String) (fragments : List (List Piece)) :
    showPieces parameterize (between separator fragments) =
      separator.intercalate (fragments.map (showPieces parameterize)) := by
  induction fragments with
  | nil =>
      rw [between, List.map_nil, String.intercalate_nil, showPieces_nil]
  | cons fragment rest inductionHypothesis =>
      by_cases isLast : rest = []
      · rw [isLast, between, List.map_cons, List.map_nil,
          String.intercalate_singleton]
      · have notLast : rest.map (showPieces parameterize) ≠ [] := by
          simpa using isLast
        rw [between_cons separator isLast, showPieces_append, showPieces_cons,
          inductionHypothesis, List.map_cons,
          String.intercalate_cons_of_ne_nil notLast, Piece.shown,
          String.append_assoc]

theorem valuesOf_between (separator : String) (fragments : List (List Piece)) :
    valuesOf (between separator fragments) = fragments.flatMap valuesOf := by
  induction fragments with
  | nil =>
      rfl
  | cons fragment rest inductionHypothesis =>
      by_cases isLast : rest = []
      · simp [isLast, between]
      · rw [between_cons separator isLast, valuesOf_append, valuesOf_text,
          inductionHypothesis, List.flatMap_cons]

end Rendering

section Pieces

variable (unicode : Unicode)

/-! ## Conditions -/

def ilikePieces (dialect : Option DatabaseEngine) (column : String)
    (rhs : Piece) : List Piece :=
  if dialect.any fun engine => engine.capabilities.supportsIlike then
    [.text (column ++ " ILIKE "), rhs]
  else [.text ("LOWER(" ++ column ++ ") LIKE LOWER("), rhs, .text ")"]

/-- What an operator is written with, if it is not refused. -/
def Operator.pieces (operator : Operator) (dialect : Option DatabaseEngine)
    (column : String) (value : Value) : List Piece :=
  match operator with
  | .binary _ sql =>
      if value = .scalar .null then [.text (column ++ " " ++ sql ++ " NULL")]
      else [.text (column ++ " " ++ sql ++ " "), .operand value]
  | .unary sql => [.text (column ++ " " ++ sql)]
  | .range _ sql =>
      match value with
      | .items _ [low, high] _ =>
          [.text (column ++ " " ++ sql ++ " "), .operand (.scalar low), .text " AND ",
            .operand (.scalar high)]
      | _ => []
  | .set _ sql negated =>
      if setValues value = [] then [.text (if negated then "1=1" else "1=0")]
      else
        .text (column ++ " " ++ sql ++ " (") ::
          (between ", " ((setValues value).map fun member => [.operand member]) ++
            [.text ")"])
  | .ilike =>
      ilikePieces dialect column
        (if value = .scalar .null then .text "NULL" else .operand value)

def conditionPieces (dialect : Option DatabaseEngine) (item : ConditionItem) :
    Option (List Piece) :=
  if item.column = "" then none
  else
    let operator := item.operator.getD "="
    match item.columnRef with
    | some reference =>
        some [.text (item.column ++ " " ++ operator ++ " " ++ reference)]
    | none =>
        let value := (item.value.or item.values).getD (.scalar (.text ""))
        let coerced :=
          if value = .scalar .null then
            if operator = "=" then "IS NULL"
            else if operator = "!=" ∨ operator = "<>" then "IS NOT NULL"
            else operator
          else operator
        some ((getOperator unicode coerced).pieces dialect item.column value)

def plainPieces (dialect : Option DatabaseEngine) (item : ConditionItem) :
    Option (List Piece) :=
  match predicateKind unicode item with
  | .condition => conditionPieces unicode dialect item
  | _ => none

/-- The pieces of a subquery, with what stands in front of its brackets. -/
def inBrackets (start : String) (pieces : List Piece) : List Piece :=
  .text (start ++ " (") :: (pieces ++ [.text ")"])

def nestedPieces (dialect : Option DatabaseEngine) (item : ConditionItem)
    (subquery : List Piece) : Option (List Piece) :=
  match predicateKind unicode item with
  | .existence negated => some (inBrackets (existsKeyword negated) subquery)
  | .quantified =>
      match quantifiedStart unicode item with
      | .error _ => none
      | .ok (start, _) => some (inBrackets start subquery)
  | .condition => conditionPieces unicode dialect item

/-! ## Statements -/

def havingPieces (dialect : Option DatabaseEngine) (having : Option HavingItem) :
    List Piece :=
  match having with
  | none => []
  | some item =>
      if item.aggregation ≠ "" ∧ item.table ≠ "" ∧ item.column ≠ "" ∧
          item.operator ≠ "" ∧ item.value ≠ .null then
        [.text (" HAVING " ++ item.aggregation ++ "(" ++
          ref unicode item.table item.column dialect ++ ") " ++ item.operator ++
          " "), .having item.value]
      else []

def wherePieces (fragments : List (List Piece)) : List Piece :=
  if fragments = [] then [] else .text " WHERE " :: between " AND " fragments

/-- The pieces of a statement, given those of its conditions. -/
def statementPieces (engine : DatabaseEngine) (dialect : Option DatabaseEngine)
    (clauses : Clauses) (fragments : List (List Piece)) : List Piece :=
  match rebuildOrder clauses with
  | .error _ => []
  | .ok orderBy =>
      let (top, limit) := limitClauses engine clauses.limit
      .text ("SELECT " ++ top ++ selectClause unicode dialect clauses.select ++
          " FROM " ++ quote unicode (clauses.baseTable.getD "None") dialect ++
          spaced (joinClause unicode dialect clauses.joins)) ::
        (wherePieces fragments ++
          .text (spaced (groupByClause unicode dialect clauses.groupBy)) ::
          (havingPieces unicode dialect clauses.having ++
            [.text (spaced (orderByClause unicode dialect clauses.aggregation
              clauses.groupBy orderBy) ++ spaced limit)]))

variable (installed : DatabaseEngine → Bool)

mutual

/-- What a plan is written with, if it is not refused. -/
def Plan.pieces (engine : DatabaseEngine) : Plan → List Piece
  | .mk clauses conditions =>
      statementPieces unicode engine (dialectOf installed engine) clauses
        (conditions.fragments (dialectOf installed engine))

def Conditions.fragments (dialect : Option DatabaseEngine) :
    Conditions → List (List Piece)
  | .nil => []
  | .plain item rest =>
      (plainPieces unicode dialect (quoteCondition unicode dialect item)).toList ++
        rest.fragments dialect
  | .nested item subquery rest =>
      (nestedPieces unicode dialect (quoteCondition unicode dialect item)
        (subquery.pieces (dialect.getD .mysql))).toList ++ rest.fragments dialect

end

end Pieces

/-! ## The compiler renders the pieces -/

/-- Both renderings are refused for the same reason, or are those of the pieces. -/
def Renders {α β : Type} (rendering : Bool → α → β)
    (result : Bool → Except CompileError β) (pieces : α) : Prop :=
  (∃ refused, ∀ parameterize, result parameterize = .error refused) ∨
    ∀ parameterize, result parameterize = .ok (rendering parameterize pieces)

/-- The rendering of what may not be there. -/
def renderIfAny (parameterize : Bool) (pieces : Option (List Piece)) :
    Option Rendered :=
  pieces.map (renderPieces parameterize)

/-- The rendering of fragments: their texts, and all that is bound. -/
def renderAll (parameterize : Bool) (fragments : List (List Piece)) :
    List String × List Value :=
  (fragments.map (showPieces parameterize),
    if parameterize then fragments.flatMap valuesOf else [])

section Renders

variable {unicode : Unicode} {dialect : Option DatabaseEngine}

theorem ilikePieces_renders (dialect : Option DatabaseEngine) (column : String)
    (rhs : Piece) (parameterize : Bool) :
    ilikeFragment dialect column (rhs.shown parameterize) =
        showPieces parameterize (ilikePieces dialect column rhs) ∧
      valuesOf (ilikePieces dialect column rhs) = rhs.params := by
  cases dialect with
  | none =>
      simp [ilikeFragment, ilikePieces, Piece.shown, valuesOf, Piece.params,
        String.append_assoc]
  | some engine =>
      cases isSupported : engine.capabilities.supportsIlike with
      | true =>
          simp [ilikeFragment, DatabaseEngine.renderIlike, ilikePieces, isSupported,
            Piece.shown, valuesOf, Piece.params, String.append_assoc]
      | false =>
          simp [ilikeFragment, DatabaseEngine.renderIlike, ilikePieces, isSupported,
            Piece.shown, valuesOf, Piece.params, String.append_assoc]

theorem operands_renders (values : List Value) (parameterize : Bool) :
    renderEach parameterize values =
      ((values.map fun member => [Piece.operand member]).map
          (showPieces parameterize),
        if parameterize then values else []) := by
  have members : (values.map fun member => [Piece.operand member]).map
      (showPieces parameterize) =
      values.map fun member => Piece.shown parameterize (.operand member) := by
    rw [List.map_map]
    exact List.map_congr_left fun member _ => String.append_empty
  rw [members]
  cases parameterize with
  | true => rfl
  | false => rfl

theorem valuesOf_operands (values : List Value) :
    (values.map fun member => [Piece.operand member]).flatMap valuesOf = values := by
  induction values with
  | nil =>
      rfl
  | cons value rest inductionHypothesis =>
      rw [List.map_cons, List.flatMap_cons, inductionHypothesis]
      rfl

/-- Each operator renders its pieces. -/
theorem Operator.render_pieces (operator : Operator) (column : String)
    (value : Value) :
    Renders renderPieces (fun parameterize =>
        operator.render column value parameterize dialect)
      (operator.pieces dialect column value) := by
  cases operator with
  | binary token sql =>
      refine .inr fun parameterize => ?_
      simp only [Operator.render, Operator.pieces]
      split
      · simp [renderPieces, Piece.shown, valuesOf, Piece.params]
      · cases parameterize with
        | true =>
            simp [renderPieces, renderOne, Piece.shown, String.append_assoc]
        | false =>
            simp [renderPieces, renderOne, Piece.shown, String.append_assoc]
  | unary sql =>
      refine .inr fun parameterize => ?_
      simp [Operator.render, Operator.pieces, renderPieces, Piece.shown, valuesOf,
        Piece.params]
  | range token sql =>
      simp only [Operator.render, Operator.pieces]
      split
      · rename_i kind low high shown
        split
        · exact .inl ⟨_, fun _ => rfl⟩
        · refine .inr fun parameterize => ?_
          cases parameterize with
          | true =>
              simp [renderPieces, renderOne, Piece.shown, String.append_assoc]
          | false =>
              simp [renderPieces, renderOne, Piece.shown, String.append_assoc]
      · exact .inl ⟨_, fun _ => rfl⟩
  | set token sql negated =>
      simp only [Operator.render, Operator.pieces]
      split
      · refine .inr fun parameterize => ?_
        simp [renderPieces, Piece.shown, valuesOf, Piece.params]
      · split
        · exact .inl ⟨_, fun _ => rfl⟩
        · refine .inr fun parameterize => ?_
          dsimp only
          rw [operands_renders]
          simp [renderPieces, Piece.shown, showPieces_between, valuesOf_between,
            valuesOf_operands, String.append_assoc]
  | ilike =>
      refine .inr fun parameterize => ?_
      simp only [Operator.render, Operator.pieces]
      obtain ⟨shown, bound⟩ := ilikePieces_renders dialect column
        (if value = .scalar .null then .text "NULL" else .operand value) parameterize
      rw [renderPieces, ← shown, bound]
      split
      · simp [Piece.shown, Piece.params]
      · cases parameterize with
        | true => rfl
        | false => rfl

theorem Renders.map_some {result : Bool → Except CompileError Rendered}
    {pieces : List Piece} (renders : Renders renderPieces result pieces) :
    Renders renderIfAny (fun parameterize => (result parameterize).map some)
      (some pieces) := by
  rcases renders with ⟨refused, isRefused⟩ | isRendered
  · exact .inl ⟨refused, fun parameterize => by
      simp only [isRefused parameterize]; rfl⟩
  · exact .inr fun parameterize => by
      simp only [isRendered parameterize]; rfl

theorem renderCondition_pieces (item : ConditionItem) :
    Renders renderIfAny (fun parameterize =>
        renderCondition unicode item parameterize dialect)
      (conditionPieces unicode dialect item) := by
  unfold renderCondition conditionPieces
  split
  · exact .inr fun _ => rfl
  · dsimp only
    cases item.columnRef with
    | some reference =>
        refine .inr fun parameterize => ?_
        cases parameterize with
        | true =>
            simp [renderIfAny, renderPieces, Piece.shown, valuesOf, Piece.params]
        | false => simp [renderIfAny, renderPieces, Piece.shown]
    | none => exact (Operator.render_pieces _ _ _).map_some

theorem renderPlain_pieces (item : ConditionItem) :
    Renders renderIfAny (fun parameterize =>
        renderPlain unicode item parameterize dialect)
      (plainPieces unicode dialect item) := by
  unfold renderPlain plainPieces
  cases predicateKind unicode item with
  | existence negated => exact .inl ⟨_, fun _ => rfl⟩
  | quantified =>
      cases quantifiedStart unicode item with
      | error refused => exact .inl ⟨refused, fun _ => rfl⟩
      | ok parts => exact .inl ⟨_, fun _ => rfl⟩
  | condition => exact renderCondition_pieces item

theorem renderPieces_inBrackets (start : String) (pieces : List Piece)
    (parameterize : Bool) :
    renderPieces parameterize (inBrackets start pieces) =
      (start ++ " (" ++ (renderPieces parameterize pieces).1 ++ ")",
        (renderPieces parameterize pieces).2) := by
  simp [renderPieces, inBrackets, Piece.shown, String.append_assoc]

theorem renderNested_pieces (item : ConditionItem)
    {compiled : Bool → Except CompileError Rendered} {pieces : List Piece}
    (subquery : Renders renderPieces compiled pieces) :
    Renders renderIfAny (fun parameterize =>
        renderNested unicode item parameterize dialect (compiled parameterize))
      (nestedPieces unicode dialect item pieces) := by
  unfold renderNested nestedPieces
  cases predicateKind unicode item with
  | existence negated =>
      rcases subquery with ⟨refused, isRefused⟩ | isRendered
      · refine .inl ⟨refused, fun parameterize => ?_⟩
        simp only [isRefused parameterize]
      · refine .inr fun parameterize => ?_
        simp only [isRendered parameterize, renderIfAny, Option.map_some,
          renderPieces_inBrackets]
  | quantified =>
      cases quantifiedStart unicode item with
      | error refused => exact .inl ⟨refused, fun _ => rfl⟩
      | ok parts =>
          rcases subquery with ⟨refused, isRefused⟩ | isRendered
          · refine .inl ⟨refused, fun parameterize => ?_⟩
            simp only [isRefused parameterize]
          · refine .inr fun parameterize => ?_
            simp only [isRendered parameterize, renderIfAny, Option.map_some,
              renderPieces_inBrackets]
  | condition => exact renderCondition_pieces item

theorem consRendered_pieces {first : Bool → Except CompileError (Option Rendered)}
    {rest : Bool → Except CompileError (List String × List Value)}
    {fragment : Option (List Piece)} {fragments : List (List Piece)}
    (firstRenders : Renders renderIfAny first fragment)
    (restRenders : Renders renderAll rest fragments) :
    Renders renderAll (fun parameterize =>
        consRendered (first parameterize) (rest parameterize))
      (fragment.toList ++ fragments) := by
  rcases firstRenders with ⟨refused, isRefused⟩ | isFirst
  · exact .inl ⟨refused, fun parameterize => by
      simp only [isRefused parameterize]; rfl⟩
  · rcases restRenders with ⟨refused, isRefused⟩ | isRest
    · refine .inl ⟨refused, fun parameterize => ?_⟩
      simp only [isFirst parameterize, isRefused parameterize]
      rfl
    · refine .inr fun parameterize => ?_
      simp only [isFirst parameterize, isRest parameterize]
      cases fragment with
      | none => rfl
      | some pieces =>
          cases parameterize with
          | true => rfl
          | false => rfl

/-- A clause and the blank in front of it. -/
theorem blank_append (text : String) :
    " " ++ ("HAVING " ++ text) = " HAVING " ++ text ∧
      " " ++ ("WHERE " ++ text) = " WHERE " ++ text := by
  rw [← String.append_assoc, ← String.append_assoc]
  exact ⟨rfl, rfl⟩

theorem havingPieces_renders (unicode : Unicode) (dialect : Option DatabaseEngine)
    (having : Option HavingItem) (parameterize : Bool) :
    spaced (havingClause unicode parameterize dialect having).1 =
        showPieces parameterize (havingPieces unicode dialect having) ∧
      (havingClause unicode parameterize dialect having).2 =
        if parameterize then valuesOf (havingPieces unicode dialect having)
        else [] := by
  unfold havingClause havingPieces
  cases having with
  | none =>
      simp [spaced]
  | some item =>
      dsimp only
      split
      · cases parameterize with
        | true =>
            simp [spaced, Piece.shown, String.append_assoc, (blank_append _).1]
        | false =>
            simp [spaced, Piece.shown, String.append_assoc, (blank_append _).1]
      · simp [spaced]

theorem wherePieces_renders (fragments : List (List Piece)) (parameterize : Bool) :
    spaced (if fragments.map (showPieces parameterize) = [] then ""
        else "WHERE " ++
          " AND ".intercalate (fragments.map (showPieces parameterize))) =
        showPieces parameterize (wherePieces fragments) ∧
      valuesOf (wherePieces fragments) = fragments.flatMap valuesOf := by
  unfold wherePieces
  by_cases isEmpty : fragments = []
  · simp [isEmpty, spaced]
  · simp [isEmpty, spaced, Piece.shown, showPieces_between, valuesOf_between,
      (blank_append _).2]

/-- The statement around the conditions. -/
theorem assemble_pieces {engine : DatabaseEngine} {clauses : Clauses}
    {conditions : List ConditionItem}
    {rendered : Bool → Except CompileError (List String × List Value)}
    {fragments : List (List Piece)}
    (renders : Renders renderAll rendered fragments) :
    Renders renderPieces (fun parameterize =>
        assemble unicode parameterize engine dialect clauses conditions
          (rendered parameterize))
      (statementPieces unicode engine dialect clauses fragments) := by
  unfold assemble statementPieces
  cases rebuildOrder clauses with
  | error refused =>
      exact .inl ⟨refused, fun _ => rfl⟩
  | ok orderBy =>
      dsimp only
      split
      · exact .inl ⟨_, fun _ => rfl⟩
      · rcases renders with ⟨refused, isRefused⟩ | isRendered
        · refine .inl ⟨refused, fun parameterize => ?_⟩
          simp only [isRefused parameterize]
        · cases assertTablesInScope unicode (clauses.baseTable.getD "None") clauses
            conditions orderBy with
          | error refused =>
              refine .inl ⟨refused, fun parameterize => ?_⟩
              simp only [isRendered parameterize]
          | ok inScope =>
              refine .inr fun parameterize => ?_
              obtain ⟨having, bound⟩ :=
                havingPieces_renders unicode dialect clauses.having parameterize
              obtain ⟨condition, conditionBound⟩ :=
                wherePieces_renders fragments parameterize
              simp only [isRendered parameterize, renderAll]
              rw [condition, having, bound]
              cases parameterize with
              | true =>
                  simp [renderPieces, Piece.shown, conditionBound,
                    String.append_assoc]
              | false =>
                  simp [renderPieces, Piece.shown, String.append_assoc]

end Renders

section Plans

variable (unicode : Unicode) (installed : DatabaseEngine → Bool)

mutual

/-- A plan is compiled to the renderings of its pieces, or refused. -/
theorem compileSql_pieces (engine : DatabaseEngine) : (plan : Plan) →
    Renders renderPieces
      (fun parameterize => compileSql unicode installed parameterize engine plan)
      (plan.pieces unicode installed engine)
  | .mk clauses conditions => by
      unfold compileSql Plan.pieces
      exact assemble_pieces
        (renderConditions_fragments (dialectOf installed engine) conditions)

theorem renderConditions_fragments (dialect : Option DatabaseEngine) :
    (conditions : Conditions) →
    Renders renderAll
      (fun parameterize =>
        renderConditions unicode installed parameterize dialect conditions)
      (conditions.fragments unicode installed dialect)
  | .nil => by
      unfold renderConditions Conditions.fragments
      exact .inr fun parameterize => by cases parameterize <;> rfl
  | .plain item rest => by
      unfold renderConditions Conditions.fragments
      exact consRendered_pieces (renderPlain_pieces _)
        (renderConditions_fragments dialect rest)
  | .nested item subquery rest => by
      unfold renderConditions Conditions.fragments
      exact consRendered_pieces
        (renderNested_pieces _ (compileSql_pieces (dialect.getD .mysql) subquery))
        (renderConditions_fragments dialect rest)

end

/-- A plan that is compiled with placeholders is compiled without them too. -/
theorem compileSql_ok {engine : DatabaseEngine} {plan : Plan} {bound : Rendered}
    (compiled : compileSql unicode installed true engine plan = .ok bound) :
    bound = renderPieces true (plan.pieces unicode installed engine) ∧
      compileSql unicode installed false engine plan =
        .ok (renderPieces false (plan.pieces unicode installed engine)) := by
  rcases compileSql_pieces unicode installed engine plan with
    ⟨refused, isRefused⟩ | isRendered
  · have isError := isRefused true
    dsimp only at isError
    rw [compiled] at isError
    cases isError
  · have isOk := isRendered true
    dsimp only at isOk
    rw [compiled] at isOk
    exact ⟨Except.ok.inj isOk, isRendered false⟩

end Plans

end DbBuddy.Sql
