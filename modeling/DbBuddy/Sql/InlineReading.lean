import DbBuddy.Sql.Agreement
import DbBuddy.Sql.Literals
import DbBuddy.Sql.Pieces

/-!
# What the text with literals says

The text with the values written out is stored and executed later.  An engine that
reads it should come across the same statement as in the text with placeholders,
and across the bound value wherever that has a placeholder.
-/

namespace DbBuddy.Sql

open DbBuddy.Library DbBuddy.Dialects

/-! ## Reading one text along the other -/

/-- The engine reads a text as one with placeholders says: the same characters, and
in the places of the placeholders literals of the values. -/
def readsAs (page : CodePage) (engine : DatabaseEngine) :
    List Char → List Value → List Char → Bool
  | [], values, inline => values.isEmpty && inline.isEmpty
  | '%' :: 's' :: rest, values, inline =>
      match values with
      | .scalar value :: later =>
          match readLiteral page engine inline with
          | some (constant, after) =>
              decide (value = constant) && readsAs page engine rest later after
          | none => false
      | _ => false
  | '%' :: _, _, _ => false
  | char :: rest, values, inline =>
      match inline with
      | next :: after => decide (char = next) && readsAs page engine rest values after
      | [] => false

/-- The text without placeholders denotes the statement with its values bound.
Without values there is nothing to replace. -/
def Denotes (page : CodePage) (engine : DatabaseEngine) (bound : Rendered)
    (inline : String) : Prop :=
  (bound.2 = [] ∧ inline = bound.1) ∨
    (bound.2 ≠ [] ∧ readsAs page engine bound.1.toList bound.2 inline.toList = true)

instance (page : CodePage) (engine : DatabaseEngine) (bound : Rendered) (inline : String) :
    Decidable (Denotes page engine bound inline) :=
  inferInstanceAs (Decidable (_ ∧ _ ∨ _ ∧ _))

section Reading

variable {page : CodePage} {engine : DatabaseEngine} {values : List Value}

theorem readsAs_char {char : Char} (notPercent : char ≠ '%')
    (rest after : List Char) :
    readsAs page engine (char :: rest) values (char :: after) =
      readsAs page engine rest values after := by
  rw [readsAs]
  · simp
  · intro more isPercent
    exact absurd isPercent notPercent
  · exact notPercent

/-- A percent sign is nothing that a literal begins with. -/
theorem readLiteral_percent (page : CodePage) (engine : DatabaseEngine) (rest : List Char) :
    readLiteral page engine ('%' :: rest) = none := by
  have noConstant : atomConstant engine [] = none := by
    cases engine with
    | mysql => decide
    | postgres => decide
    | sqlserver => decide
  have notAtom : isAtom '%' = false := by
    decide
  rw [readLiteral]
  · rw [List.takeWhile_cons, notAtom]
    simp [noConstant]
  · intro more isQuote
    cases isQuote

theorem readsAs_scalar (value : Scalar) (rest : List Char) (later : List Value)
    (inline : List Char) :
    readsAs page engine ('%' :: 's' :: rest) (.scalar value :: later) inline =
      match readLiteral page engine inline with
      | some (constant, after) =>
          decide (value = constant) && readsAs page engine rest later after
      | none => false := by
  rfl

/-- No percent sign is read as it stands. -/
theorem readsAs_percent (rest after : List Char) :
    readsAs page engine ('%' :: rest) values ('%' :: after) = false := by
  cases rest with
  | nil =>
      rfl
  | cons next more =>
      by_cases isHole : next = 's'
      · rw [isHole]
        cases values with
        | nil => rfl
        | cons value later =>
            cases value with
            | scalar constant => rw [readsAs_scalar, readLiteral_percent]
            | items kind elements shown => rfl
      · rw [readsAs]
        intro other isNext
        exact absurd (List.cons.inj isNext).1 isHole

/-- Texts are read as they are, but for percent signs. -/
theorem readsAs_text (text rest after : List Char) :
    readsAs page engine (text ++ rest) values (text ++ after) = true ↔
      '%' ∉ text ∧ readsAs page engine rest values after = true := by
  induction text with
  | nil =>
      simp
  | cons char more inductionHypothesis =>
      by_cases isPercent : char = '%'
      · rw [isPercent, List.cons_append, List.cons_append, readsAs_percent]
        simp
      · rw [List.cons_append, List.cons_append, readsAs_char isPercent,
          inductionHypothesis]
        simp [Ne.symm isPercent]

theorem readsAs_hole (value : Value) (rest : List Char) (later : List Value)
    (inline : List Char) :
    readsAs page engine ('%' :: 's' :: rest) (value :: later) inline = true ↔
      ∃ constant after, value = .scalar constant ∧
        readLiteral page engine inline = some (constant, after) ∧
        readsAs page engine rest later after = true := by
  cases value with
  | scalar value =>
      rw [readsAs_scalar]
      cases readLiteral page engine inline with
      | none =>
          simp
      | some reading =>
          obtain ⟨found, after⟩ := reading
          simp only [Bool.and_eq_true, decide_eq_true_eq]
          constructor
          · intro isSame
            exact ⟨found, after, by rw [isSame.1], rfl, isSame.2⟩
          · intro isThere
            obtain ⟨constant, next, isSame, isReading, isLater⟩ := isThere
            cases isReading
            exact ⟨Value.scalar.inj isSame, isLater⟩
  | items kind elements shown =>
      have notRead : readsAs page engine ('%' :: 's' :: rest)
          (.items kind elements shown :: later) inline = false := rfl
      simp [notRead]

end Reading

/-! ## Reading pieces -/

/-- Behind each value comes what cannot be part of a constant. -/
def Bounded : List Piece → Prop
  | [] => True
  | .text _ :: rest => Bounded rest
  | _ :: rest => StartsClear (showPieces false rest).toList ∧ Bounded rest

/-- A piece that is read as it was meant: a text without percent signs, or a value
whose literal is read back.  HAVING writes texts out without quotes. -/
def Piece.Sound (page : CodePage) (engine : DatabaseEngine) : Piece → Prop
  | .text shown => Plain shown
  | .operand value => Readable page engine value
  | .having value => Readable page engine (.scalar value) ∧ ∀ chars, value ≠ .text chars

section Pieces

variable {page : CodePage} {engine : DatabaseEngine}

/-- What is read in the place of an operand. -/
theorem readsAs_operand {after : List Char} (isClear : StartsClear after)
    (value : Value) (rest : List Char) (later : List Value) :
    readsAs page engine ('%' :: 's' :: rest) (value :: later)
        ((renderLiteral value).toList ++ after) = true ↔
      Readable page engine value ∧ readsAs page engine rest later after = true := by
  rw [readsAs_hole]
  cases value with
  | scalar constant =>
      constructor
      · rintro ⟨found, next, same, isRead, isLater⟩
        rw [Value.scalar.inj same] at isRead ⊢
        obtain ⟨readable, isAfter⟩ := (readLiteral_rendered isClear found).mp isRead
        rw [isAfter] at isLater
        exact ⟨readable, isLater⟩
      · intro isThere
        exact ⟨constant, after, rfl,
          (readLiteral_rendered isClear constant).mpr ⟨isThere.1, rfl⟩, isThere.2⟩
  | items kind elements shown =>
      simp [Readable]

/-- What is read in the place of the value of HAVING. -/
theorem readsAs_having {after : List Char} (isClear : StartsClear after)
    (value : Scalar) (rest : List Char) (later : List Value) :
    readsAs page engine ('%' :: 's' :: rest) (.scalar value :: later)
        ((showHaving value).toList ++ after) = true ↔
      (Readable page engine (.scalar value) ∧ ∀ chars, value ≠ .text chars) ∧
        readsAs page engine rest later after = true := by
  by_cases isText : ∃ chars, value = .text chars
  · obtain ⟨chars, isText⟩ := isText
    rw [readsAs_hole, isText]
    constructor
    · rintro ⟨found, next, same, isRead, -⟩
      rw [← Value.scalar.inj same] at isRead
      exact absurd isRead (readLiteral_raw isClear chars)
    · intro isThere
      exact absurd rfl (isThere.1.2 chars)
  · have notText : ∀ chars, value ≠ .text chars := by
      intro chars same
      exact isText ⟨chars, same⟩
    have shown : showHaving value = renderLiteral (.scalar value) := by
      cases value with
      | text chars => exact absurd rfl (notText chars)
      | null => rfl
      | boolean value => rfl
      | number shown => rfl
      | other shown => rfl
    rw [shown, readsAs_operand isClear]
    simp [notText]

theorem hole_toList : "%s".toList = ['%', 's'] := by
  decide

/-- The pieces are read as they were meant, all of them or not. -/
theorem readsAs_pieces {pieces : List Piece} (bounded : Bounded pieces) :
    readsAs page engine (showPieces true pieces).toList (valuesOf pieces)
        (showPieces false pieces).toList = true ↔
      ∀ piece ∈ pieces, piece.Sound page engine := by
  induction pieces with
  | nil =>
      simp [readsAs]
  | cons piece rest inductionHypothesis =>
      rw [List.forall_mem_cons, showPieces_cons, showPieces_cons,
        String.toList_append, String.toList_append]
      cases piece with
      | text shown =>
          rw [valuesOf_text, ← inductionHypothesis bounded]
          exact readsAs_text _ _ _
      | operand value =>
          rw [valuesOf_operand, ← inductionHypothesis bounded.2]
          simp only [Piece.shown, if_true, Bool.false_eq_true, if_false, hole_toList,
            List.cons_append, List.nil_append, Piece.Sound]
          exact readsAs_operand bounded.1 value _ _
      | having value =>
          rw [valuesOf_having, ← inductionHypothesis bounded.2]
          simp only [Piece.shown, if_true, Bool.false_eq_true, if_false, hole_toList,
            List.cons_append, List.nil_append, Piece.Sound]
          exact readsAs_having bounded.1 value _ _

/-- Without values both renderings are the same. -/
theorem showPieces_of_no_values {pieces : List Piece} (noValues : valuesOf pieces = []) :
    showPieces false pieces = showPieces true pieces := by
  induction pieces with
  | nil =>
      rfl
  | cons piece rest inductionHypothesis =>
      cases piece with
      | text shown =>
          rw [valuesOf_text] at noValues
          rw [showPieces_cons, showPieces_cons, inductionHypothesis noValues]
          rfl
      | operand value => cases noValues
      | having value => cases noValues

theorem denotes_pieces {pieces : List Piece} (bounded : Bounded pieces) :
    Denotes page engine (renderPieces true pieces) (renderPieces false pieces).1 ↔
      valuesOf pieces = [] ∨ ∀ piece ∈ pieces, piece.Sound page engine := by
  unfold Denotes renderPieces
  simp only [if_true]
  by_cases noValues : valuesOf pieces = []
  · simp [noValues, showPieces_of_no_values noValues]
  · simp [noValues, readsAs_pieces bounded]

end Pieces

/-! ## What a plan is written with is bounded -/

section Bounds

variable {first later : List Piece}

theorem StartsClear.append {text more : List Char} (isClear : StartsClear text)
    (moreClear : StartsClear more) : StartsClear (text ++ more) := by
  cases text with
  | nil => exact moreClear
  | cons char rest =>
      rw [startsClear_cons] at isClear
      exact startsClear_cons.mpr isClear

/-- A text that begins with a blank, a bracket or a comma, with anything behind. -/
theorem startsClear_append {text : String} {char : Char}
    (isHead : text.toList.head? = some char) (isClear : IsClear char)
    (more : String) : StartsClear (text ++ more).toList := by
  intro other isOther
  rw [String.toList_append, List.head?_append, isHead] at isOther
  cases isOther
  exact isClear

theorem startsClear_spaced (clause : String) (more : List Char)
    (moreClear : StartsClear more) : StartsClear ((spaced clause).toList ++ more) := by
  unfold spaced
  split
  · exact moreClear
  · rw [← String.ofList_toList (s := clause)]
    refine StartsClear.append ?_ moreClear
    exact startsClear_append (by decide) (.inl rfl) _

theorem Bounded.append (firstBounded : Bounded first) (laterBounded : Bounded later)
    (isClear : StartsClear (showPieces false later).toList) :
    Bounded (first ++ later) := by
  induction first with
  | nil =>
      exact laterBounded
  | cons piece rest inductionHypothesis =>
      have restClear (bounded : StartsClear (showPieces false rest).toList) :
          StartsClear (showPieces false (rest ++ later)).toList := by
        rw [showPieces_append, String.toList_append]
        exact bounded.append isClear
      cases piece with
      | text shown => exact inductionHypothesis firstBounded
      | operand value =>
          exact ⟨restClear firstBounded.1, inductionHypothesis firstBounded.2⟩
      | having value =>
          exact ⟨restClear firstBounded.1, inductionHypothesis firstBounded.2⟩

theorem bounded_between {separator : String} {char : Char}
    (isHead : separator.toList.head? = some char) (isClear : IsClear char)
    {fragments : List (List Piece)}
    (bounded : ∀ fragment ∈ fragments, Bounded fragment) :
    Bounded (between separator fragments) := by
  induction fragments with
  | nil =>
      trivial
  | cons fragment rest inductionHypothesis =>
      obtain ⟨fragmentBounded, restBounded⟩ := List.forall_mem_cons.mp bounded
      by_cases isLast : rest = []
      · rw [isLast]
        exact fragmentBounded
      · rw [between_cons separator isLast]
        exact fragmentBounded.append (inductionHypothesis restBounded)
          (startsClear_append isHead isClear _)

variable {unicode : Unicode} {dialect : Option DatabaseEngine}

theorem bounded_ilikePieces (column : String) {rhs : Piece}
    (isOperand : Bounded [rhs]) : Bounded (ilikePieces dialect column rhs) := by
  unfold ilikePieces
  split
  · exact isOperand
  · have closed : StartsClear (showPieces false [.text ")"]).toList := by
      decide
    cases rhs with
    | text shown => trivial
    | operand value => exact ⟨closed, trivial⟩
    | having value => exact ⟨closed, trivial⟩

theorem Operator.pieces_bounded (operator : Operator) (column : String)
    (value : Value) : Bounded (operator.pieces dialect column value) := by
  cases operator with
  | binary token sql =>
      simp only [Operator.pieces]
      split
      · trivial
      · exact ⟨startsClear_nil, trivial⟩
  | unary sql =>
      trivial
  | range token sql =>
      simp only [Operator.pieces]
      split
      · exact ⟨startsClear_append (by decide) (.inl rfl) _, startsClear_nil, trivial⟩
      · trivial
  | set token sql negated =>
      simp only [Operator.pieces]
      split
      · trivial
      · refine Bounded.append (bounded_between (by decide) (.inr (.inr rfl)) ?_)
          trivial (by decide)
        intro fragment isFragment
        obtain ⟨member, -, rfl⟩ := List.mem_map.mp isFragment
        exact ⟨startsClear_nil, trivial⟩
  | ilike =>
      refine bounded_ilikePieces column ?_
      split
      · trivial
      · exact ⟨startsClear_nil, trivial⟩

theorem conditionPieces_bounded {item : ConditionItem} {pieces : List Piece}
    (arePieces : conditionPieces unicode dialect item = some pieces) :
    Bounded pieces := by
  unfold conditionPieces at arePieces
  split at arePieces
  · cases arePieces
  · dsimp only at arePieces
    split at arePieces
    · cases arePieces
      trivial
    · cases arePieces
      exact Operator.pieces_bounded _ _ _

theorem plainPieces_bounded {item : ConditionItem} {pieces : List Piece}
    (arePieces : plainPieces unicode dialect item = some pieces) :
    Bounded pieces := by
  unfold plainPieces at arePieces
  split at arePieces
  · exact conditionPieces_bounded arePieces
  · cases arePieces

theorem inBrackets_bounded (start : String) {pieces : List Piece}
    (bounded : Bounded pieces) : Bounded (inBrackets start pieces) :=
  Bounded.append bounded trivial (by decide)

theorem nestedPieces_bounded {item : ConditionItem} {subquery pieces : List Piece}
    (subqueryBounded : Bounded subquery)
    (arePieces : nestedPieces unicode dialect item subquery = some pieces) :
    Bounded pieces := by
  unfold nestedPieces at arePieces
  split at arePieces
  · cases arePieces
    exact inBrackets_bounded _ subqueryBounded
  · split at arePieces
    · cases arePieces
    · cases arePieces
      exact inBrackets_bounded _ subqueryBounded
  · exact conditionPieces_bounded arePieces

theorem havingPieces_bounded (unicode : Unicode) (dialect : Option DatabaseEngine)
    (having : Option HavingItem) :
    Bounded (havingPieces unicode dialect having) ∧
      StartsClear (showPieces false (havingPieces unicode dialect having)).toList := by
  unfold havingPieces
  split
  · exact ⟨trivial, startsClear_nil⟩
  · split
    · refine ⟨⟨startsClear_nil, trivial⟩, ?_⟩
      simp only [showPieces_cons, Piece.shown, String.append_assoc]
      exact startsClear_append (by decide) (.inl rfl) _
    · exact ⟨trivial, startsClear_nil⟩

theorem wherePieces_bounded {fragments : List (List Piece)}
    (bounded : ∀ fragment ∈ fragments, Bounded fragment) :
    Bounded (wherePieces fragments) := by
  unfold wherePieces
  split
  · trivial
  · exact bounded_between (by decide) (.inl rfl) bounded

theorem statementPieces_bounded {engine : DatabaseEngine} {clauses : Clauses}
    {fragments : List (List Piece)}
    (bounded : ∀ fragment ∈ fragments, Bounded fragment) :
    Bounded (statementPieces unicode engine dialect clauses fragments) := by
  unfold statementPieces
  split
  · trivial
  · rename_i orderBy _
    have ending : StartsClear (showPieces false [.text (spaced (orderByClause
        unicode dialect clauses.aggregation clauses.groupBy orderBy) ++
        spaced (limitClauses engine clauses.limit).2)]).toList := by
      rw [showPieces_cons, showPieces_nil, String.append_empty, Piece.shown,
        String.toList_append]
      refine startsClear_spaced _ _ ?_
      rw [← List.append_nil (spaced _).toList]
      exact startsClear_spaced _ _ startsClear_nil
    obtain ⟨havingBounded, havingClear⟩ :=
      havingPieces_bounded unicode dialect clauses.having
    refine Bounded.append (wherePieces_bounded bounded)
      (havingBounded.append trivial ending) ?_
    rw [showPieces_cons, String.toList_append, showPieces_append,
      String.toList_append]
    exact startsClear_spaced _ _ (havingClear.append ending)

end Bounds

section Plans

variable (unicode : Unicode) (installed : DatabaseEngine → Bool)

mutual

theorem pieces_bounded (engine : DatabaseEngine) : (plan : Plan) →
    Bounded (plan.pieces unicode installed engine)
  | .mk clauses conditions => by
      unfold Plan.pieces
      exact statementPieces_bounded
        (fragments_bounded (dialectOf installed engine) conditions)

theorem fragments_bounded (dialect : Option DatabaseEngine) :
    (conditions : Conditions) →
      ∀ fragment ∈ conditions.fragments unicode installed dialect, Bounded fragment
  | .nil => by
      unfold Conditions.fragments
      exact List.forall_mem_nil _
  | .plain item rest => by
      unfold Conditions.fragments
      rw [List.forall_mem_append]
      refine ⟨?_, fragments_bounded dialect rest⟩
      intro fragment isFragment
      exact plainPieces_bounded (Option.mem_toList.mp isFragment)
  | .nested item subquery rest => by
      unfold Conditions.fragments
      rw [List.forall_mem_append]
      refine ⟨?_, fragments_bounded dialect rest⟩
      intro fragment isFragment
      exact nestedPieces_bounded (pieces_bounded (dialect.getD .mysql) subquery)
        (Option.mem_toList.mp isFragment)

end

variable (page : CodePage)

/-- The text without placeholders of a plan that is compiled denotes the statement
with its values bound, for an engine. -/
def InlineDenotes (engine : DatabaseEngine) (plan : Plan) : Prop :=
  ∃ bound inline, compileSql unicode installed true engine plan = .ok bound ∧
    compileSql unicode installed false engine plan = .ok (inline, []) ∧
    Denotes page engine bound inline

/-- The text without placeholders denotes the bound statement if there is nothing to
bind, or the plan writes out no percent sign of its own, its HAVING compares with no
text and the engine reads back the literal of every value; and only then.  The code
page is that of the database. -/
theorem inline_denotes_iff {engine : DatabaseEngine} {plan : Plan} {bound : Rendered}
    (compiled : compileSql unicode installed true engine plan = .ok bound) :
    InlineDenotes unicode installed page engine plan ↔
      valuesOf (plan.pieces unicode installed engine) = [] ∨
        ∀ piece ∈ plan.pieces unicode installed engine, piece.Sound page engine := by
  obtain ⟨isBound, isInline⟩ := compileSql_ok unicode installed compiled
  rw [← denotes_pieces (pieces_bounded unicode installed engine plan), ← isBound]
  unfold InlineDenotes
  constructor
  · rintro ⟨bound', inline, isCompiled, isShown, denotes⟩
    rw [compiled] at isCompiled
    rw [isInline] at isShown
    cases isCompiled
    have sameText := congrArg Prod.fst (Except.ok.inj isShown)
    rw [sameText]
    exact denotes
  · intro denotes
    exact ⟨bound, _, compiled, isInline, denotes⟩

end Plans

instance (page : CodePage) (engine : DatabaseEngine) :
    (piece : Piece) → Decidable (piece.Sound page engine)
  | .text _ => inferInstanceAs (Decidable (Plain _))
  | .operand _ => inferInstanceAs (Decidable (Readable page engine _))
  | .having (.text chars) => isFalse fun isSound => isSound.2 chars rfl
  | .having .null => isFalse fun isSound => isSound.1
  | .having (.other _) => isFalse fun isSound => isSound.1
  | .having (.boolean _) =>
      decidable_of_iff (engine ≠ .sqlserver)
        ⟨fun notServer => ⟨notServer, nofun⟩, fun isSound => isSound.1⟩
  | .having (.number shown) =>
      decidable_of_iff (isNumeral shown.toList = true)
        ⟨fun numeral => ⟨numeral, nofun⟩, fun isSound => isSound.1⟩

/-! ### A plan with subqueries -/

theorem inline_denotes_orders :
    InlineDenotes ascii (fun _ => true) .plain .mysql Shop.orders := by
  have compiled : compileSql ascii (fun _ => true) true .mysql Shop.orders =
      .ok (renderPieces true (Shop.orders.pieces ascii (fun _ => true) .mysql)) := by
    decide +kernel
  have areSound : ∀ piece ∈ Shop.orders.pieces ascii (fun _ => true) .mysql,
      piece.Sound .plain .mysql := by
    decide
  exact (inline_denotes_iff ascii (fun _ => true) .plain compiled).mpr (.inr areSound)

/-! ### A name that ends its literal -/

namespace Shop

/-- Customers by a name. -/
def named (name : String) : Plan :=
  .mk (fromTable "customers")
    (.plain (compare "customers" "name" "=" (.scalar (.text name))) .nil)

end Shop

/-- MySQL reads the quote behind the backslash as part of the name, the next one as
its end, and the rest of the name as a part of the condition. -/
theorem inline_name_misread :
    compileSql ascii (fun _ => true) false .mysql (Shop.named "\\' OR 1=1 -- ") =
        .ok ("SELECT * FROM customers WHERE customers.name = " ++
          "'\\'' OR 1=1 -- '", []) ∧
      readLiteral .plain .mysql "'\\'' OR 1=1 -- '".toList =
        some (.text "'", " OR 1=1 -- '".toList) ∧
      ¬ InlineDenotes ascii (fun _ => true) .plain .mysql
        (Shop.named "\\' OR 1=1 -- ") := by
  refine ⟨by decide, by decide, ?_⟩
  rintro ⟨bound, inline, isBound, isInline, denotes⟩
  have compiled : compileSql ascii (fun _ => true) true .mysql
      (Shop.named "\\' OR 1=1 -- ") =
      .ok ("SELECT * FROM customers WHERE customers.name = %s",
        [.scalar (.text "\\' OR 1=1 -- ")]) := by
    decide
  have shown : compileSql ascii (fun _ => true) false .mysql
      (Shop.named "\\' OR 1=1 -- ") =
      .ok ("SELECT * FROM customers WHERE customers.name = " ++
        "'\\'' OR 1=1 -- '", []) := by
    decide
  rw [compiled] at isBound
  rw [shown] at isInline
  cases isBound
  cases isInline
  revert denotes
  decide

end DbBuddy.Sql
