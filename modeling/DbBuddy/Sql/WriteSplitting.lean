import DbBuddy.Library.TopLevel
import DbBuddy.Sql.DryRunCuts

/-!
# How a write is cut into statements

`execute_query` cuts a write where a semicolon stands in front of a line break.  An engine
takes the semicolons at the top level for the ends of statements, wherever they stand.
-/

namespace DbBuddy.Sql

open DbBuddy.Library

/-! ## The law -/

/-- The statements of a text: its pieces between the semicolons at the top level that are
more than white space. -/
def statementsOf (lexer : Lexer) (sql : List Char) : List (List Char) :=
  ((lexer.pieces lexer.start sql).map strip).filter fun piece => !piece.isEmpty

/-- What is sent is the statement, with white space and semicolons behind it if anything. -/
def Carries (sent statement : List Char) : Prop :=
  ∃ tail, sent = statement ++ tail ∧ ∀ char ∈ tail, isContent char = false

/-- No cut is inside a literal, a quoted identifier or a comment, and what is sent are the
statements of the text. -/
structure RespectsLiterals (lexer : Lexer) (sql : List Char) (executed : List (List Char)) :
    Prop where
  uncut : ∀ front back, splitStatements sql = front ++ back → front ≠ [] → back ≠ [] →
    lexer.separates (lexer.run lexer.start ([';', '\n'].intercalate front)) = true
  sent : List.Forall₂ Carries executed (statementsOf lexer sql)

/-- Whenever a text is run as a write, it is cut with respect to literals. -/
def CutsWell (lexer : Lexer) (lowercase : Lowercase) (sql : List Char) : Prop :=
  firstWord lowercase sql ∉ fetchedQueries →
    ∀ (Row : Type) (driver : Driver Row) limit execution,
      executeQuery lowercase limit driver sql = .ok execution →
      RespectsLiterals lexer sql execution.executed

/-- A part is blank, or a statement with nothing but white space and semicolons behind it. -/
def HoldsOne (lexer : Lexer) (part : List Char) : Prop :=
  AllBlank part ∨ ∃ first others, lexer.pieces lexer.start part = first :: others ∧
    ¬ AllBlank first ∧ ∀ other ∈ others, AllBlank other

/-- Semicolons in front of line breaks are at the top level, and the parts that they set
off hold a statement each, if anything; one part does. -/
structure LineByLine (lexer : Lexer) (sql : List Char) : Prop where
  atTop : ∀ front back, sql = front ++ ';' :: '\n' :: back →
    lexer.separates (lexer.run lexer.start front) = true
  single : ∀ part ∈ splitStatements sql, HoldsOne lexer part
  nonempty : ∃ part ∈ splitStatements sql, ¬ AllBlank part

/-! ## The cuts -/

section Cuts

variable {lexer : Lexer} {front back rest sql : List Char} {parts : List (List Char)}

theorem splitStatements_cut (rest : List Char) :
    splitStatements (';' :: '\n' :: rest) = [] :: splitStatements rest := by
  rw [splitStatements]

theorem splitStatements_passed {char : Char}
    (passed : ∀ behind, char = ';' → rest ≠ '\n' :: behind) :
    splitStatements (char :: rest) = (splitStatements rest).modifyHead (char :: ·) := by
  rw [splitStatements]
  intro behind isSemicolon isBreak
  exact passed behind isSemicolon isBreak

theorem splitStatements_eq_cons (text : List Char) :
    ∃ first others, splitStatements text = first :: others := by
  induction text using splitStatements.induct with
  | case1 => exact ⟨[], [], rfl⟩
  | case2 rest _ => exact ⟨[], _, splitStatements_cut rest⟩
  | case3 char rest passed induction =>
      obtain ⟨first, others, isSplit⟩ := induction
      refine ⟨char :: first, others, ?_⟩
      rw [splitStatements_passed passed, isSplit]
      rfl

theorem splitStatements_append :
    splitStatements (front ++ ';' :: '\n' :: back) =
      splitStatements front ++ splitStatements back := by
  induction front using splitStatements.induct with
  | case1 => exact splitStatements_cut back
  | case2 rest induction =>
      rw [List.cons_append, List.cons_append, splitStatements_cut, splitStatements_cut, induction]
      rfl
  | case3 char rest passed induction =>
      obtain ⟨first, others, isSplit⟩ := splitStatements_eq_cons rest
      have passed' : ∀ behind, char = ';' → rest ++ ';' :: '\n' :: back ≠ '\n' :: behind := by
        intro behind isSemicolon isBreak
        cases rest with
        | nil => cases isBreak
        | cons next rest =>
            cases isBreak
            exact passed rest isSemicolon rfl
      rw [List.cons_append, splitStatements_passed passed', splitStatements_passed passed,
        induction, isSplit]
      rfl

theorem intercalate_cons (part : List Char) (nonempty : parts ≠ []) :
    [';', '\n'].intercalate (part :: parts) =
      part ++ ';' :: '\n' :: [';', '\n'].intercalate parts := by
  rw [List.intercalate_cons_of_ne_nil nonempty, List.append_assoc]
  rfl

theorem intercalate_splitStatements (sql : List Char) :
    [';', '\n'].intercalate (splitStatements sql) = sql := by
  induction sql using splitStatements.induct with
  | case1 => rfl
  | case2 rest induction =>
      obtain ⟨first, others, isSplit⟩ := splitStatements_eq_cons rest
      rw [splitStatements_cut, intercalate_cons [] (by rw [isSplit]; exact List.cons_ne_nil _ _),
        induction]
      rfl
  | case3 char rest passed induction =>
      obtain ⟨first, others, isSplit⟩ := splitStatements_eq_cons rest
      rw [splitStatements_passed passed, isSplit, List.modifyHead_cons]
      rw [isSplit] at induction
      cases others with
      | nil =>
          rw [List.intercalate_singleton] at induction ⊢
          rw [induction]
      | cons next others =>
          rw [intercalate_cons _ (List.cons_ne_nil _ _)] at induction ⊢
          rw [List.cons_append, induction]

/-- The text in front of some of the parts is the one in front of a cut. -/
theorem intercalate_append {parts' : List (List Char)} (nonempty : parts ≠ [])
    (nonempty' : parts' ≠ []) : [';', '\n'].intercalate (parts ++ parts') =
      [';', '\n'].intercalate parts ++ ';' :: '\n' :: [';', '\n'].intercalate parts' := by
  induction parts with
  | nil => exact absurd rfl nonempty
  | cons part parts induction =>
      cases parts with
      | nil => rw [List.singleton_append, intercalate_cons _ nonempty', List.intercalate_singleton]
      | cons next parts =>
          rw [List.cons_append, intercalate_cons _ (by simp), induction (List.cons_ne_nil _ _),
            intercalate_cons _ (List.cons_ne_nil _ _), List.append_assoc]
          rfl

/-- The cuts are at the top level where all semicolons in front of line breaks are. -/
theorem uncut_iff : (∀ front back, splitStatements sql = front ++ back → front ≠ [] →
      back ≠ [] →
      lexer.separates (lexer.run lexer.start ([';', '\n'].intercalate front)) = true) ↔
    ∀ front back, sql = front ++ ';' :: '\n' :: back →
      lexer.separates (lexer.run lexer.start front) = true := by
  constructor
  · intro uncut front back isText
    obtain ⟨first, others, isFront⟩ := splitStatements_eq_cons front
    obtain ⟨first', others', isBack⟩ := splitStatements_eq_cons back
    have atTop := uncut (splitStatements front) (splitStatements back)
      (by rw [isText, splitStatements_append])
      (by rw [isFront]; exact List.cons_ne_nil _ _) (by rw [isBack]; exact List.cons_ne_nil _ _)
    rw [intercalate_splitStatements] at atTop
    exact atTop
  · intro atTop front back isSplit frontNonempty backNonempty
    apply atTop _ ([';', '\n'].intercalate back)
    rw [← intercalate_append frontNonempty backNonempty, ← isSplit, intercalate_splitStatements]

end Cuts

/-! ## The statements of the parts -/

section Parts

variable {lexer : Lexer} {front part statement text rest : List Char}
variable {first : List Char} {others parts more : List (List Char)}

theorem strip_eq_nil_iff : strip text = [] ↔ AllBlank text := by
  constructor
  · intro isNil
    obtain ⟨lead, trail, isText, isLead, isTrail⟩ := strip_parts text
    rw [isNil, List.nil_append] at isText
    rw [isText]
    intro char isIn
    rcases List.mem_append.mp isIn with inLead | inTrail
    · exact isLead char inLead
    · exact isTrail char inTrail
  · intro blank
    have stripped : strip ([] ++ text) = strip [] := strip_append_right blank
    exact stripped

/-- A text that does not begin with white space loses some at its end only. -/
theorem strip_parts_cons {char : Char} (rest : List Char) (isSolid : isSpace char = false) :
    ∃ trail, char :: rest = strip (char :: rest) ++ trail ∧ AllBlank trail := by
  obtain ⟨lead, trail, isText, isLead, isTrail⟩ := strip_parts (char :: rest)
  cases lead with
  | nil => exact ⟨trail, isText, isTrail⟩
  | cons other lead =>
      obtain rfl : char = other := (List.cons.inj isText).1
      rw [isLead char List.mem_cons_self] at isSolid
      cases isSolid

theorem strip_cons {char : Char} (rest : List Char) (isSolid : isSpace char = false) :
    ∃ behind, strip (char :: rest) = char :: behind := by
  obtain ⟨trail, isText, isTrail⟩ := strip_parts_cons rest isSolid
  cases isStripped : strip (char :: rest) with
  | nil =>
      rw [isStripped, List.nil_append] at isText
      rw [isTrail char (isText ▸ List.mem_cons_self)] at isSolid
      cases isSolid
  | cons other behind =>
      rw [isStripped] at isText
      obtain rfl : char = other := (List.cons.inj isText).1
      exact ⟨behind, rfl⟩

theorem countP_allBlank (blank : AllBlank text) : text.countP isContent = 0 := by
  apply List.countP_eq_zero.mpr
  intro char isIn
  simp [isContent, blank char isIn]

theorem countP_strip (text : List Char) :
    (strip text).countP isContent = text.countP isContent := by
  obtain ⟨lead, trail, isText, isLead, isTrail⟩ := strip_parts text
  have counted := congrArg (List.countP isContent) isText
  rw [List.countP_append, List.countP_append, countP_allBlank isLead,
    countP_allBlank isTrail] at counted
  omega

theorem countP_terminated (text : List Char) :
    (terminated text).countP isContent = text.countP isContent := by
  unfold terminated
  split
  · rfl
  · rw [List.countP_append, List.countP_cons_of_neg (by decide), List.countP_nil,
      Nat.add_zero]

/-- A statement begins with content. -/
theorem begins_of_mem (isStatement : statement ∈ statementsOf lexer text) :
    ∃ char behind, statement = char :: behind ∧ isContent char = true := by
  obtain ⟨isStripped, notEmpty⟩ := List.mem_filter.mp isStatement
  obtain ⟨piece, isPiece, rfl⟩ := List.mem_map.mp isStripped
  have notBlank : ¬ AllBlank piece := by
    intro blank
    rw [strip_eq_nil_iff.mpr blank] at notEmpty
    cases notEmpty
  obtain ⟨lead, char, behind, rfl, isLead, isIn⟩ := Lexer.content_of_piece isPiece notBlank
  rw [strip_append_left isLead]
  obtain ⟨behind', isStripped'⟩ := strip_cons behind (isContent_iff.mp isIn).1
  exact ⟨char, behind', isStripped', isIn⟩

theorem countP_pos_of_mem (isStatement : statement ∈ statementsOf lexer text) :
    0 < statement.countP isContent := by
  obtain ⟨char, behind, rfl, isIn⟩ := begins_of_mem isStatement
  rw [List.countP_cons_of_pos isIn]
  exact Nat.succ_pos _

theorem statementsOf_cut (atTop : lexer.separates (lexer.run lexer.start front) = true) :
    statementsOf lexer (front ++ ';' :: '\n' :: rest) =
      statementsOf lexer front ++ statementsOf lexer rest := by
  have isBreak : AllBlank ['\n'] := Lexer.allBlank_cons.mpr ⟨by decide, Lexer.allBlank_nil⟩
  obtain ⟨first, others, isPieces⟩ := Lexer.pieces_eq_cons lexer.start rest
  have sameFirst : strip ('\n' :: first) = strip first := strip_append_left isBreak
  unfold statementsOf
  rw [Lexer.pieces_append atTop, Lexer.pieces_blank (by decide), isPieces,
    List.modifyHead_cons, List.map_append, List.filter_append, List.map_cons, List.map_cons,
    sameFirst]

theorem run_cut (atTop : lexer.separates (lexer.run lexer.start front) = true) :
    lexer.run lexer.start (front ++ ';' :: '\n' :: rest) = lexer.run lexer.start rest := by
  unfold Lexer.run at atTop ⊢
  rw [List.foldl_append, List.foldl_cons, List.foldl_cons, lexer.step_separator _ atTop,
    lexer.step_blank '\n' (by decide)]

/-- Where the cuts are at the top level, the statements of a text are those of its parts. -/
theorem statementsOf_intercalate (nonempty : parts ≠ [])
    (uncut : ∀ front back, parts = front ++ back → front ≠ [] → back ≠ [] →
      lexer.separates (lexer.run lexer.start ([';', '\n'].intercalate front)) = true) :
    statementsOf lexer ([';', '\n'].intercalate parts) =
      parts.flatMap (statementsOf lexer) := by
  induction parts with
  | nil => exact absurd rfl nonempty
  | cons part parts induction =>
      cases parts with
      | nil => simp
      | cons next parts =>
          have atTop := uncut [part] (next :: parts) rfl (List.cons_ne_nil _ _)
            (List.cons_ne_nil _ _)
          rw [List.intercalate_singleton] at atTop
          rw [intercalate_cons _ (List.cons_ne_nil _ _), statementsOf_cut atTop,
            List.flatMap_cons, induction (List.cons_ne_nil _ _)]
          intro front back isSplit frontNonempty backNonempty
          have atTop' := uncut (part :: front) back (by rw [isSplit]; rfl)
            (List.cons_ne_nil _ _) backNonempty
          rw [intercalate_cons _ frontNonempty, run_cut atTop] at atTop'
          exact atTop'

/-! ## What is sent of a part -/

/-- The statements of a text have all of its content. -/
theorem countP_statementsOf (lexer : Lexer) (text : List Char) :
    ((statementsOf lexer text).map (List.countP isContent)).sum = text.countP isContent := by
  have kept : ∀ pieces : List (List Char),
      (((pieces.map strip).filter fun piece => !piece.isEmpty).map
        (List.countP isContent)).sum = (pieces.map (List.countP isContent)).sum := by
    intro pieces
    induction pieces with
    | nil => rfl
    | cons piece pieces induction =>
        rw [List.map_cons, List.map_cons, List.sum_cons, ← induction, ← countP_strip piece]
        cases isStripped : strip piece with
        | nil => simp
        | cons char behind => simp
  rw [statementsOf, kept, Lexer.countP_pieces]

theorem statementsOf_cons (isPieces : lexer.pieces lexer.start text = first :: others)
    (notBlank : ¬ AllBlank first) : statementsOf lexer text =
      strip first :: (others.map strip).filter fun piece => !piece.isEmpty := by
  have notNil : ¬ strip first = [] := fun isNil => notBlank (strip_eq_nil_iff.mp isNil)
  rw [statementsOf, isPieces, List.map_cons, List.filter_cons_of_pos (by simp [notNil])]

/-- A text without content has no statements. -/
theorem statementsOf_eq_nil (noContent : text.countP isContent = 0) :
    statementsOf lexer text = [] := by
  cases isFirst : statementsOf lexer text with
  | nil => rfl
  | cons statement more =>
      have positive := countP_pos_of_mem (isFirst ▸ List.mem_cons_self)
      have counted := countP_statementsOf lexer text
      rw [isFirst, List.map_cons, List.sum_cons] at counted
      omega

theorem Carries.countP_eq {sent : List Char} (carries : Carries sent statement) :
    sent.countP isContent = statement.countP isContent := by
  obtain ⟨tail, rfl, noContent⟩ := carries
  have noMore : tail.countP isContent = 0 := by
    apply List.countP_eq_zero.mpr
    intro char isIn
    simp [noContent char isIn]
  rw [List.countP_append, noMore, Nat.add_zero]

/-- What has no content behind a statement stays behind it. -/
theorem strip_append_tail {tail : List Char} (notBlank : ¬ AllBlank first)
    (noContent : ∀ char ∈ tail, isContent char = false) :
    Carries (strip (first ++ tail)) (strip first) := by
  obtain ⟨lead, trail, isFirst, isLead, isTrail⟩ := strip_parts first
  have noContent' : ∀ char ∈ trail ++ tail, isContent char = false := by
    intro char isIn
    rcases List.mem_append.mp isIn with inTrail | inTail
    · simp [isContent, isTrail char inTrail]
    · exact noContent char inTail
  have sameStrip : strip (first ++ tail) = strip (strip first ++ (trail ++ tail)) := by
    calc strip (first ++ tail)
        = strip ((lead ++ (strip first ++ trail)) ++ tail) := by rw [← isFirst]
      _ = strip (lead ++ (strip first ++ (trail ++ tail))) := by
        rw [List.append_assoc, List.append_assoc]
      _ = strip (strip first ++ (trail ++ tail)) := strip_append_left isLead
  rw [sameStrip]
  have stripped := stripped_strip first
  cases isStripped : strip first with
  | nil => exact absurd (strip_eq_nil_iff.mp isStripped) notBlank
  | cons char behind =>
      rw [isStripped] at stripped
      obtain ⟨trail', isText, isTrail'⟩ :=
        strip_parts_cons (behind ++ (trail ++ tail)) (stripped.first char rfl)
      rw [List.cons_append]
      have isText' : (char :: behind) ++ (trail ++ tail) =
          strip (char :: (behind ++ (trail ++ tail))) ++ trail' := isText
      rcases List.append_eq_append_iff.mp isText' with ⟨more, isSent, isRest⟩ |
        ⟨lost, isStatement, isRest⟩
      · refine ⟨more, isSent, fun other isIn => noContent' other ?_⟩
        rw [isRest]
        exact List.mem_append_left _ isIn
      · -- the last character of the statement would be white space
        have noneLost : lost = [] := by
          by_contra nonempty
          have isLast : (char :: behind).getLast? = some (lost.getLast nonempty) := by
            rw [isStatement, List.getLast?_append_of_ne_nil _ nonempty,
              List.getLast?_eq_some_getLast nonempty]
          have isSolid := stripped.last _ isLast
          rw [isTrail' _ (isRest ▸ List.mem_append_left _ (List.getLast_mem nonempty))] at isSolid
          cases isSolid
        rw [noneLost, List.append_nil] at isStatement
        exact ⟨[], by rw [← isStatement, List.append_nil], by simp⟩

theorem Carries.terminated {sent : List Char} (carries : Carries sent statement) :
    Carries (terminated sent) statement := by
  obtain ⟨tail, rfl, noContent⟩ := carries
  unfold Sql.terminated
  split
  · exact ⟨tail, rfl, noContent⟩
  · refine ⟨tail ++ [';'], List.append_assoc _ _ _, ?_⟩
    intro char isIn
    rcases List.mem_append.mp isIn with inTail | isLast
    · exact noContent char inTail
    · rw [List.mem_singleton.mp isLast]
      decide

theorem terminated_cons (char : Char) (behind : List Char) :
    ∃ more, Sql.terminated (char :: behind) = char :: more := by
  unfold Sql.terminated
  split
  · exact ⟨behind, rfl⟩
  · exact ⟨behind ++ [';'], rfl⟩

/-- A part that begins with a statement is sent as that statement if and only if it holds
one. -/
theorem carries_iff (notBlank : ¬ AllBlank part)
    (isFirst : statementsOf lexer part = statement :: more) :
    Carries (terminated (strip part)) statement ↔ HoldsOne lexer part := by
  obtain ⟨first, others, isPieces⟩ := Lexer.pieces_eq_cons lexer.start part
  have isPart := Lexer.eq_of_pieces isPieces
  constructor
  · intro carries
    right
    have firstNotBlank : ¬ AllBlank first := by
      intro blank
      cases others with
      | nil =>
          rw [List.flatMap_nil, List.append_nil] at isPart
          exact notBlank (isPart ▸ blank)
      | cons next others =>
          -- the part begins with a semicolon, and a statement does not
          have isCut : strip part = strip (';' :: (next ++ others.flatMap (';' :: ·))) := by
            rw [isPart, List.flatMap_cons, strip_append_left blank]
            rfl
          obtain ⟨behind, isBehind⟩ :=
            strip_cons (next ++ others.flatMap (';' :: ·)) isSpace_semicolon
          obtain ⟨sent, isSent⟩ := terminated_cons ';' behind
          obtain ⟨char, rest, isStatement, isIn⟩ :=
            begins_of_mem (isFirst ▸ List.mem_cons_self : statement ∈ statementsOf lexer part)
          obtain ⟨tail, isText, _⟩ := carries
          rw [isCut, isBehind, isSent, isStatement, List.cons_append] at isText
          rw [← (List.cons.inj isText).1] at isIn
          cases isIn
    refine ⟨first, others, isPieces, firstNotBlank, ?_⟩
    rw [statementsOf_cons isPieces firstNotBlank] at isFirst
    obtain ⟨rfl, _⟩ := List.cons.inj isFirst
    have sameContent := carries.countP_eq
    have allContent := Lexer.countP_pieces lexer.start part
    rw [countP_terminated, countP_strip, countP_strip] at sameContent
    rw [isPieces, List.map_cons, List.sum_cons] at allContent
    have noMore : (others.map (List.countP isContent)).sum = 0 := by
      omega
    intro other isOther
    by_contra otherNotBlank
    have isPiece : other ∈ lexer.pieces lexer.start part := by
      rw [isPieces]
      exact List.mem_cons_of_mem _ isOther
    have positive := (Lexer.content_of_piece isPiece otherNotBlank).countP_pos
    have isZero := List.sum_eq_zero_iff_forall_eq_nat.mp noMore _ (List.mem_map_of_mem isOther)
    omega
  · rintro (blank | ⟨first', others', isPieces', firstNotBlank, othersBlank⟩)
    · exact absurd blank notBlank
    · rw [isPieces] at isPieces'
      cases isPieces'
      rw [statementsOf_cons isPieces firstNotBlank] at isFirst
      obtain ⟨rfl, _⟩ := List.cons.inj isFirst
      rw [isPart]
      apply Carries.terminated
      apply strip_append_tail firstNotBlank
      intro char isIn
      obtain ⟨other, isOther, isIn'⟩ := List.mem_flatMap.mp isIn
      rcases List.mem_cons.mp isIn' with rfl | inOther
      · decide
      · simp [isContent, othersBlank other isOther char inOther]

/-- A part that holds one statement has no other. -/
theorem HoldsOne.more_eq_nil (holdsOne : HoldsOne lexer part)
    (isFirst : statementsOf lexer part = statement :: more) : more = [] := by
  rcases holdsOne with blank | ⟨first, others, isPieces, firstNotBlank, othersBlank⟩
  · rw [statementsOf_eq_nil (countP_allBlank blank)] at isFirst
    cases isFirst
  · rw [statementsOf_cons isPieces firstNotBlank] at isFirst
    rw [← (List.cons.inj isFirst).2]
    apply List.filter_eq_nil_iff.mpr
    intro piece isPiece
    obtain ⟨other, isOther, rfl⟩ := List.mem_map.mp isPiece
    rw [strip_eq_nil_iff.mpr (othersBlank other isOther)]
    simp

theorem HoldsOne.statementsOf_ne_nil (holdsOne : HoldsOne lexer part)
    (notBlank : ¬ AllBlank part) : statementsOf lexer part ≠ [] := by
  rcases holdsOne with blank | ⟨first, others, isPieces, firstNotBlank, _⟩
  · exact absurd blank notBlank
  · rw [statementsOf_cons isPieces firstNotBlank]
    exact List.cons_ne_nil _ _

/-- What is sent of the parts are their statements if and only if each holds one. -/
theorem forall₂_carries_iff (parts : List (List Char)) :
    List.Forall₂ Carries
        (((parts.map strip).filter fun part => !part.isEmpty).map terminated)
        (parts.flatMap (statementsOf lexer)) ↔
      ∀ part ∈ parts, HoldsOne lexer part := by
  induction parts with
  | nil => simp
  | cons part parts induction =>
      rw [List.forall_mem_cons, List.map_cons, List.flatMap_cons]
      by_cases blank : AllBlank part
      · have isNil := strip_eq_nil_iff.mpr blank
        rw [statementsOf_eq_nil (countP_allBlank blank), List.nil_append, isNil,
          List.filter_cons_of_neg (by simp), induction]
        exact (and_iff_right (Or.inl blank)).symm
      · have notNil : ¬ strip part = [] := fun isNil => blank (strip_eq_nil_iff.mp isNil)
        rw [List.filter_cons_of_pos (by simp [notNil]), List.map_cons]
        cases isFirst : statementsOf lexer part with
        | nil =>
            apply iff_of_false
            · intro sent
              have noContent := countP_statementsOf lexer part
              rw [isFirst, List.map_nil, List.sum_nil] at noContent
              rw [List.nil_append] at sent
              cases isRest : parts.flatMap (statementsOf lexer) with
              | nil =>
                  rw [isRest] at sent
                  cases sent
              | cons statement more =>
                  rw [isRest, List.forall₂_cons] at sent
                  have sameContent := sent.1.countP_eq
                  rw [countP_terminated, countP_strip] at sameContent
                  have isIn : statement ∈ parts.flatMap (statementsOf lexer) := by
                    rw [isRest]
                    exact List.mem_cons_self
                  obtain ⟨other, _, isStatement⟩ := List.mem_flatMap.mp isIn
                  have positive := countP_pos_of_mem isStatement
                  omega
            · rintro ⟨holdsOne, _⟩
              exact holdsOne.statementsOf_ne_nil blank isFirst
        | cons statement more =>
            rw [List.cons_append, List.forall₂_cons, carries_iff blank isFirst]
            apply and_congr_right
            intro holdsOne
            rw [holdsOne.more_eq_nil isFirst, List.nil_append]
            exact induction

end Parts

/-! ## What a write sends -/

section Writes

variable {lexer : Lexer} {lowercase : Lowercase} {sql : List Char}

/-- A write that is carried out has sent all of its statements. -/
theorem executed_of_executeEach {Row : Type} {driver : Driver Row}
    {executed executed' : List (List Char)} {total total' : Int} {statements : List (List Char)}
    (isDone : executeEach driver executed total statements = .ok (executed', total')) :
    executed' = executed ++ statements.map terminated := by
  induction statements generalizing executed total with
  | nil =>
      cases isDone
      rw [List.map_nil, List.append_nil]
  | cons statement rest induction =>
      unfold executeEach at isDone
      split at isDone
      · cases isDone
      · rw [induction isDone, List.append_assoc]
        rfl

/-- A driver that carries out whatever it is sent. -/
def willingDriver : Driver Empty where
  execute _ _ := .ok ⟨[], 0, .full⟩

theorem executeEach_willing (executed statements : List (List Char)) (total : Int) :
    executeEach willingDriver executed total statements =
      .ok (executed ++ statements.map terminated, total) := by
  induction statements generalizing executed with
  | nil => simp [executeEach]
  | cons statement rest induction =>
      have same : total + (if (0 : Int) < 0 then 0 else 0) = total := by
        simp
      unfold executeEach willingDriver
      dsimp only
      rw [same]
      have isRest := induction (executed ++ [terminated statement])
      rw [List.append_assoc] at isRest
      exact isRest

/-- What a write sends does not depend on the driver. -/
theorem cutsWell_iff_sent (isWrite : firstWord lowercase sql ∉ fetchedQueries) :
    CutsWell lexer lowercase sql ↔
      RespectsLiterals lexer sql ((writeStatements sql).map terminated) := by
  constructor
  · intro cutsWell
    have isDone : executeQuery lowercase 0 willingDriver sql =
        .ok ⟨(writeStatements sql).map terminated, true, .rowsAffected 0⟩ := by
      unfold executeQuery
      rw [if_neg isWrite, executeEach_willing]
      rfl
    exact cutsWell isWrite Empty willingDriver 0 _ isDone
  · intro respects _ Row driver limit execution isDone
    unfold executeQuery at isDone
    rw [if_neg isWrite] at isDone
    split at isDone
    · cases isDone
    · next executed total isSent =>
        cases isDone
        have isExecuted := executed_of_executeEach isSent
        rw [List.nil_append] at isExecuted
        rw [isExecuted]
        exact respects

theorem writeStatements_of_blank (blank : ∀ part ∈ splitStatements sql, AllBlank part) :
    writeStatements sql = [sql] := by
  have noParts : (((splitStatements sql).map strip).filter fun part => !part.isEmpty) = [] := by
    apply List.filter_eq_nil_iff.mpr
    intro stripped isStripped
    obtain ⟨part, isPart, rfl⟩ := List.mem_map.mp isStripped
    rw [strip_eq_nil_iff.mpr (blank part isPart)]
    simp
  rw [writeStatements, noParts]

theorem writeStatements_of_not_blank {part : List Char} (isPart : part ∈ splitStatements sql)
    (notBlank : ¬ AllBlank part) : writeStatements sql =
      ((splitStatements sql).map strip).filter fun part => !part.isEmpty := by
  have isIn : strip part ∈
      ((splitStatements sql).map strip).filter fun part => !part.isEmpty := by
    apply List.mem_filter.mpr
    refine ⟨List.mem_map_of_mem isPart, ?_⟩
    have notNil : ¬ strip part = [] := fun isNil => notBlank (strip_eq_nil_iff.mp isNil)
    simp [notNil]
  unfold writeStatements
  split
  · next isNil =>
      rw [isNil] at isIn
      cases isIn
  · rfl

/-- Where the cuts are at the top level, the statements of a text are those of its parts. -/
theorem statementsOf_parts (atTop : ∀ front back, sql = front ++ ';' :: '\n' :: back →
      lexer.separates (lexer.run lexer.start front) = true) :
    statementsOf lexer sql = (splitStatements sql).flatMap (statementsOf lexer) := by
  obtain ⟨first, others, isSplit⟩ := splitStatements_eq_cons sql
  have hasParts : splitStatements sql ≠ [] := by
    rw [isSplit]
    exact List.cons_ne_nil _ _
  have isText := statementsOf_intercalate hasParts (uncut_iff.mpr atTop)
  rw [intercalate_splitStatements] at isText
  exact isText

/-- A write is cut well if and only if its statements stand in parts of their own. -/
theorem respectsLiterals_iff :
    RespectsLiterals lexer sql ((writeStatements sql).map terminated) ↔
      LineByLine lexer sql := by
  by_cases blank : ∀ part ∈ splitStatements sql, AllBlank part
  · apply iff_of_false
    · rintro ⟨uncut, sent⟩
      have noStatements : (splitStatements sql).flatMap (statementsOf lexer) = [] := by
        apply List.flatMap_eq_nil_iff.mpr
        intro part isPart
        exact statementsOf_eq_nil (countP_allBlank (blank part isPart))
      rw [statementsOf_parts (uncut_iff.mp uncut), noStatements,
        writeStatements_of_blank blank] at sent
      cases sent
    · rintro ⟨_, _, part, isPart, notBlank⟩
      exact notBlank (blank part isPart)
  · obtain ⟨part, isPart, notBlank⟩ : ∃ part ∈ splitStatements sql, ¬ AllBlank part := by
      by_contra noPart
      exact blank fun part isPart => by_contra fun notBlank => noPart ⟨part, isPart, notBlank⟩
    rw [writeStatements_of_not_blank isPart notBlank]
    constructor
    · rintro ⟨uncut, sent⟩
      have atTop := uncut_iff.mp uncut
      rw [statementsOf_parts atTop] at sent
      exact ⟨atTop, (forall₂_carries_iff _).mp sent, part, isPart, notBlank⟩
    · rintro ⟨atTop, single, _⟩
      refine ⟨uncut_iff.mpr atTop, ?_⟩
      rw [statementsOf_parts atTop]
      exact (forall₂_carries_iff _).mpr single

/-- A text is cut with respect to literals if and only if it is run as a read, or its
statements stand in parts of their own. -/
theorem cutsWell_iff (lexer : Lexer) (lowercase : Lowercase) (sql : List Char) :
    CutsWell lexer lowercase sql ↔
      firstWord lowercase sql ∈ fetchedQueries ∨ LineByLine lexer sql := by
  by_cases isRead : firstWord lowercase sql ∈ fetchedQueries
  · exact iff_of_true (fun isWrite => absurd isRead isWrite) (Or.inl isRead)
  · rw [cutsWell_iff_sent isRead, respectsLiterals_iff, or_iff_right isRead]

end Writes

/-! ## Quotes and comments -/

/-- Where a character of SQL stands. -/
inductive SqlContext where
  | top
  | dash
  | slash
  | quoted (quote : Char)
  | line
  | block
  | star
  deriving DecidableEq, Repr

/-- The context behind a character outside of quotes and comments. -/
def SqlContext.outside (char : Char) : SqlContext :=
  if char = '\'' ∨ char = '"' ∨ char.toNat = 96 then .quoted char
  else if char = '-' then .dash
  else if char = '/' then .slash
  else .top

/-- Quotes end at the same quote, and a doubled one begins them again. -/
def SqlContext.next : SqlContext → Char → SqlContext
  | .top, char => outside char
  | .dash, char => if char = '-' then .line else outside char
  | .slash, char => if char = '*' then .block else outside char
  | .quoted quote, char => if char = quote then .top else .quoted quote
  | .line, char => if char = '\n' then .top else .line
  | .block, char => if char = '*' then .star else .block
  | .star, char => if char = '/' then .top else if char = '*' then .star else .block

/-- A semicolon outside of quotes and comments separates statements. -/
def SqlContext.separates : SqlContext → Bool
  | .top | .dash | .slash => true
  | _ => false

/-- Literals, quoted identifiers and comments, as far as all engines have them. -/
def sqlLexer : Lexer where
  State := SqlContext
  start := .top
  step := SqlContext.next
  separates := SqlContext.separates
  separates_start := rfl
  step_separator state separates := by
    cases state with
    | top | dash | slash => decide
    | _ => cases separates
  step_blank char isSpaced := by
    have bounds := isSpace_bounds isSpaced
    have other : ∀ code : Char, (32 < code.toNat ∧ code.toNat < 128) → char ≠ code := by
      rintro code inside rfl
      omega
    have notQuote : ¬ (char = '\'' ∨ char = '"' ∨ char.toNat = 96) := by
      rintro (isQuote | isQuote | isQuote)
      · exact other '\'' (by decide) isQuote
      · exact other '"' (by decide) isQuote
      · omega
    change SqlContext.outside char = .top
    rw [SqlContext.outside, if_neg notQuote, if_neg (other '-' (by decide)),
      if_neg (other '/' (by decide))]

example : statementsOf sqlLexer "DELETE FROM a WHERE n = ';'; -- x;\nDELETE FROM b;\n".toList =
    ["DELETE FROM a WHERE n = ';'".toList, "-- x;\nDELETE FROM b".toList] := by
  decide

theorem not_cutsWell_note :
    (writeStatements "UPDATE notes SET text = 'milk;\neggs' WHERE id = 7".toList).map
        terminated =
      ["UPDATE notes SET text = 'milk;".toList, "eggs' WHERE id = 7;".toList] ∧
    ¬ CutsWell sqlLexer asciiLowercase
      "UPDATE notes SET text = 'milk;\neggs' WHERE id = 7".toList := by
  refine ⟨by decide, ?_⟩
  intro cutsWell
  have respects := (cutsWell_iff_sent (by decide)).mp cutsWell
  have atTop := respects.uncut ["UPDATE notes SET text = 'milk".toList]
    ["eggs' WHERE id = 7".toList] (by decide) (by decide) (by decide)
  exact absurd atTop (by decide)

end DbBuddy.Sql
