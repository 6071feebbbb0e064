import DbBuddy.Sql.Lexing

/-!
# What the gate lets through as a read

The gate sees the text that its five patterns leave, and the engine the tokens of
the whole text.  The gate is sound for a text if what is dangerous in the tokens
still shows in what the patterns leave; that is so where they leave what the
engine's lexer leaves.
-/

namespace DbBuddy.Sql

open DbBuddy.Library DbBuddy.Dialects

/-! ## Dangerous texts -/

/-- Something stands behind a semicolon. -/
def Stacked (found : List Lexeme) : Prop :=
  ∃ before after, found = before ++ .symbol ';' :: after ∧
    ∃ token ∈ after, token ≠ .symbol ';'

/-- EXPLAIN comes first, and a write keyword later. -/
def ExplainsWrite (found : List Lexeme) : Prop :=
  ∃ first rest, found = .word first :: rest ∧ keyword first = "explain" ∧
    ∃ word, .word word ∈ rest ∧ keyword word ∈ writeQueries

def Dangerous (engine : DatabaseEngine) (sql : List Char) : Prop :=
  Stacked (tokens engine sql) ∨ ExplainsWrite (tokens engine sql)

/-- What is dangerous for the engine is a write for the gate. -/
def GateSound (lowercase : Lowercase) (engine : DatabaseEngine)
    (sql : List Char) : Prop :=
  Dangerous engine sql → classifyQuerySafety lowercase sql = (.write, true)

/-- One statement that begins with a read keyword, and with no write keyword among
its words if that is EXPLAIN. -/
def ShowsRead (lowercase : Lowercase) (text : List Char) : Prop :=
  ∃ statement, statements ';' text = [statement] ∧
    (loweredWords lowercase statement).headD "" ∈ readQueries ∧
    ((loweredWords lowercase statement).headD "" = "explain" →
      ∀ word ∈ loweredWords lowercase statement, word ∉ writeQueries)

/-! ## What the lexer leaves, as a text -/

/-- A literal leaves its quotes, and a comment a blank. -/
def Span.blanked : Span → List Char
  | .code char => [char]
  | .literal quote => [quote, quote]
  | .comment => [' ']

def blanked (pieces : List Span) : List Char :=
  pieces.flatMap Span.blanked

/-- The patterns leave what the lexer leaves, a token stands before the first
semicolon, and a statement that explains a write has EXPLAIN and a write keyword
between blanks. -/
structure StripsAsLexed (lowercase : Lowercase) (engine : DatabaseEngine)
    (sql : List Char) : Prop where
  same : stripLiteralsAndComments sql = blanked (lex engine sql)
  begun : (tokens engine sql).head? ≠ some (.symbol ';')
  apart : ExplainsWrite (tokens engine sql) → ∀ statement,
    statements ';' (blanked (lex engine sql)) = [statement] →
    (loweredWords lowercase statement).headD "" = "explain" ∧
      ∃ word ∈ loweredWords lowercase statement, word ∈ writeQueries

section Splitting

/-! ### Parts between semicolons -/

theorem mem_dropWhile_of_not {char : Char} {test : Char → Bool}
    {text : List Char} (isIn : char ∈ text) (fails : test char = false) :
    char ∈ text.dropWhile test := by
  induction text with
  | nil =>
      cases isIn
  | cons head tail inductionHypothesis =>
      rw [List.dropWhile_cons]
      split
      · rename_i passes
        rcases List.mem_cons.mp isIn with rfl | inTail
        · simp [fails] at passes
        · exact inductionHypothesis inTail
      · exact isIn

theorem mem_strip_of_mem {char : Char} {text : List Char} (isIn : char ∈ text)
    (isSolid : isSpace char = false) : char ∈ strip text := by
  have inFront := mem_dropWhile_of_not isIn isSolid
  have inBack := mem_dropWhile_of_not (List.mem_reverse.mpr inFront) isSolid
  exact List.mem_reverse.mpr inBack

theorem statements_append (before after : List Char) :
    statements ';' (before ++ ';' :: after) =
      statements ';' before ++ statements ';' after := by
  simp only [statements, List.splitOn_append_cons_self, List.map_append,
    List.filter_append]

/-- A character of a text stands in one of its parts, unless it separates them. -/
theorem mem_splitOn {char separator : Char} {text : List Char}
    (isIn : char ∈ text) (different : char ≠ separator) :
    ∃ part ∈ text.splitOn separator, char ∈ part := by
  induction text with
  | nil =>
      cases isIn
  | cons head tail inductionHypothesis =>
      rw [List.splitOn_cons_eq_if_modifyHead]
      split
      · rename_i separates
        have inTail : char ∈ tail := by
          rcases List.mem_cons.mp isIn with rfl | inTail
          · exact absurd (beq_iff_eq.mp separates) different
          · exact inTail
        obtain ⟨part, isPart, inPart⟩ := inductionHypothesis inTail
        exact ⟨part, List.mem_cons_of_mem _ isPart, inPart⟩
      · cases parts : tail.splitOn separator with
        | nil =>
            exact absurd parts (List.splitOn_ne_nil separator tail)
        | cons first others =>
            rw [List.modifyHead_cons]
            rcases List.mem_cons.mp isIn with rfl | inTail
            · exact ⟨char :: first, List.mem_cons_self, List.mem_cons_self⟩
            · obtain ⟨part, isPart, inPart⟩ := inductionHypothesis inTail
              rw [parts] at isPart
              rcases List.mem_cons.mp isPart with rfl | isOther
              · exact ⟨head :: part, List.mem_cons_self,
                  List.mem_cons_of_mem head inPart⟩
              · exact ⟨part, List.mem_cons_of_mem _ isOther, inPart⟩

theorem statements_ne_nil {char : Char} {text : List Char} (isIn : char ∈ text)
    (isSolid : isSpace char = false) (different : char ≠ ';') :
    statements ';' text ≠ [] := by
  obtain ⟨part, isPart, inPart⟩ := mem_splitOn isIn different
  have inStripped := mem_strip_of_mem inPart isSolid
  have nonempty : (!(strip part).isEmpty) = true := by
    cases stripped : strip part with
    | nil =>
        simp [stripped] at inStripped
    | cons head tail =>
        rfl
  have isStatement : strip part ∈ statements ';' text :=
    List.mem_filter.mpr ⟨List.mem_map_of_mem isPart, nonempty⟩
  exact List.ne_nil_of_mem isStatement

end Splitting

section Tokens

/-! ### Tokens and the pieces they come from -/

theorem isWordChar_solid {char : Char} (isWord : isWordChar char = true) :
    isSpace char = false ∧ char ≠ ';' := by
  have ofBounds : 32 < char.toNat → char.toNat < 128 → char.toNat ≠ 59 →
      isSpace char = false ∧ char ≠ ';' := by
    intro low high different
    refine ⟨?_, fun same => different (same ▸ rfl)⟩
    by_contra isSpaced
    have bounds := isSpace_bounds (eq_true_of_ne_false isSpaced)
    omega
  simp only [isWordChar, isAlphanum_iff, Bool.or_eq_true, Bool.and_eq_true,
    decide_eq_true_eq, beq_iff_eq, Bool.not_eq_true'] at isWord
  rcases isWord with ((isLetter | rfl) | rfl) | ⟨isHigh, isSolid⟩
  · have bounds : 32 < char.toNat ∧ char.toNat < 128 ∧ char.toNat ≠ 59 := by
      omega
    exact ofBounds bounds.1 bounds.2.1 bounds.2.2
  · decide
  · decide
  · refine ⟨isSolid, ?_⟩
    rintro rfl
    exact absurd isHigh (by decide)

/-- Pieces that hold a character of some word or symbol other than `;`. -/
def Solid (pieces : List Span) : Prop :=
  ∃ char, .code char ∈ pieces ∧ isSpace char = false ∧ char ≠ ';'

theorem Solid.cons {pieces : List Span} (solid : Solid pieces) (piece : Span) :
    Solid (piece :: pieces) := by
  obtain ⟨char, isCode, isSolid, different⟩ := solid
  exact ⟨char, List.mem_cons_of_mem piece isCode, isSolid, different⟩

theorem Solid.mem_blanked {pieces : List Span} (solid : Solid pieces) :
    ∃ char ∈ blanked pieces, isSpace char = false ∧ char ≠ ';' := by
  obtain ⟨char, isCode, isSolid, different⟩ := solid
  refine ⟨char, ?_, isSolid, different⟩
  exact List.mem_flatMap.mpr ⟨.code char, isCode, List.mem_singleton_self char⟩

/-- A token other than `;` comes from a character of some word or symbol. -/
theorem solid_of_mem {token : Lexeme} {word : List Char} {pieces : List Span}
    (isToken : token ∈ tokensFrom word pieces) (different : token ≠ .symbol ';') :
    word ≠ [] ∨ Solid pieces := by
  induction pieces generalizing word with
  | nil =>
      left
      rintro rfl
      simp [tokensFrom, pending] at isToken
  | cons piece rest inductionHypothesis =>
      by_cases noWord : word = []
      · right
        subst noWord
        cases piece with
        | code char =>
            simp only [tokensFrom] at isToken
            split at isToken
            · rename_i isWord
              have parts := isWordChar_solid isWord
              exact ⟨char, List.mem_cons_self, parts.1, parts.2⟩
            · simp only [pending, if_true, List.nil_append, List.mem_append]
                at isToken
              rcases isToken with isSymbol | later
              · split at isSymbol
                · cases isSymbol
                · rename_i isSolid
                  have same := List.mem_singleton.mp isSymbol
                  refine ⟨char, List.mem_cons_self, ?_, ?_⟩
                  · simpa using isSolid
                  · rintro rfl
                    exact different same
              · have solid := inductionHypothesis later
                exact (solid.resolve_left (by simp)).cons _
        | literal | comment =>
            simp only [tokensFrom, pending, if_true, List.nil_append] at isToken
            have solid := inductionHypothesis isToken
            exact (solid.resolve_left (by simp)).cons _
      · exact Or.inl noWord

/-- What has no semicolon stands before the first one. -/
theorem split_after {passed rest before after : List Lexeme}
    (noSymbol : .symbol ';' ∉ passed)
    (isSplit : passed ++ rest = before ++ .symbol ';' :: after) :
    ∃ later, before = passed ++ later ∧ rest = later ++ .symbol ';' :: after := by
  rcases List.append_eq_append_iff.mp isSplit with ⟨later, isBefore, isRest⟩ |
    ⟨middle, isPassed, isRest⟩
  · exact ⟨later, isBefore, isRest⟩
  · cases middle with
    | nil =>
        refine ⟨[], ?_, isRest.symm⟩
        rw [isPassed, List.append_nil, List.append_nil]
    | cons head tail =>
        obtain ⟨rfl, _⟩ := List.cons.inj isRest
        rw [isPassed] at noSymbol
        exact absurd (List.mem_append_right _ List.mem_cons_self) noSymbol

/-- A semicolon among the tokens is one among the pieces. -/
theorem tokensFrom_split {word : List Char} {pieces : List Span}
    {before after : List Lexeme}
    (isSplit : tokensFrom word pieces = before ++ .symbol ';' :: after) :
    ∃ front back, pieces = front ++ .code ';' :: back ∧
      tokensFrom word front = before ∧ tokensFrom [] back = after := by
  induction pieces generalizing word before with
  | nil =>
      have noSymbol : .symbol ';' ∉ tokensFrom word [] := by
        simp only [tokensFrom, pending]
        split_ifs
        · simp
        · simp
      rw [isSplit] at noSymbol
      exact absurd (List.mem_append_right _ List.mem_cons_self) noSymbol
  | cons piece rest inductionHypothesis =>
      -- A token list in front that has no semicolon is passed over.
      have passOver : ∀ {passed : List Lexeme}, .symbol ';' ∉ passed →
          (∀ front, tokensFrom word (piece :: front) =
            passed ++ tokensFrom [] front) →
          ∃ front back, piece :: rest = front ++ .code ';' :: back ∧
            tokensFrom word front = before ∧ tokensFrom [] back = after := by
        intro passed noSymbol unfolds
        rw [unfolds] at isSplit
        obtain ⟨later, rfl, restSplit⟩ := split_after noSymbol isSplit
        obtain ⟨front, back, rfl, isFront, isBack⟩ :=
          inductionHypothesis restSplit
        refine ⟨piece :: front, back, rfl, ?_, isBack⟩
        rw [unfolds, isFront]
      have pendingPlain : .symbol ';' ∉ pending word := by
        simp only [pending]
        split_ifs
        · simp
        · simp
      cases piece with
      | code char =>
          by_cases isWord : isWordChar char = true
          · simp only [tokensFrom, if_pos isWord] at isSplit
            obtain ⟨front, back, rfl, isFront, isBack⟩ :=
              inductionHypothesis isSplit
            refine ⟨.code char :: front, back, rfl, ?_, isBack⟩
            simp only [tokensFrom, if_pos isWord, isFront]
          · by_cases isSemicolon : char = ';'
            · subst isSemicolon
              -- It is this one, or it comes later.
              have unfolds : ∀ front,
                  tokensFrom word (.code ';' :: front) =
                    pending word ++ (.symbol ';' :: tokensFrom [] front) := by
                intro front
                rfl
              rw [unfolds] at isSplit
              obtain ⟨later, rfl, restSplit⟩ := split_after pendingPlain isSplit
              cases later with
              | nil =>
                  refine ⟨[], rest, rfl, ?_, (List.cons.inj restSplit).2⟩
                  rw [List.append_nil]
                  rfl
              | cons head tail =>
                  obtain ⟨rfl, tailSplit⟩ := List.cons.inj restSplit
                  obtain ⟨front, back, rfl, isFront, isBack⟩ :=
                    inductionHypothesis tailSplit
                  refine ⟨.code ';' :: front, back, rfl, ?_, isBack⟩
                  rw [unfolds, isFront]
            · have plain : .symbol ';' ∉ pending word ++
                  (if isSpace char then [] else [.symbol char]) := by
                intro isIn
                rcases List.mem_append.mp isIn with isPending | isSymbol
                · exact pendingPlain isPending
                · split_ifs at isSymbol
                  · cases isSymbol
                  · cases List.mem_singleton.mp isSymbol
                    exact isSemicolon rfl
              refine passOver plain fun front => ?_
              simp only [tokensFrom, if_neg isWord, List.append_assoc]
      | literal quote =>
          exact passOver pendingPlain (fun _ => rfl)
      | comment =>
          exact passOver pendingPlain (fun _ => rfl)

end Tokens

section Gate

variable {lowercase : Lowercase} {engine : DatabaseEngine} {sql : List Char}

/-- The gate never answers anything but a read or a write. -/
theorem showsRead_of_not_write
    (notWrite : classifyQuerySafety lowercase sql ≠ (.write, true)) :
    ShowsRead lowercase (stripLiteralsAndComments sql) := by
  have isRead :=
    (classifyQuerySafety_cases lowercase sql).resolve_right notWrite
  exact (classifyQuerySafety_eq_read_iff lowercase sql).mp isRead

/-- A stacked text that does not begin with a semicolon leaves two statements. -/
theorem two_statements (begun : (tokens engine sql).head? ≠ some (.symbol ';'))
    (stacked : Stacked (tokens engine sql)) :
    2 ≤ (statements ';' (blanked (lex engine sql))).length := by
  obtain ⟨before, after, isSplit, token, isAfter, different⟩ := stacked
  obtain ⟨front, back, isPieces, isFront, isBack⟩ := tokensFrom_split isSplit
  have backSolid : Solid back := by
    rw [← isBack] at isAfter
    exact (solid_of_mem isAfter different).resolve_left (by simp)
  have frontSolid : Solid front := by
    cases before with
    | nil =>
        rw [isSplit] at begun
        exact absurd rfl begun
    | cons head tail =>
        rw [isSplit] at begun
        have notSemicolon : head ≠ .symbol ';' := by
          rintro rfl
          exact begun rfl
        have isToken : head ∈ tokensFrom [] front := by
          rw [isFront]
          exact List.mem_cons_self
        exact (solid_of_mem isToken notSemicolon).resolve_left (by simp)
  have parts : blanked (lex engine sql) =
      blanked front ++ ';' :: blanked back := by
    rw [isPieces]
    simp [blanked, Span.blanked]
  obtain ⟨char, inFront, isSolid, notSeparator⟩ := frontSolid.mem_blanked
  obtain ⟨other, inBack, otherSolid, otherNot⟩ := backSolid.mem_blanked
  have frontParts := statements_ne_nil inFront isSolid notSeparator
  have backParts := statements_ne_nil inBack otherSolid otherNot
  have frontLength := List.length_pos_iff.mpr frontParts
  have backLength := List.length_pos_iff.mpr backParts
  rw [parts, statements_append, List.length_append]
  omega

/-- Where the patterns leave what the lexer leaves, what is dangerous shows. -/
theorem StripsAsLexed.not_showsRead
    (strips : StripsAsLexed lowercase engine sql)
    (dangerous : Dangerous engine sql) :
    ¬ ShowsRead lowercase (stripLiteralsAndComments sql) := by
  rintro ⟨statement, isOne, _, noWrite⟩
  rw [strips.same] at isOne
  rcases dangerous with stacked | explains
  · have two := two_statements strips.begun stacked
    rw [isOne] at two
    simp at two
  · obtain ⟨isExplain, word, isWord, writes⟩ :=
      strips.apart explains statement isOne
    exact noWrite isExplain word isWord writes

end Gate

/-- A semicolon and a quote in each other's reach, and a second statement. -/
def stackedDrop : List Char :=
  "SELECT ';' /* it's; */ FROM t; DROP TABLE t".toList

/-- A quote in a comment opens what the first pattern takes for a literal, and it
closes in the next comment. -/
def quotedComment : List Char :=
  "SELECT 1 -- '\n; DROP TABLE t -- '".toList

/-- No comment outside MySQL. -/
def hashOperator : List Char := "SELECT 1 # 2; DROP TABLE t".toList

def explainedDelete : List Char :=
  "EXPLAIN ANALYZE WITH x AS (DELETE FROM t RETURNING *) SELECT 1".toList

end DbBuddy.Sql
