import DbBuddy.Sql.Safety
import DbBuddy.Dialects.Engine

/-!
# What an engine reads

An engine recognises literals and comments in the order they begin in, and skips
them; what is left are words and symbols.  A literal or a comment that is not
closed takes the rest of the text.
-/

namespace DbBuddy.Sql

open DbBuddy.Library DbBuddy.Dialects

inductive Span where
  | code (char : Char)
  | literal (quote : Char)
  | comment
  deriving DecidableEq, Repr

/-- What follows the quote that closes a literal; a doubled one does not. -/
def skipLiteral (quote : Char) : List Char → List Char
  | [] => []
  | [_] => []
  | char :: next :: after =>
      if char = quote then
        if next = quote then skipLiteral quote after else next :: after
      else skipLiteral quote (next :: after)

def lexeme (engine : DatabaseEngine) : Matcher Span
  | '\'' :: rest => some (.literal '\'', skipLiteral '\'' rest)
  | '"' :: rest => some (.literal '"', skipLiteral '"' rest)
  | '-' :: '-' :: rest => some (.comment, nextLine rest)
  | '/' :: '*' :: rest => some (.comment, (closeBlock rest).getD [])
  | '#' :: rest =>
      if engine = .mysql then some (.comment, nextLine rest) else none
  | _ => none

def lex (engine : DatabaseEngine) (sql : List Char) : List Span :=
  scan (lexeme engine) .code sql

/-! ## Tokens -/

inductive Lexeme where
  | word (text : List Char)
  | symbol (char : Char)
  deriving DecidableEq, Repr

/-- Letters, digits, underscores and dollars, and what is no ASCII character. -/
def isWordChar (char : Char) : Bool :=
  char.isAlphanum || char == '_' || char == '$' ||
    (decide (128 ≤ char.toNat) && !isSpace char)

/-- The word read so far, if there is one. -/
def pending (word : List Char) : List Lexeme :=
  if word = [] then [] else [.word word]

def tokensFrom : List Char → List Span → List Lexeme
  | word, [] => pending word
  | word, .code char :: rest =>
      if isWordChar char then tokensFrom (word ++ [char]) rest
      else pending word ++
        ((if isSpace char then [] else [.symbol char]) ++ tokensFrom [] rest)
  | word, .literal _ :: rest => pending word ++ tokensFrom [] rest
  | word, .comment :: rest => pending word ++ tokensFrom [] rest

def tokens (engine : DatabaseEngine) (sql : List Char) : List Lexeme :=
  tokensFrom [] (lex engine sql)

/-- A word as a keyword, which engines read in any case. -/
def keyword (word : List Char) : String :=
  String.ofList (word.map Char.toLower)

/-! ## What a lexeme leaves -/

theorem skipLiteral_suffix (quote : Char) (text : List Char) :
    skipLiteral quote text <:+ text := by
  induction text using skipLiteral.induct quote with
  | case1 =>
      exact List.suffix_rfl
  | case2 char =>
      exact List.nil_suffix
  | case3 after inductionHypothesis =>
      simp only [skipLiteral, if_true]
      exact (inductionHypothesis.trans (List.suffix_cons _ _)).trans
        (List.suffix_cons _ _)
  | case4 next after notDoubled =>
      simp only [skipLiteral, if_true, if_neg notDoubled]
      exact List.suffix_cons _ _
  | case5 char next after notQuote inductionHypothesis =>
      simp only [skipLiteral, if_neg notQuote]
      exact inductionHypothesis.trans (List.suffix_cons _ _)

theorem closeBlock_suffix {text after : List Char}
    (closed : closeBlock text = some after) : after <:+ text := by
  induction text using closeBlock.induct with
  | case1 rest =>
      simp only [closeBlock, Option.some.injEq] at closed
      rw [← closed]
      exact (List.suffix_cons _ _).trans (List.suffix_cons _ _)
  | case2 char rest notClosing inductionHypothesis =>
      rw [closeBlock] at closed
      · exact (inductionHypothesis closed).trans (List.suffix_cons _ _)
      · exact notClosing
  | case3 =>
      cases closed

theorem nextLine_suffix (text : List Char) : nextLine text <:+ text :=
  List.dropWhile_suffix _

theorem lexeme_consumes (engine : DatabaseEngine) :
    Consumes (lexeme engine) := by
  intro char rest piece after found
  unfold lexeme at found
  split at found
  · rename_i text same
    cases same
    cases found
    exact skipLiteral_suffix _ _
  · rename_i text same
    cases same
    cases found
    exact skipLiteral_suffix _ _
  · rename_i text same
    cases same
    cases found
    exact (nextLine_suffix _).trans (List.suffix_cons _ _)
  · rename_i text same
    cases same
    cases found
    refine List.IsSuffix.trans ?_ (List.suffix_cons _ _)
    cases closed : closeBlock text with
    | none =>
        exact List.nil_suffix
    | some after =>
        exact closeBlock_suffix closed
  · rename_i text same
    cases same
    split at found
    · cases found
      exact nextLine_suffix _
    · cases found
  · cases found

/-- Nothing begins with a character that is no quote, dash, slash or hash. -/
theorem lexeme_eq_none {engine : DatabaseEngine} {char : Char}
    (isPlain : char ∉ ['\'', '"', '-', '/', '#']) (rest : List Char) :
    lexeme engine (char :: rest) = none := by
  simp only [List.mem_cons, List.not_mem_nil, or_false, not_or] at isPlain
  obtain ⟨notQuote, notDouble, notDash, notSlash, notHash⟩ := isPlain
  unfold lexeme
  split
  all_goals simp_all

end DbBuddy.Sql
