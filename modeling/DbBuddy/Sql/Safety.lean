import DbBuddy.Library.PythonText
import DbBuddy.Library.Scanning

/-!
# Reads and writes

The gate strips literals and comments with five patterns, one after the other, and
looks at the words of what is left.
-/

namespace DbBuddy.Sql

open DbBuddy.Library

/-- `READ_QUERIES` -/
def readQueries : List String := ["select", "show", "describe", "explain"]

/-- `WRITE_QUERIES` -/
def writeQueries : List String :=
  ["insert", "update", "delete", "drop", "alter", "truncate", "grant", "revoke",
    "create"]

/-! ## The five patterns -/

/-- What follows the closing quote of `'(?:[^']|'')*'`, the opening one having
been read.  A doubled quote is taken as one first; if the text then ends without a
closing quote, its first half closes the literal after all. -/
def closeLiteral (quote : Char) : List Char → Option (List Char)
  | [] => none
  | [char] => if char = quote then some [] else none
  | char :: next :: after =>
      if char = quote then
        if next = quote then
          (closeLiteral quote after).or (some (next :: after))
        else some (next :: after)
      else closeLiteral quote (next :: after)

/-- `'(?:[^']|'')*'`, replaced by two quotes. -/
def literalPattern (quote : Char) : Matcher (List Char)
  | [] => none
  | char :: rest =>
      if char = quote then
        (closeLiteral quote rest).map fun after => ([quote, quote], after)
      else none

/-- What follows the first `*/`. -/
def closeBlock : List Char → Option (List Char)
  | '*' :: '/' :: after => some after
  | _ :: rest => closeBlock rest
  | [] => none

/-- `/\*.*?\*/`, replaced by a blank. -/
def blockPattern : Matcher (List Char)
  | '/' :: '*' :: rest => (closeBlock rest).map fun after => ([' '], after)
  | _ => none

/-- The rest of a text from its next line break on. -/
def nextLine (text : List Char) : List Char :=
  text.dropWhile fun char => char != '\n'

/-- `--[^\n]*`, replaced by a blank. -/
def dashPattern : Matcher (List Char)
  | '-' :: '-' :: rest => some ([' '], nextLine rest)
  | _ => none

/-- `#[^\n]*`, replaced by a blank. -/
def hashPattern : Matcher (List Char)
  | '#' :: rest => some ([' '], nextLine rest)
  | _ => none

/-- `_strip_literals_and_comments` -/
def stripLiteralsAndComments (sql : List Char) : List Char :=
  substitute hashPattern
    (substitute dashPattern
      (substitute blockPattern
        (substitute (literalPattern '"')
          (substitute (literalPattern '\'') sql))))

/-! ## The classification -/

inductive SafetyCategory where
  | read
  | write
  deriving DecidableEq, Repr

/-- The words of a statement, in lower case. -/
def loweredWords (lowercase : Lowercase) (statement : List Char) :
    List String :=
  (words (lowercase.text statement)).map String.ofList

/-- The verdict on the statements of a text without literals and comments. -/
def classifyStatements (lowercase : Lowercase) :
    List (List Char) → SafetyCategory × Bool
  | [] => (.write, true)
  | [statement] =>
      let found := loweredWords lowercase statement
      let firstWord := found.headD ""
      if firstWord ∈ readQueries then
        if firstWord = "explain" ∧ ∃ word ∈ found, word ∈ writeQueries then
          (.write, true)
        else (.read, false)
      else (.write, true)
  | _ :: _ :: _ => (.write, true)

/-- `classify_query_safety` -/
def classifyQuerySafety (lowercase : Lowercase) (sql : List Char) :
    SafetyCategory × Bool :=
  classifyStatements lowercase
    (statements ';' (stripLiteralsAndComments sql))

/-- A read needs no confirmation, and a write does. -/
theorem classifyQuerySafety_cases (lowercase : Lowercase) (sql : List Char) :
    classifyQuerySafety lowercase sql = (.read, false) ∨
      classifyQuerySafety lowercase sql = (.write, true) := by
  unfold classifyQuerySafety classifyStatements
  split
  · exact Or.inr rfl
  · dsimp only
    split
    · split
      · exact Or.inr rfl
      · exact Or.inl rfl
    · exact Or.inr rfl
  · exact Or.inr rfl

/-- A text passes as a read if, stripped, it is one statement that starts with a
read keyword and, after EXPLAIN, has no write keyword for a word. -/
theorem classifyQuerySafety_eq_read_iff (lowercase : Lowercase)
    (sql : List Char) :
    classifyQuerySafety lowercase sql = (.read, false) ↔
      ∃ statement,
        statements ';' (stripLiteralsAndComments sql) = [statement] ∧
        (loweredWords lowercase statement).headD "" ∈ readQueries ∧
        ((loweredWords lowercase statement).headD "" = "explain" →
          ∀ word ∈ loweredWords lowercase statement, word ∉ writeQueries) := by
  unfold classifyQuerySafety
  constructor
  · intro isRead
    cases parts : statements ';' (stripLiteralsAndComments sql) with
    | nil =>
        simp [parts, classifyStatements] at isRead
    | cons statement rest =>
        cases rest with
        | cons next others =>
            simp [parts, classifyStatements] at isRead
        | nil =>
            rw [parts] at isRead
            simp only [classifyStatements] at isRead
            split at isRead
            · rename_i startsRead
              split at isRead
              · cases isRead
              · rename_i notWriting
                refine ⟨statement, rfl, startsRead, ?_⟩
                intro explains word isWord writes
                exact notWriting ⟨explains, word, isWord, writes⟩
            · cases isRead
  · rintro ⟨statement, parts, startsRead, noWrite⟩
    rw [parts]
    simp only [classifyStatements, if_pos startsRead]
    rw [if_neg]
    rintro ⟨explains, word, isWord, writes⟩
    exact noWrite explains word isWord writes

end DbBuddy.Sql
