import DbBuddy.Library.UnitReading
import DbBuddy.Sql.Operators
import Mathlib.Data.List.TakeWhile

/-!
# The literals of the engines

How each engine reads a constant, with its default settings.  A quote in a text is
written twice everywhere.  MySQL also takes a backslash and the character behind it
for one; SQL Server drops a backslash with the line break behind it, and keeps of a
text without `N` in front what the code page of the database has.
-/

namespace DbBuddy.Sql

open DbBuddy.Library DbBuddy.Dialects

/-! ## Texts -/

/-- A character in front of what has been read. -/
def push (chars : List Char) (reading : List Char × List Char) :
    List Char × List Char :=
  (chars ++ reading.1, reading.2)

/-- What a text literal of PostgreSQL stands for, behind its first quote, and what
follows the literal. -/
def readStandard : List Char → Option (List Char × List Char)
  | [] => none
  | '\'' :: '\'' :: rest => (readStandard rest).map (push ['\''])
  | '\'' :: rest => some ([], rest)
  | char :: rest => (readStandard rest).map (push [char])

/-- What a backslash and this character stand for in MySQL.  Of `\%` and `\_` both
characters stay, for `LIKE`. -/
def unescape (char : Char) : List Char :=
  if char = '%' ∨ char = '_' then ['\\', char]
  else if char = 'n' then ['\n']
  else if char = 't' then ['\t']
  else if char = 'r' then ['\r']
  else if char = 'b' then ['\x08']
  else if char = '0' then ['\x00']
  else if char = 'Z' then ['\x1a']
  else [char]

/-- What a text literal of MySQL stands for. -/
def readEscaped : List Char → Option (List Char × List Char)
  | [] => none
  | '\'' :: '\'' :: rest => (readEscaped rest).map (push ['\''])
  | '\'' :: rest => some ([], rest)
  | ['\\'] => none
  | '\\' :: char :: rest => (readEscaped rest).map (push (unescape char))
  | char :: rest => (readEscaped rest).map (push [char])

/-- What a text literal of SQL Server stands for. -/
def readContinued : List Char → Option (List Char × List Char)
  | [] => none
  | '\'' :: '\'' :: rest => (readContinued rest).map (push ['\''])
  | '\'' :: rest => some ([], rest)
  | '\\' :: '\n' :: rest => readContinued rest
  | '\\' :: '\r' :: '\n' :: rest => readContinued rest
  | char :: rest => (readContinued rest).map (push [char])

/-- The code page of a database: what is stored for each character.  It has the
characters of ASCII, and what stands for another character is in it. -/
structure CodePage where
  stored : Char → List Char
  stored_ascii : ∀ char, char.toNat < 128 → stored char = [char]
  stored_stored : ∀ char, ∀ other ∈ stored char, stored other = [other]

/-- What an engine takes a character of a text literal for.  On SQL Server a literal
without `N` in front is `varchar`. -/
def CodePage.taken (page : CodePage) : DatabaseEngine → Char → List Char
  | .sqlserver, char => page.stored char
  | .mysql, char => [char]
  | .postgres, char => [char]

/-- The text that is stored for a text. -/
def CodePage.store (page : CodePage) (text : List Char) : List Char :=
  text.flatMap page.stored

def readText (page : CodePage) :
    DatabaseEngine → List Char → Option (List Char × List Char)
  | .mysql, chars => readEscaped chars
  | .postgres, chars => readStandard chars
  | .sqlserver, chars =>
      (readContinued chars).map fun reading => (page.store reading.1, reading.2)

section CodePage

variable {page : CodePage}

/-- An engine keeps the characters of ASCII. -/
theorem CodePage.taken_ascii {char : Char} (isAscii : char.toNat < 128)
    (engine : DatabaseEngine) : page.taken engine char = [char] := by
  cases engine with
  | mysql => rfl
  | postgres => rfl
  | sqlserver => exact page.stored_ascii char isAscii

@[simp] theorem CodePage.store_cons (char : Char) (text : List Char) :
    page.store (char :: text) = page.stored char ++ page.store text := by
  simp [CodePage.store]

/-- What is in the code page is stored as it is. -/
theorem CodePage.store_eq {text : List Char}
    (areKept : ∀ char ∈ text, page.stored char = [char]) : page.store text = text := by
  induction text with
  | nil =>
      rfl
  | cons char rest inductionHypothesis =>
      rw [List.forall_mem_cons] at areKept
      rw [CodePage.store_cons, areKept.1, inductionHypothesis areKept.2]
      rfl

/-- What is stored is in the code page. -/
theorem CodePage.kept_of_mem_store {text : List Char} {char : Char}
    (isStored : char ∈ page.store text) : page.stored char = [char] := by
  obtain ⟨source, -, isThere⟩ := List.mem_flatMap.mp isStored
  exact page.stored_stored source char isThere

/-- A code page with ASCII alone, and a question mark for the rest. -/
def CodePage.plain : CodePage where
  stored char := if char.toNat < 128 then [char] else ['?']
  stored_ascii char isAscii := by
    rw [if_pos isAscii]
  stored_stored char other isThere := by
    split at isThere
    · rename_i isAscii
      cases List.mem_singleton.mp isThere
      rw [if_pos isAscii]
    · cases List.mem_singleton.mp isThere
      decide

/-- A name in another script is lost. -/
example : readText .plain .sqlserver "\u6771\u4eac'".toList = some (['?', '?'], []) := by
  decide

end CodePage

/-! ## Constants -/

/-- The characters of numbers and of words, as far as they need to be told from
what stands between constants. -/
def isAtom (char : Char) : Bool :=
  char.isAlphanum || char == '_' || char == '.' || char == '+' || char == '-'

/-- The exponent of a number, which may be absent. -/
def isExponent : List Char → Bool
  | [] => true
  | mark :: sign :: digits =>
      (mark == 'e' || mark == 'E') &&
        (if sign == '+' || sign == '-' then
          !digits.isEmpty && digits.all Char.isDigit
        else (sign :: digits).all Char.isDigit)
  | _ => false

/-- Digits, perhaps a fraction, perhaps an exponent. -/
def isUnsigned (text : List Char) : Bool :=
  !(text.takeWhile Char.isDigit).isEmpty &&
    match text.dropWhile Char.isDigit with
    | '.' :: fraction =>
        !(fraction.takeWhile Char.isDigit).isEmpty &&
          isExponent (fraction.dropWhile Char.isDigit)
    | rest => isExponent rest

def isNumeral : List Char → Bool
  | '-' :: text => isUnsigned text
  | text => isUnsigned text

/-- The constant that a number or a word stands for.  SQL Server has no words for
the truth values. -/
def atomConstant (engine : DatabaseEngine) (word : List Char) : Option Scalar :=
  let lower := word.map Char.toLower
  if isNumeral word then some (.number (String.ofList word))
  else if lower = ['n', 'u', 'l', 'l'] then some .null
  else if engine = .sqlserver then none
  else if lower = ['t', 'r', 'u', 'e'] then some (.boolean true)
  else if lower = ['f', 'a', 'l', 's', 'e'] then some (.boolean false)
  else none

/-- The constant at the beginning of a text, and what follows it. -/
def readLiteral (page : CodePage) (engine : DatabaseEngine) :
    List Char → Option (Scalar × List Char)
  | '\'' :: rest =>
      (readText page engine rest).map fun reading =>
        (.text (String.ofList reading.1), reading.2)
  | chars =>
      (atomConstant engine (chars.takeWhile isAtom)).map fun constant =>
        (constant, chars.dropWhile isAtom)

/-- A reading with something in front came from one without. -/
theorem map_push {reading : Option (List Char × List Char)}
    {chars text after : List Char}
    (isReading : reading.map (push chars) = some (text, after)) :
    ∃ later, reading = some (later, after) ∧ text = chars ++ later := by
  obtain ⟨parts, isParts, pushed⟩ := Option.map_eq_some_iff.mp isReading
  obtain ⟨later, rest⟩ := parts
  have sameText : chars ++ later = text := congrArg Prod.fst pushed
  have sameRest : rest = after := congrArg Prod.snd pushed
  rw [sameRest] at isParts
  exact ⟨later, isParts, sameText.symm⟩

/-- With one character in front. -/
theorem map_push_char {reading : Option (List Char × List Char)}
    {char first : Char} {text after : List Char}
    (isReading : reading.map (push [char]) = some (first :: text, after)) :
    first = char ∧ reading = some (text, after) := by
  obtain ⟨later, isLater, isText⟩ := map_push isReading
  have parts := List.cons.inj isText
  have sameText : text = later := parts.2
  rw [sameText]
  exact ⟨parts.1, isLater⟩

/-! ## What may follow a constant -/

/-- A blank, a bracket or a comma. -/
def IsClear (char : Char) : Prop :=
  char = ' ' ∨ char = ')' ∨ char = ','

instance (char : Char) : Decidable (IsClear char) :=
  inferInstanceAs (Decidable (_ ∨ _ ∨ _))

/-- Nothing follows, or what cannot be part of a constant. -/
def StartsClear (text : List Char) : Prop :=
  ∀ char ∈ text.head?, IsClear char

section Clear

variable {char : Char} {rest : List Char}

theorem startsClear_nil : StartsClear [] := by
  intro char isHead
  cases isHead

theorem startsClear_cons : StartsClear (char :: rest) ↔ IsClear char := by
  simp [StartsClear]

instance : (text : List Char) → Decidable (StartsClear text)
  | [] => isTrue startsClear_nil
  | _ :: _ => decidable_of_iff _ startsClear_cons.symm

theorem IsClear.not_quote (isClear : IsClear char) : char ≠ '\'' := by
  rcases isClear with isBlank | isBracket | isComma
  · simp [isBlank]
  · simp [isBracket]
  · simp [isComma]

theorem IsClear.not_backslash (isClear : IsClear char) : char ≠ '\\' := by
  rcases isClear with isBlank | isBracket | isComma
  · simp [isBlank]
  · simp [isBracket]
  · simp [isComma]

theorem IsClear.not_break (isClear : IsClear char) :
    char ≠ '\n' ∧ char ≠ '\r' := by
  rcases isClear with isBlank | isBracket | isComma
  · simp [isBlank]
  · simp [isBracket]
  · simp [isComma]

theorem IsClear.not_atom (isClear : IsClear char) : isAtom char = false := by
  rcases isClear with isBlank | isBracket | isComma
  · rw [isBlank]
    decide
  · rw [isBracket]
    decide
  · rw [isComma]
    decide

theorem IsClear.ascii (isClear : IsClear char) : char.toNat < 128 := by
  rcases isClear with isBlank | isBracket | isComma
  · rw [isBlank]
    decide
  · rw [isBracket]
    decide
  · rw [isComma]
    decide

theorem IsClear.unescape_eq (isClear : IsClear char) :
    unescape char = [char] := by
  rcases isClear with isBlank | isBracket | isComma
  · rw [isBlank]
    rfl
  · rw [isBracket]
    rfl
  · rw [isComma]
    rfl

end Clear

/-! ## One step of a reader -/

section Steps

variable {char : Char} {rest after : List Char}

theorem readStandard_close (isClear : StartsClear after) :
    readStandard ('\'' :: after) = some ([], after) := by
  cases after with
  | nil => rfl
  | cons next more =>
      rw [readStandard]
      intro other isQuote
      exact (startsClear_cons.mp isClear).not_quote (List.cons.inj isQuote).1

theorem readStandard_char (notQuote : char ≠ '\'') :
    readStandard (char :: rest) = (readStandard rest).map (push [char]) := by
  rw [readStandard]
  · intro other isQuote
    exact absurd isQuote notQuote
  · exact notQuote

theorem readEscaped_close (isClear : StartsClear after) :
    readEscaped ('\'' :: after) = some ([], after) := by
  cases after with
  | nil => rfl
  | cons next more =>
      rw [readEscaped]
      intro other isQuote
      exact (startsClear_cons.mp isClear).not_quote (List.cons.inj isQuote).1

theorem readEscaped_char (notQuote : char ≠ '\'') (notBackslash : char ≠ '\\') :
    readEscaped (char :: rest) = (readEscaped rest).map (push [char]) := by
  rw [readEscaped]
  · intro other isQuote
    exact absurd isQuote notQuote
  · exact notQuote
  · intro isBackslash
    exact absurd isBackslash notBackslash
  · intro next other isBackslash
    exact absurd isBackslash notBackslash

theorem readContinued_close (isClear : StartsClear after) :
    readContinued ('\'' :: after) = some ([], after) := by
  cases after with
  | nil => rfl
  | cons next more =>
      rw [readContinued]
      intro other isQuote
      exact (startsClear_cons.mp isClear).not_quote (List.cons.inj isQuote).1

/-- No line break stands behind a backslash. -/
def NoBreak (rest : List Char) : Prop :=
  ∀ more, rest ≠ '\n' :: more ∧ rest ≠ '\r' :: '\n' :: more

theorem readContinued_char (notQuote : char ≠ '\'')
    (noBreak : char = '\\' → NoBreak rest) :
    readContinued (char :: rest) = (readContinued rest).map (push [char]) := by
  rw [readContinued]
  · intro other isQuote
    exact absurd isQuote notQuote
  · exact notQuote
  · intro other isBackslash isBreak
    exact (noBreak isBackslash other).1 isBreak
  · intro other isBackslash isBreak
    exact (noBreak isBackslash other).2 isBreak

end Steps

/-! ## Texts that are written with doubled quotes -/

section Doubled

variable {after : List Char}

@[simp] theorem doubleQuotes_quote (rest : List Char) :
    doubleQuotes ('\'' :: rest) = '\'' :: '\'' :: doubleQuotes rest := by
  rfl

theorem doubleQuotes_char {char : Char} (notQuote : char ≠ '\'')
    (rest : List Char) :
    doubleQuotes (char :: rest) = char :: doubleQuotes rest := by
  simp [doubleQuotes, notQuote]

/-- PostgreSQL reads every text as it is. -/
theorem readStandard_doubled (isClear : StartsClear after) (text : List Char) :
    readStandard (doubleQuotes text ++ '\'' :: after) = some (text, after) := by
  induction text with
  | nil =>
      exact readStandard_close isClear
  | cons char rest inductionHypothesis =>
      by_cases isQuote : char = '\''
      · rw [isQuote, doubleQuotes_quote, List.cons_append, List.cons_append,
          readStandard, inductionHypothesis]
        rfl
      · rw [doubleQuotes_char isQuote, List.cons_append, readStandard_char isQuote,
          inductionHypothesis]
        rfl

/-- Behind each backslash stands a percent sign or an underscore. -/
def keepsBackslashes : List Char → Bool
  | [] => true
  | ['\\'] => false
  | '\\' :: char :: rest =>
      (char == '%' || char == '_') && keepsBackslashes rest
  | _ :: rest => keepsBackslashes rest

theorem keepsBackslashes_char {char : Char} (notBackslash : char ≠ '\\')
    (rest : List Char) :
    keepsBackslashes (char :: rest) = keepsBackslashes rest := by
  rw [keepsBackslashes]
  · intro isBackslash
    exact absurd isBackslash notBackslash
  · intro next other isBackslash
    exact absurd isBackslash notBackslash

theorem not_backslash {char : Char} {rest : List Char}
    (notLast : char = '\\' → rest = [] → False)
    (notEscape : ∀ next more, char = '\\' → rest = next :: more → False) :
    char ≠ '\\' := by
  intro isBackslash
  cases rest with
  | nil => exact notLast isBackslash rfl
  | cons next more => exact notEscape next more isBackslash rfl

/-- The backslash stays where one stands in front of these two only. -/
theorem unescape_kept {char : Char} (isKept : char = '%' ∨ char = '_') :
    unescape char = ['\\', char] := by
  rw [unescape, if_pos isKept]

/-- Only a backslash stands for one alone. -/
theorem unescape_alone {char : Char} (notKept : ¬ (char = '%' ∨ char = '_'))
    (notBackslash : char ≠ '\\') :
    ∃ meant, unescape char = [meant] ∧ meant ≠ '\\' := by
  unfold unescape
  rw [if_neg notKept]
  split
  · exact ⟨_, rfl, by decide⟩
  · split
    · exact ⟨_, rfl, by decide⟩
    · split
      · exact ⟨_, rfl, by decide⟩
      · split
        · exact ⟨_, rfl, by decide⟩
        · split
          · exact ⟨_, rfl, by decide⟩
          · split
            · exact ⟨_, rfl, by decide⟩
            · exact ⟨_, rfl, notBackslash⟩

theorem not_quote_of_kept {char : Char} (isKept : char = '%' ∨ char = '_') :
    char ≠ '\'' := by
  rcases isKept with isPercent | isUnderscore
  · simp [isPercent]
  · simp [isUnderscore]

/-- MySQL reads a text as it is if its backslashes stay. -/
theorem readEscaped_doubled (isClear : StartsClear after) (text : List Char)
    (keeps : keepsBackslashes text = true) :
    readEscaped (doubleQuotes text ++ '\'' :: after) = some (text, after) := by
  induction text using keepsBackslashes.induct with
  | case1 =>
      exact readEscaped_close isClear
  | case2 =>
      cases keeps
  | case3 char rest inductionHypothesis =>
      rw [keepsBackslashes, Bool.and_eq_true, Bool.or_eq_true, beq_iff_eq,
        beq_iff_eq] at keeps
      have notQuote : char ≠ '\'' := not_quote_of_kept keeps.1
      rw [doubleQuotes_char (by decide), doubleQuotes_char notQuote,
        List.cons_append, List.cons_append, readEscaped,
        inductionHypothesis keeps.2, unescape_kept keeps.1]
      rfl
  | case4 char rest notLast notEscape inductionHypothesis =>
      have notBackslash : char ≠ '\\' := not_backslash notLast notEscape
      rw [keepsBackslashes_char notBackslash] at keeps
      by_cases isQuote : char = '\''
      · rw [isQuote, doubleQuotes_quote, List.cons_append, List.cons_append,
          readEscaped, inductionHypothesis keeps]
        rfl
      · rw [doubleQuotes_char isQuote, List.cons_append,
          readEscaped_char isQuote notBackslash, inductionHypothesis keeps]
        rfl

/-- What stands for a backslash and more begins with two backslashes. -/
theorem unescape_backslash {char : Char} {later rest : List Char}
    (isBackslash : '\\' :: rest = unescape char ++ later) :
    char = '\\' ∧ rest = later ∨
      (char = '%' ∨ char = '_') ∧ rest = char :: later := by
  by_cases isKept : char = '%' ∨ char = '_'
  · rw [unescape_kept isKept] at isBackslash
    exact .inr ⟨isKept, (List.cons.inj isBackslash).2⟩
  · by_cases isAlone : char = '\\'
    · rw [isAlone] at isBackslash
      exact .inl ⟨isAlone, (List.cons.inj isBackslash).2⟩
    · obtain ⟨meant, isMeant, notBackslash⟩ := unescape_alone isKept isAlone
      rw [isMeant] at isBackslash
      exact absurd (List.cons.inj isBackslash).1.symm notBackslash

/-- A backslash at the end of a text takes the quote behind it along. -/
theorem readEscaped_last :
    readEscaped (doubleQuotes ['\\'] ++ '\'' :: after) =
      (readEscaped after).map (push (unescape '\'')) := by
  rw [doubleQuotes_char (by decide)]
  rfl

/-- A backslash within a text takes the next character along. -/
theorem readEscaped_pair (after : List Char) (char : Char) (more : List Char) :
    ∃ input, readEscaped (doubleQuotes ('\\' :: char :: more) ++ '\'' :: after) =
        (readEscaped input).map (push (unescape char)) ∧
      (char ≠ '\'' → input = doubleQuotes more ++ '\'' :: after) := by
  rw [doubleQuotes_char (by decide)]
  by_cases isQuote : char = '\''
  · rw [isQuote, doubleQuotes_quote]
    exact ⟨_, rfl, fun notQuote => absurd rfl notQuote⟩
  · rw [doubleQuotes_char isQuote]
    exact ⟨_, rfl, fun _ => rfl⟩

/-- A reading that is some backslashes behind never catches up; and MySQL reads a text as
it is only if its backslashes stay. -/
theorem keepsBackslashes_of_behind (isClear : StartsClear after) (text : List Char)
    {count : ℕ} {rest : List Char}
    (isRead : readEscaped (doubleQuotes text ++ '\'' :: after) =
      some (List.replicate count '\\' ++ text, rest)) :
    count = 0 ∧ keepsBackslashes text = true := by
  induction text using keepsBackslashes.induct generalizing count with
  | case1 =>
      have closed : readEscaped (doubleQuotes [] ++ '\'' :: after) =
          some ([], after) := readEscaped_close isClear
      rw [closed] at isRead
      have isNone : count = 0 ∧ after = rest := by
        simpa using isRead
      exact ⟨isNone.1, rfl⟩
  | case2 =>
      rw [readEscaped_last, ← List.replicate_succ', List.replicate_succ] at isRead
      obtain ⟨later, -, isText⟩ := map_push isRead
      cases isText
  | case3 char more inductionHypothesis =>
      obtain ⟨input, isInput, sameInput⟩ := readEscaped_pair after char more
      rw [isInput, List.append_cons, ← List.replicate_succ', List.replicate_succ,
        List.cons_append] at isRead
      obtain ⟨later, isLater, isText⟩ := map_push isRead
      rcases unescape_backslash isText with ⟨isBackslash, isRest⟩ | ⟨isKept, isRest⟩
      · have notQuote : char ≠ '\'' := by
          simp [isBackslash]
        have behind : later = List.replicate (count + 1) '\\' ++ more := by
          rw [← isRest, isBackslash, List.append_cons, ← List.replicate_succ']
        rw [sameInput notQuote, behind] at isLater
        exact absurd (inductionHypothesis isLater).1 (Nat.succ_ne_zero count)
      · cases count with
        | zero =>
            rw [sameInput (not_quote_of_kept isKept), ← (List.cons.inj isRest).2] at isLater
            rw [keepsBackslashes, (@inductionHypothesis 0 isLater).2]
            exact ⟨rfl, by simpa using isKept⟩
        | succ fewer =>
            rw [← (List.cons.inj isRest).1] at isKept
            simp at isKept
  | case4 char more notLast notEscape inductionHypothesis =>
      have notBackslash : char ≠ '\\' := not_backslash notLast notEscape
      rw [keepsBackslashes_char notBackslash]
      by_cases isQuote : char = '\''
      · rw [isQuote, doubleQuotes_quote, List.cons_append, List.cons_append,
          readEscaped] at isRead
        cases count with
        | zero => exact @inductionHypothesis 0 (map_push_char isRead).2
        | succ fewer => cases (map_push_char isRead).1
      · rw [doubleQuotes_char isQuote, List.cons_append,
          readEscaped_char isQuote notBackslash] at isRead
        cases count with
        | zero => exact @inductionHypothesis 0 (map_push_char isRead).2
        | succ fewer => exact absurd (map_push_char isRead).1.symm notBackslash

/-- What is left of a text without its line breaks behind a backslash. -/
def joinLines : List Char → List Char
  | [] => []
  | '\\' :: '\n' :: rest => joinLines rest
  | '\\' :: '\r' :: '\n' :: rest => joinLines rest
  | char :: rest => char :: joinLines rest

theorem joinLines_char {char : Char} {rest : List Char}
    (noBreak : char = '\\' → NoBreak rest) :
    joinLines (char :: rest) = char :: joinLines rest := by
  rw [joinLines]
  · intro more isBackslash isBreak
    exact (noBreak isBackslash more).1 isBreak
  · intro more isBackslash isBreak
    exact (noBreak isBackslash more).2 isBreak

theorem mem_of_mem_joinLines {text : List Char} {char : Char}
    (isJoined : char ∈ joinLines text) : char ∈ text := by
  induction text using joinLines.induct with
  | case1 =>
      cases isJoined
  | case2 rest inductionHypothesis =>
      rw [joinLines] at isJoined
      simp [inductionHypothesis isJoined]
  | case3 rest inductionHypothesis =>
      rw [joinLines] at isJoined
      simp [inductionHypothesis isJoined]
  | case4 first rest notLine notReturn inductionHypothesis =>
      rw [joinLines] at isJoined
      · rcases List.mem_cons.mp isJoined with isFirst | isRest
        · simp [isFirst]
        · simp [inductionHypothesis isRest]
      · exact notLine
      · exact notReturn

/-- What is stored of the joined lines is the text if nothing was joined and the code
page has every character; and only then. -/
theorem store_joinLines {page : CodePage} (text : List Char) :
    page.store (joinLines text) = text ↔
      joinLines text = text ∧ ∀ char ∈ text, page.stored char = [char] := by
  constructor
  · intro isStored
    have areKept : ∀ char ∈ text, page.stored char = [char] := by
      intro char isIn
      rw [← isStored] at isIn
      exact CodePage.kept_of_mem_store isIn
    have joinedKept : page.store (joinLines text) = joinLines text := by
      apply CodePage.store_eq
      intro char isJoined
      exact areKept char (mem_of_mem_joinLines isJoined)
    exact ⟨joinedKept.symm.trans isStored, areKept⟩
  · intro isKept
    rw [isKept.1]
    exact CodePage.store_eq isKept.2

/-- Doubling the quotes puts no line break behind a backslash. -/
theorem NoBreak.doubled {rest : List Char} (noBreak : NoBreak rest)
    (after : List Char) : NoBreak (doubleQuotes rest ++ '\'' :: after) := by
  intro more
  cases rest with
  | nil =>
      exact ⟨by simp [doubleQuotes], by simp [doubleQuotes]⟩
  | cons first others =>
      by_cases isQuote : first = '\''
      · rw [isQuote, doubleQuotes_quote]
        exact ⟨by simp, by simp⟩
      · rw [doubleQuotes_char isQuote, List.cons_append]
        refine ⟨?_, ?_⟩
        · intro isBreak
          refine (noBreak others).1 ?_
          rw [(List.cons.inj isBreak).1]
        · intro isBreak
          have isReturn : first = '\r' := (List.cons.inj isBreak).1
          have isRest : doubleQuotes others ++ '\'' :: after = '\n' :: more :=
            (List.cons.inj isBreak).2
          cases others with
          | nil =>
              simp [doubleQuotes] at isRest
          | cons second last =>
              by_cases isSecond : second = '\''
              · rw [isSecond, doubleQuotes_quote] at isRest
                simp at isRest
              · rw [doubleQuotes_char isSecond, List.cons_append] at isRest
                refine (noBreak last).2 ?_
                rw [isReturn, (List.cons.inj isRest).1]

/-- SQL Server reads what is left of the text. -/
theorem readContinued_doubled (isClear : StartsClear after) (text : List Char) :
    readContinued (doubleQuotes text ++ '\'' :: after) =
      some (joinLines text, after) := by
  induction text using joinLines.induct with
  | case1 =>
      exact readContinued_close isClear
  | case2 rest inductionHypothesis =>
      rw [doubleQuotes_char (by decide), doubleQuotes_char (by decide),
        List.cons_append, List.cons_append, readContinued, joinLines,
        inductionHypothesis]
  | case3 rest inductionHypothesis =>
      rw [doubleQuotes_char (by decide), doubleQuotes_char (by decide),
        doubleQuotes_char (by decide), List.cons_append, List.cons_append,
        List.cons_append, readContinued, joinLines, inductionHypothesis]
  | case4 char rest notLine notReturn inductionHypothesis =>
      have noBreak : char = '\\' → NoBreak rest := fun isBackslash more =>
        ⟨notLine more isBackslash, notReturn more isBackslash⟩
      rw [joinLines_char noBreak]
      by_cases isQuote : char = '\''
      · rw [isQuote, doubleQuotes_quote, List.cons_append, List.cons_append,
          readContinued, inductionHypothesis]
        rfl
      · rw [doubleQuotes_char isQuote, List.cons_append,
          readContinued_char isQuote fun isBackslash =>
            (noBreak isBackslash).doubled after,
          inductionHypothesis]
        rfl

end Doubled

/-! ## Texts that are written as they are -/

/-- A quote closes a text. -/
def Closes (input after : List Char) : Prop :=
  input = '\'' :: after

/-- The units of each engine. -/
inductive UnitMeans (page : CodePage) :
    DatabaseEngine → List Char → List Char → Prop
  | char (engine : DatabaseEngine) (char : Char) :
      UnitMeans page engine [char] (page.taken engine char)
  | quote (engine : DatabaseEngine) : UnitMeans page engine ['\'', '\''] ['\'']
  | escape (char : Char) : UnitMeans page .mysql ['\\', char] (unescape char)
  | line : UnitMeans page .sqlserver ['\\', '\n'] []
  | lineReturn : UnitMeans page .sqlserver ['\\', '\r', '\n'] []

theorem unescape_length (char : Char) : (unescape char).length ≤ 2 := by
  by_cases isKept : char = '%' ∨ char = '_'
  · rw [unescape_kept isKept]
    exact Nat.le_refl 2
  · by_cases isBackslash : char = '\\'
    · rw [isBackslash]
      decide
    · obtain ⟨meant, isMeant, -⟩ := unescape_alone isKept isBackslash
      rw [isMeant]
      exact Nat.le_succ 1

/-- Of characters that the engine keeps. -/
theorem unitMeans_shrinking (page : CodePage) (engine : DatabaseEngine) :
    Shrinking (UnitMeans page engine) fun char => page.taken engine char = [char] := by
  intro taken meant isUnit areKept
  cases isUnit with
  | char _ char =>
      rw [areKept char List.mem_cons_self]
  | quote => decide
  | escape char => exact unescape_length char
  | line => decide
  | lineReturn => decide

theorem unitMeans_marksApart (page : CodePage) (engine : DatabaseEngine) :
    MarksApart (UnitMeans page engine) IsClear := by
  intro taken meant isUnit symbol isTaken isClear
  cases isUnit with
  | char char =>
      cases List.mem_singleton.mp isTaken
      exact ⟨symbol, [], page.taken_ascii isClear.ascii engine, isClear⟩
  | quote =>
      have isQuote : symbol = '\'' := by
        simpa using isTaken
      exact absurd isQuote isClear.not_quote
  | escape char =>
      rcases List.mem_cons.mp isTaken with isBackslash | isChar
      · exact absurd isBackslash isClear.not_backslash
      · cases List.mem_singleton.mp isChar
        exact ⟨symbol, [], isClear.unescape_eq, isClear⟩
  | line =>
      have isLine : symbol = '\\' ∨ symbol = '\n' := by
        simpa using isTaken
      exact (isLine.elim isClear.not_backslash isClear.not_break.1).elim
  | lineReturn =>
      have isLine : symbol = '\\' ∨ symbol = '\r' ∨ symbol = '\n' := by
        simpa using isTaken
      exact (isLine.elim isClear.not_backslash fun isBreak =>
        isBreak.elim isClear.not_break.2 isClear.not_break.1).elim

section Units

variable {page : CodePage} {input text after : List Char}

theorem readStandard_units (isRead : readStandard input = some (text, after)) :
    ReadsUnits (UnitMeans page .postgres) Closes input text after := by
  induction input using readStandard.induct generalizing text with
  | case1 =>
      cases isRead
  | case2 rest inductionHypothesis =>
      rw [readStandard] at isRead
      obtain ⟨later, isLater, rfl⟩ := map_push isRead
      exact .unit (.quote _) (inductionHypothesis isLater)
  | case3 rest notDoubled =>
      rw [readStandard] at isRead
      · cases isRead
        exact .close rfl
      · exact notDoubled
  | case4 char rest notDoubled notQuote inductionHypothesis =>
      rw [readStandard_char notQuote] at isRead
      obtain ⟨later, isLater, rfl⟩ := map_push isRead
      exact .unit (.char _ char) (inductionHypothesis isLater)

theorem readEscaped_units (isRead : readEscaped input = some (text, after)) :
    ReadsUnits (UnitMeans page .mysql) Closes input text after := by
  induction input using readEscaped.induct generalizing text with
  | case1 =>
      cases isRead
  | case2 rest inductionHypothesis =>
      rw [readEscaped] at isRead
      obtain ⟨later, isLater, rfl⟩ := map_push isRead
      exact .unit (.quote _) (inductionHypothesis isLater)
  | case3 rest notDoubled =>
      rw [readEscaped] at isRead
      · cases isRead
        exact .close rfl
      · exact notDoubled
  | case4 =>
      cases isRead
  | case5 char rest inductionHypothesis =>
      rw [readEscaped] at isRead
      obtain ⟨later, isLater, rfl⟩ := map_push isRead
      exact .unit (.escape char) (inductionHypothesis isLater)
  | case6 char rest notDoubled notQuote notLast notEscape inductionHypothesis =>
      rw [readEscaped_char notQuote (not_backslash notLast notEscape)] at isRead
      obtain ⟨later, isLater, rfl⟩ := map_push isRead
      exact .unit (.char _ char) (inductionHypothesis isLater)

theorem readContinued_units (isRead : readContinued input = some (text, after)) :
    ReadsUnits (UnitMeans page .sqlserver) Closes input (page.store text) after := by
  induction input using readContinued.induct generalizing text with
  | case1 =>
      cases isRead
  | case2 rest inductionHypothesis =>
      rw [readContinued] at isRead
      obtain ⟨later, isLater, rfl⟩ := map_push isRead
      have isQuote : page.store (['\''] ++ later) = ['\''] ++ page.store later := by
        rw [List.singleton_append, CodePage.store_cons, page.stored_ascii _ (by decide)]
      rw [isQuote]
      exact .unit (.quote _) (inductionHypothesis isLater)
  | case3 rest notDoubled =>
      rw [readContinued] at isRead
      · cases isRead
        exact .close rfl
      · exact notDoubled
  | case4 rest inductionHypothesis =>
      rw [readContinued] at isRead
      exact .unit .line (inductionHypothesis isRead)
  | case5 rest inductionHypothesis =>
      rw [readContinued] at isRead
      exact .unit .lineReturn (inductionHypothesis isRead)
  | case6 char rest notDoubled notQuote notLine notReturn inductionHypothesis =>
      rw [readContinued_char notQuote fun isBackslash more =>
        ⟨notLine more isBackslash, notReturn more isBackslash⟩] at isRead
      obtain ⟨later, isLater, rfl⟩ := map_push isRead
      rw [List.singleton_append, CodePage.store_cons]
      exact .unit (.char .sqlserver char) (inductionHypothesis isLater)

theorem readText_units {engine : DatabaseEngine}
    (isRead : readText page engine input = some (text, after)) :
    ReadsUnits (UnitMeans page engine) Closes input text after := by
  cases engine with
  | mysql => exact readEscaped_units isRead
  | postgres => exact readStandard_units isRead
  | sqlserver =>
      obtain ⟨⟨joined, later⟩, isJoined, same⟩ := Option.map_eq_some_iff.mp isRead
      cases same
      exact readContinued_units isJoined

/-- What an engine reads it would keep. -/
theorem readText_kept {engine : DatabaseEngine}
    (isRead : readText page engine input = some (text, after)) :
    ∀ char ∈ text, page.taken engine char = [char] := by
  intro char isIn
  cases engine with
  | mysql => rfl
  | postgres => rfl
  | sqlserver =>
      obtain ⟨⟨joined, later⟩, -, same⟩ := Option.map_eq_some_iff.mp isRead
      cases same
      exact CodePage.kept_of_mem_store isIn

/-- No engine reads a text that is written without quotes around it as that text. -/
theorem readText_ne_raw {engine : DatabaseEngine} (isClear : StartsClear after)
    (text : List Char) (rest : List Char) :
    readText page engine (text ++ after) ≠ some ('\'' :: text, rest) := by
  intro isRead
  have isBehind : '\'' :: text = ['\''] ++ text := rfl
  refine (readText_units isRead).not_behind (unitMeans_shrinking page engine)
    (unitMeans_marksApart page engine) rfl isBehind ?_ isClear ?_ ?_
  · intro char isIn
    exact readText_kept isRead char (List.mem_cons_of_mem _ isIn)
  · simp
  · intro symbol isQuote isClear
    exact isClear.not_quote (List.mem_singleton.mp isQuote)

end Units

/-! ## Constants in their places -/

section Atoms

variable {page : CodePage} {after : List Char}

theorem isAtom_of_isDigit {char : Char} (isDigit : char.isDigit = true) :
    isAtom char = true := by
  simp [isAtom, Char.isAlphanum, isDigit]

theorem all_atoms_of_digits {digits : List Char}
    (areDigits : digits.all Char.isDigit = true) :
    ∀ char ∈ digits, isAtom char = true := by
  intro char isIn
  exact isAtom_of_isDigit (List.all_eq_true.mp areDigits char isIn)

theorem all_atoms_of_isExponent {text : List Char}
    (exponent : isExponent text = true) : ∀ char ∈ text, isAtom char = true := by
  unfold isExponent at exponent
  split at exponent
  · intro char isIn
    cases isIn
  · rename_i mark sign digits
    rw [Bool.and_eq_true, Bool.or_eq_true, beq_iff_eq, beq_iff_eq] at exponent
    have markAtom : isAtom mark = true := by
      rcases exponent.1 with isLower | isUpper
      · rw [isLower]
        decide
      · rw [isUpper]
        decide
    have restAtoms : ∀ char ∈ sign :: digits, isAtom char = true := by
      split at exponent
      · rename_i isSign
        rw [Bool.or_eq_true, beq_iff_eq, beq_iff_eq] at isSign
        rw [Bool.and_eq_true] at exponent
        refine List.forall_mem_cons.mpr ⟨?_, all_atoms_of_digits exponent.2.2⟩
        rcases isSign with isPlus | isMinus
        · rw [isPlus]
          decide
        · rw [isMinus]
          decide
      · exact all_atoms_of_digits exponent.2
    exact List.forall_mem_cons.mpr ⟨markAtom, restAtoms⟩
  · cases exponent

/-- Digits in front do not matter. -/
theorem all_atoms_after_digits {text : List Char}
    (restAtoms : ∀ char ∈ text.dropWhile Char.isDigit, isAtom char = true) :
    ∀ char ∈ text, isAtom char = true := by
  intro char isIn
  rw [← List.takeWhile_append_dropWhile (p := Char.isDigit) (l := text)] at isIn
  rcases List.mem_append.mp isIn with isDigit | isRest
  · exact isAtom_of_isDigit (List.mem_takeWhile_imp isDigit)
  · exact restAtoms char isRest

theorem all_atoms_of_isUnsigned {text : List Char}
    (unsigned : isUnsigned text = true) : ∀ char ∈ text, isAtom char = true := by
  refine all_atoms_after_digits ?_
  unfold isUnsigned at unsigned
  rw [Bool.and_eq_true] at unsigned
  obtain ⟨-, rest⟩ := unsigned
  split at rest
  · rename_i fraction isFraction
    rw [Bool.and_eq_true] at rest
    rw [isFraction]
    refine List.forall_mem_cons.mpr ⟨by decide, ?_⟩
    exact all_atoms_after_digits (all_atoms_of_isExponent rest.2)
  · exact all_atoms_of_isExponent rest

theorem all_atoms_of_isNumeral {text : List Char} (numeral : isNumeral text = true) :
    ∀ char ∈ text, isAtom char = true := by
  unfold isNumeral at numeral
  split at numeral
  · exact List.forall_mem_cons.mpr ⟨by decide, all_atoms_of_isUnsigned numeral⟩
  · exact all_atoms_of_isUnsigned numeral

/-- What is no text is read up to where it ends. -/
theorem readLiteral_atoms {engine : DatabaseEngine} (isClear : StartsClear after)
    {word : List Char} (areAtoms : ∀ char ∈ word, isAtom char = true) :
    readLiteral page engine (word ++ after) =
      (atomConstant engine word).map fun constant => (constant, after) := by
  have notAtom : after.takeWhile isAtom = [] ∧ after.dropWhile isAtom = after := by
    cases after with
    | nil => exact ⟨rfl, rfl⟩
    | cons next rest =>
        have notAtom := (startsClear_cons.mp isClear).not_atom
        simp [notAtom]
  have allTaken : (word ++ after).takeWhile isAtom = word := by
    rw [List.takeWhile_append_of_pos areAtoms, notAtom.1, List.append_nil]
  have noneDropped : (word ++ after).dropWhile isAtom = after := by
    rw [List.dropWhile_append_of_pos areAtoms, notAtom.2]
  rw [readLiteral, allTaken, noneDropped]
  intro rest isQuote
  cases word with
  | nil =>
      rw [List.nil_append] at isQuote
      rw [isQuote, startsClear_cons] at isClear
      exact isClear.not_quote rfl
  | cons first others =>
      have isFirst : first = '\'' := (List.cons.inj isQuote).1
      have firstAtom := areAtoms first List.mem_cons_self
      rw [isFirst] at firstAtom
      exact absurd firstAtom (by decide)

/-- A number, the null or a truth value. -/
theorem atomConstant_cases {engine : DatabaseEngine} {word : List Char}
    {constant : Scalar} (isConstant : atomConstant engine word = some constant) :
    (isNumeral word = true ∧ constant = .number (String.ofList word)) ∨
      constant = .null ∨ ∃ value, constant = .boolean value := by
  unfold atomConstant at isConstant
  dsimp only at isConstant
  split at isConstant
  · rename_i numeral
    cases isConstant
    exact .inl ⟨numeral, rfl⟩
  · split at isConstant
    · cases isConstant
      exact .inr (.inl rfl)
    · split at isConstant
      · cases isConstant
      · split at isConstant
        · cases isConstant
          exact .inr (.inr ⟨true, rfl⟩)
        · split at isConstant
          · cases isConstant
            exact .inr (.inr ⟨false, rfl⟩)
          · cases isConstant

/-- A quoted text, a number, the null or a truth value. -/
theorem readLiteral_cases {engine : DatabaseEngine} {input rest : List Char}
    {constant : Scalar} (isRead : readLiteral page engine input = some (constant, rest)) :
    (∃ tail meant, input = '\'' :: tail ∧
        readText page engine tail = some (meant, rest) ∧
        constant = .text (String.ofList meant)) ∨
      (∃ word, isNumeral word = true ∧ constant = .number (String.ofList word)) ∨
      constant = .null ∨ ∃ value, constant = .boolean value := by
  unfold readLiteral at isRead
  split at isRead
  · rename_i tail
    obtain ⟨⟨meant, later⟩, isText, same⟩ := Option.map_eq_some_iff.mp isRead
    cases same
    exact .inl ⟨tail, meant, rfl, isText, rfl⟩
  · obtain ⟨found, isConstant, same⟩ := Option.map_eq_some_iff.mp isRead
    cases same
    rcases atomConstant_cases isConstant with isNumber | isOther
    · exact .inr (.inl ⟨_, isNumber⟩)
    · exact .inr (.inr isOther)

end Atoms

/-- The engine reads the text as it is. -/
def KeepsText (page : CodePage) : DatabaseEngine → List Char → Prop
  | .mysql, text => keepsBackslashes text = true
  | .postgres, _ => True
  | .sqlserver, text =>
      joinLines text = text ∧ ∀ char ∈ text, page.stored char = [char]

instance (page : CodePage) : (engine : DatabaseEngine) → (text : List Char) →
    Decidable (KeepsText page engine text)
  | .mysql, text => inferInstanceAs (Decidable (keepsBackslashes text = true))
  | .postgres, _ => inferInstanceAs (Decidable True)
  | .sqlserver, _ => inferInstanceAs (Decidable (_ ∧ _))

/-- The constants whose literal the engine reads back: texts that it reads as they
are, truth values where there are words for them, and numbers in digits. -/
def Readable (page : CodePage) (engine : DatabaseEngine) : Value → Prop
  | .scalar (.text chars) => KeepsText page engine chars.toList
  | .scalar (.boolean _) => engine ≠ .sqlserver
  | .scalar (.number shown) => isNumeral shown.toList = true
  | _ => False

instance (page : CodePage) (engine : DatabaseEngine) : (value : Value) →
    Decidable (Readable page engine value)
  | .scalar (.text _) => inferInstanceAs (Decidable (KeepsText page engine _))
  | .scalar (.boolean _) => inferInstanceAs (Decidable (engine ≠ .sqlserver))
  | .scalar (.number _) => inferInstanceAs (Decidable (isNumeral _ = true))
  | .scalar .null => inferInstanceAs (Decidable False)
  | .scalar (.other _) => inferInstanceAs (Decidable False)
  | .items _ _ _ => inferInstanceAs (Decidable False)

section Readable

variable {page : CodePage} {engine : DatabaseEngine} {after rest : List Char}

theorem readText_doubled (isClear : StartsClear after) (text : List Char) :
    readText page engine (doubleQuotes text ++ '\'' :: after) = some (text, rest) ↔
      KeepsText page engine text ∧ rest = after := by
  cases engine with
  | mysql =>
      simp only [readText, KeepsText]
      constructor
      · intro isRead
        have keeps := (@keepsBackslashes_of_behind after isClear text 0 _ isRead).2
        rw [readEscaped_doubled isClear text keeps] at isRead
        cases isRead
        exact ⟨keeps, rfl⟩
      · intro kept
        rw [readEscaped_doubled isClear text kept.1, kept.2]
  | postgres =>
      simp only [readText, KeepsText, readStandard_doubled isClear text]
      simp [eq_comm]
  | sqlserver =>
      simp only [readText, KeepsText, readContinued_doubled isClear text,
        ← store_joinLines]
      simp [eq_comm]

theorem renderLiteral_text (chars : String) :
    (renderLiteral (.scalar (.text chars))).toList =
      '\'' :: (doubleQuotes chars.toList ++ ['\'']) := by
  simp [renderLiteral]

/-- The literal of a constant is read back in its place, or never. -/
theorem readLiteral_rendered (isClear : StartsClear after) (constant : Scalar) :
    readLiteral page engine ((renderLiteral (.scalar constant)).toList ++ after) =
        some (constant, rest) ↔
      Readable page engine (.scalar constant) ∧ rest = after := by
  cases constant with
  | null =>
      have areAtoms : ∀ char ∈ "None".toList, isAtom char = true :=
        List.all_eq_true.mp (by decide)
      have noConstant : atomConstant engine "None".toList = none := by
        cases engine with
        | mysql => decide
        | postgres => decide
        | sqlserver => decide
      rw [renderLiteral, readLiteral_atoms isClear areAtoms, noConstant]
      simp [Readable]
  | boolean value =>
      have areAtoms : ∀ char ∈ (renderLiteral (.scalar (.boolean value))).toList,
          isAtom char = true := by
        cases value with
        | true => exact List.all_eq_true.mp (by decide)
        | false => exact List.all_eq_true.mp (by decide)
      have isConstant : atomConstant engine
          (renderLiteral (.scalar (.boolean value))).toList =
          if engine = .sqlserver then none else some (.boolean value) := by
        cases engine with
        | mysql => cases value with
          | true => decide
          | false => decide
        | postgres => cases value with
          | true => decide
          | false => decide
        | sqlserver => cases value with
          | true => decide
          | false => decide
      rw [readLiteral_atoms isClear areAtoms, isConstant]
      by_cases noWords : engine = .sqlserver
      · simp [Readable, noWords]
      · simp [Readable, noWords, eq_comm]
  | number shown =>
      have isRead (numeral : isNumeral shown.toList = true) :
          readLiteral page engine (shown.toList ++ after) =
            some (.number shown, after) := by
        rw [readLiteral_atoms isClear (all_atoms_of_isNumeral numeral), atomConstant,
          if_pos numeral, String.ofList_toList]
        rfl
      simp only [renderLiteral, Readable]
      constructor
      · intro isNumber
        have numeral : isNumeral shown.toList = true := by
          rcases readLiteral_cases isNumber with
            ⟨_, _, _, _, isText⟩ | ⟨word, numeral, same⟩ | isNull | ⟨_, isTruth⟩
          · cases isText
          · cases same
            rwa [String.toList_ofList]
          · cases isNull
          · cases isTruth
        rw [isRead numeral] at isNumber
        cases isNumber
        exact ⟨numeral, rfl⟩
      · intro kept
        rw [isRead kept.1, kept.2]
  | text chars =>
      rw [renderLiteral_text, List.cons_append, List.append_assoc, readLiteral,
        Option.map_eq_some_iff]
      simp only [Readable]
      constructor
      · rintro ⟨⟨meant, later⟩, isRead, same⟩
        cases same
        rw [String.toList_ofList] at isRead ⊢
        exact (readText_doubled isClear _).mp isRead
      · intro kept
        have isRead := (readText_doubled isClear _).mpr kept
        exact ⟨_, isRead, by simp⟩
  | other shown =>
      simp only [Readable, false_and, iff_false]
      intro isRead
      rcases readLiteral_cases isRead with
        ⟨_, _, _, _, isText⟩ | ⟨_, _, isNumber⟩ | isNull | ⟨_, isTruth⟩
      · cases isText
      · cases isNumber
      · cases isNull
      · cases isTruth

/-- A text that stands without quotes is not read back. -/
theorem readLiteral_raw (isClear : StartsClear after) (chars : String) :
    readLiteral page engine (chars.toList ++ after) ≠ some (.text chars, rest) := by
  intro isRead
  rcases readLiteral_cases isRead with
    ⟨tail, meant, isTail, isText, same⟩ | ⟨_, _, isNumber⟩ | isNull | ⟨_, isTruth⟩
  · have sameChars : chars.toList = meant := by
      rw [Scalar.text.inj same, String.toList_ofList]
    cases isChars : chars.toList with
    | nil =>
        rw [isChars, List.nil_append] at isTail
        rw [isTail, startsClear_cons] at isClear
        exact isClear.not_quote rfl
    | cons first others =>
        rw [isChars, List.cons_append] at isTail
        have parts := List.cons.inj isTail
        rw [← parts.2, ← sameChars, isChars, parts.1] at isText
        exact readText_ne_raw isClear others rest isText
  · cases isNumber
  · cases isNull
  · cases isTruth

end Readable

end DbBuddy.Sql
