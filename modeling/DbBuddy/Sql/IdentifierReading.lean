import DbBuddy.Sql.Identifiers

/-!
# Identifiers as an engine reads them

A quoted identifier ends at its quote character, of which two stand for one.  One
without quotes is a plain identifier that is no reserved word, and the engine folds its
case.
-/

namespace DbBuddy.Sql

open DbBuddy.Library DbBuddy.Dialects

/-! ## Reading -/

/-- A quoted identifier behind its first quote, and what comes after it. -/
def readQuoted (quote : Char) : List Char → Option (List Char × List Char)
  | [] => none
  | [char] => if char = quote then some ([], []) else none
  | char :: next :: rest =>
      if char = quote then
        if next = quote then
          (readQuoted quote rest).map fun read => (quote :: read.1, read.2)
        else some ([], next :: rest)
      else (readQuoted quote (next :: rest)).map fun read => (char :: read.1, read.2)

def isIdentifierChar (char : Char) : Bool :=
  char.isAlphanum || char == '_'

/-- Letters of ASCII, digits and underscores, and no digit first. -/
def isPlainName : List Char → Bool
  | [] => false
  | first :: rest => (first.isAlpha || first == '_') && rest.all isIdentifierChar

/-- The character that an engine quotes identifiers with. -/
def quoteChar : Option DatabaseEngine → Char
  | some engine => engine.capabilities.identifierQuoteChar
  | none => '"'

section Reading

variable (unicode : Unicode) (dialect : Option DatabaseEngine)

/-- What an identifier without quotes means. -/
def foldCase (name : String) : String :=
  match dialect.bind fun engine => engine.capabilities.unquotedIdentifierCase with
  | some .lower => unicode.lower name
  | some .upper => unicode.upper name
  | none => name

/-- The identifier at the front of a text, and what comes after it. -/
def readIdentifier : List Char → Option (String × List Char)
  | [] => none
  | first :: rest =>
      if first = quoteChar dialect then
        match readQuoted (quoteChar dialect) rest with
        | some (char :: name, after) => some (String.ofList (char :: name), after)
        | _ => none
      else
        let name := (first :: rest).takeWhile isIdentifierChar
        if isPlainName name = true ∧
            unicode.lower (String.ofList name) ∉ reservedIdentifiers then
          some (foldCase unicode dialect (String.ofList name),
            (first :: rest).dropWhile isIdentifierChar)
        else none

/-- Identifiers with dots between them. -/
def readPath : ℕ → List Char → Option (List String)
  | 0, _ => none
  | fuel + 1, text =>
      match readIdentifier unicode dialect text with
      | some (name, []) => some [name]
      | some (name, '.' :: rest) => (readPath fuel rest).map (name :: ·)
      | _ => none

/-- The identifiers that a text consists of. -/
def identifiersIn (text : String) : Option (List String) :=
  readPath unicode dialect text.toList.length text.toList

end Reading

/-! ## What is quoted is read back -/

section Quoted

variable {unicode : Unicode} {dialect : Option DatabaseEngine} {quoteMark : Char}
variable {name : String} {parts : List String} {after : List Char}

/-- The text of a quoted identifier behind its first quote. -/
def doubled (quoteMark : Char) (name : List Char) : List Char :=
  name.flatMap fun char => if char = quoteMark then [quoteMark, quoteMark] else [char]

theorem readQuoted_char {char : Char} (other : char ≠ quoteMark) {rest : List Char}
    (notEmpty : rest ≠ []) :
    readQuoted quoteMark (char :: rest) =
      (readQuoted quoteMark rest).map fun read => (char :: read.1, read.2) := by
  cases rest with
  | nil => exact absurd rfl notEmpty
  | cons next rest => rw [readQuoted, if_neg other]

theorem readQuoted_doubled (apart : after.head? ≠ some quoteMark) (name : List Char) :
    readQuoted quoteMark (doubled quoteMark name ++ quoteMark :: after) =
      some (name, after) := by
  induction name with
  | nil =>
      cases after with
      | nil => simp [doubled, readQuoted]
      | cons next rest =>
          have other : next ≠ quoteMark := by
            intro same
            exact apart (congrArg some same)
          simp [doubled, readQuoted, other]
  | cons char rest inductionHypothesis =>
      by_cases isQuote : char = quoteMark
      · have shown : doubled quoteMark (char :: rest) =
            quoteMark :: quoteMark :: doubled quoteMark rest := by
          simp [doubled, isQuote]
        rw [shown, List.cons_append, List.cons_append, readQuoted, if_pos rfl,
          if_pos rfl, inductionHypothesis, isQuote]
        rfl
      · have shown : doubled quoteMark (char :: rest) =
            char :: doubled quoteMark rest := by
          simp [doubled, isQuote]
        rw [shown, List.cons_append, readQuoted_char isQuote (by simp),
          inductionHypothesis]
        rfl

/-- `_PLAIN_IDENTIFIER` also takes a plain name and a line break for one. -/
theorem plainIdentifier_cases {text : List Char} (isPlain : plainIdentifier text = true) :
    isPlainName text = true ∨
      ∃ name, isPlainName name = true ∧ text = name ++ ['\n'] := by
  unfold plainIdentifier at isPlain
  split at isPlain
  · next endsLine =>
      refine Or.inr ⟨text.dropLast, ?_, ?_⟩
      · cases front : text.dropLast with
        | nil => simp [front] at isPlain
        | cons first rest => simpa [front, isPlainName, isIdentifierChar] using isPlain
      · have notEmpty : text ≠ [] := by
          intro isEmpty
          simp [isEmpty] at endsLine
        have last : text.getLast notEmpty = '\n' := by
          rw [List.getLast?_eq_some_getLast notEmpty] at endsLine
          exact Option.some.inj endsLine
        rw [← last]
        exact (List.dropLast_append_getLast notEmpty).symm
  · left
    cases text with
    | nil => simp at isPlain
    | cons first rest => simpa [isPlainName, isIdentifierChar] using isPlain

/-- A name that the plain form of an identifier is taken for, though a line break
follows. -/
def EndsInBreak (name : String) : Prop :=
  ∃ front, isPlainName front = true ∧ name.toList = front ++ ['\n']

theorem not_endsInBreak (other : name.toList.getLast? ≠ some '\n') :
    ¬ EndsInBreak name := by
  intro ⟨front, _, isBroken⟩
  rw [isBroken] at other
  simp at other

theorem isPlainName_of_not_needsQuoting (notEmpty : name ≠ "")
    (unbroken : ¬ EndsInBreak name)
    (unquoted : ¬ needsQuoting unicode name dialect = true) :
    isPlainName name.toList = true ∧ unicode.lower name ∉ reservedIdentifiers ∧
      foldCase unicode dialect name = name := by
  unfold needsQuoting at unquoted
  rw [if_neg notEmpty] at unquoted
  split at unquoted
  · exact absurd rfl unquoted
  · next isPlain =>
      simp only [Bool.not_eq_true', Bool.not_eq_false] at isPlain
      split at unquoted
      · exact absurd rfl unquoted
      · next notReserved =>
          refine ⟨?_, notReserved, ?_⟩
          · rcases plainIdentifier_cases isPlain with isName | ⟨front, isName, isFront⟩
            · exact isName
            · exact absurd ⟨front, isName, isFront⟩ unbroken
          · split at unquoted
            · next isLower =>
                have folded : foldCase unicode dialect name = unicode.lower name := by
                  simp only [foldCase, isLower]
                have same : name = unicode.lower name := by simpa using unquoted
                exact folded.trans same.symm
            · next isUpper =>
                have folded : foldCase unicode dialect name = unicode.upper name := by
                  simp only [foldCase, isUpper]
                have same : name = unicode.upper name := by simpa using unquoted
                exact folded.trans same.symm
            · next noCase => simp only [foldCase, noCase]

theorem quote_eq_quoteWith (quoted : needsQuoting unicode name dialect = true) :
    (quote unicode name dialect).toList =
      quoteChar dialect :: (doubled (quoteChar dialect) name.toList ++
        [quoteChar dialect]) := by
  unfold quote
  rw [if_pos quoted]
  cases dialect with
  | none =>
      rw [quoteWith, String.toList_ofList]
      rfl
  | some engine =>
      change (quoteWith engine.capabilities.identifierQuoteChar name).toList = _
      rw [quoteWith, String.toList_ofList]
      rfl

theorem isIdentifierChar_of_isPlainName {text : List Char}
    (isName : isPlainName text = true) : ∀ char ∈ text, isIdentifierChar char = true := by
  cases text with
  | nil => simp
  | cons first rest =>
      simp only [isPlainName, Bool.and_eq_true, Bool.or_eq_true, List.all_eq_true] at isName
      intro char isIn
      rcases List.mem_cons.mp isIn with rfl | isLater
      · simp only [isIdentifierChar, Char.isAlphanum, Bool.or_eq_true]
        tauto
      · exact isName.2 char isLater

theorem quoteChar_not_identifierChar : isIdentifierChar (quoteChar dialect) = false := by
  cases dialect with
  | none => decide
  | some engine => cases engine <;> decide

/-- What may follow an identifier: nothing, or a dot. -/
def Delimits (after : List Char) : Prop :=
  after = [] ∨ after.head? = some '.'

theorem readIdentifier_quote (notEmpty : name ≠ "") (unbroken : ¬ EndsInBreak name)
    (delimits : Delimits after) :
    readIdentifier unicode dialect ((quote unicode name dialect).toList ++ after) =
      some (name, after) := by
  by_cases quoted : needsQuoting unicode name dialect = true
  · have apart : after.head? ≠ some (quoteChar dialect) := by
      intro isQuote
      rcases delimits with isEmpty | isDot
      · simp [isEmpty] at isQuote
      · rw [isDot] at isQuote
        have same := Option.some.inj isQuote
        cases dialect with
        | none => exact absurd same (by decide)
        | some engine => cases engine <;> exact absurd same (by decide)
    rw [quote_eq_quoteWith quoted, List.cons_append, List.append_assoc,
      List.singleton_append, readIdentifier, if_pos rfl, readQuoted_doubled apart]
    have isWhole : String.ofList name.toList = name := String.ofList_toList
    cases isName : name.toList with
    | nil => exact absurd (String.toList_eq_nil_iff.mp isName) notEmpty
    | cons char rest =>
        rw [isName] at isWhole
        dsimp only
        rw [isWhole]
  · obtain ⟨isName, notReserved, isFolded⟩ :=
      isPlainName_of_not_needsQuoting notEmpty unbroken quoted
    have isText : quote unicode name dialect = name := by
      unfold quote
      rw [if_neg quoted]
    have chars := isIdentifierChar_of_isPlainName isName
    have stops : ∀ char ∈ after.head?, isIdentifierChar char = false := by
      intro char isHead
      rcases delimits with isEmpty | isDot
      · simp [isEmpty] at isHead
      · rw [isDot] at isHead
        cases isHead
        decide
    have taken : (name.toList ++ after).takeWhile isIdentifierChar = name.toList := by
      rw [List.takeWhile_append_of_pos chars]
      cases after with
      | nil => simp
      | cons first rest => simp [stops first (by simp)]
    have dropped : (name.toList ++ after).dropWhile isIdentifierChar = after := by
      rw [List.dropWhile_append_of_pos chars]
      cases after with
      | nil => simp
      | cons first rest => simp [stops first (by simp)]
    rw [isText]
    cases isList : name.toList with
    | nil => exact absurd (String.toList_eq_nil_iff.mp isList) notEmpty
    | cons first rest =>
        have notQuote : first ≠ quoteChar dialect := by
          intro same
          have isChar := chars first (by rw [isList]; exact List.mem_cons_self)
          rw [same, quoteChar_not_identifierChar] at isChar
          cases isChar
        have isWhole : String.ofList (first :: rest) = name := by
          rw [← isList]
          exact String.ofList_toList
        rw [isList] at isName
        rw [isList, List.cons_append] at taken dropped
        rw [List.cons_append, readIdentifier, if_neg notQuote, taken, dropped]
        dsimp only
        rw [isWhole, if_pos ⟨isName, notReserved⟩, isFolded]

/-- The text of some identifiers with dots between them. -/
def pathText (unicode : Unicode) (dialect : Option DatabaseEngine)
    (parts : List String) : List Char :=
  ['.'].intercalate (parts.map fun part => (quote unicode part dialect).toList)

theorem quote_toList_ne_nil (notEmpty : name ≠ "") :
    (quote unicode name dialect).toList ≠ [] := by
  by_cases quoted : needsQuoting unicode name dialect = true
  · rw [quote_eq_quoteWith quoted]
    simp
  · unfold quote
    rw [if_neg quoted]
    intro isEmpty
    exact notEmpty (String.toList_eq_nil_iff.mp isEmpty)

theorem pathText_cons (part next : String) (rest : List String) :
    pathText unicode dialect (part :: next :: rest) =
      (quote unicode part dialect).toList ++
        '.' :: pathText unicode dialect (next :: rest) := by
  simp [pathText, List.intercalate]

/-- A path of quoted identifiers is read back. -/
theorem readPath_pathText (isPath : parts ≠ []) (notEmpty : ∀ part ∈ parts, part ≠ "")
    (unbroken : ∀ part ∈ parts, ¬ EndsInBreak part) {fuel : ℕ}
    (enough : (pathText unicode dialect parts).length ≤ fuel) :
    readPath unicode dialect fuel (pathText unicode dialect parts) = some parts := by
  induction parts generalizing fuel with
  | nil => exact absurd rfl isPath
  | cons part rest inductionHypothesis =>
      have isThere := notEmpty part List.mem_cons_self
      have isWhole := unbroken part List.mem_cons_self
      have visible : 0 < (quote unicode part dialect).toList.length :=
        List.length_pos_of_ne_nil (quote_toList_ne_nil isThere)
      cases rest with
      | nil =>
          have isText : pathText unicode dialect [part] =
              (quote unicode part dialect).toList ++ [] := by
            simp [pathText]
          rw [isText] at enough ⊢
          rw [List.length_append] at enough
          obtain ⟨less, rfl⟩ : ∃ less, fuel = less + 1 := ⟨fuel - 1, by omega⟩
          rw [readPath, readIdentifier_quote isThere isWhole (Or.inl rfl)]
      | cons next rest =>
          rw [pathText_cons] at enough ⊢
          rw [List.length_append, List.length_cons] at enough
          obtain ⟨less, rfl⟩ : ∃ less, fuel = less + 1 := ⟨fuel - 1, by omega⟩
          have later := inductionHypothesis (List.cons_ne_nil _ _)
            (fun part isIn => notEmpty part (List.mem_cons_of_mem _ isIn))
            (fun part isIn => unbroken part (List.mem_cons_of_mem _ isIn))
            (show (pathText unicode dialect (next :: rest)).length ≤ less by omega)
          rw [readPath, readIdentifier_quote isThere isWhole (Or.inr rfl)]
          simp [later]

end Quoted

/-! ## References -/

/-- The parts of a column: two if it is already qualified, by a plain identifier. -/
def columnParts (column : String) : List String :=
  let left := column.toList.takeWhile fun char => char != '.'
  let right := (column.toList.dropWhile fun char => char != '.').drop 1
  if '.' ∈ column.toList ∧ plainIdentifier left = true ∧ right ≠ [] then
    [String.ofList left, String.ofList right]
  else [column]

section References

variable {unicode : Unicode} {dialect : Option DatabaseEngine} {table column : String}

theorem columnParts_ne_empty (notEmpty : column ≠ "") :
    columnParts column ≠ [] ∧ ∀ part ∈ columnParts column, part ≠ "" := by
  unfold columnParts
  dsimp only
  split
  · next qualified =>
      refine ⟨by simp, ?_⟩
      intro part isPart
      rcases List.mem_pair.mp isPart with rfl | rfl
      · intro isEmpty
        rw [String.ofList_eq_empty_iff.mp isEmpty] at qualified
        exact absurd qualified.2.1 (by decide)
      · intro isEmpty
        exact qualified.2.2 (String.ofList_eq_empty_iff.mp isEmpty)
  · simpa using notEmpty

/-- A reference is the path of the table and the parts of the column. -/
theorem ref_toList (notEmpty : table ≠ "") (notStar : column ≠ "*") :
    (ref unicode table column dialect).toList =
      pathText unicode dialect (table :: columnParts column) := by
  unfold ref quoteRef columnParts
  rw [if_neg notEmpty, if_neg notStar]
  dsimp only
  split
  · next qualified =>
      rw [pathText_cons, pathText_cons]
      simp [pathText]
  · next unqualified =>
      rw [pathText_cons]
      simp [pathText]

end References

/-- A reference is read back as the table and the column; a column that is already
qualified is read as its two sides. -/
theorem ref_readBack (unicode : Unicode) (dialect : Option DatabaseEngine)
    (table column : String) (isTable : table ≠ "") (isColumn : column ≠ "")
    (notStar : column ≠ "*")
    (unbroken : ∀ part ∈ table :: columnParts column, ¬ EndsInBreak part) :
    identifiersIn unicode dialect (ref unicode table column dialect) =
      some (table :: columnParts column) := by
  have notEmpty : ∀ part ∈ table :: columnParts column, part ≠ "" := by
    intro part isPart
    rcases List.mem_cons.mp isPart with rfl | isLater
    · exact isTable
    · exact (columnParts_ne_empty isColumn).2 part isLater
  unfold identifiersIn
  rw [ref_toList isTable notStar]
  exact readPath_pathText (List.cons_ne_nil _ _) notEmpty unbroken (Nat.le_refl _)

/-- A reserved word, upper case, a space and a quote are read back by PostgreSQL. -/
theorem ref_readBack_order :
    identifiersIn ascii (some .postgres)
        (ref ascii "order" "Unit \"Price\"" (some .postgres)) =
      some ["order", "Unit \"Price\""] := by
  have unbroken : ∀ part ∈ "order" :: columnParts "Unit \"Price\"",
      ¬ EndsInBreak part := by
    intro part isPart
    have isListed : part ∈ ["order", "Unit \"Price\""] := isPart
    rcases List.mem_pair.mp isListed with rfl | rfl
    · exact not_endsInBreak (by decide)
    · exact not_endsInBreak (by decide)
  exact ref_readBack ascii (some .postgres) "order" "Unit \"Price\"" (by decide)
    (by decide) (by decide) unbroken

/-- A name with a dot is taken for a qualified column. -/
theorem ref_splitsDots :
    identifiersIn ascii none (ref ascii "products" "unit.price" none) ≠
      some ["products", "unit.price"] := by
  decide

end DbBuddy.Sql
