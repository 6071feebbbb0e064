import DbBuddy.Sql.Execution
import DbBuddy.Sql.SafetyGate
import Mathlib.Data.List.TakeWhile

/-!
# When a read is run as one

The executor looks at the raw text, so it takes for a read what begins with a read
keyword set off by a blank and has no semicolon except at its end.  For the
engine such a text is one statement that begins with that keyword.
-/

namespace DbBuddy.Sql

open DbBuddy.Library DbBuddy.Dialects

/-- The executor's read branch is taken, and does not refuse. -/
def PlainRead (lowercase : Lowercase) (sql : List Char) : Prop :=
  firstWord lowercase sql ∈ fetchedQueries ∧
    ';' ∉ stripEnd ';' (strip sql)

/-- The driver is handed the text and nothing else, its rows are returned, nothing
is committed; and for the engine the text is one statement that begins with a read
keyword. -/
structure ExecutedAsRead (lowercase : Lowercase) (engine : DatabaseEngine)
    (sql : List Char) : Prop where
  fetches : ∀ (Row : Type) (limit : ℕ) (driver : Driver Row),
    executeQuery lowercase limit driver sql =
      (driver.execute [] sql).map fun cursor =>
        ⟨[sql], false, .fetched (cursor.rows.take limit)⟩
  single : ¬ Stacked (tokens engine sql)
  keyword : ∃ word rest, tokens engine sql = .word word :: rest ∧
    keyword word ∈ readQueries

/-! ## The parts of a stripped text -/

/-- What `dropWhile` takes from the end of a text. -/
theorem rdropWhile_parts (test : Char → Bool) (text : List Char) :
    text = (text.reverse.dropWhile test).reverse ++
      (text.reverse.takeWhile test).reverse := by
  rw [← List.reverse_append, List.takeWhile_append_dropWhile,
    List.reverse_reverse]

/-- A text is its white space, its stripped text, and its white space. -/
theorem strip_parts (text : List Char) :
    ∃ lead trail, text = lead ++ (strip text ++ trail) ∧
      (∀ char ∈ lead, isSpace char = true) ∧
      ∀ char ∈ trail, isSpace char = true := by
  refine ⟨text.takeWhile isSpace,
    ((text.dropWhile isSpace).reverse.takeWhile isSpace).reverse, ?_, ?_, ?_⟩
  · have back := rdropWhile_parts isSpace (text.dropWhile isSpace)
    rw [strip, ← back, List.takeWhile_append_dropWhile]
  · intro char isIn
    exact List.mem_takeWhile_imp isIn
  · intro char isIn
    exact List.mem_takeWhile_imp (List.mem_reverse.mp isIn)

/-- A text is what is left of it and the characters taken from its end. -/
theorem stripEnd_parts (char : Char) (text : List Char) :
    ∃ tail, text = stripEnd char text ++ tail ∧
      ∀ other ∈ tail, other = char := by
  refine ⟨(text.reverse.takeWhile (· == char)).reverse,
    rdropWhile_parts (· == char) text, ?_⟩
  intro other isIn
  have isEqual := List.mem_takeWhile_imp (List.mem_reverse.mp isIn)
  simpa using isEqual

/-- A stripped text does not begin with white space. -/
theorem strip_head {text rest : List Char} {char : Char}
    (stripped : strip text = char :: rest) : isSpace char = false := by
  have back := rdropWhile_parts isSpace (text.dropWhile isSpace)
  rw [show ((text.dropWhile isSpace).reverse.dropWhile isSpace).reverse =
    char :: rest from stripped] at back
  cases front : text.dropWhile isSpace with
  | nil =>
      rw [front] at back
      cases back
  | cons head tail =>
      rw [front] at back
      obtain ⟨rfl, _⟩ := List.cons.inj back
      have nonempty : text.dropWhile isSpace ≠ [] := by
        rw [front]
        exact List.cons_ne_nil head tail
      have isHead := List.head_dropWhile_not isSpace nonempty
      simpa only [front, List.head_cons] using isHead

/-! ## The first word -/

section FirstWord

variable {lowercase : Lowercase}

/-- Lower case leaves no character out. -/
theorem char_ne_nil (lowercase : Lowercase) (char : Char) :
    lowercase.char char ≠ [] := by
  by_cases isAscii : char.toNat < 128
  · simp [lowercase.char_ascii char isAscii]
  · rcases lowercase.char_other char (Nat.le_of_not_lt isAscii) with
      isKelvin | ⟨other, isIn, _⟩
    · simp [isKelvin]
    · exact List.ne_nil_of_mem isIn

/-- Lower case turns solid characters into solid ones. -/
theorem text_solid {word : List Char}
    (isSolid : ∀ char ∈ word, isSpace char = false) :
    ∀ char ∈ lowercase.text word, isSpace char = false := by
  intro char isIn
  obtain ⟨source, isSource, isLowered⟩ := List.mem_flatMap.mp isIn
  exact lowercase.char_solid source (isSolid source isSource) char isLowered

/-- The words of a text that starts with a word. -/
theorem words_append {word rest : List Char} (nonempty : word ≠ [])
    (isSolid : ∀ char ∈ word, isSpace char = false)
    (apart : ∀ char others, rest = char :: others → isSpace char = true) :
    ∃ others, words (word ++ rest) = word :: others := by
  have notEmpty : (!word.isEmpty) = true := by
    simpa using nonempty
  cases rest with
  | nil =>
      refine ⟨[], ?_⟩
      rw [List.append_nil, words, List.splitOnP_eq_singleton isSolid]
      simp [notEmpty]
  | cons char others =>
      have isSpaced := apart char others rfl
      refine ⟨words others, ?_⟩
      rw [words, List.splitOnP_append_cons_of_forall_mem isSolid char isSpaced]
      simp [notEmpty, words]

/-- The first word of a text, and what follows it. -/
theorem firstWord_parts (lowercase : Lowercase) (sql : List Char) :
    ∃ word rest, strip sql = word ++ rest ∧
      String.ofList (lowercase.text word) = firstWord lowercase sql ∧
      ∀ char others, rest = char :: others → isSpace char = true := by
  have parts : (strip sql).takeWhile (fun char => !isSpace char) ++
      (strip sql).dropWhile (fun char => !isSpace char) = strip sql :=
    List.takeWhile_append_dropWhile
  have isSolid : ∀ char ∈ (strip sql).takeWhile (fun char => !isSpace char),
      isSpace char = false := by
    intro char isIn
    simpa using List.mem_takeWhile_imp isIn
  have apart : ∀ char others,
      (strip sql).dropWhile (fun char => !isSpace char) = char :: others →
      isSpace char = true := by
    intro char others isRest
    have nonempty : (strip sql).dropWhile (fun char => !isSpace char) ≠ [] := by
      rw [isRest]
      exact List.cons_ne_nil char others
    have isHead := List.head_dropWhile_not _ nonempty
    simpa only [isRest, List.head_cons, Bool.not_eq_false'] using isHead
  generalize (strip sql).takeWhile (fun char => !isSpace char) = word
    at parts isSolid
  generalize (strip sql).dropWhile (fun char => !isSpace char) = rest
    at parts apart
  refine ⟨word, rest, parts.symm, ?_, apart⟩
  cases word with
  | nil =>
      -- A stripped text that begins with no word is empty.
      have isNil : strip sql = [] := by
        cases stripped : strip sql with
        | nil =>
            rfl
        | cons char others =>
            have isHead := strip_head stripped
            have isSpaced := apart char others (parts.trans stripped)
            rw [isHead] at isSpaced
            cases isSpaced
      rw [firstWord, isNil]
      rfl
  | cons char others =>
      have nonempty : lowercase.text (char :: others) ≠ [] := by
        rw [Lowercase.text, List.flatMap_cons]
        exact List.append_ne_nil_of_left_ne_nil (char_ne_nil lowercase char) _
      have restApart : ∀ next more, lowercase.text rest = next :: more →
          isSpace next = true := by
        intro next more isRest
        cases rest with
        | nil =>
            cases isRest
        | cons first tail =>
            have isSpaced := apart first tail rfl
            rw [Lowercase.text, List.flatMap_cons,
              lowercase.char_space first isSpaced] at isRest
            obtain ⟨rfl, _⟩ := List.cons.inj isRest
            exact isSpaced
      obtain ⟨more, isWords⟩ := words_append nonempty (text_solid isSolid)
        restApart
      have split : lowercase.text (strip sql) =
          lowercase.text (char :: others) ++ lowercase.text rest := by
        rw [← parts, Lowercase.text, List.flatMap_append]
        rfl
      rw [firstWord, loweredWords, split, isWords]
      rfl

/-- A letter of ASCII is part of a word, and begins no literal or comment. -/
theorem isWordChar_of_letter {char : Char}
    (isLetter : (65 ≤ char.toNat ∧ char.toNat ≤ 90) ∨
      (97 ≤ char.toNat ∧ char.toNat ≤ 122)) :
    isWordChar char = true ∧ char ∉ ['\'', '"', '-', '/', '#'] := by
  constructor
  · have isAlphanum : char.isAlphanum = true := isAlphanum_iff.mpr (by omega)
    simp [isWordChar, isAlphanum]
  · intro isSpecial
    have codes : ∀ special ∈ ['\'', '"', '-', '/', '#'],
        special.toNat < 65 := by
      simp only [List.forall_mem_cons, List.not_mem_nil, false_implies,
        implies_true, and_true]
      decide
    have code := codes char isSpecial
    omega

/-- A word that becomes a read keyword in lower case is spelled in ASCII. -/
theorem word_of_readQuery {word : List Char}
    (isRead : String.ofList (lowercase.text word) ∈ readQueries) :
    keyword word = String.ofList (lowercase.text word) ∧
      ∀ char ∈ word, isWordChar char = true ∧
        char ∉ ['\'', '"', '-', '/', '#'] := by
  have spelled : (readQueries.all fun query => query.toList.all fun char =>
      decide (97 ≤ char.toNat ∧ char.toNat ≤ 122 ∧ char ≠ 'k')) = true := by
    decide
  have letters : ∀ query ∈ readQueries, ∀ char ∈ query.toList,
      97 ≤ char.toNat ∧ char.toNat ≤ 122 ∧ char ≠ 'k' := by
    intro query isQuery char isChar
    have isSpelled := List.all_eq_true.mp spelled query isQuery
    exact of_decide_eq_true (List.all_eq_true.mp isSpelled char isChar)
  have lowered : ∀ char ∈ lowercase.text word,
      97 ≤ char.toNat ∧ char.toNat ≤ 122 ∧ char ≠ 'k' := by
    intro char isIn
    refine letters _ isRead char ?_
    simpa using isIn
  have isAscii : ∀ char ∈ word, char.toNat < 128 := by
    intro char isIn
    by_contra notAscii
    have within : ∀ other ∈ lowercase.char char, other ∈ lowercase.text word :=
      fun other isOther => List.mem_flatMap.mpr ⟨char, isIn, isOther⟩
    rcases lowercase.char_other char (Nat.le_of_not_lt notAscii) with
      isKelvin | ⟨other, isOther, isHigh⟩
    · have isK := within 'k' (by simp [isKelvin])
      exact (lowered 'k' isK).2.2 rfl
    · have bounds := lowered other (within other isOther)
      omega
  have isMap : lowercase.text word = word.map Char.toLower := by
    rw [Lowercase.text, List.map_eq_flatMap]
    exact List.flatMap_congr fun char isIn =>
      lowercase.char_ascii char (isAscii char isIn)
  refine ⟨by rw [keyword, isMap], ?_⟩
  intro char isIn
  have isLowered : char.toLower ∈ lowercase.text word := by
    rw [isMap]
    exact List.mem_map_of_mem isIn
  have bounds := lowered char.toLower isLowered
  apply isWordChar_of_letter
  rcases toLower_cases char with same | isUpper
  · rw [same] at bounds
    exact Or.inr ⟨bounds.1, bounds.2.1⟩
  · exact Or.inl ⟨isUpper.1, isUpper.2.1⟩

end FirstWord

/-! ## What the engine makes of a plain read -/

section Lexing

variable {engine : DatabaseEngine}

/-- White space begins no literal or comment. -/
theorem not_special_of_isSpace {char : Char} (isSpaced : isSpace char = true) :
    char ∉ ['\'', '"', '-', '/', '#'] := by
  intro isSpecial
  have solid : ∀ special ∈ ['\'', '"', '-', '/', '#'],
      isSpace special = false := by
    simp only [List.forall_mem_cons, List.not_mem_nil, false_implies,
      implies_true, and_true]
    decide
  rw [solid char isSpecial] at isSpaced
  cases isSpaced

/-- White space in front makes no token. -/
theorem tokensFrom_lead {lead : List Char} (pieces : List Span)
    (isSpaced : ∀ char ∈ lead, isSpace char = true) :
    tokensFrom [] (lead.map .code ++ pieces) = tokensFrom [] pieces := by
  induction lead with
  | nil =>
      rfl
  | cons char rest inductionHypothesis =>
      have isHead := isSpaced char List.mem_cons_self
      have notWord : ¬ isWordChar char = true := by
        intro isWord
        rw [(isWordChar_solid isWord).1] at isHead
        cases isHead
      have later := inductionHypothesis fun other isIn =>
        isSpaced other (List.mem_cons_of_mem char isIn)
      rw [List.map_cons, List.cons_append, tokensFrom, if_neg notWord,
        if_pos isHead, later]
      rfl

/-- The characters of a word are collected. -/
theorem tokensFrom_word {word before : List Char} (pieces : List Span)
    (isWord : ∀ char ∈ word, isWordChar char = true) :
    tokensFrom before (word.map .code ++ pieces) =
      tokensFrom (before ++ word) pieces := by
  induction word generalizing before with
  | nil =>
      rw [List.append_nil]
      rfl
  | cons char rest inductionHypothesis =>
      have later : tokensFrom (before ++ [char]) (rest.map .code ++ pieces) =
          tokensFrom (before ++ [char] ++ rest) pieces :=
        inductionHypothesis fun other isIn =>
          isWord other (List.mem_cons_of_mem char isIn)
      rw [List.map_cons, List.cons_append, tokensFrom,
        if_pos (isWord char List.mem_cons_self), later, List.append_assoc]
      rfl

/-- A text whose first word is spelled in word characters begins with it. -/
theorem tokens_word {lead word rest : List Char} (nonempty : word ≠ [])
    (isSpaced : ∀ char ∈ lead, isSpace char = true)
    (isWord : ∀ char ∈ word, isWordChar char = true ∧
      char ∉ ['\'', '"', '-', '/', '#'])
    (apart : ∀ char others, rest = char :: others → isSpace char = true) :
    ∃ others, tokens engine (lead ++ (word ++ rest)) = .word word :: others := by
  have leadLexed : lex engine (lead ++ (word ++ rest)) =
      lead.map .code ++ lex engine (word ++ rest) :=
    scan_append _ fun char isIn =>
      lexeme_eq_none (not_special_of_isSpace (isSpaced char isIn))
  have wordLexed : lex engine (word ++ rest) =
      word.map .code ++ lex engine rest :=
    scan_append _ fun char isIn => lexeme_eq_none (isWord char isIn).2
  rw [tokens, leadLexed, tokensFrom_lead _ isSpaced, wordLexed,
    tokensFrom_word _ fun char isIn => (isWord char isIn).1, List.nil_append]
  cases rest with
  | nil =>
      refine ⟨[], ?_⟩
      simp [lex, tokensFrom, pending, nonempty]
  | cons char others =>
      have isHead := apart char others rfl
      have notWord : ¬ isWordChar char = true := by
        intro isWordHead
        rw [(isWordChar_solid isWordHead).1] at isHead
        cases isHead
      have headLexed : lex engine (char :: others) =
          .code char :: lex engine others :=
        scan_passed (lexeme_eq_none (not_special_of_isSpace isHead) others)
      rw [headLexed, tokensFrom, if_neg notWord, pending, if_neg nonempty]
      exact ⟨_, rfl⟩

/-- The characters of the pieces that are code. -/
def codeChars (pieces : List Span) : List Char :=
  pieces.flatMap fun
    | .code char => [char]
    | _ => []

theorem lexeme_no_code {text after : List Char} {piece : Span}
    (found : lexeme engine text = some (piece, after)) (char : Char) :
    piece ≠ .code char := by
  unfold lexeme at found
  rintro rfl
  split at found
  all_goals simp at found

theorem codeChars_sublist (sql : List Char) :
    (codeChars (lex engine sql)).Sublist sql := by
  refine scan_sublist (lexeme_consumes engine) _ (fun _ => rfl) ?_ sql
  intro text piece after found
  cases piece with
  | code char =>
      exact absurd rfl (lexeme_no_code found char)
  | literal quote =>
      rfl
  | comment =>
      rfl

/-- Two characters of a text in this order cannot both come from its end. -/
theorem mem_back_of_pair {front back : List Char} {first second : Char}
    (notFront : first ∉ front)
    (inOrder : [first, second].Sublist (front ++ back)) : second ∈ back := by
  obtain ⟨left, right, isPair, isFront, isBack⟩ :=
    List.sublist_append_iff.mp inOrder
  cases left with
  | nil =>
      rw [List.nil_append] at isPair
      rw [← isPair] at isBack
      exact isBack.subset (by simp)
  | cons head tail =>
      obtain ⟨rfl, _⟩ := List.cons.inj isPair
      exact absurd (isFront.subset List.mem_cons_self) notFront

/-- Nothing stands behind a semicolon if all of them are at the end. -/
theorem not_stacked {front back : List Char} (notFront : ';' ∉ front)
    (onlyBack : ∀ char ∈ back, char = ';' ∨ isSpace char = true) :
    ¬ Stacked (tokens engine (front ++ back)) := by
  rintro ⟨before, after, isSplit, token, isAfter, different⟩
  obtain ⟨first, rest, isPieces, _, isRest⟩ := tokensFrom_split isSplit
  rw [← isRest] at isAfter
  obtain ⟨char, isCode, isSolid, notSemicolon⟩ :=
    (solid_of_mem isAfter different).resolve_left (by simp)
  have inRest : [char].Sublist (codeChars rest) := by
    refine List.singleton_sublist.mpr ?_
    exact List.mem_flatMap.mpr ⟨.code char, isCode, List.mem_singleton_self _⟩
  have inOrder : [';', char].Sublist (front ++ back) := by
    have pieces : codeChars (lex engine (front ++ back)) =
        codeChars first ++ ';' :: codeChars rest := by
      rw [isPieces]
      simp [codeChars]
    have inPieces : [';', char].Sublist (codeChars (lex engine (front ++ back))) := by
      rw [pieces]
      exact (inRest.cons_cons ';').trans (List.sublist_append_right _ _)
    exact inPieces.trans (codeChars_sublist _)
  rcases onlyBack char (mem_back_of_pair notFront inOrder) with isSemicolon | isSpaced
  · exact notSemicolon isSemicolon
  · rw [isSolid] at isSpaced
    cases isSpaced

end Lexing

/-! ## The two agree -/

section Agreement

variable {lowercase : Lowercase} {engine : DatabaseEngine} {sql : List Char}

theorem fetchedQueries_iff {query : String} :
    query ∈ fetchedQueries ↔ query ∈ readQueries := by
  simp only [fetchedQueries, readQueries, List.mem_cons, List.not_mem_nil,
    or_false]
  tauto

/-- The read branch. -/
theorem executeQuery_of_plainRead (plain : PlainRead lowercase sql) (Row : Type)
    (limit : ℕ) (driver : Driver Row) :
    executeQuery lowercase limit driver sql =
      (driver.execute [] sql).map fun cursor =>
        ⟨[sql], false, .fetched (cursor.rows.take limit)⟩ := by
  rw [executeQuery, if_pos plain.1, if_neg plain.2]
  cases driver.execute [] sql with
  | error message =>
      rfl
  | ok cursor =>
      simp [Except.map, fetchBounded_eq]

/-- A driver for which every statement succeeds tells the branches apart. -/
theorem plainRead_of_fetches
    (fetches : ∀ (Row : Type) (limit : ℕ) (driver : Driver Row),
      executeQuery lowercase limit driver sql =
        (driver.execute [] sql).map fun cursor =>
          ⟨[sql], false, .fetched (cursor.rows.take limit)⟩) :
    PlainRead lowercase sql := by
  have atOnce := fetches Unit 0 ⟨fun _ _ => .ok ⟨[], 0, .full⟩⟩
  simp only [executeQuery, Except.map] at atOnce
  split at atOnce
  · rename_i isFetched
    split at atOnce
    · cases atOnce
    · rename_i noSemicolon
      exact ⟨isFetched, noSemicolon⟩
  · split at atOnce
    · cases atOnce
    · cases atOnce

/-- For the engine a plain read is one statement that begins with its keyword. -/
theorem tokens_of_plainRead (plain : PlainRead lowercase sql) :
    (¬ Stacked (tokens engine sql)) ∧
      ∃ word rest, tokens engine sql = .word word :: rest ∧
        keyword word ∈ readQueries := by
  obtain ⟨lead, trail, isText, leadSpaced, trailSpaced⟩ := strip_parts sql
  constructor
  · obtain ⟨tail, isStripped, isTail⟩ := stripEnd_parts ';' (strip sql)
    have parts : sql = (lead ++ stripEnd ';' (strip sql)) ++ (tail ++ trail) := by
      calc
        sql = lead ++ (strip sql ++ trail) := isText
        _ = lead ++ ((stripEnd ';' (strip sql) ++ tail) ++ trail) := by
            rw [← isStripped]
        _ = (lead ++ stripEnd ';' (strip sql)) ++ (tail ++ trail) := by
            simp only [List.append_assoc]
    have notFront : ';' ∉ lead ++ stripEnd ';' (strip sql) := by
      intro isIn
      rcases List.mem_append.mp isIn with inLead | inText
      · have isSpaced := leadSpaced ';' inLead
        revert isSpaced
        decide
      · exact plain.2 inText
    rw [parts]
    refine not_stacked notFront ?_
    intro char isIn
    rcases List.mem_append.mp isIn with inTail | inTrail
    · exact Or.inl (isTail char inTail)
    · exact Or.inr (trailSpaced char inTrail)
  · obtain ⟨word, rest, isStripped, isFirst, apart⟩ :=
      firstWord_parts lowercase sql
    have isRead : String.ofList (lowercase.text word) ∈ readQueries := by
      rw [isFirst]
      exact fetchedQueries_iff.mp plain.1
    have spelled := word_of_readQuery isRead
    have nonempty : word ≠ [] := by
      rintro rfl
      have isNil : lowercase.text [] = [] := rfl
      rw [isNil] at isRead
      exact absurd isRead (by decide)
    have restApart : ∀ char others, rest ++ trail = char :: others →
        isSpace char = true := by
      intro char others isRest
      cases rest with
      | nil =>
          have isTrail : trail = char :: others := isRest
          exact trailSpaced char (isTrail ▸ List.mem_cons_self)
      | cons head more =>
          obtain ⟨rfl, _⟩ := List.cons.inj isRest
          exact apart head more rfl
    have begins : ∃ others, tokens engine (lead ++ (word ++ (rest ++ trail))) =
        .word word :: others :=
      tokens_word nonempty leadSpaced spelled.2 restApart
    obtain ⟨others, isTokens⟩ := begins
    refine ⟨word, others, ?_, ?_⟩
    · rw [isText, isStripped, List.append_assoc]
      exact isTokens
    · rw [spelled.1]
      exact isRead

end Agreement

/-- What is admitted is run as a read. -/
def ReadsAgree (lowercase : Lowercase) (engine : DatabaseEngine)
    (sql : List Char) : Prop :=
  Admitted lowercase sql → ExecutedAsRead lowercase engine sql

/-- What is admitted is run as a read, and as one statement that begins with a read
keyword, exactly if such a keyword is its first word and no semicolon stands
before its end. -/
theorem readsAgree_iff (lowercase : Lowercase) (engine : DatabaseEngine)
    (sql : List Char) :
    ReadsAgree lowercase engine sql ↔
      (Admitted lowercase sql → PlainRead lowercase sql) := by
  constructor
  · intro agree admitted
    exact plainRead_of_fetches (agree admitted).fetches
  · intro plainIf admitted
    have plain := plainIf admitted
    have lexed : (¬ Stacked (tokens engine sql)) ∧
        ∃ word rest, tokens engine sql = .word word :: rest ∧
          keyword word ∈ readQueries := tokens_of_plainRead plain
    exact ⟨executeQuery_of_plainRead plain, lexed.1, lexed.2⟩

/-! ### Comments, literals and punctuation -/

def commentedRead : List Char := "/* c */ SELECT 1".toList

def closeComment : List Char := "select/**/1".toList

def quotedSemicolon : List Char := "SELECT \';\'".toList

def trailingComment : List Char := "SELECT 1; -- done".toList

theorem not_readsAgree_of_admitted {sql : List Char}
    (admitted : chartAdmits asciiLowercase sql = true)
    (notPlain : ¬ PlainRead asciiLowercase sql) :
    ¬ ReadsAgree asciiLowercase .mysql sql := by
  intro agree
  have executed := agree (Or.inr admitted)
  exact notPlain (plainRead_of_fetches executed.fetches)

/-- Two admitted reads are committed as writes, and two are refused. -/
theorem reads_disagree :
    ¬ ReadsAgree asciiLowercase .mysql commentedRead ∧
      ¬ ReadsAgree asciiLowercase .mysql closeComment ∧
      ¬ ReadsAgree asciiLowercase .mysql quotedSemicolon ∧
      ¬ ReadsAgree asciiLowercase .mysql trailingComment := by
  have admitted : ∀ sql ∈ [commentedRead, closeComment, quotedSemicolon,
      trailingComment], chartAdmits asciiLowercase sql = true := by decide
  have notPlain : ∀ sql ∈ [commentedRead, closeComment, quotedSemicolon,
      trailingComment], ¬ PlainRead asciiLowercase sql := by
    unfold PlainRead
    decide
  have disagree : ∀ sql ∈ [commentedRead, closeComment, quotedSemicolon,
      trailingComment], ¬ ReadsAgree asciiLowercase .mysql sql :=
    fun sql isIn => not_readsAgree_of_admitted (admitted sql isIn)
      (notPlain sql isIn)
  refine ⟨disagree _ ?_, disagree _ ?_, disagree _ ?_, disagree _ ?_⟩
  all_goals simp

end DbBuddy.Sql
