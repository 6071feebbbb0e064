import Mathlib.Data.Bool.AllAny
import DbBuddy.Sql.DryRun
import DbBuddy.Sql.ReadExecution

/-!
# Where the dry run cuts a statement

White space keeps the keywords of a statement apart from its parts, so that each cut is
at a keyword of the statement unless a part has the word in it.
-/

namespace DbBuddy.Sql

open DbBuddy.Library DbBuddy.Dialects
open DbBuddy.Insights (Tables fold fold_of_ascii)

/-! ## Stripped texts -/

section Stripping

variable {front text back : List Char}

theorem strip_append_left (isSpaced : ∀ char ∈ front, isSpace char = true) :
    strip (front ++ text) = strip text := by
  unfold strip
  rw [List.dropWhile_append_of_pos isSpaced]

theorem strip_append_right (isSpaced : ∀ char ∈ back, isSpace char = true) :
    strip (text ++ back) = strip text := by
  unfold strip
  rw [List.dropWhile_append]
  split
  · next isEmpty =>
      have isNil := List.isEmpty_iff.mp isEmpty
      have noBack : back.dropWhile isSpace = [] := List.dropWhile_eq_nil_iff.mpr isSpaced
      rw [isNil, noBack]
  · have isSpacedBack : ∀ char ∈ back.reverse, isSpace char = true := by
      intro char isIn
      exact isSpaced char (List.mem_reverse.mp isIn)
    rw [List.reverse_append, List.dropWhile_append_of_pos isSpacedBack]

/-- The text begins and ends with what is no white space. -/
structure Stripped (text : List Char) : Prop where
  first : ∀ char ∈ text.head?, isSpace char = false
  last : ∀ char ∈ text.getLast?, isSpace char = false

theorem strip_of_stripped (stripped : Stripped text) : strip text = text := by
  have front : text.dropWhile isSpace = text := by
    cases text with
    | nil => rfl
    | cons char rest =>
        have isFirst := stripped.first char rfl
        exact List.dropWhile_cons_of_neg (by simp [isFirst])
  have back : text.reverse.dropWhile isSpace = text.reverse := by
    cases isReverse : text.reverse with
    | nil => rfl
    | cons char rest =>
        have isLast := stripped.last char (by
          rw [List.getLast?_eq_head?_reverse, isReverse]
          rfl)
        exact List.dropWhile_cons_of_neg (by simp [isLast])
  rw [strip, front, back, List.reverse_reverse]

theorem stripped_strip (text : List Char) : Stripped (strip text) where
  first := by
    intro char isFirst
    cases stripped : strip text with
    | nil =>
        rw [stripped] at isFirst
        cases isFirst
    | cons head rest =>
        rw [stripped] at isFirst
        cases isFirst
        exact strip_head stripped
  last := by
    intro char isLast
    rw [List.getLast?_eq_head?_reverse, strip, List.reverse_reverse] at isLast
    have isFirst := List.head?_dropWhile_not isSpace (text.dropWhile isSpace).reverse
    rw [Option.mem_def.mp isLast] at isFirst
    simpa using isFirst

/-- What stands between two solid texts does not matter. -/
theorem Stripped.around (stripped : Stripped front) (strippedBack : Stripped back)
    (text : List Char)
    (frontNonempty : front ≠ []) (backNonempty : back ≠ []) :
    Stripped (front ++ (text ++ back)) where
  first := by
    rw [List.head?_append_of_ne_nil _ frontNonempty]
    exact stripped.first
  last := by
    rw [List.getLast?_append_of_ne_nil _ (by simp [backNonempty]),
      List.getLast?_append_of_ne_nil _ backNonempty]
    exact strippedBack.last

theorem stripped_of_all (isSolid : ∀ char ∈ text, isSpace char = false) : Stripped text where
  first := fun char isFirst => isSolid char (List.mem_of_mem_head? isFirst)
  last := fun char isLast => isSolid char (List.mem_of_mem_getLast? isLast)

theorem stripped_of_ends (isFirst : (text.head?.all fun char => !isSpace char) = true)
    (isLast : (text.getLast?.all fun char => !isSpace char) = true) : Stripped text where
  first := fun char isIn => by
    rw [Option.mem_def.mp isIn] at isFirst
    exact Bool.not_eq_true' _ |>.mp isFirst
  last := fun char isIn => by
    rw [Option.mem_def.mp isIn] at isLast
    exact Bool.not_eq_true' _ |>.mp isLast

theorem length_strip_le (text : List Char) : (strip text).length ≤ text.length := by
  obtain ⟨lead, trail, isText, _⟩ := strip_parts text
  have lengths := congrArg List.length isText
  rw [List.length_append, List.length_append] at lengths
  omega

end Stripping

/-! ## White space, keywords and parts -/

section Pieces

variable {tables : Tables} {text : List Char} {word : String}

theorem isBlank_cases {char : Char} (isBlanks : isBlank char = true) :
    char = ' ' ∨ char = '\t' ∨ char = '\n' ∨ char = '\r' := by
  simpa [isBlank] using isBlanks

theorem Blank.isSpace (blank : Blank) : ∀ char ∈ blank.chars, isSpace char = true := by
  intro char isIn
  rcases isBlank_cases (blank.blank char isIn) with rfl | rfl | rfl | rfl
  all_goals decide

theorem Blank.isWord (blank : Blank) :
    ∀ char ∈ blank.chars, tables.isWord char = false := by
  intro char isIn
  rcases isBlank_cases (blank.blank char isIn) with rfl | rfl | rfl | rfl
  all_goals
    rw [tables.isWord_ascii _ (by decide)]
    decide

theorem Blank.not_mem {char : Char} (blank : Blank) (isSolid : isBlank char = false) :
    char ∉ blank.chars := by
  intro isIn
  have isBlanks := blank.blank char isIn
  rw [isSolid] at isBlanks
  cases isBlanks

theorem Blank.lastInWord (blank : Blank) {inWord : Bool} (outside : inWord = false) :
    Library.lastInWord tables.isWord inWord blank.chars = false := by
  subst outside
  have all := @Blank.isWord tables blank
  generalize blank.chars = chars at all
  induction chars with
  | nil => rfl
  | cons char rest inductionHypothesis =>
      rw [Library.lastInWord, all char List.mem_cons_self]
      exact inductionHypothesis fun later isLater => all later (List.mem_cons_of_mem _ isLater)

theorem Gap.lastInWord (gap : Gap) (inWord : Bool) :
    Library.lastInWord tables.isWord inWord gap.chars = false := by
  rw [lastInWord_of_ne_nil inWord false gap.nonempty]
  exact gap.toBlank.lastInWord rfl

theorem Gap.nextInWord (gap : Gap) : Library.nextInWord tables.isWord
    (gap.chars ++ text) = false := by
  rw [nextInWord_append gap.nonempty]
  obtain ⟨first, rest, isChars⟩ := List.exists_cons_of_ne_nil gap.nonempty
  have isFirst := @Blank.isWord tables gap.toBlank first (by simp [isChars])
  rw [isChars, Library.nextInWord, isFirst]

/-- The keywords that are looked for consist of small letters. -/
def Letters (word : String) : Prop :=
  word.toList ≠ [] ∧ ∀ char ∈ word.toList, 97 ≤ char.toNat ∧ char.toNat ≤ 122

instance (word : String) : Decidable (Letters word) :=
  decidable_of_iff (word.toList ≠ [] ∧
      (word.toList.all fun char => decide (97 ≤ char.toNat ∧ char.toNat ≤ 122)) = true)
    (and_congr_right' List.all_iff_forall_prop)

theorem Letters.isWord (letters : Letters word) :
    ∀ char ∈ word.toList, tables.isWord char = true := by
  intro char isIn
  obtain ⟨low, high⟩ := letters.2 char isIn
  have isLetter : char.isAlphanum = true := isAlphanum_iff.mpr (by omega)
  rw [tables.isWord_ascii char (by omega), isLetter, Bool.true_or]

theorem Letters.keyword (letters : Letters word) :
    Keyword tables.isWord fold word.toList where
  nonempty := letters.1
  word := by
    intro char isIn
    rw [← tables.isWord_fold]
    exact letters.isWord _ isIn

theorem Letters.not_blank (letters : Letters word) {char : Char}
    (isBlanks : isBlank char = true) : fold char ∉ word.toList := by
  intro isIn
  have bounds := letters.2 _ isIn
  rcases isBlank_cases isBlanks with rfl | rfl | rfl | rfl
  all_goals exact absurd bounds (by decide)

theorem Spelled.ascii (spelled : Spelled word) (letters : Letters word) :
    ∀ char ∈ spelled.chars, char.toNat < 128 := by
  intro char isIn
  have isLowered : char.toLower ∈ word.toList := by
    rw [← spelled.spells]
    exact List.mem_map_of_mem isIn
  have bounds := letters.2 _ isLowered
  rcases toLower_cases char with same | ⟨_, high, _⟩
  · rw [same] at bounds
    omega
  · omega

theorem Spelled.fold (spelled : Spelled word) (letters : Letters word) :
    spelled.chars.map Insights.fold = word.toList := by
  rw [← spelled.spells]
  apply List.map_congr_left
  intro char isIn
  exact fold_of_ascii (spelled.ascii letters char isIn)

theorem Spelled.nonempty (spelled : Spelled word) (letters : Letters word) :
    spelled.chars ≠ [] := by
  intro isNil
  have spells := spelled.spells
  rw [isNil] at spells
  exact letters.1 spells.symm

theorem Spelled.isWord (spelled : Spelled word) (letters : Letters word) :
    ∀ char ∈ spelled.chars, tables.isWord char = true := by
  intro char isIn
  apply letters.keyword.word
  rw [← spelled.fold letters]
  exact List.mem_map_of_mem isIn

theorem Spelled.isSpace (spelled : Spelled word) (letters : Letters word) :
    ∀ char ∈ spelled.chars, isSpace char = false := by
  intro char isIn
  by_contra isSpaced
  have bounds := isSpace_bounds (eq_true_of_ne_false isSpaced)
  have isAscii := spelled.ascii letters char isIn
  have isLowered : char.toLower ∈ word.toList := by
    rw [← spelled.spells]
    exact List.mem_map_of_mem isIn
  have letter := letters.2 _ isLowered
  rcases toLower_cases char with same | ⟨low, _, _⟩
  · rw [same] at letter
    omega
  · omega

theorem Part.stripped (part : Part) : Stripped part.chars := by
  rw [← part.trimmed]
  exact stripped_strip _

end Pieces

/-! ## The keywords at the front -/

section Fronts

variable {tables : Tables} {rest : List Char} {word : String}

theorem Blank.dropWhile (blank : Blank)
    (isSolid : ∀ char ∈ rest.head?, Library.isSpace char = false) :
    (blank.chars ++ rest).dropWhile Library.isSpace = rest := by
  rw [List.dropWhile_append_of_pos blank.isSpace]
  cases rest with
  | nil => rfl
  | cons char others =>
      have isFirst := isSolid char rfl
      exact List.dropWhile_cons_of_neg (by simp [isFirst])

theorem Gap.takeWhile (gap : Gap) :
    (gap.chars ++ rest).takeWhile Library.isSpace ≠ [] := by
  obtain ⟨first, others, isChars⟩ := List.exists_cons_of_ne_nil gap.nonempty
  have isFirst := gap.toBlank.isSpace first (by simp [isChars])
  rw [isChars, List.cons_append, List.takeWhile_cons_of_pos isFirst]
  exact List.cons_ne_nil _ _

theorem Spelled.head (spelled : Spelled word) (letters : Letters word) :
    ∀ char ∈ (spelled.chars ++ rest).head?, Library.isSpace char = false := by
  rw [List.head?_append_of_ne_nil _ (spelled.nonempty letters)]
  exact fun char isFirst =>
    spelled.isSpace letters char (List.mem_of_mem_head? isFirst)

theorem Spelled.length (spelled : Spelled word) :
    spelled.chars.length = word.toList.length := by
  rw [← spelled.spells, List.length_map]

theorem Spelled.isPrefixOf (spelled : Spelled word) (letters : Letters word) :
    word.toList.isPrefixOf ((spelled.chars ++ rest).map Insights.fold) = true := by
  rw [List.isPrefixOf_iff_prefix, List.map_append, spelled.fold letters]
  exact List.prefix_append _ _

/-- The first word of a statement, in lower case. -/
theorem getQueryType_spelled (lead : Blank) (spelled : Spelled word) (gap : Gap)
    (letters : Letters word)
    (known : ∀ more, word.toList ++ more ∉ ["unknown".toList, "invalid".toList, []]) :
    getQueryType tables (lead.chars ++ (spelled.chars ++ (gap.chars ++ rest))) =
      word.toList := by
  have isLower : tables.lowercase.text spelled.chars = word.toList := by
    rw [text_ascii (spelled.ascii letters), spelled.spells]
  have nonempty := spelled.nonempty letters
  -- stripping leaves the keyword and what is left of the rest
  obtain ⟨more, isStrip, isMore⟩ : ∃ more,
      strip (lead.chars ++ (spelled.chars ++ (gap.chars ++ rest))) = spelled.chars ++ more ∧
        more <+: gap.chars ++ rest := by
    have isFront := lead.dropWhile (@Spelled.head (gap.chars ++ rest) word spelled letters)
    have isParts := rdropWhile_parts Library.isSpace (spelled.chars ++ (gap.chars ++ rest))
    rw [strip, isFront]
    generalize ((spelled.chars ++ (gap.chars ++ rest)).reverse.dropWhile
      Library.isSpace).reverse = kept at isParts
    have isSpaced : ∀ char ∈ ((spelled.chars ++ (gap.chars ++ rest)).reverse.takeWhile
        Library.isSpace).reverse, Library.isSpace char = true :=
      fun char isIn => List.mem_takeWhile_imp (List.mem_reverse.mp isIn)
    generalize ((spelled.chars ++ (gap.chars ++ rest)).reverse.takeWhile
      Library.isSpace).reverse = trail at isParts isSpaced
    have isKept : kept <+: spelled.chars ++ (gap.chars ++ rest) := ⟨trail, isParts.symm⟩
    rcases List.prefix_or_prefix_of_prefix isKept (List.prefix_append spelled.chars _) with
      isShorter | ⟨more, isMore⟩
    · obtain ⟨missing, isMissing⟩ := isShorter
      have noneMissing : missing = [] := by
        rw [← isMissing, List.append_assoc] at isParts
        have isTrail := List.append_cancel_left isParts
        by_contra some
        obtain ⟨first, others, rfl⟩ := List.exists_cons_of_ne_nil some
        have isSpaced := isSpaced first (by rw [← isTrail]; simp)
        have isSolid := spelled.isSpace letters first (by rw [← isMissing]; simp)
        rw [isSolid] at isSpaced
        cases isSpaced
      refine ⟨[], ?_, List.nil_prefix⟩
      rw [← isMissing, noneMissing, List.append_nil, List.append_nil]
    · refine ⟨more, isMore.symm, ?_⟩
      rw [← isMore, List.append_assoc] at isParts
      exact ⟨trail, (List.append_cancel_left isParts).symm⟩
  have apart : ∀ char others, more = char :: others → Library.isSpace char = true := by
    intro char others isCons
    rw [isCons] at isMore
    obtain ⟨first, behind, isChars⟩ := List.exists_cons_of_ne_nil gap.nonempty
    rw [isChars, List.cons_append] at isMore
    rw [(List.cons_prefix_cons.mp isMore).1]
    exact gap.toBlank.isSpace first (by simp [isChars])
  obtain ⟨others, isWords⟩ := words_append nonempty (spelled.isSpace letters) apart
  unfold getQueryType
  rw [isStrip, text_append, isLower, if_neg (known _), isWords, List.headD_cons, isLower]

theorem DeleteStatement.queryType {engine : DatabaseEngine}
    (statement : DeleteStatement engine) :
    getQueryType tables statement.text = "delete".toList := by
  unfold DeleteStatement.text DeleteStatement.fromText
  cases statement.fromWord with
  | none =>
      exact getQueryType_spelled statement.lead statement.keyword statement.tableGap
        (by decide) (by simp)
  | some word =>
      rw [Option.map_some, Option.getD_some, List.append_assoc]
      exact getQueryType_spelled statement.lead statement.keyword word.1 (by decide)
        (by simp)

theorem UpdateStatement.queryType {engine : DatabaseEngine}
    (statement : UpdateStatement engine) :
    getQueryType tables statement.text = "update".toList := by
  have isText : statement.text = statement.lead.chars ++ (statement.keyword.chars ++
      (statement.tableGap.chars ++ (statement.table.chars ++ (statement.setGap.chars ++
        (statement.setKeyword.chars ++ (statement.itemsGap.chars ++
          (statement.setList ++ statement.tail.text))))))) := by
    simp only [UpdateStatement.text, UpdateStatement.head, UpdateStatement.front,
      List.append_assoc]
  rw [isText]
  exact getQueryType_spelled statement.lead statement.keyword statement.tableGap (by decide)
    (by simp)

/-- A deletion with its FROM becomes a count. -/
theorem DeleteStatement.substitute {engine : DatabaseEngine}
    (statement : DeleteStatement engine) {word : Gap × Spelled "from"}
    (isWord : statement.fromWord = some word) :
    substituteDelete statement.text =
      "SELECT COUNT(*) FROM".toList ++ statement.counted := by
  have letters : Letters "delete" := by decide
  have fromLetters : Letters "from" := by decide
  unfold substituteDelete DeleteStatement.text DeleteStatement.fromText
  rw [isWord, Option.map_some, Option.getD_some, List.append_assoc,
    statement.lead.dropWhile (statement.keyword.head letters)]
  have isLength : (6 : ℕ) = statement.keyword.chars.length := statement.keyword.length.symm
  have isFour : (4 : ℕ) = word.2.chars.length := word.2.length.symm
  dsimp only
  rw [isLength, List.drop_left, word.1.toBlank.dropWhile (word.2.head fromLetters),
    if_pos ⟨statement.keyword.isPrefixOf letters, word.1.takeWhile,
      word.2.isPrefixOf fromLetters⟩, isFour, List.drop_left]

/-- A deletion without it is run as it is, unless its table begins with FROM. -/
theorem DeleteStatement.substitute_bare {engine : DatabaseEngine}
    (statement : DeleteStatement engine) (noWord : statement.fromWord = none) :
    substituteDelete statement.text =
      if "from".toList.isPrefixOf
          ((statement.table.chars ++ statement.tail.text).map fold) = true then
        "SELECT COUNT(*) FROM".toList ++
          (statement.table.chars ++ statement.tail.text).drop 4
      else statement.text := by
  have letters : Letters "delete" := by decide
  have isText : statement.text = statement.lead.chars ++ (statement.keyword.chars ++
      (statement.tableGap.chars ++ (statement.table.chars ++ statement.tail.text))) := by
    unfold DeleteStatement.text DeleteStatement.fromText
    rw [noWord]
    rfl
  have isLength : (6 : ℕ) = statement.keyword.chars.length := statement.keyword.length.symm
  have isSolid : ∀ char ∈ (statement.table.chars ++ statement.tail.text).head?,
      Library.isSpace char = false := by
    rw [List.head?_append_of_ne_nil _ statement.table.nonempty]
    exact statement.table.stripped.first
  rw [isText]
  unfold substituteDelete
  rw [statement.lead.dropWhile (statement.keyword.head letters)]
  dsimp only
  rw [isLength, List.drop_left, statement.tableGap.toBlank.dropWhile isSolid]
  by_cases isFrom : "from".toList.isPrefixOf
      ((statement.table.chars ++ statement.tail.text).map fold) = true
  · rw [if_pos ⟨statement.keyword.isPrefixOf letters, statement.tableGap.takeWhile, isFrom⟩,
      if_pos isFrom]
  · rw [if_neg fun passes => isFrom passes.2.2, if_neg isFrom]

end Fronts

/-! ## The end of a statement -/

section Endings

variable {engine : DatabaseEngine} {tail : Tail engine} {front text back : List Char}

/-- The text begins and ends with what is no white space, and not with a semicolon. -/
structure Ended (text : List Char) : Prop where
  nonempty : text ≠ []
  stripped : Stripped text
  unterminated : text.getLast? ≠ some ';'

theorem Part.ended (part : Part) : Ended part.chars :=
  ⟨part.nonempty, part.stripped, part.unterminated⟩

theorem Ended.around (stripped : Stripped front) (nonempty : front ≠ []) (ended : Ended back)
    (text : List Char) : Ended (front ++ (text ++ back)) where
  nonempty := by simp [nonempty]
  stripped := stripped.around ended.stripped text nonempty ended.nonempty
  unterminated := by
    rw [List.getLast?_append_of_ne_nil _ (by simp [ended.nonempty]),
      List.getLast?_append_of_ne_nil _ ended.nonempty]
    exact ended.unterminated

/-- The end of a text is that of any part of it that reaches so far. -/
theorem Ended.drop (ended : Ended front) (endedText : Ended text) (count : ℕ) :
    Ended (front ++ text.drop count) := by
  by_cases isNil : text.drop count = []
  · rw [isNil, List.append_nil]
    exact ended
  · have isLast : (front ++ text.drop count).getLast? = text.getLast? := by
      rw [List.getLast?_append_of_ne_nil _ isNil, List.getLast?_drop, if_neg]
      intro atMost
      exact isNil (List.drop_eq_nil_of_le atMost)
    refine ⟨by simp [ended.nonempty], ⟨?_, ?_⟩, ?_⟩
    · rw [List.head?_append_of_ne_nil _ ended.nonempty]
      exact ended.stripped.first
    · rw [isLast]
      exact endedText.stripped.last
    · rw [isLast]
      exact endedText.unterminated

theorem ended_digits (count : ℕ) : Ended (Nat.toDigits 10 count) := by
  have digits : ∀ char ∈ Nat.toDigits 10 count, char.isDigit = true :=
    fun char isIn => Nat.isDigit_of_mem_toDigits (by decide) (by decide) isIn
  refine ⟨Nat.toDigits_ne_nil, stripped_of_all ?_, ?_⟩
  · intro char isIn
    by_contra isSpaced
    have bounds := isSpace_bounds (eq_true_of_ne_false isSpaced)
    have isDigit := digits char isIn
    rw [Char.isDigit, Bool.and_eq_true, decide_eq_true_eq, decide_eq_true_eq] at isDigit
    have low : 48 ≤ char.toNat := isDigit.1
    have high : char.toNat ≤ 57 := isDigit.2
    omega
  · intro isLast
    have isDigit := digits ';' (List.mem_of_mem_getLast? isLast)
    cases isDigit

theorem nextInWord_ending {tables : Tables} (tail : Tail engine) :
    nextInWord tables.isWord tail.ending = false := by
  have noSemicolon : tables.isWord ';' = false := by
    rw [tables.isWord_ascii ';' (by decide)]
    decide
  have ofBlank : ∀ (blank : Blank) (text : List Char),
      nextInWord tables.isWord text = false →
        nextInWord tables.isWord (blank.chars ++ text) = false := by
    intro blank text apart
    by_cases noBlank : blank.chars = []
    · rw [noBlank]
      exact apart
    · exact Gap.nextInWord ⟨blank, noBlank⟩
  have apartAfter : nextInWord tables.isWord tail.after.chars = false := by
    have apart := ofBlank tail.after [] rfl
    rwa [List.append_nil] at apart
  apply ofBlank
  cases tail.semicolon with
  | true => exact noSemicolon
  | false => exact apartAfter

/-- A tail stands apart from the word in front of it. -/
theorem nextInWord_text {tables : Tables} (tail : Tail engine) :
    nextInWord tables.isWord tail.text = false := by
  unfold Tail.text Tail.clauses
  cases tail.clause with
  | some clause =>
      simp only [Option.map_some, Option.getD_some, WhereClause.text, List.append_assoc]
      exact clause.gap.nextInWord
  | none =>
      cases tail.limit with
      | some limit =>
          simp only [Option.map_none, Option.getD_none, Option.map_some, Option.getD_some,
            LimitClause.text, List.append_assoc, List.nil_append]
          exact limit.gap.nextInWord
      | none =>
          simp only [Option.map_none, Option.getD_none, List.nil_append]
          exact nextInWord_ending tail

/-- What is left of the end of a statement. -/
def Tail.shown (tail : Tail engine) : List Char :=
  if tail.semicolon then tail.before.chars ++ [';'] else []

theorem strip_ending (stripped : Stripped front) (nonempty : front ≠ []) :
    strip (front ++ tail.ending) = front ++ tail.shown := by
  unfold Tail.ending Tail.shown
  cases tail.semicolon with
  | true =>
      have isStripped : Stripped (front ++ (tail.before.chars ++ [';'])) :=
        stripped.around (stripped_of_ends (by decide) (by decide)) _ nonempty (by simp)
      have regrouped : front ++ (tail.before.chars ++ ([';'] ++ tail.after.chars)) =
          (front ++ (tail.before.chars ++ [';'])) ++ tail.after.chars := by
        simp only [List.append_assoc]
      rw [if_pos rfl, if_pos rfl, regrouped, strip_append_right tail.after.isSpace,
        strip_of_stripped isStripped]
  | false =>
      rw [if_neg Bool.false_ne_true, if_neg Bool.false_ne_true, List.nil_append,
        ← List.append_assoc, strip_append_right tail.after.isSpace,
        strip_append_right tail.before.isSpace, strip_of_stripped stripped,
        List.append_nil]

theorem stripEnd_of_last {char : Char} (other : text.getLast? ≠ some char) :
    stripEnd char text = text := by
  rcases List.eq_nil_or_concat text with rfl | ⟨rest, last, rfl⟩
  · rfl
  · have apart : ¬ (last == char) = true := by
      rw [List.concat_eq_append, List.getLast?_concat] at other
      simpa using other
    rw [stripEnd, List.concat_eq_append, List.reverse_concat, List.dropWhile_cons,
      if_neg apart, List.reverse_cons, List.reverse_reverse]

theorem stripEnd_concat (char : Char) (text : List Char) :
    stripEnd char (text ++ [char]) = stripEnd char text := by
  rw [stripEnd, List.reverse_concat, List.dropWhile_cons_of_pos (by simp)]
  rfl

/-- The condition of a count is read without the end of the statement. -/
theorem bare_shown (ended : Ended front) : bare (front ++ tail.shown) = front := by
  unfold bare Tail.shown
  cases tail.semicolon with
  | true =>
      have isLast : (front ++ tail.before.chars).getLast? ≠ some ';' := by
        intro isLast
        by_cases noBlank : tail.before.chars = []
        · rw [noBlank, List.append_nil] at isLast
          exact ended.unterminated isLast
        · rw [List.getLast?_append_of_ne_nil _ noBlank] at isLast
          exact tail.before.not_mem (by decide) (List.mem_of_mem_getLast? isLast)
      rw [if_pos rfl, ← List.append_assoc, stripEnd_concat, stripEnd_of_last isLast,
        strip_append_right tail.before.isSpace, strip_of_stripped ended.stripped]
  | false =>
      rw [if_neg Bool.false_ne_true, List.append_nil, stripEnd_of_last ended.unterminated,
        strip_of_stripped ended.stripped]

theorem mem_dropLast_of_last {char : Char} (other : text.getLast? ≠ some char) :
    char ∈ text.dropLast ↔ char ∈ text := by
  rcases List.eq_nil_or_concat text with rfl | ⟨rest, last, rfl⟩
  · simp
  · rw [List.concat_eq_append, List.getLast?_concat] at other
    rw [List.concat_eq_append, List.dropLast_concat, List.mem_append, List.mem_singleton]
    constructor
    · exact Or.inl
    · intro either
      rcases either with isIn | same
      · exact isIn
      · exact absurd (congrArg some same.symm) other

theorem semicolon_shown (ended : Ended front) :
    ';' ∈ (front ++ tail.shown).dropLast ↔ ';' ∈ front := by
  unfold Tail.shown
  cases tail.semicolon with
  | true =>
      rw [if_pos rfl, ← List.append_assoc, List.dropLast_concat, List.mem_append]
      exact or_iff_left (tail.before.not_mem (by decide))
  | false =>
      rw [if_neg Bool.false_ne_true, List.append_nil,
        mem_dropLast_of_last ended.unterminated]

/-- A text before the end of a statement passes just if no semicolon is in it. -/
theorem basicSqlValidation_ending (ended : Ended front) :
    basicSqlValidation (strip (front ++ tail.ending)) = true ↔ ';' ∉ front := by
  have isStrip : strip (front ++ tail.ending) = front ++ tail.shown :=
    strip_ending ended.stripped ended.nonempty
  have notEmpty : (front ++ tail.shown).isEmpty = false := by
    rw [List.isEmpty_eq_false_iff]
    simp [ended.nonempty]
  unfold basicSqlValidation
  rw [strip_strip, isStrip, notEmpty, Bool.not_false, Bool.true_and, Bool.not_eq_true',
    Bool.eq_false_iff, ne_eq, List.contains_iff_mem]
  exact not_congr (semicolon_shown ended)

theorem basicSqlValidation_countText {tables : Tables} {table clause : List Char}
    (isWord : ∀ char ∈ table, tables.isWord char = true) (stripped : strip clause = clause) :
    basicSqlValidation (countText table clause) = true ↔ ';' ∉ clause.dropLast := by
  have noSemicolon : ';' ∉ table := by
    intro isIn
    have isWordThen := isWord _ isIn
    rw [tables.isWord_ascii ';' (by decide)] at isWordThen
    cases isWordThen
  have isFront : Stripped "SELECT COUNT(*) FROM".toList :=
    stripped_of_ends (by decide) (by decide)
  have fixed : ';' ∉ "SELECT COUNT(*) FROM".toList ∧ ';' ∉ " WHERE ".toList := by decide
  have begins : 'S' ∈ "SELECT COUNT(*) FROM".toList := by decide
  unfold basicSqlValidation countText
  generalize "SELECT COUNT(*) FROM".toList = front at isFront fixed begins
  generalize " WHERE ".toList = between at fixed
  rw [Bool.and_eq_true, Bool.not_eq_true', Bool.not_eq_true', List.isEmpty_eq_false_iff,
    Bool.eq_false_iff, ne_eq (List.contains _ _), List.contains_iff_mem]
  by_cases noClause : clause = []
  · rw [if_pos noClause, List.append_nil, noClause]
    refine ⟨fun _ => List.not_mem_nil, fun _ => ⟨?_, ?_⟩⟩
    · intro isNil
      obtain ⟨lead, trail, isParts, isLead, isTrail⟩ := strip_parts (front ++ ' ' :: table)
      rw [isNil, List.nil_append] at isParts
      have isIn : 'S' ∈ lead ++ trail := by
        rw [← isParts]
        exact List.mem_append_left _ begins
      rcases List.mem_append.mp isIn with isSpaced | isSpaced
      · exact absurd (isLead _ isSpaced) (by decide)
      · exact absurd (isTrail _ isSpaced) (by decide)
    · intro isIn
      have inText := strip_subset _ (List.mem_of_mem_dropLast isIn)
      rw [List.mem_append, List.mem_cons] at inText
      rcases inText with isFixed | isFixed | isTable
      · exact fixed.1 isFixed
      · exact absurd isFixed (by decide)
      · exact noSemicolon isTable
  · have isStripped : Stripped clause := by
      rw [← stripped]
      exact stripped_strip _
    have regrouped : front ++ ' ' :: (table ++ (between ++ clause)) =
        front ++ ((' ' :: (table ++ between)) ++ clause) := by
      simp only [List.append_assoc, List.cons_append]
    rw [if_neg noClause, regrouped,
      strip_of_stripped (isFront.around isStripped _ (List.ne_nil_of_mem begins) noClause),
      ← List.append_assoc, List.dropLast_append_of_ne_nil noClause, List.mem_append]
    constructor
    · rintro ⟨_, absent⟩ isIn
      exact absent (Or.inr isIn)
    · intro absent
      refine ⟨by simp, fun isIn => ?_⟩
      rcases isIn with isEarlier | isClause
      · rw [List.mem_append, List.mem_cons, List.mem_append] at isEarlier
        rcases isEarlier with isFixed | isFixed | isTable | isFixed
        · exact fixed.1 isFixed
        · exact absurd isFixed (by decide)
        · exact noSemicolon isTable
        · exact fixed.2 isFixed
      · exact absent isClause

end Endings

end DbBuddy.Sql
