import DbBuddy.Insights.Formatter

/-!
# Checked texts and the guardrail's own

A field that is checked as part of a longer text passes on its own, since it stands
between blanks in it.  The notes that the guardrail writes are checked by nobody; which
words they have in them is found out once for the fixed parts.
-/

namespace DbBuddy.Insights

open DbBuddy.Library

/-- No banned topic, no cause from outside the result and no SQL. -/
structure Clean (tables : Tables) (evidence : Evidence) (text : Text) : Prop where
  topics : bannedTopicsIn tables text = []
  causes : ungroundedCausalClaim tables evidence text = false
  sql : containsSql tables text = false

/-! ## Parts of a checked text -/

section Parts

variable {tables : Tables} {evidence : Evidence} {front text back : Text}

theorem isWord_blank (tables : Tables) : tables.isWord ' ' = false := by
  rw [tables.isWord_ascii ' ' (by decide)]
  rfl

theorem lastInWord_blank (tables : Tables) (front : Text) :
    lastInWord tables.isWord false (front ++ [' ']) = false := by
  rw [lastInWord_concat, isWord_blank]

theorem nextInWord_blank (tables : Tables) (back : Text) :
    nextInWord tables.isWord (' ' :: back) = false := isWord_blank tables

theorem mem_bannedTopicsIn {topic : Topic} : topic ∈ bannedTopicsIn tables text ↔
    text ≠ [] ∧ search tables.isWord topic.pattern text = true := by
  have isBanned : topic ∈ bannedTopics := by
    cases topic <;> decide
  unfold bannedTopicsIn
  cases text with
  | nil => simp
  | cons char rest => simp [isBanned]

theorem containsSql_iff : containsSql tables text = true ↔
    text ≠ [] ∧ search tables.isWord (sqlPattern tables) text = true := by
  simp [containsSql]

theorem append_ne_nil (nonempty : text ≠ []) (front back : Text) :
    front ++ text ++ back ≠ [] := by
  intro isNil
  exact nonempty (List.append_eq_nil_iff.mp (List.append_eq_nil_iff.mp isNil).1).2

/-- A part that stands between blanks has no topic in it that the whole text has not. -/
theorem bannedTopicsIn_within
    (apartBefore : lastInWord tables.isWord false front = false)
    (apartBehind : nextInWord tables.isWord back = false)
    (clean : bannedTopicsIn tables (front ++ text ++ back) = []) :
    bannedTopicsIn tables text = [] := by
  apply List.eq_nil_iff_forall_not_mem.mpr
  intro topic isIn
  obtain ⟨nonempty, isFound⟩ := mem_bannedTopicsIn.mp isIn
  have inWhole : topic ∈ bannedTopicsIn tables (front ++ text ++ back) :=
    mem_bannedTopicsIn.mpr ⟨append_ne_nil nonempty front back,
      search_within apartBefore apartBehind isFound⟩
  rw [clean] at inWhole
  cases inWhole

theorem containsSql_within
    (apartBefore : lastInWord tables.isWord false front = false)
    (apartBehind : nextInWord tables.isWord back = false)
    (clean : containsSql tables (front ++ text ++ back) = false) :
    containsSql tables text = false := by
  by_contra isSql
  obtain ⟨nonempty, isFound⟩ := containsSql_iff.mp (eq_true_of_ne_false isSql)
  have inWhole : containsSql tables (front ++ text ++ back) = true :=
    containsSql_iff.mpr ⟨append_ne_nil nonempty front back,
      search_within apartBefore apartBehind isFound⟩
  rw [clean] at inWhole
  cases inWhole

/-- Whether a clause names a column or cites a number. -/
def grounded (tables : Tables) (evidence : Evidence) (columns : List Text)
    (clause : Text) : Bool :=
  clauseCitesAResultNumber tables clause evidence.numbers ||
    (tokens tables clause).any (vocabulary tables columns).contains

theorem ungroundedCausalClaim_iff :
    ungroundedCausalClaim tables evidence text = true ↔
      ∃ columns, evidence.columns = some columns ∧ text ≠ [] ∧
        ∃ after ∈ finditer tables.isWord causalPattern text,
          grounded tables evidence columns (clauseOf tables after.ahead) = false := by
  unfold ungroundedCausalClaim
  cases evidence.columns with
  | none => simp
  | some columns =>
      cases text with
      | nil => simp
      | cons char rest => simp [grounded, Bool.or_eq_false_iff]

def asciiWord (char : Char) : Bool := char.isAlphanum || char == '_'

theorem isWord_of_ascii {words : List Text}
    (ascii : (words.all fun word =>
      word.all fun char => decide (char.toNat < 128)) = true) :
    ∀ word ∈ words, ∀ char ∈ word, tables.isWord char = asciiWord char := by
  intro word isIn char isChar
  have isAscii := List.all_eq_true.mp (List.all_eq_true.mp ascii word isIn) char isChar
  exact tables.isWord_ascii char (of_decide_eq_true isAscii)

/-- Literals by their characters. -/
theorem folded_eq {words : List String} (spelled : List Text)
    (isWords : spelled.map String.ofList = words) :
    folded words = spelled.map (List.map fold) := by
  rw [← isWords, folded, List.map_map]
  apply List.map_congr_left
  intro chars _
  rw [Function.comp_apply, String.toList_ofList]

/-- The connectives do not overlap. -/
theorem causalPattern_apart (tables : Tables) : causalPattern.Apart tables.isWord := by
  apply keywords_apart tables.isWord_fold
  have spelled := @folded_eq causalConnectives
    [_, _, _, _, _, _, _, _, _, _, _, _, _, _, _] rfl
  rw [spelled]
  refine Unnested.congr (isWord_of_ascii ?_) ?_
  · decide
  · decide

theorem causalPattern_takes (tables : Tables) : causalPattern.Takes tables.isWord := by
  apply keywords_takes
  have spelled := @folded_eq causalConnectives
    [_, _, _, _, _, _, _, _, _, _, _, _, _, _, _] rfl
  rw [spelled]
  decide

/-- A claim at the end of a text is a claim of the text. -/
theorem ungroundedCausalClaim_of_suffix
    (apartBefore : lastInWord tables.isWord false front = false)
    (clean : ungroundedCausalClaim tables evidence (front ++ text) = false) :
    ungroundedCausalClaim tables evidence text = false := by
  by_contra isClaim
  obtain ⟨columns, isKnown, nonempty, after, isFound, ungrounded⟩ :=
    ungroundedCausalClaim_iff.mp (eq_true_of_ne_false isClaim)
  have inWhole : ungroundedCausalClaim tables evidence (front ++ text) = true := by
    refine ungroundedCausalClaim_iff.mpr ⟨columns, isKnown, ?_, after, ?_, ungrounded⟩
    · intro isNil
      exact nonempty (List.append_eq_nil_iff.mp isNil).2
    · exact finditer_of_suffix (causalPattern_takes tables) (causalPattern_apart tables)
        apartBefore isFound
  rw [clean] at inWhole
  cases inWhole

end Parts

/-! ## Notes -/

/-- The words that begin a statement in `SQL_MARKERS`. -/
def sqlVerbs : List String := ["SELECT", "INSERT", "UPDATE", "DELETE", "DROP", "ALTER"]

/-- The fixed parts of the texts that the guardrail writes itself. -/
def fixedTexts : List String :=
  [cannotDetermine, rowsNote, summaryUngroundedNote, answerUngroundedNote,
    answerSqlNote, uncitedNote, qualifiedNote, ungroundedNote, unsupportedNote,
    summaryTopicsNote.1, summaryTopicsNote.2, topicsNote.1, topicsNote.2,
    answerTopicsNote.1, answerTopicsNote.2]

/-- A word of letters and blanks, which begins with a letter. -/
def solid (word : Text) : Bool :=
  word.head?.any Char.isAlpha && word.all fun char => char.isAlpha || char == ' '

/-- A word is not found in a text, in any case. -/
def quiet (word text : Text) : Bool := !containsText (word.map fold) (text.map fold)

/-- What is quiet is decided for literals by their characters. -/
theorem forall_quiet {words texts : List String} (spelledWords spelledTexts : List Text)
    (isWords : spelledWords.map String.ofList = words)
    (isTexts : spelledTexts.map String.ofList = texts)
    (holds : (spelledWords.all fun word =>
      solid (word.map fold) && spelledTexts.all fun text => quiet word text) = true) :
    ∀ word ∈ words, solid (word.toList.map fold) = true ∧
      ∀ text ∈ texts, quiet word.toList text.toList = true := by
  intro word isWord
  rw [← isWords] at isWord
  obtain ⟨chars, isChars, rfl⟩ := List.mem_map.mp isWord
  obtain ⟨isSolid, isQuiet⟩ :=
    (Bool.and_eq_true _ _).mp (List.all_eq_true.mp holds chars isChars)
  rw [String.toList_ofList]
  refine ⟨isSolid, fun text isText => ?_⟩
  rw [← isTexts] at isText
  obtain ⟨others, isOthers, rfl⟩ := List.mem_map.mp isText
  rw [String.toList_ofList]
  exact List.all_eq_true.mp isQuiet others isOthers

/-- The words of the other two patterns. -/
def markers : List String := causalConnectives ++ sqlVerbs

def otherNames (topic : Topic) : List String :=
  (bannedTopics.filter fun other => other != topic).map Topic.name

set_option maxRecDepth 4000 in
theorem markers_quiet : ∀ word ∈ markers, solid (word.toList.map fold) = true ∧
    ∀ text ∈ fixedTexts ++ bannedTopics.map Topic.name,
      quiet word.toList text.toList = true :=
  forall_quiet [_, _, _, _, _, _, _, _, _, _, _, _, _, _, _, _, _, _, _, _, _]
    [_, _, _, _, _, _, _, _, _, _, _, _, _, _, _, _, _, _, _, _]
    rfl rfl (by decide +kernel)

set_option maxRecDepth 4000 in
theorem topicWords_quiet (topic : Topic) : ∀ word ∈ topic.words,
    solid (word.toList.map fold) = true ∧
      ∀ text ∈ fixedTexts ++ otherNames topic, quiet word.toList text.toList = true := by
  cases topic with
  | weather =>
      exact forall_quiet [_, _, _, _, _, _]
        [_, _, _, _, _, _, _, _, _, _, _, _, _, _, _, _, _, _, _]
        rfl rfl (by decide)
  | competitors =>
      exact forall_quiet [_, _, _, _, _]
        [_, _, _, _, _, _, _, _, _, _, _, _, _, _, _, _, _, _, _]
        rfl rfl (by decide)
  | economy =>
      exact forall_quiet [_, _, _, _, _]
        [_, _, _, _, _, _, _, _, _, _, _, _, _, _, _, _, _, _, _]
        rfl rfl (by decide)
  | holidays =>
      exact forall_quiet [_, _, _, _]
        [_, _, _, _, _, _, _, _, _, _, _, _, _, _, _, _, _, _, _]
        rfl rfl (by decide)
  | marketingSpeculation =>
      exact forall_quiet [_, _, _]
        [_, _, _, _, _, _, _, _, _, _, _, _, _, _, _, _, _, _, _]
        rfl rfl (by decide)

theorem not_infix_of_quiet {word text : Text} (isQuiet : quiet word text = true) :
    ¬word.map fold <:+: text.map fold := by
  intro isPart
  obtain ⟨tail, isPrefix, isSuffix⟩ := List.infix_iff_prefix_suffix.mp isPart
  have contains : containsText (word.map fold) (text.map fold) = true :=
    List.any_eq_true.mpr
      ⟨tail, (List.mem_tails _ _).mpr isSuffix, List.isPrefixOf_iff_prefix.mpr isPrefix⟩
  rw [quiet, contains] at isQuiet
  cases isQuiet

/-- A text of the guardrail: it names a topic only if that was found, it claims no cause
and has no SQL in it. -/
structure Note (tables : Tables) (evidence : Evidence) (found : List Topic)
    (text : Text) : Prop where
  topics : ∀ topic ∈ bannedTopicsIn tables text, topic ∈ found
  causes : ungroundedCausalClaim tables evidence text = false
  sql : containsSql tables text = false

section Notes

variable {tables : Tables} {evidence : Evidence} {found : List Topic} {text : Text}

theorem sqlPattern_heads (tables : Tables) :
    ∀ pattern ∈ sqlStatements tables, ∃ word ∈ folded sqlVerbs, ∃ rest,
      pattern = .seq (.literal fold word) rest := by
  intro pattern isIn
  simp only [sqlStatements, List.mem_cons, List.not_mem_nil, or_false] at isIn
  rcases isIn with rfl | rfl | rfl | rfl | rfl | rfl
  · exact ⟨_, List.mem_map.mpr ⟨"SELECT", by simp [sqlVerbs], rfl⟩, _, rfl⟩
  · exact ⟨_, List.mem_map.mpr ⟨"INSERT", by simp [sqlVerbs], rfl⟩, _, rfl⟩
  · exact ⟨_, List.mem_map.mpr ⟨"UPDATE", by simp [sqlVerbs], rfl⟩, _, rfl⟩
  · exact ⟨_, List.mem_map.mpr ⟨"DELETE", by simp [sqlVerbs], rfl⟩, _, rfl⟩
  · exact ⟨_, List.mem_map.mpr ⟨"DROP", by simp [sqlVerbs], rfl⟩, _, rfl⟩
  · exact ⟨_, List.mem_map.mpr ⟨"ALTER", by simp [sqlVerbs], rfl⟩, _, rfl⟩

/-- What a text has in it is decided by the words in it. -/
theorem note_of_words
    (silent : ∀ word ∈ markers, ¬word.toList.map fold <:+: text.map fold)
    (names : ∀ topic : Topic, ∀ word ∈ topic.words,
      word.toList.map fold <:+: text.map fold → topic ∈ found) :
    Note tables evidence found text := by
  constructor
  · intro topic isIn
    obtain ⟨chars, isChars, isPart⟩ := infix_of_search (mem_bannedTopicsIn.mp isIn).2
    obtain ⟨word, isWord, rfl⟩ := List.mem_map.mp isChars
    exact names topic word isWord isPart
  · by_contra isClaim
    obtain ⟨columns, _, _, after, isFound, _⟩ :=
      ungroundedCausalClaim_iff.mp (eq_true_of_ne_false isClaim)
    obtain ⟨chars, isChars, isPart⟩ := infix_of_search (search_of_finditer isFound)
    obtain ⟨word, isWord, rfl⟩ := List.mem_map.mp isChars
    exact silent word (List.mem_append_left _ isWord) isPart
  · by_contra isSql
    obtain ⟨_, isFound⟩ := containsSql_iff.mp (eq_true_of_ne_false isSql)
    obtain ⟨chars, isChars, isPart⟩ :=
      infix_of_search_delimited (sqlPattern_heads tables) isFound
    obtain ⟨word, isWord, rfl⟩ := List.mem_map.mp isChars
    exact silent word (List.mem_append_right _ isWord) isPart

theorem note_of_fixed {fixed : String} (isFixed : fixed ∈ fixedTexts) :
    Note tables evidence found fixed.toList := by
  apply note_of_words
  · intro word isWord
    exact not_infix_of_quiet
      ((markers_quiet word isWord).2 fixed (List.mem_append_left _ isFixed))
  · intro topic word isWord isPart
    exact absurd isPart (not_infix_of_quiet
      ((topicWords_quiet topic word isWord).2 fixed (List.mem_append_left _ isFixed)))

theorem mem_solid {word : Text} (isSolid : solid word = true) {char : Char}
    (isIn : char ∈ word) : char.isAlpha = true ∨ char = ' ' := by
  rw [solid, Bool.and_eq_true] at isSolid
  have isLetter := List.all_eq_true.mp isSolid.2 char isIn
  simpa using isLetter

theorem not_mem_solid {word : Text} (isSolid : solid word = true) {char : Char}
    (notLetter : char.isAlpha = false) (notBlank : char ≠ ' ') : char ∉ word := by
  intro isIn
  rcases mem_solid isSolid isIn with isLetter | isBlank
  · rw [notLetter] at isLetter
    cases isLetter
  · exact notBlank isBlank

theorem solid_begins {word : Text} (isSolid : solid word = true) :
    word ≠ [] ∧ word.head? ≠ some ' ' := by
  rw [solid, Bool.and_eq_true] at isSolid
  cases word with
  | nil => cases isSolid.1
  | cons char rest =>
      refine ⟨List.cons_ne_nil _ _, ?_⟩
      intro isBlank
      rw [isBlank] at isSolid
      exact absurd isSolid.1 (by decide)

/-- Where a word stands in a note that names topics. -/
theorem infix_withTopics {word : Text} (isSolid : solid word = true)
    {note : String × String} {topics : List Topic}
    (isPart : word <:+: (withTopics note topics).map fold) :
    word <:+: note.1.toList.map fold ∨
      (∃ topic ∈ topics, word <:+: topic.name.toList.map fold) ∨
      word <:+: note.2.toList.map fold := by
  have notOpen : '(' ∉ word := not_mem_solid isSolid rfl (by decide)
  have notClose : ')' ∉ word := not_mem_solid isSolid rfl (by decide)
  have notComma : ',' ∉ word := not_mem_solid isSolid rfl (by decide)
  obtain ⟨nonempty, begins⟩ := solid_begins isSolid
  rw [withTopics, List.map_append, List.map_cons, List.map_append,
    List.map_cons] at isPart
  rcases infix_of_separated notOpen isPart with isBefore | isRest
  · exact Or.inl isBefore
  · rcases infix_of_separated notClose isRest with isNames | isBehind
    · rw [sortedNames, map_intercalate] at isNames
      obtain ⟨name, isName, isIn⟩ :=
        infix_of_intercalate nonempty begins notComma isNames
      simp only [List.map_map, List.mem_map, List.mem_filter] at isName
      obtain ⟨topic, ⟨_, isTopic⟩, rfl⟩ := isName
      exact Or.inr (Or.inl ⟨topic, List.contains_iff_mem.mp isTopic, isIn⟩)
    · exact Or.inr (Or.inr isBehind)

theorem mem_bannedTopics (topic : Topic) : topic ∈ bannedTopics := by
  cases topic <;> decide

/-- A note names the topics it is about, and no others. -/
theorem note_withTopics {note : String × String} (isBefore : note.1 ∈ fixedTexts)
    (isBehind : note.2 ∈ fixedTexts) {topics : List Topic}
    (areFound : ∀ topic ∈ topics, topic ∈ found) :
    Note tables evidence found (withTopics note topics) := by
  apply note_of_words
  · intro word isWord isPart
    obtain ⟨isSolid, isQuiet⟩ := markers_quiet word isWord
    rcases infix_withTopics isSolid isPart with isIn | ⟨topic, _, isIn⟩ | isIn
    · exact not_infix_of_quiet (isQuiet _ (List.mem_append_left _ isBefore)) isIn
    · have isName : topic.name ∈ bannedTopics.map Topic.name :=
        List.mem_map_of_mem (mem_bannedTopics topic)
      exact not_infix_of_quiet (isQuiet _ (List.mem_append_right _ isName)) isIn
    · exact not_infix_of_quiet (isQuiet _ (List.mem_append_left _ isBehind)) isIn
  · intro topic word isWord isPart
    obtain ⟨isSolid, isQuiet⟩ := topicWords_quiet topic word isWord
    rcases infix_withTopics isSolid isPart with isIn | ⟨other, isOther, isIn⟩ | isIn
    · exact absurd isIn
        (not_infix_of_quiet (isQuiet _ (List.mem_append_left _ isBefore)))
    · by_cases same : other = topic
      · rw [← same]
        exact areFound other isOther
      · have isName : other.name ∈ otherNames topic :=
          List.mem_map_of_mem (List.mem_filter.mpr
            ⟨mem_bannedTopics other, by simpa using same⟩)
        exact absurd isIn
          (not_infix_of_quiet (isQuiet _ (List.mem_append_right _ isName)))
    · exact absurd isIn
        (not_infix_of_quiet (isQuiet _ (List.mem_append_left _ isBehind)))

theorem toNat_of_isAlpha {char : Char} (isLetter : char.isAlpha = true) :
    65 ≤ char.toNat := by
  rcases (Bool.or_eq_true _ _).mp isLetter with isUpper | isLower
  · exact (of_decide_eq_true isUpper).1
  · have low : 97 ≤ char.toNat :=
      of_decide_eq_true ((Bool.and_eq_true _ _).mp isLower).1
    omega

theorem toNat_of_isDigit {char : Char} (isDigit : char.isDigit = true) :
    char.toNat ≤ 57 :=
  of_decide_eq_true ((Bool.and_eq_true _ _).mp isDigit).2

theorem fold_digit {char : Char} (isDigit : char.isDigit = true) :
    fold char = char := by
  have low := toNat_of_isDigit isDigit
  unfold fold
  split
  · omega
  · omega
  · omega
  · omega
  · rcases toLower_cases char with same | ⟨isUpper, _⟩
    · exact same
    · omega

/-- The digits of a count are in no word. -/
theorem infix_withCount {word : Text} (isSolid : solid word = true) {note : String}
    {count : ℕ} (isPart : word <:+: (withCount note count).map fold) :
    word <:+: note.toList.map fold := by
  rw [withCount, List.map_append] at isPart
  refine infix_of_front ?_ isPart
  intro char isIn
  obtain ⟨digit, isDigitIn, rfl⟩ := List.mem_map.mp isIn
  rw [Nat.toString_eq_ofList_toDigits, String.toList_ofList] at isDigitIn
  have isDigit : digit.isDigit = true :=
    Nat.isDigit_of_mem_toDigits (by decide) (by decide) isDigitIn
  rw [fold_digit isDigit]
  have low := toNat_of_isDigit isDigit
  apply not_mem_solid isSolid
  · by_contra isLetter
    have high := toNat_of_isAlpha (eq_true_of_ne_false isLetter)
    omega
  · rintro rfl
    cases isDigit

theorem note_withCount {note : String} (isFixed : note ∈ fixedTexts) (count : ℕ) :
    Note tables evidence found (withCount note count) := by
  apply note_of_words
  · intro word isWord isPart
    obtain ⟨isSolid, isQuiet⟩ := markers_quiet word isWord
    exact not_infix_of_quiet (isQuiet note (List.mem_append_left _ isFixed))
      (infix_withCount isSolid isPart)
  · intro topic word isWord isPart
    obtain ⟨isSolid, isQuiet⟩ := topicWords_quiet topic word isWord
    exact absurd (infix_withCount isSolid isPart)
      (not_infix_of_quiet (isQuiet note (List.mem_append_left _ isFixed)))

theorem Note.clean (note : Note tables evidence [] text) :
    Clean tables evidence text := by
  constructor
  · apply List.eq_nil_iff_forall_not_mem.mpr
    intro topic isIn
    cases note.topics topic isIn
  · exact note.causes
  · exact note.sql

theorem cannotDetermine_clean : Clean tables evidence cannotDetermine.toList := by
  have note : Note tables evidence [] cannotDetermine.toList :=
    note_of_fixed (by simp [fixedTexts])
  exact note.clean

end Notes

end DbBuddy.Insights
