import DbBuddy.Library.Captures
import DbBuddy.Library.PythonText
import Mathlib.Data.List.Forall2
import Mathlib.Data.List.Induction

/-!
# What groups take

The text of a group is a part of the text that is searched.  Two tokens with blanks between them
are a pair; the pairs that a search finds do not overlap, so in a row of words the first and the
second are a pair, the third and the fourth, and so on.
-/

namespace DbBuddy.Library

section Groups

variable {isWord : Char → Bool} {parts : List Part} {cursor place after : Cursor}
variable {found : Capture} {text taken : List Char}

theorem between_eq (isSplit : place.ahead = taken ++ after.ahead) :
    between place after = taken := by
  rw [between, isSplit, List.length_append, Nat.add_sub_cancel, List.take_left]

/-- The pattern of a group. -/
def Part.grouped : Part → Option Pattern
  | .group pattern => some pattern
  | _ => none

theorem after_positions (isFound : found ∈ captures isWord parts cursor) :
    found.after ∈ positions isWord cursor.inWord cursor.ahead := by
  induction parts generalizing cursor found with
  | nil =>
      rw [List.mem_singleton.mp isFound]
      exact mem_positions.mpr ⟨[], rfl, rfl⟩
  | cons part rest inductionHypothesis =>
      obtain ⟨first, isFirst, isRest⟩ := List.mem_flatMap.mp isFound
      obtain ⟨later, isLater, isFound⟩ := List.mem_map.mp isRest
      rw [← isFound]
      have isBehind := inductionHypothesis isLater
      exact positions_trans (captures_positions isFirst) isBehind

/-- A text that a pattern takes at some place ahead. -/
def Taken (isWord : Char → Bool) (cursor : Cursor) (pattern : Pattern) (text : List Char) : Prop :=
  ∃ place ∈ positions isWord cursor.inWord cursor.ahead,
    ∃ after ∈ ends isWord pattern place, text = between place after

/-- The groups of a match are what the patterns of the groups took, in their order. -/
theorem forall₂_groups (noLine : Part.line ∉ parts)
    (isFound : found ∈ captures isWord parts cursor) :
    List.Forall₂ (Taken isWord cursor) (parts.filterMap Part.grouped) found.groups := by
  induction parts generalizing cursor found with
  | nil =>
      rw [List.mem_singleton.mp isFound]
      exact List.Forall₂.nil
  | cons part rest inductionHypothesis =>
      rw [List.mem_cons, not_or] at noLine
      obtain ⟨first, isFirst, isRest⟩ := List.mem_flatMap.mp isFound
      obtain ⟨later, isLater, rfl⟩ := List.mem_map.mp isRest
      have behind : List.Forall₂ (Taken isWord cursor) (rest.filterMap Part.grouped)
          later.groups := by
        apply List.Forall₂.imp _ (inductionHypothesis noLine.2 isLater)
        intro pattern text ⟨place, isPlace, isTaken⟩
        exact ⟨place, positions_trans (captures_positions isFirst) isPlace, isTaken⟩
      cases part with
      | plain pattern =>
          rw [(mem_captures_plain.mp isFirst).2]
          exact behind
      | group pattern =>
          obtain ⟨after, isEnd, rfl⟩ := List.mem_map.mp isFirst
          exact List.Forall₂.cons
            ⟨cursor, mem_positions.mpr ⟨[], rfl, rfl⟩, after, isEnd, rfl⟩ behind
      | line => exact absurd rfl noLine.1

/-- What is found is a match at a place of the text. -/
theorem mem_findAllFrom {fuel : ℕ} {entry : Cursor × Capture}
    (isFound : entry ∈ findAllFrom isWord parts fuel cursor) :
    entry.1 ∈ positions isWord cursor.inWord cursor.ahead ∧
      entry.2 ∈ captures isWord parts entry.1 := by
  induction fuel generalizing cursor with
  | zero => cases isFound
  | succ fuel inductionHypothesis =>
      rw [findAllFrom] at isFound
      split at isFound
      next found isHead =>
        have isMatch := List.mem_of_head? isHead
        rcases List.mem_cons.mp isFound with rfl | isLater
        · exact ⟨mem_positions.mpr ⟨[], rfl, rfl⟩, isMatch⟩
        · obtain ⟨isPlace, isCapture⟩ := inductionHypothesis isLater
          exact ⟨positions_trans (after_positions isMatch) isPlace, isCapture⟩
      next =>
        split at isFound
        next => cases isFound
        next char rest isAhead =>
          obtain ⟨isPlace, isCapture⟩ := inductionHypothesis isFound
          refine ⟨?_, isCapture⟩
          rw [isAhead]
          exact List.mem_cons_of_mem _ isPlace

/-- The groups of what is found in a text. -/
theorem forall₂_findAll {entry : Cursor × Capture} (noLine : Part.line ∉ parts)
    (isFound : entry ∈ findAll isWord parts text) :
    List.Forall₂ (Taken isWord ⟨false, text⟩) (parts.filterMap Part.grouped)
      entry.2.groups := by
  obtain ⟨isPlace, isCapture⟩ := mem_findAllFrom isFound
  apply List.Forall₂.imp _ (forall₂_groups noLine isCapture)
  intro pattern text ⟨place, isAhead, isTaken⟩
  exact ⟨place, positions_trans isPlace isAhead, isTaken⟩

/-- Where nothing matches, nothing is found. -/
theorem findAllFrom_eq_nil {fuel : ℕ}
    (noMatch : ∀ place ∈ positions isWord cursor.inWord cursor.ahead,
      captures isWord parts place = []) : findAllFrom isWord parts fuel cursor = [] := by
  apply List.eq_nil_iff_forall_not_mem.mpr
  intro entry isFound
  obtain ⟨isPlace, isCapture⟩ := mem_findAllFrom isFound
  rw [noMatch entry.1 isPlace] at isCapture
  cases isCapture

theorem findAllFrom_of_head {fuel : ℕ}
    (isHead : (captures isWord parts cursor).head? = some found) :
    findAllFrom isWord parts (fuel + 1) cursor =
      (cursor, found) :: findAllFrom isWord parts fuel found.after := by
  rw [findAllFrom, isHead]

/-- A search goes on behind a front where nothing matches. -/
theorem findAllFrom_skip {inWord : Bool} {front : List Char} (fuel : ℕ)
    (noMatch : ∀ place ∈ positions isWord inWord (front ++ text),
      text.length < place.ahead.length → captures isWord parts place = []) :
    findAllFrom isWord parts (fuel + front.length) ⟨inWord, front ++ text⟩ =
      findAllFrom isWord parts fuel ⟨lastInWord isWord inWord front, text⟩ := by
  induction front generalizing inWord with
  | nil => rfl
  | cons char rest inductionHypothesis =>
      have noneHere : captures isWord parts ⟨inWord, char :: (rest ++ text)⟩ = [] := by
        apply noMatch _ (mem_positions.mpr ⟨[], rfl, rfl⟩)
        simp only [List.length_cons, List.length_append]
        omega
      rw [List.length_cons, ← Nat.add_assoc, List.cons_append, findAllFrom, noneHere]
      apply inductionHypothesis
      intro place isPlace isAhead
      exact noMatch place (List.mem_cons_of_mem _ isPlace) isAhead

end Groups

/-! ## Tokens -/

section Tokens

variable {isWord chars first : Char → Bool} {cursor place after : Cursor}
variable {text taken rest : List Char}

theorem mem_manyEnds (isEnd : after ∈ manyEnds isWord chars text) :
    ∃ taken, text = taken ++ after.ahead ∧ taken ≠ [] ∧ ∀ char ∈ taken, chars char = true := by
  induction text with
  | nil => cases isEnd
  | cons char rest inductionHypothesis =>
      rw [manyEnds] at isEnd
      split at isEnd
      next isIn =>
        rcases List.mem_append.mp isEnd with isLater | isLast
        · obtain ⟨taken, isRest, _, areIn⟩ := inductionHypothesis isLater
          refine ⟨char :: taken, by rw [isRest, List.cons_append], List.cons_ne_nil _ _, ?_⟩
          exact List.forall_mem_cons.mpr ⟨isIn, areIn⟩
        · rw [List.mem_singleton.mp isLast]
          exact ⟨[char], rfl, List.cons_ne_nil _ _, List.forall_mem_singleton.mpr isIn⟩
      next => cases isEnd

theorem manyEnds_eq_nil (stops : ∀ char ∈ rest.head?, chars char = false) :
    manyEnds isWord chars rest = [] := by
  cases rest with
  | nil => rfl
  | cons next behind =>
      rw [manyEnds, if_neg]
      rw [stops next rfl]
      exact Bool.false_ne_true

/-- As many characters of a class as there are are tried first. -/
theorem head?_manyEnds (inWord : Bool) (someTaken : taken ≠ [])
    (areIn : ∀ char ∈ taken, chars char = true) (stops : ∀ char ∈ rest.head?, chars char = false) :
    (manyEnds isWord chars (taken ++ rest)).head? =
      some ⟨lastInWord isWord inWord taken, rest⟩ := by
  induction taken generalizing inWord with
  | nil => exact absurd rfl someTaken
  | cons char others inductionHypothesis =>
      obtain ⟨isIn, othersIn⟩ := List.forall_mem_cons.mp areIn
      rw [List.cons_append, manyEnds, if_pos isIn, List.head?_append]
      cases others with
      | nil =>
          rw [List.nil_append, manyEnds_eq_nil stops]
          rfl
      | cons other more =>
          rw [inductionHypothesis (isWord char) (List.cons_ne_nil _ _) othersIn]
          rfl

/-- A character of a class, and characters of words behind it. -/
def Pattern.token (isWord first : Char → Bool) : Pattern :=
  .seq (.one first) (.either (.many isWord) .empty)

/-- A text that a token's pattern takes. -/
def Token (isWord first : Char → Bool) (text : List Char) : Prop :=
  ∃ char rest, text = char :: rest ∧ first char = true ∧ ∀ other ∈ rest, isWord other = true

theorem token_of_ends (isEnd : after ∈ ends isWord (.token isWord first) place) :
    ∃ taken, place.ahead = taken ++ after.ahead ∧ Token isWord first taken := by
  obtain ⟨middle, isFirst, isRest⟩ := List.mem_flatMap.mp isEnd
  obtain ⟨char, rest, isAhead, isIn, rfl⟩ := mem_oneEnds.mp isFirst
  rcases List.mem_append.mp isRest with isMany | isNone
  · obtain ⟨taken, isSplit, _, areIn⟩ := mem_manyEnds isMany
    dsimp only at isSplit
    exact ⟨char :: taken, by rw [isAhead, isSplit, List.cons_append], char, taken, rfl, isIn,
      areIn⟩
  · rw [List.mem_singleton.mp isNone]
    exact ⟨[char], isAhead, char, [], rfl, isIn, fun _ isNot => absurd isNot List.not_mem_nil⟩

/-- What a token's pattern takes of a text is a token and a part of it. -/
theorem token_of_taken (isTaken : Taken isWord ⟨false, text⟩ (.token isWord first) taken) :
    Token isWord first taken ∧ taken <:+: text := by
  obtain ⟨place, isPlace, after, isEnd, rfl⟩ := isTaken
  obtain ⟨token, isSplit, isToken⟩ := token_of_ends isEnd
  obtain ⟨front, isText, _⟩ := mem_positions.mp isPlace
  rw [between_eq isSplit]
  refine ⟨isToken, front, after.ahead, ?_⟩
  rw [show text = front ++ place.ahead from isText, isSplit, List.append_assoc]

/-- The whole token is tried first. -/
theorem head?_ends_token (inWord : Bool) (isToken : Token isWord first taken)
    (stops : ∀ char ∈ rest.head?, isWord char = false) :
    (ends isWord (.token isWord first) ⟨inWord, taken ++ rest⟩).head? =
      some ⟨lastInWord isWord inWord taken, rest⟩ := by
  obtain ⟨char, others, rfl, isFirst, areIn⟩ := isToken
  have isOne : ends isWord (.one first) ⟨inWord, char :: others ++ rest⟩ =
      [⟨isWord char, others ++ rest⟩] := by
    rw [ends, List.cons_append, oneEnds, if_pos isFirst]
  rw [Pattern.token, ends, isOne, List.flatMap_singleton]
  simp only [ends, List.head?_append]
  cases others with
  | nil =>
      rw [List.nil_append, manyEnds_eq_nil stops]
      rfl
  | cons other more =>
      rw [head?_manyEnds (isWord char) (List.cons_ne_nil _ _) areIn stops]
      rfl

end Tokens

/-! ## Pairs of tokens -/

section Pairs

variable (isWord first : Char → Bool)

/-- `\b(token)\s+(token)\b` -/
def pairParts : List Part :=
  [.plain .boundary, .group (.token isWord first), .plain (.many isSpace),
    .group (.token isWord first), .plain .boundary]

/-- The first and the second, the third and the fourth, and so on. -/
def pairUp {Item : Type*} : List Item → List (Item × Item)
  | one :: two :: rest => (one, two) :: pairUp rest
  | _ => []

/-- Only what stands at an even place is the first of a pair. -/
theorem mem_pairUp {Item : Type*} {items : List Item} {one two : Item} :
    (one, two) ∈ pairUp items ↔
      ∃ place, items[2 * place]? = some one ∧ items[2 * place + 1]? = some two := by
  fun_induction pairUp items with
  | case1 first second rest inductionHypothesis =>
      rw [List.mem_cons, inductionHypothesis]
      constructor
      · intro isPair
        rcases isPair with isFirst | ⟨place, isOne, isTwo⟩
        · cases isFirst
          exact ⟨0, rfl, rfl⟩
        · exact ⟨place + 1, isOne, isTwo⟩
      · intro ⟨place, isOne, isTwo⟩
        cases place with
        | zero =>
            cases isOne
            cases isTwo
            exact Or.inl rfl
        | succ place => exact Or.inr ⟨place, isOne, isTwo⟩
  | case2 items notPair =>
      constructor
      · intro isIn
        cases isIn
      · intro ⟨place, isOne, isTwo⟩
        obtain ⟨inItems, _⟩ := List.getElem?_eq_some_iff.mp isTwo
        match items with
        | [] => cases inItems
        | [only] => simp at inItems
        | first :: second :: rest => exact (notPair first second rest rfl).elim

/-- A word, more words behind gaps, and an ending. -/
def sentence (word : List Char) : List (List Char × List Char) → List Char → List Char
  | [], ending => word ++ ending
  | (gap, next) :: rest, ending => word ++ (gap ++ sentence next rest ending)

/-- A token that begins with a letter and is blank nowhere. -/
structure PlainWord (word : List Char) : Prop where
  token : Token isWord first word
  inWord : ∀ char ∈ word, isWord char = true
  solid : ∀ char ∈ word, isSpace char = false

structure Gap (gap : List Char) : Prop where
  nonempty : gap ≠ []
  blank : ∀ char ∈ gap, isSpace char = true
  apart : ∀ char ∈ gap, isWord char = false

/-- No token begins in an ending, and no word goes on there. -/
structure Ending (ending : List Char) : Prop where
  none : ∀ char ∈ ending, first char = false
  apart : ∀ char ∈ ending.head?, isWord char = false

end Pairs

section PairsFound

variable {isWord first : Char → Bool} {cursor : Cursor} {found : Capture}
variable {word gap ending : List Char} {rest : List (List Char × List Char)}

theorem eq_of_boundary {after : Cursor} (isEnd : after ∈ ends isWord .boundary cursor) :
    after = cursor := by
  rw [ends] at isEnd
  split at isEnd
  next => cases isEnd
  next => exact List.mem_singleton.mp isEnd

theorem exists_of_pair (isFound : found ∈ captures isWord (pairParts isWord first) cursor) :
    ∃ one blank two behind, cursor.ahead = one ++ (blank ++ (two ++ behind)) ∧
      Token isWord first one ∧ blank ≠ [] ∧ (∀ char ∈ blank, isSpace char = true) ∧
      Token isWord first two := by
  obtain ⟨start, isStart, isRest⟩ := List.mem_flatMap.mp isFound
  obtain ⟨_, isFound, _⟩ := List.mem_map.mp isRest
  obtain ⟨_, isFirst, isRest⟩ := List.mem_flatMap.mp isFound
  obtain ⟨_, isFound, _⟩ := List.mem_map.mp isRest
  obtain ⟨space, isSpaces, isRest⟩ := List.mem_flatMap.mp isFound
  obtain ⟨_, isFound, _⟩ := List.mem_map.mp isRest
  obtain ⟨_, isSecond, _⟩ := List.mem_flatMap.mp isFound
  obtain ⟨middle, isOne, rfl⟩ := List.mem_map.mp isFirst
  obtain ⟨last, isTwo, rfl⟩ := List.mem_map.mp isSecond
  rw [eq_of_boundary (mem_captures_plain.mp isStart).1] at isOne
  obtain ⟨one, isAhead, oneToken⟩ := token_of_ends isOne
  obtain ⟨blank, isBlank, someBlank, areBlank⟩ := mem_manyEnds (mem_captures_plain.mp isSpaces).1
  obtain ⟨two, isBehind, twoToken⟩ := token_of_ends isTwo
  dsimp only at isBlank
  rw [isBlank, isBehind] at isAhead
  exact ⟨one, blank, two, last.ahead, isAhead, oneToken, someBlank, areBlank, twoToken⟩

/-- No pair begins in an ending. -/
theorem findAllFrom_ending (isEnding : Ending isWord first ending) (inWord : Bool) (fuel : ℕ) :
    findAllFrom isWord (pairParts isWord first) fuel ⟨inWord, ending⟩ = [] := by
  apply findAllFrom_eq_nil
  intro place isPlace
  apply List.eq_nil_iff_forall_not_mem.mpr
  intro found isFound
  obtain ⟨front, isSplit, _⟩ := mem_positions.mp isPlace
  obtain ⟨one, _, _, _, isAhead, ⟨char, _, isOne, isFirst, _⟩, _⟩ := exists_of_pair isFound
  have isIn : char ∈ ending := by
    rw [show ending = front ++ place.ahead from isSplit, isAhead, isOne]
    simp
  rw [isEnding.none char isIn] at isFirst
  cases isFirst

/-- One word and an ending hold no pair. -/
theorem findAllFrom_word (isEnding : Ending isWord first ending)
    (isWordText : PlainWord isWord first word) (inWord : Bool) (fuel : ℕ) :
    findAllFrom isWord (pairParts isWord first) fuel ⟨inWord, word ++ ending⟩ = [] := by
  apply findAllFrom_eq_nil
  intro place isPlace
  apply List.eq_nil_iff_forall_not_mem.mpr
  intro found isFound
  obtain ⟨front, isSplit, _⟩ := mem_positions.mp isPlace
  obtain ⟨one, blank, two, behind, isAhead, _, someBlank, areBlank, char, _, isTwo, isFirst, _⟩ :=
    exists_of_pair isFound
  have isText : word ++ ending = front ++ one ++ (blank ++ (two ++ behind)) := by
    rw [show word ++ ending = front ++ place.ahead from isSplit, isAhead, List.append_assoc]
  have notIn : char ∉ ending := by
    intro isIn
    rw [isEnding.none char isIn] at isFirst
    cases isFirst
  rcases List.append_eq_append_iff.mp isText with ⟨more, _, isEnd⟩ | ⟨more, isWord, isBlank⟩
  · apply notIn
    rw [isEnd, isTwo]
    simp
  · cases more with
    | nil =>
        apply notIn
        rw [show ending = [] ++ ending from rfl, ← isBlank, isTwo]
        simp
    | cons other others =>
        obtain ⟨space, spaces, rfl⟩ := List.exists_cons_of_ne_nil someBlank
        have isSame : space = other := (List.cons.inj isBlank).1
        have isSolid := isWordText.solid space (by rw [isWord, isSame]; simp)
        rw [areBlank space List.mem_cons_self] at isSolid
        cases isSolid

theorem lastInWord_eq {text : List Char} {value : Bool} (someText : text ≠ [])
    (same : ∀ char ∈ text, isWord char = value) (inWord : Bool) :
    lastInWord isWord inWord text = value := by
  induction text generalizing inWord with
  | nil => exact absurd rfl someText
  | cons char others inductionHypothesis =>
      obtain ⟨isSame, othersSame⟩ := List.forall_mem_cons.mp same
      cases others with
      | nil => exact isSame
      | cons other more =>
          exact inductionHypothesis (List.cons_ne_nil _ _) othersSame (isWord char)

theorem PlainWord.ne_nil (isWordText : PlainWord isWord first word) : word ≠ [] := by
  obtain ⟨char, others, isCons, _⟩ := isWordText.token
  rw [isCons]
  exact List.cons_ne_nil char others

theorem head?_append_of_ne_nil {front behind : List Char} (some : front ≠ []) :
    ∀ char ∈ (front ++ behind).head?, char ∈ front := by
  intro char isHead
  cases front with
  | nil => exact absurd rfl some
  | cons other others =>
      cases isHead
      exact List.mem_cons_self

/-- Two words with a gap between them are a pair, where the second one ends. -/
theorem head?_captures_pair {next behind : List Char} (isWordText : PlainWord isWord first word)
    (isGap : Gap isWord gap) (isNext : PlainWord isWord first next)
    (apart : ∀ char ∈ behind.head?, isWord char = false) :
    (captures isWord (pairParts isWord first)
        ⟨false, word ++ (gap ++ (next ++ behind))⟩).head? =
      some ⟨⟨true, behind⟩, [word, next]⟩ := by
  have gapStops : ∀ char ∈ (gap ++ (next ++ behind)).head?, isWord char = false :=
    fun char isHead => isGap.apart char (head?_append_of_ne_nil isGap.nonempty char isHead)
  have nextStops : ∀ char ∈ (next ++ behind).head?, isSpace char = false :=
    fun char isHead => isNext.solid char (head?_append_of_ne_nil isNext.ne_nil char isHead)
  have isOne := head?_ends_token false isWordText.token gapStops
  have areSpaces : (ends isWord (.many isSpace)
      ⟨lastInWord isWord false word, gap ++ (next ++ behind)⟩).head? =
        some ⟨lastInWord isWord (lastInWord isWord false word) gap, next ++ behind⟩ :=
    head?_manyEnds _ isGap.nonempty isGap.blank nextStops
  have isTwo := head?_ends_token
    (lastInWord isWord (lastInWord isWord false word) gap) isNext.token apart
  rw [lastInWord_eq isNext.ne_nil isNext.inWord] at isTwo
  have isLast : (captures isWord [.plain .boundary] ⟨true, behind⟩).head? =
      some ⟨⟨true, behind⟩, []⟩ := by
    apply head?_captures_plain
    · apply head?_ends_boundary
      cases behind with
      | nil => exact Bool.false_ne_true.symm
      | cons char rest =>
          rw [nextInWord, apart char rfl]
          exact Bool.false_ne_true.symm
    · rfl
  have isStart : (ends isWord .boundary
      ⟨false, word ++ (gap ++ (next ++ behind))⟩).head? =
        some ⟨false, word ++ (gap ++ (next ++ behind))⟩ := by
    apply head?_ends_boundary
    obtain ⟨char, others, isCons, _⟩ := isWordText.token
    have isIn := isWordText.inWord char (by rw [isCons]; exact List.mem_cons_self)
    rw [isCons, List.cons_append, nextInWord, isIn]
    exact Bool.false_ne_true
  have afterSpaces := head?_captures_group isTwo isLast
  have afterOne := head?_captures_plain areSpaces afterSpaces
  have found := head?_captures_plain isStart (head?_captures_group isOne afterOne)
  rw [between_eq rfl, between_eq rfl] at found
  exact found

/-- No pair begins in a gap. -/
theorem findAllFrom_gap {text : List Char}
    (letters : ∀ char, first char = true → isWord char = true)
    (isGap : Gap isWord gap) (inWord : Bool) {fuel : ℕ} (enough : gap.length ≤ fuel) :
    findAllFrom isWord (pairParts isWord first) fuel ⟨inWord, gap ++ text⟩ =
      findAllFrom isWord (pairParts isWord first) (fuel - gap.length) ⟨false, text⟩ := by
  have noMatch : ∀ place ∈ positions isWord inWord (gap ++ text),
      text.length < place.ahead.length →
        captures isWord (pairParts isWord first) place = [] := by
    intro place isPlace isLonger
    apply List.eq_nil_iff_forall_not_mem.mpr
    intro found isFound
    obtain ⟨front, isSplit, _⟩ := mem_positions.mp isPlace
    obtain ⟨one, _, _, _, isAhead, ⟨char, others, rfl, isFirst, _⟩, _⟩ := exists_of_pair isFound
    rcases List.append_eq_append_iff.mp isSplit with ⟨more, _, isText⟩ | ⟨more, isMore, isPlaceText⟩
    · rw [isText, List.length_append] at isLonger
      omega
    · cases more with
      | nil =>
          rw [isPlaceText, List.nil_append] at isLonger
          omega
      | cons other behind =>
          rw [isPlaceText] at isAhead
          have isSame : other = char := (List.cons.inj isAhead).1
          have isApart := isGap.apart other (by rw [isMore]; simp)
          rw [isSame, letters char isFirst] at isApart
          cases isApart
  have skipped := findAllFrom_skip (fuel - gap.length) noMatch
  rw [Nat.sub_add_cancel enough, lastInWord_eq isGap.nonempty isGap.apart] at skipped
  exact skipped

/-- The pairs of a row of words are found two by two. -/
theorem findAllFrom_sentence (letters : ∀ char, first char = true → isWord char = true)
    (isEnding : Ending isWord first ending) (isWordText : PlainWord isWord first word)
    (areWords : ∀ entry ∈ rest, Gap isWord entry.1 ∧ PlainWord isWord first entry.2) {fuel : ℕ}
    (enough : (sentence word rest ending).length < fuel) :
    (findAllFrom isWord (pairParts isWord first) fuel ⟨false, sentence word rest ending⟩).map
        (fun entry => entry.2.groups) =
      (pairUp (word :: rest.map Prod.snd)).map fun pair => [pair.1, pair.2] := by
  induction rest using List.twoStepInduction generalizing word fuel with
  | nil =>
      rw [sentence, findAllFrom_word isEnding isWordText]
      rfl
  | singleton entry =>
      obtain ⟨isGap, isNext⟩ := areWords entry List.mem_cons_self
      obtain ⟨less, rfl⟩ := Nat.exists_eq_add_of_le' (Nat.zero_lt_of_lt enough)
      rw [sentence, sentence,
        findAllFrom_of_head (head?_captures_pair isWordText isGap isNext isEnding.apart),
        findAllFrom_ending isEnding]
      rfl
  | cons_cons entry other rest inductionHypothesis _ =>
      obtain ⟨isGap, isNext⟩ := areWords entry List.mem_cons_self
      obtain ⟨otherGap, isOther⟩ := areWords other (List.mem_cons_of_mem _ List.mem_cons_self)
      have othersWords : ∀ entry ∈ rest, Gap isWord entry.1 ∧ PlainWord isWord first entry.2 :=
        fun entry isIn => areWords entry (List.mem_cons_of_mem _ (List.mem_cons_of_mem _ isIn))
      obtain ⟨less, rfl⟩ := Nat.exists_eq_add_of_le' (Nat.zero_lt_of_lt enough)
      have stops : ∀ char ∈ (other.1 ++ sentence other.2 rest ending).head?,
          isWord char = false := fun char isHead =>
        otherGap.apart char (head?_append_of_ne_nil otherGap.nonempty char isHead)
      rw [sentence, sentence,
        findAllFrom_of_head (head?_captures_pair isWordText isGap isNext stops)]
      simp only [sentence, List.length_append] at enough
      have someWord := List.length_pos_of_ne_nil isWordText.ne_nil
      have gapFits : other.1.length ≤ less := by omega
      rw [List.map_cons, findAllFrom_gap letters otherGap true gapFits,
        inductionHypothesis isOther othersWords (by omega)]
      rfl

theorem findAll_sentence (letters : ∀ char, first char = true → isWord char = true)
    (isEnding : Ending isWord first ending) (isWordText : PlainWord isWord first word)
    (areWords : ∀ entry ∈ rest, Gap isWord entry.1 ∧ PlainWord isWord first entry.2) :
    (findAll isWord (pairParts isWord first) (sentence word rest ending)).map
        (fun entry => entry.2.groups) =
      (pairUp (word :: rest.map Prod.snd)).map fun pair => [pair.1, pair.2] :=
  findAllFrom_sentence letters isEnding isWordText areWords (Nat.lt_succ_self _)

end PairsFound

end DbBuddy.Library
