import Mathlib.Data.List.Infix

/-!
# Patterns

A pattern is matched by trying its ways one after the other, in the order that a
backtracking matcher tries them.  A search asks for any match at any place; the matches
that do not overlap are found from left to right.  Text around a part of a text that
keeps the words apart takes no match away.
-/

namespace DbBuddy.Library

/-- A place in a text: whether the character before it belongs to a word, and what is
ahead. -/
structure Cursor where
  inWord : Bool
  ahead : List Char
  deriving DecidableEq

/-- `many` is `+`: one character of a class at least, and as many as possible first. -/
inductive Pattern where
  | empty
  | boundary
  | one (chars : Char → Bool)
  | many (chars : Char → Bool)
  | seq (first second : Pattern)
  | either (first second : Pattern)

section Matching

variable (isWord : Char → Bool)

def nextInWord : List Char → Bool
  | [] => false
  | char :: _ => isWord char

/-- Whether the last character of a text is one of a word, if there is one. -/
def lastInWord : Bool → List Char → Bool
  | inWord, [] => inWord
  | _, char :: rest => lastInWord (isWord char) rest

def manyEnds (chars : Char → Bool) : List Char → List Cursor
  | [] => []
  | char :: rest =>
      if chars char then manyEnds chars rest ++ [⟨isWord char, rest⟩] else []

def oneEnds (chars : Char → Bool) : List Char → List Cursor
  | [] => []
  | char :: rest => if chars char then [⟨isWord char, rest⟩] else []

/-- Where a match that begins at a place may end. -/
def ends : Pattern → Cursor → List Cursor
  | .empty, cursor => [cursor]
  | .boundary, cursor =>
      if cursor.inWord = nextInWord isWord cursor.ahead then [] else [cursor]
  | .one chars, cursor => oneEnds isWord chars cursor.ahead
  | .many chars, cursor => manyEnds isWord chars cursor.ahead
  | .seq first second, cursor => (ends first cursor).flatMap (ends second)
  | .either first second, cursor => ends first cursor ++ ends second cursor

/-- The places of a text. -/
def positions : Bool → List Char → List Cursor
  | inWord, [] => [⟨inWord, []⟩]
  | inWord, char :: rest => ⟨inWord, char :: rest⟩ :: positions (isWord char) rest

/-- `re.search(pattern, text)` finds something. -/
def search (pattern : Pattern) (text : List Char) : Bool :=
  (positions isWord false text).any fun cursor =>
    !(ends isWord pattern cursor).isEmpty

def finditerFrom (pattern : Pattern) : ℕ → Cursor → List Cursor
  | 0, _ => []
  | fuel + 1, cursor =>
      match (ends isWord pattern cursor).head? with
      | some after => after :: finditerFrom pattern fuel after
      | none =>
          match cursor.ahead with
          | [] => []
          | char :: rest => finditerFrom pattern fuel ⟨isWord char, rest⟩

/-- `match.end()` for each of `re.finditer(pattern, text)`, of a pattern that takes one
character at least. -/
def finditer (pattern : Pattern) (text : List Char) : List Cursor :=
  finditerFrom isWord pattern (text.length + 1) ⟨false, text⟩

end Matching

/-! ## Places -/

section Places

variable {isWord : Char → Bool} {inWord : Bool} {text : List Char} {cursor : Cursor}

theorem lastInWord_append (front : List Char) :
    lastInWord isWord inWord (front ++ text) =
      lastInWord isWord (lastInWord isWord inWord front) text := by
  induction front generalizing inWord with
  | nil => rfl
  | cons char rest inductionHypothesis =>
      exact inductionHypothesis

theorem lastInWord_concat (front : List Char) (char : Char) :
    lastInWord isWord inWord (front ++ [char]) = isWord char := by
  rw [lastInWord_append]
  rfl

/-- A place is where a front of the text has been passed. -/
theorem mem_positions : cursor ∈ positions isWord inWord text ↔
    ∃ front, text = front ++ cursor.ahead ∧
      cursor.inWord = lastInWord isWord inWord front := by
  induction text generalizing inWord with
  | nil =>
      constructor
      · intro isPlace
        rw [List.mem_singleton.mp isPlace]
        exact ⟨[], rfl, rfl⟩
      · rintro ⟨front, isSplit, isLast⟩
        obtain ⟨isFront, isAhead⟩ := List.append_eq_nil_iff.mp isSplit.symm
        rw [isFront] at isLast
        cases cursor with
        | mk before ahead =>
            cases isAhead
            cases isLast
            exact List.mem_singleton_self _
  | cons char rest inductionHypothesis =>
      constructor
      · intro isPlace
        rcases List.mem_cons.mp isPlace with rfl | isLater
        · exact ⟨[], rfl, rfl⟩
        · obtain ⟨front, isSplit, isLast⟩ := inductionHypothesis.mp isLater
          exact ⟨char :: front, by rw [isSplit]; rfl, isLast⟩
      · rintro ⟨front, isSplit, isLast⟩
        cases front with
        | nil =>
            have isHere : cursor = ⟨inWord, char :: rest⟩ := by
              cases cursor with
              | mk before ahead =>
                  cases isSplit
                  cases isLast
                  rfl
            rw [isHere]
            exact List.mem_cons_self
        | cons first others =>
            rw [List.cons_append, List.cons.injEq] at isSplit
            obtain ⟨rfl, isSplit⟩ := isSplit
            exact List.mem_cons_of_mem _
              (inductionHypothesis.mpr ⟨others, isSplit, isLast⟩)

/-- Of two places, the later one is a place of what is ahead of the earlier one. -/
theorem positions_of_le {earlier later : Cursor}
    (isEarlier : earlier ∈ positions isWord inWord text)
    (isLater : later ∈ positions isWord inWord text)
    (order : later.ahead.length ≤ earlier.ahead.length) :
    later ∈ positions isWord earlier.inWord earlier.ahead := by
  obtain ⟨front, isSplit, isLast⟩ := mem_positions.mp isEarlier
  obtain ⟨longer, alsoSplit, alsoLast⟩ := mem_positions.mp isLater
  have frontPrefix : front <+: longer := by
    have inText : front <+: text := ⟨earlier.ahead, isSplit.symm⟩
    apply List.prefix_of_prefix_length_le inText
    · exact ⟨later.ahead, alsoSplit.symm⟩
    · have sameLength := congrArg List.length (isSplit.symm.trans alsoSplit)
      rw [List.length_append, List.length_append] at sameLength
      omega
  obtain ⟨between, rfl⟩ := frontPrefix
  apply mem_positions.mpr
  refine ⟨between, ?_, ?_⟩
  · have same := isSplit.symm.trans alsoSplit
    rw [List.append_assoc] at same
    exact List.append_cancel_left same
  · rw [alsoLast, isLast, lastInWord_append]

theorem positions_trans {middle : Cursor}
    (isMiddle : middle ∈ positions isWord inWord text)
    (isPlace : cursor ∈ positions isWord middle.inWord middle.ahead) :
    cursor ∈ positions isWord inWord text := by
  obtain ⟨front, isSplit, isLast⟩ := mem_positions.mp isMiddle
  obtain ⟨between, alsoSplit, alsoLast⟩ := mem_positions.mp isPlace
  apply mem_positions.mpr
  refine ⟨front ++ between, ?_, ?_⟩
  · rw [isSplit, alsoSplit, List.append_assoc]
  · rw [alsoLast, isLast, lastInWord_append]

/-- A place in a text that is left open at both ends. -/
theorem positions_within {front : List Char}
    (apart : lastInWord isWord false front = false)
    (isPlace : cursor ∈ positions isWord false text) (back : List Char) :
    (⟨cursor.inWord, cursor.ahead ++ back⟩ : Cursor) ∈
      positions isWord false (front ++ text ++ back) := by
  obtain ⟨passed, isSplit, isLast⟩ := mem_positions.mp isPlace
  apply mem_positions.mpr
  refine ⟨front ++ passed, ?_, ?_⟩
  · rw [isSplit]
    simp only [List.append_assoc]
  · rw [isLast, lastInWord_append, apart]

end Places

/-! ## Matches -/

section Matches

variable {isWord : Char → Bool} {pattern : Pattern} {cursor after : Cursor}
variable {text : List Char}

theorem mem_oneEnds {chars : Char → Bool} : after ∈ oneEnds isWord chars text ↔
    ∃ char rest, text = char :: rest ∧ chars char = true ∧
      after = ⟨isWord char, rest⟩ := by
  cases text with
  | nil =>
      simp [oneEnds]
  | cons char rest =>
      by_cases isIn : chars char = true
      · simp [oneEnds, isIn]
      · simp [oneEnds, isIn]

/-- A match ends at a place ahead. -/
theorem ends_positions (isEnd : after ∈ ends isWord pattern cursor) :
    after ∈ positions isWord cursor.inWord cursor.ahead := by
  induction pattern generalizing cursor after with
  | empty =>
      rw [List.mem_singleton.mp isEnd]
      exact mem_positions.mpr ⟨[], rfl, rfl⟩
  | boundary =>
      simp only [ends] at isEnd
      split at isEnd
      · cases isEnd
      · rw [List.mem_singleton.mp isEnd]
        exact mem_positions.mpr ⟨[], rfl, rfl⟩
  | one chars =>
      obtain ⟨char, rest, isText, _, rfl⟩ := mem_oneEnds.mp isEnd
      exact mem_positions.mpr ⟨[char], isText, rfl⟩
  | many chars =>
      simp only [ends] at isEnd
      generalize cursor.inWord = inWord
      generalize cursor.ahead = text at isEnd
      induction text generalizing inWord with
      | nil => cases isEnd
      | cons char rest inductionHypothesis =>
          simp only [manyEnds] at isEnd
          split at isEnd
          · rcases List.mem_append.mp isEnd with isLater | isLast
            · exact List.mem_cons_of_mem _ (inductionHypothesis _ isLater)
            · rw [List.mem_singleton.mp isLast]
              exact mem_positions.mpr ⟨[char], rfl, rfl⟩
          · cases isEnd
  | seq first second firstHypothesis secondHypothesis =>
      obtain ⟨middle, isMiddle, isEnd⟩ := List.mem_flatMap.mp isEnd
      exact positions_trans (firstHypothesis isMiddle) (secondHypothesis isEnd)
  | either first second firstHypothesis secondHypothesis =>
      rcases List.mem_append.mp isEnd with isFirst | isSecond
      · exact firstHypothesis isFirst
      · exact secondHypothesis isSecond

/-- Text behind a match takes nothing from it, as long as no word goes on there. -/
theorem ends_append (isEnd : after ∈ ends isWord pattern cursor) {back : List Char}
    (apart : nextInWord isWord back = false) :
    (⟨after.inWord, after.ahead ++ back⟩ : Cursor) ∈
      ends isWord pattern ⟨cursor.inWord, cursor.ahead ++ back⟩ := by
  induction pattern generalizing cursor after with
  | empty =>
      rw [List.mem_singleton.mp isEnd]
      exact List.mem_singleton_self _
  | boundary =>
      have sameNext : nextInWord isWord (cursor.ahead ++ back) =
          nextInWord isWord cursor.ahead := by
        cases cursor.ahead with
        | nil => exact apart
        | cons char rest => rfl
      simp only [ends, sameNext] at isEnd ⊢
      split at isEnd
      · cases isEnd
      · rename_i differs
        rw [if_neg differs, List.mem_singleton.mp isEnd]
        exact List.mem_singleton_self _
  | one chars =>
      obtain ⟨char, rest, isText, isIn, rfl⟩ := mem_oneEnds.mp isEnd
      apply mem_oneEnds.mpr
      exact ⟨char, rest ++ back, by rw [isText]; rfl, isIn, rfl⟩
  | many chars =>
      simp only [ends] at isEnd ⊢
      generalize cursor.ahead = text at isEnd
      induction text with
      | nil => cases isEnd
      | cons char rest inductionHypothesis =>
          simp only [manyEnds, List.cons_append] at isEnd ⊢
          split at isEnd
          · rename_i isIn
            rw [if_pos isIn]
            rcases List.mem_append.mp isEnd with isLater | isLast
            · exact List.mem_append_left _ (inductionHypothesis isLater)
            · rw [List.mem_singleton.mp isLast]
              exact List.mem_append_right _ (List.mem_singleton_self _)
          · cases isEnd
  | seq first second firstHypothesis secondHypothesis =>
      obtain ⟨middle, isMiddle, isEnd⟩ := List.mem_flatMap.mp isEnd
      exact List.mem_flatMap.mpr
        ⟨_, firstHypothesis isMiddle, secondHypothesis isEnd⟩
  | either first second firstHypothesis secondHypothesis =>
      rcases List.mem_append.mp isEnd with isFirst | isSecond
      · exact List.mem_append_left _ (firstHypothesis isFirst)
      · exact List.mem_append_right _ (secondHypothesis isSecond)

theorem search_iff : search isWord pattern text = true ↔
    ∃ cursor ∈ positions isWord false text, ∃ after,
      after ∈ ends isWord pattern cursor := by
  simp only [search, List.any_eq_true, Bool.not_eq_true', List.isEmpty_eq_false_iff,
    List.ne_nil_iff_exists_cons]
  constructor
  · rintro ⟨cursor, isPlace, after, others, isEnds⟩
    exact ⟨cursor, isPlace, after, by rw [isEnds]; exact List.mem_cons_self⟩
  · rintro ⟨cursor, isPlace, after, isEnd⟩
    cases isEnds : ends isWord pattern cursor with
    | nil =>
        rw [isEnds] at isEnd
        cases isEnd
    | cons first others => exact ⟨cursor, isPlace, first, others, isEnds⟩

/-- What is found in a part of a text is found in the text, if the part begins and ends
where no word goes on. -/
theorem search_within {front back : List Char}
    (apartBefore : lastInWord isWord false front = false)
    (apartBehind : nextInWord isWord back = false)
    (found : search isWord pattern text = true) :
    search isWord pattern (front ++ text ++ back) = true := by
  obtain ⟨cursor, isPlace, after, isEnd⟩ := search_iff.mp found
  exact search_iff.mpr
    ⟨_, positions_within apartBefore isPlace back, _, ends_append isEnd apartBehind⟩

end Matches

/-! ## Matches one after the other -/

section Finding

variable {isWord : Char → Bool} {pattern : Pattern} {text : List Char}

/-- A match takes one character at least. -/
def Pattern.Takes (isWord : Char → Bool) (pattern : Pattern) : Prop :=
  ∀ cursor after, after ∈ ends isWord pattern cursor →
    after.ahead.length < cursor.ahead.length

/-- No match begins inside another one. -/
def Pattern.Apart (isWord : Char → Bool) (pattern : Pattern) : Prop :=
  ∀ cursor after inner, after ∈ ends isWord pattern cursor →
    inner ∈ positions isWord cursor.inWord cursor.ahead →
    after.ahead.length < inner.ahead.length →
    inner.ahead.length < cursor.ahead.length →
      ends isWord pattern inner = []

/-- What is found begins at some place. -/
theorem finditerFrom_sound {fuel : ℕ} {start after : Cursor}
    (isFound : after ∈ finditerFrom isWord pattern fuel start) :
    ∃ cursor ∈ positions isWord start.inWord start.ahead,
      (ends isWord pattern cursor).head? = some after := by
  induction fuel generalizing start with
  | zero => cases isFound
  | succ fuel inductionHypothesis =>
      simp only [finditerFrom] at isFound
      split at isFound
      · rename_i first isFirst
        rcases List.mem_cons.mp isFound with rfl | isLater
        · exact ⟨start, mem_positions.mpr ⟨[], rfl, rfl⟩, isFirst⟩
        · obtain ⟨cursor, isPlace, isHead⟩ := inductionHypothesis isLater
          have firstIn := ends_positions (List.mem_of_head? isFirst)
          exact ⟨cursor, positions_trans firstIn isPlace, isHead⟩
      · split at isFound
        · cases isFound
        · rename_i char rest isAhead
          obtain ⟨cursor, isPlace, isHead⟩ := inductionHypothesis isFound
          refine ⟨cursor, ?_, isHead⟩
          rw [isAhead]
          exact List.mem_cons_of_mem _ isPlace

theorem search_of_finditer {after : Cursor}
    (isFound : after ∈ finditer isWord pattern text) :
    search isWord pattern text = true := by
  obtain ⟨cursor, isPlace, isHead⟩ := finditerFrom_sound isFound
  exact search_iff.mpr ⟨cursor, isPlace, after, List.mem_of_head? isHead⟩

/-- Where matches do not overlap, none is missed. -/
theorem finditerFrom_complete (takes : pattern.Takes isWord)
    (apart : pattern.Apart isWord) {fuel : ℕ} {start cursor after : Cursor}
    (enough : start.ahead.length < fuel)
    (isPlace : cursor ∈ positions isWord start.inWord start.ahead)
    (isHead : (ends isWord pattern cursor).head? = some after) :
    after ∈ finditerFrom isWord pattern fuel start := by
  induction fuel generalizing start with
  | zero => cases enough
  | succ fuel inductionHypothesis =>
      simp only [finditerFrom]
      split
      · rename_i first isFirst
        have firstEnd := List.mem_of_head? isFirst
        have shorter := takes start first firstEnd
        by_cases isHere : cursor.ahead.length < start.ahead.length
        · by_cases isInside : first.ahead.length < cursor.ahead.length
          · -- a match inside the first one is excluded
            rw [apart start first cursor firstEnd isPlace isInside isHere] at isHead
            cases isHead
          · have isLater : cursor ∈ positions isWord first.inWord first.ahead :=
              positions_of_le (ends_positions firstEnd) isPlace (by omega)
            exact List.mem_cons_of_mem _ (inductionHypothesis (by omega) isLater)
        · have same : cursor = start := by
            obtain ⟨front, isSplit, isLast⟩ := mem_positions.mp isPlace
            have sameLength := congrArg List.length isSplit
            rw [List.length_append] at sameLength
            have isNil : front = [] := List.length_eq_zero_iff.mp (by omega)
            rw [isNil] at isSplit isLast
            cases cursor with
            | mk inWord ahead =>
                cases start with
                | mk startInWord startAhead =>
                    cases isSplit
                    cases isLast
                    rfl
          rw [same, isFirst] at isHead
          cases isHead
          exact List.mem_cons_self
      · rename_i noMatch
        have isLater : cursor ≠ start := by
          intro same
          rw [same, noMatch] at isHead
          cases isHead
        split
        · rename_i isNil
          rw [isNil] at isPlace
          refine absurd ?_ isLater
          rw [List.mem_singleton.mp isPlace, ← isNil]
        · rename_i char rest isAhead
          rw [isAhead] at isPlace enough
          rcases List.mem_cons.mp isPlace with isStart | isRest
          · refine absurd ?_ isLater
            rw [isStart, ← isAhead]
          · exact inductionHypothesis (by simpa using enough) isRest

/-- The matches in the last part of a text are matches in the whole text. -/
theorem finditer_of_suffix (takes : pattern.Takes isWord)
    (apart : pattern.Apart isWord) {front : List Char}
    (apartBefore : lastInWord isWord false front = false) {after : Cursor}
    (isFound : after ∈ finditer isWord pattern text) :
    after ∈ finditer isWord pattern (front ++ text) := by
  obtain ⟨cursor, isPlace, isHead⟩ := finditerFrom_sound isFound
  have isWithin := positions_within apartBefore isPlace []
  rw [List.append_nil, List.append_nil] at isWithin
  exact finditerFrom_complete takes apart (Nat.lt_succ_self _) isWithin isHead

end Finding

/-! ## Keywords -/

section Keywords

/-- A literal text; `fold` says which characters count as the same. -/
def Pattern.literal (fold : Char → Char) : List Char → Pattern
  | [] => .empty
  | char :: rest => .seq (.one fun other => fold other == char) (literal fold rest)

def Pattern.oneOf : List Pattern → Pattern
  | [] => .one fun _ => false
  | first :: others => .either first (oneOf others)

/-- `\b(...|...)\b` -/
def Pattern.delimited (alternatives : List Pattern) : Pattern :=
  .seq .boundary (.seq (oneOf alternatives) .boundary)

/-- Some words, each a match if the text goes on as something else. -/
def Pattern.keywords (fold : Char → Char) (words : List (List Char)) : Pattern :=
  delimited (words.map (literal fold))

variable {isWord : Char → Bool} {fold : Char → Char} {words : List (List Char)}
variable {cursor after : Cursor} {text : List Char}

theorem mem_ends_boundary : after ∈ ends isWord .boundary cursor ↔
    after = cursor ∧ cursor.inWord ≠ nextInWord isWord cursor.ahead := by
  simp only [ends]
  split
  · rename_i same
    simp [same]
  · rename_i differs
    simp [differs]

/-- A literal takes its characters, up to what counts as the same. -/
theorem mem_ends_literal {word : List Char} :
    after ∈ ends isWord (.literal fold word) cursor ↔
      ∃ taken, cursor.ahead = taken ++ after.ahead ∧ taken.map fold = word ∧
        after.inWord = lastInWord isWord cursor.inWord taken := by
  induction word generalizing cursor with
  | nil =>
      constructor
      · intro isEnd
        rw [List.mem_singleton.mp isEnd]
        exact ⟨[], rfl, rfl, rfl⟩
      · rintro ⟨taken, isSplit, isNil, isLast⟩
        rw [List.map_eq_nil_iff.mp isNil] at isSplit isLast
        have same : after = cursor := by
          cases after with
          | mk inWord ahead =>
              cases cursor with
              | mk startInWord startAhead =>
                  cases isSplit
                  cases isLast
                  rfl
        rw [same]
        exact List.mem_singleton_self _
  | cons char rest inductionHypothesis =>
      constructor
      · intro isEnd
        obtain ⟨middle, isMiddle, isEnd⟩ := List.mem_flatMap.mp isEnd
        obtain ⟨other, others, isText, isSame, rfl⟩ := mem_oneEnds.mp isMiddle
        obtain ⟨taken, isSplit, isTaken, isLast⟩ := inductionHypothesis.mp isEnd
        dsimp only at isSplit isLast
        refine ⟨other :: taken, by rw [isText, isSplit]; rfl, ?_, isLast⟩
        rw [List.map_cons, isTaken, beq_iff_eq.mp isSame]
      · rintro ⟨taken, isSplit, isTaken, isLast⟩
        cases taken with
        | nil => cases isTaken
        | cons other others =>
            rw [List.map_cons, List.cons.injEq] at isTaken
            apply List.mem_flatMap.mpr
            refine ⟨⟨isWord other, others ++ after.ahead⟩, ?_, ?_⟩
            · apply mem_oneEnds.mpr
              exact ⟨other, _, isSplit, beq_iff_eq.mpr isTaken.1, rfl⟩
            · exact inductionHypothesis.mpr ⟨others, rfl, isTaken.2, isLast⟩

theorem mem_ends_oneOf {alternatives : List Pattern} :
    after ∈ ends isWord (.oneOf alternatives) cursor ↔
      ∃ pattern ∈ alternatives, after ∈ ends isWord pattern cursor := by
  induction alternatives with
  | nil =>
      constructor
      · intro isEnd
        obtain ⟨_, _, _, isFalse, _⟩ := mem_oneEnds.mp isEnd
        cases isFalse
      · rintro ⟨pattern, isIn, _⟩
        cases isIn
  | cons first others inductionHypothesis =>
      rw [Pattern.oneOf, ends, List.mem_append, inductionHypothesis]
      simp only [List.mem_cons, exists_eq_or_imp]

theorem mem_ends_delimited {alternatives : List Pattern} :
    after ∈ ends isWord (.delimited alternatives) cursor ↔
      (∃ pattern ∈ alternatives, after ∈ ends isWord pattern cursor) ∧
        cursor.inWord ≠ nextInWord isWord cursor.ahead ∧
        after.inWord ≠ nextInWord isWord after.ahead := by
  rw [Pattern.delimited, ends]
  constructor
  · intro isEnd
    obtain ⟨start, isStart, isRest⟩ := List.mem_flatMap.mp isEnd
    obtain ⟨rfl, startApart⟩ := mem_ends_boundary.mp isStart
    rw [ends] at isRest
    obtain ⟨middle, isMiddle, isLast⟩ := List.mem_flatMap.mp isRest
    obtain ⟨rfl, endApart⟩ := mem_ends_boundary.mp isLast
    exact ⟨mem_ends_oneOf.mp isMiddle, startApart, endApart⟩
  · rintro ⟨isMatch, startApart, endApart⟩
    apply List.mem_flatMap.mpr
    refine ⟨cursor, mem_ends_boundary.mpr ⟨rfl, startApart⟩, ?_⟩
    apply List.mem_flatMap.mpr
    exact ⟨after, mem_ends_oneOf.mpr isMatch, mem_ends_boundary.mpr ⟨rfl, endApart⟩⟩

theorem mem_ends_keywords :
    after ∈ ends isWord (.keywords fold words) cursor ↔
      (∃ taken, cursor.ahead = taken ++ after.ahead ∧ taken.map fold ∈ words ∧
        after.inWord = lastInWord isWord cursor.inWord taken) ∧
        cursor.inWord ≠ nextInWord isWord cursor.ahead ∧
        after.inWord ≠ nextInWord isWord after.ahead := by
  rw [Pattern.keywords, mem_ends_delimited]
  simp only [List.mem_map, exists_exists_and_eq_and, mem_ends_literal]
  constructor
  · rintro ⟨⟨word, isIn, taken, isSplit, rfl, isLast⟩, isApart⟩
    exact ⟨⟨taken, isSplit, isIn, isLast⟩, isApart⟩
  · rintro ⟨⟨taken, isSplit, isIn, isLast⟩, isApart⟩
    exact ⟨⟨_, isIn, taken, isSplit, rfl, isLast⟩, isApart⟩

/-- What stands at a place is part of the text. -/
theorem infix_of_place {inWord : Bool} {word : List Char}
    (isPlace : cursor ∈ positions isWord inWord text)
    (isNext : word <+: cursor.ahead.map fold) : word <:+: text.map fold := by
  obtain ⟨front, isText, _⟩ := mem_positions.mp isPlace
  rw [isText, List.map_append]
  exact List.infix_append_of_infix_right isNext.isInfix

theorem prefix_of_mem_ends_literal {word : List Char}
    (isEnd : after ∈ ends isWord (.literal fold word) cursor) :
    word <+: cursor.ahead.map fold := by
  obtain ⟨taken, isSplit, rfl, _⟩ := mem_ends_literal.mp isEnd
  rw [isSplit, List.map_append]
  exact List.prefix_append _ _

/-- Alternatives that begin with a literal are only found in a text that one of the
literals is part of. -/
theorem infix_of_search_delimited {alternatives : List Pattern}
    (heads : ∀ pattern ∈ alternatives, ∃ word ∈ words, ∃ rest,
      pattern = .seq (.literal fold word) rest)
    (found : search isWord (.delimited alternatives) text = true) :
    ∃ word ∈ words, word <:+: text.map fold := by
  obtain ⟨cursor, isPlace, after, isEnd⟩ := search_iff.mp found
  obtain ⟨⟨pattern, isIn, isEnd⟩, _⟩ := mem_ends_delimited.mp isEnd
  obtain ⟨word, isWordIn, rest, rfl⟩ := heads pattern isIn
  obtain ⟨middle, isMiddle, _⟩ := List.mem_flatMap.mp isEnd
  exact ⟨word, isWordIn, infix_of_place isPlace (prefix_of_mem_ends_literal isMiddle)⟩

/-- A keyword is only found in a text that it is part of. -/
theorem infix_of_search (found : search isWord (.keywords fold words) text = true) :
    ∃ word ∈ words, word <:+: text.map fold := by
  obtain ⟨cursor, isPlace, after, isEnd⟩ := search_iff.mp found
  obtain ⟨⟨pattern, isIn, isEnd⟩, _⟩ := mem_ends_delimited.mp isEnd
  obtain ⟨word, isWordIn, rfl⟩ := List.mem_map.mp isIn
  exact ⟨word, isWordIn, infix_of_place isPlace (prefix_of_mem_ends_literal isEnd)⟩

theorem keywords_takes (nonempty : ∀ word ∈ words, word ≠ []) :
    (Pattern.keywords fold words).Takes isWord := by
  intro cursor after isEnd
  obtain ⟨⟨taken, isSplit, isIn, _⟩, _⟩ := mem_ends_keywords.mp isEnd
  have isLonger : taken ≠ [] := by
    intro isNil
    exact nonempty _ isIn (by rw [isNil]; rfl)
  have positive := List.length_pos_of_ne_nil isLonger
  rw [isSplit, List.length_append]
  omega

/-- No word begins where another one has a part of itself that begins like a word. -/
def Unnested (isWord : Char → Bool) (words : List (List Char)) : Prop :=
  ∀ word ∈ words, ∀ cut ∈ List.range word.length,
    lastInWord isWord false (word.take cut) ≠
        nextInWord isWord (word.drop cut) →
      cut = 0 ∨ ∀ other ∈ words, ¬word.drop cut <+: other ∧ ¬other <+: word.drop cut

instance (isWord : Char → Bool) (words : List (List Char)) :
    Decidable (Unnested isWord words) :=
  inferInstanceAs (Decidable (∀ word ∈ words, ∀ cut ∈ List.range word.length, _ → _))

theorem lastInWord_congr {other : Char → Bool}
    (same : ∀ char ∈ text, isWord char = other char) (inWord : Bool) :
    lastInWord isWord inWord text = lastInWord other inWord text := by
  induction text generalizing inWord with
  | nil => rfl
  | cons char rest inductionHypothesis =>
      rw [lastInWord, lastInWord, same char List.mem_cons_self]
      exact inductionHypothesis (fun later isLater => same later
        (List.mem_cons_of_mem _ isLater)) _

theorem nextInWord_congr {other : Char → Bool}
    (same : ∀ char ∈ text, isWord char = other char) :
    nextInWord isWord text = nextInWord other text := by
  cases text with
  | nil => rfl
  | cons char rest => exact same char List.mem_cons_self

/-- Only the characters of the words count. -/
theorem Unnested.congr {other : Char → Bool}
    (same : ∀ word ∈ words, ∀ char ∈ word, isWord char = other char)
    (unnested : Unnested other words) : Unnested isWord words := by
  intro word isIn cut isCut startApart
  apply unnested word isIn cut isCut
  rw [← lastInWord_congr fun char isChar =>
      same word isIn char (List.mem_of_mem_take isChar),
    ← nextInWord_congr fun char isChar =>
      same word isIn char (List.mem_of_mem_drop isChar)]
  exact startApart

theorem lastInWord_map (sameWord : ∀ char, isWord (fold char) = isWord char)
    (inWord : Bool) (text : List Char) :
    lastInWord isWord inWord (text.map fold) = lastInWord isWord inWord text := by
  induction text generalizing inWord with
  | nil => rfl
  | cons char rest inductionHypothesis =>
      rw [List.map_cons, lastInWord, lastInWord, sameWord, inductionHypothesis]

theorem lastInWord_of_ne_nil (inWord other : Bool) (nonempty : text ≠ []) :
    lastInWord isWord inWord text = lastInWord isWord other text := by
  cases text with
  | nil => exact absurd rfl nonempty
  | cons char rest => rfl

/-- Keywords that are not nested in each other do not overlap in any text. -/
theorem keywords_apart (sameWord : ∀ char, isWord (fold char) = isWord char)
    (unnested : Unnested isWord words) :
    (Pattern.keywords fold words).Apart isWord := by
  intro cursor after inner isEnd isPlace isInside isBehind
  obtain ⟨⟨taken, isSplit, isIn, _⟩, _⟩ := mem_ends_keywords.mp isEnd
  obtain ⟨front, isText, isLast⟩ := mem_positions.mp isPlace
  have lengths := congrArg List.length (isText.symm.trans isSplit)
  rw [isText, List.length_append] at isBehind
  rw [List.length_append, List.length_append] at lengths
  have frontNonempty : front ≠ [] := by
    intro isNil
    rw [isNil, List.length_nil] at isBehind
    omega
  -- the inner match begins behind `front`, inside what was taken
  have isPrefix : front <+: taken := by
    have inText : front <+: cursor.ahead := ⟨inner.ahead, isText.symm⟩
    apply List.prefix_of_prefix_length_le inText
    · exact ⟨after.ahead, isSplit.symm⟩
    · omega
  obtain ⟨rest, rfl⟩ := isPrefix
  have isAhead : inner.ahead = rest ++ after.ahead := by
    have same := isText.symm.trans isSplit
    rw [List.append_assoc] at same
    exact List.append_cancel_left same
  have restNonempty : rest ≠ [] := by
    intro isNil
    rw [isAhead, isNil, List.nil_append] at isInside
    omega
  by_contra isMatch
  obtain ⟨other, others, isEnds⟩ := List.ne_nil_iff_exists_cons.mp isMatch
  have otherEnd : other ∈ ends isWord (.keywords fold words) inner := by
    rw [isEnds]
    exact List.mem_cons_self
  obtain ⟨⟨otherTaken, otherSplit, otherIn, _⟩, startApart, _⟩ :=
    mem_ends_keywords.mp otherEnd
  have sameTake : ((front ++ rest).map fold).take front.length = front.map fold := by
    rw [List.map_append, List.take_left' (List.length_map fold)]
  have sameDrop : ((front ++ rest).map fold).drop front.length = rest.map fold := by
    rw [List.map_append, List.drop_left' (List.length_map fold)]
  have isCut : front.length ∈ List.range ((front ++ rest).map fold).length := by
    have positive := List.length_pos_of_ne_nil restNonempty
    rw [List.mem_range, List.length_map, List.length_append]
    omega
  have sameNext : nextInWord isWord inner.ahead =
      nextInWord isWord (rest.map fold) := by
    rw [isAhead]
    cases rest with
    | nil => exact absurd rfl restNonempty
    | cons char more =>
        rw [List.map_cons, List.cons_append, nextInWord, nextInWord, sameWord]
  have sameBefore : inner.inWord = lastInWord isWord false (front.map fold) := by
    rw [isLast, lastInWord_map sameWord]
    exact lastInWord_of_ne_nil _ _ frontNonempty
  have excluded := unnested _ isIn front.length isCut (by
    rw [sameTake, sameDrop, ← sameBefore, ← sameNext]
    exact startApart)
  rcases excluded with isZero | noOther
  · exact frontNonempty (List.length_eq_zero_iff.mp isZero)
  · obtain ⟨notLonger, notShorter⟩ := noOther _ otherIn
    rw [sameDrop] at notLonger notShorter
    rw [isAhead] at otherSplit
    have otherPrefix : otherTaken <+: rest ++ after.ahead :=
      ⟨other.ahead, otherSplit.symm⟩
    rcases List.prefix_or_prefix_of_prefix
        (List.prefix_append rest after.ahead) otherPrefix with isShorter | isShorter
    · exact notLonger (isShorter.map fold)
    · exact notShorter (isShorter.map fold)

end Keywords

/-! ## Parts of a text -/

section Parts

variable {word front back : List Char} {separator : Char}

theorem prefix_of_separated (solid : separator ∉ word)
    (isPrefix : word <+: front ++ separator :: back) : word <+: front := by
  rcases List.prefix_or_prefix_of_prefix isPrefix
    (List.prefix_append front (separator :: back)) with isShorter | ⟨rest, rfl⟩
  · exact isShorter
  · cases rest with
    | nil =>
        rw [List.append_nil]
    | cons char others =>
        have same := (List.prefix_append_right_inj front).mp isPrefix
        rw [(List.cons_prefix_cons.mp same).1] at solid
        exact absurd (List.mem_append_right _ List.mem_cons_self) solid

/-- A word without the separator is part of what stands before it or behind it. -/
theorem infix_of_separated (solid : separator ∉ word)
    (isPart : word <:+: front ++ separator :: back) :
    word <:+: front ∨ word <:+: back := by
  induction front with
  | nil =>
      rcases List.infix_cons_iff.mp isPart with isFirst | isLater
      · have isNil : word <+: [] := prefix_of_separated solid isFirst
        exact Or.inl isNil.isInfix
      · exact Or.inr isLater
  | cons char rest inductionHypothesis =>
      rcases List.infix_cons_iff.mp isPart with isFirst | isLater
      · have isFront : word <+: char :: rest := prefix_of_separated solid isFirst
        exact Or.inl isFront.isInfix
      · rcases inductionHypothesis isLater with isRest | isBehind
        · exact Or.inl (List.infix_cons isRest)
        · exact Or.inr isBehind

/-- Characters that no word has in front of a text say nothing about its parts. -/
theorem infix_of_front (solid : ∀ char ∈ front, char ∉ word)
    (isPart : word <:+: front ++ back) : word <:+: back := by
  induction front with
  | nil => exact isPart
  | cons char rest inductionHypothesis =>
      have isRest : word <:+: rest ++ back := by
        have isSplit : word <:+: [] ∨ word <:+: rest ++ back :=
          infix_of_separated (solid char List.mem_cons_self) isPart
        rcases isSplit with isNil | isBehind
        · rw [List.infix_nil.mp isNil]
          exact List.nil_infix
        · exact isBehind
      exact inductionHypothesis
        (fun later isLater => solid later (List.mem_cons_of_mem _ isLater)) isRest

theorem map_intercalate (change : Char → Char) (between : List Char)
    (names : List (List Char)) : (between.intercalate names).map change =
      (between.map change).intercalate (names.map (List.map change)) := by
  induction names with
  | nil => rfl
  | cons first others inductionHypothesis =>
      cases others with
      | nil =>
          simp only [List.map_cons, List.map_nil, List.intercalate_singleton]
      | cons second rest =>
          rw [List.map_cons, List.map_cons, List.intercalate_cons_cons,
            List.intercalate_cons_cons, List.map_append, List.map_append,
            inductionHypothesis, List.map_cons]

/-- A word that neither has the separator in it nor begins with the blank is part of a
list of names only where it is part of a name. -/
theorem infix_of_intercalate {blank : Char} {names : List (List Char)}
    (nonempty : word ≠ []) (begins : word.head? ≠ some blank) (solid : separator ∉ word)
    (isPart : word <:+: [separator, blank].intercalate names) :
    ∃ name ∈ names, word <:+: name := by
  induction names with
  | nil => exact absurd (List.infix_nil.mp isPart) nonempty
  | cons first others inductionHypothesis =>
      cases others with
      | nil =>
          rw [List.intercalate_singleton] at isPart
          exact ⟨first, List.mem_cons_self, isPart⟩
      | cons second rest =>
          rw [List.intercalate_cons_cons, List.append_assoc] at isPart
          rcases infix_of_separated solid isPart with isFirst | isLater
          · exact ⟨first, List.mem_cons_self, isFirst⟩
          · rcases List.infix_cons_iff.mp isLater with isHead | isRest
            · obtain ⟨char, more, rfl⟩ := List.exists_cons_of_ne_nil nonempty
              rw [(List.cons_prefix_cons.mp isHead).1] at begins
              exact absurd rfl begins
            · obtain ⟨name, isName, isIn⟩ := inductionHypothesis isRest
              exact ⟨name, List.mem_cons_of_mem _ isName, isIn⟩

end Parts

end DbBuddy.Library
