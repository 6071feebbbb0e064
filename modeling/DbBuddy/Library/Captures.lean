import DbBuddy.Library.Patterns

/-!
# Searches that take texts down

A pattern with groups is a row of parts.  Its matches come in the order of the parts' own
matches, so the first one is what a backtracking search returns.  A part that no place of a
text matches leaves nothing to be found.
-/

namespace DbBuddy.Library

/-- A part of a pattern.  What a group matches is taken down; `line` is `(.*)$`. -/
inductive Part where
  | plain (pattern : Pattern)
  | group (pattern : Pattern)
  | line

/-- Where a match ends, and the texts of its groups. -/
structure Capture where
  after : Cursor
  groups : List (List Char)
  deriving DecidableEq

section Searching

variable (isWord : Char → Bool)

/-- What is between two places. -/
def between (cursor after : Cursor) : List Char :=
  cursor.ahead.take (cursor.ahead.length - after.ahead.length)

/-- The rest of the line, if no other line comes behind it. -/
def lineEnds (cursor : Cursor) : List Capture :=
  let taken := cursor.ahead.takeWhile (· != '\n')
  let rest := cursor.ahead.dropWhile (· != '\n')
  if rest = [] ∨ rest = ['\n'] then
    [⟨⟨lastInWord isWord cursor.inWord taken, rest⟩, [taken]⟩]
  else []

def Part.captures : Part → Cursor → List Capture
  | .plain pattern, cursor => (ends isWord pattern cursor).map fun after => ⟨after, []⟩
  | .group pattern, cursor =>
      (ends isWord pattern cursor).map fun after => ⟨after, [between cursor after]⟩
  | .line, cursor => lineEnds isWord cursor

/-- The matches that begin at a place, the preferred ones first. -/
def captures : List Part → Cursor → List Capture
  | [], cursor => [⟨cursor, []⟩]
  | part :: rest, cursor =>
      (part.captures isWord cursor).flatMap fun first =>
        (captures rest first.after).map fun later =>
          ⟨later.after, first.groups ++ later.groups⟩

/-- `re.search(pattern, text)`, and what is ahead where the match begins. -/
def searchFrom (parts : List Part) (text : List Char) : Option (Cursor × Capture) :=
  (positions isWord false text).findSome? fun cursor =>
    (captures isWord parts cursor).head?.map fun found => (cursor, found)

/-- The groups of `re.search(pattern, text)`. -/
def searchGroups (parts : List Part) (text : List Char) : Option (List (List Char)) :=
  (searchFrom isWord parts text).map fun found => found.2.groups

/-- `re.match(pattern, text)` -/
def matchGroups (parts : List Part) (text : List Char) : Option (List (List Char)) :=
  (captures isWord parts ⟨false, text⟩).head?.map Capture.groups

def findAllFrom (parts : List Part) : ℕ → Cursor → List (Cursor × Capture)
  | 0, _ => []
  | fuel + 1, cursor =>
      match (captures isWord parts cursor).head? with
      | some found => (cursor, found) :: findAllFrom parts fuel found.after
      | none =>
          match cursor.ahead with
          | [] => []
          | char :: rest => findAllFrom parts fuel ⟨isWord char, rest⟩

/-- `re.finditer(pattern, text)`, of a pattern that takes one character at least. -/
def findAll (parts : List Part) (text : List Char) : List (Cursor × Capture) :=
  findAllFrom isWord parts (text.length + 1) ⟨false, text⟩

end Searching

/-! ## What a match needs -/

section Needs

variable {isWord : Char → Bool} {parts : List Part} {pattern : Pattern}
variable {cursor : Cursor} {found : Capture} {text : List Char}

theorem mem_captures_plain : found ∈ (Part.plain pattern).captures isWord cursor ↔
    found.after ∈ ends isWord pattern cursor ∧ found.groups = [] := by
  cases found with
  | mk after groups => simp [Part.captures, eq_comm]

theorem mem_lineEnds (isFound : found ∈ lineEnds isWord cursor) :
    found.after ∈ positions isWord cursor.inWord cursor.ahead := by
  unfold lineEnds at isFound
  dsimp only at isFound
  split at isFound
  · rw [List.mem_singleton.mp isFound]
    exact mem_positions.mpr ⟨_, List.takeWhile_append_dropWhile.symm, rfl⟩
  · cases isFound

/-- A part ends at a place ahead. -/
theorem captures_positions {part : Part} (isFound : found ∈ part.captures isWord cursor) :
    found.after ∈ positions isWord cursor.inWord cursor.ahead := by
  cases part with
  | plain pattern => exact ends_positions (mem_captures_plain.mp isFound).1
  | group pattern =>
      obtain ⟨after, isEnd, rfl⟩ := List.mem_map.mp isFound
      exact ends_positions isEnd
  | line => exact mem_lineEnds isFound

/-- Each part of a match has a match of its own. -/
theorem exists_ends_of_captures (isPart : Part.plain pattern ∈ parts)
    (isFound : found ∈ captures isWord parts cursor) :
    ∃ place ∈ positions isWord cursor.inWord cursor.ahead, ∃ after,
      after ∈ ends isWord pattern place := by
  induction parts generalizing cursor found with
  | nil => cases isPart
  | cons part rest inductionHypothesis =>
      obtain ⟨first, isFirst, isRest⟩ := List.mem_flatMap.mp isFound
      obtain ⟨later, isLater, _⟩ := List.mem_map.mp isRest
      rcases List.mem_cons.mp isPart with rfl | inRest
      · exact ⟨cursor, mem_positions.mpr ⟨[], rfl, rfl⟩, first.after,
          (mem_captures_plain.mp isFirst).1⟩
      · obtain ⟨place, isPlace, hasEnd⟩ := inductionHypothesis inRest isLater
        exact ⟨place, positions_trans (captures_positions isFirst) isPlace, hasEnd⟩

theorem searchFrom_eq_none : searchFrom isWord parts text = none ↔
    ∀ cursor ∈ positions isWord false text, captures isWord parts cursor = [] := by
  simp [searchFrom, List.findSome?_eq_none_iff]

/-- What has no match anywhere is in no match. -/
theorem searchFrom_of_absent (isPart : Part.plain pattern ∈ parts)
    (absent : search isWord pattern text = false) : searchFrom isWord parts text = none := by
  apply searchFrom_eq_none.mpr
  intro cursor isPlace
  by_contra isMatch
  obtain ⟨found, others, isFound⟩ := List.ne_nil_iff_exists_cons.mp isMatch
  have inCaptures : found ∈ captures isWord parts cursor := by
    rw [isFound]
    exact List.mem_cons_self
  obtain ⟨place, isAhead, hasEnd⟩ := exists_ends_of_captures isPart inCaptures
  have isThere : search isWord pattern text = true :=
    search_iff.mpr ⟨place, positions_trans isPlace isAhead, hasEnd⟩
  rw [absent] at isThere
  cases isThere

theorem searchGroups_of_absent (isPart : Part.plain pattern ∈ parts)
    (absent : search isWord pattern text = false) :
    searchGroups isWord parts text = none := by
  rw [searchGroups, searchFrom_of_absent isPart absent]
  rfl

end Needs

/-! ## Matches that exist -/

section Exists

variable {isWord : Char → Bool} {parts : List Part} {pattern : Pattern}
variable {cursor after : Cursor} {text : List Char}

theorem captures_ne_nil_of_plain (isEnd : after ∈ ends isWord pattern cursor)
    (isRest : captures isWord parts after ≠ []) :
    captures isWord (.plain pattern :: parts) cursor ≠ [] := by
  obtain ⟨found, others, isFound⟩ := List.ne_nil_iff_exists_cons.mp isRest
  have isFirst : (⟨after, []⟩ : Capture) ∈ (Part.plain pattern).captures isWord cursor :=
    mem_captures_plain.mpr ⟨isEnd, rfl⟩
  have isLater : found ∈ captures isWord parts after := by
    rw [isFound]
    exact List.mem_cons_self
  apply List.ne_nil_of_mem
  exact List.mem_flatMap.mpr ⟨_, isFirst, List.mem_map.mpr ⟨found, isLater, rfl⟩⟩

theorem searchFrom_isSome (isPlace : cursor ∈ positions isWord false text)
    (isMatch : captures isWord parts cursor ≠ []) :
    (searchFrom isWord parts text).isSome = true := by
  rw [Option.isSome_iff_ne_none, Ne, searchFrom_eq_none]
  intro noMatch
  exact isMatch (noMatch cursor isPlace)

/-- A match at the beginning of the text comes first. -/
theorem searchFrom_of_head {found : Capture}
    (isFirst : (captures isWord parts ⟨false, text⟩).head? = some found) :
    searchFrom isWord parts text = some (⟨false, text⟩, found) := by
  cases text with
  | nil => simp [searchFrom, positions, isFirst]
  | cons char rest => simp [searchFrom, positions, isFirst]

end Exists

/-! ## Matches that are tried first -/

section First

variable {isWord : Char → Bool} {parts : List Part} {pattern : Pattern}
variable {cursor after : Cursor} {found : Capture}

theorem head?_flatMap_of_head? {Item Other : Type*} {items : List Item} (item : Item)
    {other : Other} {change : Item → List Other} (isFirst : items.head? = some item)
    (isOther : (change item).head? = some other) : (items.flatMap change).head? = some other := by
  cases items with
  | nil => cases isFirst
  | cons first rest =>
      cases isFirst
      rw [List.flatMap_cons, List.head?_append, isOther]
      rfl

theorem head?_captures_plain (isEnd : (ends isWord pattern cursor).head? = some after)
    (isRest : (captures isWord parts after).head? = some found) :
    (captures isWord (.plain pattern :: parts) cursor).head? = some found := by
  apply head?_flatMap_of_head? (⟨after, []⟩ : Capture)
  · rw [Part.captures, List.head?_map, isEnd]
    rfl
  · rw [List.head?_map, isRest]
    rfl

theorem head?_captures_group (isEnd : (ends isWord pattern cursor).head? = some after)
    (isRest : (captures isWord parts after).head? = some found) :
    (captures isWord (.group pattern :: parts) cursor).head? =
      some ⟨found.after, between cursor after :: found.groups⟩ := by
  apply head?_flatMap_of_head? (⟨after, [between cursor after]⟩ : Capture)
  · rw [Part.captures, List.head?_map, isEnd]
    rfl
  · rw [List.head?_map, isRest]
    rfl

theorem head?_ends_boundary (isApart : cursor.inWord ≠ nextInWord isWord cursor.ahead) :
    (ends isWord .boundary cursor).head? = some cursor := by
  rw [ends, if_neg isApart]
  rfl

/-- A literal matches in one way. -/
theorem ends_literal {fold : Char → Char} (taken rest : List Char) (inWord : Bool) :
    ends isWord (.literal fold (taken.map fold)) ⟨inWord, taken ++ rest⟩ =
      [⟨lastInWord isWord inWord taken, rest⟩] := by
  induction taken generalizing inWord with
  | nil => rfl
  | cons char taken inductionHypothesis =>
      have isOne : ends isWord (.one fun other => fold other == fold char)
          ⟨inWord, char :: (taken ++ rest)⟩ = [⟨isWord char, taken ++ rest⟩] := by
        rw [ends, oneEnds, if_pos (beq_self_eq_true _)]
      rw [List.map_cons, Pattern.literal, ends, List.cons_append, isOne,
        List.flatMap_singleton, inductionHypothesis]
      rfl

theorem head?_ends_oneOf {others : List Pattern}
    (isFirst : (ends isWord pattern cursor).head? = some after) :
    (ends isWord (.oneOf (pattern :: others)) cursor).head? = some after := by
  rw [Pattern.oneOf, ends, List.head?_append, isFirst]
  rfl

end First

end DbBuddy.Library
