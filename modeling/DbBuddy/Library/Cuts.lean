import DbBuddy.Library.Patterns

/-!
# Cutting a text at a keyword

A keyword is looked for as a word of its own, in any case.  Where two texts meet and do
not run into each other, a word of both together is one of the first or of the second.
-/

namespace DbBuddy.Library

section Cutting

variable (isWord : Char → Bool) (fold : Char → Char) (keyword : List Char)

/-- `\bkeyword\b` at a place of a text, with a word or none before it. -/
def atKeyword (inWord : Bool) (text : List Char) : Bool :=
  !inWord && keyword.isPrefixOf (text.map fold) &&
    !nextInWord isWord (text.drop keyword.length)

/-- `re.search(r'\bkeyword\b', text)`: what is before the first match, and what is
behind it. -/
def keywordCut : Bool → List Char → Option (List Char × List Char)
  | _, [] => none
  | inWord, char :: rest =>
      if atKeyword isWord fold keyword inWord (char :: rest) = true then
        some ([], (char :: rest).drop keyword.length)
      else (keywordCut (isWord char) rest).map fun cut => (char :: cut.1, cut.2)

/-- The keyword is made of characters that only characters of words are compared as. -/
structure Keyword : Prop where
  nonempty : keyword ≠ []
  word : ∀ char, fold char ∈ keyword → isWord char = true

end Cutting

section Laws

variable {isWord : Char → Bool} {fold : Char → Char} {keyword : List Char}
variable {inWord : Bool} {front text before behind : List Char}

/-- The two texts do not run into each other. -/
def Parted (isWord : Char → Bool) (inWord : Bool) (front text : List Char) : Prop :=
  lastInWord isWord inWord front = false ∨ nextInWord isWord text = false

theorem lastInWord_of_all (nonempty : front ≠ [])
    (isAll : ∀ char ∈ front, isWord char = true) :
    lastInWord isWord inWord front = true := by
  obtain ⟨rest, last, rfl⟩ := List.eq_nil_or_concat front |>.resolve_left nonempty
  rw [List.concat_eq_append, lastInWord_concat]
  exact isAll last (by simp)

theorem nextInWord_append (nonempty : front ≠ []) :
    nextInWord isWord (front ++ text) = nextInWord isWord front := by
  obtain ⟨first, rest, rfl⟩ := List.exists_cons_of_ne_nil nonempty
  rfl

/-- A text that is compared as a part of the keyword is of one word. -/
theorem Keyword.all_word (isKeyword : Keyword isWord fold keyword)
    (isPart : ∀ char ∈ front, fold char ∈ keyword) :
    ∀ char ∈ front, isWord char = true :=
  fun char isIn => isKeyword.word char (isPart char isIn)

/-- Whether the keyword is at the start of the first text does not depend on the second. -/
theorem isPrefixOf_append (fits : keyword.length ≤ front.length) :
    keyword.isPrefixOf ((front ++ text).map fold) = keyword.isPrefixOf (front.map fold) := by
  rw [Bool.eq_iff_iff, List.isPrefixOf_iff_prefix, List.isPrefixOf_iff_prefix, List.map_append]
  constructor
  · intro isPrefix
    exact List.prefix_of_prefix_length_le isPrefix (List.prefix_append _ _)
      (by rw [List.length_map]; exact fits)
  · intro isPrefix
    exact isPrefix.trans (List.prefix_append _ _)

/-- A keyword does not begin in one text and end in the next. -/
theorem not_across (isKeyword : Keyword isWord fold keyword) (nonempty : front ≠ [])
    (parted : Parted isWord inWord front text) (short : front.length < keyword.length) :
    keyword.isPrefixOf ((front ++ text).map fold) = false := by
  rw [Bool.eq_false_iff]
  intro matched
  obtain ⟨tail, isSplit⟩ := List.isPrefixOf_iff_prefix.mp matched
  rw [List.map_append] at isSplit
  have isFront : front.map fold <+: keyword := by
    apply List.prefix_of_prefix_length_le (List.prefix_append _ (text.map fold))
      ⟨tail, isSplit⟩
    rw [List.length_map]
    exact short.le
  obtain ⟨surplus, isSurplus⟩ := isFront
  have isAll := @Keyword.all_word isWord fold keyword front isKeyword fun char isIn => by
    rw [← isSurplus]
    exact List.mem_append_left _ (List.mem_map_of_mem isIn)
  have surplusNonempty : surplus ≠ [] := by
    intro isNil
    rw [isNil, List.append_nil] at isSurplus
    rw [← isSurplus, List.length_map] at short
    exact short.false
  obtain ⟨first, others, rfl⟩ := List.exists_cons_of_ne_nil surplusNonempty
  rw [← isSurplus, List.append_assoc] at isSplit
  have isText := List.append_cancel_left isSplit
  cases text with
  | nil => cases isText
  | cons char rest =>
      have same : first = fold char := (List.cons.inj isText).1
      have isNext : isWord char = true := by
        apply isKeyword.word
        rw [← isSurplus, ← same]
        exact List.mem_append_right _ List.mem_cons_self
      rcases parted with isLast | isApart
      · rw [lastInWord_of_all nonempty isAll] at isLast
        cases isLast
      · rw [nextInWord, isNext] at isApart
        cases isApart

/-- A place of the first text holds the keyword in both together just if it does in the
first one. -/
theorem atKeyword_append (isKeyword : Keyword isWord fold keyword) (nonempty : front ≠ [])
    (parted : Parted isWord inWord front text) :
    atKeyword isWord fold keyword inWord (front ++ text) =
      atKeyword isWord fold keyword inWord front := by
  unfold atKeyword
  by_cases fits : keyword.length ≤ front.length
  · rw [isPrefixOf_append fits, List.drop_append_of_le_length fits]
    by_cases isEnd : front.drop keyword.length = []
    · cases matched : keyword.isPrefixOf (front.map fold) with
      | false => simp
      | true =>
          -- the keyword is all of the first text, which then ends in a word
          have isPrefix := List.isPrefixOf_iff_prefix.mp matched
          have sameLength : keyword.length = (front.map fold).length := by
            have atMost := List.drop_eq_nil_iff.mp isEnd
            rw [List.length_map]
            omega
          have isAll := @Keyword.all_word isWord fold keyword front isKeyword fun char isIn => by
            rw [isPrefix.eq_of_length sameLength]
            exact List.mem_map_of_mem isIn
          have apart := parted.resolve_left (by
            rw [lastInWord_of_all nonempty isAll]
            exact Bool.noConfusion)
          rw [isEnd, List.nil_append, apart]
          rfl
    · rw [nextInWord_append isEnd]
  · have tooLong : keyword.isPrefixOf (front.map fold) = false := by
      rw [Bool.eq_false_iff]
      intro matched
      have isPrefix := (List.isPrefixOf_iff_prefix.mp matched).length_le
      rw [List.length_map] at isPrefix
      exact fits isPrefix
    rw [tooLong, not_across isKeyword nonempty parted (Nat.lt_of_not_le fits)]
    simp

/-- The first keyword in two texts that do not run into each other. -/
theorem keywordCut_append (isKeyword : Keyword isWord fold keyword)
    (parted : Parted isWord inWord front text) :
    keywordCut isWord fold keyword inWord (front ++ text) =
      match keywordCut isWord fold keyword inWord front with
      | some cut => some (cut.1, cut.2 ++ text)
      | none => (keywordCut isWord fold keyword (lastInWord isWord inWord front) text).map
          fun cut => (front ++ cut.1, cut.2) := by
  induction front generalizing inWord with
  | nil =>
      rw [List.nil_append, lastInWord]
      change _ = (keywordCut isWord fold keyword inWord text).map fun cut => (cut.1, cut.2)
      rw [Option.map_id']
  | cons char rest inductionHypothesis =>
      have partedThen : Parted isWord (isWord char) rest text := parted
      have same := atKeyword_append isKeyword (List.cons_ne_nil char rest) parted
      rw [List.cons_append] at same
      rw [List.cons_append, keywordCut, same, keywordCut]
      by_cases isAt : atKeyword isWord fold keyword inWord (char :: rest) = true
      · have fits : keyword.length ≤ (char :: rest).length := by
          unfold atKeyword at isAt
          simp only [Bool.and_eq_true] at isAt
          have isPrefix := (List.isPrefixOf_iff_prefix.mp isAt.1.2).length_le
          rwa [List.length_map] at isPrefix
        rw [if_pos isAt, if_pos isAt, ← List.cons_append, List.drop_append_of_le_length fits]
      · rw [if_neg isAt, if_neg isAt, inductionHypothesis partedThen, lastInWord]
        cases keywordCut isWord fold keyword (isWord char) rest with
        | some cut => rfl
        | none =>
            dsimp only [Option.map_none]
            rw [Option.map_map]
            rfl

/-- A keyword at the front is found there. -/
theorem keywordCut_keyword (isKeyword : Keyword isWord fold keyword)
    (spells : front.map fold = keyword) (apart : nextInWord isWord text = false) :
    keywordCut isWord fold keyword false (front ++ text) = some ([], text) := by
  have sameLength : keyword.length = front.length := by
    rw [← spells, List.length_map]
  have nonempty : front ≠ [] := by
    intro isNil
    rw [isNil] at spells
    exact isKeyword.nonempty spells.symm
  have isAt : atKeyword isWord fold keyword false (front ++ text) = true := by
    unfold atKeyword
    rw [sameLength, List.drop_left, apart, List.map_append, spells]
    simp
  obtain ⟨first, others, rfl⟩ := List.exists_cons_of_ne_nil nonempty
  rw [List.cons_append] at isAt ⊢
  rw [keywordCut, if_pos isAt, sameLength, ← List.cons_append, List.drop_left]

/-- A cut takes a text apart at a spelling of the keyword. -/
theorem eq_of_keywordCut
    (found : keywordCut isWord fold keyword inWord text = some (before, behind)) :
    ∃ spelled, spelled.map fold = keyword ∧ text = before ++ (spelled ++ behind) := by
  induction text generalizing inWord before with
  | nil => cases found
  | cons char rest inductionHypothesis =>
      rw [keywordCut] at found
      split at found
      · next isAt =>
          cases found
          unfold atKeyword at isAt
          simp only [Bool.and_eq_true] at isAt
          have isPrefix := List.isPrefixOf_iff_prefix.mp isAt.1.2
          refine ⟨(char :: rest).take keyword.length, ?_, ?_⟩
          · rw [List.map_take]
            exact (List.prefix_iff_eq_take.mp isPrefix).symm
          · rw [List.nil_append, List.take_append_drop]
      · obtain ⟨cut, isCut, same⟩ := Option.map_eq_some_iff.mp found
        cases same
        obtain ⟨spelled, spells, isRest⟩ := inductionHypothesis isCut
        exact ⟨spelled, spells, by rw [isRest]; rfl⟩

/-- Nothing is found in a text without characters of the keyword. -/
theorem keywordCut_of_not_mem (isKeyword : Keyword isWord fold keyword)
    (absent : ∀ char ∈ text, fold char ∉ keyword) :
    keywordCut isWord fold keyword inWord text = none := by
  cases found : keywordCut isWord fold keyword inWord text with
  | none => rfl
  | some cut =>
      obtain ⟨spelled, spells, isText⟩ := eq_of_keywordCut found
      have nonempty : spelled ≠ [] := by
        intro isNil
        rw [isNil] at spells
        exact isKeyword.nonempty spells.symm
      obtain ⟨first, others, rfl⟩ := List.exists_cons_of_ne_nil nonempty
      exfalso
      apply absent first
      · rw [isText]
        simp
      · rw [← spells]
        exact List.mem_cons_self

end Laws

end DbBuddy.Library
