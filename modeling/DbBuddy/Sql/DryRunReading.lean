import DbBuddy.Sql.DryRunEstimates
import Mathlib.Algebra.GroupWithZero.Nat

/-!
# When a dry run reads a statement right

The cuts of an update are where they should be if neither the SET list nor the condition
has a keyword that is looked for in it, and the SET list has commas only between its
assignments.  What is cut elsewhere is right by accident only.
-/

namespace DbBuddy.Sql

open DbBuddy.Library DbBuddy.Dialects
open DbBuddy.Insights (Tables fold fold_of_ascii)

/-! ## The names of a SET clause -/

section Names

variable {front rest text lead trail : List Char} {items : List Assignment}

/-- `col.strip().split('=')[0].strip()` -/
def nameIn (part : List Char) : List Char :=
  strip ((strip part).takeWhile (· ≠ '='))

theorem not_mem_nameIn (part : List Char) : '=' ∉ nameIn part := by
  intro isIn
  have isTaken := strip_subset _ isIn
  have passes := List.mem_takeWhile_imp isTaken
  simp at passes

theorem nameIn_lead (isSpaced : ∀ char ∈ lead, isSpace char = true) :
    nameIn (lead ++ text) = nameIn text := by
  rw [nameIn, strip_append_left isSpaced]
  rfl

theorem nameIn_trail (isSpaced : ∀ char ∈ trail, isSpace char = true) :
    nameIn (text ++ trail) = nameIn text := by
  rw [nameIn, strip_append_right isSpaced]
  rfl

/-- The name is what is in front of the first equal sign. -/
theorem nameIn_equal (noSign : '=' ∉ front) : nameIn (front ++ '=' :: rest) = strip front := by
  obtain ⟨lead, trail, isText, isLead, isTrail⟩ := strip_parts (front ++ '=' :: rest)
  have inStripped : '=' ∈ strip (front ++ '=' :: rest) := by
    have inText : '=' ∈ front ++ '=' :: rest := by simp
    rw [isText, List.mem_append, List.mem_append] at inText
    rcases inText with isSpaced | isIn | isSpaced
    · exact absurd (isLead _ isSpaced) (by decide)
    · exact isIn
    · exact absurd (isTrail _ isSpaced) (by decide)
  obtain ⟨before, behind, isSplit, noEarlier⟩ :=
    List.eq_append_cons_of_mem inStripped
  have takenStripped : (strip (front ++ '=' :: rest)).takeWhile (· ≠ '=') = before := by
    rw [isSplit, List.takeWhile_append_of_pos fun char isIn => by
      have other : char ≠ '=' := fun same => noEarlier (same ▸ isIn)
      simpa using other]
    simp
  have noSignLead : '=' ∉ lead := fun isIn => absurd (isLead _ isIn) (by decide)
  have sameFront : front = lead ++ before := by
    have taken : (front ++ '=' :: rest).takeWhile (· ≠ '=') = front := by
      rw [List.takeWhile_append_of_pos fun char isIn => by
        have other : char ≠ '=' := fun same => noSign (same ▸ isIn)
        simpa using other]
      simp
    have takenParts : (lead ++ (before ++ '=' :: (behind ++ trail))).takeWhile (· ≠ '=') =
        lead ++ before := by
      rw [← List.append_assoc, List.takeWhile_append_of_pos fun char isIn => by
        have other : char ≠ '=' := by
          rintro rfl
          rcases List.mem_append.mp isIn with isIn | isIn
          · exact noSignLead isIn
          · exact noEarlier isIn
        simpa using other]
      simp
    rw [isSplit, List.append_assoc, List.cons_append] at isText
    rw [← taken, isText, takenParts]
  rw [nameIn, takenStripped, sameFront, strip_append_left isLead]

theorem splitOn_lead (noComma : ',' ∉ lead) (text : List Char) : ∃ part parts,
    text.splitOn ',' = part :: parts ∧
      (lead ++ text).splitOn ',' = (lead ++ part) :: parts := by
  induction lead with
  | nil =>
      obtain ⟨part, parts, isSplit⟩ :=
        List.exists_cons_of_ne_nil (List.splitOn_ne_nil ',' text)
      exact ⟨part, parts, isSplit, isSplit⟩
  | cons char others inductionHypothesis =>
      obtain ⟨part, parts, isSplit, isLater⟩ := inductionHypothesis fun isIn =>
        noComma (List.mem_cons_of_mem _ isIn)
      have other : ¬ (char == ',') = true := by
        intro same
        exact noComma (beq_iff_eq.mp same ▸ List.mem_cons_self)
      refine ⟨part, parts, isSplit, ?_⟩
      rw [List.cons_append, List.splitOn_cons_eq_if_modifyHead, if_neg other, isLater]
      rfl

theorem splitOn_trail (noComma : ',' ∉ trail) (text : List Char) : ∃ parts part,
    text.splitOn ',' = parts ++ [part] ∧
      (text ++ trail).splitOn ',' = parts ++ [part ++ trail] := by
  induction text with
  | nil =>
      refine ⟨[], [], List.splitOn_nil ',', ?_⟩
      rw [List.nil_append, List.splitOn_eq_singleton noComma]
      rfl
  | cons char others inductionHypothesis =>
      obtain ⟨parts, part, isSplit, isLonger⟩ := inductionHypothesis
      rw [List.cons_append, List.splitOn_cons_eq_if_modifyHead,
        List.splitOn_cons_eq_if_modifyHead, isSplit, isLonger]
      by_cases same : (char == ',') = true
      · rw [if_pos same, if_pos same]
        exact ⟨[] :: parts, part, rfl, rfl⟩
      · rw [if_neg same, if_neg same]
        cases parts with
        | nil => exact ⟨[], char :: part, rfl, rfl⟩
        | cons first more => exact ⟨(char :: first) :: more, part, rfl, rfl⟩

theorem assignedIn_eq (text : List Char) :
    assignedIn text = (text.splitOn ',').map nameIn := rfl

/-- The white space around a SET clause does not matter. -/
theorem assignedIn_strip (text : List Char) : assignedIn (strip text) = assignedIn text := by
  obtain ⟨lead, trail, isText, isLead, isTrail⟩ := strip_parts text
  have leadComma : ',' ∉ lead := fun isIn => absurd (isLead _ isIn) (by decide)
  have trailComma : ',' ∉ trail := fun isIn => absurd (isTrail _ isIn) (by decide)
  obtain ⟨part, parts, isLater, isLonger⟩ := splitOn_lead leadComma (strip text ++ trail)
  obtain ⟨earlier, last, isSplit, isEnded⟩ := splitOn_trail trailComma (strip text)
  have whole : assignedIn text = assignedIn (strip text ++ trail) := by
    rw [assignedIn_eq, assignedIn_eq, isLater, isText.trans rfl, isLonger, List.map_cons,
      List.map_cons, nameIn_lead isLead]
  rw [whole, assignedIn_eq, assignedIn_eq, isSplit, isEnded, List.map_append,
    List.map_append, List.map_singleton, List.map_singleton, nameIn_trail isTrail]

theorem length_splitOn (text : List Char) :
    (text.splitOn ',').length = text.count ',' + 1 := by
  induction text with
  | nil => rfl
  | cons char others inductionHypothesis =>
      rw [List.splitOn_cons_eq_if_modifyHead, List.count_cons]
      by_cases same : (char == ',') = true
      · rw [if_pos same, if_pos same, List.length_cons, inductionHypothesis]
      · rw [if_neg same, if_neg same, List.length_modifyHead, inductionHypothesis,
          Nat.add_zero]

theorem count_intercalate (first : List Char) (others : List (List Char)) :
    ([','].intercalate (first :: others)).count ',' =
      ((first :: others).map (List.count ',')).sum + others.length := by
  induction others generalizing first with
  | nil => simp
  | cons second rest inductionHypothesis =>
      rw [List.intercalate_cons_cons, List.count_append, List.count_append,
        inductionHypothesis second]
      simp only [List.map_cons, List.sum_cons, List.length_cons, List.count_cons_self,
        List.count_nil]
      omega

/-- The parts of a SET clause are as many as its assignments just if no assignment has a
comma in it. -/
theorem commas_of_length {first : List Char} {others : List (List Char)}
    (sameLength : (assignedIn ([','].intercalate (first :: others))).length =
      (first :: others).length) : ∀ text ∈ first :: others, ',' ∉ text := by
  rw [assignedIn_eq, List.length_map, length_splitOn, count_intercalate] at sameLength
  have noCommas : ((first :: others).map (List.count ',')).sum = 0 := by
    rw [List.length_cons] at sameLength
    omega
  intro text isIn
  have isZero := (List.sum_eq_zero_iff_forall_eq_nat.mp noCommas) _ (List.mem_map_of_mem isIn)
  exact List.count_eq_zero.mp isZero

theorem assignedIn_intercalate {texts : List (List Char)} (nonempty : texts ≠ [])
    (noComma : ∀ text ∈ texts, ',' ∉ text) :
    assignedIn ([','].intercalate texts) = texts.map nameIn := by
  rw [assignedIn_eq, List.splitOn_intercalate ',' noComma nonempty]

/-- An assignment that is read right: neither its column nor its value has a comma in it,
and the column no equal sign. -/
structure ReadAssignment (item : Assignment) : Prop where
  column : ',' ∉ item.column.chars
  sign : '=' ∉ item.column.chars
  value : ',' ∉ item.value.chars

theorem comma_mem_text (item : Assignment) :
    ',' ∈ item.text ↔ ',' ∈ item.column.chars ∨ ',' ∈ item.value.chars := by
  have noBlank : ∀ blank : Blank, ',' ∉ blank.chars := fun blank =>
    blank.not_mem (by decide)
  unfold Assignment.text
  simp [noBlank]

theorem nameIn_text {item : Assignment} {more : List Char} (noSign : '=' ∉ item.column.chars)
    (noMore : '=' ∉ more) : nameIn (more ++ item.text) =
      strip (more ++ (item.before.chars ++ item.column.chars)) := by
  have noBlank : ∀ blank : Blank, '=' ∉ blank.chars := fun blank =>
    blank.not_mem (by decide)
  have regrouped : more ++ item.text = (more ++ (item.before.chars ++ item.column.chars) ++
      item.beforeSign.chars) ++ '=' ::
        (item.afterSign.chars ++ (item.value.chars ++ item.after.chars)) := by
    simp only [Assignment.text, List.append_assoc]
  rw [regrouped, nameIn_equal (by simp [noMore, noBlank, noSign]),
    strip_append_right item.beforeSign.isSpace]

theorem nameIn_assignment {item : Assignment} (noSign : '=' ∉ item.column.chars) :
    nameIn item.text = item.column.chars := by
  have isName := @nameIn_text item [] noSign List.not_mem_nil
  rw [List.nil_append, List.nil_append, strip_append_left item.before.isSpace,
    item.column.trimmed] at isName
  exact isName

/-- The names that are read are the columns just if every assignment is read right. -/
theorem assignedIn_items_iff (first : Assignment) (others : List Assignment) :
    assignedIn ([','].intercalate ((first :: others).map Assignment.text)) =
        (first :: others).map (fun item => item.column.chars) ↔
      ∀ item ∈ first :: others, ReadAssignment item := by
  constructor
  · intro isRead
    have sameLength := congrArg List.length isRead
    rw [List.map_cons, List.length_map] at sameLength
    have noCommas := commas_of_length (sameLength.trans (by simp))
    rw [← List.map_cons] at noCommas
    rw [assignedIn_intercalate (by simp) noCommas, List.map_map] at isRead
    intro item isIn
    have isName : nameIn item.text = item.column.chars :=
      List.map_inj_left.mp isRead item isIn
    have noComma := noCommas _ (List.mem_map_of_mem isIn)
    rw [comma_mem_text, not_or] at noComma
    refine ⟨noComma.1, ?_, noComma.2⟩
    rw [← isName]
    exact not_mem_nameIn _
  · intro read
    have noCommas : ∀ text ∈ (first :: others).map Assignment.text, ',' ∉ text := by
      intro text isIn
      obtain ⟨item, isItem, rfl⟩ := List.mem_map.mp isIn
      rw [comma_mem_text, not_or]
      exact ⟨(read item isItem).column, (read item isItem).value⟩
    rw [assignedIn_intercalate (by simp) noCommas, List.map_map]
    exact List.map_congr_left fun item isItem => nameIn_assignment (read item isItem).sign

/-- With a word more in front of the first column the names are others. -/
theorem assignedIn_items_ne {more : List Char} (nonempty : more ≠ [])
    (stripped : Stripped more) (noSign : '=' ∉ more) (gap : Gap) (first : Assignment)
    (others : List Assignment) :
    assignedIn (more ++ (gap.chars ++
        [','].intercalate ((first :: others).map Assignment.text))) ≠
      (first :: others).map fun item => item.column.chars := by
  intro isRead
  have regrouped : more ++ (gap.chars ++
      [','].intercalate ((first :: others).map Assignment.text)) =
      [','].intercalate ((more ++ (gap.chars ++ first.text)) ::
        others.map Assignment.text) := by
    cases others with
    | nil => simp
    | cons second rest =>
        simp only [List.map_cons, List.intercalate_cons_cons, List.append_assoc]
  rw [regrouped] at isRead
  have sameLength := congrArg List.length isRead
  rw [List.length_map] at sameLength
  have noCommas := commas_of_length (sameLength.trans (by simp))
  rw [assignedIn_intercalate (by simp) noCommas, List.map_cons, List.map_cons] at isRead
  have isName := (List.cons.inj isRead).1
  have noColumnSign : '=' ∉ first.column.chars := by
    rw [← isName]
    exact not_mem_nameIn _
  have noGap : '=' ∉ gap.chars := gap.toBlank.not_mem (by decide)
  rw [← List.append_assoc, nameIn_text noColumnSign (by simp [noSign, noGap])] at isName
  have isStripped : Stripped ((more ++ gap.chars) ++
      (first.before.chars ++ first.column.chars)) := by
    rw [List.append_assoc, ← List.append_assoc gap.chars]
    exact stripped.around first.column.stripped _ nonempty first.column.nonempty
  rw [strip_of_stripped isStripped] at isName
  have lengths := congrArg List.length isName
  have positive := List.length_pos_of_ne_nil nonempty
  simp only [List.length_append] at lengths
  omega

end Names

/-! ## Cuts at keywords -/

section Cuts

variable {tables : Tables} {word : String} {inWord : Bool} {front rest text : List Char}
variable {engine : DatabaseEngine}

/-- A word that is another one holds no keyword, and one that is the keyword is all of
it. -/
theorem cutWord_word (letters : Letters word) (nonempty : front ≠ [])
    (isWord : ∀ char ∈ front, tables.isWord char = true) :
    cutWord tables word false front =
      if front.map fold = word.toList then some ([], []) else none := by
  have inside : ∀ text : List Char, (∀ char ∈ text, tables.isWord char = true) →
      cutWord tables word true text = none := by
    intro text isWord
    induction text with
    | nil => rfl
    | cons char others inductionHypothesis =>
        have later := inductionHypothesis fun other isIn =>
          isWord other (List.mem_cons_of_mem _ isIn)
        unfold cutWord at later ⊢
        rw [keywordCut, atKeyword, Bool.not_true, Bool.false_and, Bool.false_and,
          if_neg Bool.false_ne_true, isWord char List.mem_cons_self, later]
        rfl
  by_cases same : front.map fold = word.toList
  · have isKeyword : Keyword tables.isWord fold word.toList := letters.keyword
    have found : keywordCut tables.isWord fold word.toList false (front ++ []) =
        some ([], []) := keywordCut_keyword isKeyword same rfl
    rw [List.append_nil] at found
    rw [if_pos same]
    exact found
  · obtain ⟨first, others, rfl⟩ := List.exists_cons_of_ne_nil nonempty
    have notAt : ¬ atKeyword tables.isWord fold word.toList false (first :: others) =
        true := by
      intro isAt
      unfold atKeyword at isAt
      simp only [Bool.and_eq_true, Bool.not_eq_true'] at isAt
      have isPrefix := List.isPrefixOf_iff_prefix.mp isAt.1.2
      cases isRest : (first :: others).drop word.toList.length with
      | nil =>
          have atMost := List.drop_eq_nil_iff.mp isRest
          have atLeast := isPrefix.length_le
          rw [List.length_map] at atLeast
          have sameLength : word.toList.length = ((first :: others).map fold).length := by
            rw [List.length_map]
            omega
          exact same (isPrefix.eq_of_length sameLength).symm
      | cons char more =>
          have isIn : char ∈ first :: others := by
            apply @List.mem_of_mem_drop _ _ word.toList.length
            rw [isRest]
            exact List.mem_cons_self
          rw [isRest, nextInWord, isWord char isIn] at isAt
          cases isAt.2
    have later := inside others fun char isIn => isWord char (List.mem_cons_of_mem _ isIn)
    unfold cutWord at later ⊢
    rw [if_neg same, keywordCut, if_neg notAt, isWord first List.mem_cons_self, later]
    rfl

theorem cutWord_append (letters : Letters word)
    (parted : Parted tables.isWord inWord front text) :
    cutWord tables word inWord (front ++ text) =
      match cutWord tables word inWord front with
      | some cut => some (cut.1, cut.2 ++ text)
      | none => (cutWord tables word (lastInWord tables.isWord inWord front) text).map
          fun cut => (front ++ cut.1, cut.2) :=
  keywordCut_append letters.keyword parted

theorem cutWord_pass (letters : Letters word)
    (parted : Parted tables.isWord inWord front text)
    (absent : cutWord tables word inWord front = none) :
    cutWord tables word inWord (front ++ text) =
      (cutWord tables word (lastInWord tables.isWord inWord front) text).map
        fun cut => (front ++ cut.1, cut.2) := by
  rw [cutWord_append letters parted, absent]

/-- White space is passed. -/
theorem cutWord_blank (letters : Letters word) (blank : Blank)
    (outside : lastInWord tables.isWord inWord blank.chars = false) :
    cutWord tables word inWord (blank.chars ++ text) =
      (cutWord tables word false text).map fun cut => (blank.chars ++ cut.1, cut.2) := by
  have absent : cutWord tables word inWord blank.chars = none :=
    keywordCut_of_not_mem letters.keyword fun char isIn =>
      letters.not_blank (blank.blank char isIn)
  rw [cutWord_pass letters (Or.inl outside) absent, outside]

/-- The keyword behind white space. -/
theorem cutWord_spelled (letters : Letters word) (gap : Gap) (spelled : Spelled word)
    (apart : nextInWord tables.isWord rest = false) :
    cutWord tables word inWord (gap.chars ++ (spelled.chars ++ rest)) =
      some (gap.chars, rest) := by
  have found : cutWord tables word false (spelled.chars ++ rest) = some ([], rest) :=
    keywordCut_keyword letters.keyword (spelled.fold letters) apart
  rw [cutWord_blank letters gap.toBlank (gap.lastInWord inWord), found, Option.map_some,
    List.append_nil]

/-- Neither half of a text has a keyword in it that is not in the text. -/
theorem cutWord_halves (letters : Letters word)
    (parted : Parted tables.isWord inWord front text)
    (absent : cutWord tables word inWord (front ++ text) = none) :
    cutWord tables word (lastInWord tables.isWord inWord front) text = none := by
  rw [cutWord_append letters parted] at absent
  cases isCut : cutWord tables word inWord front with
  | some cut =>
      rw [isCut] at absent
      cases absent
  | none =>
      rw [isCut] at absent
      exact Option.map_eq_none_iff.mp absent

theorem cutWord_ending (letters : Letters word) (tail : Tail engine) :
    cutWord tables word inWord tail.ending = none := by
  apply keywordCut_of_not_mem letters.keyword
  intro char isIn
  rw [Tail.ending, List.mem_append, List.mem_append] at isIn
  rcases isIn with isBlanks | isSemicolon | isBlanks
  · exact letters.not_blank (tail.before.blank char isBlanks)
  · split at isSemicolon
    · rw [List.mem_singleton.mp isSemicolon]
      intro isLetter
      exact absurd (letters.2 _ isLetter) (by decide)
    · cases isSemicolon
  · exact letters.not_blank (tail.after.blank char isBlanks)

end Cuts

/-! ## The cuts of an update -/

section Reading

variable {tables : Tables} {engine : DatabaseEngine} {statement : UpdateStatement engine}
variable {clause : WhereClause engine}

/-- A limit has no WHERE in it. -/
theorem cutWord_limit {inWord : Bool} (limit : LimitClause) (tail : Tail engine) :
    cutWord tables "where" inWord (limit.text ++ tail.ending) = none := by
  have letters : Letters "where" := by decide
  have limitLetters : Letters "limit" := by decide
  have keywordWord : ∀ char ∈ limit.keyword.chars, tables.isWord char = true :=
    limit.keyword.isWord limitLetters
  have notWhere : cutWord tables "where" false limit.keyword.chars = none := by
    rw [cutWord_word letters (limit.keyword.nonempty limitLetters) keywordWord,
      limit.keyword.fold limitLetters, if_neg (by simp)]
  have endsKeyword : lastInWord tables.isWord false limit.keyword.chars = true :=
    lastInWord_of_all (limit.keyword.nonempty limitLetters) keywordWord
  have noDigit : ∀ char ∈ Nat.toDigits 10 limit.count, fold char ∉ "where".toList := by
    intro char isIn isLetter
    have isDigit := Nat.isDigit_of_mem_toDigits (by decide) (by decide) isIn
    have low := (letters.2 _ isLetter).1
    rw [Char.isDigit, Bool.and_eq_true, decide_eq_true_eq, decide_eq_true_eq] at isDigit
    have high : char.toNat ≤ 57 := isDigit.2
    rw [fold_of_ascii (by omega)] at low
    rcases toLower_cases char with same | ⟨upper, _⟩
    · rw [same] at low
      omega
    · omega
  have noDigits : cutWord tables "where" false (Nat.toDigits 10 limit.count) = none :=
    keywordCut_of_not_mem letters.keyword noDigit
  simp only [LimitClause.text, List.append_assoc]
  rw [cutWord_blank letters limit.gap.toBlank (limit.gap.lastInWord inWord),
    cutWord_pass letters (Or.inr limit.countGap.nextInWord) notWhere, endsKeyword,
    cutWord_blank letters limit.countGap.toBlank (limit.countGap.lastInWord true),
    cutWord_pass letters (Or.inr (nextInWord_ending tail)) noDigits,
    cutWord_ending letters tail]
  rfl

/-- What stands behind the condition. -/
def Tail.rest (tail : Tail engine) : List Char :=
  (tail.limit.map LimitClause.text).getD [] ++ tail.ending

theorem nextInWord_rest (tail : Tail engine) : nextInWord tables.isWord tail.rest = false := by
  unfold Tail.rest
  cases tail.limit with
  | none => exact nextInWord_ending tail
  | some limit =>
      simp only [Option.map_some, Option.getD_some, LimitClause.text, List.append_assoc]
      exact limit.gap.nextInWord

theorem Tail.text_eq (tail : Tail engine) :
    tail.text = (tail.clause.map WhereClause.text).getD [] ++ tail.rest := by
  simp only [Tail.text, Tail.clauses, Tail.rest, List.append_assoc]

/-- The first WHERE behind a text without one is the keyword of the tail. -/
theorem cutWord_tail {tail : Tail engine} {front : List Char} {inWord : Bool}
    (absent : cutWord tables "where" inWord front = none) :
    cutWord tables "where" inWord (front ++ tail.text) =
      tail.clause.map fun clause => (front ++ clause.gap.chars,
        clause.conditionGap.chars ++ (clause.condition.chars ++ tail.rest)) := by
  have letters : Letters "where" := by decide
  rw [cutWord_pass letters (Or.inr (nextInWord_text tail)) absent, Tail.text_eq]
  cases tail.clause with
  | none =>
      have noWhere : ∀ inWord, cutWord tables "where" inWord tail.rest = none := by
        intro inWord
        unfold Tail.rest
        cases tail.limit with
        | none => exact cutWord_ending letters tail
        | some limit => exact cutWord_limit limit tail
      rw [Option.map_none, Option.getD_none, List.nil_append, noWhere]
      rfl
  | some clause =>
      rw [Option.map_some, Option.getD_some, WhereClause.text, List.append_assoc,
        List.append_assoc, List.append_assoc, cutWord_spelled letters clause.gap
          clause.keyword clause.conditionGap.nextInWord]
      rfl

/-- What is left of a condition, up to the first LIMIT behind it. -/
theorem strip_rest {condition : List Char} (ended : Ended condition) (tail : Tail engine) :
    (match cutWord tables "limit" (lastInWord tables.isWord false condition) tail.rest with
      | some cut => strip (condition ++ cut.1)
      | none => strip (condition ++ tail.rest)) =
      if tail.limit = none then condition ++ tail.shown else condition := by
  have letters : Letters "limit" := by decide
  unfold Tail.rest
  cases tail.limit with
  | none =>
      rw [Option.map_none, Option.getD_none, List.nil_append, cutWord_ending letters tail,
        if_pos rfl]
      exact strip_ending ended.stripped ended.nonempty
  | some limit =>
      rw [Option.map_some, Option.getD_some, LimitClause.text, List.append_assoc,
        List.append_assoc, List.append_assoc, cutWord_spelled letters limit.gap limit.keyword
          limit.countGap.nextInWord, if_neg (Option.some_ne_none limit)]
      exact (strip_append_right limit.gap.toBlank.isSpace).trans
        (strip_of_stripped ended.stripped)

/-- What is cut out for the condition, if the first WHERE is the keyword. -/
theorem whereClause_read (absent : cutWord tables "where" false statement.head = none) :
    whereClause tables statement.text =
      match statement.tail.clause with
      | none => []
      | some clause =>
          match cutWord tables "limit" false clause.condition.chars with
          | some cut => strip cut.1
          | none =>
              if statement.tail.limit = none then
                clause.condition.chars ++ statement.tail.shown
              else clause.condition.chars := by
  have letters : Letters "limit" := by decide
  unfold whereClause clauseBetween
  rw [UpdateStatement.text, cutWord_tail absent]
  cases statement.tail.clause with
  | none => rfl
  | some clause =>
      have behind : cutWord tables "limit" true (clause.conditionGap.chars ++
          (clause.condition.chars ++ statement.tail.rest)) =
          (cutWord tables "limit" false (clause.condition.chars ++ statement.tail.rest)).map
            fun cut => (clause.conditionGap.chars ++ cut.1, cut.2) :=
        cutWord_blank letters clause.conditionGap.toBlank (clause.conditionGap.lastInWord true)
      have isLeft := @strip_rest tables engine _ clause.condition.ended statement.tail
      dsimp only [Option.map_some]
      rw [List.filterMap_cons, List.filterMap_nil, behind,
        cutWord_append letters (Or.inr (nextInWord_rest statement.tail))]
      cases cutWord tables "limit" false clause.condition.chars with
      | some cut =>
          dsimp only [Option.map_some, earliest, Option.getD_some]
          rw [strip_append_left clause.conditionGap.toBlank.isSpace]
      | none =>
          dsimp only
          rw [← isLeft]
          cases cutWord tables "limit" (lastInWord tables.isWord false
              clause.condition.chars) statement.tail.rest with
          | none =>
              dsimp only [Option.map_none, earliest]
              rw [if_neg Bool.false_ne_true, Option.getD_some,
                strip_append_left clause.conditionGap.toBlank.isSpace]
          | some cut =>
              dsimp only [Option.map_some, earliest, Option.getD_some]
              rw [strip_append_left clause.conditionGap.toBlank.isSpace]

/-- A condition that no count is run with: up to a LIMIT in it, there is a semicolon in it,
or a literal or a comment that is not closed. -/
def Unrunnable (tables : Tables) (condition : Condition engine) : Prop :=
  match cutWord tables "limit" false condition.chars with
  | some cut => Rejected engine (strip cut.1)
  | none => ';' ∈ condition.chars

/-- What is rejected, if the first WHERE is the keyword. -/
theorem rejected_read_iff (absent : cutWord tables "where" false statement.head = none) :
    Rejected engine (whereClause tables statement.text) ↔
      ∃ clause ∈ statement.tail.clause, Unrunnable tables clause.condition := by
  rw [whereClause_read absent]
  cases statement.tail.clause with
  | none => simp [Rejected]
  | some clause =>
      simp only [Option.mem_def, Option.some.injEq, exists_eq_left', Unrunnable]
      cases cutWord tables "limit" false clause.condition.chars with
      | some cut => exact Iff.rfl
      | none =>
          have ended := clause.condition.ended
          have stripped : bare clause.condition.chars = clause.condition.chars := by
            rw [bare, stripEnd_of_last ended.unterminated, strip_of_stripped ended.stripped]
          dsimp only
          unfold Rejected
          split
          · rw [bare_shown ended, clause.condition.closed, semicolon_shown ended]
            simp
          · rw [stripped, clause.condition.closed, mem_dropLast_of_last ended.unterminated]
            simp

theorem length_bare_le (text : List Char) : (bare text).length ≤ text.length := by
  have stripped := length_strip_le (stripEnd ';' text)
  obtain ⟨tail, isText, _⟩ := stripEnd_parts ';' text
  have lengths := congrArg List.length isText
  rw [List.length_append] at lengths
  unfold bare
  omega

/-- The condition is cut out right just if it has no LIMIT in it. -/
theorem conditionOf_read_iff (absent : cutWord tables "where" false statement.head = none)
    (noLimit : statement.tail.limit = none) :
    conditionOf (whereClause tables statement.text) = statement.tail.condition ↔
      ∀ clause ∈ statement.tail.clause,
        cutWord tables "limit" false clause.condition.chars = none := by
  rw [whereClause_read absent]
  unfold Tail.condition
  cases statement.tail.clause with
  | none => simp [conditionOf]
  | some clause =>
      simp only [Option.map_some, Option.mem_def, Option.some.injEq, forall_eq']
      cases found : cutWord tables "limit" false clause.condition.chars with
      | none =>
          have notEmpty : clause.condition.chars ++ statement.tail.shown ≠ [] := by
            simp [clause.condition.nonempty]
          dsimp only
          rw [if_pos noLimit, conditionOf, if_neg notEmpty, bare_shown clause.condition.ended]
          simp
      | some cut =>
          obtain ⟨spelled, spells, isCondition⟩ := eq_of_keywordCut found
          have longer : spelled ≠ [] := by
            intro isNil
            rw [isNil] at spells
            exact absurd spells.symm (by decide)
          have positive := List.length_pos_of_ne_nil longer
          have lengths := congrArg List.length isCondition
          simp only [List.length_append] at lengths
          dsimp only
          constructor
          · intro same
            exfalso
            unfold conditionOf at same
            split at same
            · cases same
            · have isBare := congrArg List.length (Option.some.inj same)
              have atMost := length_bare_le (strip cut.1)
              have atMostThen := length_strip_le cut.1
              omega
          · intro isNone
            cases isNone

/-- The names that are read, if the first SET is found where it should be and the first
WHERE is the keyword. -/
theorem affectedColumns_read {before front list : List Char}
    (absent : cutWord tables "where" false statement.head = none)
    (isHead : statement.head = front ++ list)
    (endsWord : lastInWord tables.isWord false front = true)
    (apart : nextInWord tables.isWord list = false) (notBlank : strip list ≠ [])
    (found : cutWord tables "set" false statement.text =
      some (before, list ++ statement.tail.text)) :
    affectedColumns tables statement.text =
      if statement.tail.clause = none then [] else assignedIn list := by
  have letters : Letters "where" := by decide
  have absentThen : cutWord tables "where" true list = none := by
    rw [← endsWord]
    apply cutWord_halves letters (Or.inr apart)
    rw [← isHead]
    exact absent
  unfold affectedColumns clauseBetween
  rw [found]
  dsimp only
  rw [List.filterMap_cons, List.filterMap_nil, cutWord_tail absentThen]
  cases statement.tail.clause with
  | none =>
      rw [if_pos rfl]
      rfl
  | some clause =>
      have isSome : some clause ≠ none := Option.some_ne_none clause
      rw [if_neg isSome]
      dsimp only [Option.map_some, earliest]
      rw [strip_append_right clause.gap.toBlank.isSpace]
      obtain ⟨first, rest, isStrip⟩ := List.exists_cons_of_ne_nil notBlank
      rw [isStrip]
      dsimp only
      rw [← isStrip, assignedIn_strip]

theorem strip_setList_ne (statement : UpdateStatement engine) (front : List Char) :
    strip (front ++ statement.setList) ≠ [] := by
  intro isNil
  obtain ⟨lead, trail, isText, isLead, isTrail⟩ := strip_parts (front ++ statement.setList)
  have isSign : '=' ∈ statement.setList := by
    have inFirst : '=' ∈ statement.first.text := by
      simp [Assignment.text]
    unfold UpdateStatement.setList UpdateStatement.items
    cases statement.others with
    | nil =>
        rw [List.map_cons, List.map_nil, List.intercalate_singleton]
        exact inFirst
    | cons second rest =>
        rw [List.map_cons, List.map_cons, List.intercalate_cons_cons]
        exact List.mem_append_left _ (List.mem_append_left _ inFirst)
  rw [isNil, List.nil_append] at isText
  have isIn : '=' ∈ lead ++ trail := by
    rw [← isText]
    exact List.mem_append_right _ isSign
  rcases List.mem_append.mp isIn with isSpaced | isSpaced
  · exact absurd (isLead _ isSpaced) (by decide)
  · exact absurd (isTrail _ isSpaced) (by decide)

/-- The cut at the first SET, for a table that is a word. -/
theorem cutWord_front {rest : List Char}
    (isWord : ∀ char ∈ statement.table.chars, tables.isWord char = true) :
    cutWord tables "set" false (statement.lead.chars ++ (statement.keyword.chars ++
        (statement.tableGap.chars ++ (statement.table.chars ++
          (statement.setGap.chars ++ rest))))) =
      (if statement.table.chars.map fold = "set".toList then
          some ([], statement.setGap.chars ++ rest)
        else (cutWord tables "set" true (statement.setGap.chars ++ rest)).map fun cut =>
          (statement.table.chars ++ cut.1, cut.2)).map fun cut =>
            (statement.lead.chars ++ (statement.keyword.chars ++
              (statement.tableGap.chars ++ cut.1)), cut.2) := by
  have letters : Letters "set" := by decide
  have updateLetters : Letters "update" := by decide
  have keywordWord : ∀ char ∈ statement.keyword.chars, tables.isWord char = true :=
    statement.keyword.isWord updateLetters
  have notSet : cutWord tables "set" false statement.keyword.chars = none := by
    rw [cutWord_word letters (statement.keyword.nonempty updateLetters) keywordWord,
      statement.keyword.fold updateLetters, if_neg (by simp)]
  have endsKeyword : lastInWord tables.isWord false statement.keyword.chars = true :=
    lastInWord_of_all (statement.keyword.nonempty updateLetters) keywordWord
  have endsTable : lastInWord tables.isWord false statement.table.chars = true :=
    lastInWord_of_all statement.table.nonempty isWord
  rw [cutWord_blank letters statement.lead (statement.lead.lastInWord rfl),
    cutWord_pass letters (Or.inr statement.tableGap.nextInWord) notSet, endsKeyword,
    cutWord_blank letters statement.tableGap.toBlank (statement.tableGap.lastInWord true),
    cutWord_append letters (Or.inr statement.setGap.nextInWord),
    cutWord_word letters statement.table.nonempty isWord, endsTable]
  by_cases isSet : statement.table.chars.map fold = "set".toList
  · rw [if_pos isSet, if_pos isSet]
    rfl
  · rw [if_neg isSet, if_neg isSet]
    cases cutWord tables "set" true (statement.setGap.chars ++ rest) with
    | none => rfl
    | some cut => rfl

theorem columns_ne_nil (statement : UpdateStatement engine) :
    ([] : List (List Char)) ≠ statement.columns := by
  simp [UpdateStatement.columns, UpdateStatement.items]

/-- The text up to the table, and from there on as it is cut. -/
theorem cutWord_statement (isWord : ∀ char ∈ statement.table.chars, tables.isWord char = true) :
    cutWord tables "set" false statement.text =
      (if statement.table.chars.map fold = "set".toList then
          some ([], statement.setGap.chars ++ (statement.setKeyword.chars ++
            ((statement.itemsGap.chars ++ statement.setList) ++ statement.tail.text)))
        else (cutWord tables "set" true (statement.setGap.chars ++
            (statement.setKeyword.chars ++ ((statement.itemsGap.chars ++ statement.setList) ++
              statement.tail.text)))).map fun cut =>
          (statement.table.chars ++ cut.1, cut.2)).map fun cut =>
            (statement.lead.chars ++ (statement.keyword.chars ++
              (statement.tableGap.chars ++ cut.1)), cut.2) := by
  have isText : statement.text = statement.lead.chars ++ (statement.keyword.chars ++
      (statement.tableGap.chars ++ (statement.table.chars ++ (statement.setGap.chars ++
        (statement.setKeyword.chars ++ ((statement.itemsGap.chars ++ statement.setList) ++
          statement.tail.text)))))) := by
    simp only [UpdateStatement.text, UpdateStatement.head, UpdateStatement.front,
      List.append_assoc]
  rw [isText]
  exact cutWord_front isWord

/-- A table that is called SET is taken for the keyword, and the keyword for a part of the
first column. -/
theorem affectedColumns_ne
    (absent : cutWord tables "where" false statement.head = none)
    (isWord : ∀ char ∈ statement.table.chars, tables.isWord char = true)
    (isSet : statement.table.chars.map fold = "set".toList) :
    affectedColumns tables statement.text ≠ statement.columns := by
  have letters : Letters "set" := by decide
  have setWord : ∀ char ∈ statement.setKeyword.chars, tables.isWord char = true :=
    statement.setKeyword.isWord letters
  have found := cutWord_statement isWord
  rw [if_pos isSet, Option.map_some] at found
  have regrouped : statement.setGap.chars ++ (statement.setKeyword.chars ++
      ((statement.itemsGap.chars ++ statement.setList) ++ statement.tail.text)) =
      (statement.setGap.chars ++ (statement.setKeyword.chars ++
        (statement.itemsGap.chars ++ statement.setList))) ++ statement.tail.text := by
    simp only [List.append_assoc]
  rw [regrouped] at found
  have isHead : statement.head = (statement.lead.chars ++ (statement.keyword.chars ++
      (statement.tableGap.chars ++ statement.table.chars))) ++ (statement.setGap.chars ++
        (statement.setKeyword.chars ++ (statement.itemsGap.chars ++
          statement.setList))) := by
    simp only [UpdateStatement.head, UpdateStatement.front, List.append_assoc]
  have notBlank : strip (statement.setGap.chars ++ (statement.setKeyword.chars ++
      (statement.itemsGap.chars ++ statement.setList))) ≠ [] := by
    have nonempty := strip_setList_ne statement (statement.setGap.chars ++
      (statement.setKeyword.chars ++ statement.itemsGap.chars))
    simpa only [List.append_assoc] using nonempty
  have endsWord : lastInWord tables.isWord false (statement.lead.chars ++
      (statement.keyword.chars ++ (statement.tableGap.chars ++ statement.table.chars))) =
      true := by
    rw [lastInWord_append, lastInWord_append, lastInWord_append]
    exact lastInWord_of_all statement.table.nonempty isWord
  rw [affectedColumns_read absent isHead endsWord statement.setGap.nextInWord
    notBlank found]
  intro isRead
  split at isRead
  · exact columns_ne_nil statement isRead
  · rw [← assignedIn_strip, strip_append_left statement.setGap.toBlank.isSpace,
      assignedIn_strip] at isRead
    have isStripped : Stripped statement.setKeyword.chars :=
      stripped_of_all (statement.setKeyword.isSpace letters)
    have noSign : '=' ∉ statement.setKeyword.chars := by
      intro isIn
      have isWordThen := setWord _ isIn
      rw [tables.isWord_ascii '=' (by decide)] at isWordThen
      cases isWordThen
    exact assignedIn_items_ne (statement.setKeyword.nonempty letters) isStripped noSign
      statement.itemsGap statement.first statement.others isRead

/-- Else the assignments are what stands between SET and the condition. -/
theorem affectedColumns_eq
    (absent : cutWord tables "where" false statement.head = none)
    (isWord : ∀ char ∈ statement.table.chars, tables.isWord char = true)
    (notSet : statement.table.chars.map fold ≠ "set".toList) :
    affectedColumns tables statement.text =
      if statement.tail.clause = none then [] else assignedIn statement.setList := by
  have letters : Letters "set" := by decide
  have endsSet : ∀ inWord, lastInWord tables.isWord inWord statement.setKeyword.chars =
      true := fun inWord => lastInWord_of_all (statement.setKeyword.nonempty letters)
    (statement.setKeyword.isWord letters)
  have isCut : cutWord tables "set" true (statement.setGap.chars ++
      (statement.setKeyword.chars ++ ((statement.itemsGap.chars ++ statement.setList) ++
        statement.tail.text))) = some (statement.setGap.chars,
          (statement.itemsGap.chars ++ statement.setList) ++ statement.tail.text) := by
    apply cutWord_spelled letters
    rw [List.append_assoc]
    exact statement.itemsGap.nextInWord
  have found := cutWord_statement isWord
  rw [if_neg notSet, isCut, Option.map_some, Option.map_some] at found
  have isHead : statement.head = (statement.front ++ statement.setKeyword.chars) ++
      (statement.itemsGap.chars ++ statement.setList) := by
    simp only [UpdateStatement.head, List.append_assoc]
  have endsWord : lastInWord tables.isWord false
      (statement.front ++ statement.setKeyword.chars) = true := by
    rw [lastInWord_append]
    exact endsSet _
  rw [affectedColumns_read absent isHead endsWord statement.itemsGap.nextInWord
    (strip_setList_ne statement _) found, ← assignedIn_strip,
    strip_append_left statement.itemsGap.toBlank.isSpace, assignedIn_strip]

/-- The columns are read right just if there is a condition, the table is not called SET,
and every assignment is read right. -/
theorem affectedColumns_read_iff
    (absent : cutWord tables "where" false statement.head = none)
    (isWord : ∀ char ∈ statement.table.chars, tables.isWord char = true) :
    affectedColumns tables statement.text = statement.columns ↔
      statement.tail.clause ≠ none ∧ statement.table.chars.map fold ≠ "set".toList ∧
        ∀ item ∈ statement.items, ReadAssignment item := by
  by_cases isSet : statement.table.chars.map fold = "set".toList
  · constructor
    · intro isRead
      exact absurd isRead (affectedColumns_ne absent isWord isSet)
    · rintro ⟨_, notSet, _⟩
      exact absurd isSet notSet
  · rw [affectedColumns_eq absent isWord isSet]
    have isItems := assignedIn_items_iff statement.first statement.others
    by_cases noClause : statement.tail.clause = none
    · rw [if_pos noClause]
      constructor
      · intro isNil
        exact absurd isNil (columns_ne_nil statement)
      · rintro ⟨someClause, _⟩
        exact absurd noClause someClause
    · rw [if_neg noClause]
      constructor
      · intro isRead
        exact ⟨noClause, isSet, isItems.mp isRead⟩
      · rintro ⟨_, _, read⟩
        exact isItems.mpr read

end Reading

/-! ## When an estimate is right -/

/-- No keyword is found where it is none: the table of a deletion without FROM does not
begin with it, and no WHERE is in front of the WHERE clause of an update. -/
def Unstrayed (tables : Tables) {engine : DatabaseEngine} : Statement engine → Prop
  | .delete statement =>
      statement.fromWord = none → ¬"from".toList <+: statement.table.chars.map fold
  | .update statement => cutWord tables "where" false statement.head = none

/-- The table of an update is a word other than SET, there is a condition without a LIMIT
in it and none behind it, and commas are only between the assignments. -/
structure ReadsStraight (tables : Tables) {engine : DatabaseEngine}
    (statement : UpdateStatement engine) : Prop where
  word : ∀ char ∈ statement.table.chars, tables.isWord char = true
  table : statement.table.chars.map fold ≠ "set".toList
  limit : statement.tail.count = none
  condition : ∃ clause, statement.tail.clause = some clause ∧
    cutWord tables "limit" false clause.condition.chars = none
  items : ∀ item ∈ statement.items, ReadAssignment item

/-- What a dry run reads right or makes no estimate for. -/
def ReadRight (tables : Tables) {engine : DatabaseEngine} : Statement engine → Prop
  | .delete statement => statement.Parted ∨ statement.fromWord ≠ none ∧
      (statement.tail.count = none ∨ statement.tail.count = some 0)
  | .update statement =>
      ¬NamesWord tables statement.text ∨ Unstrayed tables (.update statement) ∧
        ((∃ clause ∈ statement.tail.clause, Unrunnable tables clause.condition) ∨
          ReadsStraight tables statement)

theorem reads_iff {tables : Tables} {engine : DatabaseEngine}
    {statement : UpdateStatement engine}
    (absent : cutWord tables "where" false statement.head = none) :
    updateNamed tables statement.text = some statement.table.chars ∧
        statement.tail.count = none ∧
        conditionOf (whereClause tables statement.text) = statement.tail.condition ∧
        affectedColumns tables statement.text = statement.columns ↔
      ReadsStraight tables statement := by
  rw [updateNamed_table_iff]
  constructor
  · rintro ⟨isWord, noCount, sameCondition, sameColumns⟩
    have noLimit : statement.tail.limit = none := Option.map_eq_none_iff.mp noCount
    obtain ⟨someClause, notSet, read⟩ :=
      (affectedColumns_read_iff absent isWord).mp sameColumns
    obtain ⟨clause, isClause⟩ := Option.ne_none_iff_exists'.mp someClause
    have noKeyword := (conditionOf_read_iff absent noLimit).mp sameCondition clause isClause
    exact ⟨isWord, notSet, noCount, ⟨clause, isClause, noKeyword⟩, read⟩
  · intro straight
    have noLimit : statement.tail.limit = none := Option.map_eq_none_iff.mp straight.limit
    obtain ⟨clause, isClause, noKeyword⟩ := straight.condition
    refine ⟨straight.word, straight.limit, (conditionOf_read_iff absent noLimit).mpr ?_,
      (affectedColumns_read_iff absent straight.word).mpr ⟨?_, straight.table,
        straight.items⟩⟩
    · intro other isOther
      rw [isClause] at isOther
      cases isOther
      exact noKeyword
    · rw [isClause]
      exact Option.some_ne_none clause

/-- While no WHERE is in front of its WHERE clause, an update is estimated right just if it
is read right or not at all. -/
theorem estimated_update_iff (tables : Tables) {engine : DatabaseEngine}
    (statement : UpdateStatement engine) (unstrayed : Unstrayed tables (.update statement)) :
    Estimated tables (.update statement) ↔ ReadRight tables (.update statement) := by
  have absent : cutWord tables "where" false statement.head = none := unstrayed
  rw [estimated_update_iff_cuts, updateNamed_eq_none_iff, rejected_read_iff absent,
    reads_iff absent]
  exact or_congr_right (and_iff_right unstrayed).symm

def oneBlank : Gap where
  chars := [' ']
  blank := List.all_eq_true.mp (by decide)
  nonempty := by decide

/-- `UPDATE notes SET body = 'where limit' WHERE id = 1` -/
def noteUpdate : UpdateStatement .mysql where
  lead := ⟨[], by simp⟩
  keyword := ⟨"UPDATE".toList, by decide⟩
  tableGap := oneBlank
  table := ⟨"notes".toList, by decide, by decide, by decide⟩
  setGap := oneBlank
  setKeyword := ⟨"SET".toList, by decide⟩
  itemsGap := oneBlank
  first := ⟨⟨[], by simp⟩, ⟨"body".toList, by decide, by decide, by decide⟩,
    oneBlank.toBlank, oneBlank.toBlank,
    ⟨"'where limit'".toList, by decide, by decide, by decide⟩, ⟨[], by simp⟩⟩
  others := []
  tail := ⟨some ⟨oneBlank, ⟨"WHERE".toList, by decide⟩, oneBlank,
    ⟨⟨"id = 1".toList, by decide, by decide, by decide⟩, by decide⟩⟩, none,
    ⟨[], by simp⟩, false, ⟨[], by simp⟩⟩

end DbBuddy.Sql
