import DbBuddy.Planner.ValueFilters

/-!
# Value filters rest on data or on a name

Every value filter compares a word of the question with a column of the schema: with a column
whose sample holds the word, or, if none does, with the column that names the rows, and then the
word is written like a name and is more than a guess.
-/

namespace DbBuddy.Planner.ValueGrounding

open DbBuddy.Library
open DbBuddy.Insights (Tables Text fold isWord_fold_of_ascii)
open DbBuddy.Planner.TypeHandlers (Spec)

/-! ## Tokens of a question -/

/-- A part of a question that is made of characters of words. -/
structure IsToken (tables : Tables) (query text : Text) : Prop where
  nonempty : text ≠ []
  chars : ∀ char ∈ text, tables.isWord char = true
  part : text <:+: query

section Tokens

variable {tables : Tables} {query text : Text}

theorem isWord_of_isLetter {char : Char} (isAlpha : isLetter char = true) :
    tables.isWord char = true := by
  have isAlphanum : char.isAlphanum = true := by
    rw [isLetter] at isAlpha
    rw [Char.isAlphanum, isAlpha, Bool.true_or]
  have isAscii : char.toNat < 128 := by
    rcases isAlphanum_iff.mp isAlphanum with upper | lower | digit
    · omega
    · omega
    · omega
  rw [tables.isWord_ascii char isAscii, isAlphanum, Bool.true_or]

theorem isToken_of_taken {first : Char → Bool}
    (letters : ∀ char, first char = true → tables.isWord char = true)
    (isTaken : Taken tables.isWord ⟨false, query⟩ (.token tables.isWord first) text) :
    IsToken tables query text := by
  obtain ⟨⟨char, rest, rfl, isFirst, areWord⟩, isPart⟩ := token_of_taken isTaken
  refine ⟨List.cons_ne_nil char rest, ?_, isPart⟩
  exact List.forall_mem_cons.mpr ⟨letters char isFirst, areWord⟩

/-- The groups of a match of two groups. -/
theorem exists_of_two_groups {parts : List Part} {first second : Pattern} {groups : List Text}
    (noLine : Part.line ∉ parts) (twoGroups : parts.filterMap Part.grouped = [first, second])
    (isIn : groups ∈ foundGroups tables parts query) :
    ∃ one two, groups = [one, two] ∧ Taken tables.isWord ⟨false, query⟩ first one ∧
      Taken tables.isWord ⟨false, query⟩ second two := by
  obtain ⟨entry, isFound, isGroups⟩ := List.mem_map.mp isIn
  have taken := forall₂_findAll noLine isFound
  rw [twoGroups, isGroups] at taken
  obtain ⟨one, rest, isFirst, taken, isCons⟩ := List.forall₂_cons_left_iff.mp taken
  obtain ⟨two, none, isSecond, taken, isRest⟩ := List.forall₂_cons_left_iff.mp taken
  rw [isCons, isRest, List.forall₂_nil_left_iff.mp taken]
  exact ⟨one, two, rfl, isFirst, isSecond⟩

/-- The only group of a pattern takes a token. -/
theorem isToken_of_flatten {parts : List Part} {first : Char → Bool}
    (letters : ∀ char, first char = true → tables.isWord char = true)
    (noLine : Part.line ∉ parts)
    (oneGroup : parts.filterMap Part.grouped = [.token tables.isWord first])
    (isIn : text ∈ (foundGroups tables parts query).flatten) : IsToken tables query text := by
  obtain ⟨groups, isGroups, isText⟩ := List.mem_flatten.mp isIn
  obtain ⟨entry, isFound, rfl⟩ := List.mem_map.mp isGroups
  have taken := forall₂_findAll noLine isFound
  rw [oneGroup] at taken
  obtain ⟨one, rest, isFirst, taken, isCons⟩ := List.forall₂_cons_left_iff.mp taken
  rw [isCons, List.forall₂_nil_left_iff.mp taken] at isText
  rw [List.mem_singleton.mp isText]
  exact isToken_of_taken letters isFirst

theorem exists_of_firstIf {test : Text → Bool} {groups : List Text}
    (isFirst : firstIf test groups = some text) :
    ∃ head, groups = [text, head] ∧ test head = true := by
  rw [firstIf.eq_def] at isFirst
  split at isFirst
  next token head =>
    split at isFirst
    next passes =>
      cases isFirst
      exact ⟨head, rfl, passes⟩
    next => cases isFirst
  next => cases isFirst

theorem exists_of_secondIf {test : Text → Bool} {groups : List Text}
    (isSecond : secondIf test groups = some text) :
    ∃ head, groups = [head, text] ∧ test head = true := by
  rw [secondIf.eq_def] at isSecond
  split at isSecond
  next head token =>
    split at isSecond
    next passes =>
      cases isSecond
      exact ⟨head, rfl, passes⟩
    next => cases isSecond
  next => cases isSecond

/-- A word behind an entity noun, a possessive or a marker. -/
theorem isToken_of_named (isIn : text ∈ namedTokens tables query) :
    IsToken tables query text := by
  rcases List.mem_append.mp isIn with isIn | isAfter
  · rcases List.mem_append.mp isIn with isPossessive | isMarked
    · exact isToken_of_flatten (fun _ => isWord_of_isLetter) (by simp) rfl isPossessive
    · apply isToken_of_flatten _ (by simp) rfl isMarked
      intro char isAlpha
      rw [← tables.isWord_fold]
      exact isWord_of_isLetter isAlpha
  · obtain ⟨groups, isGroups, isSecond⟩ := List.mem_filterMap.mp isAfter
    obtain ⟨head, token, rfl, _, isTaken⟩ := exists_of_two_groups (by simp) rfl isGroups
    obtain ⟨_, isPair, _⟩ := exists_of_secondIf isSecond
    cases isPair
    exact isToken_of_taken (fun _ => isWord_of_isLetter) isTaken

theorem isToken_of_pair {one two : Text} (isIn : [one, two] ∈ wordPairs tables query) :
    IsToken tables query one ∧ IsToken tables query two := by
  obtain ⟨first, second, isPair, firstTaken, secondTaken⟩ :=
    exists_of_two_groups (by simp [pairParts]) rfl isIn
  cases isPair
  exact ⟨isToken_of_taken (fun _ => isWord_of_isLetter) firstTaken,
    isToken_of_taken (fun _ => isWord_of_isLetter) secondTaken⟩

theorem isToken_of_guess {schema : TypeHandlers.Schema}
    (isIn : text ∈ beforeNouns tables schema query ++ afterColumns tables schema query) :
    IsToken tables query text := by
  rcases List.mem_append.mp isIn with isBefore | isAfter
  · obtain ⟨groups, isGroups, isFirst⟩ := List.mem_filterMap.mp isBefore
    obtain ⟨head, rfl, _⟩ := exists_of_firstIf isFirst
    exact (isToken_of_pair isGroups).1
  · obtain ⟨groups, isGroups, isSecond⟩ := List.mem_filterMap.mp isAfter
    obtain ⟨head, rfl, _⟩ := exists_of_secondIf isSecond
    exact (isToken_of_pair isGroups).2

theorem isToken_of_lone {schema : TypeHandlers.Schema}
    (isIn : text ∈ loneTokens tables schema query) :
    IsToken tables query text := by
  rw [loneTokens] at isIn
  split at isIn
  next =>
    exact isToken_of_flatten (fun _ => isWord_of_isLetter) (by simp) rfl
      (List.mem_of_mem_filter isIn)
  next => cases isIn

end Tokens

section Candidates

variable {tables : Tables} {letters : Letters} {query value : Text} {schema : TypeHandlers.Schema}

theorem behind_fst : ((afterColumns tables schema query).foldl
      (addGuess tables letters (excludedValueVocab tables schema))
      (((beforeNouns tables schema query).foldl
        (addGuess tables letters (excludedValueVocab tables schema))
        ((namedTokens tables query).foldl
          (add tables letters (excludedValueVocab tables schema)) [], [])).1, [])).1 =
    (namedTokens tables query ++ beforeNouns tables schema query ++
      afterColumns tables schema query).foldl
        (add tables letters (excludedValueVocab tables schema)) [] := by
  rw [foldl_addGuess_fst, foldl_addGuess_fst, List.foldl_append, List.foldl_append]

/-- The candidates, without what is taken down of them. -/
theorem candidatesOf_found :
    (candidatesOf tables letters query schema).found =
      let tokens := namedTokens tables query ++ beforeNouns tables schema query ++
        afterColumns tables schema query
      let excluded := excludedValueVocab tables schema
      if tokens.foldl (add tables letters excluded) [] = [] then
        (loneTokens tables schema query).foldl (add tables letters excluded) []
      else tokens.foldl (add tables letters excluded) [] := by
  rw [candidatesOf]
  dsimp only
  rw [behind_fst]
  split
  next isNil => rw [isNil]
  next => rfl

theorem nodup_found :
    ((candidatesOf tables letters query schema).found.map (lower tables)).Nodup := by
  rw [candidatesOf_found]
  dsimp only
  split
  next => exact nodup_foldl_add List.nodup_nil
  next => exact nodup_foldl_add List.nodup_nil

/-- A candidate is a token of the question and may be a value. -/
theorem candidate_of_found
    (isFound : value ∈ (candidatesOf tables letters query schema).found) :
    IsToken tables query value ∧
      isFilterValue tables letters (excludedValueVocab tables schema) value = true := by
  rw [candidatesOf_found] at isFound
  dsimp only at isFound
  split at isFound
  next =>
    rcases mem_foldl_add isFound with isNone | ⟨isLone, isValue⟩
    · cases isNone
    · exact ⟨isToken_of_lone isLone, isValue⟩
  next =>
    rcases mem_foldl_add isFound with isNone | ⟨isIn, isValue⟩
    · cases isNone
    · rw [List.append_assoc] at isIn
      rcases List.mem_append.mp isIn with isNamed | isGuess
      · exact ⟨isToken_of_named isNamed, isValue⟩
      · exact ⟨isToken_of_guess isGuess, isValue⟩

/-- Every token that grammar looks at and that may be a value is a candidate, in some
spelling. -/
theorem exists_found {token : Text}
    (isIn : token ∈ namedTokens tables query ++ beforeNouns tables schema query ++
      afterColumns tables schema query)
    (isValue : isFilterValue tables letters (excludedValueVocab tables schema) token = true) :
    ∃ value ∈ (candidatesOf tables letters query schema).found,
      lower tables value = lower tables token := by
  have isCandidate : ∃ value ∈ (namedTokens tables query ++ beforeNouns tables schema query ++
      afterColumns tables schema query).foldl
        (add tables letters (excludedValueVocab tables schema)) [],
      lower tables value = lower tables token := exists_of_foldl_add isIn isValue
  obtain ⟨value, isThere, same⟩ := isCandidate
  refine ⟨value, ?_, same⟩
  rw [candidatesOf_found, if_neg (List.ne_nil_of_mem isThere)]
  exact isThere

/-- A candidate that is not taken down as a guess is named, or alone. -/
theorem named_of_unguessed
    (isFound : value ∈ (candidatesOf tables letters query schema).found)
    (notBefore : lower tables value ∉ (candidatesOf tables letters query schema).attributive)
    (notBehind : lower tables value ∉ (candidatesOf tables letters query schema).colValue) :
    value ∈ namedTokens tables query ∨ value ∈ loneTokens tables schema query := by
  rw [candidatesOf] at isFound notBefore notBehind
  split at isFound
  next isNil =>
    rw [isNil] at isFound
    rcases mem_foldl_add isFound with isNone | ⟨isLone, _⟩
    · cases isNone
    · exact Or.inr isLone
  next someCandidate =>
    rw [if_neg someCandidate] at notBefore notBehind
    rcases mem_foldl_addGuess isFound with isBefore | isGuess
    · rcases mem_foldl_addGuess isBefore with isNamed | isGuess
      · rcases mem_foldl_add isNamed with isNone | ⟨isNamed, _⟩
        · cases isNone
        · exact Or.inl isNamed
      · exact absurd isGuess notBefore
    · exact absurd isGuess notBehind

end Candidates

/-! ## Filters -/

section Filters

variable {tables : Tables} {letters : Letters} {query value : Text} {schema : TypeHandlers.Schema}
variable {inPlay : List Text} {roles : Roles} {index : ValueIndex} {spec : Spec}

/-- What a filter compares with, in lower case. -/
def comparedText (tables : Tables) (spec : Spec) : Option Text :=
  match spec.value with
  | .one (.text text) => some (lower tables text)
  | _ => none

theorem mem_columnsOf_of_identifierTarget {target : Text × Text}
    (isTarget : identifierTarget tables schema inPlay roles = some target) :
    target.2 ∈ columnsOf schema target.1 := by
  obtain ⟨table, _, isFound⟩ := List.exists_of_findSome?_eq_some isTarget
  obtain ⟨column, isColumn, rfl⟩ := Option.map_eq_some_iff.mp isFound
  exact mem_of_findIdentifierColumn (Option.eq_some_of_filter_eq_some isColumn)

theorem mem_confirmedFilters {values : List Text} :
    spec ∈ confirmedFilters tables index inPlay values ↔
      ∃ value ∈ values, ∃ place, spec = equals place value ∧
        resolveValue tables.lowercase value index inPlay = some place := by
  simp only [confirmedFilters, List.mem_filterMap, Option.map_eq_some_iff]
  constructor
  · intro ⟨value, isIn, place, isPlace, isSpec⟩
    exact ⟨value, isIn, place, isSpec.symm, isPlace⟩
  · intro ⟨value, isIn, place, isSpec, isPlace⟩
    exact ⟨value, isIn, place, isPlace, isSpec.symm⟩

theorem mem_unknownNames {candidates : Candidates} :
    value ∈ unknownNames tables index inPlay candidates ↔ value ∈ candidates.found ∧
      resolveValue tables.lowercase value index inPlay = none ∧
      lower tables value ∉ candidates.attributive ∧ lower tables value ∉ candidates.colValue := by
  simp [unknownNames, and_assoc]

/-- What a value filter is: a candidate with the column that the index gives for it, or one that
the index does not know and no rule has taken down, with the column that names the rows. -/
theorem mem_extractValueFilters :
    spec ∈ extractValueFilters tables letters query schema inPlay roles index ↔
      ∃ value ∈ (candidatesOf tables letters query schema).found, ∃ place,
        spec = equals place value ∧
          (resolveValue tables.lowercase value index inPlay = some place ∨
            resolveValue tables.lowercase value index inPlay = none ∧
            lower tables value ∉ (candidatesOf tables letters query schema).attributive ∧
            lower tables value ∉ (candidatesOf tables letters query schema).colValue ∧
            startsUpper letters value = true ∧
            identifierTarget tables schema inPlay roles = some place) := by
  rw [extractValueFilters]
  cases identifierTarget tables schema inPlay roles with
  | none =>
      rw [mem_confirmedFilters]
      constructor
      · intro ⟨value, isFound, place, isSpec, isPlace⟩
        exact ⟨value, isFound, place, isSpec, Or.inl isPlace⟩
      · intro ⟨value, isFound, place, isSpec, isPlace⟩
        rcases isPlace with isPlace | ⟨_, _, _, _, isNone⟩
        · exact ⟨value, isFound, place, isSpec, isPlace⟩
        · cases isNone
  | some target =>
      rw [List.mem_append, mem_confirmedFilters, List.mem_map]
      constructor
      · intro isFilter
        rcases isFilter with ⟨value, isFound, place, isSpec, isPlace⟩ | ⟨value, isIn, isSpec⟩
        · exact ⟨value, isFound, place, isSpec, Or.inl isPlace⟩
        · obtain ⟨isUnknown, isUpper⟩ := List.mem_filter.mp isIn
          obtain ⟨isFound, noPlace, notBefore, notBehind⟩ := mem_unknownNames.mp isUnknown
          exact ⟨value, isFound, target, isSpec.symm,
            Or.inr ⟨noPlace, notBefore, notBehind, isUpper, rfl⟩⟩
      · intro ⟨value, isFound, place, isSpec, isPlace⟩
        rcases isPlace with isPlace | ⟨noPlace, notBefore, notBehind, isUpper, isTarget⟩
        · exact Or.inl ⟨value, isFound, place, isSpec, isPlace⟩
        · cases isTarget
          have isUnknown := mem_unknownNames.mpr ⟨isFound, noPlace, notBefore, notBehind⟩
          exact Or.inr ⟨value, List.mem_filter.mpr ⟨isUnknown, isUpper⟩, isSpec.symm⟩

theorem map_confirmedFilters (values : List Text) :
    (confirmedFilters tables index inPlay values).map (comparedText tables) =
      (values.filter fun value =>
        (resolveValue tables.lowercase value index inPlay).isSome).map
          fun value => some (lower tables value) := by
  induction values with
  | nil => rfl
  | cons value rest inductionHypothesis =>
      rw [confirmedFilters] at inductionHypothesis ⊢
      cases isPlace : resolveValue tables.lowercase value index inPlay with
      | none =>
          rw [List.filterMap_cons_none (by rw [isPlace]; rfl), inductionHypothesis,
            List.filter_cons_of_neg (by simp [isPlace])]
      | some place =>
          rw [List.filterMap_cons_some (by rw [isPlace]; rfl), List.map_cons,
            inductionHypothesis, List.filter_cons_of_pos (by simp [isPlace])]
          rfl

/-- No two value filters compare with the same text up to case. -/
theorem nodup_extractValueFilters :
    ((extractValueFilters tables letters query schema inPlay roles index).map
      (comparedText tables)).Nodup := by
  have allFound : ((candidatesOf tables letters query schema).found.map fun value =>
      some (lower tables value)).Nodup := by
    have nodup : ((candidatesOf tables letters query schema).found.map (lower tables)).Nodup :=
      nodup_found
    have mapped := nodup.map (Option.some_injective Text)
    rw [List.map_map] at mapped
    exact mapped
  have parts : ∀ values, List.Sublist values (candidatesOf tables letters query schema).found →
      (values.map fun value => some (lower tables value)).Nodup :=
    fun values isPart => allFound.sublist (isPart.map _)
  rw [extractValueFilters]
  cases identifierTarget tables schema inPlay roles with
  | none =>
      dsimp only
      rw [map_confirmedFilters]
      exact parts _ List.filter_sublist
  | some target =>
      dsimp only
      rw [List.map_append, map_confirmedFilters, List.map_map, List.nodup_append]
      refine ⟨parts _ List.filter_sublist,
        parts _ (List.filter_sublist.trans List.filter_sublist), ?_⟩
      intro text isKnown other isUnknown same
      obtain ⟨known, inKnown, isText⟩ := List.mem_map.mp isKnown
      obtain ⟨unknown, inUnknown, isOther⟩ := List.mem_map.mp isUnknown
      obtain ⟨knownFound, isSome⟩ := List.mem_filter.mp inKnown
      obtain ⟨unknownFound, isNone, _⟩ :=
        mem_unknownNames.mp (List.mem_of_mem_filter inUnknown)
      have sameValue : known = unknown := List.inj_on_of_nodup_map allFound knownFound unknownFound
        (isText.trans (same.trans isOther.symm))
      rw [sameValue, isNone] at isSome
      cases isSome

end Filters

/-- Every value filter compares a token of the question, that may be a value, with a column of
the schema: the preferred one of the sampled columns that hold it, or, if none holds it, the
column that names the rows, and then the token begins like a name and is more than a guess.  No
text is compared twice, and no token that a sampled column holds is lost. -/
theorem value_filters_grounded (tables : Tables) (letters : Letters) (answers : Answers)
    (query : Text) (schema : TypeHandlers.Schema) (inPlay : List Text) (roles : Roles) :
    let index := buildValueIndex tables.lowercase letters answers schema roles
    let filters := extractValueFilters tables letters query schema inPlay roles index
    let held := holding tables.lowercase letters answers schema roles
    let excluded := excludedValueVocab tables schema
    (∀ spec ∈ filters, ∃ place value, spec = equals place value ∧
      place.2 ∈ columnsOf schema place.1 ∧ IsToken tables query value ∧
      isFilterValue tables letters excluded value = true ∧
      (preferred (fun column => inPlay.contains column.1) (held value) = some place ∨
        held value = [] ∧ identifierTarget tables schema inPlay roles = some place ∧
        startsUpper letters value = true ∧
        (value ∈ namedTokens tables query ∨ value ∈ loneTokens tables schema query))) ∧
    (filters.map (comparedText tables)).Nodup ∧
    (∀ token ∈ namedTokens tables query ++ beforeNouns tables schema query ++
        afterColumns tables schema query,
      isFilterValue tables letters excluded token = true → held token ≠ [] →
      ∃ place value, preferred (fun column => inPlay.contains column.1) (held token) = some place ∧
        equals place value ∈ filters ∧ lower tables value = lower tables token) := by
  intro index filters held excluded
  refine ⟨?_, nodup_extractValueFilters, ?_⟩
  · intro spec isIn
    obtain ⟨value, isFound, place, isSpec, isPlace⟩ := mem_extractValueFilters.mp isIn
    obtain ⟨isToken, isValue⟩ := candidate_of_found isFound
    rw [resolveValue_buildValueIndex] at isPlace
    rcases isPlace with isPreferred | ⟨noPlace, notBefore, notBehind, isUpper, isTarget⟩
    · have isDimension := (mem_holding (mem_of_preferred isPreferred)).1
      exact ⟨place, value, isSpec, (mem_columnsOf_of_dimension isDimension).1, isToken, isValue,
        Or.inl isPreferred⟩
    · exact ⟨place, value, isSpec, mem_columnsOf_of_identifierTarget isTarget, isToken, isValue,
        Or.inr ⟨preferred_eq_none.mp noPlace, isTarget, isUpper,
          named_of_unguessed isFound notBefore notBehind⟩⟩
  · intro token isIn isValue someHeld
    obtain ⟨value, isFound, same⟩ := exists_found isIn isValue
    have sameHeld : held value = held token := holding_of_lower same
    cases isPreferred : preferred (fun column => inPlay.contains column.1) (held token) with
    | none => exact absurd (preferred_eq_none.mp isPreferred) someHeld
    | some place =>
        refine ⟨place, value, rfl, ?_, same⟩
        apply mem_extractValueFilters.mpr
        refine ⟨value, isFound, place, rfl, Or.inl ?_⟩
        rw [resolveValue_buildValueIndex, ← isPreferred, ← sameHeld]

end DbBuddy.Planner.ValueGrounding
