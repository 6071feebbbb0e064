import DbBuddy.Planner.GroundedValues

/-!
# Which pairs of words are tried

The rules for an adjective before a noun and for a value behind a column's name look at pairs of
words that do not overlap.  Whether a word is tried depends on its place in the question.
-/

namespace DbBuddy.Planner.ValueGrounding

open DbBuddy.Library
open DbBuddy.Insights (Tables Text asciiTables)

section Pairs

variable {tables : Tables} {word ending text : Text} {rest : List (Text × Text)}

theorem wordPairs_sentence (isEnding : Ending tables.isWord isLetter ending)
    (isWordText : PlainWord tables.isWord isLetter word)
    (areWords : ∀ entry ∈ rest,
      Gap tables.isWord entry.1 ∧ PlainWord tables.isWord isLetter entry.2) :
    wordPairs tables (sentence word rest ending) =
      (pairUp (word :: rest.map Prod.snd)).map fun pair => [pair.1, pair.2] :=
  findAll_sentence (fun _ => isWord_of_isLetter) isEnding isWordText areWords

theorem mem_filterMap_firstIf {test : Text → Bool} {pairs : List (Text × Text)} :
    text ∈ (pairs.map fun pair => [pair.1, pair.2]).filterMap (firstIf test) ↔
      ∃ head, (text, head) ∈ pairs ∧ test head = true := by
  rw [List.mem_filterMap]
  constructor
  · intro ⟨groups, isGroups, isFirst⟩
    obtain ⟨head, rfl, passes⟩ := exists_of_firstIf isFirst
    obtain ⟨pair, isPair, isGroups⟩ := List.mem_map.mp isGroups
    cases isGroups
    exact ⟨_, isPair, passes⟩
  · intro ⟨head, isPair, passes⟩
    exact ⟨[text, head], List.mem_map.mpr ⟨(text, head), isPair, rfl⟩, if_pos passes⟩

theorem mem_filterMap_secondIf {test : Text → Bool} {pairs : List (Text × Text)} :
    text ∈ (pairs.map fun pair => [pair.1, pair.2]).filterMap (secondIf test) ↔
      ∃ head, (head, text) ∈ pairs ∧ test head = true := by
  rw [List.mem_filterMap]
  constructor
  · intro ⟨groups, isGroups, isSecond⟩
    obtain ⟨head, rfl, passes⟩ := exists_of_secondIf isSecond
    obtain ⟨pair, isPair, isGroups⟩ := List.mem_map.mp isGroups
    cases isGroups
    exact ⟨_, isPair, passes⟩
  · intro ⟨head, isPair, passes⟩
    exact ⟨[head, text], List.mem_map.mpr ⟨(head, text), isPair, rfl⟩, if_pos passes⟩

end Pairs

/-- In a question of plain words, counted from zero, an adjective is tried only at an even place
before its noun, and a value only at an odd place behind its column's name. -/
theorem tried_by_place (tables : Tables) (schema : TypeHandlers.Schema) (word ending : Text)
    (rest : List (Text × Text)) (isEnding : Ending tables.isWord isLetter ending)
    (isWordText : PlainWord tables.isWord isLetter word)
    (areWords : ∀ entry ∈ rest,
      Gap tables.isWord entry.1 ∧ PlainWord tables.isWord isLetter entry.2) :
    let words := word :: rest.map Prod.snd
    let query := sentence word rest ending
    ∀ text,
      (text ∈ beforeNouns tables schema query ↔
        ∃ place head, words[2 * place]? = some text ∧ words[2 * place + 1]? = some head ∧
          isHeadNoun tables schema head = true) ∧
      (text ∈ afterColumns tables schema query ↔
        ∃ place head, words[2 * place]? = some head ∧ words[2 * place + 1]? = some text ∧
          isColumnWord tables schema (lower tables head) = true) := by
  intro words query text
  have isPairs : wordPairs tables query = _ :=
    wordPairs_sentence isEnding isWordText areWords
  rw [beforeNouns, afterColumns, isPairs, mem_filterMap_firstIf, mem_filterMap_secondIf]
  simp only [mem_pairUp]
  constructor
  · constructor
    · intro ⟨head, ⟨place, isText, isHead⟩, isNoun⟩
      exact ⟨place, head, isText, isHead, isNoun⟩
    · intro ⟨place, head, isText, isHead, isNoun⟩
      exact ⟨head, ⟨place, isText, isHead⟩, isNoun⟩
  · constructor
    · intro ⟨head, ⟨place, isHead, isText⟩, isColumn⟩
      exact ⟨place, head, isHead, isText, isColumn⟩
    · intro ⟨place, head, isHead, isText, isColumn⟩
      exact ⟨head, ⟨place, isHead, isText⟩, isColumn⟩

/-- The orders of a shop, with how far they are. -/
def shopSchema : TypeHandlers.Schema where
  entries := [⟨"orders".toList, ["status".toList]⟩]
  nodupKeys := List.nodup_singleton _

theorem plainWord {char : Char} {others : Text} (isFirst : isLetter char = true)
    (passes : ((char :: others).all fun other =>
      asciiTables.isWord other && !isSpace other) = true) :
    PlainWord asciiTables.isWord isLetter (char :: others) := by
  have both : ∀ other ∈ char :: others,
      asciiTables.isWord other = true ∧ isSpace other = false := by
    intro other isIn
    simpa using List.all_eq_true.mp passes other isIn
  exact ⟨⟨char, others, rfl, isFirst,
    fun other isIn => (both other (List.mem_cons_of_mem _ isIn)).1⟩,
    fun other isIn => (both other isIn).1, fun other isIn => (both other isIn).2⟩

theorem oneSpace : Gap asciiTables.isWord " ".toList := by
  refine ⟨List.cons_ne_nil _ _, ?_, ?_⟩
  · exact List.forall_mem_singleton.mpr rfl
  · exact List.forall_mem_singleton.mpr rfl

/-- "count shipped orders" has no adjective, "number of shipped orders" has one. -/
theorem tried_by_place_shipped :
    "shipped".toList ∉ beforeNouns asciiTables shopSchema "count shipped orders".toList ∧
      "shipped".toList ∈ beforeNouns asciiTables shopSchema
        "number of shipped orders".toList := by
  have noEnding : Ending asciiTables.isWord isLetter [] := by
    constructor
    · intro char isIn
      cases isIn
    · intro char isHead
      cases isHead
  have shipped : PlainWord asciiTables.isWord isLetter "shipped".toList := plainWord rfl rfl
  have orders : PlainWord asciiTables.isWord isLetter "orders".toList := plainWord rfl rfl
  have areWords : ∀ entry ∈ [(" ".toList, "shipped".toList), (" ".toList, "orders".toList)],
      Gap asciiTables.isWord entry.1 ∧ PlainWord asciiTables.isWord isLetter entry.2 :=
    List.forall_mem_cons.mpr ⟨⟨oneSpace, shipped⟩,
      List.forall_mem_singleton.mpr ⟨oneSpace, orders⟩⟩
  constructor
  · intro isIn
    obtain ⟨place, head, isShipped, isHead, _⟩ := (tried_by_place asciiTables shopSchema
      "count".toList [] [(" ".toList, "shipped".toList), (" ".toList, "orders".toList)]
      noEnding (plainWord rfl rfl) areWords "shipped".toList).1.mp isIn
    match place with
    | 0 => cases isShipped
    | 1 => cases isHead
    | place + 2 => cases isShipped
  · apply (tried_by_place asciiTables shopSchema "number".toList []
      ((" ".toList, "of".toList) ::
        [(" ".toList, "shipped".toList), (" ".toList, "orders".toList)])
      noEnding (plainWord rfl rfl) (List.forall_mem_cons.mpr
        ⟨⟨oneSpace, plainWord rfl rfl⟩, areWords⟩) "shipped".toList).1.mpr
    exact ⟨1, "orders".toList, rfl, rfl, rfl⟩

end DbBuddy.Planner.ValueGrounding
