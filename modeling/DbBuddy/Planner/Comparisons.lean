import DbBuddy.Library.Gathering
import DbBuddy.Planner.TypeHandlers

/-!
# The comparisons of a question

`extract_comparisons` runs the handler of each column that the question names.  It looks for
the name as a part of the text before it lets the handler search, and no comparison is lost
that way unless a column is written with a letter that only a search takes for a letter of
ASCII.
-/

namespace DbBuddy.Planner.TypeHandlers

open DbBuddy.Library
open DbBuddy.Insights (Tables fold fold_fold)

abbrev Schema := Dict (List Char) (List (List Char))

abbrev ColumnTypes := Dict (List Char) (Dict (List Char) (List Char))

/-- A question, and what the caller knows. -/
structure Question where
  query : List Char
  schema : Schema
  types : ColumnTypes
  focus : List (List Char)
  today : CalendarDate

/-- `filters`, `seen` and `dated_columns` -/
structure Progress where
  filters : List Spec
  seen : List (List Char × List Char × String)
  dated : List (List Char)

section Extraction

variable (tables : Tables) (numerals : Numerals)

/-- `_record` -/
def Progress.record (progress : Progress) (table actual : List Char) (spec : Spec) : Progress :=
  if progress.seen.contains (table, actual, spec.operator) = true then progress
  else
    { progress with
      filters := progress.filters ++ [spec]
      seen := (table, actual, spec.operator) :: progress.seen }

/-- The tables that each lower-case column name occurs in, with its spelling there. -/
def colTables (schema : Schema) : Dict (List Char) (List (List Char × List Char)) :=
  gather [] (fun found entry => found ++ [entry])
    (schema.entries.flatMap fun entry =>
      entry.2.map fun column => (tables.lowercase.text column, (entry.1, column))) ∅

/-- A question names a table, whole or without its last letters `s`. -/
def namesTable (query table : List Char) : Bool :=
  containsText (tables.lowercase.text table) (tables.lowercase.text query) ||
    (words (tables.lowercase.text query)).contains (stripEnd 's' (tables.lowercase.text table))

/-- `_pick_table` -/
def pickTable (query : List Char) (candidates : List (List Char × List Char)) :
    Option (List Char × List Char) :=
  match candidates with
  | [] => none
  | [only] => some only
  | first :: others =>
      match (first :: others).find? fun entry => namesTable tables query entry.1 with
      | some entry => some entry
      | none => some first

def categoryOf (types : ColumnTypes) (table column : List Char) : Category :=
  classifySqlType tables.lowercase ((types.lookup table).bind fun columns =>
    columns.lookup column)

/-- A text that is the name of a column or of a table is no value. -/
def isName (schema : Schema) (value : Value) : Bool :=
  match value with
  | .one (.text text) =>
      let lowered := tables.lowercase.text text
      (colTables tables schema).keys.contains lowered ||
        (schema.keys.map tables.lowercase.text).contains lowered
  | _ => false

/-- What the handler of a column's type finds. -/
def specsOf (question : Question) (lowered table actual : List Char) :
    Except Failure (List Spec) :=
  let names := (colTables tables question.schema).keys
  let target : Target :=
    ⟨table, actual, namePattern (columnMatchForms tables.lowercase actual names)⟩
  extract tables numerals question.query target question.today
    (!question.types.entries.isEmpty) lowered (categoryOf tables question.types table actual)

/-- The body of the loop over what a handler has found. -/
def Progress.take (question : Question) (table actual : List Char) (progress : Progress)
    (spec : Spec) : Progress :=
  if isName tables question.schema spec.value = true then progress
  else
    let progress := progress.record table actual spec
    if categoryOf tables question.types table actual = .date then
      { progress with dated := (table ++ '.' :: actual) :: progress.dated }
    else progress

def recordAll (question : Question) (table actual : List Char) (specs : List Spec)
    (progress : Progress) : Progress :=
  specs.foldl (Progress.take tables question table actual) progress

/-- The body of the loop over the columns; `mentioned` decides whether a column that is no
flag is looked at. -/
def visitColumn (mentioned : Question → List Char → Bool) (question : Question)
    (progress : Progress) (lowered : List Char) : Except Failure Progress :=
  match ((colTables tables question.schema).lookup lowered).bind
      (pickTable tables question.query) with
  | none => .ok progress
  | some (table, actual) =>
      if categoryOf tables question.types table actual ≠ .boolean ∧
          mentioned question lowered = false then .ok progress
      else
        match specsOf tables numerals question lowered table actual with
        | .error failure => .error failure
        | .ok specs => .ok (recordAll tables question table actual specs progress)

def visitColumns (mentioned : Question → List Char → Bool) (question : Question) :
    List (List Char) → Progress → Except Failure Progress
  | [], progress => .ok progress
  | lowered :: rest, progress =>
      match visitColumn tables numerals mentioned question progress lowered with
      | .error failure => .error failure
      | .ok progress => visitColumns mentioned question rest progress

/-! ## A phrase without a column -/

/-- `_looks_temporal` -/
def looksTemporal (types : ColumnTypes) (table column : List Char) : Bool :=
  match categoryOf tables types table column with
  | .date => true
  | .string =>
      !types.entries.isEmpty &&
        (["_at", "_date", "_time"].any (fun ending =>
            ending.toList.isSuffixOf (tables.lowercase.text column)) ||
          (["date", "time", "timestamp", "datetime"].map String.toList).contains
            (tables.lowercase.text column))
  | _ => false

/-- `date_cols` -/
def dateColumns (question : Question) (scope : List (List Char)) :
    List (List Char × List Char) :=
  scope.flatMap fun table =>
    (((question.schema.lookup table).getD []).filter
      (looksTemporal tables question.types table)).map fun column => (table, column)

/-- The tables to look for a date column in, one list after the other. -/
def scopes (question : Question) : List (List (List Char)) :=
  [question.schema.keys.filter (namesTable tables question.query),
    question.focus.filter fun table => question.schema.keys.contains table,
    question.schema.keys]

/-- The only date column of the first scope that has only one. -/
def soleDateColumn (question : Question) : List (List (List Char)) →
    Option (List Char × List Char)
  | [] => none
  | scope :: rest =>
      match dateColumns tables question scope with
      | [column] => some column
      | _ => soleDateColumn question rest

/-- The bounds of a range, for one column. -/
def Progress.recordRange (progress : Progress) (column : List Char × List Char)
    (range : DateRange) : Progress :=
  (bounds ⟨column.1, column.2, .empty⟩ range).foldl
    (fun progress spec => progress.record column.1 column.2 spec) progress

/-- The end of `extract_comparisons`: a phrase that belongs to no column. -/
def attachPhrase (question : Question) (progress : Progress) : Except Failure Progress :=
  match searchGroups tables.isWord
      [.plain .boundary, .group (temporalPhrase numerals id), .plain .boundary]
      (tables.lowercase.text question.query) with
  | some [phrase] =>
      if progress.dated ≠ [] then .ok progress
      else
        match rangeOf tables numerals question.today phrase with
        | .error failure => .error failure
        | .ok none => .ok progress
        | .ok (some range) =>
            match soleDateColumn tables question (scopes tables question) with
            | none => .ok progress
            | some column => .ok (progress.recordRange column range)
  | _ => .ok progress

/-! ## The whole extraction -/

/-- `extract_comparisons`, with some test of what is looked at. -/
def extractUsing (mentioned : Question → List Char → Bool) (question : Question) :
    Except Failure (List Spec) := do
  let columns := longestFirst (colTables tables question.schema).keys
  let progress ← visitColumns tables numerals mentioned question columns ⟨[], [], []⟩
  let progress ← attachPhrase tables numerals question progress
  .ok progress.filters

/-- One of the forms of a name is part of the text. -/
def isMentioned (question : Question) (lowered : List Char) : Bool :=
  (columnMatchForms tables.lowercase lowered (colTables tables question.schema).keys).any
    fun form => containsText form (tables.lowercase.text question.query)

/-- `extract_comparisons` -/
def extractComparisons (question : Question) : Except Failure (List Spec) :=
  extractUsing tables numerals (isMentioned tables) question

/-- Every handler runs on every column. -/
def extractEverywhere (question : Question) : Except Failure (List Spec) :=
  extractUsing tables numerals (fun _ _ => true) question

end Extraction

/-! ## Columns and their tables -/

section Columns

variable {tables : Tables} {schema : Schema} {lowered table actual : List Char}
variable {candidates : List (List Char × List Char)}

theorem foldl_concat {Item : Type*} (items found : List Item) :
    items.foldl (fun found item => found ++ [item]) found = found ++ items := by
  induction items generalizing found with
  | nil => exact (List.append_nil found).symm
  | cons item rest inductionHypothesis =>
      rw [List.foldl_cons, inductionHypothesis, List.append_assoc]
      rfl

/-- What stands under a name are the columns that have it. -/
theorem lookup_colTables (isKnown : (colTables tables schema).lookup lowered = some candidates) :
    candidates ≠ [] ∧ ∀ candidate ∈ candidates, tables.lowercase.text candidate.2 = lowered ∧
      ∃ entry ∈ schema.entries, candidate.2 ∈ entry.2 := by
  obtain ⟨nonempty, isFound⟩ := lookup_gather_empty.mp isKnown
  rw [foldl_concat, List.nil_append] at isFound
  subst isFound
  refine ⟨nonempty, ?_⟩
  intro candidate isIn
  obtain ⟨entry, isEntry, isColumn⟩ := List.mem_flatMap.mp (mem_itemsOf.mp isIn)
  obtain ⟨column, inEntry, same⟩ := List.mem_map.mp isColumn
  cases same
  exact ⟨rfl, entry, isEntry, inEntry⟩

theorem lookup_colTables_of_mem {entry : (_ : List Char) × List (List Char)}
    {column : List Char} (isEntry : entry ∈ schema.entries) (isColumn : column ∈ entry.2) :
    ∃ candidates, (colTables tables schema).lookup (tables.lowercase.text column) =
      some candidates := by
  refine ⟨_, lookup_gather_empty.mpr ⟨?_, rfl⟩⟩
  apply List.ne_nil_of_mem
  apply mem_itemsOf.mpr
  exact List.mem_flatMap.mpr ⟨entry, isEntry, List.mem_map.mpr ⟨column, isColumn, rfl⟩⟩

theorem mem_of_pickTable {query : List Char} {picked : List Char × List Char}
    (isPicked : pickTable tables query candidates = some picked) : picked ∈ candidates := by
  rw [pickTable.eq_def] at isPicked
  split at isPicked
  · cases isPicked
  · cases isPicked
    exact List.mem_cons_self
  · split at isPicked
    · next entry isFound =>
        cases isPicked
        exact List.mem_of_find?_eq_some isFound
    · cases isPicked
      exact List.mem_cons_self

theorem pickTable_isSome {query : List Char} (nonempty : candidates ≠ []) :
    ∃ picked, pickTable tables query candidates = some picked := by
  cases candidates with
  | nil => exact absurd rfl nonempty
  | cons first others =>
      cases others with
      | nil => exact ⟨first, rfl⟩
      | cons second rest =>
          rw [pickTable.eq_def]
          dsimp only
          split
          · next entry _ => exact ⟨entry, rfl⟩
          · exact ⟨first, rfl⟩

/-- The column that a name is read as. -/
def pickOf (tables : Tables) (question : Question) (lowered : List Char) :
    Option (List Char × List Char) :=
  ((colTables tables question.schema).lookup lowered).bind (pickTable tables question.query)

theorem text_of_pickOf {question : Question}
    (isPicked : pickOf tables question lowered = some (table, actual)) :
    tables.lowercase.text actual = lowered ∧
      ∃ entry ∈ question.schema.entries, actual ∈ entry.2 := by
  obtain ⟨candidates, isKnown, isPicked⟩ := Option.bind_eq_some_iff.mp isPicked
  exact (lookup_colTables isKnown).2 _ (mem_of_pickTable isPicked)

end Columns

/-! ## Nothing is lost of plain names -/

section Plain

variable {tables : NameTables} {numerals : Numerals} {question : Question}

theorem visitColumns_congr {tables : Tables} {mentioned other : Question → List Char → Bool}
    (same : ∀ progress lowered, visitColumn tables numerals mentioned question progress lowered =
      visitColumn tables numerals other question progress lowered)
    (columns : List (List Char)) (progress : Progress) :
    visitColumns tables numerals mentioned question columns progress =
      visitColumns tables numerals other question columns progress := by
  induction columns generalizing progress with
  | nil => rfl
  | cons lowered rest inductionHypothesis =>
      rw [visitColumns, visitColumns, same progress lowered]
      split
      · rfl
      · next progress _ => exact inductionHypothesis progress

/-- A column that is passed over would have given nothing. -/
theorem visitColumn_plain (isAscii : IsAscii question.query)
    (plain : ∀ entry ∈ question.schema.entries, ∀ column ∈ entry.2,
      ¬ Disguised (tables.lowercase.text column))
    (progress : Progress) (lowered : List Char) :
    visitColumn tables.toTables numerals (isMentioned tables.toTables) question progress lowered =
      visitColumn tables.toTables numerals (fun _ _ => true) question progress lowered := by
  rw [visitColumn, visitColumn]
  split
  · rfl
  · next table actual isPicked =>
      obtain ⟨isName, entry, isEntry, isColumn⟩ := text_of_pickOf isPicked
      have noSkip : ¬ (categoryOf tables.toTables question.types table actual ≠ .boolean ∧
          (fun _ _ => true : Question → List Char → Bool) question lowered = false) := by
        simp
      rw [if_neg noSkip]
      split
      · next skipped =>
          have absent : Absent tables.toTables question.query (namePattern
              (columnMatchForms tables.lowercase actual
                (colTables tables.toTables question.schema).keys)) := by
            apply absent_of_unmentioned isAscii (plain entry isEntry actual isColumn)
            rw [isName]
            exact skipped.2
          have nothing : specsOf tables.toTables numerals question lowered table actual =
              .ok [] :=
            extract_absent absent skipped.1
          rw [nothing]
          rfl
      · rfl

theorem extractComparisons_eq (isAscii : IsAscii question.query)
    (plain : ∀ entry ∈ question.schema.entries, ∀ column ∈ entry.2,
      ¬ Disguised (tables.lowercase.text column)) :
    extractComparisons tables.toTables numerals question =
      extractEverywhere tables.toTables numerals question := by
  rw [extractComparisons, extractEverywhere, extractUsing, extractUsing,
    visitColumns_congr (visitColumn_plain isAscii plain)]

end Plain

/-! ## A question that finds a disguised name -/

section Found

variable {tables : NameTables} {lowered : List Char}

theorem isWord_of_ascii {char : Char} (isAscii : char.toNat < 128) :
    tables.isWord char = (char.isAlphanum || char == '_') :=
  tables.isWord_ascii char isAscii

/-- A letter, unless the name ends in a character of a word. -/
def closing (tables : Tables) (name : List Char) : List Char :=
  if lastInWord tables.isWord false name = true then [] else ['x']

/-- A question that says today first, so that no other phrase is taken for a range. -/
def askFor (tables : Tables) (name : List Char) : List Char :=
  "today has ".toList ++ (name.map fold ++ closing tables (name.map fold))

theorem boundary_closing (tables : NameTables) (name : List Char) :
    lastInWord tables.isWord false name ≠
      nextInWord tables.isWord (closing tables.toTables name) := by
  rw [closing]
  split
  · next isLast =>
      rw [isLast]
      intro same
      cases same
  · next isOther =>
      rw [Bool.not_eq_true] at isOther
      rw [isOther, nextInWord, isWord_of_ascii (by decide)]
      decide

theorem isAscii_askFor (folds : IsAscii (lowered.map fold)) :
    IsAscii (askFor tables.toTables lowered) := by
  have isFront : IsAscii "today has ".toList :=
    fun char isIn => of_decide_eq_true (List.all_eq_true.mp
      (by decide : "today has ".toList.all (fun char => decide (char.toNat < 128)) = true)
      char isIn)
  intro char isIn
  rcases List.mem_append.mp isIn with inFront | inName
  · exact isFront char inFront
  · rcases List.mem_append.mp inName with inName | inTail
    · exact folds char inName
    · rw [closing] at inTail
      split at inTail
      · cases inTail
      · rw [List.mem_singleton.mp inTail]
        decide

theorem mem_many_cons {isWord chars : Char → Bool} {char : Char} {rest : List Char}
    {inWord : Bool} (isIn : chars char = true) :
    (⟨isWord char, rest⟩ : Cursor) ∈ ends isWord (.many chars) ⟨inWord, char :: rest⟩ := by
  rw [ends, manyEnds, if_pos isIn]
  exact List.mem_append_right _ (List.mem_singleton_self _)

theorem mem_ends_maybe {isWord : Char → Bool} {pattern : Pattern} {cursor : Cursor} :
    cursor ∈ ends isWord (maybe pattern) cursor := by
  rw [maybe, ends]
  exact List.mem_append_right _ (List.mem_singleton_self _)

theorem mem_ends_namePattern {isWord : Char → Bool} {forms : List (List Char)}
    {form rest : List Char} {inWord : Bool} (isForm : form ∈ forms) :
    (⟨lastInWord isWord inWord (form.map fold), rest⟩ : Cursor) ∈
      ends isWord (namePattern forms) ⟨inWord, form.map fold ++ rest⟩ := by
  apply mem_ends_oneOf.mpr
  refine ⟨_, List.mem_map.mpr ⟨form, isForm, rfl⟩, mem_ends_literal.mpr ?_⟩
  refine ⟨form.map fold, rfl, ?_, rfl⟩
  rw [List.map_map]
  exact List.map_congr_left fun char _ => fold_fold char

theorem mem_ends_word {isWord : Char → Bool} {text : String} {rest : List Char}
    {inWord : Bool} (same : text.toList.map fold = text.toList) :
    (⟨lastInWord isWord inWord text.toList, rest⟩ : Cursor) ∈
      ends isWord (word text) ⟨inWord, text.toList ++ rest⟩ :=
  mem_ends_literal.mpr ⟨text.toList, rfl, same, rfl⟩

/-- The question has the name behind `has`. -/
theorem found_hasName {forms : List (List Char)} (isForm : lowered ∈ forms) :
    (groups tables.toTables (askFor tables.toTables lowered)
      (hasName (namePattern forms))).isSome = true := by
  have isSpaced : tables.isWord ' ' = false := by
    rw [isWord_of_ascii (by decide)]
    decide
  have isLetter : tables.isWord 'h' = true := by
    rw [isWord_of_ascii (by decide)]
    decide
  have sameLast : lastInWord tables.isWord (tables.isWord ' ') (lowered.map fold) =
      lastInWord tables.isWord false (lowered.map fold) := by
    rw [isSpaced]
  have isPlace : (⟨false, "has".toList ++ ' ' :: (lowered.map fold ++
      closing tables.toTables (lowered.map fold))⟩ : Cursor) ∈
      positions tables.isWord false (askFor tables.toTables lowered) :=
    mem_positions.mpr ⟨"today ".toList, rfl, isSpaced.symm⟩
  have isMatch : captures tables.isWord (hasName (namePattern forms))
      ⟨false, "has".toList ++ ' ' :: (lowered.map fold ++
        closing tables.toTables (lowered.map fold))⟩ ≠ [] := by
    apply captures_ne_nil_of_plain (mem_ends_boundary.mpr ⟨rfl, ?_⟩)
    · apply captures_ne_nil_of_plain (mem_ends_word (by decide))
      apply captures_ne_nil_of_plain (mem_many_cons (by decide))
      apply captures_ne_nil_of_plain mem_ends_maybe
      apply captures_ne_nil_of_plain (mem_ends_namePattern isForm)
      apply captures_ne_nil_of_plain (mem_ends_boundary.mpr ⟨rfl, ?_⟩)
      · exact List.cons_ne_nil _ _
      · rw [sameLast]
        exact boundary_closing tables (lowered.map fold)
    · intro same
      have isNext : nextInWord tables.isWord ("has".toList ++ ' ' :: (lowered.map fold ++
          closing tables.toTables (lowered.map fold))) = true := isLetter
      rw [isNext] at same
      cases same
  rw [groups, searchGroups, Option.isSome_map]
  exact searchFrom_isSome isPlace isMatch

end Found

/-! ## What a run takes down -/

section Runs

variable {tables : Tables} {numerals : Numerals} {question : Question}
variable {progress next : Progress} {table actual lowered : List Char}
variable {mentioned : Question → List Char → Bool} {key : List Char × List Char × String}

/-- One key for each filter. -/
structure Progress.Counts (progress : Progress) : Prop where
  length : progress.filters.length = progress.seen.length
  nodup : progress.seen.Nodup

theorem Progress.Counts.record (counts : progress.Counts) (table actual : List Char)
    (spec : Spec) : (progress.record table actual spec).Counts := by
  rw [Progress.record]
  split
  · exact counts
  · next isNew =>
      rw [List.contains_iff_mem] at isNew
      constructor
      · rw [List.length_append, List.length_singleton, counts.length, List.length_cons]
      · exact List.nodup_cons.mpr ⟨isNew, counts.nodup⟩

theorem mem_seen_record {spec : Spec} : key ∈ (progress.record table actual spec).seen ↔
    key ∈ progress.seen ∨ key = (table, actual, spec.operator) := by
  rw [Progress.record]
  split
  · next isSeen =>
      rw [List.contains_iff_mem] at isSeen
      constructor
      · exact Or.inl
      · intro isKey
        rcases isKey with isIn | isKey
        · exact isIn
        · exact isKey ▸ isSeen
  · rw [List.mem_cons, or_comm]

theorem take_spec (spec : Spec) :
    (progress.Counts → (progress.take tables question table actual spec).Counts) ∧
    ∀ key, key ∈ (progress.take tables question table actual spec).seen ↔
      key ∈ progress.seen ∨ isName tables question.schema spec.value = false ∧
        key = (table, actual, spec.operator) := by
  rw [Progress.take]
  split
  · next isNamed =>
      rw [isNamed]
      exact ⟨id, fun key => by simp⟩
  · next notNamed =>
      rw [Bool.not_eq_true] at notNamed
      rw [notNamed]
      dsimp only
      split
      · refine ⟨?_, fun key => by simpa using mem_seen_record⟩
        intro counts
        have recorded := counts.record table actual spec
        exact ⟨recorded.length, recorded.nodup⟩
      · exact ⟨fun counts => counts.record table actual spec,
          fun key => by simpa using mem_seen_record⟩

/-- The specs that are taken down leave their keys. -/
theorem recordAll_spec (specs : List Spec) :
    (progress.Counts → (recordAll tables question table actual specs progress).Counts) ∧
    ∀ key, key ∈ (recordAll tables question table actual specs progress).seen ↔
      key ∈ progress.seen ∨ ∃ spec ∈ specs, isName tables question.schema spec.value = false ∧
        key = (table, actual, spec.operator) := by
  induction specs generalizing progress with
  | nil => exact ⟨id, fun key => by simp [recordAll]⟩
  | cons spec specs inductionHypothesis =>
      obtain ⟨keeps, isSeen⟩ := @take_spec tables question progress table actual spec
      obtain ⟨restKeeps, restSeen⟩ :=
        @inductionHypothesis (progress.take tables question table actual spec)
      rw [recordAll, List.foldl_cons, ← recordAll]
      refine ⟨fun counts => restKeeps (keeps counts), ?_⟩
      intro key
      rw [restSeen, isSeen, or_assoc]
      simp only [List.exists_mem_cons_iff]

/-- What a column adds to the keys. -/
def Adds (tables : Tables) (numerals : Numerals) (mentioned : Question → List Char → Bool)
    (question : Question) (lowered : List Char) (key : List Char × List Char × String) : Prop :=
  ∃ table actual specs, pickOf tables question lowered = some (table, actual) ∧
    (categoryOf tables question.types table actual ≠ .boolean →
      mentioned question lowered = true) ∧
    specsOf tables numerals question lowered table actual = .ok specs ∧
    ∃ spec ∈ specs, isName tables question.schema spec.value = false ∧
      key = (table, actual, spec.operator)

theorem visitColumn_spec
    (isNext : visitColumn tables numerals mentioned question progress lowered = .ok next) :
    (progress.Counts → next.Counts) ∧
    ∀ key, key ∈ next.seen ↔
      key ∈ progress.seen ∨ Adds tables numerals mentioned question lowered key := by
  rw [visitColumn, ← pickOf] at isNext
  split at isNext
  · next notPicked =>
      cases isNext
      refine ⟨id, fun key => ⟨Or.inl, fun isKey => isKey.resolve_right ?_⟩⟩
      rintro ⟨table, actual, specs, isPicked, _⟩
      rw [notPicked] at isPicked
      cases isPicked
  · next table actual isPicked =>
      split at isNext
      · next skipped =>
          cases isNext
          refine ⟨id, fun key => ⟨Or.inl, fun isKey => isKey.resolve_right ?_⟩⟩
          rintro ⟨_, _, _, alsoPicked, visited, _⟩
          rw [isPicked] at alsoPicked
          cases alsoPicked
          rw [visited skipped.1] at skipped
          cases skipped.2
      · next visited =>
          split at isNext
          · cases isNext
          · next specs isFound =>
              cases isNext
              obtain ⟨keeps, isSeen⟩ :=
                @recordAll_spec tables question progress table actual specs
              refine ⟨keeps, fun key => (isSeen key).trans (or_congr_right ?_)⟩
              constructor
              · intro hasSpec
                refine ⟨table, actual, specs, isPicked, ?_, isFound, hasSpec⟩
                intro noFlag
                by_contra unmentioned
                exact visited ⟨noFlag, eq_false_of_ne_true unmentioned⟩
              · rintro ⟨_, _, _, alsoPicked, _, alsoFound, hasSpec⟩
                rw [isPicked] at alsoPicked
                cases alsoPicked
                rw [isFound] at alsoFound
                cases alsoFound
                exact hasSpec

/-- A whole run takes down what its columns add. -/
theorem visitColumns_spec {columns : List (List Char)}
    (isNext : visitColumns tables numerals mentioned question columns progress = .ok next) :
    (progress.Counts → next.Counts) ∧
    ∀ key, key ∈ next.seen ↔ key ∈ progress.seen ∨
      ∃ lowered ∈ columns, Adds tables numerals mentioned question lowered key := by
  induction columns generalizing progress with
  | nil =>
      cases isNext
      exact ⟨id, fun key => by simp⟩
  | cons lowered rest inductionHypothesis =>
      rw [visitColumns] at isNext
      split at isNext
      · cases isNext
      · next middle isMiddle =>
          obtain ⟨keeps, isSeen⟩ := visitColumn_spec isMiddle
          obtain ⟨restKeeps, restSeen⟩ := inductionHypothesis isNext
          refine ⟨fun counts => restKeeps (keeps counts), ?_⟩
          intro key
          rw [restSeen, isSeen, or_assoc]
          simp only [List.exists_mem_cons_iff]

end Runs

/-! ## Without types -/

section Untyped

variable {tables : NameTables} {numerals : Numerals} {question : Question}
variable {table actual lowered : List Char}

theorem categoryOf_untyped {tables : Tables} (untyped : question.types = ∅)
    (table column : List Char) :
    categoryOf tables question.types table column = .string := by
  rw [categoryOf, untyped, AList.lookup_empty]
  rfl

/-- The target of a column's handler. -/
def targetOf (tables : Tables) (question : Question) (table actual : List Char) : Target :=
  ⟨table, actual, namePattern
    (columnMatchForms tables.lowercase actual (colTables tables question.schema).keys)⟩

theorem specsOf_untyped {tables : Tables} (untyped : question.types = ∅)
    (lowered table actual : List Char) :
    specsOf tables numerals question lowered table actual =
      extractString tables numerals question.query
        (targetOf tables question table actual) false := by
  rw [specsOf, categoryOf_untyped untyped, untyped]
  rfl

theorem extractString_notNull {tables : Tables} {query : List Char} {target : Target}
    (found : (groups tables query (hasName target.name)).isSome = true) :
    extractString tables numerals query target false =
      .ok [target.spec "IS NOT NULL" .none] := by
  have isNotNull : notNull tables query target = some (target.spec "IS NOT NULL" .none) :=
    if_pos (Or.inr found)
  rw [extractString, if_neg Bool.false_ne_true, isNotNull]
  rfl

theorem visitColumns_untyped {tables : Tables} {mentioned : Question → List Char → Bool}
    (untyped : question.types = ∅) (columns : List (List Char)) (progress : Progress) :
    ∃ next, visitColumns tables numerals mentioned question columns progress = .ok next := by
  induction columns generalizing progress with
  | nil => exact ⟨progress, rfl⟩
  | cons lowered rest inductionHypothesis =>
      have isNext : ∃ next,
          visitColumn tables numerals mentioned question progress lowered = .ok next := by
        rw [visitColumn]
        split
        · exact ⟨_, rfl⟩
        · split
          · exact ⟨_, rfl⟩
          · rw [specsOf_untyped untyped]
            exact ⟨_, rfl⟩
      obtain ⟨next, isNext⟩ := isNext
      rw [visitColumns, isNext]
      exact inductionHypothesis next

theorem dateColumns_untyped {tables : Tables} (untyped : question.types = ∅)
    (scope : List (List Char)) : dateColumns tables question scope = [] := by
  apply List.flatMap_eq_nil_iff.mpr
  intro table _
  have noColumn : ∀ columns : List (List Char),
      columns.filter (looksTemporal tables question.types table) = [] := by
    intro columns
    apply List.filter_eq_nil_iff.mpr
    intro column _ isTemporal
    rw [looksTemporal, categoryOf_untyped untyped, untyped] at isTemporal
    cases isTemporal
  rw [noColumn]
  rfl

theorem soleDateColumn_untyped {tables : Tables} (untyped : question.types = ∅)
    (scopes : List (List (List Char))) : soleDateColumn tables question scopes = none := by
  induction scopes with
  | nil => rfl
  | cons scope rest inductionHypothesis =>
      rw [soleDateColumn, dateColumns_untyped untyped]
      exact inductionHypothesis

end Untyped

/-! ## The question is answered -/

section Answer

variable {tables : NameTables} {numerals : Numerals} {lowered : List Char}

/-- A day well inside the calendar. -/
def someDay : CalendarDate :=
  ⟨⟨2026, 3, 10⟩, by decide⟩

theorem rangeOf_today : ∃ range,
    rangeOf tables.toTables numerals someDay "today".toList = .ok (some range) := by
  have isSpoken : String.ofList (squeeze (tables.lowercase.text (strip "today".toList))) =
      "today" := by
    rw [show strip "today".toList = "today".toList by decide, text_ascii]
    · decide
    · exact fun char isIn => of_decide_eq_true (List.all_eq_true.mp
        (by decide : "today".toList.all (fun char => decide (char.toNat < 128)) = true)
        char isIn)
  have answered : Answered numerals "today" someDay := by
    apply answered_of_inside (by decide) (by decide)
    intro unknown
    cases unknown
  obtain ⟨_, range, isRange, _⟩ := answered .today someDay.days (someDay.days + 1) rfl
    ⟨rfl, rfl⟩ (by decide)
  refine ⟨range, ?_⟩
  rw [rangeOf, isSpoken, isRange]

/-- The first phrase of the question is `today`. -/
theorem search_today (folds : IsAscii (lowered.map fold)) :
    searchGroups tables.isWord
      [.plain .boundary, .group (temporalPhrase numerals id), .plain .boundary]
      (tables.lowercase.text (askFor tables.toTables lowered)) = some ["today".toList] := by
  obtain ⟨rest, isText⟩ : ∃ rest, tables.lowercase.text (askFor tables.toTables lowered) =
      "today".toList ++ ' ' :: rest := by
    refine ⟨("has ".toList ++ (lowered.map fold ++
      closing tables.toTables (lowered.map fold))).map Char.toLower, ?_⟩
    rw [text_ascii (isAscii_askFor folds)]
    rfl
  have isLetter : tables.isWord 't' = true := by
    rw [isWord_of_ascii (by decide)]
    decide
  have isLast : tables.isWord 'y' = true := by
    rw [isWord_of_ascii (by decide)]
    decide
  have isSpaced : tables.isWord ' ' = false := by
    rw [isWord_of_ascii (by decide)]
    decide
  have isPhrase : (ends tables.isWord (temporalPhrase numerals id)
      ⟨false, "today".toList ++ ' ' :: rest⟩).head? = some ⟨true, ' ' :: rest⟩ := by
    apply head?_ends_oneOf
    have isOnly := @ends_literal tables.isWord id "today".toList (' ' :: rest) false
    rw [List.map_id] at isOnly
    rw [isOnly]
    exact congrArg (fun inWord => some (Cursor.mk inWord (' ' :: rest))) isLast
  have isEnd : (captures tables.isWord [.plain .boundary] ⟨true, ' ' :: rest⟩).head? =
      some ⟨⟨true, ' ' :: rest⟩, []⟩ := by
    apply head?_captures_plain (head?_ends_boundary ?_)
    · rfl
    · intro same
      have isNext : nextInWord tables.isWord (' ' :: rest) = false := isSpaced
      rw [isNext] at same
      cases same
  have isFirst : (captures tables.isWord
      [.plain .boundary, .group (temporalPhrase numerals id), .plain .boundary]
      ⟨false, "today".toList ++ ' ' :: rest⟩).head? =
        some ⟨⟨true, ' ' :: rest⟩,
          [between ⟨false, "today".toList ++ ' ' :: rest⟩ ⟨true, ' ' :: rest⟩]⟩ := by
    apply head?_captures_plain (head?_ends_boundary ?_)
    · exact head?_captures_group isPhrase isEnd
    · intro same
      have isNext : nextInWord tables.isWord ("today".toList ++ ' ' :: rest) = true := isLetter
      rw [isNext] at same
      cases same
  have isTaken : between ⟨false, "today".toList ++ ' ' :: rest⟩ ⟨true, ' ' :: rest⟩ =
      "today".toList := by
    rw [between, List.length_append, Nat.add_sub_cancel, List.take_left]
  rw [searchGroups, isText, searchFrom_of_head isFirst, isTaken]
  rfl

theorem attachPhrase_askFor {question : Question} {progress : Progress}
    (folds : IsAscii (lowered.map fold)) (isQuery : question.query = askFor tables.toTables lowered)
    (isToday : question.today = someDay) (untyped : question.types = ∅) :
    attachPhrase tables.toTables numerals question progress = .ok progress := by
  obtain ⟨range, isRange⟩ := @rangeOf_today tables numerals
  rw [attachPhrase, isQuery, search_today folds]
  dsimp only
  split
  · rfl
  · rw [isToday, isRange]
    dsimp only
    rw [soleDateColumn_untyped untyped]

end Answer

/-! ## Exactly the plain names are safe -/

section Exact

variable {tables : NameTables} {numerals : Numerals} {schema : Schema}
variable {table actual lowered : List Char}

/-- The question about a name, without types. -/
def questionAbout (tables : Tables) (schema : Schema) (lowered : List Char) : Question :=
  ⟨askFor tables lowered, schema, ∅, [], someDay⟩

/-- A disguised name is passed over in every text of ASCII. -/
theorem isMentioned_disguised {question : Question} (isAscii : IsAscii question.query)
    (disguised : Disguised (tables.lowercase.text actual)) :
    isMentioned tables.toTables question (tables.lowercase.text actual) = false := by
  rw [isMentioned, List.any_eq_false]
  intro form isForm isThere
  have spells := spells_of_mem isForm
  rw [text_text] at spells
  apply disguised.notAscii
  intro char isIn
  rcases spells.covers char isIn with inForm | isLow
  · have inQuery := (containsText_iff.mp isThere).subset inForm
    rw [← map_fold_of_ascii isAscii tables] at inQuery
    exact isAscii_map_fold isAscii char inQuery
  · exact isLow

/-- The handler finds the name in the question about it. -/
theorem specsOf_questionAbout (isName : tables.lowercase.text actual = lowered) :
    specsOf tables.toTables numerals (questionAbout tables.toTables schema lowered) lowered
      table actual =
        .ok [(targetOf tables.toTables (questionAbout tables.toTables schema lowered) table
          actual).spec "IS NOT NULL" .none] := by
  rw [specsOf_untyped rfl]
  apply extractString_notNull
  apply found_hasName
  rw [← isName]
  exact mem_columnMatchForms_self

/-- Every question in ASCII is read as if each handler ran on each column. -/
def Transparent (tables : Tables) (numerals : Numerals) (schema : Schema) : Prop :=
  ∀ question : Question, question.schema = schema → IsAscii question.query →
    extractComparisons tables numerals question = extractEverywhere tables numerals question

/-- No column is spelled with a letter that only a search takes for a letter of ASCII. -/
def PlainNames (tables : Tables) (schema : Schema) : Prop :=
  ∀ entry ∈ schema.entries, ∀ column ∈ entry.2, ¬ Disguised (tables.lowercase.text column)

/-- The filters of a run that nothing is attached to. -/
theorem extractUsing_questionAbout {mentioned : Question → List Char → Bool}
    (folds : IsAscii (lowered.map fold)) :
    ∃ progress : Progress, extractUsing tables.toTables numerals mentioned
        (questionAbout tables.toTables schema lowered) = .ok progress.filters ∧
      progress.Counts ∧ ∀ key, key ∈ progress.seen ↔
        ∃ other ∈ longestFirst (colTables tables.toTables schema).keys,
          Adds tables.toTables numerals mentioned (questionAbout tables.toTables schema lowered)
            other key := by
  obtain ⟨progress, isRun⟩ := @visitColumns_untyped numerals
    (questionAbout tables.toTables schema lowered) tables.toTables mentioned rfl
    (longestFirst (colTables tables.toTables schema).keys) ⟨[], [], []⟩
  obtain ⟨keeps, isSeen⟩ := visitColumns_spec isRun
  refine ⟨progress, ?_, keeps ⟨rfl, List.nodup_nil⟩, ?_⟩
  · have isAttached : attachPhrase tables.toTables numerals
        (questionAbout tables.toTables schema lowered) progress = .ok progress :=
      attachPhrase_askFor folds rfl rfl rfl
    rw [extractUsing]
    change (visitColumns tables.toTables numerals mentioned
      (questionAbout tables.toTables schema lowered)
      (longestFirst (colTables tables.toTables schema).keys) ⟨[], [], []⟩ >>= _) = _
    rw [isRun]
    change (attachPhrase tables.toTables numerals
      (questionAbout tables.toTables schema lowered) progress >>= _) = _
    rw [isAttached]
    rfl
  · intro key
    rw [isSeen]
    simp

theorem plainNames_of_transparent (transparent : Transparent tables.toTables numerals schema) :
    PlainNames tables.toTables schema := by
  intro entry isEntry column isColumn disguised
  obtain ⟨lowered, isLowered⟩ : ∃ lowered, lowered = tables.lowercase.text column := ⟨_, rfl⟩
  rw [← isLowered] at disguised
  have isAscii : IsAscii (askFor tables.toTables lowered) := isAscii_askFor disguised.folds
  have same := transparent (questionAbout tables.toTables schema lowered) rfl isAscii
  -- the two runs, and what each has taken down
  obtain ⟨filtered, isFiltered, filteredCounts, filteredSeen⟩ :=
    @extractUsing_questionAbout tables numerals schema lowered (isMentioned tables.toTables)
      disguised.folds
  obtain ⟨complete, isComplete, completeCounts, completeSeen⟩ :=
    @extractUsing_questionAbout tables numerals schema lowered (fun _ _ => true)
      disguised.folds
  rw [extractComparisons, extractEverywhere, isFiltered, isComplete, Except.ok.injEq] at same
  -- the column that the name is read as
  obtain ⟨candidates, isKnown⟩ := @lookup_colTables_of_mem tables.toTables schema entry column
    isEntry isColumn
  rw [← isLowered] at isKnown
  obtain ⟨⟨table, actual⟩, isPicked⟩ := @pickTable_isSome tables.toTables candidates
    (askFor tables.toTables lowered) (lookup_colTables isKnown).1
  have isPick : pickOf tables.toTables (questionAbout tables.toTables schema lowered) lowered =
      some (table, actual) :=
    Option.bind_eq_some_iff.mpr ⟨candidates, isKnown, isPicked⟩
  have isName := (text_of_pickOf isPick).1
  have inKeys : lowered ∈ longestFirst (colTables tables.toTables schema).keys := by
    apply mem_longestFirst.mpr
    exact AList.mem_keys.mp (AList.lookup_isSome.mp (by rw [isKnown]; rfl))
  have inComplete : (table, actual, "IS NOT NULL") ∈ complete.seen := by
    apply (completeSeen _).mpr
    exact ⟨lowered, inKeys, table, actual, _, isPick, fun _ => rfl,
      specsOf_questionAbout isName, _, List.mem_cons_self, rfl, rfl⟩
  have notFiltered : (table, actual, "IS NOT NULL") ∉ filtered.seen := by
    intro isIn
    obtain ⟨other, _, table', actual', specs, alsoPicked, visited, _, spec, _, _, sameKey⟩ :=
      (filteredSeen _).mp isIn
    obtain rfl : table = table' := congrArg Prod.fst sameKey
    obtain rfl : actual = actual' := congrArg (fun key => key.2.1) sameKey
    have isOther : tables.lowercase.text actual = other := (text_of_pickOf alsoPicked).1
    have isMentionedThen := visited (by rw [categoryOf_untyped rfl]; exact Category.noConfusion)
    rw [← isOther, isMentioned_disguised isAscii (isName ▸ disguised)] at isMentionedThen
    cases isMentionedThen
  have within : filtered.seen ⊆ complete.seen := by
    intro key isIn
    obtain ⟨other, isOther, table', actual', specs, alsoPicked, _, hasSpecs⟩ :=
      (filteredSeen key).mp isIn
    exact (completeSeen key).mpr
      ⟨other, isOther, table', actual', specs, alsoPicked, fun _ => rfl, hasSpecs⟩
  have longer : filtered.seen.length + 1 ≤ complete.seen.length := by
    have all : (table, actual, "IS NOT NULL") :: filtered.seen ⊆ complete.seen :=
      List.cons_subset.mpr ⟨inComplete, within⟩
    exact (List.subperm_of_subset
      (List.nodup_cons.mpr ⟨notFiltered, filteredCounts.nodup⟩) all).length_le
  have sameLength := congrArg List.length same
  rw [filteredCounts.length, completeCounts.length] at sameLength
  omega

/-- No comparison of any question in ASCII is lost exactly if no column is disguised. -/
theorem transparent_iff (tables : NameTables) (numerals : Numerals) (schema : Schema) :
    Transparent tables.toTables numerals schema ↔ PlainNames tables.toTables schema := by
  constructor
  · exact plainNames_of_transparent
  · intro plain question isSchema isAscii
    apply extractComparisons_eq isAscii
    rw [isSchema]
    exact plain

end Exact

/-! ## A column that is lost -/

theorem settled_ascii (code : Char) : ∀ char ∈ asciiLowercase.char code,
    asciiLowercase.char char = [char] := by
  intro char isIn
  rw [List.mem_singleton.mp isIn]
  apply congrArg fun other => [other]
  rcases toLower_cases code with same | isUpper
  · rw [same, same]
  · rcases toLower_cases code.toLower with same | isUpperThen
    · exact same
    · omega

/-- The tables as far as ASCII goes. -/
def asciiNames : NameTables where
  toTables := DbBuddy.Insights.asciiTables
  settled := settled_ascii

/-- A whole number under a name with a dotless letter. -/
def dotlessQuestion : Question where
  query := "id > 5".toList
  schema := (∅ : Schema).assign "t".toList ["ıd".toList]
  types := (∅ : ColumnTypes).assign "t".toList
    ((∅ : Dict (List Char) (List Char)).assign "ıd".toList "int".toList)
  focus := []
  today := someDay

theorem not_transparent_dotless :
    extractComparisons asciiNames.toTables asciiNumerals dotlessQuestion = .ok [] ∧
    extractEverywhere asciiNames.toTables asciiNumerals dotlessQuestion =
      .ok [⟨"t.ıd".toList, ">", .one (.int 5)⟩] ∧
    ¬ Transparent asciiNames.toTables asciiNumerals dotlessQuestion.schema := by
  have filtered : extractComparisons asciiNames.toTables asciiNumerals dotlessQuestion =
      .ok [] := rfl
  have complete : extractEverywhere asciiNames.toTables asciiNumerals dotlessQuestion =
      .ok [⟨"t.ıd".toList, ">", .one (.int 5)⟩] := rfl
  refine ⟨filtered, complete, ?_⟩
  intro transparent
  have isAscii : IsAscii dotlessQuestion.query :=
    fun char isIn => of_decide_eq_true (List.all_eq_true.mp
      (by decide : "id > 5".toList.all (fun char => decide (char.toNat < 128)) = true) char isIn)
  have same := transparent dotlessQuestion rfl isAscii
  rw [filtered, complete] at same
  cases same

end DbBuddy.Planner.TypeHandlers
