import DbBuddy.Sql.DryRunCuts

/-!
# What a dry run estimates

A count of the rows that are left after the cuts is right on every database just if the
cuts found the table and the condition of the statement, and nothing limits it.
-/

namespace DbBuddy.Sql

open DbBuddy.Library DbBuddy.Dialects
open DbBuddy.Insights (Tables fold)

/-! ## The table of an update -/

section Names

variable {tables : Tables} {text rest word : List Char} {engine : DatabaseEngine}

theorem updateNamed_word (found : updateNamed tables text = some word) :
    word ≠ [] ∧ ∀ char ∈ word, tables.isWord char = true := by
  induction text with
  | nil => cases found
  | cons char rest inductionHypothesis =>
      rw [updateNamed] at found
      rcases Option.or_eq_some_iff.mp found with isFirst | ⟨_, isLater⟩
      · unfold nameAtUpdate at isFirst
        dsimp only at isFirst
        split at isFirst
        · next passes =>
            cases isFirst
            exact ⟨passes.2.2, fun char isIn => List.mem_takeWhile_imp isIn⟩
        · cases isFirst
      · exact inductionHypothesis isLater

/-- UPDATE stands in a text before white space and a word. -/
def NamesWord (tables : Tables) (text : List Char) : Prop :=
  ∃ front keyword gap first rest, text = front ++ (keyword ++ (gap ++ first :: rest)) ∧
    keyword.map fold = "update".toList ∧ gap ≠ [] ∧
    (∀ char ∈ gap, isSpace char = true) ∧ isSpace first = false ∧
    tables.isWord first = true

theorem nameAtUpdate_ne_none_iff : nameAtUpdate tables text ≠ none ↔
    ∃ keyword gap first rest, text = keyword ++ (gap ++ first :: rest) ∧
      keyword.map fold = "update".toList ∧ gap ≠ [] ∧
      (∀ char ∈ gap, isSpace char = true) ∧ isSpace first = false ∧
      tables.isWord first = true := by
  unfold nameAtUpdate
  dsimp only
  constructor
  · intro isSome
    split at isSome
    · next passes =>
        obtain ⟨isPrefix, someGap, someWord⟩ := passes
        have isKeyword : (text.take 6).map fold = "update".toList := by
          rw [List.map_take]
          exact (List.prefix_iff_eq_take.mp (List.isPrefixOf_iff_prefix.mp isPrefix)).symm
        cases behind : (text.drop 6).dropWhile isSpace with
        | nil =>
            rw [behind] at someWord
            exact absurd rfl someWord
        | cons first rest =>
            refine ⟨text.take 6, (text.drop 6).takeWhile isSpace, first, rest, ?_, isKeyword,
              someGap, fun char isIn => List.mem_takeWhile_imp isIn, ?_, ?_⟩
            · rw [← behind, List.takeWhile_append_dropWhile, List.take_append_drop]
            · have notSpace := List.head_dropWhile_not isSpace (l := text.drop 6)
                (by rw [behind]; exact List.cons_ne_nil _ _)
              simpa [behind] using notSpace
            · by_contra notWord
              rw [behind, List.takeWhile_cons_of_neg notWord] at someWord
              exact someWord rfl
    · exact absurd rfl isSome
  · rintro ⟨keyword, gap, first, rest, rfl, isKeyword, someGap, areSpaces, notSpace, isWord⟩
    have isLength : keyword.length = 6 := by
      have sameLength := congrArg List.length isKeyword
      rwa [List.length_map] at sameLength
    have behind : (keyword ++ (gap ++ first :: rest)).drop 6 = gap ++ first :: rest := by
      rw [← isLength, List.drop_left]
    have isName : (gap ++ first :: rest).dropWhile isSpace = first :: rest := by
      rw [List.dropWhile_append_of_pos areSpaces, List.dropWhile_cons_of_neg (by simp [notSpace])]
    rw [behind, isName, if_pos]
    · exact Option.some_ne_none _
    · refine ⟨?_, ?_, ?_⟩
      · rw [List.isPrefixOf_iff_prefix, List.map_append, isKeyword]
        exact List.prefix_append _ _
      · obtain ⟨char, others, rfl⟩ := List.exists_cons_of_ne_nil someGap
        rw [List.cons_append, List.takeWhile_cons_of_pos (areSpaces char List.mem_cons_self)]
        exact List.cons_ne_nil _ _
      · rw [List.takeWhile_cons_of_pos isWord]
        exact List.cons_ne_nil _ _

/-- No table is found just if UPDATE stands nowhere before a word. -/
theorem updateNamed_eq_none_iff :
    updateNamed tables text = none ↔ ¬NamesWord tables text := by
  induction text with
  | nil =>
      refine iff_of_true rfl ?_
      rintro ⟨front, keyword, gap, first, rest, isText, _⟩
      have noFirst := List.append_eq_nil_iff.mp (List.append_eq_nil_iff.mp isText.symm).2
      exact List.cons_ne_nil _ _ (List.append_eq_nil_iff.mp noFirst.2).2
  | cons char rest inductionHypothesis =>
      have isFirst := @nameAtUpdate_ne_none_iff tables (char :: rest)
      rw [updateNamed, Option.or_eq_none_iff, inductionHypothesis, ← not_iff_not, not_and_or,
        not_not, not_not]
      constructor
      · rintro (isNamed | ⟨front, keyword, gap, first, behind, rfl, isUpdate⟩)
        · obtain ⟨keyword, gap, first, behind, isText, isUpdate⟩ := isFirst.mp isNamed
          exact ⟨[], keyword, gap, first, behind, isText, isUpdate⟩
        · exact ⟨char :: front, keyword, gap, first, behind, rfl, isUpdate⟩
      · rintro ⟨front, keyword, gap, first, behind, isText, isUpdate⟩
        cases front with
        | nil => exact Or.inl (isFirst.mpr ⟨keyword, gap, first, behind, isText, isUpdate⟩)
        | cons other front =>
            exact Or.inr ⟨front, keyword, gap, first, behind, (List.cons.inj isText).2,
              isUpdate⟩

theorem updateNamed_blank (blank : Blank) :
    updateNamed tables (blank.chars ++ rest) = updateNamed tables rest := by
  have letters : Letters "update" := by decide
  have all := blank.blank
  generalize blank.chars = chars at all
  induction chars with
  | nil => rfl
  | cons char others inductionHypothesis =>
      have noName : nameAtUpdate tables (char :: (others ++ rest)) = none := by
        unfold nameAtUpdate
        dsimp only
        apply if_neg
        intro passes
        have isPrefix := List.isPrefixOf_iff_prefix.mp passes.1
        have isFirst : fold char ∈ "update".toList := by
          rw [List.map_cons] at isPrefix
          obtain ⟨first, more, isWord⟩ := List.exists_cons_of_ne_nil letters.1
          rw [isWord] at isPrefix ⊢
          rw [(List.cons_prefix_cons.mp isPrefix).1]
          exact List.mem_cons_self
        exact letters.not_blank (all char List.mem_cons_self) isFirst
      rw [List.cons_append, updateNamed, noName, Option.none_or]
      exact inductionHypothesis fun later isLater => all later (List.mem_cons_of_mem _ isLater)

/-- The table of an update is found if it is a word. -/
theorem updateNamed_table (statement : UpdateStatement engine)
    (isWord : ∀ char ∈ statement.table.chars, tables.isWord char = true) :
    updateNamed tables statement.text = some statement.table.chars := by
  have letters : Letters "update" := by decide
  obtain ⟨rest, isText⟩ : ∃ rest, statement.text = statement.lead.chars ++
      (statement.keyword.chars ++ (statement.tableGap.chars ++ (statement.table.chars ++
        (statement.setGap.chars ++ rest)))) := by
    refine ⟨statement.setKeyword.chars ++ (statement.itemsGap.chars ++
      (statement.setList ++ statement.tail.text)), ?_⟩
    simp only [UpdateStatement.text, UpdateStatement.head, UpdateStatement.front,
      List.append_assoc]
  have solidTable : ∀ char ∈ (statement.table.chars ++ (statement.setGap.chars ++
      rest)).head?, isSpace char = false := by
    rw [List.head?_append_of_ne_nil _ statement.table.nonempty]
    exact statement.table.stripped.first
  have taken : (statement.table.chars ++ (statement.setGap.chars ++ rest)).takeWhile
      tables.isWord = statement.table.chars := by
    rw [List.takeWhile_append_of_pos isWord]
    obtain ⟨first, others, isGap⟩ := List.exists_cons_of_ne_nil statement.setGap.nonempty
    have isFirst := @Blank.isWord tables statement.setGap.toBlank first (by simp [isGap])
    rw [isGap, List.cons_append, List.takeWhile_cons, if_neg (by simp [isFirst]),
      List.append_nil]
  have isLength : (6 : ℕ) = statement.keyword.chars.length := statement.keyword.length.symm
  rw [isText, updateNamed_blank]
  have found : nameAtUpdate tables (statement.keyword.chars ++ (statement.tableGap.chars ++
      (statement.table.chars ++ (statement.setGap.chars ++ rest)))) =
        some statement.table.chars := by
    unfold nameAtUpdate
    dsimp only
    rw [isLength, List.drop_left, statement.tableGap.toBlank.dropWhile solidTable, taken,
      if_pos ⟨statement.keyword.isPrefixOf letters, statement.tableGap.takeWhile,
        statement.table.nonempty⟩]
  obtain ⟨first, others, isKeyword⟩ :=
    List.exists_cons_of_ne_nil (statement.keyword.nonempty letters)
  rw [isKeyword, List.cons_append] at found ⊢
  rw [updateNamed, found, Option.some_or]

theorem updateNamed_table_iff (statement : UpdateStatement engine) :
    updateNamed tables statement.text = some statement.table.chars ↔
      ∀ char ∈ statement.table.chars, tables.isWord char = true :=
  ⟨fun found => (updateNamed_word found).2, updateNamed_table statement⟩

end Names

/-! ## Databases to tell counts apart by -/

section Samples

variable {tables : Tables} {engine : DatabaseEngine}

/-- The rows hold or not, of the conditions that are accepted. -/
def sampleDatabase (engine : DatabaseEngine) (rows : List Char → List Bool)
    (holds : List Char → Bool) : Database engine Bool where
  rows table := some (rows table)
  meaning text := if closes engine text = true then some fun row => holds text && row
    else none
  closed text isOpen := by
    rw [if_neg (by simp [isOpen])]

def sampleTotal (rows : List Char → List Bool) (holds : List Char → Bool)
    (table : List Char) : Option (List Char) → ℕ
  | none => (rows table).length
  | some text => (rows table).countP fun row => holds text && row

/-- All rows are counted if all of them hold. -/
theorem sampleTotal_true {rows : List Char → List Bool} {table : List Char}
    (all : ∀ row ∈ rows table, row = true) (condition : Option (List Char)) :
    sampleTotal rows (fun _ => true) table condition = (rows table).length := by
  cases condition with
  | none => rfl
  | some text =>
      apply List.countP_eq_length.mpr
      intro row isRow
      rw [all row isRow]
      rfl

theorem sampleTotal_replicate (number : ℕ) (table : List Char)
    (condition : Option (List Char)) :
    sampleTotal (fun _ => List.replicate number true) (fun _ => true) table condition =
      number := by
  rw [sampleTotal_true fun row isRow => List.eq_of_mem_replicate isRow,
    List.length_replicate]

/-- On every sample as many rows are counted as are affected. -/
def SameOnSamples (table own : List Char) (cut condition : Option (List Char))
    (count : Option ℕ) : Prop :=
  ∀ rows holds, sampleTotal rows holds table cut =
    (count.map fun limit => min limit (sampleTotal rows holds own condition)).getD
      (sampleTotal rows holds own condition)

section Tells

variable {table own : List Char} {cut condition : Option (List Char)} {count : Option ℕ}

/-- The table of the statement is the one to be empty. -/
theorem SameOnSamples.sameTable (same : SameOnSamples table own cut condition count) :
    table = own := by
  have isSame := same (fun name => if name = own then [] else [true]) fun _ => true
  have allTrue : ∀ name, ∀ row ∈ (if name = own then [] else [true] : List Bool),
      row = true := by
    intro name row isRow
    split at isRow
    · cases isRow
    · exact List.mem_singleton.mp isRow
  rw [sampleTotal_true (allTrue table), sampleTotal_true (allTrue own), if_pos rfl] at isSame
  by_contra other
  rw [if_neg other] at isSame
  cases count with
  | none => cases isSame
  | some limit => simp at isSame

/-- A limit would leave out a row of one more than it. -/
theorem SameOnSamples.noLimit (same : SameOnSamples table own cut condition count) :
    count = none := by
  cases count with
  | none => rfl
  | some limit =>
      have isSame := same (fun _ => List.replicate (limit + 1) true) fun _ => true
      rw [sampleTotal_replicate, sampleTotal_replicate, Option.map_some,
        Option.getD_some] at isSame
      omega

/-- Of two rows, the condition of the statement holds of one. -/
theorem SameOnSamples.sameCondition (same : SameOnSamples table own cut condition count) :
    cut = condition := by
  have isSame := same (fun _ => [true, false]) fun text => decide (condition = some text)
  rw [same.noLimit, Option.map_none, Option.getD_none] at isSame
  cases cut with
  | none =>
      cases condition with
      | none => rfl
      | some text => simp [sampleTotal] at isSame
  | some cutText =>
      cases condition with
      | none => simp [sampleTotal] at isSame
      | some text =>
          by_cases sameText : text = cutText
          · rw [sameText]
          · simp [sampleTotal, sameText] at isSame

end Tells

theorem matching_sample (rows : List Char → List Bool) (holds : List Char → Bool)
    (table : List Char) {condition : Option (List Char)}
    (closed : ∀ text ∈ condition, closes engine text = true) :
    (sampleDatabase engine rows holds).matching table condition =
      some (sampleTotal rows holds table condition) := by
  unfold Database.matching sampleDatabase
  dsimp only [Option.bind_some]
  cases condition with
  | none => rfl
  | some text =>
      dsimp only
      rw [if_pos (closed text rfl)]
      rfl

theorem Tail.closed (tail : Tail engine) :
    ∀ text ∈ tail.condition, closes engine text = true := by
  intro text isCondition
  obtain ⟨clause, _, rfl⟩ := Option.map_eq_some_iff.mp isCondition
  exact clause.condition.closed

/-- A connection that reads the counts of updates. -/
def reads (tables : Tables) {Row : Type} (database : Database engine Row)
    (text : List Char) : Option ℕ :=
  let rest := text.drop ("SELECT COUNT(*) FROM".toList.length + 1)
  database.matching (rest.takeWhile tables.isWord)
    (conditionOf ((rest.dropWhile tables.isWord).drop " WHERE ".toList.length))

theorem reads_countText {Row : Type} (database : Database engine Row)
    {table clause : List Char} (isWord : ∀ char ∈ table, tables.isWord char = true) :
    reads tables database (countText table clause) =
      database.count table (conditionOf clause) none := by
  have isFirst : ∃ others, " WHERE ".toList = ' ' :: others := ⟨_, rfl⟩
  unfold reads countText
  generalize "SELECT COUNT(*) FROM".toList = front
  generalize " WHERE ".toList = between at isFirst
  obtain ⟨others, rfl⟩ := isFirst
  have isRest : (front ++ ' ' :: (table ++ if clause = [] then []
      else ' ' :: others ++ clause)).drop (front.length + 1) =
        table ++ if clause = [] then [] else ' ' :: others ++ clause := by
    rw [← List.drop_drop, List.drop_left]
    rfl
  have noWord : tables.isWord ' ' = false := by
    rw [tables.isWord_ascii ' ' (by decide)]
    decide
  dsimp only
  rw [isRest, List.takeWhile_append_of_pos isWord, List.dropWhile_append_of_pos isWord]
  have noLimit : (none : Option ℕ) ≠ some 0 := by simp
  unfold Database.count
  rw [if_neg noLimit]
  by_cases noClause : clause = []
  · rw [if_pos noClause, noClause]
    simp
  · rw [if_neg noClause, List.cons_append, List.takeWhile_cons, if_neg (by simp [noWord]),
      List.append_nil, List.dropWhile_cons, if_neg (by simp [noWord]), ← List.cons_append,
      List.drop_left]

end Samples

/-! ## Updates -/

section Updates

variable {tables : Tables} {engine : DatabaseEngine} {statement : UpdateStatement engine}

/-- What is cut out for a condition is no condition that a count is run with: there is a
semicolon in it, or a literal that is not closed. -/
def Rejected (engine : DatabaseEngine) (clause : List Char) : Prop :=
  ';' ∈ clause.dropLast ∨ clause ≠ [] ∧ closes engine (bare clause) = false

theorem strip_whereClause (text : List Char) :
    strip (whereClause tables text) = whereClause tables text := by
  unfold whereClause clauseBetween
  split
  · rfl
  · split
    · exact strip_strip _
    · exact strip_strip _

theorem getDryRunEstimate_update (run : List Char → Option ℕ)
    (statement : UpdateStatement engine) :
    getDryRunEstimate tables run statement.text =
      (updateNamed tables statement.text).bind fun table =>
        (safeCount run (countText table (whereClause tables statement.text))).map
          fun rows => ⟨rows, affectedColumns tables statement.text⟩ := by
  unfold getDryRunEstimate
  rw [statement.queryType, if_neg (by simp), if_pos rfl]
  cases updateNamed tables statement.text with
  | none => rfl
  | some table => rfl

theorem countSql_update (statement : UpdateStatement engine) :
    countSql tables statement.text =
      (updateNamed tables statement.text).map fun table =>
        countText table (whereClause tables statement.text) := by
  unfold countSql
  rw [statement.queryType, if_neg (by simp), if_pos rfl]

/-- The estimate of an update comes from a count that was run. -/
theorem of_getDryRunEstimate_update {Row : Type} {database : Database engine Row}
    {run : List Char → Option ℕ} {estimate : Estimate}
    (answers : Answers database tables run (.update statement))
    (isEstimate : getDryRunEstimate tables run statement.text = some estimate) :
    ∃ table, updateNamed tables statement.text = some table ∧
      ¬ Rejected engine (whereClause tables statement.text) ∧
      database.matching table (conditionOf (whereClause tables statement.text)) =
        some estimate.rows ∧
      estimate.columns = affectedColumns tables statement.text := by
  rw [getDryRunEstimate_update] at isEstimate
  obtain ⟨table, named, isMap⟩ := Option.bind_eq_some_iff.mp isEstimate
  obtain ⟨rows, isRun, rfl⟩ := Option.map_eq_some_iff.mp isMap
  have isWord := (updateNamed_word named).2
  unfold safeCount at isRun
  split at isRun
  · next valid =>
      rw [answers table _ isWord, Database.count, if_neg (by simp)] at isRun
      refine ⟨table, named, ?_, isRun, rfl⟩
      intro rejected
      rcases rejected with isIn | ⟨notEmpty, isOpen⟩
      · exact (basicSqlValidation_countText isWord (strip_whereClause _)).mp valid isIn
      · obtain ⟨found, _, isCount⟩ := Option.bind_eq_some_iff.mp isRun
        rw [conditionOf, if_neg notEmpty] at isCount
        dsimp only at isCount
        rw [database.closed _ isOpen] at isCount
        cases isCount
  · cases isRun

/-- On a sample the cuts that are not rejected give an estimate. -/
theorem getDryRunEstimate_sample {table : List Char} (rows : List Char → List Bool)
    (holds : List Char → Bool) (named : updateNamed tables statement.text = some table)
    (accepted : ¬ Rejected engine (whereClause tables statement.text)) :
    getDryRunEstimate tables (reads tables (sampleDatabase engine rows holds))
        statement.text =
      some ⟨sampleTotal rows holds table (conditionOf (whereClause tables statement.text)),
        affectedColumns tables statement.text⟩ := by
  have isWord := (updateNamed_word named).2
  have noSemicolon : ';' ∉ (whereClause tables statement.text).dropLast :=
    fun isIn => accepted (Or.inl isIn)
  have valid := (basicSqlValidation_countText isWord
    (strip_whereClause statement.text)).mpr noSemicolon
  have closed : ∀ text ∈ conditionOf (whereClause tables statement.text),
      closes engine text = true := by
    intro text isCondition
    unfold conditionOf at isCondition
    split at isCondition
    · cases isCondition
    · next notEmpty =>
        cases isCondition
        by_contra isOpen
        exact accepted (Or.inr ⟨notEmpty, eq_false_of_ne_true isOpen⟩)
  rw [getDryRunEstimate_update, named, Option.bind_some, safeCount, if_pos valid,
    reads_countText _ isWord, Database.count, if_neg (by simp),
    matching_sample rows holds table closed]
  rfl

/-- An estimate of an update is right just if the cuts found its table and its condition,
no limit is behind them, and the columns are those that are assigned. -/
theorem estimated_update_iff_cuts (tables : Tables) (statement : UpdateStatement engine) :
    Estimated tables (.update statement) ↔
      updateNamed tables statement.text = none ∨
        Rejected engine (whereClause tables statement.text) ∨
        updateNamed tables statement.text = some statement.table.chars ∧
          statement.tail.count = none ∧
          conditionOf (whereClause tables statement.text) = statement.tail.condition ∧
          affectedColumns tables statement.text = statement.columns := by
  constructor
  · intro estimated
    cases named : updateNamed tables statement.text with
    | none => exact Or.inl rfl
    | some table =>
        right
        by_cases rejected : Rejected engine (whereClause tables statement.text)
        · exact Or.inl rejected
        right
        have onSample := fun rows holds => by
          have isAffected := congrArg (Option.map fun total =>
              (statement.tail.count.map fun limit => min limit total).getD total)
            (matching_sample rows holds statement.table.chars statement.tail.closed)
          have isEstimate := getDryRunEstimate_sample rows holds named rejected
          exact estimated Bool (sampleDatabase engine rows holds)
            (reads tables (sampleDatabase engine rows holds))
            (fun _ _ isWord => reads_countText _ isWord) _ _ isAffected isEstimate
        have same : SameOnSamples table statement.table.chars
            (conditionOf (whereClause tables statement.text)) statement.tail.condition
            statement.tail.count :=
          fun rows holds => (onSample rows holds).1
        exact ⟨congrArg some same.sameTable, same.noLimit, same.sameCondition,
          (onSample (fun _ => []) fun _ => true).2.1⟩
  · intro holds Row database run answers affected estimate isAffected isEstimate
    obtain ⟨table, named, accepted, isRows, isColumns⟩ :=
      of_getDryRunEstimate_update answers isEstimate
    rcases holds with unnamed | rejected | ⟨sameTable, noLimit, sameCondition, sameColumns⟩
    · rw [unnamed] at named
      cases named
    · exact absurd rejected accepted
    · rw [sameTable] at named
      cases named
      rw [sameCondition] at isRows
      obtain ⟨total, isTotal, isLimited⟩ := Option.map_eq_some_iff.mp isAffected
      have sameTotal : estimate.rows = total := Option.some.inj (isRows.symm.trans isTotal)
      change (statement.tail.count.map fun limit => min limit total).getD total =
        affected at isLimited
      rw [noLimit, Option.map_none, Option.getD_none] at isLimited
      have isCount : countSql tables statement.text =
          some (countText statement.table.chars (whereClause tables statement.text)) := by
        rw [countSql_update, sameTable]
        rfl
      exact ⟨sameTotal.trans isLimited, isColumns.trans sameColumns, _, isCount,
        List.prefix_append _ _⟩

end Updates

/-! ## Deletions -/

section Deletions

variable {tables : Tables} {engine : DatabaseEngine}

theorem ended_clauses (table : Part) (tail : Tail engine) :
    Ended (table.chars ++ tail.clauses) := by
  unfold Tail.clauses
  cases tail.limit with
  | some limit =>
      have regrouped : table.chars ++ ((tail.clause.map WhereClause.text).getD [] ++
          ((some limit).map LimitClause.text).getD []) =
          table.chars ++ (((tail.clause.map WhereClause.text).getD [] ++ (limit.gap.chars ++
            (limit.keyword.chars ++ limit.countGap.chars))) ++
              Nat.toDigits 10 limit.count) := by
        simp only [LimitClause.text, Option.map_some, Option.getD_some, List.append_assoc]
      rw [regrouped]
      exact (ended_digits limit.count).around table.stripped table.nonempty _
  | none =>
      cases tail.clause with
      | some clause =>
          have regrouped : table.chars ++ (((some clause).map WhereClause.text).getD [] ++
              ((none : Option LimitClause).map LimitClause.text).getD []) =
              table.chars ++ ((clause.gap.chars ++ (clause.keyword.chars ++
                clause.conditionGap.chars)) ++ clause.condition.chars) := by
            simp only [WhereClause.text, Option.map_some, Option.getD_some, Option.map_none,
              Option.getD_none, List.append_assoc, List.append_nil]
          rw [regrouped]
          exact clause.condition.ended.around table.stripped table.nonempty _
      | none =>
          have isTable : table.chars ++ (((none : Option (WhereClause engine)).map
              WhereClause.text).getD [] ++
              ((none : Option LimitClause).map LimitClause.text).getD []) = table.chars :=
            List.append_nil _
          rw [isTable]
          exact table.ended

theorem Spelled.semicolon {word : String} (spelled : Spelled word) (letters : Letters word) :
    ';' ∉ spelled.chars := by
  intro isIn
  have isLetter : Insights.fold ';' ∈ word.toList := by
    rw [← spelled.fold letters]
    exact List.mem_map_of_mem isIn
  have bounds := letters.2 _ isLetter
  exact absurd bounds (by decide)

theorem semicolon_mem_clauses (tail : Tail engine) :
    ';' ∈ tail.clauses ↔ ∃ text ∈ tail.condition, ';' ∈ text := by
  have noLimit : ∀ limit : LimitClause, ';' ∉ limit.text := by
    intro limit isIn
    simp only [LimitClause.text, List.mem_append] at isIn
    rcases isIn with isGap | isKeyword | isGap | isDigit
    · exact limit.gap.toBlank.not_mem (by decide) isGap
    · exact limit.keyword.semicolon (by decide) isKeyword
    · exact limit.countGap.toBlank.not_mem (by decide) isGap
    · have isDigitThen := Nat.isDigit_of_mem_toDigits (by decide) (by decide) isDigit
      cases isDigitThen
  have noLimits : ';' ∉ (tail.limit.map LimitClause.text).getD [] := by
    cases tail.limit with
    | none => exact List.not_mem_nil
    | some limit => exact noLimit limit
  unfold Tail.clauses Tail.condition
  rw [List.mem_append, or_iff_left noLimits]
  cases tail.clause with
  | none => simp
  | some clause =>
      simp only [Option.map_some, Option.getD_some, WhereClause.text, List.mem_append,
        Option.mem_def, Option.some.injEq, exists_eq_left']
      constructor
      · intro either
        rcases either with isGap | isKeyword | isGap | isCondition
        · exact absurd isGap (clause.gap.toBlank.not_mem (by decide))
        · exact absurd isKeyword (clause.keyword.semicolon (by decide))
        · exact absurd isGap (clause.conditionGap.toBlank.not_mem (by decide))
        · exact isCondition
      · intro isCondition
        exact Or.inr (Or.inr (Or.inr isCondition))

theorem semicolon_front {front : List Char} (noSemicolon : ';' ∉ front) (gap : Gap)
    (table : Part) (tail : Tail engine) :
    ';' ∉ front ++ (gap.chars ++ (table.chars ++ tail.clauses)) ↔
      ';' ∉ table.chars ∧ ¬ ∃ text ∈ tail.condition, ';' ∈ text := by
  rw [← semicolon_mem_clauses]
  simp only [List.mem_append, not_or, noSemicolon, not_false_eq_true, true_and,
    gap.toBlank.not_mem (by decide : isBlank ';' = false)]

theorem DeleteStatement.counted_ending (statement : DeleteStatement engine)
    (front : List Char) : front ++ statement.counted = (front ++ (statement.tableGap.chars ++
      (statement.table.chars ++ statement.tail.clauses))) ++ statement.tail.ending := by
  simp only [DeleteStatement.counted, Tail.text, List.append_assoc]

/-- The count of a deletion passes just if its table and its condition have no semicolon
in them. -/
theorem basicSqlValidation_delete (statement : DeleteStatement engine) :
    basicSqlValidation (strip ("SELECT COUNT(*) FROM".toList ++ statement.counted)) = true ↔
      ';' ∉ statement.table.chars ∧ ¬ ∃ text ∈ statement.tail.condition, ';' ∈ text := by
  have isFront : Stripped "SELECT COUNT(*) FROM".toList :=
    stripped_of_ends (by decide) (by decide)
  have fixed : "SELECT COUNT(*) FROM".toList ≠ [] ∧
      ';' ∉ "SELECT COUNT(*) FROM".toList := by decide
  generalize "SELECT COUNT(*) FROM".toList = front at isFront fixed
  have ended : Ended (front ++ (statement.tableGap.chars ++
      (statement.table.chars ++ statement.tail.clauses))) :=
    (ended_clauses statement.table statement.tail).around isFront fixed.1 _
  rw [statement.counted_ending front, basicSqlValidation_ending ended,
    semicolon_front fixed.2]

/-- A deletion without FROM, up to its end. -/
def DeleteStatement.bareFront (statement : DeleteStatement engine) : List Char :=
  statement.keyword.chars ++ (statement.tableGap.chars ++
    (statement.table.chars ++ statement.tail.clauses))

theorem DeleteStatement.text_bare (statement : DeleteStatement engine)
    (noWord : statement.fromWord = none) :
    statement.text = statement.lead.chars ++ (statement.bareFront ++ statement.tail.ending) := by
  simp only [DeleteStatement.text, DeleteStatement.fromText, noWord, Option.map_none,
    Option.getD_none, List.nil_append, DeleteStatement.counted, Tail.text,
    DeleteStatement.bareFront, List.append_assoc]

theorem DeleteStatement.ended_bare (statement : DeleteStatement engine) :
    Ended statement.bareFront := by
  have letters : Letters "delete" := by decide
  exact (ended_clauses statement.table statement.tail).around
    (stripped_of_all (statement.keyword.isSpace letters))
      (statement.keyword.nonempty letters) _

/-- So does a deletion that is run itself. -/
theorem basicSqlValidation_bare (statement : DeleteStatement engine)
    (noWord : statement.fromWord = none) :
    basicSqlValidation (strip statement.text) = true ↔
      ';' ∉ statement.table.chars ∧ ¬ ∃ text ∈ statement.tail.condition, ';' ∈ text := by
  rw [statement.text_bare noWord, strip_append_left statement.lead.isSpace,
    basicSqlValidation_ending statement.ended_bare, DeleteStatement.bareFront,
    semicolon_front (statement.keyword.semicolon (by decide))]

/-- It is no count. -/
theorem not_count_bare (statement : DeleteStatement engine)
    (noWord : statement.fromWord = none) :
    ¬"SELECT COUNT(*) FROM".toList <+: strip statement.text := by
  have letters : Letters "delete" := by decide
  rw [statement.text_bare noWord, strip_append_left statement.lead.isSpace,
    strip_ending statement.ended_bare.stripped statement.ended_bare.nonempty,
    DeleteStatement.bareFront, List.append_assoc]
  obtain ⟨first, others, isKeyword⟩ :=
    List.exists_cons_of_ne_nil (statement.keyword.nonempty letters)
  have spells := statement.keyword.spells
  rw [isKeyword] at spells ⊢
  intro isCount
  have isFirst : 'S' = first := (List.cons_prefix_cons.mp isCount).1
  have isLetter : first.toLower = 'd' := (List.cons.inj spells).1
  rw [← isFirst] at isLetter
  cases isLetter

/-- A word that a text begins with ends before white space. -/
theorem prefix_of_apart {tables : Tables} {word : String} (letters : Letters word)
    {front rest : List Char} (apart : nextInWord tables.isWord rest = false)
    (isPrefix : word.toList <+: (front ++ rest).map fold) :
    word.toList <+: front.map fold := by
  rw [List.map_append] at isPrefix
  rcases Nat.le_total word.toList.length (front.map fold).length with within | beyond
  · exact List.prefix_of_prefix_length_le isPrefix (List.prefix_append _ _) within
  · obtain ⟨more, isMore⟩ :=
      List.prefix_of_prefix_length_le (List.prefix_append _ _) isPrefix beyond
    cases more with
    | nil =>
        rw [← isMore, List.append_nil]
    | cons char others =>
        exfalso
        rw [← isMore, List.prefix_append_right_inj] at isPrefix
        cases rest with
        | nil => cases List.prefix_nil.mp isPrefix
        | cons first behind =>
            have same := (List.cons_prefix_cons.mp isPrefix).1
            have isLetter : char ∈ word.toList := by
              rw [← isMore]
              exact List.mem_append_right _ List.mem_cons_self
            have isWordChar : tables.isWord first = true := by
              rw [← tables.isWord_fold, ← same]
              exact letters.isWord char isLetter
            rw [nextInWord, isWordChar] at apart
            cases apart

theorem ended_count : Ended "SELECT COUNT(*) FROM".toList :=
  ⟨by decide, stripped_of_ends (by decide) (by decide), by decide⟩

/-- What is run for a deletion without FROM has the semicolons of its table and its
condition in it, also if the table begins with FROM. -/
theorem basicSqlValidation_substitute (tables : Tables) (statement : DeleteStatement engine)
    (noWord : statement.fromWord = none)
    (valid : basicSqlValidation (strip (substituteDelete statement.text)) = true) :
    ';' ∉ statement.table.chars ∧ ¬ ∃ text ∈ statement.tail.condition, ';' ∈ text := by
  rw [statement.substitute_bare noWord] at valid
  split at valid
  · next isFrom =>
      have isPrefix : "from".toList <+: statement.table.chars.map fold :=
        prefix_of_apart (by decide) (@nextInWord_text engine tables statement.tail)
          (List.isPrefixOf_iff_prefix.mp isFrom)
      have isLong : 4 ≤ statement.table.chars.length := by
        have atMost := isPrefix.length_le
        rwa [List.length_map] at atMost
      have isFront : (statement.table.chars.take 4).map fold = "from".toList := by
        rw [List.map_take]
        exact (List.prefix_iff_eq_take.mp isPrefix).symm
      have noSemicolon : ';' ∉ statement.table.chars.take 4 := by
        intro isIn
        have isLetter : fold ';' ∈ "from".toList := by
          rw [← isFront]
          exact List.mem_map_of_mem isIn
        exact absurd isLetter (by decide)
      have regrouped : "SELECT COUNT(*) FROM".toList ++
          (statement.table.chars ++ statement.tail.text).drop 4 =
          ("SELECT COUNT(*) FROM".toList ++
            (statement.table.chars ++ statement.tail.clauses).drop 4) ++
              statement.tail.ending := by
        rw [Tail.text, ← List.append_assoc, List.drop_append_of_le_length, List.append_assoc]
        rw [List.length_append]
        omega
      rw [regrouped, basicSqlValidation_ending
        (ended_count.drop (ended_clauses statement.table statement.tail) 4)] at valid
      rw [← semicolon_mem_clauses, ← not_or, ← List.mem_append]
      intro isIn
      rw [← List.take_append_drop 4 (statement.table.chars ++ statement.tail.clauses),
        List.take_append_of_le_length isLong] at isIn
      rcases List.mem_append.mp isIn with isFirst | isLater
      · exact noSemicolon isFirst
      · exact valid (List.mem_append_right _ isLater)
  · exact (basicSqlValidation_bare statement noWord).mp valid

theorem getDryRunEstimate_delete (run : List Char → Option ℕ)
    (statement : DeleteStatement engine) :
    getDryRunEstimate tables run statement.text =
      (safeCount run (strip (substituteDelete statement.text))).map
        fun rows => ⟨rows, []⟩ := by
  unfold getDryRunEstimate
  rw [statement.queryType, if_pos rfl]

theorem countSql_delete (statement : DeleteStatement engine) :
    countSql tables statement.text = some (strip (substituteDelete statement.text)) := by
  unfold countSql
  rw [statement.queryType, if_pos rfl]

/-- The table or the condition of a deletion has a semicolon in it. -/
def DeleteStatement.Parted (statement : DeleteStatement engine) : Prop :=
  ';' ∈ statement.table.chars ∨ ∃ text ∈ statement.tail.condition, ';' ∈ text

/-- An estimate of a deletion is right just if none is made for its semicolons, or no limit
leaves rows. -/
theorem estimated_delete_iff (tables : Tables) (statement : DeleteStatement engine)
    {word : Gap × Spelled "from"} (isWord : statement.fromWord = some word) :
    Estimated tables (.delete statement) ↔
      statement.Parted ∨ statement.tail.count = none ∨ statement.tail.count = some 0 := by
  have isEstimate : ∀ run, getDryRunEstimate tables run statement.text =
      (safeCount run (strip ("SELECT COUNT(*) FROM".toList ++ statement.counted))).map
        fun rows => ⟨rows, []⟩ := by
    intro run
    rw [getDryRunEstimate_delete, statement.substitute isWord]
  constructor
  · intro estimated
    by_cases semicolon : statement.Parted
    · exact Or.inl semicolon
    right
    have valid := (basicSqlValidation_delete statement).mpr (not_or.mp semicolon)
    cases isLimit : statement.tail.count with
    | none => exact Or.inl rfl
    | some limit =>
        cases limit with
        | zero => exact Or.inr rfl
        | succ limit =>
            exfalso
            have isMatching := matching_sample (fun _ => List.replicate (limit + 2) true)
              (fun _ => true) statement.table.chars statement.tail.closed
            rw [sampleTotal_replicate] at isMatching
            have isAffected := congrArg (Option.map fun total =>
              (statement.tail.count.map fun limit => min limit total).getD total) isMatching
            have counts : (sampleDatabase engine (fun _ => List.replicate (limit + 2) true)
                fun _ => true).count statement.table.chars statement.tail.condition
                  statement.tail.count = some (limit + 2) := by
              unfold Database.count
              rw [isLimit, if_neg (by simp), isMatching]
            have answers : Answers (sampleDatabase engine
                (fun _ => List.replicate (limit + 2) true) fun _ => true) tables
                (fun _ => some (limit + 2)) (.delete statement) := by
              simp only [Answers, isWord]
              exact counts.symm
            have isRun : getDryRunEstimate tables (fun _ => some (limit + 2))
                statement.text = some ⟨limit + 2, []⟩ := by
              rw [isEstimate, safeCount, if_pos valid]
              rfl
            have isSame := (estimated Bool _ (fun _ => some (limit + 2)) answers _ _
              isAffected isRun).1
            rw [isLimit] at isSame
            change limit + 2 = min (limit + 1) (limit + 2) at isSame
            omega
  · intro holds Row database run answers affected estimate isAffected isSome
    rw [show (Statement.delete statement).text = statement.text from rfl, isEstimate] at isSome
    obtain ⟨rows, isRun, rfl⟩ := Option.map_eq_some_iff.mp isSome
    simp only [Answers, isWord] at answers
    have ended := (ended_clauses statement.table statement.tail).around ended_count.stripped
      ended_count.nonempty statement.tableGap.chars
    have isCount : countSql tables statement.text =
        some ("SELECT COUNT(*) FROM".toList ++ (statement.tableGap.chars ++
          (statement.table.chars ++ statement.tail.clauses) ++ statement.tail.shown)) := by
      rw [countSql_delete, statement.substitute isWord, statement.counted_ending,
        strip_ending ended.stripped ended.nonempty, List.append_assoc]
    refine ⟨?_, rfl, _, isCount, List.prefix_append _ _⟩
    unfold safeCount at isRun
    split at isRun
    · next valid =>
        have noSemicolon := (basicSqlValidation_delete statement).mp valid
        rw [answers] at isRun
        unfold Database.count at isRun
        rcases holds with semicolon | noLimit | noRow
        · rcases semicolon with isIn | isIn
          · exact absurd isIn noSemicolon.1
          · exact absurd isIn noSemicolon.2
        · rw [noLimit, if_neg (by simp)] at isRun
          obtain ⟨total, isTotal, isLimited⟩ := Option.map_eq_some_iff.mp isAffected
          have sameTotal : rows = total := Option.some.inj (isRun.symm.trans isTotal)
          change (statement.tail.count.map fun limit => min limit total).getD total =
            affected at isLimited
          rw [noLimit, Option.map_none, Option.getD_none] at isLimited
          exact sameTotal.trans isLimited
        · rw [noRow, if_pos rfl] at isRun
          cases isRun
    · cases isRun

/-- Without its FROM a deletion is never counted: no estimate is made for its semicolons,
or it is run itself. -/
theorem estimated_delete_bare (tables : Tables) (statement : DeleteStatement engine)
    (noWord : statement.fromWord = none) :
    (statement.Parted → Estimated tables (.delete statement)) ∧
      (¬"from".toList <+: statement.table.chars.map fold →
        Estimated tables (.delete statement) → statement.Parted) := by
  constructor
  · intro parted Row database run answers affected estimate isAffected isSome
    rw [show (Statement.delete statement).text = statement.text from rfl,
      getDryRunEstimate_delete] at isSome
    obtain ⟨rows, isRun, rfl⟩ := Option.map_eq_some_iff.mp isSome
    unfold safeCount at isRun
    split at isRun
    · next valid =>
        obtain ⟨noTable, noCondition⟩ :=
          basicSqlValidation_substitute tables statement noWord valid
        rcases parted with isIn | isIn
        · exact absurd isIn noTable
        · exact absurd isIn noCondition
    · cases isRun
  · intro notFrom estimated
    by_contra notParted
    have isWhole : substituteDelete statement.text = statement.text := by
      rw [statement.substitute_bare noWord, if_neg]
      intro isFrom
      exact notFrom (prefix_of_apart (by decide)
        (@nextInWord_text engine tables statement.tail)
        (List.isPrefixOf_iff_prefix.mp isFrom))
    have valid := (basicSqlValidation_bare statement noWord).mpr (not_or.mp notParted)
    have isMatching := matching_sample (fun _ => [true]) (fun _ => true)
      statement.table.chars statement.tail.closed
    obtain ⟨affected, isAffected⟩ : ∃ affected,
        (sampleDatabase engine (fun _ => [true]) fun _ => true).affected
          (.delete statement) = some affected :=
      ⟨_, congrArg (Option.map fun total =>
        (statement.tail.count.map fun limit => min limit total).getD total) isMatching⟩
    have answers : Answers (sampleDatabase engine (fun _ => [true]) fun _ => true) tables
        (fun _ => some affected) (.delete statement) := by
      simp only [Answers, noWord]
      exact isAffected.symm
    have isRun : getDryRunEstimate tables (fun _ => some affected) statement.text =
        some ⟨affected, []⟩ := by
      rw [getDryRunEstimate_delete, isWhole, safeCount, if_pos valid]
      rfl
    obtain ⟨_, _, text, isText, isCount⟩ :=
      estimated Bool _ _ answers _ _ isAffected isRun
    rw [show (Statement.delete statement).text = statement.text from rfl, countSql_delete,
      isWhole, Option.some.injEq] at isText
    rw [← isText] at isCount
    exact not_count_bare statement noWord isCount

end Deletions

end DbBuddy.Sql
