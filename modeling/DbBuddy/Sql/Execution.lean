import DbBuddy.Sql.Safety

/-!
# How a statement is run

`execute_query` decides once more what a text is, by its first word and by the
semicolons in it.  What reaches it as raw SQL has passed the gate before, in
`/execute` or when a chart is refreshed.
-/

namespace DbBuddy.Sql

open DbBuddy.Library

universe u

/-- How many rows `fetchmany` returns, after so many and asked for so many: at least one,
while there are any, and not more than it was asked for. -/
structure Chunking where
  share : ℕ → ℕ → ℕ
  some_of_pos : ∀ fetched size, 0 < size → 0 < share fetched size
  share_le : ∀ fetched size, share fetched size ≤ size

/-- As many as it was asked for. -/
def Chunking.full : Chunking := ⟨fun _ size => size, fun _ _ => id, fun _ _ => le_rfl⟩

/-- What a driver's cursor holds after `execute`. -/
structure Cursor (Row : Type u) where
  rows : List Row
  rowcount : Int
  chunking : Chunking

/-- A connection, as far as running statements goes; it may answer by what it has
run before. -/
structure Driver (Row : Type u) where
  execute : List (List Char) → List Char → Except String (Cursor Row)

/-- What `execute_query` returns. -/
inductive QueryResult (Row : Type u) where
  | fetched (rows : List Row)
  | rowsAffected (total : Int)

/-- What a call of `execute_query` has done by its end. -/
structure Execution (Row : Type u) where
  executed : List (List Char)
  committed : Bool
  result : QueryResult Row

/-- `MAX_ROWS` -/
def maxRows : ℕ := 1000

/-- `_FETCH_CHUNK` -/
def fetchChunk : ℕ := 1000

section Fetching

variable {Row : Type u}

/-- The loop of `_fetch_bounded`: `fuel` bounds its rounds. -/
def fetchRounds (chunking : Chunking) (limit : ℕ) : ℕ → List Row → List Row → List Row
  | 0, rows, _ => rows
  | fuel + 1, rows, left =>
      if rows.length < limit then
        let size := chunking.share rows.length (min fetchChunk (limit - rows.length))
        match left.take size with
        | [] => rows
        | chunk => fetchRounds chunking limit fuel (rows ++ chunk) (left.drop size)
      else rows

/-- `_fetch_bounded` -/
def fetchBounded (limit : ℕ) (cursor : Cursor Row) : List Row :=
  fetchRounds cursor.chunking limit limit [] cursor.rows

/-- Every round fetches a row, or is the last, however the cursor cuts its rows. -/
theorem fetchRounds_eq (chunking : Chunking) (limit fuel : ℕ) (rows left : List Row)
    (enough : limit ≤ rows.length + fuel) (within : rows.length ≤ limit) :
    fetchRounds chunking limit fuel rows left =
      rows ++ left.take (limit - rows.length) := by
  induction fuel generalizing rows left with
  | zero =>
      have full : limit - rows.length = 0 := by omega
      simp [fetchRounds, full]
  | succ fuel inductionHypothesis =>
      by_cases room : rows.length < limit
      · have askedPos : 0 < min fetchChunk (limit - rows.length) := by
          have chunkPos : 0 < fetchChunk := by decide
          omega
        have sizePos := chunking.some_of_pos rows.length _ askedPos
        have sizeFits : chunking.share rows.length (min fetchChunk (limit - rows.length)) ≤
            limit - rows.length :=
          (chunking.share_le _ _).trans (Nat.min_le_right _ _)
        simp only [fetchRounds, if_pos room]
        generalize chunking.share rows.length (min fetchChunk (limit - rows.length)) = size
          at sizePos sizeFits ⊢
        cases chunk : left.take size with
        | nil =>
            have isNil : left = [] := by
              rcases List.take_eq_nil_iff.mp chunk with noSize | isNil
              · omega
              · exact isNil
            simp [isNil]
        | cons row others =>
            have length : (row :: others).length = min size left.length := by
              rw [← chunk, List.length_take]
            have positive : 0 < (row :: others).length := Nat.succ_pos _
            have next := inductionHypothesis (rows ++ (row :: others))
              (left.drop size) (by rw [List.length_append]; omega)
              (by rw [List.length_append]; omega)
            -- A chunk that is shorter than its size has the last rows.
            have rest : (left.drop size).take
                (limit - (rows ++ (row :: others)).length) =
                (left.drop size).take (limit - rows.length - size) := by
              rcases Nat.le_total left.length size with short | long
              · rw [List.drop_eq_nil_of_le short, List.take_nil, List.take_nil]
              · have isSize : (row :: others).length = size := by omega
                rw [List.length_append, isSize, Nat.sub_add_eq]
            have whole : left.take (limit - rows.length) =
                left.take size ++
                  (left.drop size).take (limit - rows.length - size) := by
              rw [← List.take_add]
              congr 1
              omega
            change fetchRounds chunking limit fuel (rows ++ row :: others)
              (left.drop size) = _
            rw [next, rest, whole, chunk, List.append_assoc]
      · have full : limit - rows.length = 0 := by omega
        simp [fetchRounds, room, full]

/-- The rows that are read are the first of the result, up to the limit. -/
theorem fetchBounded_eq (limit : ℕ) (cursor : Cursor Row) :
    fetchBounded limit cursor = cursor.rows.take limit := by
  have rounds := fetchRounds_eq cursor.chunking limit limit ([] : List Row) cursor.rows
    (by simp) (by simp)
  simpa [fetchBounded] using rounds

end Fetching

/-! ## `execute_query` -/

/-- The first words `execute_query` takes for a read. -/
def fetchedQueries : List String := ["select", "show", "explain", "describe"]

/-- `sql.split(";\n")` -/
def splitStatements : List Char → List (List Char)
  | [] => [[]]
  | ';' :: '\n' :: rest => [] :: splitStatements rest
  | char :: rest => (splitStatements rest).modifyHead (char :: ·)

/-- The statements of a write, of which there is at least one. -/
def writeStatements (sql : List Char) : List (List Char) :=
  match ((splitStatements sql).map strip).filter fun part => !part.isEmpty with
  | [] => [sql]
  | parts => parts

/-- A statement as it is handed to the driver. -/
def terminated (statement : List Char) : List Char :=
  if statement.getLast? = some ';' then statement else statement ++ [';']

section Executing

variable {Row : Type u}

/-- Execute the statements of a write in turn, and count the rows. -/
def executeEach (driver : Driver Row) (executed : List (List Char))
    (total : Int) : List (List Char) → Except String (List (List Char) × Int)
  | [] => .ok (executed, total)
  | statement :: rest =>
      match driver.execute executed (terminated statement) with
      | .error message => .error message
      | .ok cursor =>
          executeEach driver (executed ++ [terminated statement])
            (total + if 0 < cursor.rowcount then cursor.rowcount else 0) rest

/-- The first word of a text, in lower case. -/
def firstWord (lowercase : Lowercase) (sql : List Char) : String :=
  (loweredWords lowercase (strip sql)).headD ""

/-- `execute_query`, of a text without parameters. -/
def executeQuery (lowercase : Lowercase) (limit : ℕ) (driver : Driver Row)
    (sql : List Char) : Except String (Execution Row) :=
  if firstWord lowercase sql ∈ fetchedQueries then
    if ';' ∈ stripEnd ';' (strip sql) then
      .error "Multiple statements are not allowed in a read query"
    else
      match driver.execute [] sql with
      | .error message => .error message
      | .ok cursor => .ok ⟨[sql], false, .fetched (fetchBounded limit cursor)⟩
  else
    match executeEach driver [] 0 (writeStatements sql) with
    | .error message => .error message
    | .ok (executed, total) => .ok ⟨executed, true, .rowsAffected total⟩

end Executing

/-! ## What a caller may run -/

/-- An `HTTPException`. -/
structure HttpError where
  status : ℕ
  detail : String
  deriving DecidableEq, Repr

/-- `_resolve_execute_sql` of a request without a token: the text to run, its
category, and where it is from. -/
def resolveExecuteSql (lowercase : Lowercase) (sql : Option (List Char))
    (permissions : List String) :
    Except HttpError (List Char × SafetyCategory × String) :=
  match sql with
  | none => .error ⟨400, "No SQL or execution token provided."⟩
  | some sql =>
      if (strip sql).isEmpty then
        .error ⟨400, "No SQL or execution token provided."⟩
      else
        let category := (classifyQuerySafety lowercase sql).1
        if category ≠ .read ∧ "query:write:manual" ∉ permissions then
          .error ⟨403, "Direct execution of write SQL requires the " ++
            "'query:write:manual' permission. Generate the change through " ++
            "/query and run it with the returned execution token."⟩
        else .ok (sql, category, "manual")

/-- The gate of `execute_chart`. -/
def chartAdmits (lowercase : Lowercase) (sql : List Char) : Bool :=
  decide ((classifyQuerySafety lowercase sql).1 = .read)

/-- A raw text that a caller who may not write by hand can have run. -/
def Admitted (lowercase : Lowercase) (sql : List Char) : Prop :=
  (∃ permissions category source, "query:write:manual" ∉ permissions ∧
    resolveExecuteSql lowercase (some sql) permissions =
      .ok (sql, category, source)) ∨
    chartAdmits lowercase sql = true

/-- Only what the gate calls a read is admitted. -/
theorem Admitted.isRead {lowercase : Lowercase} {sql : List Char}
    (admitted : Admitted lowercase sql) :
    (classifyQuerySafety lowercase sql).1 = .read := by
  rcases admitted with ⟨permissions, category, source, notManual, resolved⟩ |
    admits
  · simp only [resolveExecuteSql] at resolved
    split at resolved
    · cases resolved
    · split at resolved
      · cases resolved
      · rename_i notRefused
        by_contra notRead
        exact notRefused ⟨notRead, notManual⟩
  · exact of_decide_eq_true admits

end DbBuddy.Sql
