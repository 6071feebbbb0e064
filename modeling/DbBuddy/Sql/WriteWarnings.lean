import Mathlib.Data.Bool.AllAny
import DbBuddy.Insights.Validators
import DbBuddy.Planner.DefaultJoins
import DbBuddy.Sql.IdentifierReading

/-!
# Warnings before a write

The table of a statement is the word behind its first FROM, INTO or TABLE.  For the
tables that a deletion reaches, the edges of the relationship graph are read as if they
named a table first; what they name is the column that is joined on.
-/

namespace DbBuddy.Sql

open DbBuddy.Library DbBuddy.Planner
open DbBuddy.Insights (Tables asciiTables)

/-! ## The warning -/

/-- What a warning says, by the branch that it comes from. -/
inductive Warning where
  | dropTable (table : List Char)
  | drop (table : List Char)
  | delete (table : List Char) (children : List String)
  | truncate (table : List Char)
  | update (table : List Char)
  | insert (table : List Char)
  | alter (table : List Char)
  | access
  | createTable (table : List Char)
  | create
  | other
  deriving DecidableEq, Repr

/-- The sentence on the tables that a deletion reaches. -/
def relatedRecords (children : List String) : String :=
  if children = [] then ""
  else "\nRelated records in " ++ ", ".intercalate children ++
    " will also be deleted (child rows are removed first to satisfy foreign key " ++
    "constraints)."

def Warning.text : Warning → String
  | .dropTable table =>
      "This query will DROP the table '" ++ String.ofList table ++
        "'. All data will be permanently lost and cannot be recovered."
  | .drop table =>
      "This query will DROP '" ++ String.ofList table ++
        "'. This action cannot be undone."
  | .delete table children =>
      "This query will DELETE rows from '" ++ String.ofList table ++
        "'. This action cannot be undone." ++ relatedRecords children
  | .truncate table =>
      "This query will TRUNCATE the table '" ++ String.ofList table ++
        "', removing all data instantly."
  | .update table =>
      "This query will UPDATE existing records in '" ++ String.ofList table ++
        "'. Ensure conditions are correct to avoid unintended changes."
  | .insert table =>
      "This query will INSERT new data into '" ++ String.ofList table ++ "'."
  | .alter table =>
      "This query will ALTER the structure of '" ++ String.ofList table ++
        "'. This may affect existing data and applications."
  | .access =>
      "This query will modify access permissions. This affects database security."
  | .createTable table =>
      "This query will CREATE a new table '" ++ String.ofList table ++ "'."
  | .create => "This query will CREATE a new database object."
  | .other => "This query may modify data. Please review before execution."

section Warnings

variable (tables : Tables)

/-- `keyword\s+(\w+)` at the front of a text: the word that it captures. -/
def wordBehind (keyword text : List Char) : Option (List Char) :=
  if keyword.isPrefixOf text = true then
    let behind := text.drop keyword.length
    let word := (behind.dropWhile isSpace).takeWhile tables.isWord
    if behind.takeWhile isSpace = [] ∨ word = [] then none else some word
  else none

/-- `re.search(r'from\s+(\w+)|into\s+(\w+)|table\s+(\w+)', text)`, and the group of it
that matched. -/
def tableNamed : List Char → Option (List Char)
  | [] => none
  | char :: rest =>
      (["from", "into", "table"].findSome? fun keyword =>
        wordBehind tables keyword.toList (char :: rest)).or (tableNamed rest)

/-- `text.lower()` of a name. -/
def loweredName (name : String) : List Char :=
  tables.lowercase.text name.toList

/-- `child_tables` -/
def childTables (graph : RelationshipGraph) (table : List Char) : List String :=
  let lower := tables.lowercase.text table
  (graph.entries.filter fun entry =>
    decide (loweredName tables entry.1 ≠ lower) &&
      entry.2.entries.any fun edge =>
        decide (loweredName tables edge.2.fromColumn = lower)).map Sigma.fst

/-- The branch of `generate_warning` that a statement takes. -/
def warningFor (sql : List Char) (graph : Option RelationshipGraph) : Warning :=
  let lower := tables.lowercase.text sql
  let table := (tableNamed tables lower).getD "the database".toList
  let names (word : String) : Bool := containsText word.toList lower
  if names "drop" && names "table" then .dropTable table
  else if names "drop" then .drop table
  else if names "delete" then
    .delete table ((graph.map fun graph => childTables tables graph table).getD [])
  else if names "truncate" then .truncate table
  else if names "update" then .update table
  else if names "insert" then .insert table
  else if names "alter" then .alter table
  else if names "grant" || names "revoke" then .access
  else if names "create" then
    if names "table" then .createTable table else .create
  else .other

/-- `generate_warning` -/
def generateWarning (sql : List Char) (graph : Option RelationshipGraph) : String :=
  (warningFor tables sql graph).text

end Warnings

/-! ## What it should say -/

/-- `DELETE FROM table`, with a condition or without one. -/
def deleteStatement (table : String) (condition : Option (List Char)) : List Char :=
  "DELETE FROM ".toList ++ (table.toList ++
    (condition.map fun text => " WHERE ".toList ++ text).getD [])

/-- One table has a declared foreign key to another one. -/
def HasKeyTo (schema : TableColumns) (foreignKeys : ForeignKeyMap)
    (table refTable : String) : Prop :=
  table ∈ schema ∧ ∃ item ∈ foreignKeys, item.1 = table ∧
    ∃ key ∈ item.2, key.refTable = refTable

/-- The warning is one of a deletion, and names the other tables with a foreign key to
the table and no others. -/
def NamesDependents (schema : TableColumns) (foreignKeys : ForeignKeyMap) (table : String)
    (warning : Warning) : Prop :=
  ∃ shown named, warning = .delete shown named ∧
    ∀ other, other ∈ named ↔ other ≠ table ∧ HasKeyTo schema foreignKeys other table

/-! ## The table of a deletion -/

section Statements

variable {tables : Tables} {table : String} {condition : Option (List Char)}
variable {text rest : List Char}

/-- What an identifier's character becomes is one again. -/
theorem isIdentifierChar_bounds {char : Char} (isChar : isIdentifierChar char = true) :
    char.toNat < 128 ∧ isIdentifierChar char.toLower = true ∧
      char.toLower.toLower = char.toLower := by
  have letters : ∀ code : Char, 97 ≤ code.toNat → code.toNat ≤ 122 →
      isIdentifierChar code = true := by
    intro code low high
    have isLetter : code.isAlphanum = true := isAlphanum_iff.mpr (by omega)
    rw [isIdentifierChar, isLetter, Bool.true_or]
  have isAscii : char.toNat < 128 := by
    rw [isIdentifierChar, Bool.or_eq_true, isAlphanum_iff, beq_iff_eq] at isChar
    rcases isChar with isLetter | rfl
    · omega
    · decide
  rcases toLower_cases char with same | ⟨low, high, isCode⟩
  · rw [same]
    exact ⟨isAscii, isChar, same⟩
  · refine ⟨isAscii, ?_, ?_⟩
    · apply letters
      · omega
      · omega
    · rcases toLower_cases char.toLower with same | ⟨_, below, _⟩
      · exact same
      · omega

theorem isWord_of_isIdentifierChar {char : Char} (isChar : isIdentifierChar char = true) :
    tables.isWord char = true := by
  rw [tables.isWord_ascii char (isIdentifierChar_bounds isChar).1]
  exact isChar

theorem isSpace_of_isIdentifierChar {char : Char} (isChar : isIdentifierChar char = true) :
    isSpace char = false := by
  by_contra isSpaced
  have bounds := isSpace_bounds (eq_true_of_ne_false isSpaced)
  have isAscii := (isIdentifierChar_bounds isChar).1
  rw [isIdentifierChar, Bool.or_eq_true, isAlphanum_iff, beq_iff_eq] at isChar
  rcases isChar with isLetter | rfl
  · omega
  · exact absurd isSpaced (by decide)

/-- What ends a word in a text: its end, or white space. -/
def EndsWord (rest : List Char) : Prop :=
  rest = [] ∨ ∃ others, rest = ' ' :: others

theorem wordBehind_found {keyword word : List Char} (nonempty : word ≠ [])
    (isWord : ∀ char ∈ word, isIdentifierChar char = true) (ends : EndsWord rest) :
    wordBehind tables keyword (keyword ++ ' ' :: (word ++ rest)) = some word := by
  obtain ⟨first, others, rfl⟩ := List.exists_cons_of_ne_nil nonempty
  have isFirst := isSpace_of_isIdentifierChar (isWord first List.mem_cons_self)
  have isBlank : isSpace ' ' = true := by decide
  have noWord : tables.isWord ' ' = false := by
    rw [tables.isWord_ascii ' ' (by decide)]
    decide
  have taken : (first :: others ++ rest).takeWhile tables.isWord = first :: others := by
    rw [List.takeWhile_append_of_pos fun char isIn =>
      isWord_of_isIdentifierChar (isWord char isIn)]
    rcases ends with rfl | ⟨more, rfl⟩
    · simp
    · simp [noWord]
  have dropped : (' ' :: (first :: others ++ rest)).dropWhile isSpace =
      first :: others ++ rest := by
    rw [List.dropWhile_cons_of_pos isBlank, List.cons_append,
      List.dropWhile_cons_of_neg (by simp [isFirst])]
  have isPrefix : keyword.isPrefixOf (keyword ++ ' ' :: (first :: others ++ rest)) =
      true := List.isPrefixOf_iff_prefix.mpr (List.prefix_append _ _)
  unfold wordBehind
  rw [if_pos isPrefix]
  dsimp only
  rw [List.drop_left, dropped, taken, List.takeWhile_cons_of_pos isBlank]
  simp

theorem tableNamed_delete {word : List Char} (nonempty : word ≠ [])
    (isWord : ∀ char ∈ word, isIdentifierChar char = true) (ends : EndsWord rest) :
    tableNamed tables ("delete from ".toList ++ (word ++ rest)) = some word := by
  have found := @wordBehind_found tables rest ['f', 'r', 'o', 'm'] word nonempty isWord ends
  have passed : tableNamed tables ("delete from ".toList ++ (word ++ rest)) =
      tableNamed tables (['f', 'r', 'o', 'm'] ++ ' ' :: (word ++ rest)) := by
    simp [tableNamed, wordBehind]
  have isFrom : "from".toList = ['f', 'r', 'o', 'm'] := by decide
  rw [passed, List.cons_append, tableNamed, List.findSome?_cons, isFrom,
    ← List.cons_append, found]
  rfl

theorem loweredName_plain (isPlain : isPlainName table.toList = true) :
    loweredName tables table = table.toList.map Char.toLower := by
  apply text_ascii
  intro char isIn
  exact (isIdentifierChar_bounds (isIdentifierChar_of_isPlainName isPlain char isIn)).1

theorem isIdentifierChar_loweredName (isPlain : isPlainName table.toList = true) :
    ∀ char ∈ loweredName tables table, isIdentifierChar char = true := by
  intro char isIn
  rw [loweredName_plain isPlain] at isIn
  obtain ⟨source, isSource, rfl⟩ := List.mem_map.mp isIn
  have isChar := isIdentifierChar_of_isPlainName isPlain source isSource
  exact (isIdentifierChar_bounds isChar).2.1

/-- The lower case of a plain name stays as it is. -/
theorem text_loweredName (isPlain : isPlainName table.toList = true) :
    tables.lowercase.text (loweredName tables table) = loweredName tables table := by
  have isAscii : ∀ char ∈ loweredName tables table, char.toNat < 128 := fun char isIn =>
    (isIdentifierChar_bounds (isIdentifierChar_loweredName isPlain char isIn)).1
  rw [text_ascii isAscii, loweredName_plain isPlain, List.map_map]
  apply List.map_congr_left
  intro char isIn
  have isChar := isIdentifierChar_of_isPlainName isPlain char isIn
  exact (isIdentifierChar_bounds isChar).2.2

theorem lowered_deleteStatement : ∃ rest, EndsWord rest ∧
    tables.lowercase.text (deleteStatement table condition) =
      "delete from ".toList ++ (loweredName tables table ++ rest) := by
  have begins : tables.lowercase.text "DELETE FROM ".toList = "delete from ".toList := by
    rw [text_ascii (List.all_iff_forall_prop.mp (by decide))]
    decide
  have where_ : tables.lowercase.text " WHERE ".toList = " where ".toList := by
    rw [text_ascii (List.all_iff_forall_prop.mp (by decide))]
    decide
  unfold deleteStatement
  cases condition with
  | none =>
      refine ⟨[], Or.inl rfl, ?_⟩
      rw [text_append, text_append, begins]
      rfl
  | some text =>
      refine ⟨" where ".toList ++ tables.lowercase.text text, Or.inr ⟨_, rfl⟩, ?_⟩
      rw [text_append, text_append, begins, Option.map_some, Option.getD_some, text_append,
        where_]
      rfl

/-- The branches that a statement with "delete" in it takes. -/
theorem warningFor_deleting {sql word : List Char} (graph : RelationshipGraph)
    (named : tableNamed tables (tables.lowercase.text sql) = some word)
    (deletes : containsText "delete".toList (tables.lowercase.text sql) = true) :
    warningFor tables sql (some graph) =
      if containsText "drop".toList (tables.lowercase.text sql) = true then
        if containsText "table".toList (tables.lowercase.text sql) = true then
          .dropTable word
        else .drop word
      else .delete word (childTables tables graph word) := by
  unfold warningFor
  dsimp only
  rw [named, Option.getD_some, Option.map_some, Option.getD_some]
  by_cases drops : containsText "drop".toList (tables.lowercase.text sql) = true
  · by_cases isTable : containsText "table".toList (tables.lowercase.text sql) = true
    · rw [if_pos (Bool.and_eq_true _ _ ▸ ⟨drops, isTable⟩), if_pos drops, if_pos isTable]
    · have notBoth : ¬ ((containsText "drop".toList (tables.lowercase.text sql) &&
          containsText "table".toList (tables.lowercase.text sql)) = true) := by
        rw [Bool.and_eq_true]
        exact fun both => isTable both.2
      rw [if_neg notBoth, if_pos drops, if_pos drops, if_neg isTable]
  · have notBoth : ¬ ((containsText "drop".toList (tables.lowercase.text sql) &&
        containsText "table".toList (tables.lowercase.text sql)) = true) := by
      rw [Bool.and_eq_true]
      exact fun both => drops both.1
    rw [if_neg notBoth, if_neg drops, if_pos deletes, if_neg drops]

/-- A deletion is warned of as one, unless the statement has "drop" in it. -/
theorem warningFor_delete (isPlain : isPlainName table.toList = true)
    (graph : RelationshipGraph) :
    warningFor tables (deleteStatement table condition) (some graph) =
      if containsText "drop".toList
          (tables.lowercase.text (deleteStatement table condition)) = true then
        if containsText "table".toList
            (tables.lowercase.text (deleteStatement table condition)) = true then
          .dropTable (loweredName tables table)
        else .drop (loweredName tables table)
      else .delete (loweredName tables table)
        (childTables tables graph (loweredName tables table)) := by
  obtain ⟨rest, ends, isLower⟩ := @lowered_deleteStatement tables table condition
  have nonempty : loweredName tables table ≠ [] := by
    rw [loweredName_plain isPlain]
    intro isNil
    rw [List.map_eq_nil_iff.mp isNil] at isPlain
    cases isPlain
  apply warningFor_deleting
  · rw [isLower]
    exact tableNamed_delete nonempty (isIdentifierChar_loweredName isPlain) ends
  · rw [isLower]
    simp [containsText]

end Statements

/-! ## The tables that it names -/

section Children

variable {tables : Tables} {graph : RelationshipGraph} {name : List Char} {other : String}

/-- The column that a table is joined on with some other table has the name, up to
case. -/
def MeetsOn (tables : Tables) (pairs : String → Option (String × String))
    (name : List Char) : Prop :=
  ∃ refTable pair, pairs refTable = some pair ∧ loweredName tables pair.1 = name

theorem mem_childTables : other ∈ childTables tables graph name ↔
    loweredName tables other ≠ tables.lowercase.text name ∧
      MeetsOn tables (defaultPair graph other) (tables.lowercase.text name) := by
  unfold childTables MeetsOn
  simp only [List.mem_map, List.mem_filter, Bool.and_eq_true, decide_eq_true_eq,
    List.any_eq_true]
  constructor
  · rintro ⟨entry, ⟨isEntry, apart, joined, isJoined, isName⟩, rfl⟩
    have isEdges : graph.lookup entry.1 = some entry.2 := AList.mem_lookup_iff.mpr isEntry
    have isKeys : entry.2.lookup joined.1 = some joined.2 :=
      AList.mem_lookup_iff.mpr isJoined
    refine ⟨apart, joined.1, (joined.2.fromColumn, joined.2.toColumn), ?_, isName⟩
    rw [defaultPair, edge, isEdges, Option.bind_some, isKeys]
    rfl
  · rintro ⟨apart, refTable, pair, isPair, isName⟩
    unfold defaultPair edge at isPair
    obtain ⟨keys, isKeys, rfl⟩ := Option.map_eq_some_iff.mp isPair
    obtain ⟨edges, isEdges, isEdge⟩ := Option.bind_eq_some_iff.mp isKeys
    have isEntry := AList.mem_lookup_iff.mp isEdges
    have isJoined := AList.mem_lookup_iff.mp isEdge
    exact ⟨⟨other, edges⟩, ⟨isEntry, apart, ⟨refTable, keys⟩, isJoined, isName⟩, rfl⟩

end Children

/-- The warning for a deletion names the dependents of the table just if nothing in the
statement reads "drop", and the other tables with a key to it are those whose first key
to some table is on a column with the name of the one deleted from. -/
theorem warningFor_names_iff (tables : Tables) (unicode : Unicode) (schema : TableColumns)
    (foreignKeys : ForeignKeyMap) (primaryKeys : TableColumns) (table : String)
    (condition : Option (List Char)) (isPlain : isPlainName table.toList = true) :
    NamesDependents schema foreignKeys table
        (warningFor tables (deleteStatement table condition)
          (some (buildRelationshipGraph unicode schema foreignKeys primaryKeys))) ↔
      containsText "drop".toList
          (tables.lowercase.text (deleteStatement table condition)) = false ∧
        ∀ other, other ≠ table ∧ HasKeyTo schema foreignKeys other table ↔
          loweredName tables other ≠ loweredName tables table ∧
            MeetsOn tables
              (fun refTable => (keysInOrder unicode schema foreignKeys
                primaryKeys).findSome? fun key => key.joins other refTable)
              (loweredName tables table) := by
  have children : ∀ other, other ∈ childTables tables
        (buildRelationshipGraph unicode schema foreignKeys primaryKeys)
        (loweredName tables table) ↔
      loweredName tables other ≠ loweredName tables table ∧
        MeetsOn tables
          (fun refTable => (keysInOrder unicode schema foreignKeys
            primaryKeys).findSome? fun key => key.joins other refTable)
          (loweredName tables table) := by
    intro other
    rw [mem_childTables, text_loweredName isPlain]
    unfold MeetsOn
    simp only [defaultPair_buildRelationshipGraph]
  rw [warningFor_delete isPlain]
  cases drops : containsText "drop".toList
      (tables.lowercase.text (deleteStatement table condition)) with
  | true =>
      rw [if_pos rfl]
      constructor
      · rintro ⟨shown, named, isDelete, _⟩
        split at isDelete
        · cases isDelete
        · cases isDelete
      · rintro ⟨isFalse, _⟩
        cases isFalse
  | false =>
      rw [if_neg Bool.false_ne_true]
      constructor
      · rintro ⟨shown, named, isDelete, isExact⟩
        cases isDelete
        refine ⟨rfl, fun other => ?_⟩
        rw [← isExact, children]
      · rintro ⟨_, isExact⟩
        refine ⟨_, _, rfl, fun other => ?_⟩
        rw [isExact, children]

/-! ### Orders and their customers -/

/-- Orders refer to customers by a column. -/
def ordersBy (column : String) : TableColumns :=
  List.toAList [⟨"customers", ["id"]⟩, ⟨"orders", ["id", column]⟩]

def orderKeys (column : String) : ForeignKeyMap :=
  [("orders", [⟨column, "customers", "id"⟩])]

theorem hasKeyTo_orders (column other : String) :
    HasKeyTo (ordersBy column) (orderKeys column) other "customers" ↔ other = "orders" := by
  unfold HasKeyTo orderKeys
  constructor
  · rintro ⟨_, item, isItem, rfl, _⟩
    rw [List.mem_singleton.mp isItem]
  · rintro rfl
    have isTable : "orders" ∈ ordersBy column := by
      apply AList.lookup_isSome.mp
      rw [ordersBy, AList.lookup_to_alist]
      rfl
    exact ⟨isTable, _, List.mem_singleton_self _, rfl, _, List.mem_singleton_self _, rfl⟩

/-- Orders whose column is named like the table are warned of. -/
theorem warningFor_names_orders :
    NamesDependents (ordersBy "customers") (orderKeys "customers") "customers"
      (warningFor asciiTables (deleteStatement "customers" none)
        (some (buildRelationshipGraph ascii (ordersBy "customers") (orderKeys "customers")
          ∅))) := by
  apply (warningFor_names_iff asciiTables ascii (ordersBy "customers")
    (orderKeys "customers") ∅ "customers" none (by decide)).mpr
  have keys : keysInOrder ascii (ordersBy "customers") (orderKeys "customers") ∅ =
      [⟨"orders", "customers", "customers", "id"⟩] := by
    decide
  refine ⟨by decide, fun other => ?_⟩
  rw [hasKeyTo_orders, keys]
  constructor
  · rintro ⟨_, rfl⟩
    exact ⟨by decide, "customers", ("customers", "id"), by decide, rfl⟩
  · rintro ⟨_, refTable, pair, isPair, isName⟩
    simp only [List.findSome?_cons, List.findSome?_nil, InferredKey.joins,
      InferredKey.orient] at isPair
    split at isPair
    · next isForth =>
        split at isForth
        · next forth => exact ⟨by rw [forth.1]; decide, forth.1⟩
        · split at isForth
          · next back =>
              cases isForth
              cases isPair
              exact absurd isName (by decide)
          · cases isForth
    · cases isPair

/-- With the usual name for the column the warning names no table. -/
theorem warningFor_misses_orders :
    ¬ NamesDependents (ordersBy "customer_id") (orderKeys "customer_id") "customers"
      (warningFor asciiTables (deleteStatement "customers" none)
        (some (buildRelationshipGraph ascii (ordersBy "customer_id")
          (orderKeys "customer_id") ∅))) := by
  have isWarning : warningFor asciiTables (deleteStatement "customers" none)
      (some (buildRelationshipGraph ascii (ordersBy "customer_id")
        (orderKeys "customer_id") ∅)) = .delete "customers".toList [] := by
    decide
  rw [isWarning]
  rintro ⟨shown, named, isDelete, isExact⟩
  cases isDelete
  have isNamed := (isExact "orders").mpr ⟨by decide, (hasKeyTo_orders _ _).mpr rfl⟩
  cases isNamed

end DbBuddy.Sql
