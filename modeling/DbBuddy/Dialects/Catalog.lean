import Mathlib.Data.List.Basic

/-!
# Reading declared foreign keys from a catalog

A catalog holds the tables and constraints of a database.  The views of its
information schema are lists of rows, and the introspection queries joins of
them; a query gives its rows in no particular order.
-/

namespace DbBuddy.Dialects

/-! ## Catalogs -/

/-- A table and the schema it is in. -/
structure TableName where
  schema : String
  name : String
  deriving DecidableEq, Repr

/-- What a constraint says about its columns.  A foreign key refers to columns of a
table, and to the key of that table which they make up, by its name. -/
inductive ConstraintKind where
  | primaryKey
  | unique
  | check
  | foreignKey (table : TableName) (key : String) (columns : List String)
  deriving DecidableEq, Repr

/-- A constraint of a table.  The columns of a key are in the key's order. -/
structure Constraint where
  name : String
  table : TableName
  columns : List String
  kind : ConstraintKind
  deriving DecidableEq, Repr

/-- A database as its catalog knows it. -/
structure Catalog where
  tables : List TableName
  constraints : List Constraint
  onTables : ∀ constraint ∈ constraints, constraint.table ∈ tables
  toTables : ∀ constraint ∈ constraints, ∀ table key columns,
    constraint.kind = .foreignKey table key columns → table ∈ tables

/-- A constraint of a catalog that is a foreign key. -/
structure DeclaredKey where
  name : String
  table : TableName
  columns : List String
  refTable : TableName
  refKey : String
  refColumns : List String
  deriving DecidableEq, Repr

def Constraint.declaredKey (constraint : Constraint) : Option DeclaredKey :=
  match constraint.kind with
  | .foreignKey table key columns =>
      some
        { name := constraint.name
          table := constraint.table
          columns := constraint.columns
          refTable := table
          refKey := key
          refColumns := columns }
  | _ => none

/-- The foreign keys a catalog declares. -/
def Catalog.declaredKeys (catalog : Catalog) : List DeclaredKey :=
  catalog.constraints.filterMap Constraint.declaredKey

/-- The pairs of columns that a foreign key compares. -/
def DeclaredKey.pairs (key : DeclaredKey) : List (String × String) :=
  key.columns.zip key.refColumns

/-! ## The information schema -/

/-- Primary keys, unique keys and foreign keys, whose columns make up a key. -/
def Constraint.isKey (constraint : Constraint) : Bool :=
  match constraint.kind with
  | .check => false
  | _ => true

/-- A row of `key_column_usage`; ordinal positions are counted from zero here. -/
structure KeyColumn where
  constraintName : String
  table : TableName
  column : String
  ordinal : ℕ
  deriving DecidableEq, Repr

def Constraint.keyColumns (constraint : Constraint) : List KeyColumn :=
  if constraint.isKey then
    constraint.columns.zipIdx.map fun column =>
      ⟨constraint.name, constraint.table, column.1, column.2⟩
  else []

def Catalog.keyColumnUsage (catalog : Catalog) : List KeyColumn :=
  catalog.constraints.flatMap Constraint.keyColumns

/-- A row of `constraint_column_usage`: a column that a constraint uses, which for
a foreign key is one that it refers to. -/
structure UsedColumn where
  constraintName : String
  table : TableName
  column : String
  deriving DecidableEq, Repr

def Constraint.usedColumns (constraint : Constraint) : List UsedColumn :=
  match constraint.kind with
  | .foreignKey table _ columns =>
      columns.map fun column => ⟨constraint.name, table, column⟩
  | _ =>
      constraint.columns.map fun column => ⟨constraint.name, constraint.table, column⟩

def Catalog.constraintColumnUsage (catalog : Catalog) : List UsedColumn :=
  catalog.constraints.flatMap Constraint.usedColumns

/-! ## The queries -/

structure ForeignKeyMeta where
  column : String
  referencedTable : String
  referencedColumn : String
  deriving DecidableEq, Repr

/-- The tables of `fetch_schema_rich`: those of the schemas in scope. -/
def Catalog.tableNames (catalog : Catalog) (scope : List String) : List String :=
  (catalog.tables.filter fun table => decide (table.schema ∈ scope)).map
    TableName.name

/-- The foreign keys that `PostgresDialect.fetch_schema_rich` reads for a table.  The
scope is `current_schemas(false)`. -/
def Catalog.postgresForeignKeys (catalog : Catalog) (scope : List String)
    (table : String) : List ForeignKeyMeta :=
  catalog.declaredKeys.flatMap fun tc =>
    catalog.keyColumnUsage.flatMap fun kcu =>
      catalog.constraintColumnUsage.filterMap fun ccu =>
        if tc.name = kcu.constraintName ∧ tc.table.schema = kcu.table.schema ∧
            ccu.constraintName = tc.name ∧ ccu.table.schema = tc.table.schema ∧
            tc.table.schema ∈ scope ∧ tc.table.name = table then
          some ⟨kcu.column, ccu.table.name, ccu.column⟩
        else none

/-- The foreign keys that `SQLServerDialect.fetch_schema_rich` reads for a table.  The
schema is `SCHEMA_NAME()`. -/
def Catalog.sqlServerForeignKeys (catalog : Catalog) (schema : String)
    (table : String) : List ForeignKeyMeta :=
  catalog.declaredKeys.flatMap fun rc =>
    catalog.keyColumnUsage.flatMap fun fk =>
      catalog.keyColumnUsage.filterMap fun pk =>
        if rc.name = fk.constraintName ∧ rc.refKey = pk.constraintName ∧
            fk.ordinal = pk.ordinal ∧ fk.table.name = table ∧
            fk.table.schema = schema ∧ pk.table.schema = schema then
          some ⟨fk.column, pk.table.name, pk.column⟩
        else none

/-! ## What the joins bring together -/

section Rows

variable {catalog : Catalog} {scope : List String} {schema table : String}
variable {found : ForeignKeyMeta}

theorem mem_keyColumnUsage {used : KeyColumn} :
    used ∈ catalog.keyColumnUsage ↔
      ∃ constraint ∈ catalog.constraints, constraint.isKey = true ∧
        constraint.name = used.constraintName ∧ constraint.table = used.table ∧
        constraint.columns[used.ordinal]? = some used.column := by
  unfold Catalog.keyColumnUsage
  rw [List.mem_flatMap]
  apply exists_congr
  intro constraint
  apply and_congr_right
  intro _
  unfold Constraint.keyColumns
  split
  · rename_i isKey
    simp only [List.mem_map, Prod.exists, List.mem_zipIdx_iff_getElem?]
    constructor
    · rintro ⟨column, ordinal, isAt, rfl⟩
      exact ⟨isKey, rfl, rfl, isAt⟩
    · rintro ⟨_, sameName, sameTable, isAt⟩
      refine ⟨used.column, used.ordinal, isAt, ?_⟩
      rw [sameName, sameTable]
  · rename_i notKey
    simp [notKey]

theorem mem_constraintColumnUsage {used : UsedColumn} :
    used ∈ catalog.constraintColumnUsage ↔
      ∃ constraint ∈ catalog.constraints, used ∈ constraint.usedColumns :=
  List.mem_flatMap

theorem name_of_mem_usedColumns {constraint : Constraint} {used : UsedColumn}
    (isUsed : used ∈ constraint.usedColumns) :
    used.constraintName = constraint.name := by
  unfold Constraint.usedColumns at isUsed
  split at isUsed
  · obtain ⟨column, _, rfl⟩ := List.mem_map.mp isUsed
    rfl
  · obtain ⟨column, _, rfl⟩ := List.mem_map.mp isUsed
    rfl

/-- On PostgreSQL, the name of a foreign key of `table` brings together the columns
of any key of its schema and the columns that any constraint uses in its schema, if
they bear that name. -/
def PostgresMeets (catalog : Catalog) (scope : List String)
    (table column refTable refColumn : String) : Prop :=
  ∃ key ∈ catalog.declaredKeys,
    key.table.name = table ∧ key.table.schema ∈ scope ∧
      (∃ other ∈ catalog.constraints, other.isKey = true ∧ other.name = key.name ∧
        other.table.schema = key.table.schema ∧ column ∈ other.columns) ∧
      ∃ other ∈ catalog.constraints, other.name = key.name ∧
        ∃ used ∈ other.usedColumns,
          used.table = ⟨key.table.schema, refTable⟩ ∧ used.column = refColumn

/-- On SQL Server, the two names that a foreign key of any schema has bring together
the columns at one position of two keys of the schema at hand. -/
def SqlServerMeets (catalog : Catalog) (schema : String)
    (table column refTable refColumn : String) : Prop :=
  ∃ key ∈ catalog.declaredKeys,
    ∃ own ∈ catalog.constraints, own.isKey = true ∧ own.name = key.name ∧
      own.table = ⟨schema, table⟩ ∧
      ∃ referred ∈ catalog.constraints, referred.isKey = true ∧
        referred.name = key.refKey ∧ referred.table = ⟨schema, refTable⟩ ∧
        ∃ position : ℕ, own.columns[position]? = some column ∧
          referred.columns[position]? = some refColumn

theorem mem_postgresForeignKeys :
    found ∈ catalog.postgresForeignKeys scope table ↔
      PostgresMeets catalog scope table found.column found.referencedTable
        found.referencedColumn := by
  unfold Catalog.postgresForeignKeys PostgresMeets
  simp only [List.mem_flatMap, List.mem_filterMap]
  apply exists_congr
  intro tc
  apply and_congr_right
  intro _
  constructor
  · intro isRow
    obtain ⟨kcu, isKeyColumn, ccu, isUsed, isFound⟩ := isRow
    split at isFound
    · rename_i joined
      cases isFound
      obtain ⟨name, schema, usedName, usedSchema, inScope, isTable⟩ := joined
      obtain ⟨own, isOwn, isKey, ownName, ownTable, isAt⟩ :=
        mem_keyColumnUsage.mp isKeyColumn
      obtain ⟨other, isOther, isUsed⟩ := mem_constraintColumnUsage.mp isUsed
      refine ⟨isTable, inScope, ⟨own, isOwn, isKey, ?_, ?_, ?_⟩,
        other, isOther, ?_, ccu, isUsed, ?_, rfl⟩
      · rw [ownName, name]
      · rw [ownTable, schema]
      · exact List.mem_of_getElem? isAt
      · rw [← name_of_mem_usedColumns isUsed, usedName]
      · rw [← usedSchema]
    · cases isFound
  · intro meets
    obtain ⟨isTable, inScope, ⟨own, isOwn, isKey, ownName, ownSchema, isColumn⟩,
      other, isOther, otherName, used, isUsed, usedTable, usedColumn⟩ := meets
    obtain ⟨position, isAt⟩ := List.mem_iff_getElem?.mp isColumn
    have isKeyColumn : (⟨tc.name, own.table, found.column, position⟩ : KeyColumn) ∈
        catalog.keyColumnUsage :=
      mem_keyColumnUsage.mpr ⟨own, isOwn, isKey, ownName, rfl, isAt⟩
    have usedName : used.constraintName = tc.name := by
      rw [name_of_mem_usedColumns isUsed, otherName]
    refine ⟨_, isKeyColumn, used,
      mem_constraintColumnUsage.mpr ⟨other, isOther, isUsed⟩, ?_⟩
    rw [if_pos ⟨rfl, ownSchema.symm, usedName, by rw [usedTable], inScope, isTable⟩]
    rw [usedTable, usedColumn]

theorem mem_sqlServerForeignKeys :
    found ∈ catalog.sqlServerForeignKeys schema table ↔
      SqlServerMeets catalog schema table found.column found.referencedTable
        found.referencedColumn := by
  unfold Catalog.sqlServerForeignKeys SqlServerMeets
  simp only [List.mem_flatMap, List.mem_filterMap]
  apply exists_congr
  intro rc
  apply and_congr_right
  intro _
  constructor
  · intro isRow
    obtain ⟨fk, isOwnColumn, pk, isRefColumn, isFound⟩ := isRow
    split at isFound
    · rename_i joined
      cases isFound
      obtain ⟨name, refName, ordinal, isTable, isSchema, isRefSchema⟩ := joined
      obtain ⟨own, isOwn, isKey, ownName, ownTable, isAt⟩ :=
        mem_keyColumnUsage.mp isOwnColumn
      obtain ⟨referred, isReferred, isRefKey, referredName, referredTable, isRefAt⟩ :=
        mem_keyColumnUsage.mp isRefColumn
      refine ⟨own, isOwn, isKey, ?_, ?_, referred, isReferred, isRefKey, ?_, ?_,
        fk.ordinal, isAt, ?_⟩
      · rw [ownName, name]
      · rw [ownTable, ← isTable, ← isSchema]
      · rw [referredName, refName]
      · rw [referredTable, ← isRefSchema]
      · rw [ordinal]
        exact isRefAt
    · cases isFound
  · intro meets
    obtain ⟨own, isOwn, isKey, ownName, ownTable, referred, isReferred, isRefKey,
      referredName, referredTable, position, isAt, isRefAt⟩ := meets
    have isOwnColumn :
        (⟨rc.name, own.table, found.column, position⟩ : KeyColumn) ∈
          catalog.keyColumnUsage :=
      mem_keyColumnUsage.mpr ⟨own, isOwn, isKey, ownName, rfl, isAt⟩
    have isRefColumn :
        (⟨rc.refKey, referred.table, found.referencedColumn, position⟩ :
          KeyColumn) ∈ catalog.keyColumnUsage :=
      mem_keyColumnUsage.mpr
        ⟨referred, isReferred, isRefKey, referredName, rfl, isRefAt⟩
    refine ⟨_, isOwnColumn, _, isRefColumn, ?_⟩
    rw [if_pos ⟨rfl, rfl, rfl, by rw [ownTable], by rw [ownTable],
      by rw [referredTable]⟩]
    rw [referredTable]

end Rows

end DbBuddy.Dialects
