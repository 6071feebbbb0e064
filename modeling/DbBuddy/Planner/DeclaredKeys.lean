import DbBuddy.Dialects.Catalog
import DbBuddy.Planner.RelationshipGraph

/-!
# From declared foreign keys to joins

What a dialect reads from the catalog becomes the edges of the relationship graph.
An edge's pair of columns is a join condition of its own, so it has to say all that
some declared key says.
-/

namespace DbBuddy.Planner

open DbBuddy.Dialects

/-! ## Rows that keys relate -/

/-- A row of a table; a column without a value is `NULL`. -/
abbrev Row := String → Option String

/-- The rows are related by comparing the two columns of a pair. -/
def JoinedOn (pair : String × String) (row other : Row) : Prop :=
  ∃ value, row pair.1 = some value ∧ other pair.2 = some value

/-- A row refers to another one by a foreign key. -/
def Refers (key : DeclaredKey) (row other : Row) : Prop :=
  ∀ pair ∈ key.pairs, JoinedOn pair row other

/-- The key has one pair of columns. -/
def SinglePair (key : DeclaredKey) (pair : String × String) : Prop :=
  key.pairs ≠ [] ∧ ∀ other ∈ key.pairs, other = pair

theorem joinedOn_swap {pair : String × String} {row other : Row} :
    JoinedOn pair.swap row other ↔ JoinedOn pair other row := by
  constructor
  · rintro ⟨value, left, right⟩
    exact ⟨value, right, left⟩
  · rintro ⟨value, left, right⟩
    exact ⟨value, right, left⟩

/-- A pair of columns relates the rows that a key relates, exactly if it is the
key's only one. -/
theorem joinedOn_iff_refers {key : DeclaredKey} {pair : String × String} :
    (∀ row other, JoinedOn pair row other ↔ Refers key row other) ↔
      SinglePair key pair := by
  constructor
  · intro alike
    constructor
    · intro isEmpty
      have related : Refers key (fun _ => none) (fun _ => none) := by
        intro other isPair
        rw [isEmpty] at isPair
        cases isPair
      obtain ⟨value, isNull, _⟩ := (alike _ _).mpr related
      cases isNull
    · intro compared isPair
      -- Two rows that agree in the pair's columns and nowhere else.
      have related := (alike
        (fun column => if column = pair.1 then some "" else none)
        (fun column => if column = pair.2 then some "" else none)).mp
        ⟨"", by simp, by simp⟩
      obtain ⟨value, left, right⟩ := related compared isPair
      apply Prod.ext
      · by_contra different
        simp only [if_neg different] at left
        cases left
      · by_contra different
        simp only [if_neg different] at right
        cases right
  · intro single row other
    obtain ⟨notEmpty, isOnly⟩ := single
    constructor
    · intro joined compared isPair
      rw [isOnly compared isPair]
      exact joined
    · intro related
      obtain ⟨first, isFirst⟩ := List.exists_mem_of_ne_nil _ notEmpty
      rw [← isOnly first isFirst]
      exact related first isFirst

/-! ## The graph that a schema is prepared with -/

/-- `foreign_keys` of `get_context_ex`: the tables that have any. -/
def foreignKeyMap (tables : List String) (read : String → List ForeignKeyMeta) :
    ForeignKeyMap :=
  tables.eraseDups.filterMap fun table =>
    if read table = [] then none
    else some (table, (read table).map fun found =>
      ⟨found.column, found.referencedTable, found.referencedColumn⟩)

/-- The graph of what a dialect reads. -/
def graphOf (tables : List String) (read : String → List ForeignKeyMeta) :
    RelationshipGraph :=
  declaredGraph tables (foreignKeyMap tables read)

section Graph

variable {tables : List String} {read : String → List ForeignKeyMeta}
variable {meets : String → String → String → String → Prop}

theorem mem_foreignKeyMap {item : String × List ForeignKey} :
    item ∈ foreignKeyMap tables read ↔
      item.1 ∈ tables ∧ read item.1 ≠ [] ∧
        item.2 = (read item.1).map fun found =>
          ⟨found.column, found.referencedTable, found.referencedColumn⟩ := by
  unfold foreignKeyMap
  rw [List.mem_filterMap]
  constructor
  · rintro ⟨table, isTable, isItem⟩
    split at isItem
    · cases isItem
    · rename_i notEmpty
      cases isItem
      exact ⟨List.mem_eraseDups.mp isTable, notEmpty, rfl⟩
  · rintro ⟨isTable, notEmpty, isKeys⟩
    refine ⟨item.1, List.mem_eraseDups.mpr isTable, ?_⟩
    rw [if_neg notEmpty, ← isKeys]

/-- The pairs of an edge are those that the reading of either table brings together. -/
theorem mem_edgePairs_graphOf
    (reads : ∀ table found, found ∈ read table ↔
      meets table found.column found.referencedTable found.referencedColumn)
    {left right : String} {pair : String × String} :
    pair ∈ edgePairs (graphOf tables read) left right ↔
      left ∈ tables ∧ right ∈ tables ∧
        (meets left pair.1 right pair.2 ∨ meets right pair.2 left pair.1) := by
  unfold graphOf
  rw [mem_edgePairs_declaredGraph]
  constructor
  · rintro ⟨item, isItem, _, key, isKey, isRef, gives⟩
    obtain ⟨isTable, _, isKeys⟩ := mem_foreignKeyMap.mp isItem
    rw [isKeys] at isKey
    obtain ⟨found, isFound, rfl⟩ := List.mem_map.mp isKey
    have met := (reads item.1 found).mp isFound
    rcases gives with ⟨rfl, rfl, rfl⟩ | ⟨rfl, rfl, rfl⟩
    · exact ⟨isTable, isRef, Or.inl met⟩
    · exact ⟨isRef, isTable, Or.inr met⟩
  · rintro ⟨isLeft, isRight, met⟩
    have given : ∀ table column refTable refColumn, table ∈ tables →
        meets table column refTable refColumn →
        ∃ item ∈ foreignKeyMap tables read, item.1 = table ∧
          (⟨column, refTable, refColumn⟩ : ForeignKey) ∈ item.2 := by
      intro table column refTable refColumn isTable met
      have isFound : (⟨column, refTable, refColumn⟩ : ForeignKeyMeta) ∈ read table :=
        (reads table _).mpr met
      let keys : List ForeignKey := (read table).map fun found =>
        ⟨found.column, found.referencedTable, found.referencedColumn⟩
      refine ⟨(table, keys), mem_foreignKeyMap.mpr
        ⟨isTable, List.ne_nil_of_mem isFound, rfl⟩, rfl, ?_⟩
      exact List.mem_map.mpr ⟨_, isFound, rfl⟩
    rcases met with met | met
    · obtain ⟨item, isItem, rfl, isKey⟩ := given _ _ _ _ isLeft met
      exact ⟨item, isItem, isLeft, _, isKey, isRight, Or.inl ⟨rfl, rfl, rfl⟩⟩
    · obtain ⟨item, isItem, rfl, isKey⟩ := given _ _ _ _ isRight met
      exact ⟨item, isItem, isRight, _, isKey, isLeft, Or.inr ⟨rfl, rfl, rfl⟩⟩

end Graph

/-! ## Faithful joins -/

/-- The key leads from one table to the other, and both are in scope. -/
structure KeyLeads (catalog : Catalog) (scope : List String) (key : DeclaredKey)
    (table refTable : String) : Prop where
  declared : key ∈ catalog.declaredKeys
  inScope : key.table.schema ∈ scope
  refInScope : key.refTable.schema ∈ scope
  isTable : key.table.name = table
  isRefTable : key.refTable.name = refTable

/-- Every pair of an edge relates the rows that one declared key between its two
tables relates, and every declared key has such a pair. -/
structure FaithfulJoins (catalog : Catalog) (scope : List String)
    (graph : RelationshipGraph) : Prop where
  sound : ∀ table refTable pair, pair ∈ edgePairs graph table refTable →
    ∃ key, (KeyLeads catalog scope key table refTable ∧
        ∀ row other, JoinedOn pair row other ↔ Refers key row other) ∨
      (KeyLeads catalog scope key refTable table ∧
        ∀ row other, JoinedOn pair row other ↔ Refers key other row)
  complete : ∀ key table refTable, KeyLeads catalog scope key table refTable →
    ∃ pair ∈ edgePairs graph table refTable,
      ∀ row other, JoinedOn pair row other ↔ Refers key row other

/-- When the names of constraints do no harm: the declared keys between tables in
scope have one pair of columns each, their names bring these columns together, and
no names bring together columns that are not the one pair of a declared key. -/
structure KeysApart (catalog : Catalog) (scope : List String)
    (meets : String → String → String → String → Prop) : Prop where
  single : ∀ key table refTable, KeyLeads catalog scope key table refTable →
    ∃ pair, SinglePair key pair ∧
      (meets table pair.1 refTable pair.2 ∨ meets refTable pair.2 table pair.1)
  declared : ∀ table column refTable refColumn,
    table ∈ catalog.tableNames scope → refTable ∈ catalog.tableNames scope →
    meets table column refTable refColumn →
    ∃ key, (KeyLeads catalog scope key table refTable ∧
        SinglePair key (column, refColumn)) ∨
      (KeyLeads catalog scope key refTable table ∧
        SinglePair key (refColumn, column))

section Faithful

variable {catalog : Catalog} {scope : List String} {key : DeclaredKey}
variable {table refTable : String}

theorem KeyLeads.tables (leads : KeyLeads catalog scope key table refTable) :
    table ∈ catalog.tableNames scope ∧ refTable ∈ catalog.tableNames scope := by
  obtain ⟨constraint, isConstraint, isKey⟩ := List.mem_filterMap.mp leads.declared
  have listed : ∀ name : TableName, name ∈ catalog.tables → name.schema ∈ scope →
      name.name ∈ catalog.tableNames scope := by
    intro name isName inScope
    apply List.mem_map_of_mem
    exact List.mem_filter.mpr ⟨isName, decide_eq_true inScope⟩
  unfold Constraint.declaredKey at isKey
  split at isKey
  · rename_i referred refKey columns isKind
    cases isKey
    rw [← leads.isTable, ← leads.isRefTable]
    exact ⟨listed _ (catalog.onTables _ isConstraint) leads.inScope,
      listed _ (catalog.toTables _ isConstraint _ _ _ isKind) leads.refInScope⟩
  · cases isKey

/-- The joins are faithful exactly if the names of constraints do no harm. -/
theorem faithfulJoins_iff {read : String → List ForeignKeyMeta}
    {meets : String → String → String → String → Prop}
    (reads : ∀ table found, found ∈ read table ↔
      meets table found.column found.referencedTable found.referencedColumn) :
    FaithfulJoins catalog scope (graphOf (catalog.tableNames scope) read) ↔
      KeysApart catalog scope meets := by
  have alike : ∀ (key : DeclaredKey) (pair : String × String),
      (∀ row other, JoinedOn pair row other ↔ Refers key other row) ↔
        SinglePair key pair.swap := by
    intro key pair
    rw [← joinedOn_iff_refers]
    constructor
    · intro related row other
      rw [joinedOn_swap]
      exact related other row
    · intro related row other
      rw [← joinedOn_swap]
      exact related other row
  constructor
  · intro faithful
    constructor
    · intro key table refTable leads
      obtain ⟨pair, isPair, related⟩ := faithful.complete key table refTable leads
      have met := (mem_edgePairs_graphOf reads).mp isPair
      exact ⟨pair, joinedOn_iff_refers.mp related, met.2.2⟩
    · intro table column refTable refColumn isTable isRef met
      have isPair : (column, refColumn) ∈
          edgePairs (graphOf (catalog.tableNames scope) read) table refTable :=
        (mem_edgePairs_graphOf reads).mpr ⟨isTable, isRef, Or.inl met⟩
      obtain ⟨key, isKey⟩ := faithful.sound table refTable (column, refColumn) isPair
      refine ⟨key, isKey.imp ?_ ?_⟩
      · rintro ⟨leads, related⟩
        exact ⟨leads, joinedOn_iff_refers.mp related⟩
      · rintro ⟨leads, related⟩
        exact ⟨leads, (alike key (column, refColumn)).mp related⟩
  · intro apart
    constructor
    · intro table refTable pair isPair
      obtain ⟨isTable, isRef, met⟩ := (mem_edgePairs_graphOf reads).mp isPair
      rcases met with met | met
      · obtain ⟨key, isKey⟩ := apart.declared _ _ _ _ isTable isRef met
        refine ⟨key, isKey.imp ?_ ?_⟩
        · rintro ⟨leads, single⟩
          exact ⟨leads, joinedOn_iff_refers.mpr single⟩
        · rintro ⟨leads, single⟩
          exact ⟨leads, (alike key pair).mpr single⟩
      · obtain ⟨key, isKey⟩ := apart.declared _ _ _ _ isRef isTable met
        refine ⟨key, isKey.symm.imp ?_ ?_⟩
        · rintro ⟨leads, single⟩
          exact ⟨leads, joinedOn_iff_refers.mpr single⟩
        · rintro ⟨leads, single⟩
          exact ⟨leads, (alike key pair).mpr single⟩
    · intro key table refTable leads
      obtain ⟨pair, single, met⟩ := apart.single key table refTable leads
      obtain ⟨isTable, isRef⟩ := leads.tables
      exact ⟨pair, (mem_edgePairs_graphOf reads).mpr ⟨isTable, isRef, met⟩,
        joinedOn_iff_refers.mpr single⟩

end Faithful

/-- On either engine and for every catalog, the joins of the graph are faithful to the
declared keys exactly if the names of its constraints do no harm. -/
theorem declaredKeys_faithful_iff (catalog : Catalog) :
    (∀ scope,
      FaithfulJoins catalog scope
          (graphOf (catalog.tableNames scope) (catalog.postgresForeignKeys scope)) ↔
        KeysApart catalog scope (PostgresMeets catalog scope)) ∧
    ∀ schema,
      FaithfulJoins catalog [schema]
          (graphOf (catalog.tableNames [schema])
            (catalog.sqlServerForeignKeys schema)) ↔
        KeysApart catalog [schema] (SqlServerMeets catalog schema) := by
  constructor
  · intro scope
    apply faithfulJoins_iff
    exact fun _ _ => mem_postgresForeignKeys
  · intro schema
    apply faithfulJoins_iff
    exact fun _ _ => mem_sqlServerForeignKeys

/-! ### Two tables with a constraint name in common, and a key of two columns -/

namespace Shop

def ofShop (name : String) : TableName :=
  ⟨"public", name⟩

def ordersToCustomers : DeclaredKey :=
  ⟨"fk", ofShop "orders", ["customer_id"], ofShop "customers", "customers_pkey",
    ["id"]⟩

def invoicesToVendors : DeclaredKey :=
  ⟨"fk", ofShop "invoices", ["vendor_id"], ofShop "vendors", "vendors_pkey",
    ["id"]⟩

def stockToShelves : DeclaredKey :=
  ⟨"fk_shelf", ofShop "stock", ["warehouse", "shelf"], ofShop "shelves",
    "shelves_pkey", ["warehouse", "number"]⟩

/-- A declared key as the constraint it is. -/
def constraintOf (key : DeclaredKey) : Constraint :=
  ⟨key.name, key.table, key.columns,
    .foreignKey key.refTable key.refKey key.refColumns⟩

/-- Orders refer to customers and invoices to vendors, by constraints of one name. -/
def sharedName : Catalog where
  tables := [ofShop "customers", ofShop "vendors", ofShop "orders",
    ofShop "invoices"]
  constraints := [
    ⟨"customers_pkey", ofShop "customers", ["id"], .primaryKey⟩,
    ⟨"vendors_pkey", ofShop "vendors", ["id"], .primaryKey⟩,
    constraintOf ordersToCustomers, constraintOf invoicesToVendors]
  onTables := by decide
  toTables := by
    simp [constraintOf, ordersToCustomers, invoicesToVendors]

/-- Stock refers to a shelf by the warehouse and the shelf's number there. -/
def twoColumns : Catalog where
  tables := [ofShop "shelves", ofShop "stock"]
  constraints := [
    ⟨"shelves_pkey", ofShop "shelves", ["warehouse", "number"], .primaryKey⟩,
    constraintOf stockToShelves]
  onTables := by decide
  toTables := by
    simp [constraintOf, stockToShelves]

end Shop

/-- A shared name joins orders to customers on a column of invoices, and a key of two
columns is taken apart. -/
theorem declaredKeys_misread :
    ¬ FaithfulJoins Shop.sharedName ["public"]
        (graphOf (Shop.sharedName.tableNames ["public"])
          (Shop.sharedName.postgresForeignKeys ["public"])) ∧
      ¬ FaithfulJoins Shop.twoColumns ["public"]
        (graphOf (Shop.twoColumns.tableNames ["public"])
          (Shop.twoColumns.sqlServerForeignKeys "public")) := by
  constructor
  · intro faithful
    have met : PostgresMeets Shop.sharedName ["public"] "orders" "vendor_id"
        "customers" "id" := by
      refine ⟨Shop.ordersToCustomers, by decide, rfl, by decide,
        ⟨Shop.constraintOf Shop.invoicesToVendors, by decide, rfl, rfl, rfl,
          by decide⟩,
        Shop.constraintOf Shop.ordersToCustomers, by decide, rfl,
        ⟨"fk", Shop.ofShop "customers", "id"⟩, by decide, rfl, rfl⟩
    have isPair : ("vendor_id", "id") ∈ edgePairs
        (graphOf (Shop.sharedName.tableNames ["public"])
          (Shop.sharedName.postgresForeignKeys ["public"]))
        "orders" "customers" :=
      (mem_edgePairs_graphOf fun _ _ => mem_postgresForeignKeys).mpr
        ⟨by decide, by decide, Or.inl met⟩
    obtain ⟨key, isKey⟩ := faithful.sound _ _ _ isPair
    have declared : ∀ key ∈ Shop.sharedName.declaredKeys,
        key = Shop.ordersToCustomers ∨ key = Shop.invoicesToVendors := by
      decide
    rcases isKey with ⟨leads, related⟩ | ⟨leads, _⟩
    · rcases declared key leads.declared with rfl | rfl
      · have same := (joinedOn_iff_refers.mp related).2 ("customer_id", "id")
          (by decide)
        exact absurd same (by decide)
      · exact absurd leads.isTable (by decide)
    · rcases declared key leads.declared with rfl | rfl
      · exact absurd leads.isTable (by decide)
      · exact absurd leads.isTable (by decide)
  · intro faithful
    obtain ⟨pair, _, related⟩ := faithful.complete Shop.stockToShelves "stock"
      "shelves" ⟨by decide, by decide, by decide, rfl, rfl⟩
    have single := (joinedOn_iff_refers.mp related).2
    have same : (("warehouse", "warehouse") : String × String) =
        ("shelf", "number") := by
      rw [single ("warehouse", "warehouse") (by decide),
        single ("shelf", "number") (by decide)]
    exact absurd same (by decide)

end DbBuddy.Planner
