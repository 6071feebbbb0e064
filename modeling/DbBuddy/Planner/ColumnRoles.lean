import DbBuddy.Library.Indexes
import DbBuddy.Library.TableUpdates
import DbBuddy.Planner.Comparisons

/-!
# What columns mean

Every column has a role by its name and its type.  What a model has said about a column counts
only where that role is a weak default.  The role decides which column names a row to a reader.
-/

namespace DbBuddy.Planner.ValueGrounding

open DbBuddy.Library
open DbBuddy.Insights (Text)
open DbBuddy.Planner.TypeHandlers (ColumnTypes)

/-! ## Roles -/

/-- `ROLES` -/
inductive Role where
  | identifier
  | personName
  | label
  | measure
  | temporal
  | dimension
  | freeText
  deriving DecidableEq, Repr

abbrev Roles := Dict Text (Dict Text Role)

/-- `roles.get(table, {}).get(column)` -/
def roleOf (roles : Roles) (place : Text × Text) : Option Role :=
  (roles.lookup place.1).bind fun columns => columns.lookup place.2

/-- `str.isalpha`, `str.isdigit`, `str.isupper` and `str.islower` of one character. -/
structure Letters where
  isAlpha : Char → Bool
  isDigit : Char → Bool
  isUpper : Char → Bool
  isLower : Char → Bool

def oneOf (texts : List String) (text : Text) : Bool :=
  texts.any fun one => one.toList == text

def endsWithAny (ends : List String) (text : Text) : Bool :=
  ends.any fun ending => ending.toList.isSuffixOf text

def containsAny (parts : List String) (text : Text) : Bool :=
  parts.any fun part => containsText part.toList text

def personNameExact : List String :=
  ["name", "full_name", "fullname", "display_name", "username", "user_name"]

def labelExact : List String :=
  ["title", "label"]

def temporalTypes : List String :=
  ["date", "time", "timestamp", "datetime", "year"]

def numericTypes : List String :=
  ["int", "decimal", "numeric", "float", "double", "real", "money", "number", "bigint",
    "smallint"]

def nonMeasureNameHints : List String :=
  ["id", "code", "number", "no", "zip", "postal", "phone", "year"]

def freeTextNames : List String :=
  ["description", "notes", "comment", "comments", "body", "content", "bio", "summary"]

section Classification

variable (lowercase : Lowercase) (letters : Letters)

/-- `len(name) > 2 and name.endswith("ID") and name[-3].islower()` -/
def endsInCamelId (name : Text) : Bool :=
  match name.reverse with
  | 'D' :: 'I' :: char :: _ => letters.isLower char
  | _ => false

/-- `is_identifier_name` -/
def isIdentifierName (name : Text) : Bool :=
  if name = [] then false
  else
    let lo := lowercase.text name
    if oneOf ["id", "pk", "uuid", "guid"] lo = true then true
    else if endsWithAny ["_id"] lo = true then true
    else endsInCamelId letters name

/-- `_type_of` -/
def typeOf (types : ColumnTypes) (table column : Text) : Text :=
  lowercase.text (((types.lookup table).bind fun columns => columns.lookup column).getD [])

/-- `classify_column` -/
def classifyColumn (column sqlType : Text) : Role :=
  let cl := lowercase.text column
  if isIdentifierName lowercase letters column = true then .identifier
  else if oneOf personNameExact cl = true ∨ endsWithAny ["_name"] cl = true then .personName
  else if oneOf labelExact cl = true ∨ endsWithAny ["_title", "_label"] cl = true then .label
  else if containsAny temporalTypes sqlType = true ∨
      endsWithAny ["_at", "_date", "_time"] cl = true then .temporal
  else if containsAny numericTypes sqlType = true then
    if containsAny nonMeasureNameHints cl = true then
      if containsAny ["id", "code"] cl = true ∨ endsWithAny ["no"] cl = true then .identifier
      else .dimension
    else .measure
  else if oneOf freeTextNames cl = true then .freeText
  else .dimension

/-- `classify_roles` -/
def classifyRoles (schema : TypeHandlers.Schema) (types : ColumnTypes) : Roles :=
  OrderedDict.mapValues schema fun table columns =>
    columns.foldl (fun roles column =>
      roles.assign column (classifyColumn lowercase letters column
        (typeOf lowercase types table column))) ∅

end Classification

/-! ## What a model has said -/

/-- What the semantic layer keeps about a column; it may be no dictionary. -/
inductive Info where
  | other
  | labelled (source term : Option Text)

abbrev Semantic := Dict Text (Dict Text Info)

/-- `_AI_TERM_TO_ROLE` -/
def aiTermToRole : List (String × Role) :=
  [("identifier", .identifier), ("name", .personName), ("date", .temporal),
    ("datetime", .temporal), ("timestamp", .temporal), ("quantity", .measure),
    ("measure", .measure), ("amount", .measure), ("status", .dimension),
    ("category", .dimension), ("description", .freeText), ("text", .freeText)]

/-- `_AI_OVERRIDABLE` -/
def Role.isWeak : Role → Bool
  | .dimension => true
  | .freeText => true
  | _ => false

section Overlay

variable (lowercase : Lowercase)

/-- `ai_role_from_term` -/
def aiRoleFromTerm (term : Option Text) : Option Role :=
  match term with
  | none => none
  | some [] => none
  | some (char :: rest) =>
      aiTermToRole.lookup (String.ofList (lowercase.text (strip (char :: rest))))

/-- The role of a column that a model has labelled. -/
def Info.aiRole : Info → Option Role
  | .other => none
  | .labelled source term =>
      if source = some "ai".toList then aiRoleFromTerm lowercase term else none

/-- The body of the loop over the columns of a table. -/
def overlayColumn (prior : Roles) (entry : (Text × Text) × Info) : Roles :=
  match entry.2.aiRole lowercase, roleOf prior entry.1 with
  | some aiRole, some current =>
      if current.isWeak = true ∧ aiRole ≠ current then
        prior.assign entry.1.1
          (((prior.lookup entry.1.1).getD ∅).assign entry.1.2 aiRole)
      else prior
  | _, _ => prior

/-- The columns that the semantic layer speaks of, table by table. -/
def Semantic.columns (semantic : Semantic) : List ((Text × Text) × Info) :=
  semantic.entries.flatMap fun table =>
    table.2.entries.map fun column => ((table.1, column.1), column.2)

/-- `overlay_ai_roles` -/
def overlayAiRoles (prior : Roles) (semantic : Semantic) : Roles :=
  semantic.columns.foldl (overlayColumn lowercase) prior

end Overlay

section Filling

variable {lowercase : Lowercase} {prior : Roles} {semantic : Semantic} {place : Text × Text}

/-- What the semantic layer keeps about a column. -/
def infoOf (semantic : Semantic) (place : Text × Text) : Option Info :=
  (semantic.lookup place.1).bind fun columns => columns.lookup place.2

theorem mem_columns {entry : (Text × Text) × Info} :
    entry ∈ semantic.columns ↔ infoOf semantic entry.1 = some entry.2 := by
  obtain ⟨⟨table, column⟩, info⟩ := entry
  rw [infoOf, Option.bind_eq_some_iff]
  constructor
  · intro isIn
    obtain ⟨tableEntry, isTable, inTable⟩ := List.mem_flatMap.mp isIn
    obtain ⟨columnEntry, isColumn, isEntry⟩ := List.mem_map.mp inTable
    cases isEntry
    exact ⟨_, AList.mem_lookup_iff.mpr isTable, AList.mem_lookup_iff.mpr isColumn⟩
  · intro ⟨columns, isTable, isColumn⟩
    apply List.mem_flatMap.mpr
    refine ⟨⟨table, columns⟩, AList.mem_lookup_iff.mp isTable, ?_⟩
    apply List.mem_map.mpr
    exact ⟨⟨column, info⟩, AList.mem_lookup_iff.mp isColumn, rfl⟩

/-- The semantic layer speaks of each column once. -/
theorem nodup_columns (semantic : Semantic) : (semantic.columns.map Prod.fst).Nodup := by
  have byTable : semantic.columns.map Prod.fst = semantic.entries.flatMap fun table =>
      table.2.keys.map fun column => (table.1, column) := by
    rw [Semantic.columns, List.map_flatMap]
    congr 1
    funext table
    rw [AList.keys, List.keys, List.map_map, List.map_map]
    rfl
  rw [byTable, List.nodup_flatMap]
  constructor
  · intro table _
    apply List.Nodup.map _ table.2.keys_nodup
    intro first second same
    exact congrArg Prod.snd same
  · have distinct : semantic.entries.Pairwise fun first second => first.1 ≠ second.1 :=
      List.pairwise_map.mp semantic.nodupKeys
    apply distinct.imp
    intro first second different place inFirst inSecond
    obtain ⟨column, _, rfl⟩ := List.mem_map.mp inFirst
    obtain ⟨other, _, isOther⟩ := List.mem_map.mp inSecond
    exact different (congrArg Prod.fst isOther).symm

theorem find?_columns (semantic : Semantic) (place : Text × Text) :
    (semantic.columns.find? fun entry => decide (entry.1 = place)).map Prod.snd =
      infoOf semantic place := by
  cases isFound : semantic.columns.find? fun entry => decide (entry.1 = place) with
  | some entry =>
      have isIn := mem_columns.mp (List.mem_of_find?_eq_some isFound)
      have isPlace : entry.1 = place := by simpa using List.find?_some isFound
      rw [isPlace] at isIn
      rw [isIn]
      rfl
  | none =>
      cases isInfo : infoOf semantic place with
      | none => rfl
      | some info =>
          have isIn : (place, info) ∈ semantic.columns := mem_columns.mpr isInfo
          exact absurd (decide_eq_true rfl) (List.find?_eq_none.mp isFound _ isIn)

/-- The role of a column after what a model has said about it. -/
def Info.overlaid (lowercase : Lowercase) (info : Info) (current : Role) : Role :=
  if current.isWeak = true then (info.aiRole lowercase).getD current else current

theorem roleOf_assign {columns : Dict Text Role} {table column : Text} {role : Role}
    (isTable : prior.lookup table = some columns) :
    roleOf (prior.assign table (columns.assign column role)) place =
      if place = (table, column) then some role else roleOf prior place := by
  obtain ⟨otherTable, otherColumn⟩ := place
  rw [roleOf, roleOf, Dict.lookup_assign]
  by_cases sameTable : otherTable = table
  · subst sameTable
    rw [if_pos rfl, isTable, Option.bind_some, Option.bind_some, Dict.lookup_assign]
    simp only [Prod.mk.injEq, true_and]
  · rw [if_neg sameTable, if_neg (fun same => sameTable (congrArg Prod.fst same))]

/-- One column is overlaid, and no other one. -/
theorem roleOf_overlayColumn (prior : Roles) (entry : (Text × Text) × Info)
    (place : Text × Text) :
    roleOf (overlayColumn lowercase prior entry) place =
      if place = entry.1 then (roleOf prior place).map (entry.2.overlaid lowercase)
      else roleOf prior place := by
  have unchanged : (∀ current, roleOf prior entry.1 = some current →
      entry.2.overlaid lowercase current = current) →
      roleOf prior place = if place = entry.1 then
        (roleOf prior place).map (entry.2.overlaid lowercase) else roleOf prior place := by
    intro same
    split
    next isPlace =>
      rw [isPlace]
      cases isCurrent : roleOf prior entry.1 with
      | none => rfl
      | some current => rw [Option.map_some, same current isCurrent]
    next => rfl
  rw [overlayColumn]
  split
  next aiRole current isAi isCurrent =>
    split
    next overrides =>
      obtain ⟨columns, isTable, _⟩ := Option.bind_eq_some_iff.mp isCurrent
      rw [isTable, Option.getD_some, roleOf_assign isTable]
      split
      next isPlace =>
        rw [isPlace, isCurrent, Option.map_some, Info.overlaid, if_pos overrides.1, isAi,
          Option.getD_some]
      next => rfl
    next keeps =>
      apply unchanged
      intro other isOther
      rw [isCurrent] at isOther
      cases isOther
      rw [Info.overlaid, isAi, Option.getD_some]
      split
      next isWeak =>
        by_contra different
        exact keeps ⟨isWeak, different⟩
      next => rfl
  next noOverride =>
    apply unchanged
    intro current isCurrent
    cases isAi : entry.2.aiRole lowercase with
    | none => rw [Info.overlaid, isAi, Option.getD_none, ite_self]
    | some aiRole => exact absurd isCurrent (noOverride aiRole current isAi)

/-- The whole overlay, column by column. -/
theorem roleOf_overlayAiRoles (prior : Roles) (semantic : Semantic) (place : Text × Text) :
    roleOf (overlayAiRoles lowercase prior semantic) place =
      (roleOf prior place).map fun current =>
        ((infoOf semantic place).map fun info => info.overlaid lowercase current).getD current := by
  rw [overlayAiRoles, read_foldl roleOf_overlayColumn (nodup_columns semantic), ← find?_columns]
  simp only [Option.map_map]
  rfl

theorem Info.overlaid_overlaid (info : Info) (current : Role) :
    info.overlaid lowercase (info.overlaid lowercase current) =
      info.overlaid lowercase current := by
  cases isAi : info.aiRole lowercase with
  | none => simp [Info.overlaid, isAi]
  | some aiRole =>
      by_cases isWeak : current.isWeak = true
      · simp [Info.overlaid, isAi, isWeak]
      · simp [Info.overlaid, isWeak]

/-- Columns that are assigned one after another. -/
theorem lookup_foldl_assign {Value : Type} (value : Text → Value) (columns : List Text)
    (before : Dict Text Value) (column : Text) :
    (columns.foldl (fun dict column => dict.assign column (value column)) before).lookup column =
      if column ∈ columns then some (value column) else before.lookup column := by
  induction columns generalizing before with
  | nil => rfl
  | cons first rest inductionHypothesis =>
      rw [List.foldl_cons, inductionHypothesis, Dict.lookup_assign]
      by_cases isFirst : column = first
      · subst isFirst
        simp
      · simp [isFirst]

/-- Every column of the schema has a role, and no other one. -/
theorem roleOf_classifyRoles (letters : Letters) (schema : TypeHandlers.Schema)
    (types : ColumnTypes) (table column : Text) :
    roleOf (classifyRoles lowercase letters schema types) (table, column) =
      (schema.lookup table).bind fun columns =>
        if column ∈ columns then
          some (classifyColumn lowercase letters column (typeOf lowercase types table column))
        else none := by
  rw [roleOf, classifyRoles, OrderedDict.lookup_mapValues]
  cases schema.lookup table with
  | none => rfl
  | some columns =>
      rw [Option.map_some, Option.bind_some, Option.bind_some, lookup_foldl_assign]
      rfl

theorem isSome_roleOf_classifyRoles (letters : Letters) (schema : TypeHandlers.Schema)
    (types : ColumnTypes) (table column : Text) :
    (roleOf (classifyRoles lowercase letters schema types) (table, column)).isSome = true ↔
      ∃ columns, schema.lookup table = some columns ∧ column ∈ columns := by
  rw [roleOf_classifyRoles]
  cases schema.lookup table with
  | none => simp
  | some columns => simp

/-- What a model says fills gaps: a role that the name and the type speak for stays, a weak one
goes to the model's if there is one, no column comes or goes, and to say it again changes
nothing. -/
theorem overlay_fills_gaps (lowercase : Lowercase) (letters : Letters)
    (schema : TypeHandlers.Schema) (types : ColumnTypes) (semantic : Semantic) :
    let prior := classifyRoles lowercase letters schema types
    let overlaid := overlayAiRoles lowercase prior semantic
    ∀ table column : Text,
      (∀ role, roleOf prior (table, column) = some role → role.isWeak = false →
        roleOf overlaid (table, column) = some role) ∧
      (∀ role, roleOf prior (table, column) = some role → role.isWeak = true →
        roleOf overlaid (table, column) =
          some (((infoOf semantic (table, column)).bind (Info.aiRole lowercase)).getD role)) ∧
      ((roleOf overlaid (table, column)).isSome = true ↔
        ∃ columns, schema.lookup table = some columns ∧ column ∈ columns) ∧
      roleOf (overlayAiRoles lowercase overlaid semantic) (table, column) =
        roleOf overlaid (table, column) := by
  intro prior overlaid table column
  have reads : roleOf overlaid (table, column) = _ :=
    roleOf_overlayAiRoles prior semantic (table, column)
  refine ⟨?_, ?_, ?_, ?_⟩
  · intro role isRole isStrong
    rw [reads, isRole, Option.map_some]
    cases infoOf semantic (table, column) with
    | none => rfl
    | some info =>
        rw [Option.map_some, Option.getD_some, Info.overlaid, isStrong]
        rfl
  · intro role isRole isWeak
    rw [reads, isRole, Option.map_some]
    cases infoOf semantic (table, column) with
    | none => rfl
    | some info => rw [Option.map_some, Option.getD_some, Info.overlaid, if_pos isWeak]; rfl
  · rw [reads, Option.isSome_map]
    exact isSome_roleOf_classifyRoles letters schema types table column
  · rw [roleOf_overlayAiRoles, reads, Option.map_map]
    congr 1
    funext current
    cases infoOf semantic (table, column) with
    | none => rfl
    | some info => exact info.overlaid_overlaid current

end Filling

/-! ## The column that names a row -/

section Identifiers

variable (lowercase : Lowercase)

/-- `_person_rank` -/
def personRank (column : Text) : ℕ :=
  let cl := lowercase.text column
  if containsAny ["username", "user_name", "handle", "login", "slug"] cl = true then 2
  else if "last".toList.isPrefixOf cl = true then 1
  else 0

/-- `schema.get(table, [])` -/
def columnsOf (schema : TypeHandlers.Schema) (table : Text) : List Text :=
  (schema.lookup table).getD []

/-- `identifier_columns_for` -/
def identifierColumnsFor (table : Text) (schema : TypeHandlers.Schema) (roles : Roles) :
    List Text :=
  let columns := columnsOf schema table
  let having := fun role => columns.filter fun column =>
    decide (roleOf roles (table, column) = some role)
  (having .personName).mergeSort (fun first second =>
    decide (personRank lowercase first ≤ personRank lowercase second)) ++ having .label

/-- `_IDENTIFIER_COLUMNS` -/
def identifierColumns : List String :=
  ["name", "full_name", "fullname", "display_name", "username", "user_name", "title", "label"]

/-- `lower[candidate]`, for the last column of that name. -/
def lowerColumn (columns : List Text) (candidate : String) : Option Text :=
  columns.reverse.find? fun column => lowercase.text column == candidate.toList

/-- `_find_identifier_column` -/
def findIdentifierColumn (table : Text) (schema : TypeHandlers.Schema) (roles : Roles) :
    Option Text :=
  match identifierColumnsFor lowercase table schema roles with
  | first :: _ => some first
  | [] =>
      let columns := columnsOf schema table
      match identifierColumns.findSome? (lowerColumn lowercase columns) with
      | some column => some column
      | none => columns.find? fun column => endsWithAny ["_name"] (lowercase.text column)

variable {lowercase : Lowercase} {table column : Text} {schema : TypeHandlers.Schema}
  {roles : Roles}

theorem mem_of_lowerColumn {columns : List Text} {candidate : String}
    (isFound : lowerColumn lowercase columns candidate = some column) : column ∈ columns :=
  List.mem_reverse.mp (List.mem_of_find?_eq_some isFound)

/-- The column that names a row is one of its table. -/
theorem mem_of_findIdentifierColumn
    (isFound : findIdentifierColumn lowercase table schema roles = some column) :
    column ∈ columnsOf schema table := by
  rw [findIdentifierColumn] at isFound
  split at isFound
  next first rest isHead =>
    cases isFound
    have isIn : column ∈ identifierColumnsFor lowercase table schema roles := by
      rw [isHead]
      exact List.mem_cons_self
    rcases List.mem_append.mp isIn with isPerson | isLabel
    · exact List.mem_of_mem_filter (List.mem_mergeSort.mp isPerson)
    · exact List.mem_of_mem_filter isLabel
  next =>
    dsimp only at isFound
    split at isFound
    next isName =>
      cases isFound
      obtain ⟨candidate, _, isCandidate⟩ := List.exists_of_findSome?_eq_some isName
      exact mem_of_lowerColumn isCandidate
    next => exact List.mem_of_find?_eq_some isFound

end Identifiers

end DbBuddy.Planner.ValueGrounding
