import DbBuddy.Planner.ColumnRoles
import DbBuddy.Planner.TemporalRanges
import Mathlib.Data.List.Infix

/-!
# The values of the dimension columns

When a schema is analyzed, the distinct values of its dimension columns are sampled and put into
an index.  A literal of a question is looked up there later.
-/

namespace DbBuddy.Planner.ValueGrounding

open DbBuddy.Library
open DbBuddy.Insights (Text)

def maxDistinct : ℕ := 200

def maxColumns : ℕ := 80

def maxValueLen : ℕ := 60

/-- `_dimension_columns`; the loop returns as soon as it has enough. -/
def dimensionColumns (schema : TypeHandlers.Schema) (roles : Roles) : List (Text × Text) :=
  ((schema.entries.flatMap fun table => table.2.map fun column => (table.1, column)).filter
    fun place => decide (roleOf roles place = some .dimension)).take maxColumns

/-- `str(value)` of a value that is not null. -/
abbrev Cell := Option Text

/-- What each sampling query would return, in the order that they are sent; `none` where the
connection or the query fails. -/
abbrev Answers := ℕ → Option (List Cell)

abbrev ValueIndex := Dict Text (List (Text × Text))

section Sampling

variable (lowercase : Lowercase) (letters : Letters)

/-- `text.isdigit()` -/
def isDigits (text : Text) : Bool :=
  !text.isEmpty && text.all letters.isDigit

/-- `_indexable` -/
def indexable (value : Cell) : Option Text :=
  match value with
  | none => none
  | some text =>
      let s := strip text
      if s = [] ∨ maxValueLen < s.length ∨ isDigits letters s = true then none else some s

/-- What one query is found to hold: `fetchmany` stops one above the limit, and then the column
is no category. -/
def sampled (answers : Answers) (query : ℕ) : List Text :=
  match answers query with
  | none => []
  | some all =>
      let rows := all.take (maxDistinct + 1)
      if maxDistinct < rows.length then [] else rows.filterMap (indexable letters)

/-- The values as they are indexed, with their columns. -/
def sampledEntries (answers : Answers) (columns : List (Text × Text)) :
    List (Text × (Text × Text)) :=
  columns.zipIdx.flatMap fun column =>
    (sampled letters answers column.2).map fun s => (lowercase.text s, column.1)

/-- `build_value_index` -/
def buildValueIndex (answers : Answers) (schema : TypeHandlers.Schema) (roles : Roles) :
    ValueIndex :=
  indexOf (sampledEntries lowercase letters answers (dimensionColumns schema roles))

/-- `resolve_value` -/
def resolveValue (literal : Text) (index : ValueIndex) (tables : List Text) :
    Option (Text × Text) :=
  if literal = [] then none
  else lookupPreferred (fun place => tables.contains place.1) index
    (lowercase.text (strip literal))

/-! ## The plain search -/

/-- The columns whose samples hold a literal up to case, in the order of the schema. -/
def holding (answers : Answers) (schema : TypeHandlers.Schema) (roles : Roles) (literal : Text) :
    List (Text × Text) :=
  (((dimensionColumns schema roles).zipIdx).filter fun column =>
    (sampled letters answers column.2).any fun s =>
      lowercase.text s == lowercase.text (strip literal)).map Prod.fst

end Sampling

section Lookup

variable {lowercase : Lowercase} {letters : Letters} {answers : Answers}
  {schema : TypeHandlers.Schema}
variable {roles : Roles} {literal : Text} {tables : List Text}

theorem text_eq_nil {text : Text} : lowercase.text text = [] ↔ text = [] := by
  constructor
  · intro isNil
    cases text with
    | nil => rfl
    | cons char rest =>
        rw [Lowercase.text, List.flatMap_cons, List.append_eq_nil_iff] at isNil
        rcases Nat.lt_or_ge char.toNat 128 with isAscii | isOther
        · rw [lowercase.char_ascii char isAscii] at isNil
          cases isNil.1
        · rcases lowercase.char_other char isOther with isKelvin | ⟨other, isIn, _⟩
          · rw [isKelvin] at isNil
            cases isNil.1
          · rw [isNil.1] at isIn
            cases isIn
  · intro isNil
    rw [isNil]
    rfl

/-- A character that is no space begins and ends with none when it is lowered. -/
theorem solid_char {char : Char} (isSolid : ¬ isSpace char = true) :
    lowercase.char char ≠ [] ∧ ∀ other ∈ lowercase.char char, isSpace other = false := by
  refine ⟨?_, lowercase.char_solid char (Bool.eq_false_iff.mpr isSolid)⟩
  intro isNil
  have isText : lowercase.text [char] = [] := by
    rw [Lowercase.text, List.flatMap_singleton, isNil]
  cases text_eq_nil.mp isText

theorem dropWhile_text (text : Text) :
    (lowercase.text text).dropWhile isSpace = lowercase.text (text.dropWhile isSpace) := by
  induction text with
  | nil => rfl
  | cons char rest inductionHypothesis =>
      by_cases isSpaced : isSpace char = true
      · rw [Lowercase.text, List.flatMap_cons, lowercase.char_space char isSpaced,
          List.singleton_append, List.dropWhile_cons_of_pos isSpaced,
          List.dropWhile_cons_of_pos isSpaced]
        exact inductionHypothesis
      · have isSolid : lowercase.char char ≠ [] ∧
            ∀ other ∈ lowercase.char char, isSpace other = false := solid_char isSpaced
        obtain ⟨someChar, solid⟩ := isSolid
        obtain ⟨first, others, isLower⟩ := List.exists_cons_of_ne_nil someChar
        rw [List.dropWhile_cons_of_neg isSpaced, Lowercase.text, List.flatMap_cons, isLower,
          List.cons_append, List.dropWhile_cons_of_neg]
        rw [solid first (by rw [isLower]; exact List.mem_cons_self)]
        exact Bool.false_ne_true

theorem rdropWhile_text (text : Text) :
    (lowercase.text text).rdropWhile isSpace = lowercase.text (text.rdropWhile isSpace) := by
  induction text using List.reverseRecOn with
  | nil => rfl
  | append_singleton rest char inductionHypothesis =>
      by_cases isSpaced : isSpace char = true
      · rw [text_append, Lowercase.text, Lowercase.text, List.flatMap_singleton,
          lowercase.char_space char isSpaced, List.rdropWhile_concat_pos _ _ _ isSpaced,
          List.rdropWhile_concat_pos _ _ _ isSpaced]
        exact inductionHypothesis
      · have isSolid : lowercase.char char ≠ [] ∧
            ∀ other ∈ lowercase.char char, isSpace other = false := solid_char isSpaced
        obtain ⟨someChar, solid⟩ := isSolid
        rcases List.eq_nil_or_concat' (lowercase.char char) with isNil | ⟨front, last, isLower⟩
        · exact absurd isNil someChar
        · have lastSolid : ¬ isSpace last = true := by
            rw [solid last (by rw [isLower]; exact List.mem_append_right _ List.mem_cons_self)]
            exact Bool.false_ne_true
          have isText : lowercase.text [char] = front ++ [last] := by
            rw [Lowercase.text, List.flatMap_singleton, isLower]
          rw [List.rdropWhile_concat_neg _ _ _ isSpaced, text_append, isText, ← List.append_assoc,
            List.rdropWhile_concat_neg _ _ _ lastSolid]

/-- To strip a text and to lower it may change places. -/
theorem text_strip (text : Text) : lowercase.text (strip text) = strip (lowercase.text text) := by
  calc lowercase.text (strip text)
      = lowercase.text ((text.dropWhile isSpace).rdropWhile isSpace) := rfl
    _ = (lowercase.text (text.dropWhile isSpace)).rdropWhile isSpace := (rdropWhile_text _).symm
    _ = ((lowercase.text text).dropWhile isSpace).rdropWhile isSpace := by rw [dropWhile_text]
    _ = strip (lowercase.text text) := rfl

theorem ne_nil_of_sampled {query : ℕ} {s : Text} (isSampled : s ∈ sampled letters answers query) :
    s ≠ [] := by
  rw [sampled] at isSampled
  split at isSampled
  next => cases isSampled
  next =>
    dsimp only at isSampled
    split at isSampled
    next => cases isSampled
    next =>
      obtain ⟨cell, _, isCell⟩ := List.mem_filterMap.mp isSampled
      cases cell with
      | none => cases isCell
      | some text =>
          dsimp only [indexable] at isCell
          split at isCell
          next => cases isCell
          next isKept =>
            cases isCell
            intro isNil
            exact isKept (Or.inl isNil)

/-- The entries of one key, as they come from the columns. -/
theorem itemsOf_sampledEntries (key : Text) (columns : List (Text × Text)) :
    itemsOf key (sampledEntries lowercase letters answers columns) =
      columns.zipIdx.flatMap fun column =>
        itemsOf key ((sampled letters answers column.2).map fun s =>
          (lowercase.text s, column.1)) := by
  rw [sampledEntries, itemsOf_flatMap]

theorem mem_itemsOf_column {key : Text} {column : (Text × Text) × ℕ} {place : Text × Text} :
    place ∈ itemsOf key ((sampled letters answers column.2).map fun s =>
        (lowercase.text s, column.1)) ↔
      place = column.1 ∧ ∃ s ∈ sampled letters answers column.2, lowercase.text s = key := by
  rw [mem_itemsOf, List.mem_map]
  constructor
  · intro ⟨s, isSampled, isEntry⟩
    cases isEntry
    exact ⟨rfl, s, isSampled, rfl⟩
  · intro ⟨isPlace, s, isSampled, isKey⟩
    exact ⟨s, isSampled, by rw [isKey, isPlace]⟩

theorem find?_itemsOf (test : Text × Text → Bool) :
    (itemsOf (lowercase.text (strip literal)) (sampledEntries lowercase letters answers
        (dimensionColumns schema roles))).find? test =
      (holding lowercase letters answers schema roles literal).find? test := by
  rw [itemsOf_sampledEntries, find?_flatMap_same (fun column place isIn =>
    (mem_itemsOf_column.mp isIn).1), holding]
  congr 2
  apply List.filter_congr
  intro column _
  rw [Bool.eq_iff_iff, List.any_eq_true, Bool.not_eq_true', List.isEmpty_eq_false_iff_exists_mem]
  constructor
  · intro ⟨place, isIn⟩
    obtain ⟨_, s, isSampled, isKey⟩ := mem_itemsOf_column.mp isIn
    exact ⟨s, isSampled, beq_iff_eq.mpr isKey⟩
  · intro ⟨s, isSampled, isKey⟩
    exact ⟨column.1, mem_itemsOf_column.mpr ⟨rfl, s, isSampled, beq_iff_eq.mp isKey⟩⟩

theorem holding_nil : holding lowercase letters answers schema roles [] = [] := by
  rw [holding, List.map_eq_nil_iff, List.filter_eq_nil_iff]
  intro column _ isHeld
  obtain ⟨s, isSampled, isKey⟩ := List.any_eq_true.mp isHeld
  exact ne_nil_of_sampled isSampled (text_eq_nil.mp (beq_iff_eq.mp isKey))

theorem resolveValue_buildValueIndex :
    resolveValue lowercase literal (buildValueIndex lowercase letters answers schema roles)
        tables =
      preferred (fun place => tables.contains place.1)
        (holding lowercase letters answers schema roles literal) := by
  rw [resolveValue]
  split
  next isEmpty =>
    rw [isEmpty, holding_nil]
    rfl
  next =>
    rw [buildValueIndex, lookupPreferred_indexOf]
    exact preferred_congr find?_itemsOf

/-- Only the texts of a sample count, up to case, and not how the rows come. -/
theorem holding_congr {others : Answers}
    (same : ∀ query key, (∃ s ∈ sampled letters answers query, lowercase.text s = key) ↔
      ∃ s ∈ sampled letters others query, lowercase.text s = key) :
    holding lowercase letters answers schema roles literal =
      holding lowercase letters others schema roles literal := by
  rw [holding, holding]
  congr 1
  apply List.filter_congr
  intro column _
  rw [Bool.eq_iff_iff, List.any_eq_true, List.any_eq_true]
  simp only [beq_iff_eq]
  exact same column.2 _

theorem holding_of_lower {other : Text} (same : lowercase.text literal = lowercase.text other) :
    holding lowercase letters answers schema roles literal =
      holding lowercase letters answers schema roles other := by
  rw [holding, holding, text_strip, text_strip, same]

theorem mem_holding {place : Text × Text}
    (isHolding : place ∈ holding lowercase letters answers schema roles literal) :
    place ∈ dimensionColumns schema roles ∧ ∃ query, ∃ s ∈ sampled letters answers query,
      lowercase.text s = lowercase.text (strip literal) := by
  obtain ⟨column, isIn, rfl⟩ := List.mem_map.mp isHolding
  obtain ⟨inColumns, holds⟩ := List.mem_filter.mp isIn
  obtain ⟨s, isSampled, isKey⟩ := List.any_eq_true.mp holds
  exact ⟨(List.mem_zipIdx' inColumns).2 ▸ List.getElem_mem _, column.2, s, isSampled,
    beq_iff_eq.mp isKey⟩

/-- A dimension column is a column of the schema. -/
theorem mem_columnsOf_of_dimension {place : Text × Text}
    (isDimension : place ∈ dimensionColumns schema roles) :
    place.2 ∈ columnsOf schema place.1 ∧ roleOf roles place = some .dimension := by
  obtain ⟨isIn, isRole⟩ := List.mem_filter.mp (List.mem_of_mem_take isDimension)
  obtain ⟨table, isTable, inTable⟩ := List.mem_flatMap.mp isIn
  obtain ⟨column, isColumn, rfl⟩ := List.mem_map.mp inTable
  refine ⟨?_, of_decide_eq_true isRole⟩
  have isLookup : schema.lookup table.1 = some table.2 := AList.mem_lookup_iff.mpr isTable
  rw [columnsOf, isLookup]
  exact isColumn

/-- A look into the index finds what a plain search through the samples finds: of the columns
that hold the literal, the first one of a table in play, else the first one.  In which order the
rows of a sample come, and how often a text comes with them, makes no difference. -/
theorem resolve_value_searches (lowercase : Lowercase) (letters : Letters) (answers : Answers)
    (schema : TypeHandlers.Schema) (roles : Roles) :
    let index := buildValueIndex lowercase letters answers schema roles
    (∀ literal tables, resolveValue lowercase literal index tables =
      preferred (fun place => tables.contains place.1)
        (holding lowercase letters answers schema roles literal)) ∧
    (∀ others : Answers,
      (∀ query key, (∃ s ∈ sampled letters answers query, lowercase.text s = key) ↔
        ∃ s ∈ sampled letters others query, lowercase.text s = key) →
      ∀ literal tables, resolveValue lowercase literal index tables =
        resolveValue lowercase literal (buildValueIndex lowercase letters others schema roles)
          tables) := by
  intro index
  constructor
  · intro literal tables
    exact resolveValue_buildValueIndex
  · intro others same literal tables
    rw [resolveValue_buildValueIndex, resolveValue_buildValueIndex, holding_congr same]

end Lookup

end DbBuddy.Planner.ValueGrounding
