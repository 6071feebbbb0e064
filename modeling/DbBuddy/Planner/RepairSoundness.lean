import Mathlib.Data.List.Dedup
import DbBuddy.Planner.InferredKeys
import DbBuddy.Planner.WalkedPlans

/-!
# What a repair of the columns settles

A reference is read as a table and a column, and written again with the column that it
can only mean.  The check finds the table in front of a dot by its letters, and what the
reference means is decided by the tables that the schema has.  A plan is settled by its
check if no other column qualified for any of its references, and if what is written
means a column and passes the check in its turn.
-/

namespace DbBuddy.Planner

open DbBuddy.Library DbBuddy.Sql

/-! ## How a reference is read -/

/-- The forms a reference has: the column alone, behind its table and a dot, or inside a
pre-formatted aggregate. -/
inductive ReferenceForm where
  | plain
  | dotted
  | aggregate (function : String)
  deriving DecidableEq, Repr

/-- The column written in a form. -/
def ReferenceForm.write (form : ReferenceForm) (table column : String) : String :=
  match form with
  | .plain => column
  | .dotted => table ++ "." ++ column
  | .aggregate function => function ++ "(" ++ table ++ "." ++ column ++ ")"

/-- What a reference is read as. -/
structure ReadReference where
  form : ReferenceForm
  table : String
  column : String
  deriving DecidableEq, Repr

section Readings

variable (unicode : Unicode)

/-- The table and the column of a reference; `*` and a column without a table are
passed. -/
def readReference (table : Option String) (column : String) : Option ReadReference :=
  if column = "" ∨ column = "*" then none
  else
    match aggregateExpression unicode column with
    | some (function, inner) =>
        let reference := (partitionDot unicode inner).getD (table.getD "None", inner)
        some ⟨.aggregate function, reference.1, reference.2⟩
    | none =>
        match partitionDot unicode column with
        | some (front, rest) => some ⟨.dotted, front, rest⟩
        | none =>
            if table.getD "" = "" then none
            else some ⟨.plain, table.getD "", column⟩

/-- The check of a reference is the one of the table and the column that it is read
as. -/
theorem repairReference_eq (schema : List (String × List String)) (table : Option String)
    (column : String) : repairReference unicode schema table column =
      match readReference unicode table column with
      | none => .keep
      | some read =>
          match tableEntry unicode schema (unicode.lower read.table) with
          | none => .keep
          | some (realTable, columns) =>
              repairIn unicode columns read.table read.column
                (read.form.write realTable) := by
  unfold repairReference readReference
  by_cases isPassed : column = "" ∨ column = "*"
  · simp only [isPassed, if_true]
  simp only [isPassed, if_false]
  cases aggregateExpression unicode column with
  | some aggregate => rfl
  | none =>
      dsimp only
      cases partitionDot unicode column with
      | some sides => rfl
      | none =>
          dsimp only
          by_cases noTable : table.getD "" = ""
          · simp only [noTable, if_true]
          · simp only [noTable, if_false]
            rfl

/-! ## What a reference means -/

/-- A text in front of a dot and behind it, for each of its dots. -/
def dotSplits : List Char → List (List Char × List Char)
  | [] => []
  | char :: rest =>
      let later := (dotSplits rest).map fun sides => (char :: sides.1, sides.2)
      if char = '.' then ([], rest) :: later else later

variable (schema : List (String × List String))

/-- The first table of the schema that stands in front of a dot, whatever its name
looks like, and what is behind the dot. -/
def tableInFront (text : String) : Option (String × String) :=
  ((dotSplits text.toList).map fun sides =>
    (String.ofList sides.1, String.ofList sides.2)).find? fun sides =>
      (tableEntry unicode schema (unicode.lower sides.1)).isSome

/-- A text means a column of the table of the schema in front of it, or else of the
table that is given; a name in front of a dot that is no table is none of the schema. -/
def meantColumn (table : Option String) (text : String) :
    Option (ReferenceForm × String × String) :=
  match tableInFront unicode schema text with
  | some (front, behind) => some (.dotted, front, behind)
  | none =>
      if (partitionDot unicode text).isSome ∨ table.getD "" = "" then none
      else some (.plain, table.getD "", text)

/-- The function in front of the first bracket and what is in the brackets, if the last
one closes the text. -/
def aggregateShape (text : String) : Option (String × String) :=
  let function := text.toList.takeWhile fun char => char != '('
  let behind := (text.toList.dropWhile fun char => char != '(').drop 1
  match (strip behind).reverse with
  | ')' :: inner => some (String.ofList (strip function), String.ofList (strip inner.reverse))
  | _ => none

/-- What a reference means. -/
def meantReference (table : Option String) (column : String) : Option ReadReference :=
  if column = "" ∨ column = "*" then none
  else
    match aggregateShape column with
    | some (function, inner) =>
        if inner = "*" then none
        else (meantColumn unicode schema table inner).map fun meant =>
          ⟨.aggregate function, meant.2.1, meant.2.2⟩
    | none =>
        (meantColumn unicode schema table column).map fun meant =>
          ⟨meant.1, meant.2.1, meant.2.2⟩

/-! ## The columns that qualify -/

/-- The column is equal to the name up to separators. -/
def SameSquashed (name column : String) : Prop :=
  squash (unicode.lower column) = squash (unicode.lower name)

/-- The column has the name in front of an underscore, or behind one. -/
def Extends (name column : String) : Prop :=
  extendsName (unicode.lower name) (unicode.lower column) = true

/-- The column is the only one that is equal to the name up to separators, or, if none
is, the only one that the name is a part of at an underscore. -/
def OnlyMatch (columns : List String) (name column : String) : Prop :=
  column ∈ columns ∧
    (SameSquashed unicode name column ∧
        (∀ other ∈ columns, SameSquashed unicode name other → other = column) ∨
      (∀ other ∈ columns, ¬ SameSquashed unicode name other) ∧
        Extends unicode name column ∧
        ∀ other ∈ columns, Extends unicode name other → other = column)

/-- The column is equal to the name up to separators, or, if none is, the name is a part
of it. -/
def Qualifies (columns : List String) (name column : String) : Prop :=
  column ∈ columns ∧ (SameSquashed unicode name column ∨
    (∀ other ∈ columns, ¬ SameSquashed unicode name other) ∧ Extends unicode name column)

/-- No column is equal to the name up to separators, and the name is not a part of one
column only. -/
def Undecided (columns : List String) (name : String) : Prop :=
  name = "" ∨ (∀ other ∈ columns, ¬ SameSquashed unicode name other) ∧
    ¬ ∃ column ∈ columns, Extends unicode name column ∧
      ∀ other ∈ columns, Extends unicode name other → other = column

instance (name column : String) : Decidable (SameSquashed unicode name column) :=
  inferInstanceAs (Decidable (_ = _))

instance (name column : String) : Decidable (Extends unicode name column) :=
  inferInstanceAs (Decidable (_ = _))

instance (columns : List String) (name column : String) :
    Decidable (OnlyMatch unicode columns name column) :=
  inferInstanceAs (Decidable (_ ∧ _))

instance (columns : List String) (name column : String) :
    Decidable (Qualifies unicode columns name column) :=
  inferInstanceAs (Decidable (_ ∧ _))

end Readings

section Repairs

variable {unicode : Unicode} {columns : List String} {name column : String}

theorem lastSpelled_eq_none {spell : String → String} {spelling : String} :
    lastSpelled spell columns spelling = none ↔ ∀ column ∈ columns, spell column ≠ spelling := by
  unfold lastSpelled
  rw [List.find?_eq_none]
  simp

theorem spell_of_lastSpelled {spell : String → String} {spelling : String}
    (found : lastSpelled spell columns spelling = some column) :
    column ∈ columns ∧ spell column = spelling := by
  refine ⟨mem_of_lastSpelled found, ?_⟩
  have passes := List.find?_some found
  exact of_decide_eq_true passes

/-- The names in lower case that extend a name, if they are those of different
columns. -/
theorem filter_extends_iff (distinct : (columns.map unicode.lower).Nodup)
    {lowered : String} : (columns.map unicode.lower).dedup.filter
        (extendsName (unicode.lower name)) = [lowered] ↔
      ∃ column ∈ columns, unicode.lower column = lowered ∧ Extends unicode name column ∧
        ∀ other ∈ columns, Extends unicode name other → other = column := by
  rw [List.dedup_eq_self.mpr distinct, List.filter_map]
  constructor
  · intro isOne
    obtain ⟨column, isFiltered, isLower⟩ := List.map_eq_singleton_iff.mp isOne
    have isIn : column ∈ columns.filter
        (extendsName (unicode.lower name) ∘ unicode.lower) := by
      rw [isFiltered]
      exact List.mem_singleton_self column
    refine ⟨column, (List.mem_filter.mp isIn).1, isLower, (List.mem_filter.mp isIn).2, ?_⟩
    intro other isOther isExtended
    have alsoIn : other ∈ columns.filter
        (extendsName (unicode.lower name) ∘ unicode.lower) :=
      List.mem_filter.mpr ⟨isOther, isExtended⟩
    rw [isFiltered] at alsoIn
    exact List.mem_singleton.mp alsoIn
  · rintro ⟨column, isColumn, rfl, isExtended, isOnly⟩
    have nodup : (columns.filter (extendsName (unicode.lower name) ∘
        unicode.lower)).Nodup := distinct.of_map.filter _
    have isFiltered : columns.filter (extendsName (unicode.lower name) ∘ unicode.lower) =
        [column] := by
      apply List.perm_singleton.mp
      apply (List.perm_ext_iff_of_nodup nodup (List.nodup_singleton column)).mpr
      intro other
      rw [List.mem_filter, List.mem_singleton]
      constructor
      · rintro ⟨isOther, isExtendedToo⟩
        exact isOnly other isOther isExtendedToo
      · rintro rfl
        exact ⟨isColumn, isExtended⟩
    rw [isFiltered]
    rfl

/-- The repair finds the last column that is equal up to separators, or else the only
one that extends the name. -/
theorem repairColumn_eq_some (distinct : (columns.map unicode.lower).Nodup)
    (absent : unicode.lower name ∉ columns.map unicode.lower) :
    repairColumn unicode name columns = some column ↔
      name ≠ "" ∧
        (lastSpelled (fun column => squash (unicode.lower column)) columns
            (squash (unicode.lower name)) = some column ∨
          (∀ other ∈ columns, ¬ SameSquashed unicode name other) ∧ column ∈ columns ∧
            Extends unicode name column ∧
            ∀ other ∈ columns, Extends unicode name other → other = column) := by
  have noExact : lastSpelled unicode.lower columns (unicode.lower name) = none := by
    rw [lastSpelled_eq_none]
    intro column isColumn same
    exact absent (same ▸ List.mem_map_of_mem isColumn)
  unfold repairColumn
  by_cases isEmpty : name = ""
  · simp [isEmpty]
  rw [if_neg isEmpty]
  dsimp only
  rw [noExact]
  dsimp only
  simp only [ne_eq, isEmpty, not_false_eq_true, true_and]
  cases squashed : lastSpelled (fun column => squash (unicode.lower column)) columns
      (squash (unicode.lower name)) with
  | some found =>
      constructor
      · exact Or.inl
      · rintro (same | ⟨noSame, _⟩)
        · exact same
        · obtain ⟨isFound, isSame⟩ := spell_of_lastSpelled squashed
          exact absurd isSame (noSame found isFound)
  | none =>
      have noSame : ∀ other ∈ columns, ¬ SameSquashed unicode name other :=
        lastSpelled_eq_none.mp squashed
      dsimp only
      constructor
      · intro isRepaired
        right
        split at isRepaired
        · next lowered isOne =>
            obtain ⟨found, isFound, isLower, isExtended, isOnly⟩ :=
              (filter_extends_iff distinct).mp isOne
            obtain ⟨isColumn, sameLower⟩ := spell_of_lastSpelled isRepaired
            have same : column = found :=
              List.inj_on_of_nodup_map distinct isColumn isFound
                (sameLower.trans isLower.symm)
            rw [same]
            exact ⟨noSame, isFound, isExtended, isOnly⟩
        · cases isRepaired
      · rintro (isNone | ⟨_, isColumn, isExtended, isOnly⟩)
        · cases isNone
        · have isOne := (filter_extends_iff distinct).mpr
            ⟨column, isColumn, rfl, isExtended, isOnly⟩
          rw [isOne]
          dsimp only
          cases found : lastSpelled unicode.lower columns (unicode.lower column) with
          | none => exact absurd rfl (lastSpelled_eq_none.mp found column isColumn)
          | some other =>
              obtain ⟨isOther, sameLower⟩ := spell_of_lastSpelled found
              rw [List.inj_on_of_nodup_map distinct isOther isColumn sameLower]

theorem repairColumn_eq_none (distinct : (columns.map unicode.lower).Nodup)
    (absent : unicode.lower name ∉ columns.map unicode.lower) :
    repairColumn unicode name columns = none ↔ Undecided unicode columns name := by
  rw [Option.eq_none_iff_forall_ne_some]
  simp only [ne_eq, repairColumn_eq_some distinct absent]
  constructor
  · intro noneFound
    by_cases isEmpty : name = ""
    · exact Or.inl isEmpty
    right
    have noSame : ∀ other ∈ columns, ¬ SameSquashed unicode name other := by
      intro other isOther isSame
      cases found : lastSpelled (fun column => squash (unicode.lower column)) columns
          (squash (unicode.lower name)) with
      | none => exact lastSpelled_eq_none.mp found other isOther isSame
      | some column => exact noneFound column ⟨isEmpty, Or.inl found⟩
    refine ⟨noSame, ?_⟩
    rintro ⟨column, isColumn, isExtended, isOnly⟩
    exact noneFound column ⟨isEmpty, Or.inr ⟨noSame, isColumn, isExtended, isOnly⟩⟩
  · rintro undecided column ⟨notEmpty, isRepaired⟩
    rcases undecided with isEmpty | ⟨noSame, notOne⟩
    · exact notEmpty isEmpty
    · rcases isRepaired with isSquashed | ⟨_, isColumn, isExtended, isOnly⟩
      · obtain ⟨isColumn, isSame⟩ := spell_of_lastSpelled isSquashed
        exact noSame column isColumn isSame
      · exact notOne ⟨column, isColumn, isExtended, isOnly⟩

/-- A column that the repair chooses qualifies. -/
theorem qualifies_of_repairColumn (distinct : (columns.map unicode.lower).Nodup)
    (absent : unicode.lower name ∉ columns.map unicode.lower)
    (isRepaired : repairColumn unicode name columns = some column) :
    Qualifies unicode columns name column := by
  rcases ((repairColumn_eq_some distinct absent).mp isRepaired).2 with
    isSquashed | ⟨noSame, isColumn, isExtended, _⟩
  · obtain ⟨isColumn, isSame⟩ := spell_of_lastSpelled isSquashed
    exact ⟨isColumn, Or.inl isSame⟩
  · exact ⟨isColumn, Or.inr ⟨noSame, isExtended⟩⟩

theorem OnlyMatch.qualifies (isOnly : OnlyMatch unicode columns name column) :
    Qualifies unicode columns name column := by
  rcases isOnly with ⟨isColumn, ⟨isSame, _⟩ | ⟨noSame, isExtended, _⟩⟩
  · exact ⟨isColumn, Or.inl isSame⟩
  · exact ⟨isColumn, Or.inr ⟨noSame, isExtended⟩⟩

/-- Where at most one column is equal to the name up to separators, the repair chooses
the only match, and all that qualify are it. -/
theorem onlyMatch_of_repairColumn (distinct : (columns.map unicode.lower).Nodup)
    (absent : unicode.lower name ∉ columns.map unicode.lower)
    (one : ∀ column ∈ columns, ∀ other ∈ columns, SameSquashed unicode name column →
      SameSquashed unicode name other → column = other)
    (isRepaired : repairColumn unicode name columns = some column) :
    OnlyMatch unicode columns name column ∧
      ∀ other, Qualifies unicode columns name other → other = column := by
  rcases ((repairColumn_eq_some distinct absent).mp isRepaired).2 with
    isSquashed | ⟨noSame, isColumn, isExtended, isOnly⟩
  · obtain ⟨isColumn, isSame⟩ := spell_of_lastSpelled isSquashed
    refine ⟨⟨isColumn, Or.inl ⟨isSame, ?_⟩⟩, ?_⟩
    · intro other isOther otherSame
      exact one other isOther column isColumn otherSame isSame
    · rintro other ⟨isOther, otherSame | ⟨noSame, _⟩⟩
      · exact one other isOther column isColumn otherSame isSame
      · exact absurd isSame (noSame column isColumn)
  · refine ⟨⟨isColumn, Or.inr ⟨noSame, isExtended, isOnly⟩⟩, ?_⟩
    rintro other ⟨isOther, otherSame | ⟨_, otherExtended⟩⟩
    · exact absurd otherSame (noSame other isOther)
    · exact isOnly other isOther otherExtended

end Repairs

/-! ## Plans that the check settles -/

section Settling

variable (unicode : Unicode) (schema : List (String × List String))

/-- What holds of a reference that the check reads as one to a table of the schema
without such a column. -/
def OfAbsent (reference : Reference)
    (holds : ReadReference → String × List String → Prop) : Prop :=
  ∀ read, readReference unicode reference.1 reference.2 = some read →
    ∀ entry, tableEntry unicode schema (unicode.lower read.table) = some entry →
      unicode.lower read.column ∉ entry.2.map unicode.lower → holds read entry

/-- The check reads no absent column. -/
def Passes (reference : Reference) : Prop :=
  OfAbsent unicode schema reference fun _ _ => False

/-- The text is a column of its own table, or it means no absent column of a table of
the schema. -/
def NamesExisting (reference : Reference) : Prop :=
  (∃ table, reference.1 = some table ∧
    ∃ entry, tableEntry unicode schema (unicode.lower table) = some entry ∧
      unicode.lower reference.2 ∈ entry.2.map unicode.lower) ∨
  ∀ read, meantReference unicode schema reference.1 reference.2 = some read →
    ∀ entry, tableEntry unicode schema (unicode.lower read.table) = some entry →
      unicode.lower read.column ∈ entry.2.map unicode.lower

/-- The new reference is the old one, or it is written with the only match for the
column that the old one means. -/
def OnlyRepaired (old new : Reference) : Prop :=
  new = old ∨ ∃ read, meantReference unicode schema old.1 old.2 = some read ∧
    ∃ entry, tableEntry unicode schema (unicode.lower read.table) = some entry ∧
      ∃ column ∈ entry.2, OnlyMatch unicode entry.2 read.column column ∧
        new = (old.1, read.form.write entry.1 column)

/-- What a plan that passes the check promises. -/
structure ColumnsSettled (plan result : WalkedPlan) : Prop where
  names : ∀ reference ∈ result.references, NamesExisting unicode schema reference
  passes : ∀ reference ∈ result.references, Passes unicode schema reference
  again : assertWalked unicode schema result = .ok result
  only : ∀ pair ∈ plan.references.zip result.references,
    OnlyRepaired unicode schema pair.1 pair.2
  decided : ∀ reference ∈ plan.references,
    OfAbsent unicode schema reference fun read entry =>
      ∀ column other, Qualifies unicode entry.2 read.column column →
        Qualifies unicode entry.2 read.column other → column = other

/-- No column that can be meant is found for the reference. -/
def IsRefused (reference : Reference) : Prop :=
  ¬ OfAbsent unicode schema reference fun read entry =>
    ¬ Undecided unicode entry.2 read.column

/-- The new reference can stand for the old one. -/
def Replaces (old new : Reference) : Prop :=
  NamesExisting unicode schema new ∧ Passes unicode schema new ∧
    OnlyRepaired unicode schema old new

/-- Where the check reads an absent column, at most one is equal to the name up to
separators, and the only match can be written in its place; where it reads none, none is
meant. -/
def RepairsWell (reference : Reference) : Prop :=
  (OfAbsent unicode schema reference fun read entry =>
    (∀ column ∈ entry.2, ∀ other ∈ entry.2, SameSquashed unicode read.column column →
      SameSquashed unicode read.column other → column = other) ∧
    ∀ column ∈ entry.2, OnlyMatch unicode entry.2 read.column column →
      Replaces unicode schema reference
        (reference.1, read.form.write entry.1 column)) ∧
  (Passes unicode schema reference → NamesExisting unicode schema reference)

instance (reference : Reference) : Decidable (Passes unicode schema reference) :=
  inferInstanceAs (Decidable (∀ read ∈ readReference unicode reference.1 reference.2,
    ∀ entry ∈ tableEntry unicode schema (unicode.lower read.table), _ → False))

instance (reference : Reference) : Decidable (NamesExisting unicode schema reference) :=
  inferInstanceAs (Decidable ((∃ table ∈ reference.1,
    ∃ entry ∈ tableEntry unicode schema (unicode.lower table), _) ∨
      ∀ read ∈ meantReference unicode schema reference.1 reference.2,
        ∀ entry ∈ tableEntry unicode schema (unicode.lower read.table), _))

instance (old new : Reference) : Decidable (OnlyRepaired unicode schema old new) :=
  inferInstanceAs (Decidable (_ ∨
    ∃ read ∈ meantReference unicode schema old.1 old.2,
      ∃ entry ∈ tableEntry unicode schema (unicode.lower read.table),
        ∃ column ∈ entry.2, _))

instance (old new : Reference) : Decidable (Replaces unicode schema old new) :=
  inferInstanceAs (Decidable (_ ∧ _ ∧ _))

instance (reference : Reference) : Decidable (RepairsWell unicode schema reference) :=
  inferInstanceAs (Decidable
    ((∀ read ∈ readReference unicode reference.1 reference.2,
      ∀ entry ∈ tableEntry unicode schema (unicode.lower read.table), _ → _) ∧ (_ → _)))

end Settling

section ColumnsSettled

variable {unicode : Unicode} {schema : List (String × List String)}
  {plan result : WalkedPlan} {reference : Reference}

theorem passes_iff : Passes unicode schema reference ↔
    repairReference unicode schema reference.1 reference.2 = .keep := by
  rw [repairReference_eq]
  unfold Passes OfAbsent
  cases readReference unicode reference.1 reference.2 with
  | none => simp
  | some read =>
      simp only [Option.some.injEq, forall_eq']
      cases tableEntry unicode schema (unicode.lower read.table) with
      | none => simp
      | some entry =>
          simp only [Option.some.injEq, forall_eq']
          unfold repairIn
          by_cases isColumn : unicode.lower read.column ∈ entry.2.map unicode.lower
          · simp only [isColumn, not_true, false_imp_iff, if_true]
          · simp only [isColumn, not_false_eq_true, true_imp_iff, if_false, false_iff]
            cases repairColumn unicode read.column entry.2 with
            | none => simp
            | some column => simp

theorem mem_of_tableEntry {lowered : String} {entry : String × List String}
    (isEntry : tableEntry unicode schema lowered = some entry) : entry ∈ schema :=
  List.mem_reverse.mp (List.mem_of_find?_eq_some isEntry)

theorem exists_absent (notPassed : ¬ Passes unicode schema reference) :
    ∃ read, readReference unicode reference.1 reference.2 = some read ∧
      ∃ entry, tableEntry unicode schema (unicode.lower read.table) = some entry ∧
        unicode.lower read.column ∉ entry.2.map unicode.lower := by
  simp only [Passes, OfAbsent, not_forall] at notPassed
  obtain ⟨read, isRead, entry, isEntry, absent, _⟩ := notPassed
  exact ⟨read, isRead, entry, isEntry, absent⟩

theorem repaired_of_passes (passes : Passes unicode schema reference) :
    (reference.1, repaired unicode schema reference.1 reference.2) = reference := by
  rw [repaired, passes_iff.mp passes]
  rfl

/-- A reference that does not pass is replaced or missing as the repair has a column
for it or not. -/
theorem repairReference_of_absent {read : ReadReference} {entry : String × List String}
    (isRead : readReference unicode reference.1 reference.2 = some read)
    (isEntry : tableEntry unicode schema (unicode.lower read.table) = some entry)
    (absent : unicode.lower read.column ∉ entry.2.map unicode.lower) :
    repairReference unicode schema reference.1 reference.2 =
      match repairColumn unicode read.column entry.2 with
      | none => .missing (read.table ++ "." ++ read.column)
      | some column => .replace (read.form.write entry.1 column) := by
  rw [repairReference_eq, isRead]
  dsimp only
  rw [isEntry]
  dsimp only
  exact if_neg absent

variable (distinct : ∀ entry ∈ schema, (entry.2.map unicode.lower).Nodup)

include distinct

/-- The refused references are the missing ones. -/
theorem isRefused_iff : IsRefused unicode schema reference ↔
    ∃ name, repairReference unicode schema reference.1 reference.2 = .missing name := by
  constructor
  · intro isRefused
    simp only [IsRefused, OfAbsent, not_forall, not_not] at isRefused
    obtain ⟨read, isRead, entry, isEntry, absent, undecided⟩ := isRefused
    have distinctHere := distinct entry (mem_of_tableEntry isEntry)
    refine ⟨read.table ++ "." ++ read.column, ?_⟩
    rw [repairReference_of_absent isRead isEntry absent,
      (repairColumn_eq_none distinctHere absent).mpr undecided]
  · rintro ⟨name, isMissing⟩ allDecided
    by_cases isPassed : Passes unicode schema reference
    · rw [passes_iff.mp isPassed] at isMissing
      cases isMissing
    obtain ⟨read, isRead, entry, isEntry, absent⟩ := exists_absent isPassed
    have distinctHere := distinct entry (mem_of_tableEntry isEntry)
    have isDecided : ¬ Undecided unicode entry.2 read.column :=
      allDecided read isRead entry isEntry absent
    rw [← repairColumn_eq_none distinctHere absent] at isDecided
    obtain ⟨column, isFound⟩ := Option.ne_none_iff_exists'.mp isDecided
    rw [repairReference_of_absent isRead isEntry absent, isFound] at isMissing
    cases isMissing

/-- The column that a reference is repaired to, if it is not refused. -/
theorem repaired_of_absent (notRefused : ¬ IsRefused unicode schema reference)
    {read : ReadReference} {entry : String × List String}
    (isRead : readReference unicode reference.1 reference.2 = some read)
    (isEntry : tableEntry unicode schema (unicode.lower read.table) = some entry)
    (absent : unicode.lower read.column ∉ entry.2.map unicode.lower) :
    ∃ column, repairColumn unicode read.column entry.2 = some column ∧
      repaired unicode schema reference.1 reference.2 = read.form.write entry.1 column := by
  have distinctHere := distinct entry (mem_of_tableEntry isEntry)
  have isDecided : ¬ Undecided unicode entry.2 read.column :=
    not_not.mp notRefused read isRead entry isEntry absent
  rw [← repairColumn_eq_none distinctHere absent] at isDecided
  obtain ⟨column, isFound⟩ := Option.ne_none_iff_exists'.mp isDecided
  refine ⟨column, isFound, ?_⟩
  rw [repaired, repairReference_of_absent isRead isEntry absent, isFound]
  rfl

/-- What a reference that repairs well is repaired to can stand for it. -/
theorem replaces_of_repairsWell (notRefused : ¬ IsRefused unicode schema reference)
    (isWell : RepairsWell unicode schema reference) :
    Replaces unicode schema reference
      (reference.1, repaired unicode schema reference.1 reference.2) := by
  by_cases isPassed : Passes unicode schema reference
  · rw [repaired_of_passes isPassed]
    exact ⟨isWell.2 isPassed, isPassed, Or.inl rfl⟩
  obtain ⟨read, isRead, entry, isEntry, absent⟩ := exists_absent isPassed
  have distinctHere := distinct entry (mem_of_tableEntry isEntry)
  obtain ⟨column, isFound, isWritten⟩ :=
    repaired_of_absent distinct notRefused isRead isEntry absent
  obtain ⟨one, replaces⟩ := isWell.1 read isRead entry isEntry absent
  have isOnly := (onlyMatch_of_repairColumn distinctHere absent one isFound).1
  rw [isWritten]
  exact replaces column isOnly.1 isOnly

/-- All columns that qualify for a reference that repairs well are the same. -/
theorem decided_of_repairsWell (notRefused : ¬ IsRefused unicode schema reference)
    (isWell : RepairsWell unicode schema reference) :
    OfAbsent unicode schema reference fun read entry =>
      ∀ column other, Qualifies unicode entry.2 read.column column →
        Qualifies unicode entry.2 read.column other → column = other := by
  intro read isRead entry isEntry absent column other isQualified otherQualified
  have distinctHere := distinct entry (mem_of_tableEntry isEntry)
  obtain ⟨found, isFound, _⟩ :=
    repaired_of_absent distinct notRefused isRead isEntry absent
  have one := (isWell.1 read isRead entry isEntry absent).1
  have allFound := (onlyMatch_of_repairColumn distinctHere absent one isFound).2
  rw [allFound column isQualified, allFound other otherQualified]

/-- A reference that is settled repairs well. -/
theorem repairsWell_of_settled (notRefused : ¬ IsRefused unicode schema reference)
    (replaces : Replaces unicode schema reference
      (reference.1, repaired unicode schema reference.1 reference.2))
    (isDecided : OfAbsent unicode schema reference fun read entry =>
      ∀ column other, Qualifies unicode entry.2 read.column column →
        Qualifies unicode entry.2 read.column other → column = other) :
    RepairsWell unicode schema reference := by
  constructor
  · intro read isRead entry isEntry absent
    have distinctHere := distinct entry (mem_of_tableEntry isEntry)
    have allSame := isDecided read isRead entry isEntry absent
    obtain ⟨found, isFound, isWritten⟩ :=
      repaired_of_absent distinct notRefused isRead isEntry absent
    constructor
    · intro column isColumn other isOther isSame otherSame
      exact allSame column other ⟨isColumn, Or.inl isSame⟩ ⟨isOther, Or.inl otherSame⟩
    · intro column _ isOnly
      have isQualified := qualifies_of_repairColumn distinctHere absent isFound
      rw [allSame column found isOnly.qualifies isQualified, ← isWritten]
      exact replaces
  · intro isPassed
    rw [repaired_of_passes isPassed] at replaces
    exact replaces.1

end ColumnsSettled

/-! ## Two plans -/

/-- A plan that selects a column of the items and orders by another column. -/
def selectItems (column ordered : String) : WalkedPlan where
  select := [⟨some "items", .text column⟩]
  columns := []
  groupBy := []
  filters := []
  orderBy := [⟨none, .text ordered⟩]
  having := []
  aggregation := []

end DbBuddy.Planner
