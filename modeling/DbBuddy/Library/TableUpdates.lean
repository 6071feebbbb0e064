import DbBuddy.Library.OrderedDict

/-!
# Updates of a table

A field that no two rows share, as a unique column promises, with the updates that
keep it; and an update of every row that sees its key.
-/

namespace DbBuddy.Library

universe u v w

namespace OrderedDict

variable {Key : Type u} {Value : Type v} {Field : Type w} {Other : Type*}
variable [DecidableEq Key]

/-- Rows with the same field are one row. -/
def Distinct (dict : OrderedDict Key Value) (field : Value → Field) : Prop :=
  ∀ key other value second, dict.lookup key = some value →
    dict.lookup other = some second → field value = field second → key = other

variable {dict : OrderedDict Key Value} {field : Value → Field}

theorem distinct_empty : Distinct (∅ : OrderedDict Key Value) field := by
  intro key _ _ _ present
  rw [AList.lookup_empty] at present
  cases present

/-- A row is written whose field no other row has. -/
theorem Distinct.insert {key : Key} {value : Value} (distinct : Distinct dict field)
    (own : ∀ other second, other ≠ key → dict.lookup other = some second →
      field second ≠ field value) : Distinct (dict.insert key value) field := by
  intro left right first second isFirst isSecond same
  rcases lookup_insert_cases isFirst with ⟨isLeft, isValue⟩ | ⟨leftNe, wasFirst⟩
  · rcases lookup_insert_cases isSecond with ⟨isRight, _⟩ | ⟨rightNe, wasSecond⟩
    · rw [isLeft, isRight]
    · rw [isValue] at same
      exact absurd same.symm (own right second rightNe wasSecond)
  · rcases lookup_insert_cases isSecond with ⟨_, isValue⟩ | ⟨_, wasSecond⟩
    · rw [isValue] at same
      exact absurd same (own left first leftNe wasFirst)
    · exact distinct left right first second wasFirst wasSecond same

/-- A row is rewritten, its field kept. -/
theorem Distinct.rewrite {key : Key} {value old : Value} (distinct : Distinct dict field)
    (present : dict.lookup key = some old) (kept : field value = field old) :
    Distinct (dict.insert key value) field := by
  apply distinct.insert
  intro other second otherNe isSecond same
  exact otherNe (distinct other key second old isSecond present (same.trans kept))

theorem Distinct.erase {key : Key} (distinct : Distinct dict field) :
    Distinct (dict.erase key) field := by
  intro left right first second isFirst isSecond same
  exact distinct left right first second (lookup_erase_cases isFirst).2
    (lookup_erase_cases isSecond).2 same

theorem Distinct.updateAll {select : Value → Bool} {change : Value → Value}
    (distinct : Distinct dict field) (kept : ∀ value, field (change value) = field value) :
    Distinct (dict.updateAll select change) field := by
  have sameField : ∀ key value, (dict.updateAll select change).lookup key = some value →
      ∃ old, dict.lookup key = some old ∧ field value = field old := by
    intro key value present
    obtain ⟨old, wasThere, isValue⟩ := lookup_updateAll present
    refine ⟨old, wasThere, ?_⟩
    rw [isValue]
    split
    · exact kept old
    · rfl
  intro left right first second isFirst isSecond same
  obtain ⟨oldFirst, wasFirst, firstField⟩ := sameField left first isFirst
  obtain ⟨oldSecond, wasSecond, secondField⟩ := sameField right second isSecond
  exact distinct left right oldFirst oldSecond wasFirst wasSecond
    (firstField.symm.trans (same.trans secondField))

/-- No row has the field if the search for it finds none. -/
theorem ne_of_first_isNone [DecidableEq Field] {sought : Field} {key : Key} {value : Value}
    (absent : (dict.first fun row => decide (field row = sought)).isSome = false)
    (present : dict.lookup key = some value) : field value ≠ sought := by
  have noRow := Option.not_isSome_iff_eq_none.mp (Bool.not_eq_true _ ▸ absent)
  have notSelected := first_eq_none noRow present
  simpa using notSelected

/-! ## Every row, by its key -/

/-- Change every value by its key, keys and order kept. -/
def mapValues (dict : OrderedDict Key Value) (change : Key → Value → Other) :
    OrderedDict Key Other where
  entries := dict.entries.map fun entry => ⟨entry.fst, change entry.fst entry.snd⟩
  nodupKeys := by
    simpa [List.NodupKeys, List.keys, Function.comp_def] using dict.nodupKeys

theorem lookup_mapValues {change : Key → Value → Other} {key : Key} :
    (dict.mapValues change).lookup key = (dict.lookup key).map (change key) :=
  lookup_of_map rfl key

end OrderedDict

end DbBuddy.Library
