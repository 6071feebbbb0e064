import Mathlib.Data.List.AList
import Mathlib.Data.Set.Subsingleton

/-!
# Recency-ordered dictionaries

The `OrderedDict` of an LRU cache, as an association list whose most recently
moved key stands first.  `insert` is an assignment followed by a move to the
end, `erase` is `pop`; the operations here only drop entries.
-/

namespace DbBuddy.Library

universe u v

/-- An `OrderedDict` read from its most recent key to its oldest. -/
abbrev OrderedDict (Key : Type u) (Value : Type v) :=
  AList (fun _ : Key => Value)

namespace OrderedDict

variable {Key : Type u} {Value : Type v}

/-- Drop the entries whose value fails a test. -/
def keepIf (dict : OrderedDict Key Value) (keep : Value → Bool) :
    OrderedDict Key Value where
  entries := dict.entries.filter fun entry => keep entry.snd
  nodupKeys := dict.nodupKeys.sublist List.filter_sublist

/-- Drop the entries whose key fails a test. -/
def keepKeys (dict : OrderedDict Key Value) (keep : Key → Bool) :
    OrderedDict Key Value where
  entries := dict.entries.filter fun entry => keep entry.fst
  nodupKeys := dict.nodupKeys.sublist List.filter_sublist

/-- Pop the oldest entries until at most `limit` are left. -/
def trim (dict : OrderedDict Key Value) (limit : ℕ) :
    OrderedDict Key Value where
  entries := dict.entries.take limit
  nodupKeys := dict.nodupKeys.sublist (List.take_sublist _ _)

/-- The first entry whose value passes a test. -/
def first (dict : OrderedDict Key Value) (select : Value → Bool) :
    Option (Key × Value) :=
  (dict.entries.find? fun entry => select entry.snd).map
    fun entry => (entry.fst, entry.snd)

/-- Change every value that passes a test, keys and order kept. -/
def updateAll (dict : OrderedDict Key Value) (select : Value → Bool)
    (change : Value → Value) : OrderedDict Key Value where
  entries := dict.entries.map fun entry =>
    ⟨entry.fst, if select entry.snd then change entry.snd else entry.snd⟩
  nodupKeys := by
    simpa [List.NodupKeys, List.keys, Function.comp_def] using dict.nodupKeys

/-- Change the values of some keys, keys and order kept. -/
def changeKeys (dict : OrderedDict Key Value) (select : Key → Bool)
    (change : Value → Value) : OrderedDict Key Value where
  entries := dict.entries.map fun entry =>
    ⟨entry.fst, if select entry.fst then change entry.snd else entry.snd⟩
  nodupKeys := by
    simpa [List.NodupKeys, List.keys, Function.comp_def] using dict.nodupKeys

/-- The keys whose value passes a test, in the order of the entries. -/
def keysOf (dict : OrderedDict Key Value) (test : Value → Bool) : List Key :=
  (dict.entries.filter fun entry => test entry.snd).map Sigma.fst

def size (dict : OrderedDict Key Value) : ℕ :=
  dict.entries.length

variable [DecidableEq Key] {dict : OrderedDict Key Value}

theorem lookup_keepIf {keep : Value → Bool} {key : Key} {value : Value}
    (found : (dict.keepIf keep).lookup key = some value) :
    dict.lookup key = some value ∧ keep value = true := by
  have member := AList.mem_lookup_iff.mp found
  obtain ⟨present, kept⟩ := List.mem_filter.mp member
  exact ⟨AList.mem_lookup_iff.mpr present, kept⟩

theorem lookup_keepKeys {keep : Key → Bool} {key : Key} {value : Value}
    (found : (dict.keepKeys keep).lookup key = some value) :
    dict.lookup key = some value ∧ keep key = true := by
  have member := AList.mem_lookup_iff.mp found
  obtain ⟨present, kept⟩ := List.mem_filter.mp member
  exact ⟨AList.mem_lookup_iff.mpr present, kept⟩

theorem lookup_first {select : Value → Bool} {key : Key} {value : Value}
    (found : dict.first select = some (key, value)) :
    dict.lookup key = some value ∧ select value = true := by
  obtain ⟨entry, isFirst, rebuilt⟩ := Option.map_eq_some_iff.mp found
  cases rebuilt
  have selected := List.find?_some isFirst
  exact ⟨AList.mem_lookup_iff.mpr (List.mem_of_find?_eq_some isFirst), selected⟩

theorem first_eq_none {select : Value → Bool} {key : Key} {value : Value}
    (absent : dict.first select = none)
    (present : dict.lookup key = some value) : ¬ select value = true := by
  have noEntry := List.find?_eq_none.mp (Option.map_eq_none_iff.mp absent)
  exact noEntry ⟨key, value⟩ (AList.mem_lookup_iff.mp present)

/-- Values that are changed by their keys, keys and order kept, are found changed. -/
theorem lookup_of_map {Other : Type*} {changed : OrderedDict Key Other}
    {change : Key → Value → Other}
    (entries : changed.entries = dict.entries.map fun entry =>
      ⟨entry.fst, change entry.fst entry.snd⟩) (key : Key) :
    changed.lookup key = (dict.lookup key).map (change key) := by
  cases present : dict.lookup key with
  | some value =>
      apply AList.mem_lookup_iff.mpr
      rw [entries]
      exact List.mem_map.mpr ⟨⟨key, value⟩, AList.mem_lookup_iff.mp present, rfl⟩
  | none =>
      by_contra found
      obtain ⟨value, isFound⟩ := Option.ne_none_iff_exists'.mp found
      have member := AList.mem_lookup_iff.mp isFound
      rw [entries] at member
      obtain ⟨⟨oldKey, old⟩, wasThere, rebuilt⟩ := List.mem_map.mp member
      cases rebuilt
      rw [AList.mem_lookup_iff.mpr wasThere] at present
      cases present

theorem lookup_updateAll_eq_map {select : Value → Bool} {change : Value → Value}
    {key : Key} :
    (dict.updateAll select change).lookup key =
      (dict.lookup key).map fun value =>
        if select value then change value else value :=
  @lookup_of_map _ _ _ dict _ (dict.updateAll select change)
    (fun _ value => if select value then change value else value) rfl key

theorem lookup_updateAll_eq_some {select : Value → Bool} {change : Value → Value}
    {key : Key} {value : Value} (present : dict.lookup key = some value) :
    (dict.updateAll select change).lookup key =
      some (if select value then change value else value) := by
  rw [lookup_updateAll_eq_map, present, Option.map_some]

/-- Every value that stays is an old one, changed if it passed the test. -/
theorem lookup_updateAll {select : Value → Bool} {change : Value → Value}
    {key : Key} {value : Value}
    (found : (dict.updateAll select change).lookup key = some value) :
    ∃ old, dict.lookup key = some old ∧
      value = if select old then change old else old := by
  rw [lookup_updateAll_eq_map] at found
  obtain ⟨old, wasThere, isValue⟩ := Option.map_eq_some_iff.mp found
  exact ⟨old, wasThere, isValue.symm⟩

theorem lookup_changeKeys {select : Key → Bool} {change : Value → Value}
    {key : Key} :
    (dict.changeKeys select change).lookup key =
      (dict.lookup key).map fun value =>
        if select key then change value else value :=
  @lookup_of_map _ _ _ dict _ (dict.changeKeys select change)
    (fun key value => if select key then change value else value) rfl key

theorem lookup_trim {limit : ℕ} {key : Key} {value : Value}
    (found : (dict.trim limit).lookup key = some value) :
    dict.lookup key = some value := by
  have member := AList.mem_lookup_iff.mp found
  exact AList.mem_lookup_iff.mpr (List.mem_of_mem_take member)

theorem lookup_insert_cases {key other : Key} {value found : Value}
    (present : (dict.insert key value).lookup other = some found) :
    (other = key ∧ found = value) ∨
      (other ≠ key ∧ dict.lookup other = some found) := by
  by_cases same : other = key
  · subst other
    rw [AList.lookup_insert] at present
    cases present
    exact Or.inl ⟨rfl, rfl⟩
  · rw [AList.lookup_insert_ne same] at present
    exact Or.inr ⟨same, present⟩

theorem lookup_erase_cases {key other : Key} {found : Value}
    (present : (dict.erase key).lookup other = some found) :
    other ≠ key ∧ dict.lookup other = some found := by
  by_cases same : other = key
  · subst other
    rw [AList.lookup_erase] at present
    cases present
  · rw [AList.lookup_erase_ne same] at present
    exact ⟨same, present⟩

theorem lookup_insert_ne_none {key other : Key} {value : Value}
    (present : dict.lookup other ≠ none) :
    (dict.insert key value).lookup other ≠ none := by
  by_cases same : other = key
  · subst other
    simp
  · rwa [AList.lookup_insert_ne same]

theorem lookup_keepIf_eq_some {keep : Value → Bool} {key : Key} {value : Value}
    (present : dict.lookup key = some value) (kept : keep value = true) :
    (dict.keepIf keep).lookup key = some value := by
  have member := AList.mem_lookup_iff.mp present
  exact AList.mem_lookup_iff.mpr (List.mem_filter.mpr ⟨member, kept⟩)

/-- Moving a present key to the end changes no value. -/
theorem lookup_insert_self {key other : Key} {value : Value}
    (present : dict.lookup key = some value) :
    (dict.insert key value).lookup other = dict.lookup other := by
  by_cases same : other = key
  · subst other
    rw [AList.lookup_insert, present]
  · rw [AList.lookup_insert_ne same]

/-- Changing one value in place, and writing what it becomes. -/
theorem lookup_changeKeys_eq_insert {key other : Key} {value : Value}
    {change : Value → Value} (present : dict.lookup key = some value) :
    (dict.changeKeys (fun id => decide (id = key)) change).lookup other =
      (dict.insert key (change value)).lookup other := by
  rw [lookup_changeKeys]
  by_cases same : other = key
  · subst other
    simp [present]
  · rw [AList.lookup_insert_ne same]
    simp [same]

/-! ## The keys whose value passes a test -/

/-- The keys whose value passes a test, as a set. -/
def selected (dict : OrderedDict Key Value) (test : Value → Bool) : Set Key :=
  { key | ∃ value, dict.lookup key = some value ∧ test value = true }

variable {test : Value → Bool}

theorem mem_selected {key : Key} {value : Value}
    (present : dict.lookup key = some value) :
    key ∈ dict.selected test ↔ test value = true := by
  constructor
  · rintro ⟨found, isFound, passes⟩
    cases present.symm.trans isFound
    exact passes
  · intro passes
    exact ⟨value, present, passes⟩

theorem mem_keysOf {key : Key} :
    key ∈ dict.keysOf test ↔ key ∈ dict.selected test := by
  constructor
  · intro isKey
    obtain ⟨entry, isEntry, rfl⟩ := List.mem_map.mp isKey
    obtain ⟨present, passes⟩ := List.mem_filter.mp isEntry
    exact ⟨entry.snd, AList.mem_lookup_iff.mpr present, passes⟩
  · rintro ⟨value, present, passes⟩
    have member := AList.mem_lookup_iff.mp present
    exact List.mem_map.mpr ⟨⟨key, value⟩, List.mem_filter.mpr ⟨member, passes⟩, rfl⟩

theorem selected_eq_empty_of_first (absent : dict.first test = none) :
    dict.selected test = ∅ := by
  refine Set.eq_empty_of_forall_notMem ?_
  rintro key ⟨value, present, passes⟩
  exact first_eq_none absent present passes

theorem mem_selected_of_first {key : Key} {value : Value}
    (isFirst : dict.first test = some (key, value)) : key ∈ dict.selected test :=
  ⟨value, lookup_first isFirst⟩

theorem keysOf_ne_nil : dict.keysOf test ≠ [] ↔ (dict.selected test).Nonempty := by
  constructor
  · intro someKey
    obtain ⟨key, isKey⟩ := List.exists_mem_of_ne_nil _ someKey
    exact ⟨key, mem_keysOf.mp isKey⟩
  · rintro ⟨key, isKey⟩
    exact List.ne_nil_of_mem (mem_keysOf.mpr isKey)

theorem first_isSome :
    (dict.first test).isSome = true ↔ (dict.selected test).Nonempty := by
  cases isFirst : dict.first test with
  | none =>
      rw [selected_eq_empty_of_first isFirst]
      simp
  | some found =>
      simp only [Option.isSome_some, true_iff]
      exact ⟨found.1, mem_selected_of_first isFirst⟩

/-- A new entry is selected beside the old ones, or changes nothing. -/
theorem selected_insert {key : Key} {value : Value}
    (fresh : dict.lookup key = none) :
    selected (dict.insert key value) test =
      if test value then insert key (dict.selected test)
      else dict.selected test := by
  ext other
  by_cases same : other = key
  · subst other
    rw [mem_selected (AList.lookup_insert dict)]
    have notOld : key ∉ dict.selected test := by
      rintro ⟨old, present, _⟩
      rw [fresh] at present
      cases present
    by_cases passes : test value = true
    · simp [passes]
    · simp [passes, notOld]
  · have old : other ∈ selected (dict.insert key value) test ↔
        other ∈ dict.selected test := by
      simp only [selected, Set.mem_ofPred_eq, AList.lookup_insert_ne same]
    rw [old]
    by_cases passes : test value = true
    · simp [passes, same]
    · simp [passes]

theorem mem_selected_changeKeys {select : Key → Bool} {change : Value → Value}
    {key : Key} :
    key ∈ (dict.changeKeys select change).selected test ↔
      ∃ value, dict.lookup key = some value ∧
        test (if select key then change value else value) = true := by
  simp only [selected, Set.mem_ofPred_eq, lookup_changeKeys, Option.map_eq_some_iff]
  constructor
  · rintro ⟨_, ⟨value, present, rfl⟩, passes⟩
    exact ⟨value, present, passes⟩
  · rintro ⟨value, present, passes⟩
    exact ⟨_, ⟨value, present, rfl⟩, passes⟩

/-- A change that the test does not see. -/
theorem selected_changeKeys {select : Key → Bool} {change : Value → Value}
    (unseen : ∀ key value, dict.lookup key = some value → select key = true →
      test (change value) = test value) :
    (dict.changeKeys select change).selected test = dict.selected test := by
  ext key
  rw [mem_selected_changeKeys]
  refine exists_congr ?_
  intro value
  refine and_congr_right ?_
  intro present
  by_cases chosen : select key = true
  · simp [chosen, unseen key value present chosen]
  · simp [chosen]

end OrderedDict

end DbBuddy.Library
