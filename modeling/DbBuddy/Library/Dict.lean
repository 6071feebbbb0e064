import Mathlib.Data.List.AList

/-!
# Dictionaries in the order of their insertions

An assignment to a present key keeps the key where it is; a new key goes to the
end.
-/

namespace DbBuddy.Library

universe u v

/-- A dictionary as the list of its items. -/
abbrev Dict (Key : Type u) (Value : Type v) :=
  AList (fun _ : Key => Value)

namespace Dict

variable {Key : Type u} {Value : Type v} [DecidableEq Key]

/-- Replace the value of a key, or add the key as the last one. -/
def assignEntry (key : Key) (value : Value) :
    List (Sigma fun _ : Key => Value) → List (Sigma fun _ : Key => Value)
  | [] => [⟨key, value⟩]
  | entry :: rest =>
      if entry.fst = key then ⟨key, value⟩ :: rest
      else entry :: assignEntry key value rest

variable {key other : Key} {value : Value}

theorem mem_keys_assignEntry (entries : List (Sigma fun _ : Key => Value)) :
    other ∈ (assignEntry key value entries).keys ↔
      other = key ∨ other ∈ entries.keys := by
  induction entries with
  | nil =>
      simp [assignEntry]
  | cons entry rest inductionHypothesis =>
      unfold assignEntry
      split
      · rename_i same
        simp [same]
      · simp only [List.keys_cons, List.mem_cons, inductionHypothesis]
        exact or_left_comm

theorem nodupKeys_assignEntry {entries : List (Sigma fun _ : Key => Value)}
    (nodup : entries.NodupKeys) : (assignEntry key value entries).NodupKeys := by
  induction entries with
  | nil =>
      exact List.nodup_singleton key
  | cons entry rest inductionHypothesis =>
      obtain ⟨absent, restNodup⟩ := List.nodup_cons.mp nodup
      unfold assignEntry
      split
      · rename_i same
        apply List.nodup_cons.mpr
        rw [← same]
        exact ⟨absent, restNodup⟩
      · rename_i different
        apply List.nodup_cons.mpr
        refine ⟨?_, inductionHypothesis restNodup⟩
        intro isIn
        rcases (mem_keys_assignEntry rest).mp isIn with same | isIn
        · exact different same
        · exact absent isIn

theorem dlookup_assignEntry (entries : List (Sigma fun _ : Key => Value)) :
    (assignEntry key value entries).dlookup other =
      if other = key then some value else entries.dlookup other := by
  induction entries with
  | nil =>
      by_cases same : other = key
      · subst other
        simp [assignEntry]
      · unfold assignEntry
        rw [if_neg same, List.dlookup_cons_ne _ _ same]
  | cons entry rest inductionHypothesis =>
      unfold assignEntry
      by_cases sameEntry : entry.fst = key
      · rw [if_pos sameEntry]
        by_cases same : other = key
        · subst other
          rw [if_pos rfl, List.dlookup_cons_eq]
        · rw [if_neg same, List.dlookup_cons_ne _ _ same,
            List.dlookup_cons_ne _ _ (by rw [sameEntry]; exact same)]
      · rw [if_neg sameEntry]
        by_cases isEntry : other = entry.fst
        · subst other
          rw [if_neg sameEntry, List.dlookup_cons_eq, List.dlookup_cons_eq]
        · rw [List.dlookup_cons_ne _ _ isEntry, List.dlookup_cons_ne _ _ isEntry,
            inductionHypothesis]

/-- `dict[key] = value` -/
def assign (dict : Dict Key Value) (key : Key) (value : Value) : Dict Key Value where
  entries := assignEntry key value dict.entries
  nodupKeys := nodupKeys_assignEntry dict.nodupKeys

variable {dict : Dict Key Value}

theorem mem_assign : other ∈ dict.assign key value ↔ other = key ∨ other ∈ dict :=
  mem_keys_assignEntry dict.entries

theorem lookup_assign :
    (dict.assign key value).lookup other =
      if other = key then some value else dict.lookup other :=
  dlookup_assignEntry dict.entries

@[simp]
theorem lookup_assign_self : (dict.assign key value).lookup key = some value := by
  rw [lookup_assign, if_pos rfl]

theorem lookup_assign_of_ne (different : other ≠ key) :
    (dict.assign key value).lookup other = dict.lookup other := by
  rw [lookup_assign, if_neg different]

theorem assignEntry_eq_self {entries : List (Sigma fun _ : Key => Value)}
    (present : entries.dlookup key = some value) :
    assignEntry key value entries = entries := by
  induction entries with
  | nil => cases present
  | cons entry rest inductionHypothesis =>
      unfold assignEntry
      by_cases same : entry.fst = key
      · subst same
        rw [List.dlookup_cons_eq] at present
        cases present
        rw [if_pos rfl]
      · rw [List.dlookup_cons_ne _ _ (Ne.symm same)] at present
        rw [if_neg same, inductionHypothesis present]

/-- A new key goes to the end. -/
theorem entries_assign_of_notMem (absent : key ∉ dict) :
    (dict.assign key value).entries = dict.entries ++ [⟨key, value⟩] := by
  have appended : ∀ entries : List (Sigma fun _ : Key => Value), key ∉ entries.keys →
      assignEntry key value entries = entries ++ [⟨key, value⟩] := by
    intro entries
    induction entries with
    | nil => exact fun _ => rfl
    | cons entry rest inductionHypothesis =>
        intro notIn
        rw [List.keys_cons, List.mem_cons, not_or] at notIn
        unfold assignEntry
        rw [if_neg (Ne.symm notIn.1), inductionHypothesis notIn.2, List.cons_append]
  exact appended dict.entries absent

/-- A present key stays where it is. -/
theorem keys_assign_of_mem (present : key ∈ dict) :
    (dict.assign key value).keys = dict.keys := by
  have replaced : ∀ entries : List (Sigma fun _ : Key => Value), key ∈ entries.keys →
      (assignEntry key value entries).keys = entries.keys := by
    intro entries
    induction entries with
    | nil => exact fun isIn => by cases isIn
    | cons entry rest inductionHypothesis =>
        intro isIn
        unfold assignEntry
        by_cases same : entry.fst = key
        · rw [if_pos same, List.keys_cons, List.keys_cons, same]
        · rw [List.keys_cons, List.mem_cons] at isIn
          rw [if_neg same, List.keys_cons, List.keys_cons,
            inductionHypothesis (isIn.resolve_left (Ne.symm same))]
  exact replaced dict.entries present

/-- An assignment of the value that a key has changes nothing, the order included. -/
theorem assign_eq_self : dict.assign key value = dict ↔ dict.lookup key = some value := by
  constructor
  · intro same
    rw [← same]
    exact lookup_assign_self
  · intro present
    exact AList.ext (assignEntry_eq_self present)

end Dict

end DbBuddy.Library
