import DbBuddy.Learning.SharedMemory

/-!
# The targets of a term

`add_mapping` counts one more use of a target and keeps at most three of them.  It fails
where it removes the very target that it has just counted.
-/

namespace DbBuddy.Learning

open DbBuddy.Library

/-! ## The law -/

namespace Memory

/-- What a term was found to mean, and how often. -/
def targetsOf (memory : Memory) (term : String) : Counts :=
  (memory.mappings.lookup term).getD ∅

/-- At most three targets a term, each counted at least once. -/
structure Bounded (memory : Memory) : Prop where
  few : ∀ term, (memory.targetsOf term).keys.length ≤ maxMappingsPerTerm
  positive : ∀ term target count,
    (memory.targetsOf term).lookup target = some count → 0 < count

/-- What the memory holds once a use of a target is counted: the strongest targets, and
nothing else has changed. -/
structure Counted (memory : Memory) (term target : String) (updated : Memory) : Prop where
  others : ∀ other, other ≠ term → updated.targetsOf other = memory.targetsOf other
  columnUsage : updated.columnUsage = memory.columnUsage
  tableUsage : updated.tableUsage = memory.tableUsage
  few : (updated.targetsOf term).keys.length =
    min maxMappingsPerTerm ((memory.targetsOf term).bump target).keys.length
  observed : (updated.targetsOf term).lookup target =
    some (((memory.targetsOf term).lookup target).getD 0 + 1)
  kept : ∀ other count, (updated.targetsOf term).lookup other = some count →
    ((memory.targetsOf term).bump target).lookup other = some count
  strongest : ∀ dropped few, ((memory.targetsOf term).bump target).lookup dropped =
    some few → dropped ∉ updated.targetsOf term →
      ∀ other count, (updated.targetsOf term).lookup other = some count → few ≤ count

/-- Nothing is raised, and the use is counted. -/
def AddsMapping (memory : Memory) (term target : String) : Prop :=
  ∃ updated, memory.addMapping term target = some updated ∧
    memory.Counted term target updated

end Memory

/-! ## Counts -/

section Counting

variable {counts : Counts} {target other : String} {count : ℕ}

theorem lookup_bump : (counts.bump target).lookup other =
    if other = target then some ((counts.lookup target).getD 0 + 1)
    else counts.lookup other :=
  Dict.lookup_assign

theorem keys_bump_of_mem (present : target ∈ counts) :
    (counts.bump target).keys = counts.keys :=
  Dict.keys_assign_of_mem present

theorem entries_bump_of_notMem (absent : target ∉ counts) :
    (counts.bump target).entries = counts.entries ++ [⟨target, 1⟩] := by
  have isNew : counts.lookup target = none := AList.lookup_eq_none.mpr absent
  unfold Counts.bump
  rw [isNew]
  exact Dict.entries_assign_of_notMem absent

theorem length_bump_of_notMem (absent : target ∉ counts) :
    (counts.bump target).keys.length = counts.keys.length + 1 := by
  have isAppended := congrArg (fun entries => entries.keys.length)
    (entries_bump_of_notMem absent)
  simpa [AList.keys] using isAppended

/-- Some target has the lowest count. -/
theorem lowest_spec (nonempty : counts.entries ≠ []) :
    ∃ weakest few, Memory.lowest counts = some weakest ∧
      counts.lookup weakest = some few ∧
      ∀ other count, counts.lookup other = some count → few ≤ count := by
  cases isLowest : counts.entries.argmin fun entry => entry.snd with
  | none => exact absurd (List.argmin_eq_none.mp isLowest) nonempty
  | some entry =>
      refine ⟨entry.fst, entry.snd, ?_, ?_, ?_⟩
      · rw [Memory.lowest, isLowest, Option.map_some]
      · exact AList.mem_lookup_iff.mpr (List.argmin_mem isLowest)
      · intro other count isOther
        have isEntry := AList.mem_lookup_iff.mp isOther
        exact List.le_of_mem_argmin isEntry isLowest

/-- The new target is the lowest just if all others were counted more than once. -/
theorem lowest_bump_iff (absent : target ∉ counts) :
    Memory.lowest (counts.bump target) = some target ↔
      ∀ other count, counts.lookup other = some count → 1 < count := by
  unfold Memory.lowest
  rw [entries_bump_of_notMem absent, List.argmin_concat]
  cases isLowest : counts.entries.argmin fun entry => entry.snd with
  | none =>
      have isEmpty := List.argmin_eq_none.mp isLowest
      simp only [Option.map_some, true_iff]
      intro other count isOther
      have isEntry := AList.mem_lookup_iff.mp isOther
      rw [isEmpty] at isEntry
      cases isEntry
  | some entry =>
      have isEntry := List.argmin_mem isLowest
      have notTarget : entry.fst ≠ target := by
        intro same
        exact absent (same ▸ List.mem_keys_of_mem isEntry)
      by_cases isMore : 1 < entry.snd
      · simp only [if_pos isMore, Option.map_some, true_iff]
        intro other count isOther
        have isLeast := List.le_of_mem_argmin (AList.mem_lookup_iff.mp isOther) isLowest
        exact Nat.lt_of_lt_of_le isMore isLeast
      · simp only [if_neg isMore, Option.map_some, Option.some.injEq, notTarget, false_iff]
        intro more
        exact isMore (more entry.fst entry.snd (AList.mem_lookup_iff.mpr isEntry))

end Counting

/-! ## When the law holds -/

namespace Memory

section Adding

variable {memory updated : Memory} {term target : String}

/-- The update in terms of the targets that the term had. -/
theorem addMapping_eq (memory : Memory) (term target : String) :
    memory.addMapping term target =
      let counted := (memory.targetsOf term).bump target
      if maxMappingsPerTerm < counted.keys.length then
        match lowest counted with
        | none => none
        | some weakest =>
            if weakest = target then none
            else some { memory with
              mappings := memory.mappings.assign term (counted.erase weakest) }
      else some { memory with mappings := memory.mappings.assign term counted } := by
  have sameLength : ∀ counts : Counts, counts.keys.length = counts.entries.length :=
    fun counts => List.length_map _
  simp only [sameLength]
  rfl

theorem targetsOf_assign (counts : Counts) (other : String) :
    targetsOf { memory with mappings := memory.mappings.assign term counts } other =
      if other = term then counts else memory.targetsOf other := by
  unfold targetsOf
  by_cases same : other = term
  · rw [if_pos same, same, Dict.lookup_assign_self, Option.getD_some]
  · rw [if_neg same, Dict.lookup_assign_of_ne same]

/-- Nothing is removed. -/
theorem counted_all (fits : ((memory.targetsOf term).bump target).keys.length ≤
    maxMappingsPerTerm) :
    memory.Counted term target { memory with
      mappings := memory.mappings.assign term ((memory.targetsOf term).bump target) } where
  others := fun other different => by rw [targetsOf_assign, if_neg different]
  columnUsage := rfl
  tableUsage := rfl
  few := by
    rw [targetsOf_assign, if_pos rfl]
    exact (Nat.min_eq_right fits).symm
  observed := by rw [targetsOf_assign, if_pos rfl, lookup_bump, if_pos rfl]
  kept := fun other count isOther => by
    rw [targetsOf_assign, if_pos rfl] at isOther
    exact isOther
  strongest := fun dropped few isDropped notIn => by
    rw [targetsOf_assign, if_pos rfl] at notIn
    have isAbsent := AList.lookup_eq_none.mpr notIn
    rw [isDropped] at isAbsent
    cases isAbsent

/-- One target is removed, and it is none of the strongest. -/
theorem counted_pruned {weakest : String} {few : ℕ}
    (full : ((memory.targetsOf term).bump target).keys.length = maxMappingsPerTerm + 1)
    (isFew : ((memory.targetsOf term).bump target).lookup weakest = some few)
    (isLeast : ∀ other count,
      ((memory.targetsOf term).bump target).lookup other = some count → few ≤ count)
    (different : weakest ≠ target) :
    memory.Counted term target { memory with
      mappings := memory.mappings.assign term
        (((memory.targetsOf term).bump target).erase weakest) } where
  others := fun other different => by rw [targetsOf_assign, if_neg different]
  columnUsage := rfl
  tableUsage := rfl
  few := by
    have isIn : weakest ∈ ((memory.targetsOf term).bump target).keys :=
      AList.lookup_isSome.mp (isFew ▸ rfl)
    rw [targetsOf_assign, if_pos rfl, AList.keys_erase, List.length_erase_of_mem isIn, full]
    rfl
  observed := by
    rw [targetsOf_assign, if_pos rfl, AList.lookup_erase_ne (Ne.symm different), lookup_bump,
      if_pos rfl]
  kept := fun other count isOther => by
    rw [targetsOf_assign, if_pos rfl] at isOther
    by_cases isWeakest : other = weakest
    · rw [isWeakest, AList.lookup_erase] at isOther
      cases isOther
    · rwa [AList.lookup_erase_ne isWeakest] at isOther
  strongest := fun dropped droppedCount isDropped notIn other count isOther => by
    rw [targetsOf_assign, if_pos rfl] at notIn isOther
    have isWeakest : dropped = weakest := by
      by_contra notWeakest
      have isIn : dropped ∈ (memory.targetsOf term).bump target :=
        AList.lookup_isSome.mp (isDropped ▸ rfl)
      exact notIn (AList.mem_erase.mpr ⟨notWeakest, isIn⟩)
    have isKept : other ≠ weakest := by
      rintro rfl
      rw [AList.lookup_erase] at isOther
      cases isOther
    rw [isWeakest, isFew] at isDropped
    cases isDropped
    rw [AList.lookup_erase_ne isKept] at isOther
    exact isLeast other count isOther

/-- A new target comes to three that were all counted more than once. -/
structure Unlearnable (memory : Memory) (term target : String) : Prop where
  isNew : target ∉ memory.targetsOf term
  isFull : (memory.targetsOf term).keys.length = maxMappingsPerTerm
  isMore : ∀ other count, (memory.targetsOf term).lookup other = some count → 1 < count

theorem addMapping_cases (few : (memory.targetsOf term).keys.length ≤ maxMappingsPerTerm)
    (target : String) :
    (memory.addMapping term target = none ∧ memory.Unlearnable term target) ∨
      ∃ updated, memory.addMapping term target = some updated ∧
        memory.Counted term target updated ∧ ¬memory.Unlearnable term target := by
  rw [addMapping_eq]
  by_cases fits : ((memory.targetsOf term).bump target).keys.length ≤ maxMappingsPerTerm
  · simp only [if_neg (Nat.not_lt.mpr fits)]
    right
    refine ⟨_, rfl, counted_all fits, ?_⟩
    intro unlearnable
    rw [length_bump_of_notMem unlearnable.isNew, unlearnable.isFull] at fits
    omega
  · have isOver : maxMappingsPerTerm < ((memory.targetsOf term).bump target).keys.length := by
      omega
    have isNew : target ∉ memory.targetsOf term := by
      intro present
      rw [keys_bump_of_mem present] at fits
      exact fits few
    have isLonger := length_bump_of_notMem isNew
    have isFull : (memory.targetsOf term).keys.length = maxMappingsPerTerm := by omega
    have nonempty : ((memory.targetsOf term).bump target).entries ≠ [] := by
      rw [entries_bump_of_notMem isNew]
      exact List.append_ne_nil_of_right_ne_nil _ (List.cons_ne_nil _ _)
    obtain ⟨weakest, fewest, isLowest, isFew, isLeast⟩ := lowest_spec nonempty
    have isTarget := lowest_bump_iff isNew
    rw [isLowest, Option.some.injEq] at isTarget
    simp only [if_pos isOver, isLowest]
    by_cases same : weakest = target
    · simp only [if_pos same]
      exact Or.inl ⟨trivial, isNew, isFull, isTarget.mp same⟩
    · simp only [if_neg same]
      right
      refine ⟨_, rfl, counted_pruned (by omega) isFew isLeast same, ?_⟩
      intro unlearnable
      exact same (isTarget.mpr unlearnable.isMore)

/-- The law holds but for a new target of a term whose three targets were all counted more
than once. -/
theorem addsMapping_iff (bounded : memory.Bounded) (term target : String) :
    memory.AddsMapping term target ↔ ¬memory.Unlearnable term target := by
  rcases addMapping_cases (bounded.few term) target with
    ⟨isNone, unlearnable⟩ | ⟨updated, isSome, counted, learnable⟩
  · constructor
    · rintro ⟨updated, isSome, _⟩
      rw [isNone] at isSome
      cases isSome
    · intro learnable
      exact absurd unlearnable learnable
  · exact iff_of_true ⟨updated, isSome, counted⟩ learnable

/-- What `add_mapping` makes of a bounded memory is bounded. -/
theorem Counted.bounded (counted : memory.Counted term target updated)
    (bounded : memory.Bounded) : updated.Bounded where
  few := fun other => by
    by_cases same : other = term
    · rw [same, counted.few]
      exact Nat.min_le_left _ _
    · rw [counted.others other same]
      exact bounded.few other
  positive := fun other found count isFound => by
    by_cases same : other = term
    · rw [same] at isFound
      have isCounted := counted.kept found count isFound
      rw [lookup_bump] at isCounted
      split at isCounted
      · have isCount := Option.some.inj isCounted
        omega
      · exact bounded.positive term found count isCounted
    · rw [counted.others other same] at isFound
      exact bounded.positive other found count isFound

theorem bounded_blank : blank.Bounded where
  few := fun _ => Nat.zero_le _
  positive := fun _ _ _ isFound => by cases isFound

theorem Bounded.addMapping (bounded : memory.Bounded)
    (isSome : memory.addMapping term target = some updated) : updated.Bounded := by
  rcases addMapping_cases (bounded.few term) target with
    ⟨isNone, _⟩ | ⟨found, isFound, counted, _⟩
  · rw [isNone] at isSome
    cases isSome
  · rw [isFound] at isSome
    cases isSome
    exact counted.bounded bounded

/-- The terms of a lesson keep the memory bounded. -/
theorem Bounded.addMappings {terms : List String} (bounded : memory.Bounded)
    (isSome : memory.addMappings target terms = some updated) : updated.Bounded := by
  induction terms generalizing memory with
  | nil =>
      cases isSome
      exact bounded
  | cons term rest inductionHypothesis =>
      obtain ⟨added, isAdded, isRest⟩ := Option.bind_eq_some_iff.mp isSome
      exact inductionHypothesis (bounded.addMapping isAdded) isRest

/-! ### Three targets and a fourth -/

/-- A memory with one term. -/
def remembering (term : String) (counts : Counts) : Memory :=
  { blank with mappings := blank.mappings.assign term counts }

theorem bounded_remembering {counts : Counts}
    (few : counts.keys.length ≤ maxMappingsPerTerm)
    (positive : ∀ target count, counts.lookup target = some count → 0 < count) :
    (remembering term counts).Bounded where
  few := fun other => by
    unfold remembering
    rw [targetsOf_assign]
    split
    · exact few
    · exact bounded_blank.few other
  positive := fun other => by
    unfold remembering
    rw [targetsOf_assign]
    split
    · exact positive
    · exact bounded_blank.positive other

/-- Three columns, of which the second was seen twice. -/
def amounts (often : ℕ) : Counts :=
  (((∅ : Counts).assign "payments.amount" often).assign "orders.total" 2).assign
    "items.price" often

theorem positive_amounts {often : ℕ} (positive : 0 < often) (target : String) (count : ℕ)
    (isFound : (amounts often).lookup target = some count) : 0 < count := by
  unfold amounts at isFound
  rw [Dict.lookup_assign, Dict.lookup_assign, Dict.lookup_assign] at isFound
  split at isFound
  · cases isFound
    exact positive
  · split at isFound
    · cases isFound
      decide
    · split at isFound
      · cases isFound
        exact positive
      · cases isFound

/-- The first of the two that were seen once gives way to the new one. -/
theorem addsMapping_amounts :
    (remembering "revenue" (amounts 1)).AddsMapping "revenue" "fees.charge" := by
  have few : (amounts 1).keys.length ≤ maxMappingsPerTerm := by decide
  have bounded : (remembering "revenue" (amounts 1)).Bounded :=
    bounded_remembering few (positive_amounts (by decide))
  apply (addsMapping_iff bounded "revenue" "fees.charge").mpr
  intro unlearnable
  exact absurd (unlearnable.isMore "payments.amount" 1 (by decide)) (by decide)

/-- Where all three were seen twice, the new one is removed before it is logged. -/
theorem not_addsMapping_amounts :
    (remembering "revenue" (amounts 2)).Bounded ∧
      ¬(remembering "revenue" (amounts 2)).AddsMapping "revenue" "fees.charge" := by
  have few : (amounts 2).keys.length ≤ maxMappingsPerTerm := by decide
  refine ⟨bounded_remembering few (positive_amounts (by decide)), ?_⟩
  rintro ⟨updated, isSome, _⟩
  have isNone : (remembering "revenue" (amounts 2)).addMapping "revenue" "fees.charge" =
      none := by
    decide
  rw [isNone] at isSome
  cases isSome

end Adding

end Memory

end DbBuddy.Learning
