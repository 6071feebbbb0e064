import DbBuddy.Library.IntegerRuns

/-!
# Gaps in the sequence of the audit log

The database numbers the rows.  `sequence_gaps` reports the numbers that are missing
between the lowest and the highest, whatever the order of the rows and however often one
is read.
-/

namespace DbBuddy.Audit

open DbBuddy.Library.IntegerRuns

/-! ## The report -/

structure SequenceReport where
  first : Option ℤ
  last : Option ℤ
  present : ℕ
  expected : ℤ
  missing : ℤ
  ranges : List (ℤ × ℤ)
  duplicates : ℕ
  unsequenced : ℕ
  tailMissing : ℤ
  deriving DecidableEq

/-- The set `seen`, and the two counts beside it. -/
structure Tally where
  seen : Finset ℤ
  duplicates : ℕ
  unsequenced : ℕ

def Tally.count (tally : Tally) : Option ℤ → Tally
  | none => { tally with unsequenced := tally.unsequenced + 1 }
  | some value =>
      if value ∈ tally.seen then { tally with duplicates := tally.duplicates + 1 }
      else { tally with seen := insert value tally.seen }

def tallyOf (values : List (Option ℤ)) : Tally :=
  values.foldl Tally.count ⟨∅, 0, 0⟩

/-- The loop over `range(first, last + 1)`, which is left out where nothing is missing. -/
def missingRanges (seen : Finset ℤ) (first last : ℤ) : List (ℤ × ℤ) :=
  if (seen.card : ℤ) < last - first + 1 then
    let scan := walk (· ∈ seen) first (last + 1 - first).toNat
    match scan.runStart with
    | some start => scan.ranges ++ [(start, last)]
    | none => scan.ranges
  else []

def sequenceGaps (values : List (Option ℤ)) (lastValue : Option ℤ) : SequenceReport :=
  let tally := tallyOf values
  if nonempty : tally.seen.Nonempty then
    let first := tally.seen.min' nonempty
    let last := tally.seen.max' nonempty
    let expected := last - first + 1
    { first := some first
      last := some last
      present := tally.seen.card
      expected := expected
      missing := expected - tally.seen.card
      ranges := missingRanges tally.seen first last
      duplicates := tally.duplicates
      unsequenced := tally.unsequenced
      tailMissing :=
        match lastValue with
        | some value => max 0 (value - last)
        | none => 0 }
  else
    { first := none
      last := none
      present := 0
      expected := 0
      missing := 0
      ranges := []
      duplicates := tally.duplicates
      unsequenced := tally.unsequenced
      tailMissing := 0 }

/-! ## What a gap is -/

/-- An integer that does not occur between two that do. -/
structure Absent (values : List (Option ℤ)) (value : ℤ) : Prop where
  above : ∃ low, some low ∈ values ∧ low < value
  below : ∃ high, some high ∈ values ∧ value < high
  notIn : some value ∉ values

structure AbsentRun (values : List (Option ℤ)) (start stop : ℤ) : Prop where
  ordered : start ≤ stop
  absent : ∀ value, start ≤ value → value ≤ stop → Absent values value

/-- No longer run has it inside. -/
structure MaximalRun (values : List (Option ℤ)) (start stop : ℤ) : Prop
    extends AbsentRun values start stop where
  maximal : ∀ begin finish, AbsentRun values begin finish → begin ≤ start →
    stop ≤ finish → begin = start ∧ finish = stop

/-- The report says what is missing, and says it whatever the order and the repetitions. -/
structure GapsExact (values : List (Option ℤ)) (lastValue : Option ℤ) : Prop where
  permuted : ∀ other, values.Perm other →
    sequenceGaps other lastValue = sequenceGaps values lastValue
  mem_ranges : ∀ start stop, (start, stop) ∈ (sequenceGaps values lastValue).ranges ↔
    MaximalRun values start stop
  sorted : (sequenceGaps values lastValue).ranges.Pairwise fun run other => run.2 < other.1
  total : ((sequenceGaps values lastValue).ranges.map fun run => run.2 - run.1 + 1).sum =
    (sequenceGaps values lastValue).missing
  repeated : ∀ value, some value ∈ values →
    sequenceGaps (some value :: values) lastValue =
      { sequenceGaps values lastValue with
        duplicates := (sequenceGaps values lastValue).duplicates + 1 }

/-! ## What the loop counts -/

section Counting

variable {values other : List (Option ℤ)} {value : ℤ}

theorem mem_count {tally : Tally} {entry : Option ℤ} :
    value ∈ (tally.count entry).seen ↔ value ∈ tally.seen ∨ entry = some value := by
  cases entry with
  | none => simp [Tally.count]
  | some number =>
      unfold Tally.count
      by_cases isIn : number ∈ tally.seen
      · simp only [if_pos isIn, Option.some.injEq]
        constructor
        · exact Or.inl
        · rintro (isBefore | rfl)
          · exact isBefore
          · exact isIn
      · simp only [if_neg isIn, Finset.mem_insert, Option.some.injEq]
        rw [or_comm, eq_comm]

theorem unsequenced_count (tally : Tally) (entry : Option ℤ) :
    (tally.count entry).unsequenced = tally.unsequenced + [entry].count none := by
  cases entry with
  | none => rfl
  | some number =>
      rw [List.count_singleton, if_neg (by simp)]
      unfold Tally.count
      by_cases isIn : number ∈ tally.seen
      · simp [isIn]
      · simp [isIn]

/-- Every row is counted once. -/
def Tally.rows (tally : Tally) : ℕ :=
  tally.duplicates + tally.seen.card + tally.unsequenced

theorem rows_count (tally : Tally) (entry : Option ℤ) :
    (tally.count entry).rows = tally.rows + 1 := by
  unfold Tally.rows
  cases entry with
  | none =>
      simp only [Tally.count]
      omega
  | some number =>
      unfold Tally.count
      by_cases isIn : number ∈ tally.seen
      · simp only [if_pos isIn]
        omega
      · simp only [if_neg isIn, Finset.card_insert_of_notMem isIn]
        omega

theorem foldl_count (values : List (Option ℤ)) (tally : Tally) :
    (∀ value, value ∈ (values.foldl Tally.count tally).seen ↔
      value ∈ tally.seen ∨ some value ∈ values) ∧
    (values.foldl Tally.count tally).unsequenced =
      tally.unsequenced + values.count none ∧
    (values.foldl Tally.count tally).rows = tally.rows + values.length := by
  induction values generalizing tally with
  | nil => simp
  | cons entry rest inductionHypothesis =>
      obtain ⟨isSeen, isNone, isTotal⟩ := inductionHypothesis (tally.count entry)
      rw [List.foldl_cons]
      refine ⟨?_, ?_, ?_⟩
      · intro value
        rw [isSeen value, mem_count, List.mem_cons, or_assoc, eq_comm]
      · have isSplit : (entry :: rest).count none = [entry].count none + rest.count none :=
          (congrArg (List.count none) List.singleton_append.symm).trans List.count_append
        rw [isNone, unsequenced_count, isSplit, Nat.add_assoc]
      · rw [isTotal, rows_count, List.length_cons]
        omega

theorem mem_seen : value ∈ (tallyOf values).seen ↔ some value ∈ values := by
  have isSeen := (foldl_count values ⟨∅, 0, 0⟩).1 value
  simpa [tallyOf] using isSeen

theorem unsequenced_tallyOf : (tallyOf values).unsequenced = values.count none := by
  have isNone := (foldl_count values ⟨∅, 0, 0⟩).2.1
  simpa [tallyOf] using isNone

theorem rows_tallyOf : (tallyOf values).rows = values.length := by
  have isTotal := (foldl_count values ⟨∅, 0, 0⟩).2.2
  simpa [tallyOf, Tally.rows] using isTotal

/-- The set and the length of the list decide the counts. -/
theorem tallyOf_eq {longer : Tally} (sameSeen : longer.seen = (tallyOf values).seen)
    (sameNone : longer.unsequenced = (tallyOf values).unsequenced) {more : ℕ}
    (isLonger : longer.rows = values.length + more) :
    longer = { tallyOf values with duplicates := (tallyOf values).duplicates + more } := by
  have total : (tallyOf values).rows = values.length := rows_tallyOf
  unfold Tally.rows at total isLonger
  rw [sameSeen, sameNone] at isLonger
  have isMore : longer.duplicates = (tallyOf values).duplicates + more := by
    omega
  cases longer with
  | mk seen duplicates unsequenced =>
      simp only at sameSeen sameNone isMore
      rw [sameSeen, sameNone, isMore]

theorem tallyOf_perm (perm : values.Perm other) : tallyOf other = tallyOf values := by
  have sameSeen : (tallyOf other).seen = (tallyOf values).seen := by
    ext value
    rw [mem_seen, mem_seen, perm.mem_iff]
  have sameNone : (tallyOf other).unsequenced = (tallyOf values).unsequenced := by
    rw [unsequenced_tallyOf, unsequenced_tallyOf, perm.count_eq]
  have sameRows : (tallyOf other).rows = values.length + 0 := by
    rw [rows_tallyOf, perm.length_eq, Nat.add_zero]
  exact tallyOf_eq sameSeen sameNone sameRows

theorem tallyOf_repeated (isIn : some value ∈ values) :
    tallyOf (some value :: values) =
      { tallyOf values with duplicates := (tallyOf values).duplicates + 1 } := by
  have sameSeen : (tallyOf (some value :: values)).seen = (tallyOf values).seen := by
    ext number
    rw [mem_seen, mem_seen, List.mem_cons, Option.some.injEq]
    constructor
    · rintro (rfl | isRest)
      · exact isIn
      · exact isRest
    · exact Or.inr
  have sameNone : (tallyOf (some value :: values)).unsequenced =
      (tallyOf values).unsequenced := by
    rw [unsequenced_tallyOf, unsequenced_tallyOf, List.count_cons_of_ne (by simp)]
  exact tallyOf_eq sameSeen sameNone rows_tallyOf

end Counting

/-! ## The ranges -/

section Ranges

variable {seen : Finset ℤ} {first last : ℤ}

/-- What the loop needs to know of the lowest and the highest number. -/
structure Bounded (seen : Finset ℤ) (first last : ℤ) : Prop where
  isFirst : first ∈ seen
  isLast : last ∈ seen
  within : ∀ value ∈ seen, first ≤ value ∧ value ≤ last

theorem card_absent (bounded : Bounded seen first last) :
    (((Finset.Ico first (last + 1)).filter fun value => ¬value ∈ seen).card : ℤ) =
      last - first + 1 - seen.card := by
  have isSeen : (Finset.Ico first (last + 1)).filter (· ∈ seen) = seen := by
    ext value
    rw [Finset.mem_filter, Finset.mem_Ico]
    constructor
    · exact And.right
    · intro isIn
      have within := bounded.within value isIn
      exact ⟨⟨within.1, by omega⟩, isIn⟩
  have split := Finset.card_filter_add_card_filter_not (s := Finset.Ico first (last + 1))
    (· ∈ seen)
  have ordered := (bounded.within last bounded.isLast).1
  rw [isSeen, Int.card_Ico] at split
  omega

/-- The loop finds the enclosed runs, and they are all that is missing. -/
theorem missingRanges_spec (bounded : Bounded seen first last) :
    (∀ start stop, (start, stop) ∈ missingRanges seen first last ↔
      first < start ∧ stop < last ∧ Enclosed (· ∈ seen) start stop) ∧
    (missingRanges seen first last).Pairwise (fun run other => run.2 + 1 < other.1) ∧
    lengths (missingRanges seen first last) = last - first + 1 - seen.card := by
  have ordered := (bounded.within last bounded.isLast).1
  obtain ⟨count, isCount⟩ := Int.eq_ofNat_of_zero_le (Int.sub_nonneg_of_le ordered)
  have isLast : first + (count : ℤ) = last := by omega
  have isSteps : (last + 1 - first).toNat = count + 1 := by omega
  have isPresent : first + (count : ℤ) ∈ seen := isLast ▸ bounded.isLast
  have scanned : Scanned (· ∈ seen) first (first + (count : ℤ) + 1)
      (walk (· ∈ seen) first (count + 1)) :=
    scanned_walk bounded.isFirst count
  have isOver : (walk (· ∈ seen) first (count + 1)).runStart = none :=
    runStart_walk bounded.isFirst isPresent
  rw [isLast] at scanned
  have total := scanned.total
  rw [card_absent bounded] at total
  simp only [Scan.pending, isOver, Int.add_zero] at total
  have isWalk : missingRanges seen first last =
      (walk (· ∈ seen) first (count + 1)).ranges := by
    unfold missingRanges
    by_cases isMissing : (seen.card : ℤ) < last - first + 1
    · rw [if_pos isMissing, isSteps]
      simp only [isOver]
    · rw [if_neg isMissing]
      symm
      apply List.eq_nil_iff_forall_not_mem.mpr
      rintro ⟨start, stop⟩ isIn
      obtain ⟨isAfter, isBefore, run⟩ := (scanned.mem_iff start stop).mp isIn
      have ordered := run.ordered
      have isAbsent : start ∈ (Finset.Ico first (last + 1)).filter fun value =>
          ¬value ∈ seen := by
        rw [Finset.mem_filter, Finset.mem_Ico]
        exact ⟨⟨by omega, by omega⟩, run.absent start (Int.le_refl _) run.ordered⟩
      have positive := Finset.card_pos.mpr ⟨start, isAbsent⟩
      have isCard := card_absent bounded
      omega
  rw [isWalk]
  refine ⟨?_, scanned.sorted, total.symm⟩
  intro start stop
  rw [scanned.mem_iff start stop]
  constructor
  · rintro ⟨isAfter, isBefore, run⟩
    exact ⟨isAfter, by omega, run⟩
  · rintro ⟨isAfter, isBefore, run⟩
    exact ⟨isAfter, by omega, run⟩

end Ranges

/-! ## Exact reports -/

section Exact

variable {values : List (Option ℤ)} {lastValue : Option ℤ} {first last start stop : ℤ}

theorem absent_iff (bounded : Bounded (tallyOf values).seen first last) {value : ℤ} :
    Absent values value ↔
      first < value ∧ value < last ∧ value ∉ (tallyOf values).seen := by
  constructor
  · rintro ⟨⟨low, isLow, isAbove⟩, ⟨high, isHigh, isBelow⟩, notIn⟩
    have lowWithin := bounded.within low (mem_seen.mpr isLow)
    have highWithin := bounded.within high (mem_seen.mpr isHigh)
    exact ⟨by omega, by omega, fun isSeen => notIn (mem_seen.mp isSeen)⟩
  · rintro ⟨isAfter, isBefore, notSeen⟩
    exact ⟨⟨first, mem_seen.mp bounded.isFirst, isAfter⟩,
      ⟨last, mem_seen.mp bounded.isLast, isBefore⟩, fun isIn => notSeen (mem_seen.mpr isIn)⟩

/-- A run is the longest if it stands between two numbers that occur. -/
theorem maximalRun_iff (bounded : Bounded (tallyOf values).seen first last) :
    MaximalRun values start stop ↔
      first < start ∧ stop < last ∧ Enclosed (· ∈ (tallyOf values).seen) start stop := by
  constructor
  · intro run
    have isStart := (absent_iff bounded).mp
      (run.absent start (Int.le_refl _) run.ordered)
    have isStop := (absent_iff bounded).mp (run.absent stop run.ordered (Int.le_refl _))
    refine ⟨isStart.1, isStop.2.1, ⟨run.ordered, ?_⟩, ?_, ?_⟩
    · intro value isFrom isTo
      exact ((absent_iff bounded).mp (run.absent value isFrom isTo)).2.2
    · by_contra notBefore
      have isFirst : start - 1 ≠ first := fun same => notBefore (same ▸ bounded.isFirst)
      have longer : AbsentRun values (start - 1) stop := by
        refine ⟨by have := run.ordered; omega, ?_⟩
        intro value isFrom isTo
        by_cases isNew : value = start - 1
        · exact (absent_iff bounded).mpr ⟨by omega, by omega, isNew ▸ notBefore⟩
        · exact run.absent value (by omega) isTo
      have same := (run.maximal _ _ longer (by omega) (Int.le_refl _)).1
      omega
    · by_contra notBehind
      have isLast : stop + 1 ≠ last := fun same => notBehind (same ▸ bounded.isLast)
      have longer : AbsentRun values start (stop + 1) := by
        refine ⟨by have := run.ordered; omega, ?_⟩
        intro value isFrom isTo
        by_cases isNew : value = stop + 1
        · exact (absent_iff bounded).mpr ⟨by omega, by omega, isNew ▸ notBehind⟩
        · exact run.absent value isFrom (by omega)
      have same := (run.maximal _ _ longer (Int.le_refl _) (by omega)).2
      omega
  · rintro ⟨isAfter, isBefore, run⟩
    refine ⟨⟨run.ordered, ?_⟩, ?_⟩
    · intro value isFrom isTo
      exact (absent_iff bounded).mpr ⟨by omega, by omega, run.absent value isFrom isTo⟩
    · intro begin finish longer isBegin isFinish
      have ordered := run.ordered
      constructor
      · by_contra notSame
        have isAbsent := longer.absent (start - 1) (by omega) (by omega)
        exact ((absent_iff bounded).mp isAbsent).2.2 run.before
      · by_contra notSame
        have isAbsent := longer.absent (stop + 1) (by omega) (by omega)
        exact ((absent_iff bounded).mp isAbsent).2.2 run.behind

theorem bounded_tallyOf (nonempty : (tallyOf values).seen.Nonempty) :
    Bounded (tallyOf values).seen ((tallyOf values).seen.min' nonempty)
      ((tallyOf values).seen.max' nonempty) where
  isFirst := Finset.min'_mem _ nonempty
  isLast := Finset.max'_mem _ nonempty
  within := fun value isIn => ⟨Finset.min'_le _ value isIn, Finset.le_max' _ value isIn⟩

/-- Nothing is missing where nothing is numbered. -/
theorem not_absentRun (isEmpty : ¬(tallyOf values).seen.Nonempty) :
    ¬AbsentRun values start stop := by
  intro run
  obtain ⟨low, isLow, _⟩ := (run.absent start (Int.le_refl _) run.ordered).above
  exact isEmpty ⟨low, mem_seen.mpr isLow⟩

theorem ranges_spec (values : List (Option ℤ)) (lastValue : Option ℤ) :
    (∀ start stop, (start, stop) ∈ (sequenceGaps values lastValue).ranges ↔
      MaximalRun values start stop) ∧
    (sequenceGaps values lastValue).ranges.Pairwise (fun run other => run.2 + 1 < other.1) ∧
    lengths (sequenceGaps values lastValue).ranges =
      (sequenceGaps values lastValue).missing := by
  unfold sequenceGaps
  by_cases nonempty : (tallyOf values).seen.Nonempty
  · have bounded := bounded_tallyOf nonempty
    simp only [dif_pos nonempty]
    obtain ⟨isMember, isSorted, isTotal⟩ := missingRanges_spec bounded
    refine ⟨?_, isSorted, isTotal⟩
    intro start stop
    rw [isMember start stop, maximalRun_iff bounded]
  · simp only [dif_neg nonempty]
    refine ⟨?_, List.Pairwise.nil, rfl⟩
    intro start stop
    constructor
    · intro isIn
      cases isIn
    · intro run
      exact absurd run.toAbsentRun (not_absentRun nonempty)

/-- The report does not depend on the order, and a repetition is only counted. -/
theorem sequenceGaps_exact (values : List (Option ℤ)) (lastValue : Option ℤ) :
    GapsExact values lastValue := by
  obtain ⟨isMember, isSorted, isTotal⟩ := ranges_spec values lastValue
  refine ⟨?_, isMember, ?_, isTotal, ?_⟩
  · intro other perm
    unfold sequenceGaps
    rw [tallyOf_perm perm]
  · exact isSorted.imp fun isApart => by omega
  · intro value isIn
    unfold sequenceGaps
    rw [tallyOf_repeated isIn]
    by_cases nonempty : (tallyOf values).seen.Nonempty
    · simp only [dif_pos nonempty]
    · simp only [dif_neg nonempty]

/-- Rows 4 to 6 and row 8 are gone; one row is read twice, and one has no number. -/
example : sequenceGaps [some 9, some 3, none, some 7, some 3] (some 11) =
    ⟨some 3, some 9, 3, 7, 4, [(4, 6), (8, 8)], 1, 1, 2⟩ := by
  decide

end Exact

end DbBuddy.Audit
