import DbBuddy.Planner.Questions
import Mathlib.Algebra.Order.BigOperators.Group.List
import Mathlib.Algebra.Order.Field.Rat
import Mathlib.Tactic.Linarith
import Mathlib.Tactic.NormNum

/-!
# Are lost clauses disclosed?

A clause can get lost when it is planned and when the passes find it out of reach.
The confidence is worked out afterwards, from what is compared clause by clause;
the note and the lowered confidence of the pass that drops filters are overwritten.
-/

namespace DbBuddy.Planner

open DbBuddy.Library DbBuddy.Sql

/-! ## Plans that disclose what they lose -/

/-- The plan has as many filters as the intent, and something for every other clause. -/
structure LostNothing (intent : Intent) (plan : ExecutionPlan) : Prop where
  filters : intent.filters.length ≤ plan.filters.length
  having : intent.having.isSome = true → plan.having.isSome = true
  orderBy : intent.orderBy.isSome = true → plan.orderBy.isSome = true
  aggregation : intent.aggregation.isSome = true → plan.aggregation.isSome = true
  groupBy : intent.groupBy.isSome = true ∨ intent.requestedGrouping = true →
    plan.groupBy ≠ []

/-- The plan's confidence is low, and it says why. -/
structure SaysSo (plan : ExecutionPlan) : Prop where
  confidence : plan.confidence ≤ 1 / 2
  note : plan.ambiguities ≠ [] ∨ plan.droppedClauses ≠ []

/-- A plan that has lost a clause discloses it. -/
def DisclosesLosses (intent : Intent) (plan : ExecutionPlan) : Prop :=
  ¬LostNothing intent plan → SaysSo plan

namespace Question

variable (question : Question)

/-! ## What a question loses -/

def AsksToGroup : Prop :=
  question.intent.groupBy.isSome = true ∨ question.intent.requestedGrouping = true

/-- The joins reach every clause, HAVING has a measure, and there is something to group
by. -/
structure KeepsAll : Prop where
  filters : ∀ filter ∈ question.intent.filters, question.InReach (filterTables filter)
  having : question.intent.having.isSome = true → ∃ having,
    question.having = some having ∧ question.InReach (havingTables having)
  orderBy : ∀ order, question.orderBy = some order → question.InReach (orderTables order)
  groupBy : question.AsksToGroup → question.groupBy ≠ []

/-- There are filters, and all of them are out of reach. -/
def MissesFilters : Prop :=
  question.intent.filters ≠ [] ∧
    ∀ filter ∈ question.intent.filters, ¬question.InReach (filterTables filter)

/-- The ordering is out of reach. -/
def MissesOrder : Prop :=
  ∃ order, question.orderBy = some order ∧ ¬question.InReach (orderTables order)

/-- There is nothing to group by. -/
def MissesGroups : Prop :=
  question.AsksToGroup ∧ question.groupBy = []

/-- A clause is missed.  A HAVING is not, nor are filters if one is left. -/
def MissesOne : Prop :=
  question.MissesGroups ∨ question.MissesFilters ∨ question.MissesOrder

def MissesTwo : Prop :=
  question.MissesGroups ∧ question.MissesFilters ∨
    question.MissesGroups ∧ question.MissesOrder ∨
    question.MissesFilters ∧ question.MissesOrder

/-! ## What else is held against the answer -/

/-- One, if it is so. -/
def told (doubt : Prop) [Decidable doubt] : ℕ :=
  if doubt then 1 else 0

/-- Several tables have the selected column, and the question does not name its own. -/
def isShared (item : SelectItem) : Bool :=
  let column :=
    repaired question.unicode question.context.schema (some item.table) item.column
  decide (¬(column = "" ∨ item.table = "" ∨ userNamed question.unicode
      (question.unicode.lower question.intent.originalQuery) item.table = true) ∧
    1 < (columnOwners question.unicode question.context column).length)

/-- The ordering goes against the words for it. -/
def ordersAgainst : Bool :=
  question.intent.orderBy.any fun order =>
    decide (question.intent.aggregation.isSome = true ∧
      (containsText "highest".toList order.shown.toList ||
        containsText "most".toList order.shown.toList) = true ∧
      order.direction = some "ASC")

/-- In how many respects the question is in doubt. -/
def doubts : ℕ :=
  let asks := asksFor (question.unicode.lower question.intent.originalQuery)
  let measured := question.intent.aggregation.isSome
  told (question.intent.measureAmbiguity ≠ []) +
    told (question.named = [] ∧ question.intent.tables ≠ [] ∧
      (["all ", "every ", "entire", "full "].any asks) = false ∧
      (["data", "information", "stuff"].any asks) = true) +
    told (asks "per" = true ∧ measured = false) +
    told ((["top", "highest", "most", "best"].any asks) = true ∧ measured = false) +
    told (measured = true ∧ question.named = [] ∧
      1 < (numericTargets question.unicode question.context
        question.intent.tables).length) +
    question.select.countP question.isShared +
    told (2 < question.intent.tables.length) + told (question.ordersAgainst = true)

/-- The columns are selected though the intent names none. -/
def StandsIn : Prop :=
  question.named = [] ∧ question.select ≠ []

/-- What is selected is of the tables of the intent, and of all of them. -/
def Covers : Prop :=
  question.intent.tables ≠ [] ∧
    (∀ table ∈ question.intent.tables, ∃ item ∈ question.select, item.table = table) ∧
    ∀ item ∈ question.select, item.table ∈ question.intent.tables

instance : Decidable question.StandsIn :=
  inferInstanceAs (Decidable (_ ∧ _))

instance : Decidable question.Covers :=
  inferInstanceAs (Decidable (_ ∧ _ ∧ _))

/-- How sure the steps are on the average. -/
def score : ℚ :=
  question.scores.sum / question.scores.length

/-- Something else is held against the answer, so that a missed clause is enough. -/
def Weighed : Prop :=
  0 < question.doubts ∨ question.StandsIn ∨ ¬question.Covers ∨ question.score ≤ 85 / 100

/-- The doubts are enough by themselves. -/
def Doubted : Prop :=
  0 < question.doubts ∧
    question.score + (if question.Covers then 5 / 100 else 0) ≤
      1 / 2 + (if question.StandsIn then 1 / 10 else 0) + question.doubts * (1 / 10)

/-- Nothing is lost; or two clauses are missed, or one and something else is held against
the answer; or the doubts are enough.  A star that is a table is refused. -/
def Discloses : Prop :=
  "*" ∈ question.intent.tables ∨ question.KeepsAll ∨ question.MissesTwo ∨
    question.MissesOne ∧ question.Weighed ∨ question.Doubted

end Question

section Passes

variable {unicode : Unicode} {context : SchemaContext} {plan finished : ExecutionPlan}

/-! ## What the passes leave -/

/-- Repairing and pruning neither add nor lose a clause. -/
structure SameShape (plan finished : ExecutionPlan) : Prop where
  filters : finished.filters.length = plan.filters.length
  having : finished.having.isSome = plan.having.isSome
  orderBy : finished.orderBy.isSome = plan.orderBy.isSome
  groupBy : finished.groupBy.length = plan.groupBy.length
  aggregation : finished.aggregation.isSome = plan.aggregation.isSome

theorem runPasses_sameShape
    (passed : runPasses unicode context plan = .ok finished) :
    SameShape (reachable unicode (joined unicode context plan)) finished := by
  rw [runPasses_eq passed]
  refine ⟨?_, ?_, ?_, ?_, ?_⟩
  all_goals simp [repairPlan, pruned]

theorem reachable_noFilters (plan : ExecutionPlan) :
    (reachable unicode plan).filters = [] ↔
      ∀ filter ∈ plan.filters, Drops unicode plan (filterTables filter) := by
  unfold reachable Drops
  by_cases noScope : joinScope unicode plan.view = []
  · simp [noScope, List.eq_nil_iff_forall_not_mem]
  · simp [noScope]

end Passes

namespace Question

variable {question : Question} {clauses finished : ExecutionPlan} {scores : List ℚ}

theorem Follows.filters_kept (follows : question.Follows clauses scores)
    (passed : runPasses question.unicode question.context clauses = .ok finished) :
    question.intent.filters.length ≤ finished.filters.length ↔
      ∀ filter ∈ question.intent.filters, question.InReach (filterTables filter) := by
  have kept := @reachable_filters question.unicode
    (joined question.unicode question.context clauses)
  simp only [follows.drops_iff, not_not] at kept
  rw [(runPasses_sameShape passed).filters, ← follows.filters]
  exact kept

theorem Follows.filters_missed (follows : question.Follows clauses scores)
    (passed : runPasses question.unicode question.context clauses = .ok finished) :
    (question.intent.filters ≠ [] ∧ finished.filters = []) ↔ question.MissesFilters := by
  have missed := @reachable_noFilters question.unicode
    (joined question.unicode question.context clauses)
  simp only [follows.drops_iff] at missed
  rw [← List.length_eq_zero_iff, (runPasses_sameShape passed).filters,
    List.length_eq_zero_iff, missed]
  unfold MissesFilters
  rw [← follows.filters]
  exact Iff.rfl

theorem Follows.having_kept (follows : question.Follows clauses scores)
    (passed : runPasses question.unicode question.context clauses = .ok finished) :
    finished.having.isSome = true ↔ ∃ having,
      question.having = some having ∧ question.InReach (havingTables having) := by
  rw [(runPasses_sameShape passed).having, Option.isSome_iff_exists]
  apply exists_congr
  intro having
  rw [reachable_having, follows.drops_iff, not_not, ← follows.having]
  exact Iff.rfl

theorem Follows.orderBy_kept (follows : question.Follows clauses scores)
    (passed : runPasses question.unicode question.context clauses = .ok finished) :
    finished.orderBy.isSome = true ↔ ∃ order,
      question.orderBy = some order ∧ question.InReach (orderTables order) := by
  rw [(runPasses_sameShape passed).orderBy, Option.isSome_iff_exists]
  apply exists_congr
  intro order
  rw [reachable_orderBy, follows.drops_iff, not_not, ← follows.orderBy]
  exact Iff.rfl

theorem Follows.groupBy_kept (follows : question.Follows clauses scores)
    (passed : runPasses question.unicode question.context clauses = .ok finished) :
    finished.groupBy = [] ↔ question.groupBy = [] := by
  rw [← List.length_eq_zero_iff, (runPasses_sameShape passed).groupBy, reachable_groupBy,
    List.length_eq_zero_iff, ← follows.groupBy]
  exact Iff.rfl

theorem Follows.measure_kept (follows : question.Follows clauses scores)
    (passed : runPasses question.unicode question.context clauses = .ok finished)
    (isAsked : question.intent.aggregation.isSome = true) :
    finished.aggregation.isSome = true := by
  have measured := follows.measured isAsked
  rw [← follows.aggregation] at measured
  rw [(runPasses_sameShape passed).aggregation, reachable_aggregation]
  exact measured

/-- Nothing is lost exactly if everything is there and stays in reach. -/
theorem Follows.lostNothing_iff (follows : question.Follows clauses scores)
    (passed : runPasses question.unicode question.context clauses = .ok finished) :
    LostNothing question.intent finished ↔ question.KeepsAll := by
  have ordered : question.orderBy.isSome = question.intent.orderBy.isSome :=
    Option.isSome_map
  constructor
  · intro kept
    refine ⟨(follows.filters_kept passed).mp kept.filters, ?_, ?_, ?_⟩
    · intro isAsked
      exact (follows.having_kept passed).mp (kept.having isAsked)
    · intro order isOrder
      rw [isOrder] at ordered
      obtain ⟨found, isFound, inReach⟩ :=
        (follows.orderBy_kept passed).mp (kept.orderBy ordered.symm)
      rw [isOrder] at isFound
      cases isFound
      exact inReach
    · intro isAsked
      exact (follows.groupBy_kept passed).not.mp (kept.groupBy isAsked)
  · intro keeps
    refine ⟨(follows.filters_kept passed).mpr keeps.filters, ?_, ?_, ?_, ?_⟩
    · intro isAsked
      exact (follows.having_kept passed).mpr (keeps.having isAsked)
    · intro isAsked
      rw [← ordered, Option.isSome_iff_exists] at isAsked
      obtain ⟨order, isOrder⟩ := isAsked
      exact (follows.orderBy_kept passed).mpr ⟨order, isOrder, keeps.orderBy order isOrder⟩
    · exact follows.measure_kept passed
    · intro isAsked
      exact (follows.groupBy_kept passed).not.mpr (keeps.groupBy isAsked)

end Question

/-! ## What is missed -/

namespace Question

variable {question : Question} {clauses finished : ExecutionPlan} {scores : List ℚ}

theorem told_eq_zero {doubt : Prop} [Decidable doubt] (fails : ¬doubt) : told doubt = 0 :=
  if_neg fails

/-- A text for a doubt is one text, or none. -/
theorem length_note (doubt : Prop) [Decidable doubt] (text : String) :
    (if doubt then [text] else []).length = told doubt := by
  unfold told
  split
  · rfl
  · rfl

/-- The grouping, the filters and the ordering are what can be missed. -/
theorem missed_length {intent : Intent} {plan : ExecutionPlan}
    (measured : intent.aggregation.isSome = true → plan.aggregation.isSome = true) :
    (detectDroppedClauses intent plan).length =
      told ((intent.groupBy.isSome = true ∨ intent.requestedGrouping = true) ∧
        plan.groupBy = []) +
      told (intent.filters ≠ [] ∧ plan.filters = []) +
      told (intent.orderBy.isSome = true ∧ plan.orderBy = none) := by
  have noMeasure : ¬(intent.aggregation.isSome = true ∧ plan.aggregation = none) := by
    intro ⟨isAsked, isNone⟩
    have isSome := measured isAsked
    rw [isNone] at isSome
    cases isSome
  have absent : (absentClauses intent plan).length =
      told (intent.groupBy.isSome = true ∧ plan.groupBy = []) +
      told (intent.filters ≠ [] ∧ plan.filters = []) +
      told (intent.orderBy.isSome = true ∧ plan.orderBy = none) := by
    unfold absentClauses
    simp only [List.length_append, length_note, told_eq_zero noMeasure, Nat.zero_add]
  have noAggregation : "aggregation" ∉ absentClauses intent plan := by
    unfold absentClauses
    rw [if_neg noMeasure]
    simp
  have grouping : "grouping" ∈ absentClauses intent plan ↔
      intent.groupBy.isSome = true ∧ plan.groupBy = [] := by
    unfold absentClauses
    simp
  unfold detectDroppedClauses
  dsimp only
  simp only [noAggregation, if_false, grouping]
  by_cases noGroups : plan.groupBy = []
  · cases isAsked : intent.groupBy.isSome with
    | true =>
        rw [if_neg (by simp [noGroups]), absent, isAsked]
        simp [noGroups]
    | false =>
        cases isRequested : intent.requestedGrouping with
        | true =>
            rw [if_pos (by simp [noGroups]), List.length_cons, absent, isAsked]
            simp [noGroups, told]
            omega
        | false =>
            rw [if_neg (by simp), absent, isAsked]
            simp
  · have grouped : ∀ asked : Prop, ¬(asked ∧ plan.groupBy = []) := by
      intro asked missed
      exact noGroups missed.2
    rw [if_neg (by simp [noGroups]), absent, told_eq_zero (grouped _),
      told_eq_zero (grouped _)]

theorem told_sum {first second third : Prop} [Decidable first] [Decidable second]
    [Decidable third] :
    (1 ≤ told first + told second + told third ↔ first ∨ second ∨ third) ∧
      (2 ≤ told first + told second + told third ↔
        first ∧ second ∨ first ∧ third ∨ second ∧ third) := by
  by_cases isFirst : first <;> by_cases isSecond : second <;> by_cases isThird : third <;>
    simp [told, isFirst, isSecond, isThird]

/-- How many clauses are missed. -/
theorem Follows.missed (follows : question.Follows clauses scores)
    (passed : runPasses question.unicode question.context clauses = .ok finished) :
    (1 ≤ (detectDroppedClauses question.intent finished).length ↔ question.MissesOne) ∧
      (2 ≤ (detectDroppedClauses question.intent finished).length ↔
        question.MissesTwo) := by
  have groups : ((question.intent.groupBy.isSome = true ∨
      question.intent.requestedGrouping = true) ∧ finished.groupBy = []) ↔
        question.MissesGroups := by
    rw [follows.groupBy_kept passed]
    exact Iff.rfl
  have filters := follows.filters_missed passed
  have order : (question.intent.orderBy.isSome = true ∧ finished.orderBy = none) ↔
      question.MissesOrder := by
    have ordered : question.orderBy.isSome = question.intent.orderBy.isSome :=
      Option.isSome_map
    rw [← ordered, ← Option.not_isSome_iff_eq_none, follows.orderBy_kept passed,
      MissesOrder]
    cases question.orderBy with
    | none => simp
    | some order => simp
  rw [missed_length (follows.measure_kept passed)]
  unfold MissesOne MissesTwo
  rw [← groups, ← filters, ← order]
  exact told_sum

/-! ## What is in doubt -/

theorem finished_select (follows : question.Follows clauses scores)
    (passed : runPasses question.unicode question.context clauses = .ok finished) :
    finished.select = question.select.map fun item => { item with
      column := repaired question.unicode question.context.schema (some item.table)
        item.column } := by
  rw [runPasses_eq passed, ← follows.select]
  unfold pruned repairPlan
  dsimp only
  rw [reachable_select]
  rfl

theorem shared_length (items : List SelectItem) :
    ((items.map fun item => { item with
        column := repaired question.unicode question.context.schema (some item.table)
          item.column }).flatMap (sharedColumn question.unicode question.context
            (question.unicode.lower question.intent.originalQuery))).length =
      items.countP question.isShared := by
  induction items with
  | nil => rfl
  | cons item rest inductionHypothesis =>
      rw [List.map_cons, List.flatMap_cons, List.length_append, inductionHypothesis,
        List.countP_cons, Nat.add_comm]
      congr 1
      unfold sharedColumn isShared
      dsimp only
      split
      · next excluded => simp [excluded]
      · next named =>
          rw [length_note, told]
          simp [named]

/-- The doubts are counted. -/
theorem doubts_length (follows : question.Follows clauses scores)
    (passed : runPasses question.unicode question.context clauses = .ok finished) :
    (detectAmbiguities question.unicode question.context question.intent question.named
      finished).length = question.doubts := by
  unfold detectAmbiguities doubts
  rw [finished_select follows passed]
  simp only [List.length_append, length_note, shared_length]
  congr 1
  unfold ordersAgainst
  cases question.intent.orderBy with
  | none => rfl
  | some order =>
      dsimp only
      rw [length_note]
      simp [told]

end Question

/-! ## The confidence of the finished plan -/

theorem baseConfidence_le {scores : List ℚ}
    (small : ∀ score ∈ scores, score ≤ 9 / 10) :
    baseConfidence scores ≤ 9 / 10 := by
  unfold baseConfidence
  split
  · norm_num
  · rename_i notEmpty
    have positive : (0 : ℚ) < scores.length := by
      exact_mod_cast List.length_pos_iff.mpr notEmpty
    have bound := List.sum_le_card_nsmul scores (9 / 10) small
    rw [nsmul_eq_mul] at bound
    rw [div_le_iff₀ positive]
    linarith

theorem clamp_le_half {value : ℚ} :
    max 0 (min 1 value) ≤ 1 / 2 ↔ value ≤ 1 / 2 := by
  constructor
  · intro clamped
    have inner := le_trans (le_max_right 0 (min 1 value)) clamped
    rcases min_le_iff.mp inner with isOne | small
    · norm_num at isOne
    · exact small
  · intro small
    exact max_le (by norm_num) (le_trans (min_le_right 1 value) small)

/-- Whether what is missed and what else is held against the answer outweigh the
score. -/
theorem discount_iff {base : ℚ} {standsIn covering : Prop} [Decidable standsIn]
    [Decidable covering] (missed ambiguous : ℕ) (small : base ≤ 9 / 10) :
    (base - ambiguous * (1 / 10) - (if standsIn then 1 / 10 else 0) -
        missed * droppedClausePenalty + (if covering then 5 / 100 else 0) ≤ 1 / 2 ∧
      (ambiguous ≠ 0 ∨ missed ≠ 0)) ↔
      2 ≤ missed ∨
        (1 ≤ missed ∧ (0 < ambiguous ∨ standsIn ∨ ¬covering ∨ base ≤ 85 / 100)) ∨
        (0 < ambiguous ∧
          base + (if covering then 5 / 100 else 0) ≤
            1 / 2 + (if standsIn then 1 / 10 else 0) + ambiguous * (1 / 10)) := by
  have noFallback : (0 : ℚ) ≤ if standsIn then 1 / 10 else 0 := by
    split
    · norm_num
    · norm_num
  have bonusBound : (if covering then 5 / 100 else 0 : ℚ) ≤ 5 / 100 := by
    split
    · norm_num
    · norm_num
  have counted : (0 : ℚ) ≤ ambiguous := Nat.cast_nonneg ambiguous
  unfold droppedClausePenalty
  match missed with
  | 0 =>
      constructor
      · intro ⟨low, note⟩
        rcases note with isAmbiguous | isMissed
        · refine Or.inr (Or.inr ⟨Nat.pos_of_ne_zero isAmbiguous, ?_⟩)
          push_cast at low
          linarith
        · exact absurd rfl isMissed
      · rintro (many | ⟨isOne, _⟩ | ⟨isAmbiguous, low⟩)
        · omega
        · omega
        · refine ⟨?_, Or.inl isAmbiguous.ne'⟩
          push_cast
          linarith
  | 1 =>
      constructor
      · intro ⟨low, _⟩
        refine Or.inr (Or.inl ⟨le_rfl, ?_⟩)
        by_contra nothingElse
        push Not at nothingElse
        obtain ⟨unambiguous, isNamed, isCovering, high⟩ := nothingElse
        have none : ambiguous = 0 := by omega
        rw [none, if_neg isNamed, if_pos isCovering] at low
        push_cast at low
        linarith
      · rintro (many | ⟨_, discounted⟩ | ⟨isAmbiguous, _⟩)
        · omega
        · refine ⟨?_, Or.inr one_ne_zero⟩
          push_cast
          rcases discounted with isAmbiguous | isStandIn | notCovering | low
          · have atLeast : (1 : ℚ) ≤ ambiguous := by
              exact_mod_cast isAmbiguous
            linarith
          · rw [if_pos isStandIn]
            linarith
          · rw [if_neg notCovering]
            linarith
          · linarith
        · have atLeast : (1 : ℚ) ≤ ambiguous := by
            exact_mod_cast isAmbiguous
          refine ⟨?_, Or.inr one_ne_zero⟩
          push_cast
          linarith
  | more + 2 =>
      constructor
      · intro _
        exact Or.inl (by omega)
      · intro _
        have counts : (0 : ℚ) ≤ more := Nat.cast_nonneg more
        refine ⟨?_, Or.inr (by omega)⟩
        push_cast
        linarith

namespace Question

variable {question : Question} {clauses finished : ExecutionPlan} {scores : List ℚ}

theorem scores_le : ∀ score ∈ question.scores, score ≤ 9 / 10 := by
  have late : ∀ score ∈ lateScores question.intent, score ≤ 9 / 10 := by
    intro score isScore
    simp only [lateScores, List.mem_append, List.mem_singleton] at isScore
    rcases isScore with (isFilters | isGroup) | isOrder
    · rw [isFilters]
      norm_num
    · split at isGroup
      · rw [List.mem_singleton.mp isGroup]
      · cases isGroup
    · split at isOrder
      · rw [List.mem_singleton.mp isOrder]
        norm_num
      · cases isOrder
  have selection : ∀ score ∈ question.selectionScores, score ≤ 9 / 10 := by
    intro score isScore
    unfold selectionScores at isScore
    split at isScore
    · split at isScore
      · rw [List.mem_singleton.mp isScore]
      · cases isScore
    · rw [List.mem_singleton.mp isScore]
      norm_num
  intro score isScore
  unfold scores at isScore
  rcases List.mem_append.mp isScore with isEarlier | isLate
  · rcases List.mem_append.mp isEarlier with isFirst | isJoined
    · rcases List.mem_cons.mp isFirst with isBase | isSelected
      · rw [isBase]
      · exact selection score isSelected
    · split at isJoined
      · rw [List.mem_singleton.mp isJoined]
        norm_num
      · cases isJoined
  · exact late score isLate

theorem baseConfidence_scores : baseConfidence question.scores = question.score := by
  unfold baseConfidence score
  rw [if_neg]
  unfold scores
  simp

/-- Without a table there is no base, and the passes find none. -/
theorem finished_baseTable (follows : question.Follows clauses scores)
    (passed : runPasses question.unicode question.context clauses = .ok finished)
    (noTables : question.intent.tables = []) : finished.baseTable = none := by
  have noBase : question.joins.base = none := by
    unfold joins base
    rw [noTables]
    rfl
  have notMoved : question.joins.movedTo question.unicode = none := by
    unfold JoinRequest.movedTo rebaseCandidate
    rw [noBase]
  have sameBase : finished.baseTable =
      (joined question.unicode question.context clauses).view.baseTable := by
    rw [runPasses_eq passed]
    exact (reachable_view _).1
  rw [sameBase, follows.joined_view, reconciled_base, JoinRequest.start, notMoved, noBase]
  rfl

theorem fallback_eq (follows : question.Follows clauses scores)
    (passed : runPasses question.unicode question.context clauses = .ok finished) :
    fallbackPenalty question.intent question.named finished =
      if question.StandsIn then 1 / 10 else 0 := by
  have noFallback : ¬(finished.baseTable.getD "" ≠ "" ∧ question.intent.tables = []) := by
    intro ⟨hasBase, noTables⟩
    rw [finished_baseTable follows passed noTables] at hasBase
    exact hasBase rfl
  unfold fallbackPenalty StandsIn
  rw [if_neg noFallback, zero_add, finished_select follows passed]
  simp

theorem bonus_eq (follows : question.Follows clauses scores)
    (passed : runPasses question.unicode question.context clauses = .ok finished) :
    schemaCoverageBonus question.intent finished =
      if question.Covers then 5 / 100 else 0 := by
  have covering : covers question.intent finished = true ↔ question.Covers := by
    unfold covers Covers
    rw [finished_select follows passed]
    simp [and_assoc]
  unfold schemaCoverageBonus
  by_cases isCovering : question.Covers
  · rw [if_pos isCovering, if_pos (covering.mpr isCovering)]
  · rw [if_neg isCovering, if_neg (covering.not.mpr isCovering)]

/-- What has been missed, the score of the steps and what else is held against the answer
decide whether the confidence is low. -/
theorem saysSo_iff (follows : question.Follows clauses scores)
    (passed : runPasses question.unicode question.context clauses = .ok finished) :
    SaysSo (judged question.unicode question.context question.intent question.named scores
        finished) ↔
      question.MissesTwo ∨ question.MissesOne ∧ question.Weighed ∨ question.Doubted := by
  have small : question.score ≤ 9 / 10 := by
    rw [← baseConfidence_scores]
    exact baseConfidence_le scores_le
  have decided := @discount_iff question.score question.StandsIn question.Covers _ _
    (detectDroppedClauses question.intent finished).length question.doubts small
  obtain ⟨one, two⟩ := follows.missed passed
  rw [two, one] at decided
  unfold Weighed Doubted
  rw [← decided]
  have noted : ∀ notes : List String, notes ≠ [] ↔ notes.length ≠ 0 := by
    intro notes
    rw [ne_eq, ne_eq, List.length_eq_zero_iff]
  have confidence : finalConfidence question.unicode question.context question.intent
      question.named scores finished = max 0 (min 1
        (question.score - question.doubts * (1 / 10) -
          (if question.StandsIn then 1 / 10 else 0) -
          (detectDroppedClauses question.intent finished).length * droppedClausePenalty +
          (if question.Covers then 5 / 100 else 0))) := by
    rw [finalConfidence, follows.scores, baseConfidence_scores, doubts_length follows passed,
      fallback_eq follows passed, bonus_eq follows passed]
  constructor
  · intro told
    refine ⟨clamp_le_half.mp (confidence ▸ told.confidence), ?_⟩
    rw [← doubts_length follows passed]
    exact told.note.imp (noted _).mp (noted _).mp
  · intro ⟨low, note⟩
    rw [← doubts_length follows passed] at note
    refine ⟨?_, note.imp (noted _).mpr (noted _).mpr⟩
    exact confidence.le.trans (clamp_le_half.mpr low)

end Question

section Finished

variable {unicode : Unicode} {context : SchemaContext} {intent : Intent}

theorem boundUnlimitedRead_lostNothing (plan : ExecutionPlan) :
    LostNothing intent (boundUnlimitedRead plan) ↔ LostNothing intent plan := by
  obtain ⟨limit, guardrail, isBounded⟩ := boundUnlimitedRead_eq plan
  rw [isBounded]
  exact ⟨fun kept => { kept with }, fun kept => { kept with }⟩

theorem boundUnlimitedRead_saysSo (plan : ExecutionPlan) :
    SaysSo (boundUnlimitedRead plan) ↔ SaysSo plan := by
  obtain ⟨limit, guardrail, isBounded⟩ := boundUnlimitedRead_eq plan
  rw [isBounded]
  exact ⟨fun said => { said with }, fun said => { said with }⟩

theorem judged_lostNothing (columns : List IntentColumn) (scores : List ℚ)
    (plan : ExecutionPlan) :
    LostNothing intent (judged unicode context intent columns scores plan) ↔
      LostNothing intent plan :=
  ⟨fun kept => { kept with }, fun kept => { kept with }⟩

theorem safePlan_saysSo (prepared : Prepared) :
    SaysSo (safePlan intent prepared) :=
  ⟨by norm_num [safePlan], Or.inl (by simp [safePlan])⟩

end Finished

/-- A plan discloses what it has lost exactly if nothing is lost, or what is lost is missed
and enough is held against the answer. -/
theorem planQueryExecution_disclosesLosses_iff (question : Question) (plan : ExecutionPlan)
    (planned : planQueryExecution question.unicode question.context question.intent =
      .ok plan) :
    DisclosesLosses question.intent plan ↔ question.Discloses := by
  obtain ⟨prepared, isPrepared, isSafe | isFinished⟩ := planQueryExecution_steps planned
  · obtain ⟨isStar, rfl⟩ := isSafe
    constructor
    · intro _
      exact Or.inl isStar
    · intro _ _
      exact safePlan_saysSo prepared
  · obtain ⟨noStar, clauses, scores, finished, isClauses, passed, rfl⟩ := isFinished
    rw [Question.prepare_eq isPrepared] at isClauses ⊢
    have follows := Question.planClauses_follows isClauses
    unfold DisclosesLosses Question.Discloses
    rw [boundUnlimitedRead_lostNothing, boundUnlimitedRead_saysSo, judged_lostNothing,
      follows.lostNothing_iff passed, Question.saysSo_iff follows passed]
    simp only [noStar, false_or]
    exact imp_iff_not_or.trans (by rw [not_not])

/-! ### Orders and vendors that nothing relates -/

/-- Two tables, and no way from one to the other. -/
def unrelatedShop : SchemaContext where
  schema := [("orders", ["id", "status"]), ("vendors", ["id", "name"])]
  primaryKeys := [("orders", ["id"]), ("vendors", ["id"])]
  columnRoles := []
  graph := ∅

def statusFilter : Filter :=
  ⟨"orders.status", "=", .scalar (.text "open")⟩

def vendorFilter : Filter :=
  ⟨"vendors.name", "=", .scalar (.text "Acme")⟩

/-- The orders with these conditions. -/
def ordersWhere (filters : List Filter) : Intent where
  originalQuery := "orders open at Acme"
  tables := ["orders"]
  select := [.dict (some "orders") (some "id") (some "id") none]
  columns := [.dict (some "orders") (some "id") (some "id") none]
  filters := filters
  aggregation := none
  groupBy := none
  orderBy := none
  having := none
  limit := none
  requestedGrouping := false
  queryTokens := ["orders", "open", "at", "acme"]
  measureAmbiguity := []

/-- How many filters a plan has, and whether its confidence is above a half. -/
def plannedWith (filters : List Filter) : Option (ℕ × Bool) :=
  (planQueryExecution ascii unrelatedShop (ordersWhere filters)).toOption.map
    fun plan => (plan.filters.length, decide (1 / 2 < plan.confidence))

/-- Fewer filters, and a confidence above a half. -/
theorem hides_of_plannedWith {filters : List Filter} {count : ℕ}
    (planned : plannedWith filters = some (count, true)) (fewer : count < filters.length) :
    ∃ plan, planQueryExecution ascii unrelatedShop (ordersWhere filters) =
        .ok plan ∧ ¬DisclosesLosses (ordersWhere filters) plan := by
  unfold plannedWith at planned
  cases result : planQueryExecution ascii unrelatedShop (ordersWhere filters) with
  | error refused =>
      simp [result, Except.toOption] at planned
  | ok plan =>
      simp only [result, Except.toOption, Option.map_some, Option.some.injEq, Prod.mk.injEq,
        decide_eq_true_eq] at planned
      refine ⟨plan, rfl, ?_⟩
      intro discloses
      have lost : ¬LostNothing (ordersWhere filters) plan := by
        intro kept
        have atLeast : filters.length ≤ plan.filters.length := kept.filters
        omega
      exact absurd (discloses lost).confidence (not_le.mpr planned.2)

/-- One of two conditions is lost without a word; and where the only one is lost,
the confidence stays above a half. -/
theorem planQueryExecution_hidesLosses :
    (∃ plan,
      planQueryExecution ascii unrelatedShop
        (ordersWhere [statusFilter, vendorFilter]) = .ok plan ∧
      ¬DisclosesLosses (ordersWhere [statusFilter, vendorFilter]) plan) ∧
    ∃ plan,
      planQueryExecution ascii unrelatedShop (ordersWhere [vendorFilter]) =
        .ok plan ∧
      ¬DisclosesLosses (ordersWhere [vendorFilter]) plan := by
  have inPart : plannedWith [statusFilter, vendorFilter] =
      some (1, true) := by
    decide +kernel
  have entirely : plannedWith [vendorFilter] = some (0, true) := by
    decide +kernel
  exact ⟨hides_of_plannedWith inPart (by decide),
    hides_of_plannedWith entirely (by decide)⟩

/-- How many vendors the orders have, by a condition on the vendors. -/
def countedAt (filters : List Filter) : Intent :=
  { ordersWhere filters with
    originalQuery := "number of orders at Acme"
    aggregation := some ⟨"COUNT", some ("orders", "id")⟩ }

def countQuestion : Question where
  unicode := ascii
  context := unrelatedShop
  intent := countedAt [vendorFilter]

/-- The vendors are out of reach. -/
theorem vendors_outOfReach : ¬countQuestion.InReach (filterTables vendorFilter) := by
  intro inReach
  have fromOrders : countQuestion.joins.Reaches ascii "orders" :=
    mem_scope.mp (by decide +kernel)
  have notVendors : ¬countQuestion.joins.Reaches ascii "vendors" :=
    mem_scope.not.mp (by decide +kernel)
  rcases inReach with nowhere | reached
  · exact nowhere "orders" fromOrders
  · rcases reached "vendors" (by decide +kernel) with isEmpty | reaches
    · exact absurd isEmpty (by decide)
    · exact notVendors reaches

/-- A count loses its only condition, and says so. -/
theorem planQueryExecution_disclosesLosses_count :
    ∃ plan, planQueryExecution ascii unrelatedShop (countedAt [vendorFilter]) = .ok plan ∧
      plan.filters = [] ∧ DisclosesLosses (countedAt [vendorFilter]) plan := by
  have missed : countQuestion.MissesOne := by
    refine Or.inr (Or.inl ⟨by decide, ?_⟩)
    intro filter isFilter
    rw [List.mem_singleton.mp isFilter]
    exact vendors_outOfReach
  have weighed : countQuestion.Weighed :=
    Or.inr (Or.inr (Or.inr (by decide +kernel)))
  have planned : ((planQueryExecution ascii unrelatedShop
      (countedAt [vendorFilter])).toOption.map ExecutionPlan.filters) = some [] := by
    decide +kernel
  cases result : planQueryExecution ascii unrelatedShop (countedAt [vendorFilter]) with
  | error refused =>
      rw [result] at planned
      cases planned
  | ok plan =>
      rw [result] at planned
      refine ⟨plan, rfl, Option.some.inj planned, ?_⟩
      exact (planQueryExecution_disclosesLosses_iff countQuestion plan result).mpr
        (Or.inr (Or.inr (Or.inr (Or.inl ⟨missed, weighed⟩))))

end DbBuddy.Planner
