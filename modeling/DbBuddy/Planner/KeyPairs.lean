import DbBuddy.Planner.Joins

/-!
# The pair of columns that a question names

An edge can be joined on several pairs of columns.  The pair that the question means is
the one whose columns have most of its words that do not stand in all the pairs.
`_apply_join_roles` looks at the left columns only.
-/

namespace DbBuddy.Planner

open DbBuddy.Library

/-! ## The first of the best candidates -/

section Candidates

/-- What a candidate does to the best one so far. -/
def better (best : Option (String × String) × ℕ) (candidate : (String × String) × ℕ) :
    Option (String × String) × ℕ :=
  if best.2 < candidate.2 then (some candidate.1, candidate.2) else best

/-- No earlier candidate scores as much, and no later one more. -/
def IsFirstMost (scored : List ((String × String) × ℕ))
    (candidate : (String × String) × ℕ) : Prop :=
  ∃ before after, scored = before ++ candidate :: after ∧
    (∀ other ∈ before, other.2 < candidate.2) ∧
    ∀ other ∈ after, other.2 ≤ candidate.2

theorem foldl_better (scored : List ((String × String) × ℕ))
    (best : Option (String × String) × ℕ) :
    (scored.foldl better best = best ∧ ∀ candidate ∈ scored, candidate.2 ≤ best.2) ∨
      ∃ candidate, IsFirstMost scored candidate ∧ best.2 < candidate.2 ∧
        scored.foldl better best = (some candidate.1, candidate.2) := by
  induction scored generalizing best with
  | nil =>
      exact Or.inl ⟨rfl, by simp⟩
  | cons first rest inductionHypothesis =>
      rw [List.foldl_cons]
      by_cases isMore : best.2 < first.2
      · rw [better, if_pos isMore]
        right
        rcases inductionHypothesis (some first.1, first.2) with
          ⟨stays, noneMore⟩ | ⟨candidate, isFirst, isLater, isThat⟩
        · exact ⟨first, ⟨[], rest, rfl, by simp, noneMore⟩, isMore, stays⟩
        · obtain ⟨before, after, isAt, less, noneMore⟩ := isFirst
          refine ⟨candidate, ⟨first :: before, after, by rw [isAt]; rfl, ?_, noneMore⟩,
            Nat.lt_trans isMore isLater, isThat⟩
          intro other isOther
          rcases List.mem_cons.mp isOther with isFirst | isBefore
          · rw [isFirst]
            exact isLater
          · exact less other isBefore
      · rw [better, if_neg isMore]
        have notMore : first.2 ≤ best.2 := Nat.le_of_not_lt isMore
        rcases inductionHypothesis best with
          ⟨stays, noneMore⟩ | ⟨candidate, isFirst, isLater, isThat⟩
        · exact Or.inl ⟨stays, List.forall_mem_cons.mpr ⟨notMore, noneMore⟩⟩
        · obtain ⟨before, after, isAt, less, noneMore⟩ := isFirst
          right
          refine ⟨candidate, ⟨first :: before, after, by rw [isAt]; rfl, ?_, noneMore⟩,
            isLater, isThat⟩
          intro other isOther
          rcases List.mem_cons.mp isOther with isFirst | isBefore
          · rw [isFirst]
            exact Nat.lt_of_le_of_lt notMore isLater
          · exact less other isBefore

/-- Either no candidate scores, or the first of those that score most is taken. -/
theorem bestCandidate_spec (scored : List ((String × String) × ℕ)) :
    ((bestCandidate scored).1 = none ∧ ∀ candidate ∈ scored, candidate.2 = 0) ∨
      ∃ candidate, IsFirstMost scored candidate ∧
        (bestCandidate scored).1 = some candidate.1 := by
  have isFold : bestCandidate scored = scored.foldl better (none, 0) := rfl
  rw [isFold]
  rcases foldl_better scored (none, 0) with ⟨stays, noneMore⟩ | ⟨candidate, isFirst, _, isThat⟩
  · left
    rw [stays]
    exact ⟨rfl, fun candidate isIn => Nat.le_zero.mp (noneMore candidate isIn)⟩
  · right
    rw [isThat]
    exact ⟨candidate, isFirst, rfl⟩

end Candidates

/-! ## Words and scores -/

/-- The words of a pair of columns; what all columns of a table begin with is left out. -/
def pairWords (fronts : Option String × Option String) (pair : String × String) :
    List String :=
  columnMatchTokens pair.1 fronts.1 ++ columnMatchTokens pair.2 fronts.2

/-- The words of the left column alone. -/
def leftWords (front : Option String) (pair : String × String) : List String :=
  columnMatchTokens pair.1 front

section Pairs

variable (wordsOf : String × String → List String) (keys : JoinKeys)
variable (tokens : List String)

/-- The words that the pairs of an edge have in common. -/
def sharedWords : List String :=
  (wordsOf (keys.fromColumn, keys.toColumn)).filter fun word =>
    keys.pairs.all fun pair => decide (word ∈ wordsOf pair)

/-- How many words of the question a pair matches that not all pairs have. -/
def pairScore (pair : String × String) : ℕ :=
  roleScore (wordsOf pair) (sharedWords wordsOf keys) tokens

/-- A pair of the edge that matches most words, and the default one if none does. -/
structure IsBestPair (pair : String × String) : Prop where
  isPair : pair ∈ keys.pairs
  most : ∀ other ∈ keys.pairs,
    pairScore wordsOf keys tokens other ≤ pairScore wordsOf keys tokens pair
  fallback : pairScore wordsOf keys tokens pair = 0 →
    pair = (keys.fromColumn, keys.toColumn)

/-- The first pair of the edge that matches most words. -/
def IsFirstPair (pair : String × String) : Prop :=
  ∃ before after, keys.pairs = before ++ pair :: after ∧
    (∀ other ∈ before,
      pairScore wordsOf keys tokens other < pairScore wordsOf keys tokens pair) ∧
    ∀ other ∈ after,
      pairScore wordsOf keys tokens other ≤ pairScore wordsOf keys tokens pair

variable {wordsOf keys tokens}

theorem IsFirstPair.mem {pair : String × String}
    (isFirst : IsFirstPair wordsOf keys tokens pair) : pair ∈ keys.pairs := by
  obtain ⟨before, after, isAt, _⟩ := isFirst
  rw [isAt]
  exact List.mem_append_right _ List.mem_cons_self

theorem IsFirstPair.unique {pair other : String × String}
    (isFirst : IsFirstPair wordsOf keys tokens pair)
    (isOther : IsFirstPair wordsOf keys tokens other) : pair = other := by
  obtain ⟨before, after, isAt, less, noneMore⟩ := isFirst
  obtain ⟨before', after', isAt', less', noneMore'⟩ := isOther
  rw [isAt] at isAt'
  rcases List.append_eq_append_iff.mp isAt' with ⟨more, isBefore', isAfter⟩ |
    ⟨more, isBefore, isAfter'⟩
  · cases more with
    | nil => exact (List.cons.inj isAfter).1
    | cons first rest =>
        have same : pair = first := (List.cons.inj isAfter).1
        have isLater : other ∈ after := by
          rw [(List.cons.inj isAfter).2]
          simp
        have isLess := less' pair (by simp [isBefore', same])
        have isMost := noneMore other isLater
        omega
  · cases more with
    | nil => exact (List.cons.inj isAfter').1.symm
    | cons first rest =>
        have same : other = first := (List.cons.inj isAfter').1
        have isLater : pair ∈ after' := by
          rw [(List.cons.inj isAfter').2]
          simp
        have isLess := less other (by simp [isBefore, same])
        have isMost := noneMore' pair isLater
        omega

/-- If no pair matches a word, the default pair is the first. -/
theorem isFirstPair_default
    (noScore : ∀ pair ∈ keys.pairs, pairScore wordsOf keys tokens pair = 0) :
    IsFirstPair wordsOf keys tokens (keys.fromColumn, keys.toColumn) := by
  refine ⟨[], keys.alternates, rfl, by simp, ?_⟩
  intro other isOther
  rw [noScore other (List.mem_cons_of_mem _ isOther)]
  exact Nat.zero_le _

theorem pairScore_noTokens (pair : String × String) : pairScore wordsOf keys [] pair = 0 := by
  unfold pairScore roleScore
  simp only [List.not_mem_nil, decide_false, List.filter_false]
  rfl

/-- The default pair is the best one just if no alternate scores more. -/
theorem isBestPair_default_iff :
    IsBestPair wordsOf keys tokens (keys.fromColumn, keys.toColumn) ↔
      ∀ other ∈ keys.alternates, pairScore wordsOf keys tokens other ≤
        pairScore wordsOf keys tokens (keys.fromColumn, keys.toColumn) := by
  constructor
  · intro best other isOther
    exact best.most other (List.mem_cons_of_mem _ isOther)
  · intro noneBetter
    constructor
    · exact List.mem_cons_self
    · intro other isOther
      rcases List.mem_cons.mp isOther with rfl | isAlternate
      · exact Nat.le_refl _
      · exact noneBetter other isAlternate
    · intro _
      rfl

end Pairs

/-! ## The pair that is chosen -/

section Chosen

variable {keys : JoinKeys} {front : Option String} {tokens : List String}

theorem bestRole_eq : bestRole keys.pairs front tokens =
    (bestCandidate (keys.pairs.map fun pair =>
      (pair, pairScore (leftWords front) keys tokens pair))).1 := by
  have paired : keys.pairs.zip
      (keys.pairs.map fun pair => columnMatchTokens pair.1 front) =
        keys.pairs.map fun pair => (pair, columnMatchTokens pair.1 front) := by
    have both : (keys.pairs.map id).zip
        (keys.pairs.map fun pair => columnMatchTokens pair.1 front) =
          keys.pairs.map fun pair => (id pair, columnMatchTokens pair.1 front) :=
      List.zip_map'
    rw [List.map_id] at both
    exact both
  have shared : sharedWords (leftWords front) keys =
      ((keys.pairs.map fun pair => columnMatchTokens pair.1 front).headD []).filter
        fun word => (keys.pairs.map fun pair => columnMatchTokens pair.1 front).all
          fun owned => decide (word ∈ owned) := by
    simp only [sharedWords, leftWords, JoinKeys.pairs, List.map_cons, List.headD_cons,
      List.all_cons, List.all_map]
    rfl
  unfold bestRole
  dsimp only
  rw [paired, List.map_map, ← shared]
  rfl

/-- The role of a join, or the default pair, is the first pair whose left column matches
most. -/
theorem bestRole_first : IsFirstPair (leftWords front) keys tokens
    ((bestRole keys.pairs front tokens).getD (keys.fromColumn, keys.toColumn)) := by
  rw [bestRole_eq]
  rcases bestCandidate_spec (keys.pairs.map fun pair =>
    (pair, pairScore (leftWords front) keys tokens pair)) with
      ⟨isNone, noScore⟩ | ⟨candidate, isFirst, isThat⟩
  · rw [isNone]
    apply isFirstPair_default
    intro pair isPair
    exact noScore _ (List.mem_map_of_mem isPair)
  · rw [isThat]
    obtain ⟨before, after, isAt, less, noneMore⟩ := isFirst
    obtain ⟨pairsBefore, pairsFrom, isPairs, isBefore, isFrom⟩ :=
      List.map_eq_append_iff.mp isAt
    obtain ⟨pair, pairsAfter, isSplit, isCandidate, isAfter⟩ := List.map_eq_cons_iff.mp isFrom
    cases isCandidate
    refine ⟨pairsBefore, pairsAfter, by rw [isPairs, isSplit]; rfl, ?_, ?_⟩
    · intro other isOther
      apply less (other, _)
      rw [← isBefore]
      exact List.mem_map_of_mem isOther
    · intro other isOther
      apply noneMore (other, _)
      rw [← isAfter]
      exact List.mem_map_of_mem isOther

end Chosen

end DbBuddy.Planner
