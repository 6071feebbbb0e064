import DbBuddy.Planner.JoinRoles

/-!
# The tables that the joins go by

In any graph the joins go by the tables on the paths to those that are known early and to
those that the clauses name besides.
-/

namespace DbBuddy.Planner

open DbBuddy.Library

namespace JoinRequest

variable (unicode : Unicode) (request : JoinRequest)

/-- One of the tables is named so, up to case. -/
def Among (tables : String → Prop) (name : String) : Prop :=
  ∃ table, tables table ∧ table ≠ "" ∧ unicode.lower table = unicode.lower name

/-- The joins start from the table or lead to it early. -/
def EarlyGoBy (table : String) : Prop :=
  request.start unicode = some table ∨
    ∃ hop, request.ResolvedEarly unicode hop ∧ hop.target = table

/-- A clause names the table, and no early join goes by it. -/
def Sought (table : String) : Prop :=
  table ∈ tablesReferencedByPlan unicode request.clauses [] ∧
    ¬Among unicode (request.EarlyGoBy unicode) table

/-- The hop is on the way to a table that is sought. -/
def ResolvedLate (hop : Hop) : Prop :=
  ∃ home, request.start unicode = some home ∧ home ≠ "" ∧
    ∃ goal, request.Sought unicode goal ∧ hop ∈ findJoinPath request.graph home goal

/-- The joins go by the table. -/
def GoBy (table : String) : Prop :=
  request.EarlyGoBy unicode table ∨
    ∃ hop, request.ResolvedLate unicode hop ∧ hop.target = table

/-- The joins go by a table of this name. -/
def Reaches (name : String) : Prop :=
  Among unicode (request.GoBy unicode) name

end JoinRequest

section Reach

variable {unicode : Unicode} {graph : RelationshipGraph} {request : JoinRequest}
variable {home table name : String} {hop : Hop}

/-! ## The tables that a hop leaves -/

/-- A hop of a walk leaves its start or a table that another hop leads to. -/
theorem walk_source {path : List Hop} (walk : JoinWalk graph home table path) :
    (table = home ∨ ∃ hop ∈ path, hop.target = table) ∧
      ∀ hop ∈ path, hop.source = home ∨ ∃ other ∈ path, other.target = hop.source := by
  induction walk with
  | nil => exact ⟨Or.inl rfl, by simp⟩
  | snoc before _ inductionHypothesis =>
      obtain ⟨last, earlier⟩ := inductionHypothesis
      constructor
      · exact Or.inr ⟨_, List.mem_append_right _ List.mem_cons_self, rfl⟩
      · intro hop isHop
        rcases List.mem_append.mp isHop with isEarlier | isLast
        · apply (earlier hop isEarlier).imp_right
          intro ⟨other, isOther, same⟩
          exact ⟨other, List.mem_append_left _ isOther, same⟩
        · rw [List.mem_singleton.mp isLast]
          apply last.imp_right
          intro ⟨other, isOther, same⟩
          exact ⟨other, List.mem_append_left _ isOther, same⟩

theorem early_source (isEarly : request.ResolvedEarly unicode hop) :
    request.EarlyGoBy unicode hop.source := by
  obtain ⟨notMoved, base, isBase, target, isTarget, isHop⟩ := isEarly
  rcases (walk_source (finds_of_hop isHop).walk).2 hop isHop with isHome | ⟨other, isOther, same⟩
  · rw [isHome, JoinRequest.EarlyGoBy, JoinRequest.start, notMoved]
    exact Or.inl isBase
  · exact Or.inr ⟨other, ⟨notMoved, base, isBase, target, isTarget, isOther⟩, same⟩

theorem late_source (isLate : request.ResolvedLate unicode hop) :
    request.GoBy unicode hop.source := by
  obtain ⟨home, isStart, isNamed, goal, isSought, isHop⟩ := isLate
  rcases (walk_source (finds_of_hop isHop).walk).2 hop isHop with isHome | ⟨other, isOther, same⟩
  · exact Or.inl (Or.inl (isHome ▸ isStart))
  · exact Or.inr ⟨other, ⟨home, isStart, isNamed, goal, isSought, isOther⟩, same⟩

/-! ## The scope of the joins -/

theorem mem_earlyScope : unicode.lower name ∈ joinScope unicode (request.rebased unicode) ↔
    JoinRequest.Among unicode (request.EarlyGoBy unicode) name := by
  rw [mem_joinScope, (rebased_spec request).1]
  constructor
  · intro ⟨table, notEmpty, same, isTable⟩
    refine ⟨table, ?_, notEmpty, same⟩
    rcases isTable with isStart | ⟨join, isJoin, isSide⟩
    · exact Or.inl isStart
    · obtain ⟨hop, isEarly, rfl⟩ := mem_rebased_joins.mp isJoin
      rcases isSide with isRight | isLeft
      · exact Or.inr ⟨hop, isEarly, isRight.symm⟩
      · rw [isLeft]
        exact early_source isEarly
  · intro ⟨table, goesBy, notEmpty, same⟩
    refine ⟨table, notEmpty, same, goesBy.imp_right ?_⟩
    intro ⟨hop, isEarly, isTarget⟩
    exact ⟨_, mem_rebased_joins.mpr ⟨hop, isEarly, rfl⟩, Or.inl isTarget.symm⟩

/-- The hops that the plan lacks are those to the tables that are sought. -/
theorem lacks_iff : Lacks unicode request.graph (request.rebased unicode) hop ↔
    request.ResolvedLate unicode hop := by
  unfold Lacks JoinRequest.ResolvedLate JoinRequest.Sought
  simp only [(rebased_spec request).1, rebased_referenced, mem_earlyScope, and_assoc]

/-- The scope of the joins is made of the tables that they go by. -/
theorem mem_scope : unicode.lower name ∈ joinScope unicode (request.reconciled unicode) ↔
    request.Reaches unicode name := by
  obtain ⟨added, isAll, made, covered⟩ := @reconcileJoins_appends unicode request.graph
    (request.rebased unicode)
  have joins : (request.reconciled unicode).joins =
      (request.rebased unicode).joins ++ added := isAll
  simp only [lacks_iff] at made covered
  have early : unicode.lower name ∈ joinScope unicode (request.rebased unicode) →
      unicode.lower name ∈ joinScope unicode (request.reconciled unicode) := by
    simp only [mem_joinScope, (rebased_spec request).1, reconciled_base, joins,
      List.mem_append]
    intro ⟨table, notEmpty, same, isTable⟩
    refine ⟨table, notEmpty, same, isTable.imp_right ?_⟩
    intro ⟨join, isJoin, isSide⟩
    exact ⟨join, Or.inl isJoin, isSide⟩
  constructor
  · intro isName
    obtain ⟨table, notEmpty, same, isTable⟩ := mem_joinScope.mp isName
    rw [reconciled_base, joins] at isTable
    refine ⟨table, ?_, notEmpty, same⟩
    rcases isTable with isStart | ⟨join, isJoin, isSide⟩
    · exact Or.inl (Or.inl isStart)
    · rcases List.mem_append.mp isJoin with isEarly | isLate
      · obtain ⟨hop, isResolved, rfl⟩ := mem_rebased_joins.mp isEarly
        rcases isSide with isRight | isLeft
        · exact Or.inl (Or.inr ⟨hop, isResolved, isRight.symm⟩)
        · rw [isLeft]
          exact Or.inl (early_source isResolved)
      · obtain ⟨hop, isResolved, rfl, _⟩ := made join isLate
        rcases isSide with isRight | isLeft
        · exact Or.inr ⟨hop, isResolved, isRight.symm⟩
        · rw [isLeft]
          exact late_source isResolved
  · intro ⟨table, goesBy, notEmpty, same⟩
    rcases goesBy with isEarly | ⟨hop, isLate, rfl⟩
    · exact early (mem_earlyScope.mpr ⟨table, isEarly, notEmpty, same⟩)
    · rcases covered hop isLate with isThere | ⟨join, isJoin, isRight⟩
      · rw [same] at isThere
        exact early isThere
      · have isNamed : join.rightTable ≠ "" := by
          intro isEmpty
          rw [isEmpty, (unicode.lower_eq_empty "").mpr rfl, eq_comm,
            unicode.lower_eq_empty] at isRight
          exact notEmpty isRight
        rw [mem_joinScope, joins]
        exact ⟨join.rightTable, isNamed, isRight.trans same,
          Or.inr ⟨join, List.mem_append_right _ isJoin, Or.inl rfl⟩⟩

/-- Something is in scope just if the joins go by some table. -/
theorem scope_ne_nil : joinScope unicode (request.reconciled unicode) ≠ [] ↔
    ∃ name, request.Reaches unicode name := by
  constructor
  · intro notEmpty
    obtain ⟨name, isName⟩ := List.exists_mem_of_ne_nil _ notEmpty
    obtain ⟨table, _, same, _⟩ := mem_joinScope.mp isName
    rw [← same] at isName
    exact ⟨table, mem_scope.mp isName⟩
  · intro ⟨name, reaches⟩
    exact List.ne_nil_of_mem (mem_scope.mpr reaches)

end Reach

end DbBuddy.Planner
