import DbBuddy.Library.PathSearch

/-!
# The paths that a breadth-first search finds are shortest

Entries are taken from the queue in the order of the lengths of their paths.  So the
first entry of a node that is taken has a path as short as any walk to the node.
-/

namespace DbBuddy.Library.PathSearch

universe u v

variable {Node : Type u} {Keys : Type v}
variable {successors : Node → List (Node × Keys)} {start node next : Node}
variable {keys : Keys} {path other : List (Hop Node Keys)}

/-- A walk along the edges, with the hops it takes. -/
inductive Walk (successors : Node → List (Node × Keys)) (start : Node) :
    Node → List (Hop Node Keys) → Prop
  | nil : Walk successors start start []
  | snoc {node next : Node} {keys : Keys} {path : List (Hop Node Keys)} :
      Walk successors start node path → (next, keys) ∈ successors node →
      Walk successors start next (path ++ [⟨node, next, keys⟩])

theorem Walk.reachable (walk : Walk successors start node path) :
    Reachable successors start node := by
  induction walk with
  | nil => exact Relation.ReflTransGen.refl
  | snoc _ isEdge inductionHypothesis => exact inductionHypothesis.tail ⟨_, isEdge⟩

theorem Walk.edges (walk : Walk successors start node path) :
    ∀ hop ∈ path, (hop.target, hop.keys) ∈ successors hop.source := by
  induction walk with
  | nil => simp
  | snoc _ isEdge inductionHypothesis =>
      intro hop isHop
      rcases List.mem_append.mp isHop with isEarlier | isLast
      · exact inductionHypothesis hop isEarlier
      · rw [List.mem_singleton.mp isLast]
        exact isEdge

theorem Reachable.walk (isReachable : Reachable successors start node) :
    ∃ path, Walk successors start node path := by
  induction isReachable with
  | refl => exact ⟨[], Walk.nil⟩
  | tail _ isEdge inductionHypothesis =>
      obtain ⟨path, walk⟩ := inductionHypothesis
      obtain ⟨keys, isEdge⟩ := isEdge
      exact ⟨_, walk.snoc isEdge⟩

variable [DecidableEq Node] {taken queue rest : List (Entry Node Keys)}
variable {first entry : Entry Node Keys}

/-! ## The order of the queue -/

/-- Entries are queued in the order of their lengths, and no two in the queue differ by
more than one hop. -/
structure InLayers (taken queue : List (Entry Node Keys)) : Prop where
  sorted : (taken.reverse ++ queue).Pairwise fun earlier later =>
    earlier.2.length ≤ later.2.length
  close : ∀ first rest, queue = first :: rest →
    ∀ entry ∈ rest, entry.2.length ≤ first.2.length + 1

theorem length_of_mem_discoveries {visited : List Node}
    (isFound : entry ∈ discoveries successors visited first) :
    entry.2.length = first.2.length + 1 := by
  obtain ⟨next, keys, _, _, rfl⟩ := mem_discoveries.mp isFound
  simp

theorem Progress.inLayers (progress : Progress successors start taken queue) :
    InLayers taken queue := by
  induction progress with
  | start =>
      constructor
      · simp
      · intro first rest isQueue entry isIn
        cases isQueue
        cases isIn
  | @take taken rest latest _ layers =>
      have split : (latest :: taken).reverse ++ (rest ++
          discoveries successors ((latest :: taken).map Prod.fst) latest) =
          (taken.reverse ++ latest :: rest) ++
            discoveries successors ((latest :: taken).map Prod.fst) latest := by
        simp
      have parts := List.pairwise_append.mp layers.sorted
      have within : ∀ entry ∈ taken.reverse ++ latest :: rest,
          entry.2.length ≤ latest.2.length + 1 := by
        intro entry isIn
        rcases List.mem_append.mp isIn with isTaken | isQueued
        · have before := parts.2.2 entry isTaken latest List.mem_cons_self
          omega
        · rcases List.mem_cons.mp isQueued with rfl | isLater
          · omega
          · exact layers.close latest rest rfl entry isLater
      constructor
      · rw [split]
        apply List.pairwise_append.mpr
        refine ⟨layers.sorted, ?_, ?_⟩
        · apply List.pairwise_of_forall_mem_list
          intro found isFound found' isFound'
          have length := length_of_mem_discoveries isFound
          have length' := length_of_mem_discoveries isFound'
          omega
        · intro entry isIn found isFound
          rw [length_of_mem_discoveries isFound]
          exact within entry isIn
      · intro head tail isQueue entry isIn
        have isLate : ∀ queued ∈ rest ++
            discoveries successors ((latest :: taken).map Prod.fst) latest,
            latest.2.length ≤ queued.2.length ∧
              queued.2.length ≤ latest.2.length + 1 := by
          intro queued isQueued
          rcases List.mem_append.mp isQueued with isOld | isNew
          · exact ⟨List.rel_of_pairwise_cons parts.2.1 isOld,
              layers.close latest rest rfl queued isOld⟩
          · have length := length_of_mem_discoveries isNew
            omega
        rw [isQueue] at isLate
        have ofHead := isLate head List.mem_cons_self
        have ofEntry := isLate entry (List.mem_cons_of_mem _ isIn)
        omega

/-! ## No walk is shorter -/

theorem Progress.start_entry (progress : Progress successors start taken queue) :
    (start, []) ∈ taken ++ queue := by
  induction progress with
  | start => simp
  | take _ inductionHypothesis =>
      simp only [List.mem_append, List.mem_cons, List.cons_append] at inductionHypothesis ⊢
      tauto

/-- What a taken entry leads to has an entry that is one hop longer at most. -/
theorem Progress.reached (progress : Progress successors start taken queue)
    (isTaken : entry ∈ taken) (isEdge : (next, keys) ∈ successors entry.1) :
    ∃ found ∈ taken ++ queue, found.1 = next ∧
      found.2.length ≤ entry.2.length + 1 := by
  induction progress with
  | start => cases isTaken
  | @take taken rest latest before inductionHypothesis =>
      rcases List.mem_cons.mp isTaken with rfl | older
      · by_cases isVisited : next ∈ (entry :: taken).map Prod.fst
        · obtain ⟨twin, isTwin, sameNode⟩ := List.mem_map.mp isVisited
          refine ⟨twin, List.mem_append_left _ isTwin, sameNode, ?_⟩
          rcases List.mem_cons.mp isTwin with rfl | isOlder
          · omega
          · have sorted := List.pairwise_append.mp before.inLayers.sorted
            have earlier := sorted.2.2 twin (List.mem_reverse.mpr isOlder) entry
              List.mem_cons_self
            omega
        · refine ⟨(next, entry.2 ++ [⟨entry.1, next, keys⟩]), ?_, rfl, by simp⟩
          apply List.mem_append_right
          apply List.mem_append_right
          exact mem_discoveries.mpr ⟨next, keys, isEdge, isVisited, rfl⟩
      · obtain ⟨found, isFound, sameNode, isShort⟩ := inductionHypothesis older
        refine ⟨found, ?_, sameNode, isShort⟩
        simp only [List.mem_append, List.mem_cons, List.cons_append] at isFound ⊢
        tauto

/-- While the end of a walk has not been reached by a path as short, the queue holds an
entry that is. -/
theorem Progress.pending (progress : Progress successors start taken queue)
    (walk : Walk successors start node path) :
    (∃ found ∈ taken, found.1 = node ∧ found.2.length ≤ path.length) ∨
      ∃ found ∈ queue, found.2.length ≤ path.length := by
  induction walk with
  | nil =>
      rcases List.mem_append.mp progress.start_entry with isTaken | isQueued
      · exact Or.inl ⟨_, isTaken, rfl, Nat.le_refl _⟩
      · exact Or.inr ⟨_, isQueued, Nat.le_refl _⟩
  | snoc _ isEdge inductionHypothesis =>
      simp only [List.length_append, List.length_singleton]
      rcases inductionHypothesis with ⟨before, isTaken, rfl, isShort⟩ |
        ⟨found, isQueued, isShort⟩
      · obtain ⟨found, isFound, sameNode, oneMore⟩ := progress.reached isTaken isEdge
        rcases List.mem_append.mp isFound with isTaken | isQueued
        · exact Or.inl ⟨found, isTaken, sameNode, by omega⟩
        · exact Or.inr ⟨found, isQueued, by omega⟩
      · exact Or.inr ⟨found, isQueued, by omega⟩

theorem Finds.shortest (finds : Finds successors start node path)
    (walk : Walk successors start node other) : path.length ≤ other.length := by
  obtain ⟨taken, rest, progress, isFirst⟩ := finds
  rcases progress.pending walk with ⟨found, isTaken, sameNode, _⟩ |
    ⟨found, isQueued, isShort⟩
  · exact absurd (List.mem_map.mpr ⟨found, isTaken, sameNode⟩) isFirst
  · have sorted := (List.pairwise_append.mp progress.inLayers.sorted).2.1
    rcases List.mem_cons.mp isQueued with rfl | isLater
    · exact isShort
    · have order := List.rel_of_pairwise_cons sorted isLater
      exact Nat.le_trans order isShort

/-! ## A found path is a walk without repetition -/

theorem Finds.walk (finds : Finds successors start node path) :
    Walk successors start node path := by
  induction finds using Finds.induct with
  | nil => exact Walk.nil
  | snoc _ isEdge _ _ inductionHypothesis => exact inductionHypothesis.snoc isEdge

/-- The nodes on a found path were found by shorter ones. -/
theorem Finds.before (finds : Finds successors start node path) :
    ∀ hop ∈ path, ∃ front, Finds successors start hop.source front ∧
      front.length < path.length := by
  induction finds using Finds.induct with
  | nil => simp
  | snoc toParent _ _ _ inductionHypothesis =>
      intro hop isIn
      rw [List.length_append, List.length_singleton]
      rcases List.mem_append.mp isIn with isBefore | isLast
      · obtain ⟨front, found, isShorter⟩ := inductionHypothesis hop isBefore
        exact ⟨front, found, by omega⟩
      · obtain rfl := List.mem_singleton.mp isLast
        exact ⟨_, toParent, by omega⟩

theorem Finds.nodup (finds : Finds successors start node path) :
    (path.map Hop.source ++ [node]).Nodup := by
  have fresh : ∀ {node path}, Finds successors start node path →
      node ∉ path.map Hop.source := by
    intro node path finds isIn
    obtain ⟨hop, isHop, rfl⟩ := List.mem_map.mp isIn
    obtain ⟨front, found, isShorter⟩ := finds.before hop isHop
    rw [finds.unique found] at isShorter
    exact Nat.lt_irrefl _ isShorter
  induction finds using Finds.induct with
  | nil => simp
  | snoc _ _ _ finds nodup =>
      have isFresh := fresh finds
      rw [List.map_append] at isFresh ⊢
      apply List.nodup_append.mpr
      refine ⟨nodup, List.nodup_singleton _, ?_⟩
      intro source isSource last isLast same
      rw [List.mem_singleton.mp isLast] at same
      rw [same] at isSource
      exact isFresh isSource

end DbBuddy.Library.PathSearch
