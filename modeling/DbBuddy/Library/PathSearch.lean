import Mathlib.Logic.Relation
import Mathlib.Data.List.Nodup
import Mathlib.Data.List.Induction
import Mathlib.Data.List.Perm.Subperm
import Mathlib.Algebra.BigOperators.Group.List.Basic
import Mathlib.Algebra.GroupWithZero.Nat

/-!
# Breadth-first search for a path

A queue holds nodes, each with the path that led to it, and a node is marked when
it is taken from the queue.  So a node can wait in the queue more than once; what
a search returns is the first entry of its target that is taken.  Which entry that
is does not depend on the target, so the paths to all nodes form one tree.
-/

namespace DbBuddy.Library.PathSearch

universe u v

/-- One edge of a path, with what the edge carries. -/
structure Hop (Node : Type u) (Keys : Type v) where
  source : Node
  target : Node
  keys : Keys
  deriving DecidableEq, Repr

/-- A node, and the path that leads to it. -/
abbrev Entry (Node : Type u) (Keys : Type v) := Node × List (Hop Node Keys)

variable {Node : Type u} {Keys : Type v} [DecidableEq Node]
variable (successors : Node → List (Node × Keys))

/-- The entries that are queued when `entry` is taken. -/
def discoveries (visited : List Node) (entry : Entry Node Keys) :
    List (Entry Node Keys) :=
  ((successors entry.1).filter fun next => decide (next.1 ∉ visited)).map
    fun next => (next.1, entry.2 ++ [⟨entry.1, next.1, next.2⟩])

/-- The loop of the search; `none` if the fuel runs out. -/
def search (target : Node) :
    ℕ → List (Entry Node Keys) → List Node → Option (List (Hop Node Keys))
  | 0, _, _ => none
  | _ + 1, [], _ => some []
  | fuel + 1, entry :: rest, visited =>
      if entry.1 = target then some entry.2
      else search target fuel
        (rest ++ discoveries successors (entry.1 :: visited) entry)
        (entry.1 :: visited)

/-- What a search can have taken, latest first, and what waits in its queue. -/
inductive Progress (start : Node) :
    List (Entry Node Keys) → List (Entry Node Keys) → Prop
  | start : Progress start [] [(start, [])]
  | take {taken rest : List (Entry Node Keys)} {entry : Entry Node Keys} :
      Progress start taken (entry :: rest) →
      Progress start (entry :: taken)
        (rest ++ discoveries successors ((entry :: taken).map Prod.fst) entry)

/-- The first entry of `node` that is taken comes with `path`. -/
def Finds (start node : Node) (path : List (Hop Node Keys)) : Prop :=
  ∃ taken rest, Progress successors start taken ((node, path) :: rest) ∧
    node ∉ taken.map Prod.fst

/-- Some walk along the edges leads from one node to the other. -/
def Reachable : Node → Node → Prop :=
  Relation.ReflTransGen fun node next => ∃ keys, (next, keys) ∈ successors node

variable {successors} {start target : Node}

theorem mem_discoveries {visited : List Node} {entry found : Entry Node Keys} :
    found ∈ discoveries successors visited entry ↔
      ∃ next keys, (next, keys) ∈ successors entry.1 ∧ next ∉ visited ∧
        found = (next, entry.2 ++ [⟨entry.1, next, keys⟩]) := by
  constructor
  · intro isFound
    obtain ⟨⟨next, keys⟩, isNext, rfl⟩ := List.mem_map.mp isFound
    obtain ⟨isEdge, isNew⟩ := List.mem_filter.mp isNext
    exact ⟨next, keys, isEdge, of_decide_eq_true isNew, rfl⟩
  · rintro ⟨next, keys, isEdge, isNew, rfl⟩
    exact List.mem_map.mpr
      ⟨(next, keys), List.mem_filter.mpr ⟨isEdge, decide_eq_true isNew⟩, rfl⟩

/-! ## The order in which entries are taken -/

theorem Progress.deterministic {taken taken' queue queue' : List (Entry Node Keys)}
    (progress : Progress successors start taken queue)
    (progress' : Progress successors start taken' queue')
    (sameLength : taken.length = taken'.length) :
    taken = taken' ∧ queue = queue' := by
  induction progress generalizing taken' queue' with
  | start =>
      cases progress' with
      | start =>
          exact ⟨rfl, rfl⟩
      | take _ =>
          simp at sameLength
  | take _ inductionHypothesis =>
      cases progress' with
      | start =>
          simp at sameLength
      | take before' =>
          obtain ⟨rfl, sameQueue⟩ := inductionHypothesis before'
            (Nat.succ.inj sameLength)
          cases sameQueue
          exact ⟨rfl, rfl⟩

/-- What is at the head of the queue at some point has been taken at every later
one. -/
theorem Progress.taken_later {taken taken' queue queue' : List (Entry Node Keys)}
    (progress : Progress successors start taken queue)
    (progress' : Progress successors start taken' queue')
    (later : taken.length < taken'.length) :
    ∃ entry rest, queue = entry :: rest ∧ entry ∈ taken' := by
  induction progress' with
  | start =>
      simp at later
  | @take taken' rest' entry' before' inductionHypothesis =>
      by_cases earlier : taken.length < taken'.length
      · obtain ⟨entry, rest, isQueue, isTaken⟩ := inductionHypothesis earlier
        exact ⟨entry, rest, isQueue, List.mem_cons_of_mem _ isTaken⟩
      · have sameLength : taken.length = taken'.length := by
          simp only [List.length_cons] at later
          omega
        obtain ⟨rfl, rfl⟩ := progress.deterministic before' sameLength
        exact ⟨entry', rest', rfl, List.mem_cons_self⟩

theorem Finds.unique {node : Node} {path path' : List (Hop Node Keys)}
    (finds : Finds successors start node path)
    (finds' : Finds successors start node path') : path = path' := by
  obtain ⟨taken, rest, progress, isFirst⟩ := finds
  obtain ⟨taken', rest', progress', isFirst'⟩ := finds'
  rcases Nat.lt_trichotomy taken.length taken'.length with earlier | same | later
  · obtain ⟨entry, _, isQueue, isTaken⟩ := progress.taken_later progress' earlier
    cases isQueue
    exact absurd (List.mem_map_of_mem isTaken) isFirst'
  · obtain ⟨_, sameQueue⟩ := progress.deterministic progress' same
    cases sameQueue
    rfl
  · obtain ⟨entry, _, isQueue, isTaken⟩ := progress'.taken_later progress later
    cases isQueue
    exact absurd (List.mem_map_of_mem isTaken) isFirst

/-! ## The tree of found paths -/

/-- Whatever a taken node leads to has been queued. -/
theorem Progress.closed {taken queue : List (Entry Node Keys)}
    (progress : Progress successors start taken queue)
    {entry : Entry Node Keys} (isTaken : entry ∈ taken) {next : Node}
    {keys : Keys} (isEdge : (next, keys) ∈ successors entry.1) :
    next ∈ (taken.reverse ++ queue).map Prod.fst := by
  induction progress with
  | start =>
      cases isTaken
  | @take taken rest latest _ inductionHypothesis =>
      by_cases isVisited : next ∈ (latest :: taken).map Prod.fst
      · simp only [List.map_append, List.map_reverse, List.mem_append,
          List.mem_reverse]
        exact Or.inl isVisited
      · rcases List.mem_cons.mp isTaken with rfl | older
        · have isNew : (next, entry.2 ++ [⟨entry.1, next, keys⟩]) ∈
              discoveries successors ((entry :: taken).map Prod.fst) entry :=
            mem_discoveries.mpr ⟨next, keys, isEdge, isVisited, rfl⟩
          exact List.mem_map.mpr ⟨_, List.mem_append_right _
            (List.mem_append_right _ isNew), rfl⟩
        · have queued := inductionHypothesis older
          simp only [List.reverse_cons, List.append_assoc, List.map_append,
            List.map_cons, List.mem_append, List.mem_cons] at queued ⊢
          tauto

/-- What extends the entry that is taken now, of a node that has not been queued
before: then that entry is the first of its own node. -/
theorem Progress.discovered {taken rest : List (Entry Node Keys)}
    {latest entry : Entry Node Keys}
    (progress : Progress successors start taken (latest :: rest))
    (isDiscovered : entry ∈ discoveries successors
      ((latest :: taken).map Prod.fst) latest)
    (isNew : entry.1 ∉ (taken.reverse ++ latest :: rest).map Prod.fst) :
    ∃ parent before keys, Finds successors start parent before ∧
      (entry.1, keys) ∈ successors parent ∧
      entry.2 = before ++ [⟨parent, entry.1, keys⟩] := by
  obtain ⟨next, keys, isEdge, _, rfl⟩ := mem_discoveries.mp isDiscovered
  refine ⟨latest.1, latest.2, keys, ⟨taken, rest, progress, ?_⟩, isEdge, rfl⟩
  intro wasTaken
  obtain ⟨twin, isTwin, sameNode⟩ := List.mem_map.mp wasTaken
  exact isNew (progress.closed isTwin (sameNode ▸ isEdge))

/-- The first entry of a node is the start, or extends the first entry of the
node before it. -/
theorem Progress.parent {taken queue : List (Entry Node Keys)}
    (progress : Progress successors start taken queue)
    {front back : List (Entry Node Keys)} {entry : Entry Node Keys}
    (isAt : taken.reverse ++ queue = front ++ entry :: back)
    (isFirst : entry.1 ∉ front.map Prod.fst) :
    entry = (start, []) ∨ ∃ parent before keys,
      Finds successors start parent before ∧
        (entry.1, keys) ∈ successors parent ∧
        entry.2 = before ++ [⟨parent, entry.1, keys⟩] := by
  induction progress generalizing front back with
  | start =>
      cases front with
      | nil =>
          cases isAt
          exact Or.inl rfl
      | cons head tail =>
          simp at isAt
  | @take taken rest latest before inductionHypothesis =>
      have split : (taken.reverse ++ latest :: rest) ++
          discoveries successors ((latest :: taken).map Prod.fst) latest =
          front ++ entry :: back := by
        simpa using isAt
      rcases List.append_eq_append_iff.mp split with
        ⟨middle, isFront, isNew⟩ | ⟨middle, isOld, isRest⟩
      · refine Or.inr (before.discovered ?_ ?_)
        · rw [isNew]
          exact List.mem_append_right _ List.mem_cons_self
        · rw [isFront, List.map_append, List.mem_append, not_or] at isFirst
          exact isFirst.1
      · cases middle with
        | nil =>
            refine Or.inr (before.discovered ?_ ?_)
            · rw [← List.nil_append (discoveries _ _ _), ← isRest]
              exact List.mem_cons_self
            · rwa [isOld, List.append_nil]
        | cons head tail =>
            obtain ⟨rfl, rfl⟩ := List.cons.inj isRest
            exact inductionHypothesis isOld isFirst

theorem finds_start : Finds successors start start [] :=
  ⟨[], [], Progress.start, by simp⟩

/-- The found path of a node is the found path of its parent and one more hop. -/
theorem Finds.parent {node : Node} {path : List (Hop Node Keys)}
    (finds : Finds successors start node path) :
    (node = start ∧ path = []) ∨ node ≠ start ∧ ∃ parent before keys,
      Finds successors start parent before ∧
        (node, keys) ∈ successors parent ∧
        path = before ++ [⟨parent, node, keys⟩] := by
  have finds' := finds
  obtain ⟨taken, rest, progress, isFirst⟩ := finds'
  have notBefore : (node, path).1 ∉ taken.reverse.map Prod.fst := by
    simpa using isFirst
  rcases progress.parent rfl notBefore with isStart | ⟨parent, before, keys, rest⟩
  · cases isStart
    exact Or.inl ⟨rfl, rfl⟩
  · refine Or.inr ⟨?_, parent, before, keys, rest⟩
    rintro rfl
    have noHop : path = [] := finds.unique finds_start
    simp [noHop] at rest

/-- The last hop of a found path leaves a node whose found path is the rest of it. -/
theorem Finds.source {node : Node} {front : List (Hop Node Keys)} {hop : Hop Node Keys}
    (finds : Finds successors start node (front ++ [hop])) :
    node ≠ start ∧ Finds successors start hop.source front := by
  rcases finds.parent with ⟨_, isEmpty⟩ | ⟨notStart, _, _, _, toParent, _, isPath⟩
  · simp at isEmpty
  · obtain ⟨rfl, isHop⟩ := List.append_inj' isPath rfl
    cases isHop
    exact ⟨notStart, toParent⟩

/-- What holds at the start, and at a node if it does at its parent, holds along every found
path. -/
@[elab_as_elim]
theorem Finds.induct
    {motive : ∀ node path, Finds successors start node path → Prop}
    (nil : motive start [] finds_start)
    (snoc : ∀ {parent node front keys} (toParent : Finds successors start parent front)
      (_ : (node, keys) ∈ successors parent) (_ : node ≠ start)
      (finds : Finds successors start node (front ++ [⟨parent, node, keys⟩])),
      motive parent front toParent → motive node _ finds)
    {node : Node} {path : List (Hop Node Keys)} (finds : Finds successors start node path) :
    motive node path finds := by
  induction path using List.reverseRecOn generalizing node with
  | nil =>
      rcases id finds.parent with ⟨rfl, _⟩ | ⟨_, _, _, _, _, _, isPath⟩
      · exact nil
      · simp at isPath
  | append_singleton before hop inductionHypothesis =>
      rcases id finds.parent with ⟨_, isEmpty⟩ | ⟨notStart, _, _, _, toParent, isEdge, isPath⟩
      · simp at isEmpty
      · obtain ⟨rfl, isHop⟩ := List.append_inj' isPath rfl
        cases isHop
        exact snoc toParent isEdge notStart finds (inductionHypothesis toParent)

/-- Up to any of its hops a found path is the found path of where the hop leads. -/
theorem Finds.upTo {node : Node} {path : List (Hop Node Keys)} {hop : Hop Node Keys}
    (finds : Finds successors start node path) (isHop : hop ∈ path) :
    ∃ front, Finds successors start hop.target (front ++ [hop]) := by
  induction finds using Finds.induct with
  | nil => cases isHop
  | snoc _ _ _ finds inductionHypothesis =>
      rcases List.mem_append.mp isHop with isBefore | isThat
      · exact inductionHypothesis isBefore
      · cases List.mem_singleton.mp isThat
        exact ⟨_, finds⟩

/-- A node has one hop that found paths reach it by. -/
theorem Finds.hop_unique {node other : Node} {path path' : List (Hop Node Keys)}
    {hop hop' : Hop Node Keys} (finds : Finds successors start node path)
    (finds' : Finds successors start other path') (isHop : hop ∈ path)
    (isHop' : hop' ∈ path') (same : hop.target = hop'.target) : hop = hop' := by
  obtain ⟨front, toHop⟩ := finds.upTo isHop
  obtain ⟨front', toHop'⟩ := finds'.upTo isHop'
  rw [← same] at toHop'
  have samePath := toHop.unique toHop'
  exact List.singleton_injective (List.append_inj' samePath rfl).2

theorem Finds.reachable {node : Node} {path : List (Hop Node Keys)}
    (finds : Finds successors start node path) :
    Reachable successors start node := by
  induction finds using Finds.induct with
  | nil => exact Relation.ReflTransGen.refl
  | snoc _ isEdge _ _ inductionHypothesis => exact inductionHypothesis.tail ⟨_, isEdge⟩

/-! ## What a search returns -/

theorem Progress.start_mem {taken queue : List (Entry Node Keys)}
    (progress : Progress successors start taken queue) :
    start ∈ (taken ++ queue).map Prod.fst := by
  induction progress with
  | start =>
      simp
  | take _ inductionHypothesis =>
      simp only [List.map_append, List.map_cons, List.mem_append, List.mem_cons,
        List.cons_append] at inductionHypothesis ⊢
      tauto

/-- Once the queue is empty, every node that can be reached has been taken. -/
theorem Progress.complete {taken : List (Entry Node Keys)}
    (progress : Progress successors start taken []) {node : Node}
    (isReachable : Reachable successors start node) :
    node ∈ taken.map Prod.fst := by
  induction isReachable with
  | refl =>
      simpa using progress.start_mem
  | tail _ isEdge inductionHypothesis =>
      obtain ⟨keys, isEdge⟩ := isEdge
      obtain ⟨entry, isTaken, rfl⟩ := List.mem_map.mp inductionHypothesis
      simpa using progress.closed isTaken isEdge

/-- A search returns the found path of its target; the empty path also if the
queue has run empty without it. -/
theorem search_eq_some {fuel : ℕ} {taken queue : List (Entry Node Keys)}
    {path : List (Hop Node Keys)}
    (progress : Progress successors start taken queue)
    (notTaken : target ∉ taken.map Prod.fst)
    (found : search successors target fuel queue (taken.map Prod.fst) =
      some path) :
    Finds successors start target path ∨
      (path = [] ∧ ¬ Reachable successors start target) := by
  induction fuel generalizing taken queue with
  | zero =>
      cases found
  | succ fuel inductionHypothesis =>
      cases queue with
      | nil =>
          cases found
          exact Or.inr ⟨rfl, fun isReachable =>
            notTaken (progress.complete isReachable)⟩
      | cons entry rest =>
          unfold search at found
          split at found
          · rename_i isTarget
            cases found
            subst target
            exact Or.inl ⟨taken, rest, progress, notTaken⟩
          · rename_i other
            refine inductionHypothesis progress.take ?_ found
            simp only [List.map_cons, List.mem_cons, not_or]
            exact ⟨fun same => other same.symm, notTaken⟩

/-! ## Fuel -/

/-- A path that has passed through marked nodes only, each once. -/
structure Simple (nodes visited : List Node) (entry : Entry Node Keys) : Prop where
  nodup : (entry.1 :: entry.2.map Hop.source).Nodup
  marked : ∀ hop ∈ entry.2, hop.source ∈ visited
  known : ∀ node ∈ entry.1 :: entry.2.map Hop.source, node ∈ nodes

omit [DecidableEq Node] in
theorem Simple.length_lt {nodes visited : List Node} {entry : Entry Node Keys}
    (simple : Simple nodes visited entry) : entry.2.length < nodes.length := by
  have bound := (List.subperm_of_subset simple.nodup simple.known).length_le
  simp only [List.length_cons, List.length_map] at bound
  omega

theorem Simple.discovery {nodes visited : List Node}
    {entry found : Entry Node Keys} (simple : Simple nodes visited entry)
    (closed : ∀ next ∈ successors entry.1, next.1 ∈ nodes)
    (isFound : found ∈ discoveries successors (entry.1 :: visited) entry) :
    Simple nodes (entry.1 :: visited) found := by
  obtain ⟨next, keys, isEdge, isNew, rfl⟩ := mem_discoveries.mp isFound
  obtain ⟨notLast, notVisited⟩ := not_or.mp (List.mem_cons.not.mp isNew)
  have notBefore : next ∉ entry.2.map Hop.source := by
    intro isBefore
    obtain ⟨hop, isHop, rfl⟩ := List.mem_map.mp isBefore
    exact notVisited (simple.marked hop isHop)
  refine ⟨?_, ?_, ?_⟩
  · have nodup := simple.nodup
    simp only [List.map_append, List.map_cons, List.map_nil, List.nodup_cons,
      List.nodup_append, List.mem_append, List.mem_singleton] at nodup ⊢
    grind
  · intro hop isHop
    rcases List.mem_append.mp isHop with older | isLast
    · exact List.mem_cons_of_mem _ (simple.marked hop older)
    · cases List.mem_singleton.mp isLast
      exact List.mem_cons_self
  · intro node isNode
    have known := simple.known
    have isKnown := closed _ isEdge
    simp only [List.map_append, List.map_cons, List.map_nil, List.mem_cons,
      List.mem_append, List.not_mem_nil, or_false] at isNode known
    grind

/-- What taking an entry of a path can still lead to. -/
def weight (nodes : List Node) (branching : ℕ) (entry : Entry Node Keys) : ℕ :=
  (branching + 1) ^ (nodes.length - entry.2.length)

def potential (nodes : List Node) (branching : ℕ)
    (queue : List (Entry Node Keys)) : ℕ :=
  (queue.map (weight nodes branching)).sum

theorem potential_discoveries {nodes visited : List Node} {branching : ℕ}
    {entry : Entry Node Keys} (simple : Simple nodes visited entry)
    (bounded : (successors entry.1).length ≤ branching) :
    potential nodes branching
        (discoveries successors (entry.1 :: visited) entry) <
      weight nodes branching entry := by
  have shorter := simple.length_lt
  obtain ⟨left, isLeft⟩ : ∃ left, nodes.length - entry.2.length = left + 1 :=
    ⟨nodes.length - entry.2.length - 1, by omega⟩
  have each : ∀ found ∈ discoveries successors (entry.1 :: visited) entry,
      weight nodes branching found = (branching + 1) ^ left := by
    intro found isFound
    obtain ⟨next, keys, _, _, rfl⟩ := mem_discoveries.mp isFound
    have isShorter : nodes.length - (entry.2.length + 1) = left := by
      omega
    simp [weight, isShorter]
  have count : (discoveries successors (entry.1 :: visited) entry).length ≤
      branching := by
    simp only [discoveries, List.length_map]
    exact Nat.le_trans (List.length_filter_le _ _) bounded
  have total : potential nodes branching
      (discoveries successors (entry.1 :: visited) entry) =
      (discoveries successors (entry.1 :: visited) entry).length *
        (branching + 1) ^ left := by
    rw [potential, List.map_congr_left each]
    simp
  calc potential nodes branching
        (discoveries successors (entry.1 :: visited) entry)
      ≤ branching * (branching + 1) ^ left := by
        rw [total]
        exact Nat.mul_le_mul_right _ count
    _ < (branching + 1) * (branching + 1) ^ left := by
        exact Nat.mul_lt_mul_of_pos_right (Nat.lt_succ_self _)
          (Nat.pow_pos (Nat.succ_pos _))
    _ = weight nodes branching entry := by
        rw [weight, isLeft, Nat.pow_succ, Nat.mul_comm]

/-- The search ends: every entry it takes is worth more than those it queues. -/
theorem search_isSome {nodes : List Node} {branching : ℕ}
    (closed : ∀ node ∈ nodes, ∀ next ∈ successors node, next.1 ∈ nodes)
    (bounded : ∀ node ∈ nodes, (successors node).length ≤ branching)
    {fuel : ℕ} {queue : List (Entry Node Keys)} {visited : List Node}
    (simple : ∀ entry ∈ queue, Simple nodes visited entry)
    (enough : potential nodes branching queue < fuel) :
    ∃ path, search successors target fuel queue visited = some path := by
  induction fuel generalizing queue visited with
  | zero =>
      exact absurd enough (Nat.not_lt_zero _)
  | succ fuel inductionHypothesis =>
      cases queue with
      | nil =>
          exact ⟨[], rfl⟩
      | cons entry rest =>
          unfold search
          split
          · exact ⟨entry.2, rfl⟩
          · have isSimple := simple entry List.mem_cons_self
            have isKnown := isSimple.known entry.1 List.mem_cons_self
            have smaller := potential_discoveries isSimple
              (bounded entry.1 isKnown)
            refine inductionHypothesis ?_ ?_
            · intro found isQueued
              rcases List.mem_append.mp isQueued with isOld | isFound
              · have older := simple found (List.mem_cons_of_mem _ isOld)
                exact { older with
                  marked := fun hop isHop =>
                    List.mem_cons_of_mem _ (older.marked hop isHop) }
              · exact isSimple.discovery (closed entry.1 isKnown) isFound
            · simp only [potential, List.map_append, List.sum_append,
                List.map_cons, List.sum_cons] at enough smaller ⊢
              omega

/-- The search for `target` from `start`, on `nodes` that no edge leaves. -/
theorem search_spec {nodes : List Node} {branching : ℕ} (target : Node)
    (fuel : ℕ) (isNode : start ∈ nodes)
    (closed : ∀ node ∈ nodes, ∀ next ∈ successors node, next.1 ∈ nodes)
    (bounded : ∀ node ∈ nodes, (successors node).length ≤ branching)
    (enough : (branching + 1) ^ nodes.length < fuel) :
    ∃ path, search successors target fuel [(start, [])] [] = some path ∧
      (Finds successors start target path ∨
        (path = [] ∧ ¬ Reachable successors start target)) := by
  have simple : ∀ entry ∈ [((start, []) : Entry Node Keys)],
      Simple nodes [] entry := by
    intro entry isEntry
    cases List.mem_singleton.mp isEntry
    exact ⟨by simp, by simp, by simpa using isNode⟩
  have small : potential nodes branching [((start, []) : Entry Node Keys)] <
      fuel := by
    simpa [potential, weight] using enough
  obtain ⟨path, found⟩ := search_isSome closed bounded simple small
  exact ⟨path, found, search_eq_some Progress.start (by simp) found⟩

end DbBuddy.Library.PathSearch
