import DbBuddy.Library.ShortestPaths
import Mathlib.Data.List.Shortlex
import Mathlib.Order.Lattice

/-!
# The order of walks in a breadth-first search

Walks from one node are ordered by their lengths, and those of one length by where each
of their hops stands among the edges of its source.  That is the order of the queue, so
it says which entries are ever taken: a node is taken a second time where an edge leads
to it from a node before it that was not the first to do so.
-/

namespace DbBuddy.Library.PathSearch

universe u v

variable {Node : Type u} {Keys : Type v}

theorem lex_append {Symbol : Type u} {order : Symbol → Symbol → Prop}
    {front back : List Symbol} (less : List.Lex order front back)
    (sameLength : front.length = back.length) (rest rest' : List Symbol) :
    List.Lex order (front ++ rest) (back ++ rest') := by
  induction less with
  | nil => simp at sameLength
  | cons _ induction =>
      apply List.Lex.cons
      apply induction
      simpa using sameLength
  | rel isBefore => exact List.Lex.rel isBefore

variable {successors : Node → List (Node × Keys)} {start node next target : Node}
variable {keys : Keys}

/-- No node has two edges to one other. -/
def Distinct (successors : Node → List (Node × Keys)) : Prop :=
  ∀ node, ((successors node).map Prod.fst).Nodup

theorem Distinct.keys_eq {keys' : Keys} (distinct : Distinct successors)
    (isEdge : (next, keys) ∈ successors node) (isEdge' : (next, keys') ∈ successors node) :
    keys = keys' := by
  have same := List.inj_on_of_nodup_map (distinct node) isEdge isEdge' rfl
  exact (Prod.mk.inj same).2

variable [DecidableEq Node]

/-- Where a hop stands among the edges of its source. -/
def place (successors : Node → List (Node × Keys)) (hop : Hop Node Keys) : ℕ :=
  ((successors hop.source).map Prod.fst).idxOf hop.target

/-- Shorter walks come first, then those that take an earlier edge where they part. -/
def Earlier (successors : Node → List (Node × Keys)) (path other : List (Hop Node Keys)) :
    Prop :=
  List.Shortlex (· < ·) (path.map (place successors)) (other.map (place successors))

variable {path other third : List (Hop Node Keys)} {hop last : Hop Node Keys}

theorem earlier_iff : Earlier successors path other ↔
    path.length < other.length ∨ path.length = other.length ∧
      path.map (place successors) < other.map (place successors) := by
  rw [Earlier, List.shortlex_def, List.length_map, List.length_map]
  rfl

theorem Earlier.irrefl : ¬ Earlier successors path path := by
  rw [earlier_iff]
  rintro (shorter | ⟨_, less⟩)
  · exact Nat.lt_irrefl _ shorter
  · exact lt_irrefl _ less

theorem Earlier.trans (first : Earlier successors path other)
    (second : Earlier successors other third) : Earlier successors path third := by
  rw [earlier_iff] at first second ⊢
  rcases first with shorter | ⟨sameLength, less⟩
  · left
    omega
  · rcases second with shorter | ⟨sameLength', less'⟩
    · left
      omega
    · right
      exact ⟨sameLength.trans sameLength', lt_trans less less'⟩

theorem Earlier.asymm (first : Earlier successors path other) :
    ¬ Earlier successors other path :=
  fun second => Earlier.irrefl (first.trans second)

/-- One walk is the other, or comes before it. -/
def NoLater (successors : Node → List (Node × Keys)) (path other : List (Hop Node Keys)) :
    Prop :=
  path = other ∨ Earlier successors path other

theorem NoLater.trans_earlier (first : NoLater successors path other)
    (second : Earlier successors other third) : Earlier successors path third := by
  rcases first with rfl | before
  · exact second
  · exact before.trans second

theorem NoLater.not_earlier (first : NoLater successors path other) :
    ¬ Earlier successors other path := by
  intro before
  exact Earlier.irrefl (first.trans_earlier before)

theorem earlier_nil : Earlier successors [] (path ++ [hop]) := by
  rw [earlier_iff]
  left
  simp

theorem earlier_append : Earlier successors path (path ++ [hop]) := by
  rw [earlier_iff]
  left
  simp

/-- What extends an earlier walk comes before what extends a later one. -/
theorem Earlier.extend (first : Earlier successors path other) :
    Earlier successors (path ++ [hop]) (other ++ [last]) := by
  rw [earlier_iff] at first ⊢
  rw [List.map_append, List.map_append, List.length_append, List.length_append,
    List.length_singleton, List.length_singleton]
  rcases first with shorter | ⟨sameLength, less⟩
  · left
    omega
  · right
    refine ⟨by omega, ?_⟩
    apply lex_append less
    simpa using sameLength

theorem NoLater.extend (first : NoLater successors path other) :
    NoLater successors (path ++ [hop]) (other ++ [hop]) := by
  rcases first with rfl | before
  · exact Or.inl rfl
  · exact Or.inr before.extend

/-- Two walks that part at the last hop. -/
theorem earlier_sibling (before : place successors hop < place successors last) :
    Earlier successors (path ++ [hop]) (path ++ [last]) := by
  unfold Earlier
  rw [List.map_append, List.map_append]
  apply List.Shortlex.append_left
  exact (List.shortlex_singleton_iff _ _).mpr before

/-! ## Any two walks are in order -/

/-- A walk is known by the places of its hops. -/
theorem Walk.eq_of_places {node' : Node} (distinct : Distinct successors)
    (walk : Walk successors start node path) (walk' : Walk successors start node' other)
    (same : path.map (place successors) = other.map (place successors)) :
    node = node' ∧ path = other := by
  induction walk generalizing node' other with
  | nil =>
      cases walk' with
      | nil => exact ⟨rfl, rfl⟩
      | snoc _ _ => simp at same
  | @snoc node next keys path walk isEdge induction =>
      cases walk' with
      | nil => simp at same
      | @snoc _ _ keys' other walk' isEdge' =>
          rw [List.map_append, List.map_append] at same
          obtain ⟨sameFront, sameLast⟩ := List.append_inj' same rfl
          obtain ⟨rfl, rfl⟩ := induction walk' sameFront
          have isTarget : next ∈ (successors node).map Prod.fst :=
            List.mem_map.mpr ⟨_, isEdge, rfl⟩
          obtain rfl := (List.idxOf_inj isTarget).mp (List.singleton_inj.mp sameLast)
          rw [distinct.keys_eq isEdge isEdge']
          exact ⟨rfl, rfl⟩

theorem Walk.trichotomy {node' : Node} (distinct : Distinct successors)
    (walk : Walk successors start node path) (walk' : Walk successors start node' other) :
    Earlier successors path other ∨ path = other ∨ Earlier successors other path := by
  rcases Nat.lt_trichotomy path.length other.length with shorter | sameLength | longer
  · left
    exact earlier_iff.mpr (Or.inl shorter)
  · rcases lt_trichotomy (path.map (place successors)) (other.map (place successors)) with
      less | same | greater
    · left
      exact earlier_iff.mpr (Or.inr ⟨sameLength, less⟩)
    · right
      left
      exact (walk.eq_of_places distinct walk' same).2
    · right
      right
      exact earlier_iff.mpr (Or.inr ⟨sameLength.symm, greater⟩)
  · right
    right
    exact earlier_iff.mpr (Or.inl longer)

/-- The first of all walks to a node. -/
structure FirstWalk (successors : Node → List (Node × Keys)) (start node : Node)
    (path : List (Hop Node Keys)) : Prop where
  walk : Walk successors start node path
  first : ∀ other, Walk successors start node other → other ≠ path →
    Earlier successors path other

/-- No other walk comes before the first one. -/
theorem FirstWalk.not_earlier (isFirst : FirstWalk successors start node path)
    (walk : Walk successors start node other) : ¬ Earlier successors other path := by
  intro before
  have different : other ≠ path := by
    rintro rfl
    exact Earlier.irrefl before
  exact (isFirst.first other walk different).asymm before

/-! ## The queue is in order -/

section Queue

variable {taken queue rest : List (Entry Node Keys)} {entry found latest : Entry Node Keys}

/-- What is known once an entry is taken: what was known, and what it leads to. -/
theorem mem_take : entry ∈ (latest :: taken) ++ (rest ++
      discoveries successors ((latest :: taken).map Prod.fst) latest) ↔
    entry ∈ taken ++ latest :: rest ∨
      entry ∈ discoveries successors ((latest :: taken).map Prod.fst) latest := by
  simp only [List.mem_append, List.mem_cons]
  tauto

/-- An entry extends one that was taken. -/
theorem Progress.extends (progress : Progress successors start taken queue)
    (isEntry : entry ∈ taken ++ queue) :
    entry = (start, []) ∨ ∃ before ∈ taken, ∃ keys, (entry.1, keys) ∈ successors before.1 ∧
      entry.2 = before.2 ++ [⟨before.1, entry.1, keys⟩] := by
  induction progress with
  | start =>
      left
      simpa using isEntry
  | @take taken rest latest _ induction =>
      rcases mem_take.mp isEntry with isOld | isNew
      · rcases induction isOld with isStart | ⟨before, isTaken, keys, isEdge, isPath⟩
        · exact Or.inl isStart
        · exact Or.inr ⟨before, List.mem_cons_of_mem _ isTaken, keys, isEdge, isPath⟩
      · obtain ⟨next, keys, isEdge, _, rfl⟩ := mem_discoveries.mp isNew
        exact Or.inr ⟨latest, List.mem_cons_self, keys, isEdge, rfl⟩

theorem Progress.walk (progress : Progress successors start taken queue)
    (isEntry : entry ∈ taken ++ queue) : Walk successors start entry.1 entry.2 := by
  induction progress generalizing entry with
  | start =>
      obtain rfl : entry = (start, []) := by simpa using isEntry
      exact Walk.nil
  | @take taken rest latest _ induction =>
      rcases mem_take.mp isEntry with isOld | isNew
      · exact induction isOld
      · obtain ⟨next, keys, isEdge, _, rfl⟩ := mem_discoveries.mp isNew
        exact (induction (List.mem_append_right _ List.mem_cons_self)).snoc isEdge

/-- The entries of one taken node stand in the order of its edges. -/
theorem pairwise_discoveries (distinct : Distinct successors) (visited : List Node)
    (entry : Entry Node Keys) : (discoveries successors visited entry).Pairwise
      fun before after => Earlier successors before.2 after.2 := by
  have inOrder : (successors entry.1).Pairwise fun before after =>
      ((successors entry.1).map Prod.fst).idxOf before.1 <
        ((successors entry.1).map Prod.fst).idxOf after.1 := by
    have places : ∀ index (inRange : index < (successors entry.1).length),
        ((successors entry.1).map Prod.fst).idxOf (successors entry.1)[index].1 = index := by
      intro index inRange
      have isPlace := (distinct entry.1).idxOf_getElem index (by simpa using inRange)
      rw [List.getElem_map] at isPlace
      exact isPlace
    apply List.pairwise_iff_getElem.mpr
    intro index later inRange inRange' isBefore
    rw [places index inRange, places later inRange']
    exact isBefore
  unfold discoveries
  apply List.pairwise_map.mpr
  apply (inOrder.sublist List.filter_sublist).imp
  intro before after isBefore
  exact earlier_sibling isBefore

theorem Progress.inOrder (distinct : Distinct successors)
    (progress : Progress successors start taken queue) :
    (taken.reverse ++ queue).Pairwise fun before after =>
      Earlier successors before.2 after.2 := by
  induction progress with
  | start => simp
  | @take taken rest latest progress induction =>
      have split : (latest :: taken).reverse ++ (rest ++
          discoveries successors ((latest :: taken).map Prod.fst) latest) =
          (taken.reverse ++ latest :: rest) ++
            discoveries successors ((latest :: taken).map Prod.fst) latest := by
        simp
      rw [split]
      apply List.pairwise_append.mpr
      refine ⟨induction, pairwise_discoveries distinct _ latest, ?_⟩
      intro entry isEntry found isFound
      obtain ⟨next, keys, _, _, rfl⟩ := mem_discoveries.mp isFound
      have isKnown : entry ∈ taken ++ latest :: rest := by
        simpa using isEntry
      rcases progress.extends isKnown with rfl | ⟨before, isTaken, keys', _, isPath⟩
      · exact earlier_nil
      · rw [isPath]
        have isBefore := (List.pairwise_append.mp induction).2.2 before
          (List.mem_reverse.mpr isTaken) latest List.mem_cons_self
        exact isBefore.extend

theorem Progress.taken_earlier (distinct : Distinct successors)
    (progress : Progress successors start taken queue) (isTaken : entry ∈ taken)
    (isQueued : found ∈ queue) : Earlier successors entry.2 found.2 :=
  (List.pairwise_append.mp (progress.inOrder distinct)).2.2 entry
    (List.mem_reverse.mpr isTaken) found isQueued

/-- The node of an entry was new when the entry that it extends was taken. -/
theorem Progress.origin (distinct : Distinct successors)
    (progress : Progress successors start taken queue) (isEntry : entry ∈ taken ++ queue) :
    entry = (start, []) ∨ ∃ before ∈ taken, ∃ keys, (entry.1, keys) ∈ successors before.1 ∧
      entry.2 = before.2 ++ [⟨before.1, entry.1, keys⟩] ∧
      ∀ other ∈ taken ++ queue, other.1 = entry.1 → Earlier successors before.2 other.2 := by
  induction progress generalizing entry with
  | start =>
      left
      simpa using isEntry
  | @take taken rest latest progress induction =>
      have inOrder := progress.take.inOrder distinct
      rcases mem_take.mp isEntry with isOld | isNew
      · rcases induction isOld with isStart | ⟨before, isTaken, keys, isEdge, isPath, isNew⟩
        · exact Or.inl isStart
        · refine Or.inr ⟨before, List.mem_cons_of_mem _ isTaken, keys, isEdge, isPath, ?_⟩
          intro other isOther sameNode
          rcases mem_take.mp isOther with isOld' | isNew'
          · exact isNew other isOld' sameNode
          · exact progress.take.taken_earlier distinct (List.mem_cons_of_mem _ isTaken)
              (List.mem_append_right _ isNew')
      · obtain ⟨next, keys, isEdge, isFresh, rfl⟩ := mem_discoveries.mp isNew
        refine Or.inr ⟨latest, List.mem_cons_self, keys, isEdge, rfl, ?_⟩
        rintro other isOther rfl
        rcases List.mem_append.mp isOther with isTaken | isQueued
        · exact absurd (List.mem_map_of_mem isTaken) isFresh
        · exact progress.take.taken_earlier distinct List.mem_cons_self isQueued

/-- An edge of a taken entry is followed, unless its target was taken no later. -/
theorem Progress.followed (distinct : Distinct successors)
    (progress : Progress successors start taken queue) (isTaken : entry ∈ taken)
    (isEdge : (next, keys) ∈ successors entry.1) :
    (next, entry.2 ++ [⟨entry.1, next, keys⟩]) ∈ taken ++ queue ∨
      ∃ found ∈ taken, found.1 = next ∧ NoLater successors found.2 entry.2 := by
  induction progress with
  | start => cases isTaken
  | @take taken rest latest progress induction =>
      rcases List.mem_cons.mp isTaken with rfl | isOlder
      · by_cases isVisited : next ∈ (entry :: taken).map Prod.fst
        · obtain ⟨found, isFound, sameNode⟩ := List.mem_map.mp isVisited
          refine Or.inr ⟨found, isFound, sameNode, ?_⟩
          rcases List.mem_cons.mp isFound with rfl | isOlder
          · exact Or.inl rfl
          · exact Or.inr (progress.taken_earlier distinct isOlder List.mem_cons_self)
        · left
          apply mem_take.mpr
          right
          exact mem_discoveries.mpr ⟨next, keys, isEdge, isVisited, rfl⟩
      · rcases induction isOlder with isKnown | ⟨found, isFound, sameNode, isBefore⟩
        · exact Or.inl (mem_take.mpr (Or.inl isKnown))
        · exact Or.inr ⟨found, List.mem_cons_of_mem _ isFound, sameNode, isBefore⟩

/-- The end of a walk that comes before all of the queue has been taken, with no later
walk. -/
theorem Progress.overtaken (distinct : Distinct successors)
    (progress : Progress successors start taken queue)
    (walk : Walk successors start node path)
    (isBefore : ∀ entry ∈ queue, Earlier successors path entry.2) :
    ∃ found ∈ taken, found.1 = node ∧ NoLater successors found.2 path := by
  induction walk with
  | nil =>
      rcases List.mem_append.mp progress.start_entry with isTaken | isQueued
      · exact ⟨_, isTaken, rfl, Or.inl rfl⟩
      · exact absurd (isBefore _ isQueued) Earlier.irrefl
  | @snoc node next keys path walk isEdge induction =>
      obtain ⟨found, isFound, rfl, noLater⟩ := induction fun entry isQueued =>
        earlier_append.trans (isBefore entry isQueued)
      rcases progress.followed distinct isFound isEdge with isKnown | ⟨other, isTaken,
        sameNode, noLater'⟩
      · rcases List.mem_append.mp isKnown with isTaken | isQueued
        · exact ⟨_, isTaken, rfl, noLater.extend⟩
        · exact absurd (isBefore _ isQueued) noLater.extend.not_earlier
      · have before : Earlier successors found.2 (path ++ [⟨found.1, next, keys⟩]) :=
          noLater.trans_earlier earlier_append
        exact ⟨other, isTaken, sameNode, Or.inr (noLater'.trans_earlier before)⟩

/-! ## Which nodes are taken twice -/

/-- Where the search stops: at the target, or with nothing left. -/
structure Stops (target : Node) (taken queue : List (Entry Node Keys)) : Prop where
  notTaken : target ∉ taken.map Prod.fst
  atEnd : ∀ entry rest, queue = entry :: rest → entry.1 = target

/-- Before the first walk to the target, no edge leads to a node from one before it but
the last one of the first walk to that node. -/
def Unshared (successors : Node → List (Node × Keys)) (start target : Node) : Prop :=
  ∀ node next keys path first, (next, keys) ∈ successors node →
    FirstWalk successors start node path → FirstWalk successors start next first →
    Earlier successors path first → first ≠ path ++ [⟨node, next, keys⟩] →
    ∃ found, FirstWalk successors start target found ∧
      Earlier successors found (path ++ [⟨node, next, keys⟩])

/-- The head of the queue comes first in it. -/
theorem Progress.queue_earlier (distinct : Distinct successors)
    (progress : Progress successors start taken (latest :: rest))
    (isBefore : Earlier successors path latest.2) :
    ∀ entry ∈ latest :: rest, Earlier successors path entry.2 := by
  intro entry isQueued
  rcases List.mem_cons.mp isQueued with rfl | isLater
  · exact isBefore
  · have inQueue := (List.pairwise_append.mp (progress.inOrder distinct)).2.1
    exact isBefore.trans (List.rel_of_pairwise_cons inQueue isLater)

/-- The first entry of a node that comes to the head of the queue is its first walk. -/
theorem Progress.firstWalk (distinct : Distinct successors)
    (progress : Progress successors start taken (latest :: rest))
    (isFirst : latest.1 ∉ taken.map Prod.fst) :
    FirstWalk successors start latest.1 latest.2 where
  walk := progress.walk (List.mem_append_right _ List.mem_cons_self)
  first := by
    intro other walk different
    have isWalk := progress.walk (List.mem_append_right _ List.mem_cons_self)
    rcases isWalk.trichotomy distinct walk with before | same | after
    · exact before
    · exact absurd same.symm different
    · obtain ⟨found, isTaken, sameNode, _⟩ := progress.overtaken distinct walk
        (progress.queue_earlier distinct after)
      exact absurd (List.mem_map.mpr ⟨found, isTaken, sameNode⟩) isFirst

/-- A first walk that comes before all of the queue has been taken. -/
theorem Progress.first_taken (distinct : Distinct successors)
    (progress : Progress successors start taken queue)
    (isFirst : FirstWalk successors start node path)
    (isBefore : ∀ entry ∈ queue, Earlier successors path entry.2) : (node, path) ∈ taken := by
  obtain ⟨found, isTaken, rfl, noLater⟩ := progress.overtaken distinct isFirst.walk isBefore
  rcases noLater with same | before
  · rw [← same]
    exact isTaken
  · exact absurd before (isFirst.not_earlier (progress.walk (List.mem_append_left _ isTaken)))

/-- An edge to a node that is not the first one to it, from a node before it, makes the
node be taken twice. -/
theorem Progress.taken_twice (distinct : Distinct successors)
    (progress : Progress successors start taken queue) {first : List (Hop Node Keys)}
    (isEdge : (next, keys) ∈ successors node) (isPath : FirstWalk successors start node path)
    (isFirst : FirstWalk successors start next first)
    (isBefore : Earlier successors path first) (isOther : first ≠ path ++ [⟨node, next, keys⟩])
    (isReached : ∀ entry ∈ queue, Earlier successors (path ++ [⟨node, next, keys⟩]) entry.2) :
    ¬ (taken.map Prod.fst).Nodup := by
  intro nodup
  have second := isPath.walk.snoc isEdge
  have order : Earlier successors first (path ++ [⟨node, next, keys⟩]) :=
    isFirst.first _ second (Ne.symm isOther)
  have nodeTaken : (node, path) ∈ taken := progress.first_taken distinct isPath
    fun entry isQueued => earlier_append.trans (isReached entry isQueued)
  have firstTaken : (next, first) ∈ taken := progress.first_taken distinct isFirst
    fun entry isQueued => order.trans (isReached entry isQueued)
  rcases progress.followed distinct nodeTaken isEdge with isKnown | ⟨found, isTaken, rfl,
    noLater⟩
  · rcases List.mem_append.mp isKnown with isTaken | isQueued
    · have same := List.inj_on_of_nodup_map nodup isTaken firstTaken rfl
      exact isOther (Prod.mk.inj same).2.symm
    · exact Earlier.irrefl (isReached _ isQueued)
  · exact isFirst.not_earlier (progress.walk (List.mem_append_left _ isTaken))
      (noLater.trans_earlier isBefore)

/-- Where no node has been taken twice, each came with its first walk. -/
theorem Progress.first_of_nodup (distinct : Distinct successors)
    (progress : Progress successors start taken queue) (nodup : (taken.map Prod.fst).Nodup)
    (isTaken : entry ∈ taken) : FirstWalk successors start entry.1 entry.2 where
  walk := progress.walk (List.mem_append_left _ isTaken)
  first := by
    intro other walk different
    have isWalk := progress.walk (List.mem_append_left queue isTaken)
    rcases isWalk.trichotomy distinct walk with before | same | after
    · exact before
    · exact absurd same.symm different
    · obtain ⟨found, isFound, sameNode, noLater⟩ := progress.overtaken distinct walk
        fun queued isQueued => after.trans (progress.taken_earlier distinct isTaken isQueued)
      rw [List.inj_on_of_nodup_map nodup isFound isTaken sameNode] at noLater
      exact absurd after noLater.not_earlier

theorem Progress.nodup_of_unshared (distinct : Distinct successors)
    (unshared : Unshared successors start target)
    (progress : Progress successors start taken queue)
    (notTaken : target ∉ taken.map Prod.fst) : (taken.map Prod.fst).Nodup := by
  induction progress with
  | start => simp
  | @take taken rest latest progress induction =>
      rw [List.map_cons, List.mem_cons, not_or] at notTaken
      have nodup := induction notTaken.2
      refine List.nodup_cons.mpr ⟨?_, nodup⟩
      intro isAgain
      obtain ⟨found, isFound, sameNode⟩ := List.mem_map.mp isAgain
      have order := progress.taken_earlier distinct isFound List.mem_cons_self
      have isKnown : latest ∈ taken ++ latest :: rest :=
        List.mem_append_right _ List.mem_cons_self
      rcases progress.origin distinct isKnown with rfl | ⟨before, isTaken, keys, isEdge, isPath,
        isNew⟩
      · exact List.not_shortlex_nil_right order
      · have isFirst := progress.first_of_nodup distinct nodup isFound
        rw [sameNode] at isFirst
        have isOther : found.2 ≠ before.2 ++ [⟨before.1, latest.1, keys⟩] := by
          intro same
          rw [← isPath] at same
          rw [same] at order
          exact Earlier.irrefl order
        obtain ⟨path, isTarget, beforeLatest⟩ := unshared before.1 latest.1 keys before.2
          found.2 isEdge (progress.first_of_nodup distinct nodup isTaken) isFirst
          (isNew found (List.mem_append_left _ isFound) sameNode) isOther
        rw [← isPath] at beforeLatest
        have targetTaken := progress.first_taken distinct isTarget
          (progress.queue_earlier distinct beforeLatest)
        exact notTaken.2 (List.mem_map.mpr ⟨_, targetTaken, rfl⟩)

/-- A search takes no node twice before it stops if and only if no edge is shared. -/
theorem Progress.nodup_iff (distinct : Distinct successors)
    (progress : Progress successors start taken queue) (stops : Stops target taken queue) :
    (taken.map Prod.fst).Nodup ↔ Unshared successors start target := by
  constructor
  · intro nodup node next keys path first isEdge isPath isFirst isBefore isOther
    by_contra notFound
    refine progress.taken_twice distinct isEdge isPath isFirst isBefore isOther ?_ nodup
    have second := isPath.walk.snoc isEdge
    cases queue with
    | nil => simp
    | cons latest rest =>
        have isTarget := stops.atEnd latest rest rfl
        have found := progress.firstWalk distinct (isTarget ▸ stops.notTaken)
        apply progress.queue_earlier distinct
        rcases second.trichotomy distinct found.walk with before | same | after
        · exact before
        · -- the edge leads to the target, but is not on the first walk to it
          obtain ⟨rfl, _⟩ := second.eq_of_places distinct found.walk (by rw [same])
          rw [same] at isOther second
          have order := isFirst.first _ second (Ne.symm isOther)
          exact absurd order (found.not_earlier isFirst.walk)
        · rw [isTarget] at found
          exact absurd ⟨_, found, after⟩ notFound
  · intro unshared
    exact progress.nodup_of_unshared distinct unshared stops.notTaken

end Queue

/-! ## What a run does -/

section Runs

variable (successors) in
/-- The nodes whose edges the loop of a search goes through, in order. -/
def expansions (target : Node) : ℕ → List (Entry Node Keys) → List Node → List Node
  | 0, _, _ => []
  | _ + 1, [], _ => []
  | fuel + 1, entry :: rest, visited =>
      if entry.1 = target then []
      else entry.1 :: expansions target fuel
        (rest ++ discoveries successors (entry.1 :: visited) entry) (entry.1 :: visited)

variable (successors) in
/-- How often the loop of a search takes an entry from the queue. -/
def iterations (target : Node) : ℕ → List (Entry Node Keys) → List Node → ℕ
  | 0, _, _ => 0
  | _ + 1, [], _ => 0
  | fuel + 1, entry :: rest, visited =>
      if entry.1 = target then 1
      else iterations target fuel
        (rest ++ discoveries successors (entry.1 :: visited) entry) (entry.1 :: visited) + 1

variable {taken queue : List (Entry Node Keys)}

/-- A run that ends has expanded what it has taken, one entry an iteration. -/
theorem search_stops {fuel : ℕ} (progress : Progress successors start taken queue)
    (notTaken : target ∉ taken.map Prod.fst)
    (ends : search successors target fuel queue (taken.map Prod.fst) = some path) :
    ∃ taken' queue', Progress successors start taken' queue' ∧ Stops target taken' queue' ∧
      taken'.map Prod.fst = (expansions successors target fuel queue
        (taken.map Prod.fst)).reverse ++ taken.map Prod.fst ∧
      taken.length + iterations successors target fuel queue (taken.map Prod.fst) ≤
        taken'.length + queue'.length := by
  induction fuel generalizing taken queue with
  | zero => cases ends
  | succ fuel induction =>
      cases queue with
      | nil =>
          exact ⟨taken, [], progress, ⟨notTaken, nofun⟩, rfl, Nat.le_refl _⟩
      | cons entry rest =>
          unfold search at ends
          unfold expansions iterations
          split at ends
          · next isTarget =>
              rw [if_pos isTarget, if_pos isTarget]
              refine ⟨taken, entry :: rest, progress, ⟨notTaken, ?_⟩, rfl, ?_⟩
              · intro first others isQueue
                cases isQueue
                exact isTarget
              · simp
          · next other =>
              rw [if_neg other, if_neg other]
              have stillNot : target ∉ (entry :: taken).map Prod.fst := by
                rw [List.map_cons, List.mem_cons, not_or]
                exact ⟨fun same => other same.symm, notTaken⟩
              obtain ⟨taken', queue', progress', stops, isTaken, bound⟩ :=
                induction progress.take stillNot ends
              refine ⟨taken', queue', progress', stops, ?_, ?_⟩
              · rw [isTaken]
                simp
              · simp only [List.length_cons, List.map_cons] at bound
                omega

/-- Each taken node has queued its edges at most. -/
theorem Progress.length_le (progress : Progress successors start taken queue) :
    taken.length + queue.length ≤
      ((taken.map Prod.fst).map fun node => (successors node).length).sum + 1 := by
  induction progress with
  | start => simp
  | @take taken rest latest _ induction =>
      have few : (discoveries successors ((latest :: taken).map Prod.fst) latest).length ≤
          (successors latest.1).length := by
        rw [discoveries, List.length_map]
        exact List.length_filter_le _ _
      simp only [List.length_cons, List.length_append, List.map_cons, List.sum_cons]
        at induction few ⊢
      omega

end Runs

end DbBuddy.Library.PathSearch
