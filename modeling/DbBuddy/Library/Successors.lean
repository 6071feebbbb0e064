import Mathlib.Data.List.Nodup
import Mathlib.Logic.Relation

/-!
# Following single links

Every node has at most one successor.  A walk follows the successors from a node
while they pass a test and have not been met; it is the longest such start of the
path from that node.  When no path closes, a walk without a test meets every node
that can be reached.
-/

namespace DbBuddy.Library

universe u

variable {Node : Type u}

/-- No node can be reached from itself. -/
def Acyclic (links : Node → Node → Prop) : Prop :=
  ∀ node, ¬ Relation.TransGen links node node

theorem Acyclic.mono {links fewer : Node → Node → Prop} (acyclic : Acyclic links)
    (older : ∀ first second, fewer first second → links first second) :
    Acyclic fewer := by
  intro node closed
  exact acyclic node (Relation.TransGen.mono older node node closed)

/-- A path over one new link was there, or leads over the link. -/
theorem path_of_new_link {links more : Node → Node → Prop} {source target : Node}
    (new : ∀ first second, more first second →
      links first second ∨ first = source ∧ second = target)
    {first last : Node} (path : Relation.TransGen more first last) :
    Relation.TransGen links first last ∨
      Relation.ReflTransGen links first source ∧
        Relation.ReflTransGen links target last := by
  induction path with
  | single link =>
      rcases new _ _ link with older | ⟨rfl, rfl⟩
      · exact Or.inl (Relation.TransGen.single older)
      · exact Or.inr ⟨Relation.ReflTransGen.refl, Relation.ReflTransGen.refl⟩
  | tail _ link inductionHypothesis =>
      rcases new _ _ link with older | ⟨rfl, rfl⟩
      · rcases inductionHypothesis with within | ⟨before, after⟩
        · exact Or.inl (within.tail older)
        · exact Or.inr ⟨before, after.tail older⟩
      · rcases inductionHypothesis with within | ⟨before, _⟩
        · exact Or.inr ⟨within.to_reflTransGen, Relation.ReflTransGen.refl⟩
        · exact Or.inr ⟨before, Relation.ReflTransGen.refl⟩

/-- A new link closes no path when its source is out of reach of its target. -/
theorem Acyclic.newLink {links more : Node → Node → Prop} {source target : Node}
    (acyclic : Acyclic links) (noWay : ¬ Relation.ReflTransGen links target source)
    (new : ∀ first second, more first second →
      links first second ∨ first = source ∧ second = target) : Acyclic more := by
  intro node closed
  rcases path_of_new_link new closed with within | ⟨before, after⟩
  · exact acyclic node within
  · exact noWay (after.trans before)

/-! ## Paths and walks -/

variable (next : Node → Option Node)

def Links (first second : Node) : Prop :=
  next first = some second

/-- The nodes begin the path from `start`. -/
def Follows : Option Node → List Node → Prop
  | _, [] => True
  | start, node :: rest => start = some node ∧ Follows (next node) rest

/-- Of the lists with a property, one that all others begin. -/
def IsLongest (property : List Node → Prop) (path : List Node) : Prop :=
  property path ∧ ∀ other, property other → other <+: path

variable [DecidableEq Node] (test : Node → Bool)

/-- Follow the successors; nothing when the fuel does not last. -/
def walk : ℕ → List Node → Node → Option (List Node)
  | 0, _, _ => none
  | fuel + 1, visited, node =>
      if test node = false ∨ node ∈ visited then some []
      else match next node with
        | none => some [node]
        | some later => (walk fuel (node :: visited) later).map (node :: ·)

/-- Follow the successors in search of a node. -/
def meets (target : Node) : ℕ → List Node → Node → Option Bool
  | 0, _, _ => none
  | fuel + 1, visited, node =>
      if node = target then some true
      else if node ∈ visited then some false
      else match next node with
        | none => some false
        | some later => meets target fuel (node :: visited) later

/-- The nodes that are still to be met. -/
def unseen (nodes visited : List Node) : List Node :=
  nodes.filter fun node => decide (node ∉ visited)

theorem unseen_lt {nodes visited : List Node} {node : Node} (isNode : node ∈ nodes)
    (new : node ∉ visited) :
    (unseen nodes (node :: visited)).length < (unseen nodes visited).length := by
  have fewer : unseen nodes (node :: visited) =
      (unseen nodes visited).filter fun other => decide (other ≠ node) := by
    simp only [unseen, List.filter_filter]
    refine List.filter_congr ?_
    intro other _
    simp [not_or]
  rw [fewer]
  refine List.length_filter_lt_length_iff_exists.mpr ⟨node, ?_, by simp⟩
  exact List.mem_filter.mpr ⟨isNode, decide_eq_true new⟩

section Walks

variable {next test} {nodes visited : List Node} {node : Node} {path : List Node}

/-- The fuel lasts when it exceeds the number of nodes still to be met. -/
theorem walk_isSome
    (closed : ∀ first second, Links next first second → second ∈ nodes)
    {fuel : ℕ} (isNode : node ∈ nodes)
    (lasts : (unseen nodes visited).length < fuel) :
    (walk next test fuel visited node).isSome = true := by
  induction fuel generalizing visited node with
  | zero => omega
  | succ fuel inductionHypothesis =>
      by_cases stops : test node = false ∨ node ∈ visited
      · simp [walk, stops]
      · simp only [walk, if_neg stops]
        cases isNext : next node with
        | none => rfl
        | some later =>
            have fewer := unseen_lt isNode (fun seen => stops (Or.inr seen))
            rw [Option.isSome_map]
            exact inductionHypothesis (closed node later isNext) (by omega)

theorem meets_isSome {target : Node}
    (closed : ∀ first second, Links next first second → second ∈ nodes)
    {fuel : ℕ} (isNode : node ∈ nodes)
    (lasts : (unseen nodes visited).length < fuel) :
    (meets next target fuel visited node).isSome = true := by
  induction fuel generalizing visited node with
  | zero => omega
  | succ fuel inductionHypothesis =>
      by_cases found : node = target
      · simp [meets, found]
      · by_cases seen : node ∈ visited
        · simp [meets, found, seen]
        · simp only [meets, if_neg found, if_neg seen]
          cases isNext : next node with
          | none => rfl
          | some later =>
              have fewer := unseen_lt isNode seen
              exact inductionHypothesis (closed node later isNext) (by omega)

/-- More fuel makes no difference. -/
theorem walk_succ {fuel : ℕ} (done : walk next test fuel visited node = some path) :
    walk next test (fuel + 1) visited node = some path := by
  induction fuel generalizing visited node path with
  | zero => cases done
  | succ fuel inductionHypothesis =>
      rw [walk] at done ⊢
      by_cases stops : test node = false ∨ node ∈ visited
      · rwa [if_pos stops] at done ⊢
      · rw [if_neg stops] at done ⊢
        cases isNext : next node with
        | none => simpa only [isNext] using done
        | some later =>
            simp only [isNext] at done ⊢
            obtain ⟨rest, isRest, rfl⟩ := Option.map_eq_some_iff.mp done
            rw [inductionHypothesis isRest]
            rfl

theorem walk_of_le {fuel more : ℕ} (enough : fuel ≤ more)
    (done : walk next test fuel visited node = some path) :
    walk next test more visited node = some path := by
  obtain ⟨extra, rfl⟩ := Nat.exists_eq_add_of_le enough
  clear enough
  induction extra with
  | zero => exact done
  | succ extra inductionHypothesis => exact walk_succ inductionHypothesis

theorem walk_follows {fuel : ℕ} (done : walk next test fuel visited node = some path) :
    Follows next (some node) path ∧ path.Nodup ∧
      ∀ member ∈ path, test member = true ∧ member ∉ visited := by
  induction fuel generalizing visited node path with
  | zero => cases done
  | succ fuel inductionHypothesis =>
      rw [walk] at done
      by_cases stops : test node = false ∨ node ∈ visited
      · rw [if_pos stops] at done
        cases done
        exact ⟨trivial, List.nodup_nil, by simp⟩
      · rw [if_neg stops] at done
        obtain ⟨passes, new⟩ := not_or.mp stops
        have isTested : test node = true := by simpa using passes
        cases isNext : next node with
        | none =>
            simp only [isNext] at done
            cases done
            exact ⟨⟨rfl, trivial⟩, List.nodup_singleton node, by simp [isTested, new]⟩
        | some later =>
            simp only [isNext] at done
            obtain ⟨rest, isRest, rfl⟩ := Option.map_eq_some_iff.mp done
            obtain ⟨follows, nodup, tested⟩ := inductionHypothesis isRest
            refine ⟨⟨rfl, by rw [isNext]; exact follows⟩, ?_, ?_⟩
            · refine List.nodup_cons.mpr ⟨?_, nodup⟩
              intro again
              exact (tested node again).2 List.mem_cons_self
            · intro member isMember
              rcases List.mem_cons.mp isMember with rfl | isLater
              · exact ⟨isTested, new⟩
              · obtain ⟨isTested, notSeen⟩ := tested member isLater
                exact ⟨isTested, fun seen => notSeen (List.mem_cons_of_mem _ seen)⟩

/-- No start of the path goes on past the end of a walk. -/
theorem walk_maximal {fuel : ℕ} (done : walk next test fuel visited node = some path)
    {other : List Node} (follows : Follows next (some node) other)
    (nodup : other.Nodup)
    (tested : ∀ member ∈ other, test member = true ∧ member ∉ visited) :
    other <+: path := by
  induction fuel generalizing visited node path other with
  | zero => cases done
  | succ fuel inductionHypothesis =>
      cases other with
      | nil => exact List.nil_prefix
      | cons first rest =>
          obtain ⟨isFirst, follows⟩ := follows
          cases isFirst
          obtain ⟨isTested, new⟩ := tested node List.mem_cons_self
          have goesOn : ¬ (test node = false ∨ node ∈ visited) := by
            simp [isTested, new]
          rw [walk, if_neg goesOn] at done
          cases isNext : next node with
          | none =>
              simp only [isNext] at done follows
              cases done
              cases rest with
              | nil => exact List.prefix_rfl
              | cons second others => cases follows.1
          | some later =>
              simp only [isNext] at done follows
              obtain ⟨walked, isWalked, rfl⟩ := Option.map_eq_some_iff.mp done
              obtain ⟨notAgain, nodup⟩ := List.nodup_cons.mp nodup
              refine List.cons_prefix_cons.mpr ⟨rfl, ?_⟩
              refine inductionHypothesis isWalked follows nodup ?_
              intro member isMember
              obtain ⟨isTested, notSeen⟩ := tested member (List.mem_cons_of_mem _ isMember)
              refine ⟨isTested, ?_⟩
              intro seen
              rcases List.mem_cons.mp seen with rfl | older
              · exact notAgain isMember
              · exact notSeen older

theorem walk_isLongest {fuel : ℕ} (done : walk next test fuel [] node = some path) :
    IsLongest (fun path => Follows next (some node) path ∧ path.Nodup ∧
      ∀ member ∈ path, test member = true) path := by
  obtain ⟨follows, nodup, tested⟩ := walk_follows done
  refine ⟨⟨follows, nodup, fun member isMember => (tested member isMember).1⟩, ?_⟩
  intro other ⟨otherFollows, otherNodup, otherTested⟩
  refine walk_maximal done otherFollows otherNodup ?_
  intro member isMember
  exact ⟨otherTested member isMember, List.not_mem_nil⟩

/-- What can be reached is met. -/
theorem meets_of_reaches {target : Node} (acyclic : Acyclic (Links next))
    {fuel : ℕ} {found : Bool}
    (reaches : Relation.ReflTransGen (Links next) node target)
    (behind : ∀ member ∈ visited, Relation.TransGen (Links next) member node)
    (done : meets next target fuel visited node = some found) : found = true := by
  induction fuel generalizing visited node with
  | zero => cases done
  | succ fuel inductionHypothesis =>
      rw [meets] at done
      by_cases isTarget : node = target
      · rw [if_pos isTarget] at done
        cases done
        rfl
      · have new : node ∉ visited := fun seen => acyclic node (behind node seen)
        rw [if_neg isTarget, if_neg new] at done
        rcases Relation.ReflTransGen.cases_head reaches with same | ⟨later, link, onward⟩
        · exact absurd same isTarget
        · have isNext : next node = some later := link
          simp only [isNext] at done
          refine inductionHypothesis onward ?_ done
          intro member isMember
          rcases List.mem_cons.mp isMember with rfl | older
          · exact Relation.TransGen.single link
          · exact (behind member older).tail link

end Walks

end DbBuddy.Library
