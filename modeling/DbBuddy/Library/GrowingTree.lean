import Mathlib.Data.Set.Insert
import Mathlib.Logic.Relation

/-!
# Lists of edges that grow a tree

Edges are listed so that each starts where the list has already been: at one of
the given nodes, or where an earlier edge ends.
-/

namespace DbBuddy.Library

universe u v

variable {Edge : Type u} {Node : Type v} (source target : Edge → Node)

/-- Each edge starts in `scope` or at the end of an earlier one. -/
def Grows (scope : Set Node) : List Edge → Prop
  | [] => True
  | edge :: rest =>
      source edge ∈ scope ∧ Grows (insert (target edge) scope) rest

/-- Some edges of the list, one after the other, lead from a node to another. -/
def Leads (edges : List Edge) : Node → Node → Prop :=
  Relation.ReflTransGen fun node next =>
    ∃ edge ∈ edges, source edge = node ∧ target edge = next

variable {source target} {scope wider : Set Node} {edges : List Edge}

theorem Grows.mono (grows : Grows source target scope edges)
    (isWider : scope ⊆ wider) : Grows source target wider edges := by
  induction edges generalizing scope wider with
  | nil =>
      trivial
  | cons edge rest inductionHypothesis =>
      exact ⟨isWider grows.1,
        inductionHypothesis grows.2 (Set.insert_subset_insert isWider)⟩

theorem Grows.append {more : List Edge}
    (grows : Grows source target scope edges)
    (growsMore : Grows source target
      (scope ∪ {node | ∃ edge ∈ edges, target edge = node}) more) :
    Grows source target scope (edges ++ more) := by
  induction edges generalizing scope with
  | nil =>
      exact growsMore.mono (by simp)
  | cons edge rest inductionHypothesis =>
      refine ⟨grows.1, inductionHypothesis grows.2 (growsMore.mono ?_)⟩
      rintro node (inScope | ⟨edge', isEdge, rfl⟩)
      · exact Or.inl (Set.mem_insert_of_mem _ inScope)
      · rcases List.mem_cons.mp isEdge with rfl | later
        · exact Or.inl (Set.mem_insert _ _)
        · exact Or.inr ⟨edge', later, rfl⟩

/-- Edges may change in what is not an end. -/
theorem Grows.map {change : Edge → Edge}
    (sameSource : ∀ edge, source (change edge) = source edge)
    (sameTarget : ∀ edge, target (change edge) = target edge)
    (grows : Grows source target scope edges) :
    Grows source target scope (edges.map change) := by
  induction edges generalizing scope with
  | nil =>
      trivial
  | cons edge rest inductionHypothesis =>
      refine ⟨by rw [sameSource]; exact grows.1, ?_⟩
      rw [sameTarget]
      exact inductionHypothesis grows.2

/-- Only where the edges start and end matters. -/
theorem Grows.of_map {Item : Type*} {items : List Item} {make remake : Item → Edge}
    (sameSource : ∀ item, source (remake item) = source (make item))
    (sameTarget : ∀ item, target (remake item) = target (make item))
    (grows : Grows source target scope (items.map make)) :
    Grows source target scope (items.map remake) := by
  induction items generalizing scope with
  | nil =>
      trivial
  | cons item rest inductionHypothesis =>
      rw [List.map_cons] at grows ⊢
      refine ⟨sameSource item ▸ grows.1, ?_⟩
      rw [sameTarget]
      exact inductionHypothesis grows.2

/-- A node no edge starts at is not missed. -/
theorem Grows.without {node : Node}
    (grows : Grows source target (insert node scope) edges)
    (unused : ∀ edge ∈ edges, source edge ≠ node) :
    Grows source target scope edges := by
  induction edges generalizing scope with
  | nil =>
      trivial
  | cons edge rest inductionHypothesis =>
      refine ⟨?_, inductionHypothesis ?_ fun edge' later =>
        unused edge' (List.mem_cons_of_mem _ later)⟩
      · exact Set.mem_of_mem_insert_of_ne grows.1
          (unused edge List.mem_cons_self)
      · rw [Set.insert_comm]
        exact grows.2

/-- Where an edge starts, the list has been. -/
theorem Grows.earlier (grows : Grows source target scope edges)
    {front back : List Edge} {edge : Edge} (isAt : edges = front ++ edge :: back) :
    source edge ∈ scope ∨ ∃ edge' ∈ front, target edge' = source edge := by
  induction edges generalizing scope front with
  | nil =>
      simp at isAt
  | cons head rest inductionHypothesis =>
      cases front with
      | nil =>
          obtain ⟨rfl, _⟩ := List.cons.inj isAt
          exact Or.inl grows.1
      | cons first front =>
          obtain ⟨rfl, isRest⟩ := List.cons.inj isAt
          rcases inductionHypothesis grows.2 isRest with inScope | ⟨edge', isFront,
            sameNode⟩
          · rcases Set.mem_insert_iff.mp inScope with isHead | inScope
            · exact Or.inr ⟨head, List.mem_cons_self, isHead.symm⟩
            · exact Or.inl inScope
          · exact Or.inr ⟨edge', List.mem_cons_of_mem _ isFront, sameNode⟩

theorem Leads.mono {more : List Edge} {node last : Node}
    (leads : Leads source target edges node last) (isMore : edges ⊆ more) :
    Leads source target more node last := by
  refine Relation.ReflTransGen.mono ?_ _ _ leads
  rintro _ _ ⟨edge, isEdge, isEdgeOf⟩
  exact ⟨edge, isMore isEdge, isEdgeOf⟩

end DbBuddy.Library
