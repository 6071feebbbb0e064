import Mathlib.Data.List.Sort
import Mathlib.Logic.Function.Basic

/-!
# Lists whose entries carry their rank

A list is ranked when the ranks of its entries are `0, …, n - 1` in some order; it is
shown in the order of the ranks.  Which entries may go, and how ranks are given anew.
-/

namespace DbBuddy.Library

universe u

section Ranked

variable {Item : Type u} {rank other : Item → ℕ} {items : List Item}

/-- The entries in the order of their ranks. -/
def inOrder (rank : Item → ℕ) (items : List Item) : List Item :=
  items.insertionSort fun first second => rank first ≤ rank second

/-- The ranks are `0, …, n - 1`. -/
def Ranked (rank : Item → ℕ) (items : List Item) : Prop :=
  (items.map rank).Perm (List.range items.length)

theorem inOrder_perm (rank : Item → ℕ) (items : List Item) :
    (inOrder rank items).Perm items :=
  List.perm_insertionSort _ items

theorem pairwise_inOrder (rank : Item → ℕ) (items : List Item) :
    ((inOrder rank items).map rank).Pairwise (· ≤ ·) := by
  have total : Std.Total fun first second : Item => rank first ≤ rank second :=
    ⟨fun first second => Nat.le_total (rank first) (rank second)⟩
  have transitive : IsTrans Item fun first second => rank first ≤ rank second :=
    ⟨fun _ _ _ first second => Nat.le_trans first second⟩
  rw [List.pairwise_map]
  exact List.pairwise_insertionSort _ items

/-- Ranked entries are shown as `0, …, n - 1`, and only they are. -/
theorem ranked_iff :
    Ranked rank items ↔ (inOrder rank items).map rank = List.range items.length := by
  have same := (inOrder_perm rank items).map rank
  constructor
  · intro ranked
    refine List.Perm.eq_of_pairwise' (pairwise_inOrder rank items) ?_
      (same.trans ranked)
    exact List.pairwise_le_range
  · intro shown
    unfold Ranked
    rw [← shown]
    exact same.symm

theorem Ranked.perm {shuffled : List Item} (ranked : Ranked rank items)
    (same : shuffled.Perm items) : Ranked rank shuffled := by
  unfold Ranked
  rw [same.length_eq]
  exact (same.map rank).trans ranked

theorem Ranked.congr (ranked : Ranked rank items)
    (same : ∀ item ∈ items, other item = rank item) : Ranked other items := by
  unfold Ranked
  rw [List.map_congr_left same]
  exact ranked

theorem ranked_nil : Ranked rank [] :=
  List.Perm.refl _

theorem Ranked.append (ranked : Ranked rank items) {new : Item}
    (last : rank new = items.length) : Ranked rank (items ++ [new]) := by
  unfold Ranked
  rw [List.map_append, List.length_append, List.length_singleton, List.range_succ,
    List.map_singleton, last]
  exact List.Perm.append_right _ ranked

/-- What goes may stand last in the order only. -/
theorem Ranked.filter (ranked : Ranked rank items) {keep : Item → Bool}
    (last : (inOrder rank items).filter keep <+: inOrder rank items) :
    Ranked rank (items.filter keep) := by
  have shown := ranked_iff.mp ranked
  have kept : ((inOrder rank items).filter keep).map rank =
      List.range ((inOrder rank items).filter keep).length := by
    have front := last.map rank
    rw [shown, List.prefix_iff_eq_take, List.take_range, List.length_map] at front
    have shorter : ((inOrder rank items).filter keep).length ≤ items.length := by
      have le := last.length_le
      rwa [(inOrder_perm rank items).length_eq] at le
    rwa [Nat.min_eq_left shorter] at front
  have ofOrder : Ranked rank ((inOrder rank items).filter keep) := by
    unfold Ranked
    rw [kept]
  exact ofOrder.perm ((inOrder_perm rank items).filter keep).symm

end Ranked

/-! ## Ranks given anew -/

section Assign

variable {Key : Type u} [DecidableEq Key]

/-- `for index, key in enumerate(keys): rank[key] = index` -/
def assignRanks (rank : Key → ℕ) : List Key → ℕ → Key → ℕ
  | [], _ => rank
  | key :: rest, index =>
      assignRanks (Function.update rank key index) rest (index + 1)

theorem assignRanks_of_notMem {keys : List Key} {key : Key} (absent : key ∉ keys)
    (rank : Key → ℕ) (index : ℕ) : assignRanks rank keys index key = rank key := by
  induction keys generalizing rank index with
  | nil =>
      rfl
  | cons first rest inductionHypothesis =>
      rw [List.mem_cons, not_or] at absent
      rw [assignRanks, inductionHypothesis absent.2, Function.update_of_ne absent.1]

theorem map_assignRanks {keys : List Key} (nodup : keys.Nodup) (rank : Key → ℕ)
    (index : ℕ) :
    keys.map (assignRanks rank keys index) = List.range' index keys.length := by
  induction keys generalizing rank index with
  | nil =>
      rfl
  | cons first rest inductionHypothesis =>
      obtain ⟨absent, restNodup⟩ := List.nodup_cons.mp nodup
      rw [List.map_cons, List.length_cons, List.range'_succ, assignRanks,
        assignRanks_of_notMem absent, Function.update_self,
        inductionHypothesis restNodup]

/-- Entries whose keys are numbered through are ranked. -/
theorem ranked_assignRanks {Item : Type u} {key : Item → Key} {items : List Item}
    {keys : List Key} (nodup : keys.Nodup) (same : (items.map key).Perm keys)
    (rank : Key → ℕ) :
    Ranked (fun item => assignRanks rank keys 0 (key item)) items := by
  have numbered := map_assignRanks nodup rank 0
  have length : keys.length = items.length := by
    rw [← same.length_eq, List.length_map]
  have renamed := same.map (assignRanks rank keys 0)
  rw [List.map_map, numbered, length, ← List.range_eq_range'] at renamed
  exact renamed

end Assign

end DbBuddy.Library
