import Mathlib.Data.List.Nodup
import Mathlib.Data.Rat.Floor
import Mathlib.Data.List.Dedup

/-!
# Sorted sets

The commands of a Redis-style sorted set that a sliding window or a lease table
is built from.  A set is the list of its `(member, score)` entries; the commands
keep the members distinct.
-/

namespace DbBuddy.Library

universe u

/-- The entries of a sorted set. -/
abbrev SortedSet (Member : Type u) := List (Member × ℚ)

namespace SortedSet

variable {Member : Type u}

/-- `ZREMRANGEBYSCORE key low high`: both ends are inclusive. -/
def zremrangebyscore (low high : ℚ) (entries : SortedSet Member) :
    SortedSet Member :=
  entries.filter fun entry => !(low ≤ entry.2 && entry.2 ≤ high)

/-- `ZCARD key`. -/
def zcard (entries : SortedSet Member) : Nat :=
  entries.length

variable [DecidableEq Member]

/-- `ZREM key member`. -/
def zrem (member : Member) (entries : SortedSet Member) : SortedSet Member :=
  entries.filter fun entry => entry.1 ≠ member

/-- `ZADD key score member`: an existing member gets the new score. -/
def zadd (member : Member) (score : ℚ) (entries : SortedSet Member) :
    SortedSet Member :=
  (member, score) :: zrem member entries

omit [DecidableEq Member] in
@[simp]
theorem mem_zremrangebyscore {low high : ℚ} {entries : SortedSet Member}
    {entry : Member × ℚ} :
    entry ∈ zremrangebyscore low high entries ↔
      entry ∈ entries ∧ ¬ (low ≤ entry.2 ∧ entry.2 ≤ high) := by
  simp only [zremrangebyscore, List.mem_filter, Bool.not_eq_true',
    Bool.and_eq_false_iff, decide_eq_false_iff_not]
  tauto

@[simp]
theorem mem_zrem {member : Member} {entries : SortedSet Member}
    {entry : Member × ℚ} :
    entry ∈ zrem member entries ↔ entry ∈ entries ∧ entry.1 ≠ member := by
  simp [zrem]

@[simp]
theorem mem_zadd {member : Member} {score : ℚ} {entries : SortedSet Member}
    {entry : Member × ℚ} :
    entry ∈ zadd member score entries ↔
      entry = (member, score) ∨ (entry ∈ entries ∧ entry.1 ≠ member) := by
  simp [zadd]

omit [DecidableEq Member] in
/-- A prune whose range covers every score leaves nothing. -/
theorem zremrangebyscore_eq_nil {low high : ℚ} {entries : SortedSet Member}
    (covered : ∀ entry ∈ entries, low ≤ entry.2 ∧ entry.2 ≤ high) :
    zremrangebyscore low high entries = [] := by
  rw [List.eq_nil_iff_forall_not_mem]
  intro entry member
  rw [mem_zremrangebyscore] at member
  exact member.2 (covered entry member.1)

end SortedSet

end DbBuddy.Library
