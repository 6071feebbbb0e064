import Mathlib.Data.List.Basic

/-!
# Fields joined with a separator

A list of texts joined with one character.  What the joined text keeps is its
pieces between the separators: where a separator stands inside a field, it does
not keep which field that was.
-/

namespace DbBuddy.Library

universe u v

/-- `sep.join(fields)` -/
def joinFields (sep : Char) : List String → String
  | [] => ""
  | [field] => field
  | field :: next :: rest =>
      field ++ String.singleton sep ++ joinFields sep (next :: rest)

/-- The parts of a text between the separators. -/
def cutAt (sep : Char) (text : String) : List (List Char) :=
  text.toList.splitOn sep

/-- The parts of all fields, in order. -/
def pieces (sep : Char) (fields : List String) : List (List Char) :=
  fields.flatMap (cutAt sep)

section Fields

variable {sep : Char} {fields others : List String}

theorem cutAt_append (left right : String) :
    cutAt sep (left ++ String.singleton sep ++ right) =
      cutAt sep left ++ cutAt sep right := by
  unfold cutAt
  rw [String.toList_append, String.toList_append, String.toList_singleton,
    List.append_assoc, List.singleton_append, List.splitOn_append_cons_self]

theorem cutAt_joinFields (nonempty : fields ≠ []) :
    cutAt sep (joinFields sep fields) = pieces sep fields := by
  induction fields with
  | nil =>
      exact absurd rfl nonempty
  | cons field rest inductionHypothesis =>
      cases rest with
      | nil =>
          simp [joinFields, pieces]
      | cons next rest =>
          have later := inductionHypothesis (List.cons_ne_nil next rest)
          rw [joinFields, cutAt_append, later]
          rfl

theorem cutAt_injective : Function.Injective (cutAt sep) := by
  intro text other same
  have joined : [sep].intercalate (cutAt sep text) = text.toList :=
    List.intercalate_splitOn sep
  have otherJoined : [sep].intercalate (cutAt sep other) = other.toList :=
    List.intercalate_splitOn sep
  apply String.toList_injective
  rw [← joined, ← otherJoined, same]

/-- A joined text is known by its pieces, and knows no more. -/
theorem joinFields_eq_iff (nonempty : fields ≠ []) (othersNonempty : others ≠ []) :
    joinFields sep fields = joinFields sep others ↔
      pieces sep fields = pieces sep others := by
  rw [← cutAt_joinFields nonempty, ← cutAt_joinFields othersNonempty]
  exact cutAt_injective.eq_iff.symm

end Fields

/-- Lists that flatten to the same list are the same where each entry contributes as
much to both. -/
theorem eq_of_flatMap_eq {α : Type u} {β : Type v} {parts : α → List β}
    (injective : Function.Injective parts) {left right : List α}
    (same : left.flatMap parts = right.flatMap parts)
    (counts : left.map (fun entry => (parts entry).length) =
      right.map fun entry => (parts entry).length) : left = right := by
  induction left generalizing right with
  | nil =>
      have noEntry : right.map (fun entry => (parts entry).length) = [] := counts.symm
      exact (List.map_eq_nil_iff.mp noEntry).symm
  | cons entry rest inductionHypothesis =>
      cases right with
      | nil =>
          cases counts
      | cons other later =>
          simp only [List.map_cons, List.cons.injEq] at counts
          simp only [List.flatMap_cons] at same
          have split := List.append_inj same counts.1
          rw [injective split.1, inductionHypothesis split.2 counts.2]

end DbBuddy.Library
