import DbBuddy.Library.Dict

/-!
# Items gathered under keys

A loop that adds each item to the value of its key, with a default for a new key, leaves under
every key what its own items make, whatever stands between them.  Also how a stable sort keeps
an order that the list had before.
-/

namespace DbBuddy.Library

universe u v w

/-! ## Gathering -/

section Gathering

variable {Key : Type u} {Value : Type v} {Item : Type w} [DecidableEq Key]

/-- The items of one key, in their order. -/
def itemsOf (key : Key) (items : List (Key × Item)) : List Item :=
  items.filterMap fun entry => if entry.1 = key then some entry.2 else none

/-- `dict[key] = add(dict[key], item)`, for each item in turn. -/
def gather (blank : Value) (add : Value → Item → Value) :
    List (Key × Item) → Dict Key Value → Dict Key Value
  | [], dict => dict
  | (key, item) :: rest, dict =>
      gather blank add rest (dict.assign key (add ((dict.lookup key).getD blank) item))

variable {blank : Value} {add : Value → Item → Value}

theorem itemsOf_cons_self (key : Key) (item : Item) (rest : List (Key × Item)) :
    itemsOf key ((key, item) :: rest) = item :: itemsOf key rest := by
  simp [itemsOf]

theorem itemsOf_cons_of_ne {key other : Key} (different : other ≠ key) (item : Item)
    (rest : List (Key × Item)) : itemsOf key ((other, item) :: rest) = itemsOf key rest := by
  simp [itemsOf, different]

theorem mem_itemsOf {key : Key} {item : Item} {items : List (Key × Item)} :
    item ∈ itemsOf key items ↔ (key, item) ∈ items := by
  simp only [itemsOf, List.mem_filterMap, Option.ite_none_right_eq_some, Option.some.injEq]
  constructor
  · rintro ⟨entry, isIn, rfl, rfl⟩
    exact isIn
  · intro isIn
    exact ⟨(key, item), isIn, rfl, rfl⟩

theorem itemsOf_flatMap {Source : Type*} (key : Key) (sources : List Source)
    (items : Source → List (Key × Item)) :
    itemsOf key (sources.flatMap items) =
      sources.flatMap fun source => itemsOf key (items source) := by
  induction sources with
  | nil => rfl
  | cons source rest inductionHypothesis =>
      rw [List.flatMap_cons, List.flatMap_cons, ← inductionHypothesis]
      exact List.filterMap_append

/-- A key without items keeps its value. -/
theorem lookup_gather_of_nil {key : Key} {items : List (Key × Item)} {dict : Dict Key Value}
    (noItems : itemsOf key items = []) :
    (gather blank add items dict).lookup key = dict.lookup key := by
  induction items generalizing dict with
  | nil => rfl
  | cons entry rest inductionHypothesis =>
      obtain ⟨other, item⟩ := entry
      by_cases same : other = key
      · rw [same, itemsOf_cons_self] at noItems
        cases noItems
      · rw [itemsOf_cons_of_ne same] at noItems
        rw [gather, inductionHypothesis noItems, Dict.lookup_assign_of_ne (Ne.symm same)]

/-- A key with items has what they make of its value, one after the other. -/
theorem lookup_gather_of_cons {key : Key} {items : List (Key × Item)} {dict : Dict Key Value}
    (someItems : itemsOf key items ≠ []) :
    (gather blank add items dict).lookup key =
      some ((itemsOf key items).foldl add ((dict.lookup key).getD blank)) := by
  induction items generalizing dict with
  | nil => exact absurd rfl someItems
  | cons entry rest inductionHypothesis =>
      obtain ⟨other, item⟩ := entry
      by_cases same : other = key
      · subst same
        rw [itemsOf_cons_self, List.foldl_cons, gather]
        by_cases noMore : itemsOf other rest = []
        · rw [lookup_gather_of_nil noMore, Dict.lookup_assign_self, noMore, List.foldl_nil]
        · rw [inductionHypothesis noMore, Dict.lookup_assign_self, Option.getD_some]
      · rw [itemsOf_cons_of_ne same] at someItems
        rw [itemsOf_cons_of_ne same, gather, inductionHypothesis someItems,
          Dict.lookup_assign_of_ne (Ne.symm same)]

/-- What stands under a key in the end, where nothing stood at first. -/
theorem lookup_gather_empty {key : Key} {items : List (Key × Item)} {value : Value} :
    (gather blank add items ∅).lookup key = some value ↔
      itemsOf key items ≠ [] ∧ (itemsOf key items).foldl add blank = value := by
  by_cases noItems : itemsOf key items = []
  · rw [lookup_gather_of_nil noItems, AList.lookup_empty]
    simp [noItems]
  · rw [lookup_gather_of_cons noItems, AList.lookup_empty, Option.getD_none, Option.some.injEq]
    simp [noItems]

end Gathering

/-! ## Sorting twice -/

section Sorting

variable {Item : Type u} {atMost : Item → Item → Bool} {before : Item → Item → Prop}

/-- A stable sort leaves those that it does not tell apart as they stood. -/
theorem pairwise_mergeSort_stable
    (trans : ∀ first second third, atMost first second → atMost second third →
      atMost first third)
    (total : ∀ first second, atMost first second || atMost second first)
    {items : List Item} (ordered : items.Pairwise before) :
    (items.mergeSort atMost).Pairwise fun first second =>
      atMost first second = true ∧ (atMost second first = true → before first second) := by
  induction items with
  | nil =>
      rw [List.mergeSort_nil]
      exact List.Pairwise.nil
  | cons item rest inductionHypothesis =>
      obtain ⟨first, restOrdered⟩ := List.pairwise_cons.mp ordered
      obtain ⟨front, back, isSorted, isRest, larger⟩ :=
        List.mergeSort_cons trans total item rest
      have sorted := List.pairwise_mergeSort trans total (item :: rest)
      have kept := inductionHypothesis restOrdered
      rw [isSorted] at sorted ⊢
      rw [isRest] at kept
      obtain ⟨frontKept, backKept, across⟩ := List.pairwise_append.mp kept
      obtain ⟨_, behind, _⟩ := List.pairwise_append.mp sorted
      have inRest : ∀ other ∈ back, other ∈ rest := by
        intro other isIn
        have inSorted : other ∈ rest.mergeSort atMost := by
          rw [isRest]
          exact List.mem_append_right front isIn
        exact List.mem_mergeSort.mp inSorted
      refine List.pairwise_append.mpr ⟨frontKept, List.pairwise_cons.mpr ⟨?_, backKept⟩, ?_⟩
      · intro other isIn
        exact ⟨(List.pairwise_cons.mp behind).1 other isIn,
          fun _ => first other (inRest other isIn)⟩
      · intro other isIn next inBack
        rcases List.mem_cons.mp inBack with rfl | isBehind
        · have notAtMost : atMost next other = false := by
            simpa using larger other isIn
          have isAtMost := total other next
          rw [notAtMost, Bool.or_false] at isAtMost
          exact ⟨isAtMost, fun isLess => by rw [notAtMost] at isLess; cases isLess⟩
        · exact across other isIn next isBehind

end Sorting

end DbBuddy.Library
