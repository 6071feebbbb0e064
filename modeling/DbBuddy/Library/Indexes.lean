import DbBuddy.Library.Gathering

/-!
# Indexes

An index keeps under each key the items that came with it, every item once and in the order of
their coming.  A search of what stands under a key finds what a search of all the entries finds.
-/

namespace DbBuddy.Library

universe u v w

/-! ## Items that are preferred -/

section Preferred

variable {Item : Type u} {test : Item → Bool} {items : List Item}

/-- The first item that passes a test, else the first one. -/
def preferred (test : Item → Bool) (items : List Item) : Option Item :=
  (items.find? test).or items.head?

theorem mem_of_preferred {item : Item} (isPreferred : preferred test items = some item) :
    item ∈ items := by
  rcases Option.or_eq_some_iff.mp isPreferred with isFound | ⟨_, isFirst⟩
  · exact List.mem_of_find?_eq_some isFound
  · exact List.mem_of_head? isFirst

theorem preferred_eq_none : preferred test items = none ↔ items = [] := by
  constructor
  · intro noItem
    exact List.head?_eq_none_iff.mp (Option.or_eq_none_iff.mp noItem).2
  · intro isNil
    rw [isNil]
    rfl

theorem head?_eq_find? (items : List Item) : items.head? = items.find? fun _ => true := by
  cases items with
  | nil => rfl
  | cons item rest => rfl

/-- What no search tells apart has the same preferred item. -/
theorem preferred_congr {others : List Item}
    (same : ∀ test : Item → Bool, items.find? test = others.find? test) :
    preferred test items = preferred test others := by
  rw [preferred, preferred, head?_eq_find?, head?_eq_find?, same, same]

/-- Items that come several times in a row are found as if each came once. -/
theorem find?_flatMap_same {Source : Type*} {copies : Source → List Item}
    {item : Source → Item} (same : ∀ source, ∀ other ∈ copies source, other = item source)
    (sources : List Source) (test : Item → Bool) :
    (sources.flatMap copies).find? test =
      ((sources.filter fun source => !(copies source).isEmpty).map item).find? test := by
  induction sources with
  | nil => rfl
  | cons source rest inductionHypothesis =>
      rw [List.flatMap_cons, List.find?_append, inductionHypothesis]
      cases isCopies : copies source with
      | nil => rw [List.filter_cons_of_neg (by simp [isCopies]), List.find?_nil, Option.none_or]
      | cons first others =>
          have isFirst : first = item source :=
            same source first (by rw [isCopies]; exact List.mem_cons_self)
          rw [List.filter_cons_of_pos (by simp [isCopies]), List.map_cons]
          by_cases passes : test (item source) = true
          · rw [List.find?_cons_of_pos (by rw [isFirst]; exact passes),
              List.find?_cons_of_pos passes, isFirst]
            rfl
          · have noCopy : (first :: others).find? test = none := by
              apply List.find?_eq_none.mpr
              intro other isIn
              rw [same source other (by rw [isCopies]; exact isIn)]
              exact passes
            rw [noCopy, List.find?_cons_of_neg passes, Option.none_or]

end Preferred

/-! ## Items once -/

section Once

variable {Item : Type u} [DecidableEq Item]

/-- `if item not in found: found.append(item)` -/
def addNew (found : List Item) (item : Item) : List Item :=
  if item ∈ found then found else found ++ [item]

/-- To leave out what has come before changes no search. -/
theorem find?_foldl_addNew (test : Item → Bool) (items found : List Item) :
    (items.foldl addNew found).find? test = (found ++ items).find? test := by
  induction items generalizing found with
  | nil => rw [List.foldl_nil, List.append_nil]
  | cons item rest inductionHypothesis =>
      rw [List.foldl_cons, inductionHypothesis, addNew]
      split
      next isIn =>
        rw [List.find?_append, List.find?_append]
        cases isFound : found.find? test with
        | some first => rfl
        | none =>
            have fails := List.find?_eq_none.mp isFound item isIn
            rw [List.find?_cons_of_neg fails]
      next => rw [List.append_assoc, List.singleton_append]

theorem preferred_foldl_addNew (test : Item → Bool) (items : List Item) :
    preferred test (items.foldl addNew []) = preferred test items := by
  apply preferred_congr
  intro anyTest
  rw [find?_foldl_addNew, List.nil_append]

end Once

/-! ## The index -/

section Index

variable {Key : Type u} {Item : Type v} [DecidableEq Key] [DecidableEq Item]

/-- `index.setdefault(key, [])`, and the item if it is not there, for each entry. -/
def indexOf (entries : List (Key × Item)) : Dict Key (List Item) :=
  gather [] addNew entries ∅

/-- What is preferred among the items of a key in the index. -/
def lookupPreferred (test : Item → Bool) (index : Dict Key (List Item)) (key : Key) :
    Option Item :=
  (index.lookup key).bind (preferred test)

/-- The index answers as its entries do. -/
theorem lookupPreferred_indexOf (test : Item → Bool) (entries : List (Key × Item)) (key : Key) :
    lookupPreferred test (indexOf entries) key = preferred test (itemsOf key entries) := by
  rw [lookupPreferred, indexOf]
  by_cases noItems : itemsOf key entries = []
  · rw [lookup_gather_of_nil noItems, AList.lookup_empty, noItems]
    rfl
  · rw [lookup_gather_of_cons noItems, AList.lookup_empty, Option.bind_some, Option.getD_none]
    exact preferred_foldl_addNew test (itemsOf key entries)

end Index

/-! ## One entry for each key -/

section Pointwise

variable {State : Type u} {Key : Type v} {Item : Type w} {Value : Type*} [DecidableEq Key]
variable {read : State → Key → Option Value} {step : State → Key × Item → State}
variable {change : Item → Value → Value}

/-- A loop whose steps each change the value of one key changes each value by the item of its
key, whatever the order. -/
theorem read_foldl
    (reads : ∀ state entry key, read (step state entry) key =
      if key = entry.1 then (read state key).map (change entry.2) else read state key)
    {entries : List (Key × Item)} (nodup : (entries.map Prod.fst).Nodup) (state : State)
    (key : Key) :
    read (entries.foldl step state) key =
      (read state key).map fun value =>
        ((entries.find? fun entry => decide (entry.1 = key)).map fun entry =>
          change entry.2 value).getD value := by
  induction entries generalizing state with
  | nil => simp
  | cons entry rest inductionHypothesis =>
      rw [List.map_cons, List.nodup_cons] at nodup
      rw [List.foldl_cons, inductionHypothesis nodup.2, reads]
      by_cases same : key = entry.1
      · have noOther : (rest.find? fun other => decide (other.1 = key)) = none := by
          apply List.find?_eq_none.mpr
          intro other isIn isSame
          apply nodup.1
          rw [← same, ← of_decide_eq_true isSame]
          exact List.mem_map_of_mem isIn
        rw [if_pos same, noOther, List.find?_cons_of_pos (by simp [same])]
        cases read state key with
        | none => rfl
        | some value => rfl
      · rw [if_neg same, List.find?_cons_of_neg (by simp [Ne.symm same])]

end Pointwise

end DbBuddy.Library
