import DbBuddy.Library.Dict
import DbBuddy.Library.PythonText

/-!
# The keys of a model's answer

A model is asked for the keys of columns, such as `users.id`, and may answer under other
ones.  `_match_value` looks for the key itself and then takes the first item that is the
key in another case, or has the same bare name.
-/

namespace DbBuddy.Providers

open DbBuddy.Library

/-- A key of a parsed answer: a `str`, or not. -/
inductive AnswerKey (Other : Type) where
  | text (name : String)
  | other (value : Other)
  deriving DecidableEq, Repr

variable {Other Value : Type}

/-- An answer that has been parsed: a `dict`, or not. -/
inductive Answer (Other Value : Type) where
  | object (items : Dict (AnswerKey Other) Value)
  | other

/-- An item of an answer. -/
abbrev Item (Other Value : Type) := Sigma fun _ : AnswerKey Other => Value

def Answer.items : Answer Other Value → Dict (AnswerKey Other) Value
  | .object items => items
  | .other => ∅

/-- `key.split(".")[-1]` -/
def barePart (key : String) : String :=
  String.ofList ((key.toList.splitOn '.').getLast?.getD [])

section Matching

variable (unicode : Unicode) (colKey : String)

/-- `key.lower() == col_key.lower()` -/
def IsFull (key : String) : Prop :=
  unicode.lower key = unicode.lower colKey

/-- `key.split(".")[-1].lower() == bare.lower()` -/
def IsBare (key : String) : Prop :=
  unicode.lower (barePart key) = unicode.lower (barePart colKey)

instance (key : String) : Decidable (IsFull unicode colKey key) :=
  inferInstanceAs (Decidable (_ = _))

instance (key : String) : Decidable (IsBare unicode colKey key) :=
  inferInstanceAs (Decidable (_ = _))

/-- The loop over the items. -/
def scanItems : List (Item Other Value) → Option (String × Value)
  | [] => none
  | ⟨.other _, _⟩ :: rest => scanItems rest
  | ⟨.text key, value⟩ :: rest =>
      if IsFull unicode colKey key then some (key, value)
      else if IsBare unicode colKey key then some (key, value)
      else scanItems rest

/-- The item whose value `_match_value` returns. -/
def matchItem [DecidableEq Other] : Answer Other Value → Option (String × Value)
  | .other => none
  | .object items =>
      match items.lookup (.text colKey) with
      | some value => some (colKey, value)
      | none => scanItems unicode colKey items.entries

/-- `_match_value` -/
def matchValue [DecidableEq Other] (parsed : Answer Other Value) : Option Value :=
  (matchItem unicode colKey parsed).map Prod.snd

/-! ## The law -/

/-- A key of the answer that can stand for the requested one. -/
def IsCandidate (key : String) : Prop :=
  IsFull unicode colKey key ∨ IsBare unicode colKey key

/-- The item is a candidate of the highest rank: the key itself, the key in another
case, the bare name. -/
structure Preferred (items : Dict (AnswerKey Other) Value)
    (found : Option (String × Value)) : Prop where
  candidate : ∀ key value, found = some (key, value) →
    ⟨.text key, value⟩ ∈ items.entries ∧ IsCandidate unicode colKey key
  nothing : found = none →
    ∀ key, AnswerKey.text key ∈ items → ¬ IsCandidate unicode colKey key
  itself : AnswerKey.text colKey ∈ items → ∃ value, found = some (colKey, value)
  full : (∃ key, AnswerKey.text key ∈ items ∧ IsFull unicode colKey key) →
    ∃ key value, found = some (key, value) ∧ IsFull unicode colKey key

/-- The first candidate matches by its bare name only, and a key that matches in full
stands behind it. -/
def BareFirst (entries : List (Item Other Value)) : Prop :=
  ∃ front key value back, entries = front ++ ⟨.text key, value⟩ :: back ∧
    IsBare unicode colKey key ∧ ¬ IsFull unicode colKey key ∧
    (∀ other held, ⟨.text other, held⟩ ∈ front → ¬ IsCandidate unicode colKey other) ∧
    ∃ other held, ⟨.text other, held⟩ ∈ back ∧ IsFull unicode colKey other

end Matching

section Scan

variable {unicode : Unicode} {colKey key : String} {value : Value}
variable {entries rest : List (Item Other Value)}

theorem scanItems_cons_of_candidate (isCandidate : IsCandidate unicode colKey key) :
    scanItems unicode colKey (⟨.text key, value⟩ :: rest) = some (key, value) := by
  unfold scanItems
  split
  · rfl
  · next notFull => rw [if_pos (isCandidate.resolve_left notFull)]

theorem scanItems_cons_of_not_candidate (noCandidate : ¬ IsCandidate unicode colKey key) :
    scanItems unicode colKey (⟨.text key, value⟩ :: rest) =
      scanItems unicode colKey rest := by
  rw [IsCandidate, not_or] at noCandidate
  rw [scanItems, if_neg noCandidate.1, if_neg noCandidate.2]

/-- The loop stops at the first candidate. -/
theorem scanItems_eq_some_iff : scanItems unicode colKey entries = some (key, value) ↔
    ∃ front back, entries = front ++ ⟨.text key, value⟩ :: back ∧
      IsCandidate unicode colKey key ∧
      ∀ other held, ⟨.text other, held⟩ ∈ front → ¬ IsCandidate unicode colKey other := by
  constructor
  · intro found
    induction entries with
    | nil => cases found
    | cons item rest induction =>
        obtain ⟨other | other, held⟩ := item
        · by_cases isCandidate : IsCandidate unicode colKey other
          · rw [scanItems_cons_of_candidate isCandidate] at found
            cases found
            exact ⟨[], rest, rfl, isCandidate, by simp⟩
          · rw [scanItems_cons_of_not_candidate isCandidate] at found
            obtain ⟨front, back, rfl, isKey, isFirst⟩ := induction found
            refine ⟨⟨.text other, held⟩ :: front, back, rfl, isKey, ?_⟩
            intro before heldBefore isBefore
            rcases List.mem_cons.mp isBefore with same | isLater
            · cases same
              exact isCandidate
            · exact isFirst before heldBefore isLater
        · obtain ⟨front, back, rfl, isKey, isFirst⟩ := induction found
          refine ⟨⟨.other other, held⟩ :: front, back, rfl, isKey, ?_⟩
          intro before heldBefore isBefore
          rcases List.mem_cons.mp isBefore with same | isLater
          · cases same
          · exact isFirst before heldBefore isLater
  · rintro ⟨front, back, rfl, isKey, isFirst⟩
    induction front with
    | nil => exact scanItems_cons_of_candidate isKey
    | cons item front induction =>
        have isRest := induction fun other held isBefore =>
          isFirst other held (List.mem_cons_of_mem _ isBefore)
        obtain ⟨other | other, held⟩ := item
        · rw [List.cons_append,
            scanItems_cons_of_not_candidate (isFirst other held List.mem_cons_self)]
          exact isRest
        · exact isRest

theorem not_candidate_of_scanItems (nothing : scanItems unicode colKey entries = none) :
    ∀ key value, ⟨.text key, value⟩ ∈ entries → ¬ IsCandidate unicode colKey key := by
  induction entries with
  | nil => simp
  | cons item rest induction =>
      intro key value isItem isKey
      obtain ⟨other | other, held⟩ := item
      · by_cases isCandidate : IsCandidate unicode colKey other
        · rw [scanItems_cons_of_candidate isCandidate] at nothing
          cases nothing
        · rw [scanItems_cons_of_not_candidate isCandidate] at nothing
          rcases List.mem_cons.mp isItem with same | isLater
          · cases same
            exact isCandidate isKey
          · exact induction nothing key value isLater isKey
      · rcases List.mem_cons.mp isItem with same | isLater
        · cases same
        · exact induction nothing key value isLater isKey

end Scan

section Law

variable {unicode : Unicode} {colKey key : String} {value : Value}
variable {items : Dict (AnswerKey Other) Value} {parsed : Answer Other Value}

theorem mem_iff_entry : AnswerKey.text key ∈ items ↔
    ∃ value : Value, ⟨.text key, value⟩ ∈ items.entries :=
  List.mem_keys

/-- Where the key itself is not in the answer, the first candidate is preferred unless
it has the bare name only and a full match stands behind it. -/
theorem preferred_scanItems_iff (absent : AnswerKey.text colKey ∉ items) :
    Preferred unicode colKey items (scanItems unicode colKey items.entries) ↔
      ¬ BareFirst unicode colKey items.entries := by
  constructor
  · rintro preferred ⟨front, key, value, back, isSplit, isBare, notFull, isFirst, other, held,
      isLater, isFull⟩
    have found := scanItems_eq_some_iff.mpr ⟨front, back, isSplit, Or.inr isBare, isFirst⟩
    have isListed : AnswerKey.text other ∈ items := by
      rw [mem_iff_entry, isSplit]
      exact ⟨held, List.mem_append_right _ (List.mem_cons_of_mem _ isLater)⟩
    obtain ⟨key', value', found', isFull'⟩ := preferred.full ⟨other, isListed, isFull⟩
    rw [found] at found'
    cases found'
    exact notFull isFull'
  · intro notBareFirst
    cases found : scanItems unicode colKey items.entries with
    | none =>
        have none' := not_candidate_of_scanItems found
        refine ⟨nofun, fun _ key isIn => ?_, fun isIn => absurd isIn absent, ?_⟩
        · obtain ⟨value, isEntry⟩ := mem_iff_entry.mp isIn
          exact none' key value isEntry
        · rintro ⟨key, isIn, isFull⟩
          obtain ⟨value, isEntry⟩ := mem_iff_entry.mp isIn
          exact absurd (Or.inl isFull) (none' key value isEntry)
    | some item =>
        obtain ⟨key, value⟩ := item
        obtain ⟨front, back, isSplit, isKey, isFirst⟩ := scanItems_eq_some_iff.mp found
        refine ⟨?_, nofun, fun isIn => absurd isIn absent, ?_⟩
        · rintro key' value' ⟨⟩
          rw [isSplit]
          exact ⟨List.mem_append_right _ List.mem_cons_self, isKey⟩
        · rintro ⟨other, isIn, isFull⟩
          refine ⟨key, value, rfl, ?_⟩
          by_contra notFull
          obtain ⟨held, isEntry⟩ := mem_iff_entry.mp isIn
          rw [isSplit] at isEntry
          rcases List.mem_append.mp isEntry with isBefore | isAfter
          · exact isFirst other held isBefore (Or.inl isFull)
          · rcases List.mem_cons.mp isAfter with same | isLater
            · cases same
              exact notFull isFull
            · exact notBareFirst ⟨front, key, value, back, isSplit,
                isKey.resolve_left notFull, notFull, isFirst, other, held, isLater, isFull⟩

variable [DecidableEq Other]

/-- The key itself is returned wherever it stands. -/
theorem matchItem_of_lookup (isItem : parsed.items.lookup (.text colKey) = some value) :
    matchItem unicode colKey parsed = some (colKey, value) := by
  cases parsed with
  | object items =>
      have isItem' : items.lookup (.text colKey) = some value := isItem
      simp only [matchItem, isItem']
  | other => cases isItem

theorem matchItem_of_notMem (absent : AnswerKey.text colKey ∉ parsed.items) :
    matchItem unicode colKey parsed = scanItems unicode colKey parsed.items.entries := by
  cases parsed with
  | object items =>
      have noItem : items.lookup (.text colKey) = none := AList.lookup_eq_none.mpr absent
      simp only [matchItem, noItem, Answer.items]
  | other => rfl

theorem preferred_of_lookup (isItem : items.lookup (.text colKey) = some value) :
    Preferred unicode colKey items (some (colKey, value)) where
  candidate := by
    rintro key held ⟨⟩
    exact ⟨AList.mem_lookup_iff.mp isItem, Or.inl rfl⟩
  nothing := nofun
  itself := fun _ => ⟨value, rfl⟩
  full := fun _ => ⟨colKey, value, rfl, rfl⟩

end Law

/-- The precedence is honoured if and only if the requested key is in the answer itself,
or no bare name comes first. -/
theorem preferred_iff [DecidableEq Other] (unicode : Unicode) (colKey : String)
    (parsed : Answer Other Value) :
    Preferred unicode colKey parsed.items (matchItem unicode colKey parsed) ↔
      AnswerKey.text colKey ∈ parsed.items ∨
        ¬ BareFirst unicode colKey parsed.items.entries := by
  by_cases isIn : AnswerKey.text colKey ∈ parsed.items
  · obtain ⟨value, isItem⟩ := Option.isSome_iff_exists.mp (AList.lookup_isSome.mpr isIn)
    rw [matchItem_of_lookup isItem]
    exact iff_of_true (preferred_of_lookup isItem) (Or.inl isIn)
  · rw [matchItem_of_notMem isIn, preferred_scanItems_iff isIn]
    exact (or_iff_right isIn).symm

/-- The quantity of an order, and the identifier that was asked for in another case. -/
def quantityFirst : Answer Empty String :=
  .object (((∅ : Dict (AnswerKey Empty) String).assign (.text "orders.id") "quantity").assign
    (.text "USERS.ID") "identifier")

theorem not_preferred_quantityFirst :
    matchValue ascii "users.id" quantityFirst = some "quantity" ∧
      ¬ Preferred ascii "users.id" quantityFirst.items
        (matchItem ascii "users.id" quantityFirst) := by
  constructor
  · decide
  · rw [show matchItem ascii "users.id" quantityFirst = some ("orders.id", "quantity") by decide]
    intro preferred
    obtain ⟨key, value, found, isFull⟩ := preferred.full
      ⟨"USERS.ID", by decide, by decide⟩
    cases found
    exact absurd isFull (by decide)

end DbBuddy.Providers
