import DbBuddy.Library.TransitionSystem

/-!
# Tables of remembered answers

A table remembers what a function has answered.  It is asked under one key and
filled under another one; it may lose an entry at any time, and it may neither be
read nor written for a while.
-/

namespace DbBuddy.Library

universe u v w

/-- A function whose answers are remembered. -/
structure Memo (Request : Type u) (Key : Type v) (Answer : Type w) where
  lookupKey : Request → Key
  storeKey : Request → Key
  answer : Request → Answer
  keeps : Request → Bool

namespace Memo

variable {Request : Type u} {Key : Type v} {Answer : Type w}

/-- What a request was answered with, and the request that this was worked out
for. -/
structure Reply (Request : Type u) (Answer : Type w) where
  request : Request
  answer : Answer
  origin : Request

/-- An entry is kept with the request it was worked out for. -/
structure Table (Request : Type u) (Key : Type v) (Answer : Type w) where
  entries : Key → Option (Request × Answer)
  replies : List (Reply Request Answer)

/-- `reads` and `writes` say whether the table can be used. -/
inductive Label (Request : Type u) (Key : Type v) where
  | ask (request : Request) (reads writes : Bool)
  | drop (key : Key)

section Steps

variable [DecidableEq Key] (memo : Memo Request Key Answer)

/-- What the table has for a request. -/
def found (table : Table Request Key Answer) (request : Request) (reads : Bool) :
    Option (Request × Answer) :=
  if reads then table.entries (memo.lookupKey request) else none

/-- The entries after an answer was worked out. -/
def stored (table : Table Request Key Answer) (request : Request)
    (writes : Bool) : Key → Option (Request × Answer) :=
  if writes && memo.keeps request then
    Function.update table.entries (memo.storeKey request)
      (some (request, memo.answer request))
  else table.entries

def step (table : Table Request Key Answer) :
    Label Request Key → Option (Table Request Key Answer)
  | .ask request reads writes =>
      match memo.found table request reads with
      | some (origin, answer) => some
          { table with replies := table.replies ++ [⟨request, answer, origin⟩] }
      | none => some
          { entries := memo.stored table request writes
            replies := table.replies ++
              [⟨request, memo.answer request, request⟩] }
  | .drop key => some
      { table with entries := Function.update table.entries key none }

/-- Nothing is remembered and nothing was asked. -/
def blank : Table Request Key Answer :=
  ⟨fun _ => none, []⟩

def system : TransitionSystem (Table Request Key Answer) (Label Request Key) where
  initial table := table = blank
  step := memo.step

end Steps

/-! ## What an entry stands for -/

section Laws

variable {memo : Memo Request Key Answer} {same : Request → Request → Prop}
variable {table next : Table Request Key Answer} {request : Request}
variable {reads writes : Bool}

/-- A request whose key an earlier one may have filled is the same as that one, in
the sense given. -/
def Separated (memo : Memo Request Key Answer) (same : Request → Request → Prop)
    (table : Table Request Key Answer) : Label Request Key → Prop
  | .ask request _ _ => ∀ earlier ∈ table.replies,
      memo.keeps earlier.request = true →
        memo.storeKey earlier.request = memo.lookupKey request →
          same earlier.request request
  | .drop _ => True

/-- Every entry is the answer of a request that was made, under that one's key. -/
def Backed (memo : Memo Request Key Answer) (table : Table Request Key Answer) :
    Prop :=
  ∀ key origin answer, table.entries key = some (origin, answer) →
    memo.keeps origin = true ∧ memo.storeKey origin = key ∧
      memo.answer origin = answer ∧ ∃ reply ∈ table.replies, reply.request = origin

/-- Every reply is what the function answers; one that was remembered is that of
the same request. -/
def Right (memo : Memo Request Key Answer) (same : Request → Request → Prop)
    (table : Table Request Key Answer) : Prop :=
  ∀ reply ∈ table.replies, reply.answer = memo.answer reply.request ∧
    (reply.origin = reply.request ∨ same reply.origin reply.request)

theorem backed_blank : Backed memo blank := by
  intro key origin answer isEntry
  cases isEntry

theorem right_blank : Right memo same blank := by
  intro reply isReply
  cases isReply

theorem Backed.more (backed : Backed memo table)
    (replies : List (Reply Request Answer)) :
    Backed memo { table with replies := table.replies ++ replies } := by
  intro key origin answer isEntry
  obtain ⟨isKept, isKey, isAnswer, reply, isReply, isOrigin⟩ :=
    backed key origin answer isEntry
  exact ⟨isKept, isKey, isAnswer, reply, List.mem_append_left _ isReply, isOrigin⟩

theorem Right.more (right : Right memo same table) {reply : Reply Request Answer}
    (isRight : reply.answer = memo.answer reply.request ∧
      (reply.origin = reply.request ∨ same reply.origin reply.request))
    (entries : Key → Option (Request × Answer)) :
    Right memo same ⟨entries, table.replies ++ [reply]⟩ := by
  intro given isGiven
  rcases List.mem_append.mp isGiven with isEarlier | isNew
  · exact right given isEarlier
  · rw [List.mem_singleton.mp isNew]
    exact isRight

theorem found_some {origin : Request} {answer : Answer}
    (isFound : memo.found table request reads = some (origin, answer)) :
    table.entries (memo.lookupKey request) = some (origin, answer) := by
  unfold found at isFound
  split at isFound
  · exact isFound
  · cases isFound

variable [DecidableEq Key]

theorem step_found {entry : Request × Answer}
    (isFound : memo.found table request reads = some entry) (writes : Bool) :
    memo.step table (.ask request reads writes) = some
      { table with replies := table.replies ++ [⟨request, entry.2, entry.1⟩] } := by
  simp only [step, isFound]

theorem step_missed (isMissed : memo.found table request reads = none)
    (writes : Bool) :
    memo.step table (.ask request reads writes) = some
      { entries := memo.stored table request writes
        replies := table.replies ++ [⟨request, memo.answer request, request⟩] } := by
  simp only [step, isMissed]

theorem stored_some {key : Key} {origin : Request} {answer : Answer}
    (isStored : memo.stored table request writes key = some (origin, answer)) :
    (memo.keeps request = true ∧ key = memo.storeKey request ∧
        origin = request ∧ answer = memo.answer request) ∨
      table.entries key = some (origin, answer) := by
  unfold stored at isStored
  split at isStored
  · rename_i isKept
    by_cases isKey : key = memo.storeKey request
    · subst isKey
      rw [Function.update_self] at isStored
      cases isStored
      exact Or.inl ⟨(Bool.and_eq_true_iff.mp isKept).2, rfl, rfl, rfl⟩
    · rw [Function.update_of_ne isKey] at isStored
      exact Or.inr isStored
  · exact Or.inr isStored

/-- What is worked out is remembered as what it is. -/
theorem Backed.store (backed : Backed memo table) :
    Backed memo ⟨memo.stored table request writes,
      table.replies ++ [⟨request, memo.answer request, request⟩]⟩ := by
  intro key origin answer isStored
  rcases stored_some isStored with ⟨isKept, isKey, isOrigin, isAnswer⟩ | isEntry
  · refine ⟨by rw [isOrigin, isKept], by rw [isOrigin, isKey], by rw [isOrigin, isAnswer], _,
      List.mem_append_right _ (List.mem_singleton_self _), ?_⟩
    exact isOrigin.symm
  · exact backed.more _ key origin answer isEntry

theorem Backed.drop (backed : Backed memo table) (key : Key) :
    Backed memo { table with entries := Function.update table.entries key none } := by
  intro other origin answer isEntry
  by_cases isKey : other = key
  · subst isKey
    simp only [Function.update_self] at isEntry
    cases isEntry
  · simp only [Function.update_of_ne isKey] at isEntry
    exact backed other origin answer isEntry

/-- A remembered answer is right if the requests are told apart. -/
theorem step_right (agrees : ∀ earlier later, memo.keeps earlier = true →
      same earlier later → memo.answer later = memo.answer earlier)
    (backed : Backed memo table) (right : Right memo same table)
    {label : Label Request Key} (separated : Separated memo same table label)
    (stepped : memo.step table label = some next) :
    Backed memo next ∧ Right memo same next := by
  cases label with
  | ask request reads writes =>
      cases isFound : memo.found table request reads with
      | some entry =>
          rw [step_found isFound] at stepped
          cases stepped
          obtain ⟨isKept, isKey, isAnswer, earlier, isEarlier, isOrigin⟩ :=
            backed _ entry.1 entry.2 (found_some isFound)
          have sameRequest : same entry.1 request := by
            rw [← isOrigin]
            refine separated earlier isEarlier ?_ ?_
            · rw [isOrigin, isKept]
            · rw [isOrigin, isKey]
          refine ⟨backed.more _, right.more ⟨?_, Or.inr sameRequest⟩ _⟩
          exact isAnswer.symm.trans (agrees entry.1 request isKept sameRequest).symm
      | none =>
          rw [step_missed isFound] at stepped
          cases stepped
          exact ⟨backed.store, right.more ⟨rfl, Or.inl rfl⟩ _⟩
  | drop key =>
      simp only [step] at stepped
      cases stepped
      exact ⟨backed.drop key, right⟩

/-- In a run whose requests are told apart, every reply is right. -/
theorem right_of_run (agrees : ∀ earlier later, memo.keeps earlier = true →
      same earlier later → memo.answer later = memo.answer earlier)
    (run : memo.system.Reaches (Separated memo same) blank table) :
    Right memo same table := by
  have both : Backed memo table ∧ Right memo same table :=
    run.preserves (fun table => Backed memo table ∧ Right memo same table)
      (fun _ _ _ holds separated stepped =>
        step_right agrees holds.1 holds.2 separated stepped)
      ⟨backed_blank, right_blank⟩
  exact both.2

end Laws

/-! ## A request that finds the answer of another one -/

section Twice

variable (memo : Memo Request Key Answer) [DecidableEq Key]

/-- After the first request. -/
def askedOnce (first : Request) : Table Request Key Answer :=
  ⟨memo.stored blank first true, [⟨first, memo.answer first, first⟩]⟩

/-- After the second one, which was answered with what the first one left. -/
def askedTwice (first second : Request) : Table Request Key Answer :=
  ⟨memo.stored blank first true,
    [⟨first, memo.answer first, first⟩, ⟨second, memo.answer first, first⟩]⟩

variable {memo}

theorem reaches_askedTwice {guard : Table Request Key Answer →
      Label Request Key → Prop} {first second : Request}
    (kept : memo.keeps first = true)
    (sameKey : memo.storeKey first = memo.lookupKey second)
    (allowsFirst : guard blank (.ask first true true))
    (allowsSecond : guard (memo.askedOnce first) (.ask second true true)) :
    memo.system.Reaches guard blank (memo.askedTwice first second) := by
  have isMissed : memo.found blank first true = none := rfl
  have asked : memo.step blank (.ask first true true) =
      some (memo.askedOnce first) := step_missed isMissed true
  have once : memo.system.Reaches guard blank (memo.askedOnce first) :=
    TransitionSystem.Reaches.single _ allowsFirst asked
  have isFound : memo.found (memo.askedOnce first) second true =
      some (first, memo.answer first) := by
    unfold found askedOnce stored
    rw [kept, ← sameKey]
    exact Function.update_self _ _ _
  have askedAgain : memo.step (memo.askedOnce first) (.ask second true true) =
      some (memo.askedTwice first second) := step_found isFound true
  exact TransitionSystem.Reaches.tail _ once allowsSecond askedAgain

end Twice

end Memo

end DbBuddy.Library
