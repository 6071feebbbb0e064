import Mathlib.Data.List.Nodup
import Mathlib.Logic.Function.Basic

/-!
# Things that are in one place at a time

Numbered things are made, handed around and scrapped.  Each of them that is live lies in one
queue, or is in the hands of one holder, and nothing else does.  The moves keep this, whoever
makes them and in whatever order.
-/

namespace DbBuddy.Library.Custody

universe u v

/-- Who has what, what lies in which queue, what is live, and how many have been made. -/
structure Ledger (Holder : Type u) (Queue : Type v) where
  hands : Holder → Option ℕ
  queues : Queue → List ℕ
  live : ℕ → Bool
  made : ℕ

namespace Ledger

variable {Holder : Type u} {Queue : Type v}

/-- The thing is somewhere. -/
def Placed (ledger : Ledger Holder Queue) (item : ℕ) : Prop :=
  (∃ holder, ledger.hands holder = some item) ∨ ∃ queue, item ∈ ledger.queues queue

/-- Each thing is in one place, and what is live is in some place. -/
structure Sound (ledger : Ledger Holder Queue) : Prop where
  oneHand : ∀ first second item, ledger.hands first = some item →
    ledger.hands second = some item → first = second
  onceQueued : ∀ queue, (ledger.queues queue).Nodup
  oneQueue : ∀ first second item, item ∈ ledger.queues first → item ∈ ledger.queues second →
    first = second
  handOrQueue : ∀ holder queue item, ledger.hands holder = some item →
    item ∉ ledger.queues queue
  isMade : ∀ item, ledger.Placed item → item < ledger.made
  live_iff : ∀ item, ledger.live item = true ↔ ledger.Placed item

/-! ## Moves -/

variable [DecidableEq Holder] [DecidableEq Queue]

/-- The first of a queue is taken. -/
def take (ledger : Ledger Holder Queue) (holder : Holder) (queue : Queue) (item : ℕ)
    (rest : List ℕ) : Ledger Holder Queue where
  hands := Function.update ledger.hands holder (some item)
  queues := Function.update ledger.queues queue rest
  live := ledger.live
  made := ledger.made

/-- What is held goes to a queue. -/
def put (ledger : Ledger Holder Queue) (holder : Holder) (queue : Queue) (item : ℕ) :
    Ledger Holder Queue where
  hands := Function.update ledger.hands holder none
  queues := Function.update ledger.queues queue (item :: ledger.queues queue)
  live := ledger.live
  made := ledger.made

/-- What is held is scrapped. -/
def drop (ledger : Ledger Holder Queue) (holder : Holder) (item : ℕ) : Ledger Holder Queue where
  hands := Function.update ledger.hands holder none
  queues := ledger.queues
  live := Function.update ledger.live item false
  made := ledger.made

/-- A new thing comes into being, in someone's hands. -/
def make (ledger : Ledger Holder Queue) (holder : Holder) : Ledger Holder Queue where
  hands := Function.update ledger.hands holder (some ledger.made)
  queues := ledger.queues
  live := Function.update ledger.live ledger.made true
  made := ledger.made + 1

/-- The first of a queue is scrapped. -/
def scrap (ledger : Ledger Holder Queue) (queue : Queue) (item : ℕ) (rest : List ℕ) :
    Ledger Holder Queue where
  hands := ledger.hands
  queues := Function.update ledger.queues queue rest
  live := Function.update ledger.live item false
  made := ledger.made

/-! ## What the moves keep -/

variable {ledger : Ledger Holder Queue} {holder : Holder} {queue : Queue} {item : ℕ}
  {rest : List ℕ}

omit [DecidableEq Holder] in
/-- What stands first in a queue is nowhere else. -/
theorem Sound.notMem_rest (sound : ledger.Sound) (isQueue : ledger.queues queue = item :: rest)
    (other : Queue) : item ∉ Function.update ledger.queues queue rest other := by
  have once := sound.onceQueued queue
  rw [isQueue] at once
  by_cases same : other = queue
  · subst same
    rw [Function.update_self]
    exact (List.nodup_cons.mp once).1
  · rw [Function.update_of_ne same]
    intro isIn
    have first : item ∈ ledger.queues queue := isQueue ▸ List.mem_cons_self
    exact same (sound.oneQueue other queue item isIn first)

omit [DecidableEq Holder] in
theorem mem_of_update (isQueue : ledger.queues queue = item :: rest) {other : Queue} {thing : ℕ}
    (isIn : thing ∈ Function.update ledger.queues queue rest other) :
    thing ∈ ledger.queues other := by
  by_cases same : other = queue
  · subst same
    rw [Function.update_self] at isIn
    rw [isQueue]
    exact List.mem_cons_of_mem _ isIn
  · rwa [Function.update_of_ne same] at isIn

omit [DecidableEq Holder] in
theorem mem_update_of_ne (isQueue : ledger.queues queue = item :: rest) {other : Queue}
    {thing : ℕ} (different : thing ≠ item) (isIn : thing ∈ ledger.queues other) :
    thing ∈ Function.update ledger.queues queue rest other := by
  by_cases same : other = queue
  · subst same
    rw [Function.update_self]
    rw [isQueue] at isIn
    exact (List.mem_cons.mp isIn).resolve_left different
  · rwa [Function.update_of_ne same]

omit [DecidableEq Holder] in
theorem Sound.nodup_update (sound : ledger.Sound)
    (isQueue : ledger.queues queue = item :: rest) (other : Queue) :
    (Function.update ledger.queues queue rest other).Nodup := by
  by_cases same : other = queue
  · subst same
    have once := sound.onceQueued other
    rw [isQueue] at once
    rw [Function.update_self]
    exact (List.nodup_cons.mp once).2
  · rw [Function.update_of_ne same]
    exact sound.onceQueued other

omit [DecidableEq Holder] in
/-- What is scrapped is nowhere, and nothing else moves. -/
theorem Sound.scrap (sound : ledger.Sound) (isQueue : ledger.queues queue = item :: rest) :
    (ledger.scrap queue item rest).Sound := by
  have absent := sound.notMem_rest isQueue
  have isFirst : item ∈ ledger.queues queue := isQueue ▸ List.mem_cons_self
  have stays : ∀ thing, (ledger.scrap queue item rest).Placed thing ↔
      thing ≠ item ∧ ledger.Placed thing := by
    intro thing
    constructor
    · rintro (⟨owner, isHeld⟩ | ⟨other, isIn⟩)
      · refine ⟨?_, Or.inl ⟨owner, isHeld⟩⟩
        rintro rfl
        exact sound.handOrQueue owner queue thing isHeld isFirst
      · refine ⟨?_, Or.inr ⟨other, mem_of_update isQueue isIn⟩⟩
        rintro rfl
        exact absent other isIn
    · rintro ⟨different, ⟨owner, isHeld⟩ | ⟨other, isIn⟩⟩
      · exact Or.inl ⟨owner, isHeld⟩
      · exact Or.inr ⟨other, mem_update_of_ne isQueue different isIn⟩
  refine ⟨sound.oneHand, sound.nodup_update isQueue, ?_, ?_, ?_, ?_⟩
  · intro first second thing inFirst inSecond
    exact sound.oneQueue first second thing (mem_of_update isQueue inFirst)
      (mem_of_update isQueue inSecond)
  · intro owner other thing isHeld isIn
    exact sound.handOrQueue owner other thing isHeld (mem_of_update isQueue isIn)
  · intro thing isPlaced
    exact sound.isMade thing ((stays thing).mp isPlaced).2
  · intro thing
    rw [stays]
    by_cases same : thing = item
    · subst same
      simp [Ledger.scrap]
    · simp [Ledger.scrap, same, sound.live_iff]

omit [DecidableEq Queue] in
theorem hands_update {owner : Holder} {thing : ℕ} {held : Option ℕ}
    (isHeld : Function.update ledger.hands holder held owner = some thing) :
    (owner = holder ∧ held = some thing) ∨ (owner ≠ holder ∧ ledger.hands owner = some thing) := by
  by_cases same : owner = holder
  · subst same
    rw [Function.update_self] at isHeld
    exact Or.inl ⟨rfl, isHeld⟩
  · rw [Function.update_of_ne same] at isHeld
    exact Or.inr ⟨same, isHeld⟩

/-- What is taken goes from a queue into a hand. -/
theorem Sound.take (sound : ledger.Sound) (isQueue : ledger.queues queue = item :: rest)
    (isFree : ledger.hands holder = none) : (ledger.take holder queue item rest).Sound := by
  have absent := sound.notMem_rest isQueue
  have isFirst : item ∈ ledger.queues queue := isQueue ▸ List.mem_cons_self
  have noHand : ∀ owner, ledger.hands owner ≠ some item := fun owner isHeld =>
    sound.handOrQueue owner queue item isHeld isFirst
  have stays : ∀ thing, (ledger.take holder queue item rest).Placed thing ↔
      ledger.Placed thing := by
    intro thing
    constructor
    · rintro (⟨owner, isHeld⟩ | ⟨other, isIn⟩)
      · rcases hands_update isHeld with ⟨_, isItem⟩ | ⟨_, isHeld⟩
        · cases isItem
          exact Or.inr ⟨queue, isFirst⟩
        · exact Or.inl ⟨owner, isHeld⟩
      · exact Or.inr ⟨other, mem_of_update isQueue isIn⟩
    · rintro (⟨owner, isHeld⟩ | ⟨other, isIn⟩)
      · refine Or.inl ⟨owner, ?_⟩
        have different : owner ≠ holder := by
          rintro rfl
          rw [isFree] at isHeld
          cases isHeld
        exact (Function.update_of_ne different _ _).trans isHeld
      · by_cases same : thing = item
        · exact Or.inl ⟨holder, by rw [same]; exact Function.update_self _ _ _⟩
        · exact Or.inr ⟨other, mem_update_of_ne isQueue same isIn⟩
  refine ⟨?_, sound.nodup_update isQueue, ?_, ?_, ?_, ?_⟩
  · intro first second thing ofFirst ofSecond
    rcases hands_update ofFirst with ⟨rfl, isItem⟩ | ⟨_, isHeld⟩
    · cases isItem
      rcases hands_update ofSecond with ⟨rfl, _⟩ | ⟨_, isHeld⟩
      · rfl
      · exact absurd isHeld (noHand second)
    · rcases hands_update ofSecond with ⟨rfl, isItem⟩ | ⟨_, isHeldToo⟩
      · cases isItem
        exact absurd isHeld (noHand first)
      · exact sound.oneHand first second thing isHeld isHeldToo
  · intro first second thing inFirst inSecond
    exact sound.oneQueue first second thing (mem_of_update isQueue inFirst)
      (mem_of_update isQueue inSecond)
  · intro owner other thing isHeld isIn
    rcases hands_update isHeld with ⟨_, isItem⟩ | ⟨_, isHeld⟩
    · cases isItem
      exact absent other isIn
    · exact sound.handOrQueue owner other thing isHeld (mem_of_update isQueue isIn)
  · intro thing isPlaced
    exact sound.isMade thing ((stays thing).mp isPlaced)
  · intro thing
    rw [stays]
    exact sound.live_iff thing

omit [DecidableEq Holder] in
theorem mem_put {other : Queue} {thing : ℕ}
    (isIn : thing ∈ Function.update ledger.queues queue (item :: ledger.queues queue) other) :
    (other = queue ∧ thing = item) ∨ thing ∈ ledger.queues other := by
  by_cases same : other = queue
  · subst same
    rw [Function.update_self] at isIn
    rcases List.mem_cons.mp isIn with isItem | older
    · exact Or.inl ⟨rfl, isItem⟩
    · exact Or.inr older
  · rw [Function.update_of_ne same] at isIn
    exact Or.inr isIn

omit [DecidableEq Holder] in
theorem mem_put_of_mem {other : Queue} {thing : ℕ} (isIn : thing ∈ ledger.queues other) :
    thing ∈ Function.update ledger.queues queue (item :: ledger.queues queue) other := by
  by_cases same : other = queue
  · subst same
    rw [Function.update_self]
    exact List.mem_cons_of_mem _ isIn
  · rwa [Function.update_of_ne same]

/-- What is put goes from a hand into a queue, whichever queue that is. -/
theorem Sound.put (sound : ledger.Sound) (isHeld : ledger.hands holder = some item)
    (queue : Queue) : (ledger.put holder queue item).Sound := by
  have noQueue : ∀ other, item ∉ ledger.queues other := fun other =>
    sound.handOrQueue holder other item isHeld
  have isThere : item ∈ Function.update ledger.queues queue (item :: ledger.queues queue)
      queue := by
    rw [Function.update_self]
    exact List.mem_cons_self
  have stays : ∀ thing, (ledger.put holder queue item).Placed thing ↔
      ledger.Placed thing := by
    intro thing
    constructor
    · rintro (⟨owner, isOwned⟩ | ⟨other, isIn⟩)
      · rcases hands_update isOwned with ⟨_, isNone⟩ | ⟨_, isOwned⟩
        · cases isNone
        · exact Or.inl ⟨owner, isOwned⟩
      · rcases mem_put isIn with ⟨_, rfl⟩ | isIn
        · exact Or.inl ⟨holder, isHeld⟩
        · exact Or.inr ⟨other, isIn⟩
    · rintro (⟨owner, isOwned⟩ | ⟨other, isIn⟩)
      · by_cases same : thing = item
        · exact Or.inr ⟨queue, same ▸ isThere⟩
        · refine Or.inl ⟨owner, ?_⟩
          have different : owner ≠ holder := by
            rintro rfl
            rw [isHeld] at isOwned
            exact same (Option.some.inj isOwned).symm
          exact (Function.update_of_ne different _ _).trans isOwned
      · exact Or.inr ⟨other, mem_put_of_mem isIn⟩
  refine ⟨?_, ?_, ?_, ?_, ?_, ?_⟩
  · intro first second thing ofFirst ofSecond
    rcases hands_update ofFirst with ⟨_, isNone⟩ | ⟨_, isFirst⟩
    · cases isNone
    · rcases hands_update ofSecond with ⟨_, isNone⟩ | ⟨_, isSecond⟩
      · cases isNone
      · exact sound.oneHand first second thing isFirst isSecond
  · intro other
    change (Function.update ledger.queues queue (item :: ledger.queues queue) other).Nodup
    by_cases same : other = queue
    · subst same
      rw [Function.update_self]
      exact List.nodup_cons.mpr ⟨noQueue other, sound.onceQueued other⟩
    · rw [Function.update_of_ne same]
      exact sound.onceQueued other
  · intro first second thing inFirst inSecond
    rcases mem_put inFirst with ⟨rfl, rfl⟩ | older
    · rcases mem_put inSecond with ⟨rfl, _⟩ | older
      · rfl
      · exact absurd older (noQueue second)
    · rcases mem_put inSecond with ⟨_, rfl⟩ | olderToo
      · exact absurd older (noQueue first)
      · exact sound.oneQueue first second thing older olderToo
  · intro owner other thing isOwned isIn
    rcases hands_update isOwned with ⟨_, isNone⟩ | ⟨different, stillOwned⟩
    · cases isNone
    · rcases mem_put isIn with ⟨_, rfl⟩ | older
      · exact different (sound.oneHand owner holder thing stillOwned isHeld)
      · exact sound.handOrQueue owner other thing stillOwned older
  · intro thing isPlaced
    exact sound.isMade thing ((stays thing).mp isPlaced)
  · intro thing
    rw [stays]
    exact sound.live_iff thing

omit [DecidableEq Queue] in
/-- What is dropped is nowhere. -/
theorem Sound.drop (sound : ledger.Sound) (isHeld : ledger.hands holder = some item) :
    (ledger.drop holder item).Sound := by
  have stays : ∀ thing, (ledger.drop holder item).Placed thing ↔
      thing ≠ item ∧ ledger.Placed thing := by
    intro thing
    constructor
    · rintro (⟨owner, isOwned⟩ | ⟨other, isIn⟩)
      · rcases hands_update isOwned with ⟨_, isNone⟩ | ⟨different, stillOwned⟩
        · cases isNone
        · refine ⟨?_, Or.inl ⟨owner, stillOwned⟩⟩
          rintro rfl
          exact different (sound.oneHand owner holder thing stillOwned isHeld)
      · refine ⟨?_, Or.inr ⟨other, isIn⟩⟩
        rintro rfl
        exact sound.handOrQueue holder other thing isHeld isIn
    · rintro ⟨different, ⟨owner, isOwned⟩ | ⟨other, isIn⟩⟩
      · refine Or.inl ⟨owner, ?_⟩
        have notHolder : owner ≠ holder := by
          rintro rfl
          rw [isHeld] at isOwned
          exact different (Option.some.inj isOwned).symm
        exact (Function.update_of_ne notHolder _ _).trans isOwned
      · exact Or.inr ⟨other, isIn⟩
  refine ⟨?_, sound.onceQueued, sound.oneQueue, ?_, ?_, ?_⟩
  · intro first second thing ofFirst ofSecond
    rcases hands_update ofFirst with ⟨_, isNone⟩ | ⟨_, isFirst⟩
    · cases isNone
    · rcases hands_update ofSecond with ⟨_, isNone⟩ | ⟨_, isSecond⟩
      · cases isNone
      · exact sound.oneHand first second thing isFirst isSecond
  · intro owner other thing isOwned isIn
    rcases hands_update isOwned with ⟨_, isNone⟩ | ⟨_, isOwned⟩
    · cases isNone
    · exact sound.handOrQueue owner other thing isOwned isIn
  · intro thing isPlaced
    exact sound.isMade thing ((stays thing).mp isPlaced).2
  · intro thing
    rw [stays]
    by_cases same : thing = item
    · subst same
      simp [Ledger.drop]
    · simp [Ledger.drop, same, sound.live_iff]

omit [DecidableEq Queue] in
/-- What is made is in a hand, and in that hand only. -/
theorem Sound.make (sound : ledger.Sound) (isFree : ledger.hands holder = none) :
    (ledger.make holder).Sound := by
  have notPlaced : ¬ledger.Placed ledger.made := fun isPlaced =>
    absurd (sound.isMade ledger.made isPlaced) (Nat.lt_irrefl _)
  have stays : ∀ thing, (ledger.make holder).Placed thing ↔
      thing = ledger.made ∨ ledger.Placed thing := by
    intro thing
    constructor
    · rintro (⟨owner, isOwned⟩ | ⟨other, isIn⟩)
      · rcases hands_update isOwned with ⟨_, isNew⟩ | ⟨_, isOwned⟩
        · cases isNew
          exact Or.inl rfl
        · exact Or.inr (Or.inl ⟨owner, isOwned⟩)
      · exact Or.inr (Or.inr ⟨other, isIn⟩)
    · rintro (rfl | ⟨owner, isOwned⟩ | ⟨other, isIn⟩)
      · exact Or.inl ⟨holder, Function.update_self _ _ _⟩
      · refine Or.inl ⟨owner, ?_⟩
        have different : owner ≠ holder := by
          rintro rfl
          rw [isFree] at isOwned
          cases isOwned
        exact (Function.update_of_ne different _ _).trans isOwned
      · exact Or.inr ⟨other, isIn⟩
  refine ⟨?_, sound.onceQueued, sound.oneQueue, ?_, ?_, ?_⟩
  · intro first second thing ofFirst ofSecond
    rcases hands_update ofFirst with ⟨rfl, isNew⟩ | ⟨_, isFirst⟩
    · cases isNew
      rcases hands_update ofSecond with ⟨rfl, _⟩ | ⟨_, isSecond⟩
      · rfl
      · exact absurd (Or.inl ⟨second, isSecond⟩) notPlaced
    · rcases hands_update ofSecond with ⟨rfl, isNew⟩ | ⟨_, isSecond⟩
      · cases isNew
        exact absurd (Or.inl ⟨first, isFirst⟩) notPlaced
      · exact sound.oneHand first second thing isFirst isSecond
  · intro owner other thing isOwned isIn
    rcases hands_update isOwned with ⟨_, isNew⟩ | ⟨_, isOwned⟩
    · cases isNew
      exact notPlaced (Or.inr ⟨other, isIn⟩)
    · exact sound.handOrQueue owner other thing isOwned isIn
  · intro thing isPlaced
    rcases (stays thing).mp isPlaced with rfl | older
    · exact Nat.lt_succ_self _
    · exact Nat.lt_succ_of_lt (sound.isMade thing older)
  · intro thing
    rw [stays]
    by_cases same : thing = ledger.made
    · subst same
      simp [Ledger.make]
    · simp [Ledger.make, same, sound.live_iff]

end Ledger

end DbBuddy.Library.Custody
