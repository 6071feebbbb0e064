import DbBuddy.Library.PythonText
import Mathlib.Data.List.Nodup
import Mathlib.Data.List.Perm.Subperm

/-!
# Handles made from names, and the first one that is free

A handle is words of kept characters with single marks between them.  Putting
one mark for every run of other characters and stripping the marks at the ends
makes a handle of any text that keeps a character.
-/

namespace DbBuddy.Library

universe u

/-- `re.sub` of each run of characters that are not kept; the flag tells whether
the run the text starts in has its mark already. -/
def collapse (keep : Char → Bool) (mark : Char) : Bool → List Char → List Char
  | _, [] => []
  | inRun, char :: rest =>
      if keep char then char :: collapse keep mark false rest
      else if inRun then collapse keep mark true rest
      else mark :: collapse keep mark true rest

/-- `text.strip(mark)` -/
def stripBoth (mark : Char) (text : List Char) : List Char :=
  stripEnd mark (text.dropWhile (· == mark))

/-- Words of kept characters, one mark between two of them. -/
inductive Handle (keep : Char → Bool) (mark : Char) : List Char → Prop
  | single {char : Char} : keep char = true → Handle keep mark [char]
  | letter {char : Char} {rest : List Char} :
      keep char = true → Handle keep mark rest → Handle keep mark (char :: rest)
  | gap {char : Char} {rest : List Char} :
      keep char = true → Handle keep mark rest →
      Handle keep mark (char :: mark :: rest)

section Handles

variable {keep : Char → Bool} {mark : Char} {text : List Char}

theorem dropWhile_mark (rest : List Char) :
    (mark :: rest).dropWhile (· == mark) = rest.dropWhile (· == mark) :=
  List.dropWhile_cons_of_pos (beq_self_eq_true mark)

theorem dropWhile_kept {char : Char} (isMark : keep mark = false)
    (kept : keep char = true) (rest : List Char) :
    (char :: rest).dropWhile (· == mark) = char :: rest := by
  apply List.dropWhile_cons_of_neg
  intro same
  rw [beq_iff_eq.mp same, isMark] at kept
  cases kept

namespace Handle

theorem ne_nil (handle : Handle keep mark text) : text ≠ [] := by
  cases handle <;> simp

/-- It starts with a character that is kept. -/
theorem head (handle : Handle keep mark text) :
    ∃ char rest, text = char :: rest ∧ keep char = true := by
  cases handle with
  | single kept =>
      exact ⟨_, _, rfl, kept⟩
  | letter kept _ =>
      exact ⟨_, _, rfl, kept⟩
  | gap kept _ =>
      exact ⟨_, _, rfl, kept⟩

/-- It ends with one, too. -/
theorem last (handle : Handle keep mark text) :
    ∃ front char, text = front ++ [char] ∧ keep char = true := by
  induction handle with
  | single kept =>
      exact ⟨[], _, rfl, kept⟩
  | letter _ _ inductionHypothesis =>
      obtain ⟨front, char, isText, kept⟩ := inductionHypothesis
      exact ⟨_ :: front, char, by rw [isText, List.cons_append], kept⟩
  | gap _ _ inductionHypothesis =>
      obtain ⟨front, char, isText, kept⟩ := inductionHypothesis
      exact ⟨_ :: mark :: front, char, by
        rw [isText, List.cons_append, List.cons_append], kept⟩

/-- A text of kept characters is one word. -/
theorem word (nonempty : text ≠ []) (kept : ∀ char ∈ text, keep char = true) :
    Handle keep mark text := by
  induction text with
  | nil =>
      exact absurd rfl nonempty
  | cons char rest inductionHypothesis =>
      have first := kept char List.mem_cons_self
      cases rest with
      | nil =>
          exact Handle.single first
      | cons second behind =>
          apply Handle.letter first
          apply inductionHypothesis (List.cons_ne_nil _ _)
          intro other isIn
          exact kept other (List.mem_cons_of_mem _ isIn)

/-- Another handle can follow behind a mark. -/
theorem append {other : List Char} (handle : Handle keep mark text)
    (behind : Handle keep mark other) : Handle keep mark (text ++ mark :: other) := by
  induction handle with
  | single kept =>
      exact Handle.gap kept behind
  | letter kept _ inductionHypothesis =>
      exact Handle.letter kept inductionHypothesis
  | gap kept _ inductionHypothesis =>
      exact Handle.gap kept inductionHypothesis

/-- Nothing of a handle is replaced. -/
theorem collapse_eq (isMark : keep mark = false) (handle : Handle keep mark text) :
    collapse keep mark false text = text := by
  have behindMark : ∀ rest, Handle keep mark rest →
      collapse keep mark true rest = collapse keep mark false rest := by
    intro rest isHandle
    obtain ⟨char, behind, isRest, kept⟩ := isHandle.head
    subst isRest
    simp only [collapse, kept, if_true]
  induction handle with
  | single kept =>
      simp only [collapse, kept, if_true]
  | letter kept _ inductionHypothesis =>
      simp only [collapse, kept, if_true, inductionHypothesis]
  | gap kept isHandle inductionHypothesis =>
      simp only [collapse, kept, isMark, if_true, Bool.false_eq_true, if_false,
        behindMark _ isHandle, inductionHypothesis]

theorem dropWhile_eq (isMark : keep mark = false) (handle : Handle keep mark text) :
    text.dropWhile (· == mark) = text := by
  obtain ⟨char, rest, isText, kept⟩ := handle.head
  rw [isText, dropWhile_kept isMark kept]

theorem stripEnd_eq (isMark : keep mark = false) (handle : Handle keep mark text) :
    stripEnd mark text = text := by
  obtain ⟨front, char, isText, kept⟩ := handle.last
  rw [isText, stripEnd, List.reverse_append, List.reverse_singleton,
    List.singleton_append, dropWhile_kept isMark kept, List.reverse_cons,
    List.reverse_reverse]

theorem stripBoth_eq (isMark : keep mark = false) (handle : Handle keep mark text) :
    stripBoth mark text = text := by
  rw [stripBoth, handle.dropWhile_eq isMark, handle.stripEnd_eq isMark]

end Handle

/-- A handle that a mark may follow. -/
def Loose (keep : Char → Bool) (mark : Char) (text : List Char) : Prop :=
  ∃ handle, Handle keep mark handle ∧ (text = handle ∨ text = handle ++ [mark])

theorem Loose.cons {char : Char} (kept : keep char = true)
    (loose : Loose keep mark text) : Loose keep mark (char :: text) := by
  obtain ⟨handle, isHandle, shape⟩ := loose
  refine ⟨char :: handle, Handle.letter kept isHandle, ?_⟩
  rcases shape with shape | shape
  · exact Or.inl (by rw [shape])
  · exact Or.inr (by rw [shape, List.cons_append])

theorem Loose.gap {char : Char} (kept : keep char = true)
    (loose : Loose keep mark text) : Loose keep mark (char :: mark :: text) := by
  obtain ⟨handle, isHandle, shape⟩ := loose
  refine ⟨char :: mark :: handle, Handle.gap kept isHandle, ?_⟩
  rcases shape with shape | shape
  · exact Or.inl (by rw [shape])
  · exact Or.inr (by rw [shape, List.cons_append, List.cons_append])

theorem Loose.stripBoth (isMark : keep mark = false) (loose : Loose keep mark text) :
    Handle keep mark (stripBoth mark text) := by
  obtain ⟨handle, isHandle, shape⟩ := loose
  rcases shape with shape | shape
  · rw [shape, isHandle.stripBoth_eq isMark]
    exact isHandle
  · obtain ⟨char, rest, isText, kept⟩ := isHandle.head
    have front : (handle ++ [mark]).dropWhile (· == mark) = handle ++ [mark] := by
      rw [isText, List.cons_append, dropWhile_kept isMark kept]
    have behind : stripEnd mark (handle ++ [mark]) = stripEnd mark handle := by
      rw [stripEnd, List.reverse_append, List.reverse_singleton,
        List.singleton_append, dropWhile_mark, stripEnd]
    rw [shape, Library.stripBoth, front, behind, isHandle.stripEnd_eq isMark]
    exact isHandle

/-- What runs collapse to: nothing, or a handle with marks about it.  Within a run
no mark comes first. -/
theorem collapse_shape (keep : Char → Bool) (mark : Char) (text : List Char) :
    (collapse keep mark true text = [] ∨ Loose keep mark (collapse keep mark true text)) ∧
      (collapse keep mark false text = [] ∨
        Loose keep mark (collapse keep mark false text) ∨
        ∃ rest, collapse keep mark false text = mark :: rest ∧
          (rest = [] ∨ Loose keep mark rest)) := by
  induction text with
  | nil =>
      exact ⟨Or.inl rfl, Or.inl rfl⟩
  | cons char rest inductionHypothesis =>
      obtain ⟨inside, outside⟩ := inductionHypothesis
      cases kept : keep char with
      | true =>
          have starts : Loose keep mark (char :: collapse keep mark false rest) := by
            rcases outside with empty | loose | ⟨behind, isBehind, shape⟩
            · rw [empty]
              exact ⟨[char], Handle.single kept, Or.inl rfl⟩
            · exact loose.cons kept
            · rw [isBehind]
              rcases shape with shape | shape
              · rw [shape]
                exact ⟨[char], Handle.single kept, Or.inr rfl⟩
              · exact shape.gap kept
          simp only [collapse, kept, if_true]
          exact ⟨Or.inr starts, Or.inr (Or.inl starts)⟩
      | false =>
          simp only [collapse, kept, Bool.false_eq_true, if_false, if_true]
          exact ⟨inside, Or.inr (Or.inr ⟨_, rfl, inside⟩)⟩

/-- The marks of the ends stripped, it is a handle, unless nothing is left. -/
theorem handle_of_collapse (isMark : keep mark = false)
    (nonempty : stripBoth mark (collapse keep mark false text) ≠ []) :
    Handle keep mark (stripBoth mark (collapse keep mark false text)) := by
  rcases (collapse_shape keep mark text).2 with
    empty | loose | ⟨rest, isRest, shape⟩
  · rw [empty] at nonempty
    exact absurd rfl nonempty
  · exact loose.stripBoth isMark
  · have same : stripBoth mark (collapse keep mark false text) =
        stripBoth mark rest := by
      rw [isRest, stripBoth, dropWhile_mark, stripBoth]
    rw [same] at nonempty ⊢
    rcases shape with shape | shape
    · rw [shape] at nonempty
      exact absurd rfl nonempty
    · exact shape.stripBoth isMark

end Handles

/-! ## The first that is free -/

section FirstFree

variable {Value : Type u}

/-- Try one candidate after the other, as long as the fuel lasts. -/
def firstFree (taken : Value → Bool) (candidate : ℕ → Value) : ℕ → ℕ → Value
  | 0, number => candidate number
  | fuel + 1, number =>
      if taken (candidate number) then firstFree taken candidate fuel (number + 1)
      else candidate number

theorem firstFree_eq (taken : Value → Bool) (candidate : ℕ → Value) (fuel number : ℕ) :
    ∃ tried, number ≤ tried ∧ firstFree taken candidate fuel number = candidate tried := by
  induction fuel generalizing number with
  | zero =>
      exact ⟨number, Nat.le_refl _, rfl⟩
  | succ fuel inductionHypothesis =>
      unfold firstFree
      split
      · obtain ⟨tried, isLater, isTried⟩ := inductionHypothesis (number + 1)
        exact ⟨tried, by omega, isTried⟩
      · exact ⟨number, Nat.le_refl _, rfl⟩

variable {taken : Value → Bool} {candidate : ℕ → Value}

/-- It is free, or every candidate in reach is taken. -/
theorem firstFree_taken (fuel number : ℕ)
    (isTaken : taken (firstFree taken candidate fuel number) = true) :
    ∀ tried, number ≤ tried → tried ≤ number + fuel →
      taken (candidate tried) = true := by
  induction fuel generalizing number with
  | zero =>
      intro tried isLater isNear
      have same : tried = number := by omega
      rw [same]
      exact isTaken
  | succ fuel inductionHypothesis =>
      unfold firstFree at isTaken
      split at isTaken
      next isFirst =>
        intro tried isLater isNear
        rcases Nat.eq_or_lt_of_le isLater with same | isBehind
        · rw [← same]
          exact isFirst
        · exact inductionHypothesis (number + 1) isTaken tried isBehind (by omega)
      next isFirst =>
        exact absurd isTaken isFirst

/-- Among more candidates than values are used, one is free. -/
theorem firstFree_free {used : List Value} {fuel number : ℕ}
    (injective : Function.Injective candidate)
    (listed : ∀ value, taken value = true → value ∈ used)
    (enough : used.length ≤ fuel) :
    taken (firstFree taken candidate fuel number) = false := by
  apply eq_false_of_ne_true
  intro isTaken
  have allTaken := firstFree_taken fuel number isTaken
  have distinct : ((List.range' number (fuel + 1)).map candidate).Nodup :=
    List.Nodup.map injective List.nodup_range'
  have included : (List.range' number (fuel + 1)).map candidate ⊆ used := by
    intro value isIn
    obtain ⟨tried, isTried, isValue⟩ := List.mem_map.mp isIn
    have bounds := List.mem_range'_1.mp isTried
    rw [← isValue]
    exact listed _ (allTaken tried bounds.1 (by omega))
  have bound := (List.subperm_of_subset distinct included).length_le
  rw [List.length_map, List.length_range'] at bound
  omega

end FirstFree

end DbBuddy.Library
