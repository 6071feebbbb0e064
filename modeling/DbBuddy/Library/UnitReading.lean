import Mathlib.Data.List.Basic

/-!
# Texts that are read unit by unit

A reader takes a unit from the front of its input, puts down what the unit means,
and goes on until something closes the text.  Where no unit means more symbols than
it has, a reader that has once fallen behind what it reads does not catch up.
-/

namespace DbBuddy.Library

universe u

variable {Symbol : Type u}

/-- `text` is what the units at the front of an input mean, up to what closes it. -/
inductive ReadsUnits (means closes : List Symbol → List Symbol → Prop) :
    List Symbol → List Symbol → List Symbol → Prop
  | close {input after : List Symbol} :
      closes input after → ReadsUnits means closes input [] after
  | unit {taken meant input text after : List Symbol} :
      means taken meant → ReadsUnits means closes input text after →
      ReadsUnits means closes (taken ++ input) (meant ++ text) after

variable {means closes : List Symbol → List Symbol → Prop}

/-- No unit of these symbols means more symbols than it has. -/
def Shrinking (means : List Symbol → List Symbol → Prop) (fine : Symbol → Prop) :
    Prop :=
  ∀ taken meant, means taken meant → (∀ symbol ∈ taken, fine symbol) →
    meant.length ≤ taken.length

/-- A unit with one of the symbols that stand apart means a text that begins with
one. -/
def MarksApart (means : List Symbol → List Symbol → Prop) (apart : Symbol → Prop) :
    Prop :=
  ∀ taken meant, means taken meant → ∀ symbol ∈ taken, apart symbol →
    ∃ first rest, meant = first :: rest ∧ apart first

/-- A text is not what is shown in the input with more in front, up to a symbol that
stands apart. -/
theorem ReadsUnits.not_behind {fine apart : Symbol → Prop}
    (shrinking : Shrinking means fine) (marks : MarksApart means apart)
    {input text after behind shown rest : List Symbol}
    (reads : ReadsUnits means closes input text after)
    (isInput : input = shown ++ rest) (isText : text = behind ++ shown)
    (areFine : ∀ symbol ∈ shown, fine symbol)
    (restApart : ∀ symbol ∈ rest.head?, apart symbol)
    (isBehind : behind ≠ []) (notApart : ∀ symbol ∈ behind, ¬ apart symbol) :
    False := by
  induction reads generalizing behind shown with
  | close isClosed =>
      exact isBehind (List.append_eq_nil_iff.mp isText.symm).1
  | @unit taken meant input text after isUnit reads inductionHypothesis =>
      have sameStart : ∀ first others, meant = first :: others → ¬ apart first := by
        intro first others isMeant
        obtain ⟨start, more, isStart⟩ := List.exists_cons_of_ne_nil isBehind
        rw [isMeant, isStart] at isText
        rw [(List.cons.inj isText).1]
        exact notApart start (by rw [isStart]; exact List.mem_cons_self)
      have takenNotApart : ∀ symbol ∈ taken, ¬ apart symbol := by
        intro symbol isTaken isApart
        obtain ⟨first, others, isMeant, firstApart⟩ :=
          marks taken meant isUnit symbol isTaken isApart
        exact sameStart first others isMeant firstApart
      -- A unit that reached past what is shown would have a symbol that stands apart.
      have isShown : ∃ more, shown = taken ++ more ∧ input = more ++ rest := by
        rcases List.append_eq_append_iff.mp isInput with isLonger | isShorter
        · exact isLonger
        · obtain ⟨beyond, isTaken, isRest⟩ := isShorter
          cases beyond with
          | nil =>
              rw [List.append_nil] at isTaken
              rw [List.nil_append] at isRest
              exact ⟨[], by simp [isTaken], by simp [isRest]⟩
          | cons symbol others =>
              have isApart : apart symbol := restApart symbol (by simp [isRest])
              exact absurd isApart (takenNotApart symbol (by simp [isTaken]))
      obtain ⟨more, isShown, isMore⟩ := isShown
      have sameText : meant ++ text = (behind ++ taken) ++ more := by
        rw [isText, isShown, List.append_assoc]
      have meantShort : meant.length < (behind ++ taken).length := by
        have atMost := shrinking taken meant isUnit (by
          intro symbol isTaken
          apply areFine
          rw [isShown]
          exact List.mem_append_left _ isTaken)
        have behindLong := List.length_pos_of_ne_nil isBehind
        rw [List.length_append]
        omega
      rcases List.append_eq_append_iff.mp sameText with isLonger | isShorter
      · obtain ⟨later, isLater, isText⟩ := isLonger
        refine inductionHypothesis isMore isText ?_ ?_ ?_
        · intro symbol isSymbol
          apply areFine
          rw [isShown]
          exact List.mem_append_right _ isSymbol
        · intro isEmpty
          rw [isEmpty, List.append_nil] at isLater
          rw [isLater] at meantShort
          exact absurd meantShort (Nat.lt_irrefl _)
        · intro symbol isLaterSymbol
          have isThere : symbol ∈ behind ++ taken := by
            rw [isLater]
            exact List.mem_append_right _ isLaterSymbol
          rcases List.mem_append.mp isThere with isBehindSymbol | isTaken
          · exact notApart symbol isBehindSymbol
          · exact takenNotApart symbol isTaken
      · obtain ⟨later, isLater, -⟩ := isShorter
        rw [isLater, List.length_append] at meantShort
        omega

end DbBuddy.Library
