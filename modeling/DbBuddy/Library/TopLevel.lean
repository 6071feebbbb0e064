import DbBuddy.Library.PythonText
import Mathlib.Algebra.GroupWithZero.Nat

/-!
# Texts in pieces at the top level

A lexer reads a text character by character and knows in which of its states a semicolon
separates two statements.  In the others it stands in a literal, a quoted identifier or a
comment.
-/

namespace DbBuddy.Library

/-- How the context of each character follows from what is in front of it.  A semicolon at
the top level begins a statement anew, and so does white space at the beginning of one. -/
structure Lexer where
  State : Type
  start : State
  step : State → Char → State
  separates : State → Bool
  separates_start : separates start = true
  step_separator : ∀ state, separates state = true → step state ';' = start
  step_blank : ∀ char, isSpace char = true → step start char = start

/-- White space, if anything. -/
def AllBlank (text : List Char) : Prop :=
  ∀ char ∈ text, isSpace char = true

/-- More than white space and separators. -/
def isContent (char : Char) : Bool :=
  !isSpace char && char != ';'

theorem isContent_iff {char : Char} :
    isContent char = true ↔ isSpace char = false ∧ char ≠ ';' := by
  simp [isContent]

theorem isSpace_semicolon : isSpace ';' = false := by
  decide

namespace Lexer

variable (lexer : Lexer)

/-- The state behind a text. -/
def run (state : lexer.State) (text : List Char) : lexer.State :=
  text.foldl lexer.step state

/-- The parts of a text between the semicolons at the top level. -/
def pieces : lexer.State → List Char → List (List Char)
  | _, [] => [[]]
  | state, char :: rest =>
      if char = ';' ∧ lexer.separates state = true then [] :: pieces lexer.start rest
      else (pieces (lexer.step state char) rest).modifyHead (char :: ·)

variable {lexer} {state : lexer.State} {char : Char} {text front rest first : List Char}
variable {others : List (List Char)}

theorem pieces_separator (separates : lexer.separates state = true) :
    lexer.pieces state (';' :: rest) = [] :: lexer.pieces lexer.start rest := by
  rw [pieces, if_pos ⟨rfl, separates⟩]

theorem pieces_passed (passed : ¬ (char = ';' ∧ lexer.separates state = true)) :
    lexer.pieces state (char :: rest) =
      (lexer.pieces (lexer.step state char) rest).modifyHead (char :: ·) := by
  rw [pieces, if_neg passed]

theorem pieces_eq_cons (state : lexer.State) (text : List Char) :
    ∃ first others, lexer.pieces state text = first :: others := by
  induction text generalizing state with
  | nil => exact ⟨[], [], rfl⟩
  | cons char rest induction =>
      unfold pieces
      split
      · exact ⟨[], _, rfl⟩
      · obtain ⟨first, others, isPieces⟩ := induction (lexer.step state char)
        rw [isPieces]
        exact ⟨char :: first, others, rfl⟩

/-- A semicolon at the top level cuts the text. -/
theorem pieces_append (separates : lexer.separates (lexer.run state front) = true) :
    lexer.pieces state (front ++ ';' :: rest) =
      lexer.pieces state front ++ lexer.pieces lexer.start rest := by
  induction front generalizing state with
  | nil => exact pieces_separator separates
  | cons char front induction =>
      rw [List.cons_append]
      by_cases isCut : char = ';' ∧ lexer.separates state = true
      · obtain ⟨rfl, separatesHere⟩ := isCut
        have atStart : lexer.run state (';' :: front) = lexer.run lexer.start front := by
          rw [run, List.foldl_cons, lexer.step_separator state separatesHere]
          rfl
        rw [atStart] at separates
        rw [pieces_separator separatesHere, pieces_separator separatesHere,
          induction separates, List.cons_append]
      · obtain ⟨first, others, isPieces⟩ := pieces_eq_cons (lexer.step state char) front
        rw [pieces_passed isCut, pieces_passed isCut, induction separates, isPieces]
        rfl

/-- White space at the beginning stays with the first piece. -/
theorem pieces_blank (isSpaced : isSpace char = true) :
    lexer.pieces lexer.start (char :: rest) =
      (lexer.pieces lexer.start rest).modifyHead (char :: ·) := by
  have passed : ¬ (char = ';' ∧ lexer.separates lexer.start = true) := by
    rintro ⟨rfl, _⟩
    rw [isSpace_semicolon] at isSpaced
    cases isSpaced
  rw [pieces_passed passed, lexer.step_blank char isSpaced]

/-- Nothing is lost but the separators. -/
theorem countP_pieces (state : lexer.State) (text : List Char) :
    ((lexer.pieces state text).map (List.countP isContent)).sum = text.countP isContent := by
  induction text generalizing state with
  | nil => rfl
  | cons char rest induction =>
      by_cases isCut : char = ';' ∧ lexer.separates state = true
      · obtain ⟨rfl, separates⟩ := isCut
        rw [pieces_separator separates, List.map_cons, List.sum_cons, induction,
          List.countP_nil, List.countP_cons_of_neg (by decide), Nat.zero_add]
      · rw [pieces_passed isCut]
        have counted := induction (lexer.step state char)
        obtain ⟨first, others, isPieces⟩ := pieces_eq_cons (lexer.step state char) rest
        rw [isPieces, List.map_cons, List.sum_cons] at counted
        rw [isPieces, List.modifyHead_cons, List.map_cons, List.sum_cons, List.countP_cons,
          List.countP_cons, ← counted]
        omega

/-- The text is its pieces with the separators between them. -/
theorem eq_of_pieces (isPieces : lexer.pieces state text = first :: others) :
    text = first ++ others.flatMap (';' :: ·) := by
  induction text generalizing state first others with
  | nil =>
      cases isPieces
      rfl
  | cons char rest induction =>
      by_cases isCut : char = ';' ∧ lexer.separates state = true
      · obtain ⟨rfl, separates⟩ := isCut
        obtain ⟨next, behind, isRest⟩ := pieces_eq_cons lexer.start rest
        rw [pieces_separator separates, isRest] at isPieces
        cases isPieces
        rw [induction isRest]
        rfl
      · obtain ⟨next, behind, isRest⟩ := pieces_eq_cons (lexer.step state char) rest
        rw [pieces_passed isCut, isRest] at isPieces
        cases isPieces
        rw [induction isRest]
        rfl

/-- A text that is more than white space begins with content behind it. -/
def HasContent (piece : List Char) : Prop :=
  ∃ lead char behind, piece = lead ++ char :: behind ∧ AllBlank lead ∧ isContent char = true

theorem HasContent.countP_pos {piece : List Char} (hasContent : HasContent piece) :
    0 < piece.countP isContent := by
  obtain ⟨lead, char, behind, rfl, _, isIn⟩ := hasContent
  rw [List.countP_append, List.countP_cons_of_pos isIn]
  omega

theorem HasContent.cons {piece : List Char} (isSpaced : isSpace char = true)
    (hasContent : HasContent piece) : HasContent (char :: piece) := by
  obtain ⟨lead, next, behind, rfl, isLead, isIn⟩ := hasContent
  refine ⟨char :: lead, next, behind, rfl, ?_, isIn⟩
  intro other isOther
  rcases List.mem_cons.mp isOther with rfl | isLater
  · exact isSpaced
  · exact isLead other isLater

theorem allBlank_nil : AllBlank [] := by
  intro char isIn
  cases isIn

theorem allBlank_cons : AllBlank (char :: rest) ↔ isSpace char = true ∧ AllBlank rest :=
  List.forall_mem_cons

/-- The first piece of a statement that begins anew has content, if it is not blank. -/
theorem content_of_first (isPieces : lexer.pieces lexer.start text = first :: others)
    (notBlank : ¬ AllBlank first) : HasContent first := by
  induction text generalizing first others with
  | nil =>
      cases isPieces
      exact absurd allBlank_nil notBlank
  | cons char rest induction =>
      by_cases isSpaced : isSpace char = true
      · obtain ⟨first', others', isRest⟩ := pieces_eq_cons lexer.start rest
        rw [pieces_blank isSpaced, isRest, List.modifyHead_cons] at isPieces
        cases isPieces
        apply HasContent.cons isSpaced
        apply induction isRest
        intro blank
        exact notBlank (allBlank_cons.mpr ⟨isSpaced, blank⟩)
      · by_cases isCut : char = ';'
        · subst isCut
          rw [pieces_separator lexer.separates_start] at isPieces
          cases isPieces
          exact absurd allBlank_nil notBlank
        · obtain ⟨first', others', isRest⟩ := pieces_eq_cons (lexer.step lexer.start char) rest
          rw [pieces_passed fun both => isCut both.1, isRest, List.modifyHead_cons] at isPieces
          cases isPieces
          exact ⟨[], char, first', rfl, allBlank_nil,
            isContent_iff.mpr ⟨eq_false_of_ne_true isSpaced, isCut⟩⟩

/-- Every piece but the first begins a statement anew. -/
theorem pieces_tail (state : lexer.State) (text : List Char) :
    ∀ piece ∈ (lexer.pieces state text).tail, ∃ behind others,
      lexer.pieces lexer.start behind = piece :: others := by
  induction text generalizing state with
  | nil => nofun
  | cons char rest induction =>
      intro piece isPiece
      by_cases isCut : char = ';' ∧ lexer.separates state = true
      · obtain ⟨rfl, separates⟩ := isCut
        obtain ⟨first, others, isPieces⟩ := pieces_eq_cons lexer.start rest
        rw [pieces_separator separates, List.tail_cons, isPieces] at isPiece
        rcases List.mem_cons.mp isPiece with rfl | isLater
        · exact ⟨rest, others, isPieces⟩
        · apply induction lexer.start
          rw [isPieces]
          exact isLater
      · obtain ⟨first, others, isPieces⟩ := pieces_eq_cons (lexer.step state char) rest
        rw [pieces_passed isCut, isPieces, List.modifyHead_cons] at isPiece
        apply induction (lexer.step state char)
        rw [isPieces]
        exact isPiece

/-- Every piece that is not blank has content. -/
theorem content_of_piece {piece : List Char}
    (isPiece : piece ∈ lexer.pieces lexer.start text) (notBlank : ¬ AllBlank piece) :
    HasContent piece := by
  obtain ⟨first, others, isPieces⟩ := pieces_eq_cons lexer.start text
  have isTail := pieces_tail lexer.start text piece
  rw [isPieces] at isPiece isTail
  rcases List.mem_cons.mp isPiece with rfl | isLater
  · exact content_of_first isPieces notBlank
  · obtain ⟨behind, others', isFirst⟩ := isTail isLater
    exact content_of_first isFirst notBlank

end Lexer

end DbBuddy.Library
