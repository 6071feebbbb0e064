import Mathlib.Data.List.Basic

/-!
# Scanning a text from left to right

A scanner looks at the front of what is left of a text.  Where it finds a match it
yields a piece and goes on behind it; elsewhere it passes one character.  A
pattern substitution and a lexer are both of this kind.
-/

namespace DbBuddy.Library

universe u

variable {Piece : Type u}

/-- The piece found at the front of a text, and what is left of the text. -/
abbrev Matcher (Piece : Type u) := List Char → Option (Piece × List Char)

/-- A match takes at least one character, and leaves the end of the text. -/
def Consumes (matchAt : Matcher Piece) : Prop :=
  ∀ char rest piece after, matchAt (char :: rest) = some (piece, after) →
    after <:+ rest

def scanFrom (matchAt : Matcher Piece) (passed : Char → Piece) :
    ℕ → List Char → List Piece
  | 0, _ => []
  | _ + 1, [] => []
  | fuel + 1, char :: rest =>
      match matchAt (char :: rest) with
      | some (piece, after) => piece :: scanFrom matchAt passed fuel after
      | none => passed char :: scanFrom matchAt passed fuel rest

/-- The pieces of a text. -/
def scan (matchAt : Matcher Piece) (passed : Char → Piece)
    (text : List Char) : List Piece :=
  scanFrom matchAt passed text.length text

/-- `re.sub`: every match is replaced, and the rest is kept. -/
def substitute (matchAt : Matcher (List Char)) (text : List Char) : List Char :=
  (scan matchAt (fun char => [char]) text).flatten

section Laws

variable {matchAt : Matcher Piece} {passed : Char → Piece}

/-- More fuel than the text has characters changes nothing. -/
theorem scanFrom_enough (consumes : Consumes matchAt) (fuel : ℕ)
    (text : List Char) (enough : text.length ≤ fuel) :
    scanFrom matchAt passed fuel text = scan matchAt passed text := by
  have stable : ∀ (more : ℕ) (fewer : ℕ) (text : List Char),
      text.length ≤ more → text.length ≤ fewer →
      scanFrom matchAt passed more text = scanFrom matchAt passed fewer text := by
    intro more
    induction more with
    | zero =>
        intro fewer text fits _
        have isNil : text = [] := List.length_eq_zero_iff.mp (Nat.le_zero.mp fits)
        cases fewer with
        | zero =>
            rfl
        | succ fewer =>
            rw [isNil]
            rfl
    | succ more inductionHypothesis =>
        intro fewer text fits alsoFits
        cases text with
        | nil =>
            cases fewer with
            | zero =>
                rfl
            | succ fewer =>
                rfl
        | cons char rest =>
            cases fewer with
            | zero =>
                cases Nat.not_succ_le_zero _ alsoFits
            | succ fewer =>
                simp only [List.length_cons, Nat.add_le_add_iff_right]
                  at fits alsoFits
                simp only [scanFrom]
                cases found : matchAt (char :: rest) with
                | none =>
                    simp only [inductionHypothesis fewer rest fits alsoFits]
                | some hit =>
                    have shorter : hit.2.length ≤ rest.length :=
                      (consumes char rest hit.1 hit.2 found).length_le
                    simp only [inductionHypothesis fewer hit.2
                      (Nat.le_trans shorter fits) (Nat.le_trans shorter alsoFits)]
  exact stable fuel text.length text enough (Nat.le_refl _)

@[simp]
theorem scan_nil : scan matchAt passed [] = [] := rfl

theorem scan_passed {char : Char} {rest : List Char}
    (noMatch : matchAt (char :: rest) = none) :
    scan matchAt passed (char :: rest) =
      passed char :: scan matchAt passed rest := by
  simp only [scan, List.length_cons, scanFrom, noMatch]

theorem scan_matched (consumes : Consumes matchAt) {char : Char}
    {rest after : List Char} {piece : Piece}
    (found : matchAt (char :: rest) = some (piece, after)) :
    scan matchAt passed (char :: rest) = piece :: scan matchAt passed after := by
  have shorter : after.length ≤ rest.length :=
    (consumes char rest piece after found).length_le
  have enough : scanFrom matchAt passed rest.length after =
      scan matchAt passed after :=
    scanFrom_enough consumes rest.length after shorter
  rw [← enough]
  simp only [scan, List.length_cons, scanFrom, found]

/-- Text in front that nothing is found in is passed as it is. -/
theorem scan_append {front : List Char} (text : List Char)
    (noMatch : ∀ char ∈ front, ∀ rest, matchAt (char :: rest) = none) :
    scan matchAt passed (front ++ text) =
      front.map passed ++ scan matchAt passed text := by
  induction front with
  | nil =>
      rfl
  | cons char rest inductionHypothesis =>
      have restNoMatch := inductionHypothesis fun other isIn =>
        noMatch other (List.mem_cons_of_mem char isIn)
      rw [List.cons_append, scan_passed (noMatch char List.mem_cons_self _),
        restNoMatch]
      rfl

/-- What is passed comes from the text, in its order. -/
theorem scan_sublist (consumes : Consumes matchAt) (kept : Piece → List Char)
    (keptPassed : ∀ char, kept (passed char) = [char])
    (keptMatched : ∀ text piece after, matchAt text = some (piece, after) →
      kept piece = [])
    (text : List Char) :
    ((scan matchAt passed text).flatMap kept).Sublist text := by
  induction hlength : text.length using Nat.strongRecOn generalizing text with
  | ind length inductionHypothesis =>
      cases text with
      | nil =>
          exact List.nil_sublist _
      | cons char rest =>
          subst hlength
          cases found : matchAt (char :: rest) with
          | none =>
              have below := inductionHypothesis rest.length (Nat.lt_succ_self _)
                rest rfl
              rw [scan_passed found, List.flatMap_cons, keptPassed]
              exact below.cons_cons char
          | some hit =>
              have isSuffix := consumes char rest hit.1 hit.2 found
              have below := inductionHypothesis hit.2.length
                (Nat.lt_succ_of_le isSuffix.length_le) hit.2 rfl
              rw [scan_matched consumes found, List.flatMap_cons,
                keptMatched _ _ _ found, List.nil_append]
              exact (below.trans isSuffix.sublist).cons char

end Laws

end DbBuddy.Library
