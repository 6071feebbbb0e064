import Mathlib.Data.List.Basic

/-!
# Texts with holes

A hole is written `%s`.  Filling replaces the holes from left to right by what
the given values show as.
-/

namespace DbBuddy.Library

universe u

variable {Value : Type u} (shown : Value → List Char)

/-- Replace the holes of a text by the values in turn, all of them. -/
def fill : List Char → List Value → Option (List Char)
  | [], [] => some []
  | [], _ :: _ => none
  | '%' :: 's' :: _, [] => none
  | '%' :: 's' :: rest, value :: values =>
      (fill rest values).map (shown value ++ ·)
  | char :: rest, values => (fill rest values).map (char :: ·)

/-- The number of holes of a text. -/
def holes : List Char → ℕ
  | [] => 0
  | '%' :: 's' :: rest => holes rest + 1
  | _ :: rest => holes rest

/-- `filled` is the text with its holes filled by the values, where a percent sign
only ever begins a hole. -/
inductive Fills : List Char → List Value → List Char → Prop
  | nil : Fills [] [] []
  | char {char : Char} {text filled : List Char} {values : List Value} :
      char ≠ '%' → Fills text values filled →
      Fills (char :: text) values (char :: filled)
  | hole {value : Value} {text filled : List Char} {values : List Value} :
      Fills text values filled →
      Fills ('%' :: 's' :: text) (value :: values) (shown value ++ filled)

variable {shown} {text more filled filledMore : List Char}
variable {values moreValues : List Value}

theorem Fills.append (fills : Fills shown text values filled)
    (fillsMore : Fills shown more moreValues filledMore) :
    Fills shown (text ++ more) (values ++ moreValues) (filled ++ filledMore) := by
  induction fills with
  | nil =>
      exact fillsMore
  | char notPercent _ inductionHypothesis =>
      exact Fills.char notPercent inductionHypothesis
  | hole _ inductionHypothesis =>
      rw [List.append_assoc]
      exact Fills.hole inductionHypothesis

/-- A text without percent signs has no holes. -/
theorem Fills.plain (isPlain : '%' ∉ text) : Fills shown text [] text := by
  induction text with
  | nil =>
      exact Fills.nil
  | cons char rest inductionHypothesis =>
      obtain ⟨notPercent, restPlain⟩ := List.mem_cons.not.mp isPlain |> not_or.mp
      exact Fills.char (fun same => notPercent same.symm)
        (inductionHypothesis restPlain)

/-- One hole. -/
theorem Fills.one (shown : Value → List Char) (value : Value) :
    Fills shown ['%', 's'] [value] (shown value) := by
  have filled : Fills shown ['%', 's'] [value] (shown value ++ []) :=
    Fills.hole Fills.nil
  rwa [List.append_nil] at filled

theorem Fills.fill_eq (fills : Fills shown text values filled) :
    fill shown text values = some filled := by
  induction fills with
  | nil =>
      rfl
  | @char char text filled values notPercent _ inductionHypothesis =>
      rw [fill]
      · rw [inductionHypothesis, Option.map_some]
      · intros
        contradiction
      · intros
        contradiction
  | hole _ inductionHypothesis =>
      rw [fill, inductionHypothesis, Option.map_some]

theorem Fills.holes_eq (fills : Fills shown text values filled) :
    holes text = values.length := by
  induction fills with
  | nil =>
      rfl
  | char notPercent _ inductionHypothesis =>
      rw [holes]
      · exact inductionHypothesis
      · exact fun _ isPercent => absurd isPercent notPercent
  | hole _ inductionHypothesis =>
      rw [holes, inductionHypothesis, List.length_cons]

end DbBuddy.Library
