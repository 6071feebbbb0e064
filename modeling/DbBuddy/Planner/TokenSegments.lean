import DbBuddy.Library.PythonText
import Mathlib.Data.List.Basic
import Mathlib.Logic.Function.Basic

/-!
# Column tokens cut into the words of the query

`segment_token` walks over the split points of a token and notes for each one that it can
reach where the word before it begins.  It finds a decomposition into at least two words
just if the token is no word itself.
-/

namespace DbBuddy.Planner

/-- The lists `back` and `reach`. -/
structure SplitPoints where
  back : ℕ → Option ℕ
  reach : ℕ → Bool

section Segments

variable (vocab : List (List Char)) (minPiece : ℕ) (token : List Char)

/-- `token[start:stop]` -/
def slice (start stop : ℕ) : List Char :=
  (token.drop start).take (stop - start)

/-- The body of the inner loop. -/
def SplitPoints.extend (points : SplitPoints) (start stop : ℕ) : SplitPoints :=
  if points.reach stop = false ∧ slice token start stop ∈ vocab then
    { back := Function.update points.back stop (some start)
      reach := Function.update points.reach stop true }
  else points

/-- The body of the outer loop. -/
def SplitPoints.visit (points : SplitPoints) (start : ℕ) : SplitPoints :=
  if points.reach start = true then
    (List.range' (start + minPiece) (token.length + 1 - (start + minPiece))).foldl
      (fun points stop => points.extend vocab token start stop) points
  else points

def splitPoints : SplitPoints :=
  (List.range token.length).foldl (fun points start => points.visit vocab minPiece token start)
    ⟨fun _ => none, fun stop => decide (stop = 0)⟩

/-- The loop `while cursor`; `none` if it is not over after `fuel` rounds. -/
def followBack (back : ℕ → Option ℕ) :
    ℕ → ℕ → List (List Char) → Option (Option (List (List Char)))
  | _, 0, pieces => some (some pieces)
  | 0, _ + 1, _ => none
  | fuel + 1, cursor + 1, pieces =>
      match back (cursor + 1) with
      | none => some none
      | some start => followBack back fuel start (slice token start (cursor + 1) :: pieces)

/-- `segment_token`, with `none` if its last loop does not end. -/
def segmentToken : Option (Option (List (List Char))) :=
  if token.length < minPiece * 2 then some none
  else
    let points := splitPoints vocab minPiece token
    if points.reach token.length = false then some none
    else
      (followBack token points.back token.length token.length []).map fun found =>
        found.bind fun pieces => if pieces.length > 1 then some pieces else none

/-! ## Decompositions -/

/-- Words of the vocabulary, long enough, that make up the token. -/
structure Pieces (pieces : List (List Char)) : Prop where
  words : ∀ piece ∈ pieces, piece ∈ vocab ∧ minPiece ≤ piece.length
  whole : pieces.flatten = token

structure Decomposition (pieces : List (List Char)) : Prop
    extends Pieces vocab minPiece token pieces where
  several : 2 ≤ pieces.length

/-- The law: the token is cut just if it can be, and into such pieces. -/
def SegmentsExactly : Prop :=
  ∃ result, segmentToken vocab minPiece token = some result ∧
    (result.isSome = true ↔ ∃ pieces, Decomposition vocab minPiece token pieces) ∧
    ∀ pieces, result = some pieces → Decomposition vocab minPiece token pieces

end Segments

/-! ## What the loops do -/

section Loops

variable {vocab : List (List Char)} {minPiece : ℕ} {token : List Char}
  {points : SplitPoints} {start stop : ℕ}

theorem foldl_extend (points : SplitPoints) (start : ℕ) (stops : List ℕ) (stop : ℕ) :
    (stops.foldl (fun points stop => points.extend vocab token start stop) points).reach
        stop = (points.reach stop ||
          (decide (stop ∈ stops) && decide (slice token start stop ∈ vocab))) ∧
    (stops.foldl (fun points stop => points.extend vocab token start stop) points).back
        stop = if points.reach stop = false ∧ stop ∈ stops ∧
          slice token start stop ∈ vocab then some start else points.back stop := by
  induction stops generalizing points with
  | nil => simp
  | cons first rest inductionHypothesis =>
      obtain ⟨isReach, isBack⟩ := inductionHypothesis (points.extend vocab token start first)
      rw [List.foldl_cons, isReach, isBack]
      unfold SplitPoints.extend
      by_cases isExtended : points.reach first = false ∧ slice token start first ∈ vocab
      · rw [if_pos isExtended]
        by_cases isSame : stop = first
        · subst isSame
          simp [isExtended.1, isExtended.2]
        · simp [isSame]
      · rw [if_neg isExtended]
        by_cases isSame : stop = first
        · subst isSame
          cases isReached : points.reach stop with
          | true => simp
          | false =>
              have noWord : slice token start stop ∉ vocab := fun isWord =>
                isExtended ⟨isReached, isWord⟩
              simp [noWord]
        · simp [isSame]

/-- What one round of the outer loop adds: the ends of the words that begin there. -/
def Reaches (vocab : List (List Char)) (minPiece : ℕ) (token : List Char) (start stop : ℕ) :
    Prop :=
  start + minPiece ≤ stop ∧ stop ≤ token.length ∧ slice token start stop ∈ vocab

theorem mem_stops : stop ∈ List.range' (start + minPiece)
    (token.length + 1 - (start + minPiece)) ↔
      start + minPiece ≤ stop ∧ stop ≤ token.length := by
  rw [List.mem_range'_1]
  omega

theorem visit_reach (isReached : points.reach start = true) :
    (points.visit vocab minPiece token start).reach stop = true ↔
      points.reach stop = true ∨ Reaches vocab minPiece token start stop := by
  unfold SplitPoints.visit
  rw [if_pos isReached, (foldl_extend points start _ stop).1, Bool.or_eq_true,
    Bool.and_eq_true, decide_eq_true_iff, decide_eq_true_iff, mem_stops]
  unfold Reaches
  rw [and_assoc]

theorem visit_back (isReached : points.reach start = true) {begin : ℕ} :
    (points.visit vocab minPiece token start).back stop = some begin ↔
      (points.reach stop = false ∧ Reaches vocab minPiece token start stop ∧
        begin = start) ∨
      (¬(points.reach stop = false ∧ Reaches vocab minPiece token start stop) ∧
        points.back stop = some begin) := by
  unfold SplitPoints.visit
  rw [if_pos isReached, (foldl_extend points start _ stop).2]
  have same : (points.reach stop = false ∧ stop ∈ List.range' (start + minPiece)
      (token.length + 1 - (start + minPiece)) ∧ slice token start stop ∈ vocab) ↔
        (points.reach stop = false ∧ Reaches vocab minPiece token start stop) := by
    rw [mem_stops]
    unfold Reaches
    rw [and_assoc]
  by_cases isNew : points.reach stop = false ∧ Reaches vocab minPiece token start stop
  · rw [if_pos (same.mpr isNew)]
    simp [isNew, eq_comm]
  · rw [if_neg fun isIn => isNew (same.mp isIn)]
    simp only [isNew, not_false_eq_true, true_and]
    tauto

theorem visit_of_not_reach (notReached : points.reach start = false) :
    points.visit vocab minPiece token start = points := by
  unfold SplitPoints.visit
  rw [if_neg (by simp [notReached])]

/-! ## The invariant of the outer loop -/

/-- What the lists hold once the words that begin before `upTo` have been tried. -/
structure Tried (vocab : List (List Char)) (minPiece : ℕ) (token : List Char) (upTo : ℕ)
    (points : SplitPoints) : Prop where
  zero : points.reach 0 = true
  back : ∀ stop start, points.back stop = some start →
    start < stop ∧ Reaches vocab minPiece token start stop ∧ points.reach start = true
  reached : ∀ stop, points.reach stop = true →
    stop = 0 ∨ ∃ start, points.back stop = some start
  closed : ∀ start < upTo, points.reach start = true → ∀ stop,
    Reaches vocab minPiece token start stop → points.reach stop = true

theorem Reaches.le (extended : Reaches vocab minPiece token start stop) : start ≤ stop := by
  have bound := extended.1
  omega

theorem Tried.visit_of_reach {upTo : ℕ} (tried : Tried vocab minPiece token upTo points)
    (isReached : points.reach upTo = true) :
    Tried vocab minPiece token (upTo + 1) (points.visit vocab minPiece token upTo) where
  zero := (visit_reach isReached).mpr (Or.inl tried.zero)
  back := fun stop start isBack => by
    rcases (visit_back isReached).mp isBack with ⟨isNew, extended, rfl⟩ | ⟨_, wasBack⟩
    · refine ⟨?_, extended, (visit_reach isReached).mpr (Or.inl isReached)⟩
      have notSame : start ≠ stop := by
        rintro rfl
        rw [isReached] at isNew
        cases isNew
      have bound := extended.le
      omega
    · obtain ⟨isBefore, extended, wasReached⟩ := tried.back stop start wasBack
      exact ⟨isBefore, extended, (visit_reach isReached).mpr (Or.inl wasReached)⟩
  reached := fun stop isNow => by
    cases wasReached : points.reach stop with
    | true =>
        refine (tried.reached stop wasReached).imp_right ?_
        rintro ⟨start, wasBack⟩
        refine ⟨start, (visit_back isReached).mpr (Or.inr ⟨?_, wasBack⟩)⟩
        rintro ⟨notReached, _⟩
        rw [wasReached] at notReached
        cases notReached
    | false =>
        rcases (visit_reach isReached).mp isNow with isTrue | extended
        · rw [wasReached] at isTrue
          cases isTrue
        · exact Or.inr ⟨upTo, (visit_back isReached).mpr
            (Or.inl ⟨wasReached, extended, rfl⟩)⟩
  closed := fun start isBefore isStart stop extended => by
    rcases (visit_reach isReached).mp isStart with wasStart | startExtended
    · by_cases isLast : start = upTo
      · subst isLast
        exact (visit_reach isReached).mpr (Or.inr extended)
      · exact (visit_reach isReached).mpr
          (Or.inl (tried.closed start (by omega) wasStart stop extended))
    · -- a point reached only now lies behind `upTo`, or is `upTo`
      have bound := startExtended.le
      have isLast : start = upTo := by omega
      subst isLast
      exact (visit_reach isReached).mpr (Or.inr extended)

theorem Tried.visit {upTo : ℕ} (tried : Tried vocab minPiece token upTo points) :
    Tried vocab minPiece token (upTo + 1) (points.visit vocab minPiece token upTo) := by
  cases isReached : points.reach upTo with
  | true => exact tried.visit_of_reach isReached
  | false =>
      rw [visit_of_not_reach isReached]
      refine ⟨tried.zero, tried.back, tried.reached, ?_⟩
      intro start isBefore isStart stop extended
      by_cases isLast : start = upTo
      · rw [isLast, isReached] at isStart
        cases isStart
      · exact tried.closed start (by omega) isStart stop extended

def pointsAfter (vocab : List (List Char)) (minPiece : ℕ) (token : List Char) (upTo : ℕ) :
    SplitPoints :=
  (List.range upTo).foldl (fun points start => points.visit vocab minPiece token start)
    ⟨fun _ => none, fun stop => decide (stop = 0)⟩

theorem pointsAfter_succ (upTo : ℕ) : pointsAfter vocab minPiece token (upTo + 1) =
    (pointsAfter vocab minPiece token upTo).visit vocab minPiece token upTo := by
  simp [pointsAfter, List.range_succ, List.foldl_append]

variable (vocab minPiece token) in
theorem tried_pointsAfter (upTo : ℕ) :
    Tried vocab minPiece token upTo (pointsAfter vocab minPiece token upTo) := by
  induction upTo with
  | zero =>
      refine ⟨rfl, ?_, ?_, ?_⟩
      · intro stop start isBack
        cases isBack
      · intro stop isReached
        exact Or.inl (of_decide_eq_true isReached)
      · intro start isBefore
        omega
  | succ upTo inductionHypothesis =>
      rw [pointsAfter_succ]
      exact inductionHypothesis.visit

variable (vocab minPiece token) in
theorem tried_splitPoints : Tried vocab minPiece token token.length
    (splitPoints vocab minPiece token) :=
  tried_pointsAfter vocab minPiece token token.length

/-! ## Completeness -/

theorem slice_append (front piece rest : List Char) :
    slice (front ++ (piece ++ rest)) front.length (front.length + piece.length) = piece := by
  unfold slice
  rw [List.drop_left, Nat.add_sub_cancel_left, List.take_left]

/-- From a point that is reached, words lead to points that are. -/
theorem Tried.reach_length (tried : Tried vocab minPiece token token.length points)
    {pieces : List (List Char)}
    (words : ∀ piece ∈ pieces, piece ∈ vocab ∧ minPiece ≤ piece.length)
    (front : List Char) (whole : front ++ pieces.flatten = token)
    (isReached : points.reach front.length = true) :
    points.reach token.length = true := by
  induction pieces generalizing front with
  | nil =>
      rw [List.flatten_nil, List.append_nil] at whole
      exact whole ▸ isReached
  | cons piece rest inductionHypothesis =>
      rw [List.flatten_cons] at whole
      have isLength := congrArg List.length whole
      simp only [List.length_append] at isLength
      obtain ⟨isWord, isLong⟩ := words piece List.mem_cons_self
      have isSlice : slice token front.length (front.length + piece.length) = piece := by
        rw [← whole]
        exact slice_append front piece rest.flatten
      have extended : Reaches vocab minPiece token front.length
          (front.length + piece.length) :=
        ⟨by omega, by omega, by rw [isSlice]; exact isWord⟩
      have isNext : points.reach (front ++ piece).length = true := by
        rw [List.length_append]
        by_cases isEnd : front.length < token.length
        · exact tried.closed front.length isEnd isReached _ extended
        · have isEmpty : piece.length = 0 := by omega
          rw [isEmpty, Nat.add_zero]
          exact isReached
      apply inductionHypothesis _ (front ++ piece)
      · rw [List.append_assoc]
        exact whole
      · exact isNext
      · exact fun other isOther => words other (List.mem_cons_of_mem piece isOther)

/-! ## The way back -/

theorem slice_append_drop (extended : Reaches vocab minPiece token start stop) :
    slice token start stop ++ token.drop stop = token.drop start := by
  have isLater : token.drop stop = (token.drop start).drop (stop - start) := by
    rw [List.drop_drop]
    congr 1
    have bound := extended.le
    omega
  unfold slice
  rw [isLater, List.take_append_drop]

theorem length_slice (extended : Reaches vocab minPiece token start stop) :
    minPiece ≤ (slice token start stop).length := by
  unfold slice
  rw [List.length_take, List.length_drop]
  have bounds := extended
  unfold Reaches at bounds
  omega

/-- From a point that is reached, the way back ends at the front. -/
theorem Tried.followBack {upTo : ℕ} (tried : Tried vocab minPiece token upTo points)
    {fuel cursor : ℕ} (pieces : List (List Char)) (enough : cursor ≤ fuel)
    (isReached : points.reach cursor = true)
    (words : ∀ piece ∈ pieces, piece ∈ vocab ∧ minPiece ≤ piece.length)
    (whole : pieces.flatten = token.drop cursor) :
    ∃ found, followBack token points.back fuel cursor pieces = some (some found) ∧
      Pieces vocab minPiece token found := by
  induction fuel generalizing cursor pieces with
  | zero =>
      have isZero : cursor = 0 := by omega
      subst isZero
      exact ⟨pieces, rfl, words, whole⟩
  | succ fuel inductionHypothesis =>
      cases cursor with
      | zero => exact ⟨pieces, rfl, words, whole⟩
      | succ cursor =>
          rcases tried.reached (cursor + 1) isReached with isZero | ⟨start, isBack⟩
          · cases isZero
          · obtain ⟨isBefore, extended, wasReached⟩ := tried.back _ start isBack
            have isRound : Planner.followBack token points.back (fuel + 1) (cursor + 1) pieces =
                Planner.followBack token points.back fuel start
                  (slice token start (cursor + 1) :: pieces) := by
              simp only [Planner.followBack, isBack]
            rw [isRound]
            apply inductionHypothesis _ (by omega) wasReached
            · intro piece isPiece
              rcases List.mem_cons.mp isPiece with rfl | isLater
              · exact ⟨extended.2.2, length_slice extended⟩
              · exact words piece isLater
            · rw [List.flatten_cons, whole, slice_append_drop extended]

theorem slice_whole : slice token 0 token.length = token := by
  simp [slice]

/-- A word is noted as one piece, and that is what the way back finds. -/
theorem back_of_word (isWord : token ∈ vocab) (isLong : minPiece ≤ token.length)
    (nonempty : 0 < token.length) (upTo : ℕ) (started : 0 < upTo) :
    (pointsAfter vocab minPiece token upTo).back token.length = some 0 ∧
      (pointsAfter vocab minPiece token upTo).reach token.length = true := by
  induction upTo with
  | zero => omega
  | succ upTo inductionHypothesis =>
      have tried := tried_pointsAfter vocab minPiece token upTo
      rw [pointsAfter_succ]
      by_cases isFirst : upTo = 0
      · subst isFirst
        have extended : Reaches vocab minPiece token 0 token.length :=
          ⟨by omega, Nat.le_refl _, by rw [slice_whole]; exact isWord⟩
        have isNew : (pointsAfter vocab minPiece token 0).reach token.length = false :=
          decide_eq_false (by omega)
        exact ⟨(visit_back tried.zero).mpr (Or.inl ⟨isNew, extended, rfl⟩),
          (visit_reach tried.zero).mpr (Or.inr extended)⟩
      · obtain ⟨isBack, isReach⟩ := inductionHypothesis (by omega)
        cases isReached : (pointsAfter vocab minPiece token upTo).reach upTo with
        | false =>
            rw [visit_of_not_reach isReached]
            exact ⟨isBack, isReach⟩
        | true =>
            refine ⟨(visit_back isReached).mpr (Or.inr ⟨?_, isBack⟩),
              (visit_reach isReached).mpr (Or.inl isReach)⟩
            rintro ⟨notReached, _⟩
            rw [isReach] at notReached
            cases notReached

end Loops

/-! ## When the law holds -/

section Law

variable {vocab : List (List Char)} {minPiece : ℕ} {token : List Char}

theorem segmentToken_of_word (isWord : token ∈ vocab) :
    segmentToken vocab minPiece token = some none := by
  unfold segmentToken
  by_cases isShort : token.length < minPiece * 2
  · rw [if_pos isShort]
  · rw [if_neg isShort]
    cases isToken : token with
    | nil => rfl
    | cons first rest =>
        rw [← isToken]
        have isLength : token.length = rest.length + 1 := by rw [isToken, List.length_cons]
        have isLong : minPiece ≤ token.length := by omega
        obtain ⟨isBack, isReach⟩ := back_of_word isWord isLong (by omega) token.length
          (by omega)
        have isPoints : pointsAfter vocab minPiece token token.length =
            splitPoints vocab minPiece token := rfl
        rw [isPoints] at isBack isReach
        simp only [isReach, Bool.true_eq_false, if_false]
        rw [isLength] at isBack ⊢
        simp [followBack, isBack]

theorem Decomposition.length_le {pieces : List (List Char)}
    (cut : Decomposition vocab minPiece token pieces) : minPiece * 2 ≤ token.length := by
  match pieces, cut with
  | [], cut => exact absurd cut.several (by simp)
  | [_], cut => exact absurd cut.several (by simp)
  | first :: second :: rest, cut =>
      have isFirst := (cut.words first List.mem_cons_self).2
      have isSecond := (cut.words second (by simp)).2
      rw [← cut.whole]
      simp only [List.flatten_cons, List.length_append]
      omega

/-- A token that is no word is cut just if it can be. -/
theorem segmentsExactly_of_not_mem (notWord : token ∉ vocab) :
    SegmentsExactly vocab minPiece token := by
  unfold SegmentsExactly segmentToken
  by_cases isShort : token.length < minPiece * 2
  · rw [if_pos isShort]
    refine ⟨none, rfl, ?_, fun pieces isFound => by cases isFound⟩
    constructor
    · intro isSome
      cases isSome
    · rintro ⟨pieces, cut⟩
      have bound := cut.length_le
      omega
  rw [if_neg isShort]
  have tried := tried_splitPoints vocab minPiece token
  cases isReached : (splitPoints vocab minPiece token).reach token.length with
  | false =>
      simp only [isReached, if_true]
      refine ⟨none, rfl, ?_, fun pieces isFound => by cases isFound⟩
      constructor
      · intro isSome
        cases isSome
      · rintro ⟨pieces, cut⟩
        have isEnd := tried.reach_length cut.words [] cut.whole tried.zero
        rw [isReached] at isEnd
        cases isEnd
  | true =>
      obtain ⟨found, isFound, cut⟩ := tried.followBack [] (Nat.le_refl token.length)
        isReached (by simp) (by simp)
      simp only [isReached, Bool.true_eq_false, if_false, isFound, Option.map_some,
        Option.bind_some]
      match found, cut with
      | [], cut =>
          refine ⟨none, rfl, ?_, fun pieces isCut => by cases isCut⟩
          constructor
          · intro isSome
            cases isSome
          · rintro ⟨pieces, several⟩
            -- the empty token can only be cut into empty words
            have isEmpty : token = [] := cut.whole.symm
            match pieces, several with
            | [], several => exact absurd several.several (by simp)
            | piece :: rest, several =>
                have isPiece : piece = [] := by
                  have whole := several.whole
                  rw [isEmpty, List.flatten_cons] at whole
                  exact (List.append_eq_nil_iff.mp whole).1
                have isWord := (several.words piece List.mem_cons_self).1
                rw [isPiece, ← isEmpty] at isWord
                exact absurd isWord notWord
      | [piece], cut =>
          exfalso
          have isPiece : piece = token := by simpa using cut.whole
          exact notWord (isPiece ▸ (cut.words piece List.mem_cons_self).1)
      | first :: second :: rest, cut =>
          have several : Decomposition vocab minPiece token (first :: second :: rest) :=
            ⟨cut, by simp⟩
          refine ⟨some (first :: second :: rest), by simp, ?_, ?_⟩
          · simp only [Option.isSome_some, true_iff]
            exact ⟨_, several⟩
          · rintro pieces ⟨rfl⟩
            exact several

/-- The law fails just for words that could be cut. -/
theorem segmentsExactly_iff (vocab : List (List Char)) (minPiece : ℕ) (token : List Char) :
    SegmentsExactly vocab minPiece token ↔
      ¬(token ∈ vocab ∧ ∃ pieces, Decomposition vocab minPiece token pieces) := by
  constructor
  · rintro ⟨result, isResult, isSome_iff, _⟩ ⟨isWord, isCut⟩
    rw [segmentToken_of_word isWord] at isResult
    cases isResult
    exact absurd (isSome_iff.mpr isCut) (by simp)
  · intro notBoth
    by_cases isWord : token ∈ vocab
    · refine ⟨none, segmentToken_of_word isWord, ?_, fun pieces isFound => by cases isFound⟩
      constructor
      · intro isSome
        cases isSome
      · intro isCut
        exact absurd ⟨isWord, isCut⟩ notBoth
    · exact segmentsExactly_of_not_mem isWord

def orderWords : List (List Char) :=
  ["total".toList, "price".toList, "order".toList]

example : segmentToken orderWords 3 "totalprice".toList =
    some (some ["total".toList, "price".toList]) := by
  decide +kernel

/-- A word of the query that is made up of two others is not cut. -/
theorem not_segmentsExactly_totalprice :
    ¬SegmentsExactly ("totalprice".toList :: orderWords) 3 "totalprice".toList := by
  have isCut : Decomposition ("totalprice".toList :: orderWords) 3 "totalprice".toList
      ["total".toList, "price".toList] := by
    refine ⟨⟨?_, rfl⟩, by decide⟩
    intro piece isPiece
    rcases List.mem_pair.mp isPiece with rfl | rfl
    · exact ⟨by decide, by decide⟩
    · exact ⟨by decide, by decide⟩
  have isWord : "totalprice".toList ∈ "totalprice".toList :: orderWords := List.mem_cons_self
  rintro ⟨result, isResult, isSome_iff, _⟩
  rw [segmentToken_of_word isWord] at isResult
  cases isResult
  exact absurd (isSome_iff.mpr ⟨_, isCut⟩) (by simp)

end Law

end DbBuddy.Planner
