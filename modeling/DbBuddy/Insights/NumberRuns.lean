import DbBuddy.Insights.Validators

/-!
# The numbers in a clause

The numbers of a clause are its runs of digits, with separators in them and a fraction
behind them.  A number that stands free in a clause is one of its runs, and the integer
part of the run is that of the number.
-/

namespace DbBuddy.Insights

open DbBuddy.Library

/-! ## Texts that stand free -/

/-- `\d` on ASCII. -/
def Tables.DigitsOfAscii (tables : Tables) : Prop :=
  ∀ char : Char, char.toNat < 128 → tables.isDigit char = char.isDigit

/-- A comma or a point. -/
def isMark (char : Char) : Bool :=
  char == ',' || char == '.'

/-- No digit comes first, nor behind commas and points alone. -/
def Free (tables : Tables) (text : Text) : Prop :=
  ∀ char, (text.dropWhile isMark).head? = some char → tables.isDigit char = false

/-- A character of `[\d,]`. -/
def isRunChar (tables : Tables) (char : Char) : Bool :=
  tables.isDigit char || char == ','

section Runs

variable {tables : Tables}

theorem free_nil : Free tables [] := by
  intro char isHead
  cases isHead

theorem free_cons {char : Char} {text : Text} (notDigit : tables.isDigit char = false)
    (notMark : isMark char = false) : Free tables (char :: text) := by
  intro other isHead
  rw [List.dropWhile_cons_of_neg (by simp [notMark])] at isHead
  cases isHead
  exact notDigit

theorem free_front {front back : Text} (free : Free tables (front ++ back)) :
    Free tables front := by
  intro char isHead
  apply free char
  have notAll : front.dropWhile isMark ≠ [] := by
    intro isNil
    rw [isNil] at isHead
    cases isHead
  rw [List.dropWhile_append, if_neg (by simpa using notAll), List.head?_append, isHead]
  rfl

/-- Where a class of characters ends within a text, it ends there whatever follows. -/
theorem span_append {test : Char → Bool} {text : Text} (stops : text.dropWhile test ≠ [])
    (rest : Text) : (text ++ rest).takeWhile test = text.takeWhile test ∧
      (text ++ rest).dropWhile test = text.dropWhile test ++ rest := by
  constructor
  · rw [List.takeWhile_append, if_neg]
    intro same
    have whole := congrArg List.length (List.takeWhile_append_dropWhile (p := test) (l := text))
    rw [List.length_append, same] at whole
    exact stops (List.length_eq_zero_iff.mp (by omega))
  · rw [List.dropWhile_append, if_neg (by simpa using stops)]

/-- What a run of digits and separators becomes with what follows it. -/
def finishRun (tables : Tables) (whole behind : Text) : Text × Text :=
  match behind with
  | '.' :: fraction =>
      if (fraction.takeWhile tables.isDigit).isEmpty then (whole, '.' :: fraction)
      else (whole ++ '.' :: fraction.takeWhile tables.isDigit,
        fraction.dropWhile tables.isDigit)
  | _ => (whole, behind)

theorem numberPattern_digit {first : Char} (isDigit : tables.isDigit first = true)
    (rest : Text) : numberPattern tables (first :: rest) =
      let finished := finishRun tables (first :: rest.takeWhile (isRunChar tables))
        (rest.dropWhile (isRunChar tables))
      some (some finished.1, finished.2) := by
  have isRun : (fun char => tables.isDigit char || char == ',') = isRunChar tables := rfl
  simp only [numberPattern, isDigit, if_true, isRun]
  generalize rest.dropWhile (isRunChar tables) = behind
  split
  · next fraction =>
      split
      · next noDigits => simp only [finishRun, noDigits, if_true]
      · next someDigits => simp only [finishRun, someDigits, Bool.false_eq_true, if_false]
  · next noPoint =>
      unfold finishRun
      split
      · next fraction => exact absurd rfl (noPoint fraction)
      · rfl

theorem numberPattern_other {first : Char} (notDigit : tables.isDigit first = false)
    (rest : Text) : numberPattern tables (first :: rest) = none := by
  simp only [numberPattern, notDigit, Bool.false_eq_true, if_false]

theorem finishRun_append {whole behind : Text} (nonempty : behind ≠ [])
    (stops : ∀ fraction, behind = '.' :: fraction →
      fraction.dropWhile tables.isDigit ≠ []) (rest : Text) :
    finishRun tables whole (behind ++ rest) =
      ((finishRun tables whole behind).1, (finishRun tables whole behind).2 ++ rest) := by
  cases behind with
  | nil => exact absurd rfl nonempty
  | cons char fraction =>
      by_cases isPoint : char = '.'
      · subst isPoint
        obtain ⟨sameDigits, sameRest⟩ := span_append (stops fraction rfl) rest
        simp only [finishRun, List.cons_append, sameDigits, sameRest]
        split
        · rfl
        · rfl
      · unfold finishRun
        split
        · next fraction same => exact absurd (List.cons.inj same).1 isPoint
        · split
          · next fraction same => exact absurd (List.cons.inj same).1 isPoint
          · rfl

/-- What is left behind a run is a part of what followed its digits. -/
theorem finishRun_suffix (whole behind : Text) : (finishRun tables whole behind).2 <:+ behind := by
  unfold finishRun
  split
  · next fraction =>
      split
      · exact List.suffix_rfl
      · exact (List.dropWhile_suffix _).trans (List.suffix_cons _ _)
  · exact List.suffix_rfl

theorem numberPattern_consumes : Consumes (numberPattern tables) := by
  intro char rest piece after found
  cases isDigit : tables.isDigit char with
  | true =>
      rw [numberPattern_digit isDigit] at found
      cases found
      exact (finishRun_suffix _ _).trans (List.dropWhile_suffix _)
  | false =>
      rw [numberPattern_other isDigit] at found
      cases found

/-- The integer part of a run is its digits up to the point. -/
theorem integerPart_finishRun {whole : Text} (noPoint : '.' ∉ whole) (behind : Text) :
    integerPart (finishRun tables whole behind).1 = whole.filter fun char => char != ',' := by
  have allBefore : ∀ char ∈ whole.filter (fun char => char != ','),
      (char != '.') = true := by
    intro char isIn
    rw [bne_iff_ne]
    rintro rfl
    exact noPoint (List.mem_filter.mp isIn).1
  unfold finishRun integerPart
  split
  · split
    · exact List.takeWhile_eq_self_iff.mpr allBefore
    · rw [List.filter_append, List.takeWhile_append_of_pos allBefore,
        List.filter_cons_of_pos (by decide), List.takeWhile_cons_of_neg (by decide),
        List.append_nil]
  · exact List.takeWhile_eq_self_iff.mpr allBefore

theorem isDigit_of_isRunChar {char : Char} (isRun : isRunChar tables char = true)
    (notMark : isMark char = false) : tables.isDigit char = true := by
  rw [isRunChar, Bool.or_eq_true] at isRun
  rcases isRun with isDigit | isComma
  · exact isDigit
  · rw [beq_iff_eq.mp isComma] at notMark
    cases notMark

theorem numberRuns_matched {first : Char} {rest run after : Text}
    (found : numberPattern tables (first :: rest) = some (some run, after)) :
    numberRuns tables (first :: rest) = run :: numberRuns tables after := by
  unfold numberRuns
  rw [scan_matched numberPattern_consumes found]
  rfl

theorem numberRuns_other {first : Char} (notDigit : tables.isDigit first = false)
    (rest : Text) : numberRuns tables (first :: rest) = numberRuns tables rest := by
  unfold numberRuns
  rw [scan_passed (numberPattern_other notDigit rest)]
  rfl

section Laws

variable (ascii : tables.DigitsOfAscii)

include ascii

theorem isDigit_of_isMark {char : Char} (mark : isMark char = true) :
    tables.isDigit char = false := by
  have cases : char = ',' ∨ char = '.' := by
    simpa [isMark] using mark
  rcases cases with rfl | rfl
  · rw [ascii _ (by decide)]
    rfl
  · rw [ascii _ (by decide)]
    rfl

/-- A text of digits, commas and points with a digit in it does not stand free. -/
theorem not_free {text : Text} {char : Char} (isIn : char ∈ text)
    (isDigit : tables.isDigit char = true)
    (allDigits : ∀ other ∈ text, isMark other = false → tables.isDigit other = true) :
    ¬ Free tables text := by
  intro free
  have notMark : isMark char = false := by
    cases mark : isMark char with
    | true =>
        rw [isDigit_of_isMark ascii mark] at isDigit
        cases isDigit
    | false => rfl
  cases behind : text.dropWhile isMark with
  | nil =>
      have allMarks := List.dropWhile_eq_nil_iff.mp behind char isIn
      rw [notMark] at allMarks
      cases allMarks
  | cons other rest =>
      have isHead : (text.dropWhile isMark).head? = some other := by
        rw [behind]
        rfl
      have otherIn : other ∈ text := by
        apply (List.dropWhile_suffix isMark).subset
        rw [behind]
        exact List.mem_cons_self
      have otherMark : isMark other = false := by
        have stops := List.head?_dropWhile_not isMark text
        rw [isHead] at stops
        simpa using stops
      have isOther := free other isHead
      rw [allDigits other otherIn otherMark] at isOther
      cases isOther

/-- A match within a text that stands free behind it is one whatever follows. -/
theorem numberPattern_append {front after : Text} {piece : Option Text}
    (free : Free tables front.reverse)
    (found : numberPattern tables front = some (piece, after)) (rest : Text) :
    numberPattern tables (front ++ rest) = some (piece, after ++ rest) := by
  cases front with
  | nil => cases found
  | cons first front =>
      cases isDigit : tables.isDigit first with
      | false =>
          rw [numberPattern_other isDigit] at found
          cases found
      | true =>
          have firstIn : first ∈ (first :: front).reverse := by
            simp
          have runStops : front.dropWhile (isRunChar tables) ≠ [] := by
            intro allRun
            apply not_free ascii firstIn isDigit _ free
            intro other isIn notMark
            rcases List.mem_cons.mp (List.mem_reverse.mp isIn) with rfl | isIn
            · exact isDigit
            · exact isDigit_of_isRunChar (List.dropWhile_eq_nil_iff.mp allRun other isIn)
                notMark
          rw [numberPattern_digit isDigit] at found
          rw [List.cons_append, numberPattern_digit isDigit,
            (span_append runStops rest).1, (span_append runStops rest).2]
          have fractionStops : ∀ fraction,
              front.dropWhile (isRunChar tables) = '.' :: fraction →
                fraction.dropWhile tables.isDigit ≠ [] := by
            intro fraction isFraction allFraction
            apply not_free ascii firstIn isDigit _ free
            intro other isIn notMark
            rcases List.mem_cons.mp (List.mem_reverse.mp isIn) with rfl | isIn
            · exact isDigit
            rw [← List.takeWhile_append_dropWhile (p := isRunChar tables) (l := front),
              isFraction] at isIn
            rcases List.mem_append.mp isIn with isRun | isBehind
            · exact isDigit_of_isRunChar (List.mem_takeWhile_imp isRun) notMark
            · rcases List.mem_cons.mp isBehind with rfl | isBehind
              · cases notMark
              · exact List.dropWhile_eq_nil_iff.mp allFraction other isBehind
          rw [finishRun_append runStops fractionStops]
          cases found
          rfl

/-- The runs of a text that stands free behind it, and those of what follows. -/
theorem numberRuns_append {front : Text} (free : Free tables front.reverse) (rest : Text) :
    numberRuns tables (front ++ rest) =
      numberRuns tables front ++ numberRuns tables rest := by
  induction isLength : front.length using Nat.strongRecOn generalizing front with
  | ind length induction =>
      cases front with
      | nil => rfl
      | cons first front =>
          have isSuffix : ∀ after, after <:+ front →
              numberRuns tables (after ++ rest) =
                numberRuns tables after ++ numberRuns tables rest := by
            intro after suffix
            apply induction after.length _ _ rfl
            · rw [← isLength, List.length_cons]
              exact Nat.lt_succ_of_le suffix.length_le
            · obtain ⟨before, isFront⟩ := suffix
              rw [← isFront, ← List.cons_append, List.reverse_append] at free
              exact free_front free
          cases isDigit : tables.isDigit first with
          | false =>
              rw [List.cons_append, numberRuns_other isDigit, numberRuns_other isDigit]
              exact isSuffix front List.suffix_rfl
          | true =>
              have found := numberPattern_digit isDigit front
              have extended := numberPattern_append ascii free found rest
              rw [List.cons_append] at extended
              rw [numberRuns_matched found, List.cons_append, numberRuns_matched extended,
                isSuffix _ (numberPattern_consumes _ _ _ _ found), List.cons_append]

/-- A number that stands free in a text is a run of it, up to separators. -/
theorem mem_numberRuns {front whole behind : Text} (free : Free tables front.reverse)
    (nonempty : whole ≠ []) (headDigit : ∀ char, whole.head? = some char →
      tables.isDigit char = true)
    (allRun : ∀ char ∈ whole, isRunChar tables char = true)
    (stops : ∀ char ∈ behind.takeWhile (isRunChar tables), char = ',') :
    ∃ run ∈ numberRuns tables (front ++ (whole ++ behind)),
      integerPart run = whole.filter fun char => char != ',' := by
  rw [numberRuns_append ascii free]
  cases whole with
  | nil => exact absurd rfl nonempty
  | cons first whole =>
      have isDigit := headDigit first rfl
      rw [List.cons_append, numberRuns_matched (numberPattern_digit isDigit _)]
      refine ⟨_, List.mem_append_right _ List.mem_cons_self, ?_⟩
      have pointEnds : isRunChar tables '.' = false := by
        rw [isRunChar, isDigit_of_isMark ascii rfl]
        rfl
      have noPoint : '.' ∉ first :: (whole ++ behind).takeWhile (isRunChar tables) := by
        intro isIn
        rcases List.mem_cons.mp isIn with rfl | isIn
        · rw [isDigit_of_isMark ascii rfl] at isDigit
          cases isDigit
        · rw [List.mem_takeWhile_imp isIn] at pointEnds
          cases pointEnds
      rw [integerPart_finishRun noPoint, List.takeWhile_append_of_pos fun char isIn =>
        allRun char (List.mem_cons_of_mem _ isIn), ← List.cons_append, List.filter_append]
      have noneLeft : (behind.takeWhile (isRunChar tables)).filter
          (fun char => char != ',') = [] := by
        rw [List.filter_eq_nil_iff]
        intro char isIn
        simp [stops char isIn]
      rw [noneLeft, List.append_nil]

end Laws

end Runs

end DbBuddy.Insights
