import Mathlib.Data.Bool.AllAny
import DbBuddy.Library.JsonText
import DbBuddy.Insights.Context
import DbBuddy.Insights.NumberRuns
import DbBuddy.Insights.Notes

/-!
# Citations of what was shown

A figure is shown in the text that the packet is written in.  A clause cites it with
separators or without; the check knows the citation by the integer part, if the figure
gives a key and its text begins with it.
-/

namespace DbBuddy.Insights

open DbBuddy.Library

/-! ## Figures and their texts -/

/-- A number in the packet. -/
inductive Figure (Real : Type) where
  | whole (value : ℤ)
  | real (value : Real)

/-- The text behind the first digits of a float. -/
def Written.tail : Written → Text
  | .fixed _ _ fraction => '.' :: fraction.text
  | .scientific _ _ fraction isNegative exponent =>
      (match fraction with
        | none => []
        | some fraction => '.' :: fraction.text) ++
        'e' :: (if isNegative = true then '-' else '+') :: exponent.text
  | .infinite _ => "Infinity".toList
  | .notANumber => "NaN".toList

/-- The first digits of a float. -/
def Written.digits : Written → Text
  | .fixed _ whole _ => Nat.toDigits 10 whole
  | .scientific _ lead _ _ _ => lead.text
  | .infinite _ => []
  | .notANumber => []

/-- Digits in groups of three, the last ones first. -/
def groups : Text → Text
  | first :: second :: third :: next :: rest =>
      first :: second :: third :: ',' :: groups (next :: rest)
  | digits => digits

/-- Digits with thousands separators. -/
def thousands (digits : Text) : Text :=
  (groups digits.reverse).reverse

section Figures

variable {Real : Type} (tables : Tables) (floats : Floats Real)

/-- The digits of a figure, without its sign. -/
def Figure.digits : Figure Real → Text
  | .whole value => Nat.toDigits 10 value.natAbs
  | .real value => (floats.written value).digits

def Figure.tail : Figure Real → Text
  | .whole _ => []
  | .real value => (floats.written value).tail

/-- The clause has the figure in it as it was shown, with thousands separators or
without; a sign is a part of what stands in front. -/
def Cites (figure : Figure Real) (clause : Text) : Prop :=
  ∃ front spelled back,
    (spelled = figure.digits floats ∨ spelled = thousands (figure.digits floats)) ∧
      clause = front ++ (spelled ++ (figure.tail floats ++ back)) ∧
        Free tables front.reverse ∧ Free tables back

/-- The number in a cell of the sample. -/
def Sampled.asFigure : Sampled Real → Option (Figure Real)
  | .int value => some (.whole value)
  | .float value => some (.real value)
  | _ => Option.none

/-- The figures that the keys are taken from: the row count, the statistics of the columns
and the numeric cells of the sample. -/
def keyedFigures (context : ResultContext Real) : List (Figure Real) :=
  .whole context.rowCount ::
    (context.columns.flatMap fun column => column.statistics.map Figure.real) ++
    context.sampleRows.flatMap fun row => row.filterMap fun entry => entry.2.asFigure

/-- The counts of a column. -/
def ColumnProfile.counts (column : ColumnProfile Real) : List (Figure Real) :=
  [.whole column.nullCount, .whole column.distinctCount]

/-- All figures of a packet. -/
def shownFigures (context : ResultContext Real) : List (Figure Real) :=
  (context.columns.flatMap ColumnProfile.counts) ++ keyedFigures context

/-- `int(abs(float(value)))`, where it is a number. -/
def Figure.rounded : Figure Real → Option ℕ
  | .whole value => ((floats.ofInt value).filter floats.isFinite).map floats.truncate
  | .real value =>
      if floats.isFinite value = true then some (floats.truncate value) else none

/-- The integer part without its sign, of a finite figure. -/
def Figure.wholePart : Figure Real → Option ℕ
  | .whole value => some value.natAbs
  | .real value =>
      if floats.isFinite value = true then some (floats.truncate value) else none

def roundedValues (context : ResultContext Real) : List ℕ :=
  (keyedFigures context).filterMap (Figure.rounded floats)

def integerParts (context : ResultContext Real) : List ℕ :=
  (shownFigures context).filterMap (Figure.wholePart floats)

/-- What the check is given of a packet. -/
def evidenceOf (context : ResultContext Real) : Evidence where
  columns := some (context.columns.map ColumnProfile.name)
  numbers := some (groundedNumbers floats context)

/-- The clause has no word that names a column. -/
def NamesNoColumn (context : ResultContext Real) (clause : Text) : Prop :=
  (tokens tables clause).any
    (vocabulary tables (context.columns.map ColumnProfile.name)).contains = false

/-- Every citation of what was shown is recognised, and no other number is. -/
structure CitationsGrounded (context : ResultContext Real) : Prop where
  shown : ∀ figure ∈ shownFigures context, ∀ clause, Cites tables floats figure clause →
    clauseCitesAResultNumber tables clause (some (groundedNumbers floats context)) = true
  unknown : ∀ clause, NamesNoColumn tables context clause →
    (∀ run ∈ numberRuns tables clause, ∀ value ∈ integerParts floats context,
      integerPart run ≠ Nat.toDigits 10 value) →
      grounded tables (evidenceOf floats context)
        (context.columns.map ColumnProfile.name) clause = false

/-- A float with an exponent is known by one of the values, by its first digits or by its
exponent; one without needs nothing, and one that is not finite is not known. -/
def Written.KnownBy (values : List ℕ) : Written → Prop
  | .fixed _ _ _ => True
  | .scientific _ lead _ _ exponent => ∃ number ∈ values,
      lead.text = Nat.toDigits 10 number ∨ exponent.text = Nat.toDigits 10 number
  | .infinite _ => False
  | .notANumber => False

/-- An integer is known as itself. -/
def Figure.KnownBy (values : List ℕ) : Figure Real → Prop
  | .whole value => value.natAbs ∈ values
  | .real value => (floats.written value).KnownBy values

instance (values : List ℕ) : (written : Written) → Decidable (written.KnownBy values)
  | .fixed _ _ _ => .isTrue trivial
  | .scientific _ lead _ _ exponent => inferInstanceAs (Decidable (∃ number ∈ values,
      lead.text = Nat.toDigits 10 number ∨ exponent.text = Nat.toDigits 10 number))
  | .infinite _ => .isFalse id
  | .notANumber => .isFalse id

instance (values : List ℕ) : (figure : Figure Real) → Decidable (figure.KnownBy floats values)
  | .whole value => inferInstanceAs (Decidable (value.natAbs ∈ values))
  | .real value => inferInstanceAs (Decidable ((floats.written value).KnownBy values))

end Figures

/-! ## Digits and separators -/

section Separators

theorem groups_filter (digits : Text) :
    (groups digits).filter (fun char => char != ',') =
      digits.filter fun char => char != ',' := by
  induction digits using groups.induct with
  | case1 first second third next rest induction =>
      rw [groups]
      simp only [List.filter_cons, induction, bne_self_eq_false, Bool.false_eq_true, if_false]
  | case2 digits short =>
      rw [groups]
      exact short

/-- The groups end with the last digit. -/
theorem groups_getLast (digits : Text) : (groups digits).getLast? = digits.getLast? := by
  induction digits using groups.induct with
  | case1 first second third next rest induction =>
      rw [groups]
      simp only [List.getLast?_cons_cons]
      rw [List.getLast?_cons, induction, List.getLast?_cons]
      rfl
  | case2 digits short =>
      rw [groups]
      exact short

theorem mem_groups {digits : Text} {char : Char} (isIn : char ∈ groups digits) :
    char ∈ digits ∨ char = ',' := by
  induction digits using groups.induct with
  | case1 first second third next rest induction =>
      rw [groups] at isIn
      simp only [List.mem_cons] at isIn ⊢
      rcases isIn with same | same | same | same | isIn
      · exact Or.inl (Or.inl same)
      · exact Or.inl (Or.inr (Or.inl same))
      · exact Or.inl (Or.inr (Or.inr (Or.inl same)))
      · exact Or.inr same
      · rcases induction isIn with isIn | same
        · exact Or.inl (Or.inr (Or.inr (Or.inr (List.mem_cons.mp isIn))))
        · exact Or.inr same
  | case2 digits short =>
      rw [groups] at isIn
      · exact Or.inl isIn
      · exact short

/-- Both spellings of a number have its digits, in front one of them. -/
structure Spelling (digits spelled : Text) : Prop where
  same : (spelled.filter fun char => char != ',') = digits
  head : spelled.head? = digits.head?
  mem : ∀ char ∈ spelled, char ∈ digits ∨ char = ','

theorem spelling_of_digits {digits spelled : Text} (noComma : ',' ∉ digits)
    (isSpelled : spelled = digits ∨ spelled = thousands digits) : Spelling digits spelled := by
  have same : (digits.filter fun char => char != ',') = digits := by
    rw [List.filter_eq_self]
    intro char isIn
    rw [bne_iff_ne]
    rintro rfl
    exact noComma isIn
  rcases isSpelled with rfl | rfl
  · exact ⟨same, rfl, fun char isIn => Or.inl isIn⟩
  · refine ⟨?_, ?_, ?_⟩
    · rw [thousands, List.filter_reverse, groups_filter, List.filter_reverse,
        List.reverse_reverse, same]
    · rw [thousands, List.head?_reverse, groups_getLast, List.getLast?_reverse]
    · intro char isIn
      have isGrouped := mem_groups (List.mem_reverse.mp isIn)
      rwa [List.mem_reverse] at isGrouped

end Separators

/-! ## Citations -/

section Citing

variable {tables : Tables} (ascii : tables.DigitsOfAscii)

include ascii

theorem isDigit_of_ascii {char : Char} (isDigit : char.isDigit = true) :
    tables.isDigit char = true := by
  have bounds := toNat_of_isDigit isDigit
  rw [ascii char (by omega), isDigit]

/-- What follows a text that stands free has no digits at its front, at most commas. -/
theorem commas_of_free {back : Text} (free : Free tables back) :
    ∀ char ∈ back.takeWhile (isRunChar tables), char = ',' := by
  induction back with
  | nil =>
      intro char isIn
      cases isIn
  | cons first back induction =>
      intro char isIn
      by_cases isComma : first = ','
      · subst isComma
        have isRun : isRunChar tables ',' = true := by
          simp [isRunChar]
        rw [List.takeWhile_cons_of_pos isRun] at isIn
        rcases List.mem_cons.mp isIn with same | isIn
        · exact same
        · exact induction free char isIn
      · have notRun : ¬ isRunChar tables first = true := by
          intro isRun
          have isDigit : tables.isDigit first = true := by
            simpa [isRunChar, isComma] using isRun
          have freeFirst : Free tables ([first] ++ back) := free
          apply not_free ascii List.mem_cons_self isDigit _ (free_front freeFirst)
          intro other isOther _
          rw [List.mem_singleton.mp isOther]
          exact isDigit
        rw [List.takeWhile_cons_of_neg notRun] at isIn
        cases isIn

/-- A spelling of a number that stands free is a run, and its integer part the number. -/
theorem mem_numberRuns_of_digits {digits front spelled behind : Text}
    (nonempty : digits ≠ []) (allDigits : ∀ char ∈ digits, char.isDigit = true)
    (isSpelled : spelled = digits ∨ spelled = thousands digits)
    (free : Free tables front.reverse)
    (stops : ∀ char ∈ behind.takeWhile (isRunChar tables), char = ',') :
    ∃ run ∈ numberRuns tables (front ++ (spelled ++ behind)), integerPart run = digits := by
  have noComma : ',' ∉ digits := fun isIn => absurd (allDigits ',' isIn) (by decide)
  have spelling := spelling_of_digits noComma isSpelled
  have spelledNonempty : spelled ≠ [] := by
    rintro rfl
    exact nonempty spelling.same.symm
  have headDigit : ∀ char, spelled.head? = some char → tables.isDigit char = true := by
    intro char isHead
    rw [spelling.head] at isHead
    exact isDigit_of_ascii ascii (allDigits char (List.mem_of_head? isHead))
  have allRun : ∀ char ∈ spelled, isRunChar tables char = true := by
    intro char isIn
    rcases spelling.mem char isIn with isIn | rfl
    · rw [isRunChar, isDigit_of_ascii ascii (allDigits char isIn), Bool.true_or]
    · rw [isRunChar, beq_self_eq_true, Bool.or_true]
  obtain ⟨run, isRun, isPart⟩ :=
    mem_numberRuns ascii free spelledNonempty headDigit allRun stops
  rw [spelling.same] at isPart
  exact ⟨run, isRun, isPart⟩

theorem notDigit_of_ascii {char : Char} (isAscii : char.toNat < 128)
    (notDigit : char.isDigit = false) : tables.isDigit char = false := by
  rw [ascii char isAscii, notDigit]

/-- The runs of a text that begins with digits and goes on with something else. -/
theorem numberRuns_digits {digits behind : Text} (nonempty : digits ≠ [])
    (allDigits : ∀ char ∈ digits, char.isDigit = true)
    (stops : behind.takeWhile (isRunChar tables) = []) :
    numberRuns tables (digits ++ behind) =
        (finishRun tables digits behind).1 ::
          numberRuns tables (finishRun tables digits behind).2 ∧
      integerPart (finishRun tables digits behind).1 = digits := by
  have noComma : ∀ char ∈ digits, (char != ',') = true := by
    intro char isIn
    rw [bne_iff_ne]
    rintro rfl
    exact absurd (allDigits ',' isIn) (by decide)
  have noPoint : '.' ∉ digits := fun isIn => absurd (allDigits '.' isIn) (by decide)
  constructor
  · cases digits with
    | nil => exact absurd rfl nonempty
    | cons first digits =>
        have isDigit := isDigit_of_ascii ascii (allDigits first List.mem_cons_self)
        have allRun : ∀ char ∈ digits, isRunChar tables char = true := by
          intro char isIn
          rw [isRunChar, isDigit_of_ascii ascii (allDigits char (List.mem_cons_of_mem _ isIn)),
            Bool.true_or]
        have sameRest : behind.dropWhile (isRunChar tables) = behind := by
          have whole := List.takeWhile_append_dropWhile (p := isRunChar tables) (l := behind)
          rwa [stops, List.nil_append] at whole
        have found := numberPattern_digit isDigit (digits ++ behind)
        rw [List.takeWhile_append_of_pos allRun, List.dropWhile_append_of_pos allRun, stops,
          List.append_nil, sameRest] at found
        exact numberRuns_matched found
  · rw [integerPart_finishRun noPoint, List.filter_eq_self.mpr noComma]

theorem numberRuns_only_digits {digits : Text} (nonempty : digits ≠ [])
    (allDigits : ∀ char ∈ digits, char.isDigit = true) :
    numberRuns tables digits = [digits] ∧ integerPart digits = digits := by
  have runs := numberRuns_digits ascii nonempty allDigits (List.takeWhile_nil)
  rw [List.append_nil] at runs
  exact runs

omit ascii in
theorem numberRuns_none {text : Text} (noDigit : ∀ char ∈ text, tables.isDigit char = false) :
    numberRuns tables text = [] := by
  induction text with
  | nil => rfl
  | cons first text induction =>
      rw [numberRuns_other (noDigit first List.mem_cons_self)]
      exact induction fun char isIn => noDigit char (List.mem_cons_of_mem _ isIn)

/-- No run begins with the mark of an exponent, nor with its sign. -/
theorem numberRuns_exponent (isNegative : Bool) (exponent : Digits) :
    numberRuns tables
      ('e' :: (if isNegative = true then '-' else '+') :: exponent.text) = [exponent.text] := by
  have notDigit : tables.isDigit (if isNegative = true then '-' else '+') = false := by
    split
    · exact notDigit_of_ascii ascii (by decide) (by decide)
    · exact notDigit_of_ascii ascii (by decide) (by decide)
  rw [numberRuns_other (notDigit_of_ascii ascii (by decide) (by decide)),
    numberRuns_other notDigit]
  exact (numberRuns_only_digits ascii exponent.nonempty exponent.allDigits).1

/-- There are no digits in a word of letters. -/
theorem numberRuns_word {word : Text}
    (isWord : ∀ char ∈ word, char.toNat < 128 ∧ char.isDigit = false) :
    numberRuns tables word = [] :=
  numberRuns_none fun char isIn =>
    notDigit_of_ascii ascii (isWord char isIn).1 (isWord char isIn).2

omit ascii in
theorem tail_scientific (isNegative exponentNegative : Bool) (lead exponent : Digits)
    (fraction : Option Digits) :
    (Written.scientific isNegative lead fraction exponentNegative exponent).tail =
      (fraction.map fun digits => '.' :: digits.text).getD [] ++
        'e' :: (if exponentNegative = true then '-' else '+') :: exponent.text := by
  cases fraction with
  | none => rfl
  | some fraction => rfl

/-- What ends with the mark and the sign of an exponent stands free behind it. -/
theorem free_exponent (isNegative : Bool) (text : Text) :
    Free tables ((['e', if isNegative = true then '-' else '+'] : Text).reverse ++ text) := by
  cases isNegative with
  | true => exact free_cons (notDigit_of_ascii ascii (by decide) (by decide)) (by decide)
  | false => exact free_cons (notDigit_of_ascii ascii (by decide) (by decide)) (by decide)

theorem isRunChar_other {char : Char} (isAscii : char.toNat < 128)
    (notDigit : char.isDigit = false) (notComma : (char == ',') = false) :
    isRunChar tables char = false := by
  rw [isRunChar, notDigit_of_ascii ascii isAscii notDigit, notComma]
  rfl

/-- Behind the first digits of a float no run goes on. -/
theorem takeWhile_tail (written : Written) (rest : Text) (hasDigits : written.digits ≠ []) :
    (written.tail ++ rest).takeWhile (isRunChar tables) = [] := by
  have pointEnds : isRunChar tables '.' = false :=
    isRunChar_other ascii (by decide) (by decide) (by decide)
  have markEnds : isRunChar tables 'e' = false :=
    isRunChar_other ascii (by decide) (by decide) (by decide)
  have stopped : ∀ (first : Char) (rest : Text), isRunChar tables first = false →
      (first :: rest).takeWhile (isRunChar tables) = [] := by
    intro first rest notRun
    rw [List.takeWhile_cons_of_neg (by rw [notRun]; exact Bool.false_ne_true)]
  cases written with
  | fixed isNegative whole fraction => exact stopped '.' _ pointEnds
  | scientific isNegative lead fraction exponentNegative exponent =>
      cases fraction with
      | none => exact stopped 'e' _ markEnds
      | some fraction => exact stopped '.' _ pointEnds
  | infinite isNegative => exact (hasDigits rfl).elim
  | notANumber => exact (hasDigits rfl).elim

/-- A float with an exponent is read as two numbers: its first digits, and its
exponent. -/
theorem numberRuns_scientific (isNegative exponentNegative : Bool) (lead exponent : Digits)
    (fraction : Option Digits) : ∃ run,
      numberRuns tables (lead.text ++
        (Written.scientific isNegative lead fraction exponentNegative exponent).tail) =
          [run, exponent.text] ∧ integerPart run = lead.text := by
  have stops := takeWhile_tail ascii
    (.scientific isNegative lead fraction exponentNegative exponent) [] lead.nonempty
  rw [List.append_nil] at stops
  obtain ⟨runs, isPart⟩ := numberRuns_digits ascii lead.nonempty lead.allDigits stops
  refine ⟨_, ?_, isPart⟩
  rw [runs]
  cases fraction with
  | none =>
      have finished : finishRun tables lead.text
          (Written.scientific isNegative lead none exponentNegative exponent).tail =
          (lead.text,
            'e' :: (if exponentNegative = true then '-' else '+') :: exponent.text) := by
        rfl
      rw [finished, numberRuns_exponent ascii exponentNegative exponent]
  | some fraction =>
      have allDigits : ∀ char ∈ fraction.text, tables.isDigit char = true :=
        fun char isIn => isDigit_of_ascii ascii (fraction.allDigits char isIn)
      have markEnds : ¬ tables.isDigit 'e' = true := by
        rw [notDigit_of_ascii ascii (by decide) (by decide)]
        exact Bool.false_ne_true
      have notEmpty : ¬ fraction.text.isEmpty = true := by
        rw [List.isEmpty_iff]
        exact fraction.nonempty
      have finished : finishRun tables lead.text
          (Written.scientific isNegative lead (some fraction) exponentNegative
            exponent).tail = (lead.text ++ '.' :: fraction.text,
          'e' :: (if exponentNegative = true then '-' else '+') :: exponent.text) := by
        have isTail : (Written.scientific isNegative lead (some fraction) exponentNegative
            exponent).tail = '.' :: (fraction.text ++
              'e' :: (if exponentNegative = true then '-' else '+') :: exponent.text) := rfl
        rw [isTail, finishRun, List.takeWhile_append_of_pos allDigits,
          List.dropWhile_append_of_pos allDigits, List.takeWhile_cons_of_neg markEnds,
          List.dropWhile_cons_of_neg markEnds, List.append_nil, if_neg notEmpty]
      rw [finished, numberRuns_exponent ascii exponentNegative exponent]

end Citing

/-! ## Keys -/

section Keys

variable {Real : Type} {tables : Tables} {floats : Floats Real}
  {context : ResultContext Real} {figure : Figure Real} {clause : Text}

theorem clauseCites_iff {keys : List Text} :
    clauseCitesAResultNumber tables clause (some keys) = true ↔
      ∃ run ∈ numberRuns tables clause, integerPart run ∈ keys := by
  unfold clauseCitesAResultNumber
  cases numberRuns tables clause with
  | nil => simp
  | cons run runs => simp

theorem numberKey_figure (floats : Floats Real) (sampled : Sampled Real) :
    numberKey floats sampled.cell =
      (sampled.asFigure.bind (Figure.rounded floats)).map (Nat.toDigits 10) := by
  cases sampled with
  | int value =>
      simp only [numberKey, Sampled.cell, asFloat, Sampled.asFigure, Figure.rounded,
        Option.bind_some, Option.map_map]
      rfl
  | float value =>
      simp only [numberKey, Sampled.cell, asFloat, Sampled.asFigure, Figure.rounded,
        Option.bind_some]
      split
      · rfl
      · rfl
  | _ => rfl

/-- The keys are the digits of the rounded values. -/
theorem groundedNumbers_eq : groundedNumbers floats context =
    (roundedValues floats context).map (Nat.toDigits 10) := by
  have ofWhole := numberKey_figure floats (.int (context.rowCount : ℤ))
  have ofColumn : ∀ column : ColumnProfile Real,
      (column.statistics.filterMap fun value => numberKey floats (.float value)) =
        ((column.statistics.map Figure.real).filterMap (Figure.rounded floats)).map
          (Nat.toDigits 10) := by
    intro column
    rw [List.filterMap_map, List.map_filterMap]
    exact List.filterMap_congr fun value _ => numberKey_figure floats (.float value)
  have ofRow : ∀ row : List (Text × Sampled Real),
      (row.filterMap fun entry => numberKey floats entry.2.cell) =
        ((row.filterMap fun entry => entry.2.asFigure).filterMap
          (Figure.rounded floats)).map (Nat.toDigits 10) := by
    intro row
    rw [List.filterMap_filterMap, List.map_filterMap]
    exact List.filterMap_congr fun entry _ => numberKey_figure floats entry.2
  rw [Sampled.cell, Sampled.asFigure, Option.bind_some] at ofWhole
  simp only [groundedNumbers, roundedValues, keyedFigures, ofColumn, ofRow, ofWhole,
    List.cons_append, List.filterMap_cons, List.filterMap_append, List.filterMap_flatMap,
    List.append_assoc]
  cases (Figure.whole (context.rowCount : ℤ)).rounded floats with
  | none => simp only [Option.map_none, Option.toList_none, List.nil_append,
      List.map_append, List.map_flatMap]
  | some value => simp only [Option.map_some, Option.toList_some, List.cons_append,
      List.nil_append, List.map_cons, List.map_append, List.map_flatMap]

theorem mem_groundedNumbers {digits : Text} : digits ∈ groundedNumbers floats context ↔
    ∃ value ∈ roundedValues floats context, digits = Nat.toDigits 10 value := by
  rw [groundedNumbers_eq, List.mem_map]
  exact exists_congr fun value => and_congr_right fun _ => eq_comm

/-- A float that is shown gives a key. -/
theorem mem_keyedFigures_of_real {value : Real}
    (isShown : Figure.real value ∈ shownFigures context) :
    Figure.real value ∈ keyedFigures context := by
  rcases List.mem_append.mp isShown with isCount | isKeyed
  · obtain ⟨column, _, isCount⟩ := List.mem_flatMap.mp isCount
    simp [ColumnProfile.counts] at isCount
  · exact isKeyed

theorem isDigit_of_mem_decimal {value : ℕ} :
    ∀ char ∈ Nat.toDigits 10 value, char.isDigit = true :=
  fun _ isIn => isDigit_of_mem_toDigits isIn

variable (ascii : tables.DigitsOfAscii)

include ascii

/-- A citation of a figure that is known by the values is recognised. -/
theorem clauseCites_of_knownBy (isShown : figure ∈ shownFigures context)
    (known : figure.KnownBy floats (roundedValues floats context))
    (cites : Cites tables floats figure clause) :
    clauseCitesAResultNumber tables clause (some (groundedNumbers floats context)) = true := by
  rw [clauseCites_iff]
  obtain ⟨front, spelled, back, isSpelled, rfl, freeFront, freeBack⟩ := cites
  cases figure with
  | whole value =>
      obtain ⟨run, isRun, isPart⟩ := mem_numberRuns_of_digits ascii Nat.toDigits_ne_nil
        isDigit_of_mem_decimal isSpelled freeFront (commas_of_free ascii freeBack)
      exact ⟨run, isRun, mem_groundedNumbers.mpr ⟨value.natAbs, known, isPart⟩⟩
  | real value =>
      have stopsAfter := takeWhile_tail ascii (floats.written value) back
      have isKnown : (floats.written value).KnownBy (roundedValues floats context) := known
      have isTail : (Figure.real value).tail floats = (floats.written value).tail := rfl
      rw [Figure.digits] at isSpelled
      rw [isTail]
      cases isWritten : floats.written value with
      | fixed isNegative whole fraction =>
          rw [isWritten] at isSpelled stopsAfter
          obtain ⟨run, isRun, isPart⟩ := mem_numberRuns_of_digits ascii
            Nat.toDigits_ne_nil isDigit_of_mem_decimal isSpelled freeFront (by
              rw [stopsAfter Nat.toDigits_ne_nil]
              exact fun char isIn => absurd isIn List.not_mem_nil)
          refine ⟨run, isRun, mem_groundedNumbers.mpr ⟨whole, ?_, isPart⟩⟩
          apply List.mem_filterMap.mpr
          refine ⟨.real value, mem_keyedFigures_of_real isShown, ?_⟩
          have isFinite : floats.isFinite value = true := by
            rw [Floats.isFinite, isWritten]
          rw [Figure.rounded, if_pos isFinite,
            floats.truncate_fixed value isNegative whole fraction isWritten]
      | scientific isNegative lead fraction exponentNegative exponent =>
          rw [isWritten] at isSpelled stopsAfter isKnown
          obtain ⟨number, isNumber, isLead | isExponent⟩ := isKnown
          · obtain ⟨run, isRun, isPart⟩ := mem_numberRuns_of_digits ascii lead.nonempty
              lead.allDigits isSpelled freeFront (by
                rw [stopsAfter lead.nonempty]
                exact fun char isIn => absurd isIn List.not_mem_nil)
            exact ⟨run, isRun, mem_groundedNumbers.mpr
              ⟨number, isNumber, isPart.trans isLead⟩⟩
          · have isCut : front ++ (spelled ++ ((Written.scientific isNegative lead fraction
                exponentNegative exponent).tail ++ back)) =
                (front ++ (spelled ++ (((fraction.map fun digits => '.' :: digits.text).getD [] ++
                  ['e', if exponentNegative = true then '-' else '+'])))) ++
                  (exponent.text ++ back) := by
              rw [tail_scientific]
              simp only [List.append_assoc, List.cons_append, List.nil_append]
            have freeCut : Free tables (front ++ (spelled ++
                (((fraction.map fun digits => '.' :: digits.text).getD [] ++
                  ['e', if exponentNegative = true then '-' else '+'])))).reverse := by
              rw [← List.append_assoc, ← List.append_assoc, List.reverse_append]
              exact free_exponent ascii exponentNegative _
            obtain ⟨run, isRun, isPart⟩ := mem_numberRuns_of_digits ascii exponent.nonempty
              exponent.allDigits (Or.inl rfl) freeCut (commas_of_free ascii freeBack)
            rw [isCut]
            exact ⟨run, isRun, mem_groundedNumbers.mpr
              ⟨number, isNumber, isPart.trans isExponent⟩⟩
      | infinite isNegative =>
          rw [isWritten] at isKnown
          exact isKnown.elim
      | notANumber =>
          rw [isWritten] at isKnown
          exact isKnown.elim

/-- A figure whose citations are all recognised is known by the values. -/
theorem knownBy_of_clauseCites (allCited : ∀ clause, Cites tables floats figure clause →
      clauseCitesAResultNumber tables clause (some (groundedNumbers floats context)) = true) :
    figure.KnownBy floats (roundedValues floats context) := by
  have isCited := clauseCites_iff.mp (allCited (figure.digits floats ++ figure.tail floats)
    ⟨[], figure.digits floats, [], Or.inl rfl, by rw [List.append_nil, List.nil_append],
      free_nil, free_nil⟩)
  obtain ⟨run, isRun, isKey⟩ := isCited
  obtain ⟨number, isNumber, isPart⟩ := mem_groundedNumbers.mp isKey
  cases figure with
  | whole value =>
      have nonempty : Nat.toDigits 10 value.natAbs ≠ [] := Nat.toDigits_ne_nil
      obtain ⟨runs, same⟩ := numberRuns_only_digits ascii nonempty isDigit_of_mem_decimal
      rw [Figure.digits, Figure.tail, List.append_nil, runs, List.mem_singleton] at isRun
      rw [isRun, same] at isPart
      rw [Figure.KnownBy, toDigits_injective isPart]
      exact isNumber
  | real value =>
      rw [Figure.digits, Figure.tail] at isRun
      rw [Figure.KnownBy]
      cases isWritten : floats.written value with
      | fixed isNegative whole fraction => trivial
      | scientific isNegative lead fraction exponentNegative exponent =>
          rw [isWritten] at isRun
          obtain ⟨first, runs, isLead⟩ := numberRuns_scientific ascii isNegative
            exponentNegative lead exponent fraction
          have isRead : run ∈ [first, exponent.text] := runs ▸ isRun
          refine ⟨number, isNumber, ?_⟩
          rcases List.mem_pair.mp isRead with rfl | rfl
          · exact Or.inl (isLead.symm.trans isPart)
          · right
            rw [← isPart]
            exact ((numberRuns_only_digits ascii exponent.nonempty exponent.allDigits).2).symm
      | infinite isNegative =>
          have noRun : numberRuns tables "Infinity".toList = [] :=
            numberRuns_word ascii (List.all_iff_forall_prop.mp (by decide))
          rw [isWritten] at isRun
          have isNone : run ∈ numberRuns tables "Infinity".toList := isRun
          rw [noRun] at isNone
          cases isNone
      | notANumber =>
          have noRun : numberRuns tables "NaN".toList = [] :=
            numberRuns_word ascii (List.all_iff_forall_prop.mp (by decide))
          rw [isWritten] at isRun
          have isNone : run ∈ numberRuns tables "NaN".toList := isRun
          rw [noRun] at isNone
          cases isNone

omit ascii in
/-- Where all keys are integer parts of what was shown, no other number is recognised. -/
theorem grounded_of_within
    (within : ∀ value ∈ roundedValues floats context, value ∈ integerParts floats context)
    (noColumn : NamesNoColumn tables context clause)
    (noNumber : ∀ run ∈ numberRuns tables clause, ∀ value ∈ integerParts floats context,
      integerPart run ≠ Nat.toDigits 10 value) :
    grounded tables (evidenceOf floats context)
      (context.columns.map ColumnProfile.name) clause = false := by
  rw [grounded, Bool.or_eq_false_iff]
  refine ⟨?_, noColumn⟩
  rw [← Bool.not_eq_true]
  intro isCited
  obtain ⟨run, isRun, isKey⟩ := clauseCites_iff.mp isCited
  obtain ⟨value, isValue, isPart⟩ := mem_groundedNumbers.mp isKey
  exact noNumber run isRun value (within value isValue) isPart

end Keys

/-! ## Words that name no column -/

section Padding

/-- Letters in front of digits. -/
def padding (count value : ℕ) : Text :=
  List.replicate count 'x' ++ Nat.toDigits 10 value

theorem mem_padding {count value : ℕ} {char : Char} (isIn : char ∈ padding count value) :
    char = 'x' ∨ char.isDigit = true := by
  rcases List.mem_append.mp isIn with isLetter | isDigit
  · exact Or.inl (List.eq_of_mem_replicate isLetter)
  · exact Or.inr (isDigit_of_mem_decimal char isDigit)

/-- Such a text is one word, whatever the tables are. -/
theorem tokens_padding (tables : Tables) (count value : ℕ) :
    tokens tables (padding count value) = [padding count value] := by
  have isAscii : ∀ char ∈ padding count value, char.toNat < 128 := by
    intro char isIn
    rcases mem_padding isIn with rfl | isDigit
    · decide
    · have bounds := toNat_of_isDigit isDigit
      omega
  have isLower : ∀ char ∈ padding count value, char.toLower = char := by
    intro char isIn
    rcases mem_padding isIn with rfl | isDigit
    · decide
    · have bounds := toNat_of_isDigit isDigit
      rcases toLower_cases char with same | ⟨isUpper, _⟩
      · exact same
      · omega
  have isWord : ∀ char ∈ padding count value, (!isTokenChar char) = false := by
    intro char isIn
    rcases mem_padding isIn with rfl | isDigit
    · decide
    · rw [Char.isDigit, Bool.and_eq_true, decide_eq_true_eq, decide_eq_true_eq] at isDigit
      have atLeast : '0' ≤ char := isDigit.1
      have atMost : char ≤ '9' := isDigit.2
      simp [isTokenChar, atLeast, atMost]
  have notEmpty : padding count value ≠ [] :=
    List.append_ne_nil_of_right_ne_nil _ Nat.toDigits_ne_nil
  unfold tokens
  rw [text_ascii isAscii, List.map_congr_left isLower, List.map_id',
    List.splitOnP_eq_singleton isWord]
  simp [notEmpty]

/-- The letters can be so many that no word of a list is as long. -/
theorem exists_longer (vocabulary : List Text) :
    ∃ count, ∀ value, padding (count + 1) value ∉ vocabulary := by
  have bounded : ∃ bound, ∀ word ∈ vocabulary, word.length ≤ bound := by
    induction vocabulary with
    | nil => exact ⟨0, fun word isWord => absurd isWord List.not_mem_nil⟩
    | cons first vocabulary induction =>
        obtain ⟨bound, isBound⟩ := induction
        refine ⟨first.length + bound, ?_⟩
        intro word isWord
        rcases List.mem_cons.mp isWord with rfl | isWord
        · omega
        · have fits := isBound word isWord
          omega
  obtain ⟨bound, isBound⟩ := bounded
  refine ⟨bound, ?_⟩
  intro value isWord
  have fits := isBound _ isWord
  rw [padding, List.length_append, List.length_replicate] at fits
  omega

/-- The only number of such a text is that of its digits. -/
theorem numberRuns_padding {tables : Tables} (ascii : tables.DigitsOfAscii)
    (count value : ℕ) :
    numberRuns tables (padding (count + 1) value) = [Nat.toDigits 10 value] := by
  have free : Free tables (List.replicate (count + 1) 'x').reverse := by
    rw [List.reverse_replicate, List.replicate_succ]
    exact free_cons (notDigit_of_ascii ascii (by decide) (by decide)) (by decide)
  have noRun : numberRuns tables (List.replicate (count + 1) 'x') = [] := by
    apply numberRuns_word ascii
    intro char isIn
    rw [List.eq_of_mem_replicate isIn]
    decide
  rw [padding, numberRuns_append ascii free, noRun, List.nil_append]
  exact (numberRuns_only_digits ascii Nat.toDigits_ne_nil isDigit_of_mem_decimal).1

end Padding

/-! ## The packet of a result -/

section Results

variable {Real : Type} {tables : Tables}

/-- Where no other number is recognised, all keys are integer parts of what was shown. -/
theorem within_of_grounded {floats : Floats Real} {context : ResultContext Real}
    (ascii : tables.DigitsOfAscii)
    (unknown : ∀ clause, NamesNoColumn tables context clause →
      (∀ run ∈ numberRuns tables clause, ∀ value ∈ integerParts floats context,
        integerPart run ≠ Nat.toDigits 10 value) →
      grounded tables (evidenceOf floats context)
        (context.columns.map ColumnProfile.name) clause = false)
    {value : ℕ} (isValue : value ∈ roundedValues floats context) :
    value ∈ integerParts floats context := by
  obtain ⟨count, notNamed⟩ :=
    exists_longer (vocabulary tables (context.columns.map ColumnProfile.name))
  have nonempty : Nat.toDigits 10 value ≠ [] := Nat.toDigits_ne_nil
  have isPart := (numberRuns_only_digits ascii nonempty isDigit_of_mem_decimal).2
  have runs := numberRuns_padding ascii count value
  by_contra notPart
  have noColumn : NamesNoColumn tables context (padding (count + 1) value) := by
    rw [NamesNoColumn, tokens_padding]
    simpa using notNamed value
  have notGrounded := unknown (padding (count + 1) value) noColumn (by
    intro run isRun part isPartShown same
    rw [runs, List.mem_singleton] at isRun
    rw [isRun, isPart] at same
    rw [toDigits_injective same] at notPart
    exact notPart isPartShown)
  rw [grounded, Bool.or_eq_false_iff] at notGrounded
  have isCited := clauseCites_iff.mpr ⟨Nat.toDigits 10 value, by
    rw [runs]
    exact List.mem_singleton_self _, by
    rw [isPart]
    exact mem_groundedNumbers.mpr ⟨value, isValue, rfl⟩⟩
  rw [evidenceOf, isCited] at notGrounded
  cases notGrounded.1

/-- For every result, all citations of what is shown are recognised and no other number
is, just if every figure is known by the row count, a statistic or a cell that `float`
gives, and `float` gives no integer part that is not shown. -/
theorem citationsGrounded_iff (ascii : tables.DigitsOfAscii) (floats : Floats Real)
    (config : InsightsSettings) (request : Request) (rows : List (ResultRow Real)) :
    CitationsGrounded tables floats (buildContext floats config request rows) ↔
      (∀ figure ∈ shownFigures (buildContext floats config request rows),
        figure.KnownBy floats
          (roundedValues floats (buildContext floats config request rows))) ∧
      ∀ value ∈ roundedValues floats (buildContext floats config request rows),
        value ∈ integerParts floats (buildContext floats config request rows) := by
  generalize buildContext floats config request rows = context
  constructor
  · intro isGrounded
    constructor
    · intro figure isShown
      exact knownBy_of_clauseCites ascii (isGrounded.shown figure isShown)
    · intro value isValue
      exact within_of_grounded ascii isGrounded.unknown isValue
  · rintro ⟨allKnown, within⟩
    constructor
    · intro figure isShown clause cites
      exact clauseCites_of_knownBy ascii isShown (allKnown figure isShown) cites
    · intro clause noColumn noNumber
      exact grounded_of_within within noColumn noNumber

/-- A text passes if each of its causal clauses cites a figure that was shown. -/
theorem not_ungrounded_of_cites {floats : Floats Real} {context : ResultContext Real}
    (isGrounded : CitationsGrounded tables floats context) {text : Text}
    (allCite : ∀ after ∈ finditer tables.isWord causalPattern text,
      ∃ figure ∈ shownFigures context,
        Cites tables floats figure (clauseOf tables after.ahead)) :
    ungroundedCausalClaim tables (evidenceOf floats context) text = false := by
  rw [← Bool.not_eq_true, ungroundedCausalClaim_iff]
  rintro ⟨columns, _, _, after, isAfter, notGrounded⟩
  obtain ⟨figure, isShown, cites⟩ := allCite after isAfter
  have isCited := isGrounded.shown figure isShown _ cites
  rw [grounded, evidenceOf, isCited] at notGrounded
  cases notGrounded

/-- A text does not pass if one of its causal clauses names no column and has no number
that was shown. -/
theorem ungrounded_of_unknown {floats : Floats Real} {context : ResultContext Real}
    (isGrounded : CitationsGrounded tables floats context) {text : Text}
    (nonempty : text ≠ []) {after : Cursor}
    (isAfter : after ∈ finditer tables.isWord causalPattern text)
    (noColumn : NamesNoColumn tables context (clauseOf tables after.ahead))
    (noNumber : ∀ run ∈ numberRuns tables (clauseOf tables after.ahead),
      ∀ value ∈ integerParts floats context, integerPart run ≠ Nat.toDigits 10 value) :
    ungroundedCausalClaim tables (evidenceOf floats context) text = true := by
  rw [ungroundedCausalClaim_iff]
  exact ⟨_, rfl, nonempty, after, isAfter, isGrounded.unknown _ noColumn noNumber⟩

end Results

/-! ## Two results -/

/-- The floats that are small multiples of a half, as integers. -/
def smallFloats : Floats ℤ where
  written value := .fixed (decide (value < 0)) (value.natAbs / 2)
    (if value % 2 = 0 then ⟨['0'], List.cons_ne_nil _ _, List.all_eq_true.mp (by decide)⟩
      else ⟨['5'], List.cons_ne_nil _ _, List.all_eq_true.mp (by decide)⟩)
  truncate value := value.natAbs / 2
  ofInt value := some (2 * value)
  less value other := decide (value < other)
  isZero value := decide (value = 0)
  sum values := values.sum
  sub value other := value - other
  mul value other := value * other / 2
  div value other := 2 * value / other
  abs value := value.natAbs
  ofCount count := 2 * count
  same cell other :=
    match cell, other with
    | .int value, .int found => decide (value = found)
    | .float value, .float found => decide (value = found)
    | .int value, .float found => decide (2 * value = found)
    | .float value, .int found => decide (value = 2 * found)
    | _, _ => false
  truncate_fixed value isNegative whole fraction isWritten := by
    cases isWritten
    rfl

/-- The price of one row, and no price in others. -/
def pricesOf (price : ℤ) (missing : ℕ) : ResultContext ℤ :=
  buildContext smallFloats ⟨20, 40, 120⟩ ⟨[], [], [], none⟩
    ([("price".toList, .int price)] ::
      List.replicate missing [("price".toList, Cell.none)])

/-- The prices 1.5, 3 and 4.5, and a missing one. -/
def somePrices : ResultContext ℤ :=
  buildContext smallFloats ⟨20, 40, 120⟩ ⟨[], [], [], none⟩
    ([Cell.float 3, .int 3, .none, .float 9].map fun cell => [("price".toList, cell)])

/-- The counts are the integer parts of some price or statistic: four rows, one null,
three prices. -/
theorem citationsGrounded_prices :
    somePrices.columns.map (fun column => (column.nullCount, column.distinctCount)) =
      [(1, 3)] ∧
    CitationsGrounded asciiTables smallFloats somePrices := by
  refine ⟨by decide, ?_⟩
  apply (citationsGrounded_iff (fun _ _ => rfl) smallFloats ⟨20, 40, 120⟩ ⟨[], [], [], none⟩
    _).mpr
  constructor
  · decide
  · decide

/-- The three missing prices are shown, and a claim that cites them is taken for
ungrounded. -/
theorem missingPrices_not_grounded :
    ¬ CitationsGrounded asciiTables smallFloats (pricesOf 40 3) ∧
    ungroundedCausalClaim asciiTables (evidenceOf smallFloats (pricesOf 40 3))
      "The mean is unreliable because 3 values are missing".toList = true := by
  constructor
  · intro isGrounded
    have isShown : Figure.whole 3 ∈ shownFigures (pricesOf 40 3) := by
      apply List.mem_append_left
      exact List.mem_flatMap.mpr ⟨_, List.mem_singleton_self _, List.mem_cons_self⟩
    have isCited := isGrounded.shown (.whole 3) isShown ['3']
      ⟨[], ['3'], [], Or.inl rfl, rfl, free_nil, free_nil⟩
    exact absurd isCited (by decide)
  · decide

end DbBuddy.Insights
