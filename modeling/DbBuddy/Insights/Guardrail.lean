import DbBuddy.Insights.Notes

/-!
# What the guardrail covers

Every field goes through checks of its own, and no two through the same.  What must be
true of what came from the model, so that no text of a bundle or of an answer has in it
what any check looks for, is exactly what the checks of its field leave out.
-/

namespace DbBuddy.Insights

open DbBuddy.Library

/-! ## Findings -/

section Findings

variable {tables : Tables} {evidence : Evidence}

/-- What a finding is kept for. -/
structure Passed (tables : Tables) (evidence : Evidence) (finding : Finding) : Prop where
  topics : bannedTopicsIn tables finding.blob = []
  causes : ungroundedCausalClaim tables evidence finding.claim = false
  sql : containsSql tables finding.blob = false
  cited : (strip finding.evidence).isEmpty = false

/-- A finding as it is kept. -/
def Finding.tapered (tables : Tables) (finding : Finding) : Finding :=
  if containsSpeculation tables finding.blob then finding.taper else finding

theorem Finding.tapered_texts (finding : Finding) :
    (finding.tapered tables).title = finding.title ∧
      (finding.tapered tables).detail = finding.detail ∧
      (finding.tapered tables).evidence = finding.evidence := by
  unfold Finding.tapered
  split
  · exact ⟨rfl, rfl, rfl⟩
  · exact ⟨rfl, rfl, rfl⟩

theorem mem_kept_screenOne {screening : Screening} {finding other : Finding} :
    other ∈ (screenOne tables evidence screening finding).kept ↔
      other ∈ screening.kept ∨
        Passed tables evidence finding ∧ other = finding.tapered tables := by
  unfold screenOne
  dsimp only
  split
  · rename_i isTopic
    have notPassed : ¬Passed tables evidence finding := by
      intro passed
      rw [passed.topics] at isTopic
      cases isTopic
    simp only [notPassed, false_and, or_false]
  · rename_i noTopics
    split
    · rename_i isCause
      have notPassed : ¬Passed tables evidence finding := by
        intro passed
        rw [passed.causes] at isCause
        cases isCause
      simp only [notPassed, false_and, or_false]
    · rename_i noCause
      split
      · rename_i isSql
        have notPassed : ¬Passed tables evidence finding := by
          intro passed
          rw [passed.sql] at isSql
          cases isSql
        simp only [notPassed, false_and, or_false]
      · rename_i noSql
        split
        · rename_i uncited
          have notPassed : ¬Passed tables evidence finding := by
            intro passed
            rw [passed.cited] at uncited
            cases uncited
          simp only [notPassed, false_and, or_false]
        · rename_i isCited
          have passed : Passed tables evidence finding :=
            ⟨by simpa using noTopics, by simpa using noCause, by simpa using noSql,
              by simpa using isCited⟩
          rw [List.mem_append, List.mem_singleton]
          simp only [passed, true_and]
          rfl

/-- The kept findings are those given that pass. -/
theorem mem_kept_screen {findings : List Finding} {other : Finding} :
    other ∈ (screen tables evidence findings).kept ↔
      ∃ finding ∈ findings,
        Passed tables evidence finding ∧ other = finding.tapered tables := by
  have run : ∀ (rest : List Finding) (screening : Screening),
      other ∈ (rest.foldl (screenOne tables evidence) screening).kept ↔
        other ∈ screening.kept ∨ ∃ finding ∈ rest,
          Passed tables evidence finding ∧ other = finding.tapered tables := by
    intro rest
    induction rest with
    | nil =>
        intro screening
        simp
    | cons finding others inductionHypothesis =>
        intro screening
        rw [List.foldl_cons, inductionHypothesis, mem_kept_screenOne, or_assoc]
        simp only [List.mem_cons, exists_eq_or_imp]
  rw [screen, run]
  simp

theorem mem_droppedTopics_screenOne {screening : Screening} {finding : Finding}
    {topic : Topic}
    (isDropped : topic ∈ (screenOne tables evidence screening finding).droppedTopics) :
    topic ∈ screening.droppedTopics ∨ topic ∈ bannedTopicsIn tables finding.blob := by
  unfold screenOne at isDropped
  dsimp only at isDropped
  split at isDropped
  · exact List.mem_append.mp isDropped
  · split at isDropped
    · exact Or.inl isDropped
    · split at isDropped
      · exact Or.inl isDropped
      · split at isDropped
        · exact Or.inl isDropped
        · exact Or.inl isDropped

/-- The topics that findings were dropped for were found in them. -/
theorem droppedTopics_screen (findings : List Finding) :
    ∀ topic ∈ (screen tables evidence findings).droppedTopics, ∃ finding ∈ findings,
      topic ∈ bannedTopicsIn tables finding.blob := by
  have run : ∀ (rest : List Finding) (screening : Screening), ∀ topic ∈
      (rest.foldl (screenOne tables evidence) screening).droppedTopics,
      topic ∈ screening.droppedTopics ∨
        ∃ finding ∈ rest, topic ∈ bannedTopicsIn tables finding.blob := by
    intro rest
    induction rest with
    | nil =>
        intro screening topic isDropped
        exact Or.inl isDropped
    | cons finding others inductionHypothesis =>
        intro screening topic isDropped
        rcases inductionHypothesis _ topic isDropped with isOld | ⟨other, isOther, isIn⟩
        · rcases mem_droppedTopics_screenOne isOld with isOlder | isNew
          · exact Or.inl isOlder
          · exact Or.inr ⟨finding, List.mem_cons_self, isNew⟩
        · exact Or.inr ⟨other, List.mem_cons_of_mem _ isOther, isIn⟩
  intro topic isDropped
  rcases run findings _ topic isDropped with isOld | isFound
  · cases isOld
  · exact isFound

/-- What the checks of a finding come to for its fields. -/
structure FindingCovered (tables : Tables) (evidence : Evidence) (finding : Finding) :
    Prop where
  topics : ∀ text ∈ [finding.title, finding.detail, finding.evidence],
    bannedTopicsIn tables text = []
  sql : ∀ text ∈ [finding.title, finding.detail, finding.evidence],
    containsSql tables text = false
  detail : ungroundedCausalClaim tables evidence finding.detail = false

/-- A field stands between blanks in the text that is checked. -/
theorem Finding.field_within (tables : Tables) (finding : Finding) :
    ∀ text ∈ [finding.title, finding.detail, finding.evidence], ∃ front back,
      finding.blob = front ++ text ++ back ∧
        lastInWord tables.isWord false front = false ∧
        nextInWord tables.isWord back = false := by
  intro text isField
  simp only [List.mem_cons, List.not_mem_nil, or_false] at isField
  rcases isField with rfl | rfl | rfl
  · exact ⟨[], ' ' :: (finding.detail ++ ' ' :: finding.evidence), rfl, rfl,
      nextInWord_blank tables _⟩
  · refine ⟨finding.title ++ [' '], ' ' :: finding.evidence, ?_,
      lastInWord_blank tables _, nextInWord_blank tables _⟩
    simp [Finding.blob]
  · refine ⟨finding.title ++ ' ' :: finding.detail ++ [' '], [], ?_,
      lastInWord_blank tables _, rfl⟩
    simp [Finding.blob]

theorem Passed.covered {finding : Finding} (passed : Passed tables evidence finding) :
    FindingCovered tables evidence finding := by
  constructor
  · intro text isField
    obtain ⟨front, back, isBlob, apartBefore, apartBehind⟩ :=
      finding.field_within tables text isField
    apply bannedTopicsIn_within apartBefore apartBehind
    rw [← isBlob]
    exact passed.topics
  · intro text isField
    obtain ⟨front, back, isBlob, apartBefore, apartBehind⟩ :=
      finding.field_within tables text isField
    apply containsSql_within apartBefore apartBehind
    rw [← isBlob]
    exact passed.sql
  · apply ungroundedCausalClaim_of_suffix (lastInWord_blank tables finding.title)
    rw [List.append_assoc]
    exact passed.causes

end Findings

/-! ## Bundles and answers -/

/-- The topics in what came from the model. -/
def topicsFound (tables : Tables) (raw : Raw) : List Topic :=
  bannedTopicsIn tables (givenSummary tables raw) ++
    (givenFindings tables raw).flatMap fun finding => bannedTopicsIn tables finding.blob

/-- A note of the guardrail on topics that it found. -/
def TopicNote (found : List Topic) (text : Text) : Prop :=
  ∃ note ∈ [topicsNote, summaryTopicsNote, answerTopicsNote], ∃ topics : List Topic,
    topics ⊆ found ∧ text = withTopics note topics

theorem TopicNote.note {tables : Tables} {evidence : Evidence} {found : List Topic}
    {text : Text} (isNote : TopicNote found text) : Note tables evidence found text := by
  obtain ⟨note, isKnown, topics, areFound, rfl⟩ := isNote
  have isFixed : note.1 ∈ fixedTexts ∧ note.2 ∈ fixedTexts := by
    simp only [List.mem_cons, List.not_mem_nil, or_false] at isKnown
    rcases isKnown with rfl | rfl | rfl
    · simp [fixedTexts]
    · simp [fixedTexts]
    · simp [fixedTexts]
  exact note_withTopics isFixed.1 isFixed.2 areFound

/-- Only a note on the topics that were found may have one in it. -/
def Fair (tables : Tables) (evidence : Evidence) (found : List Topic) (text : Text) :
    Prop :=
  Clean tables evidence text ∨ TopicNote found text

/-- Every text of a bundle is clean, but for the notes on topics. -/
structure BundleClean (tables : Tables) (evidence : Evidence) (found : List Topic)
    (bundle : InsightBundle) : Prop where
  summary : Clean tables evidence bundle.summary
  findings : ∀ finding ∈ bundle.findings,
    ∀ text ∈ [finding.title, finding.detail, finding.evidence],
      Clean tables evidence text
  recommendations : ∀ text ∈ bundle.recommendations, Clean tables evidence text
  limitations : ∀ text ∈ bundle.limitations, Fair tables evidence found text

structure AnswerClean (tables : Tables) (evidence : Evidence) (found : List Topic)
    (built : Answer) : Prop where
  answer : Clean tables evidence built.answer
  cited : Clean tables evidence built.evidence
  limitations : ∀ text ∈ built.limitations, Fair tables evidence found text

/-- What nothing looks for is not there: SQL in a summary and in recommendations, a cause
in a title and in an evidence by themselves, anything in the model's own limitations. -/
structure BundleSpared (tables : Tables) (evidence : Evidence) (found : List Topic)
    (raw : Raw) : Prop where
  summary : bannedTopicsIn tables (givenSummary tables raw) = [] →
    ungroundedCausalClaim tables evidence (givenSummary tables raw) = false →
      containsSql tables (givenSummary tables raw) = false
  findings : ∀ finding ∈ givenFindings tables raw, Passed tables evidence finding →
    ungroundedCausalClaim tables evidence finding.title = false ∧
      ungroundedCausalClaim tables evidence finding.evidence = false
  recommendations : ∀ text ∈ givenRecommendations tables raw,
    bannedTopicsIn tables text = [] →
      ungroundedCausalClaim tables evidence text = false →
        containsSql tables text = false
  limitations : ∀ text ∈ givenLimitations tables raw, Fair tables evidence found text

/-- Of an answer, nothing looks at its evidence and the model's own limitations. -/
structure AnswerSpared (tables : Tables) (evidence : Evidence) (found : List Topic)
    (raw : Raw) : Prop where
  cited : Clean tables evidence (stripSql (givenEvidence tables raw))
  limitations : ∀ text ∈ givenLimitations tables raw, Fair tables evidence found text

section Covering

variable {tables : Tables} {evidence : Evidence} {raw : Raw} {found : List Topic}

theorem fair_of_fixed {fixed : String} (isFixed : fixed ∈ fixedTexts) :
    Fair tables evidence found fixed.toList := by
  have note : Note tables evidence [] fixed.toList := note_of_fixed isFixed
  exact Or.inl note.clean

theorem fair_withCount {note : String} (isFixed : note ∈ fixedTexts) (count : ℕ) :
    Fair tables evidence found (withCount note count) := by
  have isNote : Note tables evidence [] (withCount note count) :=
    note_withCount isFixed count
  exact Or.inl isNote.clean

/-- The summary that is kept has SQL in it only if the one given was clean but for
that. -/
theorem checkSummary_clean_iff (summary : Text) :
    Clean tables evidence (checkSummary tables evidence summary).1 ↔
      (bannedTopicsIn tables summary = [] →
        ungroundedCausalClaim tables evidence summary = false →
          containsSql tables summary = false) := by
  have replaced : Clean tables evidence cannotDetermine.toList := cannotDetermine_clean
  unfold checkSummary
  dsimp only
  split
  · rename_i isTopic
    refine iff_of_true replaced ?_
    intro noTopics
    rw [noTopics] at isTopic
    cases isTopic
  · rename_i noTopics
    split
    · rename_i isCause
      refine iff_of_true replaced ?_
      intro _ noCause
      rw [isCause] at noCause
      cases noCause
    · rename_i noCause
      constructor
      · intro clean _ _
        exact clean.sql
      · intro noSql
        have isFree : bannedTopicsIn tables summary = [] := by simpa using noTopics
        have isGrounded : ungroundedCausalClaim tables evidence summary = false := by
          simpa using noCause
        exact ⟨isFree, isGrounded, noSql isFree isGrounded⟩

theorem checkSummary_fair {summary : Text}
    (areFound : bannedTopicsIn tables summary ⊆ found) :
    ∀ text ∈ (checkSummary tables evidence summary).2,
      Fair tables evidence found text := by
  intro text isNote
  unfold checkSummary at isNote
  dsimp only at isNote
  split at isNote
  · exact Or.inr ⟨summaryTopicsNote, by simp, _, areFound, List.mem_singleton.mp isNote⟩
  · split at isNote
    · rw [List.mem_singleton.mp isNote]
      exact fair_of_fixed (by simp [fixedTexts])
    · cases isNote

theorem notes_fair {findings : List Finding}
    (areFound : ∀ finding ∈ findings, bannedTopicsIn tables finding.blob ⊆ found) :
    ∀ text ∈ (screen tables evidence findings).notes,
      Fair tables evidence found text := by
  intro text isNote
  rw [Screening.notes, List.mem_append, List.mem_append] at isNote
  rcases isNote with (isTopics | isUngrounded) | isUnsupported
  · split at isTopics
    · cases isTopics
    · refine Or.inr ⟨topicsNote, by simp, _, ?_, List.mem_singleton.mp isTopics⟩
      intro topic isDropped
      obtain ⟨finding, isGiven, isIn⟩ := droppedTopics_screen findings topic isDropped
      exact areFound finding isGiven isIn
  · split at isUngrounded
    · cases isUngrounded
    · rw [List.mem_singleton.mp isUngrounded]
      exact fair_withCount (by simp [fixedTexts]) _
  · split at isUnsupported
    · cases isUnsupported
    · rw [List.mem_singleton.mp isUnsupported]
      exact fair_withCount (by simp [fixedTexts]) _

theorem mem_of_mem_default {texts : List Text} {default text : Text}
    (isIn : text ∈ if texts.isEmpty then [default] else texts) :
    text = default ∨ text ∈ texts := by
  cases texts with
  | nil => exact Or.inl (List.mem_singleton.mp isIn)
  | cons first others => exact Or.inr isIn

theorem mem_default_of_mem {texts : List Text} {default text : Text}
    (isIn : text ∈ texts) : text ∈ if texts.isEmpty then [default] else texts := by
  cases texts with
  | nil => cases isIn
  | cons first others => exact isIn

theorem clean_nil : Clean tables evidence [] := by
  refine ⟨rfl, ?_, rfl⟩
  unfold ungroundedCausalClaim
  cases evidence.columns with
  | none => rfl
  | some columns => rfl

/-- An empty text stands for none. -/
theorem clean_default_iff {text : Text} :
    Clean tables evidence (if text.isEmpty then cannotDetermine.toList else text) ↔
      Clean tables evidence text := by
  cases text with
  | nil => exact iff_of_true cannotDetermine_clean clean_nil
  | cons first rest => exact Iff.rfl

/-- What is kept of the findings is clean if the titles and the evidence that pass claim
no cause by themselves. -/
theorem validateFindings_clean_iff (findings : List Finding) :
    (∀ finding ∈ (validateFindings tables evidence findings).1,
      ∀ text ∈ [finding.title, finding.detail, finding.evidence],
        Clean tables evidence text) ↔
      ∀ finding ∈ findings, Passed tables evidence finding →
        ungroundedCausalClaim tables evidence finding.title = false ∧
          ungroundedCausalClaim tables evidence finding.evidence = false := by
  have isKept_iff : ∀ finding : Finding,
      finding ∈ (validateFindings tables evidence findings).1 ↔
        finding ∈ (screen tables evidence findings).kept :=
    fun finding => List.mem_insertionSort _
  constructor
  · intro clean finding isGiven passed
    have isKept : finding.tapered tables ∈ (validateFindings tables evidence findings).1 :=
      (isKept_iff _).mpr (mem_kept_screen.mpr ⟨finding, isGiven, passed, rfl⟩)
    obtain ⟨sameTitle, _, sameEvidence⟩ := @Finding.tapered_texts tables finding
    constructor
    · rw [← sameTitle]
      exact (clean _ isKept _ (by simp)).causes
    · rw [← sameEvidence]
      exact (clean _ isKept _ (by simp)).causes
  · intro spared other isKept
    obtain ⟨finding, isGiven, passed, rfl⟩ := mem_kept_screen.mp ((isKept_iff _).mp isKept)
    obtain ⟨sameTitle, sameDetail, sameEvidence⟩ := @Finding.tapered_texts tables finding
    obtain ⟨titleGrounded, evidenceGrounded⟩ := spared finding isGiven passed
    have covered : FindingCovered tables evidence finding := passed.covered
    rw [sameTitle, sameDetail, sameEvidence]
    intro text isField
    refine ⟨covered.topics text isField, ?_, covered.sql text isField⟩
    simp only [List.mem_cons, List.not_mem_nil, or_false] at isField
    rcases isField with rfl | rfl | rfl
    · exact titleGrounded
    · exact covered.detail
    · exact evidenceGrounded

theorem mem_limitations (provider : Option Text) {text : Text} :
    text ∈ (buildBundle tables raw provider evidence).limitations ↔
      text ∈ (let limitations := givenLimitations tables raw ++
          (checkSummary tables evidence (givenSummary tables raw)).2 ++
          (screen tables evidence (givenFindings tables raw)).notes
        if limitations.isEmpty then [rowsNote.toList] else limitations) :=
  List.mem_eraseDups

theorem buildBundle_clean_iff (provider : Option Text) :
    BundleClean tables evidence (topicsFound tables raw)
        (buildBundle tables raw provider evidence) ↔
      BundleSpared tables evidence (topicsFound tables raw) raw := by
  constructor
  · intro clean
    constructor
    · exact (checkSummary_clean_iff _).mp (clean_default_iff.mp clean.summary)
    · exact (validateFindings_clean_iff _).mp clean.findings
    · intro text isGiven noTopics noCause
      apply (clean.recommendations text (List.mem_filter.mpr ⟨isGiven, ?_⟩)).sql
      rw [keepsRecommendation, noTopics, noCause]
      rfl
    · intro text isGiven
      apply clean.limitations text
      exact (mem_limitations provider).mpr
        (mem_default_of_mem (List.mem_append_left _ (List.mem_append_left _ isGiven)))
  · intro spared
    constructor
    · exact clean_default_iff.mpr ((checkSummary_clean_iff _).mpr spared.summary)
    · exact (validateFindings_clean_iff _).mpr spared.findings
    · intro text isKept
      obtain ⟨isGiven, kept⟩ := List.mem_filter.mp isKept
      rw [keepsRecommendation, Bool.and_eq_true] at kept
      have noTopics := List.isEmpty_iff.mp kept.1
      have noCause : ungroundedCausalClaim tables evidence text = false := by
        simpa using kept.2
      exact ⟨noTopics, noCause, spared.recommendations text isGiven noTopics noCause⟩
    · intro text isLimitation
      rcases mem_of_mem_default ((mem_limitations provider).mp isLimitation) with
        rfl | isIn
      · exact fair_of_fixed (by simp [fixedTexts])
      · rcases List.mem_append.mp isIn with isFirst | isNote
        · rcases List.mem_append.mp isFirst with isGiven | isSummary
          · exact spared.limitations text isGiven
          · exact checkSummary_fair (List.subset_append_left _ _) text isSummary
        · refine notes_fair ?_ text isNote
          intro finding isGiven topic isIn
          exact List.mem_append_right _ (List.mem_flatMap.mpr ⟨finding, isGiven, isIn⟩)

theorem validateAnswer_clean (answer cited : Text) :
    Clean tables evidence (validateAnswer tables evidence answer cited).1 := by
  unfold validateAnswer
  dsimp only
  split
  · exact cannotDetermine_clean
  · rename_i noTopics
    split
    · exact cannotDetermine_clean
    · rename_i noCause
      split
      · exact cannotDetermine_clean
      · rename_i noSql
        have same : strip (stripSql answer) = stripSql answer := strip_strip _
        rw [same]
        exact ⟨by simpa using noTopics, by simpa using noCause, by simpa using noSql⟩

theorem validateAnswer_fair (answer cited : Text) :
    ∀ text ∈ (validateAnswer tables evidence answer cited).2,
      Fair tables evidence (bannedTopicsIn tables (stripSql answer)) text := by
  intro text isNote
  unfold validateAnswer at isNote
  dsimp only at isNote
  split at isNote
  · exact Or.inr ⟨answerTopicsNote, by simp, _, List.Subset.refl _,
      List.mem_singleton.mp isNote⟩
  · split at isNote
    · rw [List.mem_singleton.mp isNote]
      exact fair_of_fixed (by simp [fixedTexts])
    · split at isNote
      · rw [List.mem_singleton.mp isNote]
        exact fair_of_fixed (by simp [fixedTexts])
      · rcases List.mem_append.mp isNote with isUncited | isQualified
        · split at isUncited
          · rw [List.mem_singleton.mp isUncited]
            exact fair_of_fixed (by simp [fixedTexts])
          · cases isUncited
        · split at isQualified
          · rw [List.mem_singleton.mp isQualified]
            exact fair_of_fixed (by simp [fixedTexts])
          · cases isQualified

/-- The topics in an answer that came from the model. -/
def answerTopics (tables : Tables) (raw : Raw) : List Topic :=
  bannedTopicsIn tables (stripSql (givenAnswer tables raw))

theorem buildAnswer_clean_iff (provider : Option Text) :
    AnswerClean tables evidence (answerTopics tables raw)
        (buildAnswer tables raw provider evidence) ↔
      AnswerSpared tables evidence (answerTopics tables raw) raw := by
  constructor
  · intro clean
    refine ⟨clean.cited, ?_⟩
    intro text isGiven
    exact clean.limitations text (List.mem_append_left _ isGiven)
  · intro spared
    refine ⟨clean_default_iff.mpr (validateAnswer_clean _ _), spared.cited, ?_⟩
    intro text isLimitation
    rcases List.mem_append.mp isLimitation with isGiven | isNote
    · exact spared.limitations text isGiven
    · exact validateAnswer_fair _ _ text isNote

end Covering

/-- Exactly when every text of a bundle and of an answer passes all three checks, where
a note on topics that were found may name them, and names no others. -/
theorem guardrail_covers_iff (tables : Tables) (raw : Raw) (provider : Option Text)
    (evidence : Evidence) :
    (BundleClean tables evidence (topicsFound tables raw)
        (buildBundle tables raw provider evidence) ↔
      BundleSpared tables evidence (topicsFound tables raw) raw) ∧
    (AnswerClean tables evidence (answerTopics tables raw)
        (buildAnswer tables raw provider evidence) ↔
      AnswerSpared tables evidence (answerTopics tables raw) raw) ∧
    ∀ found text, TopicNote found text → Note tables evidence found text :=
  ⟨buildBundle_clean_iff provider, buildAnswer_clean_iff provider,
    fun _ _ isNote => isNote.note⟩

/-! ### What is left open -/

/-- As far as ASCII goes, with the four letters that are taken for ASCII ones. -/
def isPlainWord (char : Char) : Bool :=
  asciiWord char || [0x130, 0x131, 0x17F, 0x212A].contains char.toNat

theorem isPlainWord_upper {char : Char} (low : 65 ≤ char.toNat)
    (high : char.toNat ≤ 90) : isPlainWord char = true := by
  have isLetter : char.isAlphanum = true := isAlphanum_iff.mpr (by omega)
  rw [isPlainWord, asciiWord, isLetter, Bool.true_or, Bool.true_or]

theorem isPlainWord_lower {char : Char} (low : 97 ≤ char.toNat)
    (high : char.toNat ≤ 122) : isPlainWord char = true := by
  have isLetter : char.isAlphanum = true := isAlphanum_iff.mpr (by omega)
  rw [isPlainWord, asciiWord, isLetter, Bool.true_or, Bool.true_or]

theorem isPlainWord_fold (char : Char) : isPlainWord (fold char) = isPlainWord char := by
  unfold fold
  split
  · rename_i isCode
    simp [isPlainWord, isCode]
    decide
  · rename_i isCode
    simp [isPlainWord, isCode]
    decide
  · rename_i isCode
    simp [isPlainWord, isCode]
    decide
  · rename_i isCode
    simp [isPlainWord, isCode]
    decide
  · rcases toLower_cases char with same | ⟨low, high, lowered⟩
    · rw [same]
    · rw [isPlainWord_upper low high]
      apply isPlainWord_lower
      · omega
      · omega

def plain : Tables where
  isWord := isPlainWord
  isDigit := Char.isDigit
  isPrintable char := decide (32 ≤ char.toNat)
  lowercase := asciiLowercase
  isWord_ascii char isAscii := by
    have notOther : [0x130, 0x131, 0x17F, 0x212A].contains char.toNat = false := by
      simp only [List.contains_eq_mem, List.mem_cons, List.not_mem_nil, or_false,
        decide_eq_false_iff_not]
      omega
    rw [isPlainWord, notOther, Bool.or_false]
    rfl
  isWord_fold := isPlainWord_fold

/-- A result with one column. -/
def regions : Evidence := ⟨some ["region".toList], none⟩

def carelessReport : Raw :=
  [("summary".toList, .str "Drop table b".toList),
    ("findings".toList, .list [.obj
      [("title".toList, .str "Down because of ads".toList),
        ("detail".toList, .str "in region 1".toList),
        ("evidence".toList, .str "due to ads".toList)]]),
    ("actions".toList, .list [.str "drop table b".toList]),
    ("caveats".toList, .str "drop table b".toList),
    ("support".toList, .str "drop table b".toList)]

theorem sql_unfair {tables : Tables} {evidence : Evidence} {found : List Topic}
    {text : Text} (isSql : containsSql tables text = true) :
    ¬Fair tables evidence found text := by
  rintro (clean | isNote)
  · rw [clean.sql] at isSql
    cases isSql
  · have note : Note tables evidence found text := isNote.note
    rw [note.sql] at isSql
    cases isSql

/-- What the checks of a bundle leave open, all at once. -/
theorem carelessReport_missed :
    let bundle := buildBundle plain carelessReport none regions
    (containsSql plain bundle.summary &&
      bundle.recommendations.any (containsSql plain) &&
      bundle.limitations.any (containsSql plain) &&
      bundle.findings.any fun finding =>
        ungroundedCausalClaim plain regions finding.title &&
          ungroundedCausalClaim plain regions finding.evidence) = true := by
  decide

/-- No field is covered by all three checks but a finding's detail and an answer: a
summary, a recommendation and a limitation may have SQL in them, and a title and an
evidence a cause; and the evidence of an answer is not checked. -/
theorem guardrail_misses :
    let bundle := buildBundle plain carelessReport none regions
    ¬Clean plain regions bundle.summary ∧
    (¬∀ text ∈ bundle.recommendations, Clean plain regions text) ∧
    (¬∀ text ∈ bundle.limitations,
      Fair plain regions (topicsFound plain carelessReport) text) ∧
    (¬∀ finding ∈ bundle.findings, Clean plain regions finding.title) ∧
    (¬∀ finding ∈ bundle.findings, Clean plain regions finding.evidence) ∧
    ¬Clean plain regions (buildAnswer plain carelessReport none regions).evidence := by
  have missed := carelessReport_missed
  simp only [Bool.and_eq_true, List.any_eq_true] at missed
  obtain ⟨⟨⟨summarySql, advice, isAdvice, adviceSql⟩, caveat, isCaveat, caveatSql⟩,
    finding, isFinding, titleClaims, evidenceClaims⟩ := missed
  refine ⟨?_, ?_, ?_, ?_, ?_, ?_⟩
  · intro clean
    rw [clean.sql] at summarySql
    cases summarySql
  · intro clean
    rw [(clean advice isAdvice).sql] at adviceSql
    cases adviceSql
  · intro fair
    exact sql_unfair caveatSql (fair caveat isCaveat)
  · intro clean
    rw [(clean finding isFinding).causes] at titleClaims
    cases titleClaims
  · intro clean
    rw [(clean finding isFinding).causes] at evidenceClaims
    cases evidenceClaims
  · intro clean
    have isSql : containsSql plain
        (buildAnswer plain carelessReport none regions).evidence = true := by
      decide
    rw [clean.sql] at isSql
    cases isSql

end DbBuddy.Insights
