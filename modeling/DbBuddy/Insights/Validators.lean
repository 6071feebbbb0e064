import DbBuddy.Library.Patterns
import DbBuddy.Library.PythonText
import DbBuddy.Library.Scanning
import Mathlib.Data.List.Sort

/-!
# What the model may not say

A response is scanned for topics outside the data, for causes that the result does not
ground, for SQL and for hedging.  Findings are dropped or tapered one by one; an answer
is replaced as a whole.
-/

namespace DbBuddy.Insights

open DbBuddy.Library

/-- A text of Python; single surrogates are left out. -/
abbrev Text := List Char

/-! ## Characters -/

/-- What a character is compared as when case is ignored: its lower case, where the
dotted and the dotless i, the long s and the Kelvin sign are taken for ASCII letters. -/
def fold (char : Char) : Char :=
  match char.toNat with
  | 0x130 => 'i'
  | 0x131 => 'i'
  | 0x17F => 's'
  | 0x212A => 'k'
  | _ => char.toLower

/-- Python's tables of Unicode: `\w`, `\d`, `str.isprintable` and `str.lower`. -/
structure Tables where
  isWord : Char → Bool
  isDigit : Char → Bool
  isPrintable : Char → Bool
  lowercase : Lowercase
  isWord_ascii : ∀ char : Char, char.toNat < 128 →
    isWord char = (char.isAlphanum || char == '_')
  isWord_fold : ∀ char, isWord (fold char) = isWord char

theorem fold_of_ascii {char : Char} (isAscii : char.toNat < 128) :
    fold char = char.toLower := by
  unfold fold
  split
  · omega
  · omega
  · omega
  · omega
  · rfl

theorem fold_cases (char : Char) : fold char = char.toLower ∨
    (fold char).toNat < 128 ∧ (fold char).toLower = fold char := by
  unfold fold
  split
  · exact Or.inr ⟨by decide, by decide⟩
  · exact Or.inr ⟨by decide, by decide⟩
  · exact Or.inr ⟨by decide, by decide⟩
  · exact Or.inr ⟨by decide, by decide⟩
  · exact Or.inl rfl

theorem fold_fold (char : Char) : fold (fold char) = fold char := by
  rcases fold_cases char with isLower | ⟨isAscii, same⟩
  · rcases toLower_cases char with same | ⟨_, atMost, isCode⟩
    · rw [isLower, same, isLower, same]
    · rw [isLower, fold_of_ascii (by omega)]
      rcases toLower_cases char.toLower with same | ⟨_, below, _⟩
      · exact same
      · omega
  · rw [fold_of_ascii isAscii, same]

theorem isWord_fold_of_ascii (char : Char) (isAscii : char.toNat < 128) :
    ((fold char).isAlphanum || fold char == '_') = (char.isAlphanum || char == '_') := by
  rw [fold_of_ascii isAscii]
  rcases toLower_cases char with same | ⟨atLeast, atMost, isCode⟩
  · rw [same]
  · have isLetter : char.isAlphanum = true := isAlphanum_iff.mpr (by omega)
    have isLetterThen : char.toLower.isAlphanum = true := isAlphanum_iff.mpr (by omega)
    rw [isLetter, isLetterThen, Bool.true_or, Bool.true_or]

theorem isWord_fold_fold (char : Char) :
    ((fold (fold char)).isAlphanum || fold (fold char) == '_') =
      ((fold char).isAlphanum || fold char == '_') := by
  rw [fold_fold]

/-- The tables as far as ASCII goes. -/
def asciiTables : Tables where
  isWord char := (fold char).isAlphanum || fold char == '_'
  isDigit := Char.isDigit
  isPrintable char := decide (32 ≤ char.toNat) && decide (char.toNat < 127)
  lowercase := asciiLowercase
  isWord_ascii := isWord_fold_of_ascii
  isWord_fold := isWord_fold_fold

/-- Words of a pattern, to be found in any case. -/
def folded (words : List String) : List Text :=
  words.map fun word => word.toList.map fold

/-! ## The patterns -/

/-- The keys of `BANNED_TOPICS` -/
inductive Topic where
  | weather
  | competitors
  | economy
  | holidays
  | marketingSpeculation
  deriving DecidableEq

def Topic.name : Topic → String
  | .weather => "weather"
  | .competitors => "competitors"
  | .economy => "economy"
  | .holidays => "holidays"
  | .marketingSpeculation => "marketing_speculation"

def Topic.words : Topic → List String
  | .weather =>
      ["weather", "rain", "rainfall", "snow", "temperature outside", "climate"]
  | .competitors =>
      ["competitor", "competitors", "competition", "rival", "market share"]
  | .economy =>
      ["recession", "inflation", "economic downturn", "economy", "market conditions"]
  | .holidays =>
      ["holiday season", "christmas", "black friday", "festive season"]
  | .marketingSpeculation =>
      ["brand perception", "customer sentiment", "word of mouth"]

/-- `BANNED_TOPICS` -/
def bannedTopics : List Topic :=
  [.weather, .competitors, .economy, .holidays, .marketingSpeculation]

/-- `CAUSAL_CONNECTIVES` -/
def causalConnectives : List String :=
  ["because of", "because", "due to", "caused by", "driven by", "attributable to",
    "as a result of", "owing to", "stemming from", "resulted from", "resulting from",
    "thanks to", "on account of", "led to", "explained by"]

/-- `SPECULATION_MARKERS` -/
def speculationMarkers : List String :=
  ["probably", "likely", "presumably", "may have", "might have", "could have",
    "perhaps", "suggests that", "it seems", "appears to be due to", "possibly"]

def Topic.pattern (topic : Topic) : Pattern := .keywords fold (folded topic.words)

def causalPattern : Pattern := .keywords fold (folded causalConnectives)

def speculationPattern : Pattern := .keywords fold (folded speculationMarkers)

/-- A word of a statement. -/
def keyword (word : String) : Pattern := .literal fold (word.toList.map fold)

def spaces : Pattern := .many isSpace

/-- The alternatives of `SQL_MARKERS`, where a dot stands for a line break too. -/
def sqlStatements (tables : Tables) : List Pattern :=
  [.seq (keyword "SELECT") (.seq spaces
      (.seq (.many fun _ => true) (.seq spaces (keyword "FROM")))),
    .seq (keyword "INSERT") (.seq spaces (keyword "INTO")),
    .seq (keyword "UPDATE") (.seq spaces
      (.seq (.many tables.isWord) (.seq spaces (keyword "SET")))),
    .seq (keyword "DELETE") (.seq spaces (keyword "FROM")),
    .seq (keyword "DROP") (.seq spaces (keyword "TABLE")),
    .seq (keyword "ALTER") (.seq spaces (keyword "TABLE"))]

/-- `SQL_MARKERS` -/
def sqlPattern (tables : Tables) : Pattern := .delimited (sqlStatements tables)

/-! ## The checks of a text -/

section Checks

variable (tables : Tables)

/-- `banned_topics_in` -/
def bannedTopicsIn (text : Text) : List Topic :=
  if text.isEmpty then []
  else bannedTopics.filter fun topic => search tables.isWord topic.pattern text

def isTokenChar (char : Char) : Bool :=
  (decide ('a' ≤ char) && decide (char ≤ 'z')) ||
    (decide ('0' ≤ char) && decide (char ≤ '9')) || char == '_'

/-- `_tokens`: the runs of `[a-z0-9_]+` in a text in lower case. -/
def tokens (text : Text) : List Text :=
  ((tables.lowercase.text text).splitOnP fun char => !isTokenChar char).filter
    fun token => !token.isEmpty

/-- The words that a column may be named by. -/
def vocabulary (columns : List Text) : List Text :=
  columns.flatMap fun column =>
    tokens tables (column.map fun char => if char = '_' then ' ' else char) ++
      [tables.lowercase.text column]

/-- What is left of a claim up to `;|\.(?!\d)`. -/
def clauseOf : Text → Text
  | [] => []
  | char :: rest =>
      if char = ';' then []
      else if char = '.' && !(rest.head?.any tables.isDigit) then []
      else char :: clauseOf rest

/-- `\d[\d,]*(?:\.\d+)?` -/
def numberPattern : Matcher (Option Text)
  | [] => none
  | first :: rest =>
      if tables.isDigit first then
        let inRun := fun char => tables.isDigit char || char == ','
        let whole := first :: rest.takeWhile inRun
        match rest.dropWhile inRun with
        | '.' :: fraction =>
            let digits := fraction.takeWhile tables.isDigit
            if digits.isEmpty then some (some whole, '.' :: fraction)
            else some (some (whole ++ '.' :: digits), fraction.dropWhile tables.isDigit)
        | behind => some (some whole, behind)
      else none

/-- `re.findall` of the numbers in a clause. -/
def numberRuns (clause : Text) : List Text :=
  (scan (numberPattern tables) (fun _ => none) clause).filterMap id

/-- `run.replace(",", "").split(".")[0]` -/
def integerPart (run : Text) : Text :=
  (run.filter fun char => char != ',').takeWhile fun char => char != '.'

/-- `_clause_cites_a_result_number` -/
def clauseCitesAResultNumber (clause : Text) (numbers : Option (List Text)) : Bool :=
  let runs := numberRuns tables clause
  if runs.isEmpty then false
  else
    match numbers with
    | none => true
    | some known => runs.any fun run => known.contains (integerPart run)

/-- What a result is known to contain; its columns may be unknown, and its numbers. -/
structure Evidence where
  columns : Option (List Text)
  numbers : Option (List Text)

/-- `ungrounded_causal_claim` -/
def ungroundedCausalClaim (evidence : Evidence) (text : Text) : Bool :=
  match evidence.columns with
  | none => false
  | some columns =>
      if text.isEmpty then false
      else (finditer tables.isWord causalPattern text).any fun after =>
        let clause := clauseOf tables after.ahead
        !clauseCitesAResultNumber tables clause evidence.numbers &&
          !(tokens tables clause).any (vocabulary tables columns).contains

/-- `contains_speculation` -/
def containsSpeculation (text : Text) : Bool :=
  !text.isEmpty && search tables.isWord speculationPattern text

/-- `contains_sql` -/
def containsSql (text : Text) : Bool :=
  !text.isEmpty && search tables.isWord (sqlPattern tables) text

end Checks

/-! ## Fences -/

/-- Three backticks. -/
def fence : Text := List.replicate 3 (Char.ofNat 96)

/-- What follows the next fence. -/
def closeFence : Text → Option Text
  | [] => none
  | char :: rest =>
      if fence <+: char :: rest then some ((char :: rest).drop fence.length)
      else closeFence rest

/-- A fence, the text up to the next one and that fence, all replaced by nothing. -/
def fencePattern : Matcher Text := fun text =>
  if fence <+: text then
    (closeFence (text.drop fence.length)).map fun after => ([], after)
  else none

/-- `strip_sql` -/
def stripSql (text : Text) : Text := strip (substitute fencePattern text)

/-! ## Findings -/

/-- The confidence is counted in thousandths. -/
structure Finding where
  title : Text
  detail : Text
  evidence : Text
  confidence : ℕ := 1000
  deriving DecidableEq

def Finding.claim (finding : Finding) : Text :=
  finding.title ++ ' ' :: finding.detail

def Finding.blob (finding : Finding) : Text :=
  finding.title ++ ' ' :: (finding.detail ++ ' ' :: finding.evidence)

/-- `SPECULATION_PENALTY` -/
def Finding.taper (finding : Finding) : Finding :=
  { finding with confidence := finding.confidence * 500 / 1000 }

/-- The findings that were kept so far, and why the others were not. -/
structure Screening where
  kept : List Finding
  droppedTopics : List Topic
  droppedUngrounded : ℕ
  droppedUnsupported : ℕ

/-- `", ".join(sorted(topics))` -/
def sortedNames (topics : List Topic) : Text :=
  [',', ' '].intercalate
    (([Topic.competitors, .economy, .holidays, .marketingSpeculation, .weather].filter
      fun topic => topics.contains topic).map fun topic => topic.name.toList)

/-- A note that names topics in brackets. -/
def withTopics (note : String × String) (topics : List Topic) : Text :=
  note.1.toList ++ '(' :: (sortedNames topics ++ ')' :: note.2.toList)

/-- A note that begins with a count. -/
def withCount (note : String) (count : ℕ) : Text :=
  (toString count).toList ++ note.toList

def topicsNote : String × String :=
  ("Some generated findings referenced factors outside this data ",
    " and were removed. This result cannot support conclusions about them.")

def ungroundedNote : String :=
  " generated finding(s) explained the result using factors it does not contain and were removed. This data shows what happened, not why."

def unsupportedNote : String :=
  " generated finding(s) cited no evidence from the result and were removed."

section Findings

variable (tables : Tables)

/-- One round of the loop in `validate_findings`. -/
def screenOne (evidence : Evidence) (screening : Screening) (finding : Finding) :
    Screening :=
  let topics := bannedTopicsIn tables finding.blob
  if !topics.isEmpty then
    { screening with droppedTopics := screening.droppedTopics ++ topics }
  else if ungroundedCausalClaim tables evidence finding.claim then
    { screening with droppedUngrounded := screening.droppedUngrounded + 1 }
  else if containsSql tables finding.blob then
    { screening with droppedUnsupported := screening.droppedUnsupported + 1 }
  else if (strip finding.evidence).isEmpty then
    { screening with droppedUnsupported := screening.droppedUnsupported + 1 }
  else
    { screening with kept := screening.kept ++
        [if containsSpeculation tables finding.blob then finding.taper else finding] }

def screen (evidence : Evidence) (findings : List Finding) : Screening :=
  findings.foldl (screenOne tables evidence) ⟨[], [], 0, 0⟩

/-- The limitations that a screening leads to. -/
def Screening.notes (screening : Screening) : List Text :=
  (if screening.droppedTopics.isEmpty then []
    else [withTopics topicsNote screening.droppedTopics]) ++
  (if screening.droppedUngrounded = 0 then []
    else [withCount ungroundedNote screening.droppedUngrounded]) ++
  (if screening.droppedUnsupported = 0 then []
    else [withCount unsupportedNote screening.droppedUnsupported])

/-- `validate_findings`; the kept findings are sorted by confidence, and the sort is
stable. -/
def validateFindings (evidence : Evidence) (findings : List Finding) :
    List Finding × List Text :=
  let screening := screen tables evidence findings
  (screening.kept.insertionSort fun first second =>
    second.confidence ≤ first.confidence, screening.notes)

end Findings

/-! ## Answers -/

/-- `CANNOT_DETERMINE` -/
def cannotDetermine : String := "I cannot determine that from the available data."

def answerTopicsNote : String × String :=
  ("The generated answer relied on factors not present in this data ",
    ". Answering it would require additional data sources.")

def answerUngroundedNote : String :=
  "The generated answer explained the result using factors it does not contain. This data shows what happened, not why."

def answerSqlNote : String :=
  "The generated answer contained SQL. The Insights Engine explains results; it does not write queries."

def uncitedNote : String :=
  "This answer was not tied to specific values in the result."

def qualifiedNote : String :=
  "This answer contains qualified language; the data supports what happened, not why."

/-- `validate_answer` -/
def validateAnswer (tables : Tables) (evidence : Evidence) (answer cited : Text) :
    Text × List Text :=
  let answer := stripSql answer
  let topics := bannedTopicsIn tables answer
  if !topics.isEmpty then
    (cannotDetermine.toList, [withTopics answerTopicsNote topics])
  else if ungroundedCausalClaim tables evidence answer then
    (cannotDetermine.toList, [answerUngroundedNote.toList])
  else if containsSql tables answer then
    (cannotDetermine.toList, [answerSqlNote.toList])
  else
    (strip answer,
      (if strip answer ≠ cannotDetermine.toList ∧ (strip cited).isEmpty then
        [uncitedNote.toList] else []) ++
      (if containsSpeculation tables answer then [qualifiedNote.toList] else []))

end DbBuddy.Insights
