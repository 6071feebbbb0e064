import DbBuddy.Insights.Validators

/-!
# From raw output to a bundle

Models answer in many shapes: a string where a list was asked for, another key, a value
of another type.  What arrives is turned into texts first, and then each field goes
through its own checks.
-/

namespace DbBuddy.Insights

open DbBuddy.Library

/-! ## Values -/

/-- What `json.loads` returns.  A float is given by the text that Python prints it as. -/
inductive Json where
  | null
  | bool (value : Bool)
  | int (value : ℤ)
  | float (printed : Text)
  | str (text : Text)
  | list (items : List Json)
  | obj (entries : List (Text × Json))

/-- A JSON object by its keys. -/
abbrev Raw := List (Text × Json)

/-- What `or` takes for false. -/
def Json.falsy : Json → Bool
  | .null => true
  | .bool value => !value
  | .int value => value == 0
  | .float printed => printed == "0.0".toList || printed == "-0.0".toList
  | .str text => text.isEmpty
  | .list items => items.isEmpty
  | .obj entries => entries.isEmpty

/-- A code point in so many hexadecimal digits. -/
def hex (width code : ℕ) : Text :=
  let digits := Nat.toDigits 16 code
  List.replicate (width - digits.length) '0' ++ digits

def backslash : Char := Char.ofNat 92

/-- A character in `repr` of a string, between quotes of one kind. -/
def reprChar (tables : Tables) (quote char : Char) : Text :=
  if char = quote ∨ char = backslash then [backslash, char]
  else if char = '\t' then [backslash, 't']
  else if char = '\n' then [backslash, 'n']
  else if char = '\r' then [backslash, 'r']
  else if char.toNat < 32 ∨ char.toNat = 127 then backslash :: 'x' :: hex 2 char.toNat
  else if char.toNat < 127 ∨ tables.isPrintable char then [char]
  else if char.toNat < 256 then backslash :: 'x' :: hex 2 char.toNat
  else if char.toNat < 65536 then backslash :: 'u' :: hex 4 char.toNat
  else backslash :: 'U' :: hex 8 char.toNat

/-- `repr` of a string: in double quotes only if it has single ones and no double
ones. -/
def reprText (tables : Tables) (text : Text) : Text :=
  let quote := if text.contains '\'' && !text.contains '"' then '"' else '\''
  quote :: (text.flatMap (reprChar tables quote) ++ [quote])

def decimalOf (value : ℤ) : Text := (toString value).toList

mutual

/-- `repr` -/
def Json.repr (tables : Tables) : Json → Text
  | .null => "None".toList
  | .bool true => "True".toList
  | .bool false => "False".toList
  | .int value => decimalOf value
  | .float printed => printed
  | .str text => reprText tables text
  | .list items => '[' :: ([',', ' '].intercalate (reprItems tables items) ++ [']'])
  | .obj entries =>
      Char.ofNat 123 ::
        ([',', ' '].intercalate (reprEntries tables entries) ++ [Char.ofNat 125])

def reprItems (tables : Tables) : List Json → List Text
  | [] => []
  | item :: items => item.repr tables :: reprItems tables items

def reprEntries (tables : Tables) : List (Text × Json) → List Text
  | [] => []
  | (key, value) :: entries =>
      (reprText tables key ++ ':' :: ' ' :: value.repr tables) ::
        reprEntries tables entries

end

/-- `str` -/
def Json.pyStr (tables : Tables) : Json → Text
  | .str text => text
  | value => value.repr tables

/-- A character in `json.dumps`, which writes ASCII only. -/
def dumpsChar (char : Char) : Text :=
  let code := char.toNat
  if char = '"' ∨ char = backslash then [backslash, char]
  else if char = '\n' then [backslash, 'n']
  else if char = '\r' then [backslash, 'r']
  else if char = '\t' then [backslash, 't']
  else if code = 12 then [backslash, 'f']
  else if code = 8 then [backslash, 'b']
  else if 32 ≤ code ∧ code < 127 then [char]
  else if code < 65536 then backslash :: 'u' :: hex 4 code
  else
    -- a surrogate pair
    (backslash :: 'u' :: hex 4 (55296 + (code - 65536) / 1024)) ++
      backslash :: 'u' :: hex 4 (56320 + (code - 65536) % 1024)

def dumpsText (text : Text) : Text := '"' :: (text.flatMap dumpsChar ++ ['"'])

def dumpsFloat (printed : Text) : Text :=
  if printed = "nan".toList then "NaN".toList
  else if printed = "inf".toList then "Infinity".toList
  else if printed = "-inf".toList then "-Infinity".toList
  else printed

mutual

/-- `json.dumps` -/
def Json.dumps : Json → Text
  | .null => "null".toList
  | .bool true => "true".toList
  | .bool false => "false".toList
  | .int value => decimalOf value
  | .float printed => dumpsFloat printed
  | .str text => dumpsText text
  | .list items => '[' :: ([',', ' '].intercalate (dumpsItems items) ++ [']'])
  | .obj entries =>
      Char.ofNat 123 ::
        ([',', ' '].intercalate (dumpsEntries entries) ++ [Char.ofNat 125])

def dumpsItems : List Json → List Text
  | [] => []
  | item :: items => item.dumps :: dumpsItems items

def dumpsEntries : List (Text × Json) → List Text
  | [] => []
  | (key, value) :: entries =>
      (dumpsText key ++ ':' :: ' ' :: value.dumps) :: dumpsEntries entries

end

/-! ## Fields -/

/-- `data.get(name)`, if it is not `None`. -/
def getKey (data : Raw) (name : String) : Option Json :=
  match data.lookup name.toList with
  | some .null => none
  | found => found

/-- `_first_key` -/
def firstKey (data : Raw) (names : List String) : Option Json :=
  names.findSome? (getKey data)

/-- `str(value or default)` -/
def textOr (tables : Tables) (value : Option Json) (default : Text) : Text :=
  match value with
  | none => default
  | some value => if value.falsy then default else value.pyStr tables

/-- The text of an item of a list. -/
def itemText : Json → Text
  | .str text => strip text
  | item => strip item.dumps

/-- The texts of some items, but for empty ones. -/
def itemTexts (items : List Json) : List Text :=
  (items.map itemText).filter fun text => !text.isEmpty

/-- `_as_str_list` -/
def asStrList (tables : Tables) : Option Json → List Text
  | none => []
  | some .null => []
  | some (.str text) => if (strip text).isEmpty then [] else [strip text]
  | some (.obj entries) => itemTexts (entries.map Prod.snd)
  | some (.list items) => itemTexts items
  | some value => [value.pyStr tables]

/-- A finding of an object. -/
def findingOf (tables : Tables) (item : Raw) : Finding where
  title := (stripSql (textOr tables (firstKey item ["title", "label", "name"])
    "Observation".toList)).take 200
  detail := stripSql
    (textOr tables (firstKey item ["detail", "description", "text", "finding"]) [])
  evidence := stripSql
    (textOr tables (firstKey item ["evidence", "support", "basis"]) [])

def asFinding (tables : Tables) : Json → Option Finding
  | .str text =>
      some { title := "Observation".toList, detail := strip text, evidence := [] }
  | .obj entries => some (findingOf tables entries)
  | _ => none

/-- `_as_findings` -/
def asFindings (tables : Tables) : Option Json → List Finding
  | some (.obj entries) => (entries.map Prod.snd).filterMap (asFinding tables)
  | some (.list items) => items.filterMap (asFinding tables)
  | _ => []

/-! ## The bundle and the answer -/

/-- `PROMPT_VERSION` -/
def promptVersion : Text := "v1".toList

structure InsightBundle where
  summary : Text
  findings : List Finding
  recommendations : List Text
  limitations : List Text
  provider : Option Text
  promptVersion : Text

def summaryTopicsNote : String × String :=
  ("The generated summary referenced factors outside this data ", " and was withheld.")

def summaryUngroundedNote : String :=
  "The generated summary explained the result using factors it does not contain and was withheld. This data shows what happened, not why."

def rowsNote : String := "Based only on the rows returned by this query."

section Building

variable (tables : Tables)

/-- The summary that came from the model. -/
def givenSummary (raw : Raw) : Text :=
  stripSql (textOr tables (firstKey raw ["summary", "executive_summary", "overview"]) [])

def givenFindings (raw : Raw) : List Finding :=
  asFindings tables
    (firstKey raw ["findings", "key_findings", "observations", "insights"])

def givenRecommendations (raw : Raw) : List Text :=
  asStrList tables (firstKey raw ["recommendations", "actions", "next_steps"])

def givenLimitations (raw : Raw) : List Text :=
  asStrList tables (firstKey raw ["limitations", "caveats"])

def givenAnswer (raw : Raw) : Text :=
  textOr tables (firstKey raw ["answer", "response", "text"]) []

def givenEvidence (raw : Raw) : Text :=
  textOr tables (firstKey raw ["evidence", "support", "basis"]) []

/-- The summary that is kept, and the note on one that is not. -/
def checkSummary (evidence : Evidence) (summary : Text) : Text × List Text :=
  let topics := bannedTopicsIn tables summary
  if !topics.isEmpty then
    (cannotDetermine.toList, [withTopics summaryTopicsNote topics])
  else if ungroundedCausalClaim tables evidence summary then
    (cannotDetermine.toList, [summaryUngroundedNote.toList])
  else (summary, [])

/-- What a recommendation must not be premised on. -/
def keepsRecommendation (evidence : Evidence) (recommendation : Text) : Bool :=
  (bannedTopicsIn tables recommendation).isEmpty &&
    !ungroundedCausalClaim tables evidence recommendation

/-- `build_bundle` -/
def buildBundle (raw : Raw) (provider : Option Text) (evidence : Evidence) :
    InsightBundle :=
  let validated := validateFindings tables evidence (givenFindings tables raw)
  let checked := checkSummary tables evidence (givenSummary tables raw)
  let limitations := givenLimitations tables raw ++ checked.2 ++ validated.2
  { summary := if checked.1.isEmpty then cannotDetermine.toList else checked.1
    findings := validated.1
    recommendations :=
      (givenRecommendations tables raw).filter (keepsRecommendation tables evidence)
    limitations :=
      (if limitations.isEmpty then [rowsNote.toList] else limitations).eraseDups
    provider := provider
    promptVersion := promptVersion }

structure Answer where
  answer : Text
  evidence : Text
  limitations : List Text
  provider : Option Text
  promptVersion : Text

/-- `build_answer` -/
def buildAnswer (raw : Raw) (provider : Option Text) (evidence : Evidence) : Answer :=
  let cited := givenEvidence tables raw
  let validated := validateAnswer tables evidence (givenAnswer tables raw) cited
  { answer := if validated.1.isEmpty then cannotDetermine.toList else validated.1
    evidence := stripSql cited
    limitations := givenLimitations tables raw ++ validated.2
    provider := provider
    promptVersion := promptVersion }

end Building

end DbBuddy.Insights
