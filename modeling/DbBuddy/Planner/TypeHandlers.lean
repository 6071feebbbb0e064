import DbBuddy.Insights.Validators
import DbBuddy.Library.Captures
import DbBuddy.Planner.TemporalRanges
import Mathlib.Data.List.Infix

/-!
# Comparisons by the type of a column

A handler for each category of types looks in a question for a column's name, in one of its
spoken forms, and for the words of a comparison around it.
-/

namespace DbBuddy.Planner.TypeHandlers

open DbBuddy.Library
open DbBuddy.Insights (Tables fold fold_of_ascii)

/-! ## What a handler returns -/

/-- An item of a filter's value; the text of a fraction is what `float` is called with. -/
inductive Scalar where
  | int (number : ℤ)
  | float (text : List Char)
  | text (text : List Char)
  deriving DecidableEq

inductive Value where
  | none
  | bool (value : Bool)
  | one (value : Scalar)
  | list (values : List Scalar)
  deriving DecidableEq

/-- `{column, operator, value}` -/
structure Spec where
  column : List Char
  operator : String
  value : Value
  deriving DecidableEq

/-- What is raised: `InvalidComparisonError` with its message, `int` on too many digits, a
date out of the calendar, and an operator that is not in the table. -/
inductive Failure where
  | invalidComparison (message : List Char)
  | tooManyDigits
  | outOfCalendar
  | keyError (key : List Char)
  deriving DecidableEq

/-- A table, one of its columns, and the pattern of the column's names. -/
structure Target where
  table : List Char
  column : List Char
  name : Pattern

/-- `f"{table}.{column}"` -/
def Target.qualified (target : Target) : List Char :=
  target.table ++ '.' :: target.column

def Target.spec (target : Target) (operator : String) (value : Value) : Spec :=
  ⟨target.qualified, operator, value⟩

/-! ## Categories -/

inductive Category where
  | numeric
  | date
  | boolean
  | string
  deriving DecidableEq, Repr

def numericPrefixes : List String :=
  ["int", "integer", "bigint", "smallint", "tinyint", "mediumint", "dec", "decimal",
    "numeric", "number", "float", "double", "real", "money", "serial", "bit"]

def datePrefixes : List String :=
  ["date", "datetime", "timestamp", "time", "year", "interval"]

def boolPrefixes : List String :=
  ["bool", "boolean"]

/-- `text.startswith(prefixes)` -/
def startsWithAny (starts : List String) (text : List Char) : Bool :=
  starts.any fun start => start.toList.isPrefixOf text

/-- `classify_sql_type` -/
def classifySqlType (lowercase : Lowercase) (raw : Option (List Char)) : Category :=
  match raw with
  | none => .string
  | some [] => .string
  | some (char :: rest) =>
      let base := (lowercase.text (strip (char :: rest))).takeWhile fun code =>
        code != ' ' && code != '('
      if startsWithAny boolPrefixes base = true then .boolean
      else if startsWithAny datePrefixes base = true then .date
      else if startsWithAny numericPrefixes base = true then .numeric
      else .string

/-! ## Names and values -/

/-- `_STOPWORDS | _TEMPORAL` -/
def grammarTokens : List String :=
  ["give", "me", "show", "get", "find", "list", "display", "fetch", "tell", "return",
    "lookup", "look", "search", "all", "the", "a", "an", "of", "for", "to", "about",
    "please", "with", "and", "or", "from", "in", "is", "are", "by", "on", "at", "as",
    "details", "detail", "info", "information", "record", "records", "data", "where",
    "who", "whose", "that", "this", "these", "those", "named", "called", "name",
    "last", "next", "previous", "past", "recent", "today", "yesterday", "month",
    "monthly", "week", "weekly", "year", "yearly", "day", "daily", "quarter",
    "quarterly", "ago", "hour", "minute", "since"]

def droppableSuffixes : List String :=
  ["_at", "_date", "_on", "_time", "_ts", "_datetime", "_dt", "_kg", "_g", "_mg", "_lb",
    "_oz", "_km", "_cm", "_mm", "_ms", "_pct", "_percent", "_usd", "_eur", "_gbp", "_jpy",
    "_inr", "_bps"]

/-- `sorted(texts, key=len, reverse=True)` -/
def longestFirst (texts : List (List Char)) : List (List Char) :=
  texts.insertionSort fun first second => second.length ≤ first.length

/-- The name without a suffix that is dropped in speech, unless it is another column's. -/
def stemOf (lowered : List Char) (others : List (List Char)) (suffix : String) :
    Option (List Char) :=
  if suffix.toList.isSuffixOf lowered = true ∧ suffix.toList.length < lowered.length then
    let stem := lowered.take (lowered.length - suffix.toList.length)
    if stem ∈ others then none else some stem
  else none

/-- `_column_match_forms`.  The two forms of one length come from a set in no certain
order; no text matches both. -/
def columnMatchForms (lowercase : Lowercase) (column : List Char)
    (otherColumns : List (List Char)) : List (List Char) :=
  let lowered := lowercase.text column
  let spaced := lowered.map fun char => if char = '_' then ' ' else char
  let others := (otherColumns.map lowercase.text).filter fun other => other != lowered
  longestFirst (lowered :: ((if spaced = lowered then [] else [spaced]) ++
    droppableSuffixes.filterMap (stemOf lowered others)))

/-- `_name_pattern`, with `re.IGNORECASE`. -/
def namePattern (forms : List (List Char)) : Pattern :=
  .oneOf (forms.map fun form => .literal fold (form.map fold))

/-- `text.strip(chars)` -/
def stripChars (chars text : List Char) : List Char :=
  ((text.dropWhile chars.contains).reverse.dropWhile chars.contains).reverse

/-! ## Patterns -/

/-- `pattern?` -/
def maybe (pattern : Pattern) : Pattern :=
  .either pattern .empty

/-- A word of a pattern, in any case. -/
def word (text : String) : Pattern :=
  .literal fold text.toList

def oneWord (texts : List String) : Pattern :=
  .oneOf (texts.map word)

/-- `\s+` -/
def spaces : Pattern :=
  .many isSpace

/-- Patterns one after the other. -/
def row : List Pattern → Pattern
  | [] => .empty
  | [pattern] => pattern
  | pattern :: rest => .seq pattern (row rest)

/-- `[set]*` -/
def anyOf (chars : Char → Bool) : Pattern :=
  maybe (.many chars)

/-- `\b{col}\b`, and what follows it. -/
def named (name : Pattern) (rest : List Part) : List Part :=
  .plain .boundary :: .plain name :: .plain .boundary :: rest

section Handlers

variable (tables : Tables) (numerals : Numerals) (query : List Char) (target : Target)

/-- `re.search(pattern, query, re.IGNORECASE)` -/
def groups (parts : List Part) : Option (List (List Char)) :=
  searchGroups tables.isWord parts query

def isDigit (char : Char) : Bool :=
  (numerals.digit char).isSome

/-- `_is_string_value` -/
def isStringValue (token : List Char) : Bool :=
  let lowered := tables.lowercase.text token
  decide (2 ≤ lowered.length) && !lowered.all (isDigit numerals) &&
    !(grammarTokens.map String.toList).contains lowered

/-! ## Numbers -/

/-- `NumericTypeHandler._WORD_OPS` -/
def numericWordOps : List (String × String) :=
  [("greater than", ">"), ("more than", ">"), ("over", ">"), ("above", ">"),
    ("less than", "<"), ("fewer than", "<"), ("under", "<"), ("below", "<"),
    ("at least", ">="), ("no less than", ">="), ("minimum", ">="), ("min", ">="),
    ("at most", "<="), ("no more than", "<="), ("maximum", "<="), ("max", "<="),
    ("up to", "<="), ("equal to", "="), ("equals", "="), ("equal", "=")]

/-- The keys of a table of operators, as a pattern, the longest first. -/
def operatorWords (operators : List (String × String)) : Pattern :=
  .oneOf ((longestFirst (operators.map fun entry => entry.1.toList)).map (.literal fold))

/-- `_WORD_OPS[text.lower()]` -/
def operatorOf (operators : List (String × String)) (text : List Char) :
    Except Failure String :=
  match operators.lookup (String.ofList (tables.lowercase.text text)) with
  | some operator => .ok operator
  | none => .error (.keyError (tables.lowercase.text text))

def isCurrency (char : Char) : Bool :=
  ['$', '€', '£', '¥', '₹'].contains char

/-- `-?\d[\d,]*(?:\.\d+)?` -/
def numberPattern : Pattern :=
  row [maybe (.one (· == '-')), .one (isDigit numerals),
    anyOf fun char => isDigit numerals char || char == ',',
    maybe (.seq (.one (· == '.')) (.many (isDigit numerals)))]

/-- `_NUM` -/
def number : List Part :=
  [.plain (maybe (.seq (.one isCurrency) (maybe (.one isSpace)))),
    .group (numberPattern numerals)]

/-- The digits of `-?\d+`, and whether they have a sign. -/
def signedDigits (text : List Char) : Option (Bool × List Char) :=
  let (signed, digits) :=
    match text with
    | '-' :: rest => (true, rest)
    | _ => (false, text)
  if digits ≠ [] ∧ digits.all (isDigit numerals) = true then some (signed, digits) else none

/-- `_num` -/
def num (text : List Char) : Except Failure Scalar :=
  let plain := text.filter (· != ',')
  match signedDigits numerals plain with
  | none => .ok (.float plain)
  | some (signed, digits) =>
      match numerals.int digits with
      | none => .error .tooManyDigits
      | some value => .ok (.int (if signed then -(value : ℤ) else value))

/-- `col between a and b` -/
def numericBetween : Option (Except Failure (List Spec)) :=
  match groups tables query (named target.name
      ([.plain spaces, .plain (word "between"), .plain spaces] ++ number numerals ++
        [.plain spaces, .plain (word "and"), .plain spaces] ++ number numerals)) with
  | some [low, high] => some do
      let low ← num numerals low
      let high ← num numerals high
      .ok [target.spec "BETWEEN" (.list [low, high])]
  | _ => none

/-- `col >= 30` -/
def numericSymbol : Option (Except Failure (List Spec)) :=
  match groups tables query (named target.name
      ([.plain (anyOf isSpace), .group (oneWord [">=", "<=", ">", "<", "==", "="]),
        .plain (anyOf isSpace)] ++ number numerals)) with
  | some [symbol, text] => some do
      let value ← num numerals text
      let operator := String.ofList symbol
      .ok [target.spec (if operator = "==" then "=" else operator) (.one value)]
  | _ => none

/-- `col over 100` -/
def numericWord : Option (Except Failure (List Spec)) :=
  match groups tables query (named target.name
      ([.plain spaces, .plain (maybe (.seq (word "is") spaces)),
        .group (operatorWords numericWordOps), .plain spaces] ++ number numerals)) with
  | some [text, digits] => some do
      let operator ← operatorOf tables numericWordOps text
      let value ← num numerals digits
      .ok [target.spec operator (.one value)]
  | _ => none

/-- `NumericTypeHandler.extract` -/
def extractNumeric : Except Failure (List Spec) :=
  ((numericBetween tables numerals query target).or
    ((numericSymbol tables numerals query target).or
      (numericWord tables numerals query target))).getD (.ok [])

/-! ## Dates -/

/-- `_TEMPORAL_PHRASE`; `same` says whether the case counts. -/
def temporalPhrase (same : Char → Char) : Pattern :=
  let word := fun text : String => Pattern.literal same text.toList
  .oneOf ([word "today", word "yesterday", word "tomorrow"] ++
    (["this", "last"].flatMap fun first =>
      ["week", "month", "quarter", "year"].map fun second =>
        row [word first, spaces, word second]) ++
    [row [.oneOf [word "past", word "last", word "next"], spaces, .many (isDigit numerals),
      spaces,
      .either (.seq (word "day") (maybe (word "s"))) (.seq (word "week") (maybe (word "s")))]])

/-- `re.sub(r"\s+", " ", text)` -/
def squeeze : List Char → List Char
  | [] => []
  | char :: rest =>
      if isSpace char = true then
        if (rest.head?.map isSpace).getD false = true then squeeze rest
        else ' ' :: squeeze rest
      else char :: squeeze rest

/-- The range of a phrase as it stands in the question; `none` where it has none. -/
def rangeOf (today : CalendarDate) (phrase : List Char) : Except Failure (Option DateRange) :=
  match temporalRange numerals
      (String.ofList (squeeze (tables.lowercase.text (strip phrase)))) today with
  | none => .error .outOfCalendar
  | some range => .ok range

/-- `date.isoformat()` -/
def isoformat (date : CalendarDate) : List Char :=
  padded 4 date.year ++ '-' :: (padded 2 date.month ++ '-' :: padded 2 date.day)

/-- The two bounds of a range. -/
def bounds (target : Target) (range : DateRange) : List Spec :=
  [target.spec ">=" (.one (.text (isoformat range.start))),
    target.spec "<" (.one (.text (isoformat range.stop)))]

/-- `DateTypeHandler._WORD_OPS` -/
def dateWordOps : List (String × String) :=
  [("after", ">"), ("before", "<"), ("since", ">="), ("from", ">="), ("on or after", ">="),
    ("until", "<="), ("up to", "<="), ("on or before", "<="), ("on", "=")]

/-- `_ISO_DATE` -/
def isoDate : Pattern :=
  let digit := Pattern.one (isDigit numerals)
  let dash := Pattern.one (· == '-')
  row [digit, digit, digit, digit,
    maybe (row [dash, digit, digit, dash, digit, digit])]

/-- `_normalize_iso` -/
def normalizeIso (value : List Char) : Option (List Char) :=
  match strip value with
  | [a, b, c, d] =>
      if [a, b, c, d].all (isDigit numerals) = true then some ([a, b, c, d] ++ "-01-01".toList)
      else none
  | [a, b, c, d, '-', e, f, '-', g, h] =>
      if [a, b, c, d, e, f, g, h].all (isDigit numerals) = true then
        let month := numerals.value [e, f]
        let day := numerals.value [g, h]
        if 1 ≤ month ∧ month ≤ 12 ∧ 1 ≤ day ∧ day ≤ 31 then
          some (padded 4 (numerals.value [a, b, c, d]) ++
            '-' :: (padded 2 month ++ '-' :: padded 2 day))
        else none
      else none
  | _ => none

/-- `created today` -/
def calendarPhrase : Option (List Char) :=
  match groups tables query (named target.name
      [.plain spaces, .plain (maybe (.seq (oneWord ["in", "on", "during", "for"]) spaces)),
        .group (temporalPhrase numerals fold)]) with
  | some [phrase] => some phrase
  | _ => none

/-- `col between d1 and d2` -/
def dateBetween : Option (List Spec) :=
  match groups tables query (named target.name
      [.plain spaces, .plain (word "between"), .plain spaces, .group (isoDate numerals),
        .plain spaces, .plain (word "and"), .plain spaces, .group (isoDate numerals)]) with
  | some [low, high] =>
      match normalizeIso numerals low, normalizeIso numerals high with
      | some low, some high => some [target.spec "BETWEEN" (.list [.text low, .text high])]
      | _, _ => some []
  | _ => none

/-- `col >= 2024-01-01` -/
def dateSymbol : Option (List Spec) :=
  match groups tables query (named target.name
      [.plain (anyOf isSpace), .group (oneWord [">=", "<=", ">", "<", "="]),
        .plain (anyOf isSpace), .group (isoDate numerals)]) with
  | some [symbol, text] =>
      match normalizeIso numerals text with
      | some iso => some [target.spec (String.ofList symbol) (.one (.text iso))]
      | none => some []
  | _ => none

/-- `col after 2024-01-01` -/
def dateWord : Option (Except Failure (List Spec)) :=
  match groups tables query (named target.name
      [.plain spaces, .group (operatorWords dateWordOps), .plain spaces,
        .group (isoDate numerals)]) with
  | some [text, date] =>
      match normalizeIso numerals date with
      | some iso => some do
          let operator ← operatorOf tables dateWordOps text
          .ok [target.spec operator (.one (.text iso))]
      | none => none
  | _ => none

/-- What is tried where the name stands before no phrase with a range. -/
def dateComparison : Except Failure (List Spec) :=
  (((dateBetween tables numerals query target).or
    (dateSymbol tables numerals query target)).map .ok).getD
      ((dateWord tables numerals query target).getD (.ok []))

/-- `DateTypeHandler.extract` -/
def extractDate (today : CalendarDate) : Except Failure (List Spec) :=
  match calendarPhrase tables numerals query target with
  | none => dateComparison tables numerals query target
  | some phrase => do
      match ← rangeOf tables numerals today phrase with
      | some range => .ok (bounds target range)
      | none => dateComparison tables numerals query target

/-! ## Texts -/

/-- `_ORDERING_SYMBOL` -/
def orderingSymbol : List Part :=
  [.plain (anyOf isSpace), .group (oneWord [">=", "<=", ">", "<"]), .plain (anyOf isSpace),
    .plain (.one fun char => !isSpace char)]

/-- The message about an order between texts. -/
def misuse : Option (List Char) :=
  match groups tables query (named target.name [.line]) with
  | some [rest] =>
      (matchGroups tables.isWord orderingSymbol rest).map fun _ =>
        "Operator '".toList ++ strip ((strip rest).take 2) ++
          "' is not valid for text column '".toList ++ target.qualified ++ "'.".toList
  | _ => none

/-- `_VAL` -/
def valueParts : List Part :=
  let quote := Pattern.one fun char => char == '"' || char == '\''
  [.plain (maybe quote),
    .group (.seq (.one fun char => (fold char).isAlphanum || char == '_')
      (anyOf fun char => tables.isWord char || ['.', '@', '-'].contains char)),
    .plain (maybe quote)]

/-- The value behind a name and some words, if it can be one. -/
def valueBehind (words : List Part) : Option (List Char) :=
  match groups tables query (named target.name (words ++ valueParts tables)) with
  | some [value] => if isStringValue tables numerals value = true then some value else none
  | _ => none

/-- `\bhas\s+(?:an?\s+)?{col}\b` -/
def hasName (name : Pattern) : List Part :=
  [.plain .boundary, .plain (word "has"), .plain spaces,
    .plain (maybe (row [word "a", maybe (word "n"), spaces])), .plain name, .plain .boundary]

def notNull : Option Spec :=
  if (groups tables query (named target.name
      [.plain spaces, .plain (word "is"), .plain spaces, .plain (word "not"), .plain spaces,
        .plain (oneWord ["null", "empty", "blank", "set"]), .plain .boundary])).isSome = true ∨
      (groups tables query (hasName target.name)).isSome = true then
    some (target.spec "IS NOT NULL" .none)
  else none

def isNull : Option Spec :=
  if (groups tables query [.plain .boundary, .plain (oneWord ["no", "without", "missing"]),
        .plain spaces, .plain target.name, .plain .boundary]).isSome = true ∨
      (groups tables query (named target.name
        [.plain spaces, .plain (word "is"), .plain spaces,
          .plain (.either (oneWord ["null", "empty", "blank", "missing"])
            (row [word "not", spaces, word "set"])), .plain .boundary])).isSome = true then
    some (target.spec "IS NULL" .none)
  else none

/-- `re.split(r"[,;]| or ", text)` -/
def splitItems : List Char → List (List Char)
  | [] => [[]]
  | ' ' :: 'o' :: 'r' :: ' ' :: rest => [] :: splitItems rest
  | char :: rest =>
      if char = ',' ∨ char = ';' then [] :: splitItems rest
      else match splitItems rest with
        | [] => [[char]]
        | first :: others => (char :: first) :: others

/-- `col in (a, b)` -/
def membership : Option Spec :=
  match groups tables query (named target.name
      [.plain spaces, .plain (maybe (.seq (word "is") spaces)),
        .group (maybe (.seq (word "not") spaces)), .plain (word "in"), .plain (anyOf isSpace),
        .plain (.one (· == '(')), .group (.many (· != ')')), .plain (.one (· == ')'))]) with
  | some [negation, text] =>
      let items := ((splitItems text).map fun item => stripChars ['"', '\''] (strip item)).filter
        (isStringValue tables numerals)
      if items = [] then none
      else some (target.spec (if negation = [] then "IN" else "NOT IN")
        (.list (items.map .text)))
  | _ => none

/-- A comparison with the value behind some words. -/
def comparison (operator : String) (before behind : String) (words : List Part) :
    Option Spec :=
  (valueBehind tables numerals query target words).map fun value =>
    target.spec operator (.one (.text (before.toList ++ value ++ behind.toList)))

/-- The comparisons with one value, in the order in which they are tried. -/
def comparisons : List (Option Spec) :=
  [comparison tables numerals query target "LIKE" "%" "%"
      [.plain spaces, .plain (oneWord ["contains", "containing", "like", "matching"]),
        .plain spaces],
    comparison tables numerals query target "LIKE" "" "%"
      [.plain spaces, .plain (row [word "start", maybe (word "s"), spaces, word "with"]),
        .plain spaces],
    comparison tables numerals query target "LIKE" "%" ""
      [.plain spaces, .plain (row [word "end", maybe (word "s"), spaces, word "with"]),
        .plain spaces],
    comparison tables numerals query target "!=" "" ""
      [.plain (anyOf isSpace),
        .plain (.oneOf [row [word "is", spaces, word "not"],
          row [word "is", spaces, word "not", spaces, word "equal", spaces, word "to"],
          row [word "not", spaces, word "equal", spaces, word "to"], word "!=", word "<>"]),
        .plain spaces],
    comparison tables numerals query target "=" "" ""
      [.plain (anyOf isSpace),
        .plain (.oneOf [word "=", word "==", word ":",
          row [.boundary, word "is", .boundary],
          row [.boundary, word "equal", maybe (word "s"), .boundary]]),
        .plain spaces],
    comparison tables numerals query target "=" "" "" [.plain spaces]]

/-- `StringTypeHandler.extract` -/
def extractString (strict : Bool) : Except Failure (List Spec) :=
  match if strict = true then misuse tables query target else none with
  | some message => .error (.invalidComparison message)
  | none => .ok ((notNull tables query target).or
      ((isNull tables query target).or
        ((membership tables numerals query target).or
          ((comparisons tables numerals query target).findSome? id)))).toList

/-! ## Flags -/

/-- `BooleanTypeHandler._TRUE` -/
def trueWords : List String :=
  ["true", "yes", "1", "t", "y"]

/-- `_VALUE_INTRODUCERS` -/
def valueIntroducers : List String :=
  ["in", "is", "not", "or", "and", "="]

/-- `_in_value_position`, of the text before a match. -/
def inValuePosition (before : List Char) : Bool :=
  match (before.reverse.dropWhile isSpace) with
  | [] => false
  | last :: rest =>
      ['=', ':', '(', ','].contains last ||
        (valueIntroducers.map String.toList).contains
          (tables.lowercase.text ((last :: rest).takeWhile Char.isAlpha).reverse)

/-- `re.sub(r"^(?:is|has)_?", "", text).strip("_")` -/
def adjectiveOf (lowered : List Char) : List Char :=
  let bare :=
    if "is_".toList.isPrefixOf lowered = true then lowered.drop 3
    else if "is".toList.isPrefixOf lowered = true then lowered.drop 2
    else if "has_".toList.isPrefixOf lowered = true then lowered.drop 4
    else if "has".toList.isPrefixOf lowered = true then lowered.drop 3
    else lowered
  stripChars ['_'] bare

/-- `col = true` -/
def flagSet : Option Spec :=
  match groups tables query (named target.name
      [.plain (anyOf isSpace),
        .plain (.oneOf [word "=", word "==", word ":", row [.boundary, word "is", .boundary]]),
        .plain (anyOf isSpace), .group (maybe (.seq (word "not") spaces)),
        .group (oneWord ["true", "false", "yes", "no", "1", "0", "t", "f", "y", "n"]),
        .plain .boundary]) with
  | some [negation, text] =>
      let value := (trueWords.map String.toList).contains (tables.lowercase.text text)
      some (target.spec "=" (.bool (if negation = [] then value else !value)))
  | _ => none

/-- `paid orders`, `not paid`, `unpaid` -/
def flagAdjective (lowered : List Char) : Option Spec :=
  let adjective := adjectiveOf lowered
  if adjective.length < 3 then none
  else
    let spaced := adjective.map fun char => if char = '_' then ' ' else char
    let parts : List Part :=
      [.plain .boundary,
        .group (maybe (.oneOf [word "not",
          .seq (word "non") (maybe (.one fun char => char == '-' || char == ' ')), word "un"])),
        .plain (anyOf isSpace), .plain (namePattern [adjective, spaced]), .plain .boundary]
    (findAll tables.isWord parts query).findSome? fun found =>
      if inValuePosition tables (query.take (query.length - found.1.ahead.length)) = true then
        none
      else some (target.spec "=" (.bool (found.2.groups.head?.getD [] == [])))

/-- `BooleanTypeHandler.extract` -/
def extractBoolean (lowered : List Char) : Except Failure (List Spec) :=
  .ok ((flagSet tables query target).or (flagAdjective tables query target lowered)).toList

/-- `get_type_handler(category).extract` -/
def extract (today : CalendarDate) (strict : Bool) (lowered : List Char) (category : Category) :
    Except Failure (List Spec) :=
  match category with
  | .numeric => extractNumeric tables numerals query target
  | .date => extractDate tables numerals query target today
  | .boolean => extractBoolean tables query target lowered
  | .string => extractString tables numerals query target strict

end Handlers

/-! ## Handlers without the name -/

section Absent

variable {tables : Tables} {numerals : Numerals} {query : List Char} {target : Target}

/-- The name stands nowhere in the question. -/
def Absent (tables : Tables) (query : List Char) (name : Pattern) : Prop :=
  search tables.isWord name query = false

theorem groups_named (absent : Absent tables query target.name) (rest : List Part) :
    groups tables query (named target.name rest) = none := by
  apply searchGroups_of_absent _ absent
  exact List.mem_cons_of_mem _ List.mem_cons_self

theorem groups_of_mem {parts : List Part} (absent : Absent tables query target.name)
    (isPart : Part.plain target.name ∈ parts) : groups tables query parts = none :=
  searchGroups_of_absent isPart absent

theorem extractNumeric_absent (absent : Absent tables query target.name) :
    extractNumeric tables numerals query target = .ok [] := by
  have noBetween : numericBetween tables numerals query target = none := by
    rw [numericBetween, groups_named absent]
  have noSymbol : numericSymbol tables numerals query target = none := by
    rw [numericSymbol, groups_named absent]
  have noWord : numericWord tables numerals query target = none := by
    rw [numericWord, groups_named absent]
  rw [extractNumeric, noBetween, noSymbol, noWord]
  rfl

theorem extractDate_absent (absent : Absent tables query target.name) (today : CalendarDate) :
    extractDate tables numerals query target today = .ok [] := by
  have noPhrase : calendarPhrase tables numerals query target = none := by
    rw [calendarPhrase, groups_named absent]
  have noBetween : dateBetween tables numerals query target = none := by
    rw [dateBetween, groups_named absent]
  have noSymbol : dateSymbol tables numerals query target = none := by
    rw [dateSymbol, groups_named absent]
  have noWord : dateWord tables numerals query target = none := by
    rw [dateWord, groups_named absent]
  rw [extractDate, noPhrase]
  dsimp only
  rw [dateComparison, noBetween, noSymbol, noWord]
  rfl

theorem comparison_absent (absent : Absent tables query target.name)
    (operator before behind : String) (words : List Part) :
    comparison tables numerals query target operator before behind words = none := by
  rw [comparison, valueBehind, groups_named absent]
  rfl

theorem extractString_absent (absent : Absent tables query target.name) (strict : Bool) :
    extractString tables numerals query target strict = .ok [] := by
  have noMisuse : misuse tables query target = none := by
    rw [misuse, groups_named absent]
  have noHas : groups tables query (hasName target.name) = none :=
    groups_of_mem absent (by simp [hasName])
  have noNotNull : notNull tables query target = none := by
    rw [notNull, groups_named absent, noHas]
    rfl
  have noNull : isNull tables query target = none := by
    rw [isNull, groups_named absent, groups_of_mem absent (by simp)]
    rfl
  have noList : membership tables numerals query target = none := by
    rw [membership, groups_named absent]
  have noComparison : (comparisons tables numerals query target).findSome? id = none := by
    apply List.findSome?_eq_none_iff.mpr
    intro found isIn
    simp only [comparisons, comparison_absent absent, List.mem_cons, List.not_mem_nil,
      or_false, or_self] at isIn
    exact isIn
  rw [extractString, noMisuse, ite_self, noNotNull, noNull, noList, noComparison]
  rfl

/-- Only the handler of flags finds something where the name is not. -/
theorem extract_absent {today : CalendarDate} {strict : Bool} {lowered : List Char}
    {category : Category} (absent : Absent tables query target.name)
    (noFlag : category ≠ .boolean) :
    extract tables numerals query target today strict lowered category = .ok [] := by
  cases category with
  | numeric => exact extractNumeric_absent absent
  | date => exact extractDate_absent absent today
  | boolean => exact absurd rfl noFlag
  | string => exact extractString_absent absent strict

end Absent

/-! ## The forms of a name -/

/-- Tables in which lower case leaves nothing to be changed. -/
structure NameTables extends Tables where
  settled : ∀ code, ∀ char ∈ lowercase.char code, lowercase.char char = [char]

def IsAscii (text : List Char) : Prop :=
  ∀ char ∈ text, char.toNat < 128

/-- A name that a search takes for one in ASCII, and that is none. -/
structure Disguised (name : List Char) : Prop where
  folds : IsAscii (name.map fold)
  notAscii : ¬ IsAscii name

section Forms

variable {tables : NameTables} {column form query : List Char} {names : List (List Char)}

theorem settled_of_mem {char : Char} (isIn : char ∈ tables.lowercase.text column) :
    tables.lowercase.char char = [char] := by
  obtain ⟨code, _, isFrom⟩ := List.mem_flatMap.mp isIn
  exact tables.settled code char isFrom

theorem text_text : tables.lowercase.text (tables.lowercase.text column) =
    tables.lowercase.text column := by
  have same : ∀ lowered : List Char,
      (∀ char ∈ lowered, tables.lowercase.char char = [char]) →
        lowered.flatMap tables.lowercase.char = lowered := by
    intro lowered
    induction lowered with
    | nil => exact fun _ => rfl
    | cons char rest inductionHypothesis =>
        intro isSettled
        rw [List.flatMap_cons, isSettled char List.mem_cons_self,
          inductionHypothesis fun other isIn => isSettled other (List.mem_cons_of_mem _ isIn)]
        rfl
  exact same _ fun char isIn => settled_of_mem isIn

/-- A small letter of ASCII is compared as itself. -/
theorem fold_of_settled {char : Char} (isAscii : char.toNat < 128)
    (isSettled : tables.lowercase.char char = [char]) : fold char = char := by
  rw [tables.lowercase.char_ascii char isAscii, List.cons.injEq] at isSettled
  rw [fold_of_ascii isAscii]
  exact isSettled.1

theorem isAscii_suffixes : ∀ suffix ∈ droppableSuffixes, IsAscii suffix.toList := by
  have checked : droppableSuffixes.all (fun suffix =>
      suffix.toList.all fun char => decide (char.toNat < 128)) = true := by
    decide
  intro suffix isIn char isChar
  have isChecked := List.all_eq_true.mp (List.all_eq_true.mp checked suffix isIn) char isChar
  exact of_decide_eq_true isChecked

/-- A form has the characters of the name, but for some of ASCII. -/
structure Spells (lowered form : List Char) : Prop where
  within : ∀ char ∈ form, char ∈ lowered ∨ char = ' '
  covers : ∀ char ∈ lowered, char ∈ form ∨ char.toNat < 128

theorem spells_spaced (lowered : List Char) :
    Spells lowered (lowered.map fun char => if char = '_' then ' ' else char) where
  within char isIn := by
    obtain ⟨other, inName, isChar⟩ := List.mem_map.mp isIn
    split at isChar
    · exact Or.inr isChar.symm
    · exact Or.inl (isChar ▸ inName)
  covers char isIn := by
    by_cases isLine : char = '_'
    · exact Or.inr (isLine ▸ by decide)
    · exact Or.inl (List.mem_map.mpr ⟨char, isIn, if_neg isLine⟩)

theorem spells_stem {lowered : List Char} {others : List (List Char)} {suffix : String}
    (isSuffix : suffix ∈ droppableSuffixes) (isStem : stemOf lowered others suffix = some form) :
    Spells lowered form := by
  rw [stemOf] at isStem
  split at isStem
  · next ends =>
      obtain ⟨stem, isSplit⟩ := List.isSuffixOf_iff_suffix.mp ends.1
      have isForm : form = stem := by
        dsimp only at isStem
        split at isStem
        · cases isStem
        · cases isStem
          rw [← isSplit, List.length_append, Nat.add_sub_cancel, List.take_left]
      rw [isForm, ← isSplit]
      constructor
      · intro char isIn
        exact Or.inl (List.mem_append_left _ isIn)
      · intro char isIn
        rcases List.mem_append.mp isIn with inStem | inSuffix
        · exact Or.inl inStem
        · exact Or.inr (isAscii_suffixes suffix isSuffix char inSuffix)
  · cases isStem

theorem mem_longestFirst {texts : List (List Char)} : form ∈ longestFirst texts ↔
    form ∈ texts := by
  rw [longestFirst, List.mem_insertionSort]

theorem spells_of_mem {lowercase : Lowercase}
    (isForm : form ∈ columnMatchForms lowercase column names) :
    Spells (lowercase.text column) form := by
  rw [columnMatchForms, mem_longestFirst, List.mem_cons, List.mem_append] at isForm
  rcases isForm with isName | isSpaced | isStem
  · rw [isName]
    exact ⟨fun char isIn => Or.inl isIn, fun char isIn => Or.inl isIn⟩
  · split at isSpaced
    · cases isSpaced
    · rw [List.mem_singleton.mp isSpaced]
      exact spells_spaced _
  · obtain ⟨suffix, isSuffix, isStem⟩ := List.mem_filterMap.mp isStem
    exact spells_stem isSuffix isStem

theorem mem_columnMatchForms_self {lowercase : Lowercase} :
    lowercase.text column ∈ columnMatchForms lowercase column names := by
  rw [columnMatchForms, mem_longestFirst]
  exact List.mem_cons_self

/-! ## A name that is not mentioned -/

theorem map_fold_of_ascii (isAscii : IsAscii query) (tables : NameTables) :
    query.map fold = tables.lowercase.text query := by
  rw [text_ascii isAscii]
  exact List.map_congr_left fun char isIn => fold_of_ascii (isAscii char isIn)

theorem isAscii_map_fold (isAscii : IsAscii query) : IsAscii (query.map fold) := by
  intro char isIn
  obtain ⟨other, inQuery, rfl⟩ := List.mem_map.mp isIn
  have low := isAscii other inQuery
  rw [fold_of_ascii low]
  rcases toLower_cases other with same | ⟨_, high, isCode⟩
  · rw [same]
    exact low
  · omega

/-- A search for a name finds one of its forms, up to what counts as the same. -/
theorem infix_of_search_name {forms : List (List Char)}
    (found : search tables.isWord (namePattern forms) query = true) :
    ∃ form ∈ forms, form.map fold <:+: query.map fold := by
  obtain ⟨cursor, isPlace, after, isEnd⟩ := search_iff.mp found
  obtain ⟨pattern, isPattern, isEnd⟩ := mem_ends_oneOf.mp isEnd
  obtain ⟨form, isForm, rfl⟩ := List.mem_map.mp isPattern
  exact ⟨form, isForm, infix_of_place isPlace (prefix_of_mem_ends_literal isEnd)⟩

/-- What a search finds of a plain name is part of the text. -/
theorem infix_of_plain (isAscii : IsAscii query)
    (plain : ¬ Disguised (tables.lowercase.text column))
    (spells : Spells (tables.lowercase.text column) form)
    (isThere : form.map fold <:+: query.map fold) :
    form <:+: tables.lowercase.text query := by
  have isAsciiName : IsAscii (tables.lowercase.text column) := by
    by_contra notAscii
    refine plain ⟨?_, notAscii⟩
    intro char isIn
    obtain ⟨other, inName, rfl⟩ := List.mem_map.mp isIn
    rcases spells.covers other inName with inForm | isLow
    · exact isAscii_map_fold isAscii _ (isThere.subset (List.mem_map_of_mem inForm))
    · have isOne : IsAscii [other] := fun char isIn => List.mem_singleton.mp isIn ▸ isLow
      exact isAscii_map_fold isOne _ List.mem_cons_self
  have unchanged : ∀ char ∈ form, fold char = id char := by
    intro char isIn
    rcases spells.within char isIn with inName | isSpace
    · exact fold_of_settled (isAsciiName char inName) (settled_of_mem inName)
    · rw [isSpace]
      decide
  have same : form.map fold = form := (List.map_congr_left unchanged).trans (List.map_id form)
  rw [same, map_fold_of_ascii isAscii tables] at isThere
  exact isThere

theorem containsText_iff {part text : List Char} : containsText part text = true ↔
    part <:+: text := by
  rw [containsText, List.any_eq_true]
  constructor
  · intro isThere
    obtain ⟨tail, isTail, isPrefix⟩ := isThere
    exact (List.isPrefixOf_iff_prefix.mp isPrefix).isInfix.trans
      ((List.mem_tails _ _).mp isTail).isInfix
  · intro isThere
    obtain ⟨front, back, isText⟩ := isThere
    refine ⟨part ++ back, (List.mem_tails _ _).mpr ⟨front, ?_⟩, ?_⟩
    · rw [← isText, List.append_assoc]
    · exact List.isPrefixOf_iff_prefix.mpr (List.prefix_append _ _)

/-- A plain name that is no part of the text is found by no search either. -/
theorem absent_of_unmentioned (isAscii : IsAscii query)
    (plain : ¬ Disguised (tables.lowercase.text column))
    (unmentioned : (columnMatchForms tables.lowercase (tables.lowercase.text column) names).any
      (fun form => containsText form (tables.lowercase.text query)) = false) :
    Absent tables.toTables query
      (namePattern (columnMatchForms tables.lowercase column names)) := by
  by_contra isThere
  obtain ⟨form, isForm, isInfix⟩ := infix_of_search_name (eq_true_of_ne_false isThere)
  have sameForms : columnMatchForms tables.lowercase (tables.lowercase.text column) names =
      columnMatchForms tables.lowercase column names := by
    rw [columnMatchForms, columnMatchForms, text_text]
  rw [sameForms, List.any_eq_false] at unmentioned
  apply unmentioned form isForm
  exact containsText_iff.mpr (infix_of_plain isAscii plain (spells_of_mem isForm) isInfix)

end Forms

end DbBuddy.Planner.TypeHandlers
