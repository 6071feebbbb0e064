import DbBuddy.Insights.Validators

/-!
# The evidence packet of a result

A result is shown to the model as counts, statistics of its columns and a sample of its
rows.  The arithmetic of floats is a parameter; a float is known by its text and by its
integer part.
-/

namespace DbBuddy.Insights

open DbBuddy.Library

/-! ## Numbers -/

/-- Digits, at least one. -/
structure Digits where
  text : Text
  nonempty : text ≠ []
  allDigits : ∀ char ∈ text, char.isDigit = true

/-- The forms that `float.__repr__` and the tokens of `json.dumps` have. -/
inductive Written where
  | fixed (isNegative : Bool) (whole : ℕ) (fraction : Digits)
  | scientific (isNegative : Bool) (lead : Digits) (fraction : Option Digits)
      (exponentNegative : Bool) (exponent : Digits)
  | infinite (isNegative : Bool)
  | notANumber

/-- A value of a cell as the driver returns it; a `Decimal` is what `float` makes of it,
if it makes anything of it. -/
inductive Cell (Real : Type) where
  | none
  | bool (value : Bool)
  | int (value : ℤ)
  | float (value : Real)
  | decimal (value : Option Real)
  | date (isoformat : Text)
  | bytes (size : ℕ)
  | other (shown : Text)

/-- Python's floats: their texts, `int(abs(value))`, the conversion of integers, which may
overflow, and the arithmetic; and which cells a set takes for the same.  A text without
an exponent begins with the integer part. -/
structure Floats (Real : Type) where
  written : Real → Written
  truncate : Real → ℕ
  ofInt : ℤ → Option Real
  less : Real → Real → Bool
  isZero : Real → Bool
  sum : List Real → Real
  sub : Real → Real → Real
  mul : Real → Real → Real
  div : Real → Real → Real
  abs : Real → Real
  ofCount : ℕ → Real
  same : Cell Real → Cell Real → Bool
  truncate_fixed : ∀ value isNegative whole fraction,
    written value = .fixed isNegative whole fraction → truncate value = whole

section Building

variable {Real : Type} (floats : Floats Real)

/-- `math.isfinite` -/
def Floats.isFinite (value : Real) : Bool :=
  match floats.written value with
  | .infinite _ => false
  | .notANumber => false
  | _ => true

/-- `_is_numeric` -/
def Cell.isNumeric : Cell Real → Bool
  | .int _ => true
  | .float _ => true
  | .decimal _ => true
  | _ => false

/-- `_as_float` -/
def asFloat : Cell Real → Option Real
  | .int value => (floats.ofInt value).filter floats.isFinite
  | .float value => if floats.isFinite value then some value else none
  | .decimal value => value.filter floats.isFinite
  | _ => none

/-! ## Columns -/

inductive Kind where
  | text
  | date
  | numeric
  deriving DecidableEq, Repr

def Cell.isNone : Cell Real → Bool
  | .none => true
  | _ => false

def Cell.isDate : Cell Real → Bool
  | .date _ => true
  | _ => false

/-- `_infer_kind` -/
def inferKind (values : List (Cell Real)) : Kind :=
  let present := values.filter fun value => !value.isNone
  if present.isEmpty then .text
  else if present.any Cell.isDate then .date
  else if present.all Cell.isNumeric then .numeric
  else .text

/-- `_distinct_count` -/
def distinctCount (values : List (Cell Real)) : ℕ :=
  ((values.filter fun value => !value.isNone).foldl (fun seen value =>
    if seen.any fun other => floats.same other value then seen else value :: seen) []).length

structure ColumnProfile (Real : Type) where
  name : Text
  kind : Kind
  nullCount : ℕ
  distinctCount : ℕ
  minimum : Option Real := none
  maximum : Option Real := none
  mean : Option Real := none
  total : Option Real := none
  first : Option Real := none
  last : Option Real := none
  change : Option Real := none
  changePct : Option Real := none

/-- `min`: the first of the least. -/
def minimumOf (first : Real) (rest : List Real) : Real :=
  rest.foldl (fun least value => if floats.less value least then value else least) first

def maximumOf (first : Real) (rest : List Real) : Real :=
  rest.foldl (fun most value => if floats.less most value then value else most) first

/-- `_profile_column` -/
def profileColumn (name : Text) (values : List (Cell Real)) : ColumnProfile Real :=
  let profile : ColumnProfile Real :=
    { name := name
      kind := inferKind values
      nullCount := (values.filter Cell.isNone).length
      distinctCount := distinctCount floats values }
  if inferKind values ≠ .numeric then profile
  else
    match values.filterMap (asFloat floats) with
    | [] => profile
    | first :: rest =>
        let total := floats.sum (first :: rest)
        let last := rest.getLastD first
        let change := floats.sub last first
        { profile with
          minimum := some (minimumOf floats first rest)
          maximum := some (maximumOf floats first rest)
          total := some total
          mean := some (floats.div total (floats.ofCount (first :: rest).length))
          first := some first
          last := some last
          change := some change
          changePct :=
            if floats.isZero first then none
            else some (floats.mul (floats.div change (floats.abs first))
              (floats.ofCount 100)) }

/-! ## The packet -/

/-- `_jsonable`: a cell of the sample. -/
inductive Sampled (Real : Type) where
  | none
  | bool (value : Bool)
  | int (value : ℤ)
  | float (value : Real)
  | text (value : Text)

def clip (maxChars : ℕ) (text : Text) : Text :=
  if text.length ≤ maxChars then text else text.take maxChars ++ ['…']

def jsonable (maxChars : ℕ) (cell : Cell Real) : Sampled Real :=
  match cell with
  | .none => .none
  | .bool value => .bool value
  | .int value => .int value
  | .float _ =>
      match asFloat floats cell with
      | some number => .float number
      | none => .none
  | .decimal _ =>
      match asFloat floats cell with
      | some number => .float number
      | none => .none
  | .date isoformat => .text isoformat
  | .bytes size => .text ('<' :: (Nat.toDigits 10 size ++ " bytes>".toList))
  | .other shown => .text (clip maxChars shown)

structure InsightsSettings where
  maxSampleRows : ℕ
  maxColumns : ℕ
  maxCellChars : ℕ

/-- A row, from column names to values. -/
abbrev ResultRow (Real : Type) := List (Text × Cell Real)

/-- `row.get(name)` -/
def cellOf (row : ResultRow Real) (name : Text) : Cell Real :=
  ((row.find? fun entry => entry.1 == name).map Prod.snd).getD .none

/-- What `build_context` is given besides the rows. -/
structure Request where
  question : Text
  sql : Text
  database : Text
  chartType : Option Text

structure ResultContext (Real : Type) where
  request : Request
  rowCount : ℕ
  columns : List (ColumnProfile Real)
  sampleRows : List (List (Text × Sampled Real))
  truncated : Bool

/-- The names of the columns, in the order in which the rows first have them. -/
def columnNames (rows : List (ResultRow Real)) : List Text :=
  (rows.flatMap fun row => row.map Prod.fst).foldl (fun names name =>
    if names.contains name then names else names ++ [name]) []

/-- `build_context` -/
def buildContext (config : InsightsSettings) (request : Request)
    (rows : List (ResultRow Real)) : ResultContext Real :=
  let names := (columnNames rows).take config.maxColumns
  { request := request
    rowCount := rows.length
    columns := names.map fun name =>
      profileColumn floats name (rows.map fun row => cellOf row name)
    sampleRows := (rows.take config.maxSampleRows).map fun row =>
      names.map fun name => (name, jsonable floats config.maxCellChars (cellOf row name))
    truncated := decide (config.maxColumns < (columnNames rows).length) ||
      decide (config.maxSampleRows < rows.length) }

/-! ## Grounded numbers -/

/-- `_number_key` -/
def numberKey (value : Cell Real) : Option Text :=
  (asFloat floats value).map fun number => Nat.toDigits 10 (floats.truncate number)

/-- The statistics that a column has. -/
def ColumnProfile.statistics (column : ColumnProfile Real) : List Real :=
  [column.minimum, column.maximum, column.mean, column.total, column.first, column.last,
    column.change, column.changePct].filterMap id

/-- The cell that a sampled value is as a number. -/
def Sampled.cell : Sampled Real → Cell Real
  | .int value => .int value
  | .float value => .float value
  | _ => .none

/-- `grounded_numbers` -/
def groundedNumbers (context : ResultContext Real) : List Text :=
  (numberKey floats (.int context.rowCount)).toList ++
    (context.columns.flatMap fun column =>
      column.statistics.filterMap fun value => numberKey floats (.float value)) ++
    context.sampleRows.flatMap fun row =>
      row.filterMap fun entry => numberKey floats entry.2.cell

end Building

end DbBuddy.Insights
