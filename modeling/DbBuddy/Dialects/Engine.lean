/-!
# The supported engines

What each engine does with identifiers and patterns; the rest of a dialect, its
connections and its introspection, is not needed to compile a plan.
-/

namespace DbBuddy.Dialects

inductive DatabaseEngine where
  | mysql
  | postgres
  | sqlserver
  deriving DecidableEq, Repr

/-- `DatabaseEngine.__str__` and `__format__` -/
def DatabaseEngine.value : DatabaseEngine → String
  | .mysql => "mysql"
  | .postgres => "postgresql"
  | .sqlserver => "sqlserver"

/-- What an engine does to the case of an identifier without quotes. -/
inductive IdentifierCase where
  | lower
  | upper
  deriving DecidableEq, Repr

/-- `DialectCapabilities`, as far as a plan's text depends on them. -/
structure DialectCapabilities where
  supportsIlike : Bool
  identifierQuoteChar : Char
  unquotedIdentifierCase : Option IdentifierCase

/-- `capabilities` -/
def DatabaseEngine.capabilities : DatabaseEngine → DialectCapabilities
  | .mysql => ⟨false, '`', none⟩
  | .postgres => ⟨true, '"', some .lower⟩
  | .sqlserver => ⟨false, '"', none⟩

/-- `quote_identifier` with a given quote character. -/
def quoteWith (quote : Char) (name : String) : String :=
  String.ofList (quote :: (name.toList.flatMap fun char =>
    if char = quote then [quote, quote] else [char]) ++ [quote])

/-- `quote_identifier` -/
def DatabaseEngine.quoteIdentifier (engine : DatabaseEngine) (name : String) :
    String :=
  quoteWith engine.capabilities.identifierQuoteChar name

/-- `render_ilike` -/
def DatabaseEngine.renderIlike (engine : DatabaseEngine) (column rhs : String) :
    String :=
  if engine.capabilities.supportsIlike then column ++ " ILIKE " ++ rhs
  else "LOWER(" ++ column ++ ") LIKE LOWER(" ++ rhs ++ ")"

end DbBuddy.Dialects
