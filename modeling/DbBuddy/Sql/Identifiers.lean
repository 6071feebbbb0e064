import DbBuddy.Library.PythonText
import DbBuddy.Dialects.Engine

/-!
# Quoting identifiers

An identifier is quoted only where the parser would otherwise not read it back.
-/

namespace DbBuddy.Sql

open DbBuddy.Library DbBuddy.Dialects

/-- `_RESERVED_IDENTIFIERS` -/
def reservedIdentifiers : List String :=
  ["order", "group", "select", "from", "where", "table", "key", "value", "index",
    "desc", "asc", "when", "case", "check", "column", "primary", "foreign",
    "default", "join", "left", "right", "inner", "outer", "union", "all",
    "distinct", "limit", "offset", "having", "by", "and", "or", "not", "null",
    "as", "in", "is", "like", "between", "exists", "into", "values", "set",
    "user", "range", "rank", "row", "rows", "start", "end", "level", "size",
    "type", "status", "comment", "match", "natural", "using", "cast", "current",
    "to", "on", "for", "with", "if", "then", "else", "cross", "full", "unique",
    "references", "add", "create", "drop", "delete", "insert", "update", "alter",
    "grant", "revoke", "constraint", "view", "database", "schema", "trigger",
    "procedure", "function", "return", "begin", "commit", "rollback",
    "transaction", "lock", "precision", "position", "both", "leading",
    "trailing", "escape", "collate", "some", "any", "over", "partition",
    "window", "filter", "within", "percent", "except", "intersect"]

/-- `_PLAIN_IDENTIFIER`; its `$` also matches before a last line break. -/
def plainIdentifier (text : List Char) : Bool :=
  let name := if text.getLast? = some '\n' then text.dropLast else text
  match name with
  | [] => false
  | first :: rest =>
      (first.isAlpha || first == '_') &&
        rest.all fun char => char.isAlphanum || char == '_'

section Quoting

variable (unicode : Unicode)

/-- `_needs_quoting` -/
def needsQuoting (name : String) (dialect : Option DatabaseEngine) : Bool :=
  if name = "" then false
  else if !plainIdentifier name.toList then true
  else if unicode.lower name ∈ reservedIdentifiers then true
  else
    match dialect.bind fun engine => engine.capabilities.unquotedIdentifierCase with
    | some .lower => decide (name ≠ unicode.lower name)
    | some .upper => decide (name ≠ unicode.upper name)
    | none => false

/-- `_quote` -/
def quote (name : String) (dialect : Option DatabaseEngine) : String :=
  if needsQuoting unicode name dialect then
    match dialect with
    | some engine => engine.quoteIdentifier name
    | none => quoteWith '"' name
  else name

/-- `_quote_ref` -/
def quoteRef (text : String) (dialect : Option DatabaseEngine) : String :=
  let left := text.toList.takeWhile fun char => char != '.'
  let right := (text.toList.dropWhile fun char => char != '.').drop 1
  if text = "*" then text
  else if '.' ∈ text.toList ∧ plainIdentifier left = true ∧ right ≠ [] then
    quote unicode (String.ofList left) dialect ++ "." ++
      quote unicode (String.ofList right) dialect
  else quote unicode text dialect

/-- `_ref` -/
def ref (table column : String) (dialect : Option DatabaseEngine) : String :=
  if table = "" then quoteRef unicode column dialect
  else quote unicode table dialect ++ "." ++ quoteRef unicode column dialect

end Quoting

end DbBuddy.Sql
