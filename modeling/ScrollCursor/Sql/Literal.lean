import ScrollCursor.Config
import ScrollCursor.Number.Numeral
import ScrollCursor.Table.Ref
import ScrollCursor.Table.SqlType
import ScrollCursor.Text.Quoted
import ScrollCursor.Value

/-! # Literals and quoted names

How values and names are written into statements. A literal is chosen by the type of the
column it is meant for: numbers stand bare for numeric columns and in quotes for others,
bytes are hexadecimal, dates and times are quoted.
-/

namespace ScrollCursor

namespace Sql

def quoteIdentifier (quote : IdentifierQuote) (name : String) : String :=
  Text.quoteName quote.char name

/-- A table name, after its catalog if that is known. -/
def quoteTable (quote : IdentifierQuote) (table : TableRef) : String :=
  match table.catalog with
  | some catalog => quoteIdentifier quote catalog ++ "." ++ quoteIdentifier quote table.name
  | none => quoteIdentifier quote table.name

def hexLiteral (bytes : Text.Bytes) : String :=
  "X'" ++ Text.Hex.upper bytes ++ "'"

/-- The numeral in a text that is meant for a column of the given type. -/
def numeral (text : String) (type : SqlType) : Except Error String :=
  match Numeral.normalize? text with
  | some numeral => .ok numeral
  | none => .error (.conversion ("'" ++ text ++ "' is not a valid " ++ type.name ++ " value"))

/-- A finite number in plain notation. -/
def floatNumeral (x : Binary64) : Except Error String :=
  if x.isFinite then .ok x.plainText
  else .error (.conversion (x.plainText ++ " cannot be written as a SQL number"))

/-- Bare for a numeric column, quoted for any other. -/
def forType (type : SqlType) (text : String) : String :=
  if type.isNumeric then text else Text.quoteString text

/-- The literal of a value for a column of the given type. -/
def literal (value : Value) (type : SqlType) : Except Error String :=
  match value with
  | .null => .ok "NULL"
  | .integer n => .ok (forType type (toString n))
  | .float x => (floatNumeral x).map (forType type)
  | .decimal s => (numeral s type).map (forType type)
  | .boolean b => .ok (forType type (if b then "1" else "0"))
  | .string s =>
      if type.isNumeric then numeral s type
      else if type.isBinary then .ok (hexLiteral (Text.utf8 s))
      else .ok (Text.quoteString s)
  | .binary bytes => .ok (hexLiteral bytes)
  | .date d => .ok (Text.quoteString d.text)
  | .time t => .ok (Text.quoteString t.text)
  | .timestamp t => .ok (Text.quoteString t.text)
  | .json d => .ok (Text.quoteString d.print)

end Sql

end ScrollCursor
