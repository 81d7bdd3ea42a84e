import ScrollCursor.Sql.Literal
import ScrollCursor.WriteBack.Plan

/-! # Fragments of statement text

A dialect says how identifiers are quoted and whether values stand in the text or beside
it. Pieces of a statement are written as fragments, text with the parameters it uses, and
joined in order.
-/

namespace ScrollCursor

/-- Text with the values of its placeholders in order. -/
structure Fragment where
  sql : String
  params : List Value

namespace Fragment

/-- Text without placeholders. -/
def raw (sql : String) : Fragment :=
  ⟨sql, []⟩

def append (a b : Fragment) : Fragment :=
  ⟨a.sql ++ b.sql, a.params ++ b.params⟩

instance : Append Fragment := ⟨append⟩

/-- Fragments one after another with a separator between them. -/
def joined (sep : String) : List Fragment → Fragment
  | [] => raw ""
  | [f] => f
  | f :: rest => f ++ raw sep ++ joined sep rest

def toRequest (f : Fragment) (plan : Plan) : Request :=
  ⟨f.sql, f.params, some plan⟩

end Fragment

/-- How statements are written. -/
structure Dialect where
  quote : IdentifierQuote := .backtick
  bindMode : BindMode := .inlined
  deriving DecidableEq, Inhabited

namespace Dialect

def ofConfig (c : Config) : Dialect :=
  ⟨c.identifierQuote, c.bindMode⟩

def identifier (s : Dialect) (name : String) : Fragment :=
  .raw (Sql.quoteIdentifier s.quote name)

def table (s : Dialect) (t : TableRef) : Fragment :=
  .raw (Sql.quoteTable s.quote t)

/-- A value as it is sent for a placeholder: numerals for numeric columns, finite numbers. -/
def parameter (value : Value) (type : SqlType) : Except Error Value :=
  match value with
  | .string s => if type.isNumeric then (Sql.numeral s type).map .decimal else .ok value
  | .float x => (Sql.floatNumeral x).map fun _ => value
  | _ => .ok value

/-- A value for a column, in the text or as a parameter. NULL always stands in the text. -/
def value (s : Dialect) (v : Value) (type : SqlType) : Except Error Fragment :=
  match s.bindMode with
  | .inlined => (Sql.literal v type).map Fragment.raw
  | .parameters =>
      if v.isNull then .ok (.raw "NULL")
      else (parameter v type).map fun p => ⟨"?", [p]⟩

/-- A column set to a value. -/
def assignment (s : Dialect) (a : ColumnValue) : Except Error Fragment := do
  let v ← s.value a.value a.sqlType
  return s.identifier a.column ++ .raw "=" ++ v

/-- A column compared with a value. -/
def comparison (s : Dialect) (t : ColumnValue) : Except Error Fragment :=
  if t.value.isNull then .ok (s.identifier t.column ++ .raw " IS NULL") else s.assignment t

/-- All comparisons must hold. -/
def predicate (s : Dialect) (terms : List ColumnValue) : Except Error Fragment := do
  let comparisons ← terms.mapM s.comparison
  return .joined " AND " comparisons

end Dialect

end ScrollCursor
