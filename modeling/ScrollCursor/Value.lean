import ScrollCursor.Calendar
import ScrollCursor.Document.Printer
import ScrollCursor.Text.Case
import ScrollCursor.Text.Integer

/-! # Column values and rows

One column value is NULL or of one of ten kinds. Equality asks for the same kind and the
same content; floating-point numbers are compared as numbers.
-/

namespace ScrollCursor

open Text (Bytes)

/-- One column value. Decimals keep their text. -/
inductive Value where
  | null
  | string (s : String)
  | binary (bytes : Bytes)
  | integer (n : Int)
  | float (x : Binary64)
  | decimal (text : String)
  | boolean (b : Bool)
  | date (d : Calendar.Date)
  | time (t : Calendar.Time)
  | timestamp (t : Calendar.Timestamp)
  | json (d : Document)

namespace Value

instance : Inhabited Value := ⟨.null⟩

/-- Equality of kind and content. -/
def same : Value → Value → Bool
  | .null, .null => true
  | .string a, .string b => a == b
  | .binary a, .binary b => a == b
  | .integer a, .integer b => a == b
  | .float a, .float b => a == b
  | .decimal a, .decimal b => a == b
  | .boolean a, .boolean b => a == b
  | .date a, .date b => a == b
  | .time a, .time b => a == b
  | .timestamp a, .timestamp b => a == b
  | .json a, .json b => a == b
  | _, _ => false

instance : BEq Value := ⟨same⟩

def isNull : Value → Bool
  | .null => true
  | _ => false

/-- The word for a value's kind in messages. -/
def kind : Value → String
  | .null => "null"
  | .string _ => "string"
  | .binary _ => "binary"
  | .integer _ => "integer"
  | .float _ => "float"
  | .decimal _ => "decimal"
  | .boolean _ => "boolean"
  | .date _ => "date"
  | .time _ => "time"
  | .timestamp _ => "timestamp"
  | .json _ => "json"

/-- The text shown for a value. -/
def text : Value → String
  | .null => "NULL"
  | .string s => s
  | .binary bytes => "0x" ++ Text.Hex.lower bytes
  | .integer n => toString n
  | .float x => x.plainText
  | .decimal s => s
  | .boolean b => if b then "true" else "false"
  | .date d => d.text
  | .time t => t.text
  | .timestamp t => t.text
  | .json d => d.print

/-- The text of a character or decimal value. -/
def string? : Value → Option String
  | .string s => some s
  | .decimal s => some s
  | _ => none

/-- A text without one ending `.0`. -/
def dropPointZero (cs : List Char) : List Char :=
  match cs.reverse with
  | '0' :: '.' :: rest => rest.reverse
  | _ => cs

/-- The whole number that a value is: an integer, a boolean or a decimal without a
fraction. -/
def integer? : Value → Option Int
  | .integer n => some n
  | .boolean b => some (if b then 1 else 0)
  | .decimal s => Text.integer? (dropPointZero s.toList)
  | _ => none

/-- A value continued by another piece. Only character and binary values can grow. -/
def append? : Value → Value → Option Value
  | .string s, .string more => some (.string (s ++ more))
  | .binary bytes, .binary more => some (.binary (bytes ++ more))
  | .binary bytes, .string more => some (.binary (bytes ++ Text.utf8 more))
  | _, _ => none

end Value

/-- The values of one row in the order of the result columns. -/
abbrev Record := List Value

/-- A row as the caller sees it: values under the names of the result columns. -/
structure Row where
  names : List String
  values : Record

namespace Row

/-- The value of the first column with a name, compared without regard to case. -/
def named? (row : Row) (name : String) : Option Value := do
  let i ← row.names.findIdx? (Text.sameName · name)
  row.values[i]?

def string? (row : Row) (i : Nat) : Option String :=
  row.values[i]?.bind Value.string?

def integer? (row : Row) (i : Nat) : Option Int :=
  row.values[i]?.bind Value.integer?

/-- A missing value counts as NULL. -/
def isNull (row : Row) (i : Nat) : Bool :=
  (row.values[i]?.map Value.isNull).getD true

end Row

end ScrollCursor
