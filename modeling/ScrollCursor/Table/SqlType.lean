/-! # Column types

The semantic types of result columns and the classes that matter for keys and literals.
-/

namespace ScrollCursor

inductive SqlType where
  | bit
  | tinyInt
  | smallInt
  | integer
  | bigInt
  | decimal
  | float
  | double
  | char
  | varchar
  | longVarchar
  | binary
  | varbinary
  | longVarbinary
  | date
  | time
  | timestamp
  | json
  deriving DecidableEq, Inhabited

namespace SqlType

def all : List SqlType :=
  [.bit, .tinyInt, .smallInt, .integer, .bigInt, .decimal, .float, .double, .char, .varchar,
    .longVarchar, .binary, .varbinary, .longVarbinary, .date, .time, .timestamp, .json]

/-- The name of a type in messages. -/
def name : SqlType → String
  | .bit => "Bit"
  | .tinyInt => "TinyInt"
  | .smallInt => "SmallInt"
  | .integer => "Integer"
  | .bigInt => "BigInt"
  | .decimal => "Decimal"
  | .float => "Float"
  | .double => "Double"
  | .char => "Char"
  | .varchar => "Varchar"
  | .longVarchar => "LongVarchar"
  | .binary => "Binary"
  | .varbinary => "Varbinary"
  | .longVarbinary => "LongVarbinary"
  | .date => "Date"
  | .time => "Time"
  | .timestamp => "Timestamp"
  | .json => "Json"

/-- Large values, which cannot be part of a key. -/
def isLong : SqlType → Bool
  | .longVarchar | .longVarbinary | .json => true
  | _ => false

/-- Numbers whose equality on the server is not to be relied upon. -/
def isInexact : SqlType → Bool
  | .float | .double | .decimal => true
  | _ => false

/-- Numbers, written without quotes. -/
def isNumeric : SqlType → Bool
  | .bit | .tinyInt | .smallInt | .integer | .bigInt | .decimal | .float | .double => true
  | _ => false

def isBinary : SqlType → Bool
  | .binary | .varbinary | .longVarbinary => true
  | _ => false

/-- The types that a server can number rows with. -/
def isWhole : SqlType → Bool
  | .tinyInt | .smallInt | .integer | .bigInt => true
  | _ => false

end SqlType

end ScrollCursor
