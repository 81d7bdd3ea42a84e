import ScrollCursor.Error
import ScrollCursor.Table.Ref
import ScrollCursor.Table.SqlType

/-! # Result columns

A result column knows the table and the column that it is drawn from. The descriptor of a
result lists its columns in order; positions in it are ordinals counted from zero.
-/

namespace ScrollCursor

structure Column where
  name : String
  sqlType : SqlType
  /-- The column of the table, where it is named differently. -/
  baseName : Option String := none
  table : Option TableRef := none
  octetLength : Nat := 0
  displaySize : Nat := 0
  precision : Int := 0
  scale : Int := 0
  nullable : Bool := true
  primaryKey : Bool := false
  uniqueKey : Bool := false
  deriving DecidableEq, Inhabited

namespace Column

def withLength (c : Column) (octets : Nat) : Column :=
  { c with octetLength := octets, displaySize := octets }

/-- A column of the primary key, which is never NULL. -/
def asPrimaryKey (c : Column) : Column :=
  { c with primaryKey := true, nullable := false }

/-- The name of the column in its table. -/
def baseColumn (c : Column) : String :=
  c.baseName.getD c.name

/-- The column is drawn from the table. -/
def belongsTo (c : Column) (table : TableRef) : Bool :=
  match c.table with
  | some t => t.sameTable table
  | none => false

/-- The column shows the named column of the table. -/
def shows (c : Column) (table : TableRef) (base : String) : Bool :=
  c.belongsTo table && Text.sameName c.baseColumn base

end Column

/-- The columns of a result in order. -/
abbrev ResultDescriptor := List Column

namespace ResultDescriptor

def names (d : ResultDescriptor) : List String :=
  d.map Column.name

/-- The first ordinal that shows the named column of the table. -/
def ordinalOf? (d : ResultDescriptor) (table : TableRef) (base : String) : Option Nat :=
  d.findIdx? (Column.shows · table base)

/-- One more table, unless it is the same as one already listed. -/
def addTable (seen : List TableRef) (c : Column) : List TableRef :=
  match c.table with
  | none => seen
  | some t => if seen.any (TableRef.sameTable · t) then seen else seen ++ [t]

/-- The tables that the columns are drawn from, each at its first column. -/
def tables (d : ResultDescriptor) : List TableRef :=
  d.foldl addTable []

/-- The only table of the result. -/
def singleTable (d : ResultDescriptor) : Except Error TableRef :=
  match d.tables with
  | [] => .error .noBaseTable
  | [t] => .ok t
  | many => .error (.multipleTables (many.map TableRef.text))

/-- The ordinals, with their columns, that are drawn from the table. -/
def columnsOf (d : ResultDescriptor) (table : TableRef) : List (Nat × Column) :=
  (d.zipIdx.filter fun (c, _) => c.belongsTo table).map fun (c, i) => (i, c)

end ResultDescriptor

end ScrollCursor
