import ScrollCursor.Error
import ScrollCursor.Table.Ref
import ScrollCursor.Table.SqlType
import ScrollCursor.Value

/-! # Keys of a result

A key set names the result columns whose values tell one row of a table from the others. A
true key is at most one row's; the fallback of all columns may be shared by several rows.
-/

namespace ScrollCursor

/-- A value meant for a named column of a type. -/
structure ColumnValue where
  column : String
  sqlType : SqlType
  value : Value

inductive KeySource where
  | primaryKey
  | uniqueIndex (name : String)
  /-- Every usable column, which may not tell rows apart. -/
  | allColumns
  deriving DecidableEq, Inhabited

structure KeyColumn where
  ordinal : Nat
  name : String
  sqlType : SqlType
  deriving DecidableEq, Inhabited

structure KeySet where
  table : TableRef
  columns : List KeyColumn
  source : KeySource
  deriving DecidableEq, Inhabited

namespace KeySet

/-- At most one row has given values in the key columns. -/
def isUnique (key : KeySet) : Bool :=
  key.source != .allColumns

/-- The term that a row contributes to its predicate at one key column. In a true key NULL
identifies no row. -/
def term (key : KeySet) (values : Record) (c : KeyColumn) : Except Error ColumnValue :=
  match values[c.ordinal]? with
  | none =>
      .error (.internal ("row has no value for key column " ++ c.name ++ " (ordinal " ++
        toString c.ordinal ++ ")"))
  | some value =>
      if value.isNull && key.isUnique then .error (.nullKeyValue c.name)
      else .ok ⟨c.name, c.sqlType, value⟩

/-- The predicate terms of a row in the order of the key columns. -/
def terms (key : KeySet) (values : Record) : Except Error (List ColumnValue) :=
  key.columns.mapM (key.term values)

end KeySet

end ScrollCursor
