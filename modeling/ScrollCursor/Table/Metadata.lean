import ScrollCursor.Table.Ref
import ScrollCursor.Table.SqlType

/-! # Table metadata

What the server tells about a table: its columns, its primary key and its unique indexes.
-/

namespace ScrollCursor

structure TableColumn where
  name : String
  sqlType : SqlType
  nullable : Bool := true
  deriving DecidableEq, Inhabited

structure UniqueIndex where
  name : String
  columns : List String
  deriving DecidableEq, Inhabited

structure TableMetadata where
  table : TableRef
  columns : List TableColumn
  primaryKey : List String := []
  uniqueIndexes : List UniqueIndex := []
  deriving DecidableEq, Inhabited

namespace TableMetadata

/-- The first column with a name, compared without regard to case. -/
def column? (m : TableMetadata) (name : String) : Option TableColumn :=
  m.columns.find? fun c => Text.sameName c.name name

end TableMetadata

end ScrollCursor
