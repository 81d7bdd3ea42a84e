import ScrollCursor.Key.Basic
import ScrollCursor.Table.Column
import ScrollCursor.Table.Metadata

/-! # Choice of a key

Candidates for a key are, in this order, the primary key, the unique index with the fewest
columns and all columns of the table. A candidate counts only if every one of its columns is
in the result and is not long; the fallback leaves out long and inexact columns instead.
-/

namespace ScrollCursor

namespace KeySet

variable (d : ResultDescriptor) (table : TableRef)

/-- The result column that shows a column of the table, unless it is long. -/
def column? (name : String) : Option KeyColumn := do
  let ordinal ← d.ordinalOf? table name
  let c ← d[ordinal]?
  if c.sqlType.isLong then none else some ⟨ordinal, c.baseColumn, c.sqlType⟩

/-- One or more named columns, all of them usable. -/
def candidate? (names : List String) : Option (List KeyColumn) :=
  if names.isEmpty then none else names.mapM (column? d table)

/-- All usable columns among the named ones, in the order of the result. -/
def fallback (names : List String) : Except Error KeySet :=
  let usable := (names.filterMap (column? d table)).filter fun c => !c.sqlType.isInexact
  let columns := (List.range d.length).filterMap fun i => usable.find? fun c => c.ordinal == i
  if columns.isEmpty then .error (.noUsableKey table.text)
  else .ok ⟨table, columns, .allColumns⟩

/-- The candidate with the fewest columns, the earliest of several. -/
def shortest? : List (String × List KeyColumn) → Option (String × List KeyColumn)
  | [] => none
  | first :: rest =>
      match shortest? rest with
      | none => some first
      | some best => if best.2.length < first.2.length then some best else some first

/-- The key of a table whose metadata is known. -/
def ofMetadata (m : TableMetadata) : Except Error KeySet :=
  match candidate? d table m.primaryKey with
  | some columns => .ok ⟨table, columns, .primaryKey⟩
  | none =>
      let indexes := m.uniqueIndexes.filterMap fun ix =>
        (candidate? d table ix.columns).map fun columns => (ix.name, columns)
      match shortest? indexes with
      | some (name, columns) => .ok ⟨table, columns, .uniqueIndex name⟩
      | none => fallback d table (m.columns.map TableColumn.name)

/-- The columns of the result that are drawn from the table. -/
def ownColumns : List Column :=
  d.filter (Column.belongsTo · table)

/-- The key of a table of which only the result columns are known. -/
def ofFlags : Except Error KeySet :=
  let own := ownColumns d table
  match candidate? d table ((own.filter Column.primaryKey).map Column.baseColumn) with
  | some columns => .ok ⟨table, columns, .primaryKey⟩
  | none =>
      let unique := (own.filter Column.uniqueKey).findSome? fun c =>
        (candidate? d table [c.baseColumn]).map fun columns => (c.baseColumn, columns)
      match unique with
      | some (name, columns) => .ok ⟨table, columns, .uniqueIndex name⟩
      | none => fallback d table (own.map Column.baseColumn)

/-- The key of a table with or without metadata. -/
def ofTable (m : Option TableMetadata) : Except Error KeySet :=
  match m with
  | some m => ofMetadata d table m
  | none => ofFlags d table

/-- The key of a result, metadata being looked up for its only table. -/
def resolve (lookup : TableRef → Except Error (Option TableMetadata)) : Except Error KeySet := do
  let table ← d.singleTable
  let m ← lookup table
  ofTable d table m

end KeySet

end ScrollCursor
