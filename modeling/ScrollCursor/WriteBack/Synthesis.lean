import ScrollCursor.Table.Column
import ScrollCursor.WriteBack.Fragment

/-! # Statements that write rows back

The statements that change, delete, insert or read again one row of a table. Rows are
identified by the values they had when the server was last asked. Of several faults the
first in the order of the text is reported, after those of the key.
-/

namespace ScrollCursor

namespace Dialect

/-- A value for the column of the table that a result column shows. -/
def target (d : ResultDescriptor) (ordinal : Nat) (value : Value) : Except Error ColumnValue :=
  match d[ordinal]? with
  | some c => .ok ⟨c.baseColumn, c.sqlType, value⟩
  | none => .error (.internal ("no result column at ordinal " ++ toString ordinal))

/-- The statement that sets columns of one row. There must be something to set. -/
def update (s : Dialect) (key : KeySet) (d : ResultDescriptor) (image : Record)
    (assignments : List (Nat × Value)) : Except Error Request :=
  if assignments.isEmpty then .error .degreeMismatch
  else do
    let terms ← key.terms image
    let set ← assignments.mapM fun (ordinal, value) => do
      let a ← target d ordinal value
      let f ← s.assignment a
      return (a, f)
    let found ← s.predicate terms
    let text := .raw "UPDATE " ++ s.table key.table ++ .raw " SET " ++
      .joined ", " (set.map Prod.snd) ++ .raw " WHERE " ++ found
    return text.toRequest (.update key.table (set.map Prod.fst) terms)

/-- The statement that deletes one row. -/
def delete (s : Dialect) (key : KeySet) (image : Record) : Except Error Request := do
  let terms ← key.terms image
  let found ← s.predicate terms
  let text := .raw "DELETE FROM " ++ s.table key.table ++ .raw " WHERE " ++ found
  return text.toRequest (.delete key.table terms)

/-- The statement that inserts one row. Columns without a value are left to the server. -/
def insert (s : Dialect) (table : TableRef) (d : ResultDescriptor)
    (values : List (Nat × Value)) : Except Error Request := do
  let targets ← values.mapM fun (ordinal, value) => target d ordinal value
  let texts ← targets.mapM fun a => s.value a.value a.sqlType
  let text := .raw "INSERT INTO " ++ s.table table ++ .raw " (" ++
    .joined ", " (targets.map fun a => s.identifier a.column) ++ .raw ") VALUES (" ++
    .joined ", " texts ++ .raw ")"
  return text.toRequest (.insert table targets)

/-- The statement that reads the table's columns of one row, with the ordinals they are
read for. -/
def selectByKey (s : Dialect) (key : KeySet) (d : ResultDescriptor) (image : Record)
    (forUpdate : Bool) : Except Error (Request × List Nat) := do
  let terms ← key.terms image
  let found ← s.predicate terms
  let own := d.columnsOf key.table
  let names := own.map fun (_, c) => c.baseColumn
  let text := .raw "SELECT " ++ .joined ", " (names.map s.identifier) ++ .raw " FROM " ++
    s.table key.table ++ .raw " WHERE " ++ found ++
    .raw (if forUpdate then " FOR UPDATE" else "")
  return (text.toRequest (.selectByKey key.table names terms forUpdate), own.map Prod.fst)

end Dialect

end ScrollCursor
