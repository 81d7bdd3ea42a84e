import ScrollCursor.Cursor.Reread
import ScrollCursor.Positioned.Operation
import ScrollCursor.Positioned.Report

/-! # Updates and deletes of buffered rows

A row is written with one request, built from the image that the server last gave. Only an
answer that counts at least one row changes the buffer, so a row that fails stays as it is
and the rows after it are attempted all the same.
-/

namespace ScrollCursor

/-- The values supplied for columns while a write waited, by ordinal. -/
abbrev Supplied := List (Nat × Value)

namespace Bindings

/-- What a row assigns to a column, if anything. -/
def assignment? (b : Bindings) (supplied : Supplied) (bindingRow ordinal : Nat) (c : Column) :
    Except Error (Option (Nat × Value)) :=
  match b.value ordinal bindingRow with
  | .ignore => .ok none
  | .value v => .ok (some (ordinal, v))
  | .dataAtExec =>
      match supplied.lookup ordinal with
      | some v => .ok (some (ordinal, v))
      | none =>
          .error (.functionSequence
            ("no data supplied for data-at-exec column " ++ c.name))

/-- What a row assigns to the columns of a table, in the order of the result. -/
def assignments (b : Bindings) (supplied : Supplied) (bindingRow : Nat) (d : ResultDescriptor)
    (table : TableRef) : Except Error (List (Nat × Value)) := do
  let found ← (d.columnsOf table).mapM fun (ordinal, c) =>
    b.assignment? supplied bindingRow ordinal c
  return found.filterMap id

end Bindings

namespace Work

variable {σ : Type}

/-- The work of each row in turn, with the reports of all. -/
def forRows (f : Work σ → Nat → RowResult × RowStatus × Work σ) :
    Work σ → List Nat → List RowReport × Work σ
  | w, [] => ([], w)
  | w, row :: rest =>
      let (result, before, w) := f w row
      let (reports, w) := forRows f w rest
      (⟨row, result, before⟩ :: reports, w)

/-- The outcome of a call with the given reports, whose records go to the others. -/
def finish (w : Work σ) (reports : List RowReport) : OperationOutcome × Work σ :=
  (.ofReports reports, { w with diagnostics := w.diagnostics ++ .ofReports reports })

/-- What the server holds of a slot that can be written. -/
def liveImage (w : Work σ) (id : SlotId) : Except Error Record :=
  match w.cursor.buffer.slot? id with
  | none => .error (.internal "row is no longer buffered")
  | some slot =>
      if slot.isDeleted then .error (.cursorPosition "row has been deleted") else .ok slot.image

/-- A write is sent. If it changed a row, the cursor changes and the row has a new status. -/
def send (w : Work σ) (request : Request) (change : Cursor → Cursor) (status : RowStatus) :
    RowResult × Work σ :=
  match w.link.execute request with
  | (.error e, link) => (.failed e, { w with link := link })
  | (.ok answer, link) =>
      if answer.affected = 0 then (.noMatch, { w with link := link })
      else (.done answer.affected status, { w with cursor := change w.cursor, link := link })

/-- The slot takes values that were written. -/
def applySlot (id : SlotId) (assignments : List (Nat × Value)) (c : Cursor) : Cursor :=
  c.modifySlot id fun slot => (slot.apply assignments).withStatus .updated

/-- A slot is updated with what a row of the bound arrays assigns. -/
def updateSlot (w : Work σ) (key : KeySet) (supplied : Supplied) (id : SlotId)
    (bindingRow : Nat) : RowResult × Work σ :=
  match w.liveImage id with
  | .error e => (.failed e, w)
  | .ok image =>
      match w.bindings.assignments supplied bindingRow w.cursor.descriptor key.table with
      | .error e => (.failed e, w)
      | .ok [] => (.skipped, w)
      | .ok assignments =>
          match w.cursor.dialect.update key w.cursor.descriptor image assignments with
          | .error e => (.failed e, w)
          | .ok request => w.send request (applySlot id assignments) .updated

/-- A slot is deleted. -/
def deleteSlot (w : Work σ) (key : KeySet) (id : SlotId) : RowResult × Work σ :=
  match w.liveImage id with
  | .error e => (.failed e, w)
  | .ok image =>
      match w.cursor.dialect.delete key image with
      | .error e => (.failed e, w)
      | .ok request => w.send request (Cursor.markDeleted · id) .deleted

/-- The work on the slot of a row of the rowset. -/
def onRow (f : Work σ → SlotId → RowResult × Work σ) (w : Work σ) (row : Nat) :
    RowResult × RowStatus × Work σ :=
  match w.cursor.slotOf? row with
  | none =>
      (.failed (.cursorPosition ("row " ++ toString row ++ " is not in the rowset")), .noRow, w)
  | some id =>
      let (result, after) := f w id
      (result, w.cursor.slotStatus id, after)

/-- The key for a write, after which a dynamic cursor has read the rows again. -/
def prepareWrite (w : Work σ) (rows : List Nat) : Except Error KeySet × Work σ :=
  match w.keySet with
  | (.error e, w) => (.error e, w)
  | (.ok key, w) => (.ok key, if w.cursor.kind = .dynamic then w.reread rows else w)

/-- A single row must have something to set; the number zero stands for all rows. -/
def checkDegree (w : Work σ) (key : KeySet) (supplied : Supplied) (row : Nat) :
    Except Error Unit :=
  if row = 0 then .ok ()
  else
    match w.bindings.assignments supplied (row - 1) w.cursor.descriptor key.table with
    | .error e => .error e
    | .ok assignments => if assignments.isEmpty then .error .degreeMismatch else .ok ()

/-- A row of the rowset is updated with what its row of the bound arrays assigns. -/
def updateRow (key : KeySet) (supplied : Supplied) (w : Work σ) (row : Nat) :
    RowResult × RowStatus × Work σ :=
  w.onRow (fun w id => w.updateSlot key supplied id (row - 1)) row

/-- The rows that a row number stands for are updated. Among all rows those with nothing to
set are left out; for a single row that is an error. -/
def updateRows (w : Work σ) (supplied : Supplied) (row : Nat) (rows : List Nat) :
    Except Error OperationOutcome × Work σ :=
  match w.prepareWrite rows with
  | (.error e, w) => (.error e, w)
  | (.ok key, w) =>
      match w.checkDegree key supplied row with
      | .error e => (.error e, w)
      | .ok () =>
          let (reports, w) := forRows (updateRow key supplied) w rows
          let (outcome, w) := (w.onCursor Cursor.syncStatuses).finish reports
          (.ok outcome, w)

/-- Rows of the rowset are deleted. -/
def deleteRows (w : Work σ) (rows : List Nat) : Except Error OperationOutcome × Work σ :=
  match w.prepareWrite rows with
  | (.error e, w) => (.error e, w)
  | (.ok key, w) =>
      let (reports, w) := forRows (onRow fun w id => w.deleteSlot key id) w rows
      let (outcome, w) := (w.onCursor Cursor.syncStatuses).finish reports
      (.ok outcome, w)

end Work

end ScrollCursor
