import ScrollCursor.Positioned.Add
import ScrollCursor.Positioned.ByBookmark

/-! # Carrying out positioned operations

An operation on a row number is carried out on that row, or on every row for the number
zero. Calls that cannot succeed for any row are refused before anything is sent.
-/

namespace ScrollCursor

namespace Work

variable {σ : Type}

/-- One row becomes the current row. -/
def positionOn (w : Work σ) (row : Nat) : OperationOutcome × Work σ :=
  let status := w.cursor.paddedStatuses[row - 1]?.getD .noRow
  ({ statuses := [status], successCount := 1 },
    w.onCursor fun c => { c with current := some row })

/-- What a refresh reports of a row. -/
def refreshReport (row : Nat) (shown : FetchedRow) : RowReport where
  row := row
  result :=
    if shown.status = .error then
      .failed (.internal ("row " ++ toString row ++ " could not be refreshed"))
    else .done 0 shown.status
  before := shown.status

/-- Rows are brought up to date and shown; the first of them becomes the current row. -/
def refreshRows (w : Work σ) (rows : List Nat) : OperationOutcome × Work σ :=
  let (shown, w) := w.refresh rows
  let w := w.onCursor fun c => { c with current := rows.head?.or c.current }
  let (outcome, w) := w.finish (rows.zipWith refreshReport shown)
  ({ outcome with rows := shown }, w)

/-- The rows that a row number stands for. -/
def targetRows (w : Work σ) (row : Nat) (operation : RowOperation) : List Nat :=
  if row ≠ 0 then [row]
  else List.range' 1 (if operation = .add then w.cursor.size else w.cursor.rowset.length)

/-- An operation on a row of the rowset, or on all of them. -/
def setPosition (w : Work σ) (row : Nat) (operation : RowOperation) (supplied : Supplied) :
    Except Error OperationOutcome × Work σ :=
  let rows := w.targetRows row operation
  match operation with
  | .position =>
      let (outcome, w) := w.positionOn row
      (.ok outcome, w)
  | .refresh =>
      let (outcome, w) := w.refreshRows rows
      (.ok outcome, w)
  | .update => w.updateRows supplied row rows
  | .delete => w.deleteRows rows
  | .add => w.addRows supplied rows

/-- An operation on the rows of bound arrays. -/
def bulk (w : Work σ) (operation : BulkOperation) (supplied : Supplied) :
    Except Error OperationOutcome × Work σ :=
  match w.cursor.validateBulk operation with
  | .error e => (.error e, w)
  | .ok () =>
      match operation with
      | .add => w.addRows supplied (List.range' 1 w.cursor.size)
      | .updateByBookmark => w.overBookmarks fun rows => w.updateByBookmark supplied rows
      | .deleteByBookmark => w.overBookmarks w.deleteByBookmark
      | .fetchByBookmark => w.overBookmarks fun rows =>
          let (outcome, w) := w.fetchByBookmark rows
          (.ok outcome, w)

end Work

end ScrollCursor
