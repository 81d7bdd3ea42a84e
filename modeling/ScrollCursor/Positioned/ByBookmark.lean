import ScrollCursor.Positioned.Write

/-! # Operations by bookmark

Rows named by the bound bookmarks are updated, deleted or made the rowset. A row without a
bookmark is left out; a bookmark that names no live row fails its row alone.
-/

namespace ScrollCursor

namespace Work

variable {σ : Type}

/-- The rows with a bound bookmark array, at most a whole rowset of them. -/
def bookmarkRows (w : Work σ) : Except Error (List Nat) :=
  if !w.cursor.options.useBookmarks then .error .bookmarksDisabled
  else if w.bindings.bookmarks.isNone then .error .degreeMismatch
  else .ok (List.range' 1 (min w.bindings.bookmarkRows w.cursor.size))

/-- A call on the rows with a bound bookmark array, if there can be such rows. -/
def overBookmarks (w : Work σ) (f : List Nat → Except Error OperationOutcome × Work σ) :
    Except Error OperationOutcome × Work σ :=
  match w.bookmarkRows with
  | .error e => (.error e, w)
  | .ok rows => f rows

/-- The work on the slot that the bookmark of a row names. -/
def onBookmark (f : Work σ → SlotId → Nat → RowResult × Work σ) (w : Work σ) (row : Nat) :
    RowResult × RowStatus × Work σ :=
  match w.bindings.bookmark? (row - 1) with
  | none => (.skipped, .noRow, w)
  | some b =>
      match w.cursor.bookmarks.resolve? b with
      | none => (.failed (.bookmarkNotFound b.hex), .error, w)
      | some id =>
          let (result, after) := f w id row
          (result, w.cursor.slotStatus id, after)

/-- The rows are written one after another with the key of the result. -/
def writeByBookmark (w : Work σ) (rows : List Nat)
    (f : KeySet → Work σ → SlotId → Nat → RowResult × Work σ) :
    Except Error OperationOutcome × Work σ :=
  match w.keySet with
  | (.error e, w) => (.error e, w)
  | (.ok key, w) =>
      let (reports, w) := forRows (onBookmark (f key)) w rows
      let (outcome, w) := (w.onCursor Cursor.syncStatuses).finish reports
      (.ok outcome, w)

def updateByBookmark (w : Work σ) (supplied : Supplied) (rows : List Nat) :
    Except Error OperationOutcome × Work σ :=
  w.writeByBookmark rows fun key w id row => w.updateSlot key supplied id (row - 1)

def deleteByBookmark (w : Work σ) (rows : List Nat) : Except Error OperationOutcome × Work σ :=
  w.writeByBookmark rows fun key w id _ => w.deleteSlot key id

/-- The rows named by the bookmarks become the rowset. -/
def fetchByBookmark (w : Work σ) (rows : List Nat) : OperationOutcome × Work σ :=
  let c := w.cursor
  let (reports, w) :=
    forRows (onBookmark fun w id _ => (.done 0 (w.cursor.slotStatus id), w)) w rows
  let entries := rows.map fun row =>
    (w.bindings.bookmark? (row - 1)).bind c.bookmarks.resolve?
  let (outcome, w) :=
    (w.onCursor (Cursor.replaceRowset · entries (reports.map RowReport.status))).finish reports
  ({ outcome with rows := w.cursor.fetchedRows }, w)

end Work

end ScrollCursor
