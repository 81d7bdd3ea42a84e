import ScrollCursor.Cursor.Basic

/-! # Reading rows again

A dynamic cursor reads the rows of its rowset again by their keys. A row that is found
takes the server's values, one that is not found is deleted, and one that could not be read
is in error until a later reading succeeds.
-/

namespace ScrollCursor

namespace Work

variable {σ : Type}

/-- The slot with the values that the server gave for some ordinals. -/
def rereadSlot (ordinals : List Nat) (values : Record) (slot : RowSlot) : RowSlot :=
  let read := slot.reload (Record.assign slot.values (ordinals.zip values))
  if read.status = .error then read.withStatus .success else read

/-- The server's values for a row with an image, with the ordinals they belong to. -/
def readByKey (w : Work σ) (key : KeySet) (image : Record) :
    Except Error (Option (Record × List Nat)) × Link σ :=
  let forUpdate := w.cursor.options.concurrency == .lock
  match w.cursor.dialect.selectByKey key w.cursor.descriptor image forUpdate with
  | .error e => (.error e, w.link)
  | .ok (request, ordinals) =>
      match w.link.queryRow request with
      | (.error e, link) => (.error e, link)
      | (.ok found, link) => (.ok (found.map fun values => (values, ordinals)), link)

/-- One row of the rowset is read again, unless it is deleted. -/
def rereadRow (key : KeySet) (w : Work σ) (row : Nat) : Work σ :=
  match w.cursor.slotOf? row with
  | none => w
  | some id =>
      match w.cursor.buffer.slot? id with
      | none => w
      | some slot =>
          if slot.isDeleted then w
          else
            match w.readByKey key slot.image with
            | (.ok (some (values, ordinals)), link) =>
                { w with
                  cursor := w.cursor.modifySlot id (rereadSlot ordinals values)
                  link := link }
            | (.ok none, link) => { w with cursor := w.cursor.markDeleted id, link := link }
            | (.error e, link) =>
                { w with
                  cursor := w.cursor.modifySlot id (RowSlot.withStatus · .error)
                  diagnostics := w.diagnostics ++ [(Diagnostic.ofError e).forRow row]
                  link := link }

/-- Some rows of the rowset are read again in order. Without a key nothing can be read. -/
def reread (w : Work σ) (rows : List Nat) : Work σ :=
  match w.keySet with
  | (.error _, w) => w
  | (.ok key, w) => rows.foldl (rereadRow key) w

/-- Some rows are read again if the cursor does so, and shown. -/
def refresh (w : Work σ) (rows : List Nat) : List FetchedRow × Work σ :=
  let w := if w.cursor.kind.rereads then w.reread rows else w
  let w := w.onCursor Cursor.syncStatuses
  let shown := rows.map fun row =>
    let status := if row = 0 then .noRow else w.cursor.statuses[row - 1]?.getD .noRow
    w.cursor.fetchedRow (w.cursor.slotOf? row) status
  (shown, w)

end Work

end ScrollCursor
