import ScrollCursor.Binding
import ScrollCursor.Buffer.Bookmarks
import ScrollCursor.Config
import ScrollCursor.Diagnostic
import ScrollCursor.Key.Resolution
import ScrollCursor.Server
import ScrollCursor.WriteBack.Synthesis

/-! # Open cursors

A cursor turns a result that can only be read forwards into one that can be scrolled. Rows
are pulled into a buffer when they are needed; the rowset is a window of so many rows over
the positions of the buffer. This module has the state of a cursor and what a caller sees
of it.
-/

namespace ScrollCursor

structure Cursor where
  kind : CursorKind
  dialect : Dialect
  options : StatementOptions
  descriptor : ResultDescriptor
  stream : RowStream
  buffer : RowBuffer := {}
  bookmarks : Bookmarks := {}
  /-- The position of the first row of the rowset, zero before the first row. -/
  start : Nat := 0
  afterLast : Bool := false
  rowset : List (Option SlotId) := []
  /-- The statuses of the rowset when it was last looked at. -/
  statuses : List RowStatus := []
  /-- The number of the current row in the rowset, counted from one. -/
  current : Option Nat := none
  /-- The key of the result, once it has been asked for. -/
  key : Option (Except Error KeySet) := none

namespace Cursor

/-- A cursor of a kind on a result of which nothing has been read. -/
def opened (kind : CursorKind) (dialect : Dialect) (options : StatementOptions)
    (result : ResultSet) : Cursor where
  kind := kind
  dialect := dialect
  options := options
  descriptor := result.descriptor
  stream := result.rows

/-- The number of rows of a whole rowset. -/
def size (c : Cursor) : Nat :=
  max c.options.rowArraySize 1

/-- The position that is shown, zero on either side of the result. -/
def position (c : Cursor) : Nat :=
  if c.afterLast then 0 else c.start

/-- The statuses filled up to a whole rowset. -/
def paddedStatuses (c : Cursor) : List RowStatus :=
  c.statuses ++ List.replicate (c.size - c.statuses.length) .noRow

/-- The slot of a row of the rowset, counted from one. -/
def slotOf? (c : Cursor) (row : Nat) : Option SlotId :=
  if row = 0 then none else c.rowset[row - 1]?.join

theorem slotOf?_congr {c d : Cursor} (h : d.rowset = c.rowset) : d.slotOf? = c.slotOf? := by
  funext row
  rw [slotOf?, slotOf?, h]

/-- The status of a slot, of a missing one that of no row. -/
def slotStatus (c : Cursor) (id : SlotId) : RowStatus :=
  ((c.buffer.slot? id).map RowSlot.status).getD .noRow

/-- The status of a rowset entry; an entry without a row is in error. -/
def entryStatus (c : Cursor) (entry : Option SlotId) : RowStatus :=
  ((entry.bind c.buffer.slot?).map RowSlot.status).getD .error

/-- A row under the names of the result columns. -/
def named (c : Cursor) (slot : RowSlot) : Row :=
  ⟨c.descriptor.names, slot.values⟩

/-- A rowset entry as it is shown under a status. -/
def fetchedRow (c : Cursor) (entry : Option SlotId) (status : RowStatus) : FetchedRow where
  status := status
  bookmark := if c.options.useBookmarks then entry.bind c.bookmarks.ofSlot? else none
  row :=
    if c.options.retrieveData && status.hasData then
      (entry.bind c.buffer.slot?).map c.named
    else none

/-- The rowset as it is shown. -/
def fetchedRows (c : Cursor) : List FetchedRow :=
  c.rowset.zipWith c.fetchedRow c.statuses

/-- The values of a row of the rowset, counted from one, unless it has been deleted. -/
def row? (c : Cursor) (row : Nat) : Option Row := do
  let id ← c.slotOf? row
  let slot ← c.buffer.slot? id
  if slot.isDeleted then none else some (c.named slot)

/-- What the server holds of the current row, unless it has been deleted. -/
def currentImage? (c : Cursor) : Option Record := do
  let row ← c.current
  let id ← c.slotOf? row
  let slot ← c.buffer.slot? id
  if slot.isDeleted then none else some slot.image

/-- One more entry of the rowset has been looked at: unless its row is deleted it gets a
bookmark. -/
def mintEntry (c : Cursor) (m : Bookmarks) (entry : Option SlotId) : Bookmarks :=
  match entry with
  | none => m
  | some id => if c.entryStatus entry = .deleted then m else (m.mint id).2

/-- The statuses brought up to date, with bookmarks for the rows that are there. -/
def syncStatuses (c : Cursor) : Cursor :=
  { c with
    statuses := c.rowset.map c.entryStatus
    bookmarks :=
      if c.options.useBookmarks then c.rowset.foldl c.mintEntry c.bookmarks else c.bookmarks }

/-- Other entries take the place of the rowset; the position stays. -/
def replaceRowset (c : Cursor) (entries : List (Option SlotId)) (statuses : List RowStatus) :
    Cursor :=
  { c with
    rowset := entries
    statuses := statuses
    current := if entries.isEmpty then none else some 1
    afterLast := false }

/-- Without a rowset. -/
def clearRowset (c : Cursor) : Cursor :=
  { c with rowset := [], statuses := [], current := none }

def modifySlot (c : Cursor) (id : SlotId) (f : RowSlot → RowSlot) : Cursor :=
  { c with buffer := c.buffer.modify id f }

/-- The row of a slot is gone, and so is its bookmark. -/
def markDeleted (c : Cursor) (id : SlotId) : Cursor :=
  { c with
    buffer := c.buffer.setStatus id .deleted
    bookmarks := c.bookmarks.retire id }

end Cursor

/-- A cursor at work: with the arrays bound to its statement, the records of the call and
the link to the server. -/
structure Work (σ : Type) where
  cursor : Cursor
  bindings : Bindings
  diagnostics : Diagnostics
  link : Link σ

namespace Work

variable {σ : Type}

def onCursor (w : Work σ) (f : Cursor → Cursor) : Work σ :=
  { w with cursor := f w.cursor }

/-- The key of the result as the server's metadata tells it. -/
def resolveKey (w : Work σ) : Except Error KeySet × Link σ :=
  match w.cursor.descriptor.singleTable with
  | .error e => (.error e, w.link)
  | .ok table =>
      match w.link.metadata table with
      | (.error e, link) => (.error e, link)
      | (.ok m, link) => (KeySet.ofTable w.cursor.descriptor table m, link)

/-- The key of the result. It is resolved once, and an error is remembered like a key. -/
def keySet (w : Work σ) : Except Error KeySet × Work σ :=
  match w.cursor.key with
  | some key => (key, w)
  | none =>
      let (key, link) := w.resolveKey
      (key, { w with cursor := { w.cursor with key := some key }, link := link })

end Work

end ScrollCursor
