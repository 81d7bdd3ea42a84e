import ScrollCursor.Cursor.Reread
import ScrollCursor.Cursor.Target

/-! # Fetching

A fetch finds where the next rowset begins, pulls the rows it needs and puts the rowset
there. Rows are pulled only on demand; a failure to deliver one leaves the rows before it
in the buffer and the rowset in its place. A cursor that only goes forwards has by then let
go of the rows behind.
-/

namespace ScrollCursor

/-- How many rows a call needs. -/
inductive Demand where
  | upTo (position : Nat)
  /-- Every row of the result. -/
  | everything
  deriving DecidableEq

namespace Demand

/-- So many known rows are not enough. -/
def exceeds (demand : Demand) (known : Nat) : Bool :=
  match demand with
  | .upTo position => known < position
  | .everything => true

end Demand

/-- A stream and a buffer after some rows were asked for. -/
structure Pulled where
  stream : RowStream
  buffer : RowBuffer
  asked : Nat
  failure : Option Error

namespace Pulled

/-- The buffer with which pulling stops, if it stops before the next row. -/
def settled? (limit : Option Nat) (demand : Demand) (buffer : RowBuffer) : Option RowBuffer :=
  if buffer.exhausted || !demand.exceeds buffer.count then some buffer
  else if limit.any (· ≤ buffer.count) then some buffer.markExhausted
  else none

/-- Rows are moved from the stream to the buffer until the demand is met, the result is at
its end, the limit is reached or a row cannot be delivered. -/
def run (limit : Option Nat) (demand : Demand) : RowStream → RowBuffer → Nat → Pulled
  | [], buffer, asked =>
      match settled? limit demand buffer with
      | some settled => ⟨[], settled, asked, none⟩
      | none => ⟨[], buffer.markExhausted, asked + 1, none⟩
  | item :: rest, buffer, asked =>
      match settled? limit demand buffer with
      | some settled => ⟨item :: rest, settled, asked, none⟩
      | none =>
          match item with
          | .error e => ⟨rest, buffer, asked + 1, some e⟩
          | .ok values => run limit demand rest (buffer.append values) (asked + 1)

end Pulled

namespace Cursor

/-- The move that an orientation stands for. A retired bookmark still tells where its row
was. -/
def move (c : Cursor) : Orientation → Except Error Move
  | .next => .ok .next
  | .prior => .ok .prior
  | .first => .ok .first
  | .last => .ok .last
  | .absolute n => .ok (.absolute n)
  | .relative n => .ok (.relative n)
  | .bookmark b offset =>
      if !c.options.useBookmarks then .error .bookmarksDisabled
      else
        match ((c.bookmarks.locate? b).bind c.buffer.slot?).bind RowSlot.position with
        | some position => .ok (.fromRow position offset)
        | none => .error (.bookmarkNotFound b.hex)

def moveBeforeFirst (c : Cursor) : Cursor :=
  { c.clearRowset with start := 0, afterLast := false }

def moveAfterLast (c : Cursor) : Cursor :=
  { c.clearRowset with afterLast := true }

/-- A cursor that only goes forwards lets go of the rows behind a position that is not yet
known. -/
def dropBehind (c : Cursor) (position : Nat) : Cursor :=
  if !c.kind.isScrollable && c.buffer.count < position then
    { c with
      buffer := c.buffer.discardThrough c.buffer.count
      bookmarks := c.bookmarks.forgetAll }
  else c

/-- The rowset is put at a position as far as rows are known. -/
def placeRowset (c : Cursor) (position : Nat) : Cursor :=
  { c with
    rowset := c.buffer.slotsBetween position (min (position + c.size - 1) c.buffer.count)
    start := position
    afterLast := false
    current := some 1 }

/-- The rowset reaches the end of the result. -/
def atEnd (c : Cursor) : Bool :=
  c.buffer.exhausted && c.buffer.count ≤ c.start + c.size - 1

/-- The outcome of a fetch that found a rowset. -/
def fetchOutcome (c : Cursor) : FetchOutcome where
  returnCode :=
    .ofRows (c.statuses.countP RowStatus.hasData) (c.statuses.count .error) false
  rowsFetched := c.statuses.countP RowStatus.hasData
  statuses := c.paddedStatuses
  rows := c.fetchedRows
  position := c.start
  atEnd := c.atEnd

end Cursor

namespace Work

variable {σ : Type}

/-- Rows are pulled as far as they are needed. -/
def pull (w : Work σ) (demand : Demand) : Option Error × Work σ :=
  let p := Pulled.run w.cursor.options.maxRows demand w.cursor.stream w.cursor.buffer 0
  (p.failure,
    { w with
      cursor := { w.cursor with stream := p.stream, buffer := p.buffer }
      link := w.link.pulled p.asked })

/-- The fetch lands after the last row. -/
def fetchAfterLast (w : Work σ) : Except Error FetchOutcome × Work σ :=
  (.ok (.noData w.cursor.size true), w.onCursor Cursor.moveAfterLast)

/-- The rows of a rowset that has just been placed are brought up to date and shown. -/
def showRowset (w : Work σ) : Except Error FetchOutcome × Work σ :=
  let rows := List.range' 1 w.cursor.rowset.length
  let w := if w.cursor.kind.rereads then w.reread rows else w
  let w := w.onCursor Cursor.syncStatuses
  (.ok w.cursor.fetchOutcome, w)

/-- The fetch lands at a position, or after the last row if the result is shorter. -/
def fetchAt (w : Work σ) (position : Nat) : Except Error FetchOutcome × Work σ :=
  let w := w.onCursor (Cursor.dropBehind · position)
  match w.pull (.upTo (position + w.cursor.size - 1)) with
  | (some e, w) => (.error e, w)
  | (none, w) =>
      if w.cursor.buffer.count < position then w.fetchAfterLast
      else (w.onCursor (Cursor.placeRowset · position)).showRowset

/-- The fetch follows a move. -/
def fetchMove (w : Work σ) (move : Move) : Except Error FetchOutcome × Work σ :=
  let counted :=
    if move.countsFromEnd w.cursor.afterLast then w.pull .everything else (none, w)
  match counted with
  | (some e, w) => (.error e, w)
  | (none, w) =>
      let c := w.cursor
      match move.target c.size c.start c.afterLast c.buffer.count with
      | .beforeFirst => (.ok (.noData c.size false), w.onCursor Cursor.moveBeforeFirst)
      | .afterLast => w.fetchAfterLast
      | .row position => w.fetchAt position

/-- A rowset is fetched. A cursor that cannot scroll only goes to the next one. -/
def fetch (w : Work σ) (orientation : Orientation) : Except Error FetchOutcome × Work σ :=
  if !w.cursor.kind.isScrollable && orientation != .next then
    (.error (.fetchType "wrong fetch type with forward-only cursor"), w)
  else
    match w.cursor.move orientation with
    | .error e => (.error e, w)
    | .ok move => w.fetchMove move

end Work

end ScrollCursor
