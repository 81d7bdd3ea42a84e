import ScrollCursor.Positioned.Write

/-! # Adding rows

An added row is inserted with the values bound for it and joins the buffer without a
position. What the server holds of it is put together from those values, NULL for the
columns left out, and the number the server gave where the key is one whole number.
-/

namespace ScrollCursor

namespace KeySet

/-- The column of a true key that the server may number by itself. -/
def numberedColumn? (key : KeySet) : Option Nat :=
  match key.columns with
  | [c] => if key.isUnique && c.sqlType.isWhole then some c.ordinal else none
  | _ => none

end KeySet

/-- A number of 64 bits read as a signed one. -/
def signed64 (n : Nat) : Int :=
  (n : Int).bmod (1 <<< 64)

/-- What the server holds of a row that was inserted with some values. -/
def insertedImage (width : Nat) (values : List (Nat × Value)) (numbered generated : Option Nat) :
    Record :=
  let image := Record.assign (List.replicate width .null) values
  match numbered, generated with
  | some ordinal, some n =>
      if (image[ordinal]?.getD .null).isNull then image.set ordinal (.integer (signed64 n))
      else image
  | _, _ => image

namespace Cursor

/-- One more row without a position, with its bookmark if the cursor has bookmarks. -/
def addRow (c : Cursor) (values : Record) : Option Bookmark × Cursor :=
  let id := c.buffer.nextSlot
  let c := { c with buffer := c.buffer.pushDetached values .added }
  if c.options.useBookmarks then
    let (b, bookmarks) := c.bookmarks.mint id
    (some b, { c with bookmarks := bookmarks })
  else (none, c)

end Cursor

namespace Work

variable {σ : Type}

/-- One row is inserted and kept, with the values of its row of the bound arrays. -/
def insertRow (w : Work σ) (supplied : Supplied) (table : TableRef) (numbered : Option Nat)
    (row : Nat) : RowResult × Option Bookmark × Work σ :=
  let d := w.cursor.descriptor
  match w.bindings.assignments supplied (row - 1) d table with
  | .error e => (.failed e, none, w)
  | .ok values =>
      match w.cursor.dialect.insert table d values with
      | .error e => (.failed e, none, w)
      | .ok request =>
          match w.link.execute request with
          | (.error e, link) => (.failed e, none, { w with link := link })
          | (.ok answer, link) =>
              let image := insertedImage d.length values numbered answer.generated
              let (bookmark, cursor) := w.cursor.addRow image
              (.done answer.affected .added, bookmark, { w with cursor := cursor, link := link })

/-- One row is added, and its bookmark is bound for it. -/
def addOne (supplied : Supplied) (table : TableRef) (numbered : Option Nat) (w : Work σ)
    (row : Nat) : RowResult × Option Bookmark × Work σ :=
  let (result, bookmark, w) := w.insertRow supplied table numbered row
  (result, bookmark, { w with bindings := w.bindings.setBookmark (row - 1) bookmark })

/-- The rows of the bound arrays are added in turn. -/
def addEach (supplied : Supplied) (table : TableRef) (numbered : Option Nat) :
    Work σ → List Nat → List (RowReport × Option Bookmark) × Work σ
  | w, [] => ([], w)
  | w, row :: rest =>
      let (result, bookmark, w) := addOne supplied table numbered w row
      let (added, w) := addEach supplied table numbered w rest
      ((⟨row, result, .noRow⟩, bookmark) :: added, w)

/-- Rows are added to the only table of the result. -/
def addRows (w : Work σ) (supplied : Supplied) (rows : List Nat) :
    Except Error OperationOutcome × Work σ :=
  match w.cursor.descriptor.singleTable with
  | .error e => (.error e, w)
  | .ok table =>
      let (key, w) := w.keySet
      let numbered := key.toOption.bind KeySet.numberedColumn?
      let (added, w) := addEach supplied table numbered w rows
      let (outcome, w) := w.finish (added.map Prod.fst)
      (.ok { outcome with bookmarks := added.map Prod.snd }, w)

end Work

end ScrollCursor
