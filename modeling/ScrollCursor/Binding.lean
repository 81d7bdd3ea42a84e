import ScrollCursor.Outcome

/-! # Bound arrays

The caller binds one array of values to each column that a write takes its values from, an
entry for each row of the rowset, and an array of bookmarks for operations by bookmark.
-/

namespace ScrollCursor

inductive BoundValue where
  | value (v : Value)
  /-- The column is left out of the write. -/
  | ignore
  /-- The value will be supplied while the write waits. -/
  | dataAtExec

instance : Inhabited BoundValue := ⟨.ignore⟩

structure Bindings where
  /-- The arrays of the columns by ordinal. -/
  columns : List (Option (List BoundValue)) := []
  bookmarks : Option (List (Option Bookmark)) := none

namespace Bindings

/-- A list made long enough to have an element at an index. -/
def extended {α : Type} (xs : List (Option α)) (i : Nat) : List (Option α) :=
  xs ++ List.replicate (i + 1 - xs.length) none

def bindColumn (b : Bindings) (ordinal : Nat) (values : List BoundValue) : Bindings :=
  { b with columns := (extended b.columns ordinal).set ordinal (some values) }

def unbindColumn (b : Bindings) (ordinal : Nat) : Bindings :=
  { b with columns := b.columns.set ordinal none }

def bindBookmarks (b : Bindings) (bookmarks : List Bookmark) : Bindings :=
  { b with bookmarks := some (bookmarks.map some) }

def isBound (b : Bindings) (ordinal : Nat) : Bool :=
  (b.columns[ordinal]?.map Option.isSome).getD false

/-- The value bound for a column and a row, both counted from zero. What is not bound is
ignored. -/
def value (b : Bindings) (ordinal row : Nat) : BoundValue :=
  match b.columns[ordinal]? with
  | some (some values) => values[row]?.getD .ignore
  | _ => .ignore

def bookmark? (b : Bindings) (row : Nat) : Option Bookmark := do
  let bookmarks ← b.bookmarks
  let entry ← bookmarks[row]?
  entry

def bookmarkRows (b : Bindings) : Nat :=
  (b.bookmarks.map List.length).getD 0

/-- The bookmark array after a row got a bookmark or lost it. Without a bookmark no array
comes into being. -/
def setBookmark (b : Bindings) (row : Nat) (bookmark : Option Bookmark) : Bindings :=
  if bookmark.isNone && b.bookmarks.isNone then b
  else { b with bookmarks := some ((extended (b.bookmarks.getD []) row).set row bookmark) }

/-- The columns of a row whose values will be supplied later. -/
def dataAtExecColumns (b : Bindings) (row : Nat) : List Nat :=
  (List.range b.columns.length).filter fun ordinal =>
    match b.value ordinal row with
    | .dataAtExec => true
    | _ => false

end Bindings

end ScrollCursor
