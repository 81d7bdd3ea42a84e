import ScrollCursor.Cursor.Basic

/-! # Positioned operations

The operations on rows of the rowset and on rows named by bookmarks, and what a cursor must
be like for them. The first objection in the order of this list is the one that is raised:
the lock, the kind of the cursor, its concurrency, the rowset, the row.
-/

namespace ScrollCursor

/-- An operation on a row of the rowset or on all of them. -/
inductive RowOperation where
  | position
  | refresh
  | update
  | delete
  | add
  deriving DecidableEq, Inhabited

namespace RowOperation

def all : List RowOperation :=
  [.position, .refresh, .update, .delete, .add]

def name : RowOperation → String
  | .position => "Position"
  | .refresh => "Refresh"
  | .update => "Update"
  | .delete => "Delete"
  | .add => "Add"

/-- The operation changes the table. -/
def writes : RowOperation → Bool
  | .update | .delete | .add => true
  | _ => false

/-- The operation takes values from the bound arrays. -/
def takesValues : RowOperation → Bool
  | .update | .add => true
  | _ => false

end RowOperation

/-- An operation on as many rows as bound arrays have. -/
inductive BulkOperation where
  | add
  | updateByBookmark
  | deleteByBookmark
  | fetchByBookmark
  deriving DecidableEq, Inhabited

namespace BulkOperation

def all : List BulkOperation :=
  [.add, .updateByBookmark, .deleteByBookmark, .fetchByBookmark]

def name : BulkOperation → String
  | .add => "Add"
  | .updateByBookmark => "UpdateByBookmark"
  | .deleteByBookmark => "DeleteByBookmark"
  | .fetchByBookmark => "FetchByBookmark"

def writes : BulkOperation → Bool
  | .fetchByBookmark => false
  | _ => true

def takesValues : BulkOperation → Bool
  | .add | .updateByBookmark => true
  | _ => false

end BulkOperation

inductive LockType where
  | noChange
  | exclusive
  | unlock
  deriving DecidableEq, Inhabited

namespace LockType

def all : List LockType :=
  [.noChange, .exclusive, .unlock]

def name : LockType → String
  | .noChange => "NoChange"
  | .exclusive => "Exclusive"
  | .unlock => "Unlock"

end LockType

namespace Cursor

/-- A row for a new row is one of a whole rowset; zero stands for all of them. -/
def validateAddedRow (c : Cursor) (row : Nat) : Except Error Unit :=
  if c.size < row then .error (.rowOutOfRange row c.size) else .ok ()

/-- An existing row is one of the rowset; zero stands for all of them, unless the operation
is for one row only. -/
def validateRow (c : Cursor) (row : Nat) (operation : RowOperation) : Except Error Unit :=
  if c.rowset.isEmpty then .error (.cursorState "cursor is not positioned on a rowset")
  else if operation = .position ∧ row = 0 then
    .error (.cursorPosition "cannot position on row 0")
  else if c.rowset.length < row then .error (.rowOutOfRange row c.rowset.length)
  else .ok ()

/-- The operation is open to the cursor on a row of its rowset. -/
def validate (c : Cursor) (row : Nat) (operation : RowOperation) (lock : LockType) :
    Except Error Unit :=
  if lock ≠ .noChange then
    .error (.notSupported ("lock type " ++ lock.name ++ " is not supported"))
  else if !c.kind.isScrollable && operation != .position then
    .error (.cursorPosition "forward-only cursors only support positioning")
  else if c.options.concurrency = .readOnly ∧ operation.writes then
    .error (.readOnly (Text.upper operation.name))
  else if operation = .add then c.validateAddedRow row
  else c.validateRow row operation

/-- The operation by bookmarks is open to the cursor. -/
def validateBulk (c : Cursor) (operation : BulkOperation) : Except Error Unit :=
  if !c.kind.isScrollable then
    .error (.cursorPosition "bulk operations need a scrollable cursor")
  else if c.options.concurrency = .readOnly ∧ operation.writes then
    .error (.readOnly (Text.upper operation.name))
  else .ok ()

end Cursor

end ScrollCursor
