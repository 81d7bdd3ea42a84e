import ScrollCursor.Statement.Calls
import ScrollCursor.Statement.Positioned

/-! # Calls as data

Every call that a caller can make on a statement, with its arguments, and every result that one can
have. What holds of all calls is said of these.
-/

namespace ScrollCursor

inductive StatementCall where
  | setOptions (options : StatementOptions)
  | bindColumn (ordinal : Nat) (values : List BoundValue)
  | bindBookmarks (bookmarks : List Bookmark)
  | unbindAll
  | execute (sql : String) (params : List Value)
  | fetch (orientation : Orientation)
  | getBookmark (row : Nat)
  | setPosition (row : Nat) (operation : RowOperation) (lock : LockType)
  | bulkOperation (operation : BulkOperation)
  | paramData
  | putData (piece : Value)
  | closeCursor
  | setCursorName (name : String)
  | cursorName

inductive Reply where
  | done
  | code (code : ReturnCode)
  | fetched (outcome : FetchOutcome)
  | operated (outcome : OperationOutcome)
  | data (request : DataRequest)
  | bookmark (b : Bookmark)
  | name (name : String)

namespace Session

variable {σ α : Type}

/-- The result of a call among those of all calls. -/
def replying (f : α → Reply) (result : Except Error α × Session σ) :
    Except Error Reply × Session σ :=
  (result.1.map f, result.2)

/-- The call is made. -/
def perform (s : Session σ) : StatementCall → Except Error Reply × Session σ
  | .setOptions options => replying .code (s.setOptions options)
  | .bindColumn ordinal values => replying (fun _ => .done) (s.bindColumn ordinal values)
  | .bindBookmarks bookmarks => replying (fun _ => .done) (s.bindBookmarks bookmarks)
  | .unbindAll => replying (fun _ => .done) s.unbindAll
  | .execute sql params => replying .code (s.execute sql params)
  | .fetch orientation => replying .fetched (s.fetch orientation)
  | .getBookmark row => replying .bookmark (s.getBookmark row)
  | .setPosition row operation lock => replying .operated (s.setPosition row operation lock)
  | .bulkOperation operation => replying .operated (s.bulkOperation operation)
  | .paramData => replying .data s.paramData
  | .putData piece => replying (fun _ => .done) (s.putData piece)
  | .closeCursor => replying (fun _ => .done) s.closeCursor
  | .setCursorName name => replying (fun _ => .done) (s.setCursorName name)
  | .cursorName => (.ok (.name s.cursorName.1), s.cursorName.2)

/-- One call after another. -/
def performAll (s : Session σ) (calls : List StatementCall) : Session σ :=
  calls.foldl (fun s call => (s.perform call).2) s

end Session

end ScrollCursor
