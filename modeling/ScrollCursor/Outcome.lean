import ScrollCursor.Error
import ScrollCursor.Text.Hex
import ScrollCursor.Value

/-! # Results of fetches and positioned operations

Calls on several rows report one status for each row in rowset order and a return code for
the whole. A row that failed is also reported with its error; rows that succeeded stay done.
-/

namespace ScrollCursor

/-- A bookmark as the caller holds it: some bytes. -/
abbrev Bookmark := Text.Bytes

inductive RowStatus where
  | success
  | updated
  | deleted
  | added
  | error
  | noRow
  deriving DecidableEq, Inhabited

namespace RowStatus

def all : List RowStatus :=
  [.success, .updated, .deleted, .added, .error, .noRow]

def name : RowStatus → String
  | .success => "Success"
  | .updated => "Updated"
  | .deleted => "Deleted"
  | .added => "Added"
  | .error => "Error"
  | .noRow => "NoRow"

/-- The row can be shown. -/
def hasData : RowStatus → Bool
  | .success | .updated | .added => true
  | _ => false

end RowStatus

inductive ReturnCode where
  | success
  | successWithInfo
  | noData
  | needData
  | error
  deriving DecidableEq, Inhabited

namespace ReturnCode

def name : ReturnCode → String
  | .success => "Success"
  | .successWithInfo => "SuccessWithInfo"
  | .noData => "NoData"
  | .needData => "NeedData"
  | .error => "Error"

/-- The code for a call on several rows: an error only if every row failed. -/
def ofRows (succeeded failed : Nat) (warned : Bool) : ReturnCode :=
  if succeeded = 0 ∧ 0 < failed then .error
  else if 0 < failed ∨ warned then .successWithInfo
  else .success

def isSuccess : ReturnCode → Bool
  | .success | .successWithInfo => true
  | _ => false

end ReturnCode

/-- One row of a rowset as it is shown. -/
structure FetchedRow where
  status : RowStatus
  bookmark : Option Bookmark
  row : Option Row

structure FetchOutcome where
  returnCode : ReturnCode
  rowsFetched : Nat
  statuses : List RowStatus
  rows : List FetchedRow
  position : Nat
  atEnd : Bool

namespace FetchOutcome

/-- The outcome of a fetch that lands outside the result. -/
def noData (rowArraySize : Nat) (atEnd : Bool) : FetchOutcome where
  returnCode := .noData
  rowsFetched := 0
  statuses := List.replicate rowArraySize .noRow
  rows := []
  position := 0
  atEnd := atEnd

/-- The first row that is shown with its data. -/
def first? (o : FetchOutcome) : Option Row :=
  o.rows.findSome? FetchedRow.row

end FetchOutcome

/-- The error of one row. -/
structure RowError where
  row : Nat
  sqlstate : String
  nativeCode : Nat
  message : String
  deriving DecidableEq, Inhabited

namespace RowError

def ofError (row : Nat) (e : Error) : RowError :=
  ⟨row, e.sqlstate, e.nativeCode, e.message⟩

def text (e : RowError) : String :=
  "Row " ++ toString e.row ++ ": [" ++ e.sqlstate ++ "] " ++ e.message

end RowError

structure OperationOutcome where
  returnCode : ReturnCode := .success
  statuses : List RowStatus := []
  /-- How many rows the server has changed, as a machine word. -/
  affectedRows : Nat := 0
  errors : List RowError := []
  bookmarks : List (Option Bookmark) := []
  rows : List FetchedRow := []
  successCount : Nat := 0
  failureCount : Nat := 0

namespace OperationOutcome

/-- The outcome of a call that waits for data. -/
def needData : OperationOutcome :=
  { returnCode := .needData }

def isSuccess (o : OperationOutcome) : Bool :=
  o.errors.isEmpty && o.returnCode.isSuccess

def hasErrors (o : OperationOutcome) : Bool :=
  !o.errors.isEmpty

end OperationOutcome

end ScrollCursor
