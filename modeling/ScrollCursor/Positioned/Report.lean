import ScrollCursor.Diagnostic
import ScrollCursor.Number.Word
import ScrollCursor.Outcome

/-! # Reports of single rows

A call on several rows makes one report for each row. The outcome of the call and its
diagnostic records are computed from the reports alone, in row order.
-/

namespace ScrollCursor

/-- What became of one row. -/
inductive RowResult where
  | done (affected : Nat) (status : RowStatus)
  /-- The server found no row to change. -/
  | noMatch
  /-- There was nothing to do. -/
  | skipped
  | failed (e : Error)

structure RowReport where
  row : Nat
  result : RowResult
  /-- The status of the row before the call. -/
  before : RowStatus

namespace RowReport

/-- The status that is reported for the row. -/
def status (r : RowReport) : RowStatus :=
  match r.result with
  | .done _ status => status
  | .noMatch | .skipped => r.before
  | .failed _ => .error

def affected (r : RowReport) : Nat :=
  match r.result with
  | .done affected _ => affected
  | _ => 0

def succeeded (r : RowReport) : Bool :=
  match r.result with
  | .done _ _ => true
  | _ => false

def error? (r : RowReport) : Option RowError :=
  match r.result with
  | .failed e => some (.ofError r.row e)
  | _ => none

def moreThanOneRow : Diagnostic :=
  .warning "01S04" "More than one row updated/deleted"

def noRows : Diagnostic :=
  .warning "01S03" "No rows updated/deleted"

def errorInRow : Diagnostic :=
  .warning "01S01" "Error in row"

/-- The row calls for a warning although it did not fail. -/
def warns (r : RowReport) : Bool :=
  match r.result with
  | .done affected _ => 1 < affected
  | .noMatch => true
  | _ => false

/-- The record of the row, if it calls for one. -/
def diagnostic? (r : RowReport) : Option Diagnostic :=
  match r.result with
  | .done affected _ => if 1 < affected then some (moreThanOneRow.forRow r.row) else none
  | .noMatch => some (noRows.forRow r.row)
  | .skipped => none
  | .failed e => some ((Diagnostic.ofError e).forRow r.row)

end RowReport

namespace OperationOutcome

/-- The outcome of a call with the given reports. -/
def ofReports (reports : List RowReport) : OperationOutcome :=
  let succeeded := reports.countP RowReport.succeeded
  let errors := reports.filterMap RowReport.error?
  { returnCode := .ofRows succeeded errors.length (reports.any RowReport.warns)
    statuses := reports.map RowReport.status
    affectedRows := word (reports.foldr (fun report n => report.affected + n) 0)
    errors := errors
    successCount := succeeded
    failureCount := errors.length }

end OperationOutcome

namespace Diagnostics

/-- The records of a call with the given reports: those of its rows, and one for the call
if only some of them failed. -/
def ofReports (reports : List RowReport) : Diagnostics :=
  let o := OperationOutcome.ofReports reports
  reports.filterMap RowReport.diagnostic? ++
    if 0 < o.failureCount ∧ o.returnCode = .successWithInfo then [RowReport.errorInRow] else []

end Diagnostics

end ScrollCursor
