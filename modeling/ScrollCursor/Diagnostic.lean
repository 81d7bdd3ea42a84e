import ScrollCursor.Error

/-! # Diagnostic records

Warnings and failures of single rows are recorded on the statement instead of failing the
call. A record names the row it is about, if it is about one.
-/

namespace ScrollCursor

structure Diagnostic where
  sqlstate : String
  nativeCode : Nat
  message : String
  row : Option Nat
  deriving DecidableEq, Inhabited

namespace Diagnostic

/-- A record of the engine's own. -/
def warning (sqlstate message : String) : Diagnostic :=
  ⟨sqlstate, 0, message, none⟩

def ofError (e : Error) : Diagnostic :=
  ⟨e.sqlstate, e.nativeCode, e.message, none⟩

def forRow (d : Diagnostic) (row : Nat) : Diagnostic :=
  { d with row := some row }

/-- Warnings are the states of class `01`. -/
def isWarning (d : Diagnostic) : Bool :=
  d.sqlstate.toList.take 2 == ['0', '1']

def text (d : Diagnostic) : String :=
  let place :=
    match d.row with
    | some row => "Row " ++ toString row ++ ": "
    | none => ""
  place ++ "[" ++ d.sqlstate ++ "] " ++ d.message

end Diagnostic

/-- The records of a statement, in the order they were made. -/
abbrev Diagnostics := List Diagnostic

namespace Diagnostics

def contains (ds : Diagnostics) (sqlstate : String) : Bool :=
  ds.any fun d => d.sqlstate == sqlstate

end Diagnostics

end ScrollCursor
