import ScrollCursor.Statement.Basic

/-! # Positioned calls on a statement

A positioned write either runs at once or, if values are to be supplied for its only row,
waits for them. Each value may come in pieces; when the last column is done the write runs
as if the values had been bound.
-/

namespace ScrollCursor

/-- What a call that supplies values is told. -/
inductive DataRequest where
  | need (column : Nat)
  | done (outcome : OperationOutcome)

namespace Session

variable {σ : Type}

/-- The operation runs on the open cursor. -/
def run (s : Session σ) (operation : Operation) (supplied : Supplied) :
    Except Error OperationOutcome × Session σ :=
  s.withCursor fun c s =>
    let answer :=
      match operation with
      | .setPosition row operation => (s.work c).setPosition row operation supplied
      | .bulk operation => (s.work c).bulk operation supplied
    match answer with
    | (.error e, w) => (.error e, s.afterWork w)
    | (.ok outcome, w) =>
        let s := s.afterWork w
        let s :=
          if operation.writes then
            s.onStatement fun t => { t with rowCount := some outcome.affectedRows }
          else s
        (.ok outcome, s.publishNamed)

/-- The rows of the bound arrays that an operation takes values from: the first of them,
counted from zero, and their number. -/
def boundRows (c : Cursor) : Operation → Nat × Nat
  | .setPosition 0 .add => (0, c.size)
  | .setPosition 0 _ => (0, c.rowset.length)
  | .setPosition row _ => (row - 1, 1)
  | .bulk _ => (0, c.size)

/-- The columns to be supplied before an operation can run. Only an operation on a single
row can wait. -/
def awaited (b : Bindings) (c : Cursor) (operation : Operation) : Except Error (List Nat) :=
  if !operation.takesValues then .ok []
  else
    let (first, count) := boundRows c operation
    if (List.range' first count).all fun row => (b.dataAtExecColumns row).isEmpty then .ok []
    else if 1 < count then
      .error (.notSupported "data-at-execution columns in a multi-row operation")
    else .ok (b.dataAtExecColumns first)

/-- The operation runs, or waits for the values of some columns. -/
def runOrWait (s : Session σ) (c : Cursor) (operation : Operation) :
    Except Error OperationOutcome × Session σ :=
  match awaited s.statement.bindings c operation with
  | .error e => (.error e, s)
  | .ok [] => s.run operation []
  | .ok columns =>
      (.ok .needData,
        s.onStatement fun t =>
          { t with pending := some { operation := operation, columns := columns } })

/-- A positioned operation on a row of the rowset, or on all of them for row zero. -/
def setPosition (s : Session σ) (row : Nat) (operation : RowOperation) (lock : LockType) :
    Except Error OperationOutcome × Session σ :=
  s.call fun s => s.withCursor fun c s =>
    match c.validate row operation lock with
    | .error e => (.error e, s)
    | .ok () => s.runOrWait c (.setPosition row operation)

/-- An operation on the rows of bound arrays. -/
def bulkOperation (s : Session σ) (operation : BulkOperation) :
    Except Error OperationOutcome × Session σ :=
  s.call fun s => s.withCursor fun c s => s.runOrWait c (.bulk operation)

def nothingPending : Error :=
  .functionSequence "no data-at-execution operation is pending"

/-- The next column to be supplied; after the last one the operation runs. -/
def paramData (s : Session σ) : Except Error DataRequest × Session σ :=
  match s.statement.pending with
  | none => (.error nothingPending, s)
  | some p =>
      match p.columns[p.next]? with
      | some column =>
          (.ok (.need column),
            s.onStatement fun t => { t with pending := some { p with current := some p.next } })
      | none =>
          let s := s.onStatement fun t => { t with pending := none, diagnostics := [] }
          match s.run p.operation p.supplied with
          | (.error e, s) => (.error e, s)
          | (.ok outcome, s) => (.ok (.done outcome), s)

/-- One piece of the value of the column that was asked for. -/
def putData (s : Session σ) (piece : Value) : Except Error Unit × Session σ :=
  match s.statement.pending with
  | none => (.error nothingPending, s)
  | some p =>
      match p.column? with
      | none => (.error (.functionSequence "param_data has not requested a column"), s)
      | some column =>
          match p.put column piece with
          | .error e => (.error e, s)
          | .ok p => (.ok (), s.onStatement fun t => { t with pending := some p })

end Session

end ScrollCursor
