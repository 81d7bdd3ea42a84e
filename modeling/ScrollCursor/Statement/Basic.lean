import ScrollCursor.Names
import ScrollCursor.Positioned.Dispatch
import ScrollCursor.Sql.Positioned

/-! # Statements

A statement has options, bound arrays, at most one open cursor and the records of its last
call. While a write waits for values supplied piece by piece, every call except those that
supply them or close the cursor is refused. A session is a statement together with what it
shares with the other statements of its connection.
-/

namespace ScrollCursor

/-- A positioned operation as it was called. -/
inductive Operation where
  | setPosition (row : Nat) (operation : RowOperation)
  | bulk (operation : BulkOperation)
  deriving DecidableEq, Inhabited

namespace Operation

/-- The operation changes the table. -/
def writes : Operation → Bool
  | .setPosition _ operation => operation.writes
  | .bulk operation => operation.writes

/-- The operation takes values from the bound arrays. -/
def takesValues : Operation → Bool
  | .setPosition _ operation => operation.takesValues
  | .bulk operation => operation.takesValues

end Operation

/-- An operation that waits for the values of some columns. -/
structure Continuation where
  operation : Operation
  columns : List Nat
  /-- The index in `columns` of the column whose value is being supplied. -/
  current : Option Nat := none
  values : Supplied := []

namespace Continuation

/-- The column whose value is being supplied. -/
def column? (p : Continuation) : Option Nat := do
  let i ← p.current
  p.columns[i]?

/-- The index of the column to be supplied next. -/
def next (p : Continuation) : Nat :=
  match p.current with
  | none => 0
  | some i => i + 1

/-- A value for every column that was waited for, NULL where none was supplied. -/
def supplied (p : Continuation) : Supplied :=
  p.columns.map fun column => (column, (p.values.lookup column).getD .null)

/-- One more piece of the value of a column. -/
def put (p : Continuation) (column : Nat) (piece : Value) : Except Error Continuation :=
  match p.values.lookup column with
  | none => .ok { p with values := p.values ++ [(column, piece)] }
  | some value =>
      match value.append? piece with
      | some whole =>
          .ok { p with
            values := p.values.map fun entry =>
              if entry.1 = column then (column, whole) else entry }
      | none =>
          .error (.conversion
            ("column " ++ toString column ++ " cannot take a " ++ piece.kind ++
              " value in pieces"))

end Continuation

structure Statement where
  id : Nat
  options : StatementOptions := {}
  bindings : Bindings := {}
  cursor : Option Cursor := none
  diagnostics : Diagnostics := []
  /-- The number of rows that the last write changed. -/
  rowCount : Option Nat := none
  pending : Option Continuation := none
  /-- The statement has taken a cursor name. -/
  named : Bool := false

namespace Statement

/-- The values of a row of the rowset of the open cursor. -/
def row? (s : Statement) (row : Nat) : Option Row :=
  s.cursor.bind (Cursor.row? · row)

/-- The rowset of the open cursor. -/
def rowset (s : Statement) : List FetchedRow :=
  (s.cursor.map Cursor.fetchedRows).getD []

end Statement

/-- A statement with what its connection shares: the options, the cursor names and the link
to the server. -/
structure Session (σ : Type) where
  statement : Statement
  config : Config
  names : CursorNames
  link : Link σ

namespace Session

variable {σ α : Type}

def onStatement (s : Session σ) (f : Statement → Statement) : Session σ :=
  { s with statement := f s.statement }

/-- A call begins: it is refused while values are awaited, and else the records of the call
before are dropped. -/
def call (s : Session σ) (f : Session σ → Except Error α × Session σ) :
    Except Error α × Session σ :=
  if s.statement.pending.isSome then
    (.error (.functionSequence "data-at-execution values are still pending"), s)
  else f (s.onStatement fun t => { t with diagnostics := [] })

def noCursor : Error :=
  .cursorState "no open cursor"

/-- The open cursor, if there is one. -/
def withCursor (s : Session σ) (f : Cursor → Session σ → Except Error α × Session σ) :
    Except Error α × Session σ :=
  match s.statement.cursor with
  | none => (.error noCursor, s)
  | some c => f c s

/-- The cursor at work for the statement. -/
def work (s : Session σ) (c : Cursor) : Work σ :=
  ⟨c, s.statement.bindings, s.statement.diagnostics, s.link⟩

/-- The statement after its cursor worked. -/
def afterWork (s : Session σ) (w : Work σ) : Session σ :=
  { s with
    statement :=
      { s.statement with
        cursor := some w.cursor, bindings := w.bindings, diagnostics := w.diagnostics }
    link := w.link }

/-- One more record of the call. -/
def warn (s : Session σ) (d : Diagnostic) : Session σ :=
  s.onStatement fun t => { t with diagnostics := t.diagnostics ++ [d] }

/-- The code of a call that succeeded: with records it has something to tell. -/
def code (s : Session σ) : ReturnCode :=
  if s.statement.diagnostics.isEmpty then .success else .successWithInfo

end Session

/-- The predicate of the current row, or why it has none; nothing without a current row. -/
def Work.currentTarget {σ : Type} (w : Work σ) : PublishedTarget × Work σ :=
  match w.cursor.currentImage? with
  | none => (none, w)
  | some image =>
      match w.keySet with
      | (.error e, w) => (some (.error e), w)
      | (.ok key, w) =>
          (some ((key.terms image).map fun terms => ⟨key.table, terms, key.isUnique⟩), w)

namespace Session

variable {σ : Type}

/-- Other statements can see where the open cursor stands. -/
def publishCursor (s : Session σ) : Session σ :=
  match s.statement.cursor with
  | none => s
  | some c =>
      let (target, w) := (s.work c).currentTarget
      let s := s.afterWork w
      { s with names := s.names.publish s.statement.id target }

/-- The same, if the statement has a cursor name. -/
def publishNamed (s : Session σ) : Session σ :=
  if s.statement.named then s.publishCursor else s

end Session

end ScrollCursor
