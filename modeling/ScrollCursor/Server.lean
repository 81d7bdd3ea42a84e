import ScrollCursor.Table.Column
import ScrollCursor.Table.Metadata
import ScrollCursor.WriteBack.Plan

/-! # The server and the link to it

The engine knows a server only by its answers: a query opens a result, a statement reports
how many rows it changed, and a table may have metadata. An answer may change the server's
state. The link keeps that state together with a record of everything that went over it.
-/

namespace ScrollCursor

/-- What is left of a result: rows and failures to deliver one, in the order in which they
will be met. After the last item the result is at its end. -/
abbrev RowStream := List (Except Error Record)

structure ResultSet where
  descriptor : ResultDescriptor
  rows : RowStream

/-- The answer to a statement that changes rows. -/
structure WriteAnswer where
  affected : Nat
  /-- The number that the server gave to an inserted row. -/
  generated : Option Nat := none
  deriving DecidableEq, Inhabited

/-- A server with states of type `σ`. -/
structure Server (σ : Type) where
  query : Request → σ → Except Error ResultSet × σ
  execute : Request → σ → Except Error WriteAnswer × σ
  metadata : TableRef → σ → Except Error (Option TableMetadata) × σ

/-- One thing asked of the server. -/
inductive Event where
  | query (request : Request)
  | execute (request : Request)
  | metadata (table : TableRef)
  /-- The next row of some result. -/
  | pull

/-- A server in a state, with what was asked of it so far. -/
structure Link (σ : Type) where
  server : Server σ
  state : σ
  events : List Event := []

namespace Link

variable {σ : Type}

def query (l : Link σ) (request : Request) : Except Error ResultSet × Link σ :=
  let (answer, state) := l.server.query request l.state
  (answer, { l with state := state, events := l.events ++ [.query request] })

def execute (l : Link σ) (request : Request) : Except Error WriteAnswer × Link σ :=
  let (answer, state) := l.server.execute request l.state
  (answer, { l with state := state, events := l.events ++ [.execute request] })

def metadata (l : Link σ) (table : TableRef) : Except Error (Option TableMetadata) × Link σ :=
  let (answer, state) := l.server.metadata table l.state
  (answer, { l with state := state, events := l.events ++ [.metadata table] })

/-- Some rows were asked for. -/
def pulled (l : Link σ) (count : Nat) : Link σ :=
  { l with events := l.events ++ List.replicate count .pull }

/-- The first row of the result of a query. -/
def queryRow (l : Link σ) (request : Request) : Except Error (Option Record) × Link σ :=
  match l.query request with
  | (.error e, l) => (.error e, l)
  | (.ok result, l) =>
      match result.rows with
      | [] => (.ok none, l.pulled 1)
      | .ok values :: _ => (.ok (some values), l.pulled 1)
      | .error e :: _ => (.error e, l.pulled 1)

end Link

end ScrollCursor
