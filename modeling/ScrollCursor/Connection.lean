import ScrollCursor.Statement.Calls
import ScrollCursor.Statement.Positioned

/-! # Connections

A connection has options, the statements made on it and the names of their cursors. Numbers
of statements are not used again, not even after a statement could not be made.
-/

namespace ScrollCursor

structure Connection where
  config : Config
  names : CursorNames := {}
  statements : List Statement := []
  /-- The last number that was given to a statement. -/
  issued : Nat := 0

namespace Connection

/-- The statement that the next number would be given to, with the default options. -/
def blank (c : Connection) : Statement :=
  { id := c.issued + 1, options := { rowArraySize := c.config.rowArraySize } }

/-- A new statement, with the given options or those of the connection. -/
def newStatement (c : Connection) (options : Option StatementOptions) :
    Except Error Nat × Connection :=
  let made : Except Error Statement :=
    match options with
    | none => .ok c.blank
    | some options => c.blank.withOptions c.config options
  let c := { c with issued := c.issued + 1 }
  match made with
  | .error e => (.error e, c)
  | .ok t => (.ok t.id, { c with statements := c.statements ++ [t] })

def statement? (c : Connection) (id : Nat) : Option Statement :=
  c.statements.find? fun t => t.id == id

/-- The statement is gone and its cursor name is free. -/
def dropStatement (c : Connection) (id : Nat) : Connection :=
  { c with
    statements := c.statements.filter fun t => t.id != id
    names := c.names.unregister id }

variable {σ α : Type}

/-- The statement with what the connection shares. -/
def session? (c : Connection) (link : Link σ) (id : Nat) : Option (Session σ) :=
  (c.statement? id).map fun t => ⟨t, c.config, c.names, link⟩

/-- The connection after a session of one of its statements. -/
def afterSession (c : Connection) (s : Session σ) : Connection :=
  { c with
    names := s.names
    statements := c.statements.map fun t => if t.id = s.statement.id then s.statement else t }

/-- A call on one of the statements. -/
def callOn (c : Connection) (link : Link σ) (id : Nat) (f : Session σ → α × Session σ) :
    Option (α × Connection × Link σ) :=
  (c.session? link id).map fun s =>
    let (answer, s) := f s
    (answer, c.afterSession s, s.link)

end Connection

end ScrollCursor
