import ScrollCursor.Cursor.Fetch
import ScrollCursor.Statement.Basic

/-! # Calls on a statement

Setting options, binding, executing, fetching, and naming and closing the cursor. Each call
returns its result with the session as it is afterwards, also when it fails.
-/

namespace ScrollCursor

/-- The record of a cursor kind that is not available. -/
def kindChanged (used requested : CursorKind) : Diagnostic :=
  .warning "01S02" ("Option value changed: cursor type " ++ used.text ++ " used instead of " ++
    requested.text)

/-- The statement with other options. A cursor kind that the connection does not have is
replaced, which is put on record. -/
def Statement.withOptions (t : Statement) (config : Config) (options : StatementOptions) :
    Except Error Statement := do
  options.validate
  let kind := config.effective options.cursorKind
  return { t with
    options := { options with cursorKind := kind }
    diagnostics :=
      if kind = options.cursorKind then t.diagnostics
      else t.diagnostics ++ [kindChanged kind options.cursorKind] }

namespace Session

variable {σ : Type}

/-- The options are replaced, with a cursor kind that the connection has. -/
def setOptions (s : Session σ) (options : StatementOptions) :
    Except Error ReturnCode × Session σ :=
  s.call fun s =>
    if s.statement.cursor.isSome then
      (.error (.cursorState "cannot change options while a cursor is open"), s)
    else
      match s.statement.withOptions s.config options with
      | .error e => (.error e, s)
      | .ok t =>
          let s := s.onStatement fun _ => t
          (.ok s.code, s)

/-- The bound arrays change. -/
def bind (s : Session σ) (f : Bindings → Bindings) : Except Error Unit × Session σ :=
  s.call fun s => (.ok (), s.onStatement fun t => { t with bindings := f t.bindings })

def bindColumn (s : Session σ) (ordinal : Nat) (values : List BoundValue) :
    Except Error Unit × Session σ :=
  s.bind (Bindings.bindColumn · ordinal values)

def bindBookmarks (s : Session σ) (bookmarks : List Bookmark) : Except Error Unit × Session σ :=
  s.bind (Bindings.bindBookmarks · bookmarks)

def unbindAll (s : Session σ) : Except Error Unit × Session σ :=
  s.bind fun _ => {}

/-- A statement that changes rows was answered. -/
def counted (s : Session σ) (affected : Nat) : Session σ :=
  s.onStatement fun t => { t with rowCount := some affected }

/-- A positioned statement is executed on the row where the named cursor stands. -/
def executePositioned (s : Session σ) (text : Sql.StatementText) (clause : Sql.PositionedClause)
    (params : List Value) : Except Error ReturnCode × Session σ :=
  let request : Except Error Request := do
    let target ← s.names.targetFor clause.cursor
    let predicate ← (Dialect.ofConfig s.config).predicate target.terms
    match text.withPredicate? predicate.sql with
    | some sql => .ok { sql := sql, params := params ++ predicate.params }
    | none => .error (.internal "positioned clause vanished")
  match request with
  | .error e => (.error e, s)
  | .ok request =>
      match s.link.execute request with
      | (.error e, link) => (.error e, { s with link := link })
      | (.ok answer, link) =>
          let s := { s with link := link }.counted answer.affected
          let s :=
            if answer.affected = 0 then s.warn RowReport.noRows
            else if answer.affected = 1 then s
            else s.warn RowReport.moreThanOneRow
          (.ok s.code, s)

/-- A cursor is opened on the result of a query. -/
def executeQuery (s : Session σ) (request : Request) : Except Error ReturnCode × Session σ :=
  match s.link.query request with
  | (.error e, link) => (.error e, { s with link := link })
  | (.ok result, link) =>
      let options := s.statement.options
      let cursor := Cursor.opened options.cursorKind (.ofConfig s.config) options result
      let s := { s with link := link }.onStatement fun t => { t with cursor := some cursor }
      (.ok s.code, s)

/-- A statement other than a query is executed. -/
def executeUpdate (s : Session σ) (request : Request) : Except Error ReturnCode × Session σ :=
  match s.link.execute request with
  | (.error e, link) => (.error e, { s with link := link })
  | (.ok answer, link) =>
      let s := { s with link := link }.counted answer.affected
      (.ok s.code, s)

/-- Statement text is executed with parameters. -/
def execute (s : Session σ) (sql : String) (params : List Value) :
    Except Error ReturnCode × Session σ :=
  s.call fun s =>
    if s.statement.cursor.isSome then (.error (.cursorState "cursor is still open"), s)
    else
      let text := Sql.StatementText.parse sql
      let s := s.onStatement fun t => { t with rowCount := none }
      match text.positioned with
      | some clause => s.executePositioned text clause params
      | none =>
          let request : Request := { sql := sql, params := params }
          if text.isQuery then s.executeQuery request else s.executeUpdate request

/-- A rowset is fetched. -/
def fetch (s : Session σ) (orientation : Orientation) : Except Error FetchOutcome × Session σ :=
  s.call fun s => s.withCursor fun c s =>
    match (s.work c).fetch orientation with
    | (.error e, w) => (.error e, s.afterWork w)
    | (.ok outcome, w) =>
        let s := s.afterWork w
        let s := if outcome.returnCode = .successWithInfo then s.warn RowReport.errorInRow else s
        (.ok outcome, s.publishNamed)

/-- The bookmark of a row of the rowset. -/
def getBookmark (s : Session σ) (row : Nat) : Except Error Bookmark × Session σ :=
  s.call fun s => s.withCursor fun c s =>
    if !c.options.useBookmarks then (.error .bookmarksDisabled, s)
    else if row = 0 ∨ c.rowset.length < row then
      (.error (.rowOutOfRange row c.rowset.length), s)
    else
      match (c.slotOf? row).bind c.bookmarks.ofSlot? with
      | some b => (.ok b, s)
      | none =>
          (.error (.cursorPosition ("row " ++ toString row ++ " has no bookmark")), s)

/-- The cursor is closed and what was awaited is dropped. -/
def closeCursor (s : Session σ) : Except Error Unit × Session σ :=
  let s := s.onStatement fun t => { t with pending := none, diagnostics := [] }
  s.withCursor fun _ s =>
    let s := s.onStatement fun t => { t with cursor := none }
    (.ok (),
      if s.statement.named then { s with names := s.names.publish s.statement.id none } else s)

/-- A cursor name that a caller may choose. -/
def checkName (name : String) : Except Error Unit :=
  if name.isEmpty ∨ 64 < name.utf8ByteSize then
    .error (.cursorName "cursor name must be 1 to 64 bytes")
  else
    let upper := (Text.upper name).toList
    if "SQLCUR".toList.isPrefixOf upper ∨ "SQL_CUR".toList.isPrefixOf upper then
      .error (.cursorName ("cursor name '" ++ name ++ "' uses a reserved prefix"))
    else .ok ()

/-- The statement has taken a name. -/
def withName (s : Session σ) (names : CursorNames) : Session σ :=
  ({ s with names := names }.onStatement fun t => { t with named := true }).publishCursor

/-- The statement takes the given cursor name. -/
def setCursorName (s : Session σ) (name : String) : Except Error Unit × Session σ :=
  s.call fun s =>
    let names : Except Error CursorNames := do
      checkName name
      s.names.register s.statement.id name
    match names with
    | .error e => (.error e, s)
    | .ok names => (.ok (), s.withName names)

/-- The cursor name of the statement, a generated one if it has none. This is not a call of
its own: it is answered even while values are awaited, and records stay. -/
def cursorName (s : Session σ) : String × Session σ :=
  match s.names.nameOf? s.statement.id with
  | some name => (name, s)
  | none =>
      let (name, names) := s.names.generate s.statement.id
      (name, s.withName names)

end Session

end ScrollCursor
