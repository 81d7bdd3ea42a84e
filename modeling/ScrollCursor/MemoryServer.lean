import ScrollCursor.Server

/-! # A server in memory

A server that keeps tables as lists of rows and carries out plans on them exactly. Queries
that are not by key are answered from prepared results. Single answers, failures among them,
can be laid down ahead of time; they come before everything else, in order.
-/

namespace ScrollCursor

structure MemoryTable where
  ref : TableRef
  columns : List String
  rows : List Record
  /-- The column that is numbered where a new row leaves it NULL. -/
  auto : Option String := none
  nextId : Nat := 1

namespace MemoryTable

/-- The ordinal of a column, its name being compared without regard to case. -/
def ordinal? (t : MemoryTable) (name : String) : Option Nat :=
  t.columns.findIdx? (Text.sameName · name)

/-- A row has the value of a term. -/
def holds (t : MemoryTable) (row : Record) (term : ColumnValue) : Bool :=
  match (t.ordinal? term.column).bind fun i => row[i]? with
  | some v => v == term.value
  | none => false

/-- A row has the values of all terms. -/
def isMatch (t : MemoryTable) (predicate : List ColumnValue) (row : Record) : Bool :=
  predicate.all (t.holds row)

/-- The values of a row in named columns, NULL where there is no such column. -/
def project (t : MemoryTable) (names : List String) (row : Record) : Record :=
  names.map fun name => ((t.ordinal? name).bind fun i => row[i]?).getD .null

/-- A row with the values of columns that the table has. -/
def assign (t : MemoryTable) (row : Record) (values : List ColumnValue) : Record :=
  values.foldl
    (fun row a =>
      match t.ordinal? a.column with
      | some i => row.set i a.value
      | none => row)
    row

def select (t : MemoryTable) (columns : List String) (predicate : List ColumnValue) :
    List Record :=
  (t.rows.filter (t.isMatch predicate)).map (t.project columns)

/-- The table after an update, with the number of rows changed. -/
def update (t : MemoryTable) (values predicate : List ColumnValue) : Nat × MemoryTable :=
  (t.rows.countP (t.isMatch predicate),
    { t with
      rows := t.rows.map fun row => if t.isMatch predicate row then t.assign row values else row })

/-- The table after a delete, with the number of rows removed. -/
def delete (t : MemoryTable) (predicate : List ColumnValue) : Nat × MemoryTable :=
  (t.rows.countP (t.isMatch predicate),
    { t with rows := t.rows.filter fun row => !t.isMatch predicate row })

/-- The table after an insert, with the number that the row was given, if any. -/
def insert (t : MemoryTable) (values : List ColumnValue) : Option Nat × MemoryTable :=
  let row := t.assign (List.replicate t.columns.length .null) values
  match t.auto.bind t.ordinal? with
  | some i =>
      if (row[i]?.map Value.isNull).getD false then
        (some t.nextId,
          { t with
            rows := t.rows ++ [row.set i (.integer t.nextId)]
            nextId := t.nextId + 1 })
      else (none, { t with rows := t.rows ++ [row] })
  | none => (none, { t with rows := t.rows ++ [row] })

end MemoryTable

/-- Where a prepared result takes its rows from. -/
inductive ResultSource where
  | rows (rows : List Record)
  | table (ref : TableRef)

/-- A result for one statement text. -/
structure PreparedResult where
  sql : String
  descriptor : ResultDescriptor
  source : ResultSource
  /-- For each failure to deliver a row the number of rows that come before it. -/
  failures : List Nat := []

/-- What is laid down for one call. -/
inductive Planned (α : Type) where
  /-- The call is answered as if nothing were laid down. -/
  | pass
  | fail (e : Error)
  | answer (a : α)

structure MemoryServer where
  tables : List MemoryTable := []
  results : List PreparedResult := []
  metadata : List (TableRef × Except Error TableMetadata) := []
  /-- The number of rows that a statement without a plan changes. -/
  plain : Nat := 0
  writes : List (Planned WriteAnswer) := []
  queries : List (Planned ResultSet) := []

namespace MemoryServer

def lostConnection : Error :=
  .server 2013 "08S01" "lost connection"

def noTable (ref : TableRef) : Error :=
  .server 1146 "42S02" ("no table " ++ ref.text)

def noResult : Error :=
  .server 1064 "42000" "no such result"

/-- Rows with failures among them. -/
def deliveries (rows : List Record) (failures : List Nat) : RowStream :=
  (rows.zipIdx.flatMap fun (row, i) =>
    List.replicate (failures.count i) (.error lostConnection) ++ [.ok row]) ++
    List.replicate (failures.count rows.length) (.error lostConnection)

/-- The first table with a name. -/
def table (s : MemoryServer) (ref : TableRef) : Except Error MemoryTable :=
  match s.tables.find? fun t => t.ref.sameTable ref with
  | some t => .ok t
  | none => .error (noTable ref)

/-- The first of some tables that is the same as `ref`, changed. -/
def replaceFirst (ref : TableRef) (t : MemoryTable) : List MemoryTable → List MemoryTable
  | [] => []
  | u :: rest => if u.ref.sameTable ref then t :: rest else u :: replaceFirst ref t rest

/-- A new table in place of those with the same name. -/
def addTable (s : MemoryServer) (t : MemoryTable) : MemoryServer :=
  { s with tables := (s.tables.filter fun u => !u.ref.sameTable t.ref) ++ [t] }

/-- A change to one table. -/
def change (s : MemoryServer) (ref : TableRef) (f : MemoryTable → WriteAnswer × MemoryTable) :
    Except Error WriteAnswer × MemoryServer :=
  match s.table ref with
  | .error e => (.error e, s)
  | .ok t =>
      let (answer, t) := f t
      (.ok answer, { s with tables := replaceFirst ref t s.tables })

/-- The effect of a plan. -/
def perform (s : MemoryServer) : Plan → Except Error WriteAnswer × MemoryServer
  | .update ref values predicate =>
      s.change ref fun t =>
        let (n, t) := t.update values predicate
        ({ affected := n }, t)
  | .delete ref predicate =>
      s.change ref fun t =>
        let (n, t) := t.delete predicate
        ({ affected := n }, t)
  | .insert ref values =>
      s.change ref fun t =>
        let (id, t) := t.insert values
        ({ affected := 1, generated := id }, t)
  | .selectByKey _ _ _ _ => (.ok { affected := s.plain }, s)

/-- The rows of a prepared result. -/
def preparedRows (s : MemoryServer) (r : PreparedResult) : Except Error (List Record) :=
  match r.source with
  | .rows rows => .ok rows
  | .table ref => do
      let t ← s.table ref
      return t.rows.map (t.project (r.descriptor.map Column.baseColumn))

/-- The result of a query for which nothing is laid down. -/
def answerQuery (s : MemoryServer) (request : Request) : Except Error ResultSet :=
  match request.plan with
  | some (.selectByKey ref columns predicate _) => do
      let t ← s.table ref
      return ⟨[], deliveries (t.select columns predicate) []⟩
  | _ =>
      match s.results.find? fun r => r.sql == request.sql with
      | none => .error noResult
      | some r => do
          let rows ← s.preparedRows r
          return ⟨r.descriptor, deliveries rows r.failures⟩

def query (request : Request) (s : MemoryServer) : Except Error ResultSet × MemoryServer :=
  match s.queries with
  | .fail e :: rest => (.error e, { s with queries := rest })
  | .answer a :: rest => (.ok a, { s with queries := rest })
  | .pass :: rest => (s.answerQuery request, { s with queries := rest })
  | [] => (s.answerQuery request, s)

/-- The effect of a statement for which nothing is laid down. -/
def answerExecute (s : MemoryServer) (request : Request) :
    Except Error WriteAnswer × MemoryServer :=
  match request.plan with
  | some plan => s.perform plan
  | none => (.ok { affected := s.plain }, s)

def execute (request : Request) (s : MemoryServer) : Except Error WriteAnswer × MemoryServer :=
  match s.writes with
  | .fail e :: rest => (.error e, { s with writes := rest })
  | .answer a :: rest => (.ok a, { s with writes := rest })
  | .pass :: rest => { s with writes := rest }.answerExecute request
  | [] => s.answerExecute request

/-- The first metadata for a table, which may be an error. -/
def findMetadata (entries : List (TableRef × Except Error TableMetadata)) (ref : TableRef) :
    Except Error (Option TableMetadata) :=
  match entries.find? fun entry => entry.1.sameTable ref with
  | none => .ok none
  | some (_, .ok m) => .ok (some m)
  | some (_, .error e) => .error e

/-- The server as the engine sees it. -/
def server : Server MemoryServer where
  query := query
  execute := execute
  metadata ref s := (findMetadata s.metadata ref, s)

end MemoryServer

end ScrollCursor
