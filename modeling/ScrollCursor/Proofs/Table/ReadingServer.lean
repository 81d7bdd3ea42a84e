import ScrollCursor.Proofs.Table.Places
import ScrollCursor.Server

/-! # Servers that can be read by key

What is relied upon of a server when rows are read again. It answers with the rows of its table that
have the values of all terms, each with the columns that were asked for in their order, and stays as
it is. Between two questions the table may have become any other one.
-/

namespace ScrollCursor

/-- A server that has a table, with the law of its answers to selections by key. -/
structure ReadingServer (σ : Type) where
  server : Server σ
  ref : TableRef
  agrees : Agreement
  /-- The rows of the table in a state of the server. -/
  rows : σ → List TableRow
  rows_query : ∀ request s, rows (server.query request s).2 = rows s
  rows_metadata : ∀ table s, rows (server.metadata table s).2 = rows s
  selected : ∀ request s names terms forUpdate,
    request.plan = some (.selectByKey ref names terms forUpdate) →
      ∃ result, (server.query request s).1 = .ok result ∧
        result.rows = ((rows s).filter (TableRow.satisfies agrees · terms)).map fun row =>
          .ok (names.map row.get)

namespace ReadingServer

variable {σ : Type} (S : ReadingServer σ)

/-- The row that has the values of all terms, the first one if there are several. -/
def find? (rows : List TableRow) (terms : List ColumnValue) : Option TableRow :=
  rows.find? (TableRow.satisfies S.agrees · terms)

/-- The link leads to the server, whose table has some rows. -/
structure Serves (rows : List TableRow) (l : Link σ) : Prop where
  server : l.server = S.server
  rows : S.rows l.state = rows

variable {S} {rows : List TableRow} {l : Link σ}

theorem Serves.pulled (h : S.Serves rows l) (count : Nat) : S.Serves rows (l.pulled count) :=
  ⟨h.server, h.rows⟩

theorem Serves.query (h : S.Serves rows l) (request : Request) :
    S.Serves rows (l.query request).2 := by
  refine ⟨h.server, ?_⟩
  change S.rows (l.server.query request l.state).2 = rows
  rw [h.server, S.rows_query, h.rows]

theorem Serves.metadata (h : S.Serves rows l) (table : TableRef) :
    S.Serves rows (l.metadata table).2 := by
  refine ⟨h.server, ?_⟩
  change S.rows (l.server.metadata table l.state).2 = rows
  rw [h.server, S.rows_metadata, h.rows]

/-- The first row of the answer to a selection. -/
theorem Serves.queryRow_selectByKey (h : S.Serves rows l) {request : Request}
    {names : List String} {terms : List ColumnValue} {forUpdate : Bool}
    (hplan : request.plan = some (.selectByKey S.ref names terms forUpdate)) :
    (l.queryRow request).1 =
      .ok ((S.find? rows terms).map fun row => names.map row.get) := by
  obtain ⟨result, hanswer, hrows⟩ := S.selected request l.state names terms forUpdate hplan
  have hquery : (l.query request).1 = .ok result := by
    rw [← hanswer, ← h.server]
    rfl
  rw [← h.rows]
  unfold Link.queryRow find?
  generalize l.query request = answered at hquery ⊢
  obtain ⟨answer, after⟩ := answered
  cases hquery
  rw [← List.head?_filter]
  dsimp only
  rw [hrows]
  cases (S.rows l.state).filter (TableRow.satisfies S.agrees · terms) <;> rfl

end ReadingServer

/-! ## A server with one table -/

namespace ReadingServer

def notSelected : Error :=
  .server 1064 "42000" "no such result"

/-- The answer to a selection from the table. -/
def select (ref : TableRef) (agrees : Agreement) (request : Request) (rows : List TableRow) :
    Except Error ResultSet :=
  match request.plan with
  | some (.selectByKey table names terms _) =>
      if table = ref then
        .ok ⟨[], (rows.filter (TableRow.satisfies agrees · terms)).map fun row =>
          .ok (names.map row.get)⟩
      else .error notSelected
  | _ => .error notSelected

/-- A server that is nothing but a table, which cannot be written. -/
def ofTable (ref : TableRef) (agrees : Agreement) (metadata : Option TableMetadata) :
    ReadingServer (List TableRow) where
  server :=
    { query := fun request rows => (select ref agrees request rows, rows)
      execute := fun _ rows => (.error notSelected, rows)
      metadata := fun _ rows => (.ok metadata, rows) }
  ref := ref
  agrees := agrees
  rows := id
  rows_query _ _ := rfl
  rows_metadata _ _ := rfl
  selected request rows names terms forUpdate hplan := by
    refine ⟨⟨[], (rows.filter (TableRow.satisfies agrees · terms)).map fun row =>
      .ok (names.map row.get)⟩, ?_, rfl⟩
    simp only [select, hplan, if_true]

end ReadingServer

end ScrollCursor
