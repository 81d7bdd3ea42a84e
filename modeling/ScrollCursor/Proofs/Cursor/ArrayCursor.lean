import ScrollCursor.Cursor.Fetch

/-! # Array cursors

A cursor over a list that is there as a whole. It knows the number of its rows, and where a fetch
leads is plain arithmetic on that number and the place before, without any bound. Only two things
depend on what has been asked so far: the numbers of the bookmarks, and whether the end of the
result has been seen.
-/

namespace ScrollCursor

structure ArrayCursor where
  size : Nat
  useBookmarks : Bool
  retrieveData : Bool
  names : List String
  rows : List Record
  /-- Where the cursor stands; a row is one of `rows`, counted from one. -/
  place : Target := .beforeFirst
  /-- The positions that have been shown with a bookmark, in the order of their first showing. -/
  shown : List Nat := []
  /-- Something beyond the last row has been looked for. -/
  ended : Bool := false

namespace ArrayCursor

/-- The number of rows. -/
def total (a : ArrayCursor) : Nat :=
  a.rows.length

/-- The row that is `n` places from the end. A rowset that would begin before the result, but
reaches into it, begins with the first row. -/
def fromEnd (a : ArrayCursor) (n : Int) : Target :=
  let p := (a.total : Int) + n + 1
  if 1 ≤ p then .row p.toNat
  else if n.natAbs ≤ a.size ∧ 0 < a.total then .row 1
  else .beforeFirst

/-- The last whole rowset, or all of a shorter result. -/
def lastRowset (a : ArrayCursor) : Target :=
  .row (max ((a.total : Int) - a.size + 1) 1).toNat

/-- Where a move leads to, in a result that goes on for ever. -/
def aim (a : ArrayCursor) : Move → Target
  | .next =>
      match a.place with
      | .beforeFirst => .row 1
      | .row s => .row (s + a.size)
      | .afterLast => .afterLast
  | .prior =>
      match a.place with
      | .beforeFirst => .beforeFirst
      | .row s =>
          if s = 1 then .beforeFirst
          else if s ≤ a.size then .row 1
          else .row (s - a.size)
      | .afterLast => if a.total = 0 then .beforeFirst else a.lastRowset
  | .first => .row 1
  | .last => if a.total = 0 then .afterLast else a.lastRowset
  | .absolute n =>
      if 0 < n then .row n.toNat
      else if n = 0 then .beforeFirst
      else a.fromEnd n
  | .relative n =>
      match a.place with
      | .beforeFirst => if 0 < n then .row n.toNat else .beforeFirst
      | .row s =>
          let p := (s : Int) + n
          if 1 ≤ p then .row p.toNat
          else if n.natAbs ≤ a.size then .row 1
          else .beforeFirst
      | .afterLast => if 0 ≤ n then .afterLast else a.fromEnd n
  | .fromRow position offset =>
      let p := (position : Int) + offset
      if 1 ≤ p then .row p.toNat else .beforeFirst

/-- The move counts from a row, whose position is added to. -/
def addsToRow (a : ArrayCursor) : Move → Bool
  | .relative _ =>
      match a.place with
      | .row _ => true
      | _ => false
  | .fromRow _ _ => true
  | _ => false

/-- The move finds out where the result ends: because it counts from there, or because the rowset
would reach beyond it. Sums that are no position are not looked for. -/
def seesEnd (a : ArrayCursor) (move : Move) : Bool :=
  move.countsFromEnd (a.place == .afterLast) ||
    match a.aim move with
    | .row p =>
        decide (a.total < p + a.size - 1) &&
          !(a.addsToRow move && decide (Target.maxPosition < p))
    | _ => false

/-- The bookmarks given out so far with the positions they name. -/
def bookmarks (a : ArrayCursor) : List (Bookmark × Nat) :=
  a.shown.mapIdx fun i p => (Bookmark.ofNumber (i + 1), p)

/-- The move that an orientation stands for. -/
def move (a : ArrayCursor) : Orientation → Except Error Move
  | .next => .ok .next
  | .prior => .ok .prior
  | .first => .ok .first
  | .last => .ok .last
  | .absolute n => .ok (.absolute n)
  | .relative n => .ok (.relative n)
  | .bookmark b offset =>
      if !a.useBookmarks then .error .bookmarksDisabled
      else
        match a.bookmarks.lookup b with
        | some position => .ok (.fromRow position offset)
        | none => .error (.bookmarkNotFound b.hex)

/-- The positions of the rowset at a row. -/
def window (a : ArrayCursor) (p : Nat) : List Nat :=
  List.range' p (min a.size (a.total + 1 - p))

/-- One more position is shown. -/
def remember (shown : List Nat) (p : Nat) : List Nat :=
  if p ∈ shown then shown else shown ++ [p]

/-- The rowset is put at a row, and its rows have bookmarks from then on. -/
def standAt (a : ArrayCursor) (p : Nat) : ArrayCursor :=
  { a with
    place := .row p
    shown := if a.useBookmarks then (a.window p).foldl remember a.shown else a.shown }

@[simp] theorem size_standAt (a : ArrayCursor) (p : Nat) : (a.standAt p).size = a.size := rfl

@[simp] theorem total_standAt (a : ArrayCursor) (p : Nat) : (a.standAt p).total = a.total := rfl

@[simp] theorem ended_standAt (a : ArrayCursor) (p : Nat) : (a.standAt p).ended = a.ended := rfl

@[simp] theorem window_standAt (a : ArrayCursor) (p : Nat) :
    (a.standAt p).window = a.window := rfl

/-- A row as it is shown. -/
def fetchedRow (a : ArrayCursor) (p : Nat) : FetchedRow where
  status := .success
  bookmark :=
    if a.useBookmarks then
      (a.bookmarks.find? fun entry => entry.2 == p).map Prod.fst
    else none
  row := if a.retrieveData then a.rows[p - 1]?.map fun values => ⟨a.names, values⟩ else none

/-- The outcome of a fetch that lands on a row. -/
def outcome (a : ArrayCursor) (p : Nat) : FetchOutcome where
  returnCode := .success
  rowsFetched := (a.window p).length
  statuses :=
    List.replicate (a.window p).length .success ++
      List.replicate (a.size - (a.window p).length) .noRow
  rows := (a.window p).map a.fetchedRow
  position := p
  atEnd := a.ended && decide (a.total ≤ p + a.size - 1)

/-- It may have been found out where the result ends. -/
def looked (a : ArrayCursor) (found : Bool) : ArrayCursor :=
  { a with ended := a.ended || found }

/-- A fetch to a row, which may lie after the last one. -/
def fetchRow (a : ArrayCursor) (p : Nat) : FetchOutcome × ArrayCursor :=
  if a.total < p then (.noData a.size true, { a with place := .afterLast })
  else ((a.standAt p).outcome p, a.standAt p)

/-- A fetch that follows a move. -/
def fetchMove (a : ArrayCursor) (move : Move) : FetchOutcome × ArrayCursor :=
  let b := a.looked (a.seesEnd move)
  match a.aim move with
  | .beforeFirst => (.noData a.size false, { b with place := .beforeFirst })
  | .afterLast => (.noData a.size true, { b with place := .afterLast })
  | .row p => b.fetchRow p

/-- A rowset is fetched. -/
def fetch (a : ArrayCursor) (orientation : Orientation) :
    Except Error FetchOutcome × ArrayCursor :=
  match a.move orientation with
  | .error e => (.error e, a)
  | .ok move => ((.ok (a.fetchMove move).1), (a.fetchMove move).2)

/-- One fetch after another. -/
def fetches (a : ArrayCursor) : List Orientation →
    List (Except Error FetchOutcome) × ArrayCursor
  | [] => ([], a)
  | o :: rest =>
      let (outcome, a) := a.fetch o
      let (outcomes, a) := a.fetches rest
      (outcome :: outcomes, a)

/-- The array cursor for a result: the rows that its limit leaves, and nothing fetched. -/
def opened (options : StatementOptions) (descriptor : ResultDescriptor) (rows : List Record) :
    ArrayCursor where
  size := max options.rowArraySize 1
  useBookmarks := options.useBookmarks
  retrieveData := options.retrieveData
  names := descriptor.names
  rows :=
    match options.maxRows with
    | none => rows
    | some limit => rows.take limit

end ArrayCursor

/-- One fetch after another. -/
def Work.fetches {σ : Type} (w : Work σ) : List Orientation →
    List (Except Error FetchOutcome) × Work σ
  | [] => ([], w)
  | o :: rest =>
      let (outcome, w) := w.fetch o
      let (outcomes, w) := w.fetches rest
      (outcome :: outcomes, w)

end ScrollCursor
