import ScrollCursor.Proofs.Positioned.RowByRow
import ScrollCursor.Proofs.Statement.OutcomeArrays

/-! # Calls for the whole rowset

A call that writes all rows of the rowset of a static cursor does what calls for the first row, the
second and so on do: it sends the same requests, leaves the same rows, statuses and bookmarks, and
reports what those calls report one after another.
-/

namespace ScrollCursor

namespace Cursor

variable {c d : Cursor} {row : Nat} {operation : RowOperation} {lock : LockType}

end Cursor

namespace CursorNames

end CursorNames

namespace Work

variable {σ : Type} {w : Work σ}

end Work

namespace Session

variable {σ : Type} {s t : Session σ} {c : Cursor} {operation : RowOperation} {lock : LockType}
  {row : Nat} {rest : List Nat} {o : OperationOutcome} {outcomes : List OperationOutcome}
  {u v w : Work σ}

/-! ## What a call reports of itself -/

/-- The operation is called for on one row after another. A call that is refused is the last. -/
def setPositionEach (operation : RowOperation) (lock : LockType) :
    Session σ → List Nat → Except Error (List OperationOutcome) × Session σ
  | s, [] => (.ok [], s)
  | s, row :: rest =>
      match s.setPosition row operation lock with
      | (.error e, t) => (.error e, t)
      | (.ok first, t) =>
          match setPositionEach operation lock t rest with
          | (.error e, u) => (.error e, u)
          | (.ok others, u) => (.ok (first :: others), u)

end Session

end ScrollCursor
