import ScrollCursor.Outcome

/-! # Buffered rows

A slot keeps one row of a cursor: the values that are shown, the image that the server was
last known to hold, its status and its place in the result. Added rows have no place.
-/

namespace ScrollCursor

structure RowSlot where
  values : Record
  /-- The values the server is known to hold. -/
  image : Record
  status : RowStatus
  /-- The position in the result, counted from one. -/
  position : Option Nat

namespace RowSlot

/-- A row as it comes from the server. -/
def fresh (values : Record) (status : RowStatus) (position : Option Nat) : RowSlot :=
  ⟨values, values, status, position⟩

def isDeleted (s : RowSlot) : Bool :=
  s.status == .deleted

def withStatus (s : RowSlot) (status : RowStatus) : RowSlot :=
  { s with status := status }

/-- The row with values that the server has just given. -/
def reload (s : RowSlot) (values : Record) : RowSlot :=
  { s with values := values, image := values }

end RowSlot

/-- A row with some values replaced; ordinals beyond its end are ignored. -/
def Record.assign (r : Record) (assignments : List (Nat × Value)) : Record :=
  assignments.foldl (fun r (ordinal, value) => r.set ordinal value) r

namespace RowSlot

/-- The row with values that were written to the server. -/
def apply (s : RowSlot) (assignments : List (Nat × Value)) : RowSlot :=
  { s with
    values := Record.assign s.values assignments
    image := Record.assign s.image assignments }

end RowSlot

end ScrollCursor
