import ScrollCursor.Buffer.Bookmarks

/-! # Where a fetch lands

An orientation says where the next rowset is to begin, counted from either end of the
result, from the rowset before or from the row of a bookmark. Positions are counted from
one and end with the largest signed number of 64 bits.
-/

namespace ScrollCursor

inductive Orientation where
  | next
  | prior
  | first
  | last
  | absolute (n : Int)
  | relative (n : Int)
  | bookmark (b : Bookmark) (offset : Int)
  deriving DecidableEq, Inhabited

/-- An orientation whose bookmark has been replaced by the position of its row. -/
inductive Move where
  | next
  | prior
  | first
  | last
  | absolute (n : Int)
  | relative (n : Int)
  | fromRow (position : Nat) (offset : Int)
  deriving DecidableEq, Inhabited

/-- Where a rowset begins. -/
inductive Target where
  | beforeFirst
  | afterLast
  | row (position : Nat)
  deriving DecidableEq, Inhabited

namespace Target

/-- The largest position. -/
def maxPosition : Int :=
  9223372036854775807

/-- The last whole rowset of a result, or all of a shorter one. -/
def lastRowset (size total : Nat) : Target :=
  .row (max (total + 1 - size) 1)

/-- The row that is `n` places from the end, `n` being negative. A rowset that would begin
before the result, but reaches into it, begins with the first row. -/
def fromEnd (size total : Nat) (n : Int) : Target :=
  let p := (total : Int) + n + 1
  if 1 ≤ p then .row p.toNat
  else if n.natAbs ≤ size ∧ 0 < total then .row 1
  else .beforeFirst

/-- The row that is `n` places from a row of the result. -/
def fromStart (size start : Nat) (n : Int) : Target :=
  let p := (start : Int) + n
  if maxPosition < p then .afterLast
  else if 1 ≤ p then .row p.toNat
  else if n.natAbs ≤ size then .row 1
  else .beforeFirst

end Target

namespace Move

/-- The number of rows of the result has to be known. -/
def countsFromEnd (afterLast : Bool) : Move → Bool
  | .last => true
  | .prior => afterLast
  | .absolute n => n < 0
  | .relative n => afterLast && n < 0
  | _ => false

/-- Where a move leads from a rowset at `start` or from after the last row, in a result of
`total` rows if that had to be known. -/
def target (size start : Nat) (afterLast : Bool) (total : Nat) : Move → Target
  | .next =>
      if afterLast then .afterLast
      else if start = 0 then .row 1
      else .row (start + size)
  | .prior =>
      if afterLast then
        if total = 0 then .beforeFirst else Target.lastRowset size total
      else if start ≤ 1 then .beforeFirst
      else if start ≤ size then .row 1
      else .row (start - size)
  | .first => .row 1
  | .last => if total = 0 then .afterLast else Target.lastRowset size total
  | .absolute n =>
      if 0 < n then .row n.toNat
      else if n = 0 then .beforeFirst
      else Target.fromEnd size total n
  | .relative n =>
      if afterLast then
        if 0 ≤ n then .afterLast else Target.fromEnd size total n
      else if start = 0 then
        if 0 < n then .row n.toNat else .beforeFirst
      else Target.fromStart size start n
  | .fromRow position offset =>
      let p := (position : Int) + offset
      if Target.maxPosition < p then .afterLast
      else if 1 ≤ p then .row p.toNat
      else .beforeFirst

end Move

end ScrollCursor
