import ScrollCursor.Buffer.Slot
import ScrollCursor.Number.Word

/-! # Row buffers

The rows pulled so far lie in slots that never move, so a bookmark can name one. A separate
list gives the slot of each known position. A cursor that cannot go back discards the rows
behind it; the positions go on from where they were.

Positions are machine words. A buffer on its own may be told to drop any number of positions, and
the next one may then be past the last word. A cursor drops no more positions than it has pulled
rows, of which there are never so many, and counts them without going round.
-/

namespace ScrollCursor

/-- The index of a slot. -/
abbrev SlotId := Nat

structure RowBuffer where
  slots : List RowSlot := []
  /-- The slots of the positions after `base`, in order. -/
  order : List SlotId := []
  /-- The number of leading positions whose rows were discarded. -/
  base : Nat := 0
  /-- The result has no more rows. -/
  exhausted : Bool := false

namespace RowBuffer

/-- The number of rows pulled so far, discarded ones included. -/
def count (b : RowBuffer) : Nat :=
  b.base + b.order.length

/-- The last position that has been given out, as a machine word. -/
def known (b : RowBuffer) : Nat :=
  word b.count

/-- The number of rows held. -/
def resident (b : RowBuffer) : Nat :=
  b.slots.length

/-- The slot that the next row will take. -/
def nextSlot (b : RowBuffer) : SlotId :=
  b.slots.length

/-- One more row, which is given a position. -/
def place (b : RowBuffer) (values : Record) (position : Nat) : RowBuffer :=
  { b with
    slots := b.slots ++ [.fresh values .success (some position)]
    order := b.order ++ [b.nextSlot] }

/-- One more row, at the word after the last position. -/
def push (b : RowBuffer) (values : Record) : RowBuffer :=
  b.place values (word (b.known + 1))

/-- One more row of a result, at the position after those of the rows before. This is `push`, for
results of fewer rows than there are machine words. -/
def append (b : RowBuffer) (values : Record) : RowBuffer :=
  b.place values (b.count + 1)

/-- One more row that has no position in the result. -/
def pushDetached (b : RowBuffer) (values : Record) (status : RowStatus) : RowBuffer :=
  { b with slots := b.slots ++ [.fresh values status none] }

/-- The slot at a position, counted from one. -/
def slotAt? (b : RowBuffer) (position : Nat) : Option SlotId :=
  if position ≤ b.base then none else b.order[position - b.base - 1]?

def slot? (b : RowBuffer) (id : SlotId) : Option RowSlot :=
  b.slots[id]?

/-- A change to one slot. -/
def modify (b : RowBuffer) (id : SlotId) (f : RowSlot → RowSlot) : RowBuffer :=
  { b with slots := b.slots.modify id f }

def setStatus (b : RowBuffer) (id : SlotId) (status : RowStatus) : RowBuffer :=
  b.modify id (RowSlot.withStatus · status)

/-- The slots of the positions from `first` to `last`. -/
def slotsBetween (b : RowBuffer) (first last : Nat) : List (Option SlotId) :=
  (List.range' first (last + 1 - first)).map b.slotAt?

/-- Without its rows; positions up to the given one will not come again. -/
def discardThrough (b : RowBuffer) (position : Nat) : RowBuffer :=
  { b with base := max position b.base, slots := [], order := [] }

/-- Without its rows, as at the beginning. -/
def clear (_ : RowBuffer) : RowBuffer :=
  {}

def markExhausted (b : RowBuffer) : RowBuffer :=
  { b with exhausted := true }

end RowBuffer

end ScrollCursor
