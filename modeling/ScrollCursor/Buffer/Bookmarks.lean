import ScrollCursor.Buffer.Rows

/-! # Bookmarks

A bookmark is the next number of a sequence, written in eight bytes, so none is ever given
twice. It is live until the row it names is deleted; a retired bookmark still leads a fetch
to the place of its row.
-/

namespace ScrollCursor

/-- The bytes of a number, the most significant one first. -/
def Bookmark.ofNumber (n : Nat) : Bookmark :=
  (List.range 8).map fun i => UInt8.ofNat (n >>> (8 * (7 - i)))

def Bookmark.hex (b : Bookmark) : String :=
  Text.Hex.lower b

/-- The bookmarks that a cursor has given out. -/
structure Bookmarks where
  /-- The last number given out. -/
  issued : Nat := 0
  live : List (Bookmark × SlotId) := []
  retired : List (Bookmark × SlotId) := []

namespace Bookmarks

/-- The live bookmark of a slot. -/
def ofSlot? (m : Bookmarks) (slot : SlotId) : Option Bookmark :=
  (m.live.find? fun entry => entry.2 == slot).map Prod.fst

/-- The bookmark of a slot, a new one if it has none, and the bookmarks afterwards. -/
def mint (m : Bookmarks) (slot : SlotId) : Bookmark × Bookmarks :=
  match m.ofSlot? slot with
  | some b => (b, m)
  | none =>
      let b := Bookmark.ofNumber (m.issued + 1)
      (b, { m with issued := m.issued + 1, live := m.live ++ [(b, slot)] })

/-- The slot that a live bookmark names. -/
def resolve? (m : Bookmarks) (b : Bookmark) : Option SlotId :=
  m.live.lookup b

/-- The slot that a bookmark names or named before it was retired. -/
def locate? (m : Bookmarks) (b : Bookmark) : Option SlotId :=
  (m.resolve? b).or (m.retired.lookup b)

/-- The slot's bookmark names no row any more. -/
def retire (m : Bookmarks) (slot : SlotId) : Bookmarks :=
  match m.ofSlot? slot with
  | none => m
  | some b =>
      { m with
        live := m.live.filter fun entry => entry.1 != b
        retired := m.retired ++ [(b, slot)] }

/-- Without any bookmark; the sequence goes on. -/
def forgetAll (m : Bookmarks) : Bookmarks :=
  { m with live := [], retired := [] }

end Bookmarks

end ScrollCursor
