import ScrollCursor.Proofs.Cursor.Inventory
import ScrollCursor.Proofs.Positioned.Answers

/-! # The rowset of a cursor

The rowset, its statuses and the current row are kept apart, and every call that moves one of them
moves the others along: there is a status for each row, the current row is one of them, and nothing
is left after the last row. A call that fails leaves all of them where they were.
-/

namespace ScrollCursor

namespace Cursor

variable {c d : Cursor}

/-- The rowset is at most a whole one and empty after the last row, and the current row is one of
its rows if it has any. -/
structure Standing (c : Cursor) : Prop where
  bounded : c.rowset.length ≤ c.size
  current_none : c.current = none ↔ c.rowset = []
  current_some : ∀ row, c.current = some row → 1 ≤ row ∧ row ≤ c.rowset.length
  afterLast : c.afterLast = true → c.rowset = []

/-- There is a status for each row besides. -/
structure InShape (c : Cursor) : Prop extends Standing c where
  statuses : c.statuses.length = c.rowset.length

theorem size_congr (h : SameStanding c d) : d.size = c.size := by
  rw [size, size, h.2.1]

/-- Where the cursor stands does not depend on the rows it holds. -/
theorem Standing.congr (h : Standing c) (hsame : SameStanding c d) : Standing d := by
  have hsize := size_congr hsame
  obtain ⟨-, -, -, -, hafterLast, hrowset, -, hcurrent⟩ := hsame
  refine ⟨?_, ?_, ?_, ?_⟩
  · rw [hrowset, hsize]
    exact h.bounded
  · rw [hcurrent, hrowset]
    exact h.current_none
  · rw [hcurrent, hrowset]
    exact h.current_some
  · rw [hafterLast, hrowset]
    exact h.afterLast

theorem InShape.congr (h : InShape c) (hsame : SameStanding c d) : InShape d := by
  refine ⟨h.toStanding.congr hsame, ?_⟩
  obtain ⟨-, -, -, -, -, hrowset, hstatuses, -⟩ := hsame
  rw [hrowset, hstatuses]
  exact h.statuses

/-- Statuses that are brought up to date are there for each row. -/
theorem Standing.syncStatuses (h : Standing c) : InShape c.syncStatuses :=
  ⟨⟨h.bounded, h.current_none, h.current_some, h.afterLast⟩, List.length_map _⟩

/-- A cursor without a rowset is in shape. -/
theorem inShape_clearRowset (c : Cursor) : InShape c.clearRowset where
  bounded := Nat.zero_le _
  current_none := iff_of_true rfl rfl
  current_some _ hrow := nomatch hrow
  afterLast _ := rfl
  statuses := rfl

/-- A cursor before the first row is in shape. -/
theorem inShape_moveBeforeFirst (c : Cursor) : InShape c.moveBeforeFirst :=
  { c.inShape_clearRowset with afterLast := fun _ => rfl }

/-- A cursor after the last row is in shape. -/
theorem inShape_moveAfterLast (c : Cursor) : InShape c.moveAfterLast :=
  { c.inShape_clearRowset with afterLast := fun _ => rfl }

/-- A cursor that has just been opened is before the first row. -/
theorem inShape_opened (kind : CursorKind) (dialect : Dialect) (options : StatementOptions)
    (result : ResultSet) : InShape (Cursor.opened kind dialect options result) where
  bounded := Nat.zero_le _
  current_none := iff_of_true rfl rfl
  current_some _ hrow := nomatch hrow
  afterLast hafter := nomatch hafter
  statuses := rfl

/-- A rowset is placed where at least one row is known. -/
theorem standing_placeRowset {position : Nat} (h : position ≤ c.buffer.count) :
    Standing (c.placeRowset position) := by
  have hpos := c.size_pos
  have hlength : (c.placeRowset position).rowset.length =
      min (position + c.size - 1) c.buffer.count + 1 - position := by
    rw [placeRowset, RowBuffer.slotsBetween, List.length_map, List.length_range']
  -- The last row is at or after the first: the size is not zero and the first position is known.
  have hsome : 1 ≤ (c.placeRowset position).rowset.length := by omega
  refine ⟨?_, iff_of_false (Option.some_ne_none 1) ?_, ?_, fun hafter => nomatch hafter⟩
  · change _ ≤ c.size
    omega
  · exact List.ne_nil_of_length_pos hsome
  · rintro row ⟨⟩
    exact ⟨Nat.le_refl 1, hsome⟩

/-- A rowset put together from bookmarks is in shape if it fits. -/
theorem inShape_replaceRowset {entries : List (Option SlotId)} {statuses : List RowStatus}
    (hlength : statuses.length = entries.length) (hsize : entries.length ≤ c.size) :
    InShape (c.replaceRowset entries statuses) := by
  refine ⟨⟨hsize, ?_, ?_, fun hafter => nomatch hafter⟩, hlength⟩
  · cases entries <;> simp [replaceRowset]
  · cases entries <;> simp [replaceRowset]

/-- Each row of a rowset can become the current one. -/
theorem InShape.moveTo (h : InShape c) {row : Nat} (hrow : 1 ≤ row ∧ row ≤ c.rowset.length) :
    InShape { c with current := some row } := by
  refine ⟨⟨h.bounded, iff_of_false (Option.some_ne_none row) ?_, ?_, h.afterLast⟩, h.statuses⟩
  · exact List.ne_nil_of_length_pos (Nat.le_trans hrow.1 hrow.2)
  · rintro _ ⟨⟩
    exact hrow

end Cursor

namespace Work

open Cursor (SameStanding InShape Standing)

variable {σ : Type} {w : Work σ}

/-! ## Fetches -/

/-- A rowset that is shown is in shape. -/
theorem inShape_showRowset (h : Standing w.cursor) : InShape w.showRowset.2.cursor :=
  (h.congr (w.sameStanding_rereadIf _ _)).syncStatuses

/-- To pull rows does not touch the rowset. -/
theorem inShape_pull (h : InShape w.cursor) (demand : Demand) :
    InShape (w.pull demand).2.cursor :=
  h.congr (w.pull_pulls demand).sameStanding

/-- A fetch to a position leaves the rowset in shape. -/
theorem inShape_fetchAt (h : InShape w.cursor) (position : Nat) :
    InShape (w.fetchAt position).2.cursor := by
  have hdrop : InShape (w.onCursor (Cursor.dropBehind · position)).cursor :=
    h.congr (Cursor.sameStanding_dropBehind w.cursor position)
  have hpull := inShape_pull hdrop (.upTo (position + (w.cursor.dropBehind position).size - 1))
  rcases w.fetchAt_cases position rfl with ⟨e, -, hfetch⟩ | ⟨-, -, hfetch⟩ | ⟨-, hknown, hfetch⟩
  · rw [hfetch]
    exact hpull
  · rw [hfetch]
    exact Cursor.inShape_moveAfterLast _
  · rw [hfetch]
    exact inShape_showRowset (Cursor.standing_placeRowset hknown)

theorem inShape_fetch (h : InShape w.cursor) (orientation : Orientation) :
    InShape (w.fetch orientation).2.cursor :=
  fetch_of_parts (P := fun v => InShape v.cursor) h (inShape_pull h .everything)
    (fun v _ => Cursor.inShape_moveBeforeFirst v.cursor)
    (fun v _ => Cursor.inShape_moveAfterLast v.cursor)
    (fun _ position h => inShape_fetchAt h position) orientation

/-! ## Writes -/

/-- A request that moves nothing is answered without a move. -/
theorem sameStanding_send (w : Work σ) (request : Request) {change : Cursor → Cursor}
    (status : RowStatus) (hchange : SameStanding w.cursor (change w.cursor)) :
    SameStanding w.cursor (w.send request change status).2.cursor := by
  unfold send
  split
  · exact .refl _
  · split
    · exact .refl _
    · exact hchange

/-- An update does not move the cursor. -/
theorem sameStanding_updateSlot (w : Work σ) (key : KeySet) (supplied : Supplied) (id : SlotId)
    (bindingRow : Nat) :
    SameStanding w.cursor (w.updateSlot key supplied id bindingRow).2.cursor := by
  unfold updateSlot
  repeat' split
  all_goals try exact .refl _
  exact w.sameStanding_send _ _ (.refl _)

theorem sameStanding_deleteSlot (w : Work σ) (key : KeySet) (id : SlotId) :
    SameStanding w.cursor (w.deleteSlot key id).2.cursor := by
  unfold deleteSlot
  repeat' split
  all_goals try exact .refl _
  exact w.sameStanding_send _ _ (.refl _)

theorem sameStanding_addOne (supplied : Supplied) (table : TableRef) (numbered : Option Nat)
    (w : Work σ) (row : Nat) :
    SameStanding w.cursor (addOne supplied table numbered w row).2.2.cursor := by
  rcases addOne_cursor supplied table numbered w row with ⟨-, hsame⟩ | ⟨values, -, hadded⟩
  · rw [hsame]
    exact .refl _
  · rw [hadded, Cursor.addRow]
    dsimp only
    split <;> exact .refl _

/-- No part of a write moves the rowset, and at the end there is a status for each row again. -/
theorem keptByParts_inShape : KeptByParts fun w : Work σ => InShape w.cursor where
  keySet h := h.congr (sameStanding_keySet _)
  reread rows h _ := h.congr (sameStanding_reread _ rows)
  updateSlot key supplied id bindingRow h _ :=
    h.congr (sameStanding_updateSlot _ key supplied id bindingRow)
  deleteSlot key id h _ := h.congr (sameStanding_deleteSlot _ key id)
  addOne supplied table numbered row h :=
    h.congr (sameStanding_addOne supplied table numbered _ row)
  sync h := h.toStanding.syncStatuses
  finish _ h := h

/-! ## By row number -/

/-- A refresh keeps the rowset and its shape. -/
theorem inShape_refresh (h : InShape w.cursor) (rows : List Nat) :
    InShape (w.refresh rows).2.cursor ∧ (w.refresh rows).2.cursor.rowset = w.cursor.rowset := by
  have hreread := w.sameStanding_rereadIf rows (w.cursor.kind.rereads = true)
  exact ⟨(h.toStanding.congr hreread).syncStatuses, hreread.2.2.2.2.2.1⟩

/-- The first row that is refreshed is one of the rowset. -/
theorem head?_targetRows_refresh {row : Nat} (hsome : 0 < w.cursor.rowset.length)
    (hle : row ≤ w.cursor.rowset.length) :
    ∃ first, (w.targetRows row .refresh).head? = some first ∧
      1 ≤ first ∧ first ≤ w.cursor.rowset.length := by
  unfold targetRows
  split
  next hrow => exact ⟨row, rfl, Nat.pos_of_ne_zero hrow, hle⟩
  next =>
    refine ⟨1, ?_, Nat.le_refl 1, hsome⟩
    rw [if_neg RowOperation.noConfusion, List.head?_range', if_neg (Nat.ne_of_gt hsome)]

/-- A refresh that makes a row the current one keeps the shape. -/
theorem inShape_refreshRows (h : InShape w.cursor) {row : Nat}
    (hsome : 0 < w.cursor.rowset.length) (hle : row ≤ w.cursor.rowset.length) :
    InShape (w.refreshRows (w.targetRows row .refresh)).2.cursor := by
  obtain ⟨hshape, hrowset⟩ := inShape_refresh h (w.targetRows row .refresh)
  obtain ⟨first, hhead, hfirst⟩ := head?_targetRows_refresh hsome hle
  have hmoved := hshape.moveTo (hrowset ▸ hfirst)
  unfold refreshRows
  dsimp only
  rw [hhead]
  exact hmoved

/-- A call for rows of the rowset keeps its shape. -/
theorem inShape_setPosition (h : InShape w.cursor) {row : Nat} {operation : RowOperation}
    {lock : LockType} (hvalid : w.cursor.validate row operation lock = .ok ())
    (supplied : Supplied) : InShape (w.setPosition row operation supplied).2.cursor := by
  have hrow := (Cursor.validate_eq_ok_iff.mp hvalid).2.2.2
  refine keptByParts_inShape.setPosition (P := fun w => InShape w.cursor) h row operation supplied
    (fun hposition => ?_) fun hrefresh => ?_
  · subst hposition
    obtain ⟨-, hzero, hle⟩ := hrow
    exact h.moveTo ⟨Nat.pos_of_ne_zero fun hrow => hzero ⟨rfl, hrow⟩, hle⟩
  · subst hrefresh
    obtain ⟨hsome, -, hle⟩ := hrow
    exact inShape_refreshRows h hsome hle

/-! ## By bookmark -/

/-- No more bookmarks are bound than a rowset has rows. -/
theorem length_of_bookmarkRows {rows : List Nat} (h : w.bookmarkRows = .ok rows) :
    rows.length ≤ w.cursor.size := by
  unfold bookmarkRows at h
  split at h
  · cases h
  · split at h
    · cases h
    · cases h
      rw [List.length_range']
      exact Nat.min_le_right _ _

/-- Rows fetched by bookmark are a rowset in shape. -/
theorem inShape_fetchByBookmark {rows : List Nat} (hrows : rows.length ≤ w.cursor.size) :
    InShape (w.fetchByBookmark rows).2.cursor := by
  rw [(w.fetchByBookmark_eq rows).1]
  refine Cursor.inShape_replaceRowset ?_ ?_
  · rw [List.length_map, List.length_map]
  · rwa [List.length_map]

/-- A call for rows of bound arrays keeps the rowset in shape. -/
theorem inShape_bulk (h : InShape w.cursor) (operation : BulkOperation) (supplied : Supplied) :
    InShape (w.bulk operation supplied).2.cursor :=
  keptByParts_inShape.bulk (P := fun w => InShape w.cursor) h operation supplied
    fun _ hrows => inShape_fetchByBookmark (length_of_bookmarkRows hrows)

end Work

namespace Cursor

variable {c : Cursor}

/-- The rowset of every reachable cursor is in shape. -/
theorem Reachable.inShape (h : Reachable c) : InShape c := by
  induction h with
  | opened kind dialect options result => exact inShape_opened kind dialect options result
  | fetch w orientation _ ih => exact Work.inShape_fetch ih orientation
  | setPosition w row operation lock supplied _ hvalid ih =>
      exact Work.inShape_setPosition ih hvalid supplied
  | bulk w operation supplied _ ih => exact Work.inShape_bulk ih operation supplied
  | keySet w _ ih => exact ih.congr w.sameStanding_keySet

end Cursor

end ScrollCursor
