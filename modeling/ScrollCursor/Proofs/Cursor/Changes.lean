import Mathlib.Logic.Relation
import ScrollCursor.Proofs.Cursor.Fetching
import ScrollCursor.Proofs.Positioned.Parts
import ScrollCursor.Statement.Basic

/-! # Changes of a cursor

Whatever is called on a cursor, it changes in a few ways only: rows are pulled, the rowset
moves, slots and bookmarks change, rows are added. Every operation is a sequence of such
changes, so a property that each of them keeps holds after every call.
-/

namespace ScrollCursor

/-- A row that is not deleted has other contents: it is still not deleted and in its place. -/
structure RowSlot.Rewritten (slot slot' : RowSlot) : Prop where
  before : slot.isDeleted = false
  after : slot'.isDeleted = false
  position : slot'.position = slot.position

namespace Cursor

/-- One thing that pulling does. -/
inductive Pull : Cursor → Cursor → Prop
  | row {c : Cursor} {values : Record} {rest : RowStream} (h : c.stream = .ok values :: rest) :
      Pull c { c with stream := rest, buffer := c.buffer.append values }
  | failure {c : Cursor} {e : Error} {rest : RowStream} (h : c.stream = .error e :: rest) :
      Pull c { c with stream := rest }
  | atEnd (c : Cursor) : Pull c { c with buffer := c.buffer.markExhausted }

abbrev Pulls : Cursor → Cursor → Prop :=
  Relation.ReflTransGen Pull

/-- One change of a cursor. -/
inductive Change : Cursor → Cursor → Prop
  | pull {c d : Cursor} (h : Pull c d) : Change c d
  | drop (c : Cursor) (position : Nat) : Change c (c.dropBehind position)
  | beforeFirst (c : Cursor) : Change c c.moveBeforeFirst
  | afterLast (c : Cursor) : Change c c.moveAfterLast
  | place (c : Cursor) (position : Nat) : Change c (c.placeRowset position)
  /-- Rows that live bookmarks name become the rowset. -/
  | replace (c : Cursor) (entries : List (Option SlotId)) (statuses : List RowStatus)
      (h : ∀ id, some id ∈ entries → ∃ b, c.bookmarks.resolve? b = some id) :
      Change c (c.replaceRowset entries statuses)
  | sync (c : Cursor) : Change c c.syncStatuses
  | current (c : Cursor) (row : Option Nat) : Change c { c with current := row }
  | key (c : Cursor) (key : Except Error KeySet) : Change c { c with key := some key }
  | modify (c : Cursor) (id : SlotId) (f : RowSlot → RowSlot)
      (h : ∀ slot, c.buffer.slot? id = some slot → slot.Rewritten (f slot)) :
      Change c (c.modifySlot id f)
  | delete (c : Cursor) (id : SlotId) : Change c (c.markDeleted id)
  | add (c : Cursor) (values : Record) : Change c (c.addRow values).2

abbrev Changes : Cursor → Cursor → Prop :=
  Relation.ReflTransGen Change

/-- To pull rows is one of the things a cursor does. -/
theorem Pulls.changes {c d : Cursor} (h : Pulls c d) : Changes c d :=
  Relation.ReflTransGen.mono (fun _ _ => Change.pull) _ _ h

/-- A demand that is met already changes nothing but the mark of the end. -/
theorem pulls_settled (c : Cursor) {limit : Option Nat} {demand : Demand} {settled : RowBuffer}
    (h : Pulled.settled? limit demand c.buffer = some settled) :
    Pulls c { c with buffer := settled } := by
  obtain ⟨rfl | rfl, -⟩ := Pulled.settled?_eq_some h
  · exact .refl
  · exact .single (.atEnd c)

/-- Rows are pulled one after the other. -/
theorem pulls_run (c : Cursor) (limit : Option Nat) (demand : Demand) (stream : RowStream)
    (buffer : RowBuffer) (asked : Nat) :
    Pulls { c with stream := stream, buffer := buffer }
      { c with
        stream := (Pulled.run limit demand stream buffer asked).stream
        buffer := (Pulled.run limit demand stream buffer asked).buffer } := by
  fun_induction Pulled.run limit demand stream buffer asked with
  | case1 buffer asked settled h => exact pulls_settled { c with stream := [], buffer := buffer } h
  | case2 buffer asked h => exact .single (.atEnd _)
  | case3 item rest buffer asked settled h =>
      exact pulls_settled { c with stream := item :: rest, buffer := buffer } h
  | case4 rest buffer asked h e => exact .single (.failure rfl)
  | case5 rest buffer asked h row ih => exact .head (.row rfl) ih

end Cursor

namespace Work

open Cursor (Pulls Changes Change)

variable {σ α : Type}

/-- Whatever is demanded, rows are pulled and nothing else is done. -/
theorem pull_pulls (w : Work σ) (demand : Demand) : Pulls w.cursor (w.pull demand).2.cursor :=
  Cursor.pulls_run w.cursor _ demand w.cursor.stream w.cursor.buffer 0

theorem pull_changes (w : Work σ) (demand : Demand) :
    Changes w.cursor (w.pull demand).2.cursor :=
  (w.pull_pulls demand).changes

/-- To count the rows of a result is to pull them. -/
theorem counted_pulls (w : Work σ) (move : Move) :
    Pulls w.cursor (w.counted move).2.cursor := by
  unfold counted
  split
  · exact w.pull_pulls .everything
  · exact .refl

/-- What is done step by step is made of the changes of the steps. -/
theorem foldl_changes {f : Work σ → α → Work σ}
    (h : ∀ w x, Changes w.cursor (f w x).cursor) (w : Work σ) (xs : List α) :
    Changes w.cursor (xs.foldl f w).cursor := by
  induction xs generalizing w with
  | nil => exact .refl
  | cons x xs ih => exact (h w x).trans (ih (f w x))

theorem forRows_changes {f : Work σ → Nat → RowResult × RowStatus × Work σ}
    (h : ∀ w row, Changes w.cursor (f w row).2.2.cursor) (w : Work σ) (rows : List Nat) :
    Changes w.cursor (forRows f w rows).2.cursor :=
  forRows_of_row (P := fun v => Changes w.cursor v.cursor) (fun v row hv => hv.trans (h v row)) .refl
    rows

/-- To ask for the key sets the key at most. -/
theorem keySet_changes (w : Work σ) : Changes w.cursor w.keySet.2.cursor := by
  unfold keySet
  split
  · exact .refl
  · exact .single (.key _ _)

/-! ## Reading rows again -/

/-- A row that is read again is rewritten in its slot. -/
theorem rewritten_rereadSlot (ordinals : List Nat) (values : Record) {slot : RowSlot}
    (h : slot.isDeleted = false) : slot.Rewritten (rereadSlot ordinals values slot) := by
  unfold rereadSlot
  dsimp only
  split
  · exact ⟨h, rfl, rfl⟩
  · exact ⟨h, h, rfl⟩

/-- To read a row again changes its slot at most. -/
theorem rereadRow_changes (key : KeySet) (w : Work σ) (row : Nat) :
    Changes w.cursor (rereadRow key w row).cursor := by
  unfold rereadRow
  split
  · exact .refl
  next id _ =>
    split
    · exact .refl
    next slot hslot =>
      split
      · exact .refl
      next hdeleted =>
        have hlive : ∀ slot', w.cursor.buffer.slot? id = some slot' → slot'.isDeleted = false := by
          intro slot' hslot'
          cases hslot.symm.trans hslot'
          exact Bool.eq_false_iff.mpr hdeleted
        -- The answer is a row, no row or an error.
        split
        · exact .single (.modify _ _ _ fun slot' h => rewritten_rereadSlot _ _ (hlive slot' h))
        · exact .single (.delete _ _)
        · exact .single (.modify _ _ _ fun slot' h => ⟨hlive slot' h, rfl, rfl⟩)

theorem reread_changes (w : Work σ) (rows : List Nat) :
    Changes w.cursor (w.reread rows).cursor := by
  have hkey := w.keySet_changes
  unfold reread
  split
  next h =>
    rw [h] at hkey
    exact hkey
  next h =>
    rw [h] at hkey
    exact hkey.trans (foldl_changes (rereadRow_changes _) _ _)

theorem rereadIf_changes (w : Work σ) (rows : List Nat) (p : Prop) [Decidable p] :
    Changes w.cursor (if p then w.reread rows else w).cursor := by
  split
  · exact w.reread_changes rows
  · exact .refl

theorem refresh_changes (w : Work σ) (rows : List Nat) :
    Changes w.cursor (w.refresh rows).2.cursor :=
  (w.rereadIf_changes rows _).tail (.sync _)

/-! ## Fetching -/

theorem showRowset_changes (w : Work σ) : Changes w.cursor w.showRowset.2.cursor :=
  (w.rereadIf_changes _ _).tail (.sync _)

/-- To show a rowset pulls rows, places the rowset and may read it again. -/
theorem fetchAt_changes (w : Work σ) (position : Nat) :
    Changes w.cursor (w.fetchAt position).2.cursor := by
  have hdrop : Changes w.cursor (w.cursor.dropBehind position) := .single (.drop _ _)
  have hpull := (w.onCursor (Cursor.dropBehind · position)).pull_changes
    (.upTo (position + (w.onCursor (Cursor.dropBehind · position)).cursor.size - 1))
  unfold fetchAt
  dsimp only
  split
  next h =>
    rw [h] at hpull
    exact hdrop.trans hpull
  next after h =>
    rw [h] at hpull
    split
    · exact (hdrop.trans hpull).tail (.afterLast _)
    · have hplace : Changes w.cursor (after.onCursor (Cursor.placeRowset · position)).cursor :=
        (hdrop.trans hpull).tail (.place _ position)
      exact hplace.trans (showRowset_changes _)

theorem fetch_changes (w : Work σ) (orientation : Orientation) :
    Changes w.cursor (w.fetch orientation).2.cursor :=
  fetch_of_parts (P := fun v => Changes w.cursor v.cursor) .refl (w.pull_changes .everything)
    (fun v h => h.tail (.beforeFirst v.cursor)) (fun v h => h.tail (.afterLast v.cursor))
    (fun v position h => h.trans (v.fetchAt_changes position)) orientation

/-! ## Writing -/

/-- A request changes the cursor as its answer says, or not at all. -/
theorem send_changes (w : Work σ) (request : Request) {change : Cursor → Cursor}
    (status : RowStatus) (h : Change w.cursor (change w.cursor)) :
    Changes w.cursor (w.send request change status).2.cursor := by
  unfold send
  split
  · exact .refl
  · split
    · exact .refl
    · exact .single h

/-- A row that can be written has a slot, and is not deleted. -/
theorem exists_slot_of_liveImage {w : Work σ} {id : SlotId} {image : Record}
    (h : w.liveImage id = .ok image) :
    ∃ slot, w.cursor.buffer.slot? id = some slot ∧ slot.isDeleted = false ∧
      slot.image = image := by
  unfold liveImage at h
  split at h
  · cases h
  next slot hslot =>
    split at h
    · cases h
    next hdeleted =>
      cases h
      exact ⟨slot, hslot, Bool.eq_false_iff.mpr hdeleted, rfl⟩

/-- An update rewrites one slot at most. -/
theorem updateSlot_changes (w : Work σ) (key : KeySet) (supplied : Supplied) (id : SlotId)
    (bindingRow : Nat) : Changes w.cursor (w.updateSlot key supplied id bindingRow).2.cursor := by
  unfold updateSlot
  split
  · exact .refl
  next image himage =>
    obtain ⟨slot, hslot, hlive, -⟩ := exists_slot_of_liveImage himage
    -- Without a request nothing changes.
    repeat' split
    all_goals try exact .refl
    refine w.send_changes _ _ (.modify _ _ _ fun slot' h => ?_)
    cases hslot.symm.trans h
    exact ⟨hlive, rfl, rfl⟩

/-- A deletion marks one slot at most. -/
theorem deleteSlot_changes (w : Work σ) (key : KeySet) (id : SlotId) :
    Changes w.cursor (w.deleteSlot key id).2.cursor := by
  unfold deleteSlot
  repeat' split
  all_goals try exact .refl
  exact w.send_changes _ _ (.delete _ _)

theorem onRow_changes {f : Work σ → SlotId → RowResult × Work σ}
    (h : ∀ w id, Changes w.cursor (f w id).2.cursor) (w : Work σ) (row : Nat) :
    Changes w.cursor (w.onRow f row).2.2.cursor :=
  onRow_of_slot (P := fun v => Changes w.cursor v.cursor) (fun v id hv => hv.trans (h v id)) .refl row

/-- An addition stores one row at most. -/
theorem addOne_changes (supplied : Supplied) (table : TableRef) (numbered : Option Nat)
    (w : Work σ) (row : Nat) :
    Changes w.cursor (addOne supplied table numbered w row).2.2.cursor := by
  unfold addOne insertRow
  dsimp only
  repeat' split
  all_goals try exact .refl
  exact .single (.add _ _)

/-- Each part of a write changes the cursor in the ways that there are. -/
theorem keptByParts_changes (c : Cursor) :
    KeptByParts fun w : Work σ => Changes c w.cursor where
  keySet h := h.trans (keySet_changes _)
  reread rows h _ := h.trans (reread_changes _ rows)
  updateSlot key supplied id bindingRow h _ :=
    h.trans (updateSlot_changes _ key supplied id bindingRow)
  deleteSlot key id h _ := h.trans (deleteSlot_changes _ key id)
  addOne supplied table numbered row h := h.trans (addOne_changes supplied table numbered _ row)
  sync h := h.tail (.sync _)
  finish _ h := h

theorem prepareWrite_changes (w : Work σ) (rows : List Nat) :
    Changes w.cursor (w.prepareWrite rows).2.cursor :=
  (keptByParts_changes w.cursor).prepareWrite .refl rows

/-! ## By bookmark -/

theorem onBookmark_changes {f : Work σ → SlotId → Nat → RowResult × Work σ}
    (h : ∀ w id row, Changes w.cursor (f w id row).2.cursor) (w : Work σ) (row : Nat) :
    Changes w.cursor (w.onBookmark f row).2.2.cursor :=
  onBookmark_of_slot (P := fun v => Changes w.cursor v.cursor)
    (fun v id row hv => hv.trans (h v id row)) .refl row

/-- Work that leaves everything as it is makes the report of each row by itself. -/
theorem forRows_of_same {f : Work σ → Nat → RowResult × RowStatus × Work σ} {w : Work σ}
    (h : ∀ row, (f w row).2.2 = w) (rows : List Nat) :
    forRows f w rows = (rows.map fun row => ⟨row, (f w row).1, (f w row).2.1⟩, w) := by
  induction rows with
  | nil => rfl
  | cons row rows ih =>
      unfold forRows
      dsimp only
      rw [h row, ih]
      rfl

/-- What only looks at a slot changes nothing. -/
theorem onBookmark_same (w : Work σ) {g : Work σ → SlotId → RowResult} (row : Nat) :
    (w.onBookmark (fun w id _ => (g w id, w)) row).2.2 = w := by
  unfold onBookmark
  split
  · rfl
  · split <;> rfl

/-- Looking rows up by bookmark leaves everything as it is. -/
theorem forRows_onBookmark_same (w : Work σ) (rows : List Nat) {g : Work σ → SlotId → RowResult} :
    (forRows (onBookmark fun w id _ => (g w id, w)) w rows).2 = w := by
  rw [forRows_of_same w.onBookmark_same]

theorem fetchByBookmark_changes (w : Work σ) (rows : List Nat) :
    Changes w.cursor (w.fetchByBookmark rows).2.cursor := by
  have hsame := w.forRows_onBookmark_same rows
    (g := fun w id => .done 0 (w.cursor.slotStatus id))
  unfold fetchByBookmark
  dsimp only [finish, onCursor]
  rw [hsame]
  -- The entries are the slots that live bookmarks name, and none where a bookmark names nothing.
  refine .single (.replace _ _ _ fun id hid => ?_)
  obtain ⟨row, -, hrow⟩ := List.mem_map.mp hid
  obtain ⟨b, -, hb⟩ := Option.bind_eq_some_iff.mp hrow
  exact ⟨b, hb⟩

/-! ## Calls -/

/-- An operation on the rowset is made of the changes there are. -/
theorem setPosition_changes (w : Work σ) (row : Nat) (operation : RowOperation)
    (supplied : Supplied) : Changes w.cursor (w.setPosition row operation supplied).2.cursor :=
  (keptByParts_changes w.cursor).setPosition .refl row operation supplied
    (fun _ => .single (.current _ _)) fun _ => (w.refresh_changes _).tail (.current _ _)

theorem bulk_changes (w : Work σ) (operation : BulkOperation) (supplied : Supplied) :
    Changes w.cursor (w.bulk operation supplied).2.cursor :=
  (keptByParts_changes w.cursor).bulk .refl operation supplied
    fun rows _ => w.fetchByBookmark_changes rows

/-- Making the current row known asks for the key at most. -/
theorem currentTarget_eq_or (w : Work σ) :
    w.currentTarget.2 = w ∨ w.currentTarget.2 = w.keySet.2 := by
  unfold currentTarget
  split
  · exact Or.inl rfl
  · right
    split <;> simp [*]

/-- To tell where the cursor stands sets its key at most. -/
theorem currentTarget_changes (w : Work σ) : Changes w.cursor w.currentTarget.2.cursor := by
  rcases w.currentTarget_eq_or with h | h
  · rw [h]
  · rw [h]
    exact w.keySet_changes

end Work

end ScrollCursor
