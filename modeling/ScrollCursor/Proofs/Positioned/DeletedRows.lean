import ScrollCursor.Proofs.Cursor.Refilled
import ScrollCursor.Proofs.Positioned.Answers

/-! # Deleted rows are not looked at

No work on a cursor reads what a deleted row holds. With other contents in the row, every operation
sends the same requests, gives the same answer and leaves the row with its other contents.
-/

namespace ScrollCursor

namespace Work

variable {σ : Type}

/-- The row of a slot has other contents. -/
def refilled (w : Work σ) (id : SlotId) (values image : Record) : Work σ :=
  w.onCursor (Cursor.refilled · id values image)

/-- The row of a slot is deleted for good. -/
structure Gone (w : Work σ) (id : SlotId) : Prop where
  scrolls : w.cursor.kind.isScrollable = true
  deleted : w.cursor.slotStatus id = .deleted

variable {w v : Work σ} {id : SlotId}

/-- A deleted row stays deleted whatever the cursor does on. -/
theorem Gone.of_changes (h : w.Gone id) (hsteps : Cursor.Changes w.cursor v.cursor) :
    v.Gone id :=
  ⟨hsteps.sameFrame.1 ▸ h.scrolls, Cursor.deleted_of_changes h.scrolls hsteps h.deleted⟩

theorem Gone.lt_resident (h : w.Gone id) : id < w.cursor.buffer.resident := by
  obtain ⟨slot, hslot, -⟩ := Cursor.slotStatus_eq_deleted.mp h.deleted
  exact RowBuffer.lt_resident_of_slot? hslot

/-! ## Refusals -/

/-- There is no row to write where a row has been deleted. -/
theorem liveImage_of_deleted (h : w.cursor.slotStatus id = .deleted) :
    w.liveImage id = .error (.cursorPosition "row has been deleted") := by
  obtain ⟨slot, hslot, hdeleted⟩ := Cursor.slotStatus_eq_deleted.mp h
  simp [liveImage, hslot, hdeleted]

/-- To update a deleted row fails, and nothing is sent. -/
theorem updateSlot_of_deleted (h : w.cursor.slotStatus id = .deleted) (key : KeySet)
    (supplied : Supplied) (bindingRow : Nat) :
    w.updateSlot key supplied id bindingRow =
      (.failed (.cursorPosition "row has been deleted"), w) := by
  rw [updateSlot, liveImage_of_deleted h]

/-- To delete a row once more fails, and nothing is sent. -/
theorem deleteSlot_of_deleted (h : w.cursor.slotStatus id = .deleted) (key : KeySet) :
    w.deleteSlot key id = (.failed (.cursorPosition "row has been deleted"), w) := by
  rw [deleteSlot, liveImage_of_deleted h]

/-- A deleted row is not read again. -/
theorem rereadRow_of_deleted (h : w.cursor.slotStatus id = .deleted) (key : KeySet) {row : Nat}
    (hrow : w.cursor.slotOf? row = some id) : rereadRow key w row = w := by
  obtain ⟨slot, hslot, hdeleted⟩ := Cursor.slotStatus_eq_deleted.mp h
  simp [rereadRow, hrow, hslot, hdeleted]

/-! ## Single rows -/

variable (values image : Record)

theorem refilled_bindings (w : Work σ) (id : SlotId) :
    (w.refilled id values image).bindings = w.bindings := rfl

theorem refilled_cursor (w : Work σ) (id : SlotId) :
    (w.refilled id values image).cursor = w.cursor.refilled id values image := rfl

theorem refilled_link (w : Work σ) (id : SlotId) :
    (w.refilled id values image).link = w.link := rfl

theorem pull_refilled (h : w.Gone id) (demand : Demand) :
    (w.refilled id values image).pull demand =
      ((w.pull demand).1, (w.pull demand).2.refilled id values image) := by
  have hrun := Pulled.run_refilled values image w.cursor.options.maxRows demand w.cursor.stream
    h.lt_resident 0
  unfold pull
  dsimp only [refilled, onCursor, Cursor.refilled]
  rw [hrun]

theorem keySet_refilled (w : Work σ) (id : SlotId) :
    (w.refilled id values image).keySet =
      (w.keySet.1, w.keySet.2.refilled id values image) := by
  have hkey : (w.refilled id values image).cursor.key = w.cursor.key := rfl
  unfold keySet
  rw [hkey]
  cases w.cursor.key <;> rfl

/-- No row that is still to be written is taken from the slot of a deleted one. -/
theorem liveImage_refilled (h : w.Gone id) (other : SlotId) :
    (w.refilled id values image).liveImage other = w.liveImage other := by
  by_cases hother : other = id
  · subst hother
    have hdeleted : (w.refilled other values image).cursor.slotStatus other = .deleted :=
      (w.cursor.slotStatus_refilled values image other other).trans h.deleted
    rw [liveImage_of_deleted h.deleted, liveImage_of_deleted hdeleted]
  · have hslot : (w.refilled id values image).cursor.buffer.slot? other =
        w.cursor.buffer.slot? other := RowBuffer.slot?_refilled_of_ne values image hother
    rw [liveImage, liveImage, hslot]

/-- What is sent for one row does not depend on the others. -/
theorem send_refilled {change : Cursor → Cursor}
    (hchange : change (w.cursor.refilled id values image) =
      (change w.cursor).refilled id values image) (request : Request) (status : RowStatus) :
    (w.refilled id values image).send request change status =
      ((w.send request change status).1,
        (w.send request change status).2.refilled id values image) := by
  unfold send
  rw [refilled_link]
  generalize w.link.execute request = answered
  obtain ⟨answer, link⟩ := answered
  cases answer with
  | error e => rfl
  | ok answer =>
      dsimp only
      split
      · rfl
      · refine congrArg (Prod.mk _) ?_
        change Work.mk (change (w.cursor.refilled id values image)) _ _ _ = _
        rw [hchange]
        rfl

/-- An update of any row is the same one, whatever stands in the slot of a deleted row. -/
theorem updateSlot_refilled (h : w.Gone id) (key : KeySet) (supplied : Supplied) (other : SlotId)
    (bindingRow : Nat) :
    (w.refilled id values image).updateSlot key supplied other bindingRow =
      ((w.updateSlot key supplied other bindingRow).1,
        (w.updateSlot key supplied other bindingRow).2.refilled id values image) := by
  unfold updateSlot
  rw [liveImage_refilled values image h]
  cases hlive : w.liveImage other with
  | error e => rfl
  | ok found =>
      have hother : other ≠ id := by
        rintro rfl
        rw [liveImage_of_deleted h.deleted] at hlive
        cases hlive
      dsimp only [refilled_bindings, refilled_cursor, Cursor.refilled_descriptor,
        Cursor.refilled_dialect]
      rcases w.bindings.assignments supplied bindingRow w.cursor.descriptor key.table with
        e | ⟨_ | ⟨assignment, assignments⟩⟩
      · rfl
      · rfl
      · dsimp only
        cases w.cursor.dialect.update key w.cursor.descriptor found (assignment :: assignments) with
        | error e => rfl
        | ok request =>
            exact send_refilled values image (Cursor.modifySlot_refilled values image hother _) _ _

theorem deleteSlot_refilled (h : w.Gone id) (key : KeySet) (other : SlotId) :
    (w.refilled id values image).deleteSlot key other =
      ((w.deleteSlot key other).1, (w.deleteSlot key other).2.refilled id values image) := by
  unfold deleteSlot
  rw [liveImage_refilled values image h]
  cases w.liveImage other with
  | error e => rfl
  | ok found =>
      dsimp only [refilled_cursor, Cursor.refilled_dialect]
      cases w.cursor.dialect.delete key found with
      | error e => rfl
      | ok request =>
          exact send_refilled values image (w.cursor.markDeleted_refilled values image id other) _ _

theorem rereadRow_refilled (h : w.Gone id) (key : KeySet) (row : Nat) :
    rereadRow key (w.refilled id values image) row =
      (rereadRow key w row).refilled id values image := by
  cases hrow : w.cursor.slotOf? row with
  | none =>
      have hrow' : (w.refilled id values image).cursor.slotOf? row = none := hrow
      rw [rereadRow, rereadRow, hrow, hrow']
  | some other =>
      by_cases hother : other = id
      · subst hother
        have hdeleted : (w.refilled other values image).cursor.slotStatus other = .deleted :=
          (w.cursor.slotStatus_refilled values image other other).trans h.deleted
        rw [rereadRow_of_deleted h.deleted key hrow, rereadRow_of_deleted hdeleted key hrow]
      · have hrow' : (w.refilled id values image).cursor.slotOf? row = some other := hrow
        have hslot : (w.refilled id values image).cursor.buffer.slot? other =
            w.cursor.buffer.slot? other := RowBuffer.slot?_refilled_of_ne values image hother
        rw [rereadRow, rereadRow, hrow, hrow']
        dsimp only
        rw [hslot]
        cases w.cursor.buffer.slot? other with
        | none => rfl
        | some slot =>
            dsimp only
            split
            · rfl
            · have hread : (w.refilled id values image).readByKey key slot.image =
                  w.readByKey key slot.image := rfl
              rw [hread]
              generalize w.readByKey key slot.image = found
              obtain ⟨answer, link⟩ := found
              cases answer with
              | error e =>
                  have hmodify := Cursor.modifySlot_refilled (c := w.cursor) values image hother
                    (RowSlot.withStatus · .error)
                  simp only [refilled, onCursor, hmodify]
              | ok found =>
                  cases found with
                  | none =>
                      have hdelete := w.cursor.markDeleted_refilled values image id other
                      simp only [refilled, onCursor, hdelete]
                  | some found =>
                      have hmodify := Cursor.modifySlot_refilled (c := w.cursor) values image hother
                        (rereadSlot found.2 found.1)
                      simp only [refilled, onCursor, hmodify]

/-! ## Several rows -/

theorem foldl_rereadRow_refilled (h : w.Gone id) (key : KeySet) (rows : List Nat) :
    rows.foldl (rereadRow key) (w.refilled id values image) =
      (rows.foldl (rereadRow key) w).refilled id values image := by
  induction rows generalizing w with
  | nil => rfl
  | cons row rows ih =>
      rw [List.foldl_cons, rereadRow_refilled values image h]
      exact ih (h.of_changes (rereadRow_changes key w row))

theorem reread_refilled (h : w.Gone id) (rows : List Nat) :
    (w.refilled id values image).reread rows = (w.reread rows).refilled id values image := by
  have hkey := h.of_changes w.keySet_changes
  unfold reread
  rw [keySet_refilled]
  generalize w.keySet = found at hkey ⊢
  obtain ⟨key, after⟩ := found
  cases key with
  | error e => rfl
  | ok key => exact foldl_rereadRow_refilled values image hkey key rows

theorem rereadIf_refilled (h : w.Gone id) (rows : List Nat) (p : Prop) [Decidable p] :
    (if p then (w.refilled id values image).reread rows else w.refilled id values image) =
      (if p then w.reread rows else w).refilled id values image := by
  split
  · exact reread_refilled values image h rows
  · rfl

theorem forRows_refilled {f : Work σ → Nat → RowResult × RowStatus × Work σ}
    (hf : ∀ w row, w.Gone id → f (w.refilled id values image) row =
      ((f w row).1, (f w row).2.1, (f w row).2.2.refilled id values image))
    (hchanges : ∀ w row, Cursor.Changes w.cursor (f w row).2.2.cursor) (h : w.Gone id)
    (rows : List Nat) :
    forRows f (w.refilled id values image) rows =
      ((forRows f w rows).1, (forRows f w rows).2.refilled id values image) := by
  induction rows generalizing w with
  | nil => rfl
  | cons row rows ih =>
      have hrest := ih (h.of_changes (hchanges w row))
      unfold forRows
      dsimp only
      rw [hf w row h]
      dsimp only
      rw [hrest]

theorem onRow_refilled {f : Work σ → SlotId → RowResult × Work σ}
    (hf : ∀ other, f (w.refilled id values image) other =
      ((f w other).1, (f w other).2.refilled id values image)) (row : Nat) :
    (w.refilled id values image).onRow f row =
      ((w.onRow f row).1, (w.onRow f row).2.1,
        (w.onRow f row).2.2.refilled id values image) := by
  unfold onRow
  rw [refilled_cursor, Cursor.slotOf?_refilled]
  cases w.cursor.slotOf? row with
  | none => rfl
  | some other =>
      dsimp only
      rw [hf other, Cursor.slotStatus_refilled]

theorem onBookmark_refilled {f : Work σ → SlotId → Nat → RowResult × Work σ} {row : Nat}
    (hf : ∀ other, f (w.refilled id values image) other row =
      ((f w other row).1, (f w other row).2.refilled id values image)) :
    (w.refilled id values image).onBookmark f row =
      ((w.onBookmark f row).1, (w.onBookmark f row).2.1,
        (w.onBookmark f row).2.2.refilled id values image) := by
  unfold onBookmark
  rw [refilled_bindings, refilled_cursor]
  cases w.bindings.bookmark? (row - 1) with
  | none => rfl
  | some b =>
      dsimp only
      rw [Cursor.refilled_bookmarks]
      cases w.cursor.bookmarks.resolve? b with
      | none => rfl
      | some other =>
          dsimp only
          rw [hf other, Cursor.slotStatus_refilled]

/-- The key and the rows that are read before a write do not depend on a deleted row. -/
theorem prepareWrite_refilled (h : w.Gone id) (rows : List Nat) :
    (w.refilled id values image).prepareWrite rows =
      ((w.prepareWrite rows).1, (w.prepareWrite rows).2.refilled id values image) := by
  have hkey := h.of_changes w.keySet_changes
  unfold prepareWrite
  rw [keySet_refilled]
  generalize w.keySet = found at hkey ⊢
  obtain ⟨key, after⟩ := found
  cases key with
  | error e => rfl
  | ok key =>
      refine congrArg (Prod.mk _) ?_
      exact rereadIf_refilled values image hkey rows (after.cursor.kind = .dynamic)

/-- The statuses shown are those of slots, and these stay as they are. -/
theorem syncStatuses_refilled (w : Work σ) (id : SlotId) :
    (w.refilled id values image).onCursor Cursor.syncStatuses =
      (w.onCursor Cursor.syncStatuses).refilled id values image := by
  simp only [onCursor, refilled, Cursor.syncStatuses_refilled]

/-! ## Fetches -/

/-- The rows of a new rowset are read again if the cursor does so. -/
theorem rereadRowset_refilled (h : w.Gone id) (rows : List Nat) :
    (if (w.refilled id values image).cursor.kind.rereads then
        (w.refilled id values image).reread rows else w.refilled id values image) =
      (if w.cursor.kind.rereads then w.reread rows else w).refilled id values image :=
  rereadIf_refilled values image h rows (w.cursor.kind.rereads = true)

theorem showRowset_refilled (h : w.Gone id) :
    (w.refilled id values image).showRowset =
      (w.showRowset.1, w.showRowset.2.refilled id values image) := by
  have hgone := h.of_changes (w.rereadIf_changes (List.range' 1 w.cursor.rowset.length)
    (w.cursor.kind.rereads = true))
  unfold showRowset
  dsimp only
  rw [rereadRowset_refilled values image h, syncStatuses_refilled]
  have houtcome := Cursor.fetchOutcome_syncStatuses_refilled values image hgone.deleted
  rw [Cursor.syncStatuses_refilled] at houtcome
  exact Prod.ext (congrArg Except.ok houtcome) rfl

theorem fetchAt_refilled (h : w.Gone id) (position : Nat) :
    (w.refilled id values image).fetchAt position =
      ((w.fetchAt position).1, (w.fetchAt position).2.refilled id values image) := by
  have hstays : w.onCursor (Cursor.dropBehind · position) = w := by
    rw [onCursor, Cursor.dropBehind_of_isScrollable h.scrolls]
  have hstays' : (w.refilled id values image).onCursor (Cursor.dropBehind · position) =
      w.refilled id values image := by
    rw [onCursor, Cursor.dropBehind_of_isScrollable (c := (w.refilled id values image).cursor)
      h.scrolls]
  have hpulled := h.of_changes (w.pull_changes (.upTo (position + w.cursor.size - 1)))
  unfold fetchAt
  dsimp only
  rw [hstays, hstays', refilled_cursor, Cursor.size_refilled, pull_refilled values image h]
  generalize w.pull (.upTo (position + w.cursor.size - 1)) = pulled at hpulled ⊢
  obtain ⟨failure, after⟩ := pulled
  cases failure with
  | some e => rfl
  | none =>
      dsimp only
      change (if after.cursor.buffer.count < position then _ else _) = _
      split
      · rfl
      · exact showRowset_refilled (w := after.onCursor (Cursor.placeRowset · position)) values image
          (hpulled.of_changes (.single (.place _ position)))

theorem fetchMove_refilled (h : w.Gone id) (move : Move) :
    (w.refilled id values image).fetchMove move =
      ((w.fetchMove move).1, (w.fetchMove move).2.refilled id values image) := by
  have hcounted : (if move.countsFromEnd (w.refilled id values image).cursor.afterLast then
        (w.refilled id values image).pull .everything
      else (none, w.refilled id values image)) =
      ((if move.countsFromEnd w.cursor.afterLast then w.pull .everything else (none, w)).1,
        (if move.countsFromEnd w.cursor.afterLast then w.pull .everything
          else (none, w)).2.refilled id values image) := by
    change (if move.countsFromEnd w.cursor.afterLast = true then _ else _) = _
    split
    · exact pull_refilled values image h .everything
    · rfl
  have hgone : (if move.countsFromEnd w.cursor.afterLast then w.pull .everything
      else (none, w)).2.Gone id := by
    split
    · exact h.of_changes (w.pull_changes .everything)
    · exact h
  unfold fetchMove
  dsimp only
  rw [hcounted]
  generalize (if move.countsFromEnd w.cursor.afterLast = true then w.pull .everything
    else (none, w)) = counted at hgone ⊢
  obtain ⟨failure, after⟩ := counted
  cases failure with
  | some e => rfl
  | none =>
      have hplace : move.target (after.refilled id values image).cursor.size
            (after.refilled id values image).cursor.start
            (after.refilled id values image).cursor.afterLast
            (after.refilled id values image).cursor.buffer.count =
          move.target after.cursor.size after.cursor.start after.cursor.afterLast
            after.cursor.buffer.count := rfl
      dsimp only
      rw [hplace]
      cases move.target after.cursor.size after.cursor.start after.cursor.afterLast
        after.cursor.buffer.count with
      | beforeFirst => rfl
      | afterLast => rfl
      | row position => exact fetchAt_refilled values image hgone position

/-- A fetch answers the same, whatever stands in the slot of a deleted row. -/
theorem fetch_refilled (h : w.Gone id) (orientation : Orientation) :
    (w.refilled id values image).fetch orientation =
      ((w.fetch orientation).1, (w.fetch orientation).2.refilled id values image) := by
  unfold fetch
  rw [refilled_cursor, Cursor.move_refilled]
  change (if (!w.cursor.kind.isScrollable && orientation != .next) = true then _ else _) = _
  split
  · rfl
  · cases w.cursor.move orientation with
    | error e => rfl
    | ok move => exact fetchMove_refilled values image h move

/-! ## Operations on rows -/

theorem refresh_refilled (h : w.Gone id) (rows : List Nat) :
    (w.refilled id values image).refresh rows =
      ((w.refresh rows).1, (w.refresh rows).2.refilled id values image) := by
  have hgone := h.of_changes (w.rereadIf_changes rows (w.cursor.kind.rereads = true))
  unfold refresh
  dsimp only
  rw [rereadRowset_refilled values image h, syncStatuses_refilled]
  generalize (if w.cursor.kind.rereads = true then w.reread rows else w) = v at hgone ⊢
  refine Prod.ext (List.map_congr_left fun row _ => ?_) rfl
  dsimp only [refilled_cursor]
  rw [Cursor.slotOf?_refilled]
  refine Cursor.fetchedRow_refilled values image fun hrow => ?_
  have hstatus := status_of_slotOf? hgone.lt_resident hrow
  have hdeleted : v.cursor.syncStatuses.slotStatus id = .deleted := hgone.deleted
  change (if row = 0 then .noRow
    else v.cursor.syncStatuses.statuses[row - 1]?.getD .noRow).hasData = false
  rw [hstatus, hdeleted]
  rfl

theorem refreshRows_refilled (h : w.Gone id) (rows : List Nat) :
    (w.refilled id values image).refreshRows rows =
      ((w.refreshRows rows).1, (w.refreshRows rows).2.refilled id values image) := by
  unfold refreshRows
  rw [refresh_refilled values image h]
  rfl

/-- The reports of some rows are put on record once the statuses are up to date. -/
theorem finish_refilled (w : Work σ) (id : SlotId) (reports : List RowReport) :
    ((w.refilled id values image).onCursor Cursor.syncStatuses).finish reports =
      (((w.onCursor Cursor.syncStatuses).finish reports).1,
        ((w.onCursor Cursor.syncStatuses).finish reports).2.refilled id values image) := by
  rw [syncStatuses_refilled]
  rfl

theorem updateRows_refilled (h : w.Gone id) (supplied : Supplied) (row : Nat)
    (rows : List Nat) :
    (w.refilled id values image).updateRows supplied row rows =
      ((w.updateRows supplied row rows).1,
        (w.updateRows supplied row rows).2.refilled id values image) := by
  have hprepared := h.of_changes (w.prepareWrite_changes rows)
  unfold updateRows
  rw [prepareWrite_refilled values image h]
  generalize w.prepareWrite rows = prepared at hprepared ⊢
  obtain ⟨key, after⟩ := prepared
  cases key with
  | error e => rfl
  | ok key =>
      have hdegree : (after.refilled id values image).checkDegree key supplied row =
          after.checkDegree key supplied row := rfl
      dsimp only
      rw [hdegree]
      cases after.checkDegree key supplied row with
      | error e => rfl
      | ok =>
          have hrows := forRows_refilled values image (f := updateRow key supplied)
            (fun w row hw => onRow_refilled values image
              (fun other => updateSlot_refilled values image hw key supplied other (row - 1)) row)
            (fun w row => onRow_changes (fun w id => w.updateSlot_changes _ _ _ _) w row)
            hprepared rows
          dsimp only
          rw [hrows]
          dsimp only
          rw [finish_refilled]

theorem deleteRows_refilled (h : w.Gone id) (rows : List Nat) :
    (w.refilled id values image).deleteRows rows =
      ((w.deleteRows rows).1, (w.deleteRows rows).2.refilled id values image) := by
  have hprepared := h.of_changes (w.prepareWrite_changes rows)
  unfold deleteRows
  rw [prepareWrite_refilled values image h]
  generalize w.prepareWrite rows = prepared at hprepared ⊢
  obtain ⟨key, after⟩ := prepared
  cases key with
  | error e => rfl
  | ok key =>
      have hrows := forRows_refilled values image (f := onRow fun w id => w.deleteSlot key id)
        (fun w row hw => onRow_refilled values image
          (fun other => deleteSlot_refilled values image hw key other) row)
        (fun w row => onRow_changes (fun w id => w.deleteSlot_changes _ _) w row) hprepared rows
      dsimp only
      rw [hrows]
      dsimp only
      rw [finish_refilled]

/-- A row is added from bound values, so no slot is of account. -/
theorem addOne_refilled (h : w.Gone id) (supplied : Supplied) (table : TableRef)
    (numbered : Option Nat) (row : Nat) :
    addOne supplied table numbered (w.refilled id values image) row =
      ((addOne supplied table numbered w row).1, (addOne supplied table numbered w row).2.1,
        (addOne supplied table numbered w row).2.2.refilled id values image) := by
  unfold addOne insertRow
  dsimp only [refilled_bindings, refilled_cursor, Cursor.refilled_descriptor,
    Cursor.refilled_dialect, refilled_link]
  cases w.bindings.assignments supplied (row - 1) w.cursor.descriptor table with
  | error e => rfl
  | ok record =>
      dsimp only
      cases w.cursor.dialect.insert table w.cursor.descriptor record with
      | error e => rfl
      | ok request =>
          dsimp only
          generalize w.link.execute request = answered
          obtain ⟨answer, link⟩ := answered
          cases answer with
          | error e => rfl
          | ok answer =>
              dsimp only
              rw [Cursor.addRow_refilled values image h.lt_resident]
              rfl

theorem addEach_refilled (h : w.Gone id) (supplied : Supplied) (table : TableRef)
    (numbered : Option Nat) (rows : List Nat) :
    addEach supplied table numbered (w.refilled id values image) rows =
      ((addEach supplied table numbered w rows).1,
        (addEach supplied table numbered w rows).2.refilled id values image) := by
  induction rows generalizing w with
  | nil => rfl
  | cons row rows ih =>
      have hrest := ih (h.of_changes (addOne_changes supplied table numbered w row))
      unfold addEach
      dsimp only
      rw [addOne_refilled values image h]
      dsimp only
      rw [hrest]

theorem addRows_refilled (h : w.Gone id) (supplied : Supplied) (rows : List Nat) :
    (w.refilled id values image).addRows supplied rows =
      ((w.addRows supplied rows).1, (w.addRows supplied rows).2.refilled id values image) := by
  have hkey := h.of_changes w.keySet_changes
  have htable : (w.refilled id values image).cursor.descriptor.singleTable =
      w.cursor.descriptor.singleTable := rfl
  unfold addRows
  rw [htable]
  cases w.cursor.descriptor.singleTable with
  | error e => rfl
  | ok table =>
      dsimp only
      rw [keySet_refilled]
      dsimp only
      rw [addEach_refilled values image hkey]
      rfl

/-! ## Operations by bookmark -/

/-- What is done at bookmarks does not depend on a deleted row if it does not for each slot. -/
theorem writeByBookmark_refilled (h : w.Gone id) (rows : List Nat)
    {f : KeySet → Work σ → SlotId → Nat → RowResult × Work σ}
    (hf : ∀ key w other row, w.Gone id → f key (w.refilled id values image) other row =
      ((f key w other row).1, (f key w other row).2.refilled id values image))
    (hchanges : ∀ key w other row, Cursor.Changes w.cursor (f key w other row).2.cursor) :
    (w.refilled id values image).writeByBookmark rows f =
      ((w.writeByBookmark rows f).1,
        (w.writeByBookmark rows f).2.refilled id values image) := by
  have hkey := h.of_changes w.keySet_changes
  unfold writeByBookmark
  rw [keySet_refilled]
  generalize w.keySet = found at hkey ⊢
  obtain ⟨key, after⟩ := found
  cases key with
  | error e => rfl
  | ok key =>
      have hrows := forRows_refilled values image (f := onBookmark (f key))
        (fun w row hw => onBookmark_refilled values image fun other => hf key w other row hw)
        (fun w row => onBookmark_changes (hchanges key) w row) hkey rows
      dsimp only
      rw [hrows]
      dsimp only
      rw [finish_refilled]

theorem fetchByBookmark_refilled (h : w.Gone id) (rows : List Nat) :
    (w.refilled id values image).fetchByBookmark rows =
      ((w.fetchByBookmark rows).1, (w.fetchByBookmark rows).2.refilled id values image) := by
  have hrows := forRows_refilled values image
    (f := onBookmark fun w id _ => (.done 0 (w.cursor.slotStatus id), w))
    (fun w row hw => onBookmark_refilled values image fun other => by
      rw [refilled_cursor, Cursor.slotStatus_refilled])
    (fun w row => onBookmark_changes (fun _ _ _ => .refl) w row) h rows
  have hshown : ((w.fetchByBookmark rows).2.cursor.refilled id values image).fetchedRows =
      (w.fetchByBookmark rows).2.cursor.fetchedRows := by
    refine Cursor.fetchedRows_refilled values image fun status hstatus => ?_
    rw [(w.fetchByBookmark_eq rows).1] at hstatus
    change (some id, status) ∈ (rows.map w.bookmarkSlot?).zip (rows.map w.bookmarkStatus) at hstatus
    rw [List.zip_map'] at hstatus
    obtain ⟨row, -, hrow⟩ := List.mem_map.mp hstatus
    obtain ⟨hslot, rfl⟩ := Prod.mk.inj hrow
    rw [bookmarkStatus_of_bookmarkSlot? hslot, h.deleted]
    rfl
  unfold fetchByBookmark at hshown ⊢
  rw [hrows]
  exact Prod.ext (congrArg (fun shown =>
    { OperationOutcome.ofReports (forRows (onBookmark fun w id _ =>
        (.done 0 (w.cursor.slotStatus id), w)) w rows).1 with rows := shown }) hshown) rfl

theorem overBookmarks_refilled {f g : List Nat → Except Error OperationOutcome × Work σ}
    (hf : ∀ rows, f rows = ((g rows).1, (g rows).2.refilled id values image)) :
    (w.refilled id values image).overBookmarks f =
      ((w.overBookmarks g).1, (w.overBookmarks g).2.refilled id values image) := by
  have hasked : (w.refilled id values image).bookmarkRows = w.bookmarkRows := rfl
  unfold overBookmarks
  rw [hasked]
  cases w.bookmarkRows with
  | error e => rfl
  | ok rows => exact hf rows

/-! ## Calls -/

theorem setPosition_refilled (h : w.Gone id) (row : Nat) (operation : RowOperation)
    (supplied : Supplied) :
    (w.refilled id values image).setPosition row operation supplied =
      ((w.setPosition row operation supplied).1,
        (w.setPosition row operation supplied).2.refilled id values image) := by
  cases operation with
  | position => rfl
  | refresh =>
      unfold setPosition
      dsimp only
      rw [show (w.refilled id values image).targetRows row .refresh = w.targetRows row .refresh from
        rfl, refreshRows_refilled values image h]
  | update => exact updateRows_refilled values image h supplied row _
  | delete => exact deleteRows_refilled values image h _
  | add => exact addRows_refilled values image h supplied _

theorem bulk_refilled (h : w.Gone id) (operation : BulkOperation) (supplied : Supplied) :
    (w.refilled id values image).bulk operation supplied =
      ((w.bulk operation supplied).1,
        (w.bulk operation supplied).2.refilled id values image) := by
  have hvalid : (w.refilled id values image).cursor.validateBulk operation =
      w.cursor.validateBulk operation := rfl
  unfold bulk
  rw [hvalid]
  cases w.cursor.validateBulk operation with
  | error e => rfl
  | ok =>
      cases operation with
      | add => exact addRows_refilled values image h supplied _
      | updateByBookmark =>
          exact overBookmarks_refilled values image fun rows =>
            writeByBookmark_refilled values image h rows
              (fun key w other row hw =>
                updateSlot_refilled values image hw key supplied other (row - 1))
              (fun key w other row => w.updateSlot_changes key supplied other (row - 1))
      | deleteByBookmark =>
          exact overBookmarks_refilled values image fun rows =>
            writeByBookmark_refilled values image h rows
              (fun key w other _ hw => deleteSlot_refilled values image hw key other)
              (fun key w other _ => w.deleteSlot_changes key other)
      | fetchByBookmark =>
          refine overBookmarks_refilled values image fun rows => ?_
          rw [fetchByBookmark_refilled values image h]

theorem currentTarget_refilled (h : w.Gone id) :
    (w.refilled id values image).currentTarget =
      (w.currentTarget.1, w.currentTarget.2.refilled id values image) := by
  unfold currentTarget
  rw [refilled_cursor, Cursor.currentImage?_refilled values image h.deleted]
  cases w.cursor.currentImage? with
  | none => rfl
  | some found =>
      dsimp only
      rw [keySet_refilled]
      generalize w.keySet = asked
      obtain ⟨key, after⟩ := asked
      cases key <;> rfl

/-- A call answers the same and leaves the row as it is. -/
theorem call_refilled (h : w.Gone id) (call : Call) :
    (w.refilled id values image).answer call = w.answer call ∧
      (w.refilled id values image).call call = (w.call call).refilled id values image := by
  cases call with
  | bind bindings => exact ⟨rfl, rfl⟩
  | fetch orientation =>
      have hfetch := fetch_refilled values image h orientation
      exact ⟨congrArg Answer.fetched (Prod.ext_iff.mp hfetch).1, congrArg Prod.snd hfetch⟩
  | operation operation supplied =>
      cases operation with
      | setPosition row operation =>
          have hset := setPosition_refilled values image h row operation supplied
          exact ⟨congrArg Answer.operated (Prod.ext_iff.mp hset).1, congrArg Prod.snd hset⟩
      | bulk operation =>
          have hbulk := bulk_refilled values image h operation supplied
          exact ⟨congrArg Answer.operated (Prod.ext_iff.mp hbulk).1, congrArg Prod.snd hbulk⟩
  | publish =>
      have hpublish := currentTarget_refilled values image h
      exact ⟨congrArg Answer.published (Prod.ext_iff.mp hpublish).1, congrArg Prod.snd hpublish⟩

/-- Whatever is called, nothing that is sent or answered depends on the values of a deleted row. -/
theorem calls_refilled (h : w.Gone id) (calls : List Call) :
    (w.refilled id values image).calls calls = (w.calls calls).refilled id values image := by
  induction calls generalizing w with
  | nil => rfl
  | cons call rest ih =>
      have hcall := (call_refilled values image h call).2
      change ((w.refilled id values image).call call).calls rest = _
      rw [hcall]
      exact ih (h.of_changes (w.call_changes call))

end Work

end ScrollCursor
