import ScrollCursor.Positioned.Dispatch

/-! # The parts of a write

A write asks for the key, works on one row after another and brings the statuses up to date. The key
stays what it was found to be, and the link sees one request for each row. What each of these parts
keeps is kept by a whole call, on row numbers and by bookmark.
-/

namespace ScrollCursor

namespace Work

variable {σ : Type} {P : Work σ → Prop} {w : Work σ}

/-! ## The key -/

/-- Once the key has been asked for, it is known. -/
theorem key_keySet (w : Work σ) : w.keySet.2.cursor.key = some w.keySet.1 := by
  unfold keySet
  split
  next hkey => exact hkey
  next => rfl

/-- A key that is known is not asked for again. -/
theorem keySet_of_key {known : Except Error KeySet} (h : w.cursor.key = some known) :
    w.keySet = (known, w) := by
  rw [keySet, h]

theorem key_rereadRow (key : KeySet) (w : Work σ) (row : Nat) :
    (rereadRow key w row).cursor.key = w.cursor.key := by
  unfold rereadRow
  repeat' split
  all_goals rfl

theorem key_send (w : Work σ) (request : Request) {change : Cursor → Cursor} (status : RowStatus)
    (hchange : ∀ c, (change c).key = c.key) :
    (w.send request change status).2.cursor.key = w.cursor.key := by
  unfold send
  repeat' split
  all_goals first | rfl | exact hchange _

theorem key_updateSlot (w : Work σ) (key : KeySet) (supplied : Supplied) (id : SlotId)
    (bindingRow : Nat) : (w.updateSlot key supplied id bindingRow).2.cursor.key = w.cursor.key := by
  unfold updateSlot
  repeat' split
  all_goals first | rfl | exact w.key_send _ _ fun _ => rfl

theorem key_deleteSlot (w : Work σ) (key : KeySet) (id : SlotId) :
    (w.deleteSlot key id).2.cursor.key = w.cursor.key := by
  unfold deleteSlot
  repeat' split
  all_goals first | rfl | exact w.key_send _ _ fun _ => rfl

theorem key_addOne (supplied : Supplied) (table : TableRef) (numbered : Option Nat) (w : Work σ)
    (row : Nat) : (addOne supplied table numbered w row).2.2.cursor.key = w.cursor.key := by
  unfold addOne insertRow Cursor.addRow
  dsimp only
  repeat' split
  all_goals rfl

/-! ## The link -/

section Link

variable {L : Link σ → Prop} {key : KeySet}

/-- To resolve the key asks for metadata and nothing else. -/
theorem resolveKey_of_metadata (hw : L w.link) (hasked : ∀ table, L (w.link.metadata table).2) :
    L w.resolveKey.2 := by
  unfold resolveKey
  split
  · exact hw
  next table _ =>
    have hlink := hasked table
    generalize w.link.metadata table = asked at hlink ⊢
    obtain ⟨_ | m, after⟩ := asked <;> exact hlink

/-- To read a row by its key sends one query. -/
theorem readByKey_of_queryRow {image : Record} (hw : L w.link)
    (hread : ∀ request ordinals,
      w.cursor.dialect.selectByKey key w.cursor.descriptor image
        (w.cursor.options.concurrency == .lock) = .ok (request, ordinals) →
      L (w.link.queryRow request).2) : L (w.readByKey key image).2 := by
  unfold readByKey
  dsimp only
  split
  · exact hw
  next request ordinals hrequest =>
    have hlink := hread request ordinals hrequest
    generalize w.link.queryRow request = answered at hlink ⊢
    obtain ⟨_ | found, after⟩ := answered <;> exact hlink

/-- To read a row of the rowset again reads it by its key. -/
theorem rereadRow_of_readByKey (hw : L w.link) (hread : ∀ image, L (w.readByKey key image).2)
    (row : Nat) : L (rereadRow key w row).link := by
  unfold rereadRow
  split
  · exact hw
  · split
    · exact hw
    next slot _ =>
      split
      · exact hw
      · have hlink := hread slot.image
        generalize w.readByKey key slot.image = read at hlink ⊢
        obtain ⟨_ | _ | _, after⟩ := read <;> exact hlink

/-- Whatever the answer, a write is one request. -/
theorem send_of_execute {request : Request} (hsent : L (w.link.execute request).2)
    (change : Cursor → Cursor) (status : RowStatus) :
    L (w.send request change status).2.link := by
  unfold send
  generalize w.link.execute request = answered at hsent ⊢
  obtain ⟨_ | answer, after⟩ := answered
  · exact hsent
  · dsimp only
    split <;> exact hsent

/-- An update sends one statement that updates. -/
theorem updateSlot_of_execute (hw : L w.link)
    (hsent : ∀ image assignments request,
      w.cursor.dialect.update key w.cursor.descriptor image assignments = .ok request →
      L (w.link.execute request).2) (supplied : Supplied) (id : SlotId) (bindingRow : Nat) :
    L (w.updateSlot key supplied id bindingRow).2.link := by
  unfold updateSlot
  split
  · exact hw
  · split
    · exact hw
    · exact hw
    · split
      · exact hw
      next hrequest => exact send_of_execute (hsent _ _ _ hrequest) _ _

/-- A deletion sends one statement that deletes. -/
theorem deleteSlot_of_execute (hw : L w.link)
    (hsent : ∀ image request, w.cursor.dialect.delete key image = .ok request →
      L (w.link.execute request).2) (id : SlotId) : L (w.deleteSlot key id).2.link := by
  unfold deleteSlot
  split
  · exact hw
  · split
    · exact hw
    next hrequest => exact send_of_execute (hsent _ _ hrequest) _ _

/-- An addition sends one statement that inserts. -/
theorem addOne_of_execute {table : TableRef} (hw : L w.link)
    (hsent : ∀ values request,
      w.cursor.dialect.insert table w.cursor.descriptor values = .ok request →
      L (w.link.execute request).2) (supplied : Supplied) (numbered : Option Nat) (row : Nat) :
    L (addOne supplied table numbered w row).2.2.link := by
  unfold addOne insertRow
  dsimp only
  split
  · exact hw
  · split
    · exact hw
    next request hrequest =>
      have hlink := hsent _ _ hrequest
      generalize w.link.execute request = answered at hlink ⊢
      obtain ⟨_ | answer, after⟩ := answered <;> exact hlink

end Link

/-! ## Row by row -/

/-- What each row keeps, the rows of an operation keep. -/
theorem forRows_of_row {f : Work σ → Nat → RowResult × RowStatus × Work σ}
    (hrow : ∀ w row, P w → P (f w row).2.2) (hw : P w) (rows : List Nat) :
    P (forRows f w rows).2 := by
  induction rows generalizing w with
  | nil => exact hw
  | cons row rows ih => exact ih (hrow w row hw)

/-- Rows that are read again with the key of the result keep the key. -/
theorem reread_of_row (hkey : P w.keySet.2)
    (hrow : ∀ key v row, v.cursor.key = some (.ok key) → P v → P (rereadRow key v row))
    (rows : List Nat) : P (w.reread rows) := by
  have hrows (key : KeySet) (v : Work σ) (hresolved : v.cursor.key = some (.ok key)) (hv : P v) :
      P (rows.foldl (rereadRow key) v) := by
    induction rows generalizing v with
    | nil => exact hv
    | cons row rows ih =>
        exact ih _ ((key_rereadRow key v row).trans hresolved) (hrow key v row hresolved hv)
  have hresolved := w.key_keySet
  unfold reread
  generalize w.keySet = found at hkey hresolved ⊢
  obtain ⟨_ | key, after⟩ := found
  · exact hkey
  · exact hrows key after hresolved hkey

theorem key_reread {known : Except Error KeySet} (h : w.cursor.key = some known)
    (rows : List Nat) : (w.reread rows).cursor.key = some known := by
  refine reread_of_row (P := fun v => v.cursor.key = some known) ?_ ?_ rows
  · rw [keySet_of_key h]
    exact h
  · intro key v row _ hv
    exact (key_rereadRow key v row).trans hv

theorem key_prepareWrite {rows : List Nat} {key : KeySet} {v : Work σ}
    (h : w.prepareWrite rows = (.ok key, v)) : v.cursor.key = some (.ok key) := by
  have hresolved := w.key_keySet
  unfold prepareWrite at h
  generalize w.keySet = found at hresolved h
  obtain ⟨_ | found, after⟩ := found
  · cases h
  · cases h
    split
    · exact key_reread hresolved rows
    · exact hresolved

/-- What is kept in each slot is kept in the slot of a row. -/
theorem onRow_of_slot {f : Work σ → SlotId → RowResult × Work σ}
    (hslot : ∀ w id, P w → P (f w id).2) (hw : P w) (row : Nat) : P (w.onRow f row).2.2 := by
  unfold onRow
  split
  · exact hw
  · exact hslot w _ hw

/-- What is kept in each slot is kept in the slot of a bookmark. -/
theorem onBookmark_of_slot {f : Work σ → SlotId → Nat → RowResult × Work σ}
    (hslot : ∀ w id row, P w → P (f w id row).2) (hw : P w) (row : Nat) :
    P (w.onBookmark f row).2.2 := by
  unfold onBookmark
  split
  · exact hw
  · split
    · exact hw
    · exact hslot w _ row hw

/-! ## Calls -/

/-- An operation on bound arrays keeps what its four parts keep. -/
theorem bulk_of_parts (hw : P w) (operation : BulkOperation) (supplied : Supplied)
    (hadd : P (w.addRows supplied (List.range' 1 w.cursor.size)).2)
    (hupdate : ∀ rows, P (w.updateByBookmark supplied rows).2)
    (hdelete : ∀ rows, P (w.deleteByBookmark rows).2)
    (hfetch : ∀ rows, w.bookmarkRows = .ok rows → P (w.fetchByBookmark rows).2) :
    P (w.bulk operation supplied).2 := by
  have hover {f : List Nat → Except Error OperationOutcome × Work σ}
      (hf : ∀ rows, w.bookmarkRows = .ok rows → P (f rows).2) : P (w.overBookmarks f).2 := by
    unfold overBookmarks
    split
    · exact hw
    next rows hrows => exact hf rows hrows
  unfold bulk
  split
  · exact hw
  · cases operation with
    | add => exact hadd
    | updateByBookmark => exact hover fun rows _ => hupdate rows
    | deleteByBookmark => exact hover fun rows _ => hdelete rows
    | fetchByBookmark => exact hover hfetch

/-- The property holds of a work that has found its key. -/
def Keyed (P : Work σ → Prop) (key : KeySet) (w : Work σ) : Prop :=
  P w ∧ w.cursor.key = some (.ok key)

/-- Each part of a write keeps a property. Slots are written with the key of the result. -/
structure KeptByParts (P : Work σ → Prop) : Prop where
  keySet : ∀ {w}, P w → P w.keySet.2
  reread : ∀ {w} rows, P w → w.cursor.kind = .dynamic → P (w.reread rows)
  updateSlot : ∀ {w} key supplied id bindingRow, P w → w.cursor.key = some (.ok key) →
    P (w.updateSlot key supplied id bindingRow).2
  deleteSlot : ∀ {w} key id, P w → w.cursor.key = some (.ok key) → P (w.deleteSlot key id).2
  addOne : ∀ {w} supplied table numbered row, P w → P (addOne supplied table numbered w row).2.2
  sync : ∀ {w}, P w → P (w.onCursor Cursor.syncStatuses)
  finish : ∀ {w} reports, P w → P (w.finish reports).2

namespace KeptByParts

variable {key : KeySet}

/-- An update keeps what its request and its answer keep. -/
theorem keyed_updateSlot (h : KeptByParts P) (hw : Keyed P key w) (supplied : Supplied)
    (id : SlotId) (bindingRow : Nat) : Keyed P key (w.updateSlot key supplied id bindingRow).2 :=
  ⟨h.updateSlot key supplied id bindingRow hw.1 hw.2, (key_updateSlot ..).trans hw.2⟩

theorem keyed_deleteSlot (h : KeptByParts P) (hw : Keyed P key w) (id : SlotId) :
    Keyed P key (w.deleteSlot key id).2 :=
  ⟨h.deleteSlot key id hw.1 hw.2, (key_deleteSlot ..).trans hw.2⟩

/-- What is kept when a row is read again is kept when a write is prepared. -/
theorem prepareWrite (h : KeptByParts P) (hw : P w) (rows : List Nat) :
    P (w.prepareWrite rows).2 := by
  have hkey := h.keySet hw
  unfold Work.prepareWrite
  split
  next heq =>
    rw [heq] at hkey
    exact hkey
  next heq =>
    rw [heq] at hkey
    dsimp only
    split
    next hkind => exact h.reread rows hkey hkind
    next => exact hkey

/-- What the parts of an update keep, an update of several rows keeps. -/
theorem updateRows (h : KeptByParts P) (hw : P w) (supplied : Supplied) (row : Nat)
    (rows : List Nat) : P (w.updateRows supplied row rows).2 := by
  have hprepare := h.prepareWrite hw rows
  unfold Work.updateRows
  split
  next heq =>
    rw [heq] at hprepare
    exact hprepare
  next key v heq =>
    rw [heq] at hprepare
    split
    · exact hprepare
    · have hrow (u : Work σ) (row : Nat) (hu : Keyed P key u) :
          Keyed P key (updateRow key supplied u row).2.2 :=
        onRow_of_slot (P := Keyed P key)
          (fun u id hu => h.keyed_updateSlot hu supplied id (row - 1)) hu row
      have hwritten := forRows_of_row hrow ⟨hprepare, key_prepareWrite heq⟩ rows
      exact h.finish _ (h.sync hwritten.1)

/-- What the parts of a deletion keep, a deletion of several rows keeps. -/
theorem deleteRows (h : KeptByParts P) (hw : P w) (rows : List Nat) :
    P (w.deleteRows rows).2 := by
  have hprepare := h.prepareWrite hw rows
  unfold Work.deleteRows
  split
  next heq =>
    rw [heq] at hprepare
    exact hprepare
  next key v heq =>
    rw [heq] at hprepare
    have hrow (u : Work σ) (row : Nat) (hu : Keyed P key u) :
        Keyed P key (u.onRow (fun u id => u.deleteSlot key id) row).2.2 :=
      onRow_of_slot (P := Keyed P key) (fun u id hu => h.keyed_deleteSlot hu id) hu row
    have hwritten := forRows_of_row hrow ⟨hprepare, key_prepareWrite heq⟩ rows
    exact h.finish _ (h.sync hwritten.1)

theorem addEach (h : KeptByParts P) (hw : P w) (supplied : Supplied) (table : TableRef)
    (numbered : Option Nat) (rows : List Nat) :
    P (Work.addEach supplied table numbered w rows).2 := by
  induction rows generalizing w with
  | nil => exact hw
  | cons row rows ih => exact ih (h.addOne supplied table numbered row hw)

/-- What the parts of an addition keep, an addition of several rows keeps. -/
theorem addRows (h : KeptByParts P) (hw : P w) (supplied : Supplied) (rows : List Nat) :
    P (w.addRows supplied rows).2 := by
  unfold Work.addRows
  split
  · exact hw
  · exact h.finish _ (h.addEach (h.keySet hw) supplied _ _ rows)

/-- Setting the current row and bringing rows up to date are for the property itself to say. -/
theorem setPosition (h : KeptByParts P) (hw : P w) (row : Nat) (operation : RowOperation)
    (supplied : Supplied) (hposition : operation = .position → P (w.positionOn row).2)
    (hrefresh : operation = .refresh → P (w.refreshRows (w.targetRows row .refresh)).2) :
    P (w.setPosition row operation supplied).2 := by
  cases operation with
  | position => exact hposition rfl
  | refresh => exact hrefresh rfl
  | update => exact h.updateRows hw supplied row _
  | delete => exact h.deleteRows hw _
  | add => exact h.addRows hw supplied _

/-- What is done at bookmarks keeps what is kept at each slot. -/
theorem writeByBookmark (h : KeptByParts P) (hw : P w) (rows : List Nat)
    {f : KeySet → Work σ → SlotId → Nat → RowResult × Work σ}
    (hslot : ∀ key w id row, Keyed P key w → Keyed P key (f key w id row).2) :
    P (w.writeByBookmark rows f).2 := by
  have hkept := h.keySet hw
  have hkey := w.key_keySet
  unfold Work.writeByBookmark
  split
  next heq =>
    rw [heq] at hkept
    exact hkept
  next key v heq =>
    rw [heq] at hkept hkey
    have hrow (u : Work σ) (row : Nat) (hu : Keyed P key u) :
        Keyed P key (u.onBookmark (f key) row).2.2 :=
      onBookmark_of_slot (P := Keyed P key) (hslot key) hu row
    have hwritten := forRows_of_row hrow ⟨hkept, hkey⟩ rows
    exact h.finish _ (h.sync hwritten.1)

/-- A fetch by bookmark replaces the rowset, so it is for the property itself to say, too. -/
theorem bulk (h : KeptByParts P) (hw : P w) (operation : BulkOperation) (supplied : Supplied)
    (hfetch : ∀ rows, w.bookmarkRows = .ok rows → P (w.fetchByBookmark rows).2) :
    P (w.bulk operation supplied).2 :=
  bulk_of_parts hw operation supplied (h.addRows hw supplied _)
    (fun rows => h.writeByBookmark hw rows
      fun _ _ id row hv => h.keyed_updateSlot hv supplied id (row - 1))
    (fun rows => h.writeByBookmark hw rows fun _ _ id _ hv => h.keyed_deleteSlot hv id) hfetch

end KeptByParts

end Work

end ScrollCursor
