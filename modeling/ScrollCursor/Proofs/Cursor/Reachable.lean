import ScrollCursor.Proofs.Buffer.Bookmarks
import ScrollCursor.Proofs.Cursor.Changes
import ScrollCursor.Proofs.Results

/-! # Reachable cursors

A cursor is reached from its opening by fetches and by the positioned operations that it is
open to. What it is asked to be stays the same from then on. A cursor that can scroll keeps
every row it ever had, so its positions, its rowset and its live bookmarks all name rows that
are there.
-/

namespace ScrollCursor

namespace Cursor

/-- The cursors that calls lead to, with any server and anything bound. -/
inductive Reachable : Cursor → Prop
  | opened (kind : CursorKind) (dialect : Dialect) (options : StatementOptions)
      (result : ResultSet) : Reachable (opened kind dialect options result)
  | fetch {σ : Type} (w : Work σ) (orientation : Orientation) (h : Reachable w.cursor) :
      Reachable (w.fetch orientation).2.cursor
  | setPosition {σ : Type} (w : Work σ) (row : Nat) (operation : RowOperation) (lock : LockType)
      (supplied : Supplied) (h : Reachable w.cursor)
      (hvalid : w.cursor.validate row operation lock = .ok ()) :
      Reachable (w.setPosition row operation supplied).2.cursor
  | bulk {σ : Type} (w : Work σ) (operation : BulkOperation) (supplied : Supplied)
      (h : Reachable w.cursor) : Reachable (w.bulk operation supplied).2.cursor
  | keySet {σ : Type} (w : Work σ) (h : Reachable w.cursor) : Reachable w.keySet.2.cursor

/-- When an operation is open to a cursor on a row. -/
theorem validate_eq_ok_iff {c : Cursor} {row : Nat} {operation : RowOperation} {lock : LockType} :
    c.validate row operation lock = .ok () ↔
      lock = .noChange ∧ (c.kind.isScrollable = true ∨ operation = .position) ∧
        ¬ (c.options.concurrency = .readOnly ∧ operation.writes = true) ∧
        if operation = .add then row ≤ c.size
        else 0 < c.rowset.length ∧ ¬ (operation = .position ∧ row = 0) ∧
          row ≤ c.rowset.length := by
  unfold validate validateAddedRow validateRow
  have hposition : ¬ ((!c.kind.isScrollable && operation != .position) = true) ↔
      c.kind.isScrollable = true ∨ operation = .position := by
    cases c.kind.isScrollable <;> simp
  rw [Results.ite_error_eq_ok, Results.ite_error_eq_ok, Results.ite_error_eq_ok, hposition,
    not_not]
  refine and_congr_right fun _ => and_congr_right fun _ => and_congr_right fun _ => ?_
  split
  · rw [Results.ite_error_eq_ok, Nat.not_lt]
    exact and_iff_left rfl
  · rw [Results.ite_error_eq_ok, Results.ite_error_eq_ok, Results.ite_error_eq_ok, Nat.not_lt,
      List.isEmpty_iff, ← Ne.eq_def, ← List.length_pos_iff]
    simp only [and_true]

/-- A reachable cursor has been opened and changed. -/
theorem Reachable.exists_changes {c : Cursor} (h : Reachable c) :
    ∃ kind dialect options result, Changes (Cursor.opened kind dialect options result) c := by
  induction h with
  | opened kind dialect options result => exact ⟨kind, dialect, options, result, .refl⟩
  | fetch w orientation _ ih =>
      obtain ⟨kind, dialect, options, result, hw⟩ := ih
      exact ⟨kind, dialect, options, result, hw.trans (w.fetch_changes orientation)⟩
  | setPosition w row operation lock supplied _ _ ih =>
      obtain ⟨kind, dialect, options, result, hw⟩ := ih
      exact ⟨kind, dialect, options, result,
        hw.trans (w.setPosition_changes row operation supplied)⟩
  | bulk w operation supplied _ ih =>
      obtain ⟨kind, dialect, options, result, hw⟩ := ih
      exact ⟨kind, dialect, options, result, hw.trans (w.bulk_changes operation supplied)⟩
  | keySet w _ ih =>
      obtain ⟨kind, dialect, options, result, hw⟩ := ih
      exact ⟨kind, dialect, options, result, hw.trans w.keySet_changes⟩

/-! ## What never changes -/

/-- The cursors are of one kind, on the same result and with the same options. -/
def SameFrame (c d : Cursor) : Prop :=
  d.kind = c.kind ∧ d.dialect = c.dialect ∧ d.options = c.options ∧
    d.descriptor = c.descriptor

theorem Change.sameFrame {c d : Cursor} (h : Change c d) : SameFrame c d := by
  cases h with
  | pull h => cases h <;> exact ⟨rfl, rfl, rfl, rfl⟩
  | drop position =>
      unfold dropBehind
      split <;> exact ⟨rfl, rfl, rfl, rfl⟩
  | add values =>
      unfold addRow
      dsimp only
      split <;> exact ⟨rfl, rfl, rfl, rfl⟩
  | beforeFirst | afterLast | place | replace | sync | current | key | modify | delete =>
      exact ⟨rfl, rfl, rfl, rfl⟩

/-- No changes touch the kind, the columns and the options of a cursor. -/
theorem Changes.sameFrame {c d : Cursor} (h : Changes c d) : SameFrame c d := by
  induction h with
  | refl => exact ⟨rfl, rfl, rfl, rfl⟩
  | tail _ hstep ih =>
      obtain ⟨hkind, hdialect, hoptions, hdescriptor⟩ := hstep.sameFrame
      exact ⟨hkind.trans ih.1, hdialect.trans ih.2.1, hoptions.trans ih.2.2.1,
        hdescriptor.trans ih.2.2.2⟩

/-! ## How many rows are pulled -/

/-- The rows that have been pulled and those that are still to come do not get more. -/
theorem Change.count_add_length_le {c d : Cursor} (h : Change c d) :
    d.buffer.count + d.stream.length ≤ c.buffer.count + c.stream.length := by
  cases h with
  | pull h =>
      cases h with
      | @row values rest h =>
          change (c.buffer.append values).count + rest.length ≤ _
          rw [h, RowBuffer.count_append, List.length_cons]
          omega
      | failure h =>
          rw [h, List.length_cons]
          exact Nat.le_succ _
      | atEnd => exact Nat.le_refl _
  | drop position =>
      unfold dropBehind
      split
      · exact Nat.add_le_add_right (Nat.le_of_eq c.buffer.count_discardThrough) _
      · exact Nat.le_refl _
  | add values =>
      unfold addRow
      dsimp only
      split <;> exact Nat.le_refl _
  | beforeFirst | afterLast | place | replace | sync | current | key | modify | delete =>
      exact Nat.le_refl _

/-- No changes bring the counted rows beyond those of the result. -/
theorem Changes.count_add_length_le {c d : Cursor} (h : Changes c d) :
    d.buffer.count + d.stream.length ≤ c.buffer.count + c.stream.length := by
  induction h with
  | refl => exact Nat.le_refl _
  | tail _ hstep ih => exact Nat.le_trans hstep.count_add_length_le ih

/-- If a result has fewer rows than there are machine words, a cursor that pulls them never gets to
the last position: it counts them as if numbers did not go round. -/
theorem Changes.push_eq_append {kind : CursorKind} {dialect : Dialect} {options : StatementOptions}
    {result : ResultSet} {c : Cursor} (h : Changes (opened kind dialect options result) c)
    (hrows : result.rows.length < UInt64.size) :
    c.buffer.known = c.buffer.count ∧ ∀ values rest, c.stream = .ok values :: rest →
      c.buffer.push values = c.buffer.append values := by
  have hle : c.buffer.count + c.stream.length ≤ result.rows.length := by
    simpa [opened, RowBuffer.count] using h.count_add_length_le
  refine ⟨RowBuffer.known_eq_count (by omega), fun values rest hstream => ?_⟩
  rw [hstream, List.length_cons] at hle
  exact RowBuffer.push_eq_append values (by omega)

/-! ## Rows that are there -/

/-- Positions, the rowset and the live bookmarks name slots of the buffer. -/
structure Resident (c : Cursor) : Prop where
  order : ∀ id ∈ c.buffer.order, id < c.buffer.resident
  rowset : ∀ id, some id ∈ c.rowset → id < c.buffer.resident
  live : ∀ entry ∈ c.bookmarks.live, entry.2 < c.buffer.resident

theorem mem_order_of_mem_slotsBetween {b : RowBuffer} {first last : Nat} {id : SlotId}
    (h : some id ∈ b.slotsBetween first last) : id ∈ b.order := by
  obtain ⟨position, -, hposition⟩ := List.mem_map.mp h
  unfold RowBuffer.slotAt? at hposition
  split at hposition
  · cases hposition
  · exact List.mem_of_getElem? hposition

theorem mem_live_of_resolve? {m : Bookmarks} {b : Bookmark} {id : SlotId}
    (h : m.resolve? b = some id) : (b, id) ∈ m.live :=
  Bookmarks.mem_of_lookup h

theorem mem_live_of_mint {m : Bookmarks} {id : SlotId} {entry : Bookmark × SlotId}
    (h : entry ∈ (m.mint id).2.live) : entry ∈ m.live ∨ entry.2 = id := by
  unfold Bookmarks.mint at h
  split at h
  · exact Or.inl h
  · rcases List.mem_append.mp h with h | h
    · exact Or.inl h
    · exact Or.inr (by rw [List.mem_singleton.mp h])

theorem mem_live_of_mintEntry {c : Cursor} {m : Bookmarks} {e : Option SlotId}
    {entry : Bookmark × SlotId} (h : entry ∈ (c.mintEntry m e).live) :
    entry ∈ m.live ∨ e = some entry.2 := by
  unfold mintEntry at h
  split at h
  · exact Or.inl h
  · split at h
    · exact Or.inl h
    · rcases mem_live_of_mint h with h | h
      · exact Or.inl h
      · exact Or.inr (by rw [h])

/-- Only rows that are shown get bookmarks when the statuses are set. -/
theorem mem_live_of_syncStatuses {c : Cursor} {entry : Bookmark × SlotId}
    (h : entry ∈ c.syncStatuses.bookmarks.live) :
    entry ∈ c.bookmarks.live ∨ some entry.2 ∈ c.rowset := by
  have hfold (entries : List (Option SlotId)) (m : Bookmarks)
      (h : entry ∈ (entries.foldl c.mintEntry m).live) :
      entry ∈ m.live ∨ some entry.2 ∈ entries := by
    induction entries generalizing m with
    | nil => exact Or.inl h
    | cons e entries ih =>
        rcases ih _ h with h | h
        · rcases mem_live_of_mintEntry h with h | h
          · exact Or.inl h
          · exact Or.inr (by rw [h]; exact List.mem_cons_self)
        · exact Or.inr (List.mem_cons_of_mem e h)
  unfold syncStatuses at h
  dsimp only at h
  split at h
  · exact hfold _ _ h
  · exact Or.inl h

theorem mem_live_of_retire {m : Bookmarks} {id : SlotId} {entry : Bookmark × SlotId}
    (h : entry ∈ (m.retire id).live) : entry ∈ m.live := by
  unfold Bookmarks.retire at h
  split at h
  · exact h
  · exact (List.mem_filter.mp h).1

@[simp] theorem resident_modify (b : RowBuffer) (id : SlotId) (f : RowSlot → RowSlot) :
    (b.modify id f).resident = b.resident := by
  simp [RowBuffer.resident, RowBuffer.modify]

theorem Resident.change {c d : Cursor} (hc : Resident c) (hkind : c.kind.isScrollable = true)
    (h : Change c d) : Resident d := by
  cases h with
  | pull h =>
      cases h with
      | failure h => exact ⟨hc.order, hc.rowset, hc.live⟩
      | atEnd => exact ⟨hc.order, hc.rowset, hc.live⟩
      | @row values rest h =>
          have hmore : c.buffer.resident < (c.buffer.append values).resident := by simp
          refine ⟨fun id hid => ?_, fun id hid => Nat.lt_trans (hc.rowset id hid) hmore,
            fun entry hentry => Nat.lt_trans (hc.live entry hentry) hmore⟩
          rcases List.mem_append.mp hid with hid | hid
          · exact Nat.lt_trans (hc.order id hid) hmore
          · rw [List.mem_singleton.mp hid]
            exact hmore
  | drop position =>
      rw [dropBehind, hkind]
      exact hc
  | beforeFirst | afterLast =>
      exact ⟨hc.order, by simp [moveBeforeFirst, moveAfterLast, clearRowset], hc.live⟩
  | place position =>
      exact ⟨hc.order, fun id hid => hc.order id (mem_order_of_mem_slotsBetween hid), hc.live⟩
  | replace entries statuses h =>
      refine ⟨hc.order, fun id hid => ?_, hc.live⟩
      obtain ⟨b, hb⟩ := h id hid
      exact hc.live _ (mem_live_of_resolve? hb)
  | sync =>
      refine ⟨hc.order, hc.rowset, fun entry hentry => ?_⟩
      rcases mem_live_of_syncStatuses hentry with h | h
      · exact hc.live entry h
      · exact hc.rowset _ h
  | current row => exact ⟨hc.order, hc.rowset, hc.live⟩
  | key key => exact ⟨hc.order, hc.rowset, hc.live⟩
  | modify id f h =>
      have hsame : (c.modifySlot id f).buffer.resident = c.buffer.resident := resident_modify _ _ _
      exact ⟨fun i hi => hsame ▸ hc.order i hi, fun i hi => hsame ▸ hc.rowset i hi,
        fun entry hentry => hsame ▸ hc.live entry hentry⟩
  | delete id =>
      have hsame : (c.markDeleted id).buffer.resident = c.buffer.resident := resident_modify _ _ _
      exact ⟨fun i hi => hsame ▸ hc.order i hi, fun i hi => hsame ▸ hc.rowset i hi,
        fun entry hentry => hsame ▸ hc.live entry (mem_live_of_retire hentry)⟩
  | add values =>
      have hmore : c.buffer.resident < (c.addRow values).2.buffer.resident := by
        unfold addRow
        dsimp only
        split <;> simp [RowBuffer.resident, RowBuffer.pushDetached]
      have horder : (c.addRow values).2.buffer.order = c.buffer.order := by
        unfold addRow
        dsimp only
        split <;> rfl
      have hrowset : (c.addRow values).2.rowset = c.rowset := by
        unfold addRow
        dsimp only
        split <;> rfl
      refine ⟨fun id hid => Nat.lt_trans (hc.order id (horder ▸ hid)) hmore,
        fun id hid => Nat.lt_trans (hc.rowset id (hrowset ▸ hid)) hmore, fun entry hentry => ?_⟩
      unfold addRow at hentry
      dsimp only at hentry
      split at hentry
      · rcases mem_live_of_mint hentry with h | h
        · exact Nat.lt_trans (hc.live entry h) hmore
        · rw [h]
          exact hmore
      · exact Nat.lt_trans (hc.live entry hentry) hmore

/-- Entries and bookmarks of a scrollable cursor go on to name slots that there are. -/
theorem resident_of_changes {c d : Cursor} (hc : Resident c)
    (hkind : c.kind.isScrollable = true) (h : Changes c d) : Resident d := by
  induction h with
  | refl => exact hc
  | @tail d e hsteps hstep ih =>
      have hframe : d.kind = c.kind := (Changes.sameFrame hsteps).1
      exact ih.change (hframe ▸ hkind) hstep

/-- A reachable cursor that can scroll names only rows that are there. -/
theorem Reachable.resident {c : Cursor} (h : Reachable c)
    (hkind : c.kind.isScrollable = true) : Resident c := by
  obtain ⟨kind, dialect, options, result, hchanges⟩ := h.exists_changes
  have hframe : c.kind = kind := (Changes.sameFrame hchanges).1
  have hopened : Resident (Cursor.opened kind dialect options result) :=
    ⟨by simp [Cursor.opened], by simp [Cursor.opened], by simp [Cursor.opened]⟩
  exact resident_of_changes hopened (hframe ▸ hkind) hchanges

end Cursor

end ScrollCursor
