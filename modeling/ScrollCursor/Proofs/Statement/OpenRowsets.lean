import ScrollCursor.Proofs.Positioned.Rowset
import ScrollCursor.Proofs.Statement.OutcomeArrays

/-! # Rowsets of open cursors

Whatever is called on a statement, and whatever its server answers, the open cursor shows as many
statuses as a whole rowset has rows, and a cursor that can scroll holds every row that a caller can
still name.
-/

namespace ScrollCursor

namespace Cursor

variable {c : Cursor}

/-- Each row that can be named is there: by a row of the rowset, by a bookmark, by a position. -/
structure Held (c : Cursor) : Prop where
  rowset : ∀ id, some id ∈ c.rowset → ∃ slot, c.buffer.slot? id = some slot
  live : ∀ entry ∈ c.bookmarks.live,
    ∃ slot, c.buffer.slot? entry.2 = some slot ∧ slot.status ≠ .deleted
  retired : ∀ entry ∈ c.bookmarks.retired, ∃ slot, c.buffer.slot? entry.2 = some slot
  known : ∀ position, 1 ≤ position → position ≤ c.buffer.count →
    ∃ id slot, c.buffer.slotAt? position = some id ∧ c.buffer.slot? id = some slot ∧
      slot.position = some position

/-- The rowset, the statuses that are shown and the current row agree, and a cursor that can scroll
holds its rows. -/
structure Represented (c : Cursor) : Prop extends InShape c where
  shown : c.paddedStatuses.length = c.size
  beyond : ∀ i status, c.rowset.length ≤ i → c.paddedStatuses[i]? = some status → status = .noRow
  held : c.kind.isScrollable = true → Held c

theorem Inventory.held (h : Inventory c) : Held c := by
  have hslot {id : SlotId} (hid : id < c.buffer.resident) :
      c.buffer.slot? id = some c.buffer.slots[id] := List.getElem?_eq_getElem hid
  refine ⟨fun id hid => ⟨_, hslot (h.rowset id hid)⟩, fun entry hentry => ?_,
    fun entry hentry => ⟨_, hslot (h.retired entry hentry)⟩, fun _ => h.exists_slotAt?⟩
  have hlive := hslot (h.live entry hentry)
  have hstatus := h.notDeleted entry hentry
  rw [slotStatus, hlive] at hstatus
  exact ⟨_, hlive, hstatus⟩

theorem InShape.length_paddedStatuses (h : InShape c) : c.paddedStatuses.length = c.size := by
  have hle : c.statuses.length ≤ c.size := h.statuses ▸ h.bounded
  rw [paddedStatuses, List.length_append, List.length_replicate, Nat.add_sub_cancel' hle]

theorem InShape.eq_noRow (h : InShape c) {i : Nat} {status : RowStatus}
    (hi : c.rowset.length ≤ i) (hstatus : c.paddedStatuses[i]? = some status) :
    status = .noRow := by
  rw [paddedStatuses, List.getElem?_append_right (h.statuses ▸ hi)] at hstatus
  exact List.eq_of_mem_replicate (List.mem_of_getElem? hstatus)

theorem Reachable.represented (h : Reachable c) : Represented c where
  toInShape := h.inShape
  shown := h.inShape.length_paddedStatuses
  beyond _ _ := h.inShape.eq_noRow
  held hkind := (h.inventory hkind).held

end Cursor

namespace Session

variable {σ : Type} {s s' : Session σ}

/-- Whatever calls are made on a statement that begins without a cursor, with anything bound and any
answers of the server in between, its cursor is represented as it should be. -/
theorem represented_of_steps (hsteps : Steps s s') (hcursor : s.statement.cursor = none)
    {c : Cursor} (hc : s'.statement.cursor = some c) : c.Represented :=
  (reachable_of_steps hsteps hcursor hc).represented

/-- Two notes have been fetched into a rowset of three, and the first has been deleted. -/
def firstNoteDeleted : Session MemoryServer :=
  (beforeTwoNotes [] []).performAll
    [.setOptions { cursorKind := .static, rowArraySize := 3, useBookmarks := true },
      .execute "SELECT id, text FROM notes" [], .fetch .next, .setPosition 1 .delete .noChange]

/-- The note that was deleted keeps its place in the rowset, and its bookmark is retired. -/
theorem represented_firstNoteDeleted :
    ∃ c, firstNoteDeleted.statement.cursor = some c ∧ c.kind.isScrollable = true ∧
      c.rowset = [some 0, some 1] ∧ c.paddedStatuses = [.deleted, .success, .noRow] ∧
      c.bookmarks.live.map Prod.snd = [1] ∧ c.bookmarks.retired.map Prod.snd = [0] ∧
      c.Represented := by
  obtain ⟨c, hc⟩ : ∃ c, firstNoteDeleted.statement.cursor = some c := ⟨_, rfl⟩
  have hrepresented : c.Represented := represented_of_steps (steps_performAll _ _) rfl hc
  refine ⟨c, hc, ?_⟩
  cases hc
  exact ⟨rfl, rfl, rfl, rfl, rfl, hrepresented⟩

end Session

end ScrollCursor
