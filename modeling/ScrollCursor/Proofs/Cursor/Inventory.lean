import ScrollCursor.Proofs.Cursor.Ledger

/-! # What a cursor that can scroll holds

However many rows there are, each known position leads to the row that came there, and bookmarks
name rows that are held: the live ones rows that are not deleted, and no two of them the same row.
-/

namespace ScrollCursor

namespace Cursor

variable {c d : Cursor} {m : Bookmarks} {id : SlotId}

/-- Live bookmarks are for different rows, none of them deleted, and retired ones for rows that are
still held. -/
structure Tidy (c : Cursor) (m : Bookmarks) : Prop where
  distinct : (m.live.map Prod.snd).Nodup
  notDeleted : ∀ entry ∈ m.live, c.slotStatus entry.2 ≠ .deleted
  retired : ∀ entry ∈ m.retired, entry.2 < c.buffer.resident

namespace Tidy

theorem congr (h : Tidy c m) (hresident : c.buffer.resident ≤ d.buffer.resident)
    (hstatus : ∀ entry ∈ m.live, d.slotStatus entry.2 ≠ .deleted) : Tidy d m :=
  ⟨h.distinct, hstatus, fun entry hentry => Nat.lt_of_lt_of_le (h.retired entry hentry) hresident⟩

theorem mint (h : Tidy c m) (hid : c.slotStatus id ≠ .deleted) : Tidy c (m.mint id).2 := by
  unfold Bookmarks.mint
  split
  · exact h
  next hnone =>
    refine ⟨?_, fun entry hentry => ?_, h.retired⟩
    · rw [List.map_append]
      refine List.nodup_append.mpr ⟨h.distinct, List.nodup_singleton id, ?_⟩
      intro slot hslot other hother hsame
      obtain ⟨entry, hentry, rfl⟩ := List.mem_map.mp hslot
      exact Bookmarks.ofSlot?_eq_none hnone entry hentry
        (hsame.trans (List.mem_singleton.mp hother))
    · rcases List.mem_append.mp hentry with hlive | hnew
      · exact h.notDeleted entry hlive
      · rwa [List.mem_singleton.mp hnew]

theorem distinct_retire (h : Tidy c m) : ((m.retire id).live.map Prod.snd).Nodup := by
  unfold Bookmarks.retire
  split
  · exact h.distinct
  · exact h.distinct.sublist (List.filter_sublist.map Prod.snd)

end Tidy

/-- Rows, positions and bookmarks belong together. -/
structure Inventory (c : Cursor) : Prop extends Resident c, Tidy c c.bookmarks where
  base : c.buffer.base = 0
  placed : ∀ i id, c.buffer.order[i]? = some id →
    ∃ slot, c.buffer.slot? id = some slot ∧ slot.position = some (i + 1)

/-! ## Changes keep what is held -/

/-- Only a row that is pulled changes the positions. -/
theorem Change.positions (hkind : c.kind.isScrollable = true) (h : Change c d) :
    (d.buffer.order = c.buffer.order ∧ d.buffer.base = c.buffer.base) ∨
      ∃ values, d.buffer = c.buffer.append values := by
  cases h with
  | pull h =>
      cases h with
      | @row values rest h => exact Or.inr ⟨values, rfl⟩
      | failure h => exact Or.inl ⟨rfl, rfl⟩
      | atEnd => exact Or.inl ⟨rfl, rfl⟩
  | drop position =>
      rw [dropBehind_of_isScrollable hkind]
      exact Or.inl ⟨rfl, rfl⟩
  | beforeFirst | afterLast | place | replace | sync | current | key | modify | delete =>
      exact Or.inl ⟨rfl, rfl⟩
  | add values =>
      rw [addRow_buffer]
      exact Or.inl ⟨rfl, rfl⟩

namespace Inventory

theorem base_change (h : Inventory c) (hkind : c.kind.isScrollable = true) (hstep : Change c d) :
    d.buffer.base = 0 := by
  rcases hstep.positions hkind with ⟨-, hbase⟩ | ⟨values, hpush⟩
  · exact hbase.trans h.base
  · rw [hpush]
    exact h.base

/-- A row stays at its position, and a row that is pulled comes after those that are known. -/
theorem placed_change (h : Inventory c) (hkind : c.kind.isScrollable = true) (hstep : Change c d)
    (i : Nat) (id : SlotId) (hid : d.buffer.order[i]? = some id) :
    ∃ slot, d.buffer.slot? id = some slot ∧ slot.position = some (i + 1) := by
  have hkept : c.buffer.order[i]? = some id →
      ∃ slot, d.buffer.slot? id = some slot ∧ slot.position = some (i + 1) := by
    intro hid
    obtain ⟨slot, hslot, hposition⟩ := h.placed i id hid
    obtain ⟨slot', hslot', hcontinues⟩ := hstep.keeps hkind id slot hslot
    exact ⟨slot', hslot', hcontinues.position.trans hposition⟩
  rcases hstep.positions hkind with ⟨horder, -⟩ | ⟨values, hpush⟩
  · exact hkept (horder ▸ hid)
  · have horder : d.buffer.order = c.buffer.order ++ [c.buffer.nextSlot] := by rw [hpush]; rfl
    rw [horder] at hid
    -- The row that was pulled is the last in the order, after all positions that were known.
    by_cases hi : i < c.buffer.order.length
    · rw [List.getElem?_append_left hi] at hid
      exact hkept hid
    · have hlast : i = c.buffer.order.length := by
        have hlt := (List.getElem?_eq_some_iff.mp hid).1
        rw [List.length_append, List.length_singleton] at hlt
        exact Nat.le_antisymm (Nat.le_of_lt_succ hlt) (Nat.not_lt.mp hi)
      subst hlast
      rw [List.getElem?_concat_length] at hid
      cases hid
      rw [hpush]
      refine ⟨_, List.getElem?_concat_length, ?_⟩
      rw [RowSlot.fresh, RowBuffer.count, h.base, Nat.zero_add]

theorem tidy_change (h : Inventory c) (hkind : c.kind.isScrollable = true) (hstep : Change c d) :
    Tidy d d.bookmarks := by
  have hresident := resident_le_of_changes hkind (.single hstep)
  cases hstep with
  | pull hpull =>
      cases hpull with
      | @row values rest _ =>
          refine h.toTidy.congr hresident fun entry hentry => ?_
          have hsame : (c.buffer.append values).slot? entry.2 = c.buffer.slot? entry.2 :=
            RowBuffer.slot?_appendAll [values] (h.live entry hentry)
          rw [slotStatus_congr (c := c) hsame]
          exact h.notDeleted entry hentry
      | failure => exact h.toTidy.congr hresident h.notDeleted
      | atEnd => exact h.toTidy.congr hresident h.notDeleted
  | drop position =>
      rw [dropBehind_of_isScrollable hkind]
      exact h.toTidy
  | beforeFirst | afterLast | place | replace | current | key =>
      exact h.toTidy.congr hresident h.notDeleted
  | sync =>
      have htidy : Tidy c c.syncStatuses.bookmarks :=
        bookmarks_syncStatuses (fun _ _ hm => hm.mint) h.rowset h.toTidy
      exact ⟨htidy.distinct, htidy.notDeleted, htidy.retired⟩
  | modify id f hf =>
      exact h.toTidy.congr hresident fun entry hentry =>
        (deleted_modifySlot_iff hf _).not.mpr (h.notDeleted entry hentry)
  | delete id =>
      refine ⟨h.toTidy.distinct_retire, fun entry hentry => ?_, fun entry hentry => ?_⟩
      · obtain ⟨hlive, hother⟩ := Bookmarks.ne_of_mem_retire h.distinct hentry
        have hsame : (c.markDeleted id).slotStatus entry.2 = c.slotStatus entry.2 :=
          slotStatus_congr (RowBuffer.slot?_modify_of_ne _ hother)
        rw [hsame]
        exact h.notDeleted entry hlive
      · refine Nat.lt_of_lt_of_le ?_ hresident
        rcases Bookmarks.mem_retired_of_retire hentry with hold | ⟨hlive, -⟩
        · exact h.retired entry hold
        · exact h.live entry hlive
  | add values =>
      have hold : Tidy (c.addRow values).2 c.bookmarks := by
        refine h.toTidy.congr hresident fun entry hentry => ?_
        rw [slotStatus_addRow_of_lt values (h.live entry hentry)]
        exact h.notDeleted entry hentry
      rw [addRow_bookmarks]
      split
      · exact hold.mint (slotStatus_addRow c values ▸ RowStatus.noConfusion)
      · exact hold

theorem change (h : Inventory c) (hkind : c.kind.isScrollable = true) (hstep : Change c d) :
    Inventory d where
  toResident := h.toResident.change hkind hstep
  toTidy := h.tidy_change hkind hstep
  base := h.base_change hkind hstep
  placed := h.placed_change hkind hstep

theorem opened (kind : CursorKind) (dialect : Dialect) (options : StatementOptions)
    (result : ResultSet) : Inventory (Cursor.opened kind dialect options result) where
  order := by simp [Cursor.opened]
  rowset := by simp [Cursor.opened]
  live := by simp [Cursor.opened]
  distinct := List.nodup_nil
  notDeleted := by simp [Cursor.opened]
  retired := by simp [Cursor.opened]
  base := rfl
  placed i id hid := by cases hid

theorem of_changes (h : Inventory c) (hkind : c.kind.isScrollable = true) (hsteps : Changes c d) :
    Inventory d := by
  induction hsteps with
  | refl => exact h
  | @tail d e hsteps hstep ih =>
      have hframe : d.kind = c.kind := (Changes.sameFrame hsteps).1
      exact ih.change (hframe ▸ hkind) hstep

/-- Every known position leads to the row that came there. -/
theorem exists_slotAt? (h : Inventory c) {position : Nat} (hpos : 1 ≤ position)
    (hknown : position ≤ c.buffer.count) :
    ∃ id slot, c.buffer.slotAt? position = some id ∧ c.buffer.slot? id = some slot ∧
      slot.position = some position := by
  have hlt : position - 1 < c.buffer.order.length := by
    rw [RowBuffer.count, h.base] at hknown
    omega
  have hid : c.buffer.order[position - 1]? = some c.buffer.order[position - 1] :=
    List.getElem?_eq_getElem hlt
  obtain ⟨slot, hslot, hposition⟩ := h.placed _ _ hid
  refine ⟨_, slot, ?_, hslot, by rwa [Nat.sub_add_cancel hpos] at hposition⟩
  rw [RowBuffer.slotAt?, h.base, if_neg (Nat.not_le.mpr hpos), Nat.sub_zero]
  exact hid

end Inventory

theorem Reachable.inventory (h : Reachable c) (hkind : c.kind.isScrollable = true) :
    Inventory c := by
  obtain ⟨kind, dialect, options, result, hchanges⟩ := h.exists_changes
  have hframe : c.kind = kind := (Changes.sameFrame hchanges).1
  exact (Inventory.opened kind dialect options result).of_changes (hframe ▸ hkind) hchanges

end Cursor

end ScrollCursor
