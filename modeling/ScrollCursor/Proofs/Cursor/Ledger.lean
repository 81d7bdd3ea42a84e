import ScrollCursor.Proofs.Cursor.Reachable
import ScrollCursor.Proofs.Cursor.Fetching

/-! # Rows and bookmarks over time

A cursor that can scroll never lets go of a row: a row stays in its slot and in its place, and once
it is deleted it stays deleted. Its bookmark stays with it. The ledger of a cursor says which of the
bookmarks given out name rows that are there, which named rows that are deleted, and that every row
of the result is found at its position.
-/

namespace ScrollCursor

/-- The row later on: in the same place, and deleted if it was. -/
structure RowSlot.Continues (slot slot' : RowSlot) : Prop where
  position : slot'.position = slot.position
  isDeleted : slot.isDeleted = true → slot'.isDeleted = true

theorem RowSlot.Continues.refl (slot : RowSlot) : slot.Continues slot :=
  ⟨rfl, id⟩

namespace RowBuffer

/-- Every row of the first buffer is a row of the second. -/
def Keeps (b b' : RowBuffer) : Prop :=
  ∀ id slot, b.slot? id = some slot → ∃ slot', b'.slot? id = some slot' ∧ slot.Continues slot'

namespace Keeps

variable {b b' b'' : RowBuffer}

/-- Slots that are unchanged are kept. -/
theorem of_slot? (h : ∀ id, id < b.resident → b'.slot? id = b.slot? id) : Keeps b b' :=
  fun id slot hslot => ⟨slot, (h id (lt_resident_of_slot? hslot)).trans hslot, .refl slot⟩

theorem refl (b : RowBuffer) : Keeps b b :=
  .of_slot? fun _ _ => rfl

theorem trans (h : Keeps b b') (h' : Keeps b' b'') : Keeps b b'' := by
  intro id slot hslot
  obtain ⟨slot', hslot', hcontinues⟩ := h id slot hslot
  obtain ⟨slot'', hslot'', hcontinues'⟩ := h' id slot' hslot'
  exact ⟨slot'', hslot'', hcontinues'.position.trans hcontinues.position,
    fun hdeleted => hcontinues'.isDeleted (hcontinues.isDeleted hdeleted)⟩

/-- A slot that goes on as it was is kept when it is changed. -/
theorem modify {id : SlotId} {f : RowSlot → RowSlot}
    (h : ∀ slot, b.slot? id = some slot → slot.Continues (f slot)) : Keeps b (b.modify id f) := by
  intro other slot hslot
  by_cases hother : other = id
  · subst hother
    exact ⟨f slot, slot?_modify_self f hslot, h slot hslot⟩
  · exact ⟨slot, (slot?_modify_of_ne f hother).trans hslot, .refl slot⟩

end Keeps

end RowBuffer

namespace Cursor

variable {c d : Cursor} {b : Bookmark} {id : SlotId}

theorem slotStatus_congr (h : d.buffer.slot? id = c.buffer.slot? id) :
    d.slotStatus id = c.slotStatus id := by
  rw [slotStatus, slotStatus, h]

/-- A status says deleted if there is a slot and its row has been deleted. -/
theorem slotStatus_eq_deleted :
    c.slotStatus id = .deleted ↔ ∃ slot, c.buffer.slot? id = some slot ∧ slot.isDeleted = true := by
  unfold slotStatus RowSlot.isDeleted
  cases c.buffer.slot? id with
  | none => simp
  | some slot => simp

/-- A row that is not deleted has other contents, and is not deleted still. -/
theorem deleted_modifySlot_iff {f : RowSlot → RowSlot}
    (hf : ∀ slot, c.buffer.slot? id = some slot → slot.Rewritten (f slot)) (other : SlotId) :
    (c.modifySlot id f).slotStatus other = .deleted ↔ c.slotStatus other = .deleted := by
  by_cases hother : other = id
  · subst hother
    refine iff_of_false (fun hdeleted => ?_) (fun hdeleted => ?_)
    · obtain ⟨slot, hslot, hgone⟩ := slotStatus_eq_deleted.mp hdeleted
      change (c.buffer.modify other f).slot? other = some slot at hslot
      cases hbefore : c.buffer.slot? other with
      | none =>
          rw [RowBuffer.slot?_modify, hbefore] at hslot
          cases hslot
      | some before =>
          rw [RowBuffer.slot?_modify_self f hbefore] at hslot
          cases hslot
          rw [(hf before hbefore).after] at hgone
          cases hgone
    · obtain ⟨slot, hslot, hgone⟩ := slotStatus_eq_deleted.mp hdeleted
      rw [(hf slot hslot).before] at hgone
      cases hgone
  · rw [slotStatus_congr (d := c.modifySlot id f) (RowBuffer.slot?_modify_of_ne f hother)]

theorem addRow_buffer (c : Cursor) (values : Record) :
    (c.addRow values).2.buffer = c.buffer.pushDetached values .added := by
  unfold addRow
  dsimp only
  split <;> rfl

/-- An added row gets a bookmark if bookmarks are in use. -/
theorem addRow_bookmarks (c : Cursor) (values : Record) :
    (c.addRow values).2.bookmarks =
      if c.options.useBookmarks then (c.bookmarks.mint c.buffer.nextSlot).2 else c.bookmarks := by
  unfold addRow
  dsimp only
  split <;> rfl

/-- A row that is added has the status of one. -/
theorem slotStatus_addRow (c : Cursor) (values : Record) :
    (c.addRow values).2.slotStatus c.buffer.nextSlot = .added := by
  rw [slotStatus, addRow_buffer]
  change ((c.buffer.slots ++ _)[c.buffer.slots.length]?.map RowSlot.status).getD .noRow = _
  rw [List.getElem?_concat_length]
  rfl

/-- The statuses of the rows before are not touched. -/
theorem slotStatus_addRow_of_lt (values : Record) (h : id < c.buffer.resident) :
    (c.addRow values).2.slotStatus id = c.slotStatus id := by
  refine slotStatus_congr ?_
  rw [addRow_buffer]
  exact RowBuffer.slot?_pushDetached values .added h

/-! ## Rows -/

/-- No single change of a scrollable cursor gives up a slot or brings back a deleted row. -/
theorem Change.keeps (hkind : c.kind.isScrollable = true) (h : Change c d) :
    c.buffer.Keeps d.buffer := by
  cases h with
  | pull h =>
      cases h with
      | row h => exact .of_slot? fun id hid => RowBuffer.slot?_appendAll [_] hid
      | failure h => exact .refl c.buffer
      | atEnd => exact .refl c.buffer
  | drop position =>
      rw [dropBehind_of_isScrollable hkind]
      exact .refl c.buffer
  | beforeFirst | afterLast | place | replace | sync | current | key => exact .refl c.buffer
  | modify other f h =>
      refine .modify fun slot hslot => ⟨(h slot hslot).position, fun hdeleted => ?_⟩
      rw [(h slot hslot).before] at hdeleted
      cases hdeleted
  | delete other => exact .modify fun slot _ => ⟨rfl, fun _ => rfl⟩
  | add values =>
      rw [addRow_buffer]
      exact .of_slot? fun id hid => RowBuffer.slot?_pushDetached values .added hid

/-- No changes of a scrollable cursor give up a slot or bring back a deleted row. -/
theorem keeps_of_changes (hkind : c.kind.isScrollable = true) (h : Changes c d) :
    c.buffer.Keeps d.buffer := by
  induction h with
  | refl => exact .refl c.buffer
  | @tail d e hsteps hstep ih =>
      have hframe : d.kind = c.kind := (Changes.sameFrame hsteps).1
      exact ih.trans (hstep.keeps (hframe ▸ hkind))

/-- A row that is deleted stays deleted. -/
theorem deleted_of_changes (hkind : c.kind.isScrollable = true) (h : Changes c d)
    (hdeleted : c.slotStatus id = .deleted) : d.slotStatus id = .deleted := by
  obtain ⟨slot, hslot, hgone⟩ := slotStatus_eq_deleted.mp hdeleted
  obtain ⟨slot', hslot', hcontinues⟩ := keeps_of_changes hkind h id slot hslot
  exact slotStatus_eq_deleted.mpr ⟨slot', hslot', hcontinues.isDeleted hgone⟩

/-- A scrollable cursor never holds fewer slots than it did. -/
theorem resident_le_of_changes (hkind : c.kind.isScrollable = true) (h : Changes c d) :
    c.buffer.resident ≤ d.buffer.resident := by
  refine Nat.le_of_not_lt fun hlt => ?_
  have hslot : c.buffer.slot? d.buffer.resident = some c.buffer.slots[d.buffer.resident] :=
    List.getElem?_eq_getElem hlt
  obtain ⟨slot', hslot', -⟩ := keeps_of_changes hkind h _ _ hslot
  exact Nat.lt_irrefl _ (RowBuffer.lt_resident_of_slot? hslot')

/-! ## Bookmarks -/

/-- The bookmark names the row, or named it before it was deleted. -/
def Named (c : Cursor) (b : Bookmark) (id : SlotId) : Prop :=
  (b, id) ∈ c.bookmarks.entries

/-- A bookmark once given out is still there when others are. -/
theorem named_mintEntry {m : Bookmarks} {entry : Bookmark × SlotId}
    (h : entry ∈ m.entries) (e : Option SlotId) : entry ∈ (c.mintEntry m e).entries := by
  unfold mintEntry
  split
  · exact h
  · split
    · exact h
    · exact Bookmarks.mem_entries_mint h _

/-- Statuses that are set anew leave every bookmark to its slot. -/
theorem named_syncStatuses (h : Named c b id) : Named c.syncStatuses b id := by
  have hfold (entries : List (Option SlotId)) (m : Bookmarks) (hm : (b, id) ∈ m.entries) :
      (b, id) ∈ (entries.foldl c.mintEntry m).entries := by
    induction entries generalizing m with
    | nil => exact hm
    | cons e entries ih => exact ih _ (named_mintEntry hm e)
  unfold Named syncStatuses
  dsimp only
  split
  · exact hfold _ _ h
  · exact h

/-! ## The ledger -/

/-- Bookmarks of which the live ones are for rows of the cursor that are not deleted, and the
retired ones for rows that are. -/
structure Tally (c : Cursor) (m : Bookmarks) : Prop where
  accounted : m.Accounted
  notDeleted : ∀ entry ∈ m.live, c.slotStatus entry.2 ≠ .deleted
  deleted : ∀ entry ∈ m.retired, c.slotStatus entry.2 = .deleted

/-- Rows and bookmarks belong together, and the row that came at a position is found there. -/
structure Ledger (c : Cursor) : Prop extends Resident c, Tally c c.bookmarks where
  base : c.buffer.base = 0
  ordered : c.buffer.order.length ≤ c.buffer.resident
  placed : ∀ id slot position, c.buffer.slot? id = some slot → slot.position = some position →
    0 < position ∧ c.buffer.order[position - 1]? = some id

/-- The positions of so many rows are numbers that a move can lead to. -/
def Addressable (c : Cursor) : Prop :=
  (c.buffer.resident : Int) ≤ Target.maxPosition

/-- If the slots can be numbered in the end, they can all along. -/
theorem Addressable.of_changes (h : Addressable d) (hkind : c.kind.isScrollable = true)
    (hsteps : Changes c d) : Addressable c :=
  Int.le_trans (Int.ofNat_le.mpr (resident_le_of_changes hkind hsteps)) h

theorem entryStatus_some (h : id < c.buffer.resident) :
    c.entryStatus (some id) = c.slotStatus id := by
  have hslot : c.buffer.slot? id = some c.buffer.slots[id] := List.getElem?_eq_getElem h
  simp [entryStatus, slotStatus, hslot]

/-- What holds of the bookmarks, whichever row that is not deleted they are minted for, holds after
a look at a rowset. -/
theorem bookmarks_syncStatuses {P : Bookmarks → Prop}
    (hmint : ∀ m id, P m → c.slotStatus id ≠ .deleted → P (m.mint id).2)
    (hrowset : ∀ id, some id ∈ c.rowset → id < c.buffer.resident) (h : P c.bookmarks) :
    P c.syncStatuses.bookmarks := by
  have hentry (m : Bookmarks) (e : Option SlotId) (he : e ∈ c.rowset) (hm : P m) :
      P (c.mintEntry m e) := by
    unfold mintEntry
    split
    · exact hm
    next id =>
      split
      · exact hm
      next hstatus =>
        rw [entryStatus_some (hrowset id he)] at hstatus
        exact hmint m id hm hstatus
  have hfold (entries : List (Option SlotId)) (m : Bookmarks) (hentries : entries ⊆ c.rowset)
      (hm : P m) : P (entries.foldl c.mintEntry m) := by
    induction entries generalizing m with
    | nil => exact hm
    | cons e entries ih =>
        obtain ⟨he, hrest⟩ := List.cons_subset.mp hentries
        exact ih _ hrest (hentry m e he hm)
  unfold syncStatuses
  dsimp only
  split
  · exact hfold _ _ (List.Subset.refl _) h
  · exact h

namespace Tally

variable {m : Bookmarks}

/-- A tally depends on the statuses of the rows with bookmarks only. -/
theorem congr (h : Tally c m)
    (hstatus : ∀ entry ∈ m.entries, d.slotStatus entry.2 = c.slotStatus entry.2) :
    Tally d m where
  accounted := h.accounted
  notDeleted entry hentry :=
    (hstatus entry (List.mem_append_left _ hentry)).symm ▸ h.notDeleted entry hentry
  deleted entry hentry :=
    (hstatus entry (List.mem_append_right _ hentry)).trans (h.deleted entry hentry)

/-- A new bookmark of a live row is counted. -/
theorem mint (h : Tally c m) (hid : c.slotStatus id ≠ .deleted) : Tally c (m.mint id).2 := by
  have haccounted : (m.mint id).2.Accounted := h.accounted.mint fun entry hentry hslot =>
    hid (hslot ▸ h.deleted entry hentry)
  have hretired : (m.mint id).2.retired = m.retired := by
    unfold Bookmarks.mint
    split <;> rfl
  refine ⟨haccounted, fun entry hentry => ?_,
    fun entry hentry => h.deleted entry (hretired ▸ hentry)⟩
  rcases mem_live_of_mint hentry with hlive | rfl
  · exact h.notDeleted entry hlive
  · exact hid

end Tally

namespace Ledger

/-- The books of a cursor that has just been opened are in order. -/
theorem opened (kind : CursorKind) (dialect : Dialect) (options : StatementOptions)
    (result : ResultSet) : Ledger (Cursor.opened kind dialect options result) where
  order := by simp [Cursor.opened]
  rowset := by simp [Cursor.opened]
  live := by simp [Cursor.opened]
  accounted := .opened
  notDeleted := by simp [Cursor.opened]
  deleted := by simp [Cursor.opened]
  base := rfl
  ordered := Nat.le_refl 0
  placed id slot position hslot := by cases hslot

/-- Every bookmark was given to a slot that there is. -/
theorem lt_resident_of_mem_entries (h : Ledger c) {entry : Bookmark × SlotId}
    (hentry : entry ∈ c.bookmarks.entries) : entry.2 < c.buffer.resident := by
  rcases List.mem_append.mp hentry with hlive | hretired
  · exact h.live entry hlive
  · obtain ⟨slot, hslot, -⟩ := slotStatus_eq_deleted.mp (h.deleted entry hretired)
    exact RowBuffer.lt_resident_of_slot? hslot

/-- So many rows never use up the numbers of eight bytes. -/
theorem issued_lt (h : Ledger c) (hsize : Addressable c) : c.bookmarks.issued < 1 <<< 64 := by
  have hle := h.accounted.issued_le fun entry hentry => h.lt_resident_of_mem_entries hentry
  have hmax : Target.maxPosition = 9223372036854775807 := rfl
  unfold Addressable at hsize
  rw [hmax] at hsize
  rw [Nat.shiftLeft_eq]
  omega

/-- The rows are kept as they are, and so are the bookmarks. -/
theorem of_slots (h : Ledger c) (hresident : Resident d)
    (hslots : d.buffer.slots = c.buffer.slots) (horder : d.buffer.order = c.buffer.order)
    (hbase : d.buffer.base = c.buffer.base) (hbookmarks : d.bookmarks = c.bookmarks) :
    Ledger d where
  toResident := hresident
  toTally := by
    rw [hbookmarks]
    refine h.toTally.congr fun entry _ => slotStatus_congr ?_
    rw [RowBuffer.slot?, RowBuffer.slot?, hslots]
  base := hbase.trans h.base
  ordered := by
    rw [RowBuffer.resident, hslots, horder]
    exact h.ordered
  placed id slot position hslot := by
    rw [RowBuffer.slot?, hslots] at hslot
    rw [horder]
    exact h.placed id slot position hslot

theorem ordered_modify (h : Ledger c) (id : SlotId) (f : RowSlot → RowSlot) :
    (c.buffer.modify id f).order.length ≤ (c.buffer.modify id f).resident := by
  rw [resident_modify]
  exact h.ordered

/-- The row of a slot changes in its place. -/
theorem placed_modify (h : Ledger c) {id : SlotId} {f : RowSlot → RowSlot}
    (hf : ∀ slot, c.buffer.slot? id = some slot → (f slot).position = slot.position)
    (other : SlotId) (slot : RowSlot) (position : Nat)
    (hslot : (c.buffer.modify id f).slot? other = some slot)
    (hposition : slot.position = some position) :
    0 < position ∧ c.buffer.order[position - 1]? = some other := by
  by_cases hother : other = id
  · subst hother
    cases hbefore : c.buffer.slot? other with
    | none =>
        rw [RowBuffer.slot?_modify, hbefore] at hslot
        cases hslot
    | some before =>
        rw [RowBuffer.slot?_modify_self f hbefore] at hslot
        cases hslot
        exact h.placed other before position hbefore ((hf before hbefore).symm.trans hposition)
  · rw [RowBuffer.slot?_modify_of_ne f hother] at hslot
    exact h.placed other slot position hslot hposition

/-- The books are in order after a row has been pulled. -/
theorem push (h : Ledger c) {values : Record} {rest : RowStream}
    (hresident : Resident { c with stream := rest, buffer := c.buffer.append values }) :
    Ledger { c with stream := rest, buffer := c.buffer.append values } where
  toResident := hresident
  toTally := h.toTally.congr fun entry hentry => slotStatus_congr
    (RowBuffer.slot?_appendAll [values] (h.lt_resident_of_mem_entries hentry))
  base := h.base
  ordered := by
    rw [RowBuffer.resident_append]
    change (c.buffer.order ++ [c.buffer.nextSlot]).length ≤ _
    rw [List.length_append]
    exact Nat.succ_le_succ h.ordered
  placed id slot position hslot hposition := by
    change (c.buffer.slots ++ _)[id]? = some slot at hslot
    change 0 < position ∧ (c.buffer.order ++ [c.buffer.nextSlot])[position - 1]? = some id
    by_cases hold : id < c.buffer.resident
    · rw [List.getElem?_append_left hold] at hslot
      obtain ⟨hpos, horder⟩ := h.placed id slot position hslot hposition
      refine ⟨hpos, ?_⟩
      rw [List.getElem?_append_left (List.getElem?_eq_some_iff.mp horder).1]
      exact horder
    · -- The new row comes at the position after those that are known.
      have hnew : id = c.buffer.nextSlot := by
        have hlt := (List.getElem?_eq_some_iff.mp hslot).1
        rw [List.length_append, List.length_singleton] at hlt
        exact Nat.le_antisymm (Nat.le_of_lt_succ hlt) (Nat.le_of_not_lt hold)
      subst hnew
      rw [RowBuffer.nextSlot, List.getElem?_concat_length] at hslot
      cases hslot
      cases hposition
      have hknown : c.buffer.count = c.buffer.order.length := by
        rw [RowBuffer.count, h.base, Nat.zero_add]
      rw [hknown, Nat.add_sub_cancel, List.getElem?_concat_length]
      exact ⟨Nat.succ_pos _, rfl⟩

/-- The books are in order after a row has been added. -/
theorem add (h : Ledger c) (values : Record) (hresident : Resident (c.addRow values).2) :
    Ledger (c.addRow values).2 where
  toResident := hresident
  toTally := by
    have htally : Tally (c.addRow values).2 c.bookmarks := h.toTally.congr fun entry hentry =>
      slotStatus_addRow_of_lt values (h.lt_resident_of_mem_entries hentry)
    rw [addRow_bookmarks]
    split
    · exact htally.mint (slotStatus_addRow c values ▸ RowStatus.noConfusion)
    · exact htally
  base := by
    rw [addRow_buffer]
    exact h.base
  ordered := by
    rw [addRow_buffer, RowBuffer.resident_pushDetached]
    exact Nat.le_succ_of_le h.ordered
  placed id slot position hslot hposition := by
    rw [addRow_buffer] at hslot ⊢
    change (c.buffer.slots ++ [RowSlot.fresh values .added none])[id]? = some slot at hslot
    rcases Nat.lt_or_ge id c.buffer.slots.length with hold | hnew
    · rw [List.getElem?_append_left hold] at hslot
      exact h.placed id slot position hslot hposition
    · -- The added row has no position.
      rw [List.getElem?_append_right hnew] at hslot
      rw [List.mem_singleton.mp (List.mem_of_getElem? hslot)] at hposition
      cases hposition

/-- Every change leaves the books in order. -/
theorem change (h : Ledger c) (hkind : c.kind.isScrollable = true) (hsize : Addressable c)
    (hstep : Change c d) : Ledger d := by
  have hresident := h.toResident.change hkind hstep
  cases hstep with
  | pull hpull =>
      cases hpull with
      | row => exact h.push hresident
      | failure => exact h.of_slots hresident rfl rfl rfl rfl
      | atEnd => exact h.of_slots hresident rfl rfl rfl rfl
  | drop position =>
      rw [dropBehind_of_isScrollable hkind]
      exact h
  | beforeFirst | afterLast | place | replace | current | key =>
      exact h.of_slots hresident rfl rfl rfl rfl
  | sync =>
      have htally : Tally c c.syncStatuses.bookmarks :=
        bookmarks_syncStatuses (fun _ _ hm => hm.mint) h.rowset h.toTally
      exact ⟨hresident, ⟨htally.accounted, htally.notDeleted, htally.deleted⟩, h.base, h.ordered,
        h.placed⟩
  | modify id f hf =>
      refine ⟨hresident, ?_, h.base, h.ordered_modify id f,
        h.placed_modify fun slot hslot => (hf slot hslot).position⟩
      have hstatus := deleted_modifySlot_iff hf
      exact ⟨h.accounted, fun entry hentry => (hstatus _).not.mpr (h.notDeleted entry hentry),
        fun entry hentry => (hstatus _).mpr (h.deleted entry hentry)⟩
  | delete id =>
      refine ⟨hresident, ?_, h.base, h.ordered_modify id _, h.placed_modify fun slot _ => rfl⟩
      have hissued := h.issued_lt hsize
      have hsame {other : SlotId} (hother : other ≠ id) :
          (c.markDeleted id).slotStatus other = c.slotStatus other :=
        slotStatus_congr (RowBuffer.slot?_modify_of_ne _ hother)
      refine ⟨h.accounted.retire hissued id, fun entry hentry => ?_, fun entry hentry => ?_⟩
      · obtain ⟨hlive, hother⟩ := Bookmarks.ne_of_mem_retire h.accounted.distinct hentry
        rw [hsame hother]
        exact h.notDeleted entry hlive
      · rcases Bookmarks.mem_retired_of_retire hentry with hold | ⟨hlive, rfl⟩
        · exact deleted_of_changes hkind (.single (.delete c id)) (h.deleted entry hold)
        · have hslot : c.buffer.slot? entry.2 = some _ :=
            List.getElem?_eq_getElem (h.live entry hlive)
          exact slotStatus_eq_deleted.mpr ⟨_, RowBuffer.slot?_modify_self _ hslot, rfl⟩
  | add values => exact h.add values hresident

/-- The books are in order after any changes. -/
theorem of_changes (h : Ledger c) (hkind : c.kind.isScrollable = true) (hsteps : Changes c d)
    (hsize : Addressable d) : Ledger d := by
  induction hsteps with
  | refl => exact h
  | @tail d e hsteps hstep ih =>
      have hkind' : d.kind.isScrollable = true := (Changes.sameFrame hsteps).1 ▸ hkind
      have hsize' : Addressable d := hsize.of_changes hkind' (.single hstep)
      exact (ih hsize').change hkind' hsize' hstep

end Ledger

/-! ## Bookmarks stay with their rows -/

/-- No change takes a bookmark from its slot. -/
theorem Change.named (hc : Ledger c) (hkind : c.kind.isScrollable = true) (hsize : Addressable c)
    (hstep : Change c d) (h : Named c b id) : Named d b id := by
  cases hstep with
  | pull hpull => cases hpull <;> exact h
  | drop position =>
      rw [dropBehind_of_isScrollable hkind]
      exact h
  | beforeFirst | afterLast | place | replace | current | key | modify => exact h
  | sync => exact named_syncStatuses h
  | delete other =>
      have hbookmarks := hc.accounted.nodup_bookmarks (hc.issued_lt hsize)
      exact (Bookmarks.perm_retire hbookmarks other).mem_iff.mpr h
  | add values =>
      rw [Named, addRow_bookmarks]
      split
      · exact Bookmarks.mem_entries_mint h _
      · exact h

/-- A bookmark belongs to its slot whatever changes there are. -/
theorem named_of_changes (hc : Ledger c) (hkind : c.kind.isScrollable = true)
    (hsteps : Changes c d) (hsize : Addressable d) (h : Named c b id) : Named d b id := by
  induction hsteps with
  | refl => exact h
  | @tail d e hsteps hstep ih =>
      have hkind' : d.kind.isScrollable = true := (Changes.sameFrame hsteps).1 ▸ hkind
      have hsize' : Addressable d := hsize.of_changes hkind' (.single hstep)
      exact hstep.named (hc.of_changes hkind hsteps hsize') hkind' hsize' (ih hsize')

/-- The bookmark of a row that is not deleted is the one that it is shown with. -/
theorem Ledger.ofSlot?_of_named (hc : Ledger c) (h : Named c b id)
    (hlive : c.slotStatus id ≠ .deleted) : c.bookmarks.ofSlot? id = some b := by
  rcases List.mem_append.mp h with hmem | hmem
  · exact hc.accounted.ofSlot?_eq_some hmem
  · exact absurd (hc.deleted _ hmem) hlive

/-- The bookmark that a slot has been given belongs to it. -/
theorem named_of_ofSlot? (h : c.bookmarks.ofSlot? id = some b) : Named c b id :=
  List.mem_append_left _ (Bookmarks.mem_live_of_ofSlot? h)

/-- A bookmark is for one row. -/
theorem Ledger.eq_of_named (hc : Ledger c) (hsize : Addressable c) {other : SlotId}
    (h : Named c b id) (hother : Named c b other) : other = id :=
  (Prod.mk.inj (hc.accounted.eq_of_bookmark (hc.issued_lt hsize) hother h rfl)).2

end Cursor

end ScrollCursor
