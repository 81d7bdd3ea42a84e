import ScrollCursor.Proofs.Cursor.StaticSteps

/-! # What a static cursor holds

The rows of a static cursor came from its result or were added, and only writes and deletes have
touched them since. So a row is in no other state than these lead to, and is as wide as the result.
Every row of the rowset that can be shown has its bookmark already, so that looking at the rowset
again changes no more than the statuses.
-/

namespace ScrollCursor

/-- The row has so many values, and the server is known to hold so many. -/
structure RowSlot.Wide (width : Nat) (slot : RowSlot) : Prop where
  values : slot.values.length = width
  image : slot.image.length = width

namespace Cursor

variable {c d : Cursor}

/-! ## Properties of rows -/

/-- A property of a row that writes and deletes keep. -/
structure Lasting (Q : RowSlot → Prop) : Prop where
  written : ∀ slot assignments, Q slot → Q ((slot.apply assignments).withStatus .updated)
  deleted : ∀ slot, Q slot → Q (slot.withStatus .deleted)

/-- The rows have a property, and so will those that are still to come. -/
structure Holds (Q : RowSlot → Prop) (c : Cursor) : Prop where
  slots : ∀ slot ∈ c.buffer.slots, Q slot
  pulled : ∀ values position, .ok values ∈ c.stream → Q (.fresh values .success position)
  added : ∀ values, values.length = c.descriptor.length → Q (.fresh values .added none)

theorem holds_modify {Q : RowSlot → Prop} {f : RowSlot → RowSlot} (h : Holds Q c)
    (hf : ∀ slot, Q slot → Q (f slot)) (id : SlotId) :
    ∀ slot ∈ (c.buffer.modify id f).slots, Q slot := by
  intro slot hslot
  obtain ⟨other, hother⟩ := List.mem_iff_getElem?.mp hslot
  change (c.buffer.modify id f).slot? other = some slot at hother
  rw [RowBuffer.slot?_modify] at hother
  obtain ⟨before, hbefore, rfl⟩ := Option.map_eq_some_iff.mp hother
  have hQ := h.slots before (List.mem_of_getElem? hbefore)
  split
  · exact hf before hQ
  · exact hQ

theorem StaticStep.holds {Q : RowSlot → Prop} (hQ : Lasting Q) (h : StaticStep c d)
    (hc : Holds Q c) : Holds Q d := by
  cases h with
  | pull h =>
      cases h with
      | @row values rest h =>
          refine ⟨fun slot hslot => ?_, fun values' position hmem => ?_, hc.added⟩
          · rcases List.mem_append.mp hslot with hold | hnew
            · exact hc.slots slot hold
            · rw [List.mem_singleton.mp hnew]
              exact hc.pulled values _ (h ▸ List.mem_cons_self)
          · exact hc.pulled values' position (h ▸ List.mem_cons_of_mem _ hmem)
      | failure h =>
          exact ⟨hc.slots, fun values position hmem =>
            hc.pulled values position (h ▸ List.mem_cons_of_mem _ hmem), hc.added⟩
      | atEnd => exact ⟨hc.slots, hc.pulled, hc.added⟩
  | beforeFirst | afterLast | place | replace | sync | current | key =>
      exact ⟨hc.slots, hc.pulled, hc.added⟩
  | write id assignments h =>
      exact ⟨holds_modify hc (fun slot => hQ.written slot assignments) id, hc.pulled, hc.added⟩
  | delete id => exact ⟨holds_modify hc hQ.deleted id, hc.pulled, hc.added⟩
  | add values h =>
      have hframe : SameFrame c (c.addRow values).2 := Change.sameFrame (.add c values)
      have hstream : (c.addRow values).2.stream = c.stream := by
        unfold addRow
        dsimp only
        split <;> rfl
      refine ⟨fun slot hslot => ?_, by rw [hstream]; exact hc.pulled, ?_⟩
      · rw [addRow_buffer] at hslot
        rcases List.mem_append.mp hslot with hold | hnew
        · exact hc.slots slot hold
        · rw [List.mem_singleton.mp hnew]
          exact hc.added values h
      · rw [hframe.2.2.2]
        exact hc.added

/-- What no step takes from a row, and pulled and added rows have, every row has. -/
theorem StaticSteps.holds {Q : RowSlot → Prop} (hQ : Lasting Q) (h : StaticSteps c d)
    (hc : Holds Q c) : Holds Q d := by
  induction h with
  | refl => exact hc
  | tail _ hstep ih => exact hstep.holds hQ ih

theorem Holds.of_slot? {Q : RowSlot → Prop} (h : Holds Q c) {id : SlotId} {slot : RowSlot}
    (hslot : c.buffer.slot? id = some slot) : Q slot :=
  h.slots slot (List.mem_of_getElem? hslot)

/-! ### No row is in error -/

/-- A static cursor brings no row into error. -/
theorem lasting_status_ne_error : Lasting fun slot => slot.status ≠ .error where
  written _ _ _ := RowStatus.noConfusion
  deleted _ _ := RowStatus.noConfusion

/-- No row of a reachable static cursor is in error. -/
theorem Reachable.slotStatus_ne_error (h : Reachable c) (hkind : c.kind = .static) (id : SlotId) :
    c.slotStatus id ≠ .error := by
  obtain ⟨dialect, options, result, hsteps⟩ := h.exists_staticSteps hkind
  have hopened : Holds (fun slot => slot.status ≠ .error)
      (Cursor.opened .static dialect options result) :=
    ⟨fun slot hslot => (by cases hslot), fun _ _ _ => RowStatus.noConfusion,
      fun _ _ => RowStatus.noConfusion⟩
  have hheld := hsteps.holds lasting_status_ne_error hopened
  unfold slotStatus
  cases hslot : c.buffer.slot? id with
  | none => exact RowStatus.noConfusion
  | some slot => exact hheld.of_slot? hslot

/-! ### Rows are as wide as the result -/

/-- Every row stays as wide as the result. -/
theorem lasting_wide (width : Nat) : Lasting (RowSlot.Wide width) where
  written _ _ h :=
    ⟨(Record.length_assign _ _).trans h.values, (Record.length_assign _ _).trans h.image⟩
  deleted _ h := ⟨h.values, h.image⟩

/-- Rows of the rowset that are not deleted have bookmarks. -/
def Marked (c : Cursor) : Prop :=
  c.options.useBookmarks = true → ∀ id, some id ∈ c.rowset → c.slotStatus id ≠ .deleted →
    ∃ b, c.bookmarks.ofSlot? id = some b

theorem entryStatus_eq_deleted_iff {id : SlotId} :
    c.entryStatus (some id) = .deleted ↔ c.slotStatus id = .deleted := by
  unfold entryStatus slotStatus
  rw [Option.bind_some]
  cases c.buffer.slot? id with
  | none => exact iff_of_false RowStatus.noConfusion RowStatus.noConfusion
  | some slot => exact Iff.rfl

theorem ofSlot?_mintEntry {m : Bookmarks} {id : SlotId} {b : Bookmark}
    (h : m.ofSlot? id = some b) (entry : Option SlotId) :
    (c.mintEntry m entry).ofSlot? id = some b := by
  unfold mintEntry
  split
  · exact h
  · split
    · exact h
    · exact Bookmarks.ofSlot?_mint_of_some h

theorem ofSlot?_foldl_mintEntry {m : Bookmarks} {id : SlotId} {b : Bookmark}
    (h : m.ofSlot? id = some b) (entries : List (Option SlotId)) :
    (entries.foldl c.mintEntry m).ofSlot? id = some b := by
  induction entries generalizing m with
  | nil => exact h
  | cons entry entries ih => exact ih (ofSlot?_mintEntry h entry)

/-- Every live row that is shown gets a bookmark. -/
theorem exists_ofSlot?_foldl_mintEntry (m : Bookmarks) {id : SlotId}
    (hlive : c.slotStatus id ≠ .deleted) {entries : List (Option SlotId)} (h : some id ∈ entries) :
    ∃ b, (entries.foldl c.mintEntry m).ofSlot? id = some b := by
  induction entries generalizing m with
  | nil => cases h
  | cons entry entries ih =>
      rcases List.mem_cons.mp h with rfl | h
      · have hminted : c.mintEntry m (some id) = (m.mint id).2 :=
          if_neg (entryStatus_eq_deleted_iff.not.mpr hlive)
        have hid : (c.mintEntry m (some id)).ofSlot? id = some (m.mint id).1 := by
          rw [hminted]
          exact m.ofSlot?_mint id
        exact ⟨_, ofSlot?_foldl_mintEntry hid entries⟩
      · exact ih _ h

/-- Once the statuses have been set, every live row that is shown has its bookmark. -/
theorem marked_syncStatuses (c : Cursor) : c.syncStatuses.Marked := by
  intro huse id hid hlive
  change ∃ b, (if c.options.useBookmarks then c.rowset.foldl c.mintEntry c.bookmarks
    else c.bookmarks).ofSlot? id = some b
  rw [if_pos (by exact huse)]
  exact exists_ofSlot?_foldl_mintEntry _ hlive hid

/-- While the rowset stays, its rows keep their bookmarks until they are deleted. -/
theorem Marked.of_changes (h : Marked c) (hc : Ledger c) (hkind : c.kind.isScrollable = true)
    (hsteps : Changes c d) (hsize : Addressable d) (hrowset : d.rowset = c.rowset) :
    Marked d := by
  intro huse id hid hlive
  have hlive' : c.slotStatus id ≠ .deleted := fun hdeleted =>
    hlive (deleted_of_changes hkind hsteps hdeleted)
  rw [hsteps.sameFrame.2.2.1] at huse
  rw [hrowset] at hid
  obtain ⟨b, hb⟩ := h huse id hid hlive'
  have hnamed := named_of_changes hc hkind hsteps hsize (named_of_ofSlot? hb)
  exact ⟨b, (hc.of_changes hkind hsteps hsize).ofSlot?_of_named hnamed hlive⟩

theorem StaticStep.marked (hstep : StaticStep c d) (hc : Ledger c)
    (hkind : c.kind.isScrollable = true) (hsize : Addressable d) (h : Marked c) : Marked d := by
  have hsame := h.of_changes hc hkind hstep.changes hsize
  cases hstep with
  | pull hpull => exact hsame (by cases hpull <;> rfl)
  | beforeFirst | afterLast =>
      intro _ id hid
      cases hid
  | place position => exact marked_syncStatuses _
  | replace entries statuses hentries =>
      intro _ id hid hlive
      obtain ⟨b, hb⟩ := hentries id hid
      exact ⟨b, hc.accounted.ofSlot?_eq_some (mem_live_of_resolve? hb)⟩
  | sync => exact marked_syncStatuses c
  | current | key | write | delete => exact hsame rfl
  | add values hvalues =>
      refine hsame ?_
      unfold addRow
      dsimp only
      split <;> rfl

/-- What a static cursor undergoes leaves no live row of the rowset without a bookmark. -/
theorem StaticSteps.marked (hsteps : StaticSteps c d) (hc : Ledger c)
    (hkind : c.kind.isScrollable = true) (hsize : Addressable d) (h : Marked c) : Marked d := by
  induction hsteps with
  | refl => exact h
  | @tail d e hsteps hstep ih =>
      have hkind' : d.kind.isScrollable = true := (StaticSteps.sameFrame hsteps).1 ▸ hkind
      have hsize' : Addressable d := hsize.of_changes hkind' hstep.changes
      exact hstep.marked (hc.of_changes hkind (StaticSteps.changes hsteps) hsize') hkind' hsize
        (ih hsize')

theorem marked_opened (kind : CursorKind) (dialect : Dialect) (options : StatementOptions)
    (result : ResultSet) : (Cursor.opened kind dialect options result).Marked := by
  intro _ id hid
  cases hid

/-- A rowset all of whose rows have bookmarks is looked at again: only the statuses change. -/
theorem Marked.syncStatuses_eq (h : Marked c) :
    c.syncStatuses = { c with statuses := c.rowset.map c.entryStatus } := by
  have hbookmarks : (if c.options.useBookmarks then c.rowset.foldl c.mintEntry c.bookmarks
      else c.bookmarks) = c.bookmarks := by
    split
    next huse =>
      have hfold (entries : List (Option SlotId)) (hentries : ∀ entry ∈ entries, entry ∈ c.rowset) :
          entries.foldl c.mintEntry c.bookmarks = c.bookmarks := by
        induction entries with
        | nil => rfl
        | cons entry entries ih =>
            have hentry : c.mintEntry c.bookmarks entry = c.bookmarks := by
              unfold mintEntry
              split
              · rfl
              next id =>
                split
                · rfl
                next hlive =>
                  obtain ⟨b, hb⟩ := h huse id (hentries _ List.mem_cons_self)
                    (entryStatus_eq_deleted_iff.not.mp hlive)
                  rw [Bookmarks.mint, hb]
            rw [List.foldl_cons, hentry]
            exact ih fun entry' hmem => hentries entry' (List.mem_cons_of_mem _ hmem)
      exact hfold _ fun _ hmem => hmem
    next => rfl
  rw [syncStatuses, hbookmarks]

/-- A static cursor has a ledger, and its rowset bookmarks. -/
theorem StaticSteps.ledger_marked {dialect : Dialect} {options : StatementOptions}
    {result : ResultSet} (h : StaticSteps (Cursor.opened .static dialect options result) c)
    (hsize : Addressable c) : Ledger c ∧ Marked c := by
  have hscrolls : CursorKind.static.isScrollable = true := rfl
  have hopened := Ledger.opened .static dialect options result
  exact ⟨hopened.of_changes hscrolls h.changes hsize,
    h.marked hopened hscrolls hsize (marked_opened _ _ _ _)⟩

/-- On a reachable static cursor the books are in order and the rows shown have bookmarks. -/
theorem Reachable.ledger_marked (h : Reachable c) (hkind : c.kind = .static)
    (hsize : Addressable c) : Ledger c ∧ Marked c := by
  obtain ⟨_, _, _, hsteps⟩ := h.exists_staticSteps hkind
  exact hsteps.ledger_marked hsize

end Cursor

end ScrollCursor
