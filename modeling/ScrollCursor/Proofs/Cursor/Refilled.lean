import ScrollCursor.Proofs.Cursor.Ledger

/-! # Other contents for a deleted row

A row can be filled with other values and another image. For a row that is deleted this makes no
difference to anything a cursor does or shows: every change of the cursor can be made before or
after, and what is shown is the same.
-/

namespace ScrollCursor

/-- The row with other contents, in the same place and under the same status. -/
def RowSlot.refilled (values image : Record) (slot : RowSlot) : RowSlot :=
  { slot with values := values, image := image }

namespace RowBuffer

/-- The row of a slot has other contents. -/
def refilled (b : RowBuffer) (id : SlotId) (values image : Record) : RowBuffer :=
  b.modify id (RowSlot.refilled values image)

variable {b : RowBuffer} {id other : SlotId} (values image : Record)

/-- Only the one slot is filled with other values. -/
theorem slot?_refilled_of_ne (h : other ≠ id) :
    (b.refilled id values image).slot? other = b.slot? other :=
  slot?_modify_of_ne _ h

theorem status_refilled (b : RowBuffer) (id other : SlotId) :
    ((b.refilled id values image).slot? other).map RowSlot.status =
      (b.slot? other).map RowSlot.status := by
  rw [refilled, slot?_modify, Option.map_map]
  congr 1
  funext slot
  by_cases h : id = other <;> simp [h, RowSlot.refilled]

theorem position_refilled (b : RowBuffer) (id other : SlotId) :
    ((b.refilled id values image).slot? other).bind RowSlot.position =
      (b.slot? other).bind RowSlot.position := by
  rw [refilled, slot?_modify, Option.bind_map]
  congr 1
  funext slot
  by_cases h : id = other <;> simp [h, RowSlot.refilled]

/-- Changes of slots can be made in either order if they do not get in each other's way. -/
theorem modify_comm {f g : RowSlot → RowSlot} (h : other = id → f ∘ g = g ∘ f) :
    (b.modify id f).modify other g = (b.modify other g).modify id f := by
  have hslots : (b.slots.modify id f).modify other g = (b.slots.modify other g).modify id f := by
    by_cases hother : other = id
    · subst hother
      rw [List.modify_modify_eq, List.modify_modify_eq, h rfl]
    · exact List.modify_modify_ne f g b.slots (Ne.symm hother)
  simp only [modify, hslots]

theorem modify_append {xs ys : List RowSlot} {f : RowSlot → RowSlot} (h : id < xs.length) :
    (xs ++ ys).modify id f = xs.modify id f ++ ys := by
  have hlonger : id < (xs ++ ys).length := by
    rw [List.length_append]
    exact Nat.lt_add_right _ h
  rw [List.modify_eq_take_cons_drop h, List.modify_eq_take_cons_drop hlonger,
    List.take_append_of_le_length (Nat.le_of_lt h), List.drop_append_of_le_length h,
    List.getElem_append_left h, List.append_assoc, List.cons_append]

/-- A row can be stored before or after another slot is filled. -/
theorem append_refilled (h : id < b.resident) (row : Record) :
    (b.refilled id values image).append row = (b.append row).refilled id values image := by
  simp only [refilled, modify, append, place, count, nextSlot, List.length_modify, modify_append h]

theorem pushDetached_refilled (h : id < b.resident) (row : Record) (status : RowStatus) :
    (b.refilled id values image).pushDetached row status =
      (b.pushDetached row status).refilled id values image := by
  simp only [refilled, modify, pushDetached, modify_append h]

end RowBuffer

namespace Pulled

/-- Rows are pulled after the rows that are there. -/
theorem run_refilled {id : SlotId} (values image : Record) (limit : Option Nat) (demand : Demand)
    (stream : RowStream) {buffer : RowBuffer} (h : id < buffer.resident) (asked : Nat) :
    run limit demand stream (buffer.refilled id values image) asked =
      { run limit demand stream buffer asked with
        buffer := (run limit demand stream buffer asked).buffer.refilled id values image } := by
  have hsettled (buffer : RowBuffer) :
      settled? limit demand (buffer.refilled id values image) =
        (settled? limit demand buffer).map (RowBuffer.refilled · id values image) := by
    unfold settled?
    repeat' split
    all_goals first | rfl | contradiction
  fun_induction run limit demand stream buffer asked with
  | case1 buffer asked settled hdone | case3 item rest buffer asked settled hdone =>
      rw [run_of_settled? (by rw [hsettled, hdone]; rfl)]
  | case2 buffer asked hmore =>
      rw [run_nil (by rw [hsettled, hmore]; rfl)]
      rfl
  | case4 rest buffer asked hmore e => rw [run_error (by rw [hsettled, hmore]; rfl)]
  | case5 rest buffer asked hmore row ih =>
      have hlonger : id < (buffer.append row).resident := by
        rw [RowBuffer.resident_append]
        exact Nat.lt_succ_of_lt h
      rw [run_ok (by rw [hsettled, hmore]; rfl), RowBuffer.append_refilled values image h row]
      exact ih hlonger

end Pulled

namespace Cursor

/-- The row of a slot has other contents. -/
def refilled (c : Cursor) (id : SlotId) (values image : Record) : Cursor :=
  { c with buffer := c.buffer.refilled id values image }

variable {c : Cursor} {id : SlotId} (values image : Record)

theorem refilled_dialect (c : Cursor) (id : SlotId) :
    (c.refilled id values image).dialect = c.dialect := rfl

theorem refilled_descriptor (c : Cursor) (id : SlotId) :
    (c.refilled id values image).descriptor = c.descriptor := rfl

theorem refilled_bookmarks (c : Cursor) (id : SlotId) :
    (c.refilled id values image).bookmarks = c.bookmarks := rfl

theorem slotOf?_refilled (c : Cursor) (id : SlotId) :
    (c.refilled id values image).slotOf? = c.slotOf? := rfl

theorem size_refilled (c : Cursor) (id : SlotId) :
    (c.refilled id values image).size = c.size := rfl

/-- Every row has the status it had. -/
theorem slotStatus_refilled (c : Cursor) (id other : SlotId) :
    (c.refilled id values image).slotStatus other = c.slotStatus other :=
  congrArg (Option.getD · _) (c.buffer.status_refilled values image id other)

theorem entryStatus_refilled (c : Cursor) (id : SlotId) :
    (c.refilled id values image).entryStatus = c.entryStatus := by
  funext entry
  cases entry with
  | none => rfl
  | some other => exact congrArg (Option.getD · _) (c.buffer.status_refilled values image id other)

theorem entryStatus_of_deleted (h : c.slotStatus id = .deleted) :
    c.entryStatus (some id) = .deleted := by
  obtain ⟨slot, hslot, -⟩ := slotStatus_eq_deleted.mp h
  rw [entryStatus_some (RowBuffer.lt_resident_of_slot? hslot), h]

/-- Statuses can be set anew before or after. -/
theorem syncStatuses_refilled (c : Cursor) (id : SlotId) :
    (c.refilled id values image).syncStatuses = c.syncStatuses.refilled id values image := by
  have hmint : (c.refilled id values image).mintEntry = c.mintEntry := by
    funext m entry
    cases entry with
    | none => rfl
    | some other => simp only [mintEntry, entryStatus_refilled]
  rw [syncStatuses, syncStatuses, hmint, entryStatus_refilled]
  rfl

/-! ## What is shown -/

/-- A status that a deleted row can be shown under hides what the row holds. -/
theorem fetchedRow_refilled {entry : Option SlotId} {status : RowStatus}
    (h : entry = some id → status.hasData = false) :
    (c.refilled id values image).fetchedRow entry status = c.fetchedRow entry status := by
  unfold fetchedRow
  congr 1
  cases hdata : status.hasData with
  | false => simp
  | true =>
      have hentry : entry.bind (c.refilled id values image).buffer.slot? =
          entry.bind c.buffer.slot? := by
        cases entry with
        | none => rfl
        | some other =>
            refine RowBuffer.slot?_refilled_of_ne values image fun heq => ?_
            rw [h (congrArg some heq)] at hdata
            cases hdata
      rw [hentry]
      rfl

/-- If the row is not shown with its values, the rowset is shown the same. -/
theorem fetchedRows_refilled
    (h : ∀ status, (some id, status) ∈ c.rowset.zip c.statuses → status.hasData = false) :
    (c.refilled id values image).fetchedRows = c.fetchedRows := by
  unfold fetchedRows
  rw [← List.map_uncurry_zip_eq_zipWith, ← List.map_uncurry_zip_eq_zipWith]
  refine List.map_congr_left fun pair hpair => ?_
  obtain ⟨entry, status⟩ := pair
  refine fetchedRow_refilled values image fun heq => h status ?_
  rw [← heq]
  exact hpair

/-- A deleted row is not shown with its values. -/
theorem fetchedRows_syncStatuses_refilled (h : c.slotStatus id = .deleted) :
    (c.refilled id values image).syncStatuses.fetchedRows = c.syncStatuses.fetchedRows := by
  rw [syncStatuses_refilled]
  refine fetchedRows_refilled values image fun status hstatus => ?_
  change (some id, status) ∈ c.rowset.zip (c.rowset.map c.entryStatus) at hstatus
  have hpairs : c.rowset.zip (c.rowset.map c.entryStatus) =
      c.rowset.map fun entry => (entry, c.entryStatus entry) := by
    simpa only [List.map_id'] using List.zip_map' (f := fun entry => entry) (g := c.entryStatus)
  rw [hpairs] at hstatus
  obtain ⟨entry, -, hentry⟩ := List.mem_map.mp hstatus
  obtain ⟨rfl, rfl⟩ := Prod.mk.inj hentry
  rw [entryStatus_of_deleted h]
  rfl

/-- The outcome of a fetch is the same, since a deleted row is not shown. -/
theorem fetchOutcome_syncStatuses_refilled (h : c.slotStatus id = .deleted) :
    (c.refilled id values image).syncStatuses.fetchOutcome = c.syncStatuses.fetchOutcome := by
  have hrows := fetchedRows_syncStatuses_refilled values image h
  unfold fetchOutcome
  rw [hrows, syncStatuses_refilled]
  rfl

/-! ## Changes -/

/-- An added row gets the same bookmark. -/
theorem addRow_refilled (h : id < c.buffer.resident) (record : Record) :
    (c.refilled id values image).addRow record =
      ((c.addRow record).1, (c.addRow record).2.refilled id values image) := by
  have hnext : (c.refilled id values image).buffer.nextSlot = c.buffer.nextSlot :=
    List.length_modify ..
  unfold addRow
  rw [hnext]
  simp only [refilled, RowBuffer.pushDetached_refilled values image h]
  split <;> rfl

theorem markDeleted_refilled (c : Cursor) (id other : SlotId) :
    (c.refilled id values image).markDeleted other =
      (c.markDeleted other).refilled id values image := by
  have hbuffer : (c.buffer.refilled id values image).setStatus other .deleted =
      (c.buffer.setStatus other .deleted).refilled id values image :=
    RowBuffer.modify_comm fun _ => rfl
  simp only [markDeleted, refilled, hbuffer]

theorem modifySlot_refilled {other : SlotId} (h : other ≠ id) (f : RowSlot → RowSlot) :
    (c.refilled id values image).modifySlot other f =
      (c.modifySlot other f).refilled id values image := by
  have hbuffer : (c.buffer.refilled id values image).modify other f =
      (c.buffer.modify other f).refilled id values image :=
    RowBuffer.modify_comm fun heq => absurd heq h
  simp only [modifySlot, refilled, hbuffer]

/-! ## Where a cursor goes -/

theorem move_refilled (c : Cursor) (id : SlotId) (orientation : Orientation) :
    (c.refilled id values image).move orientation = c.move orientation := by
  cases orientation with
  | bookmark b offset =>
      have hposition : (((c.refilled id values image).bookmarks.locate? b).bind
            (c.refilled id values image).buffer.slot?).bind RowSlot.position =
          ((c.bookmarks.locate? b).bind c.buffer.slot?).bind RowSlot.position := by
        rw [refilled_bookmarks]
        cases c.bookmarks.locate? b with
        | none => rfl
        | some other => exact c.buffer.position_refilled values image id other
      unfold move
      dsimp only
      rw [hposition]
      rfl
  | _ => rfl

/-- A deleted row has no image to be found by. -/
theorem currentImage?_refilled (h : c.slotStatus id = .deleted) :
    (c.refilled id values image).currentImage? = c.currentImage? := by
  obtain ⟨slot, hslot, hdeleted⟩ := slotStatus_eq_deleted.mp h
  have himage (other : SlotId) :
      ((c.refilled id values image).buffer.slot? other).bind (fun slot =>
          if slot.isDeleted then none else some slot.image) =
        (c.buffer.slot? other).bind fun slot =>
          if slot.isDeleted then none else some slot.image := by
    by_cases hother : other = id
    · subst hother
      have hrefilled : (c.refilled other values image).buffer.slot? other =
          some (slot.refilled values image) := RowBuffer.slot?_modify_self _ hslot
      have hgone : (slot.refilled values image).isDeleted = true := hdeleted
      rw [hrefilled, hslot]
      simp only [Option.bind_some, hdeleted, hgone, if_true]
    · have hsame : (c.refilled id values image).buffer.slot? other = c.buffer.slot? other :=
        RowBuffer.slot?_refilled_of_ne values image hother
      rw [hsame]
  unfold currentImage?
  change (c.current.bind fun row => (c.slotOf? row).bind fun other =>
    ((c.refilled id values image).buffer.slot? other).bind _) = _
  simp only [himage]
  rfl

end Cursor

end ScrollCursor
