import ScrollCursor.Proofs.Cursor.Course
import ScrollCursor.Proofs.Cursor.Inventory

/-! # The rows that a fetch shows

A fetch that shows rows has pulled those it needs and has placed the rowset on them. Nothing else has
happened until they are shown, so each of them is as it was in the buffer, or as it came from the
result, and no two of them are the same row.
-/

namespace ScrollCursor

namespace Cursor

variable {c d : Cursor} {id : SlotId} {slot : RowSlot}

/-! ## Rows that are there or will come -/

/-- A slot as it is in the buffer, or as it will come there if nothing fails or ends before. -/
def brought? (c : Cursor) (id : SlotId) : Option RowSlot :=
  (c.buffer.appendAll (c.stream.filterMap Except.toOption)).slot? id

theorem brought?_of_slot? (h : c.buffer.slot? id = some slot) : c.brought? id = some slot :=
  (RowBuffer.slot?_appendAll _ (RowBuffer.lt_resident_of_slot? h)).trans h

/-- Rows that are pulled leave those there were as they are. -/
theorem Pulls.brought?_eq (h : Pulls c d) : d.brought? = c.brought? := by
  induction h with
  | refl => rfl
  | tail _ hstep ih =>
      rw [← ih]
      cases hstep with
      | row h | failure h =>
          funext id
          unfold brought?
          rw [h]
          rfl
      | atEnd =>
          funext id
          unfold brought? RowBuffer.slot?
          rw [RowBuffer.slots_appendAll, RowBuffer.slots_appendAll]
          rfl

theorem Pulls.key_eq (h : Pulls c d) : d.key = c.key := by
  induction h with
  | refl => rfl
  | tail _ hstep ih => cases hstep <;> exact ih

/-! ## Rowsets -/

/-- The rows of a rowset are the different rows that came to its positions. -/
theorem Inventory.exists_placed (h : Inventory c) {position i : Nat} (hpos : 1 ≤ position)
    (hi : i < (c.placeRowset position).rowset.length) :
    ∃ id slot, (c.placeRowset position).rowset[i]? = some (some id) ∧
      c.buffer.slot? id = some slot ∧
      ∀ j, (c.placeRowset position).rowset[j]? = some (some id) → j = i := by
  have hat (j : Nat) (hj : j < (c.placeRowset position).rowset.length) :
      ∃ id slot, (c.placeRowset position).rowset[j]? = some (some id) ∧
        c.buffer.slot? id = some slot ∧ slot.position = some (position + j) := by
    rw [placeRowset, RowBuffer.slotsBetween, List.length_map, List.length_range'] at hj
    obtain ⟨id, slot, hid, hslot, hposition⟩ :=
      h.exists_slotAt? (show 1 ≤ position + j by omega) (by omega)
    refine ⟨id, slot, ?_, hslot, hposition⟩
    rw [placeRowset, RowBuffer.slotsBetween, List.getElem?_map,
      List.getElem?_eq_getElem (by rwa [List.length_range'])]
    simp [hid]
  obtain ⟨id, slot, hid, hslot, hposition⟩ := hat i hi
  refine ⟨id, slot, hid, hslot, fun j hj => ?_⟩
  obtain ⟨id', slot', hid', hslot', hposition'⟩ := hat j (List.getElem?_eq_some_iff.mp hj).1
  cases hj.symm.trans hid'
  cases hslot.symm.trans hslot'
  rw [hposition, Option.some.injEq] at hposition'
  omega

theorem slotOf?_succ {i : Nat} : c.slotOf? (i + 1) = some id ↔ c.rowset[i]? = some (some id) := by
  rw [slotOf?, if_neg (Nat.succ_ne_zero i), Nat.add_sub_cancel, Option.join_eq_some_iff]

/-- A row is shown with its values if they are asked for and it has any. -/
theorem row_fetchedRow (hslot : c.buffer.slot? id = some slot) :
    (c.fetchedRow (some id) slot.status).row =
      if c.options.retrieveData && slot.status.hasData then some (c.named slot) else none := by
  simp [fetchedRow, hslot]

/-- A rowset shows what the cursor has of its rows, and says which of them it has. -/
theorem shown_syncStatuses {i : Nat} (hentry : c.rowset[i]? = some (some id))
    (hslot : c.buffer.slot? id = some slot) :
    c.syncStatuses.fetchOutcome.rows[i]? =
        some (c.syncStatuses.fetchedRow (some id) slot.status) ∧
      c.syncStatuses.fetchOutcome.statuses[i]? = some slot.status := by
  have hstatus : c.entryStatus (some id) = slot.status := by
    rw [entryStatus, Option.bind_some, hslot]
    rfl
  have hstatuses : (c.rowset.map c.entryStatus)[i]? = some slot.status := by
    rw [List.getElem?_map, hentry, Option.map_some, hstatus]
  constructor
  · change (c.rowset.zipWith c.syncStatuses.fetchedRow (c.rowset.map c.entryStatus))[i]? = _
    rw [List.getElem?_zipWith, hentry, hstatuses]
  · change (c.rowset.map c.entryStatus ++ _)[i]? = _
    rw [List.getElem?_append_left (List.getElem?_eq_some_iff.mp hstatuses).1, hstatuses]

end Cursor

/-- No move aims before the first position. -/
theorem Move.target_pos {move : Move} {size start total position : Nat} {afterLast : Bool}
    (h : move.target size start afterLast total = .row position) : 1 ≤ position := by
  unfold target Target.lastRowset Target.fromEnd Target.fromStart at h
  split at h <;> grind

namespace Work

variable {σ : Type} {w u v : Work σ}

/-! ## Rows pulled -/

/-- The works differ by the rows pulled between them. -/
structure PulledOnly (w u : Work σ) : Prop where
  pulls : Cursor.Pulls w.cursor u.cursor
  server : u.link.server = w.link.server
  state : u.link.state = w.link.state

namespace PulledOnly

theorem refl (w : Work σ) : PulledOnly w w :=
  ⟨.refl, rfl, rfl⟩

theorem trans (h : PulledOnly w u) (h' : PulledOnly u v) : PulledOnly w v :=
  ⟨h.pulls.trans h'.pulls, h'.server.trans h.server, h'.state.trans h.state⟩

/-- A pull pulls rows and nothing else. -/
theorem pull (w : Work σ) (demand : Demand) : PulledOnly w (w.pull demand).2 :=
  ⟨w.pull_pulls demand, rfl, rfl⟩

theorem counted (w : Work σ) (move : Move) : PulledOnly w (w.counted move).2 := by
  unfold Work.counted
  split
  · exact .pull w .everything
  · exact .refl w

end PulledOnly

/-- A fetch that shows rows has pulled what it needs and placed the rowset. -/
theorem fetch_placed (hkind : w.cursor.kind.isScrollable = true) {orientation : Orientation}
    {outcome : FetchOutcome} (h : (w.fetch orientation).1 = .ok outcome) :
    outcome.rows = [] ∨ ∃ (u : Work σ) (position : Nat), PulledOnly w u ∧ 1 ≤ position ∧
      w.fetch orientation = (u.onCursor (Cursor.placeRowset · position)).showRowset := by
  rcases w.fetch_cases orientation with ⟨e, hrefused⟩ | ⟨move, -, hfetch⟩
  · rw [hrefused] at h
    cases h
  rw [hfetch] at h ⊢
  rcases w.fetchMove_cases move with ⟨e, -, hfailed⟩ | ⟨-, hland⟩
  · rw [hfailed] at h
    cases h
  rw [hland] at h ⊢
  have hcounted := PulledOnly.counted w move
  cases haim : (w.counted move).2.aim move with
  | beforeFirst =>
      rw [haim] at h
      cases h
      exact Or.inl rfl
  | afterLast =>
      rw [haim] at h
      cases h
      exact Or.inl rfl
  | row position =>
      rw [haim] at h
      have hkind' : (w.counted move).2.cursor.kind.isScrollable = true :=
        hcounted.pulls.sameStanding.1.symm ▸ hkind
      -- A cursor that scrolls lets go of nothing, so that all before the rowset is pulling.
      have hstays : (w.counted move).2.onCursor (Cursor.dropBehind · position) =
          (w.counted move).2 := by
        rw [onCursor, Cursor.dropBehind_of_isScrollable hkind']
      have hpulled : PulledOnly w (((w.counted move).2.onCursor (Cursor.dropBehind · position)).pull
          (.upTo (position + ((w.counted move).2.cursor.dropBehind position).size - 1))).2 := by
        rw [hstays]
        exact hcounted.trans (.pull _ _)
      rcases (w.counted move).2.fetchAt_cases position rfl with
        ⟨e, -, hat⟩ | ⟨-, -, hat⟩ | ⟨-, -, hat⟩
      · rw [land, hat] at h
        cases h
      · rw [land, hat] at h
        cases h
        exact Or.inl rfl
      · exact Or.inr ⟨_, position, hpulled, Move.target_pos haim, hat⟩

/-! ## Rows shown -/

/-- A rowset is shown after it has been read again, with its statuses set. -/
theorem showRowset_eq (w : Work σ) :
    ∃ r : Work σ, Cursor.SameStanding w.cursor r.cursor ∧
      w.showRowset = (.ok r.cursor.syncStatuses.fetchOutcome, r.onCursor Cursor.syncStatuses) :=
  ⟨_, w.sameStanding_rereadIf _ _, rfl⟩

/-- A row that a rowset is about to show, in its only place. -/
structure Placed (w : Work σ) (i : Nat) (id : SlotId) (slot : RowSlot) : Prop where
  entry : w.cursor.rowset[i]? = some (some id)
  once : ∀ j, w.cursor.rowset[j]? = some (some id) → j = i
  held : w.cursor.buffer.slot? id = some slot

/-- A row that was shown, as what it was kept before and is kept now. -/
structure Fetched (w v : Work σ) (outcome : FetchOutcome) (i : Nat) (id : SlotId)
    (before after : RowSlot) (shown : FetchedRow) : Prop where
  entry : v.cursor.rowset[i]? = some (some id)
  brought : w.cursor.brought? id = some before
  held : v.cursor.buffer.slot? id = some after
  kept : shown = v.cursor.fetchedRow (some id) after.status
  row : outcome.rows[i]? = some shown
  status : outcome.statuses[i]? = some shown.status

/-- Each row that a fetch shows was placed when no more had happened than rows being pulled. -/
theorem exists_placed_of_fetch (hkind : w.cursor.kind.isScrollable = true)
    (hinventory : Cursor.Inventory w.cursor) {orientation : Orientation} {outcome : FetchOutcome}
    (hfetch : w.fetch orientation = (.ok outcome, v)) {i : Nat} (hi : i < outcome.rows.length) :
    ∃ (u : Work σ) (position : Nat) (id : SlotId) (before : RowSlot), PulledOnly w u ∧
      Placed (u.onCursor (Cursor.placeRowset · position)) i id before ∧
      (u.onCursor (Cursor.placeRowset · position)).showRowset = (.ok outcome, v) := by
  rcases fetch_placed hkind (congrArg Prod.fst hfetch) with
    hnone | ⟨u, position, hpulled, hpos, hplaced⟩
  · rw [hnone] at hi
    cases hi
  have hshow := hplaced.symm.trans hfetch
  have hlength : outcome.rows.length = (u.cursor.placeRowset position).rowset.length := by
    have hlanding := (u.onCursor (Cursor.placeRowset · position)).landing_showRowset
    rw [hshow] at hlanding
    exact congrArg Landing.rows (Except.ok.inj hlanding)
  obtain ⟨id, before, hentry, hbefore, honce⟩ :=
    (hinventory.of_changes hkind hpulled.pulls.changes).exists_placed hpos (hlength ▸ hi)
  exact ⟨u, position, id, before, hpulled, ⟨hentry, honce, hbefore⟩, hshow⟩

/-- What is shown of a row is what is kept of it then. -/
theorem exists_fetched (hpulled : PulledOnly w u) {position i : Nat} {id : SlotId}
    {before : RowSlot} (hplaced : Placed (u.onCursor (Cursor.placeRowset · position)) i id before)
    {outcome : FetchOutcome}
    (hshow : (u.onCursor (Cursor.placeRowset · position)).showRowset = (.ok outcome, v)) :
    ∃ after shown, Fetched w v outcome i id before after shown := by
  obtain ⟨after, hafter, -, -⟩ :=
    (u.onCursor (Cursor.placeRowset · position)).readAgain_showRowset.slots id before hplaced.held
  obtain ⟨r, hstanding, hr⟩ := (u.onCursor (Cursor.placeRowset · position)).showRowset_eq
  have hentry : r.cursor.rowset[i]? = some (some id) :=
    hstanding.2.2.2.2.2.1.symm ▸ hplaced.entry
  have hbefore : w.cursor.brought? id = some before := by
    rw [← hpulled.pulls.brought?_eq]
    exact Cursor.brought?_of_slot? hplaced.held
  rw [hr] at hafter hshow
  obtain ⟨hrow, hstatus⟩ := Cursor.shown_syncStatuses hentry hafter
  cases hshow
  exact ⟨after, _, hentry, hbefore, hafter, rfl, hrow, hstatus⟩

end Work

end ScrollCursor
