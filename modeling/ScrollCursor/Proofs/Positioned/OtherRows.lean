import ScrollCursor.Proofs.Positioned.FailingRows
import ScrollCursor.Proofs.Positioned.Rowset

/-! # The other rows of the rowset

The status array of a static cursor has the statuses of the slots; only an entry without a row may
have been placed as such and not as one in error. A call for one row writes its slot at most and
then takes all statuses from the slots again. So the other rows keep everything that they have, but
for an entry without a row, which is in error from then on.
-/

namespace ScrollCursor

namespace Cursor

variable {c d e : Cursor}

/-! ## The status array -/

/-- Each status is that of the entry, unless there is no row and the status says so. -/
def Agrees (c : Cursor) : Prop :=
  ∀ (i : Nat) entry status, c.rowset[i]? = some entry → c.statuses[i]? = some status →
    status = c.entryStatus entry ∨ (entry = none ∧ status = .noRow)

/-- Without rows the statuses agree with the slots. -/
theorem agrees_of_rowset_eq_nil (h : c.rowset = []) : c.Agrees := by
  intro i entry status hentry
  rw [h] at hentry
  cases hentry

/-- Statuses that have just been set agree with the slots. -/
theorem agrees_syncStatuses (c : Cursor) : c.syncStatuses.Agrees := by
  intro i entry status hentry hstatus
  change c.rowset[i]? = some entry at hentry
  change (c.rowset.map c.entryStatus)[i]? = some status at hstatus
  rw [List.getElem?_map, hentry] at hstatus
  cases hstatus
  exact Or.inl rfl

/-- Rows may have been added to the buffer, and everything else is as it was. -/
structure Grows (c d : Cursor) : Prop where
  standing : SameStanding c d
  resident : c.buffer.resident ≤ d.buffer.resident
  slots : ∀ id, id < c.buffer.resident → d.buffer.slot? id = c.buffer.slot? id

namespace Grows

theorem of_buffer (hstanding : SameStanding c d) (hbuffer : d.buffer = c.buffer) : Grows c d where
  standing := hstanding
  resident := by rw [hbuffer]
  slots _ _ := by rw [hbuffer]

theorem refl (c : Cursor) : Grows c c :=
  .of_buffer (.refl c) rfl

theorem trans (h : Grows c d) (h' : Grows d e) : Grows c e where
  standing := h.standing.trans h'.standing
  resident := Nat.le_trans h.resident h'.resident
  slots id hid := (h'.slots id (Nat.lt_of_lt_of_le hid h.resident)).trans (h.slots id hid)

/-- A row that is pulled is added behind the others. -/
theorem of_pull (h : Pull c d) : Grows c d := by
  cases h with
  | row h => exact ⟨.refl c, by simp, fun id hid => RowBuffer.slot?_appendAll [_] hid⟩
  | failure h => exact .of_buffer (.refl c) rfl
  | atEnd => exact ⟨.refl c, Nat.le_refl _, fun _ _ => rfl⟩

theorem of_pulls (h : Pulls c d) : Grows c d := by
  induction h with
  | refl => exact .refl c
  | tail _ hstep ih => exact ih.trans (.of_pull hstep)

/-- An added row is stored behind the others. -/
theorem addRow (c : Cursor) (values : Record) : Grows c (c.addRow values).2 where
  standing := by
    unfold Cursor.addRow
    dsimp only
    split <;> exact .refl _
  resident := by
    rw [addRow_buffer, RowBuffer.resident_pushDetached]
    exact Nat.le_succ _
  slots id hid := by
    rw [addRow_buffer]
    exact RowBuffer.slot?_pushDetached values .added hid

/-- Where the rows of the rowset are there, the statuses agree with them as before. -/
theorem agrees (h : Grows c d) (hresident : Resident c) (hc : c.Agrees) : d.Agrees := by
  obtain ⟨-, -, -, -, -, hrowset, hstatuses, -⟩ := h.standing
  intro i entry status hentry hstatus
  rw [hrowset] at hentry
  rw [hstatuses] at hstatus
  have hsame : d.entryStatus entry = c.entryStatus entry := by
    cases entry with
    | none => rfl
    | some id =>
        have hid := hresident.rowset id (List.mem_of_getElem? hentry)
        rw [entryStatus, entryStatus, Option.bind_some, Option.bind_some, h.slots id hid]
  rw [hsame]
  exact hc i entry status hentry hstatus

end Grows

end Cursor

namespace Work

open Cursor (Agrees Grows Resident)

variable {σ : Type} {w : Work σ}

theorem grows_keySet (w : Work σ) : Grows w.cursor w.keySet.2.cursor :=
  .of_buffer w.sameStanding_keySet w.keySet_buffer

theorem grows_addRows (w : Work σ) (supplied : Supplied) (rows : List Nat) :
    Grows w.cursor (w.addRows supplied rows).2.cursor := by
  have hone (table : TableRef) (numbered : Option Nat) (v : Work σ) (row : Nat) :
      Grows v.cursor (addOne supplied table numbered v row).2.2.cursor := by
    rcases addOne_cursor supplied table numbered v row with ⟨-, hsame⟩ | ⟨values, -, hadded⟩
    · rw [hsame]
      exact .refl _
    · rw [hadded]
      exact .addRow v.cursor values
  have heach (table : TableRef) (numbered : Option Nat) (v : Work σ) :
      Grows v.cursor (addEach supplied table numbered v rows).2.cursor := by
    induction rows generalizing v with
    | nil => exact .refl _
    | cons row rows ih => exact (hone table numbered v row).trans (ih _)
  unfold addRows
  split
  · exact .refl _
  · exact w.grows_keySet.trans (heach _ _ _)

/-! ## Calls leave statuses that agree -/

/-- A rowset that is shown has the statuses of its slots. -/
theorem agrees_fetchAt (hkind : w.cursor.kind = .static) (hresident : Resident w.cursor)
    (h : w.cursor.Agrees) (position : Nat) : (w.fetchAt position).2.cursor.Agrees := by
  have hpulls := w.pull_pulls (.upTo (position + w.cursor.size - 1))
  rcases w.fetchAt_cases_of_static position hkind rfl with
    ⟨e, -, hfetch⟩ | ⟨-, -, hfetch⟩ | ⟨-, -, hfetch⟩
  · rw [hfetch]
    exact (Grows.of_pulls hpulls).agrees hresident h
  · rw [hfetch]
    exact Cursor.agrees_of_rowset_eq_nil rfl
  · rw [hfetch]
    exact Cursor.agrees_syncStatuses _

theorem agrees_fetch (hkind : w.cursor.kind = .static) (hresident : Resident w.cursor)
    (h : w.cursor.Agrees) (orientation : Orientation) :
    (w.fetch orientation).2.cursor.Agrees := by
  rcases w.fetch_cases orientation with ⟨e, hfetch⟩ | ⟨move, -, hfetch⟩
  · rw [hfetch]
    exact h
  · have hpulls := w.counted_pulls move
    have hcounted := (Grows.of_pulls hpulls).agrees hresident h
    rw [hfetch]
    rcases w.fetchMove_cases move with ⟨e, -, hfailed⟩ | ⟨-, hland⟩
    · rw [hfailed]
      exact hcounted
    · rw [hland]
      cases (w.counted move).2.aim move with
      | beforeFirst | afterLast => exact Cursor.agrees_of_rowset_eq_nil rfl
      | row position =>
          have hscrolls : w.cursor.kind.isScrollable = true := by rw [hkind]; rfl
          exact agrees_fetchAt (hpulls.sameStanding.1.trans hkind)
            (Cursor.resident_of_changes hresident hscrolls hpulls.changes) hcounted position

theorem agrees_fetchByBookmark (hresident : Resident w.cursor) (rows : List Nat) :
    (w.fetchByBookmark rows).2.cursor.Agrees := by
  rw [(w.fetchByBookmark_eq rows).1]
  intro i entry status hentry hstatus
  change (rows.map w.bookmarkSlot?)[i]? = some entry at hentry
  change (rows.map w.bookmarkStatus)[i]? = some status at hstatus
  rw [List.getElem?_map] at hentry hstatus
  obtain ⟨row, hrow, rfl⟩ := Option.map_eq_some_iff.mp hentry
  rw [hrow] at hstatus
  cases hstatus
  change w.bookmarkStatus row = w.cursor.entryStatus (w.bookmarkSlot? row) ∨ _
  unfold bookmarkStatus bookmarkSlot?
  -- Either no bookmark is bound for the row, or it names no row, or a row that is there.
  cases w.bindings.bookmark? (row - 1) with
  | none => exact Or.inr ⟨rfl, rfl⟩
  | some b =>
      rw [Option.bind_some]
      dsimp only
      cases hid : w.cursor.bookmarks.resolve? b with
      | none => exact Or.inl rfl
      | some id =>
          have hlive := hresident.live _ (Cursor.mem_live_of_resolve? hid)
          exact Or.inl (Cursor.entryStatus_some hlive).symm

/-- An operation that is refused has asked for the key at most. -/
theorem operate_error {operation : Operation} {supplied : Supplied} {e : Error} {after : Work σ}
    (hkind : w.cursor.kind = .static) (h : w.operate supplied operation = (.error e, after)) :
    after = w ∨ after = w.keySet.2 := by
  cases operation with
  | setPosition row operation => exact setPosition_error hkind h
  | bulk operation => exact bulk_error h

/-- After an operation that went through the statuses are those of the slots. -/
theorem agrees_of_takesTurns {operation : Operation} {supplied : Supplied} {o : OperationOutcome}
    {after : Work σ} (h : w.TakesTurns operation supplied o after) : after.cursor.Agrees := by
  obtain ⟨_, _, _, u, _, _, _, _, rfl⟩ := h
  exact Cursor.agrees_syncStatuses u.cursor

/-- An operation that fails as a whole changes nothing that statuses are about, one that writes
looks at the rowset afterwards, and the others leave its rows alone or put them there. -/
theorem agrees_operate (hkind : w.cursor.kind = .static) (hresident : Resident w.cursor)
    (h : w.cursor.Agrees) (supplied : Supplied) (operation : Operation) :
    (w.operate supplied operation).2.cursor.Agrees := by
  have hwrites (hrewrites : operation.Rewrites) :
      (w.operate supplied operation).2.cursor.Agrees := by
    cases hrun : w.operate supplied operation with
    | mk result after =>
        cases result with
        | error e =>
            rcases operate_error hkind hrun with rfl | rfl
            · exact h
            · exact w.grows_keySet.agrees hresident h
        | ok o => exact agrees_of_takesTurns (takesTurns_of_operate hkind hrewrites hrun)
  have hadds (rows : List Nat) : (w.addRows supplied rows).2.cursor.Agrees :=
    (w.grows_addRows supplied rows).agrees hresident h
  cases operation with
  | setPosition row operation =>
      cases operation with
      | position => exact h
      | refresh => exact Cursor.agrees_syncStatuses _
      | update | delete => exact hwrites trivial
      | add => exact hadds _
  | bulk operation =>
      cases operation with
      | updateByBookmark | deleteByBookmark => exact hwrites trivial
      | add =>
          rcases w.bulk_cases .add supplied with ⟨e, hrefused⟩ | hopen
          · rw [operate, hrefused]
            exact h
          · rw [operate, hopen]
            exact hadds _
      | fetchByBookmark =>
          rcases w.bulk_cases .fetchByBookmark supplied with ⟨e, hrefused⟩ | hopen
          · rw [operate, hrefused]
            exact h
          · rw [operate, hopen, bulkOpen]
            unfold overBookmarks
            split
            · exact h
            · exact agrees_fetchByBookmark hresident _

end Work

namespace Cursor

variable {c : Cursor}

/-- On every reachable static cursor the statuses agree with the slots. -/
theorem Reachable.agrees (h : Reachable c) (hkind : c.kind = .static) :
    c.Agrees := by
  have hresident {σ : Type} {w : Work σ} (h : Reachable w.cursor)
      (hkind : w.cursor.kind = .static) : Resident w.cursor :=
    h.resident (by rw [hkind]; rfl)
  induction h with
  | opened kind dialect options result => exact agrees_of_rowset_eq_nil rfl
  | fetch w orientation hw ih =>
      have hkind' := (w.fetch_changes orientation).sameFrame.1.symm.trans hkind
      exact Work.agrees_fetch hkind' (hresident hw hkind') (ih hkind') orientation
  | setPosition w row operation lock supplied hw _ ih =>
      have hkind' := (w.setPosition_changes row operation supplied).sameFrame.1.symm.trans hkind
      exact Work.agrees_operate hkind' (hresident hw hkind') (ih hkind') supplied
        (.setPosition row operation)
  | bulk w operation supplied hw ih =>
      have hkind' := (w.bulk_changes operation supplied).sameFrame.1.symm.trans hkind
      exact Work.agrees_operate hkind' (hresident hw hkind') (ih hkind') supplied (.bulk operation)
  | keySet w hw ih =>
      have hkind' := w.kind_keySet.symm.trans hkind
      exact w.grows_keySet.agrees (hresident hw hkind') (ih hkind')

/-! ## Turns of one row -/

/-- What an operation means to do, it means for the slot of the row. -/
theorem slotOf?_of_intent? {number row : Nat} {operation : RowOperation} {key : KeySet}
    {supplied : Supplied} {b : Bindings} {i : Intent}
    (h : (Operation.setPosition number operation).intent? key supplied b c row = some i) :
    c.slotOf? row = some i.id := by
  cases operation with
  | position | refresh | add => cases h
  | update =>
      obtain ⟨id, hid, h⟩ := Option.bind_eq_some_iff.mp h
      obtain ⟨image, -, h⟩ := Option.bind_eq_some_iff.mp h
      split at h
      · cases h
      · cases h
      · obtain ⟨request, -, rfl⟩ := Option.map_eq_some_iff.mp h
        exact hid
  | delete =>
      obtain ⟨id, hid, h⟩ := Option.bind_eq_some_iff.mp h
      obtain ⟨image, -, h⟩ := Option.bind_eq_some_iff.mp h
      obtain ⟨request, -, rfl⟩ := Option.map_eq_some_iff.mp h
      exact hid

/-- Turns do not move the rowset. -/
theorem sameStanding_afterTurns {σ : Type} (c : Cursor) (turns : List (Turn σ)) :
    SameStanding c (c.afterTurns turns) := by
  have hturn (t : Turn σ) (c : Cursor) : SameStanding c (t.change c) := by
    unfold Turn.change Attempt.change Intent.change
    repeat' split
    all_goals exact ⟨rfl, rfl, rfl, rfl, rfl, rfl, rfl, rfl⟩
  induction turns generalizing c with
  | nil => exact .refl c
  | cons t rest ih => exact (hturn t c).trans (ih _)

/-- The second cursor differs from the first at most in the slot of a row and its bookmark. Each row
of its rowset that is not deleted has a bookmark. -/
structure Beside (row : Nat) (c u : Cursor) : Prop where
  standing : SameStanding c u
  slots : ∀ id, c.slotOf? row ≠ some id → u.buffer.slot? id = c.buffer.slot? id
  bookmarks : ∀ id, c.slotOf? row ≠ some id → u.bookmarks.ofSlot? id = c.bookmarks.ofSlot? id
  marked : Marked u

end Cursor

namespace Work

open Cursor (Agrees Reachable Addressable StaticSteps InShape Beside)

variable {σ : Type} {w after : Work σ} {row other : Nat}

/-- An update or a delete of one row has its turn, and then the rowset is looked at. -/
theorem exists_beside_of_takesTurns {operation : RowOperation} {supplied : Supplied}
    {o : OperationOutcome} (h : w.Steady) (hrow : row ≠ 0)
    (hturns : w.TakesTurns (.setPosition row operation) supplied o after) :
    ∃ u, Beside row w.cursor u ∧ after.cursor = u.syncStatuses := by
  obtain ⟨key, turns, reports, u, -, hrows, hturns, -, rfl⟩ := hturns
  obtain ⟨-, -, hbookmarks⟩ := ExactServer.keySet_frame w
  have hbuffer := w.keySet_buffer
  have hkey := w.sameStanding_keySet
  have hslotOf := Cursor.slotOf?_congr hkey.2.2.2.2.2.1
  have hsuits : ∀ c number i,
      (Operation.setPosition row operation).intent? key supplied w.bindings c number = some i →
        i.Suits (Operation.setPosition row operation).statusLeft c :=
    fun c number i => Operation.suits_of_intent? c number i
  -- There is one turn, and it is for the slot of the row.
  have hnone (id : SlotId) (hid : w.cursor.slotOf? row ≠ some id) :
      ∀ t ∈ turns, ¬ t.Changes id := by
    change turns.map Turn.row = w.targetRows row operation at hrows
    rw [targetRows_of_ne_zero hrow] at hrows
    obtain ⟨t, rfl, rfl⟩ := List.map_eq_singleton_iff.mp hrows
    rintro _ ht ⟨a, hattempt, hwritten, -⟩
    rw [List.mem_singleton.mp ht] at hattempt
    have hintent := hturns.intended.1
    rw [hattempt] at hintent
    have hslot := Cursor.slotOf?_of_intent? hintent.symm
    rw [hslotOf, hwritten] at hslot
    exact hid hslot
  have hknown := w.keySet_staticSteps
  have hran : StaticSteps w.cursor u.cursor := by
    rw [hturns.cursor]
    exact hknown.trans (hturns.intended.staticSteps hsuits)
  have hresident : u.cursor.buffer.resident = w.cursor.buffer.resident := by
    rw [hturns.cursor, InTurn.resident_afterTurns, hbuffer]
  have hstarted := h.of_staticSteps hknown (congrArg RowBuffer.resident hbuffer)
  refine ⟨u.cursor, ⟨?_, fun id hid => ?_, fun id hid => ?_, ?_⟩, rfl⟩
  · rw [hturns.cursor]
    exact hkey.trans (Cursor.sameStanding_afterTurns _ _)
  · rw [hturns.cursor, InTurn.slot?_afterTurns _ (hnone id hid), hbuffer]
  · have hunchanged : ¬ ∃ t ∈ turns, t.Changes id := fun ⟨t, ht, hchanges⟩ =>
      hnone id hid t ht hchanges
    have hkept : (w.keySet.2.cursor.afterTurns turns).bookmarks.ofSlot? id =
        w.keySet.2.cursor.bookmarks.ofSlot? id :=
      ofSlot?_afterTurns hsuits hturns.intended hstarted.ledger hstarted.isScrollable
        hstarted.addressable fun hchanged => absurd hchanged hunchanged
    rw [hturns.cursor, hkept, hbookmarks]
  · exact (h.of_staticSteps hran hresident).marked

/-! ## What is left of the other rows -/

/-- A call leaves a row of the rowset alone: the row has its slot, with all that was in it, and its
bookmark. It has its status, too, except that a call that is carried out puts an entry without a row
in error. -/
structure LeavesAlone (w : Work σ) (row : Nat)
    (result : Except Error OperationOutcome × Work σ) : Prop where
  entry : result.2.cursor.slotOf? row = w.cursor.slotOf? row
  slot : ∀ id, w.cursor.slotOf? row = some id →
    result.2.cursor.buffer.slot? id = w.cursor.buffer.slot? id
  bookmark : ∀ id, w.cursor.slotOf? row = some id →
    result.2.cursor.bookmarks.ofSlot? id = w.cursor.bookmarks.ofSlot? id
  status : result.2.cursor.statuses[row - 1]? = w.cursor.statuses[row - 1]? ↔
    ¬ ((∃ o, result.1 = .ok o) ∧ w.cursor.slotOf? row = none ∧
      w.cursor.statuses[row - 1]? = some .noRow)

/-- A call that fails as a whole. -/
theorem leavesAlone_of_error {e : Error} (hafter : after = w ∨ after = w.keySet.2) :
    w.LeavesAlone other (.error e, after) := by
  have hstanding := w.sameStanding_keySet
  obtain ⟨-, -, hbookmarks⟩ := ExactServer.keySet_frame w
  have hrefused : ¬ ((∃ o, (.error e : Except Error OperationOutcome) = .ok o) ∧
      w.cursor.slotOf? other = none ∧ w.cursor.statuses[other - 1]? = some .noRow) :=
    fun h => nomatch h.1
  rcases hafter with rfl | rfl
  · exact ⟨rfl, fun _ _ => rfl, fun _ _ => rfl, iff_of_true rfl hrefused⟩
  · refine ⟨?_, fun id _ => ?_, fun id _ => ?_, iff_of_true ?_ hrefused⟩
    · rw [Cursor.slotOf?_congr hstanding.2.2.2.2.2.1]
    · rw [w.keySet_buffer]
    · rw [hbookmarks]
    · rw [hstanding.2.2.2.2.2.2.1]

/-- The status that is taken again from a slot is the old one; an entry without a row is in
error. -/
theorem status_syncStatuses_iff {c u : Cursor} (hc : InShape c) (hagrees : c.Agrees)
    (h : Beside row c u) (hother : 1 ≤ other)
    (happart : ∀ id, c.slotOf? row = some id → c.slotOf? other ≠ some id) :
    u.syncStatuses.statuses[other - 1]? = c.statuses[other - 1]? ↔
      ¬ (c.slotOf? other = none ∧ c.statuses[other - 1]? = some .noRow) := by
  change (u.rowset.map u.entryStatus)[other - 1]? = _ ↔ _
  rw [h.standing.2.2.2.2.2.1, List.getElem?_map]
  have hslotOf : c.slotOf? other = c.rowset[other - 1]?.join := if_neg (Nat.ne_of_gt hother)
  cases hentry : c.rowset[other - 1]? with
  | none =>
      have hstatus : c.statuses[other - 1]? = none := by
        rw [List.getElem?_eq_none_iff] at hentry ⊢
        rwa [hc.statuses]
      rw [hstatus]
      refine iff_of_true rfl ?_
      rintro ⟨-, hnone⟩
      cases hnone
  | some entry =>
      obtain ⟨status, hstatus⟩ : ∃ status, c.statuses[other - 1]? = some status := by
        have hlt := (List.getElem?_eq_some_iff.mp hentry).1
        exact ⟨_, List.getElem?_eq_getElem (hc.statuses ▸ hlt)⟩
      rw [hentry] at hslotOf
      rw [hstatus, hslotOf, Option.map_some, Option.join_some, Option.some.injEq,
        Option.some.injEq]
      cases entry with
      | none =>
          rcases hagrees _ _ _ hentry hstatus with rfl | ⟨-, rfl⟩
          · exact iff_of_true rfl fun hnone => RowStatus.noConfusion hnone.2
          · exact iff_of_false RowStatus.noConfusion fun hnot => hnot ⟨rfl, rfl⟩
      | some id =>
          have hkept : u.entryStatus (some id) = c.entryStatus (some id) := by
            have hslot := h.slots id fun hsame => happart id hsame hslotOf
            rw [Cursor.entryStatus, Cursor.entryStatus, Option.bind_some, Option.bind_some, hslot]
          rcases hagrees _ _ _ hentry hstatus with hsame | ⟨hnone, -⟩
          · refine iff_of_true (hkept.trans hsame.symm) ?_
            rintro ⟨hnone, -⟩
            cases hnone
          · cases hnone

/-- A call after which the rowset is looked at again. -/
theorem leavesAlone_of_beside {u : Cursor} {o : OperationOutcome} (hc : InShape w.cursor)
    (hagrees : w.cursor.Agrees) (hother : 1 ≤ other)
    (happart : ∀ id, w.cursor.slotOf? row = some id → w.cursor.slotOf? other ≠ some id)
    (h : Beside row w.cursor u) (hbuffer : after.cursor.buffer = u.buffer)
    (hbookmarks : after.cursor.bookmarks = u.syncStatuses.bookmarks)
    (hrowset : after.cursor.rowset = u.rowset)
    (hstatuses : after.cursor.statuses = u.syncStatuses.statuses) :
    w.LeavesAlone other (.ok o, after) where
  entry := by rw [Cursor.slotOf?_congr (hrowset.trans h.standing.2.2.2.2.2.1)]
  slot id hid := by
    rw [hbuffer]
    exact h.slots id fun hsame => happart id hsame hid
  bookmark id hid := by
    rw [hbookmarks, h.marked.syncStatuses_eq]
    exact h.bookmarks id fun hsame => happart id hsame hid
  status := by
    rw [hstatuses, status_syncStatuses_iff hc hagrees h hother happart]
    simp

/-- A static cursor reads nothing again when it is refreshed. -/
theorem refreshRows_of_static (hkind : w.cursor.kind = .static) (rows : List Nat) :
    (w.refreshRows rows).2.cursor =
      { w.cursor.syncStatuses with current := rows.head?.or w.cursor.current } := by
  unfold refreshRows refresh
  rw [if_neg (by rw [not_rereads_of_static hkind]; exact Bool.noConfusion)]
  rfl

/-- Whatever calls there were before on a static cursor, and whatever the server answers, an update,
a delete or a refresh of one row leaves every other row alone that does not show the same slot. -/
theorem leavesAlone_of_setPosition (hreach : Reachable w.cursor) (hkind : w.cursor.kind = .static)
    (hsize : Addressable w.cursor) {operation : RowOperation}
    (hoperation : operation = .update ∨ operation = .delete ∨ operation = .refresh)
    (hrow : 1 ≤ row) (hother : 1 ≤ other)
    (happart : ∀ id, w.cursor.slotOf? row = some id → w.cursor.slotOf? other ≠ some id)
    (supplied : Supplied) :
    w.LeavesAlone other (w.setPosition row operation supplied) := by
  have hc := hreach.inShape
  have hagrees := hreach.agrees hkind
  obtain ⟨hledger, hmarked⟩ := hreach.ledger_marked hkind hsize
  cases hrun : w.setPosition row operation supplied with
  | mk result after =>
      cases result with
      | error e => exact leavesAlone_of_error (setPosition_error hkind hrun)
      | ok o =>
          have hwritten (hrewrites : (Operation.setPosition row operation).Rewrites) :
              w.LeavesAlone other (.ok o, after) := by
            obtain ⟨u, hbeside, hafter⟩ := exists_beside_of_takesTurns
              ⟨hkind, hledger, hmarked, hsize⟩ (Nat.ne_of_gt hrow)
              (takesTurns_of_operate hkind hrewrites hrun)
            exact leavesAlone_of_beside hc hagrees hother happart hbeside (by rw [hafter]; rfl)
              (by rw [hafter]) (by rw [hafter]; rfl) (by rw [hafter])
          rcases hoperation with rfl | rfl | rfl
          · exact hwritten trivial
          · exact hwritten trivial
          · have hsame : Beside row w.cursor w.cursor :=
              ⟨.refl _, fun _ _ => rfl, fun _ _ => rfl, hmarked⟩
            have hcursor := refreshRows_of_static hkind (w.targetRows row .refresh)
            have hafter : (w.refreshRows (w.targetRows row .refresh)).2 = after :=
              congrArg Prod.snd hrun
            rw [hafter] at hcursor
            exact leavesAlone_of_beside hc hagrees hother happart hsame (by rw [hcursor]; rfl)
              (by rw [hcursor]) (by rw [hcursor]; rfl) (by rw [hcursor])

/-- The first of two rows is deleted. -/
theorem leavesAlone_of_setPosition_delete :
    ((onCoded.call (.fetch .next)).setPosition 1 .delete []).2.cursor.statuses =
        [.deleted, .success] ∧
      (onCoded.call (.fetch .next)).LeavesAlone 2
        ((onCoded.call (.fetch .next)).setPosition 1 .delete []) := by
  have hreach : Reachable (onCoded.call (.fetch .next)).cursor := .fetch _ _ (.opened _ _ _ _)
  have hsize : Addressable (onCoded.call (.fetch .next)).cursor := by
    unfold Addressable
    decide
  refine ⟨rfl, leavesAlone_of_setPosition hreach rfl hsize (Or.inr (Or.inl rfl)) (Nat.le_refl 1)
    (Nat.le_succ 1) (fun id hid hsame => ?_) []⟩
  cases hid
  cases hsame

/-! ## A row that could not be added -/

/-- A cursor on a table with one row and one column. Of the rows that are added the server takes
one. -/
def onOneNumber : Work MemoryServer where
  cursor := .opened .static {} { rowArraySize := 2, useBookmarks := true }
    ⟨[{ name := "id", sqlType := .integer, table := some ⟨none, "t"⟩ }], [.ok [.integer 1]]⟩
  bindings := {}
  diagnostics := []
  link :=
    { server := MemoryServer.server
      state :=
        { tables := [{ ref := ⟨none, "t"⟩, columns := ["id"], rows := [[.integer 1]] }]
          metadata :=
            [(⟨none, "t"⟩,
              .ok { table := ⟨none, "t"⟩, columns := [⟨"id", .integer, false⟩]
                    primaryKey := ["id"] })]
          writes := [.pass, .fail MemoryServer.lostConnection] } }

/-- Two rows are added, and fetched by the bookmarks that this leaves. -/
def addingTwo : List Call :=
  [.fetch .next, .bind { columns := [some [.value (.integer 2), .value (.integer 3)]] },
    .operation (.bulk .add) [], .operation (.bulk .fetchByBookmark) []]

/-- There is no second row, and a refresh of the first puts it in error. -/
theorem status_refresh_addingTwo :
    Reachable (onOneNumber.calls addingTwo).cursor ∧
      (onOneNumber.calls addingTwo).cursor.kind = .static ∧
      (onOneNumber.calls addingTwo).cursor.validate 1 .refresh .noChange = .ok () ∧
      (onOneNumber.calls addingTwo).cursor.rowset = [some 1, none] ∧
      (onOneNumber.calls addingTwo).cursor.statuses = [.added, .noRow] ∧
      ((onOneNumber.calls addingTwo).setPosition 1 .refresh []).2.cursor.statuses =
        [.added, .error] := by
  have hbound : Reachable (onOneNumber.calls (addingTwo.take 2)).cursor :=
    .fetch onOneNumber .next (.opened _ _ _ _)
  have hadded : Reachable (onOneNumber.calls (addingTwo.take 3)).cursor :=
    .bulk (onOneNumber.calls (addingTwo.take 2)) .add [] hbound
  have hplaced : Reachable (onOneNumber.calls addingTwo).cursor :=
    .bulk (onOneNumber.calls (addingTwo.take 3)) .fetchByBookmark [] hadded
  exact ⟨hplaced, rfl, rfl, rfl, rfl, rfl⟩

end Work

end ScrollCursor
