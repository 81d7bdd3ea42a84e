import ScrollCursor.Proofs.Cursor.HeldRows

/-! # Outcomes of operations on rows

The arrays of an outcome are computed from one report for each row. So they agree about the rows
that failed, except where a row is reported under the status that it had before: a row that could
not be read again is in error then, although nothing about it failed in this call.
-/

namespace ScrollCursor

/-! ## Reports -/

namespace RowReport

/-- If the row is reported to be in error, so is the reason. -/
def Told (r : RowReport) : Prop :=
  r.status = .error → ∃ e, r.result = .failed e

/-- The status is taken over from before the call, unless the row failed or was carried out. -/
theorem told_or (row : Nat) {result : RowResult} (before : RowStatus)
    (h : ∀ n, result ≠ .done n .error) :
    (⟨row, result, before⟩ : RowReport).Told ∨ before = .error := by
  cases result with
  | done n status =>
      refine Or.inl fun hstatus => absurd ?_ (h n)
      exact congrArg (RowResult.done n) hstatus
  | noMatch | skipped =>
      by_cases hbefore : before = .error
      · exact Or.inr hbefore
      · exact Or.inl fun hstatus => absurd hstatus hbefore
  | failed e => exact Or.inl fun _ => ⟨e, rfl⟩

/-- An error is told of a row in error, which did not succeed. -/
theorem error?_eq_some {r : RowReport} {e : RowError} (h : r.error? = some e) :
    r.status = .error ∧ r.succeeded = false ∧ e.row = r.row := by
  obtain ⟨row, result, before⟩ := r
  cases result with
  | failed e' =>
      cases h
      exact ⟨rfl, rfl, rfl⟩
  | done | noMatch | skipped => cases h

/-- If a row is told of, its error is. -/
theorem exists_error?_of_told {r : RowReport} (h : r.Told) (hstatus : r.status = .error) :
    ∃ e, r.error? = some e ∧ e.row = r.row := by
  obtain ⟨e, he⟩ := h hstatus
  exact ⟨.ofError r.row e, by rw [error?, he], rfl⟩

end RowReport

namespace OperationOutcome

/-- The arrays of an outcome belong to some rows: there is a status for each of them, the rows with
errors are among them in the same order, and the counts and the code go with the errors. -/
structure Counted (o : OperationOutcome) (rows : List Nat) : Prop where
  statuses : o.statuses.length = rows.length
  errors : (o.errors.map RowError.row).Sublist rows
  inError : ∀ (i row : Nat), rows[i]? = some row → row ∈ o.errors.map RowError.row → rows.Nodup →
    o.statuses[i]? = some RowStatus.error
  failureCount : o.failureCount = o.errors.length
  atMost : o.successCount + o.failureCount ≤ rows.length
  returnCode : o.returnCode = .error ↔ 0 < o.failureCount ∧ o.successCount = 0

variable {reports : List RowReport}

/-- Errors are told in the order of the rows. -/
theorem sublist_errors (reports : List RowReport) :
    ((reports.filterMap RowReport.error?).map RowError.row).Sublist
      (reports.map RowReport.row) := by
  induction reports with
  | nil => exact .slnil
  | cons r reports ih =>
      cases herror : r.error? with
      | none =>
          rw [List.filterMap_cons_none herror, List.map_cons]
          exact ih.cons _
      | some e =>
          rw [List.filterMap_cons_some herror, List.map_cons, List.map_cons,
            (RowReport.error?_eq_some herror).2.2]
          exact ih.cons_cons _

/-- No row both succeeds and fails. -/
theorem count_le (reports : List RowReport) :
    reports.countP RowReport.succeeded + (reports.filterMap RowReport.error?).length ≤
      reports.length := by
  induction reports with
  | nil => exact Nat.le_refl 0
  | cons r reports ih =>
      cases herror : r.error? with
      | none =>
          rw [List.filterMap_cons_none herror, List.countP_cons, List.length_cons]
          split <;> omega
      | some e =>
          rw [List.filterMap_cons_some herror, List.countP_cons, List.length_cons,
            List.length_cons, (RowReport.error?_eq_some herror).2.1]
          simp only [Bool.false_eq_true, if_false]
          omega

/-- A report is found among the reports of different rows by its row. -/
theorem report_of_row (hnodup : (reports.map RowReport.row).Nodup) {i : Nat} {r r' : RowReport}
    (hr : reports[i]? = some r) (hr' : r' ∈ reports) (hrow : r'.row = r.row) : r' = r := by
  obtain ⟨j, hj⟩ := List.mem_iff_getElem?.mp hr'
  have hsame : (reports.map RowReport.row)[i]? = (reports.map RowReport.row)[j]? := by
    rw [List.getElem?_map, List.getElem?_map, hr, hj]
    exact congrArg some hrow.symm
  have hlength : i < (reports.map RowReport.row).length := by
    rw [List.length_map]
    exact (List.getElem?_eq_some_iff.mp hr).1
  obtain rfl := (List.getElem?_inj hlength hnodup).mp hsame
  exact Option.some.inj (hj.symm.trans hr)

/-- A row is among the errors if its report has one. -/
theorem mem_errors_iff {row : Nat} :
    row ∈ (ofReports reports).errors.map RowError.row ↔
      ∃ r ∈ reports, r.row = row ∧ ∃ e, r.error? = some e := by
  constructor
  · intro h
    obtain ⟨e, he, rfl⟩ := List.mem_map.mp h
    obtain ⟨r, hr, herror⟩ := List.mem_filterMap.mp he
    exact ⟨r, hr, (RowReport.error?_eq_some herror).2.2.symm, e, herror⟩
  · rintro ⟨r, hr, rfl, e, herror⟩
    exact List.mem_map.mpr
      ⟨e, List.mem_filterMap.mpr ⟨r, hr, herror⟩, (RowReport.error?_eq_some herror).2.2⟩

/-- A status is that of the report in its place. -/
theorem getElem?_statuses {i : Nat} {r : RowReport} (h : reports[i]? = some r) :
    (ofReports reports).statuses[i]? = some r.status := by
  change (reports.map RowReport.status)[i]? = _
  rw [List.getElem?_map, h]
  rfl

/-- The counts and the arrays of an outcome agree with the rows of its reports. -/
theorem counted_ofReports (reports : List RowReport) :
    (ofReports reports).Counted (reports.map RowReport.row) where
  statuses := by
    change (reports.map RowReport.status).length = _
    rw [List.length_map, List.length_map]
  errors := sublist_errors reports
  inError := by
    intro i row hi hmem hnodup
    rw [List.getElem?_map] at hi
    obtain ⟨r, hr, rfl⟩ := Option.map_eq_some_iff.mp hi
    obtain ⟨r', hr', hrow, e, herror⟩ := mem_errors_iff.mp hmem
    obtain rfl := report_of_row hnodup hr hr' hrow
    rw [getElem?_statuses hr, (RowReport.error?_eq_some herror).1]
  failureCount := rfl
  atMost := by
    rw [List.length_map]
    exact count_le reports
  returnCode := by
    change ReturnCode.ofRows _ _ _ = _ ↔ 0 < _ ∧ _ = 0
    unfold ReturnCode.ofRows
    split
    next h => exact iff_of_true rfl ⟨h.2, h.1⟩
    next h =>
      refine iff_of_false ?_ fun h' => h ⟨h'.2, h'.1⟩
      split <;> exact ReturnCode.noConfusion

/-- A row that is reported to be in error is among those with errors just if its report says why. -/
theorem mem_errors_iff_told (hnodup : (reports.map RowReport.row).Nodup) {i : Nat} {r : RowReport}
    (hr : reports[i]? = some r) :
    ((ofReports reports).statuses[i]? = some .error ↔
      r.row ∈ (ofReports reports).errors.map RowError.row) ↔ r.Told := by
  have hrow : (reports.map RowReport.row)[i]? = some r.row := by
    rw [List.getElem?_map, hr]
    rfl
  have hinError := (counted_ofReports reports).inError i r.row hrow
  rw [getElem?_statuses hr] at hinError ⊢
  constructor
  · intro hiff hstatus
    obtain ⟨r', hr', hrow', e, herror⟩ := mem_errors_iff.mp (hiff.mp (congrArg some hstatus))
    obtain rfl := report_of_row hnodup hr hr' hrow'
    obtain ⟨row, result, before⟩ := r'
    cases result with
    | failed e' => exact ⟨e', rfl⟩
    | done | noMatch | skipped => cases herror
  · refine fun htold => ⟨fun hstatus => ?_, fun hmem => hinError hmem hnodup⟩
    obtain ⟨e, herror, -⟩ := RowReport.exists_error?_of_told htold (Option.some.inj hstatus)
    exact mem_errors_iff.mpr ⟨r, List.mem_of_getElem? hr, rfl, e, herror⟩

/-- Else it is in error without an error. -/
theorem inError_of_not_told (hnodup : (reports.map RowReport.row).Nodup) {i : Nat} {r : RowReport}
    (hr : reports[i]? = some r) (huntold : ¬ r.Told) :
    (ofReports reports).statuses[i]? = some .error ∧
      r.row ∉ (ofReports reports).errors.map RowError.row := by
  have hstatus : r.status = .error := by
    by_contra hne
    exact huntold fun h => absurd h hne
  have hreported : (ofReports reports).statuses[i]? = some .error := by
    rw [getElem?_statuses hr, hstatus]
  refine ⟨hreported, fun hmem => huntold ?_⟩
  exact (mem_errors_iff_told hnodup hr).mp (iff_of_true hreported hmem)

end OperationOutcome

/-! ## Rows in error -/

/-- On the way from one cursor to the other rows may have ceased to be in error and bookmarks to
name rows. The rowset is the same. -/
structure Cursor.Mends (c d : Cursor) : Prop where
  rowset : d.rowset = c.rowset
  status : ∀ id, d.slotStatus id = .error → c.slotStatus id = .error
  resolve : ∀ b id, d.bookmarks.resolve? b = some id → c.bookmarks.resolve? b = some id

namespace Cursor.Mends

variable {c d e : Cursor}

theorem refl (c : Cursor) : Mends c c :=
  ⟨rfl, fun _ h => h, fun _ _ h => h⟩

/-- What brings no row into error does not do so twice. -/
theorem trans (h : Mends c d) (h' : Mends d e) : Mends c e :=
  ⟨h'.rowset.trans h.rowset, fun id hid => h.status id (h'.status id hid),
    fun b id hb => h.resolve b id (h'.resolve b id hb)⟩

/-- A change of a slot that leaves no error brings none about. -/
theorem status_modify {f : RowSlot → RowSlot} (c : Cursor) (id : SlotId)
    (hf : ∀ slot, (f slot).status ≠ .error) (other : SlotId)
    (h : (c.modifySlot id f).slotStatus other = .error) : c.slotStatus other = .error := by
  by_cases hother : other = id
  · subst hother
    unfold slotStatus at h ⊢
    cases hslot : c.buffer.slot? other with
    | none =>
        rw [modifySlot, RowBuffer.slot?_modify, hslot] at h
        exact h
    | some slot =>
        rw [modifySlot, RowBuffer.slot?_modify_self f hslot] at h
        exact absurd h (hf slot)
  · rwa [slotStatus_congr (d := c.modifySlot id f) (RowBuffer.slot?_modify_of_ne f hother)] at h

/-- Assigned values bring no row into error. -/
theorem applySlot (c : Cursor) (id : SlotId) (assignments : List (Nat × Value)) :
    Mends c (Work.applySlot id assignments c) :=
  ⟨rfl, status_modify c id fun _ => RowStatus.noConfusion, fun _ _ h => h⟩

/-- A deletion brings no row into error. -/
theorem markDeleted (c : Cursor) (id : SlotId) : Mends c (c.markDeleted id) :=
  ⟨rfl, status_modify c id fun _ => RowStatus.noConfusion, fun _ _ => Bookmarks.resolve?_of_retire⟩

end Cursor.Mends

namespace Work

open Cursor (Mends)

variable {σ : Type} {w : Work σ} {operation : Operation} {o : OperationOutcome} {after : Work σ}

/-- The work on a slot mends the cursor, leaves the bound arrays alone, and is not done with the
row in error. -/
structure Mending (w : Work σ) (answer : RowResult × Work σ) : Prop where
  cursor : Mends w.cursor answer.2.cursor
  bindings : answer.2.bindings = w.bindings
  done : ∀ n, answer.1 ≠ .done n .error

theorem Mending.same {result : RowResult} (h : ∀ n, result ≠ .done n .error) :
    w.Mending (result, w) :=
  ⟨.refl _, rfl, h⟩

/-- A request brings no row into error if its change does not. -/
theorem mending_send {request : Request} {change : Cursor → Cursor} {status : RowStatus}
    (hchange : Mends w.cursor (change w.cursor)) (hstatus : status ≠ .error) :
    w.Mending (w.send request change status) := by
  unfold send
  split
  · exact ⟨.refl _, rfl, fun _ => RowResult.noConfusion⟩
  · split
    · exact ⟨.refl _, rfl, fun _ => RowResult.noConfusion⟩
    · exact ⟨hchange, rfl, fun _ h => hstatus (RowResult.done.inj h).2⟩

/-- An update brings no row into error. -/
theorem mending_updateSlot (key : KeySet) (supplied : Supplied) (id : SlotId)
    (bindingRow : Nat) : w.Mending (w.updateSlot key supplied id bindingRow) := by
  unfold updateSlot
  repeat' split
  all_goals try exact .same fun _ => RowResult.noConfusion
  exact mending_send (.applySlot _ _ _) RowStatus.noConfusion

theorem mending_deleteSlot (key : KeySet) (id : SlotId) :
    w.Mending (w.deleteSlot key id) := by
  unfold deleteSlot
  repeat' split
  all_goals try exact .same fun _ => RowResult.noConfusion
  exact mending_send (.markDeleted _ _) RowStatus.noConfusion

/-! ## Reports of rows in turn -/

/-- Each row is reported once, as the work on it says, while a condition is kept up. -/
theorem forRows_reports {f : Work σ → Nat → RowResult × RowStatus × Work σ} {P : Work σ → Prop}
    {R : RowReport → Prop}
    (hrow : ∀ v row, P v → R ⟨row, (f v row).1, (f v row).2.1⟩ ∧ P (f v row).2.2) (hw : P w)
    (rows : List Nat) :
    (forRows f w rows).1.map RowReport.row = rows ∧ ∀ r ∈ (forRows f w rows).1, R r := by
  induction rows generalizing w with
  | nil => exact ⟨rfl, fun r hr => by cases hr⟩
  | cons row rows ih =>
      obtain ⟨hR, hP⟩ := hrow w row hw
      obtain ⟨hrows, hall⟩ := ih hP
      refine ⟨congrArg (row :: ·) hrows, fun r hr => ?_⟩
      rcases List.mem_cons.mp hr with rfl | hr
      · exact hR
      · exact hall r hr

/-- The row's slot is in error. -/
def InError (w : Work σ) (slotFor : Nat → Option SlotId) (row : Nat) : Prop :=
  ∃ id, slotFor row = some id ∧ w.cursor.slotStatus id = .error

/-- Of the rows of the rowset only those in error can be reported so without a reason. -/
theorem reports_onRow {f : Nat → Work σ → SlotId → RowResult × Work σ}
    (hf : ∀ row (v : Work σ) id, v.Mending (f row v id)) (w : Work σ) (rows : List Nat) :
    (forRows (fun v row => v.onRow (f row) row) w rows).1.map RowReport.row = rows ∧
      ∀ r ∈ (forRows (fun v row => v.onRow (f row) row) w rows).1,
        r.Told ∨ w.InError w.cursor.slotOf? r.row := by
  refine forRows_reports (P := fun v => Mends w.cursor v.cursor) (fun v row hmends => ?_)
    (.refl _) rows
  unfold onRow
  cases hid : v.cursor.slotOf? row with
  | none => exact ⟨Or.inl fun _ => ⟨_, rfl⟩, hmends⟩
  | some id =>
      refine ⟨?_, hmends.trans (hf row v id).cursor⟩
      rcases RowReport.told_or row (v.cursor.slotStatus id) (hf row v id).done with htold | hbefore
      · exact Or.inl htold
      · rw [Cursor.slotOf?_congr hmends.rowset] at hid
        exact Or.inr ⟨id, hid, hmends.status id hbefore⟩

/-- The same for rows that bookmarks stand for. -/
theorem reports_onBookmark {f : Work σ → SlotId → Nat → RowResult × Work σ}
    (hf : ∀ (v : Work σ) id row, v.Mending (f v id row)) (w : Work σ) (rows : List Nat) :
    (forRows (onBookmark f) w rows).1.map RowReport.row = rows ∧
      ∀ r ∈ (forRows (onBookmark f) w rows).1, r.Told ∨ w.InError w.bookmarkSlot? r.row := by
  refine forRows_reports
    (P := fun v => Mends w.cursor v.cursor ∧ v.bindings = w.bindings)
    (fun v row hP => ?_) ⟨.refl _, rfl⟩ rows
  obtain ⟨hmends, hbindings⟩ := hP
  unfold onBookmark
  rw [hbindings]
  split
  · exact ⟨Or.inl RowStatus.noConfusion, hmends, hbindings⟩
  next b hb =>
    split
    · exact ⟨Or.inl fun _ => ⟨_, rfl⟩, hmends, hbindings⟩
    next id hid =>
      refine ⟨?_, hmends.trans (hf v id row).cursor, (hf v id row).bindings.trans hbindings⟩
      rcases RowReport.told_or row (v.cursor.slotStatus id) (hf v id row).done with htold | hbefore
      · exact Or.inl htold
      · refine Or.inr ⟨id, ?_, hmends.status id hbefore⟩
        rw [bookmarkSlot?, hb]
        exact hmends.resolve b id hid

/-- A lookup by bookmark reports a row in error without a reason just if it is in error. -/
theorem reports_lookup (w : Work σ) (rows : List Nat) :
    (forRows (onBookmark fun v id _ => (.done 0 (v.cursor.slotStatus id), v)) w rows).1.map
        RowReport.row = rows ∧
      ∀ r ∈ (forRows (onBookmark fun v id _ => (.done 0 (v.cursor.slotStatus id), v)) w rows).1,
        r.Told ↔ ¬ w.InError w.bookmarkSlot? r.row := by
  refine forRows_reports (P := fun v => v = w) (fun v row hv => ?_) rfl rows
  subst hv
  have hsame := v.onBookmark_same (g := fun v id => .done 0 (v.cursor.slotStatus id)) row
  refine ⟨?_, hsame⟩
  unfold onBookmark InError bookmarkSlot?
  cases hb : v.bindings.bookmark? (row - 1) with
  | none =>
      refine iff_of_true RowStatus.noConfusion ?_
      rintro ⟨id, hid, -⟩
      cases hid
  | some b =>
      rw [Option.bind_some]
      dsimp only
      cases hid : v.cursor.bookmarks.resolve? b with
      | none =>
          refine iff_of_true (fun _ => ⟨_, rfl⟩) ?_
          rintro ⟨id, hid, -⟩
          cases hid
      | some id =>
          constructor
          · rintro htold ⟨id', hid', herror⟩
            cases hid'
            obtain ⟨e, he⟩ := htold herror
            cases he
          · exact fun hnone herror => absurd ⟨id, rfl, herror⟩ hnone

/-! ## Operations -/

/-- The operation is carried out on the cursor. -/
def operate (w : Work σ) (supplied : Supplied) :
    Operation → Except Error OperationOutcome × Work σ
  | .setPosition row operation => w.setPosition row operation supplied
  | .bulk operation => w.bulk operation supplied

/-- The rows that an operation works on, in turn. -/
def operatedRows (w : Work σ) : Operation → List Nat
  | .setPosition row operation => w.targetRows row operation
  | .bulk .add => List.range' 1 w.cursor.size
  | .bulk _ => List.range' 1 (min w.bindings.bookmarkRows w.cursor.size)

/-- An operation takes its rows in their order. -/
theorem operatedRows_increasing (w : Work σ) (operation : Operation) :
    (w.operatedRows operation).Pairwise (· < ·) := by
  have hrange (n : Nat) : (List.range' 1 n).Pairwise (· < ·) := List.pairwise_lt_range'
  cases operation with
  | setPosition row operation =>
      unfold operatedRows targetRows
      dsimp only
      split
      · exact List.pairwise_singleton _ _
      · exact hrange _
  | bulk operation => cases operation <;> exact hrange _

/-- The slot of the row is in error when its turn comes, and the operation may leave it so: the row
could not be read again, before the call or just now. -/
def Lingers (w : Work σ) (row : Nat) : Operation → Prop
  | .setPosition number .update =>
      (w.prepareWrite (w.targetRows number .update)).2.InError w.cursor.slotOf? row
  | .setPosition number .delete =>
      (w.prepareWrite (w.targetRows number .delete)).2.InError w.cursor.slotOf? row
  | .setPosition _ _ | .bulk .add => False
  | .bulk _ => w.InError w.bookmarkSlot? row

/-- An outcome is put together from reports of the rows that were worked on. -/
structure Reported (w : Work σ) (operation : Operation) (o : OperationOutcome)
    (reports : List RowReport) : Prop where
  rows : reports.map RowReport.row = w.operatedRows operation
  outcome : ∃ bookmarks rows,
    o = { OperationOutcome.ofReports reports with bookmarks := bookmarks, rows := rows }
  told : ∀ r ∈ reports, r.Told ∨ w.Lingers r.row operation
  lookedUp : operation = .bulk .fetchByBookmark →
    ∀ r ∈ reports, r.Told → ¬ w.Lingers r.row operation

/-- To prepare a write does not move the rowset. -/
theorem slotOf?_prepareWrite (w : Work σ) (rows : List Nat) :
    (w.prepareWrite rows).2.cursor.slotOf? = w.cursor.slotOf? := by
  have hkey := w.sameStanding_keySet
  refine Cursor.slotOf?_congr ?_
  unfold prepareWrite
  split
  next h =>
    rw [h] at hkey
    exact hkey.2.2.2.2.2.1
  next h =>
    rw [h] at hkey
    exact (sameStanding_rereadIf _ _ _).2.2.2.2.2.1.trans hkey.2.2.2.2.2.1

/-- The outcome of an update tells of each of its rows. -/
theorem reported_updateRows {supplied : Supplied} {number : Nat}
    (h : w.updateRows supplied number (w.targetRows number .update) = (.ok o, after)) :
    ∃ reports, w.Reported (.setPosition number .update) o reports := by
  have hslotOf := w.slotOf?_prepareWrite (w.targetRows number .update)
  unfold updateRows at h
  split at h
  · cases h
  next key v hprepare =>
    split at h
    · cases h
    · cases h
      rw [hprepare] at hslotOf
      obtain ⟨hrows, htold⟩ := reports_onRow
        (f := fun row v id => v.updateSlot key supplied id (row - 1))
        (fun row v id => mending_updateSlot key supplied id _) v (w.targetRows number .update)
      refine ⟨_, hrows, ⟨_, _, rfl⟩, fun r hr => ?_, fun hbulk => by cases hbulk⟩
      rcases htold r hr with htold | herror
      · exact Or.inl htold
      · right
        change (w.prepareWrite _).2.InError _ _
        rw [hprepare, ← hslotOf]
        exact herror

theorem reported_deleteRows {number : Nat}
    (h : w.deleteRows (w.targetRows number .delete) = (.ok o, after)) :
    ∃ reports, w.Reported (.setPosition number .delete) o reports := by
  have hslotOf := w.slotOf?_prepareWrite (w.targetRows number .delete)
  unfold deleteRows at h
  split at h
  · cases h
  next key v hprepare =>
    cases h
    rw [hprepare] at hslotOf
    obtain ⟨hrows, htold⟩ := reports_onRow (f := fun _ v id => v.deleteSlot key id)
      (fun _ v id => mending_deleteSlot key id) v (w.targetRows number .delete)
    refine ⟨_, hrows, ⟨_, _, rfl⟩, fun r hr => ?_, fun hbulk => by cases hbulk⟩
    rcases htold r hr with htold | herror
    · exact Or.inl htold
    · right
      change (w.prepareWrite _).2.InError _ _
      rw [hprepare, ← hslotOf]
      exact herror

/-- No added row is done and in error. -/
theorem insertRow_done (supplied : Supplied) (table : TableRef) (numbered : Option Nat)
    (w : Work σ) (row n : Nat) : (w.insertRow supplied table numbered row).1 ≠ .done n .error := by
  unfold insertRow
  dsimp only
  repeat' split
  all_goals exact fun h => by cases h

/-- An added row either failed or is there. -/
theorem reports_addEach (supplied : Supplied) (table : TableRef) (numbered : Option Nat)
    (w : Work σ) (rows : List Nat) :
    ((addEach supplied table numbered w rows).1.map Prod.fst).map RowReport.row = rows ∧
      ∀ r ∈ (addEach supplied table numbered w rows).1.map Prod.fst, r.Told := by
  induction rows generalizing w with
  | nil => exact ⟨rfl, fun r hr => by cases hr⟩
  | cons row rows ih =>
      obtain ⟨hrows, htold⟩ := ih (addOne supplied table numbered w row).2.2
      refine ⟨congrArg (row :: ·) hrows, fun r hr => ?_⟩
      rcases List.mem_cons.mp hr with rfl | hr
      · have htold := RowReport.told_or row .noRow (insertRow_done supplied table numbered w row)
        exact htold.resolve_right RowStatus.noConfusion
      · exact htold r hr

/-- The outcome of an addition tells of each added row. -/
theorem reported_addRows {supplied : Supplied}
    (hadds : operation = .bulk .add ∨ ∃ number, operation = .setPosition number .add)
    (h : w.addRows supplied (w.operatedRows operation) = (.ok o, after)) :
    ∃ reports, w.Reported operation o reports := by
  unfold addRows at h
  split at h
  · cases h
  next table _ =>
    cases h
    obtain ⟨hrows, htold⟩ := reports_addEach supplied table
      (w.keySet.1.toOption.bind KeySet.numberedColumn?) w.keySet.2 (w.operatedRows operation)
    refine ⟨_, hrows, ⟨_, _, rfl⟩, fun r hr => Or.inl (htold r hr), ?_⟩
    rintro rfl
    rcases hadds with hadds | ⟨_, hadds⟩ <;> cases hadds

/-- A refresh says of each row in error that it could not be read. -/
theorem reported_refreshRows (w : Work σ) (number : Nat) :
    ∃ reports, w.Reported (.setPosition number .refresh)
      (w.refreshRows (w.targetRows number .refresh)).1 reports := by
  obtain ⟨v, -, hrefresh⟩ := w.exists_refresh_eq (w.targetRows number .refresh)
  unfold refreshRows
  rw [hrefresh]
  refine ⟨_, ?_, ⟨_, _, rfl⟩, fun r hr => Or.inl ?_, fun hbulk => by cases hbulk⟩
  · rw [List.zipWith_map_right, List.zipWith_self, List.map_map]
    exact List.map_id _
  · rw [List.zipWith_map_right, List.zipWith_self] at hr
    obtain ⟨row, -, rfl⟩ := List.mem_map.mp hr
    unfold refreshReport
    intro hstatus
    by_cases herror : (v.cursor.syncStatuses.fetchedRow (v.cursor.slotOf? row)
        (if row = 0 then .noRow else
          v.cursor.syncStatuses.statuses[row - 1]?.getD .noRow)).status = .error
    · exact ⟨_, if_pos herror⟩
    · rw [RowReport.status, if_neg herror] at hstatus
      exact absurd hstatus herror

/-- The outcome of a write at bookmarks tells of each of them. -/
theorem reported_writeByBookmark {bulk : BulkOperation}
    {f : KeySet → Work σ → SlotId → Nat → RowResult × Work σ}
    (hbulk : bulk = .updateByBookmark ∨ bulk = .deleteByBookmark)
    (hf : ∀ key (v : Work σ) id row, v.Mending (f key v id row))
    (h : w.writeByBookmark (w.operatedRows (.bulk bulk)) f = (.ok o, after)) :
    ∃ reports, w.Reported (.bulk bulk) o reports := by
  obtain ⟨hbindings, -, hbookmarks⟩ := ExactServer.keySet_frame w
  have hbuffer := w.keySet_buffer
  unfold writeByBookmark at h
  split at h
  · cases h
  next key v hkey =>
    cases h
    rw [hkey] at hbindings hbookmarks hbuffer
    obtain ⟨hreports, htold⟩ := reports_onBookmark (hf key) v (w.operatedRows (.bulk bulk))
    refine ⟨_, hreports, ⟨_, _, rfl⟩, fun r hr => ?_, ?_⟩
    · rcases htold r hr with htold | ⟨id, hid, herror⟩
      · exact Or.inl htold
      · right
        have hlingers : w.InError w.bookmarkSlot? r.row := by
          refine ⟨id, ?_, ?_⟩
          · rw [bookmarkSlot?, ← hbindings, ← hbookmarks]
            exact hid
          · rw [← herror, Cursor.slotStatus, Cursor.slotStatus, hbuffer]
        rcases hbulk with rfl | rfl <;> exact hlingers
    · rintro heq
      cases heq
      rcases hbulk with hbulk | hbulk <;> cases hbulk

/-- An operation by bookmark is about the bookmarks that are bound. -/
theorem operatedRows_of_bookmarkRows {bulk : BulkOperation} {rows : List Nat} (hbulk : bulk ≠ .add)
    (h : w.bookmarkRows = .ok rows) : rows = w.operatedRows (.bulk bulk) := by
  unfold bookmarkRows at h
  split at h
  · cases h
  · split at h
    · cases h
    · cases h
      cases bulk with
      | add => exact absurd rfl hbulk
      | updateByBookmark | deleteByBookmark | fetchByBookmark => rfl

theorem overBookmarks_eq_ok {bulk : BulkOperation} (hbulk : bulk ≠ .add)
    {f : List Nat → Except Error OperationOutcome × Work σ}
    (h : w.overBookmarks f = (.ok o, after)) :
    f (w.operatedRows (.bulk bulk)) = (.ok o, after) := by
  unfold overBookmarks at h
  split at h
  · cases h
  next rows hrows =>
    rw [← operatedRows_of_bookmarkRows hbulk hrows]
    exact h

/-- The outcome of every operation but that of positioning tells of each row. -/
theorem reported_operate {supplied : Supplied}
    (hposition : ∀ number, operation ≠ .setPosition number .position)
    (h : w.operate supplied operation = (.ok o, after)) :
    ∃ reports, w.Reported operation o reports := by
  cases operation with
  | setPosition number operation =>
      cases operation with
      | position => exact absurd rfl (hposition number)
      | refresh =>
          cases h
          exact w.reported_refreshRows number
      | update => exact reported_updateRows h
      | delete => exact reported_deleteRows h
      | add => exact reported_addRows (Or.inr ⟨number, rfl⟩) h
  | bulk operation =>
      rcases w.bulk_cases operation supplied with ⟨e, hrefused⟩ | hopen
      · rw [operate, hrefused] at h
        cases h
      · rw [operate, hopen] at h
        cases operation with
        | add => exact reported_addRows (Or.inl rfl) h
        | updateByBookmark =>
            exact reported_writeByBookmark (Or.inl rfl)
              (fun key v id row => mending_updateSlot key supplied id _)
              (overBookmarks_eq_ok BulkOperation.noConfusion h)
        | deleteByBookmark =>
            exact reported_writeByBookmark (Or.inr rfl)
              (fun key v id row => mending_deleteSlot key id)
              (overBookmarks_eq_ok BulkOperation.noConfusion h)
        | fetchByBookmark =>
            have hbulk : BulkOperation.fetchByBookmark ≠ .add := BulkOperation.noConfusion
            cases overBookmarks_eq_ok hbulk h
            obtain ⟨hreports, htold⟩ := w.reports_lookup (w.operatedRows (.bulk .fetchByBookmark))
            refine ⟨_, hreports, ⟨_, _, rfl⟩, fun r hr => ?_, fun _ r hr => (htold r hr).mp⟩
            by_cases herror : w.InError w.bookmarkSlot? r.row
            · exact Or.inr herror
            · exact Or.inl ((htold r hr).mpr herror)

end Work

end ScrollCursor
