import ScrollCursor.Proofs.Statement.Operations
import ScrollCursor.Proofs.Table.ExactServer

/-! # The arrays of an outcome

What a caller is told of the rows of an operation: a status for each of them, the errors of those
that failed, and counts and a code for all. The arrays agree about each row unless its slot was in
error already, after a reading that failed, and was left so.
-/

namespace ScrollCursor

namespace Work

variable {σ : Type} {w after : Work σ} {operation : Operation} {o : OperationOutcome}

/-- No row of a reachable static cursor can be in error. -/
theorem not_lingers_of_static (hreachable : w.cursor.Reachable) (hkind : w.cursor.kind = .static)
    (row : Nat) : ¬ w.Lingers row operation := by
  have hheld (slotFor : Nat → Option SlotId) : ¬ w.InError slotFor row := by
    rintro ⟨id, -, herror⟩
    exact hreachable.slotStatus_ne_error hkind id herror
  have hprepared (rows : List Nat) (slotFor : Nat → Option SlotId) :
      ¬ (w.prepareWrite rows).2.InError slotFor row := by
    rw [prepareWrite_of_static hkind]
    rintro ⟨id, hid, herror⟩
    refine hheld slotFor ⟨id, hid, ?_⟩
    rw [← herror, Cursor.slotStatus, Cursor.slotStatus, w.keySet_buffer]
  cases operation with
  | setPosition number operation =>
      cases operation with
      | position | refresh | add => exact id
      | update | delete => exact hprepared _ _
  | bulk operation =>
      cases operation with
      | add => exact id
      | updateByBookmark | deleteByBookmark | fetchByBookmark => exact hheld _

/-- An operation on several rows needs a cursor that can scroll. -/
theorem isScrollable_of_bulk {bulk : BulkOperation} {supplied : Supplied}
    (h : w.bulk bulk supplied = (.ok o, after)) : w.cursor.kind.isScrollable = true := by
  unfold Work.bulk Cursor.validateBulk at h
  cases hscrolls : w.cursor.kind.isScrollable with
  | true => rfl
  | false =>
      rw [hscrolls] at h
      cases h

end Work

namespace Cursor

variable {c : Cursor}

theorem isScrollable_of_admits {row : Nat} {operation : RowOperation} {lock : LockType}
    (hposition : operation ≠ .position)
    (h : c.Admits (.setPosition row operation lock)) : c.kind.isScrollable = true :=
  (validate_eq_ok_iff.mp h).2.1.resolve_right hposition

theorem static_of_not_rereads (hscrolls : c.kind.isScrollable = true)
    (hrereads : c.kind.rereads = false) : c.kind = .static := by
  cases hkind : c.kind with
  | static => rfl
  | forwardOnly =>
      rw [hkind] at hscrolls
      cases hscrolls
  | dynamic | keysetDriven =>
      rw [hkind] at hrereads
      cases hrereads

end Cursor

namespace Session

variable {σ : Type} {s t : Session σ} {call : StatementCall} {operation : Operation}
  {o : OperationOutcome}

/-- An operation that was carried out has the outcome that the cursor gave. -/
theorem operate_of_perform (hcall : call.operation? = some operation)
    (h : s.perform call = (.ok (.operated o), t)) (hdone : o.returnCode ≠ .needData) :
    ∃ c w, s.statement.cursor = some c ∧ c.Admits call ∧
      (s.resumed.work c).operate [] operation = (.ok o, w) := by
  have hperform := operated_perform (s := s) hcall
  rw [h] at hperform
  generalize hresult : ((.ok (.operated o), t) : Except Error Reply × Session σ) = result
    at hperform
  cases hperform with
  | suspended | refused => cases hresult
  | waits columns =>
      cases hresult
      exact absurd rfl hdone
  | carriedOut c hpending hc hadmits hawaited =>
      obtain ⟨answer, hanswer⟩ : ∃ answer,
          (s.resumed.work c).operate [] operation = answer := ⟨_, rfl⟩
      rw [hanswer] at hresult
      obtain ⟨result, w⟩ := answer
      cases result with
      | error e => cases hresult
      | ok outcome =>
          cases hresult
          exact ⟨c, w, hc, hadmits, hanswer⟩

/-- An operation other than setting the current row needs a cursor that can scroll. -/
theorem isScrollable_of_operate (w : Work σ) {supplied : Supplied} {after : Work σ}
    (hcall : call.operation? = some operation)
    (hposition : ∀ number, operation ≠ .setPosition number .position)
    (hadmits : w.cursor.Admits call) (h : w.operate supplied operation = (.ok o, after)) :
    w.cursor.kind.isScrollable = true := by
  cases call with
  | setOptions | bindColumn | bindBookmarks | unbindAll | execute | fetch | getBookmark
  | paramData | putData | closeCursor | setCursorName | cursorName => cases hcall
  | setPosition number rowOperation lock =>
      cases hcall
      exact w.cursor.isScrollable_of_admits (fun h => hposition number (by rw [h])) hadmits
  | bulkOperation bulk =>
      cases hcall
      exact w.isScrollable_of_bulk h

/-- The outcome of an operation has a status for each row, in row order, and the errors of rows
among them in the same order; the counts and the code go with the errors. Every row with an error is
reported to be in error. A row that is reported so has an error unless its slot was in error before,
which a lookup by bookmark always leaves so, and a refresh or an addition never. No row of a cursor
that does not read rows again is in error before. -/
theorem counted_of_operated (hcall : call.operation? = some operation)
    (hposition : ∀ number, operation ≠ .setPosition number .position)
    (h : s.perform call = (.ok (.operated o), t)) (hdone : o.returnCode ≠ .needData) :
    ∃ c rows, s.statement.cursor = some c ∧
      rows = (s.resumed.work c).operatedRows operation ∧ rows.Pairwise (· < ·) ∧
      o.Counted rows ∧
      (∀ (i row : Nat), rows[i]? = some row → ¬ (s.resumed.work c).Lingers row operation →
        (o.statuses[i]? = some .error ↔ row ∈ o.errors.map RowError.row)) ∧
      (operation = .bulk .fetchByBookmark → ∀ (i row : Nat), rows[i]? = some row →
        (s.resumed.work c).Lingers row operation →
        o.statuses[i]? = some .error ∧ row ∉ o.errors.map RowError.row) ∧
      (c.Reachable → c.kind.rereads = false →
        ∀ row, ¬ (s.resumed.work c).Lingers row operation) := by
  obtain ⟨c, w, hc, hadmits, hoperate⟩ := operate_of_perform hcall h hdone
  obtain ⟨reports, hrows, ⟨bookmarks, shown, rfl⟩, htold, hlookedUp⟩ :=
    Work.reported_operate hposition hoperate
  have hincreasing := (s.resumed.work c).operatedRows_increasing operation
  have hnodup : (reports.map RowReport.row).Nodup := by
    rw [hrows]
    exact hincreasing.imp Nat.ne_of_lt
  have hcounted := OperationOutcome.counted_ofReports reports
  have hreport (i row : Nat) (hi : ((s.resumed.work c).operatedRows operation)[i]? = some row) :
      ∃ r, reports[i]? = some r ∧ r.row = row := by
    rw [← hrows, List.getElem?_map] at hi
    exact Option.map_eq_some_iff.mp hi
  refine ⟨c, _, hc, rfl, hincreasing, ?_, ?_, ?_, ?_⟩
  · rw [← hrows]
    exact ⟨hcounted.statuses, hcounted.errors, hcounted.inError, hcounted.failureCount,
      hcounted.atMost, hcounted.returnCode⟩
  · intro i row hi hnone
    obtain ⟨r, hr, rfl⟩ := hreport i row hi
    exact (OperationOutcome.mem_errors_iff_told hnodup hr).mpr
      ((htold r (List.mem_of_getElem? hr)).resolve_right hnone)
  · intro hfetch i row hi hlingers
    obtain ⟨r, hr, rfl⟩ := hreport i row hi
    have huntold : ¬ r.Told := fun h => hlookedUp hfetch r (List.mem_of_getElem? hr) h hlingers
    exact OperationOutcome.inError_of_not_told hnodup hr huntold
  · intro hreachable hrereads row
    have hscrolls := isScrollable_of_operate (s.resumed.work c) hcall hposition hadmits hoperate
    exact Work.not_lingers_of_static (w := s.resumed.work c) hreachable
      (c.static_of_not_rereads hscrolls hrereads) row

/-! ## Two notes -/

/-- The two notes of a server that may have answers laid down. -/
def twoNotes (queries : List (Planned ResultSet)) (writes : List (Planned WriteAnswer)) :
    MemoryServer :=
  { noteServer with
    tables :=
      [{ ref := notes, columns := ["id", "text"],
         rows := [[.integer 1, .string "today"], [.integer 2, .string "tomorrow"]] }]
    queries := queries
    writes := writes }

/-- A new statement of a connection to such a server. -/
def beforeTwoNotes (queries : List (Planned ResultSet)) (writes : List (Planned WriteAnswer)) :
    Session MemoryServer where
  statement := { id := 1 }
  config := { dynamicCursor := true }
  names := {}
  link := { server := MemoryServer.server, state := twoNotes queries writes }

/-- Both notes have been fetched through a cursor with bookmarks, and the bookmark of the first is
bound. -/
def twoNotesFetched (kind : CursorKind) (queries : List (Planned ResultSet))
    (writes : List (Planned WriteAnswer)) : Session MemoryServer :=
  (beforeTwoNotes queries writes).performAll
    [.setOptions { cursorKind := kind, rowArraySize := 2, useBookmarks := true },
      .execute "SELECT id, text FROM notes" [], .fetch .next,
      .bindBookmarks [Bookmark.ofNumber 1]]

/-- Two rows are to be deleted, and the server fails at the first. -/
theorem counted_of_operated_delete :
    ∃ o t, (twoNotesFetched .static [] [.fail MemoryServer.lostConnection]).perform
          (.setPosition 0 .delete .noChange) = (.ok (.operated o), t) ∧
      o.returnCode ≠ .needData ∧ o.statuses = [.error, .deleted] ∧
      o.errors.map RowError.row = [1] ∧ o.Counted [1, 2] := by
  obtain ⟨o, ho⟩ : ∃ o, (twoNotesFetched .static [] [.fail MemoryServer.lostConnection]).perform
      (.setPosition 0 .delete .noChange) = (.ok (.operated o),
        ((twoNotesFetched .static [] [.fail MemoryServer.lostConnection]).perform
          (.setPosition 0 .delete .noChange)).2) := ⟨_, rfl⟩
  have hstatuses : o.statuses = [.error, .deleted] := by
    cases ho
    rfl
  have herrors : o.errors.map RowError.row = [1] := by
    cases ho
    rfl
  have hcode : o.returnCode ≠ .needData := by
    cases ho
    exact ReturnCode.noConfusion
  obtain ⟨c, rows, hc, hrows, -, hcounted, -⟩ :=
    counted_of_operated rfl (fun _ h => by cases h) ho hcode
  cases hc
  have htwo : rows = [1, 2] := hrows
  exact ⟨o, _, ho, hcode, hstatuses, herrors, htwo ▸ hcounted⟩

/-- A dynamic cursor could not read its first row again. A lookup by bookmark then reports the row
to be in error, without an error and as a success. -/
theorem inError_of_lookup :
    Steps (beforeTwoNotes [.pass, .fail MemoryServer.lostConnection] [])
        (twoNotesFetched .dynamic [.pass, .fail MemoryServer.lostConnection] []) ∧
      ∃ o t, (twoNotesFetched .dynamic [.pass, .fail MemoryServer.lostConnection] []).perform
          (.bulkOperation .fetchByBookmark) = (.ok (.operated o), t) ∧
        o.statuses = [.error] ∧ o.errors = [] ∧ o.successCount = 1 ∧ o.failureCount = 0 ∧
        o.returnCode = .success ∧ o.isSuccess = true :=
  ⟨steps_performAll _ _, _, _, rfl, rfl, rfl, rfl, rfl, rfl, rfl⟩

end Session

end ScrollCursor
