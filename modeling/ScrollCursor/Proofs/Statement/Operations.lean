import ScrollCursor.Proofs.Positioned.Outcomes
import ScrollCursor.Proofs.Statement.SuppliedValues
import ScrollCursor.Proofs.Statement.Suspension

/-! # Operations on rows

Two calls ask for an operation on rows, one for rows of the rowset and one for rows of the bound
arrays. Both end in one of four ways: they are turned away because values are awaited, or refused
before the cursor is asked, or they begin to wait for values, or the cursor carries them out.
-/

namespace ScrollCursor

/-- The operation on rows that a call asks for. -/
def StatementCall.operation? : StatementCall → Option Operation
  | .setPosition row operation _ => some (.setPosition row operation)
  | .bulkOperation operation => some (.bulk operation)
  | _ => none

namespace Cursor

/-- A call for rows of the rowset is open to the cursor. -/
def Admits (c : Cursor) : StatementCall → Prop
  | .setPosition row operation lock => c.validate row operation lock = .ok ()
  | _ => True

/-- A call that is not open to a cursor is refused for another reason than that nothing is set. -/
theorem validate_ne_degreeMismatch (c : Cursor) (row : Nat) (operation : RowOperation)
    (lock : LockType) : c.validate row operation lock ≠ .error .degreeMismatch := by
  unfold validate validateAddedRow validateRow
  repeat' split
  all_goals exact fun h => by cases h

end Cursor

namespace Session

variable {σ : Type} {s t : Session σ} {c : Cursor} {call : StatementCall} {operation : Operation}

theorem run_eq (hc : s.statement.cursor = some c) (operation : Operation) (supplied : Supplied) :
    s.run operation supplied =
      s.answered operation ((s.work c).operate supplied operation) := by
  cases operation with
  | setPosition row operation => exact run_setPosition hc row operation supplied
  | bulk operation => exact run_bulk hc operation supplied

theorem call_of_pending_eq_none {α : Type} (h : s.statement.pending = none)
    (f : Session σ → Except Error α × Session σ) : s.call f = f s.resumed := by
  obtain ⟨⟨id, options, bindings, cursor, diagnostics, rowCount, pending, named⟩, config, names,
    link⟩ := s
  cases h
  rfl

/-- What can become of a call that asks for an operation on rows. -/
inductive Operated (s : Session σ) (call : StatementCall) (operation : Operation) :
    Except Error Reply × Session σ → Prop
  /-- Values are awaited. -/
  | suspended : Operated s call operation (.error stillPending, s)
  /-- The cursor is not asked. -/
  | refused (e : Error) (h : e ≠ .degreeMismatch) (hpending : s.statement.pending = none) :
      Operated s call operation (.error e, s.resumed)
  | waits (columns : List Nat) :
      Operated s call operation
        (.ok (.operated .needData),
          s.resumed.waiting { operation := operation, columns := columns })
  | carriedOut (c : Cursor) (hpending : s.statement.pending = none)
      (hc : s.statement.cursor = some c) (hadmits : c.Admits call)
      (hawaited : awaited s.statement.bindings c operation = .ok []) :
      Operated s call operation
        (replying .operated
          (s.resumed.answered operation ((s.resumed.work c).operate [] operation)))

/-- Only a call whose values are all bound is carried out. -/
theorem operated_runOrWait (hpending : s.statement.pending = none)
    (hc : s.statement.cursor = some c) (hadmits : c.Admits call) :
    s.Operated call operation (replying .operated (s.resumed.runOrWait c operation)) := by
  have hbindings : s.resumed.statement.bindings = s.statement.bindings := rfl
  have hc' : s.resumed.statement.cursor = some c := hc
  unfold runOrWait
  rw [hbindings]
  split
  next e hawaited =>
    refine .refused e ?_ hpending
    rintro rfl
    unfold awaited at hawaited
    split at hawaited
    · cases hawaited
    · dsimp only at hawaited
      split at hawaited
      · cases hawaited
      · split at hawaited <;> cases hawaited
  next hawaited =>
    rw [run_eq hc']
    exact .carriedOut c hpending hc hadmits hawaited
  next columns _ _ => exact .waits columns

theorem operated_perform (h : call.operation? = some operation) :
    s.Operated call operation (s.perform call) := by
  cases hpending : s.statement.pending with
  | some p =>
      have hsuspended : s.statement.pending.isSome = true := by rw [hpending]; rfl
      have hgoes : call.goesOn = false := by cases call <;> first | rfl | cases h
      have hname : call ≠ .cursorName := by rintro rfl; cases h
      rw [perform_eq_of_suspended hsuspended hgoes hname]
      exact .suspended
  | none =>
      have hcursor : s.resumed.statement.cursor = s.statement.cursor := rfl
      cases call with
      | setOptions | bindColumn | bindBookmarks | unbindAll | execute | fetch | getBookmark
      | paramData | putData | closeCursor | setCursorName | cursorName => cases h
      | setPosition row operation lock =>
          cases h
          change s.Operated _ _ (replying _ (s.call _))
          rw [call_of_pending_eq_none hpending, withCursor, hcursor]
          cases hc : s.statement.cursor with
          | none => exact .refused _ (fun h => by cases h) hpending
          | some c =>
              dsimp only
              split
              next e hvalid =>
                refine .refused e ?_ hpending
                rintro rfl
                exact c.validate_ne_degreeMismatch row operation lock hvalid
              next hvalid => exact operated_runOrWait hpending hc hvalid
      | bulkOperation operation =>
          cases h
          change s.Operated _ _ (replying _ (s.call _))
          rw [call_of_pending_eq_none hpending, withCursor, hcursor]
          cases hc : s.statement.cursor with
          | none => exact .refused _ (fun h => by cases h) hpending
          | some c => exact operated_runOrWait hpending hc trivial

end Session

end ScrollCursor
