import ScrollCursor.MemoryServer
import ScrollCursor.Proofs.Statement.OpenCursors
import ScrollCursor.Statement.Call

/-! # Calls on a suspended statement

While an operation waits for values a statement takes them or closes its cursor. Every other call
begins with the same refusal and so does nothing at all, with one exception: the cursor name is
told, and given if there is none.
-/

namespace ScrollCursor

/-- The call supplies what is waited for, or gives it up. -/
def StatementCall.goesOn : StatementCall → Bool
  | .paramData | .putData _ | .closeCursor => true
  | _ => false

namespace Session

variable {σ α : Type} {s : Session σ}

/-! ## Runs of calls -/

theorem step_perform (s : Session σ) (call : StatementCall) : Step s (s.perform call).2 := by
  cases call with
  | setOptions options => exact .setOptions s options
  | bindColumn ordinal values => exact .bind s _
  | bindBookmarks bookmarks => exact .bind s _
  | unbindAll => exact .bind s _
  | execute sql params => exact .execute s sql params
  | fetch orientation => exact .fetch s orientation
  | getBookmark row => exact .getBookmark s row
  | setPosition row operation lock => exact .setPosition s row operation lock
  | bulkOperation operation => exact .bulkOperation s operation
  | paramData => exact .paramData s
  | putData piece => exact .putData s piece
  | closeCursor => exact .closeCursor s
  | setCursorName name => exact .setCursorName s name
  | cursorName => exact .cursorName s

theorem steps_performAll (s : Session σ) (calls : List StatementCall) :
    Steps s (s.performAll calls) := by
  induction calls generalizing s with
  | nil => exact .refl
  | cons call rest ih => exact .head (step_perform s call) (ih _)

/-! ## Refused calls -/

def stillPending : Error :=
  .functionSequence "data-at-execution values are still pending"

theorem sqlstate_stillPending : stillPending.sqlstate = "HY010" := rfl

theorem call_of_suspended (h : s.statement.pending.isSome = true)
    (f : Session σ → Except Error α × Session σ) : s.call f = (.error stillPending, s) :=
  if_pos h

theorem bind_of_suspended (h : s.statement.pending.isSome = true) (f : Bindings → Bindings) :
    s.bind f = (.error stillPending, s) :=
  call_of_suspended h _

theorem replying_call_of_suspended (h : s.statement.pending.isSome = true) (g : α → Reply)
    (f : Session σ → Except Error α × Session σ) :
    replying g (s.call f) = (.error stillPending, s) := by
  rw [call_of_suspended h]
  rfl

/-- Only the cursor name is told without the call that every other one begins with. -/
theorem perform_eq_of_suspended (h : s.statement.pending.isSome = true) {call : StatementCall}
    (hcall : call.goesOn = false) (hname : call ≠ .cursorName) :
    s.perform call = (.error stillPending, s) := by
  cases call with
  | paramData | putData | closeCursor => cases hcall
  | cursorName => exact absurd rfl hname
  | bindColumn | bindBookmarks | unbindAll =>
      change replying _ (s.bind _) = _
      rw [bind_of_suspended h]
      rfl
  | setOptions | execute | fetch | getBookmark | setPosition | bulkOperation | setCursorName =>
      exact replying_call_of_suspended h _ _

/-! ## The cursor name -/

theorem cursorName_of_named {name : String} (h : s.names.nameOf? s.statement.id = some name) :
    s.cursorName = (name, s) := by
  rw [cursorName, h]

theorem pending_publishCursor (s : Session σ) :
    s.publishCursor.statement.pending = s.statement.pending := by
  unfold publishCursor
  split <;> rfl

theorem pending_cursorName (s : Session σ) :
    s.cursorName.2.statement.pending = s.statement.pending := by
  unfold cursorName
  split
  · rfl
  · exact pending_publishCursor _

/-- While an operation waits every call that does not supply its values or close the cursor is
refused and leaves the statement, the server and the cursor names as they are, just if it does not
ask for the cursor name. That is answered whatever waits, which goes on waiting, and it changes
nothing if the statement has a name. -/
theorem perform_of_suspended (h : s.statement.pending.isSome = true) :
    stillPending.sqlstate = "HY010" ∧
      (∀ call : StatementCall, call.goesOn = false →
        (s.perform call = (.error stillPending, s) ↔ call ≠ .cursorName)) ∧
      (∃ name, (s.perform .cursorName).1 = .ok (.name name)) ∧
      (s.perform .cursorName).2.statement.pending = s.statement.pending ∧
      ∀ name, s.names.nameOf? s.statement.id = some name →
        s.perform .cursorName = (.ok (.name name), s) := by
  refine ⟨sqlstate_stillPending, ?_, ⟨_, rfl⟩, pending_cursorName s, ?_⟩
  · intro call hcall
    constructor
    · rintro hrefused rfl
      have hanswer := congrArg Prod.fst hrefused
      cases hanswer
    · exact perform_eq_of_suspended h hcall
  · intro name hname
    change (Except.ok (Reply.name s.cursorName.1), s.cursorName.2) = _
    rw [cursorName_of_named hname]

/-! ## A row that waits to be added -/

/-- A new statement, whose first query will be answered with one row of one column. -/
def beforeQuery : Session MemoryServer where
  statement := { id := 1, options := { cursorKind := .static } }
  config := {}
  names := {}
  link :=
    { server := MemoryServer.server
      state := { queries := [.answer ⟨[], [.ok [.integer 1]]⟩] } }

/-- The statement when the only column of a row to be added is to be supplied. -/
def suspended : Session MemoryServer :=
  beforeQuery.performAll
    [.execute "SELECT id FROM t" [], .bindColumn 0 [.dataAtExec], .bulkOperation .add]

theorem perform_of_suspended_add :
    suspended.statement.pending.isSome = true ∧
      StatementCall.goesOn (.setCursorName "c") = false ∧
      suspended.perform (.setCursorName "c") = (.error stillPending, suspended) := by
  have hsuspended : suspended.statement.pending.isSome = true := rfl
  have hrefused := ((perform_of_suspended hsuspended).2.1 (.setCursorName "c") rfl).mpr
    (by intro hname; cases hname)
  exact ⟨hsuspended, rfl, hrefused⟩

/-- A suspended statement without a cursor name takes one when it is asked for. -/
theorem cursorName_of_suspended_add :
    Steps beforeQuery suspended ∧ beforeQuery.statement.cursor = none ∧
      suspended.statement.pending.isSome = true ∧
      (suspended.perform .cursorName).1 = .ok (.name "SQL_CUR0") ∧
      suspended.names.names = [] ∧
      (suspended.perform .cursorName).2.names.names = ["SQL_CUR0"] :=
  ⟨steps_performAll _ _, rfl, rfl, rfl, rfl, rfl⟩

end Session

end ScrollCursor
