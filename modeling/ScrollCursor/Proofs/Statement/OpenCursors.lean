import ScrollCursor.Proofs.Cursor.Reachable
import ScrollCursor.Proofs.Results
import ScrollCursor.Statement.Calls
import ScrollCursor.Statement.Positioned

/-! # Cursors of statements

A statement works on its open cursor in its calls only. An operation that waits for values was found
to be open to the cursor before, and no call that is answered meanwhile changes that. So whatever
calls are made, the cursor of a statement was reached by calls on a cursor.
-/

namespace ScrollCursor

/-- The open cursor was reached by calls, and what waits on a row of it is open to it. -/
structure Statement.Coherent (t : Statement) : Prop where
  reached : ∀ c, t.cursor = some c → c.Reachable
  waiting : ∀ c p row operation, t.cursor = some c → t.pending = some p →
    p.operation = .setPosition row operation → c.validate row operation .noChange = .ok ()

namespace Statement.Coherent

variable {t t' : Statement}

/-- Nothing but the cursor and what waits is of account. -/
theorem congr (h : t.Coherent) (hcursor : t'.cursor = t.cursor)
    (hpending : t'.pending = t.pending) : t'.Coherent where
  reached := by
    intro c hc
    exact h.reached c (hcursor ▸ hc)
  waiting := by
    intro c p row operation hc hp
    exact h.waiting c p row operation (hcursor ▸ hc) (hpending ▸ hp)

/-- Another cursor takes the place of the open one, and the same operations are open to it. -/
theorem replace {c d : Cursor} (h : t.Coherent) (hc : t.cursor = some c)
    (hd : t'.cursor = some d) (hpending : t'.pending = t.pending) (hreached : d.Reachable)
    (hvalidate : ∀ row operation,
      d.validate row operation .noChange = c.validate row operation .noChange) :
    t'.Coherent where
  reached := by
    intro d' hd'
    cases hd.symm.trans hd'
    exact hreached
  waiting := by
    intro d' p row operation hd' hp hoperation
    cases hd.symm.trans hd'
    rw [hvalidate]
    exact h.waiting c p row operation hc (hpending ▸ hp) hoperation

/-- A statement that waits for nothing is coherent if its cursor is reachable. -/
theorem of_not_pending (hpending : t.pending = none)
    (hreached : ∀ c, t.cursor = some c → c.Reachable) : t.Coherent where
  reached := hreached
  waiting := by
    intro c p row operation _ hp
    simp [hpending] at hp

end Statement.Coherent

/-- A piece that is taken does not change what is waited with. -/
theorem Continuation.operation_put {p p' : Continuation} {column : Nat} {piece : Value}
    (h : p.put column piece = .ok p') : p'.operation = p.operation := by
  unfold put at h
  split at h
  · cases h
    rfl
  · split at h
    · cases h
      rfl
    · cases h

namespace Session

variable {σ α : Type} {s s' : Session σ}

/-! ## What calls are made of -/

/-- A call goes on with nothing pending. -/
theorem coherent_call {f : Session σ → Except Error α × Session σ}
    (h : s.statement.Coherent)
    (hf : ∀ s, s.statement.Coherent → s.statement.pending = none →
      (f s).2.statement.Coherent) : (s.call f).2.statement.Coherent := by
  unfold call
  split
  · exact h
  next hpending =>
    apply hf
    · exact h.congr rfl rfl
    · exact Option.not_isSome_iff_eq_none.mp hpending

/-- A call that is left to the cursor keeps the statement coherent if the cursor does. -/
theorem coherent_withCursor {f : Cursor → Session σ → Except Error α × Session σ}
    (h : s.statement.Coherent)
    (hf : ∀ c, s.statement.cursor = some c → (f c s).2.statement.Coherent) :
    (s.withCursor f).2.statement.Coherent := by
  unfold withCursor
  split
  · exact h
  next c hc => exact hf c hc

/-- A cursor that worked leaves the statement coherent. -/
theorem coherent_afterWork (w : Work σ) (hpending : s.statement.pending = none)
    (hreached : w.cursor.Reachable) : (s.afterWork w).statement.Coherent := by
  refine .of_not_pending hpending ?_
  intro c hc
  cases hc
  exact hreached

/-- A cursor that is made known has its key resolved, which opens and closes no operation to it. -/
theorem coherent_publishCursor (h : s.statement.Coherent) :
    s.publishCursor.statement.Coherent := by
  unfold publishCursor
  split
  · exact h
  next c hc =>
    have hwork := (s.work c).currentTarget_eq_or
    generalize (s.work c).currentTarget = found at hwork ⊢
    obtain ⟨target, w⟩ := found
    rcases hwork with rfl | rfl
    · exact h.replace hc rfl rfl (h.reached c hc) fun _ _ => rfl
    · refine h.replace hc rfl rfl (.keySet _ (h.reached c hc)) ?_
      intro row operation
      unfold Work.keySet
      split <;> rfl

/-- To publish the current row keeps the statement coherent. -/
theorem coherent_publishNamed (h : s.statement.Coherent) :
    s.publishNamed.statement.Coherent := by
  unfold publishNamed
  split
  · exact coherent_publishCursor h
  · exact h

theorem coherent_withName (h : s.statement.Coherent) (names : CursorNames) :
    (s.withName names).statement.Coherent :=
  coherent_publishCursor (h.congr rfl rfl)

/-! ## Positioned operations -/

/-- An operation leads to reachable cursors. -/
theorem reachable_of_performed {c : Cursor} {operation : Operation} {supplied : Supplied}
    {answer : Except Error OperationOutcome × Work σ}
    (h : (match operation with
      | .setPosition row operation => (s.work c).setPosition row operation supplied
      | .bulk operation => (s.work c).bulk operation supplied) = answer)
    (hreached : c.Reachable)
    (hvalid : ∀ row op, operation = .setPosition row op → c.validate row op .noChange = .ok ()) :
    answer.2.cursor.Reachable := by
  subst h
  cases operation with
  | setPosition row op =>
      exact .setPosition _ row op .noChange supplied hreached (hvalid row op rfl)
  | bulk op => exact .bulk _ op supplied hreached

/-- An operation that is open to the cursor is carried out on it. -/
theorem coherent_run (hpending : s.statement.pending = none) (h : s.statement.Coherent)
    (operation : Operation) (supplied : Supplied)
    (hvalid : ∀ c row op, s.statement.cursor = some c → operation = .setPosition row op →
      c.validate row op .noChange = .ok ()) :
    (s.run operation supplied).2.statement.Coherent := by
  apply coherent_withCursor h
  intro c hc
  dsimp only
  split
  next e w hperformed =>
    apply coherent_afterWork w hpending
    exact reachable_of_performed hperformed (h.reached c hc) fun row op => hvalid c row op hc
  next outcome w hperformed =>
    have hworked : (s.afterWork w).statement.Coherent := by
      apply coherent_afterWork w hpending
      exact reachable_of_performed hperformed (h.reached c hc) fun row op => hvalid c row op hc
    apply coherent_publishNamed
    split
    · exact hworked.congr rfl rfl
    · exact hworked

/-- An operation that was found valid may run or wait. -/
theorem coherent_runOrWait (hpending : s.statement.pending = none) (h : s.statement.Coherent)
    (c : Cursor) (operation : Operation)
    (hvalid : ∀ c row op, s.statement.cursor = some c → operation = .setPosition row op →
      c.validate row op .noChange = .ok ()) :
    (s.runOrWait c operation).2.statement.Coherent := by
  unfold runOrWait
  split
  · exact h
  · exact coherent_run hpending h operation [] hvalid
  · constructor
    · intro c' hc'
      exact h.reached c' hc'
    · intro c' p row op hc' hp hoperation
      cases hp
      exact hvalid c' row op hc' hoperation

/-- An operation on the rowset leaves the statement coherent. -/
theorem coherent_setPosition (h : s.statement.Coherent) (row : Nat) (operation : RowOperation)
    (lock : LockType) : (s.setPosition row operation lock).2.statement.Coherent := by
  apply coherent_call h
  intro s h hpending
  apply coherent_withCursor h
  intro c hc
  split
  · exact h
  next hvalid =>
    have hlock := (Cursor.validate_eq_ok_iff.mp hvalid).1
    subst hlock
    apply coherent_runOrWait hpending h
    intro c' row' op hc' hoperation
    cases hoperation
    cases hc.symm.trans hc'
    exact hvalid

theorem coherent_bulkOperation (h : s.statement.Coherent) (operation : BulkOperation) :
    (s.bulkOperation operation).2.statement.Coherent := by
  apply coherent_call h
  intro s h hpending
  apply coherent_withCursor h
  intro c hc
  apply coherent_runOrWait hpending h
  intro c' row op _ hoperation
  cases hoperation

/-- The operation that waited is carried out on the cursor that it was found to be open to. -/
theorem coherent_paramData (h : s.statement.Coherent) : s.paramData.2.statement.Coherent := by
  unfold paramData
  split
  · exact h
  next p hp =>
    split
    · constructor
      · intro c hc
        exact h.reached c hc
      · intro c p' row op hc hp' hoperation
        cases hp'
        exact h.waiting c p row op hc hp hoperation
    · have hrun := coherent_run (s := s.onStatement fun t =>
          { t with pending := none, diagnostics := [] }) rfl
        (.of_not_pending rfl h.reached) p.operation p.supplied
        fun c row op hc hoperation => h.waiting c p row op hc hp hoperation
      dsimp only
      split
      next heq =>
        rw [heq] at hrun
        exact hrun
      next heq =>
        rw [heq] at hrun
        exact hrun

theorem coherent_putData (h : s.statement.Coherent) (piece : Value) :
    (s.putData piece).2.statement.Coherent := by
  unfold putData
  split
  · exact h
  next p hp =>
    split
    · exact h
    · split
      · exact h
      next p' hput =>
        constructor
        · intro c hc
          exact h.reached c hc
        · intro c q row op hc hq hoperation
          cases hq
          rw [Continuation.operation_put hput] at hoperation
          exact h.waiting c p row op hc hp hoperation

/-! ## Other calls -/

/-- Options that are set leave the statement coherent. -/
theorem coherent_setOptions (h : s.statement.Coherent) (options : StatementOptions) :
    (s.setOptions options).2.statement.Coherent := by
  apply coherent_call h
  intro s h hpending
  split
  · exact h
  · split
    · exact h
    next t ht =>
      obtain ⟨-, -, ht⟩ := Results.bind_eq_ok.mp ht
      cases ht
      exact h.congr rfl rfl

theorem coherent_bind (h : s.statement.Coherent) (f : Bindings → Bindings) :
    (s.bind f).2.statement.Coherent := by
  apply coherent_call h
  intro s h hpending
  exact h.congr rfl rfl

theorem coherent_executePositioned (h : s.statement.Coherent) (text : Sql.StatementText)
    (clause : Sql.PositionedClause) (params : List Value) :
    (s.executePositioned text clause params).2.statement.Coherent := by
  unfold executePositioned
  dsimp only
  split
  · exact h
  · split
    · exact h.congr rfl rfl
    · dsimp only [warn]
      repeat' split
      all_goals exact h.congr rfl rfl

/-- A query opens a reachable cursor. -/
theorem coherent_executeQuery (hpending : s.statement.pending = none)
    (h : s.statement.Coherent) (request : Request) :
    (s.executeQuery request).2.statement.Coherent := by
  unfold executeQuery
  split
  · exact h.congr rfl rfl
  · refine .of_not_pending hpending ?_
    intro c hc
    cases hc
    exact .opened _ _ _ _

/-- To execute a text leaves the statement coherent. -/
theorem coherent_execute (h : s.statement.Coherent) (sql : String) (params : List Value) :
    (s.execute sql params).2.statement.Coherent := by
  apply coherent_call h
  intro s h hpending
  have hcounted : (s.onStatement fun t => { t with rowCount := none }).statement.Coherent :=
    h.congr rfl rfl
  split
  · exact h
  · dsimp only
    split
    · exact coherent_executePositioned hcounted _ _ _
    · split
      · exact coherent_executeQuery (s := s.onStatement fun t => { t with rowCount := none })
          hpending hcounted _
      · unfold executeUpdate
        split <;> exact h.congr rfl rfl

/-- A fetch leaves the statement coherent. -/
theorem coherent_fetch (h : s.statement.Coherent) (orientation : Orientation) :
    (s.fetch orientation).2.statement.Coherent := by
  apply coherent_call h
  intro s h hpending
  apply coherent_withCursor h
  intro c hc
  have hreached := Cursor.Reachable.fetch (s.work c) orientation (h.reached c hc)
  split
  next e w heq =>
    rw [heq] at hreached
    exact coherent_afterWork w hpending hreached
  next outcome w heq =>
    rw [heq] at hreached
    have hworked : (s.afterWork w).statement.Coherent := coherent_afterWork w hpending hreached
    apply coherent_publishNamed
    split
    · exact hworked.congr rfl rfl
    · exact hworked

theorem coherent_getBookmark (h : s.statement.Coherent) (row : Nat) :
    (s.getBookmark row).2.statement.Coherent := by
  apply coherent_call h
  intro s h hpending
  apply coherent_withCursor h
  intro c hc
  repeat' split
  all_goals exact h

/-- What waits goes with the cursor. -/
theorem coherent_closeCursor (h : s.statement.Coherent) :
    s.closeCursor.2.statement.Coherent := by
  have hdropped : (s.onStatement fun t =>
      { t with pending := none, diagnostics := [] }).statement.Coherent :=
    .of_not_pending rfl h.reached
  apply coherent_withCursor hdropped
  intro c hc
  dsimp only
  split <;> exact .of_not_pending rfl (by simp [onStatement])

theorem coherent_setCursorName (h : s.statement.Coherent) (name : String) :
    (s.setCursorName name).2.statement.Coherent := by
  apply coherent_call h
  intro s h hpending
  dsimp only
  split
  · exact h
  · exact coherent_withName h _

theorem coherent_cursorName (h : s.statement.Coherent) : s.cursorName.2.statement.Coherent := by
  unfold cursorName
  split
  · exact h
  · exact coherent_withName h _

/-! ## Runs -/

/-- A call on a statement, or whatever happens to its connection and the server between calls. -/
inductive Step : Session σ → Session σ → Prop
  | setOptions (s : Session σ) (options : StatementOptions) : Step s (s.setOptions options).2
  | bind (s : Session σ) (f : Bindings → Bindings) : Step s (s.bind f).2
  | execute (s : Session σ) (sql : String) (params : List Value) : Step s (s.execute sql params).2
  | fetch (s : Session σ) (orientation : Orientation) : Step s (s.fetch orientation).2
  | getBookmark (s : Session σ) (row : Nat) : Step s (s.getBookmark row).2
  | setPosition (s : Session σ) (row : Nat) (operation : RowOperation) (lock : LockType) :
      Step s (s.setPosition row operation lock).2
  | bulkOperation (s : Session σ) (operation : BulkOperation) : Step s (s.bulkOperation operation).2
  | paramData (s : Session σ) : Step s s.paramData.2
  | putData (s : Session σ) (piece : Value) : Step s (s.putData piece).2
  | closeCursor (s : Session σ) : Step s s.closeCursor.2
  | setCursorName (s : Session σ) (name : String) : Step s (s.setCursorName name).2
  | cursorName (s : Session σ) : Step s s.cursorName.2
  | elsewhere (s : Session σ) (names : CursorNames) (link : Link σ) :
      Step s { s with names := names, link := link }

abbrev Steps : Session σ → Session σ → Prop :=
  Relation.ReflTransGen Step

/-- Every call leaves the statement coherent. -/
theorem Step.coherent (hstep : Step s s') (h : s.statement.Coherent) :
    s'.statement.Coherent := by
  cases hstep with
  | setOptions options => exact coherent_setOptions h options
  | bind f => exact coherent_bind h f
  | execute sql params => exact coherent_execute h sql params
  | fetch orientation => exact coherent_fetch h orientation
  | getBookmark row => exact coherent_getBookmark h row
  | setPosition row operation lock => exact coherent_setPosition h row operation lock
  | bulkOperation operation => exact coherent_bulkOperation h operation
  | paramData => exact coherent_paramData h
  | putData piece => exact coherent_putData h piece
  | closeCursor => exact coherent_closeCursor h
  | setCursorName name => exact coherent_setCursorName h name
  | cursorName => exact coherent_cursorName h
  | elsewhere names link => exact h

/-- Any number of calls leave the statement coherent. -/
theorem Steps.coherent (hsteps : Steps s s') (h : s.statement.Coherent) :
    s'.statement.Coherent := by
  induction hsteps with
  | refl => exact h
  | tail _ hstep ih => exact hstep.coherent ih

/-- Whatever calls are made on a statement that begins without a cursor, its cursor was reached by
calls on a cursor. -/
theorem reachable_of_steps (hsteps : Steps s s') (hcursor : s.statement.cursor = none)
    {c : Cursor} (hc : s'.statement.cursor = some c) : c.Reachable := by
  have hbegin : s.statement.Coherent := by
    constructor
    · intro c hopen
      rw [hcursor] at hopen
      cases hopen
    · intro c p row operation hopen
      rw [hcursor] at hopen
      cases hopen
  exact (Steps.coherent hsteps hbegin).reached c hc

end Session

end ScrollCursor
