import ScrollCursor.Proofs.Statement.Operations
import ScrollCursor.Proofs.Statement.Publishing

/-! # Calls while a cursor is open

A statement with an open cursor takes no other options and executes nothing. What is left are calls
that the cursor has no part in, calls on the cursor, and making known where it stands, by itself or
under a new name. A property that these keep is kept by every call until the cursor is closed.
-/

namespace ScrollCursor

namespace Session

variable {σ α : Type} {s s' : Session σ} {Q : Session σ → Prop}

/-- The cursor, the names and the link have no part in the call. -/
structure Aside (s s' : Session σ) : Prop extends Untouched s s' where
  link : s'.link = s.link

/-- A property of statements with an open cursor is kept by what calls are made of. -/
structure KeptWhileOpen (Q : Session σ → Prop) : Prop where
  isOpen : ∀ {s}, Q s → ∃ c, s.statement.cursor = some c
  aside : ∀ {s s'}, Q s → Aside s s' → Q s'
  work : ∀ {s c} call, Q s → s.statement.cursor = some c →
    Q (s.afterWork ((s.work c).call call))
  publish : ∀ {s}, Q s → Q s.publishCursor
  name : ∀ {s} names, Q s → Q (s.withName names)

namespace KeptWhileOpen

theorem call (h : KeptWhileOpen Q) (hs : Q s) {f : Session σ → Except Error α × Session σ}
    (hf : ∀ s, Q s → Q (f s).2) : Q (s.call f).2 := by
  unfold Session.call
  split
  · exact hs
  · exact hf _ (h.aside hs ⟨⟨rfl, rfl, rfl, rfl, rfl⟩, rfl⟩)

theorem withCursor (hs : Q s) {f : Cursor → Session σ → Except Error α × Session σ}
    (hf : ∀ c, s.statement.cursor = some c → Q (f c s).2) : Q (s.withCursor f).2 := by
  unfold Session.withCursor
  split
  · exact hs
  next c hc => exact hf c hc

theorem publishNamed (h : KeptWhileOpen Q) (hs : Q s) : Q s.publishNamed := by
  unfold Session.publishNamed
  split
  · exact h.publish hs
  · exact hs

theorem run (h : KeptWhileOpen Q) (hs : Q s) (operation : Operation) (supplied : Supplied) :
    Q (s.run operation supplied).2 := by
  obtain ⟨c, hc⟩ := h.isOpen hs
  have hworked : Q (s.afterWork ((s.work c).operate supplied operation).2) := by
    cases operation with
    | setPosition row operation =>
        exact h.work (.operation (.setPosition row operation) supplied) hs hc
    | bulk operation => exact h.work (.operation (.bulk operation) supplied) hs hc
  rw [run_eq hc]
  generalize (s.work c).operate supplied operation = answer at hworked ⊢
  obtain ⟨_ | outcome, w⟩ := answer
  · exact hworked
  · refine h.publishNamed ?_
    split
    · exact h.aside hworked ⟨⟨rfl, rfl, rfl, rfl, rfl⟩, rfl⟩
    · exact hworked

theorem runOrWait (h : KeptWhileOpen Q) (hs : Q s) (c : Cursor) (operation : Operation) :
    Q (s.runOrWait c operation).2 := by
  unfold Session.runOrWait
  split
  · exact hs
  · exact h.run hs operation []
  · exact h.aside hs ⟨⟨rfl, rfl, rfl, rfl, rfl⟩, rfl⟩

theorem setPosition (h : KeptWhileOpen Q) (hs : Q s) (row : Nat) (operation : RowOperation)
    (lock : LockType) : Q (s.setPosition row operation lock).2 := by
  refine h.call hs fun s hs => withCursor hs fun c _ => ?_
  split
  · exact hs
  · exact h.runOrWait hs c _

theorem bulkOperation (h : KeptWhileOpen Q) (hs : Q s) (operation : BulkOperation) :
    Q (s.bulkOperation operation).2 :=
  h.call hs fun _ hs => withCursor hs fun c _ => h.runOrWait hs c _

theorem paramData (h : KeptWhileOpen Q) (hs : Q s) : Q s.paramData.2 := by
  unfold Session.paramData
  split
  · exact hs
  next p _ =>
    split
    · exact h.aside hs ⟨⟨rfl, rfl, rfl, rfl, rfl⟩, rfl⟩
    · -- All values are there, so the operation that waited for them is run.
      have hresumed : Q (s.onStatement fun t => { t with pending := none, diagnostics := [] }) :=
        h.aside hs ⟨⟨rfl, rfl, rfl, rfl, rfl⟩, rfl⟩
      have hrun := h.run hresumed p.operation p.supplied
      dsimp only
      split
      next heq =>
        rw [heq] at hrun
        exact hrun
      next heq =>
        rw [heq] at hrun
        exact hrun

theorem putData (h : KeptWhileOpen Q) (hs : Q s) (piece : Value) : Q (s.putData piece).2 := by
  unfold Session.putData
  repeat' split
  · exact hs
  · exact hs
  · exact hs
  · exact h.aside hs ⟨⟨rfl, rfl, rfl, rfl, rfl⟩, rfl⟩

theorem bind (h : KeptWhileOpen Q) (hs : Q s) (f : Bindings → Bindings) : Q (s.bind f).2 :=
  h.call hs fun _ hs => h.aside hs ⟨⟨rfl, rfl, rfl, rfl, rfl⟩, rfl⟩

theorem fetch (h : KeptWhileOpen Q) (hs : Q s) (orientation : Orientation) :
    Q (s.fetch orientation).2 := by
  refine h.call hs fun s hs => withCursor hs fun c hc => ?_
  have hworked : Q (s.afterWork ((s.work c).fetch orientation).2) :=
    h.work (.fetch orientation) hs hc
  generalize (s.work c).fetch orientation = answer at hworked ⊢
  obtain ⟨_ | outcome, w⟩ := answer
  · exact hworked
  · refine h.publishNamed ?_
    split
    · exact h.aside hworked ⟨⟨rfl, rfl, rfl, rfl, rfl⟩, rfl⟩
    · exact hworked

theorem getBookmark (h : KeptWhileOpen Q) (hs : Q s) (row : Nat) : Q (s.getBookmark row).2 := by
  refine h.call hs fun s hs => withCursor hs fun c _ => ?_
  repeat' split
  all_goals exact hs

/-- Other options and other statements are refused. -/
theorem refused (h : KeptWhileOpen Q) (hs : Q s) {e : Error}
    {f : Session σ → Except Error α × Session σ} :
    Q (s.call fun s => if s.statement.cursor.isSome then (.error e, s) else f s).2 := by
  refine h.call hs fun s hs => ?_
  obtain ⟨c, hc⟩ := h.isOpen hs
  rw [hc, Option.isSome_some, if_pos rfl]
  exact hs

theorem setOptions (h : KeptWhileOpen Q) (hs : Q s) (options : StatementOptions) :
    Q (s.setOptions options).2 := by
  unfold Session.setOptions
  exact h.refused hs

theorem execute (h : KeptWhileOpen Q) (hs : Q s) (sql : String) (params : List Value) :
    Q (s.execute sql params).2 := by
  unfold Session.execute
  exact h.refused hs

theorem setCursorName (h : KeptWhileOpen Q) (hs : Q s) (name : String) :
    Q (s.setCursorName name).2 := by
  refine h.call hs fun s hs => ?_
  dsimp only
  split
  · exact hs
  · exact h.name _ hs

theorem cursorName (h : KeptWhileOpen Q) (hs : Q s) : Q s.cursorName.2 := by
  unfold Session.cursorName
  split
  · exact hs
  · exact h.name _ hs

/-- What calls are made of keeps the property until the cursor is closed. -/
theorem perform (h : KeptWhileOpen Q) (hs : Q s) {call : StatementCall}
    (hcall : call ≠ .closeCursor) : Q (s.perform call).2 := by
  cases call with
  | setOptions options => exact h.setOptions hs options
  | bindColumn ordinal values => exact h.bind hs _
  | bindBookmarks bookmarks => exact h.bind hs _
  | unbindAll => exact h.bind hs _
  | execute sql params => exact h.execute hs sql params
  | fetch orientation => exact h.fetch hs orientation
  | getBookmark row => exact h.getBookmark hs row
  | setPosition row operation lock => exact h.setPosition hs row operation lock
  | bulkOperation operation => exact h.bulkOperation hs operation
  | paramData => exact h.paramData hs
  | putData piece => exact h.putData hs piece
  | closeCursor => exact absurd rfl hcall
  | setCursorName name => exact h.setCursorName hs name
  | cursorName => exact h.cursorName hs

end KeptWhileOpen

end Session

end ScrollCursor
