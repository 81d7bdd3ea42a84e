import ScrollCursor.Proofs.Cursor.CurrentRow
import ScrollCursor.Proofs.Statement.CursorNames
import ScrollCursor.Proofs.Statement.OpenCursors
import ScrollCursor.Statement.Call

/-! # What a connection knows of a statement

With the name of a statement the connection keeps where its cursor stands. Every call that can move
a static cursor, change its rows or close it brings that up to date, and a call that fails leaves it
right.
-/

namespace ScrollCursor

/-- The connection knows a name of the statement just if it has taken one, and what it knows with
the name is right: nothing while no cursor is open, and else where a static cursor stands. -/
structure Statement.InSync (config : Config) (names : CursorNames) (t : Statement) : Prop where
  named : t.named = (names.ofStatement? t.id).isSome
  dialect : ∀ c, t.cursor = some c → c.dialect = .ofConfig config
  closed : t.cursor = none → ∀ e, names.ofStatement? t.id = some e → e.target = none
  current : ∀ c e, t.cursor = some c → c.kind = .static → names.ofStatement? t.id = some e →
    c.Published e.target

namespace Session

variable {σ α : Type} {s s' : Session σ} {c d : Cursor}

abbrev InSync (s : Session σ) : Prop :=
  s.statement.InSync s.config s.names

/-- What holds of a statement between calls. -/
structure Sound (s : Session σ) : Prop where
  lawful : s.names.Lawful
  coherent : s.statement.Coherent
  inSync : s.InSync

/-- A call is about one statement of a connection: the others keep their names, and what the
connection knows of this one is right afterwards. -/
structure Keeps (s s' : Session σ) : Prop where
  id : s'.statement.id = s.statement.id
  config : s'.config = s.config
  names : CursorNames.Adjusts s.statement.id s.names s'.names
  inSync : s.Sound → s'.InSync

/-! ## What calls are made of -/

/-- Neither the cursor nor the name of the statement is touched. -/
structure Untouched (s s' : Session σ) : Prop where
  id : s'.statement.id = s.statement.id
  named : s'.statement.named = s.statement.named
  cursor : s'.statement.cursor = s.statement.cursor
  config : s'.config = s.config
  names : s'.names = s.names

/-- Where cursor and name are not touched, what is known stays right. -/
theorem Untouched.keeps (h : Untouched s s') : Keeps s s' where
  id := h.id
  config := h.config
  names := by
    rw [h.names]
    exact .refl _ _
  inSync := by
    intro hs
    unfold InSync
    obtain ⟨hnamed, hdialect, hclosed, hcurrent⟩ := hs.inSync
    constructor
    · rw [h.named, h.names, h.id, hnamed]
    · intro c hc
      rw [h.config]
      exact hdialect c (h.cursor ▸ hc)
    · rw [h.cursor, h.names, h.id]
      exact hclosed
    · rw [h.cursor, h.names, h.id]
      exact hcurrent

/-- A call may begin with what touches neither. -/
theorem Untouched.append {t : Session σ} (h : Untouched s t)
    (hcoherent : s.statement.Coherent → t.statement.Coherent) (hkeeps : Keeps t s') :
    Keeps s s' where
  id := hkeeps.id.trans h.id
  config := hkeeps.config.trans h.config
  names := by
    have hnames := hkeeps.names
    rwa [h.id, h.names] at hnames
  inSync := by
    intro hs
    apply hkeeps.inSync
    refine ⟨?_, hcoherent hs.coherent, h.keeps.inSync hs⟩
    rw [h.names]
    exact hs.lawful

theorem Keeps.refl (s : Session σ) : Keeps s s :=
  Untouched.keeps ⟨rfl, rfl, rfl, rfl, rfl⟩

/-- A call keeps what it does once it may begin. -/
theorem keeps_call {f : Session σ → Except Error α × Session σ}
    (hf : ∀ s : Session σ, s.statement.pending = none → Keeps s (f s).2) :
    Keeps s (s.call f).2 := by
  unfold call
  split
  · exact .refl s
  next hpending =>
    have hcleared : Untouched s (s.onStatement fun t => { t with diagnostics := [] }) :=
      ⟨rfl, rfl, rfl, rfl, rfl⟩
    refine hcleared.append (fun h => h.congr rfl rfl) ?_
    exact hf _ (Option.not_isSome_iff_eq_none.mp hpending)

/-- A call keeps what it does with the cursor. -/
theorem keeps_withCursor {f : Cursor → Session σ → Except Error α × Session σ}
    (hf : ∀ c, s.statement.cursor = some c → Keeps s (f c s).2) :
    Keeps s (s.withCursor f).2 := by
  unfold withCursor
  split
  · exact .refl s
  next c hc => exact hf c hc

/-- The cursor of a call that failed. -/
theorem keeps_afterWork {w : Work σ} (hc : s.statement.cursor = some c)
    (hdialect : w.cursor.dialect = c.dialect) (hkind : w.cursor.kind = c.kind)
    (hpublished : s.Sound → c.kind = .static → ∀ target, c.Published target →
      w.cursor.Published target) : Keeps s (s.afterWork w) where
  id := rfl
  config := rfl
  names := .refl _ _
  inSync := by
    intro hs
    constructor
    · exact hs.inSync.named
    · intro d hd
      cases hd
      exact hdialect.trans (hs.inSync.dialect c hc)
    · intro hclosed
      cases hclosed
    · intro d e hd hstatic he
      cases hd
      rw [hkind] at hstatic
      exact hpublished hs hstatic _ (hs.inSync.current c e hc hstatic he)

/-- Making known where the cursor stands is right whatever was known before. -/
theorem keeps_publishCursor {t : Session σ} (hid : t.statement.id = s.statement.id)
    (hconfig : t.config = s.config)
    (hnames : CursorNames.Adjusts s.statement.id s.names t.names)
    (hcursor : t.statement.cursor = some d)
    (hdialect : s.Sound → d.dialect = .ofConfig s.config)
    (hnamed : s.Sound → t.statement.named = (t.names.ofStatement? s.statement.id).isSome) :
    Keeps s t.publishCursor := by
  have hpublished := (t.work d).published_currentTarget
  have hframe : (t.work d).currentTarget.2.cursor.dialect = d.dialect :=
    (t.work d).currentTarget_changes.sameFrame.2.1
  unfold publishCursor
  rw [hcursor]
  dsimp only
  generalize (t.work d).currentTarget = found at hpublished hframe ⊢
  obtain ⟨target, w⟩ := found
  dsimp only at hpublished hframe ⊢
  have hentry : (t.names.publish t.statement.id target).ofStatement? t.statement.id =
      (t.names.ofStatement? t.statement.id).map fun e => { e with target := target } :=
    CursorNames.ofStatement?_publish _ _ _
  refine ⟨hid, hconfig, ?_, fun hs => ?_⟩
  · have hpublish := t.names.adjusts_publish t.statement.id target
    exact hnames.trans (hid ▸ hpublish)
  · constructor
    · change t.statement.named = ((t.names.publish t.statement.id target).ofStatement?
        t.statement.id).isSome
      rw [hentry, Option.isSome_map, hid]
      exact hnamed hs
    · intro c hc
      cases hc
      change _ = Dialect.ofConfig t.config
      rw [hframe, hconfig]
      exact hdialect hs
    · intro hclosed
      cases hclosed
    · intro c e hc _ he
      cases hc
      change (t.names.publish t.statement.id target).ofStatement? t.statement.id = some e at he
      rw [hentry] at he
      obtain ⟨e', -, rfl⟩ := Option.map_eq_some_iff.mp he
      exact hpublished

/-- A statement without a name has nothing to make known. -/
theorem keeps_publishNamed {t : Session σ} (hid : t.statement.id = s.statement.id)
    (hconfig : t.config = s.config) (hnames : t.names = s.names)
    (hnamed : t.statement.named = s.statement.named) (hcursor : t.statement.cursor = some d)
    (hdialect : s.Sound → d.dialect = .ofConfig s.config) : Keeps s t.publishNamed := by
  have hadjusts : CursorNames.Adjusts s.statement.id s.names t.names := by
    rw [hnames]
    exact .refl _ _
  unfold publishNamed
  split
  · refine keeps_publishCursor hid hconfig hadjusts hcursor hdialect fun hs => ?_
    rw [hnamed, hnames, hs.inSync.named]
  next hunnamed =>
    rw [Bool.not_eq_true] at hunnamed
    refine ⟨hid, hconfig, hadjusts, fun hs => ?_⟩
    have hnone : t.names.ofStatement? t.statement.id = none := by
      have hsome := hs.inSync.named
      rw [← hnamed, hunnamed, ← hnames, ← hid] at hsome
      exact Option.isNone_iff_eq_none.mp (by simpa using hsome.symm)
    constructor
    · rw [hnone]
      exact hunnamed
    · intro c hc
      cases hcursor.symm.trans hc
      rw [hconfig]
      exact hdialect hs
    · intro hclosed
      cases hcursor.symm.trans hclosed
    · intro c e _ _ he
      rw [hnone] at he
      cases he

/-- The statement has taken a name, with which nothing else is known than before. -/
theorem keeps_withName {names : CursorNames}
    (hnames : CursorNames.Adjusts s.statement.id s.names names)
    (hentry : s.names.Lawful → ∃ e, names.ofStatement? s.statement.id = some e ∧
      e.target = (s.names.ofStatement? s.statement.id).bind NamedCursor.target) :
    Keeps s (s.withName names) := by
  cases hcursor : s.statement.cursor with
  | some c =>
      refine keeps_publishCursor rfl rfl hnames hcursor (fun hs => hs.inSync.dialect c hcursor) ?_
      intro hs
      obtain ⟨e, he, -⟩ := hentry hs.lawful
      change true = (names.ofStatement? s.statement.id).isSome
      rw [he]
      rfl
  | none =>
      have hunpublished : s.withName names =
          { s with names := names }.onStatement fun t => { t with named := true } := by
        unfold withName publishCursor
        dsimp only [onStatement]
        rw [hcursor]
      rw [hunpublished]
      refine ⟨rfl, rfl, hnames, fun hs => ?_⟩
      obtain ⟨e, he, htarget⟩ := hentry hs.lawful
      constructor
      · change true = (names.ofStatement? s.statement.id).isSome
        rw [he]
        rfl
      · intro c hc
        cases hcursor.symm.trans hc
      · intro _ e' he'
        change names.ofStatement? s.statement.id = some e' at he'
        cases he.symm.trans he'
        rw [htarget, Option.bind_eq_none_iff]
        exact hs.inSync.closed hcursor
      · intro c _ hc
        cases hcursor.symm.trans hc

/-! ## Positioned operations -/

/-- An operation that is refused leaves right what was known of the current row. -/
theorem published_of_run_error {w : Work σ} {operation : Operation} {supplied : Supplied}
    {e : Error}
    (h : (match operation with
      | .setPosition row operation => (s.work c).setPosition row operation supplied
      | .bulk operation => (s.work c).bulk operation supplied) = (.error e, w))
    (hkind : c.kind = .static) {target : PublishedTarget} (hpublished : c.Published target) :
    w.cursor.Published target := by
  have hat : w = s.work c ∨ w = (s.work c).keySet.2 := by
    cases operation with
    | setPosition row operation => exact Work.setPosition_error hkind h
    | bulk operation => exact Work.bulk_error h
  rcases hat with rfl | rfl
  · exact hpublished
  · exact Work.published_keySet hpublished

/-- An operation leaves the cursor its kind, its columns and its options. -/
theorem sameFrame_of_run {operation : Operation} {supplied : Supplied}
    {answer : Except Error OperationOutcome × Work σ}
    (h : (match operation with
      | .setPosition row operation => (s.work c).setPosition row operation supplied
      | .bulk operation => (s.work c).bulk operation supplied) = answer) :
    Cursor.SameFrame c answer.2.cursor := by
  subst h
  cases operation with
  | setPosition row operation =>
      exact ((s.work c).setPosition_changes row operation supplied).sameFrame
  | bulk operation => exact ((s.work c).bulk_changes operation supplied).sameFrame

/-- An operation that runs publishes the row where it ends. -/
theorem keeps_run (s : Session σ) (operation : Operation) (supplied : Supplied) :
    Keeps s (s.run operation supplied).2 := by
  apply keeps_withCursor
  intro c hc
  dsimp only
  split
  next e w hrun =>
    obtain ⟨hkind, hdialect, -, -⟩ := sameFrame_of_run hrun
    refine keeps_afterWork hc hdialect hkind fun _ hstatic target => ?_
    exact published_of_run_error hrun hstatic
  next outcome w hrun =>
    obtain ⟨-, hdialect, -, -⟩ := sameFrame_of_run hrun
    have hdialect' : s.Sound → w.cursor.dialect = .ofConfig s.config := fun hs =>
      hdialect.trans (hs.inSync.dialect c hc)
    split
    · exact keeps_publishNamed rfl rfl rfl rfl rfl hdialect'
    · exact keeps_publishNamed rfl rfl rfl rfl rfl hdialect'

/-- An operation that waits publishes nothing, and nothing has changed. -/
theorem keeps_runOrWait (s : Session σ) (c : Cursor) (operation : Operation) :
    Keeps s (s.runOrWait c operation).2 := by
  unfold runOrWait
  split
  · exact .refl s
  · exact keeps_run s operation []
  · exact Untouched.keeps ⟨rfl, rfl, rfl, rfl, rfl⟩

/-- After an operation on the rowset what is known is right. -/
theorem keeps_setPosition (s : Session σ) (row : Nat) (operation : RowOperation)
    (lock : LockType) : Keeps s (s.setPosition row operation lock).2 := by
  apply keeps_call
  intro s hpending
  apply keeps_withCursor
  intro c hc
  split
  · exact .refl s
  · exact keeps_runOrWait s c _

/-- After an operation on bound arrays what is known is right. -/
theorem keeps_bulkOperation (s : Session σ) (operation : BulkOperation) :
    Keeps s (s.bulkOperation operation).2 := by
  apply keeps_call
  intro s hpending
  apply keeps_withCursor
  intro c hc
  exact keeps_runOrWait s c _

/-- What is known is right when values are asked for, and when the last of them is in. -/
theorem keeps_paramData (s : Session σ) : Keeps s s.paramData.2 := by
  unfold paramData
  split
  · exact .refl s
  next p hp =>
    split
    · exact Untouched.keeps ⟨rfl, rfl, rfl, rfl, rfl⟩
    · have hresumed : Untouched s
          (s.onStatement fun t => { t with pending := none, diagnostics := [] }) :=
        ⟨rfl, rfl, rfl, rfl, rfl⟩
      have hkeeps := hresumed.append (fun h => .of_not_pending rfl h.reached)
        (keeps_run _ p.operation p.supplied)
      dsimp only
      split
      next heq =>
        rw [heq] at hkeeps
        exact hkeeps
      next heq =>
        rw [heq] at hkeeps
        exact hkeeps

theorem keeps_putData (s : Session σ) (piece : Value) : Keeps s (s.putData piece).2 := by
  unfold putData
  repeat' split
  · exact .refl s
  · exact .refl s
  · exact .refl s
  · exact Untouched.keeps ⟨rfl, rfl, rfl, rfl, rfl⟩

/-! ## Other calls -/

theorem keeps_setOptions (s : Session σ) (options : StatementOptions) :
    Keeps s (s.setOptions options).2 := by
  apply keeps_call
  intro s hpending
  split
  · exact .refl s
  · split
    · exact .refl s
    next t ht =>
      obtain ⟨-, -, ht⟩ := Results.bind_eq_ok.mp ht
      cases ht
      exact Untouched.keeps ⟨rfl, rfl, rfl, rfl, rfl⟩

theorem keeps_bind (s : Session σ) (f : Bindings → Bindings) : Keeps s (s.bind f).2 := by
  apply keeps_call
  intro s hpending
  exact Untouched.keeps ⟨rfl, rfl, rfl, rfl, rfl⟩

/-- A positioned statement opens no cursor and takes no name. -/
theorem untouched_executePositioned (s : Session σ) (text : Sql.StatementText)
    (clause : Sql.PositionedClause) (params : List Value) :
    Untouched s (s.executePositioned text clause params).2 := by
  unfold executePositioned
  dsimp only
  split
  · exact ⟨rfl, rfl, rfl, rfl, rfl⟩
  · split
    · exact ⟨rfl, rfl, rfl, rfl, rfl⟩
    · dsimp only [warn]
      repeat' split
      all_goals exact ⟨rfl, rfl, rfl, rfl, rfl⟩

/-- A statement that is not a query opens no cursor and takes no name. -/
theorem untouched_executeUpdate (s : Session σ) (request : Request) :
    Untouched s (s.executeUpdate request).2 := by
  unfold executeUpdate
  split <;> exact ⟨rfl, rfl, rfl, rfl, rfl⟩

/-- A cursor that has just been opened has no current row, and no row was known before. -/
theorem keeps_executeQuery (hclosed : s.statement.cursor = none) (request : Request) :
    Keeps s (s.executeQuery request).2 := by
  unfold executeQuery
  split
  · exact Untouched.keeps ⟨rfl, rfl, rfl, rfl, rfl⟩
  · refine ⟨rfl, rfl, .refl _ _, fun hs => ?_⟩
    constructor
    · exact hs.inSync.named
    · intro c hc
      cases hc
      rfl
    · intro hnone
      cases hnone
    · intro c e hc _ he
      cases hc
      rw [hs.inSync.closed hclosed e he]
      exact .nowhere rfl

/-- After a text is executed what is known is right. -/
theorem keeps_execute (s : Session σ) (sql : String) (params : List Value) :
    Keeps s (s.execute sql params).2 := by
  apply keeps_call
  intro s hpending
  split
  · exact .refl s
  next hclosed =>
    have hnone : s.statement.cursor = none := Option.not_isSome_iff_eq_none.mp hclosed
    have hbegun : Untouched s (s.onStatement fun t => { t with rowCount := none }) :=
      ⟨rfl, rfl, rfl, rfl, rfl⟩
    dsimp only
    refine hbegun.append (fun h => h.congr rfl rfl) ?_
    split
    · exact (untouched_executePositioned _ _ _ _).keeps
    · split
      · exact keeps_executeQuery (s := s.onStatement fun t => { t with rowCount := none }) hnone _
      · exact (untouched_executeUpdate _ _).keeps

/-- After a fetch what is known is right. -/
theorem keeps_fetch (s : Session σ) (orientation : Orientation) :
    Keeps s (s.fetch orientation).2 := by
  apply keeps_call
  intro s hpending
  apply keeps_withCursor
  intro c hc
  obtain ⟨hkind, hdialect, -, -⟩ := ((s.work c).fetch_changes orientation).sameFrame
  split
  next e w hfetch =>
    rw [hfetch] at hkind hdialect
    refine keeps_afterWork hc hdialect hkind fun hs hstatic target => ?_
    have hscrolls : c.kind.isScrollable = true := by
      rw [hstatic]
      rfl
    exact Work.fetch_error_published hstatic ((hs.coherent.reached c hc).resident hscrolls) hfetch
  next outcome w hfetch =>
    rw [hfetch] at hdialect
    have hdialect' : s.Sound → w.cursor.dialect = .ofConfig s.config := fun hs =>
      hdialect.trans (hs.inSync.dialect c hc)
    dsimp only
    split
    · exact keeps_publishNamed rfl rfl rfl rfl rfl hdialect'
    · exact keeps_publishNamed rfl rfl rfl rfl rfl hdialect'

theorem keeps_getBookmark (s : Session σ) (row : Nat) : Keeps s (s.getBookmark row).2 := by
  apply keeps_call
  intro s hpending
  apply keeps_withCursor
  intro c hc
  repeat' split
  all_goals exact .refl s

/-- Where a closed cursor stood is forgotten. -/
theorem keeps_closeCursor (s : Session σ) : Keeps s s.closeCursor.2 := by
  have hdropped :
      Untouched s (s.onStatement fun t => { t with pending := none, diagnostics := [] }) :=
    ⟨rfl, rfl, rfl, rfl, rfl⟩
  refine hdropped.append (fun h => .of_not_pending rfl h.reached) ?_
  apply keeps_withCursor
  intro c hc
  generalize (s.onStatement fun t => { t with pending := none, diagnostics := [] }) = s
  dsimp only
  split
  next hnamed =>
    have hentry := CursorNames.ofStatement?_publish s.names s.statement.id none
    refine ⟨rfl, rfl, s.names.adjusts_publish _ none, fun hs => ?_⟩
    constructor
    · change s.statement.named = ((s.names.publish s.statement.id none).ofStatement?
        s.statement.id).isSome
      rw [hentry, Option.isSome_map]
      exact hs.inSync.named
    · intro c hc
      cases hc
    · intro _ e he
      change (s.names.publish s.statement.id none).ofStatement? s.statement.id = some e at he
      rw [hentry] at he
      obtain ⟨e', -, rfl⟩ := Option.map_eq_some_iff.mp he
      rfl
    · intro c _ hc
      cases hc
  next hunnamed =>
    refine ⟨rfl, rfl, .refl _ _, fun hs => ?_⟩
    constructor
    · exact hs.inSync.named
    · intro c hc
      cases hc
    · intro _ e he
      have hsome := hs.inSync.named
      change s.names.ofStatement? s.statement.id = some e at he
      rw [he] at hsome
      exact absurd hsome hunnamed
    · intro c _ hc
      cases hc

/-- After a name is set what is known under it is right. -/
theorem keeps_setCursorName (s : Session σ) (name : String) :
    Keeps s (s.setCursorName name).2 := by
  apply keeps_call
  intro s hpending
  dsimp only
  split
  · exact .refl s
  next names hnames =>
    obtain ⟨-, -, hregistered⟩ := Results.bind_eq_ok.mp hnames
    rcases CursorNames.register_eq_ok hregistered with ⟨rfl, hsome⟩ | ⟨rfl, hfree⟩
    · obtain ⟨e, he⟩ := Option.isSome_iff_exists.mp hsome
      refine keeps_withName (.refl _ _) fun _ => ⟨e, he, ?_⟩
      rw [he]
      rfl
    · exact keeps_withName (CursorNames.adjusts_take hfree _) fun hlawful =>
        ⟨_, CursorNames.ofStatement?_take hlawful _ _, rfl⟩

/-- After a name is asked for what is known under it is right. -/
theorem keeps_cursorName (s : Session σ) : Keeps s s.cursorName.2 := by
  unfold cursorName
  split
  · exact .refl s
  · exact keeps_withName (s.names.adjusts_generate _) fun hlawful =>
      ⟨_, CursorNames.ofStatement?_generate hlawful _, rfl⟩

/-- Whatever is called on a statement, what its connection knows of it is right afterwards. -/
theorem keeps_perform (s : Session σ) (call : StatementCall) : Keeps s (s.perform call).2 := by
  cases call with
  | setOptions options => exact keeps_setOptions s options
  | bindColumn ordinal values => exact keeps_bind s _
  | bindBookmarks bookmarks => exact keeps_bind s _
  | unbindAll => exact keeps_bind s _
  | execute sql params => exact keeps_execute s sql params
  | fetch orientation => exact keeps_fetch s orientation
  | getBookmark row => exact keeps_getBookmark s row
  | setPosition row operation lock => exact keeps_setPosition s row operation lock
  | bulkOperation operation => exact keeps_bulkOperation s operation
  | paramData => exact keeps_paramData s
  | putData piece => exact keeps_putData s piece
  | closeCursor => exact keeps_closeCursor s
  | setCursorName name => exact keeps_setCursorName s name
  | cursorName => exact keeps_cursorName s

end Session

end ScrollCursor
