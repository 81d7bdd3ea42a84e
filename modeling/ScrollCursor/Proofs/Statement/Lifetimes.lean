import ScrollCursor.Proofs.Positioned.OneKey
import ScrollCursor.Proofs.Statement.NamedCursors
import ScrollCursor.Proofs.Statement.WhileOpen

/-! # One key per execution

From the execution of a query until its cursor is closed, whatever is called on the statement and on
others of its connection, and whatever the server answers in the meantime, metadata is asked for
once at most. All predicates that go out for the cursor, those sent to the server and those made
known to other statements, name the same columns of the same table.
-/

namespace ScrollCursor

namespace CursorNames

/-- What is known of the row of a statement's cursor. -/
def targetOf (r : CursorNames) (id : Nat) : PublishedTarget :=
  (r.ofStatement? id).bind NamedCursor.target

/-- Only of a statement with a name can anything be known. -/
theorem targetOf_publish (r : CursorNames) (id : Nat) (target : PublishedTarget) :
    (r.publish id target).targetOf id = none ∨ (r.publish id target).targetOf id = target := by
  rw [targetOf, ofStatement?_publish]
  cases r.ofStatement? id with
  | none => exact Or.inl rfl
  | some e => exact Or.inr rfl

theorem Adjusts.targetOf_eq {id other : Nat} {r r' : CursorNames} (h : Adjusts id r r')
    (hother : other ≠ id) : r'.targetOf other = r.targetOf other := by
  rw [targetOf, targetOf, h.others other hother]

end CursorNames

/-! ## Calls on the statement -/

/-- What went over the link since it was like another one. -/
def Link.since {σ : Type} (l' l : Link σ) : List Event :=
  l'.events.drop l.events.length

theorem Work.OnKey.publish {σ : Type} {w : Work σ} {record : List Event} {earlier : Traffic}
    (h : w.OnKey record earlier) {target : PublishedTarget}
    (hshape : ∀ shape, target.predicate? = some shape → shape.IsOf w.cursor.key) :
    w.OnKey record (earlier.publish target) := by
  obtain ⟨events, hsince, hone⟩ := h
  exact ⟨events, hsince, hone.publish hshape⟩

theorem Work.OnKey.of_publish {σ : Type} {w : Work σ} {record : List Event} {earlier : Traffic}
    {target : PublishedTarget} (h : w.OnKey record (earlier.publish target)) :
    w.OnKey record earlier := by
  obtain ⟨events, hsince, hone⟩ := h
  have hpublished : ((earlier.send events).publish target).OneKey w.cursor.key := hone
  exact ⟨events, hsince, hpublished.of_publish⟩

namespace Session

variable {σ : Type} {s s' : Session σ} {c : Cursor} {record : List Event} {earlier : Traffic}
  {id : Nat}

/-- The open cursor has kept to its key, and what is known of its row is put in terms of it. -/
structure OnKey (record : List Event) (earlier : Traffic) (id : Nat) (s : Session σ) : Prop where
  statement : s.statement.id = id
  cursor : ∃ c, s.statement.cursor = some c ∧
    (s.work c).OnKey record (earlier.publish (s.names.targetOf id))

theorem onKey_publishCursor (hid : s.statement.id = id) (hc : s.statement.cursor = some c)
    (h : (s.work c).OnKey record earlier) : s.publishCursor.OnKey record earlier id := by
  have hkept : (s.work c).currentTarget.2.OnKey record earlier :=
    (Work.keptByCalls_onKey record earlier).call h .publish
  have hshape := (s.work c).predicate?_currentTarget
  unfold publishCursor
  rw [hc]
  dsimp only
  generalize (s.work c).currentTarget = found at hkept hshape ⊢
  obtain ⟨target, w⟩ := found
  refine ⟨hid, w.cursor, rfl, hkept.publish fun shape hknown => ?_⟩
  subst hid
  change ((s.names.publish s.statement.id target).targetOf s.statement.id).predicate? =
    some shape at hknown
  -- A statement with no name has nothing to say; otherwise the new target replaces the old one.
  rcases s.names.targetOf_publish s.statement.id target with hnone | htarget
  · rw [hnone] at hknown
    cases hknown
  · rw [htarget] at hknown
    exact hshape shape hknown

theorem keptWhileOpen_onKey (record : List Event) (earlier : Traffic) (id : Nat) :
    KeptWhileOpen (σ := σ) (OnKey record earlier id) where
  isOpen h := by
    obtain ⟨c, hc, -⟩ := h.cursor
    exact ⟨c, hc⟩
  aside {s s'} h haside := by
    obtain ⟨c, hc, hkept⟩ := h.cursor
    refine ⟨haside.id.trans h.statement, c, haside.cursor.trans hc, ?_⟩
    rw [haside.names]
    refine .of_link rfl ?_
    change s'.link.OnKey record _ c.key
    rw [haside.link]
    exact hkept
  work {s c} call h hc := by
    obtain ⟨c', hc', hkept⟩ := h.cursor
    cases hc.symm.trans hc'
    exact ⟨h.statement, _, rfl, (Work.keptByCalls_onKey record _).call hkept call⟩
  publish h := by
    obtain ⟨c, hc, hkept⟩ := h.cursor
    exact onKey_publishCursor h.statement hc hkept.of_publish
  name names h := by
    obtain ⟨c, hc, hkept⟩ := h.cursor
    exact onKey_publishCursor h.statement hc hkept.of_publish

/-- What a call sends and makes known goes with the key that there is or that is found. -/
theorem oneKey_perform (hc : s.statement.cursor = some c)
    (h : (earlier.publish (s.names.targetOf s.statement.id)).OneKey c.key) {call : StatementCall}
    (hcall : call ≠ .closeCursor) :
    (s.perform call).2.statement.id = s.statement.id ∧
      ∃ d, (s.perform call).2.statement.cursor = some d ∧
        ((earlier.send ((s.perform call).2.link.since s.link)).publish
          ((s.perform call).2.names.targetOf s.statement.id)).OneKey d.key := by
  -- Counted from the record at the beginning of the call, nothing has gone out yet.
  have hbegin : s.OnKey s.link.events earlier s.statement.id := by
    refine ⟨rfl, c, hc, [], (List.append_nil _).symm, ?_⟩
    rw [Traffic.send, List.append_nil]
    exact h
  obtain ⟨hid, d, hd, events, hevents, hone⟩ :=
    (keptWhileOpen_onKey s.link.events earlier s.statement.id).perform hbegin hcall
  refine ⟨hid, d, hd, ?_⟩
  have hsince : (s.perform call).2.link.since s.link = events := by
    rw [Link.since, show (s.perform call).2.link.events = s.link.events ++ events from hevents,
      List.drop_left]
  rw [hsince]
  exact hone

/-- A statement that is executed and has a cursor afterwards was a query. Nothing has been asked for
the cursor, and nothing is known of it. -/
theorem opened_of_execute {sql : String} {params : List Value} {code : ReturnCode}
    (h : s.execute sql params = (.ok code, s')) (hc : s'.statement.cursor = some c) :
    s.statement.cursor = none ∧ s'.names = s.names ∧ c.key = none := by
  unfold execute call at h
  split at h
  · cases h
  · dsimp only at h
    split at h
    · cases h
    next hclosed =>
      have hnone : s.statement.cursor = none := Option.not_isSome_iff_eq_none.mp hclosed
      -- What leaves the cursor alone opens none.
      have hstays {t : Session σ} {answer : Except Error ReturnCode × Session σ}
          (hanswer : answer = (.ok code, s')) (huntouched : Untouched t answer.2)
          (ht : t.statement.cursor = none) : False := by
        rw [hanswer] at huntouched
        cases hc.symm.trans (huntouched.cursor.trans ht)
      split at h
      · exact (hstays h (untouched_executePositioned _ _ _ _) hnone).elim
      · split at h
        · unfold executeQuery at h
          split at h
          · cases h
          · cases h
            cases hc
            exact ⟨hnone, rfl, rfl⟩
        · exact (hstays h (untouched_executeUpdate _ _) hnone).elim

end Session

/-! ## Lifetimes -/

namespace Connection

variable {σ : Type} {c c' opened : Connection} {link link' : Link σ} {id other : Nat}
  {traffic : Traffic}

/-- The open cursor of a statement. -/
def cursor? (c : Connection) (id : Nat) : Option Cursor :=
  (c.statement? id).bind Statement.cursor

/-- What may happen to a connection while the cursor of one of its statements stays open, with what
goes out for the cursor: calls on the statement, but not to close the cursor, and whatever else is
done on the connection. With every call the link may be another one. -/
inductive Lifetime (id : Nat) (opened : Connection) : Connection → Traffic → Prop
  | opened : Lifetime id opened opened (({} : Traffic).publish (opened.names.targetOf id))
  | call {σ : Type} {c c' : Connection} {traffic : Traffic} {link link' : Link σ}
      {call : StatementCall} {answer : Except Error Reply} (h : Lifetime id opened c traffic)
      (hcall : c.callOn link id (·.perform call) = some (answer, c', link'))
      (hopen : call ≠ .closeCursor) :
      Lifetime id opened c' ((traffic.send (link'.since link)).publish (c'.names.targetOf id))
  | callOther {σ : Type} {c c' : Connection} {traffic : Traffic} {link link' : Link σ}
      {other : Nat} {call : StatementCall} {answer : Except Error Reply}
      (h : Lifetime id opened c traffic)
      (hcall : c.callOn link other (·.perform call) = some (answer, c', link'))
      (hother : other ≠ id) : Lifetime id opened c' traffic
  | newStatement {c : Connection} {traffic : Traffic} (h : Lifetime id opened c traffic)
      (options : Option StatementOptions) : Lifetime id opened (c.newStatement options).2 traffic
  | dropStatement {c : Connection} {traffic : Traffic} {other : Nat}
      (h : Lifetime id opened c traffic) (hother : other ≠ id) :
      Lifetime id opened (c.dropStatement other) traffic

/-- The cursor of the statement is open, and its traffic has kept to its key. -/
def OnKey (id : Nat) (c : Connection) (traffic : Traffic) : Prop :=
  ∃ cursor, c.cursor? id = some cursor ∧
    (traffic.publish (c.names.targetOf id)).OneKey cursor.key

theorem OnKey.congr (h : c.OnKey id traffic)
    (hcursor : ∀ cursor, c.cursor? id = some cursor → c'.cursor? id = some cursor)
    (htarget : c'.names.targetOf id = c.names.targetOf id) : c'.OnKey id traffic := by
  obtain ⟨cursor, hopen, hone⟩ := h
  exact ⟨cursor, hcursor cursor hopen, htarget ▸ hone⟩

theorem statement?_afterSession (c : Connection) (s : Session σ) (id : Nat) :
    (c.afterSession s).statement? id =
      (c.statement? id).map fun t => if t.id = s.statement.id then s.statement else t := by
  have hsame : (fun t : Statement => t.id == id) ∘
      (fun t => if t.id = s.statement.id then s.statement else t) = fun t => t.id == id := by
    funext t
    rw [Function.comp_apply]
    split
    next heq => rw [heq]
    next => rfl
  rw [statement?, afterSession, List.find?_map, hsame]
  rfl

theorem cursor?_of_session? {s : Session σ} (hs : c.session? link id = some s) :
    c.cursor? id = s.statement.cursor := by
  obtain ⟨t, ht, rfl⟩ := Option.map_eq_some_iff.mp hs
  rw [cursor?, ht, Option.bind_some]

theorem cursor?_afterSession {s s' : Session σ} (hs : c.session? link id = some s)
    (hid : s'.statement.id = s.statement.id) :
    (c.afterSession s').cursor? id = s'.statement.cursor := by
  obtain ⟨t, ht, rfl⟩ := Option.map_eq_some_iff.mp hs
  rw [cursor?, statement?_afterSession, ht, Option.map_some, if_pos hid.symm, Option.bind_some]

theorem cursor?_afterSession_of_ne {s s' : Session σ} (hs : c.session? link other = some s)
    (hid : s'.statement.id = s.statement.id) (hother : other ≠ id) :
    (c.afterSession s').cursor? id = c.cursor? id := by
  obtain ⟨-, hsid, -, -, -⟩ := mem_of_session? hs
  rw [cursor?, cursor?, statement?_afterSession]
  cases ht : c.statement? id with
  | none => rfl
  | some t =>
      have htid : t.id = id := by simpa using List.find?_some ht
      rw [Option.map_some, if_neg]
      rw [htid, hid, hsid]
      exact hother.symm

/-- A call on the statement itself. -/
theorem OnKey.call (h : c.OnKey id traffic) {call : StatementCall} {answer : Except Error Reply}
    (hcall : c.callOn link id (·.perform call) = some (answer, c', link'))
    (hopen : call ≠ .closeCursor) :
    c'.OnKey id ((traffic.send (link'.since link)).publish (c'.names.targetOf id)) := by
  obtain ⟨cursor, hcursor, hone⟩ := h
  obtain ⟨s, hs, hc⟩ := Option.map_eq_some_iff.mp hcall
  cases hc
  obtain ⟨-, hid, -, hnames, hlink⟩ := mem_of_session? hs
  rw [cursor?_of_session? hs] at hcursor
  rw [← hnames, ← hid] at hone
  obtain ⟨hid', after, hafter, hkept⟩ := Session.oneKey_perform hcursor hone hopen
  rw [hid, hlink] at hkept
  refine ⟨after, (cursor?_afterSession hs hid').trans hafter, ?_⟩
  -- What is known after the call is already part of the traffic.
  exact hkept.publish fun shape hshape =>
    hkept.predicates shape (Traffic.mem_predicates_publish.mpr (Or.inr hshape))

/-- A call on another statement leaves the cursor and what is known of it alone. -/
theorem OnKey.callOther (h : c.OnKey id traffic) {call : StatementCall}
    {answer : Except Error Reply}
    (hcall : c.callOn link other (·.perform call) = some (answer, c', link'))
    (hother : other ≠ id) : c'.OnKey id traffic := by
  obtain ⟨s, hs, hc⟩ := Option.map_eq_some_iff.mp hcall
  cases hc
  obtain ⟨-, hid, -, hnames, -⟩ := mem_of_session? hs
  have hkeeps := Session.keeps_perform s call
  have hadjusts := hkeeps.names
  rw [hid, hnames] at hadjusts
  refine h.congr (fun cursor hcursor => ?_) (hadjusts.targetOf_eq hother.symm)
  exact (cursor?_afterSession_of_ne hs hkeeps.id hother).trans hcursor

theorem OnKey.newStatement (h : c.OnKey id traffic) (options : Option StatementOptions) :
    (c.newStatement options).2.OnKey id traffic := by
  rcases c.newStatement_cases options with heq | ⟨t, -, -, -, heq⟩
  · rw [heq]
    exact h
  · rw [heq]
    refine h.congr (fun cursor hcursor => ?_) rfl
    obtain ⟨t', ht', hopen⟩ := Option.bind_eq_some_iff.mp hcursor
    rw [cursor?, statement?, List.find?_append, show c.statements.find? _ = some t' from ht']
    exact hopen

theorem OnKey.dropStatement (h : c.OnKey id traffic) (hother : other ≠ id) :
    (c.dropStatement other).OnKey id traffic := by
  refine h.congr (fun cursor hcursor => ?_)
    ((c.names.adjusts_unregister other).targetOf_eq hother.symm)
  obtain ⟨t, ht, hopen⟩ := Option.bind_eq_some_iff.mp hcursor
  have hkept : (c.dropStatement other).statement? id = some t := by
    refine (List.find?_filter ..).trans (Eq.trans ?_ ht)
    congr 1
    funext t
    by_cases hid : t.id = id
    · simp [hid, hother.symm]
    · simp [hid]
  rw [cursor?, hkept]
  exact hopen

/-- The cursor keeps to its key as long as it is open. -/
theorem Lifetime.onKey (h : Lifetime id opened c traffic)
    (hopened : opened.OnKey id (({} : Traffic).publish (opened.names.targetOf id))) :
    c.OnKey id traffic := by
  induction h with
  | opened => exact hopened
  | call _ hcall hopen ih => exact ih.call hcall hopen
  | callOther _ hcall hother ih => exact ih.callOther hcall hother
  | newStatement _ options ih => exact ih.newStatement options
  | dropStatement _ hother ih => exact ih.dropStatement hother

/-- For a cursor that has just been opened nothing has been asked or said. -/
theorem Sound.onKey_of_execute (h : c.Sound) {sql : String} {params : List Value} {reply : Reply}
    (hexecute :
      c.callOn link id (·.perform (.execute sql params)) = some (.ok reply, opened, link'))
    (hquery : (opened.cursor? id).isSome) :
    opened.OnKey id (({} : Traffic).publish (opened.names.targetOf id)) := by
  obtain ⟨s, hs, hc⟩ := Option.map_eq_some_iff.mp hexecute
  obtain ⟨-, hid, -, -, -⟩ := mem_of_session? hs
  have hkeeps := Session.keeps_perform s (.execute sql params)
  obtain ⟨cursor, hcursor⟩ := Option.isSome_iff_exists.mp hquery
  have hanswer : (s.perform (.execute sql params)).1 = .ok reply := congrArg Prod.fst hc
  have hafter : c.afterSession (s.perform (.execute sql params)).2 = opened :=
    congrArg (fun result => result.2.1) hc
  subst hafter
  rw [cursor?_afterSession hs hkeeps.id] at hcursor
  obtain ⟨code, hok, -⟩ := Results.map_eq_ok.mp hanswer
  have hcode : s.execute sql params = (.ok code, (s.perform (.execute sql params)).2) :=
    Prod.ext hok rfl
  obtain ⟨hclosed, hnames, hkey⟩ := Session.opened_of_execute hcode hcursor
  have hnothing :
      (c.afterSession (s.perform (.execute sql params)).2).names.targetOf id = none := by
    change (s.perform (.execute sql params)).2.names.targetOf id = none
    rw [hnames, CursorNames.targetOf, Option.bind_eq_none_iff, ← hid]
    exact (h.session hs).inSync.closed hclosed
  refine ⟨cursor, (cursor?_afterSession hs hkeeps.id).trans hcursor, ?_⟩
  rw [hnothing]
  have hnone (shape : PredicateShape) (hshape : PublishedTarget.predicate? none = some shape) :
      shape.IsOf cursor.key := by
    cases hshape
  exact ((Traffic.OneKey.empty cursor.key).publish hnone).publish hnone

/-- On whatever run of calls a connection is, and however the statement was executed that opened a
cursor: as long as the cursor is open metadata is asked for once at most, and all predicates that
are sent for it or made known name the same columns with the same types, in the same order, of the
same table. -/
theorem oneKey_of_lifetime {config : Config} (hsteps : Steps { config := config } c) {sql : String}
    {params : List Value} {reply : Reply}
    (hexecute :
      c.callOn link id (·.perform (.execute sql params)) = some (.ok reply, opened, link'))
    (hquery : (opened.cursor? id).isSome) (hlife : Lifetime id opened c' traffic) :
    traffic.asked ≤ 1 ∧
      ∀ shape ∈ traffic.predicates, ∀ other ∈ traffic.predicates, shape = other := by
  have hopened := (sound_of_steps hsteps).onKey_of_execute hexecute hquery
  obtain ⟨cursor, -, hone⟩ := hlife.onKey hopened
  have hkept := hone.of_publish
  exact ⟨hkept.asked_le_one, fun _ hshape _ hother => hkept.eq_of_mem hshape hother⟩

theorem exists_callOn_perform (c : Connection) (link : Link σ) (id : Nat) (call : StatementCall)
    (h : (c.statement? id).isSome) :
    ∃ answer, c.callOn link id (·.perform call) = some (answer, c.perform link id call) := by
  obtain ⟨t, ht⟩ := Option.isSome_iff_exists.mp h
  unfold perform callOn session?
  rw [ht]
  exact ⟨_, rfl⟩

/-- The notes have been asked for. -/
def notesOpened : Connection × Link MemoryServer :=
  twoStatements.perform { server := MemoryServer.server, state := Session.noteServer } 1
    (.execute "SELECT id, text FROM notes" [])

def notesNamed : Connection × Link MemoryServer :=
  notesOpened.1.perform notesOpened.2 1 (.setCursorName "Pen")

/-- After the fetch the primary key of the notes is another one. -/
def rekeyed : Link MemoryServer :=
  { notesFetched.2 with
    state :=
      { notesFetched.2.state with
        metadata :=
          [(Session.notes,
            .ok { table := Session.notes, columns := [⟨"text", .varchar, false⟩]
                  primaryKey := ["text"] })] } }

/-- The note has been deleted since. -/
def noteDeleted : Connection × Link MemoryServer :=
  notesFetched.1.perform rekeyed 1 (.setPosition 1 .delete .noChange)

/-- The row is made known and deleted by the key that there was at first. -/
theorem oneKey_of_lifetime_pen :
    ∃ traffic, Lifetime 1 notesOpened.1 noteDeleted.1 traffic ∧
      traffic.predicates = List.replicate 2 ⟨Session.notes, [("id", .integer)]⟩ ∧
      traffic.asked = 1 ∧
      ∀ shape ∈ traffic.predicates, ∀ other ∈ traffic.predicates, shape = other := by
  have hsteps : Steps { config := {} } twoStatements :=
    (Relation.ReflTransGen.single (.newStatement _ _)).tail (.newStatement _ _)
  have hexecute : twoStatements.callOn
      { server := MemoryServer.server, state := Session.noteServer } 1
      (·.perform (.execute "SELECT id, text FROM notes" [])) =
        some (.ok (.code .success), notesOpened) := rfl
  obtain ⟨_, hnamed⟩ :=
    notesOpened.1.exists_callOn_perform notesOpened.2 1 (.setCursorName "Pen") rfl
  obtain ⟨_, hfetched⟩ := notesNamed.1.exists_callOn_perform notesNamed.2 1 (.fetch .next) rfl
  obtain ⟨_, hdeleted⟩ :=
    notesFetched.1.exists_callOn_perform rekeyed 1 (.setPosition 1 .delete .noChange) rfl
  have hlife := ((Lifetime.opened.call hnamed nofun).call hfetched nofun).call hdeleted nofun
  have hone := oneKey_of_lifetime hsteps hexecute rfl hlife
  exact ⟨_, hlife, rfl, rfl, hone.2⟩

end Connection

end ScrollCursor
