import ScrollCursor.Connection
import ScrollCursor.Proofs.Statement.Publishing
import ScrollCursor.Proofs.Statement.SuppliedValues
import ScrollCursor.Proofs.Statement.Suspension

/-! # Rows of named cursors

A statement that ends in `WHERE CURRENT OF` is carried out on the row where the cursor with the name
stands. It is told of that row what the connection last learnt, and this is what a positioned delete
would find out by itself.
-/

namespace ScrollCursor

namespace Statement

variable {config : Config} {names names' : CursorNames} {t : Statement}

/-- Only the entry of the statement itself is of account. -/
theorem InSync.congr (h : t.InSync config names)
    (hentry : names'.ofStatement? t.id = names.ofStatement? t.id) : t.InSync config names' := by
  constructor
  · rw [hentry]
    exact h.named
  · exact h.dialect
  · rw [hentry]
    exact h.closed
  · rw [hentry]
    exact h.current

/-- A new statement has no cursor and no name. -/
theorem InSync.of_blank (hentry : names.ofStatement? t.id = none) (hnamed : t.named = false)
    (hcursor : t.cursor = none) : t.InSync config names := by
  constructor
  · rw [hentry, hnamed]
    rfl
  · intro c hc
    cases hcursor.symm.trans hc
  · intro _ e he
    cases hentry.symm.trans he
  · intro c _ hc
    cases hcursor.symm.trans hc

theorem coherent_of_closed (hcursor : t.cursor = none) : t.Coherent := by
  constructor
  · intro c hc
    cases hcursor.symm.trans hc
  · intro c p row operation hc
    cases hcursor.symm.trans hc

end Statement

namespace Connection

/-! ## Runs of a connection -/

/-- A statement is made or dropped, or a call is made on one, whatever the state of the server. -/
inductive Step : Connection → Connection → Prop
  | newStatement (c : Connection) (options : Option StatementOptions) :
      Step c (c.newStatement options).2
  | dropStatement (c : Connection) (id : Nat) : Step c (c.dropStatement id)
  | call {σ : Type} {c c' : Connection} {link link' : Link σ} {id : Nat} {call : StatementCall}
      {answer : Except Error Reply}
      (h : c.callOn link id (·.perform call) = some (answer, c', link')) : Step c c'

abbrev Steps : Connection → Connection → Prop :=
  Relation.ReflTransGen Step

/-- What holds of a connection between calls. -/
structure Sound (c : Connection) : Prop where
  lawful : c.names.Lawful
  ids : (c.statements.map Statement.id).Nodup
  issued : ∀ t ∈ c.statements, t.id ≤ c.issued
  known : ∀ e ∈ c.names.entries, e.statement ≤ c.issued
  coherent : ∀ t ∈ c.statements, t.Coherent
  inSync : ∀ t ∈ c.statements, t.InSync c.config c.names

variable {c c' : Connection} {σ : Type}

theorem sound_new (config : Config) : Sound { config := config } where
  lawful := ⟨List.nodup_nil, by simp⟩
  ids := List.nodup_nil
  issued := by simp
  known := by simp
  coherent := by simp
  inSync := by simp

/-- A number that has not been given out has no name. -/
theorem Sound.ofStatement?_eq_none (h : c.Sound) {id : Nat} (hid : c.issued < id) :
    c.names.ofStatement? id = none := by
  cases hfound : c.names.ofStatement? id with
  | none => rfl
  | some e =>
      obtain ⟨hmem, rfl⟩ := CursorNames.mem_of_ofStatement? hfound
      exact absurd (h.known e hmem) (Nat.not_le.mpr hid)

/-- A new statement has the next number, no cursor and no name. -/
theorem newStatement_cases (c : Connection) (options : Option StatementOptions) :
    (c.newStatement options).2 = { c with issued := c.issued + 1 } ∨
      ∃ t : Statement, t.id = c.issued + 1 ∧ t.named = false ∧ t.cursor = none ∧
        (c.newStatement options).2 =
          { c with issued := c.issued + 1, statements := c.statements ++ [t] } := by
  cases options with
  | none => exact Or.inr ⟨c.blank, rfl, rfl, rfl, rfl⟩
  | some options =>
      unfold newStatement
      dsimp only
      cases hmade : c.blank.withOptions c.config options with
      | error e => exact Or.inl rfl
      | ok t =>
          obtain ⟨-, -, ht⟩ := Results.bind_eq_ok.mp hmade
          cases ht
          exact Or.inr ⟨_, rfl, rfl, rfl, rfl⟩

theorem Sound.issue (h : c.Sound) : Sound { c with issued := c.issued + 1 } :=
  { h with
    issued := fun t ht => Nat.le_succ_of_le (h.issued t ht)
    known := fun e he => Nat.le_succ_of_le (h.known e he) }

/-- A new statement is not known of yet. -/
theorem Sound.newStatement (h : c.Sound) (options : Option StatementOptions) :
    (c.newStatement options).2.Sound := by
  rcases c.newStatement_cases options with heq | ⟨t, hid, hnamed, hcursor, heq⟩
  · rw [heq]
    exact h.issue
  · have hnone : c.names.ofStatement? t.id = none :=
      h.ofStatement?_eq_none (hid ▸ Nat.lt_succ_self c.issued)
    have hall {P : Statement → Prop} (hold : ∀ t ∈ c.statements, P t) (hnew : P t) :
        ∀ t' ∈ c.statements ++ [t], P t' := by
      intro t' ht'
      rcases List.mem_append.mp ht' with hmem | hmem
      · exact hold t' hmem
      · rw [List.mem_singleton.mp hmem]
        exact hnew
    rw [heq]
    constructor
    · exact h.lawful
    · change ((c.statements ++ [t]).map Statement.id).Nodup
      rw [List.map_append, List.nodup_append]
      refine ⟨h.ids, List.nodup_singleton _, ?_⟩
      intro a ha b hb
      obtain ⟨t', ht', rfl⟩ := List.mem_map.mp ha
      rw [List.mem_singleton.mp hb, hid]
      exact Nat.ne_of_lt (Nat.lt_succ_of_le (h.issued t' ht'))
    · exact hall (fun t' ht' => Nat.le_succ_of_le (h.issued t' ht')) (Nat.le_of_eq hid)
    · exact h.issue.known
    · exact hall h.coherent (Statement.coherent_of_closed hcursor)
    · exact hall h.inSync (.of_blank hnone hnamed hcursor)

/-- With a statement goes what was known of it. -/
theorem Sound.dropStatement (h : c.Sound) (id : Nat) : (c.dropStatement id).Sound := by
  have hadjusts := c.names.adjusts_unregister id
  constructor
  · exact hadjusts.lawful h.lawful
  · exact h.ids.sublist (List.filter_sublist.map _)
  · exact fun t ht => h.issued t (List.mem_filter.mp ht).1
  · exact fun e he => h.known e (List.mem_of_mem_eraseP he)
  · exact fun t ht => h.coherent t (List.mem_filter.mp ht).1
  · intro t ht
    obtain ⟨hmem, hother⟩ := List.mem_filter.mp ht
    exact (h.inSync t hmem).congr (hadjusts.others t.id (by simpa using hother))

theorem mem_of_session? {s : Session σ} {link : Link σ} {id : Nat}
    (h : c.session? link id = some s) :
    s.statement ∈ c.statements ∧ s.statement.id = id ∧ s.config = c.config ∧ s.names = c.names ∧
      s.link = link := by
  obtain ⟨t, ht, rfl⟩ := Option.map_eq_some_iff.mp h
  exact ⟨List.mem_of_find?_eq_some ht, by simpa using List.find?_some ht, rfl, rfl, rfl⟩

/-- What holds of a connection holds of each of its statements. -/
theorem Sound.session {s : Session σ} {link : Link σ} {id : Nat} (h : c.Sound)
    (hs : c.session? link id = some s) : s.Sound := by
  obtain ⟨hmem, -, hconfig, hnames, -⟩ := mem_of_session? hs
  constructor
  · rw [hnames]
    exact h.lawful
  · exact h.coherent _ hmem
  · rw [Session.InSync, hconfig, hnames]
    exact h.inSync _ hmem

/-- A call on one statement. -/
theorem Sound.afterSession {s s' : Session σ} {link : Link σ} {id : Nat} (h : c.Sound)
    (hs : c.session? link id = some s) (hkeeps : s.Keeps s') (hcoherent : s'.statement.Coherent) :
    (c.afterSession s').Sound := by
  obtain ⟨hmem, -, hconfig, hnames, -⟩ := mem_of_session? hs
  have hadjusts := hkeeps.names
  rw [hnames] at hadjusts
  have hinSync := hkeeps.inSync (h.session hs)
  -- Every statement afterwards is the one that was called or one of the others.
  have hcases : ∀ t ∈ (c.afterSession s').statements,
      t = s'.statement ∨ t ∈ c.statements ∧ t.id ≠ s.statement.id := by
    intro t ht
    obtain ⟨t', ht', rfl⟩ := List.mem_map.mp ht
    split
    · exact Or.inl rfl
    next hne => exact Or.inr ⟨ht', hkeeps.id ▸ hne⟩
  constructor
  · exact hadjusts.lawful h.lawful
  · have hids :
        (c.afterSession s').statements.map Statement.id = c.statements.map Statement.id := by
      change (c.statements.map _).map _ = _
      rw [List.map_map]
      refine List.map_congr_left fun t _ => ?_
      rw [Function.comp_apply]
      split
      next hid => exact hid.symm
      next => rfl
    rw [hids]
    exact h.ids
  · intro t ht
    rcases hcases t ht with rfl | ⟨ht, -⟩
    · rw [hkeeps.id]
      exact h.issued _ hmem
    · exact h.issued t ht
  · intro e he
    rcases hadjusts.known he with hid | ⟨e', he', hid⟩
    · rw [hid]
      exact h.issued _ hmem
    · rw [← hid]
      exact h.known e' he'
  · intro t ht
    rcases hcases t ht with rfl | ⟨ht, -⟩
    · exact hcoherent
    · exact h.coherent t ht
  · intro t ht
    rcases hcases t ht with rfl | ⟨ht, hother⟩
    · rw [Session.InSync, hkeeps.config, hconfig] at hinSync
      exact hinSync
    · exact (h.inSync t ht).congr (hadjusts.others t.id hother)

/-- Each step keeps what the connection knows right. -/
theorem Step.sound (hstep : Step c c') (h : c.Sound) : c'.Sound := by
  cases hstep with
  | newStatement _ options => exact h.newStatement options
  | dropStatement _ id => exact h.dropStatement id
  | @call σ _ _ link link' id call answer hcall =>
      obtain ⟨s, hs, hc⟩ := Option.map_eq_some_iff.mp hcall
      cases hc
      exact h.afterSession hs (Session.keeps_perform s call)
        ((Session.step_perform s call).coherent (h.session hs).coherent)

/-- Whatever is called on the statements of a connection, it goes on knowing where they stand. -/
theorem sound_of_steps {config : Config} (hsteps : Steps { config := config } c) : c.Sound := by
  induction hsteps with
  | refl => exact sound_new config
  | tail _ hstep ih => exact hstep.sound ih

end Connection

/-! ## Positioned statements -/

namespace Work

variable {σ : Type} {w : Work σ} {id : SlotId} {image : Record}

/-- To delete a live row sends the request that deletes it, and nothing else. -/
theorem link_deleteSlot {key : KeySet} {request : Request} (hlive : w.liveImage id = .ok image)
    (hdelete : w.cursor.dialect.delete key image = .ok request) :
    (w.deleteSlot key id).2.link = (w.link.execute request).2 := by
  unfold deleteSlot
  rw [hlive]
  dsimp only
  rw [hdelete]
  dsimp only [send]
  generalize w.link.execute request = answered
  obtain ⟨answer, link⟩ := answered
  cases answer with
  | error e => rfl
  | ok answer =>
      dsimp only
      split <;> rfl

/-- The current row is a live row of the rowset. -/
theorem exists_liveImage {row : Nat} (hrow : w.cursor.current = some row)
    (himage : w.cursor.currentImage? = some image) :
    ∃ id, w.cursor.slotOf? row = some id ∧ w.liveImage id = .ok image := by
  unfold Cursor.currentImage? at himage
  rw [hrow] at himage
  simp only [Option.bind_eq_bind, Option.bind_some] at himage
  obtain ⟨id, hid, himage⟩ := Option.bind_eq_some_iff.mp himage
  obtain ⟨slot, hslot, himage⟩ := Option.bind_eq_some_iff.mp himage
  refine ⟨id, hid, ?_⟩
  unfold liveImage
  rw [hslot]
  dsimp only
  split at himage
  · cases himage
  next hlive =>
    cases himage
    rw [if_neg hlive]

end Work

namespace Session

variable {σ : Type} {s : Session σ}

/-- The request that deletes the current row of the open cursor, or why there can be none, and
nothing if there is no such row. -/
def currentDelete? (s : Session σ) : Option (Except Error Request) := do
  let c ← s.statement.cursor
  let image ← c.currentImage?
  return (s.work c).keySet.1.bind fun key => c.dialect.delete key image

/-- The request deletes the current row of the open cursor. The cursor knows its key, the key tells
the row by terms of its image as the server last reported it, and the predicate asks for these
terms. -/
structure DeletesCurrent (s : Session σ) (c : Cursor) (key : KeySet) (image : Record)
    (predicate : Fragment) (request : Request) : Prop where
  opened : s.statement.cursor = some c
  known : c.key = some (.ok key)
  current : c.currentImage? = some image
  made : c.dialect.delete key image = .ok request
  told : (key.terms image >>= c.dialect.predicate) = .ok predicate
  sql : request.sql =
    "DELETE FROM " ++ (c.dialect.table key.table).sql ++ " WHERE " ++ predicate.sql
  params : request.params = predicate.params

variable {c : Cursor} {key : KeySet} {image : Record} {predicate : Fragment} {request : Request}

/-- This is the one request that a static cursor sends when its current row is deleted. -/
theorem DeletesCurrent.link_setPosition (h : s.DeletesCurrent c key image predicate request)
    (hkind : c.kind = .static) {row : Nat} (hrow : c.current = some row) (supplied : Supplied) :
    ((s.work c).setPosition row .delete supplied).2.link = (s.link.execute request).2 := by
  obtain ⟨id, hid, hlive⟩ := Work.exists_liveImage (w := s.work c) hrow h.current
  have hrows : (s.work c).targetRows row .delete = [row] :=
    if_pos fun hzero => by
      subst hzero
      cases hid
  have hknown : (s.work c).keySet = (.ok key, s.work c) := Work.keySet_of_key h.known
  have hprepare := Work.prepareWrite_of_static (w := s.work c) hkind [row]
  rw [hknown] at hprepare
  simp only [Work.setPosition, hrows, Work.deleteRows, hprepare, Work.forRows, Work.onRow, hid]
  exact Work.link_deleteSlot hlive h.made

/-- The predicate that takes the place of a positioned clause. -/
def predicateFor (s : Session σ) (clause : Sql.PositionedClause) : Except Error Fragment := do
  let target ← s.names.targetFor clause.cursor
  (Dialect.ofConfig s.config).predicate target.terms

variable {sql : String} {clause : Sql.PositionedClause}

/-- Without an open cursor, and with nothing waiting, a positioned statement is carried out. -/
theorem execute_eq_executePositioned (hidle : s.statement.pending = none)
    (hclosed : s.statement.cursor = none)
    (hclause : (Sql.StatementText.parse sql).positioned = some clause) (params : List Value) :
    s.execute sql params =
      (s.onStatement fun t => { t with diagnostics := [], rowCount := none }).executePositioned
        (.parse sql) clause params := by
  have hclosed' : (s.onStatement fun t => { t with diagnostics := [] }).statement.cursor = none :=
    hclosed
  unfold execute call
  rw [hidle]
  dsimp only [Option.isSome_none]
  rw [if_neg Bool.false_ne_true, hclosed']
  dsimp only [Option.isSome_none]
  rw [if_neg Bool.false_ne_true, hclause]
  rfl

/-- Without a predicate nothing is sent, and the error is that of the predicate. -/
theorem executePositioned_error {text : Sql.StatementText} {e : Error}
    (h : s.predicateFor clause = .error e) (params : List Value) :
    s.executePositioned text clause params = (.error e, s) := by
  unfold predicateFor at h
  unfold executePositioned
  cases htarget : s.names.targetFor clause.cursor with
  | error e' =>
      rw [htarget] at h
      cases h
      rfl
  | ok target =>
      rw [htarget] at h
      have hpredicate : (Dialect.ofConfig s.config).predicate target.terms = .error e := h
      simp only [Results.ok_bind, hpredicate]
      rfl

/-- With a predicate the rewritten text is sent, and its parameters come last. -/
theorem link_executePositioned {text : Sql.StatementText} {sent : String} {predicate : Fragment}
    (h : s.predicateFor clause = .ok predicate)
    (hsent : text.withPredicate? predicate.sql = some sent) (params : List Value) :
    (s.executePositioned text clause params).2.link =
      (s.link.execute { sql := sent, params := params ++ predicate.params }).2 := by
  unfold predicateFor at h
  obtain ⟨target, htarget, hpredicate⟩ := Results.bind_eq_ok.mp h
  unfold executePositioned
  simp only [htarget, Results.ok_bind, hpredicate, hsent]
  generalize s.link.execute _ = answered
  obtain ⟨answer, link⟩ := answered
  cases answer with
  | error e => rfl
  | ok answer =>
      dsimp only
      repeat' split
      all_goals rfl

end Session

namespace Connection

variable {σ : Type} {c : Connection} {link : Link σ} {named executing : Session σ}

/-- A name leads to what was told of its cursor, in whatever case it is written. -/
theorem targetFor_of_entry {names : CursorNames} (hlawful : names.Lawful) {id : Nat}
    {e : NamedCursor} (he : names.ofStatement? id = some e) {name : String}
    (hcase : Text.sameName name e.name = true) {target : Except Error PositionedTarget}
    (htarget : e.target = some target) : names.targetFor name = target := by
  rw [CursorNames.targetFor, hlawful.holder?_eq he hcase, Option.bind_some, htarget]

/-- A name whose cursor has no current row leads nowhere. -/
theorem targetFor_of_nowhere {names : CursorNames} (hlawful : names.Lawful) {id : Nat}
    {e : NamedCursor} (he : names.ofStatement? id = some e) {name : String}
    (hcase : Text.sameName name e.name = true) (htarget : e.target = none) :
    ∃ message, names.targetFor name = .error (.cursorName message) := by
  rw [CursorNames.targetFor, hlawful.holder?_eq he hcase, Option.bind_some, htarget]
  exact ⟨_, rfl⟩

/-- A published target asks for the row by the terms that its key has for the image. -/
theorem predicate_of_target (dialect : Dialect) (key : Except Error KeySet) (image : Record) :
    ((key.bind fun k =>
      (k.terms image).map fun terms => PositionedTarget.mk k.table terms k.isUnique) >>=
        fun target => dialect.predicate target.terms) =
      key.bind fun k => k.terms image >>= dialect.predicate := by
  cases key with
  | error e => rfl
  | ok key =>
      simp only [Except.bind]
      cases key.terms image with
      | error e => rfl
      | ok terms => rfl

/-- The request that deletes a row, and the predicate for the row: there is one if there is the
other, and the request has the predicate in it. -/
theorem delete_cases (dialect : Dialect) (key : Except Error KeySet) (image : Record) :
    match key.bind fun key => dialect.delete key image with
    | .error e => (key.bind fun k => k.terms image >>= dialect.predicate) = .error e
    | .ok request => ∃ k predicate, key = .ok k ∧
        dialect.delete k image = .ok request ∧
        (k.terms image >>= dialect.predicate) = .ok predicate ∧
        request.sql = "DELETE FROM " ++ (dialect.table k.table).sql ++ " WHERE " ++ predicate.sql ∧
        request.params = predicate.params := by
  cases key with
  | error e => rfl
  | ok key =>
      simp only [Except.bind]
      unfold Dialect.delete
      cases hterms : key.terms image with
      | error e => rfl
      | ok terms =>
          simp only [Results.ok_bind]
          cases hpredicate : dialect.predicate terms with
          | error e => rfl
          | ok predicate =>
              refine ⟨key, predicate, rfl, ?_, ?_, rfl, List.nil_append _⟩
              · rw [hterms, Results.ok_bind, hpredicate]
                rfl
              · rw [hterms, Results.ok_bind, hpredicate]

/-- A positioned statement finds the predicate with which the row would be deleted. -/
theorem predicateFor_of_sound (h : c.Sound) {id : Nat} (hnamed : c.session? link id = some named)
    {name : String} (hname : c.names.nameOf? id = some name)
    (hstatic : ∀ cursor, named.statement.cursor = some cursor → cursor.kind = .static)
    {s : Session σ}
    {clause : Sql.PositionedClause} (hcase : Text.sameName clause.cursor name = true)
    (hnames : s.names = c.names) (hconfig : s.config = c.config) :
    match named.currentDelete? with
    | none => ∃ message, s.predicateFor clause = .error (.cursorName message)
    | some (.error e) => s.predicateFor clause = .error e
    | some (.ok request) => ∃ cursor key image predicate,
        named.DeletesCurrent cursor key image predicate request ∧
        s.predicateFor clause = .ok predicate := by
  obtain ⟨hmem, hid, -, -, -⟩ := mem_of_session? hnamed
  obtain ⟨-, hdialect, hclosed, hcurrent⟩ := h.inSync _ hmem
  obtain ⟨e, he, rfl⟩ := Option.map_eq_some_iff.mp hname
  rw [hid] at hclosed hcurrent
  have hnowhere (htarget : e.target = none) :
      ∃ message, s.predicateFor clause = .error (.cursorName message) := by
    obtain ⟨message, hmessage⟩ := targetFor_of_nowhere h.lawful he hcase htarget
    refine ⟨message, ?_⟩
    rw [Session.predicateFor, hnames, hmessage]
    rfl
  unfold Session.currentDelete?
  cases hcursor : named.statement.cursor with
  | none => exact hnowhere (hclosed hcursor e he)
  | some cursor =>
      have hpublished := hcurrent cursor e hcursor (hstatic cursor hcursor) he
      simp only [Option.bind_eq_bind, Option.bind_some]
      generalize htarget : e.target = target at hpublished
      cases hpublished with
      | nowhere himage =>
          rw [himage]
          exact hnowhere htarget
      | @row image key himage hkey =>
          have hresolved : (named.work cursor).keySet = (key, named.work cursor) :=
            Work.keySet_of_key hkey
          have htold : s.predicateFor clause =
              key.bind fun k => k.terms image >>= cursor.dialect.predicate := by
            rw [Session.predicateFor, hnames, hconfig, hdialect cursor hcursor,
              targetFor_of_entry h.lawful he hcase htarget, predicate_of_target]
          have hcases := delete_cases cursor.dialect key image
          rw [himage, Option.bind_some, hresolved, htold]
          generalize (key.bind fun key => cursor.dialect.delete key image) = made at hcases ⊢
          cases made with
          | error e => exact hcases
          | ok request =>
              obtain ⟨k, predicate, rfl, hmade, hfound, hsql, hparams⟩ := hcases
              exact ⟨cursor, k, image, predicate,
                ⟨hcursor, hkey, himage, hmade, hfound, hsql, hparams⟩, hfound⟩

/-- On whatever run of calls a connection is: a statement that ends in `WHERE CURRENT OF` and the
name of a static cursor, in whatever case, is sent with the predicate and the parameters of the
request that deletes the current row of the cursor, which is the request that a positioned delete of
this row sends. It fails if there is no such request, with the same error. It fails without anything
being sent if there is no cursor or no current row, or if that row has been deleted. -/
theorem execute_whereCurrentOf {config : Config} (hsteps : Steps { config := config } c) {id : Nat}
    (hnamed : c.session? link id = some named) {name : String}
    (hname : c.names.nameOf? id = some name)
    (hstatic : ∀ cursor, named.statement.cursor = some cursor → cursor.kind = .static)
    {other : Nat} (hother : c.session? link other = some executing)
    (hidle : executing.statement.pending = none) (hclosed : executing.statement.cursor = none)
    {sql : String} {clause : Sql.PositionedClause}
    (hclause : (Sql.StatementText.parse sql).positioned = some clause)
    (hcase : Text.sameName clause.cursor name = true) (params : List Value) :
    match named.currentDelete? with
    | none =>
        (∃ e, (executing.execute sql params).1 = .error e ∧ e.sqlstate = "34000") ∧
          (executing.execute sql params).2.link = link
    | some (.error e) =>
        (executing.execute sql params).1 = .error e ∧ (executing.execute sql params).2.link = link
    | some (.ok request) =>
        ∃ cursor key image predicate sent,
          named.DeletesCurrent cursor key image predicate request ∧
          (∀ row, cursor.current = some row → ∀ supplied,
            ((named.work cursor).setPosition row .delete supplied).2.link =
              (link.execute request).2) ∧
          (Sql.StatementText.parse sql).withPredicate? predicate.sql = some sent ∧
          (executing.execute sql params).2.link =
            (link.execute { sql := sent, params := params ++ request.params }).2 := by
  have hsound := sound_of_steps hsteps
  obtain ⟨-, -, hconfig, hnames, hlink⟩ := mem_of_session? hother
  -- The records and the row count of the call before are gone, which the names do not show.
  have hpredicate := predicateFor_of_sound hsound hnamed hname hstatic hcase
    (s := executing.onStatement fun t => { t with diagnostics := [], rowCount := none })
    hnames hconfig
  rw [Session.execute_eq_executePositioned hidle hclosed hclause]
  cases hdelete : named.currentDelete? with
  | none =>
      rw [hdelete] at hpredicate
      obtain ⟨message, hmessage⟩ := hpredicate
      rw [Session.executePositioned_error hmessage]
      exact ⟨⟨_, rfl, rfl⟩, hlink⟩
  | some made =>
      rw [hdelete] at hpredicate
      cases made with
      | error e =>
          rw [Session.executePositioned_error hpredicate]
          exact ⟨rfl, hlink⟩
      | ok request =>
          obtain ⟨cursor, key, image, predicate, hdeletes, hfound⟩ := hpredicate
          obtain ⟨sent, hsent⟩ : ∃ sent,
              (Sql.StatementText.parse sql).withPredicate? predicate.sql = some sent := by
            rw [Sql.StatementText.withPredicate?, hclause]
            exact ⟨_, rfl⟩
          refine ⟨cursor, key, image, predicate, sent, hdeletes, ?_, hsent, ?_⟩
          · intro row hrow supplied
            obtain ⟨-, -, -, -, hnamedLink⟩ := mem_of_session? hnamed
            rw [hdeletes.link_setPosition (hstatic cursor hdeletes.opened) hrow, hnamedLink]
          · rw [Session.link_executePositioned hfound hsent, hdeletes.params, ← hlink]
            rfl

/-- A call on a statement that there is. -/
def perform (c : Connection) (link : Link σ) (id : Nat) (call : StatementCall) :
    Connection × Link σ :=
  match c.callOn link id (·.perform call) with
  | some (_, c, link) => (c, link)
  | none => (c, link)

/-- One call after another, on any of the statements. -/
def performAll (c : Connection) (link : Link σ) : List (Nat × StatementCall) → Connection × Link σ
  | [] => (c, link)
  | (id, call) :: rest => (c.perform link id call).1.performAll (c.perform link id call).2 rest

theorem steps_perform (c : Connection) (link : Link σ) (id : Nat) (call : StatementCall) :
    Steps c (c.perform link id call).1 := by
  unfold perform
  split
  next hcall => exact .single (.call hcall)
  next => exact .refl

theorem steps_performAll (c : Connection) (link : Link σ) (calls : List (Nat × StatementCall)) :
    Steps c (c.performAll link calls).1 := by
  induction calls generalizing c link with
  | nil => exact .refl
  | cons entry rest ih =>
      obtain ⟨id, call⟩ := entry
      exact (c.steps_perform link id call).trans (ih _ _)

/-- Two statements, with a static cursor in mind for the first one. -/
def twoStatements : Connection :=
  (((Connection.mk {} {} [] 0).newStatement (some { cursorKind := .static })).2.newStatement
    none).2

/-- The first statement has fetched a note, under a name. -/
def notesFetched : Connection × Link MemoryServer :=
  twoStatements.performAll { server := MemoryServer.server, state := Session.noteServer }
    [(1, .execute "SELECT id, text FROM notes" []), (1, .setCursorName "Pen"), (1, .fetch .next)]

theorem steps_notesFetched : Steps { config := {} } notesFetched.1 :=
  (Relation.ReflTransGen.single (.newStatement _ _)).trans
    ((Relation.ReflTransGen.single (.newStatement _ _)).trans (steps_performAll _ _ _))

/-- The statement with the name. -/
def pen : Session MemoryServer :=
  (notesFetched.1.session? notesFetched.2 1).get rfl

/-- The statement without a cursor. -/
def idle : Session MemoryServer :=
  (notesFetched.1.session? notesFetched.2 2).get rfl

/-- The request that deletes the note. -/
def deleteNote : Request where
  sql := "DELETE FROM `notes` WHERE `id`=1"
  plan := some (.delete Session.notes [⟨"id", .integer, .integer 1⟩])

theorem execute_whereCurrentOf_pen :
    pen.currentDelete? = some (.ok deleteNote) ∧
      ∃ cursor key image predicate sent,
        pen.DeletesCurrent cursor key image predicate deleteNote ∧
        (∀ row, cursor.current = some row → ∀ supplied,
          ((pen.work cursor).setPosition row .delete supplied).2.link =
            (notesFetched.2.execute deleteNote).2) ∧
        (Sql.StatementText.parse "DELETE FROM notes WHERE CURRENT OF PEN").withPredicate?
          predicate.sql = some sent ∧
        (idle.execute "DELETE FROM notes WHERE CURRENT OF PEN" []).2.link =
          (notesFetched.2.execute { sql := sent }).2 := by
  have hdelete : pen.currentDelete? = some (.ok deleteNote) := rfl
  have hkinds : pen.statement.cursor.map Cursor.kind = some .static := rfl
  have hstatic : ∀ cursor, pen.statement.cursor = some cursor → cursor.kind = .static := by
    intro cursor hcursor
    rw [hcursor] at hkinds
    exact Option.some.inj hkinds
  have hpen : notesFetched.1.session? notesFetched.2 1 = some pen := rfl
  have hname : notesFetched.1.names.nameOf? 1 = some "Pen" := rfl
  have hidle : notesFetched.1.session? notesFetched.2 2 = some idle := rfl
  have hclause : (Sql.StatementText.parse "DELETE FROM notes WHERE CURRENT OF PEN").positioned =
      some ⟨"PEN", 18⟩ := rfl
  have hsent := execute_whereCurrentOf steps_notesFetched hpen hname hstatic hidle rfl rfl hclause
    rfl []
  rw [hdelete] at hsent
  exact ⟨hdelete, hsent⟩

end Connection

end ScrollCursor
