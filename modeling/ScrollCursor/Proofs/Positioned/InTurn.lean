import ScrollCursor.Proofs.Positioned.RowByRow
import ScrollCursor.Proofs.WriteBack.Assignments

/-! # Rows in turn

Updates and deletes take rows one after another. What is sent for a row, if anything, is decided by
the row alone, as the rows before it have left it, and not by what became of those. Only an answer
that counts a row changes the cursor, and then in the one slot that was written.
-/

namespace ScrollCursor

/-! ## Turns -/

/-- What is to be sent for a row. -/
structure Intent where
  id : SlotId
  /-- The values that the slot takes, or nothing if it is to be deleted. -/
  set : Option (List (Nat × Value))
  request : Request

namespace Intent

def status (i : Intent) : RowStatus :=
  match i.set with
  | some _ => .updated
  | none => .deleted

def change (i : Intent) (c : Cursor) : Cursor :=
  match i.set with
  | some assignments => Work.applySlot i.id assignments c
  | none => c.markDeleted i.id

end Intent

/-- What was sent for a row to a server in some state, and the answer. -/
structure Attempt (σ : Type) where
  intent : Intent
  state : σ
  answer : Except Error WriteAnswer

namespace Attempt

variable {σ : Type}

def write (a : Attempt σ) : SentWrite σ :=
  ⟨a.state, a.intent.request, a.answer⟩

def affected (a : Attempt σ) : Nat :=
  match a.answer with
  | .ok answer => answer.affected
  | .error _ => 0

/-- Only an answer that counts a row changes the cursor. -/
def change (a : Attempt σ) (c : Cursor) : Cursor :=
  if a.affected = 0 then c else a.intent.change c

def result (a : Attempt σ) : RowResult :=
  match a.answer with
  | .ok answer =>
      if answer.affected = 0 then .noMatch else .done answer.affected a.intent.status
  | .error e => .failed e

end Attempt

/-- The turn of a row, in which one attempt is made at most. -/
structure Turn (σ : Type) where
  row : Nat
  attempt : Option (Attempt σ)

namespace Turn

variable {σ : Type}

def affected (t : Turn σ) : Nat :=
  (t.attempt.map Attempt.affected).getD 0

def change (t : Turn σ) (c : Cursor) : Cursor :=
  match t.attempt with
  | some a => a.change c
  | none => c

/-- What is sent in the turn. -/
def write? (t : Turn σ) : Option (SentWrite σ) :=
  t.attempt.map Attempt.write

/-- The turn changed a slot. -/
def Changes (t : Turn σ) (id : SlotId) : Prop :=
  ∃ a, t.attempt = some a ∧ a.intent.id = id ∧ 0 < a.affected

end Turn

/-- The cursor after some turns. -/
def Cursor.afterTurns {σ : Type} (c : Cursor) (turns : List (Turn σ)) : Cursor :=
  turns.foldl (fun c t => t.change c) c

/-- Each turn attempts what is to be sent for its row in the state that the turns before have
left. -/
def InTurn {σ : Type} (intent? : Cursor → Nat → Option Intent) : Cursor → List (Turn σ) → Prop
  | _, [] => True
  | c, t :: rest =>
      t.attempt.map Attempt.intent = intent? c t.row ∧ InTurn intent? (t.change c) rest

/-! ## What is to be sent -/

namespace Cursor

/-- What the server holds of a slot that can be written. -/
def liveImage? (c : Cursor) (id : SlotId) : Option Record := do
  let slot ← c.buffer.slot? id
  if slot.isDeleted then none else some slot.image

/-- A slot that is there is to be updated with what its row of the bound arrays assigns, if that is
anything and can be written. -/
def updateIntent? (c : Cursor) (b : Bindings) (supplied : Supplied) (key : KeySet) (row : Nat)
    (id : SlotId) : Option Intent :=
  (c.liveImage? id).bind fun image =>
    match b.assignments supplied (row - 1) c.descriptor key.table with
    | .error _ | .ok [] => none
    | .ok assignments =>
        (c.dialect.update key c.descriptor image assignments).toOption.map fun request =>
          ⟨id, some assignments, request⟩

/-- A slot that is there is to be deleted, if that can be written. -/
def deleteIntent? (c : Cursor) (key : KeySet) (id : SlotId) : Option Intent :=
  (c.liveImage? id).bind fun image =>
    (c.dialect.delete key image).toOption.map fun request => ⟨id, none, request⟩

end Cursor

/-- The operation updates or deletes rows that there are. -/
def Operation.Rewrites : Operation → Prop
  | .setPosition _ .update | .setPosition _ .delete => True
  | .bulk .updateByBookmark | .bulk .deleteByBookmark => True
  | _ => False

/-- What an operation is to send for a row: for the row of the rowset, or for the one that its
bookmark names. -/
def Operation.intent? (operation : Operation) (key : KeySet) (supplied : Supplied) (b : Bindings)
    (c : Cursor) (row : Nat) : Option Intent :=
  match operation with
  | .setPosition _ .update =>
      (c.slotOf? row).bind (c.updateIntent? b supplied key row)
  | .setPosition _ .delete =>
      (c.slotOf? row).bind (c.deleteIntent? key)
  | .bulk .updateByBookmark =>
      ((b.bookmark? (row - 1)).bind c.bookmarks.resolve?).bind (c.updateIntent? b supplied key row)
  | .bulk .deleteByBookmark =>
      ((b.bookmark? (row - 1)).bind c.bookmarks.resolve?).bind (c.deleteIntent? key)
  | _ => none

namespace Link

variable {σ : Type} {l l' l'' : Link σ}

/-- Between two states of a link just these statements went over it, and nothing else. -/
structure Executed (l l' : Link σ) (writes : List (SentWrite σ)) : Prop where
  sent : l.Sent l' writes
  events : l'.events = l.events ++ writes.map fun write => .execute write.request

theorem Executed.refl (l : Link σ) : l.Executed l [] :=
  ⟨.refl l, (List.append_nil _).symm⟩

theorem Executed.append {first second : List (SentWrite σ)} (h : l.Executed l' first)
    (h' : l'.Executed l'' second) : l.Executed l'' (first ++ second) := by
  refine ⟨h.sent.append h'.sent, ?_⟩
  rw [h'.events, h.events, List.map_append, List.append_assoc]

/-- A statement that is sent is executed in the state it meets. -/
theorem executed_execute (l : Link σ) (request : Request) :
    l.Executed (l.execute request).2
      [⟨l.state, request, (l.server.execute request l.state).1⟩] :=
  ⟨l.sent_execute request, rfl⟩

end Link

/-! ## One turn -/

/-- The result of a row for which nothing was sent. -/
def RowResult.Unsent (r : RowResult) : Prop :=
  r = .skipped ∨ ∃ e, r = .failed e

/-- The row is reported as its turn went. -/
structure Turn.Reported {σ : Type} (t : Turn σ) (r : RowReport) : Prop where
  row : r.row = t.row
  attempted : ∀ a, t.attempt = some a → r.result = a.result
  unsent : t.attempt = none → r.result.Unsent

namespace Work

variable {σ : Type} {w v u after : Work σ} {intent? : Cursor → Nat → Option Intent} {key : KeySet}
  {supplied : Supplied} {id : SlotId} {row : Nat} {i : Intent} {o : OperationOutcome}

/-- The work of a turn, with its report. -/
structure TookTurn (intent? : Cursor → Nat → Option Intent) (v : Work σ) (t : Turn σ)
    (r : RowReport) (u : Work σ) : Prop where
  intended : t.attempt.map Attempt.intent = intent? v.cursor t.row
  cursor : u.cursor = t.change v.cursor
  bindings : u.bindings = v.bindings
  diagnostics : u.diagnostics = v.diagnostics
  link : v.link.Executed u.link t.write?.toList
  reported : t.Reported r

/-- Nothing is to be sent, and nothing happens. -/
theorem TookTurn.pass (hintent : intent? v.cursor row = none) {result : RowResult}
    (hresult : result.Unsent) (before : RowStatus) :
    TookTurn intent? v ⟨row, none⟩ ⟨row, result, before⟩ v where
  intended := hintent.symm
  cursor := rfl
  bindings := rfl
  diagnostics := rfl
  link := .refl _
  reported := ⟨rfl, fun _ h => (by cases h), fun _ => hresult⟩

/-- A row with something to be done is given its turn by sending the request. -/
theorem tookTurn_send (hintent : intent? v.cursor row = some i) (before : RowStatus) :
    TookTurn intent? v
      ⟨row, some ⟨i, v.link.state, (v.link.server.execute i.request v.link.state).1⟩⟩
      ⟨row, (v.send i.request i.change i.status).1, before⟩
      (v.send i.request i.change i.status).2 := by
  have hlink := v.link.executed_execute i.request
  have hanswer : (v.link.server.execute i.request v.link.state).1 =
      (v.link.execute i.request).1 := rfl
  rw [hanswer] at hlink ⊢
  unfold send
  generalize v.link.execute i.request = executed at hlink ⊢
  obtain ⟨answer, link⟩ := executed
  have hreported {result : RowResult} (a : Attempt σ) (hresult : result = a.result) :
      (⟨row, some a⟩ : Turn σ).Reported ⟨row, result, before⟩ :=
    ⟨rfl, fun _ ha => Option.some.inj ha ▸ hresult, fun h => by cases h⟩
  cases answer with
  | error e => exact ⟨hintent.symm, rfl, rfl, rfl, hlink, hreported _ rfl⟩
  | ok answer =>
      dsimp only
      by_cases hnone : answer.affected = 0
      · rw [if_pos hnone]
        exact ⟨hintent.symm, (if_pos hnone).symm, rfl, rfl, hlink,
          hreported _ (if_pos hnone).symm⟩
      · rw [if_neg hnone]
        exact ⟨hintent.symm, (if_neg hnone).symm, rfl, rfl, hlink,
          hreported _ (if_neg hnone).symm⟩

theorem liveImage_eq (v : Work σ) (id : SlotId) :
    (∃ image, v.liveImage id = .ok image ∧ v.cursor.liveImage? id = some image) ∨
      ∃ e, v.liveImage id = .error e ∧ v.cursor.liveImage? id = none := by
  unfold liveImage Cursor.liveImage?
  cases hslot : v.cursor.buffer.slot? id with
  | none => exact Or.inr ⟨_, rfl, rfl⟩
  | some slot =>
      cases hdeleted : slot.isDeleted with
      | false => exact Or.inl ⟨slot.image, by simp [hdeleted], by simp [hdeleted]⟩
      | true => exact Or.inr ⟨_, by simp [hdeleted]; rfl, by simp [hdeleted]⟩

/-- What is to be sent is sent, or there is nothing to send and nothing happens. -/
def Sends (v : Work σ) (intent : Option Intent) (answer : RowResult × Work σ) : Prop :=
  (intent = none ∧ ∃ result, answer = (result, v) ∧ result.Unsent) ∨
    ∃ i, intent = some i ∧ answer = v.send i.request i.change i.status

/-- An update sends what it means to do to the slot, or nothing. -/
theorem sends_updateSlot (v : Work σ) (key : KeySet) (supplied : Supplied) (row : Nat)
    (id : SlotId) :
    v.Sends (v.cursor.updateIntent? v.bindings supplied key row id)
      (v.updateSlot key supplied id (row - 1)) := by
  unfold updateSlot Cursor.updateIntent?
  rcases v.liveImage_eq id with ⟨image, hlive, hlive'⟩ | ⟨e, hlive, hlive'⟩
  · rw [hlive, hlive']
    cases hassignments : v.bindings.assignments supplied (row - 1) v.cursor.descriptor
        key.table with
    | error e => exact Or.inl ⟨rfl, _, rfl, Or.inr ⟨e, rfl⟩⟩
    | ok assignments =>
        cases assignments with
        | nil => exact Or.inl ⟨rfl, _, rfl, Or.inl rfl⟩
        | cons first rest =>
            dsimp only
            cases hrequest : v.cursor.dialect.update key v.cursor.descriptor image
                (first :: rest) with
            | error e =>
                refine Or.inl ⟨?_, _, rfl, Or.inr ⟨e, rfl⟩⟩
                simp [Except.toOption, hrequest]
            | ok request =>
                refine Or.inr ⟨⟨id, some (first :: rest), request⟩, ?_, rfl⟩
                simp [Except.toOption, hrequest]
  · rw [hlive, hlive']
    exact Or.inl ⟨rfl, _, rfl, Or.inr ⟨e, rfl⟩⟩

/-- A deletion sends what it means to do to the slot, or nothing. -/
theorem sends_deleteSlot (v : Work σ) (key : KeySet) (id : SlotId) :
    v.Sends (v.cursor.deleteIntent? key id) (v.deleteSlot key id) := by
  unfold deleteSlot Cursor.deleteIntent?
  rcases v.liveImage_eq id with ⟨image, hlive, hlive'⟩ | ⟨e, hlive, hlive'⟩
  · rw [hlive, hlive']
    dsimp only
    cases hrequest : v.cursor.dialect.delete key image with
    | error e =>
        refine Or.inl ⟨?_, _, rfl, Or.inr ⟨e, rfl⟩⟩
        simp [Except.toOption, hrequest]
    | ok request =>
        refine Or.inr ⟨⟨id, none, request⟩, ?_, rfl⟩
        simp [Except.toOption, hrequest]
  · rw [hlive, hlive']
    exact Or.inl ⟨rfl, _, rfl, Or.inr ⟨e, rfl⟩⟩

theorem sends_onRow {f : Work σ → SlotId → RowResult × Work σ} {intentOf : SlotId → Option Intent}
    (hf : ∀ id, v.Sends (intentOf id) (f v id)) (row : Nat) :
    v.Sends ((v.cursor.slotOf? row).bind intentOf) ((v.onRow f row).1, (v.onRow f row).2.2) := by
  unfold onRow
  cases v.cursor.slotOf? row with
  | none => exact Or.inl ⟨rfl, _, rfl, Or.inr ⟨_, rfl⟩⟩
  | some id => exact hf id

theorem sends_onBookmark {f : Work σ → SlotId → Nat → RowResult × Work σ}
    {intentOf : SlotId → Option Intent} (row : Nat)
    (hf : ∀ id, v.Sends (intentOf id) (f v id row)) :
    v.Sends (((v.bindings.bookmark? (row - 1)).bind v.cursor.bookmarks.resolve?).bind intentOf)
      ((v.onBookmark f row).1, (v.onBookmark f row).2.2) := by
  unfold onBookmark
  cases v.bindings.bookmark? (row - 1) with
  | none => exact Or.inl ⟨rfl, _, rfl, Or.inl rfl⟩
  | some b =>
      rw [Option.bind_some]
      dsimp only
      cases v.cursor.bookmarks.resolve? b with
      | none => exact Or.inl ⟨rfl, _, rfl, Or.inr ⟨_, rfl⟩⟩
      | some id => exact hf id

/-- What sends what it means to do has taken its turn. -/
theorem Sends.exists_tookTurn {answer : RowResult × Work σ}
    (h : v.Sends (intent? v.cursor row) answer) (before : RowStatus) :
    ∃ attempt, TookTurn intent? v ⟨row, attempt⟩ ⟨row, answer.1, before⟩ answer.2 := by
  rcases h with ⟨hnone, result, rfl, hresult⟩ | ⟨i, hi, rfl⟩
  · exact ⟨none, .pass hnone hresult before⟩
  · exact ⟨_, tookTurn_send hi before⟩

/-! ## One turn after another -/

/-- The work of some turns, with their reports. -/
structure TookTurns (intent? : Cursor → Nat → Option Intent) (v : Work σ) (turns : List (Turn σ))
    (reports : List RowReport) (u : Work σ) : Prop where
  intended : InTurn intent? v.cursor turns
  cursor : u.cursor = v.cursor.afterTurns turns
  bindings : u.bindings = v.bindings
  diagnostics : u.diagnostics = v.diagnostics
  link : v.link.Executed u.link (turns.filterMap Turn.write?)
  reports : List.Forall₂ Turn.Reported turns reports

theorem TookTurns.nil (v : Work σ) : TookTurns intent? v [] [] v :=
  ⟨trivial, rfl, rfl, rfl, .refl _, .nil⟩

/-- A turn and the turns after it are turns one after the other. -/
theorem TookTurn.cons {t : Turn σ} {r : RowReport} {turns : List (Turn σ)}
    {reports : List RowReport} (h : TookTurn intent? v t r u)
    (hrest : TookTurns intent? u turns reports after) :
    TookTurns intent? v (t :: turns) (r :: reports) after where
  intended := ⟨h.intended, h.cursor ▸ hrest.intended⟩
  cursor := by
    rw [hrest.cursor, h.cursor]
    rfl
  bindings := hrest.bindings.trans h.bindings
  diagnostics := hrest.diagnostics.trans h.diagnostics
  link := by
    have hlink := h.link.append hrest.link
    cases hwrite : t.write? with
    | none =>
        rw [List.filterMap_cons_none hwrite]
        rwa [hwrite] at hlink
    | some write =>
        rw [List.filterMap_cons_some hwrite]
        rwa [hwrite] at hlink
  reports := .cons h.reported hrest.reports

/-- Every row has its turn. -/
theorem exists_tookTurns {f : Work σ → Nat → RowResult × RowStatus × Work σ} {b : Bindings}
    (hf : ∀ (v : Work σ) row, v.bindings = b →
      v.Sends (intent? v.cursor row) ((f v row).1, (f v row).2.2))
    (hb : v.bindings = b) (rows : List Nat) :
    ∃ turns : List (Turn σ), turns.map Turn.row = rows ∧
      TookTurns intent? v turns (forRows f v rows).1 (forRows f v rows).2 := by
  induction rows generalizing v with
  | nil => exact ⟨[], rfl, .nil v⟩
  | cons row rest ih =>
      obtain ⟨attempt, hturn⟩ := (hf v row hb).exists_tookTurn (f v row).2.1
      obtain ⟨turns, hrows, hturns⟩ := ih (hturn.bindings.trans hb)
      exact ⟨⟨row, attempt⟩ :: turns, congrArg (row :: ·) hrows, hturn.cons hturns⟩

/-- Once the key was known the rows of an operation had their turns, and then were reported. -/
def TakesTurns (w : Work σ) (operation : Operation) (supplied : Supplied) (o : OperationOutcome)
    (after : Work σ) : Prop :=
  ∃ key turns reports u, w.keySet.1 = .ok key ∧ turns.map Turn.row = w.operatedRows operation ∧
    TookTurns (operation.intent? key supplied w.bindings) w.keySet.2 turns reports u ∧
    o = .ofReports reports ∧ after = ((u.onCursor Cursor.syncStatuses).finish reports).2

/-- Work on one row after another gives each of them its turn. -/
theorem takesTurns_of_forRows {operation : Operation}
    {f : KeySet → Work σ → Nat → RowResult × RowStatus × Work σ}
    (hran : ∃ key v reports u, w.keySet = (.ok key, v) ∧
      forRows (f key) v (w.operatedRows operation) = (reports, u) ∧
      o = .ofReports reports ∧ after = ((u.onCursor Cursor.syncStatuses).finish reports).2)
    (hf : ∀ key (v : Work σ) row, v.bindings = w.bindings →
      v.Sends (operation.intent? key supplied w.bindings v.cursor row)
        ((f key v row).1, (f key v row).2.2)) :
    w.TakesTurns operation supplied o after := by
  obtain ⟨key, v, reports, u, hkey, hran, ho, hafter⟩ := hran
  have hbindings : v.bindings = w.bindings := by
    have hsame := (ExactServer.keySet_frame w).1
    rwa [hkey] at hsame
  obtain ⟨turns, hrows, hturns⟩ := exists_tookTurns (hf key) hbindings (w.operatedRows operation)
  rw [hran] at hturns
  refine ⟨key, turns, reports, u, ?_, hrows, ?_, ho, hafter⟩
  · rw [hkey]
  · rw [hkey]
    exact hturns

theorem exists_forRows_of_writeByBookmark {rows : List Nat}
    {f : KeySet → Work σ → SlotId → Nat → RowResult × Work σ}
    (h : w.writeByBookmark rows f = (.ok o, after)) :
    ∃ key v reports u, w.keySet = (.ok key, v) ∧
      forRows (onBookmark (f key)) v rows = (reports, u) ∧
      o = .ofReports reports ∧ after = ((u.onCursor Cursor.syncStatuses).finish reports).2 := by
  unfold writeByBookmark at h
  split at h
  · cases h
  next key v hkey =>
    cases h
    exact ⟨key, v, _, _, hkey, rfl, rfl, rfl⟩

/-- An update or a delete of rows of a static cursor gives each of them its turn. -/
theorem takesTurns_of_operate {operation : Operation} (hkind : w.cursor.kind = .static)
    (hrewrites : operation.Rewrites) (h : w.operate supplied operation = (.ok o, after)) :
    w.TakesTurns operation supplied o after := by
  cases operation with
  | setPosition number operation =>
      cases operation with
      | position | refresh | add => cases hrewrites
      | update =>
          have hwritten := writeRows_of_updateRows hkind h
          refine takesTurns_of_forRows (exists_forRows_of_writeRows hwritten) fun key v row hv => ?_
          exact sends_onRow (fun id => hv ▸ v.sends_updateSlot key supplied row id) row
      | delete =>
          have hwritten := (deleteRows_eq hkind _).symm.trans h
          refine takesTurns_of_forRows (exists_forRows_of_writeRows hwritten) fun key v row _ => ?_
          exact sends_onRow (fun id => v.sends_deleteSlot key id) row
  | bulk operation =>
      obtain ⟨e, hrefused⟩ | hopen := w.bulk_cases operation supplied
      · rw [operate, hrefused] at h
        cases h
      rw [operate, hopen] at h
      cases operation with
      | add | fetchByBookmark => cases hrewrites
      | updateByBookmark =>
          have hwritten : w.updateByBookmark supplied
              (w.operatedRows (.bulk .updateByBookmark)) = (.ok o, after) :=
            overBookmarks_eq_ok BulkOperation.noConfusion h
          refine takesTurns_of_forRows (exists_forRows_of_writeByBookmark hwritten)
            fun key v row hv => ?_
          exact hv ▸ sends_onBookmark row fun id => v.sends_updateSlot key supplied row id
      | deleteByBookmark =>
          have hwritten : w.deleteByBookmark (w.operatedRows (.bulk .deleteByBookmark)) =
              (.ok o, after) := overBookmarks_eq_ok BulkOperation.noConfusion h
          refine takesTurns_of_forRows (exists_forRows_of_writeByBookmark hwritten)
            fun key v row hv => ?_
          exact hv ▸ sends_onBookmark row fun id => v.sends_deleteSlot key id

end Work

end ScrollCursor
