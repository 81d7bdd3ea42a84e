import ScrollCursor.Proofs.Cursor.CurrentRow
import ScrollCursor.Proofs.Cursor.Ledger
import ScrollCursor.Proofs.Statement.Operations
import ScrollCursor.Proofs.Table.ExactServer

/-! # Refused operations

An operation on rows that is refused as a whole has asked the server for metadata at most, and has
changed nothing that its caller sees. There is one exception: a dynamic cursor reads the row of a
single update again before it finds that there is nothing to set in it.
-/

namespace ScrollCursor

/-! ## Askings for metadata -/

namespace Link

variable {σ : Type} {l l' : Link σ}

/-- Between two states of a link nothing but metadata was asked for. -/
def MetadataOnly (l l' : Link σ) : Prop :=
  l'.server = l.server ∧ ∃ tables : List TableRef,
    l'.events = l.events ++ tables.map Event.metadata ∧
    l'.state = (tables.map Event.metadata).foldl l.server.after l.state

theorem MetadataOnly.refl (l : Link σ) : l.MetadataOnly l :=
  ⟨rfl, [], (List.append_nil _).symm, rfl⟩

theorem metadataOnly_metadata (l : Link σ) (table : TableRef) :
    l.MetadataOnly (l.metadata table).2 :=
  ⟨rfl, [table], rfl, rfl⟩

/-- A query goes on record, whatever is made of its answer. -/
theorem exists_events_queryRow (l : Link σ) (request : Request) :
    ∃ more, (l.queryRow request).2.events = l.events ++ .query request :: more := by
  have hasked : (l.query request).2.events = l.events ++ [.query request] := rfl
  unfold queryRow
  generalize l.query request = asked at hasked ⊢
  obtain ⟨answer, after⟩ := asked
  cases answer with
  | error e => exact ⟨[], hasked⟩
  | ok result =>
      have hpulled : (after.pulled 1).events = l.events ++ .query request :: [.pull] := by
        change after.events ++ [.pull] = _
        rw [show after.events = l.events ++ [.query request] from hasked, List.append_assoc]
        rfl
      dsimp only
      split
      all_goals exact ⟨[.pull], hpulled⟩

theorem MetadataOnly.not_of_query {request : Request} {more : List Event}
    (hmetadata : l.MetadataOnly l') {l'' : Link σ}
    (hquery : l''.events = l'.events ++ .query request :: more) : ¬ l.MetadataOnly l'' := by
  rintro ⟨-, tables, hevents, -⟩
  obtain ⟨-, before, hbefore, -⟩ := hmetadata
  rw [hquery, hbefore, List.append_assoc, List.append_cancel_left_eq] at hevents
  have hmem : Event.query request ∈ tables.map Event.metadata := by
    rw [← hevents]
    exact List.mem_append_right _ List.mem_cons_self
  obtain ⟨table, -, htable⟩ := List.mem_map.mp hmem
  cases htable

end Link

/-! ## Work that only learns the key -/

/-- The cursor without what is known of its key. -/
def Cursor.keyless (c : Cursor) : Cursor :=
  { c with key := none }

namespace RowBuffer

variable {b : RowBuffer} {id : SlotId} {slot : RowSlot}

theorem modify_eq_self {f : RowSlot → RowSlot} (hslot : b.slot? id = some slot)
    (hf : f slot = slot) : b.modify id f = b := by
  have hslots : b.slots.modify id f = b.slots := by
    refine List.ext_getElem? fun other => ?_
    rw [List.getElem?_modify]
    split
    next hid =>
      subst hid
      rw [show b.slots[id]? = some slot from hslot]
      exact congrArg some hf
    next => exact Option.map_id'
  rw [RowBuffer.modify, hslots]

/-- Only the status that a slot has leaves the rows as they are. -/
theorem setStatus_eq_self_iff {status : RowStatus} (hslot : b.slot? id = some slot) :
    b.setStatus id status = b ↔ slot.status = status := by
  constructor
  · intro hsame
    have hmarked := slot?_modify_self (RowSlot.withStatus · status) hslot
    rw [show b.modify id _ = b from hsame, hslot] at hmarked
    exact congrArg RowSlot.status (Option.some.inj hmarked)
  · rintro rfl
    exact modify_eq_self hslot rfl

end RowBuffer

namespace Work

variable {σ : Type} {w v after : Work σ} {key : KeySet} {row : Nat} {e : Error}

/-- At most the key has become known. -/
structure KeyOnly (w w' : Work σ) : Prop where
  cursor : w'.cursor.keyless = w.cursor.keyless
  bindings : w'.bindings = w.bindings
  link : w.link.MetadataOnly w'.link

theorem KeyOnly.refl (w : Work σ) : w.KeyOnly w :=
  ⟨rfl, rfl, .refl _⟩

theorem keyOnly_keySet (w : Work σ) : w.KeyOnly w.keySet.2 := by
  have hlink : w.link.MetadataOnly w.resolveKey.2 :=
    resolveKey_of_metadata (.refl _) w.link.metadataOnly_metadata
  unfold keySet
  split
  · exact .refl w
  · exact ⟨rfl, rfl, hlink⟩

/-! ## Reading one row again -/

/-- Reading a row again leaves a mark: the row is there, and either its key can be written, so that
the server is asked, or the row is not in error yet. -/
def ReadsAgain (w : Work σ) (key : KeySet) (row : Nat) : Prop :=
  ∃ id slot, w.cursor.slotOf? row = some id ∧ w.cursor.buffer.slot? id = some slot ∧
    slot.isDeleted = false ∧
    ((∃ found, w.cursor.dialect.selectByKey key w.cursor.descriptor slot.image
        (w.cursor.options.concurrency == .lock) = .ok found) ∨
      slot.status ≠ .error)

/-- A row that is not there, or deleted, is left alone. -/
theorem rereadRow_of_absent
    (h : ∀ id slot, w.cursor.slotOf? row = some id → w.cursor.buffer.slot? id = some slot →
      slot.isDeleted = true) : rereadRow key w row = w := by
  unfold rereadRow
  split
  · rfl
  next id hid =>
    split
    · rfl
    next slot hslot => exact if_pos (h id slot hid hslot)

/-- A row whose key cannot be written is marked without the server being asked. -/
theorem rereadRow_of_unwritable {id : SlotId} {slot : RowSlot}
    (hid : w.cursor.slotOf? row = some id) (hslot : w.cursor.buffer.slot? id = some slot)
    (hlive : slot.isDeleted = false)
    (hselect : w.cursor.dialect.selectByKey key w.cursor.descriptor slot.image
      (w.cursor.options.concurrency == .lock) = .error e) :
    rereadRow key w row =
      { w with
        cursor := w.cursor.modifySlot id (RowSlot.withStatus · .error)
        diagnostics := w.diagnostics ++ [(Diagnostic.ofError e).forRow row] } := by
  unfold rereadRow readByKey
  simp [hid, hslot, hlive, hselect]

/-- A row whose key can be written is asked for. -/
theorem exists_events_rereadRow {id : SlotId} {slot : RowSlot} {request : Request}
    {ordinals : List Nat} (hid : w.cursor.slotOf? row = some id)
    (hslot : w.cursor.buffer.slot? id = some slot) (hlive : slot.isDeleted = false)
    (hselect : w.cursor.dialect.selectByKey key w.cursor.descriptor slot.image
      (w.cursor.options.concurrency == .lock) = .ok (request, ordinals)) :
    ∃ more, (rereadRow key w row).link.events = w.link.events ++ .query request :: more := by
  have hasked := w.link.exists_events_queryRow request
  have hread : (rereadRow key w row).link = (w.link.queryRow request).2 := by
    unfold rereadRow readByKey
    simp only [hid, hslot, hlive, hselect, Bool.false_eq_true, if_false]
    generalize w.link.queryRow request = answered
    obtain ⟨_ | _ | _, _⟩ := answered <;> rfl
  rw [hread]
  exact hasked

/-- After the key has become known, reading a row again is seen just if it leaves a mark. -/
theorem keyOnly_rereadRow_iff (hkey : w.KeyOnly v) :
    w.KeyOnly (rereadRow key v row) ↔ ¬ v.ReadsAgain key row := by
  by_cases hthere : ∀ id slot, v.cursor.slotOf? row = some id →
      v.cursor.buffer.slot? id = some slot → slot.isDeleted = true
  · rw [rereadRow_of_absent hthere]
    refine iff_of_true hkey ?_
    rintro ⟨id, slot, hid, hslot, hlive, -⟩
    rw [hthere id slot hid hslot] at hlive
    cases hlive
  · simp only [not_forall, Bool.not_eq_true] at hthere
    obtain ⟨id, slot, hid, hslot, hlive⟩ := hthere
    cases hselect : v.cursor.dialect.selectByKey key v.cursor.descriptor slot.image
        (v.cursor.options.concurrency == .lock) with
    | ok found =>
        obtain ⟨more, hevents⟩ := exists_events_rereadRow hid hslot hlive hselect
        refine iff_of_false (fun hsame => hkey.link.not_of_query hevents hsame.link) ?_
        exact not_not.mpr ⟨id, slot, hid, hslot, hlive, Or.inl ⟨found, hselect⟩⟩
    | error e =>
        rw [rereadRow_of_unwritable hid hslot hlive hselect]
        have hsame := @RowBuffer.setStatus_eq_self_iff _ _ _ .error hslot
        constructor
        · rintro hkept ⟨id', slot', hid', hslot', -, hmarks⟩
          cases hid.symm.trans hid'
          cases hslot.symm.trans hslot'
          rcases hmarks with ⟨found, hfound⟩ | hstatus
          · cases hselect.symm.trans hfound
          · exact hstatus (hsame.mp (congrArg Cursor.buffer (hkept.cursor.trans hkey.cursor.symm)))
        · intro hnone
          have hstatus : slot.status = .error := by
            by_contra hne
            exact hnone ⟨id, slot, hid, hslot, hlive, Or.inr hne⟩
          have hbuffer : v.cursor.buffer.modify id (RowSlot.withStatus · .error) =
              v.cursor.buffer := hsame.mpr hstatus
          refine ⟨?_, hkey.bindings, hkey.link⟩
          rw [← hkey.cursor, Cursor.modifySlot, hbuffer]

/-- The row is as easily read again before the key is known. -/
theorem readsAgain_keySet_iff : w.keySet.2.ReadsAgain key row ↔ w.ReadsAgain key row := by
  unfold keySet
  split <;> exact Iff.rfl

/-! ## Refused operations -/

/-- The operation is an update of one row of a dynamic cursor, which reads the row again first. -/
def ReadsFirst (w : Work σ) (operation : Operation) : Prop :=
  ∃ row key, operation = .setPosition row .update ∧ w.cursor.kind = .dynamic ∧
    w.keySet.1 = .ok key ∧ w.ReadsAgain key row

theorem reread_keySet (hkey : w.keySet.1 = .ok key) (rows : List Nat) :
    w.keySet.2.reread rows = rows.foldl (rereadRow key) w.keySet.2 := by
  have hcached := w.key_keySet
  unfold reread
  rw [show w.keySet.2.keySet = (.ok key, w.keySet.2) by rw [keySet, hcached, hkey]]

theorem prepareWrite_error {rows : List Nat} (h : w.prepareWrite rows = (.error e, after)) :
    after = w.keySet.2 := by
  unfold prepareWrite at h
  split at h
  next hkey =>
    cases h
    rw [hkey]
  next => cases h

/-- With nothing to wait for, the check fails for a single row in which nothing is set. -/
theorem eq_degreeMismatch_of_checkDegree
    (hbound : row ≠ 0 → w.bindings.dataAtExecColumns (row - 1) = [])
    (h : w.checkDegree key [] row = .error e) : row ≠ 0 ∧ e = .degreeMismatch := by
  unfold checkDegree at h
  split at h
  · cases h
  next hrow =>
    obtain ⟨assignments, hassignments⟩ :=
      Bindings.exists_assignments (hbound hrow) [] w.cursor.descriptor key.table
    rw [hassignments] at h
    dsimp only at h
    split at h
    · cases h
      exact ⟨hrow, rfl⟩
    · cases h

/-- An update that is refused found no key, or nothing to set in its only row, which a dynamic
cursor has read again by then. -/
theorem update_error (hbound : row ≠ 0 → w.bindings.dataAtExecColumns (row - 1) = [])
    (h : w.setPosition row .update [] = (.error e, after)) :
    ((∃ e', w.keySet.1 = .error e') ∧ after = w.keySet.2) ∨
      ∃ key, w.keySet.1 = .ok key ∧ e = .degreeMismatch ∧
        after = if w.cursor.kind = .dynamic then rereadRow key w.keySet.2 row else w.keySet.2 := by
  have hkind : w.keySet.2.cursor.kind = w.cursor.kind := w.keySet_changes.sameFrame.1
  dsimp only [setPosition, updateRows, prepareWrite] at h
  obtain ⟨found, hfound⟩ : ∃ found, w.keySet.1 = found := ⟨_, rfl⟩
  rw [show w.keySet = (found, w.keySet.2) from Prod.ext hfound rfl] at h
  cases found with
  | error e' =>
      cases h
      exact Or.inl ⟨⟨_, hfound⟩, rfl⟩
  | ok key =>
      dsimp only at h
      obtain ⟨prepared, hprepared⟩ : ∃ prepared, (if w.keySet.2.cursor.kind = .dynamic then
          w.keySet.2.reread (w.targetRows row .update) else w.keySet.2) = prepared := ⟨_, rfl⟩
      have hbindings : prepared.bindings = w.bindings := by
        rw [← hprepared, ← w.keyOnly_keySet.bindings]
        split
        · exact bindings_reread _ _
        · rfl
      rw [hprepared] at h
      split at h
      next hdegree =>
        cases h
        obtain ⟨hrow, rfl⟩ := eq_degreeMismatch_of_checkDegree (hbindings ▸ hbound) hdegree
        have htarget : w.targetRows row .update = [row] := if_pos hrow
        rw [hkind, htarget, reread_keySet hfound] at hprepared
        exact Or.inr ⟨key, hfound, rfl, hprepared.symm⟩
      next => cases h

theorem keyOnly_update_iff (hbound : row ≠ 0 → w.bindings.dataAtExecColumns (row - 1) = [])
    (h : w.setPosition row .update [] = (.error e, after)) :
    (w.KeyOnly after ↔ ¬ w.ReadsFirst (.setPosition row .update)) ∧
      (w.ReadsFirst (.setPosition row .update) → e = .degreeMismatch) := by
  rcases update_error hbound h with ⟨⟨e', herror⟩, rfl⟩ | ⟨key, hkey, rfl, rfl⟩
  · have hnone : ¬ w.ReadsFirst (.setPosition row .update) := by
      rintro ⟨-, key, -, -, hkey, -⟩
      cases herror.symm.trans hkey
    exact ⟨iff_of_true w.keyOnly_keySet hnone, fun hreads => absurd hreads hnone⟩
  · refine ⟨?_, fun _ => rfl⟩
    split
    next hdynamic =>
      rw [keyOnly_rereadRow_iff w.keyOnly_keySet, readsAgain_keySet_iff]
      refine not_congr ⟨fun hreads => ⟨row, key, rfl, hdynamic, hkey, hreads⟩, ?_⟩
      rintro ⟨_, key', heq, -, hkey', hreads⟩
      cases heq
      cases hkey.symm.trans hkey'
      exact hreads
    next hstatic =>
      refine iff_of_true w.keyOnly_keySet ?_
      rintro ⟨-, -, -, hdynamic, -, -⟩
      exact hstatic hdynamic

/-- The key does not depend on what is on record. -/
theorem keySet_fst_congr (hcursor : v.cursor = w.cursor) (hlink : v.link = w.link) :
    v.keySet.1 = w.keySet.1 := by
  unfold keySet resolveKey
  rw [hcursor, hlink]
  split <;> rfl

/-- An operation that is refused has shown nothing but the key, unless it read a row first. -/
theorem keyOnly_operate_iff {operation : Operation}
    (hbound : ∀ row, row ≠ 0 → operation = .setPosition row .update →
      w.bindings.dataAtExecColumns (row - 1) = [])
    (h : w.operate [] operation = (.error e, after)) :
    (w.KeyOnly after ↔ ¬ w.ReadsFirst operation) ∧
      (w.ReadsFirst operation → e = .degreeMismatch) := by
  have hother (hafter : after = w ∨ after = w.keySet.2) (hnone : ¬ w.ReadsFirst operation) :
      (w.KeyOnly after ↔ ¬ w.ReadsFirst operation) ∧
        (w.ReadsFirst operation → e = .degreeMismatch) := by
    refine ⟨iff_of_true ?_ hnone, fun hreads => absurd hreads hnone⟩
    rcases hafter with rfl | rfl
    · exact .refl _
    · exact w.keyOnly_keySet
  cases operation with
  | bulk operation =>
      refine hother (bulk_error h) ?_
      rintro ⟨_, _, heq, -⟩
      cases heq
  | setPosition row operation =>
      cases operation with
      | update => exact keyOnly_update_iff (hbound row · rfl) h
      | position | refresh => cases h
      | delete =>
          refine hother ?_ (by rintro ⟨_, _, heq, -⟩; cases heq)
          dsimp only [operate, setPosition, deleteRows] at h
          split at h
          next hprepare =>
            cases h
            exact Or.inr (prepareWrite_error hprepare)
          next => cases h
      | add =>
          refine hother ?_ (by rintro ⟨_, _, heq, -⟩; cases heq)
          dsimp only [operate, setPosition, addRows] at h
          split at h
          · cases h
            exact Or.inl rfl
          · cases h

end Work

namespace Session

variable {σ : Type} {s t : Session σ} {call : StatementCall} {operation : Operation} {e : Error}

/-- All that a caller has or sees is as before: the cursor with its rows, statuses and bookmarks,
the bound arrays and the names. The server was asked for metadata at most. -/
structure Intact (s t : Session σ) : Prop where
  cursor : t.statement.cursor.map Cursor.keyless = s.statement.cursor.map Cursor.keyless
  bindings : t.statement.bindings = s.statement.bindings
  rowCount : t.statement.rowCount = s.statement.rowCount
  pending : t.statement.pending = s.statement.pending
  names : t.names = s.names
  link : s.link.MetadataOnly t.link

theorem Intact.refl (s : Session σ) : s.Intact s :=
  ⟨rfl, rfl, rfl, rfl, rfl, .refl _⟩

/-- The row of a single update is read again first, on the open cursor. -/
def ReadsFirst (s : Session σ) (operation : Operation) : Prop :=
  ∃ c, s.statement.cursor = some c ∧ (s.work c).ReadsFirst operation

/-- A call that finds nothing to wait for has nothing to wait for in its only row. -/
theorem dataAtExecColumns_of_awaited {b : Bindings} {c : Cursor} {row : Nat} (hrow : row ≠ 0)
    (h : awaited b c (.setPosition row .update) = .ok []) :
    b.dataAtExecColumns (row - 1) = [] := by
  have hrows : boundRows c (.setPosition row .update) = (row - 1, 1) := by
    unfold boundRows
    split
    all_goals simp_all
  unfold awaited at h
  split at h
  next htakes => cases htakes
  · rw [hrows] at h
    dsimp only at h
    split at h
    next hall => simpa using hall
    · split at h
      next hcount => exact absurd hcount (Nat.lt_irrefl 1)
      · exact Except.ok.inj h

theorem Intact.resumed (h : s.statement.pending = none) : s.Intact s.resumed :=
  ⟨rfl, rfl, rfl, h.symm, rfl, .refl _⟩

theorem readsFirst_iff {c : Cursor} (hc : s.statement.cursor = some c) :
    s.ReadsFirst operation ↔ (s.resumed.work c).ReadsFirst operation := by
  have hkey : (s.work c).keySet.1 = (s.resumed.work c).keySet.1 := Work.keySet_fst_congr rfl rfl
  constructor
  · rintro ⟨c', hc', row, key, hoperation, hdynamic, hkeySet, hreads⟩
    cases hc.symm.trans hc'
    exact ⟨row, key, hoperation, hdynamic, hkey ▸ hkeySet, hreads⟩
  · rintro ⟨row, key, hoperation, hdynamic, hkeySet, hreads⟩
    exact ⟨c, hc, row, key, hoperation, hdynamic, hkey ▸ hkeySet, hreads⟩

/-- The statement is left alone just if its cursor is. -/
theorem intact_afterWork_iff {c : Cursor} {w : Work σ} (hc : s.statement.cursor = some c)
    (hpending : s.statement.pending = none) :
    s.Intact (s.resumed.afterWork w) ↔ (s.resumed.work c).KeyOnly w := by
  constructor
  · intro h
    have hcursor := h.cursor
    rw [hc] at hcursor
    exact ⟨Option.some.inj hcursor, h.bindings, h.link⟩
  · intro h
    refine ⟨?_, h.bindings, rfl, hpending.symm, rfl, h.link⟩
    rw [hc]
    exact congrArg some h.cursor

/-- A call for an operation on rows that is refused leaves all as it was, except metadata asked for
and the key, just if it is not an update of a single row of a dynamic cursor that has read the row
again. Such an update is refused because nothing is set in the row. -/
theorem intact_of_refused (hcall : call.operation? = some operation)
    (h : s.perform call = (.error e, t)) :
    s.Intact t ↔ ¬ (e = .degreeMismatch ∧ s.ReadsFirst operation) := by
  have hperform := operated_perform (s := s) hcall
  rw [h] at hperform
  generalize hresult : ((.error e, t) : Except Error Reply × Session σ) = result at hperform
  cases hperform with
  | suspended =>
      cases hresult
      exact iff_of_true (.refl s) fun hreads => by cases hreads.1
  | refused e' he hpending =>
      cases hresult
      exact iff_of_true (.resumed hpending) fun hreads => he hreads.1
  | waits columns => cases hresult
  | carriedOut c hpending hc hadmits hawaited =>
      obtain ⟨answer, hanswer⟩ : ∃ answer,
          (s.resumed.work c).operate [] operation = answer := ⟨_, rfl⟩
      rw [hanswer] at hresult
      obtain ⟨result, w⟩ := answer
      cases result with
      | ok outcome => cases hresult
      | error e' =>
          cases hresult
          obtain ⟨hiff, hdegree⟩ := Work.keyOnly_operate_iff (fun row hrow hoperation =>
            dataAtExecColumns_of_awaited hrow (hoperation ▸ hawaited)) hanswer
          change s.Intact (s.resumed.afterWork w) ↔ _
          rw [intact_afterWork_iff hc hpending, hiff, readsFirst_iff hc]
          exact not_congr ⟨fun hreads => ⟨hdegree hreads, hreads⟩, And.right⟩

/-! ## A note that was changed elsewhere -/

/-- A new statement of a connection that has dynamic cursors. -/
def beforeNotes : Session MemoryServer where
  statement := { id := 1 }
  config := { dynamicCursor := true }
  names := {}
  link := { server := MemoryServer.server, state := noteServer }

/-- The note has been fetched through a cursor of a kind. -/
def noteFetched (kind : CursorKind) : Session MemoryServer :=
  beforeNotes.performAll
    [.setOptions { cursorKind := kind }, .execute "SELECT id, text FROM notes" [], .fetch .next]

/-- After that another connection has changed the text. -/
def noteChanged (kind : CursorKind) : Session MemoryServer :=
  let s := noteFetched kind
  { s with
    link :=
      { s.link with
        state :=
          { noteServer with
            tables :=
              [{ ref := notes, columns := ["id", "text"],
                 rows := [[.integer 1, .string "tomorrow"]] }] } } }

theorem steps_noteChanged (kind : CursorKind) : Steps beforeNotes (noteChanged kind) :=
  (steps_performAll _ _).tail (.elsewhere _ _ _)

/-- On a static cursor the update is refused before anything but metadata is asked for. -/
theorem intact_of_refused_static :
    StatementCall.operation? (.setPosition 1 .update .noChange) =
        some (.setPosition 1 .update) ∧
      ∃ t : Session MemoryServer,
        (noteChanged .static).perform (.setPosition 1 .update .noChange) =
          (.error .degreeMismatch, t) ∧
        (noteChanged .static).Intact t := by
  have hrefused : (noteChanged .static).perform (.setPosition 1 .update .noChange) =
      (.error .degreeMismatch,
        ((noteChanged .static).perform (.setPosition 1 .update .noChange)).2) := rfl
  have hstatic (c : Cursor) (hc : (noteChanged .static).statement.cursor = some c) :
      c.kind = .static := by
    cases hc
    rfl
  refine ⟨rfl, _, hrefused, (intact_of_refused rfl hrefused).mpr ?_⟩
  rintro ⟨-, c, hc, -, -, -, hdynamic, -⟩
  exact CursorKind.noConfusion ((hstatic c hc).symm.trans hdynamic)

/-- On a dynamic cursor the same update is refused after the row was asked for, and the caller sees
another text. -/
theorem not_intact_of_refused_dynamic :
    Steps beforeNotes (noteChanged .dynamic) ∧ beforeNotes.statement.cursor = none ∧
      ∃ t : Session MemoryServer,
        (noteChanged .dynamic).perform (.setPosition 1 .update .noChange) =
          (.error .degreeMismatch, t) ∧
        ¬ (noteChanged .dynamic).Intact t ∧
        (∃ request, t.link.events = (noteChanged .dynamic).link.events ++
          [.query request, .pull]) ∧
        ((noteChanged .dynamic).statement.row? 1).map Row.values =
          some [.integer 1, .string "today"] ∧
        (t.statement.row? 1).map Row.values = some [.integer 1, .string "tomorrow"] := by
  have hrefused : (noteChanged .dynamic).perform (.setPosition 1 .update .noChange) =
      (.error .degreeMismatch,
        ((noteChanged .dynamic).perform (.setPosition 1 .update .noChange)).2) := rfl
  have hevents : ∃ request,
      ((noteChanged .dynamic).perform (.setPosition 1 .update .noChange)).2.link.events =
        (noteChanged .dynamic).link.events ++ [.query request, .pull] := ⟨_, rfl⟩
  refine ⟨steps_noteChanged .dynamic, rfl, _, hrefused, fun hintact => ?_, hevents, rfl, rfl⟩
  obtain ⟨request, hquery⟩ := hevents
  exact Link.MetadataOnly.not_of_query (.refl _) hquery hintact.link

end Session

end ScrollCursor
