import ScrollCursor.Proofs.Cursor.Pulling
import ScrollCursor.Proofs.WriteBack.Assignments

/-! # Cursors in step with the server

A static cursor on some rows of a table is in step with the server while every slot has what the
table holds at the place that its row came from, and every row still to come is as it was. A slot
that is marked deleted stands for a place that is empty.
-/

namespace ScrollCursor

/-- The rows that a stream will deliver. -/
def RowStream.rows (stream : RowStream) : List Record :=
  stream.filterMap Except.toOption

namespace ExactServer

variable {σ : Type} (S : ExactServer σ) (d : ResultDescriptor) (origins : List Nat)

/-- The columns of a result tell its rows of the table apart, and its rows come from different
places. -/
structure Projects : Prop where
  singleTable : d.singleTable = .ok S.ref
  showsOnce : d.ShowsOnce S.ref
  isUnique : ∀ key, KeySet.ofMetadata d S.ref S.metadata = .ok key → key.isUnique = true
  nodup : origins.Nodup

/-- A record has what the table holds at a place. -/
def HoldsAt (s : σ) (record : Record) (place : Nat) : Prop :=
  ∃ row, (S.table s)[place]? = some (some row) ∧ record.Shows d S.ref row

/-- A slot has what the table holds at the place of its row, or is deleted as the row is. -/
structure SlotInStep (s : σ) (id : SlotId) (slot : RowSlot) (place : Nat) : Prop where
  position : slot.position = some (id + 1)
  gone : slot.isDeleted = true → (S.table s)[place]? = some none
  present : slot.isDeleted = false →
    ∃ row, (S.table s)[place]? = some (some row) ∧ slot.image.Shows d S.ref row ∧
      slot.values.Shows d S.ref row

structure InStep (w : Work σ) : Prop where
  kind : w.cursor.kind = .static
  descriptor : w.cursor.descriptor = d
  server : w.link.server = S.server
  key : ∀ key, w.cursor.key = some (.ok key) → KeySet.ofMetadata d S.ref S.metadata = .ok key
  distinct : ∀ names ∈ S.metadata.uniqueColumns,
    (S.table w.link.state).Distinct S.agrees names
  count : w.cursor.buffer.count = w.cursor.buffer.resident
  slots : ∀ id slot, w.cursor.buffer.slot? id = some slot →
    ∃ place, origins[id]? = some place ∧ S.SlotInStep d w.link.state id slot place
  stream : ∀ i record, w.cursor.stream.rows[i]? = some record →
    ∃ place, origins[w.cursor.buffer.resident + i]? = some place ∧
      S.HoldsAt d w.link.state record place

variable {S d origins} {s s' : σ} {w w' : Work σ} {place : Nat}

/-! ### Changes elsewhere -/

theorem HoldsAt.of_table {record : Record} (h : S.HoldsAt d s record place)
    (htable : (S.table s')[place]? = (S.table s)[place]?) : S.HoldsAt d s' record place := by
  obtain ⟨row, hrow, hshows⟩ := h
  exact ⟨row, htable.trans hrow, hshows⟩

theorem SlotInStep.of_table {id : SlotId} {slot : RowSlot}
    (h : S.SlotInStep d s id slot place)
    (htable : (S.table s')[place]? = (S.table s)[place]?) :
    S.SlotInStep d s' id slot place where
  position := h.position
  gone hgone := htable.trans (h.gone hgone)
  present hpresent := by
    obtain ⟨row, hrow, hshows⟩ := h.present hpresent
    exact ⟨row, htable.trans hrow, hshows⟩

theorem InStep.of_link (h : S.InStep d origins w) {link : Link σ}
    (hserver : link.server = S.server)
    (htable : S.table link.state = S.table w.link.state) :
    S.InStep d origins { w with link := link } where
  kind := h.kind
  descriptor := h.descriptor
  server := hserver
  key := h.key
  distinct names hnames := htable ▸ h.distinct names hnames
  count := h.count
  slots id slot hslot := by
    obtain ⟨place, hplace, hstep⟩ := h.slots id slot hslot
    exact ⟨place, hplace, hstep.of_table (by rw [htable])⟩
  stream i record hrecord := by
    obtain ⟨place, hplace, hholds⟩ := h.stream i record hrecord
    exact ⟨place, hplace, hholds.of_table (by rw [htable])⟩

/-- What a cursor is about, without its rowset and its bookmarks. -/
structure SameContents (c c' : Cursor) : Prop where
  kind : c'.kind = c.kind
  descriptor : c'.descriptor = c.descriptor
  stream : c'.stream = c.stream
  buffer : c'.buffer = c.buffer
  key : c'.key = c.key

theorem InStep.of_sameContents (h : S.InStep d origins w) (hlink : w'.link = w.link)
    (hsame : SameContents w.cursor w'.cursor) : S.InStep d origins w' where
  kind := hsame.kind.trans h.kind
  descriptor := hsame.descriptor.trans h.descriptor
  server := hlink ▸ h.server
  key := by rw [hsame.key]; exact h.key
  distinct := by rw [hlink]; exact h.distinct
  count := by rw [hsame.buffer]; exact h.count
  slots := by rw [hsame.buffer, hlink]; exact h.slots
  stream := by rw [hsame.buffer, hsame.stream, hlink]; exact h.stream

/-- A change of one slot along with the row at its place. -/
theorem InStep.of_change (h : S.InStep d origins w) (hnodup : origins.Nodup) {id : SlotId}
    (hplace : origins[id]? = some place) {cursor : Cursor} {link : Link σ}
    {f : RowSlot → RowSlot}
    (hsame : SameContents (w.cursor.modifySlot id f) cursor)
    (hserver : link.server = S.server)
    (hdistinct : ∀ names ∈ S.metadata.uniqueColumns,
      (S.table link.state).Distinct S.agrees names)
    (helsewhere : ∀ i, i ≠ place → (S.table link.state)[i]? = (S.table w.link.state)[i]?)
    (hslot : ∀ slot, w.cursor.buffer.slot? id = some slot →
      S.SlotInStep d link.state id (f slot) place)
    (hresident : id < w.cursor.buffer.resident) :
    S.InStep d origins { w with cursor := cursor, link := link } := by
  -- Rows come from different places, so every other slot and every row to come is untouched.
  have hother : ∀ j other, j ≠ id → origins[j]? = some other → other ≠ place := by
    intro j other hne hj heq
    subst heq
    have hlt := (List.getElem?_eq_some_iff.mp hj).1
    exact hne ((List.getElem?_inj hlt hnodup).mp (hj.trans hplace.symm))
  have hbuffer : cursor.buffer = w.cursor.buffer.modify id f := hsame.buffer
  have hsize : cursor.buffer.resident = w.cursor.buffer.resident := by
    simp [hbuffer, RowBuffer.resident, RowBuffer.modify]
  refine ⟨hsame.kind.trans h.kind, hsame.descriptor.trans h.descriptor, hserver, ?_, hdistinct,
    ?_, ?_, ?_⟩
  · intro key hkey
    exact h.key key (hsame.key ▸ hkey)
  · rw [hsize, ← h.count, hbuffer]
    rfl
  · intro j slot hj
    rw [hbuffer, RowBuffer.slot?, RowBuffer.modify, List.getElem?_modify] at hj
    obtain ⟨before, hbefore, rfl⟩ := Option.map_eq_some_iff.mp hj
    by_cases hid : id = j
    · subst hid
      rw [if_pos rfl]
      exact ⟨place, hplace, hslot before hbefore⟩
    · obtain ⟨other, hplace', hstep⟩ := h.slots j before hbefore
      rw [if_neg hid]
      exact ⟨other, hplace',
        hstep.of_table (helsewhere other (hother j other (Ne.symm hid) hplace'))⟩
  · intro i record hrecord
    rw [show cursor.stream = w.cursor.stream from hsame.stream] at hrecord
    obtain ⟨other, hplace', hholds⟩ := h.stream i record hrecord
    dsimp only
    rw [hsize]
    have hne : w.cursor.buffer.resident + i ≠ id :=
      Nat.ne_of_gt (Nat.lt_of_lt_of_le hresident (Nat.le_add_right _ _))
    exact ⟨other, hplace', hholds.of_table (helsewhere other (hother _ other hne hplace'))⟩

/-! ### Pulled rows -/

theorem rows_append (first second : RowStream) :
    RowStream.rows (first ++ second) = first.rows ++ second.rows :=
  List.filterMap_append

theorem rows_ok (records : List Record) : RowStream.rows (records.map .ok) = records := by
  induction records with
  | nil => rfl
  | cons record records ih => exact congrArg (List.cons record) ih

/-- Rows join the buffer as the table has them. -/
theorem InStep.pull (h : S.InStep d origins w) (demand : Demand) :
    S.InStep d origins (w.pull demand).2 := by
  obtain ⟨taken, htaken⟩ := Pulled.run_takesFrom w.cursor.options.maxRows demand w.cursor.stream
    w.cursor.buffer 0
  unfold Work.pull
  dsimp only
  generalize Pulled.run w.cursor.options.maxRows demand w.cursor.stream w.cursor.buffer 0 = p
    at htaken ⊢
  have hresident := htaken.resident_eq
  have hrows : w.cursor.stream.rows = taken ++ p.stream.rows := by
    rw [htaken.stream_eq, rows_append, rows_append, rows_ok]
    cases p.failure with
    | none => simp [RowStream.rows]
    | some e => simp [RowStream.rows, Except.toOption]
  refine ⟨h.kind, h.descriptor, h.server, h.key, h.distinct, ?_, ?_, ?_⟩
  · exact htaken.count_eq.trans ((congrArg (· + taken.length) h.count).trans hresident.symm)
  · -- A slot was there before, or holds the row that the stream had in its place.
    intro id slot hslot
    change p.buffer.slots[id]? = some slot at hslot
    rw [htaken.buffer_eq] at hslot
    change (w.cursor.buffer.appendAll taken).slots[id]? = some slot at hslot
    rw [RowBuffer.slots_appendAll] at hslot
    by_cases hold : id < w.cursor.buffer.resident
    · rw [List.getElem?_append_left hold] at hslot
      exact h.slots id slot hslot
    · have hle : w.cursor.buffer.resident ≤ id := Nat.le_of_not_lt hold
      rw [List.getElem?_append_right hle, List.getElem?_mapIdx] at hslot
      obtain ⟨record, hrecord, rfl⟩ := Option.map_eq_some_iff.mp hslot
      change taken[id - w.cursor.buffer.resident]? = some record at hrecord
      have hstream := h.stream (id - w.cursor.buffer.resident) record (by
        rw [hrows, List.getElem?_append_left (List.getElem?_eq_some_iff.mp hrecord).1]
        exact hrecord)
      rw [Nat.add_sub_cancel' hle] at hstream
      obtain ⟨place, hplace, row, hrow, hshows⟩ := hstream
      refine ⟨place, hplace, ?_, Bool.noConfusion, fun _ => ⟨row, hrow, hshows, hshows⟩⟩
      change some (w.cursor.buffer.count + (id - w.cursor.buffer.resident) + 1) = some (id + 1)
      rw [h.count, Nat.add_sub_cancel' hle]
  · intro i record hrecord
    have hlater := h.stream (taken.length + i) record (by
      rw [hrows, List.getElem?_append_right (Nat.le_add_right _ _), Nat.add_sub_cancel_left]
      exact hrecord)
    rw [← Nat.add_assoc, ← hresident] at hlater
    exact hlater

end ExactServer

end ScrollCursor
