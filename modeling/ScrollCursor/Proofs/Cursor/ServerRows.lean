import ScrollCursor.Proofs.Cursor.HeldRows
import ScrollCursor.Proofs.Cursor.Placement
import ScrollCursor.Proofs.Positioned.FailingRows
import ScrollCursor.Proofs.Positioned.KeptByCalls
import ScrollCursor.Proofs.Table.ReadingServer
import ScrollCursor.Proofs.WriteBack.Insertions

/-! # Rows as the server has them

A cursor that reads its rows again shows of each row of a rowset what the server has at that time. A
row that is found takes the server's values in the columns of its table and keeps what it had in
the others; one that is not found is deleted. It makes no difference what became of the row before,
as long as it was not deleted, nor who changed the table.
-/

namespace ScrollCursor

/-- The values of a record with those of a row in the columns of the table. -/
def ResultDescriptor.merged (d : ResultDescriptor) (table : TableRef) (row : TableRow)
    (record : Record) : Record :=
  d.zipWith (fun c v => if c.belongsTo table then row.get c.baseColumn else v) record

/-- A row once it has been looked for at the server. -/
def RowSlot.lookedUp (d : ResultDescriptor) (table : TableRef) (found : Option TableRow)
    (slot : RowSlot) : RowSlot :=
  match found with
  | none => slot.withStatus .deleted
  | some row =>
      let read := slot.reload (d.merged table row slot.values)
      if read.status = .error then read.withStatus .success else read

namespace ResultDescriptor

variable {d : ResultDescriptor} {table : TableRef} {row : TableRow} {record : Record}

/-- Values that come in the order of the table's columns are put in their places. -/
theorem assign_zip_eq_merged (hwide : record.length = d.length) :
    record.assign (((d.columnsOf table).map Prod.fst).zip
      (((d.columnsOf table).map fun entry => entry.2.baseColumn).map row.get)) =
        d.merged table row record := by
  rw [List.map_map, List.zip_map']
  have hrange : ∀ a ∈ (d.columnsOf table).map fun entry =>
      (entry.1, row.get entry.2.baseColumn), a.1 < record.length := by
    intro a ha
    obtain ⟨⟨ordinal, c⟩, hc, rfl⟩ := List.mem_map.mp ha
    rw [hwide]
    exact (List.getElem?_eq_some_iff.mp (mem_columnsOf.mp hc).1).choose
  refine List.ext_getElem? fun ordinal => ?_
  rw [merged, List.getElem?_zipWith]
  cases hd : d[ordinal]? with
  | none =>
      have hout : d.length ≤ ordinal := List.getElem?_eq_none_iff.mp hd
      rw [List.getElem?_eq_none (by rwa [Record.length_assign, hwide])]
  | some c =>
      obtain ⟨v, hv⟩ : ∃ v, record[ordinal]? = some v := by
        have hlt := (List.getElem?_eq_some_iff.mp hd).1
        exact ⟨_, List.getElem?_eq_getElem (hwide ▸ hlt)⟩
      have honly {u : Value} (hmem : (ordinal, u) ∈ (d.columnsOf table).map fun entry =>
          (entry.1, row.get entry.2.baseColumn)) :
          c.belongsTo table = true ∧ u = row.get c.baseColumn := by
        obtain ⟨⟨i, c'⟩, hc, heq⟩ := List.mem_map.mp hmem
        cases heq
        obtain ⟨hat, hbelongs⟩ := mem_columnsOf.mp hc
        cases hd.symm.trans hat
        exact ⟨hbelongs, rfl⟩
      rw [hv]
      by_cases hbelongs : c.belongsTo table = true
      · have hmem : (ordinal, row.get c.baseColumn) ∈ (d.columnsOf table).map fun entry =>
            (entry.1, row.get entry.2.baseColumn) :=
          List.mem_map.mpr ⟨(ordinal, c), mem_columnsOf.mpr ⟨hd, hbelongs⟩, rfl⟩
        simp only [hbelongs, if_true]
        exact Record.getElem?_assign_of_mem hrange hmem fun u hu => (honly hu).2
      · simp only [hbelongs]
        exact (Record.getElem?_assign_of_not_mem fun u hu => hbelongs (honly hu).1).trans hv

end ResultDescriptor

/-- The row is as wide as the result, and there is one. -/
structure RowSlot.Whole (width : Nat) (slot : RowSlot) : Prop extends slot.Wide width where
  isRow : slot.status ≠ .noRow

theorem RowSlot.lasting_whole (width : Nat) : Cursor.Lasting (RowSlot.Whole width) where
  written slot assignments h :=
    ⟨(Cursor.lasting_wide width).written slot assignments h.toWide, RowStatus.noConfusion⟩
  deleted slot h := ⟨(Cursor.lasting_wide width).deleted slot h.toWide, RowStatus.noConfusion⟩

/-- A row that the server has can be shown. -/
theorem RowSlot.hasData_lookedUp {slot : RowSlot} (hlive : slot.isDeleted = false)
    (hrow : slot.status ≠ .noRow) (d : ResultDescriptor) (table : TableRef) (row : TableRow) :
    (slot.lookedUp d table (some row)).status.hasData = true := by
  obtain ⟨values, image, status, position⟩ := slot
  cases status with
  | deleted => cases hlive
  | noRow => exact absurd rfl hrow
  | success | updated | added | error => rfl

/-- A row that the server has replaces values and image, column by column. -/
theorem RowSlot.lookedUp_some (d : ResultDescriptor) (table : TableRef) (row : TableRow)
    (slot : RowSlot) :
    (slot.lookedUp d table (some row)).values = d.merged table row slot.values ∧
      (slot.lookedUp d table (some row)).image = d.merged table row slot.values := by
  unfold lookedUp
  dsimp only
  split <;> exact ⟨rfl, rfl⟩

/-! ## One row -/

theorem Dialect.selectByKey_eq {s : Dialect} {key : KeySet} {image : Record}
    {terms : List ColumnValue} {found : Fragment} (d : ResultDescriptor)
    (hterms : key.terms image = .ok terms) (hfound : s.predicate terms = .ok found)
    (forUpdate : Bool) :
    ∃ request, s.selectByKey key d image forUpdate =
        .ok (request, (d.columnsOf key.table).map Prod.fst) ∧
      request.plan = some (.selectByKey key.table
        ((d.columnsOf key.table).map fun entry => entry.2.baseColumn) terms forUpdate) := by
  unfold selectByKey
  rw [hterms, Results.ok_bind, hfound, Results.ok_bind]
  exact ⟨_, rfl, rfl⟩

/-- The server can be asked for a row: it is not deleted, and the values of its key can be
written. -/
structure RowSlot.Sought (s : Dialect) (key : KeySet) (terms : List ColumnValue) (slot : RowSlot) :
    Prop where
  live : slot.isDeleted = false
  asked : key.terms slot.image = .ok terms
  written : ∃ text, s.predicate terms = .ok text

theorem CursorKind.isScrollable_of_rereads {kind : CursorKind} (h : kind.rereads = true) :
    kind.isScrollable = true := by
  cases kind <;> first | rfl | cases h

theorem ReadingServer.enduring_serves {σ : Type} {S : ReadingServer σ} {rows : List TableRow} :
    Link.Enduring (S.Serves rows) where
  query request h := h.query request
  metadata table h := h.metadata table
  pulled count h := h.pulled count

namespace Work

variable {σ : Type} {S : ReadingServer σ} {rows : List TableRow} {w : Work σ} {key : KeySet}
  {row : Nat} {id : SlotId} {slot : RowSlot} {terms : List ColumnValue}

/-- The server is asked for the row that has the terms of the image. -/
theorem readByKey_of_sought (h : S.Serves rows w.link) (htable : key.table = S.ref)
    (hsought : slot.Sought w.cursor.dialect key terms) :
    (w.readByKey key slot.image).1 =
      .ok ((S.find? rows terms).map fun found =>
        (((w.cursor.descriptor.columnsOf key.table).map fun entry =>
            entry.2.baseColumn).map found.get,
          (w.cursor.descriptor.columnsOf key.table).map Prod.fst)) := by
  obtain ⟨text, htext⟩ := hsought.written
  obtain ⟨request, hrequest, hplan⟩ := Dialect.selectByKey_eq w.cursor.descriptor hsought.asked
    htext (w.cursor.options.concurrency == .lock)
  have hanswer := h.queryRow_selectByKey (htable ▸ hplan)
  unfold readByKey
  dsimp only
  rw [hrequest]
  dsimp only
  generalize w.link.queryRow request = answered at hanswer ⊢
  obtain ⟨answer, after⟩ := answered
  cases hanswer
  dsimp only
  rw [Option.map_map, htable]
  rfl

/-- A row that the server can be asked for takes what is found of it. -/
theorem slot?_rereadRow (h : S.Serves rows w.link) (htable : key.table = S.ref)
    (hid : w.cursor.slotOf? row = some id) (hslot : w.cursor.buffer.slot? id = some slot)
    (hwide : slot.Wide w.cursor.descriptor.length)
    (hsought : slot.Sought w.cursor.dialect key terms) :
    (rereadRow key w row).cursor.buffer.slot? id =
      some (slot.lookedUp w.cursor.descriptor key.table (S.find? rows terms)) := by
  have hread := readByKey_of_sought h htable hsought
  unfold rereadRow
  simp only [hid, hslot, hsought.live, Bool.false_eq_true, if_false]
  generalize w.readByKey key slot.image = read at hread ⊢
  obtain ⟨answer, after⟩ := read
  cases hread
  cases S.find? rows terms with
  | none => exact RowBuffer.slot?_modify_self _ hslot
  | some found =>
      refine (RowBuffer.slot?_modify_self _ hslot).trans ?_
      unfold rereadSlot RowSlot.lookedUp
      rw [ResultDescriptor.assign_zip_eq_merged hwide.values]

/-- To read one row again leaves the slots of the others. -/
theorem slot?_rereadRow_of_ne (h : w.cursor.slotOf? row ≠ some id) :
    (rereadRow key w row).cursor.buffer.slot? id = w.cursor.buffer.slot? id := by
  unfold rereadRow
  split
  · rfl
  next other hother =>
    have hne : id ≠ other := fun heq => h (heq ▸ hother)
    split
    · rfl
    · split
      · rfl
      · split <;> exact RowBuffer.slot?_modify_of_ne _ hne

/-! ## The rows of a rowset -/

theorem slot?_foldl_rereadRow_of_ne {numbers : List Nat}
    (h : ∀ row ∈ numbers, w.cursor.slotOf? row ≠ some id) :
    (numbers.foldl (rereadRow key) w).cursor.buffer.slot? id = w.cursor.buffer.slot? id := by
  induction numbers generalizing w with
  | nil => rfl
  | cons row numbers ih =>
      have hslotOf := Cursor.slotOf?_congr (sameStanding_rereadRow key w row).2.2.2.2.2.1
      rw [List.foldl_cons, ih fun other hother =>
        hslotOf ▸ h other (List.mem_cons_of_mem row hother)]
      exact slot?_rereadRow_of_ne (h row List.mem_cons_self)

/-- Each row is read again once, with the image that it had before. -/
theorem slot?_foldl_rereadRow {numbers : List Nat} (h : S.Serves rows w.link)
    (htable : key.table = S.ref) (hnodup : numbers.Nodup) (hrow : row ∈ numbers)
    (hid : w.cursor.slotOf? row = some id)
    (honce : ∀ other ∈ numbers, w.cursor.slotOf? other = some id → other = row)
    (hslot : w.cursor.buffer.slot? id = some slot) (hwide : slot.Wide w.cursor.descriptor.length)
    (hsought : slot.Sought w.cursor.dialect key terms) :
    (numbers.foldl (rereadRow key) w).cursor.buffer.slot? id =
      some (slot.lookedUp w.cursor.descriptor key.table (S.find? rows terms)) := by
  induction numbers generalizing w with
  | nil => cases hrow
  | cons first numbers ih =>
      obtain ⟨hfirst, hrest⟩ := List.nodup_cons.mp hnodup
      obtain ⟨-, hdialect, -, hdescriptor⟩ := (rereadRow_changes key w first).sameFrame
      have hslotOf := Cursor.slotOf?_congr (sameStanding_rereadRow key w first).2.2.2.2.2.1
      rw [List.foldl_cons]
      -- The row is read at its own number; what the others do leaves it as it is.
      by_cases heq : first = row
      · subst heq
        rw [slot?_foldl_rereadRow_of_ne]
        · exact slot?_rereadRow h htable hid hslot hwide hsought
        · intro other hother hsame
          rw [hslotOf] at hsame
          exact hfirst (honce other (List.mem_cons_of_mem _ hother) hsame ▸ hother)
      · have hother : w.cursor.slotOf? first ≠ some id := fun hsame =>
          heq (honce first List.mem_cons_self hsame)
        rw [ih (ReadingServer.enduring_serves.rereadRow h key first) hrest
          ((List.mem_cons.mp hrow).resolve_left (Ne.symm heq)) (hslotOf ▸ hid)
          (fun other hmem hsame => honce other (List.mem_cons_of_mem _ hmem) (hslotOf ▸ hsame))
          ((slot?_rereadRow_of_ne hother).trans hslot) (hdescriptor ▸ hwide)
          (hdialect ▸ hsought), hdescriptor]

/-- With a key the rows are read again one after the other. -/
theorem reread_of_keySet (hkey : w.keySet.1 = .ok key) (numbers : List Nat) :
    w.reread numbers = numbers.foldl (rereadRow key) w.keySet.2 := by
  unfold reread
  generalize w.keySet = found at hkey ⊢
  obtain ⟨answer, after⟩ := found
  cases hkey
  rfl

/-- A row of a rowset that is shown takes what is found of it. -/
theorem slot?_showRowset {i : Nat} (h : S.Serves rows w.link) (htable : key.table = S.ref)
    (hrereads : w.cursor.kind.rereads = true) (hkey : w.keySet.1 = .ok key)
    (hplaced : Placed w i id slot) (hwide : slot.Wide w.cursor.descriptor.length)
    (hsought : slot.Sought w.cursor.dialect key terms) :
    w.showRowset.2.cursor.buffer.slot? id =
      some (slot.lookedUp w.cursor.descriptor key.table (S.find? rows terms)) := by
  obtain ⟨-, hdialect, -, hdescriptor⟩ := w.keySet_changes.sameFrame
  have hrowset := w.sameStanding_keySet.2.2.2.2.2.1
  have hlt := (List.getElem?_eq_some_iff.mp hplaced.entry).1
  have hshown : w.showRowset.2.cursor.buffer =
      ((List.range' 1 w.cursor.rowset.length).foldl (rereadRow key) w.keySet.2).cursor.buffer := by
    rw [← reread_of_keySet hkey]
    unfold showRowset
    dsimp only
    rw [hrereads]
    rfl
  rw [hshown, slot?_foldl_rereadRow (ReadingServer.enduring_serves.keySet h) htable
    List.nodup_range' (List.mem_range'_1.mpr ⟨Nat.le_add_left 1 i, by omega⟩)
    (Cursor.slotOf?_succ.mpr (hrowset ▸ hplaced.entry)) ?_ (w.keySet_buffer ▸ hplaced.held)
    (hdescriptor ▸ hwide) (hdialect ▸ hsought), hdescriptor]
  -- Two numbers of one slot would be two places of one row.
  intro other hother hid
  obtain ⟨j, rfl⟩ : ∃ j, other = j + 1 := ⟨other - 1, by have := List.mem_range'_1.mp hother; omega⟩
  rw [hplaced.once j (hrowset ▸ Cursor.slotOf?_succ.mp hid)]

/-- The key depends on the columns of the result and on the server. -/
theorem keySet_congr {u : Work σ} (hkey : u.cursor.key = w.cursor.key)
    (hdescriptor : u.cursor.descriptor = w.cursor.descriptor)
    (hserver : u.link.server = w.link.server) (hstate : u.link.state = w.link.state) :
    u.keySet.1 = w.keySet.1 := by
  have hmetadata (table : TableRef) : (u.link.metadata table).1 = (w.link.metadata table).1 := by
    unfold Link.metadata
    rw [hserver, hstate]
  have hresolve : u.resolveKey.1 = w.resolveKey.1 := by
    unfold resolveKey
    rw [hdescriptor]
    split
    · rfl
    next table _ =>
      have hasked := hmetadata table
      generalize u.link.metadata table = asked at hasked ⊢
      generalize w.link.metadata table = asked' at hasked ⊢
      obtain ⟨answer, after⟩ := asked
      obtain ⟨answer', after'⟩ := asked'
      cases hasked
      cases answer <;> rfl
  unfold keySet
  rw [hkey]
  split
  · rfl
  · exact hresolve

/-! ## Fetches -/

/-- What is kept and shown of a row that was looked for at the server. -/
def AsFound (c : Cursor) (table : TableRef) (found : Option TableRow) (before after : RowSlot)
    (shown : FetchedRow) : Prop :=
  match found with
  | some row =>
      shown.status.hasData = true ∧
        after.values = c.descriptor.merged table row before.values ∧
        after.image = after.values ∧
        shown.row = if c.options.retrieveData then some (c.named after) else none
  | none => shown.status = .deleted ∧ shown.row = none

theorem asFound_lookedUp {c : Cursor} (table : TableRef) (found : Option TableRow)
    (hlive : slot.isDeleted = false) (hrow : slot.status ≠ .noRow)
    (hslot : c.buffer.slot? id = some (slot.lookedUp c.descriptor table found)) :
    AsFound c table found slot (slot.lookedUp c.descriptor table found)
      (c.fetchedRow (some id) (slot.lookedUp c.descriptor table found).status) := by
  have hshown := Cursor.row_fetchedRow hslot
  cases found with
  | none =>
      refine ⟨rfl, hshown.trans (if_neg ?_)⟩
      rw [Bool.and_eq_true]
      rintro ⟨-, hdata⟩
      cases hdata
  | some row =>
      obtain ⟨hvalues, himage⟩ := slot.lookedUp_some c.descriptor table row
      have hdata := RowSlot.hasData_lookedUp hlive hrow c.descriptor table row
      rw [hdata, Bool.and_true] at hshown
      exact ⟨hdata, hvalues, himage.trans hvalues.symm, hshown⟩

/-- A row that is fetched is as the server has it at that time, if the server can be asked for what
was kept of it. -/
theorem fetch_asFound {v : Work σ} {orientation : Orientation} {outcome : FetchOutcome}
    (hrereads : w.cursor.kind.rereads = true) (hinventory : Cursor.Inventory w.cursor)
    (hwhole : Cursor.Holds (RowSlot.Whole w.cursor.descriptor.length) w.cursor)
    (h : S.Serves rows w.link) (htable : key.table = S.ref) (hkey : w.keySet.1 = .ok key)
    (hfetch : w.fetch orientation = (.ok outcome, v)) {i : Nat} (hi : i < outcome.rows.length) :
    ∃ id before after shown, Fetched w v outcome i id before after shown ∧
      ∀ terms, before.Sought w.cursor.dialect key terms →
        AsFound v.cursor key.table (S.find? rows terms) before after shown := by
  have hkind := CursorKind.isScrollable_of_rereads hrereads
  obtain ⟨u, position, id, before, hpulled, hplaced, hshow⟩ :=
    exists_placed_of_fetch hkind hinventory hfetch hi
  obtain ⟨after, shown, hfetched⟩ := exists_fetched hpulled hplaced hshow
  refine ⟨id, before, after, shown, hfetched, fun terms hsought => ?_⟩
  obtain ⟨hkind', hdialect, -, hdescriptor⟩ := hpulled.pulls.changes.sameFrame
  have hbefore : before.Whole w.cursor.descriptor.length :=
    (hpulled.pulls.staticSteps.holds (RowSlot.lasting_whole _) hwhole).of_slot? hplaced.held
  have hkey' : (u.onCursor (Cursor.placeRowset · position)).keySet.1 = .ok key := by
    rw [← hkey]
    exact keySet_congr hpulled.pulls.key_eq hdescriptor hpulled.server hpulled.state
  have hserves : S.Serves rows u.link :=
    ⟨hpulled.server.trans h.server, hpulled.state.symm ▸ h.rows⟩
  have hslot := slot?_showRowset (w := u.onCursor (Cursor.placeRowset · position)) hserves htable
    (hkind'.symm ▸ hrereads) hkey' hplaced (hdescriptor.symm ▸ hbefore.toWide)
    (hdialect.symm ▸ hsought)
  -- The columns are those of the cursor before the fetch, and so are its key and dialect.
  have hframe := (w.fetch_changes orientation).sameFrame.2.2.2
  rw [hfetch, ← hdescriptor] at hframe
  rw [hshow] at hslot
  cases Option.some.inj (hfetched.held.symm.trans hslot)
  rw [hfetched.kept]
  exact hframe ▸ asFound_lookedUp key.table _ hsought.live hbefore.isRow (hframe.symm ▸ hslot)

end Work

end ScrollCursor
