import ScrollCursor.Proofs.Cursor.Changes
import ScrollCursor.Proofs.Positioned.InStep

/-! # Writes of single slots

A write is built from the image of a slot. As the image is what the table holds, the statement finds
the row that the slot came from, and the buffer follows what becomes of it.
-/

namespace ScrollCursor

namespace ExactServer

variable {σ : Type} (S : ExactServer σ) (d : ResultDescriptor) (origins : List Nat)

/-- A statement is for the row that a slot came from, and for no other. -/
def HitsOrigin (write : SentWrite σ) (id : SlotId) : Prop :=
  ∃ place, origins[id]? = some place ∧ S.HitsOnly place write

/-- Work after which a cursor is in step. Its statements are for the rows of some slots in order,
no more than one for each. -/
def Keeps (ids : List SlotId) (w w' : Work σ) : Prop :=
  S.InStep d origins w' ∧
    ∃ writes, w.link.Sent w'.link writes ∧
      List.SublistForall₂ (S.HitsOrigin origins) writes ids

variable {S d origins} {w w₁ w₂ w₃ : Work σ} {id : SlotId} {place : Nat} {key : KeySet}

theorem Keeps.refl (h : S.InStep d origins w) (ids : List SlotId) : S.Keeps d origins ids w w :=
  ⟨h, [], .refl _, .nil⟩

/-- Nothing is sent. -/
theorem Keeps.of_sameContents (h : S.InStep d origins w₁) (hlink : w₂.link = w₁.link)
    (hsame : SameContents w₁.cursor w₂.cursor) : S.Keeps d origins [] w₁ w₂ := by
  refine ⟨h.of_sameContents hlink hsame, [], ?_, .nil⟩
  rw [hlink]
  exact .refl _

theorem Keeps.append {first second : List SlotId} (h₁ : S.Keeps d origins first w₁ w₂)
    (h₂ : S.Keeps d origins second w₂ w₃) : S.Keeps d origins (first ++ second) w₁ w₃ := by
  obtain ⟨-, writes₁, hsent₁, hhits₁⟩ := h₁
  obtain ⟨hstep, writes₂, hsent₂, hhits₂⟩ := h₂
  obtain ⟨hit₁, hall₁, hsub₁⟩ := List.sublistForall₂_iff.mp hhits₁
  obtain ⟨hit₂, hall₂, hsub₂⟩ := List.sublistForall₂_iff.mp hhits₂
  refine ⟨hstep, writes₁ ++ writes₂, hsent₁.append hsent₂, ?_⟩
  exact List.sublistForall₂_iff.mpr
    ⟨hit₁ ++ hit₂, List.rel_append hall₁ hall₂, hsub₁.append hsub₂⟩

theorem Keeps.mono {first second : List SlotId} (h : S.Keeps d origins first w₁ w₂)
    (hsub : first.Sublist second) : S.Keeps d origins second w₁ w₂ := by
  obtain ⟨hstep, writes, hsent, hhits⟩ := h
  obtain ⟨hit, hall, hsub'⟩ := List.sublistForall₂_iff.mp hhits
  exact ⟨hstep, writes, hsent, List.sublistForall₂_iff.mpr ⟨hit, hall, hsub'.trans hsub⟩⟩

theorem Keeps.pull (h : S.InStep d origins w) (demand : Demand) :
    S.Keeps d origins [] w (w.pull demand).2 :=
  ⟨h.pull demand, [], w.link.sent_pulled _, .nil⟩

/-! ### The key -/

/-- A key that is resolved is a true key, and the table is as before. -/
theorem resolveKey_eq (hresult : S.Projects d origins) (h : S.InStep d origins w) :
    w.link.Sent w.resolveKey.2 [] ∧
      S.table w.resolveKey.2.state = S.table w.link.state ∧
      ∀ key, w.resolveKey.1 = .ok key → KeySet.ofMetadata d S.ref S.metadata = .ok key := by
  have hsingle : w.cursor.descriptor.singleTable = .ok S.ref :=
    h.descriptor ▸ hresult.singleTable
  have hsent := w.link.sent_metadata S.ref
  have htable : S.table (w.link.metadata S.ref).2.state = S.table w.link.state := by
    change S.table (w.link.server.metadata S.ref w.link.state).2 = _
    rw [h.server, S.table_metadata]
  have hanswer : ∀ answer, (w.link.metadata S.ref).1 = .ok answer →
      answer = some S.metadata := by
    intro answer hok
    refine S.metadata_eq w.link.state answer ?_
    rw [← h.server]
    exact hok
  unfold Work.resolveKey
  rw [hsingle]
  dsimp only
  generalize w.link.metadata S.ref = asked at hsent htable hanswer ⊢
  obtain ⟨answer, link⟩ := asked
  cases answer with
  | error e => exact ⟨hsent, htable, fun key hkey => by cases hkey⟩
  | ok found =>
      refine ⟨hsent, htable, fun key hkey => ?_⟩
      rw [hanswer found rfl, h.descriptor] at hkey
      exact hkey

/-- The key is asked for once. -/
theorem Keeps.keySet (hresult : S.Projects d origins) (h : S.InStep d origins w) :
    S.Keeps d origins [] w w.keySet.2 ∧
      ∀ key, w.keySet.1 = .ok key → KeySet.ofMetadata d S.ref S.metadata = .ok key := by
  cases hcached : w.cursor.key with
  | some known =>
      have hkeySet : w.keySet = (known, w) := by
        rw [Work.keySet, hcached]
      rw [hkeySet]
      refine ⟨.refl h [], fun key hkey => h.key key ?_⟩
      rw [hcached]
      exact congrArg some hkey
  | none =>
      obtain ⟨hsent, htable, hkey⟩ := resolveKey_eq hresult h
      have hkeySet : w.keySet = (w.resolveKey.1,
          { w with
            cursor := { w.cursor with key := some w.resolveKey.1 }
            link := w.resolveKey.2 }) := by
        rw [Work.keySet, hcached]
      rw [hkeySet]
      have hlink := h.of_link (hsent.1.trans h.server) htable
      refine ⟨⟨{ hlink with key := fun key hcached => ?_ }, [], hsent, .nil⟩, hkey⟩
      exact hkey key (Option.some.inj hcached)

/-! ### Sent writes -/

/-- A write for the row of a slot, after which the slot is in step if the write was carried out. -/
theorem Keeps.send (hresult : S.Projects d origins) (h : S.InStep d origins w)
    {request : Request} {change : Cursor → Cursor} {status : RowStatus} {f : RowSlot → RowSlot}
    {slot : RowSlot} {terms : List ColumnValue} (hslot : w.cursor.buffer.slot? id = some slot)
    (hplace : origins[id]? = some place) (hterms : S.terms? request = some terms)
    (hmatching : (S.table w.link.state).matching S.agrees terms = [place])
    (hsame : SameContents (w.cursor.modifySlot id f) (change w.cursor))
    (hcarried : ∀ answer, (S.server.execute request w.link.state).1 = .ok answer →
      answer.affected = 1 ∧
      (∀ i, i ≠ place → (S.table (S.server.execute request w.link.state).2)[i]? =
        (S.table w.link.state)[i]?) ∧
      S.SlotInStep d (S.server.execute request w.link.state).2 id (f slot) place) :
    S.Keeps d origins [id] w (w.send request change status).2 := by
  obtain ⟨hanswer, hstate⟩ := Link.execute_of_server h.server request
  have hsent := w.link.sent_execute request
  rw [h.server] at hsent
  have helsewhere : ∀ i, i ≠ place →
      (S.table (S.server.execute request w.link.state).2)[i]? =
        (S.table w.link.state)[i]? := by
    intro i hi
    cases hexecute : (S.server.execute request w.link.state).1 with
    | error e => rw [S.table_refused _ _ e hexecute]
    | ok answer => exact (hcarried answer hexecute).2.1 i hi
  have hhits : List.SublistForall₂ (S.HitsOrigin origins)
      [⟨w.link.state, request, (S.server.execute request w.link.state).1⟩] [id] :=
    .cons ⟨place, hplace, ⟨terms, hterms, hmatching⟩, fun answer h => (hcarried answer h).1,
      helsewhere⟩ .nil
  -- A refused statement changes neither the table nor the slot.
  cases hexecute : (S.server.execute request w.link.state).1 with
  | error e =>
      have hsend : w.send request change status =
          (.failed e, { w with link := (w.link.execute request).2 }) := by
        unfold Work.send
        rw [show w.link.execute request = (.error e, (w.link.execute request).2) from
          Prod.ext (hanswer.trans hexecute) rfl]
      rw [hsend]
      have htable : S.table (w.link.execute request).2.state = S.table w.link.state := by
        rw [hstate, S.table_refused _ _ e hexecute]
      exact ⟨h.of_link h.server htable, _, hsent, hhits⟩
  | ok answer =>
      obtain ⟨haffected, -, hafter⟩ := hcarried answer hexecute
      have hsend : w.send request change status =
          (.done answer.affected status,
            { w with cursor := change w.cursor, link := (w.link.execute request).2 }) := by
        unfold Work.send
        rw [show w.link.execute request = (.ok answer, (w.link.execute request).2) from
          Prod.ext (hanswer.trans hexecute) rfl]
        dsimp only
        rw [haffected, if_neg Nat.one_ne_zero]
      rw [hsend]
      refine ⟨h.of_change hresult.nodup hplace hsame h.server ?_ ?_ ?_ ?_, _, hsent, hhits⟩
      · intro names hnames
        rw [hstate]
        exact S.distinct request w.link.state names hnames (h.distinct names hnames)
      · intro i hi
        rw [hstate, helsewhere i hi]
      · intro before hbefore
        rw [hslot] at hbefore
        cases hbefore
        rw [hstate]
        exact hafter
      · exact (List.getElem?_eq_some_iff.mp hslot).1

/-- A row that can be written is at its place, as its image says. -/
theorem InStep.exists_of_liveImage (h : S.InStep d origins w) {image : Record}
    (hlive : w.liveImage id = .ok image) :
    ∃ slot place row, w.cursor.buffer.slot? id = some slot ∧ image = slot.image ∧
      origins[id]? = some place ∧ slot.position = some (id + 1) ∧
      (S.table w.link.state)[place]? = some (some row) ∧ slot.image.Shows d S.ref row ∧
      slot.values.Shows d S.ref row := by
  obtain ⟨slot, hslot, hpresent, rfl⟩ := Work.exists_slot_of_liveImage hlive
  obtain ⟨place, hplace, hstep⟩ := h.slots id slot hslot
  obtain ⟨row, hrow, himage, hvalues⟩ := hstep.present hpresent
  exact ⟨slot, place, row, hslot, rfl, hplace, hstep.position, hrow, himage, hvalues⟩

theorem Keeps.updateSlot (hresult : S.Projects d origins) (h : S.InStep d origins w)
    (hkey : KeySet.ofMetadata d S.ref S.metadata = .ok key) (supplied : Supplied) (id : SlotId)
    (bindingRow : Nat) :
    S.Keeps d origins [id] w (w.updateSlot key supplied id bindingRow).2 := by
  have htable : key.table = S.ref := (KeySet.exists_uniqueColumns hkey (hresult.isUnique _ hkey)).1
  unfold Work.updateSlot
  split
  · exact .refl h _
  next image hlive =>
    obtain ⟨slot, place, row, hslot, rfl, hplace, hposition, hrow, himage, hvalues⟩ :=
      h.exists_of_liveImage hlive
    split
    · exact .refl h _
    · exact .refl h _
    next assignments _ hassignments =>
      split
      · exact .refl h _
      next request hrequest =>
        rw [h.descriptor, htable] at hassignments
        rw [h.descriptor] at hrequest
        obtain ⟨values, terms, found, hplan, hfor, hterms, hfound⟩ :=
          Dialect.plan_of_update (fun assignment hmem => by
            rw [htable]
            exact Bindings.mem_columnsOf_of_assignments hassignments hmem) hrequest
        rw [htable] at hplan hfor
        -- The terms come from the image, which is what the table holds at the place.
        have hmatching := S.matching_terms hkey (hresult.isUnique _ hkey) h.distinct hrow himage
          hterms hfound
        have hasked : S.terms? request = some terms := by
          simp [terms?, hplan]
        refine Keeps.send (f := fun slot => (slot.apply assignments).withStatus .updated) hresult h
          hslot hplace hasked hmatching ⟨rfl, rfl, rfl, rfl, rfl⟩ fun answer hanswer => ?_
        obtain ⟨haffected, hafter⟩ := S.updated request _ values terms answer hplan hanswer
        rw [hmatching] at haffected
        refine ⟨haffected, fun i hi => ?_, hposition, Bool.noConfusion, fun _ => ?_⟩
        · rw [hafter, Places.getElem?_update, hmatching, if_neg (by simpa using hi)]
        · refine ⟨row.assign values, ?_, himage.assign hresult.showsOnce hfor,
            hvalues.assign hresult.showsOnce hfor⟩
          rw [hafter, Places.getElem?_update, hmatching, if_pos (by simp), hrow]
          rfl

theorem Keeps.deleteSlot (hresult : S.Projects d origins) (h : S.InStep d origins w)
    (hkey : KeySet.ofMetadata d S.ref S.metadata = .ok key) (id : SlotId) :
    S.Keeps d origins [id] w (w.deleteSlot key id).2 := by
  have htable : key.table = S.ref := (KeySet.exists_uniqueColumns hkey (hresult.isUnique _ hkey)).1
  unfold Work.deleteSlot
  split
  · exact .refl h _
  next image hlive =>
    obtain ⟨slot, place, row, hslot, rfl, hplace, hposition, hrow, himage, -⟩ :=
      h.exists_of_liveImage hlive
    split
    · exact .refl h _
    next request hrequest =>
      obtain ⟨terms, found, hplan, hterms, hfound⟩ := Dialect.plan_of_delete hrequest
      rw [htable] at hplan
      have hmatching := S.matching_terms hkey (hresult.isUnique _ hkey) h.distinct hrow himage
        hterms hfound
      have hasked : S.terms? request = some terms := by
        simp [terms?, hplan]
      refine Keeps.send (f := fun slot => slot.withStatus .deleted) hresult h hslot hplace hasked
        hmatching ⟨rfl, rfl, rfl, rfl, rfl⟩ fun answer hanswer => ?_
      obtain ⟨haffected, hafter⟩ := S.deleted request _ terms answer hplan hanswer
      rw [hmatching] at haffected
      refine ⟨haffected, fun i hi => ?_, hposition, fun _ => ?_, Bool.noConfusion⟩
      · rw [hafter, Places.getElem?_delete, hmatching, if_neg (by simpa using hi)]
      · rw [hafter, Places.getElem?_delete, hmatching, if_pos (by simp)]

end ExactServer

end ScrollCursor
