import ScrollCursor.Proofs.Positioned.Answers
import ScrollCursor.Proofs.Positioned.StaticCalls
import ScrollCursor.Proofs.WriteBack.Insertions

/-! # Where added rows are

A row that is added takes the next slot of the buffer, and the server puts it at the next place of
the table. So the bookmarks that an addition reports stand for the places behind the last row, in
their order.
-/

namespace ScrollCursor

namespace NumberingServer

variable {σ : Type} (S : NumberingServer σ)

/-- A static cursor on the table of the server, which holds no two rows with the same key. -/
structure Serves (d : ResultDescriptor) (key : KeySet) (w : Work σ) : Prop where
  kind : w.cursor.kind = .static
  descriptor : w.cursor.descriptor = d
  server : w.link.server = S.server
  known : ∀ found, w.cursor.key = some (.ok found) → found = key
  distinct : (S.table w.link.state).Distinct S.agrees (key.columns.map KeyColumn.name)

/-- The slot is of the row at a place of the table. -/
def Placed (key : KeySet) (w : Work σ) (id : SlotId) (place : Nat) : Prop :=
  ∃ slot row, w.cursor.buffer.slot? id = some slot ∧
    (S.table w.link.state)[place]? = some (some row) ∧ S.KeyImage key slot.image row

variable {S} {d : ResultDescriptor} {key : KeySet} {w w' : Work σ}

/-! ## What every call keeps -/

/-- A key that is found is the one of the table, and nothing is written to find it. -/
theorem Serves.keySet (hkeyed : S.Keyed d key) (h : S.Serves d key w) :
    S.Serves d key w.keySet.2 ∧ (∀ found, w.keySet.1 = .ok found → found = key) ∧
      S.table w.keySet.2.link.state = S.table w.link.state ∧ w.link.Sent w.keySet.2.link [] := by
  cases hcached : w.cursor.key with
  | some known =>
      have hsame : w.keySet = (known, w) := by rw [Work.keySet, hcached]
      rw [hsame]
      refine ⟨h, ?_, rfl, .refl _⟩
      intro found hfound
      apply h.known
      rw [hcached]
      exact congrArg some hfound
  | none =>
      have hsingle : w.cursor.descriptor.singleTable = .ok S.ref :=
        h.descriptor ▸ hkeyed.singleTable
      have hanswer : ∀ answer, (w.link.metadata S.ref).1 = .ok answer → answer = S.metadata := by
        intro answer hok
        apply S.metadata_eq w.link.state
        rw [← h.server]
        exact hok
      have hresolved : w.resolveKey.2 = (w.link.metadata S.ref).2 ∧
          ∀ found, w.resolveKey.1 = .ok found → found = key := by
        unfold Work.resolveKey
        rw [hsingle]
        dsimp only
        generalize w.link.metadata S.ref = asked at hanswer ⊢
        obtain ⟨answer, link⟩ := asked
        cases answer with
        | error e => exact ⟨rfl, fun _ hfound => by cases hfound⟩
        | ok m =>
            refine ⟨rfl, ?_⟩
            intro found hfound
            dsimp only at hfound
            rw [hanswer m rfl, h.descriptor, hkeyed.resolved] at hfound
            exact (Except.ok.inj hfound).symm
      obtain ⟨hlink, hfound⟩ := hresolved
      have htable : S.table (w.link.metadata S.ref).2.state = S.table w.link.state := by
        change S.table (w.link.server.metadata S.ref w.link.state).2 = _
        rw [h.server, S.table_metadata]
      have hasked : w.keySet = (w.resolveKey.1,
          { w with
            cursor := { w.cursor with key := some w.resolveKey.1 }
            link := (w.link.metadata S.ref).2 }) := by
        rw [Work.keySet, hcached, ← hlink]
      rw [hasked]
      refine ⟨⟨h.kind, h.descriptor, h.server, ?_, ?_⟩, hfound, htable, w.link.sent_metadata _⟩
      · intro found hcached
        exact hfound found (Option.some.inj hcached)
      · rw [htable]
        exact h.distinct

/-- No call on the cursor breaks what the server keeps unique. -/
theorem stable_serves (hkeyed : S.Keyed d key) : Work.Stable (S.Serves d key) where
  kind h := h.kind
  ground h hsame :=
    ⟨hsame.kind.trans h.kind, hsame.descriptor.trans h.descriptor, hsame.server.trans h.server,
      hsame.key.symm ▸ h.known, hsame.state.symm ▸ h.distinct⟩
  keySet h := (h.keySet hkeyed).1
  execute := by
    intro w request h
    refine ⟨h.kind, h.descriptor, h.server, h.known, ?_⟩
    change (S.table (w.link.server.execute request w.link.state).2).Distinct _ _
    rw [h.server]
    exact S.distinct request w.link.state _ hkeyed.unique h.distinct

/-! ## Additions -/

/-- A row is inserted at the next place and takes the next slot, or nothing changes. -/
theorem Serves.addOne (hkeyed : S.Keyed d key) (h : S.Serves d key w) (supplied : Supplied)
    {numbered : Option Nat} (hnumbered : ∀ i, numbered = some i → key.numberedColumn? = some i)
    (row : Nat) :
    ((Work.addOne supplied S.ref numbered w row).2.1 = none ∧
        (Work.addOne supplied S.ref numbered w row).2.2.cursor = w.cursor ∧
        S.table (Work.addOne supplied S.ref numbered w row).2.2.link.state =
          S.table w.link.state) ∨
      ∃ image stored,
        (Work.addOne supplied S.ref numbered w row).2.1 = (w.cursor.addRow image).1 ∧
        (Work.addOne supplied S.ref numbered w row).2.2.cursor = (w.cursor.addRow image).2 ∧
        S.table (Work.addOne supplied S.ref numbered w row).2.2.link.state =
          S.table w.link.state ++ [some stored] ∧
        S.KeyImage key image stored := by
  unfold Work.addOne Work.insertRow
  dsimp only
  split
  · exact Or.inl ⟨rfl, rfl, rfl⟩
  next values hvalues =>
    split
    · exact Or.inl ⟨rfl, rfl, rfl⟩
    next request hrequest =>
      rw [h.descriptor] at hvalues hrequest
      obtain ⟨targets, hplan, htargets⟩ := Dialect.plan_of_insert
        (fun _ hmem => Bindings.mem_columnsOf_of_assignments hvalues hmem) hrequest
      obtain ⟨hanswer, hstate⟩ := Link.execute_of_server h.server request
      generalize w.link.execute request = answered at hanswer hstate ⊢
      obtain ⟨answer, link⟩ := answered
      dsimp only at hanswer hstate
      cases answer with
      | error e =>
          refine Or.inl ⟨rfl, rfl, ?_⟩
          dsimp only
          rw [hstate, S.table_refused _ _ e hanswer.symm]
      | ok answer =>
          obtain ⟨-, stored, hstores, hafter⟩ :=
            S.inserted request _ targets answer hplan hanswer.symm
          refine Or.inr ⟨insertedImage w.cursor.descriptor.length values numbered answer.generated,
            stored, rfl, rfl, ?_, ?_⟩
          · dsimp only
            rw [hstate, hafter]
          · rw [h.descriptor]
            exact keyImage_insertedImage hkeyed htargets hstores hnumbered

/-- Rows that are added later leave a row in its slot and at its place. -/
theorem Placed.append {id : SlotId} {place : Nat} (h : S.Placed key w id place)
    {image : Record} (hcursor : w'.cursor = (w.cursor.addRow image).2) {stored : TableRow}
    (htable : S.table w'.link.state = S.table w.link.state ++ [some stored]) :
    S.Placed key w' id place := by
  obtain ⟨slot, row, hslot, hrow, himage⟩ := h
  refine ⟨slot, row, ?_, ?_, himage⟩
  · rw [hcursor, Cursor.addRow_buffer, RowBuffer.slot?_pushDetached image .added
      (RowBuffer.lt_resident_of_slot? hslot), hslot]
  · rw [htable, List.getElem?_append_left (List.getElem?_eq_some_iff.mp hrow).1, hrow]

theorem Placed.addEach (hkeyed : S.Keyed d key) (h : S.Serves d key w) (supplied : Supplied)
    {numbered : Option Nat} (hnumbered : ∀ i, numbered = some i → key.numberedColumn? = some i)
    {id : SlotId} {place : Nat} (hplaced : S.Placed key w id place) (rows : List Nat) :
    S.Placed key (Work.addEach supplied S.ref numbered w rows).2 id place := by
  induction rows generalizing w with
  | nil => exact hplaced
  | cons row rows ih =>
      have hserves := (stable_serves hkeyed).addOne h supplied S.ref numbered row
      apply ih hserves
      rcases h.addOne hkeyed supplied hnumbered row with
        ⟨-, hcursor, htable⟩ | ⟨image, stored, -, hcursor, htable, -⟩
      · obtain ⟨slot, row', hslot, hrow, himage⟩ := hplaced
        exact ⟨slot, row', by rw [hcursor]; exact hslot, by rw [htable]; exact hrow, himage⟩
      · exact hplaced.append hcursor htable

/-- The bookmarks of added rows stand for the next slots and the next places, in turn. -/
theorem placed_of_addEach (hkeyed : S.Keyed d key) (h : S.Serves d key w)
    (huse : w.cursor.options.useBookmarks = true) (supplied : Supplied) {numbered : Option Nat}
    (hnumbered : ∀ i, numbered = some i → key.numberedColumn? = some i) (rows : List Nat)
    {i : Nat} {b : Bookmark}
    (hb : ((Work.addEach supplied S.ref numbered w rows).1.map Prod.snd).reduceOption[i]? =
      some b) :
    S.Placed key (Work.addEach supplied S.ref numbered w rows).2 (w.cursor.buffer.resident + i)
      ((S.table w.link.state).length + i) := by
  induction rows generalizing w i with
  | nil => simp [Work.addEach, List.reduceOption] at hb
  | cons row rows ih =>
      have hserves := (stable_serves hkeyed).addOne h supplied S.ref numbered row
      have hframe := (Work.addOne_changes supplied S.ref numbered w row).sameFrame.2.2.1
      change ((Work.addOne supplied S.ref numbered w row).2.1 ::
        (Work.addEach supplied S.ref numbered (Work.addOne supplied S.ref numbered w row).2.2
          rows).1.map Prod.snd).reduceOption[i]? = some b at hb
      change S.Placed key (Work.addEach supplied S.ref numbered
        (Work.addOne supplied S.ref numbered w row).2.2 rows).2 _ _
      rcases h.addOne hkeyed supplied hnumbered row with
        ⟨hnone, hcursor, htable⟩ | ⟨image, stored, hsome, hcursor, htable, himage⟩
      · -- Without a bookmark nothing was added.
        rw [hnone, List.reduceOption_cons_of_none] at hb
        have hrest := ih hserves (hframe ▸ huse) hb
        rw [hcursor, htable] at hrest
        exact hrest
      · obtain ⟨first, hfirst, -⟩ := Work.addRow_of_useBookmarks huse image
        rw [hsome, hfirst, List.reduceOption_cons_of_some] at hb
        have hresident : (Work.addOne supplied S.ref numbered w row).2.2.cursor.buffer.resident =
            w.cursor.buffer.resident + 1 := by
          rw [hcursor, Cursor.addRow_buffer]
          exact RowBuffer.resident_pushDetached _ _ _
        cases i with
        | zero =>
            apply Placed.addEach hkeyed hserves supplied hnumbered
            refine ⟨.fresh image .added none, stored, ?_, ?_, himage⟩
            · rw [hcursor, Cursor.addRow_buffer]
              exact List.getElem?_concat_length
            · rw [htable]
              exact List.getElem?_concat_length
        | succ i =>
            have hrest := ih hserves (hframe ▸ huse) hb
            rw [hresident, htable, List.length_append, List.length_singleton] at hrest
            simpa only [Nat.add_assoc, Nat.add_comm 1] using hrest

/-- The bookmarks that a call reports for added rows stand for the places behind the table. -/
theorem placed_of_added (hkeyed : S.Keyed d key) (h : S.Serves d key w)
    (huse : w.cursor.options.useBookmarks = true) {call : Call} {b : Bookmark} {i : Nat}
    (hadded : (b, w.cursor.buffer.resident + i) ∈ w.added call) :
    S.Placed key (w.call call) (w.cursor.buffer.resident + i)
      ((S.table w.link.state).length + i) := by
  obtain ⟨supplied, rows, hcall, hmem⟩ := Work.exists_addRows_of_mem_added hadded
  obtain ⟨hserves, hfound, htable, -⟩ := h.keySet hkeyed
  have hframe := w.keySet_changes.sameFrame.2.2.1
  have hsingle : w.cursor.descriptor.singleTable = .ok S.ref := h.descriptor ▸ hkeyed.singleTable
  have hnumbered : ∀ i, w.keySet.1.toOption.bind KeySet.numberedColumn? = some i →
      key.numberedColumn? = some i := by
    intro i hi
    obtain ⟨found, hok, hi⟩ := Option.bind_eq_some_iff.mp hi
    cases hkey : w.keySet.1 with
    | error e =>
        rw [hkey] at hok
        cases hok
    | ok other =>
        rw [hkey] at hok
        cases hok
        rw [← hfound found hkey]
        exact hi
  rw [hcall]
  unfold Work.addRows at hmem ⊢
  rw [hsingle] at hmem ⊢
  have hb := List.mk_add_mem_zipIdx_iff_getElem?.mp hmem
  have hplaced := placed_of_addEach hkeyed hserves (hframe ▸ huse) supplied hnumbered rows hb
  rw [w.keySet_buffer, htable] at hplaced
  exact hplaced

end NumberingServer

end ScrollCursor
