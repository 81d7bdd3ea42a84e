import ScrollCursor.Proofs.Positioned.AddedRows
import ScrollCursor.Proofs.Positioned.Deletion

/-! # Writes of added rows by their bookmarks

A row that was added is updated or deleted by its bookmark like any other: the statement is built
from what the buffer has of its key. It reaches the row that was inserted or none, unless the buffer
has a number for the key that belongs to another column and is another row's key.
-/

namespace ScrollCursor

open Cursor (Ledger Addressable Named)

/-- The table and the terms that a plan finds rows by. -/
def Plan.terms? : Plan → Option (TableRef × List ColumnValue)
  | .update table _ terms => some (table, terms)
  | .delete table terms => some (table, terms)
  | _ => none

namespace NumberingServer

variable {σ : Type} (S : NumberingServer σ)

/-- A statement finds the row at one place and no other. -/
def FindsOnly (place : Nat) (write : SentWrite σ) : Prop :=
  ∃ terms, write.request.plan.bind Plan.terms? = some (S.ref, terms) ∧
    (S.table write.state).matching S.agrees terms = [place]

/-- What a write with a result came to: it changed the row at one place, or nothing. -/
structure OnlyAt (place : Nat) (w w' : Work σ) (result : RowResult) : Prop where
  elsewhere : ∀ i, i ≠ place → (S.table w'.link.state)[i]? = (S.table w.link.state)[i]?
  done : ∀ affected status, result = .done affected status →
    affected = 1 ∧ ∃ write, w.link.Sent w'.link [write] ∧ S.FindsOnly place write
  notDone : (∀ affected status, result ≠ .done affected status) →
    S.table w'.link.state = S.table w.link.state

variable {S} {d : ResultDescriptor} {key : KeySet} {w w' : Work σ} {id : SlotId} {place : Nat}
  {b : Bookmark} {row : Nat}

/-! ## Single writes -/

theorem OnlyAt.of_table {result : RowResult} (htable : S.table w'.link.state = S.table w.link.state)
    (hresult : ∀ affected status, result ≠ .done affected status) : S.OnlyAt place w w' result where
  elsewhere i _ := by rw [htable]
  done affected status h := absurd h (hresult affected status)
  notDone _ := htable

theorem OnlyAt.failed (e : Error) : S.OnlyAt place w w (.failed e) :=
  .of_table rfl fun _ _ => RowResult.noConfusion

/-- A statement that is carried out changes the rows that it finds and counts them. -/
theorem carried_out {request : Request} {s : σ} {terms : List ColumnValue} {answer : WriteAnswer}
    (hterms : request.plan.bind Plan.terms? = some (S.ref, terms))
    (hanswer : (S.server.execute request s).1 = .ok answer) :
    answer.affected = ((S.table s).matching S.agrees terms).length ∧
      ∀ i, i ∉ (S.table s).matching S.agrees terms →
        (S.table (S.server.execute request s).2)[i]? = (S.table s)[i]? := by
  obtain ⟨plan, hplan, hplanned⟩ := Option.bind_eq_some_iff.mp hterms
  cases plan with
  | update table values found =>
      cases hplanned
      obtain ⟨haffected, hafter⟩ := S.updated request s values terms answer hplan hanswer
      refine ⟨haffected, ?_⟩
      intro i hi
      rw [hafter, Places.getElem?_update, if_neg hi]
  | delete table found =>
      cases hplanned
      obtain ⟨haffected, hafter⟩ := S.deleted request s terms answer hplan hanswer
      refine ⟨haffected, ?_⟩
      intro i hi
      rw [hafter, Places.getElem?_delete, if_neg hi]
  | insert table values => cases hplanned
  | selectByKey table columns found forUpdate => cases hplanned

theorem OnlyAt.send (h : S.Serves d key w) {request : Request} {terms : List ColumnValue}
    (hterms : request.plan.bind Plan.terms? = some (S.ref, terms))
    (hmatching : ∀ i ∈ (S.table w.link.state).matching S.agrees terms, i = place)
    (change : Cursor → Cursor) (status : RowStatus) :
    S.OnlyAt place w (w.send request change status).2 (w.send request change status).1 := by
  have hsent := w.link.sent_execute request
  obtain ⟨hanswer, hstate⟩ := Link.execute_of_server h.server request
  unfold Work.send
  generalize w.link.execute request = answered at hsent hanswer hstate ⊢
  obtain ⟨answer, link⟩ := answered
  dsimp only at hsent hanswer hstate
  cases answer with
  | error e =>
      apply OnlyAt.of_table
      · dsimp only
        rw [hstate, S.table_refused _ _ e hanswer.symm]
      · intro affected status hdone
        cases hdone
  | ok answer =>
      obtain ⟨haffected, helsewhere⟩ := carried_out hterms hanswer.symm
      dsimp only
      by_cases hnone : answer.affected = 0
      · -- No row was found, so every place is as it was.
        rw [if_pos hnone]
        have hempty : (S.table w.link.state).matching S.agrees terms = [] :=
          List.eq_nil_of_length_eq_zero (haffected ▸ hnone)
        apply OnlyAt.of_table
        · apply List.ext_getElem?
          intro i
          dsimp only
          rw [hstate, helsewhere i (by simp [hempty])]
        · intro affected status hdone
          cases hdone
      · rw [if_neg hnone]
        have hfound : (S.table w.link.state).matching S.agrees terms = [place] := by
          apply Places.matching_eq_singleton
          intro i
          refine ⟨hmatching i, ?_⟩
          rintro rfl
          have hsome : (S.table w.link.state).matching S.agrees terms ≠ [] := by
            intro hempty
            exact hnone (by rw [haffected, hempty, List.length_nil])
          obtain ⟨j, hj⟩ := List.exists_mem_of_ne_nil _ hsome
          rw [← hmatching j hj]
          exact hj
        constructor
        case elsewhere =>
          intro i hi
          dsimp only
          rw [hstate, helsewhere i (by simpa [hfound] using hi)]
        case done =>
          intro affected status hdone
          cases hdone
          rw [haffected, hfound]
          exact ⟨rfl, _, hsent, terms, hterms, hfound⟩
        case notDone =>
          intro hnever
          exact absurd rfl (hnever _ _)

/-- The statements that are built from the image of a slot find no row but the one at a place. -/
def FindsNoOther (key : KeySet) (w : Work σ) (id : SlotId) (place : Nat) : Prop :=
  ∀ image terms, w.liveImage id = .ok image → key.terms image = .ok terms →
    ∀ i ∈ (S.table w.link.state).matching S.agrees terms, i = place

theorem send_ne_skipped (w : Work σ) (request : Request) (change : Cursor → Cursor)
    (status : RowStatus) : (w.send request change status).1 ≠ .skipped := by
  unfold Work.send
  split
  · exact RowResult.noConfusion
  · split <;> exact RowResult.noConfusion

theorem OnlyAt.updateSlot (hkeyed : S.Keyed d key) (h : S.Serves d key w)
    (hfinds : S.FindsNoOther key w id place) (supplied : Supplied) (bindingRow : Nat) :
    S.OnlyAt place w (w.updateSlot key supplied id bindingRow).2
        (w.updateSlot key supplied id bindingRow).1 ∧
      ((w.updateSlot key supplied id bindingRow).1 = .skipped →
        w.bindings.assignments supplied bindingRow d S.ref = .ok []) := by
  have htable := (KeySet.shows_of_ofTable hkeyed.resolved).1
  unfold Work.updateSlot
  rw [h.descriptor, htable]
  split
  · exact ⟨.failed _, RowResult.noConfusion⟩
  next image himage =>
    split
    · exact ⟨.failed _, RowResult.noConfusion⟩
    next hempty => exact ⟨.of_table rfl fun _ _ => RowResult.noConfusion, fun _ => hempty⟩
    next assignments _ hassignments =>
      split
      · exact ⟨.failed _, RowResult.noConfusion⟩
      next request hrequest =>
        obtain ⟨values, terms, found, hplan, -, hterms, -⟩ := Dialect.plan_of_update
          (fun _ hmem => by
            rw [htable]
            exact Bindings.mem_columnsOf_of_assignments hassignments hmem) hrequest
        have hfound : request.plan.bind Plan.terms? = some (S.ref, terms) := by
          rw [hplan, htable]
          rfl
        refine ⟨OnlyAt.send h hfound (hfinds image terms himage hterms) _ _, ?_⟩
        intro hskipped
        exact absurd hskipped (send_ne_skipped w request _ _)

theorem OnlyAt.deleteSlot (hkeyed : S.Keyed d key) (h : S.Serves d key w)
    (hfinds : S.FindsNoOther key w id place) :
    S.OnlyAt place w (w.deleteSlot key id).2 (w.deleteSlot key id).1 ∧
      (w.deleteSlot key id).1 ≠ .skipped := by
  have htable := (KeySet.shows_of_ofTable hkeyed.resolved).1
  unfold Work.deleteSlot
  split
  · exact ⟨.failed _, RowResult.noConfusion⟩
  next image himage =>
    split
    · exact ⟨.failed _, RowResult.noConfusion⟩
    next request hrequest =>
      obtain ⟨terms, found, hplan, hterms, -⟩ := Dialect.plan_of_delete hrequest
      have hfound : request.plan.bind Plan.terms? = some (S.ref, terms) := by
        rw [hplan, htable]
        rfl
      exact ⟨OnlyAt.send h hfound (hfinds image terms himage hterms) _ _, send_ne_skipped w _ _ _⟩

/-! ## What is known of the row -/

/-- In each column of its key a row is as it was, in the buffer and in the table, or the buffer has
what the table has. -/
def KeyFollows (S : NumberingServer σ) (key : KeySet) (id : SlotId) (place : Nat)
    (w w' : Work σ) : Prop :=
  ∀ before after row, w.liveImage id = .ok before → w'.liveImage id = .ok after →
    (S.table w.link.state)[place]? = some (some row) →
      ∃ row', (S.table w'.link.state)[place]? = some (some row') ∧ ∀ k ∈ key.columns,
        after[k.ordinal]? = some (row'.get k.name) ∨
          (after[k.ordinal]? = before[k.ordinal]? ∧ row'.get k.name = row.get k.name)

/-- The number that the buffer has for the key of a row is misplaced, and another row's key. -/
def Mistaken (S : NumberingServer σ) (key : KeySet) (w : Work σ) (id : SlotId) (place : Nat) :
    Prop :=
  ∃ image row k n i other, w.liveImage id = .ok image ∧
    (S.table w.link.state)[place]? = some (some row) ∧ S.Misplaced key image row k n ∧
    (S.table w.link.state)[i]? = some (some other) ∧ i ≠ place ∧
    other.holds S.agrees ⟨k.name, k.sqlType, .integer n⟩ = true

theorem KeyImage.follow {before after : Record} {row row' : TableRow}
    (h : S.KeyImage key before row)
    (hcolumns : ∀ k ∈ key.columns, after[k.ordinal]? = some (row'.get k.name) ∨
      (after[k.ordinal]? = before[k.ordinal]? ∧ row'.get k.name = row.get k.name)) :
    S.KeyImage key after row' := by
  intro k hk
  rcases hcolumns k hk with halike | ⟨himage, hrow⟩
  · exact Or.inl halike
  · rw [himage, hrow]
    apply (h k hk).imp_right
    apply Or.imp_right
    rintro ⟨n, hmisplaced⟩
    exact ⟨n, hmisplaced.columns, hmisplaced.numbered, himage.trans hmisplaced.image,
      hrow ▸ hmisplaced.row⟩

/-- A statement that is built from a mistaken number finds another row. -/
theorem Mistaken.not_findsNoOther (h : S.Mistaken key w id place) :
    ¬ S.FindsNoOther key w id place := by
  obtain ⟨image, row, k, n, i, other, himage, -, hmisplaced, hother, helsewhere, hholds⟩ := h
  have hterms : key.terms image = .ok [⟨k.name, k.sqlType, .integer n⟩] := by
    rw [KeySet.terms, hmisplaced.columns, Results.mapM_eq_ok]
    refine .cons ?_ .nil
    rw [KeySet.term, hmisplaced.image]
    rfl
  intro hfinds
  apply helsewhere
  apply hfinds image _ himage hterms
  apply Places.mem_matching.mpr
  refine ⟨other, hother, ?_⟩
  rw [TableRow.satisfies, List.all_cons, hholds]
  rfl

/-- The bookmark of an addition finds no other row exactly if it is not mistaken for another row's. -/
theorem Placed.findsNoOther_iff (hkeyed : S.Keyed d key) (hplaced : S.Placed key w id place)
    (hkind : w.cursor.kind.isScrollable = true) (hchanges : Cursor.Changes w.cursor w'.cursor)
    (hserves : S.Serves d key w') (hfollows : KeyFollows S key id place w w') :
    S.FindsNoOther key w' id place ↔ ¬ Mistaken S key w' id place := by
  constructor
  · intro hfinds hmistaken
    exact hmistaken.not_findsNoOther hfinds
  · intro hmistaken image terms himage hterms
    obtain ⟨slot, row, hslot, hrow, hkey⟩ := hplaced
    -- A row that can be written now could be written when it was added.
    have hbefore : w.liveImage id = .ok slot.image := by
      simp only [Work.liveImage, hslot]
      rw [if_neg]
      intro hdeleted
      have hgone := Cursor.deleted_of_changes hkind hchanges
        (Cursor.slotStatus_eq_deleted.mpr ⟨slot, hslot, hdeleted⟩)
      rw [Work.liveImage_of_deleted hgone] at himage
      cases himage
    obtain ⟨row', hrow', hcolumns⟩ := hfollows slot.image image row hbefore himage hrow
    apply eq_of_mem_matching hkeyed hserves.distinct hrow' (hkey.follow hcolumns) hterms
    intro k n hmisplaced i other hother hholds
    by_contra helsewhere
    exact hmistaken ⟨image, row', k, n, i, other, himage, hrow', hmisplaced, hother, helsewhere,
      hholds⟩

end NumberingServer

/-! ## Calls with one bookmark -/

/-- The reports of rows of which all but one are left out. -/
def RowReport.among (report : RowReport) (rows : List Nat) : List RowReport :=
  rows.map fun row => if row = report.row then report else ⟨row, .skipped, .noRow⟩

namespace Work

variable {σ : Type} {w : Work σ} {b : Bookmark} {row : Nat}

/-- The bookmark is bound for a row, and no bookmark for any other. -/
structure BoundAlone (w : Work σ) (b : Bookmark) (row : Nat) : Prop where
  pos : 0 < row
  le : row ≤ min w.bindings.bookmarkRows w.cursor.size
  bound : w.bindings.bookmark? (row - 1) = some b
  others : ∀ i, i ≠ row - 1 → w.bindings.bookmark? i = none

theorem forRows_of_skipped {f : Work σ → Nat → RowResult × RowStatus × Work σ} {rows : List Nat}
    (h : ∀ row ∈ rows, f w row = (.skipped, .noRow, w)) :
    forRows f w rows = (rows.map fun row => ⟨row, .skipped, .noRow⟩, w) := by
  induction rows with
  | nil => rfl
  | cons row rows ih =>
      have hrest := ih fun other hother => h other (List.mem_cons_of_mem row hother)
      simp only [forRows, h row List.mem_cons_self, hrest, List.map_cons]

/-- Where all rows but one are left out, the work is that of this row. -/
theorem forRows_of_alone {f : Work σ → Nat → RowResult × RowStatus × Work σ} {rows : List Nat}
    (hnodup : rows.Nodup) (hrow : row ∈ rows)
    (hbefore : ∀ other ∈ rows, other ≠ row → f w other = (.skipped, .noRow, w))
    (hafter : ∀ other ∈ rows, other ≠ row →
      f (f w row).2.2 other = (.skipped, .noRow, (f w row).2.2)) :
    forRows f w rows =
      (RowReport.among ⟨row, (f w row).1, (f w row).2.1⟩ rows, (f w row).2.2) := by
  induction rows with
  | nil => cases hrow
  | cons first rest ih =>
      obtain ⟨hfirst, hrest⟩ := List.nodup_cons.mp hnodup
      by_cases hsame : first = row
      · subst hsame
        have hothers : ∀ other ∈ rest, other ≠ first := by
          rintro other hother rfl
          exact hfirst hother
        have hskipped := forRows_of_skipped (w := (f w first).2.2) fun other hother =>
          hafter other (List.mem_cons_of_mem first hother) (hothers other hother)
        simp only [forRows, hskipped, RowReport.among, List.map_cons, if_true]
        congr 2
        apply List.map_congr_left
        intro other hother
        rw [if_neg (hothers other hother)]
      · have hmem : row ∈ rest := (List.mem_cons.mp hrow).resolve_left (Ne.symm hsame)
        have htail := ih hrest hmem
          (fun other hother => hbefore other (List.mem_cons_of_mem first hother))
          (fun other hother => hafter other (List.mem_cons_of_mem first hother))
        simp only [forRows, hbefore first List.mem_cons_self hsame, htail, RowReport.among,
          List.map_cons, if_neg hsame]

theorem BoundAlone.forRows (h : w.BoundAlone b row)
    {f : Work σ → SlotId → Nat → RowResult × Work σ}
    (hf : ∀ w id row, (f w id row).2.bindings = w.bindings) {v : Work σ}
    (hv : v.bindings = w.bindings) {rows : List Nat} (hrows : w.bookmarkRows = .ok rows) :
    forRows (onBookmark f) v rows =
      (RowReport.among ⟨row, (v.onBookmark f row).1, (v.onBookmark f row).2.1⟩ rows,
        (v.onBookmark f row).2.2) := by
  have hmem : row ∈ rows := List.mem_of_getElem? (getElem?_of_bookmarkRows hrows h.pos h.le)
  have hrange : rows = List.range' 1 (min w.bindings.bookmarkRows w.cursor.size) := by
    unfold bookmarkRows at hrows
    split at hrows
    · cases hrows
    · split at hrows <;> cases hrows
      rfl
  -- A row without a bookmark is left out, whatever the others do.
  have hskips (u : Work σ) (hu : u.bindings = w.bindings) (other : Nat) (hother : other ∈ rows)
      (hne : other ≠ row) : u.onBookmark f other = (.skipped, .noRow, u) := by
    have hpos : 1 ≤ other := (List.mem_range'_1.mp (hrange ▸ hother)).1
    have hnone := h.others (other - 1) (by have := h.pos; omega)
    simp only [onBookmark, hu, hnone]
  apply forRows_of_alone
  · rw [hrange]
    exact List.nodup_range'
  · exact hmem
  · exact hskips v hv
  · exact hskips _ ((onBookmark_bindings hf v row).trans hv)

end Work

namespace NumberingServer

variable {σ : Type} {S : NumberingServer σ} {d : ResultDescriptor} {key : KeySet} {w : Work σ}
  {id : SlotId} {place : Nat} {b : Bookmark} {row : Nat}

/-- A call with a bookmark for one row only is refused and changes nothing, or it reports what became
of this row, which is the only one that it may have changed. -/
structure ReportsOnly (S : NumberingServer σ) (place row : Nat) (skips : Prop) (w : Work σ)
    (answered : Except Error OperationOutcome × Work σ) : Prop where
  refused : ∀ e, answered.1 = .error e → S.table answered.2.link.state = S.table w.link.state
  reported : ∀ outcome, answered.1 = .ok outcome →
    ∃ (report : RowReport) (rows : List Nat), report.row = row ∧ row ∈ rows ∧
      outcome = .ofReports (report.among rows) ∧ S.OnlyAt place w answered.2 report.result ∧
      (report.result = .skipped → skips)

theorem ReportsOnly.of_error {skips : Prop} {e : Error} {w' : Work σ}
    (htable : S.table w'.link.state = S.table w.link.state) :
    S.ReportsOnly place row skips w (.error e, w') where
  refused _ _ := htable
  reported _ h := by cases h

theorem OnlyAt.onBookmark {f : Work σ → SlotId → Nat → RowResult × Work σ} {skips : Prop}
    (hbound : w.bindings.bookmark? (row - 1) = some b)
    (hresolve : ∀ other, w.cursor.bookmarks.resolve? b = some other → other = id)
    (hf : S.OnlyAt place w (f w id row).2 (f w id row).1 ∧ ((f w id row).1 = .skipped → skips)) :
    S.OnlyAt place w (w.onBookmark f row).2.2 (w.onBookmark f row).1 ∧
      ((w.onBookmark f row).1 = .skipped → skips) := by
  unfold Work.onBookmark
  rw [hbound]
  dsimp only
  split
  · exact ⟨.of_table rfl fun _ _ => RowResult.noConfusion, RowResult.noConfusion⟩
  next other hother =>
    rw [hresolve other hother]
    exact hf

theorem OnlyAt.of_link {w' w'' : Work σ} {result : RowResult} (h : S.OnlyAt place w w' result)
    (hlink : w''.link = w'.link) : S.OnlyAt place w w'' result := by
  constructor
  · rw [hlink]
    exact h.elsewhere
  · rw [hlink]
    exact h.done
  · rw [hlink]
    exact h.notDone

/-- Asking for the key first writes nothing. -/
theorem OnlyAt.after {v : Work σ} {result : RowResult} (hsent : w.link.Sent v.link [])
    (htable : S.table v.link.state = S.table w.link.state) {w' : Work σ}
    (h : S.OnlyAt place v w' result) : S.OnlyAt place w w' result where
  elsewhere i hi := htable ▸ h.elsewhere i hi
  done affected status hdone := by
    obtain ⟨hone, write, hwrite, hfinds⟩ := h.done affected status hdone
    exact ⟨hone, write, hsent.append hwrite, hfinds⟩
  notDone hnever := (h.notDone hnever).trans htable

theorem reportsOnly_writeByBookmark (hkeyed : S.Keyed d key) (h : S.Serves d key w)
    (halone : w.BoundAlone b row)
    (hresolve : ∀ other, w.cursor.bookmarks.resolve? b = some other → other = id)
    {f : KeySet → Work σ → SlotId → Nat → RowResult × Work σ} {skips : Prop}
    (hbindings : ∀ key w id row, (f key w id row).2.bindings = w.bindings)
    (hf : S.OnlyAt place w.keySet.2 (f key w.keySet.2 id row).2 (f key w.keySet.2 id row).1 ∧
      ((f key w.keySet.2 id row).1 = .skipped → skips)) :
    S.ReportsOnly place row skips w (w.overBookmarks fun rows => w.writeByBookmark rows f) := by
  unfold Work.overBookmarks
  cases hrows : w.bookmarkRows with
  | error e => exact .of_error rfl
  | ok rows =>
      obtain ⟨-, hfound, htable, hsent⟩ := h.keySet hkeyed
      obtain ⟨hsame, -, hbookmarks⟩ := ExactServer.keySet_frame w
      dsimp only
      unfold Work.writeByBookmark
      generalize w.keySet = asked at hfound htable hsent hsame hbookmarks hf ⊢
      obtain ⟨found, v⟩ := asked
      cases found with
      | error e => exact .of_error htable
      | ok found =>
          cases hfound found rfl
          dsimp only at htable hsent hsame hbookmarks hf ⊢
          obtain ⟨hreach, hskips⟩ := OnlyAt.onBookmark (hsame ▸ halone.bound)
            (hbookmarks.symm ▸ hresolve) hf
          rw [halone.forRows (hbindings key) hsame hrows]
          have hmem := List.mem_of_getElem?
            (Work.getElem?_of_bookmarkRows hrows halone.pos halone.le)
          constructor
          case refused =>
            intro e he
            cases he
          case reported =>
            intro outcome houtcome
            cases houtcome
            exact ⟨_, rows, rfl, hmem, rfl,
              (hreach.after hsent htable).of_link rfl, hskips⟩

/-- The operation by bookmark reaches the row at a place or none. It leaves the row out only if it is
an update with nothing to set. -/
def ReachesOnly (S : NumberingServer σ) (place row : Nat) (w : Work σ) (operation : BulkOperation)
    (supplied : Supplied) : Prop :=
  S.ReportsOnly place row
    (operation = .updateByBookmark ∧
      w.bindings.assignments supplied (row - 1) w.cursor.descriptor S.ref = .ok [])
    w (w.bulk operation supplied)

theorem reachesOnly_bulk (hkeyed : S.Keyed d key) (h : S.Serves d key w)
    (halone : w.BoundAlone b row)
    (hresolve : ∀ other, w.cursor.bookmarks.resolve? b = some other → other = id)
    (hfinds : S.FindsNoOther key w id place) {operation : BulkOperation}
    (hoperation : operation = .updateByBookmark ∨ operation = .deleteByBookmark)
    (supplied : Supplied) :
    S.ReachesOnly place row w operation supplied := by
  obtain ⟨hserves, -, htable, -⟩ := h.keySet hkeyed
  have hsame := (ExactServer.keySet_frame w).1
  -- The slot and the table are as they were before the key was asked for.
  have hfinds' : S.FindsNoOther key w.keySet.2 id place := by
    have hlive : w.keySet.2.liveImage id = w.liveImage id := by
      rw [Work.liveImage, Work.liveImage, w.keySet_buffer]
    intro image terms himage
    rw [htable]
    exact hfinds image terms (hlive ▸ himage)
  unfold ReachesOnly
  rcases w.bulk_cases operation supplied with ⟨e, hrefused⟩ | hopen
  · rw [hrefused]
    exact .of_error rfl
  · rw [hopen]
    rcases hoperation with rfl | rfl
    · apply reportsOnly_writeByBookmark hkeyed h halone hresolve
        (f := fun key w id row => w.updateSlot key supplied id (row - 1))
      · intro key w id row
        exact (w.updateSlot_frame key supplied id (row - 1)).1
      · obtain ⟨hreach, hskips⟩ := OnlyAt.updateSlot hkeyed hserves hfinds' supplied (row - 1)
        refine ⟨hreach, ?_⟩
        intro hskipped
        rw [← hsame, h.descriptor]
        exact ⟨rfl, hskips hskipped⟩
    · apply reportsOnly_writeByBookmark hkeyed h halone hresolve
        (f := fun key w id _ => w.deleteSlot key id)
      · intro key w id row
        exact (w.deleteSlot_frame key id).1
      · obtain ⟨hreach, hskips⟩ := OnlyAt.deleteSlot hkeyed hserves hfinds'
        exact ⟨hreach, fun hskipped => absurd hskipped hskips⟩

/-! ## Added rows -/

theorem KeyFollows.of_same {w' : Work σ} (hlive : w'.liveImage id = w.liveImage id)
    (htable : S.table w'.link.state = S.table w.link.state) : KeyFollows S key id place w w' := by
  intro before after row hbefore hafter hrow
  refine ⟨row, htable ▸ hrow, ?_⟩
  intro k _
  rw [hlive, hbefore] at hafter
  cases hafter
  exact Or.inr ⟨rfl, rfl⟩

/-- A row that was added is updated or deleted by its bookmark alone: nothing else in the table
changes, and what is reported is what became of this row. This holds of every static cursor on a
table with a true key, whatever calls came before the addition and after it, unless the number that
the server gave was taken for the key and is the key of another row. -/
theorem reachesOnly_of_added {dialect : Dialect} {options : StatementOptions}
    {result : ResultSet} (hopened : w.cursor = .opened .static dialect options result)
    (hserver : w.link.server = S.server) (hkeyed : S.Keyed result.descriptor key)
    (hdistinct : (S.table w.link.state).Distinct S.agrees (key.columns.map KeyColumn.name))
    (huse : options.useBookmarks = true) (before : List Call) (call : Call) {i : Nat}
    (hadded : (b, (w.calls before).cursor.buffer.resident + i) ∈ (w.calls before).added call)
    (between : List Call)
    (hsize : Addressable (((w.calls before).call call).calls between).cursor)
    (hfollows : KeyFollows S key ((w.calls before).cursor.buffer.resident + i)
      ((S.table (w.calls before).link.state).length + i) ((w.calls before).call call)
      (((w.calls before).call call).calls between))
    (halone : (((w.calls before).call call).calls between).BoundAlone b row)
    (hmistaken : ¬ Mistaken S key (((w.calls before).call call).calls between)
      ((w.calls before).cursor.buffer.resident + i)
      ((S.table (w.calls before).link.state).length + i))
    {operation : BulkOperation}
    (hoperation : operation = .updateByBookmark ∨ operation = .deleteByBookmark)
    (supplied : Supplied) :
    S.ReachesOnly ((S.table (w.calls before).link.state).length + i) row
      (((w.calls before).call call).calls between) operation supplied := by
  have hstable := stable_serves hkeyed
  have hserves : S.Serves result.descriptor key w := by
    refine ⟨?_, ?_, hserver, ?_, hdistinct⟩
    · rw [hopened]
      rfl
    · rw [hopened]
      rfl
    · intro found hfound
      rw [hopened] at hfound
      cases hfound
  have hbefore := hstable.calls hserves before
  have hcalled := hstable.call hbefore call
  have hafter := hstable.calls hcalled between
  -- The bookmark stays with the slot of the row that it was given to.
  have hledger : Ledger w.cursor := hopened ▸ .opened _ _ _ _
  have hscrolls {v : Work σ} (hv : S.Serves result.descriptor key v) :
      v.cursor.kind.isScrollable = true := by
    rw [hv.kind]
    rfl
  have hchanges := (w.calls_changes before).trans ((w.calls before).call_changes call)
  have hlater := ((w.calls before).call call).calls_changes between
  have hsize' := hsize.of_changes (hscrolls hcalled) hlater
  have hledger' := hledger.of_changes (hscrolls hserves) hchanges hsize'
  have huse' : (w.calls before).cursor.options.useBookmarks = true := by
    rw [(w.calls_changes before).sameFrame.2.2.1, hopened]
    exact huse
  have hnamed : Named ((w.calls before).call call).cursor b
      ((w.calls before).cursor.buffer.resident + i) :=
    Cursor.named_of_ofSlot?
      (Work.ofSlot?_of_gives huse' hledger'.toResident (Or.inr hadded))
  have hnamed' := Cursor.named_of_changes hledger' (hscrolls hcalled) hlater hsize hnamed
  have hledger'' := hledger'.of_changes (hscrolls hcalled) hlater hsize
  have hresolve : ∀ other, (((w.calls before).call call).calls between).cursor.bookmarks.resolve? b =
      some other → other = (w.calls before).cursor.buffer.resident + i := by
    intro other hother
    apply hledger''.eq_of_named hsize hnamed'
    exact List.mem_append_left _ (Bookmarks.mem_of_lookup hother)
  have hplaced := placed_of_added hkeyed hbefore huse' hadded
  have hfinds := (hplaced.findsNoOther_iff hkeyed (hscrolls hcalled) hlater hafter hfollows).mpr
    hmistaken
  exact reachesOnly_bulk hkeyed hafter halone hresolve hfinds hoperation supplied

end NumberingServer

/-! ### A numbered row -/

namespace NumberedTable

/-- A row with the number 1 and the code 2, before the server gives the number 2. -/
def coded : NumberedTable where
  places := [some ⟨fun name =>
    if name = "ID" then .integer 1 else if name = "CODE" then .integer 2 else .string "a"⟩]
  next := 2

def codedMetadata : TableMetadata where
  table := Places.codedRef
  columns := [⟨"id", .integer, false⟩, ⟨"code", .integer, true⟩, ⟨"name", .varchar, true⟩]
  primaryKey := ["id"]
  uniqueIndexes := [⟨"codes", ["code"]⟩]

def server : NumberingServer NumberedTable :=
  .ofTable Places.codedRef (some codedMetadata) (some "id") [["id"], ["code"]]

/-- The columns of a result that shows the names under a number. -/
def columns (number : String) : ResultDescriptor :=
  [{ name := number, sqlType := .integer, table := some Places.codedRef },
    { name := "name", sqlType := .varchar, table := some Places.codedRef }]

/-- A cursor on the table, which shows a number and the name. -/
def cursor (number : String) (n : Int) : Work NumberedTable where
  cursor := .opened .static {} { useBookmarks := true }
    ⟨columns number, [.ok [.integer n, .string "a"]]⟩
  bindings := { columns := [none, some [.value (.string "b")]] }
  diagnostics := []
  link := ⟨server.server, coded, []⟩

/-- The cursor after the name `b` was added. -/
def added (number : String) (n : Int) : Work NumberedTable :=
  (cursor number n).call (.operation (.bulk .add) [])

/-- The key where the result shows the number itself. -/
def idKey : KeySet :=
  ⟨Places.codedRef, [⟨0, "id", .integer⟩], .primaryKey⟩

/-- The key where the result shows the code. -/
def codeKey : KeySet :=
  ⟨Places.codedRef, [⟨0, "code", .integer⟩], .uniqueIndex "codes"⟩

end NumberedTable

namespace NumberingServer

open NumberedTable (cursor added idKey codeKey)

/-- Where the result shows the number, the row that was added is the one that is deleted. -/
theorem reachesOnly_numberedId :
    (cursor "id" 1).added (.operation (.bulk .add) []) = [(.ofNumber 1, 0)] ∧
      NumberedTable.server.ReachesOnly 1 1 (added "id" 1) .deleteByBookmark [] ∧
      ((added "id" 1).bulk .deleteByBookmark []).2.link.state.places.map Option.isSome =
        [true, false] := by
  have hkeyed : NumberedTable.server.Keyed (NumberedTable.columns "id") idKey :=
    ⟨rfl, rfl, rfl, by decide⟩
  have hadded : (Bookmark.ofNumber 1, 0 + 0) ∈
      ((cursor "id" 1).calls []).added (.operation (.bulk .add) []) := .head _
  have halone : (added "id" 1).BoundAlone (.ofNumber 1) 1 := by
    refine ⟨by decide, by decide, rfl, ?_⟩
    intro i hi
    cases i with
    | zero => exact absurd rfl hi
    | succ i => rfl
  have hmistaken : ¬ NumberedTable.server.Mistaken idKey (added "id" 1) 0 1 := by
    rintro ⟨image, row, k, n, i, other, -, -, hmisplaced, -⟩
    have hk : k = ⟨0, "id", .integer⟩ := (List.singleton_inj.mp hmisplaced.columns).symm
    have hnumbered := hmisplaced.numbered
    rw [hk] at hnumbered
    exact absurd hnumbered (by decide)
  refine ⟨rfl, ?_, rfl⟩
  exact reachesOnly_of_added rfl rfl hkeyed (by decide) rfl [] (.operation (.bulk .add) []) hadded
    [] (by unfold Addressable; decide) (.of_same rfl rfl) halone hmistaken (Or.inr rfl) []

/-- Where the result shows the code instead, the row with the code 2 is deleted for the one with the
number 2. -/
theorem not_reachesOnly_numberedCode :
    NumberedTable.server.Keyed (NumberedTable.columns "code") codeKey ∧
      NumberedTable.coded.places.Distinct NumberedTable.server.agrees
        (codeKey.columns.map KeyColumn.name) ∧
      (cursor "code" 2).added (.operation (.bulk .add) []) = [(.ofNumber 1, 0)] ∧
      (added "code" 2).BoundAlone (.ofNumber 1) 1 ∧
      ¬ NumberedTable.server.ReachesOnly 1 1 (added "code" 2) .deleteByBookmark [] ∧
      ((added "code" 2).bulk .deleteByBookmark []).2.link.state.places.map Option.isSome =
        [false, true] := by
  refine ⟨⟨rfl, rfl, rfl, by decide⟩, by decide, rfl, ?_, ?_, rfl⟩
  · refine ⟨by decide, by decide, rfl, ?_⟩
    intro i hi
    cases i with
    | zero => exact absurd rfl hi
    | succ i => rfl
  · intro hreaches
    obtain ⟨report, rows, -, -, -, honly, -⟩ := hreaches.reported _ rfl
    have hfirst := honly.elsewhere 0 (by decide)
    cases hfirst

end NumberingServer

end ScrollCursor
