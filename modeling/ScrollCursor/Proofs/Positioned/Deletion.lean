import ScrollCursor.Proofs.Positioned.DeletedRows

/-! # Deletion is final

Once a row is deleted it stays so. No request is built from it, nothing of it is shown but that it
is deleted, and the bookmarks that named it are refused.
-/

namespace ScrollCursor

open Cursor (Ledger Addressable Named)

/-- A bookmark whose row is deleted names nothing. -/
theorem Cursor.Ledger.resolve?_eq_none {c : Cursor} {b : Bookmark} {id : SlotId} (h : Ledger c)
    (hsize : Addressable c) (hnamed : Named c b id) (hdeleted : c.slotStatus id = .deleted) :
    c.bookmarks.resolve? b = none := by
  cases hresolve : c.bookmarks.resolve? b with
  | none => rfl
  | some other =>
      have hlive : (b, other) ∈ c.bookmarks.live := Bookmarks.mem_of_lookup hresolve
      have hsame := h.eq_of_named hsize hnamed (List.mem_append_left _ hlive)
      exact absurd (hsame ▸ hdeleted) (h.notDeleted _ hlive)

namespace Work

variable {σ : Type} {w : Work σ} {id : SlotId}

/-- Every bookmark operation that is carried out reports the rows with the bookmark as failed, for
the reason that it names no row. -/
def Rejects (w : Work σ) (b : Bookmark) : Prop :=
  ∀ operation supplied outcome, operation ≠ .add →
    (w.bulk operation supplied).1 = .ok outcome →
    Addressable (w.bulk operation supplied).2.cursor →
    ∀ row, 0 < row → row ≤ min w.bindings.bookmarkRows w.cursor.size →
      w.bindings.bookmark? (row - 1) = some b →
      outcome.statuses[row - 1]? = some .error ∧
        ∃ e ∈ outcome.errors, e = .ofError row (.bookmarkNotFound b.hex) ∧ e.sqlstate = "HY111"

/-! ## Reports of single rows -/

/-- Each row is reported as the work on it found it, in between the rows before and after it. -/
theorem exists_report {f : Work σ → Nat → RowResult × RowStatus × Work σ}
    (hchanges : ∀ w row, Cursor.Changes w.cursor (f w row).2.2.cursor)
    (hbindings : ∀ w row, (f w row).2.2.bindings = w.bindings) (w : Work σ) {rows : List Nat}
    {i row : Nat} (h : rows[i]? = some row) :
    ∃ v, v.bindings = w.bindings ∧ Cursor.Changes w.cursor v.cursor ∧
      Cursor.Changes v.cursor (forRows f w rows).2.cursor ∧
      (forRows f w rows).1[i]? = some ⟨row, (f v row).1, (f v row).2.1⟩ := by
  induction rows generalizing w i with
  | nil => cases h
  | cons first rest ih =>
      cases i with
      | zero =>
          cases h
          exact ⟨w, rfl, .refl, forRows_changes hchanges w (row :: rest), rfl⟩
      | succ i =>
          obtain ⟨v, hsame, hbefore, hafter, hreport⟩ := ih (f w first).2.2 h
          exact ⟨v, hsame.trans (hbindings w first), (hchanges w first).trans hbefore, hafter,
            hreport⟩

theorem onBookmark_bindings {f : Work σ → SlotId → Nat → RowResult × Work σ}
    (hf : ∀ w id row, (f w id row).2.bindings = w.bindings) (w : Work σ) (row : Nat) :
    (w.onBookmark f row).2.2.bindings = w.bindings := by
  unfold onBookmark
  split
  · rfl
  · split
    · rfl
    · exact hf w _ row

/-- What the outcome has of a failed row. -/
theorem outcome_of_failed {reports : List RowReport} {i row : Nat} {e : Error} {before : RowStatus}
    (h : reports[i]? = some ⟨row, .failed e, before⟩) :
    (OperationOutcome.ofReports reports).statuses[i]? = some .error ∧
      RowError.ofError row e ∈ (OperationOutcome.ofReports reports).errors := by
  constructor
  · change (reports.map RowReport.status)[i]? = _
    rw [List.getElem?_map, h]
    rfl
  · exact List.mem_filterMap.mpr ⟨_, List.mem_of_getElem? h, rfl⟩

/-! ## Bookmarks of deleted rows -/

variable {b : Bookmark}

/-- A bookmark that is out of use fails its rows wherever rows are worked on by bookmark. -/
theorem forRows_onBookmark_of_dead {f : Work σ → SlotId → Nat → RowResult × Work σ}
    (hchanges : ∀ w id row, Cursor.Changes w.cursor (f w id row).2.cursor)
    (hbindings : ∀ w id row, (f w id row).2.bindings = w.bindings) (hledger : Ledger w.cursor)
    (hgone : w.Gone id) (hnamed : Named w.cursor b id) {rows : List Nat}
    (hsize : Addressable (forRows (onBookmark f) w rows).2.cursor) {i row : Nat}
    (hrow : rows[i]? = some row) (hbound : w.bindings.bookmark? (row - 1) = some b) :
    (forRows (onBookmark f) w rows).1[i]? =
      some ⟨row, .failed (.bookmarkNotFound b.hex), .error⟩ := by
  obtain ⟨v, hsame, hbefore, hafter, hreport⟩ := exists_report
    (fun w row => onBookmark_changes hchanges w row) (onBookmark_bindings hbindings) w hrow
  have hgone' := hgone.of_changes hbefore
  have hsize' := hsize.of_changes hgone'.scrolls hafter
  have hdead := (hledger.of_changes hgone.scrolls hbefore hsize').resolve?_eq_none hsize'
    (Cursor.named_of_changes hledger hgone.scrolls hbefore hsize' hnamed) hgone'.deleted
  rw [hreport]
  simp only [onBookmark, hsame, hbound, hdead]

theorem outcome_writeByBookmark_of_dead
    {f : KeySet → Work σ → SlotId → Nat → RowResult × Work σ}
    (hchanges : ∀ key w id row, Cursor.Changes w.cursor (f key w id row).2.cursor)
    (hbindings : ∀ key w id row, (f key w id row).2.bindings = w.bindings)
    (hledger : Ledger w.cursor) (hgone : w.Gone id) (hnamed : Named w.cursor b id)
    {rows : List Nat} {outcome : OperationOutcome}
    (hok : (w.writeByBookmark rows f).1 = .ok outcome)
    (hsize : Addressable (w.writeByBookmark rows f).2.cursor) {i row : Nat}
    (hrow : rows[i]? = some row) (hbound : w.bindings.bookmark? (row - 1) = some b) :
    outcome.statuses[i]? = some .error ∧
      RowError.ofError row (.bookmarkNotFound b.hex) ∈ outcome.errors := by
  have hkey := w.keySet_changes
  have hsame := (ExactServer.keySet_frame w).1
  unfold writeByBookmark at hok hsize
  generalize w.keySet = found at hkey hsame hok hsize
  obtain ⟨key, v⟩ := found
  cases key with
  | error e => cases hok
  | ok key =>
      cases hok
      have hgone' := hgone.of_changes hkey
      have hrows : Addressable (forRows (onBookmark (f key)) v rows).2.cursor := hsize
      have hsize' := hrows.of_changes hgone'.scrolls
        (forRows_changes (onBookmark_changes (hchanges key)) v rows)
      have hbound' : v.bindings.bookmark? (row - 1) = some b := hsame ▸ hbound
      exact outcome_of_failed (forRows_onBookmark_of_dead (hchanges key) (hbindings key)
        (hledger.of_changes hgone.scrolls hkey hsize') hgone'
        (Cursor.named_of_changes hledger hgone.scrolls hkey hsize' hnamed) hrows hrow hbound')

theorem outcome_fetchByBookmark_of_dead (hledger : Ledger w.cursor) (hgone : w.Gone id)
    (hnamed : Named w.cursor b id) (hsize : Addressable w.cursor) {rows : List Nat} {i row : Nat}
    (hrow : rows[i]? = some row) (hbound : w.bindings.bookmark? (row - 1) = some b) :
    (w.fetchByBookmark rows).1.statuses[i]? = some .error ∧
      RowError.ofError row (.bookmarkNotFound b.hex) ∈ (w.fetchByBookmark rows).1.errors := by
  have hsame := w.forRows_onBookmark_same rows
    (g := fun w id => .done 0 (w.cursor.slotStatus id))
  have hrows : Addressable (forRows (onBookmark fun w id _ =>
      (.done 0 (w.cursor.slotStatus id), w)) w rows).2.cursor := by
    rw [hsame]
    exact hsize
  exact outcome_of_failed (forRows_onBookmark_of_dead (fun _ _ _ => .refl) (fun _ _ _ => rfl)
    hledger hgone hnamed hrows hrow hbound)

/-- Rows are found under the numbers of the bound array. -/
theorem getElem?_of_bookmarkRows {rows : List Nat} (h : w.bookmarkRows = .ok rows) {row : Nat}
    (hpos : 0 < row) (hle : row ≤ min w.bindings.bookmarkRows w.cursor.size) :
    rows[row - 1]? = some row := by
  unfold bookmarkRows at h
  split at h
  · cases h
  · split at h
    · cases h
    · cases h
      rw [List.getElem?_range' (by omega)]
      congr 1
      omega

theorem outcome_bulk_of_dead (hledger : Ledger w.cursor) (hgone : w.Gone id)
    (hnamed : Named w.cursor b id) {operation : BulkOperation} {supplied : Supplied}
    {outcome : OperationOutcome} (hadd : operation ≠ .add)
    (hok : (w.bulk operation supplied).1 = .ok outcome)
    (hsize : Addressable (w.bulk operation supplied).2.cursor) {row : Nat} (hpos : 0 < row)
    (hle : row ≤ min w.bindings.bookmarkRows w.cursor.size)
    (hbound : w.bindings.bookmark? (row - 1) = some b) :
    outcome.statuses[row - 1]? = some .error ∧
      RowError.ofError row (.bookmarkNotFound b.hex) ∈ outcome.errors := by
  rcases w.bulk_cases operation supplied with ⟨e, hrefused⟩ | hopen
  · rw [hrefused] at hok
    cases hok
  · rw [hopen] at hok hsize
    have hover {f : List Nat → Except Error OperationOutcome × Work σ}
        (hok : (w.overBookmarks f).1 = .ok outcome)
        (hsize : Addressable (w.overBookmarks f).2.cursor) :
        ∃ rows, rows[row - 1]? = some row ∧ (f rows).1 = .ok outcome ∧
          Addressable (f rows).2.cursor := by
      unfold overBookmarks at hok hsize
      cases hrows : w.bookmarkRows with
      | error e =>
          rw [hrows] at hok
          cases hok
      | ok rows =>
          rw [hrows] at hok hsize
          exact ⟨rows, getElem?_of_bookmarkRows hrows hpos hle, hok, hsize⟩
    cases operation with
    | add => exact absurd rfl hadd
    | updateByBookmark =>
        obtain ⟨rows, hrow, hok, hsize⟩ := hover hok hsize
        exact outcome_writeByBookmark_of_dead
          (fun key w id row => w.updateSlot_changes key supplied id (row - 1))
          (fun key w id row => (w.updateSlot_frame key supplied id (row - 1)).1)
          hledger hgone hnamed hok hsize hrow hbound
    | deleteByBookmark =>
        obtain ⟨rows, hrow, hok, hsize⟩ := hover hok hsize
        exact outcome_writeByBookmark_of_dead
          (fun key w id _ => w.deleteSlot_changes key id)
          (fun key w id _ => (w.deleteSlot_frame key id).1)
          hledger hgone hnamed hok hsize hrow hbound
    | fetchByBookmark =>
        obtain ⟨rows, hrow, hok, hsize⟩ := hover hok hsize
        cases hok
        exact outcome_fetchByBookmark_of_dead hledger hgone hnamed
          (hsize.of_changes hgone.scrolls (w.fetchByBookmark_changes rows)) hrow hbound

theorem rejects_of_gone (hledger : Ledger w.cursor) (hgone : w.Gone id)
    (hnamed : Named w.cursor b id) : w.Rejects b := by
  intro operation supplied outcome hadd hok hsize row hpos hle hbound
  obtain ⟨hstatus, herror⟩ := outcome_bulk_of_dead hledger hgone hnamed hadd hok hsize hpos hle
    hbound
  exact ⟨hstatus, _, herror, rfl, rfl⟩

/-! ## Rows that are deleted -/

/-- Writes and readings of the row are refused, and change nothing. -/
structure Refuses (w : Work σ) (id : SlotId) : Prop where
  update : ∀ key supplied bindingRow, w.updateSlot key supplied id bindingRow =
    (.failed (.cursorPosition "row has been deleted"), w)
  delete : ∀ key, w.deleteSlot key id = (.failed (.cursorPosition "row has been deleted"), w)
  reread : ∀ key row, w.cursor.slotOf? row = some id → rereadRow key w row = w

theorem refuses_of_deleted (h : w.cursor.slotStatus id = .deleted) : w.Refuses id :=
  ⟨updateSlot_of_deleted h, deleteSlot_of_deleted h, fun key _ => rereadRow_of_deleted h key⟩

/-- The row is deleted, and calls have nothing to do with what it holds. -/
structure Buried (w : Work σ) (id : SlotId) : Prop where
  deleted : w.cursor.slotStatus id = .deleted
  /-- Whatever the row holds, the same is sent and answered. -/
  unread : ∀ values image call,
    ((w.refilled id values image).call call).link = (w.call call).link ∧
      (w.refilled id values image).answer call = w.answer call
  /-- The row is shown as a deleted one, without its values. -/
  hidden : ∀ call row, (some id, row) ∈ w.shown call → row.status = .deleted ∧ row.row = none

theorem buried_of_gone (hresident : Cursor.Resident w.cursor) (hgone : w.Gone id) :
    w.Buried id where
  deleted := hgone.deleted
  unread values image call := by
    obtain ⟨hanswer, hcall⟩ := call_refilled values image hgone call
    rw [hcall]
    exact ⟨rfl, hanswer⟩
  hidden call row hshown := by
    have hafter := Cursor.resident_of_changes hresident hgone.scrolls (w.call_changes call)
    have hdeleted := (hgone.of_changes (w.call_changes call)).deleted
    rw [fetchedRow_of_mem_shown hafter hshown, hdeleted]
    exact ⟨rfl, by simp [Cursor.fetchedRow, RowStatus.hasData]⟩

/-- Once a row is deleted, it is deleted after whatever calls follow. What it held makes no
difference to them, writes and readings of it are refused wherever they are attempted, and every
bookmark that has ever named it is refused. -/
theorem deletion_final {w : Work σ} {kind : CursorKind} {dialect : Dialect}
    {options : StatementOptions} {result : ResultSet}
    (hopened : w.cursor = .opened kind dialect options result) (hkind : kind.isScrollable = true)
    (before : List Call) {id : SlotId}
    (hdeleted : (w.calls before).cursor.slotStatus id = .deleted) (after : List Call) :
    ((w.calls before).calls after).Buried id ∧
      (∀ values image, ((w.calls before).refilled id values image).calls after =
        ((w.calls before).calls after).refilled id values image) ∧
      (∀ v : Work σ, v.cursor.slotStatus id = .deleted → v.Refuses id) ∧
      ∀ first rest b, before ++ after = first ++ rest →
        (w.calls first).cursor.bookmarks.resolve? b = some id →
        ((w.calls before).calls after).Rejects b := by
  have hledger : Ledger w.cursor := hopened ▸ .opened kind dialect options result
  have hscrolls : w.cursor.kind.isScrollable = true := hopened ▸ hkind
  have hbefore := w.calls_changes before
  have hgone : (w.calls before).Gone id := ⟨hbefore.sameFrame.1 ▸ hscrolls, hdeleted⟩
  have hafter := (w.calls before).calls_changes after
  have hresident := Cursor.resident_of_changes hledger.toResident hscrolls (hbefore.trans hafter)
  refine ⟨buried_of_gone hresident (hgone.of_changes hafter),
    fun values image => calls_refilled values image hgone after,
    fun v => refuses_of_deleted, ?_⟩
  intro first rest b hsplit hresolve operation supplied outcome hadd hok hsize
  have hend : (w.calls before).calls after = (w.calls first).calls rest := by
    simp only [calls, ← List.foldl_append, hsplit]
  have hgone' := hgone.of_changes hafter
  have hsize' := hsize.of_changes hgone'.scrolls
    (((w.calls before).calls after).bulk_changes operation supplied)
  have hfirst := w.calls_changes first
  have hrest : Cursor.Changes (w.calls first).cursor ((w.calls before).calls after).cursor := by
    rw [hend]
    exact (w.calls first).calls_changes rest
  have hscrolls' : (w.calls first).cursor.kind.isScrollable = true :=
    hfirst.sameFrame.1 ▸ hscrolls
  have hsize'' := hsize'.of_changes hscrolls' hrest
  have hnamed : Named (w.calls first).cursor b id :=
    List.mem_append_left _ (Bookmarks.mem_of_lookup hresolve)
  exact rejects_of_gone (hledger.of_changes hscrolls (hbefore.trans hafter) hsize') hgone'
    (Cursor.named_of_changes (hledger.of_changes hscrolls hfirst hsize'') hscrolls' hrest hsize'
      hnamed)
    operation supplied outcome hadd hok hsize

/-- The first row is fetched and deleted, and its bookmark is bound for another delete. -/
theorem deletion_final_firstRow :
    (onCoded.calls [.fetch .next, .operation (.setPosition 1 .delete) []]).cursor.slotStatus 0 =
        .deleted ∧
      ((onCoded.calls [.fetch .next, .operation (.setPosition 1 .delete) []]).calls
        [.bind { bookmarks := some [some (.ofNumber 1)] }]).Buried 0 ∧
      ((onCoded.calls [.fetch .next, .operation (.setPosition 1 .delete) []]).calls
        [.bind { bookmarks := some [some (.ofNumber 1)] }]).Rejects (.ofNumber 1) := by
  have hdeleted : (onCoded.calls
      [.fetch .next, .operation (.setPosition 1 .delete) []]).cursor.slotStatus 0 = .deleted :=
    rfl
  obtain ⟨hburied, -, -, hrejects⟩ := deletion_final rfl rfl
    [.fetch .next, .operation (.setPosition 1 .delete) []] hdeleted
    [.bind { bookmarks := some [some (.ofNumber 1)] }]
  exact ⟨hdeleted, hburied, hrejects [.fetch .next] _ _ rfl rfl⟩

end Work

end ScrollCursor
