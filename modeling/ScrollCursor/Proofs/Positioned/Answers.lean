import Mathlib.Data.List.ReduceOption
import ScrollCursor.Proofs.Cursor.Ledger
import ScrollCursor.Proofs.Cursor.View
import ScrollCursor.Proofs.Positioned.Calls

/-! # What calls answer

The answer of a call may show rows, each of which stands for a slot of the cursor, and may give
bookmarks to rows that were added. What is shown of a row is what the cursor has of it when the
call is over.
-/

namespace ScrollCursor

/-- What a caller gets back from a call. -/
inductive Answer where
  /-- Nothing but that the call is over. -/
  | done
  | fetched (outcome : Except Error FetchOutcome)
  | operated (outcome : Except Error OperationOutcome)
  /-- What other statements see of the current row. -/
  | published (target : PublishedTarget)

namespace Answer

/-- The rows that an answer shows. -/
def rows : Answer → List FetchedRow
  | .fetched (.ok outcome) => outcome.rows
  | .operated (.ok outcome) => outcome.rows
  | _ => []

/-- The bookmarks that an answer has for the rows of an addition. -/
def bookmarks : Answer → List (Option Bookmark)
  | .operated (.ok outcome) => outcome.bookmarks
  | _ => []

end Answer

namespace Work

variable {σ : Type}

def answer (w : Work σ) : Call → Answer
  | .bind _ => .done
  | .fetch orientation => .fetched (w.fetch orientation).1
  | .operation (.setPosition row operation) supplied =>
      .operated (w.setPosition row operation supplied).1
  | .operation (.bulk operation) supplied => .operated (w.bulk operation supplied).1
  | .publish => .published w.currentTarget.1

/-- The slots that the rows of an answer stand for: those of the rows that were asked for, or of
the rowset that the call leaves. -/
def shownSlots (w : Work σ) (call : Call) : List (Option SlotId) :=
  match call with
  | .operation (.setPosition row operation) _ =>
      (w.targetRows row operation).map w.cursor.slotOf?
  | _ => (w.call call).cursor.rowset

/-- The rows that an answer shows, with their slots. -/
def shown (w : Work σ) (call : Call) : List (Option SlotId × FetchedRow) :=
  (w.shownSlots call).zip (w.answer call).rows

/-- The bookmarks of added rows with their slots, which are the next ones of the buffer. -/
def added (w : Work σ) (call : Call) : List (Bookmark × SlotId) :=
  (w.answer call).bookmarks.reduceOption.zipIdx w.cursor.buffer.resident

/-- The answer shows the row of the slot with the bookmark, or has the bookmark for it as for a row
that was added. -/
def Gives (w : Work σ) (call : Call) (id : SlotId) (b : Bookmark) : Prop :=
  (∃ row, (some id, row) ∈ w.shown call ∧ row.bookmark = some b) ∨ (b, id) ∈ w.added call

/-! ## Calls are made of changes -/

/-- Every call is made of the changes there are. -/
theorem call_changes (w : Work σ) (call : Call) :
    Cursor.Changes w.cursor (w.call call).cursor := by
  cases call with
  | bind bindings => exact .refl
  | fetch orientation => exact w.fetch_changes orientation
  | operation operation supplied =>
      cases operation with
      | setPosition row operation => exact w.setPosition_changes row operation supplied
      | bulk operation => exact w.bulk_changes operation supplied
  | publish => exact w.currentTarget_changes

/-- Any number of calls are made of the changes there are. -/
theorem calls_changes (w : Work σ) (calls : List Call) :
    Cursor.Changes w.cursor (w.calls calls).cursor := by
  induction calls generalizing w with
  | nil => exact .refl
  | cons call rest ih => exact (w.call_changes call).trans (ih (w.call call))

/-! ## Reading again -/

/-- To read a row again does not move the cursor. -/
theorem sameStanding_rereadRow (key : KeySet) (w : Work σ) (row : Nat) :
    Cursor.SameStanding w.cursor (rereadRow key w row).cursor := by
  unfold rereadRow
  repeat' split
  all_goals exact .refl _

theorem sameStanding_keySet (w : Work σ) :
    Cursor.SameStanding w.cursor w.keySet.2.cursor := by
  unfold keySet
  split <;> exact .refl _

theorem keySet_buffer (w : Work σ) : w.keySet.2.cursor.buffer = w.cursor.buffer := by
  unfold keySet
  split <;> rfl

theorem sameStanding_reread (w : Work σ) (rows : List Nat) :
    Cursor.SameStanding w.cursor (w.reread rows).cursor := by
  have hfold (key : KeySet) (v : Work σ) :
      Cursor.SameStanding v.cursor (rows.foldl (rereadRow key) v).cursor := by
    induction rows generalizing v with
    | nil => exact .refl _
    | cons row rows ih => exact (sameStanding_rereadRow key v row).trans (ih _)
  have hkey := w.sameStanding_keySet
  unfold reread
  split
  next h =>
    rw [h] at hkey
    exact hkey
  next h =>
    rw [h] at hkey
    exact hkey.trans (hfold _ _)

theorem sameStanding_rereadIf (w : Work σ) (rows : List Nat) (p : Prop) [Decidable p] :
    Cursor.SameStanding w.cursor (if p then w.reread rows else w).cursor := by
  split
  · exact w.sameStanding_reread rows
  · exact .refl _

/-! ## Rows that are shown -/

theorem mem_zip_zipWith {α β γ : Type} {f : α → β → γ} {as : List α} {bs : List β} {a : α} {x : γ}
    (h : (a, x) ∈ as.zip (as.zipWith f bs)) :
    ∃ (i : Nat) (b : β), as[i]? = some a ∧ bs[i]? = some b ∧ x = f a b := by
  obtain ⟨i, hi⟩ := List.mem_iff_getElem?.mp h
  obtain ⟨ha, hx⟩ := List.getElem?_zip_eq_some.mp hi
  obtain ⟨a', b, ha', hb, heq⟩ := List.getElem?_zipWith_eq_some.mp hx
  have hsame : a' = a := Option.some.inj (ha'.symm.trans ha)
  exact ⟨i, b, ha, hb, hsame ▸ heq.symm⟩

/-- A rowset whose statuses are up to date is shown as the slots are. -/
theorem fetchedRow_of_mem_syncStatuses {c : Cursor} {id : SlotId} {row : FetchedRow}
    (hresident : ∀ id, some id ∈ c.rowset → id < c.buffer.resident)
    (h : (some id, row) ∈ c.syncStatuses.rowset.zip c.syncStatuses.fetchedRows) :
    row = c.syncStatuses.fetchedRow (some id) (c.syncStatuses.slotStatus id) := by
  obtain ⟨i, status, hentry, hstatus, rfl⟩ := mem_zip_zipWith h
  change (c.rowset.map c.entryStatus)[i]? = some status at hstatus
  change c.rowset[i]? = some (some id) at hentry
  rw [List.getElem?_map, hentry] at hstatus
  cases hstatus
  have hslot := Cursor.entryStatus_some (hresident id (List.mem_of_getElem? hentry))
  exact congrArg _ hslot

/-- The status of a row of the rowset that is up to date is that of its slot. -/
theorem status_of_slotOf? {c : Cursor} {id : SlotId} {row : Nat} (hid : id < c.buffer.resident)
    (h : c.slotOf? row = some id) :
    (if row = 0 then .noRow else c.syncStatuses.statuses[row - 1]?.getD .noRow) =
      c.syncStatuses.slotStatus id := by
  unfold Cursor.slotOf? at h
  split at h
  · cases h
  next hrow =>
    have hentry : c.rowset[row - 1]? = some (some id) := Option.join_eq_some_iff.mp h
    rw [if_neg hrow]
    change ((c.rowset.map c.entryStatus)[row - 1]?).getD .noRow = _
    rw [List.getElem?_map, hentry]
    exact Cursor.entryStatus_some hid

/-- A fetch fails, shows no row, or shows a rowset that has just been placed. -/
theorem fetchAt_answer (w : Work σ) (position : Nat) :
    (∃ e, (w.fetchAt position).1 = .error e) ∨
      (∃ outcome, (w.fetchAt position).1 = .ok outcome ∧ outcome.rows = []) ∨
      ∃ v : Work σ, w.fetchAt position = v.showRowset := by
  rcases w.fetchAt_cases position rfl with ⟨e, -, h⟩ | ⟨-, -, h⟩ | ⟨-, -, h⟩
  · exact Or.inl ⟨e, by rw [h]⟩
  · exact Or.inr (Or.inl ⟨_, by rw [h]; rfl, rfl⟩)
  · exact Or.inr (Or.inr ⟨_, h⟩)

/-- A fetch fails, or shows no rows, or shows the rowset where it ends. -/
theorem fetch_answer (w : Work σ) (orientation : Orientation) :
    (∃ e, (w.fetch orientation).1 = .error e) ∨
      (∃ outcome, (w.fetch orientation).1 = .ok outcome ∧ outcome.rows = []) ∨
      ∃ v : Work σ, w.fetch orientation = v.showRowset := by
  unfold fetch
  split
  · exact Or.inl ⟨_, rfl⟩
  split
  next e _ => exact Or.inl ⟨e, rfl⟩
  next move _ =>
    unfold fetchMove
    dsimp only
    split
    next e _ _ => exact Or.inl ⟨e, rfl⟩
    next after _ =>
      split
      · exact Or.inr (Or.inl ⟨_, rfl, rfl⟩)
      · exact Or.inr (Or.inl ⟨_, rfl, rfl⟩)
      · exact after.fetchAt_answer _

/-- A row that a fetch shows is what its slot holds. -/
theorem fetchedRow_of_mem_fetch {w : Work σ} {orientation : Orientation} {id : SlotId}
    {row : FetchedRow}
    (hresident : ∀ id, some id ∈ (w.fetch orientation).2.cursor.rowset →
      id < (w.fetch orientation).2.cursor.buffer.resident)
    (h : (some id, row) ∈ w.shown (.fetch orientation)) :
    row = (w.fetch orientation).2.cursor.fetchedRow (some id)
      ((w.fetch orientation).2.cursor.slotStatus id) := by
  change (some id, row) ∈ (w.fetch orientation).2.cursor.rowset.zip
    (Answer.fetched (w.fetch orientation).1).rows at h
  rcases w.fetch_answer orientation with ⟨e, hfetch⟩ | ⟨outcome, hfetch, hrows⟩ | ⟨v, hfetch⟩
  · rw [hfetch] at h
    simp [Answer.rows] at h
  · rw [hfetch, Answer.rows, hrows] at h
    simp at h
  · rw [hfetch] at h hresident ⊢
    exact fetchedRow_of_mem_syncStatuses hresident h

/-- A refresh shows the rows asked for, once the rowset is up to date. -/
theorem exists_refresh_eq (w : Work σ) (rows : List Nat) :
    ∃ v : Work σ, v.cursor.slotOf? = w.cursor.slotOf? ∧
      w.refresh rows =
        (rows.map fun row => v.cursor.syncStatuses.fetchedRow (v.cursor.slotOf? row)
          (if row = 0 then .noRow else v.cursor.syncStatuses.statuses[row - 1]?.getD .noRow),
        v.onCursor Cursor.syncStatuses) := by
  have hstanding := w.sameStanding_rereadIf rows (w.cursor.kind.rereads = true)
  exact ⟨_, Cursor.slotOf?_congr hstanding.2.2.2.2.2.1, rfl⟩

/-- A row that is refreshed is shown as its slot holds it then. -/
theorem fetchedRow_of_mem_refresh {w : Work σ} {rows : List Nat} {id : SlotId}
    {row : FetchedRow}
    (hresident : ∀ id, some id ∈ (w.refresh rows).2.cursor.rowset →
      id < (w.refresh rows).2.cursor.buffer.resident)
    (h : (some id, row) ∈ (rows.map w.cursor.slotOf?).zip (w.refresh rows).1) :
    row = (w.refresh rows).2.cursor.fetchedRow (some id)
      ((w.refresh rows).2.cursor.slotStatus id) := by
  obtain ⟨v, hslotOf, hrefresh⟩ := w.exists_refresh_eq rows
  rw [hrefresh] at h hresident ⊢
  have hrowset : ∀ id, some id ∈ v.cursor.rowset → id < v.cursor.buffer.resident := hresident
  obtain ⟨i, hi⟩ := List.mem_iff_getElem?.mp h
  obtain ⟨hslot, hrow⟩ := List.getElem?_zip_eq_some.mp hi
  rw [List.getElem?_map] at hslot hrow
  obtain ⟨r, hr, hid⟩ := Option.map_eq_some_iff.mp hslot
  rw [hr] at hrow
  rw [← hslotOf] at hid
  have heq := Option.some.inj hrow
  dsimp only at heq
  rw [status_of_slotOf? (hrowset id (Cursor.mem_rowset_of_slotOf? hid)) hid, hid] at heq
  exact heq.symm

/-- The status that a row is reported under when bookmarks are looked up. -/
def bookmarkStatus (w : Work σ) (row : Nat) : RowStatus :=
  match w.bindings.bookmark? (row - 1) with
  | none => .noRow
  | some b =>
      match w.cursor.bookmarks.resolve? b with
      | none => .error
      | some id => w.cursor.slotStatus id

/-- A bookmark with a slot has the status of the slot. -/
theorem bookmarkStatus_of_bookmarkSlot? {w : Work σ} {row : Nat} {id : SlotId}
    (h : w.bookmarkSlot? row = some id) : w.bookmarkStatus row = w.cursor.slotStatus id := by
  obtain ⟨b, hb, hresolve⟩ := Option.bind_eq_some_iff.mp h
  simp only [bookmarkStatus, hb, hresolve]

/-- The rows that bookmarks name become the rowset, under the statuses that are reported. -/
theorem fetchByBookmark_eq (w : Work σ) (rows : List Nat) :
    (w.fetchByBookmark rows).2.cursor =
        w.cursor.replaceRowset (rows.map w.bookmarkSlot?) (rows.map w.bookmarkStatus) ∧
      (w.fetchByBookmark rows).1.rows = (w.fetchByBookmark rows).2.cursor.fetchedRows := by
  have hreports := forRows_of_same (w.onBookmark_same
    (g := fun w id => .done 0 (w.cursor.slotStatus id))) rows
  have hstatus (row : Nat) : RowReport.status ⟨row,
      (w.onBookmark (fun w id _ => (.done 0 (w.cursor.slotStatus id), w)) row).1,
      (w.onBookmark (fun w id _ => (.done 0 (w.cursor.slotStatus id), w)) row).2.1⟩ =
      w.bookmarkStatus row := by
    unfold onBookmark bookmarkStatus
    cases w.bindings.bookmark? (row - 1) with
    | none => rfl
    | some b =>
        dsimp only
        cases w.cursor.bookmarks.resolve? b <;> rfl
  unfold fetchByBookmark
  rw [hreports]
  dsimp only [finish, onCursor]
  rw [List.map_map]
  refine ⟨congrArg (w.cursor.replaceRowset _) ?_, rfl⟩
  exact List.map_congr_left fun row _ => hstatus row

/-- A row that is fetched by its bookmark is what its slot holds. -/
theorem fetchedRow_of_mem_fetchByBookmark {w : Work σ} {rows : List Nat} {id : SlotId}
    {row : FetchedRow}
    (h : (some id, row) ∈ (w.fetchByBookmark rows).2.cursor.rowset.zip
      (w.fetchByBookmark rows).1.rows) :
    row = (w.fetchByBookmark rows).2.cursor.fetchedRow (some id)
      ((w.fetchByBookmark rows).2.cursor.slotStatus id) := by
  obtain ⟨hcursor, hrows⟩ := w.fetchByBookmark_eq rows
  rw [hrows, hcursor] at h
  rw [hcursor]
  obtain ⟨i, shown, hentry, hshown, rfl⟩ := mem_zip_zipWith h
  change (rows.map w.bookmarkSlot?)[i]? = some (some id) at hentry
  change (rows.map w.bookmarkStatus)[i]? = some shown at hshown
  rw [List.getElem?_map] at hentry hshown
  obtain ⟨r, hr, hid⟩ := Option.map_eq_some_iff.mp hentry
  rw [hr] at hshown
  cases hshown
  rw [bookmarkStatus_of_bookmarkSlot? hid]
  rfl

/-! ### Writes show no rows -/

/-- An update shows no rows and gives no bookmarks. -/
theorem shows_updateRows (w : Work σ) (supplied : Supplied) (row : Nat) (rows : List Nat) :
    (Answer.operated (w.updateRows supplied row rows).1).rows = [] ∧
      (Answer.operated (w.updateRows supplied row rows).1).bookmarks = [] := by
  unfold updateRows
  split
  · exact ⟨rfl, rfl⟩
  · split <;> exact ⟨rfl, rfl⟩

theorem shows_deleteRows (w : Work σ) (rows : List Nat) :
    (Answer.operated (w.deleteRows rows).1).rows = [] ∧
      (Answer.operated (w.deleteRows rows).1).bookmarks = [] := by
  unfold deleteRows
  split <;> exact ⟨rfl, rfl⟩

theorem shows_writeByBookmark (w : Work σ) (rows : List Nat)
    (f : KeySet → Work σ → SlotId → Nat → RowResult × Work σ) :
    (Answer.operated (w.writeByBookmark rows f).1).rows = [] ∧
      (Answer.operated (w.writeByBookmark rows f).1).bookmarks = [] := by
  unfold writeByBookmark
  split <;> exact ⟨rfl, rfl⟩

theorem shows_overBookmarks {w : Work σ}
    {f : List Nat → Except Error OperationOutcome × Work σ}
    (h : ∀ rows, (Answer.operated (f rows).1).rows = [] ∧
      (Answer.operated (f rows).1).bookmarks = []) :
    (Answer.operated (w.overBookmarks f).1).rows = [] ∧
      (Answer.operated (w.overBookmarks f).1).bookmarks = [] := by
  unfold overBookmarks
  split
  · exact ⟨rfl, rfl⟩
  · exact h _

theorem rows_addRows (w : Work σ) (supplied : Supplied) (rows : List Nat) :
    (Answer.operated (w.addRows supplied rows).1).rows = [] := by
  unfold addRows
  split <;> rfl

/-- An operation by bookmarks that is open to the cursor. -/
def bulkOpen (w : Work σ) (supplied : Supplied) :
    BulkOperation → Except Error OperationOutcome × Work σ
  | .add => w.addRows supplied (List.range' 1 w.cursor.size)
  | .updateByBookmark => w.overBookmarks fun rows => w.updateByBookmark supplied rows
  | .deleteByBookmark => w.overBookmarks w.deleteByBookmark
  | .fetchByBookmark => w.overBookmarks fun rows =>
      (.ok (w.fetchByBookmark rows).1, (w.fetchByBookmark rows).2)

/-- An operation on bound arrays is refused before anything is done, or carried out. -/
theorem bulk_cases (w : Work σ) (operation : BulkOperation) (supplied : Supplied) :
    (∃ e, w.bulk operation supplied = (.error e, w)) ∨
      w.bulk operation supplied = w.bulkOpen supplied operation := by
  unfold bulk
  split
  next e _ => exact Or.inl ⟨e, rfl⟩
  · cases operation <;> exact Or.inr rfl

theorem fetchedRow_of_mem_overBookmarks {w : Work σ} {id : SlotId} {row : FetchedRow}
    (h : (some id, row) ∈
      (w.overBookmarks fun rows =>
        (.ok (w.fetchByBookmark rows).1, (w.fetchByBookmark rows).2)).2.cursor.rowset.zip
      (Answer.operated (w.overBookmarks fun rows =>
        (.ok (w.fetchByBookmark rows).1, (w.fetchByBookmark rows).2)).1).rows) :
    row = (w.overBookmarks fun rows =>
        (.ok (w.fetchByBookmark rows).1, (w.fetchByBookmark rows).2)).2.cursor.fetchedRow (some id)
      ((w.overBookmarks fun rows =>
        (.ok (w.fetchByBookmark rows).1, (w.fetchByBookmark rows).2)).2.cursor.slotStatus id) := by
  unfold overBookmarks at h ⊢
  cases hrows : w.bookmarkRows with
  | error e =>
      rw [hrows] at h
      simp [Answer.rows] at h
  | ok rows =>
      rw [hrows] at h
      exact fetchedRow_of_mem_fetchByBookmark h

/-- What an answer shows of a row is what the cursor has of its slot after the call. -/
theorem fetchedRow_of_mem_shown {w : Work σ} {call : Call} {id : SlotId} {row : FetchedRow}
    (hresident : Cursor.Resident (w.call call).cursor) (h : (some id, row) ∈ w.shown call) :
    row = (w.call call).cursor.fetchedRow (some id) ((w.call call).cursor.slotStatus id) := by
  have hnone {slots : List (Option SlotId)} {rows : List FetchedRow} (hrows : rows = []) :
      (some id, row) ∉ slots.zip rows := by
    rw [hrows, List.zip_nil_right]
    exact List.not_mem_nil
  cases call with
  | bind bindings => exact absurd h (hnone rfl)
  | publish => exact absurd h (hnone rfl)
  | fetch orientation => exact fetchedRow_of_mem_fetch hresident.rowset h
  | operation operation supplied =>
      cases operation with
      | setPosition r operation =>
          cases operation with
          | position => exact absurd h (hnone rfl)
          | refresh => exact fetchedRow_of_mem_refresh hresident.rowset h
          | update => exact absurd h (hnone (w.shows_updateRows supplied r _).1)
          | delete => exact absurd h (hnone (w.shows_deleteRows _).1)
          | add => exact absurd h (hnone (w.rows_addRows supplied _))
      | bulk operation =>
          change (some id, row) ∈ (w.bulk operation supplied).2.cursor.rowset.zip
            (Answer.operated (w.bulk operation supplied).1).rows at h
          change row = (w.bulk operation supplied).2.cursor.fetchedRow _
            ((w.bulk operation supplied).2.cursor.slotStatus _)
          rcases w.bulk_cases operation supplied with ⟨e, hrefused⟩ | hopen
          · rw [hrefused] at h
            exact absurd h (hnone rfl)
          · rw [hopen] at h ⊢
            cases operation with
            | add => exact absurd h (hnone (w.rows_addRows supplied _))
            | updateByBookmark | deleteByBookmark =>
                exact absurd h (hnone
                  (shows_overBookmarks fun rows => shows_writeByBookmark w rows _).1)
            | fetchByBookmark => exact fetchedRow_of_mem_overBookmarks h

/-! ## Bookmarks of added rows -/

/-- Only an addition gives bookmarks. -/
theorem bookmarks_of_not_adds {w : Work σ} {call : Call} (h : call.adds = false) :
    (w.answer call).bookmarks = [] := by
  cases call with
  | bind bindings => rfl
  | publish => rfl
  | fetch orientation => rfl
  | operation operation supplied =>
      cases operation with
      | setPosition r operation =>
          cases operation with
          | position => rfl
          | refresh => rfl
          | update => exact (w.shows_updateRows supplied r _).2
          | delete => exact (w.shows_deleteRows _).2
          | add => cases h
      | bulk operation =>
          change (Answer.operated (w.bulk operation supplied).1).bookmarks = []
          rcases w.bulk_cases operation supplied with ⟨e, hrefused⟩ | hopen
          · rw [hrefused]
            rfl
          · rw [hopen]
            cases operation with
            | add => cases h
            | updateByBookmark | deleteByBookmark =>
                exact (shows_overBookmarks fun rows => shows_writeByBookmark w rows _).2
            | fetchByBookmark =>
                rw [bulkOpen]
                unfold overBookmarks
                split <;> rfl

/-- Either there is one more row, with the bookmark that the answer has for it, or no row and no
bookmark. -/
theorem addOne_cursor (supplied : Supplied) (table : TableRef) (numbered : Option Nat)
    (w : Work σ) (row : Nat) :
    ((addOne supplied table numbered w row).2.1 = none ∧
        (addOne supplied table numbered w row).2.2.cursor = w.cursor) ∨
      ∃ values, (addOne supplied table numbered w row).2.1 = (w.cursor.addRow values).1 ∧
        (addOne supplied table numbered w row).2.2.cursor = (w.cursor.addRow values).2 := by
  unfold addOne insertRow
  dsimp only
  repeat' split
  all_goals first | exact Or.inl ⟨rfl, rfl⟩ | exact Or.inr ⟨_, rfl, rfl⟩

/-- With bookmarks in use an added row gets one, which is found by its slot. -/
theorem addRow_of_useBookmarks {c : Cursor} (huse : c.options.useBookmarks = true)
    (values : Record) :
    ∃ b, (c.addRow values).1 = some b ∧
      (c.addRow values).2.bookmarks.ofSlot? c.buffer.resident = some b := by
  have hbookmarks := c.addRow_bookmarks values
  rw [if_pos huse] at hbookmarks
  refine ⟨(c.bookmarks.mint c.buffer.nextSlot).1, ?_, ?_⟩
  · simp [Cursor.addRow, huse]
  · rw [hbookmarks]
    exact c.bookmarks.ofSlot?_mint c.buffer.nextSlot

/-- Rows that have a bookmark keep it when another is added. -/
theorem ofSlot?_addRow {c : Cursor} {id : SlotId} {b : Bookmark}
    (h : c.bookmarks.ofSlot? id = some b) (values : Record) :
    (c.addRow values).2.bookmarks.ofSlot? id = some b := by
  rw [c.addRow_bookmarks values]
  split
  · exact Bookmarks.ofSlot?_mint_of_some h
  · exact h

/-- Rows that have a bookmark keep it when several are added. -/
theorem ofSlot?_addEach {supplied : Supplied} {table : TableRef} {numbered : Option Nat}
    {w : Work σ} {id : SlotId} {b : Bookmark} (h : w.cursor.bookmarks.ofSlot? id = some b)
    (rows : List Nat) :
    (addEach supplied table numbered w rows).2.cursor.bookmarks.ofSlot? id = some b := by
  induction rows generalizing w with
  | nil => exact h
  | cons row rows ih =>
      have hone : (addOne supplied table numbered w row).2.2.cursor.bookmarks.ofSlot? id =
          some b := by
        rcases addOne_cursor supplied table numbered w row with ⟨-, hsame⟩ | ⟨values, -, hadded⟩
        · rw [hsame]
          exact h
        · rw [hadded]
          exact ofSlot?_addRow h values
      exact ih hone

/-- The rows that were added have the bookmarks of the answer, in turn. -/
theorem ofSlot?_of_mem_addEach {supplied : Supplied} {table : TableRef} {numbered : Option Nat}
    {w : Work σ} {id : SlotId} {b : Bookmark} (huse : w.cursor.options.useBookmarks = true)
    (rows : List Nat)
    (h : (b, id) ∈ ((addEach supplied table numbered w rows).1.map Prod.snd).reduceOption.zipIdx
      w.cursor.buffer.resident) :
    (addEach supplied table numbered w rows).2.cursor.bookmarks.ofSlot? id = some b := by
  induction rows generalizing w with
  | nil => simp [addEach, List.reduceOption] at h
  | cons row rows ih =>
      change (b, id) ∈ ((addOne supplied table numbered w row).2.1 ::
        (addEach supplied table numbered (addOne supplied table numbered w row).2.2 rows).1.map
          Prod.snd).reduceOption.zipIdx w.cursor.buffer.resident at h
      change (addEach supplied table numbered (addOne supplied table numbered w row).2.2
        rows).2.cursor.bookmarks.ofSlot? id = some b
      have hframe := (addOne_changes supplied table numbered w row).sameFrame.2.2.1
      rcases addOne_cursor supplied table numbered w row with ⟨hnone, hsame⟩ | ⟨values, hb, hadded⟩
      · rw [hnone, List.reduceOption_cons_of_none, ← hsame] at h
        exact ih (hframe ▸ huse) h
      · obtain ⟨first, hfirst, hmarked⟩ := addRow_of_useBookmarks huse values
        rw [← hadded] at hmarked
        rw [hb, hfirst, List.reduceOption_cons_of_some, List.zipIdx_cons] at h
        rcases List.mem_cons.mp h with heq | hrest
        · cases heq
          exact ofSlot?_addEach hmarked rows
        · have hresident : (addOne supplied table numbered w row).2.2.cursor.buffer.resident =
              w.cursor.buffer.resident + 1 := by
            rw [hadded, Cursor.addRow_buffer]
            exact RowBuffer.resident_pushDetached _ _ _
          rw [← hresident] at hrest
          exact ih (hframe ▸ huse) hrest

/-- Each bookmark that an addition gives belongs to the slot of its row. -/
theorem ofSlot?_addRows {w : Work σ} {supplied : Supplied} {rows : List Nat} {id : SlotId}
    {b : Bookmark} (huse : w.cursor.options.useBookmarks = true)
    (h : (b, id) ∈ (Answer.operated (w.addRows supplied rows).1).bookmarks.reduceOption.zipIdx
      w.cursor.buffer.resident) :
    (w.addRows supplied rows).2.cursor.bookmarks.ofSlot? id = some b := by
  have hframe := w.keySet_changes.sameFrame.2.2.1
  unfold addRows at h ⊢
  split at h
  · simp [Answer.bookmarks, List.reduceOption] at h
  · rw [← w.keySet_buffer] at h
    exact ofSlot?_of_mem_addEach (hframe ▸ huse) rows h

/-- A call that has bookmarks for added rows is an addition of rows. -/
theorem exists_addRows_of_mem_added {w : Work σ} {call : Call} {id : SlotId} {b : Bookmark}
    (h : (b, id) ∈ w.added call) :
    ∃ supplied rows, w.call call = (w.addRows supplied rows).2 ∧
      (b, id) ∈ (Answer.operated (w.addRows supplied rows).1).bookmarks.reduceOption.zipIdx
        w.cursor.buffer.resident := by
  by_cases hadds : call.adds = false
  · rw [added, bookmarks_of_not_adds hadds] at h
    simp [List.reduceOption] at h
  · cases call with
    | bind bindings => exact absurd rfl hadds
    | publish => exact absurd rfl hadds
    | fetch orientation => exact absurd rfl hadds
    | operation operation supplied =>
        cases operation with
        | setPosition r operation =>
            cases operation with
            | add => exact ⟨supplied, _, rfl, h⟩
            | _ => exact absurd rfl hadds
        | bulk operation =>
            cases operation with
            | add =>
                change (b, id) ∈ (Answer.operated (w.bulk .add supplied).1).bookmarks.reduceOption.zipIdx
                  w.cursor.buffer.resident at h
                change ∃ supplied' rows, (w.bulk .add supplied).2 = _ ∧ _
                rcases w.bulk_cases .add supplied with ⟨e, hrefused⟩ | hopen
                · rw [hrefused] at h
                  simp [Answer.bookmarks, List.reduceOption] at h
                · rw [hopen] at h ⊢
                  exact ⟨supplied, _, rfl, h⟩
            | _ => exact absurd rfl hadds

/-- A bookmark that a call gives is the one that the slot has after the call. -/
theorem ofSlot?_of_gives {w : Work σ} {call : Call} {id : SlotId} {b : Bookmark}
    (huse : w.cursor.options.useBookmarks = true)
    (hresident : Cursor.Resident (w.call call).cursor) (h : w.Gives call id b) :
    (w.call call).cursor.bookmarks.ofSlot? id = some b := by
  have hframe := (w.call_changes call).sameFrame.2.2.1
  rcases h with ⟨row, hshown, hrow⟩ | hadded
  · rw [fetchedRow_of_mem_shown hresident hshown] at hrow
    rw [Cursor.fetchedRow, hframe, if_pos huse] at hrow
    exact hrow
  · obtain ⟨supplied, rows, hcall, hmem⟩ := exists_addRows_of_mem_added hadded
    rw [hcall]
    exact ofSlot?_addRows huse hmem

end Work

end ScrollCursor
