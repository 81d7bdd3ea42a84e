import ScrollCursor.Positioned.Dispatch
import ScrollCursor.Proofs.Results

/-! # Values bound and values supplied

A write takes the value of a column from the bound array or, where that only announces one, from
what was supplied while the write waited. Which of the two it was makes no difference to anything
but the arrays themselves.
-/

namespace ScrollCursor

namespace Bindings

/-- The bound arrays of a row take the values that are given for their columns. -/
def withValues (b : Bindings) (row : Nat) (values : Supplied) : Bindings :=
  { b with
    columns := b.columns.mapIdx fun ordinal column =>
      column.map fun bound =>
        match values.lookup ordinal with
        | some v => bound.set row (.value v)
        | none => bound }

variable {b : Bindings} {row : Nat} {values : Supplied}

/-- A value that was supplied takes the place of the one awaited. -/
theorem value_withValues_of_given {ordinal : Nat} {v : Value}
    (hawaited : b.value ordinal row = .dataAtExec) (hgiven : values.lookup ordinal = some v) :
    (b.withValues row values).value ordinal row = .value v := by
  unfold Bindings.value at hawaited ⊢
  rw [withValues, List.getElem?_mapIdx]
  split at hawaited
  next bound hcolumn =>
    rw [hcolumn]
    rcases Nat.lt_or_ge row bound.length with hrow | hrow
    · simp [hgiven, hrow]
    · rw [List.getElem?_eq_none hrow] at hawaited
      cases hawaited
  next => cases hawaited

/-- A column that nothing was supplied for keeps what is bound. -/
theorem value_withValues_of_not_given {ordinal : Nat} (hgiven : values.lookup ordinal = none)
    (row' : Nat) : (b.withValues row values).value ordinal row' = b.value ordinal row' := by
  unfold Bindings.value
  rw [withValues, List.getElem?_mapIdx]
  cases b.columns[ordinal]? with
  | none => rfl
  | some column =>
      cases column with
      | none => rfl
      | some bound => simp [hgiven]

/-- The awaited columns are those bound as such. -/
theorem mem_dataAtExecColumns {ordinal : Nat} :
    ordinal ∈ b.dataAtExecColumns row ↔ b.value ordinal row = .dataAtExec := by
  rw [dataAtExecColumns, List.mem_filter, List.mem_range]
  constructor
  · rintro ⟨-, h⟩
    split at h
    next hvalue => exact hvalue
    next => cases h
  · intro h
    refine ⟨?_, by rw [h]⟩
    rcases Nat.lt_or_ge ordinal b.columns.length with hordinal | hordinal
    · exact hordinal
    · rw [Bindings.value, List.getElem?_eq_none hordinal] at h
      cases h

/-- A row that waits for no values assigns something to a column, or nothing. -/
theorem exists_assignments (h : b.dataAtExecColumns row = []) (supplied : Supplied)
    (d : ResultDescriptor) (table : TableRef) :
    ∃ assignments, b.assignments supplied row d table = .ok assignments := by
  have hone (ordinal : Nat) (c : Column) :
      ∃ found, b.assignment? supplied row ordinal c = .ok found := by
    unfold assignment?
    cases hvalue : b.value ordinal row with
    | ignore => exact ⟨none, rfl⟩
    | value v => exact ⟨some (ordinal, v), rfl⟩
    | dataAtExec =>
        have hmem := mem_dataAtExecColumns.mpr hvalue
        rw [h] at hmem
        cases hmem
  obtain ⟨found, hfound⟩ :=
    Results.exists_mapM_eq_ok (fun entry => hone entry.1 entry.2) (d.columnsOf table)
  exact ⟨_, Results.bind_eq_ok.mpr ⟨found, hfound, rfl⟩⟩

/-- What is bound for a row in a column of the table is assigned. -/
theorem exists_mem_assignments {supplied : Supplied} {d : ResultDescriptor} {table : TableRef}
    {assignments : List (Nat × Value)} (h : b.assignments supplied row d table = .ok assignments)
    {ordinal : Nat} {c : Column} (hc : (ordinal, c) ∈ d.columnsOf table)
    (hvalue : b.value ordinal row ≠ .ignore) : ∃ v, (ordinal, v) ∈ assignments := by
  obtain ⟨found, hfound, heq⟩ := Results.bind_eq_ok.mp h
  cases heq
  obtain ⟨entry, hentry, hassigned⟩ := Results.exists_mem_of_mapM hfound hc
  dsimp only at hassigned
  unfold assignment? at hassigned
  split at hassigned
  next hignored => exact absurd hignored hvalue
  next v _ =>
    cases hassigned
    exact ⟨v, List.mem_filterMap.mpr ⟨_, hentry, rfl⟩⟩
  · split at hassigned
    next v _ =>
      cases hassigned
      exact ⟨v, List.mem_filterMap.mpr ⟨_, hentry, rfl⟩⟩
    next => cases hassigned

theorem value_congr {b' : Bindings} (h : b'.columns = b.columns) : b'.value = b.value := by
  funext ordinal row
  rw [value, value, h]

/-- The values given are those that the row waits for. -/
def Answers (b : Bindings) (row : Nat) (values : Supplied) : Prop :=
  ∀ ordinal, (values.lookup ordinal).isSome ↔ b.value ordinal row = .dataAtExec

/-- What is bound is assigned like what is supplied. -/
theorem assignment?_withValues (h : b.Answers row values) (ordinal : Nat) (c : Column) :
    (b.withValues row values).assignment? [] row ordinal c =
      b.assignment? values row ordinal c := by
  have hordinal := h ordinal
  unfold assignment?
  cases hgiven : values.lookup ordinal with
  | some v =>
      rw [hgiven] at hordinal
      have hawaited := hordinal.mp rfl
      rw [hawaited, value_withValues_of_given hawaited hgiven]
  | none =>
      rw [value_withValues_of_not_given hgiven]
      rw [hgiven] at hordinal
      cases hvalue : b.value ordinal row with
      | ignore | value => rfl
      | dataAtExec => cases hordinal.mpr hvalue

/-- A row is assigned the same, whether its values were supplied or bound. -/
theorem assignments_withValues (h : b.Answers row values) (d : ResultDescriptor)
    (table : TableRef) :
    (b.withValues row values).assignments [] row d table = b.assignments values row d table := by
  unfold assignments
  simp only [assignment?_withValues h]

/-- A row whose values are bound waits for none. -/
theorem dataAtExecColumns_withValues (h : b.Answers row values) :
    (b.withValues row values).dataAtExecColumns row = [] := by
  rw [List.eq_nil_iff_forall_not_mem]
  intro ordinal hmem
  rw [mem_dataAtExecColumns] at hmem
  have hordinal := h ordinal
  cases hgiven : values.lookup ordinal with
  | some v =>
      rw [hgiven] at hordinal
      rw [value_withValues_of_given (hordinal.mp rfl) hgiven] at hmem
      cases hmem
  | none =>
      rw [value_withValues_of_not_given hgiven] at hmem
      rw [hgiven] at hordinal
      cases hordinal.mpr hmem

end Bindings

namespace Work

variable {σ : Type}

/-- The same work with other arrays bound to the columns. -/
def rebound (columns : List (Option (List BoundValue))) (w : Work σ) : Work σ :=
  { w with bindings := { w.bindings with columns := columns } }

variable {columns : List (Option (List BoundValue))} {w : Work σ}

/-! ## What never looks at the arrays of the columns -/

theorem keySet_rebound (w : Work σ) :
    (w.rebound columns).keySet = (w.keySet.1, w.keySet.2.rebound columns) := by
  have hkey : (w.rebound columns).cursor.key = w.cursor.key := rfl
  unfold keySet
  rw [hkey]
  cases w.cursor.key <;> rfl

theorem bindings_keySet (w : Work σ) : w.keySet.2.bindings = w.bindings := by
  unfold keySet
  split <;> rfl

theorem rereadRow_rebound (key : KeySet) (w : Work σ) (row : Nat) :
    rereadRow key (w.rebound columns) row = (rereadRow key w row).rebound columns := by
  have hcursor : (w.rebound columns).cursor = w.cursor := rfl
  have hread (image : Record) : (w.rebound columns).readByKey key image = w.readByKey key image :=
    rfl
  unfold rereadRow
  rw [hcursor]
  cases w.cursor.slotOf? row with
  | none => rfl
  | some id =>
      dsimp only
      cases w.cursor.buffer.slot? id with
      | none => rfl
      | some slot =>
          dsimp only
          split
          · rfl
          · rw [hread]
            rcases w.readByKey key slot.image with ⟨_ | _ | _, _⟩ <;> rfl

theorem bindings_rereadRow (key : KeySet) (w : Work σ) (row : Nat) :
    (rereadRow key w row).bindings = w.bindings := by
  unfold rereadRow
  repeat' split
  all_goals rfl

theorem foldl_rereadRow_rebound (key : KeySet) (w : Work σ) (rows : List Nat) :
    rows.foldl (rereadRow key) (w.rebound columns) =
      (rows.foldl (rereadRow key) w).rebound columns := by
  induction rows generalizing w with
  | nil => rfl
  | cons row rows ih => rw [List.foldl_cons, List.foldl_cons, rereadRow_rebound, ih]

theorem bindings_foldl_rereadRow (key : KeySet) (w : Work σ) (rows : List Nat) :
    (rows.foldl (rereadRow key) w).bindings = w.bindings := by
  induction rows generalizing w with
  | nil => rfl
  | cons row rows ih => rw [List.foldl_cons, ih, bindings_rereadRow]

theorem reread_rebound (w : Work σ) (rows : List Nat) :
    (w.rebound columns).reread rows = (w.reread rows).rebound columns := by
  unfold reread
  rw [keySet_rebound]
  obtain ⟨key, after⟩ := w.keySet
  cases key with
  | error e => rfl
  | ok key => exact foldl_rereadRow_rebound key after rows

theorem bindings_reread (w : Work σ) (rows : List Nat) :
    (w.reread rows).bindings = w.bindings := by
  have hkey := w.bindings_keySet
  unfold reread
  generalize w.keySet = found at hkey ⊢
  obtain ⟨key, after⟩ := found
  cases key with
  | error e => exact hkey
  | ok key => exact (bindings_foldl_rereadRow key after rows).trans hkey

theorem prepareWrite_rebound (w : Work σ) (rows : List Nat) :
    (w.rebound columns).prepareWrite rows =
      ((w.prepareWrite rows).1, (w.prepareWrite rows).2.rebound columns) := by
  unfold prepareWrite
  rw [keySet_rebound]
  obtain ⟨key, after⟩ := w.keySet
  cases key with
  | error e => rfl
  | ok key =>
      dsimp only
      split
      next hkind =>
        rw [if_pos (show after.cursor.kind = .dynamic from hkind), reread_rebound]
      next hkind => rw [if_neg (show ¬ after.cursor.kind = .dynamic from hkind)]

/-- To prepare a write leaves what is bound. -/
theorem bindings_prepareWrite (w : Work σ) (rows : List Nat) :
    (w.prepareWrite rows).2.bindings = w.bindings := by
  have hkey := w.bindings_keySet
  unfold prepareWrite
  generalize w.keySet = found at hkey ⊢
  obtain ⟨key, after⟩ := found
  cases key with
  | error e => exact hkey
  | ok key =>
      dsimp only
      split
      · exact (after.bindings_reread rows).trans hkey
      · exact hkey

/-- A request is sent the same, whatever is bound. -/
theorem send_rebound (w : Work σ) (request : Request) (change : Cursor → Cursor)
    (status : RowStatus) :
    (w.rebound columns).send request change status =
      ((w.send request change status).1, (w.send request change status).2.rebound columns) := by
  have hlink : (w.rebound columns).link = w.link := rfl
  unfold send
  rw [hlink]
  obtain ⟨answer, link⟩ := w.link.execute request
  cases answer with
  | error e => rfl
  | ok answer =>
      dsimp only
      split <;> rfl

/-! ## Writes of one row -/

/-- With other arrays and nothing supplied a row has the same assignments. -/
def SameAssignments (columns : List (Option (List BoundValue))) (w : Work σ) (supplied : Supplied)
    (bindingRow : Nat) : Prop :=
  ∀ d table, (w.rebound columns).bindings.assignments [] bindingRow d table =
    w.bindings.assignments supplied bindingRow d table

variable {supplied : Supplied} {bindingRow row : Nat}

theorem SameAssignments.congr {v : Work σ} (h : w.SameAssignments columns supplied bindingRow)
    (hbindings : v.bindings = w.bindings) : v.SameAssignments columns supplied bindingRow := by
  intro d table
  have hrebound : (v.rebound columns).bindings = (w.rebound columns).bindings := by
    rw [rebound, rebound, hbindings]
  rw [hrebound, hbindings]
  exact h d table

/-- An update is the same with supplied values and with bound ones. -/
theorem updateSlot_rebound (h : w.SameAssignments columns supplied bindingRow) (key : KeySet)
    (id : SlotId) :
    (w.rebound columns).updateSlot key [] id bindingRow =
      ((w.updateSlot key supplied id bindingRow).1,
        (w.updateSlot key supplied id bindingRow).2.rebound columns) := by
  have hcursor : (w.rebound columns).cursor = w.cursor := rfl
  have hlive : (w.rebound columns).liveImage id = w.liveImage id := rfl
  unfold updateSlot
  rw [hlive, hcursor, h]
  cases w.liveImage id with
  | error e => rfl
  | ok image =>
      dsimp only
      rcases w.bindings.assignments supplied bindingRow w.cursor.descriptor key.table with
        e | ⟨_ | ⟨assignment, assignments⟩⟩
      · rfl
      · rfl
      · dsimp only
        cases w.cursor.dialect.update key w.cursor.descriptor image (assignment :: assignments) with
        | error e => rfl
        | ok request => exact send_rebound w request _ _

/-- A row is written the same with supplied values and with bound ones if its slot is. -/
theorem onRow_rebound {f g : Work σ → SlotId → RowResult × Work σ}
    (h : ∀ id, g (w.rebound columns) id = ((f w id).1, (f w id).2.rebound columns)) (row : Nat) :
    onRow g (w.rebound columns) row =
      ((onRow f w row).1, (onRow f w row).2.1, (onRow f w row).2.2.rebound columns) := by
  have hslot : (w.rebound columns).cursor.slotOf? row = w.cursor.slotOf? row := rfl
  unfold onRow
  rw [hslot]
  cases w.cursor.slotOf? row with
  | none => rfl
  | some id =>
      dsimp only
      rw [h]
      rfl

theorem onBookmark_rebound {f g : Work σ → SlotId → Nat → RowResult × Work σ}
    (h : ∀ id, g (w.rebound columns) id row = ((f w id row).1, (f w id row).2.rebound columns)) :
    onBookmark g (w.rebound columns) row =
      ((onBookmark f w row).1, (onBookmark f w row).2.1,
        (onBookmark f w row).2.2.rebound columns) := by
  have hbookmark : (w.rebound columns).bindings.bookmark? (row - 1) =
      w.bindings.bookmark? (row - 1) := rfl
  have hcursor : (w.rebound columns).cursor = w.cursor := rfl
  unfold onBookmark
  rw [hbookmark, hcursor]
  cases w.bindings.bookmark? (row - 1) with
  | none => rfl
  | some b =>
      dsimp only
      cases w.cursor.bookmarks.resolve? b with
      | none => rfl
      | some id =>
          dsimp only
          rw [h]

/-- An operation on one row is the same with supplied values and with bound ones if the row is. -/
theorem forRows_rebound {f g : Work σ → Nat → RowResult × RowStatus × Work σ} {rows : List Nat}
    (hrows : rows = [] ∨ rows = [row])
    (h : g (w.rebound columns) row =
      ((f w row).1, (f w row).2.1, (f w row).2.2.rebound columns)) :
    forRows g (w.rebound columns) rows =
      ((forRows f w rows).1, (forRows f w rows).2.rebound columns) := by
  rcases hrows with rfl | rfl
  · rfl
  · rw [forRows, h]
    rfl

/-- Whether a row has anything to be set does not depend on how its values came. -/
theorem checkDegree_rebound (h : w.SameAssignments columns supplied (row - 1)) (key : KeySet) :
    (w.rebound columns).checkDegree key [] row = w.checkDegree key supplied row := by
  have hcursor : (w.rebound columns).cursor = w.cursor := rfl
  unfold checkDegree
  rw [hcursor, h]

/-- An update of a single row, whose number may stand for it as all rows. -/
theorem updateRows_rebound {number : Nat} (h : w.SameAssignments columns supplied (row - 1))
    (hnumber : number = row ∨ number = 0) :
    (w.rebound columns).updateRows [] number [row] =
      ((w.updateRows supplied number [row]).1,
        (w.updateRows supplied number [row]).2.rebound columns) := by
  have hbindings := w.bindings_prepareWrite [row]
  unfold updateRows
  rw [prepareWrite_rebound]
  generalize w.prepareWrite [row] = found at hbindings ⊢
  obtain ⟨key, after⟩ := found
  have hafter : after.SameAssignments columns supplied (row - 1) := h.congr hbindings
  cases key with
  | error e => rfl
  | ok key =>
      have hdegree : (after.rebound columns).checkDegree key [] number =
          after.checkDegree key supplied number := by
        rcases hnumber with rfl | rfl
        · exact checkDegree_rebound hafter key
        · rfl
      dsimp only
      rw [hdegree]
      cases after.checkDegree key supplied number with
      | error e => rfl
      | ok =>
          dsimp only
          rw [forRows_rebound (f := updateRow key supplied) (Or.inr rfl)]
          · rfl
          · exact onRow_rebound (fun id => updateSlot_rebound hafter key id) row

/-- An insertion is the same with supplied values and with bound ones. -/
theorem insertRow_rebound (h : w.SameAssignments columns supplied (row - 1)) (table : TableRef)
    (numbered : Option Nat) :
    (w.rebound columns).insertRow [] table numbered row =
      ((w.insertRow supplied table numbered row).1, (w.insertRow supplied table numbered row).2.1,
        (w.insertRow supplied table numbered row).2.2.rebound columns) := by
  have hcursor : (w.rebound columns).cursor = w.cursor := rfl
  have hlink : (w.rebound columns).link = w.link := rfl
  unfold insertRow
  rw [hcursor, hlink]
  dsimp only
  rw [h]
  cases w.bindings.assignments supplied (row - 1) w.cursor.descriptor table with
  | error e => rfl
  | ok values =>
      dsimp only
      cases w.cursor.dialect.insert table w.cursor.descriptor values with
      | error e => rfl
      | ok request =>
          dsimp only
          rcases w.link.execute request with ⟨_ | _, _⟩ <;> rfl

theorem setBookmark_rebound (b : Bindings) (row : Nat) (bookmark : Option Bookmark) :
    Bindings.setBookmark { b with columns := columns } row bookmark =
      { b.setBookmark row bookmark with columns := columns } := by
  unfold Bindings.setBookmark
  dsimp only
  split <;> rfl

theorem addEach_rebound (h : w.SameAssignments columns supplied (row - 1)) (table : TableRef)
    (numbered : Option Nat) :
    addEach [] table numbered (w.rebound columns) [row] =
      ((addEach supplied table numbered w [row]).1,
        (addEach supplied table numbered w [row]).2.rebound columns) := by
  simp only [addEach, addOne, insertRow_rebound h]
  refine congrArg (Prod.mk _) ?_
  unfold rebound
  dsimp only
  rw [setBookmark_rebound]

/-- The addition of a single row. -/
theorem addRows_rebound (h : w.SameAssignments columns supplied (row - 1)) :
    (w.rebound columns).addRows [] [row] =
      ((w.addRows supplied [row]).1, (w.addRows supplied [row]).2.rebound columns) := by
  have hcursor : (w.rebound columns).cursor = w.cursor := rfl
  have hbindings := w.bindings_keySet
  unfold addRows
  rw [hcursor]
  cases w.cursor.descriptor.singleTable with
  | error e => rfl
  | ok table =>
      dsimp only
      rw [keySet_rebound]
      generalize w.keySet = found at hbindings ⊢
      obtain ⟨key, after⟩ := found
      have hafter : after.SameAssignments columns supplied (row - 1) := h.congr hbindings
      dsimp only
      rw [addEach_rebound hafter]
      rfl

/-- The update of the row that a single bookmark names, if there is one. -/
theorem updateByBookmark_rebound {rows : List Nat} (hrows : rows = [] ∨ rows = [row])
    (h : w.SameAssignments columns supplied (row - 1)) :
    (w.rebound columns).updateByBookmark [] rows =
      ((w.updateByBookmark supplied rows).1,
        (w.updateByBookmark supplied rows).2.rebound columns) := by
  have hbindings := w.bindings_keySet
  unfold updateByBookmark writeByBookmark
  rw [keySet_rebound]
  generalize w.keySet = found at hbindings ⊢
  obtain ⟨key, after⟩ := found
  have hafter : after.SameAssignments columns supplied (row - 1) := h.congr hbindings
  cases key with
  | error e => rfl
  | ok key =>
      dsimp only
      rw [forRows_rebound
        (f := onBookmark fun w id row => w.updateSlot key supplied id (row - 1)) hrows]
      · rfl
      · exact onBookmark_rebound fun id => updateSlot_rebound hafter key id

/-! ## Operations on one row -/

/-- An operation on one row of the rowset is the same with supplied values and with bound ones. -/
theorem setPosition_rebound {number : Nat} {operation : RowOperation}
    (htakes : operation.takesValues = true) (hrows : w.targetRows number operation = [row])
    (hnumber : number = row ∨ number = 0) (h : w.SameAssignments columns supplied (row - 1)) :
    (w.rebound columns).setPosition number operation [] =
      ((w.setPosition number operation supplied).1,
        (w.setPosition number operation supplied).2.rebound columns) := by
  have hrows' : (w.rebound columns).targetRows number operation = [row] := hrows
  unfold setPosition
  rw [hrows, hrows']
  cases operation with
  | position | refresh | delete => cases htakes
  | update => exact updateRows_rebound h hnumber
  | add => exact addRows_rebound h

/-- An operation on bound arrays of one row is the same with supplied values and with bound ones. -/
theorem bulk_rebound {operation : BulkOperation} (htakes : operation.takesValues = true)
    (hsize : w.cursor.size = 1) (h : w.SameAssignments columns supplied 0) :
    (w.rebound columns).bulk operation [] =
      ((w.bulk operation supplied).1, (w.bulk operation supplied).2.rebound columns) := by
  have hcursor : (w.rebound columns).cursor = w.cursor := rfl
  have hbookmarked : (w.rebound columns).bookmarkRows = w.bookmarkRows := rfl
  unfold bulk
  rw [hcursor]
  cases w.cursor.validateBulk operation with
  | error e => rfl
  | ok =>
      cases operation with
      | deleteByBookmark | fetchByBookmark => cases htakes
      | add =>
          dsimp only
          rw [hsize]
          exact addRows_rebound h
      | updateByBookmark =>
          dsimp only [overBookmarks]
          rw [hbookmarked]
          cases hrows : w.bookmarkRows with
          | error e => rfl
          | ok rows =>
              -- A whole rowset is one row, and the bound bookmarks may be fewer.
              have hone : rows = [] ∨ rows = [1] := by
                unfold bookmarkRows at hrows
                rw [hsize] at hrows
                split at hrows
                · cases hrows
                · split at hrows
                  · cases hrows
                  · cases hrows
                    rcases Nat.le_one_iff_eq_zero_or_eq_one.mp
                      (Nat.min_le_right w.bindings.bookmarkRows 1) with hnone | hone
                    · exact Or.inl (by rw [hnone]; rfl)
                    · exact Or.inr (by rw [hone]; rfl)
              exact updateByBookmark_rebound hone h

end Work

end ScrollCursor
