import Mathlib.Algebra.GroupWithZero.Nat
import ScrollCursor.Proofs.Positioned.BoundValues
import ScrollCursor.Proofs.Positioned.Outcomes

/-! # Several rows and one row after another

An operation on several rows of a static cursor does what the same operation on the first of them
and then on the others does. The statuses are brought up to date more often, and the records are
dropped with each call, but work on a row looks at neither; and since the rows have their bookmarks
already, none is given out between the rows.
-/

namespace ScrollCursor

namespace OperationOutcome

/-- The outcome tells of rows what the outcomes of parts of them tell one after another. -/
structure Concatenates (o : OperationOutcome) (parts : List OperationOutcome) : Prop where
  statuses : o.statuses = parts.flatMap OperationOutcome.statuses
  errors : o.errors = parts.flatMap OperationOutcome.errors
  bookmarks : o.bookmarks = parts.flatMap OperationOutcome.bookmarks
  /-- The numbers of changed rows are added up as machine words. -/
  affectedRows : o.affectedRows = word (parts.map OperationOutcome.affectedRows).sum
  successCount : o.successCount = (parts.map OperationOutcome.successCount).sum
  failureCount : o.failureCount = (parts.map OperationOutcome.failureCount).sum

variable {o first rest : OperationOutcome} {parts : List OperationOutcome}

/-- An outcome is put together from itself alone. -/
theorem concatenates_singleton (h : o.affectedRows < UInt64.size) : o.Concatenates [o] := by
  constructor
  case affectedRows => simp [word_of_lt h]
  all_goals simp

/-- The first outcome and what is put together from the others make up the whole. -/
theorem Concatenates.cons (h : o.Concatenates [first, rest]) (hrest : rest.Concatenates parts) :
    o.Concatenates (first :: parts) := by
  constructor
  · simp [h.statuses, hrest.statuses]
  · simp [h.errors, hrest.errors]
  · simp [h.bookmarks, hrest.bookmarks]
  · have hboth := h.affectedRows
    rw [List.map_cons, List.map_singleton, List.sum_cons, List.sum_singleton,
      hrest.affectedRows] at hboth
    rw [hboth, add_word, List.map_cons, List.sum_cons]
  · simp [h.successCount, hrest.successCount]
  · simp [h.failureCount, hrest.failureCount]

end OperationOutcome

namespace Work

open Cursor (StaticSteps Ledger Marked Addressable)

variable {σ : Type} {w after : Work σ} {key : KeySet} {o : OperationOutcome} {row : Nat}
  {rest : List Nat}

/-! ## What work on a slot does not look at -/

/-- The next call begins: the records of the one before are dropped. -/
def begun (w : Work σ) : Work σ :=
  { w with diagnostics := [] }

variable {statuses : List RowStatus} {records : Diagnostics}

/-- From one to the other a known key stays known, and the rowset and the arrays bound to columns
are the same. -/
structure Kept (w v : Work σ) : Prop where
  key : ∀ known, w.cursor.key = some known → v.cursor.key = some known
  rowset : v.cursor.rowset = w.cursor.rowset
  columns : v.bindings.columns = w.bindings.columns

/-- No row has come either. -/
structure Framed (w v : Work σ) : Prop extends Kept w v where
  resident : v.cursor.buffer.resident = w.cursor.buffer.resident

variable {u v : Work σ}

theorem Kept.refl (w : Work σ) : w.Kept w :=
  ⟨fun _ h => h, rfl, rfl⟩

theorem Kept.trans (h : w.Kept u) (h' : u.Kept v) : w.Kept v :=
  ⟨fun known hknown => h'.key known (h.key known hknown), h'.rowset.trans h.rowset,
    h'.columns.trans h.columns⟩

theorem Framed.refl (w : Work σ) : w.Framed w :=
  ⟨.refl w, rfl⟩

theorem Framed.trans (h : w.Framed u) (h' : u.Framed v) : w.Framed v :=
  ⟨h.toKept.trans h'.toKept, h'.resident.trans h.resident⟩

variable {f : Nat → Work σ → SlotId → RowResult × Work σ}

/-- Rows of the rowset are written with the key of the result. -/
def writeRows (f : KeySet → Nat → Work σ → SlotId → RowResult × Work σ) (w : Work σ)
    (rows : List Nat) : Except Error OperationOutcome × Work σ :=
  match w.keySet with
  | (.error e, w) => (.error e, w)
  | (.ok key, w) =>
      let (reports, w) := forRows (fun v row => v.onRow (f key row) row) w rows
      let (outcome, w) := (w.onCursor Cursor.syncStatuses).finish reports
      (.ok outcome, w)

/-- On a static cursor nothing is read again before a deletion. -/
theorem deleteRows_eq (hkind : w.cursor.kind = .static) (rows : List Nat) :
    w.deleteRows rows = w.writeRows (fun key _ v id => v.deleteSlot key id) rows := by
  unfold deleteRows
  rw [prepareWrite_of_static hkind]
  rfl

/-- A single row that sets something is updated like one of several. -/
theorem updateRows_eq (hkind : w.cursor.kind = .static) (supplied : Supplied) {number : Nat}
    (hdegree : ∀ key, w.keySet.1 = .ok key → w.keySet.2.checkDegree key supplied number = .ok ())
    (rows : List Nat) :
    w.updateRows supplied number rows =
      w.writeRows (fun key row v id => v.updateSlot key supplied id (row - 1)) rows := by
  unfold updateRows writeRows
  rw [prepareWrite_of_static hkind]
  generalize w.keySet = found at hdegree ⊢
  obtain ⟨key, v⟩ := found
  cases key with
  | error e => rfl
  | ok key =>
      dsimp only
      rw [hdegree key rfl]
      rfl

/-- An update that goes through is a write of each of its rows. -/
theorem writeRows_of_updateRows (hkind : w.cursor.kind = .static) {supplied : Supplied}
    {number : Nat} {rows : List Nat} (h : w.updateRows supplied number rows = (.ok o, after)) :
    w.writeRows (fun key row v id => v.updateSlot key supplied id (row - 1)) rows =
      (.ok o, after) := by
  rw [← h]
  refine (updateRows_eq hkind supplied (fun key hkey => ?_) rows).symm
  unfold updateRows at h
  rw [prepareWrite_of_static hkind] at h
  split at h
  · cases h
  next found v hfound =>
    split at h
    · cases h
    next hdegree =>
      rw [hfound] at hkey ⊢
      cases hkey
      exact hdegree

section Rows

variable {f : KeySet → Nat → Work σ → SlotId → RowResult × Work σ} {rows : List Nat}

/-- A write that goes through has found its key and has run over its rows. -/
theorem exists_forRows_of_writeRows (h : w.writeRows f rows = (.ok o, after)) :
    ∃ key v reports u, w.keySet = (.ok key, v) ∧
      forRows (fun v row => v.onRow (f key row) row) v rows = (reports, u) ∧
      o = .ofReports reports ∧ after = ((u.onCursor Cursor.syncStatuses).finish reports).2 := by
  unfold writeRows at h
  split at h
  · cases h
  next key v hkey =>
    cases h
    exact ⟨key, v, _, _, hkey, rfl, rfl, rfl⟩

end Rows

/-! ## Additions -/

/-- An added row moves nothing of the rowset and changes no binding of values. -/
theorem kept_addOne (supplied : Supplied) (table : TableRef) (numbered : Option Nat)
    (w : Work σ) (row : Nat) : w.Kept (addOne supplied table numbered w row).2.2 := by
  have hcolumns (bookmark : Option Bookmark) :
      (w.bindings.setBookmark (row - 1) bookmark).columns = w.bindings.columns := by
    unfold Bindings.setBookmark
    split <;> rfl
  have hkey (values : Record) : (w.cursor.addRow values).2.key = w.cursor.key := by
    unfold Cursor.addRow
    dsimp only
    split <;> rfl
  have hrowset (values : Record) : (w.cursor.addRow values).2.rowset = w.cursor.rowset := by
    unfold Cursor.addRow
    dsimp only
    split <;> rfl
  unfold addOne insertRow
  dsimp only
  split
  · exact ⟨fun _ h => h, rfl, hcolumns _⟩
  · split
    · exact ⟨fun _ h => h, rfl, hcolumns _⟩
    · split
      · exact ⟨fun _ h => h, rfl, hcolumns _⟩
      · exact ⟨fun known h => (hkey _).trans h, hrowset _, hcolumns _⟩

/-- What an addition amounts to once its table, its key and the added rows are known. -/
theorem addRows_of_addEach {supplied : Supplied} {table : TableRef}
    {known : Except Error KeySet} {v u : Work σ} {rows : List Nat}
    {added : List (RowReport × Option Bookmark)}
    (hsingle : w.cursor.descriptor.singleTable = .ok table) (hkey : w.keySet = (known, v))
    (hadded : addEach supplied table (known.toOption.bind KeySet.numberedColumn?) v rows =
      (added, u)) :
    w.addRows supplied rows =
      (.ok { OperationOutcome.ofReports (added.map Prod.fst) with
          bookmarks := added.map Prod.snd },
        (u.finish (added.map Prod.fst)).2) := by
  unfold addRows
  rw [hsingle]
  dsimp only
  rw [hkey]
  dsimp only
  rw [hadded]
  rfl

/-- The operation on one row after another, each with a call of its own. A call that is refused is
the last. -/
def setPositionEach (operation : RowOperation) :
    Work σ → List Nat → Except Error (List OperationOutcome) × Work σ
  | w, [] => (.ok [], w)
  | w, row :: rest =>
      match w.setPosition row operation [] with
      | (.error e, v) => (.error e, v)
      | (.ok first, v) =>
          match setPositionEach operation v.begun rest with
          | (.error e, u) => (.error e, u)
          | (.ok others, u) => (.ok (first :: others), u)

/-- Calls for several rows go through if the first does and, in the state it leaves, the others do.
-/
theorem setPositionEach_cons_eq_ok {operation : RowOperation} {outcomes : List OperationOutcome}
    {u : Work σ} :
    setPositionEach operation w (row :: rest) = (.ok outcomes, u) ↔
      ∃ first v others, w.setPosition row operation [] = (.ok first, v) ∧
        setPositionEach operation v.begun rest = (.ok others, u) ∧ outcomes = first :: others := by
  constructor
  · intro h
    rw [setPositionEach] at h
    split at h
    · cases h
    next first v hfirst =>
      split at h
      · cases h
      next others u hrest =>
        cases h
        exact ⟨first, v, others, hfirst, hrest, rfl⟩
  · rintro ⟨first, v, others, hfirst, hrest, rfl⟩
    rw [setPositionEach, hfirst]
    dsimp only
    rw [hrest]

/-- The number of changed rows of an outcome is a machine word. -/
theorem affectedRows_lt {operation : RowOperation} {supplied : Supplied}
    (h : w.setPosition row operation supplied = (.ok o, after)) : o.affectedRows < UInt64.size := by
  by_cases hposition : operation = .position
  · subst hposition
    cases h
    exact word_lt 0
  · have hoperate : w.operate supplied (.setPosition row operation) = (.ok o, after) := h
    obtain ⟨reports, hreported⟩ := reported_operate
      (fun number heq => hposition (Operation.setPosition.inj heq).2) hoperate
    obtain ⟨_, _, rfl⟩ := hreported.outcome
    exact word_lt _

/-- Carried out on several rows the operation does on the first what a call on that row does, and
then what it does on the others. -/
structure RowWise (operation : RowOperation)
    (g : Work σ → List Nat → Except Error OperationOutcome × Work σ)
    (Ready : Work σ → List Nat → Prop) : Prop where
  single : ∀ (w : Work σ) row rest, row ≠ 0 → Ready w (row :: rest) →
    w.setPosition row operation [] = g w [row]
  cons : ∀ (w : Work σ) row rest o after, Ready w (row :: rest) →
    g w (row :: rest) = (.ok o, after) →
    ∃ first v others last, g w [row] = (.ok first, v) ∧ Ready v.begun rest ∧
      g v.begun rest = (.ok others, last) ∧ last.begun = after.begun ∧
      o.Concatenates [first, others]

/-- Several rows take what a call for each of them takes. -/
theorem RowWise.setPositionEach {operation : RowOperation}
    {g : Work σ → List Nat → Except Error OperationOutcome × Work σ}
    {Ready : Work σ → List Nat → Prop} (hg : RowWise operation g Ready)
    (hrows : ∀ number ∈ row :: rest, number ≠ 0) (hready : Ready w (row :: rest))
    (h : g w (row :: rest) = (.ok o, after)) :
    ∃ outcomes u, setPositionEach operation w (row :: rest) = (.ok outcomes, u) ∧
      u.begun = after.begun ∧ o.Concatenates outcomes := by
  induction rest generalizing w row o after with
  | nil =>
      have hcall := (hg.single w row [] (hrows row List.mem_cons_self) hready).trans h
      exact ⟨[o], after.begun, setPositionEach_cons_eq_ok.mpr ⟨_, _, _, hcall, rfl, rfl⟩, rfl,
        OperationOutcome.concatenates_singleton (affectedRows_lt hcall)⟩
  | cons next rest ih =>
      obtain ⟨first, v, others, last, hfirst, hready', hothers, hlast, hboth⟩ :=
        hg.cons w row _ o after hready h
      obtain ⟨outcomes, u, heach, hu, hrest⟩ :=
        ih (fun number hmem => hrows number (List.mem_cons_of_mem _ hmem)) hready' hothers
      have hcall := (hg.single w row _ (hrows row List.mem_cons_self) hready).trans hfirst
      exact ⟨first :: outcomes, u, setPositionEach_cons_eq_ok.mpr ⟨_, _, _, hcall, heach, rfl⟩,
        hu.trans hlast, hboth.cons hrest⟩

/-! ## The three writes -/

/-- A call for a single row is about this row only. -/
theorem targetRows_of_ne_zero (hrow : row ≠ 0) (operation : RowOperation) :
    w.targetRows row operation = [row] :=
  if_pos hrow

/-- A static cursor at work whose rows have their bookmarks. -/
structure Steady (w : Work σ) : Prop where
  static : w.cursor.kind = .static
  ledger : Ledger w.cursor
  marked : Marked w.cursor
  addressable : Addressable w.cursor

theorem Steady.isScrollable (h : w.Steady) : w.cursor.kind.isScrollable = true := by
  rw [h.static]
  rfl

/-- A call that brings no row leaves the cursor like that. -/
theorem Steady.of_staticSteps {v : Work σ} (h : w.Steady)
    (hsteps : StaticSteps w.cursor v.cursor)
    (hresident : v.cursor.buffer.resident = w.cursor.buffer.resident) : v.begun.Steady := by
  have hsize : Addressable v.cursor := by
    rw [Cursor.Addressable, hresident]
    exact h.addressable
  exact ⟨hsteps.sameFrame.1.trans h.static, h.ledger.of_changes h.isScrollable hsteps.changes hsize,
    hsteps.marked h.ledger h.isScrollable hsize h.marked, hsize⟩

/-- Something is bound for the row in a column of the table that the key is for. -/
def Sets (w : Work σ) (row : Nat) : Prop :=
  ∀ key, w.keySet.1 = .ok key → ∃ ordinal column,
    (ordinal, column) ∈ w.cursor.descriptor.columnsOf key.table ∧
      w.bindings.value ordinal (row - 1) ≠ .ignore

/-- No value of any row is still to be supplied. -/
def Bound (w : Work σ) : Prop :=
  ∀ row, w.bindings.dataAtExecColumns row = []

/-- What sets something has something to set. -/
theorem Sets.checkDegree (h : w.Sets row) (hbound : w.Bound) (hkey : w.keySet.1 = .ok key) :
    w.keySet.2.checkDegree key [] row = .ok () := by
  have hbindings := (ExactServer.keySet_frame w).1
  have hdescriptor := w.keySet_changes.sameFrame.2.2.2
  obtain ⟨ordinal, column, hcolumn, hvalue⟩ := h key hkey
  obtain ⟨assignments, hassignments⟩ :=
    Bindings.exists_assignments (hbound (row - 1)) [] w.cursor.descriptor key.table
  obtain ⟨v, hv⟩ := Bindings.exists_mem_assignments hassignments hcolumn hvalue
  unfold Work.checkDegree
  rw [hbindings, hdescriptor, hassignments]
  split
  · rfl
  · cases assignments with
    | nil => cases hv
    | cons => rfl

end Work

end ScrollCursor
