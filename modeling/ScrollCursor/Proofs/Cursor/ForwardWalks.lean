import ScrollCursor.Proofs.Cursor.ArrayCursor
import ScrollCursor.Proofs.Cursor.ForwardOnly

/-! # Forward walks

A cursor that only goes forwards discards the rows behind it, and with them their bookmarks, where a
static cursor keeps everything. Going forwards the two still show the same: what the first one holds
is the end of what the other one holds, at the same positions and with the same bookmarks.
-/

namespace ScrollCursor

/-! ## Bookmarks of the last slots -/

namespace Bookmarks

/-- The slots from `base` on have the bookmarks in `n` that the slots from the first one on have in
`m`, and both have given out as many. -/
structure Shifted (base : Nat) (m n : Bookmarks) : Prop where
  issued : n.issued = m.issued
  ofSlot? : ∀ id, n.ofSlot? (base + id) = m.ofSlot? id

namespace Shifted

variable {base : Nat} {m n : Bookmarks}

theorem mint (h : Shifted base m n) (id : SlotId) :
    Shifted base (m.mint id).2 (n.mint (base + id)).2 := by
  have hgiven : (n.mint (base + id)).1 = (m.mint id).1 ∧
      (n.mint (base + id)).2.issued = (m.mint id).2.issued := by
    unfold Bookmarks.mint
    rw [h.ofSlot?]
    cases m.ofSlot? id with
    | some b => exact ⟨rfl, h.issued⟩
    | none => exact ⟨by rw [h.issued], congrArg (· + 1) h.issued⟩
  refine ⟨hgiven.2, fun other => ?_⟩
  rw [ofSlot?_mint_eq, ofSlot?_mint_eq, h.ofSlot?, hgiven.1]
  simp

/-- Without its bookmarks a part agrees with any slots that have none. -/
theorem forgetAll (h : n.issued = m.issued) (hnone : ∀ entry ∈ n.live, entry.2 < base) :
    Shifted base m.forgetAll n := by
  refine ⟨h, fun id => ?_⟩
  cases hfound : n.ofSlot? (base + id) with
  | none => rfl
  | some b =>
      have hlt : base + id < base := hnone _ (mem_live_of_ofSlot? hfound)
      exact absurd hlt (Nat.not_lt.mpr (Nat.le_add_right _ _))

end Shifted

end Bookmarks

/-! ## Pulling into two buffers -/

namespace Pulled

variable {b b' : RowBuffer}

/-- Whether to go on depends on how many rows are known and whether they are all. -/
theorem settled?_alike (limit : Option Nat) (demand : Demand) (hknown : b'.count = b.count)
    (hended : b'.exhausted = b.exhausted) :
    (∃ ended, settled? limit demand b = some { b with exhausted := ended } ∧
        settled? limit demand b' = some { b' with exhausted := ended }) ∨
      (settled? limit demand b = none ∧ settled? limit demand b' = none) := by
  unfold settled?
  rw [hknown, hended]
  split
  · refine Or.inl ⟨b.exhausted, rfl, ?_⟩
    rw [← hended]
  · split
    · exact Or.inl ⟨true, rfl, rfl⟩
    · exact Or.inr ⟨rfl, rfl⟩

/-- Buffers that know of as many rows take the same ones from a stream. -/
theorem run_alike (limit : Option Nat) (demand : Demand) (stream : RowStream)
    (hknown : b'.count = b.count) (hended : b'.exhausted = b.exhausted) (asked : Nat) :
    (run limit demand stream b' asked).stream = (run limit demand stream b asked).stream ∧
      (run limit demand stream b' asked).asked = (run limit demand stream b asked).asked ∧
      (run limit demand stream b' asked).failure = (run limit demand stream b asked).failure ∧
      ∃ taken ended,
        (run limit demand stream b asked).buffer = { b.appendAll taken with exhausted := ended } ∧
        (run limit demand stream b' asked).buffer =
          { b'.appendAll taken with exhausted := ended } := by
  induction stream generalizing b b' asked with
  | nil =>
      rw [run.eq_def, run.eq_def]
      dsimp only
      rcases settled?_alike limit demand hknown hended with
        ⟨ended, hb, hb'⟩ | ⟨hb, hb'⟩
      · rw [hb, hb']
        exact ⟨rfl, rfl, rfl, [], ended, rfl, rfl⟩
      · rw [hb, hb']
        exact ⟨rfl, rfl, rfl, [], true, rfl, rfl⟩
  | cons item rest ih =>
      rw [run.eq_def, run.eq_def]
      dsimp only
      rcases settled?_alike limit demand hknown hended with
        ⟨ended, hb, hb'⟩ | ⟨hb, hb'⟩
      · rw [hb, hb']
        exact ⟨rfl, rfl, rfl, [], ended, rfl, rfl⟩
      · rw [hb, hb']
        cases item with
        | error e =>
            refine ⟨rfl, rfl, rfl, [], b.exhausted, rfl, ?_⟩
            rw [← hended]
            rfl
        | ok row =>
            have hpushed : (b'.append row).count = (b.append row).count := by simp [hknown]
            obtain ⟨hstream, hasked, hfailure, taken, ended, htaken, htaken'⟩ :=
              ih hpushed hended (asked + 1)
            exact ⟨hstream, hasked, hfailure, row :: taken, ended, htaken, htaken'⟩

end Pulled

namespace Cursor

/-! ## Two cursors on the same way -/

/-- The first cursor holds the last rows of the second one, and both stand at the same place. -/
structure InPace (c d : Cursor) : Prop where
  kind : c.kind = .forwardOnly
  kind' : d.kind = .static
  size : d.size = c.size
  maxRows : d.options.maxRows = c.options.maxRows
  useBookmarks : d.options.useBookmarks = c.options.useBookmarks
  retrieveData : d.options.retrieveData = c.options.retrieveData
  descriptor : d.descriptor = c.descriptor
  stream : d.stream = c.stream
  start : d.start = c.start
  afterLast : d.afterLast = c.afterLast
  count : d.buffer.count = c.buffer.count
  ended : d.buffer.exhausted = c.buffer.exhausted
  inOrder : c.buffer.InOrder
  inOrder' : d.buffer.InOrder
  whole : d.buffer.base = 0
  slots : c.buffer.slots = d.buffer.slots.drop c.buffer.base
  bookmarks : Bookmarks.Shifted c.buffer.base c.bookmarks d.bookmarks

namespace InPace

variable {c d : Cursor}

theorem opened (dialect : Dialect) (options : StatementOptions) (result : ResultSet) :
    InPace (.opened .forwardOnly dialect { options with cursorKind := .forwardOnly } result)
      (.opened .static dialect { options with cursorKind := .static } result) where
  kind := rfl
  kind' := rfl
  size := rfl
  maxRows := rfl
  useBookmarks := rfl
  retrieveData := rfl
  descriptor := rfl
  stream := rfl
  start := rfl
  afterLast := rfl
  count := rfl
  ended := rfl
  inOrder := ⟨rfl, by simp [Cursor.opened]⟩
  inOrder' := ⟨rfl, by simp [Cursor.opened]⟩
  whole := rfl
  slots := rfl
  bookmarks := ⟨rfl, fun _ => rfl⟩

theorem resident_eq (h : InPace c d) : d.buffer.resident = c.buffer.count := by
  have hknown := h.inOrder'.count_eq
  rw [h.whole, h.count] at hknown
  omega

theorem nextPosition_eq (h : InPace c d) : d.nextPosition = c.nextPosition := by
  rw [nextPosition, nextPosition, h.start, h.size]

/-- Rows behind are of no account, nor are their bookmarks. -/
theorem dropBehind (h : InPace c d) (hlive : ∀ entry ∈ d.bookmarks.live,
    entry.2 < d.buffer.resident) (position : Nat) : InPace (c.dropBehind position) d := by
  unfold Cursor.dropBehind
  split
  · have hbase : (c.buffer.discardThrough c.buffer.count).base = c.buffer.count :=
      Nat.max_eq_left (Nat.le_add_right _ _)
    have hempty : d.buffer.slots.drop c.buffer.count = [] := by
      rw [List.drop_eq_nil_iff]
      exact Nat.le_of_eq h.resident_eq
    refine { h with count := ?_, inOrder := .discardThrough _ _, slots := ?_, bookmarks := ?_ }
    · rw [h.count]
      exact hbase.symm
    · rw [hbase, hempty]
      rfl
    · rw [hbase]
      rw [h.resident_eq] at hlive
      exact .forgetAll h.bookmarks.issued hlive
  · exact h

/-- The same rows join both buffers. -/
theorem pull {σ : Type} {w v : Work σ} (h : InPace w.cursor v.cursor) (hlink : v.link = w.link)
    (demand : Demand) : (v.pull demand).1 = (w.pull demand).1 ∧
      (v.pull demand).2.link = (w.pull demand).2.link ∧
      InPace (w.pull demand).2.cursor (v.pull demand).2.cursor := by
  obtain ⟨hstream, hasked, hfailure, taken, ended, htaken, htaken'⟩ :=
    Pulled.run_alike w.cursor.options.maxRows demand w.cursor.stream h.count h.ended 0
  unfold Work.pull
  rw [h.maxRows, h.stream, hlink]
  dsimp only
  refine ⟨hfailure, by rw [hasked], ?_⟩
  rw [hstream, htaken, htaken']
  have horder := h.inOrder.appendAll taken
  have horder' := h.inOrder'.appendAll taken
  have hheld : w.cursor.buffer.base ≤ v.cursor.buffer.slots.length := by
    have hresident : v.cursor.buffer.slots.length = _ := h.resident_eq
    rw [hresident]
    exact Nat.le_add_right _ _
  refine { h with
    stream := rfl, count := ?_, ended := rfl, inOrder := ⟨horder.order, horder.status⟩,
    inOrder' := ⟨horder'.order, horder'.status⟩, whole := ?_, slots := ?_, bookmarks := ?_ }
  · change (v.cursor.buffer.appendAll taken).count = (w.cursor.buffer.appendAll taken).count
    simp [h.count]
  · exact (RowBuffer.base_appendAll _ taken).trans h.whole
  · change (w.cursor.buffer.appendAll taken).slots =
      (v.cursor.buffer.appendAll taken).slots.drop (w.cursor.buffer.appendAll taken).base
    rw [RowBuffer.slots_appendAll, RowBuffer.slots_appendAll, RowBuffer.base_appendAll, h.count,
      h.slots, List.drop_append_of_le_length hheld]
  · change Bookmarks.Shifted (w.cursor.buffer.appendAll taken).base _ _
    rw [RowBuffer.base_appendAll]
    exact h.bookmarks

/-! ## The same rowset -/

/-- The slots of a position that both cursors hold. -/
theorem slotAt?_eq (h : InPace c d) {q : Nat} (hq : c.buffer.base < q ∧ q ≤ c.buffer.count) :
    ∃ id, c.buffer.slotAt? q = some id ∧ d.buffer.slotAt? q = some (c.buffer.base + id) := by
  refine ⟨_, h.inOrder.slotAt?_eq hq, ?_⟩
  rw [h.inOrder'.slotAt?_eq (by rw [h.whole, h.count]; omega), h.whole]
  congr 1
  omega

theorem slot?_eq (h : InPace c d) (id : SlotId) :
    d.buffer.slot? (c.buffer.base + id) = c.buffer.slot? id := by
  rw [RowBuffer.slot?, RowBuffer.slot?, h.slots, List.getElem?_drop]

theorem entryStatus_eq (h : InPace c d) {q : Nat}
    (hq : c.buffer.base < q ∧ q ≤ c.buffer.count) :
    d.entryStatus (d.buffer.slotAt? q) = c.entryStatus (c.buffer.slotAt? q) := by
  obtain ⟨id, hid, hid'⟩ := h.slotAt?_eq hq
  rw [hid, hid', entryStatus, entryStatus, Option.bind_some, Option.bind_some, h.slot?_eq]

theorem fetchedRow_eq (h : InPace c d) {q : Nat}
    (hq : c.buffer.base < q ∧ q ≤ c.buffer.count) (status : RowStatus) :
    d.fetchedRow (d.buffer.slotAt? q) status = c.fetchedRow (c.buffer.slotAt? q) status := by
  obtain ⟨id, hid, hid'⟩ := h.slotAt?_eq hq
  have hnamed : d.named = c.named := by
    funext slot
    rw [named, named, h.descriptor]
  simp only [fetchedRow, hid, hid', Option.bind_some, h.slot?_eq, h.bookmarks.ofSlot?, hnamed,
    h.useBookmarks, h.retrieveData]

/-- Bookmarks are given to the rows of a rowset in turn. -/
theorem foldl_mintEntry (h : InPace c d) {positions : List Nat}
    (hpositions : ∀ q ∈ positions, c.buffer.base < q ∧ q ≤ c.buffer.count) {m n : Bookmarks}
    (hmarks : Bookmarks.Shifted c.buffer.base m n) :
    Bookmarks.Shifted c.buffer.base ((positions.map c.buffer.slotAt?).foldl c.mintEntry m)
      ((positions.map d.buffer.slotAt?).foldl d.mintEntry n) := by
  induction positions generalizing m n with
  | nil => exact hmarks
  | cons q positions ih =>
      have hq := hpositions q List.mem_cons_self
      obtain ⟨id, hid, hid'⟩ := h.slotAt?_eq hq
      have hstatus := h.entryStatus_eq hq
      rw [hid, hid'] at hstatus
      have hentry : Bookmarks.Shifted c.buffer.base (c.mintEntry m (some id))
          (d.mintEntry n (some (c.buffer.base + id))) := by
        unfold mintEntry
        dsimp only
        rw [hstatus]
        split
        · exact hmarks
        · exact hmarks.mint id
      rw [List.map_cons, List.map_cons, List.foldl_cons, List.foldl_cons, hid, hid']
      exact ih (fun q hq => hpositions q (List.mem_cons_of_mem _ hq)) hentry

variable {positions : List Nat}

theorem syncStatuses (h : InPace c d) (hrowset : c.rowset = positions.map c.buffer.slotAt?)
    (hrowset' : d.rowset = positions.map d.buffer.slotAt?)
    (hpositions : ∀ q ∈ positions, c.buffer.base < q ∧ q ≤ c.buffer.count) :
    InPace c.syncStatuses d.syncStatuses := by
  have hmarks := h.foldl_mintEntry hpositions h.bookmarks
  rw [← hrowset, ← hrowset'] at hmarks
  refine { h with bookmarks := ?_ }
  change Bookmarks.Shifted c.buffer.base (if c.options.useBookmarks then _ else c.bookmarks)
    (if d.options.useBookmarks then _ else d.bookmarks)
  rw [h.useBookmarks]
  split
  · exact hmarks
  · exact h.bookmarks

/-- A rowset whose rows both cursors hold is shown alike. -/
theorem fetchOutcome_eq (h : InPace c d) (hrowset : c.rowset = positions.map c.buffer.slotAt?)
    (hrowset' : d.rowset = positions.map d.buffer.slotAt?)
    (hpositions : ∀ q ∈ positions, c.buffer.base < q ∧ q ≤ c.buffer.count) :
    d.syncStatuses.fetchOutcome = c.syncStatuses.fetchOutcome := by
  have hshown := h.syncStatuses hrowset hrowset' hpositions
  have hstatuses : d.syncStatuses.statuses = c.syncStatuses.statuses := by
    change d.rowset.map d.entryStatus = c.rowset.map c.entryStatus
    rw [hrowset, hrowset', List.map_map, List.map_map]
    exact List.map_congr_left fun q hq => h.entryStatus_eq (hpositions q hq)
  have hrows : d.syncStatuses.fetchedRows = c.syncStatuses.fetchedRows := by
    change d.rowset.zipWith d.syncStatuses.fetchedRow (d.rowset.map d.entryStatus) =
      c.rowset.zipWith c.syncStatuses.fetchedRow (c.rowset.map c.entryStatus)
    rw [List.zipWith_map_right, List.zipWith_map_right, List.zipWith_self, List.zipWith_self,
      hrowset, hrowset', List.map_map, List.map_map]
    refine List.map_congr_left fun q hq => ?_
    rw [Function.comp_apply, Function.comp_apply, h.entryStatus_eq (hpositions q hq)]
    exact hshown.fetchedRow_eq (hpositions q hq) _
  have hatEnd : d.syncStatuses.atEnd = c.syncStatuses.atEnd := by
    rw [atEnd, atEnd, hshown.ended, hshown.count, hshown.start, hshown.size]
  rw [fetchOutcome, fetchOutcome, paddedStatuses, paddedStatuses, hstatuses, hrows, hatEnd,
    hshown.size, hshown.start]

theorem moveAfterLast (h : InPace c d) : InPace c.moveAfterLast d.moveAfterLast :=
  { h with afterLast := rfl }

theorem placeRowset (h : InPace c d) (position : Nat) :
    InPace (c.placeRowset position) (d.placeRowset position) :=
  { h with start := rfl, afterLast := rfl }

/-- The rowset at a position of which both cursors hold the row and those that follow. -/
theorem placed (h : InPace c d) {position : Nat} (hposition : c.buffer.base < position) :
    (d.placeRowset position).syncStatuses.fetchOutcome =
        (c.placeRowset position).syncStatuses.fetchOutcome ∧
      InPace (c.placeRowset position).syncStatuses (d.placeRowset position).syncStatuses := by
  have hplaced := h.placeRowset position
  have hrowset' : (d.placeRowset position).rowset =
      d.buffer.slotsBetween position (min (position + c.size - 1) c.buffer.count) := by
    rw [← h.size, ← h.count]
    rfl
  have hpositions : ∀ q ∈ List.range' position
      (min (position + c.size - 1) c.buffer.count + 1 - position),
        (c.placeRowset position).buffer.base < q ∧ q ≤ (c.placeRowset position).buffer.count := by
    intro q hq
    obtain ⟨hfirst, hlast⟩ := List.mem_range'_1.mp hq
    change c.buffer.base < q ∧ q ≤ c.buffer.count
    omega
  exact ⟨hplaced.fetchOutcome_eq rfl hrowset' hpositions,
    hplaced.syncStatuses rfl hrowset' hpositions⟩

end InPace

/-! ## What a cursor that only goes forwards holds -/

namespace Forward

variable {c : Cursor}

theorem held (h : Forward c) (hafter : c.afterLast = false) : c.buffer.resident ≤ c.size := by
  cases h with
  | beforeFirst _ _ _ hheld _ => exact hheld
  | placed _ _ hheld _ _ => exact hheld.2
  | failed _ _ _ hheld _ _ => exact Nat.le_of_lt hheld
  | afterLast ha _ =>
      rw [ha] at hafter
      cases hafter

/-- The row at the next position is the first one held. If there is no such row, none is held. -/
theorem pulledNext_cases (h : Forward c) (hkind : c.kind.isScrollable = false)
    (hrows : c.buffer.InOrder) (hafter : c.afterLast = false) :
    (c.nextPosition ≤ c.pulledNext.buffer.count ∧
        c.pulledNext.buffer.base + 1 = c.nextPosition) ∨
      (c.pulledNext.buffer.count < c.nextPosition ∧ c.pulledNext.buffer.resident = 0) := by
  obtain ⟨taken, htaken⟩ := c.exists_taken
  rcases h.dropBehind hkind hrows hafter with ⟨hstart, -⟩ | ⟨hend, hlt⟩
  · have hknown := (htaken.inOrder (inOrder_dropBehind hrows _)).count_eq
    rw [← htaken.base_eq] at hstart
    omega
  · have hdropped : c.buffer.count < c.nextPosition := by
      by_contra hle
      rw [dropBehind_of_le_count (Nat.not_lt.mp hle)] at hlt
      exact hle hlt
    rw [pulledNext, Pulled.run_of_exhausted _ _ hend]
    refine Or.inr ⟨hlt, ?_⟩
    rw [dropBehind_of_count_lt hkind hdropped]
    rfl

end Forward

end Cursor

namespace Work

open Cursor (Forward InPace Reachable)

variable {σ : Type}

/-! ## The next rowset -/

theorem showRowset_placeRowset {w : Work σ} (h : w.cursor.kind.rereads = false) (position : Nat) :
    (w.onCursor (Cursor.placeRowset · position)).showRowset =
      (.ok (w.cursor.placeRowset position).syncStatuses.fetchOutcome,
        w.onCursor fun c => (c.placeRowset position).syncStatuses) :=
  showRowset_of_not_rereads (w := w.onCursor (Cursor.placeRowset · position)) h

theorem fetchAt_of_failure {w w' : Work σ} {position : Nat} {e : Error}
    (h : (w.onCursor (Cursor.dropBehind · position)).pull (.upTo (position + w.cursor.size - 1)) =
      (some e, w')) : w.fetchAt position = (.error e, w') := by
  rw [← w.cursor.size_dropBehind position] at h
  unfold fetchAt
  dsimp only [onCursor] at h ⊢
  rw [h]

theorem fetchAt_of_pull {w w' : Work σ} {position : Nat}
    (h : (w.onCursor (Cursor.dropBehind · position)).pull (.upTo (position + w.cursor.size - 1)) =
      (none, w')) :
    w.fetchAt position =
      if w'.cursor.buffer.count < position then w'.fetchAfterLast
      else (w'.onCursor (Cursor.placeRowset · position)).showRowset := by
  rw [← w.cursor.size_dropBehind position] at h
  unfold fetchAt
  dsimp only [onCursor] at h ⊢
  rw [h]

/-- The next rowset of both cursors, unless they stand after the last row. -/
theorem fetchAt_inPace {w v : Work σ} (h : InPace w.cursor v.cursor) (hlink : v.link = w.link)
    (hforward : Forward w.cursor) (hlive : ∀ entry ∈ v.cursor.bookmarks.live,
      entry.2 < v.cursor.buffer.resident) (hafter : w.cursor.afterLast = false) :
    (v.fetchAt w.cursor.nextPosition).1 = (w.fetchAt w.cursor.nextPosition).1 ∧
      (v.fetchAt w.cursor.nextPosition).2.link = (w.fetchAt w.cursor.nextPosition).2.link ∧
      InPace (w.fetchAt w.cursor.nextPosition).2.cursor
        (v.fetchAt w.cursor.nextPosition).2.cursor := by
  have hkind : w.cursor.kind.isScrollable = false := by
    rw [h.kind]
    rfl
  have hstays : v.onCursor (Cursor.dropBehind · w.cursor.nextPosition) = v := by
    rw [onCursor, Cursor.dropBehind_of_isScrollable (by rw [h.kind']; rfl)]
  have hpull := (h.dropBehind hlive w.cursor.nextPosition).pull
    (w := w.onCursor (Cursor.dropBehind · w.cursor.nextPosition)) hlink
    (.upTo (w.cursor.nextPosition + w.cursor.size - 1))
  obtain ⟨⟨failure, w'⟩, hw⟩ : ∃ pulled,
      (w.onCursor (Cursor.dropBehind · w.cursor.nextPosition)).pull
        (.upTo (w.cursor.nextPosition + w.cursor.size - 1)) = pulled := ⟨_, rfl⟩
  obtain ⟨⟨failure', v'⟩, hv⟩ : ∃ pulled,
      v.pull (.upTo (w.cursor.nextPosition + w.cursor.size - 1)) = pulled := ⟨_, rfl⟩
  have hbuffer : w'.cursor.buffer = w.cursor.pulledNext.buffer := by
    rw [Cursor.pulledNext, Cursor.size_dropBehind]
    exact congrArg (fun pulled => pulled.2.cursor.buffer) hw.symm
  have hv' : (v.onCursor (Cursor.dropBehind · w.cursor.nextPosition)).pull
      (.upTo (w.cursor.nextPosition + v.cursor.size - 1)) = (failure', v') := by
    rw [hstays, h.size, hv]
  rw [hw, hv] at hpull
  obtain ⟨hfailure, hlinks, hpace⟩ := hpull
  dsimp only at hfailure hlinks hpace
  subst hfailure
  cases failure' with
  | some e =>
      rw [fetchAt_of_failure hw, fetchAt_of_failure hv']
      exact ⟨rfl, hlinks, hpace⟩
  | none =>
      rw [fetchAt_of_pull hw, fetchAt_of_pull hv', hpace.count]
      split
      next =>
        refine ⟨?_, hlinks, hpace.moveAfterLast⟩
        rw [fetchAfterLast, fetchAfterLast, hpace.size]
      next hknown =>
        have hbase : w'.cursor.buffer.base < w.cursor.nextPosition := by
          rw [hbuffer] at hknown ⊢
          rcases hforward.pulledNext_cases hkind h.inOrder hafter with ⟨-, hbase⟩ | ⟨hlt, -⟩
          · exact Nat.lt_of_succ_le (Nat.le_of_eq hbase)
          · exact absurd hlt hknown
        obtain ⟨houtcome, hplaced⟩ := hpace.placed hbase
        rw [showRowset_placeRowset (w := v') (by rw [hpace.kind']; rfl),
          showRowset_placeRowset (w := w') (by rw [hpace.kind]; rfl)]
        exact ⟨congrArg Except.ok houtcome, hlinks, hplaced⟩

theorem fetch_next_inPace {w v : Work σ} (h : InPace w.cursor v.cursor) (hlink : v.link = w.link)
    (hreach : Reachable w.cursor) (hreach' : Reachable v.cursor) :
    (v.fetch .next).1 = (w.fetch .next).1 ∧ (v.fetch .next).2.link = (w.fetch .next).2.link ∧
      InPace (w.fetch .next).2.cursor (v.fetch .next).2.cursor := by
  have hkind : w.cursor.kind.isScrollable = false := by
    rw [h.kind]
    rfl
  have hscrolls : v.cursor.kind.isScrollable = true := by
    rw [h.kind']
    rfl
  rw [fetch_next, fetch_next, h.afterLast, h.nextPosition_eq]
  split
  next =>
    refine ⟨?_, hlink, h.moveAfterLast⟩
    rw [fetchAfterLast, fetchAfterLast, h.size]
  next hafter =>
    exact fetchAt_inPace h hlink (hreach.forward hkind).1 (hreach'.resident hscrolls).live
      (Bool.not_eq_true _ ▸ hafter)

/-- A cursor that only goes forwards never holds more than a rowset. -/
theorem held_fetch_next {w : Work σ} (hreach : Reachable w.cursor)
    (hkind : w.cursor.kind.isScrollable = false)
    (hheld : w.cursor.buffer.resident ≤ w.cursor.size) :
    (w.fetch .next).2.cursor.buffer.resident ≤ (w.fetch .next).2.cursor.size := by
  have hkind' : (w.fetch .next).2.cursor.kind.isScrollable = false := by
    rw [(w.fetch_changes .next).sameFrame.1, hkind]
  have hforward' := ((Reachable.fetch w .next hreach).forward hkind').1
  cases hafter' : (w.fetch .next).2.cursor.afterLast with
  | false => exact hforward'.held hafter'
  | true =>
      rw [fetch_next] at hafter' ⊢
      split
      next => exact hheld
      next hafter =>
        rw [if_neg hafter] at hafter'
        rw [Bool.not_eq_true] at hafter
        obtain ⟨hforward, hrows⟩ := hreach.forward hkind
        have hstays : (w.cursor.dropBehind w.cursor.nextPosition).afterLast = false :=
          (Cursor.sameStanding_dropBehind _ _).2.2.2.2.1.trans hafter
        rcases w.fetchAt_cases w.cursor.nextPosition rfl with
          ⟨e, -, heq⟩ | ⟨-, hlt, heq⟩ | ⟨-, -, heq⟩
        · rw [heq] at hafter'
          exact absurd (hafter'.symm.trans hstays) Bool.noConfusion
        · rw [heq]
          rcases hforward.pulledNext_cases hkind hrows hafter with ⟨hle, -⟩ | ⟨-, hempty⟩
          · exact absurd hlt (Nat.not_lt.mpr hle)
          · change w.cursor.pulledNext.buffer.resident ≤ _
            rw [hempty]
            exact Nat.zero_le _
        · rw [heq, showRowset_placeRowset] at hafter'
          · cases hafter'
          · have hdropped :
                (w.cursor.dropBehind w.cursor.nextPosition).kind.isScrollable = false := by
              rw [(Cursor.sameStanding_dropBehind _ _).1, hkind]
            exact CursorKind.rereads_of_not_isScrollable hdropped

/-! ## Walks -/

/-- Fetching forwards, a cursor that only goes forwards returns what a static cursor returns. -/
theorem fetches_next_inPace {w v : Work σ} (h : InPace w.cursor v.cursor) (hlink : v.link = w.link)
    (hreach : Reachable w.cursor) (hreach' : Reachable v.cursor)
    (hheld : w.cursor.buffer.resident ≤ w.cursor.size) (n : Nat) :
    (w.fetches (List.replicate n .next)).1 = (v.fetches (List.replicate n .next)).1 ∧
      (w.fetches (List.replicate n .next)).2.link = (v.fetches (List.replicate n .next)).2.link ∧
      (w.fetches (List.replicate n .next)).2.cursor.buffer.resident ≤ w.cursor.size := by
  induction n generalizing w v with
  | zero => exact ⟨rfl, hlink.symm, hheld⟩
  | succ n ih =>
      have hkind : w.cursor.kind.isScrollable = false := by
        rw [h.kind]
        rfl
      obtain ⟨houtcome, hlink', hpace⟩ := fetch_next_inPace h hlink hreach hreach'
      obtain ⟨houtcomes, hlinks, hbound⟩ := ih hpace hlink' (.fetch w .next hreach)
        (.fetch v .next hreach') (held_fetch_next hreach hkind hheld)
      have hsize : (w.fetch .next).2.cursor.size = w.cursor.size := by
        rw [Cursor.size, (w.fetch_changes .next).sameFrame.2.2.1]
        rfl
      rw [List.replicate_succ]
      simp only [fetches]
      exact ⟨by rw [houtcome, houtcomes], hlinks, hsize ▸ hbound⟩

/-- A cursor of a kind is opened on a result. -/
def opening (w : Work σ) (kind : CursorKind) (dialect : Dialect) (options : StatementOptions)
    (result : ResultSet) : Work σ :=
  { w with cursor := .opened kind dialect { options with cursorKind := kind } result }

/-- Whatever the rows of a result, wherever the server fails to deliver one and whatever the options
are, fetching forwards shows the same rows with the same bookmarks, or the same errors, on a cursor
that only goes forwards as on a static one; and the first one never holds more than a rowset. -/
theorem fetches_next_forwardOnly (w : Work σ) (dialect : Dialect) (options : StatementOptions)
    (result : ResultSet) (n : Nat) :
    let forward := (w.opening .forwardOnly dialect options result).fetches (.replicate n .next)
    let static := (w.opening .static dialect options result).fetches (.replicate n .next)
    forward.1 = static.1 ∧ forward.2.link = static.2.link ∧
      forward.2.cursor.buffer.resident ≤ max options.rowArraySize 1 :=
  fetches_next_inPace (w := w.opening .forwardOnly dialect options result)
    (v := w.opening .static dialect options result) (.opened dialect options result) rfl
    (.opened _ _ _ _) (.opened _ _ _ _) (Nat.zero_le _) n

end Work

end ScrollCursor
