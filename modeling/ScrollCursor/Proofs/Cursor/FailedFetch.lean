import ScrollCursor.MemoryServer
import ScrollCursor.Proofs.Cursor.ForwardOnly
import ScrollCursor.Proofs.Cursor.View

/-! # Fetches that fail

A fetch fails when a row cannot be delivered. Position, current row and statuses are then as
before. A cursor that can scroll has only added rows to its buffer, behind those that it shows.
A cursor that only goes forwards has already let go of the rows of its rowset, so the rowset now
shows whatever was delivered before the failure.
-/

namespace ScrollCursor

namespace Work

open Cursor (Pulls SameStanding)

variable {σ : Type} {w after : Work σ} {e : Error}

/-! ## How a fetch fails -/

theorem showRowset_ne_error (w : Work σ) : w.showRowset.1 ≠ .error e := by
  intro h
  cases h

/-- A fetch to a position fails while it pulls rows. -/
theorem fetchAt_error {position : Nat} (h : w.fetchAt position = (.error e, after)) :
    (w.onCursor (Cursor.dropBehind · position)).pull
      (.upTo (position + (w.cursor.dropBehind position).size - 1)) = (some e, after) := by
  unfold fetchAt at h
  dsimp only at h
  split at h
  next hpull =>
    cases h
    exact hpull
  next =>
    split at h
    · cases h
    · have hfirst := congrArg Prod.fst h
      exact absurd hfirst (showRowset_ne_error _)

/-- Once the rows have been counted no pull can fail. -/
theorem exhausted_of_counted (h : (w.pull .everything).1 = none) :
    (w.pull .everything).2.cursor.buffer.exhausted = true := by
  obtain ⟨taken, htaken⟩ := Pulled.run_takesFrom w.cursor.options.maxRows .everything
    w.cursor.stream w.cursor.buffer 0
  exact (htaken.ended h).resolve_right nofun

/-- A move fails while the rows are counted, or at the position where it leads from the place that
the cursor has. -/
theorem fetchMove_error_cases {move : Move} (h : w.fetchMove move = (.error e, after)) :
    (move.countsFromEnd w.cursor.afterLast = true ∧ w.pull .everything = (some e, after)) ∨
      ∃ position, move.countsFromEnd w.cursor.afterLast = false ∧ w.aim move = .row position ∧
        w.fetchAt position = (.error e, after) := by
  have hcounted : w.counted move = if move.countsFromEnd w.cursor.afterLast = true
      then w.pull .everything else (none, w) := rfl
  rcases w.fetchMove_cases move with ⟨e', hfailed, heq⟩ | ⟨hok, heq⟩
  · obtain ⟨⟨⟩, rfl⟩ := Prod.mk.inj (heq.symm.trans h)
    split at hcounted
    next hcounts => exact Or.inl ⟨hcounts, hcounted.symm.trans (Prod.ext hfailed rfl)⟩
    next =>
      rw [hcounted] at hfailed
      cases hfailed
  · rw [heq] at h
    cases haim : (w.counted move).2.aim move with
    | beforeFirst | afterLast =>
        rw [haim] at h
        cases h
    | row position =>
        rw [haim] at h
        split at hcounted
        next hcounts =>
          rw [hcounted] at hok h
          have hpull := fetchAt_error h
          have hend : ((w.pull .everything).2.onCursor
              (Cursor.dropBehind · position)).cursor.buffer.exhausted = true :=
            (Cursor.exhausted_dropBehind _ _).trans (exhausted_of_counted hok)
          rw [pull_of_exhausted hend] at hpull
          cases hpull
        next hcounts =>
          rw [hcounted] at haim h
          exact Or.inr ⟨position, Bool.eq_false_iff.mpr hcounts, haim, h⟩

/-- A fetch that fails has been refused, or has met a failure on its way. -/
theorem fetch_error_cases {orientation : Orientation}
    (h : w.fetch orientation = (.error e, after)) :
    after = w ∨ ∃ move, w.cursor.move orientation = .ok move ∧
      w.fetchMove move = (.error e, after) := by
  rcases w.fetch_cases orientation with ⟨e', hrefused⟩ | ⟨move, hmove, heq⟩
  · exact Or.inl (Prod.mk.inj (h.symm.trans hrefused)).2
  · exact Or.inr ⟨move, hmove, heq.symm.trans h⟩

theorem pull_pulls_of_eq {demand : Demand} {failure : Option Error}
    (h : w.pull demand = (failure, after)) : Pulls w.cursor after.cursor := by
  have hpulls := w.pull_pulls demand
  rw [h] at hpulls
  exact hpulls

/-- A cursor that can scroll only pulls rows before it fails. -/
theorem fetch_error_pulls {orientation : Orientation} (hkind : w.cursor.kind.isScrollable = true)
    (h : w.fetch orientation = (.error e, after)) : Pulls w.cursor after.cursor := by
  rcases fetch_error_cases h with rfl | ⟨move, -, hfailed⟩
  · exact .refl
  · rcases fetchMove_error_cases hfailed with ⟨-, hpull⟩ | ⟨position, -, -, hat⟩
    · exact pull_pulls_of_eq hpull
    · have hpull := pull_pulls_of_eq (fetchAt_error hat)
      dsimp only [onCursor] at hpull
      rwa [Cursor.dropBehind_of_isScrollable hkind] at hpull

end Work

namespace Cursor

/-- A row of such a rowset can be seen if the buffer holds it. -/
theorem isSome_row?_iff {c : Cursor} {rows row : Nat} (hrows : c.buffer.InOrder)
    (hrowset : c.rowset = (List.range rows).map some) (hrow : 0 < row ∧ row ≤ rows) :
    (c.row? row).isSome = true ↔ row ≤ c.buffer.resident := by
  have hne : row ≠ 0 := by omega
  have hlt : row - 1 < rows := by omega
  have hslotOf : c.slotOf? row = some (row - 1) := by
    simp [slotOf?, hne, hrowset, hlt]
  unfold row?
  rw [hslotOf]
  by_cases hheld : row ≤ c.buffer.resident
  · have hindex : row - 1 < c.buffer.slots.length := by
      have := hheld
      unfold RowBuffer.resident at this
      omega
    have hslot : c.buffer.slot? (row - 1) = some c.buffer.slots[row - 1] :=
      List.getElem?_eq_getElem hindex
    have hstatus := hrows.status _ (List.getElem_mem hindex)
    have hlive : c.buffer.slots[row - 1].isDeleted = false := by
      rw [RowSlot.isDeleted, hstatus]
      rfl
    simp [hslot, hlive, hheld]
  · have hslot : c.buffer.slot? (row - 1) = none := by
      refine List.getElem?_eq_none ?_
      unfold RowBuffer.resident at hheld
      omega
    simp [hslot, hheld]

/-- The cursor that a failed fetch of the next rowset leaves behind. -/
def afterFailure (c : Cursor) : Cursor :=
  { c.dropBehind c.nextPosition with
    stream := c.pulledNext.stream, buffer := c.pulledNext.buffer }

theorem sameStanding_afterFailure (c : Cursor) : SameStanding c c.afterFailure := by
  have h := sameStanding_dropBehind c c.nextPosition
  simpa only [SameStanding, afterFailure] using h

/-- What is held of the next rowset is kept until there is more of it. -/
theorem slots_dropBehind_of_failed {c : Cursor}
    (hbase : c.buffer.base + 1 = c.nextPosition) (hrows : c.buffer.InOrder) :
    (c.dropBehind c.nextPosition).buffer.slots = c.buffer.slots := by
  have hknown := hrows.count_eq
  unfold dropBehind
  split
  next h =>
    have hempty : c.buffer.slots.length = 0 := by
      simp only [Bool.and_eq_true, decide_eq_true_eq] at h
      unfold RowBuffer.resident at hknown
      omega
    exact (List.eq_nil_of_length_eq_zero hempty).symm
  next => rfl

theorem isSome_row?_of_view_eq {c d : Cursor} (h : d.view = c.view) (row : Nat) :
    (d.row? row).isSome = true ↔ (c.row? row).isSome = true := by
  have hrow := congrFun (congrArg View.row h) row
  change d.row? row = c.row? row at hrow
  rw [hrow]

/-- The last row of a rowset that was placed can be seen no more. -/
theorem view_afterFailure_ne {c : Cursor} (hrows : c.buffer.InOrder)
    (hheld : 0 < c.buffer.resident) (hrowset : c.rowset = (List.range c.buffer.resident).map some)
    (hless : c.afterFailure.buffer.resident < c.buffer.resident)
    (hrows' : c.afterFailure.buffer.InOrder) : c.afterFailure.view ≠ c.view := by
  intro hview
  have hrowset' : c.afterFailure.rowset = _ :=
    c.sameStanding_afterFailure.2.2.2.2.2.1.trans hrowset
  have hbefore := (isSome_row?_iff hrows hrowset ⟨hheld, Nat.le_refl _⟩).mpr (Nat.le_refl _)
  have hafter := (isSome_row?_of_view_eq hview _).mpr hbefore
  have hle := (isSome_row?_iff hrows' hrowset' ⟨hheld, Nat.le_refl _⟩).mp hafter
  omega

/-- After one failure another one shows as many rows more as are delivered before it. -/
theorem view_afterFailure_iff_of_failed {c : Cursor} (hrows : c.buffer.InOrder)
    (hfailure : c.pulledNext.failure.isSome = true) (hbase : c.buffer.base + 1 = c.nextPosition)
    (hheld : c.afterFailure.buffer.resident < c.size)
    (hrowset : c.rowset = (List.range c.size).map some)
    (hbookmarks : c.bookmarks.live = []) :
    c.afterFailure.view = c.view ↔ ∃ e rest, c.stream = .error e :: rest := by
  obtain ⟨taken, htaken⟩ := c.exists_taken
  obtain ⟨e, he⟩ := Option.isSome_iff_exists.mp hfailure
  have hstanding := c.sameStanding_afterFailure
  have hrowset' : c.afterFailure.rowset = _ := hstanding.2.2.2.2.2.1.trans hrowset
  have hrows' : c.afterFailure.buffer.InOrder := htaken.inOrder (inOrder_dropBehind hrows _)
  have hslots := slots_dropBehind_of_failed hbase hrows
  have hcount : c.afterFailure.buffer.resident = c.buffer.resident + taken.length := by
    change c.pulledNext.buffer.resident = _
    rw [htaken.resident_eq, RowBuffer.resident, hslots]
    rfl
  have hstream := htaken.stream_eq
  rw [stream_dropBehind, he] at hstream
  constructor
  · intro hview
    -- Had a row been delivered, it would show where none was.
    have hnone : taken.length = 0 := by
      rcases Nat.eq_zero_or_pos taken.length with hzero | hsome
      · exact hzero
      · have hrange : 0 < c.buffer.resident + 1 ∧ c.buffer.resident + 1 ≤ c.size := by omega
        have hafter := (isSome_row?_iff hrows' hrowset' hrange).mpr (by omega)
        have hbefore := (isSome_row?_of_view_eq hview _).mp hafter
        have hle := (isSome_row?_iff hrows hrowset hrange).mp hbefore
        omega
    rw [List.eq_nil_of_length_eq_zero hnone] at hstream
    exact ⟨e, _, hstream⟩
  · rintro ⟨e', rest, hhead⟩
    have htaken' : taken = [] := by
      cases taken with
      | nil => rfl
      | cons row rows =>
          rw [hhead] at hstream
          cases hstream
    refine view_eq hstanding (fun id _ => ?_) fun id _ => ?_
    · have hlive : (c.dropBehind c.nextPosition).bookmarks.live = [] := by
        unfold dropBehind
        split
        · rfl
        · exact hbookmarks
      change (c.dropBehind c.nextPosition).bookmarks.ofSlot? id = _
      rw [Bookmarks.ofSlot?, Bookmarks.ofSlot?, hlive, hbookmarks]
    · have hbuffer := htaken.buffer_eq
      rw [htaken', RowBuffer.appendAll_nil] at hbuffer
      change c.pulledNext.buffer.slot? id = _
      rw [hbuffer, RowBuffer.slot?, RowBuffer.slot?]
      change (c.dropBehind c.nextPosition).buffer.slots[id]? = _
      rw [hslots]

theorem view_afterFailure_iff {c : Cursor} (h : Forward c) (hkind : c.kind.isScrollable = false)
    (hrows : c.buffer.InOrder) (hafter : c.afterLast = false)
    (hfailure : c.pulledNext.failure.isSome = true) :
    c.afterFailure.view = c.view ↔
      c.rowset = [] ∨ c.buffer.resident < c.rowset.length ∧
        ∃ e rest, c.stream = .error e :: rest := by
  obtain ⟨taken, htaken⟩ := c.exists_taken
  obtain ⟨-, -, -, hless⟩ := h.base_of_failure hkind hrows hafter hfailure
  have hrows' : c.afterFailure.buffer.InOrder := htaken.inOrder (inOrder_dropBehind hrows _)
  cases h with
  | beforeFirst _ _ _ _ hrow =>
      refine iff_of_true (view_eq c.sameStanding_afterFailure ?_ ?_) (Or.inl hrow)
      all_goals simp [hrow]
  | placed _ _ hheld hwhole hrow =>
      -- A whole rowset was shown, and the failed pull has brought less than a whole one.
      have hsame : c.buffer.resident = c.size :=
        hwhole.resolve_right (by simp [exhausted_of_failure hfailure])
      have hne := view_afterFailure_ne hrows hheld.1 hrow (hsame ▸ hless) hrows'
      have hlength : c.rowset.length = c.buffer.resident := by simp [hrow]
      refine iff_of_false hne ?_
      rintro (hnil | ⟨hlt, -⟩)
      · rw [hnil] at hlength
        simp only [List.length_nil] at hlength
        omega
      · omega
  | failed _ hstart hbase hheld hrow hbookmarks =>
      have hnext : c.buffer.base + 1 = c.nextPosition := by
        rw [nextPosition, if_neg (by omega)]
        exact hbase
      have hlength : c.rowset.length = c.size := by simp [hrow]
      rw [view_afterFailure_iff_of_failed hrows hfailure hnext hless hrow hbookmarks.1]
      constructor
      · intro hhead
        exact Or.inr ⟨by omega, hhead⟩
      · rintro (hnil | ⟨-, hhead⟩)
        · rw [hnil] at hlength
          simp only [List.length_nil] at hlength
          omega
        · exact hhead
  | afterLast ha _ =>
      rw [ha] at hafter
      cases hafter

end Cursor

namespace Work

open Cursor (Reachable)

variable {σ : Type} {w after : Work σ} {e : Error}

/-- A cursor that only goes forwards fails while it pulls the rows of the next rowset. -/
theorem fetch_error_forward {orientation : Orientation}
    (hkind : w.cursor.kind.isScrollable = false)
    (h : w.fetch orientation = (.error e, after)) :
    (orientation ≠ .next ∧ after = w) ∨
      (orientation = .next ∧ w.cursor.afterLast = false ∧
        w.cursor.pulledNext.failure.isSome = true ∧ after.cursor = w.cursor.afterFailure) := by
  by_cases hnext : orientation = .next
  · subst hnext
    rw [fetch_next] at h
    split at h
    · cases h
    next hafter =>
      rw [Bool.not_eq_true] at hafter
      have hpull := fetchAt_error h
      have hfailure := congrArg Prod.fst hpull
      have hcursor := congrArg (fun r => r.2.cursor) hpull
      have hsome : w.cursor.pulledNext.failure.isSome = true := by
        rw [Option.isSome_iff_exists]
        exact ⟨e, hfailure⟩
      exact Or.inr ⟨rfl, hafter, hsome, hcursor.symm⟩
  · rw [fetch_of_ne_next hkind hnext] at h
    cases h
    exact Or.inl ⟨hnext, rfl⟩

/-- After a fetch that failed the cursor stands where it stood. All that is seen of it is as
before, exactly if it can scroll, if it refused the orientation, if it had no rowset, or if the
failure follows another one with no row between them. -/
theorem view_of_fetch_error {orientation : Orientation} (hreach : Reachable w.cursor)
    (h : w.fetch orientation = (.error e, after)) :
    (after.cursor.position = w.cursor.position ∧
        after.cursor.afterLast = w.cursor.afterLast ∧
        after.cursor.current = w.cursor.current ∧
        after.cursor.paddedStatuses = w.cursor.paddedStatuses) ∧
      (after.cursor.view = w.cursor.view ↔
        w.cursor.kind.isScrollable = true ∨ orientation ≠ .next ∨ w.cursor.rowset = [] ∨
          w.cursor.buffer.resident < w.cursor.rowset.length ∧
            ∃ e rest, w.cursor.stream = .error e :: rest) := by
  have hstands {d : Cursor} (h : Cursor.SameStanding w.cursor d) :
      d.position = w.cursor.position ∧ d.afterLast = w.cursor.afterLast ∧
        d.current = w.cursor.current ∧ d.paddedStatuses = w.cursor.paddedStatuses := by
    obtain ⟨-, hoptions, -, hstart, hafter, -, hstatuses, hcurrent⟩ := h
    simp [Cursor.position, Cursor.paddedStatuses, Cursor.size, hoptions, hstart, hafter, hstatuses,
      hcurrent]
  cases hkind : w.cursor.kind.isScrollable with
  | true =>
      have hpulls := fetch_error_pulls hkind h
      exact ⟨hstands hpulls.sameStanding,
        iff_of_true (hpulls.view_eq (hreach.resident hkind) hkind) (Or.inl rfl)⟩
  | false =>
      obtain ⟨hforward, hrows⟩ := hreach.forward hkind
      rcases fetch_error_forward hkind h with ⟨hne, rfl⟩ | ⟨rfl, hafter, hfailure, hcursor⟩
      · exact ⟨⟨rfl, rfl, rfl, rfl⟩, iff_of_true rfl (Or.inr (Or.inl hne))⟩
      · rw [hcursor]
        refine ⟨hstands w.cursor.sameStanding_afterFailure, ?_⟩
        rw [Cursor.view_afterFailure_iff hforward hkind hrows hafter hfailure]
        simp

/-- A cursor on four rows of which the last cannot be delivered at first, two rows to a rowset. -/
def interrupted (kind : CursorKind) : Work MemoryServer where
  cursor := .opened kind {} { rowArraySize := 2, useBookmarks := true }
    ⟨[], [.ok [.integer 1], .ok [.integer 2], .ok [.integer 3], .error MemoryServer.lostConnection,
      .ok [.integer 4]]⟩
  bindings := {}
  diagnostics := []
  link := ⟨MemoryServer.server, {}, []⟩

theorem view_of_fetch_error_static :
    (((interrupted .static).fetch .next).2.fetch .next).1 =
        .error MemoryServer.lostConnection ∧
      (((interrupted .static).fetch .next).2.fetch .next).2.cursor.view =
        ((interrupted .static).fetch .next).2.cursor.view := by
  have hfails : ((interrupted .static).fetch .next).2.fetch .next =
      (.error MemoryServer.lostConnection,
        (((interrupted .static).fetch .next).2.fetch .next).2) := rfl
  have hreach : ((interrupted .static).fetch .next).2.cursor.Reachable :=
    .fetch _ _ (.opened _ _ _ _)
  exact ⟨rfl, (view_of_fetch_error hreach hfails).2.mpr (Or.inl rfl)⟩

/-- A cursor that only goes forwards shows the third row in place of the first, and nothing in
place of the second. -/
theorem view_of_fetch_error_forwardOnly :
    ((interrupted .forwardOnly).fetch .next).2.cursor.Reachable ∧
      (((interrupted .forwardOnly).fetch .next).2.fetch .next).1 =
        .error MemoryServer.lostConnection ∧
      (((interrupted .forwardOnly).fetch .next).2.fetch .next).2.cursor.view ≠
        ((interrupted .forwardOnly).fetch .next).2.cursor.view := by
  refine ⟨.fetch _ _ (.opened _ _ _ _), rfl, fun hview => ?_⟩
  have hrow : (none : Option Row) = some ⟨[], [.integer 2]⟩ :=
    congrFun (congrArg Cursor.View.row hview) 2
  cases hrow

end Work

end ScrollCursor
