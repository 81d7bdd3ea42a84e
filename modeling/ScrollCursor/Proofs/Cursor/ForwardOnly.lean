import ScrollCursor.Proofs.Cursor.Fetching
import ScrollCursor.Proofs.Cursor.View

/-! # Cursors that only go forwards

Such a cursor holds the rows of its rowset and nothing else. Before it pulls the next rowset it
discards them, so a failure leaves it with part of the next rowset under the old position.
-/

namespace ScrollCursor

namespace RowBuffer

/-- The rows held are as they came and in the order of their positions. -/
structure InOrder (b : RowBuffer) : Prop where
  order : b.order = List.range b.resident
  status : ∀ slot ∈ b.slots, slot.status = .success

namespace InOrder

variable {b : RowBuffer}

/-- In order, the known rows are those before the base and those held. -/
theorem count_eq (h : b.InOrder) : b.count = b.base + b.resident := by
  rw [count, h.order, List.length_range]

/-- Rows that are pulled keep the order. -/
theorem appendAll (h : b.InOrder) (rows : List Record) : (b.appendAll rows).InOrder := by
  refine ⟨?_, fun slot hslot => ?_⟩
  · rw [order_appendAll, resident_appendAll, h.order, List.range_eq_range', List.range_eq_range']
    have happend : List.range' 0 b.resident ++ List.range' (0 + b.resident) rows.length = _ :=
      List.range'_append_1
    rwa [Nat.zero_add] at happend
  · rw [slots_appendAll] at hslot
    rcases List.mem_append.mp hslot with hslot | hslot
    · exact h.status slot hslot
    · obtain ⟨i, _, rfl⟩ := List.mem_mapIdx.mp hslot
      rfl

/-- With all rows dropped nothing is out of order. -/
theorem discardThrough (b : RowBuffer) (position : Nat) : (b.discardThrough position).InOrder :=
  ⟨rfl, by simp [RowBuffer.discardThrough]⟩

/-- In order, a position has the slot that many places after the base. -/
theorem slotAt?_eq (h : b.InOrder) {q : Nat} (hq : b.base < q ∧ q ≤ b.count) :
    b.slotAt? q = some (q - b.base - 1) := by
  have hindex : q - b.base - 1 < (List.range b.resident).length := by
    rw [List.length_range]
    have hknown := h.count_eq
    omega
  rw [slotAt?, if_neg (by omega), h.order, List.getElem?_eq_getElem hindex, List.getElem_range]

/-- The rowset from the first row held to the last one. -/
theorem slotsBetween_eq (h : b.InOrder) (last : Nat) (hlast : last = b.base + b.resident) :
    b.slotsBetween (b.base + 1) last = (List.range b.resident).map some := by
  have hcount : last + 1 - (b.base + 1) = b.resident := by omega
  have hknown := h.count_eq
  rw [slotsBetween, hcount]
  refine List.ext_getElem (by simp) fun i hi _ => ?_
  have hi' : i < b.resident := by simpa using hi
  have hindex : b.base + 1 + i - b.base - 1 = i := by omega
  rw [List.getElem_map, List.getElem_map, List.getElem_range', List.getElem_range,
    h.slotAt?_eq (by omega), Nat.one_mul, hindex]

end InOrder

end RowBuffer

namespace Pulled.TakesFrom

variable {demand : Demand} {stream : RowStream} {buffer : RowBuffer} {p : Pulled}
  {taken : List Record}

/-- A pull keeps the order. -/
theorem inOrder (h : TakesFrom demand stream buffer p taken) (hbuffer : buffer.InOrder) :
    p.buffer.InOrder := by
  have hpushed := hbuffer.appendAll taken
  rw [h.buffer_eq]
  exact ⟨hpushed.order, hpushed.status⟩

/-- A pull drops no row. -/
theorem base_eq (h : TakesFrom demand stream buffer p taken) : p.buffer.base = buffer.base := by
  rw [h.buffer_eq]
  exact RowBuffer.base_appendAll buffer taken

end Pulled.TakesFrom

namespace Cursor

/-- Where a cursor that only goes forwards can stand. -/
inductive Forward (c : Cursor) : Prop
  | beforeFirst (hafter : c.afterLast = false) (hstart : c.start = 0)
      (hbase : c.buffer.base = 0) (hheld : c.buffer.resident ≤ c.size) (hrowset : c.rowset = [])
  /-- The rowset is what the buffer holds. -/
  | placed (hafter : c.afterLast = false) (hstart : c.buffer.base + 1 = c.start)
      (hheld : 0 < c.buffer.resident ∧ c.buffer.resident ≤ c.size)
      (hwhole : c.buffer.resident = c.size ∨ c.buffer.exhausted = true)
      (hrowset : c.rowset = (List.range c.buffer.resident).map some)
  /-- A fetch failed: the buffer holds part of the rowset that comes next. -/
  | failed (hafter : c.afterLast = false) (hstart : 0 < c.start)
      (hbase : c.buffer.base + 1 = c.start + c.size) (hheld : c.buffer.resident < c.size)
      (hrowset : c.rowset = (List.range c.size).map some)
      (hbookmarks : c.bookmarks.live = [] ∧ c.bookmarks.retired = [])
  | afterLast (hafter : c.afterLast = true) (hrowset : c.rowset = [])

/-- The position that the next rowset would have. -/
def nextPosition (c : Cursor) : Nat :=
  if c.start = 0 then 1 else c.start + c.size

@[simp] theorem size_dropBehind (c : Cursor) (position : Nat) :
    (c.dropBehind position).size = c.size := by
  unfold dropBehind
  split <;> rfl

/-- Beyond the known rows all of them are dropped. -/
theorem dropBehind_of_count_lt {c : Cursor} {position : Nat} (hkind : c.kind.isScrollable = false)
    (h : c.buffer.count < position) :
    c.dropBehind position =
      { c with
        buffer := c.buffer.discardThrough c.buffer.count
        bookmarks := c.bookmarks.forgetAll } := by
  rw [dropBehind, hkind, if_pos (by simpa using h)]

/-- At a known position none is dropped. -/
theorem dropBehind_of_le_count {c : Cursor} {position : Nat} (h : position ≤ c.buffer.count) :
    c.dropBehind position = c := by
  rw [dropBehind, if_neg (by simp [Nat.not_lt.mpr h])]

theorem stream_dropBehind (c : Cursor) (position : Nat) :
    (c.dropBehind position).stream = c.stream := by
  unfold dropBehind
  split <;> rfl

@[simp] theorem exhausted_dropBehind (c : Cursor) (position : Nat) :
    (c.dropBehind position).buffer.exhausted = c.buffer.exhausted := by
  unfold dropBehind
  split <;> rfl

@[simp] theorem count_dropBehind (c : Cursor) (position : Nat) :
    (c.dropBehind position).buffer.count = c.buffer.count := by
  unfold dropBehind
  split
  · exact c.buffer.count_discardThrough
  · rfl

/-- Rows that are dropped leave the others in order. -/
theorem inOrder_dropBehind {c : Cursor} (hrows : c.buffer.InOrder) (position : Nat) :
    (c.dropBehind position).buffer.InOrder := by
  unfold dropBehind
  split
  · exact .discardThrough _ _
  · exact hrows

/-- Once it has let go of the rows behind, the cursor holds rows of the next rowset only, or knows
that there is none. -/
theorem Forward.dropBehind {c : Cursor} (h : Forward c) (hkind : c.kind.isScrollable = false)
    (hrows : c.buffer.InOrder) (hafter : c.afterLast = false) :
    ((c.dropBehind c.nextPosition).buffer.base + 1 = c.nextPosition ∧
        (c.dropBehind c.nextPosition).buffer.resident ≤ c.size) ∨
      ((c.dropBehind c.nextPosition).buffer.exhausted = true ∧
        (c.dropBehind c.nextPosition).buffer.count < c.nextPosition) := by
  have hknown := hrows.count_eq
  have hsize := c.size_pos
  by_cases hlt : c.buffer.count < c.nextPosition
  · have hdrop := dropBehind_of_count_lt hkind hlt
    have hbase : (c.dropBehind c.nextPosition).buffer.base = c.buffer.count := by
      rw [hdrop]
      exact Nat.max_eq_left (by omega)
    have hheld : (c.dropBehind c.nextPosition).buffer.resident = 0 := by
      rw [hdrop]
      rfl
    have hend : (c.dropBehind c.nextPosition).buffer.exhausted = c.buffer.exhausted := by
      rw [hdrop]
      rfl
    have hknown' := (inOrder_dropBehind hrows c.nextPosition).count_eq
    unfold nextPosition at *
    -- The buffer is empty and begins where the next rowset does, unless that is beyond the end.
    cases h with
    | beforeFirst _ hstart hb hr _ =>
        rw [if_pos hstart] at *
        exact Or.inl ⟨by omega, by omega⟩
    | placed _ hstart hr hwhole _ =>
        rw [if_neg (by omega)] at *
        rcases hwhole with hwhole | hwhole
        · exact Or.inl ⟨by omega, by omega⟩
        · exact Or.inr ⟨by rw [hend, hwhole], by omega⟩
    | failed _ hstart hb hr _ _ =>
        rw [if_neg (by omega)] at *
        exact Or.inl ⟨by omega, by omega⟩
    | afterLast ha _ =>
        rw [ha] at hafter
        cases hafter
  · -- The first row of the next rowset is held already, which a rowset in place excludes.
    rw [dropBehind_of_le_count (Nat.not_lt.mp hlt)]
    unfold nextPosition at *
    cases h with
    | beforeFirst _ hstart hb hr _ =>
        rw [if_pos hstart] at *
        exact Or.inl ⟨by omega, hr⟩
    | placed _ hstart hr _ _ =>
        rw [if_neg (by omega)] at hlt
        omega
    | failed _ hstart hb hr _ _ =>
        rw [if_neg (by omega)] at *
        exact Or.inl ⟨hb, by omega⟩
    | afterLast ha _ =>
        rw [ha] at hafter
        cases hafter

/-- What a pull of the rows of the next rowset leads to. -/
def pulledNext (c : Cursor) : Pulled :=
  let d := c.dropBehind c.nextPosition
  Pulled.run d.options.maxRows (.upTo (c.nextPosition + d.size - 1)) d.stream d.buffer 0

/-- The next rowset takes rows from the result, up to where it ends. -/
theorem exists_taken (c : Cursor) :
    ∃ taken, Pulled.TakesFrom (.upTo (c.nextPosition + c.size - 1))
      (c.dropBehind c.nextPosition).stream (c.dropBehind c.nextPosition).buffer c.pulledNext
      taken := by
  rw [← c.size_dropBehind c.nextPosition]
  exact Pulled.run_takesFrom _ _ _ _ _

/-- Where the end of the result is known no pull can fail. -/
theorem exhausted_of_failure {c : Cursor} (h : c.pulledNext.failure.isSome = true) :
    c.buffer.exhausted = false := by
  have hsame := c.exhausted_dropBehind c.nextPosition
  cases hend : c.buffer.exhausted with
  | false => rfl
  | true =>
      rw [pulledNext, Pulled.run_of_exhausted _ _ (hsame.trans hend)] at h
      cases h

/-- A pull that fails happens before the rows behind are known to be the last ones. -/
theorem Forward.base_of_failure {c : Cursor} (h : Forward c)
    (hkind : c.kind.isScrollable = false) (hrows : c.buffer.InOrder) (hafter : c.afterLast = false)
    (hfailure : c.pulledNext.failure.isSome = true) :
    (c.dropBehind c.nextPosition).buffer.base + 1 = c.nextPosition ∧
      (c.dropBehind c.nextPosition).buffer.resident ≤ c.size ∧
      c.pulledNext.buffer.base + 1 = c.nextPosition ∧
      c.pulledNext.buffer.resident < c.size := by
  obtain ⟨taken, htaken⟩ := c.exists_taken
  have hmore := (htaken.failed hfailure).2
  have hknown := (htaken.inOrder (inOrder_dropBehind hrows _)).count_eq
  have hbase := htaken.base_eq
  rcases h.dropBehind hkind hrows hafter with ⟨hstart, hheld⟩ | ⟨hend, -⟩
  · simp only [Demand.exceeds, decide_eq_true_eq] at hmore
    exact ⟨hstart, hheld, by omega, by omega⟩
  · rw [pulledNext, Pulled.run_of_exhausted _ _ hend] at hfailure
    cases hfailure

/-- A failed pull leaves a whole rowset in place, over part of the next one. -/
theorem Forward.failed_of_pull {c : Cursor} (hafter : c.afterLast = false) (hstart : 0 < c.start)
    (hbase : c.pulledNext.buffer.base + 1 = c.nextPosition)
    (hheld : c.pulledNext.buffer.resident < c.size)
    (hrowset : c.rowset = (List.range c.size).map some)
    (hbookmarks : (c.dropBehind c.nextPosition).bookmarks.live = [] ∧
      (c.dropBehind c.nextPosition).bookmarks.retired = []) :
    Forward { c.dropBehind c.nextPosition with
      stream := c.pulledNext.stream, buffer := c.pulledNext.buffer } := by
  obtain ⟨-, -, -, hstart', hafter', hrowset', -, -⟩ := sameStanding_dropBehind c c.nextPosition
  have hsize := c.size_dropBehind c.nextPosition
  have hnext : c.nextPosition = c.start + c.size := if_neg (Nat.ne_of_gt hstart)
  apply Forward.failed
  · exact hafter'.trans hafter
  · change 0 < (c.dropBehind c.nextPosition).start
    omega
  · change c.pulledNext.buffer.base + 1 =
      (c.dropBehind c.nextPosition).start + (c.dropBehind c.nextPosition).size
    omega
  · change c.pulledNext.buffer.resident < (c.dropBehind c.nextPosition).size
    omega
  · change (c.dropBehind c.nextPosition).rowset =
      (List.range (c.dropBehind c.nextPosition).size).map some
    rw [hrowset', hsize, hrowset]
  · exact hbookmarks

/-- A cursor that only goes forwards can stand where a failed pull leaves it. -/
theorem Forward.failure {c : Cursor} (h : Forward c) (hkind : c.kind.isScrollable = false)
    (hrows : c.buffer.InOrder) (hafter : c.afterLast = false)
    (hfailure : c.pulledNext.failure.isSome = true) :
    Forward { c.dropBehind c.nextPosition with
      stream := c.pulledNext.stream, buffer := c.pulledNext.buffer } := by
  obtain ⟨hbase, hheld, hbase', hheld'⟩ := h.base_of_failure hkind hrows hafter hfailure
  cases h with
  | beforeFirst ha hs hb hr hrow =>
      obtain ⟨-, -, -, hstart, hafter', hrowset, -, -⟩ := sameStanding_dropBehind c c.nextPosition
      have hsize := c.size_dropBehind c.nextPosition
      have hnext : c.nextPosition = 1 := if_pos hs
      apply Forward.beforeFirst
      · exact hafter'.trans ha
      · exact hstart.trans hs
      · change c.pulledNext.buffer.base = 0
        omega
      · change c.pulledNext.buffer.resident ≤ (c.dropBehind c.nextPosition).size
        omega
      · exact hrowset.trans hrow
  | placed ha hs hr hwhole hrow =>
      -- Only the last rowset of a result can be short, and after that no pull fails.
      have hsame : c.buffer.resident = c.size :=
        hwhole.resolve_right (by simp [exhausted_of_failure hfailure])
      have hnext : c.nextPosition = c.start + c.size := if_neg (by omega)
      have hknown := hrows.count_eq
      have hdrop := dropBehind_of_count_lt hkind (show c.buffer.count < c.nextPosition by omega)
      refine .failed_of_pull ha (by omega) hbase' hheld' (hsame ▸ hrow) ?_
      rw [hdrop]
      exact ⟨rfl, rfl⟩
  | failed ha hs hb hr hrow hbookmarks =>
      refine .failed_of_pull ha hs hbase' hheld' hrow ?_
      unfold Cursor.dropBehind
      split
      · exact ⟨rfl, rfl⟩
      · exact hbookmarks
  | afterLast ha _ =>
      rw [ha] at hafter
      cases hafter

/-- The next rowset, once its rows are pulled. -/
theorem Forward.place {c : Cursor} (h : Forward c) (hkind : c.kind.isScrollable = false)
    (hrows : c.buffer.InOrder) (hafter : c.afterLast = false)
    (hfailure : c.pulledNext.failure = none)
    (hknown : c.nextPosition ≤ c.pulledNext.buffer.count) :
    Forward ({ c.dropBehind c.nextPosition with
      stream := c.pulledNext.stream, buffer := c.pulledNext.buffer }.placeRowset
        c.nextPosition).syncStatuses := by
  obtain ⟨taken, htaken⟩ := c.exists_taken
  have hrows' := htaken.inOrder (inOrder_dropBehind hrows _)
  have hknown' := hrows'.count_eq
  have hbase := htaken.base_eq
  have hend := htaken.ended hfailure
  have hbound := htaken.count_le _ rfl
  have hdropped := (inOrder_dropBehind hrows c.nextPosition).count_eq
  have hsize := c.size_dropBehind c.nextPosition
  rcases h.dropBehind hkind hrows hafter with ⟨hstart, hheld⟩ | ⟨hend', hlt⟩
  · -- The next rowset is all that the buffer holds.
    have hwindow : c.pulledNext.buffer.slotsBetween c.nextPosition
        (min (c.nextPosition + c.size - 1) c.pulledNext.buffer.count) =
          (List.range c.pulledNext.buffer.resident).map some := by
      have hfirst : c.nextPosition = c.pulledNext.buffer.base + 1 := by omega
      rw [hfirst]
      exact hrows'.slotsBetween_eq _ (by omega)
    refine .placed rfl ?_ ⟨?_, ?_⟩ ?_ ?_
    · change c.pulledNext.buffer.base + 1 = c.nextPosition
      omega
    · change 0 < c.pulledNext.buffer.resident
      omega
    · change c.pulledNext.buffer.resident ≤ (c.dropBehind c.nextPosition).size
      omega
    · change c.pulledNext.buffer.resident = (c.dropBehind c.nextPosition).size ∨
        c.pulledNext.buffer.exhausted = true
      rcases hend with hend | hend
      · exact Or.inr hend
      · simp only [Demand.exceeds, decide_eq_false_iff_not, Nat.not_lt] at hend
        exact Or.inl (by omega)
    · change c.pulledNext.buffer.slotsBetween c.nextPosition
        (min (c.nextPosition + (c.dropBehind c.nextPosition).size - 1) c.pulledNext.buffer.count) =
          (List.range c.pulledNext.buffer.resident).map some
      rw [hsize]
      exact hwindow
  · rw [pulledNext, Pulled.run_of_exhausted _ _ hend'] at hknown
    exact absurd hknown (Nat.not_le.mpr hlt)

end Cursor

namespace Work

open Cursor (Forward)

variable {σ : Type} {w : Work σ}

/-- The next rowset is at the next position, unless there are no more rows. -/
theorem fetch_next (w : Work σ) :
    w.fetch .next =
      if w.cursor.afterLast = true then w.fetchAfterLast
      else w.fetchAt w.cursor.nextPosition := by
  have hnext : (!w.cursor.kind.isScrollable && Orientation.next != .next) = false := by simp
  rw [fetch, hnext, if_neg Bool.false_ne_true]
  simp only [Cursor.move, fetchMove, Move.countsFromEnd, Bool.false_eq_true, if_false, Move.target,
    Cursor.nextPosition]
  by_cases hafter : w.cursor.afterLast = true
  · simp only [hafter, if_true]
  · by_cases hstart : w.cursor.start = 0
    · rw [if_neg hafter, if_pos hstart, if_neg hafter, if_pos hstart]
    · rw [if_neg hafter, if_neg hstart, if_neg hafter, if_neg hstart]

/-- A fetch of a forward-only cursor leaves it going forward. -/
theorem forward_fetch (hkind : w.cursor.kind.isScrollable = false)
    (hrows : w.cursor.buffer.InOrder) (h : Forward w.cursor) (orientation : Orientation) :
    Forward (w.fetch orientation).2.cursor ∧
      (w.fetch orientation).2.cursor.buffer.InOrder := by
  by_cases hnext : orientation = .next
  · subst hnext
    rw [fetch_next]
    split
    next hafter => exact ⟨.afterLast rfl rfl, hrows⟩
    next hafter =>
      rw [Bool.not_eq_true] at hafter
      obtain ⟨taken, htaken⟩ := w.cursor.exists_taken
      have hrows' := htaken.inOrder (Cursor.inOrder_dropBehind hrows _)
      rcases w.fetchAt_cases w.cursor.nextPosition rfl with
        ⟨e, hfailure, heq⟩ | ⟨-, -, heq⟩ | ⟨hfailure, hknown, heq⟩
      · rw [heq]
        have hsome : w.cursor.pulledNext.failure.isSome = true := by
          rw [Option.isSome_iff_exists]
          exact ⟨e, hfailure⟩
        exact ⟨h.failure hkind hrows hafter hsome, hrows'⟩
      · rw [heq]
        exact ⟨.afterLast rfl rfl, hrows'⟩
      · have hkind' : (w.cursor.dropBehind w.cursor.nextPosition).kind = w.cursor.kind :=
          (Cursor.sameStanding_dropBehind _ _).1
        rw [heq, showRowset_of_not_rereads
          (CursorKind.rereads_of_not_isScrollable (hkind' ▸ hkind))]
        exact ⟨h.place hkind hrows hafter hfailure hknown, hrows'⟩
  · rw [fetch_of_ne_next hkind hnext]
    exact ⟨h, hrows⟩

end Work

namespace Cursor

/-- What such a cursor is told about its current row and its key moves it nowhere. -/
theorem Forward.congr {c d : Cursor} (h : Forward c) (hafter : d.afterLast = c.afterLast)
    (hstart : d.start = c.start) (hbuffer : d.buffer = c.buffer) (hsize : d.size = c.size)
    (hrowset : d.rowset = c.rowset) (hbookmarks : d.bookmarks = c.bookmarks) : Forward d := by
  cases h with
  | beforeFirst ha hs hb hr hrow =>
      rw [← hafter, ← hstart, ← hbuffer, ← hsize, ← hrowset] at *
      exact .beforeFirst ha hs hb hr hrow
  | placed ha hs hr hw hrow =>
      rw [← hafter, ← hstart, ← hbuffer, ← hsize, ← hrowset] at *
      exact .placed ha hs hr hw hrow
  | failed ha hs hb hr hrow hlost =>
      rw [← hafter, ← hstart, ← hbuffer, ← hsize, ← hrowset, ← hbookmarks] at *
      exact .failed ha hs hb hr hrow hlost
  | afterLast ha hrow => exact .afterLast (hafter.trans ha) (hrowset.trans hrow)

/-- Of the positioned operations only making a row the current one is open to such a cursor. -/
theorem eq_position_of_validate {c : Cursor} {row : Nat} {operation : RowOperation}
    {lock : LockType} (hkind : c.kind.isScrollable = false)
    (h : c.validate row operation lock = .ok ()) : operation = .position := by
  unfold validate at h
  split at h
  · cases h
  · split at h
    · cases h
    next hposition => simpa [hkind] using hposition

/-- Every reachable forward-only cursor goes forward, with its rows in order. -/
theorem Reachable.forward {c : Cursor} (h : Reachable c) (hkind : c.kind.isScrollable = false) :
    Forward c ∧ c.buffer.InOrder := by
  induction h with
  | opened kind dialect options result =>
      exact ⟨.beforeFirst rfl rfl rfl (Nat.zero_le _) rfl, rfl, by simp [Cursor.opened]⟩
  | fetch w orientation _ ih =>
      have hframe : (w.fetch orientation).2.cursor.kind = w.cursor.kind :=
        (w.fetch_changes orientation).sameFrame.1
      rw [hframe] at hkind
      obtain ⟨hforward, hrows⟩ := ih hkind
      exact Work.forward_fetch hkind hrows hforward orientation
  | setPosition w row operation lock supplied _ hvalid ih =>
      have hframe : (w.setPosition row operation supplied).2.cursor.kind = w.cursor.kind :=
        (w.setPosition_changes row operation supplied).sameFrame.1
      rw [hframe] at hkind
      obtain ⟨hforward, hrows⟩ := ih hkind
      -- No operation that touches the buffer is open to such a cursor.
      have hposition := eq_position_of_validate hkind hvalid
      subst hposition
      exact ⟨hforward.congr rfl rfl rfl rfl rfl rfl, hrows⟩
  | bulk w operation supplied _ ih =>
      have hframe : (w.bulk operation supplied).2.cursor.kind = w.cursor.kind :=
        (w.bulk_changes operation supplied).sameFrame.1
      rw [hframe] at hkind
      have hrefused : (w.bulk operation supplied).2 = w := by
        simp [Work.bulk, validateBulk, hkind]
      rw [hrefused]
      exact ih hkind
  | keySet w _ ih =>
      have hframe : w.keySet.2.cursor.kind = w.cursor.kind := w.keySet_changes.sameFrame.1
      rw [hframe] at hkind
      obtain ⟨hforward, hrows⟩ := ih hkind
      unfold Work.keySet
      split
      · exact ⟨hforward, hrows⟩
      · exact ⟨hforward.congr rfl rfl rfl rfl rfl rfl, hrows⟩

end Cursor

end ScrollCursor
