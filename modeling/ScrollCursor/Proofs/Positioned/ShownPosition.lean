import ScrollCursor.Proofs.Cursor.FailedFetch
import ScrollCursor.Proofs.Cursor.StaticFetch
import ScrollCursor.Proofs.Positioned.BookmarkLifetime
import ScrollCursor.Proofs.Positioned.Rowset

/-! # The position that is shown

A fetch that succeeds leaves the cursor with a rowset that begins at the position it shows, or
without a position. Every other call leaves both alone, except that a fetch by bookmark replaces the
rowset and keeps the position. So the two agree unless the rows were last placed by bookmark and the
first of them is another one than the row at the position.
-/

namespace ScrollCursor

namespace Cursor

variable {c d : Cursor}

/-- The rowset begins with the row at the position that is shown, if there is one. -/
def Aligned (c : Cursor) : Prop :=
  0 < c.position → ∃ id, c.slotOf? 1 = some id ∧ c.buffer.slotAt? c.position = some id

/-- Both cursors have one rowset and one place for it. -/
structure SamePlace (c d : Cursor) : Prop where
  start : d.start = c.start
  afterLast : d.afterLast = c.afterLast
  rowset : d.rowset = c.rowset

theorem SamePlace.refl (c : Cursor) : SamePlace c c :=
  ⟨rfl, rfl, rfl⟩

/-- A cursor that has not moved is at the same place. -/
theorem SameStanding.samePlace (h : SameStanding c d) : SamePlace c d :=
  ⟨h.2.2.2.1, h.2.2.2.2.1, h.2.2.2.2.2.1⟩

theorem SamePlace.trans {e : Cursor} (h : SamePlace c d) (h' : SamePlace d e) : SamePlace c e :=
  ⟨h'.start.trans h.start, h'.afterLast.trans h.afterLast, h'.rowset.trans h.rowset⟩

/-- No change of a scrollable cursor gives a known position to another row. -/
theorem Change.slotAt?_eq (hkind : c.kind.isScrollable = true) (h : Change c d) :
    c.buffer.count ≤ d.buffer.count ∧
      ∀ position, position ≤ c.buffer.count →
        d.buffer.slotAt? position = c.buffer.slotAt? position := by
  rcases h.positions hkind with ⟨horder, hbase⟩ | ⟨values, hpush⟩
  · refine ⟨?_, fun position _ => ?_⟩
    · rw [RowBuffer.count, RowBuffer.count, horder, hbase]
    · rw [RowBuffer.slotAt?, RowBuffer.slotAt?, horder, hbase]
  · rw [hpush]
    exact ⟨by simp, fun position hknown => RowBuffer.slotAt?_append values hknown⟩

/-- Known positions keep their rows. -/
theorem slotAt?_of_changes (hkind : c.kind.isScrollable = true) (h : Changes c d) :
    c.buffer.count ≤ d.buffer.count ∧
      ∀ position, position ≤ c.buffer.count →
        d.buffer.slotAt? position = c.buffer.slotAt? position := by
  induction h with
  | refl => exact ⟨Nat.le_refl _, fun _ _ => rfl⟩
  | @tail d e hsteps hstep ih =>
      have hframe : d.kind = c.kind := (Changes.sameFrame hsteps).1
      obtain ⟨hknown, hslots⟩ := hstep.slotAt?_eq (hframe ▸ hkind)
      refine ⟨Nat.le_trans ih.1 hknown, fun position hposition => ?_⟩
      rw [hslots position (Nat.le_trans hposition ih.1)]
      exact ih.2 position hposition

/-- The position shown is where the rowset starts, or none. -/
theorem position_le_start (c : Cursor) : c.position ≤ c.start := by
  unfold position
  split
  · exact Nat.zero_le _
  · exact Nat.le_refl _

/-- At the same place the same position is shown. -/
theorem SamePlace.position (h : SamePlace c d) : d.position = c.position := by
  rw [Cursor.position, Cursor.position, h.start, h.afterLast]

/-- The rows that are held belong together, and the rowset was put where rows are known. -/
structure Settled (c : Cursor) : Prop extends Inventory c where
  start : c.start ≤ c.buffer.count

namespace Settled

/-- A cursor stays settled while it does not move. -/
theorem of_samePlace (h : Settled c) (hkind : c.kind.isScrollable = true) (hchanges : Changes c d)
    (hplace : SamePlace c d) : Settled d where
  toInventory := h.toInventory.of_changes hkind hchanges
  start := hplace.start ▸ Nat.le_trans h.start (slotAt?_of_changes hkind hchanges).1

/-- Where the rowset stays in its place, it is as well placed as before. -/
theorem aligned_iff (h : Settled c) (hkind : c.kind.isScrollable = true) (hchanges : Changes c d)
    (hplace : SamePlace c d) : d.Aligned ↔ c.Aligned := by
  have hslot := (slotAt?_of_changes hkind hchanges).2 c.position
    (Nat.le_trans c.position_le_start h.start)
  rw [Aligned, Aligned, hplace.position, slotOf?_congr hplace.rowset, hslot]

/-- Rows that are pulled leave a cursor settled. -/
theorem of_pulls (h : Settled c) (hkind : c.kind.isScrollable = true) (hpulls : Pulls c d) :
    Settled d :=
  h.of_samePlace hkind hpulls.changes hpulls.sameStanding.samePlace

/-- A cursor before the first row is settled. -/
theorem moveBeforeFirst (h : Settled c) (hkind : c.kind.isScrollable = true) :
    Settled c.moveBeforeFirst where
  toInventory := h.toInventory.change hkind (.beforeFirst c)
  start := Nat.zero_le _

/-- A cursor after the last row is settled. -/
theorem moveAfterLast (h : Settled c) (hkind : c.kind.isScrollable = true) :
    Settled c.moveAfterLast where
  toInventory := h.toInventory.change hkind (.afterLast c)
  start := h.start

/-- A cursor on known rows is settled. -/
theorem placeRowset (h : Settled c) (hkind : c.kind.isScrollable = true) {position : Nat}
    (hknown : position ≤ c.buffer.count) : Settled (c.placeRowset position) where
  toInventory := h.toInventory.change hkind (.place c position)
  start := hknown

end Settled

/-- A rowset that is put at a known position begins there. -/
theorem aligned_placeRowset (h : Inventory c) {position : Nat}
    (hknown : position ≤ c.buffer.count) : (c.placeRowset position).Aligned := by
  intro hpos
  obtain ⟨id, -, hid, -⟩ := h.exists_slotAt? (show 1 ≤ position from hpos) hknown
  exact ⟨id, slotOf?_placeRowset hknown hid, hid⟩

/-- After the last row no position is shown. -/
theorem aligned_of_afterLast (h : c.afterLast = true) : c.Aligned := by
  intro hpos
  rw [position, if_pos h] at hpos
  cases hpos

/-- Before the first row none is shown either. -/
theorem aligned_of_start (h : c.start = 0) : c.Aligned := by
  intro hpos
  have hle := c.position_le_start
  omega

end Cursor

namespace Work

open Cursor (Aligned SamePlace Settled Inventory Changes)

variable {σ : Type} {w : Work σ}

/-! ## Fetches -/

/-- A rowset that is shown stays where it was put. -/
theorem settled_showRowset (hkind : w.cursor.kind.isScrollable = true) (h : Settled w.cursor) :
    Settled w.showRowset.2.cursor ∧ (w.showRowset.2.cursor.Aligned ↔ w.cursor.Aligned) := by
  have hplace : SamePlace w.cursor w.showRowset.2.cursor :=
    (w.sameStanding_rereadIf _ _).samePlace.trans ⟨rfl, rfl, rfl⟩
  exact ⟨h.of_samePlace hkind w.showRowset_changes hplace,
    h.aligned_iff hkind w.showRowset_changes hplace⟩

/-- A fetch to a position settles the cursor, and shows that position if it goes through. -/
theorem settled_fetchAt (hkind : w.cursor.kind.isScrollable = true) (h : Settled w.cursor)
    (position : Nat) :
    Settled (w.fetchAt position).2.cursor ∧
      ∀ outcome, (w.fetchAt position).1 = .ok outcome →
        (w.fetchAt position).2.cursor.Aligned := by
  have hdrop : w.onCursor (Cursor.dropBehind · position) = w := by
    rw [onCursor, Cursor.dropBehind_of_isScrollable hkind]
  have hpulls := w.pull_pulls (.upTo (position + (w.cursor.dropBehind position).size - 1))
  have hpulled := h.of_pulls hkind hpulls
  have hkind' := hpulls.sameStanding.1.symm ▸ hkind
  rcases w.fetchAt_cases position rfl with ⟨e, -, hfetch⟩ | ⟨-, -, hfetch⟩ | ⟨-, hknown, hfetch⟩
  · rw [hfetch, hdrop]
    refine ⟨hpulled, fun outcome houtcome => ?_⟩
    cases houtcome
  · rw [hfetch, hdrop]
    exact ⟨hpulled.moveAfterLast hkind', fun _ _ => Cursor.aligned_of_afterLast rfl⟩
  · rw [hdrop] at hknown hfetch
    rw [hfetch]
    have hplaced := hpulled.placeRowset hkind' hknown
    obtain ⟨hsettled, haligned⟩ := settled_showRowset
      (w := (w.pull (.upTo _)).2.onCursor (Cursor.placeRowset · position)) hkind' hplaced
    exact ⟨hsettled, fun _ _ =>
      haligned.mpr (Cursor.aligned_placeRowset hpulled.toInventory hknown)⟩

/-- A fetch that succeeds leaves the rowset where it is shown, wherever it was before. -/
theorem settled_fetch (hkind : w.cursor.kind.isScrollable = true) (h : Settled w.cursor)
    (orientation : Orientation) :
    Settled (w.fetch orientation).2.cursor ∧
      ∀ outcome, (w.fetch orientation).1 = .ok outcome →
        (w.fetch orientation).2.cursor.Aligned := by
  rcases w.fetch_cases orientation with ⟨e, hfetch⟩ | ⟨move, -, hfetch⟩
  · rw [hfetch]
    exact ⟨h, nofun⟩
  · have hpulls := w.counted_pulls move
    have hcounted := h.of_pulls hkind hpulls
    have hkind' := hpulls.sameStanding.1.symm ▸ hkind
    rw [hfetch]
    rcases w.fetchMove_cases move with ⟨e, -, hfailed⟩ | ⟨-, hland⟩
    · rw [hfailed]
      exact ⟨hcounted, nofun⟩
    · rw [hland]
      cases (w.counted move).2.aim move with
      | beforeFirst =>
          exact ⟨hcounted.moveBeforeFirst hkind', fun _ _ => Cursor.aligned_of_start rfl⟩
      | afterLast =>
          exact ⟨hcounted.moveAfterLast hkind', fun _ _ => Cursor.aligned_of_afterLast rfl⟩
      | row position => exact settled_fetchAt hkind' hcounted position

/-! ## Positioned calls -/

theorem keptByParts_samePlace (c : Cursor) :
    KeptByParts fun w : Work σ => SamePlace c w.cursor where
  keySet h := h.trans (sameStanding_keySet _).samePlace
  reread rows h _ := h.trans (sameStanding_reread _ rows).samePlace
  updateSlot key supplied id bindingRow h _ :=
    h.trans (sameStanding_updateSlot _ key supplied id bindingRow).samePlace
  deleteSlot key id h _ := h.trans (sameStanding_deleteSlot _ key id).samePlace
  addOne supplied table numbered row h :=
    h.trans (sameStanding_addOne supplied table numbered _ row).samePlace
  sync h := h.trans ⟨rfl, rfl, rfl⟩
  finish _ h := h

/-- An operation on the rowset leaves the cursor at its place. -/
theorem samePlace_setPosition (w : Work σ) (row : Nat) (operation : RowOperation)
    (supplied : Supplied) : SamePlace w.cursor (w.setPosition row operation supplied).2.cursor := by
  refine (keptByParts_samePlace w.cursor).setPosition (.refl w.cursor) row operation supplied
    (fun _ => ⟨rfl, rfl, rfl⟩) fun _ => ?_
  exact (w.sameStanding_rereadIf _ _).samePlace.trans ⟨rfl, rfl, rfl⟩

/-- An operation on bound arrays that fetches nothing leaves the cursor at its place. -/
theorem samePlace_bulk (w : Work σ) {operation : BulkOperation} (supplied : Supplied)
    (h : operation ≠ .fetchByBookmark) :
    SamePlace w.cursor (w.bulk operation supplied).2.cursor := by
  have hparts := keptByParts_samePlace (σ := σ) w.cursor
  have hover {f : List Nat → Except Error OperationOutcome × Work σ}
      (hf : ∀ rows, SamePlace w.cursor (f rows).2.cursor) :
      SamePlace w.cursor (w.overBookmarks f).2.cursor := by
    unfold overBookmarks
    split
    · exact .refl _
    · exact hf _
  rcases w.bulk_cases operation supplied with ⟨e, hrefused⟩ | hopen
  · rw [hrefused]
    exact .refl _
  · rw [hopen]
    cases operation with
    | add => exact hparts.addRows (.refl _) supplied _
    | updateByBookmark =>
        exact hover fun rows => hparts.writeByBookmark (.refl _) rows
          fun _ _ id row hv => hparts.keyed_updateSlot hv supplied id (row - 1)
    | deleteByBookmark =>
        exact hover fun rows => hparts.writeByBookmark (.refl _) rows
          fun _ _ id _ hv => hparts.keyed_deleteSlot hv id
    | fetchByBookmark => exact absurd rfl h

/-- The first bound bookmark names the row at the position that the rowset has, if it has one. -/
def leadsBack (w : Work σ) : Bool :=
  w.cursor.start == 0 ||
    ((w.bookmarkSlot? 1).isSome && w.bookmarkSlot? 1 == w.cursor.buffer.slotAt? w.cursor.start)

/-- The rows that bound bookmarks name begin with the one that the first of them names. -/
theorem slotOf?_fetchByBookmark {rows : List Nat} (hrows : w.bookmarkRows = .ok rows) :
    (w.fetchByBookmark rows).2.cursor.slotOf? 1 = w.bookmarkSlot? 1 := by
  have hsize := w.cursor.size_pos
  rw [(w.fetchByBookmark_eq rows).1]
  change (rows.map w.bookmarkSlot?)[0]?.join = w.bookmarkSlot? 1
  unfold bookmarkRows at hrows
  rw [Results.ite_error_eq_ok, Results.ite_error_eq_ok] at hrows
  obtain ⟨-, -, hrange⟩ := hrows
  cases hrange
  cases hcount : w.bindings.bookmarkRows with
  | zero =>
      -- Without a bookmark there is no first row.
      have hnone : w.bindings.bookmark? 0 = none := by
        unfold Bindings.bookmarkRows at hcount
        unfold Bindings.bookmark?
        cases hmarks : w.bindings.bookmarks with
        | none => rfl
        | some marks =>
            rw [hmarks] at hcount
            rw [List.eq_nil_of_length_eq_zero hcount]
            rfl
      rw [bookmarkSlot?, hnone, Nat.zero_min]
      rfl
  | succ count =>
      obtain ⟨rest, hrest⟩ : ∃ rest, min (count + 1) w.cursor.size = rest + 1 :=
        Nat.exists_eq_succ_of_ne_zero (by omega)
      rw [hrest, List.range'_succ, List.map_cons, List.getElem?_cons_zero, Option.join_some]

/-- Rows fetched by bookmark stand at the position shown if they are the rows that follow it. -/
theorem aligned_fetchByBookmark_iff {rows : List Nat} (hrows : w.bookmarkRows = .ok rows) :
    (w.fetchByBookmark rows).2.cursor.Aligned ↔ w.leadsBack = true := by
  have hslot := slotOf?_fetchByBookmark hrows
  have hcursor := (w.fetchByBookmark_eq rows).1
  have hbuffer : (w.fetchByBookmark rows).2.cursor.buffer = w.cursor.buffer := by rw [hcursor]; rfl
  have hposition : (w.fetchByBookmark rows).2.cursor.position = w.cursor.start := by
    rw [hcursor]
    rfl
  rw [Aligned, hslot, hbuffer, hposition, leadsBack]
  rcases Nat.eq_zero_or_pos w.cursor.start with hzero | hpos
  · simp [hzero]
  · have hne : w.cursor.start ≠ 0 := Nat.ne_of_gt hpos
    cases hmarked : w.bookmarkSlot? 1 with
    | none => simp [hne, hpos]
    | some id =>
        constructor
        · intro h
          obtain ⟨_, ⟨⟩, hat⟩ := h hpos
          simp [hat]
        · intro h _
          exact ⟨id, rfl, by simpa [hne, eq_comm (a := some id)] using h⟩

/-! ## Runs of calls -/

/-- Whether the rowset is astray after a call, given whether it was before. -/
def strays (w : Work σ) (before : Bool) : Call → Bool
  | .fetch orientation => before && !(w.fetch orientation).1.isOk
  | .operation (.bulk .fetchByBookmark) _ =>
      match w.bookmarkRows with
      | .ok _ => !w.leadsBack
      | .error _ => before
  | _ => before

/-- Whether the rowset is astray after some calls. -/
def astray (w : Work σ) (before : Bool) : List Call → Bool
  | [] => before
  | call :: rest => (w.call call).astray (w.strays before call) rest

/-- A call that does not move the cursor leaves it as far astray as it was. -/
theorem settled_call_of_samePlace {before : Bool} {call : Call}
    (hkind : w.cursor.kind.isScrollable = true) (h : Settled w.cursor)
    (haligned : w.cursor.Aligned ↔ before = false)
    (hplace : SamePlace w.cursor (w.call call).cursor) (hstays : w.strays before call = before) :
    Settled (w.call call).cursor ∧
      ((w.call call).cursor.Aligned ↔ w.strays before call = false) := by
  have hchanges := w.call_changes call
  rw [hstays]
  exact ⟨h.of_samePlace hkind hchanges hplace,
    (h.aligned_iff hkind hchanges hplace).trans haligned⟩

/-- A fetch by bookmark leads astray unless it leads back. -/
theorem settled_fetchByBookmark {before : Bool} (hkind : w.cursor.kind.isScrollable = true)
    (h : Settled w.cursor) (haligned : w.cursor.Aligned ↔ before = false) (supplied : Supplied) :
    Settled (w.bulk .fetchByBookmark supplied).2.cursor ∧
      ((w.bulk .fetchByBookmark supplied).2.cursor.Aligned ↔
        w.strays before (.operation (.bulk .fetchByBookmark) supplied) = false) := by
  have hopen : w.bulk .fetchByBookmark supplied = w.bulkOpen supplied .fetchByBookmark := by
    simp [bulk, Cursor.validateBulk, hkind, BulkOperation.writes, bulkOpen]
  have hsettled := h.toInventory.of_changes hkind (w.bulk_changes .fetchByBookmark supplied)
  rw [hopen, bulkOpen, overBookmarks] at hsettled ⊢
  rw [strays]
  cases hrows : w.bookmarkRows with
  | error e => exact ⟨h, haligned⟩
  | ok rows =>
      rw [hrows] at hsettled
      have hcursor := (w.fetchByBookmark_eq rows).1
      refine ⟨⟨hsettled, ?_⟩, (aligned_fetchByBookmark_iff hrows).trans (by simp)⟩
      dsimp only
      rw [hcursor]
      exact h.start

/-- Each call leaves the cursor settled, and astray just as recorded. -/
theorem settled_call {before : Bool} (hkind : w.cursor.kind.isScrollable = true)
    (h : Settled w.cursor) (haligned : w.cursor.Aligned ↔ before = false) (call : Call) :
    Settled (w.call call).cursor ∧
      ((w.call call).cursor.Aligned ↔ w.strays before call = false) := by
  cases call with
  | bind bindings => exact settled_call_of_samePlace hkind h haligned (.refl _) rfl
  | publish =>
      refine settled_call_of_samePlace hkind h haligned ?_ rfl
      change SamePlace w.cursor w.currentTarget.2.cursor
      rcases w.currentTarget_eq_or with hsame | hkey
      · rw [hsame]
        exact .refl _
      · rw [hkey]
        exact w.sameStanding_keySet.samePlace
  | fetch orientation =>
      obtain ⟨hsettled, hok⟩ := settled_fetch hkind h orientation
      cases hfetch : w.fetch orientation with
      | mk result after =>
          cases result with
          | error e =>
              have hpulls := fetch_error_pulls hkind hfetch
              refine settled_call_of_samePlace hkind h haligned ?_ ?_
              · change SamePlace w.cursor (w.fetch orientation).2.cursor
                rw [hfetch]
                exact hpulls.sameStanding.samePlace
              · rw [strays, hfetch]
                exact Bool.and_true before
          | ok outcome =>
              refine ⟨hsettled, iff_of_true (hok outcome (by rw [hfetch])) ?_⟩
              rw [strays, hfetch]
              exact Bool.and_false before
  | operation operation supplied =>
      cases operation with
      | setPosition row operation =>
          exact settled_call_of_samePlace hkind h haligned
            (w.samePlace_setPosition row operation supplied) rfl
      | bulk operation =>
          by_cases hfetch : operation = .fetchByBookmark
          · subst hfetch
            exact settled_fetchByBookmark hkind h haligned supplied
          · refine settled_call_of_samePlace hkind h haligned
              (w.samePlace_bulk supplied hfetch) ?_
            cases operation <;> first | rfl | exact absurd rfl hfetch

/-- Whatever calls are made on a cursor that can scroll, its rowset begins with the row at the
position it shows, unless the last call that placed the rowset was a fetch by bookmark and the first
bookmark did not name the row at the position that the rowset had. -/
theorem aligned_calls_iff {kind : CursorKind} {dialect : Dialect} {options : StatementOptions}
    {result : ResultSet} (hopened : w.cursor = .opened kind dialect options result)
    (hkind : kind.isScrollable = true) (calls : List Call) :
    (w.calls calls).cursor.Aligned ↔ w.astray false calls = false := by
  have hrun (before : Bool) (hkind : w.cursor.kind.isScrollable = true) (h : Settled w.cursor)
      (haligned : w.cursor.Aligned ↔ before = false) :
      (w.calls calls).cursor.Aligned ↔ w.astray before calls = false := by
    clear hopened
    induction calls generalizing w before with
    | nil => exact haligned
    | cons call rest ih =>
        obtain ⟨hsettled, hcalled⟩ := settled_call hkind h haligned call
        exact ih _ ((w.call_changes call).sameFrame.1.symm ▸ hkind) hsettled hcalled
  refine hrun false (hopened ▸ hkind) ?_ ?_
  · rw [hopened]
    exact ⟨.opened kind dialect options result, Nat.zero_le _⟩
  · rw [hopened]
    exact iff_of_true (Cursor.aligned_of_start rfl) rfl

/-- The third row is fetched, and then the first one by its bookmark. -/
def firstByBookmark : List Call :=
  [.fetch .first, .fetch (.absolute 3), .bind (({} : Bindings).bindBookmarks [.ofNumber 1]),
    .operation (.bulk .fetchByBookmark) []]

/-- The rowset is the first row, and the position that is shown is still that of the third. -/
theorem not_aligned_firstByBookmark :
    (limitedToFour.calls firstByBookmark).cursor.position = 3 ∧
      (limitedToFour.calls firstByBookmark).cursor.rowset = [some 0] ∧
      (limitedToFour.calls firstByBookmark).cursor.buffer.slotAt? 1 = some 0 ∧
      ¬ (limitedToFour.calls firstByBookmark).cursor.Aligned := by
  refine ⟨rfl, rfl, rfl, fun haligned => ?_⟩
  obtain ⟨id, hfirst, hat⟩ := haligned (by decide)
  cases hfirst
  cases hat

/-- The fetch that follows sets it right. -/
theorem aligned_afterFirstByBookmark :
    (limitedToFour.calls (firstByBookmark ++ [.fetch .prior])).cursor.position = 1 ∧
      (limitedToFour.calls (firstByBookmark ++ [.fetch .prior])).cursor.Aligned :=
  ⟨rfl, (aligned_calls_iff rfl rfl _).mpr rfl⟩

end Work

end ScrollCursor
