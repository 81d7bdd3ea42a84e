import ScrollCursor.MemoryServer
import ScrollCursor.Proofs.Cursor.ArrayRefinement

/-! # Fetches of static cursors

A fetch takes a static cursor and the array cursor it does the work of to cursors that are again so
related, with equal outcomes. So all outcomes are equal, whatever the order of the fetches.
-/

namespace ScrollCursor

namespace Simulates

variable {all : List Record} {a : ArrayCursor} {k : Nat} {c : Cursor} {σ : Type} {w : Work σ}

theorem afterLast_eq (h : Simulates all a k c) : c.afterLast = (a.place == .afterLast) := by
  have hplace := h.place
  cases hat : a.place with
  | beforeFirst =>
      rw [hat] at hplace
      exact hplace.2
  | row s =>
      rw [hat] at hplace
      exact hplace.2.1
  | afterLast =>
      rw [hat] at hplace
      exact hplace

theorem aim_pos (h : Simulates all a k c) {move : Move} {p : Nat} (haim : a.aim move = .row p) :
    0 < p := by
  have hsize := h.size_pos
  have hfromEnd (n : Int) (hrow : a.fromEnd n = .row p) : 0 < p := by
    unfold ArrayCursor.fromEnd at hrow
    grind
  have hlast (hrow : a.lastRowset = .row p) : 0 < p := by
    unfold ArrayCursor.lastRowset at hrow
    grind
  unfold ArrayCursor.aim at haim
  grind

theorem capped_pos (h : Simulates all a k c) {move : Move} {p : Nat}
    (hcapped : capped a move = .row p) : 0 < p := by
  unfold capped at hcapped
  cases haim : a.aim move with
  | beforeFirst | afterLast => simp [haim] at hcapped
  | row q =>
      have hq := h.aim_pos haim
      simp only [haim] at hcapped
      split at hcapped <;> cases hcapped
      exact hq

theorem beforeFirst (h : Simulates all a k c) :
    Simulates all { a with place := .beforeFirst } k c.moveBeforeFirst :=
  { h with place := ⟨rfl, rfl⟩ }

theorem afterLast (h : Simulates all a k c) :
    Simulates all { a with place := .afterLast } k c.moveAfterLast :=
  { h with place := rfl }

/-! ### Placed rowsets -/

theorem mem_window {p q : Nat} (hq : q ∈ a.window p) : p ≤ q ∧ q < p + a.size ∧ q ≤ a.total := by
  obtain ⟨i, hi, rfl⟩ := List.mem_range'.mp hq
  omega

/-- A rowset is placed once its rows are known, or all rows are. -/
theorem rowset_eq (h : Simulates all a k c) {p : Nat} (hp : 0 < p)
    (hk : min (p + a.size - 1) a.total ≤ k) :
    (c.placeRowset p).rowset = (a.window p).map fun q => some (q - 1) := by
  have hknown := h.count_le
  have hlength := h.buffer_count
  rw [h.buffer, RowBuffer.count_filled] at hlength
  have hcount : min (p + c.size - 1) k + 1 - p = min a.size (a.total + 1 - p) := by
    rw [← h.size]
    omega
  unfold Cursor.placeRowset
  dsimp only
  rw [h.buffer_count, h.buffer, RowBuffer.slotsBetween_filled _ hp (by omega), hcount,
    ArrayCursor.window]

theorem find?_bookmarks_isSome (a : ArrayCursor) (p : Nat) :
    (a.bookmarks.find? fun entry => entry.2 == p).isSome = decide (p ∈ a.shown) := by
  rw [Bool.eq_iff_iff, List.find?_isSome, decide_eq_true_iff]
  constructor
  · rintro ⟨entry, hentry, hp⟩
    obtain ⟨i, hi, rfl⟩ := List.mem_mapIdx.mp hentry
    exact beq_iff_eq.mp hp ▸ List.getElem_mem hi
  · intro hp
    obtain ⟨i, hi, rfl⟩ := List.getElem_of_mem hp
    exact ⟨_, List.mem_mapIdx.mpr ⟨i, hi, rfl⟩, beq_self_eq_true _⟩

/-- Bookmarks are given out as positions are shown for the first time. -/
theorem mint_ofShown (hshown : ∀ p ∈ a.shown, 0 < p) {p : Nat} (hp : 0 < p) :
    ((Bookmarks.ofShown a.shown).mint (p - 1)).2 =
      .ofShown (ArrayCursor.remember a.shown p) := by
  have hfound := find?_bookmarks_isSome a p
  rw [← Option.isSome_map (f := Prod.fst), ← ofSlot?_ofShown hshown hp] at hfound
  unfold Bookmarks.mint ArrayCursor.remember
  -- A slot has a live bookmark just if its position has been shown.
  cases hslot : (Bookmarks.ofShown a.shown).ofSlot? (p - 1) with
  | some b =>
      rw [hslot] at hfound
      rw [if_pos (of_decide_eq_true hfound.symm)]
  | none =>
      rw [hslot] at hfound
      rw [if_neg (of_decide_eq_false hfound.symm)]
      simp [Bookmarks.ofShown, List.mapIdx_append]

/-- No slot of a known position is deleted, or anything but there. -/
theorem entryStatus_eq (h : Simulates all a k c) {p : Nat} (hp : 0 < p ∧ p ≤ k) :
    c.entryStatus (some (p - 1)) = .success := by
  obtain ⟨values, -, hslot⟩ := h.slot?_eq hp
  simp [Cursor.entryStatus, hslot, RowSlot.fresh]

theorem foldl_mintEntry (h : Simulates all a k c) (positions : List Nat)
    (hpositions : ∀ p ∈ positions, 0 < p ∧ p ≤ k) {shown : List Nat}
    (hshown : ∀ p ∈ shown, 0 < p ∧ p ≤ k) :
    ((positions.map fun p => some (p - 1)).foldl c.mintEntry (.ofShown shown) =
        .ofShown (positions.foldl ArrayCursor.remember shown)) ∧
      ∀ p ∈ positions.foldl ArrayCursor.remember shown, 0 < p ∧ p ≤ k := by
  induction positions generalizing shown with
  | nil => exact ⟨rfl, hshown⟩
  | cons p positions ih =>
      have hp := hpositions p List.mem_cons_self
      have hrest : ∀ q ∈ positions, 0 < q ∧ q ≤ k := fun q hq =>
        hpositions q (List.mem_cons_of_mem p hq)
      have hentry : c.mintEntry (.ofShown shown) (some (p - 1)) =
          .ofShown (ArrayCursor.remember shown p) := by
        have hmint := mint_ofShown (a := { a with shown := shown })
          (fun q hq => (hshown q hq).1) hp.1
        simpa [Cursor.mintEntry, h.entryStatus_eq hp] using hmint
      have hremember : ∀ q ∈ ArrayCursor.remember shown p, 0 < q ∧ q ≤ k := by
        intro q hq
        unfold ArrayCursor.remember at hq
        split at hq
        · exact hshown q hq
        · rcases List.mem_append.mp hq with hq | hq
          · exact hshown q hq
          · exact List.mem_singleton.mp hq ▸ hp
      rw [List.map_cons, List.foldl_cons, List.foldl_cons, hentry]
      exact ih hrest hremember

/-- The rowset is put at a known row and shown. -/
theorem standAt (h : Simulates all a k c) {p : Nat} (hp : 0 < p)
    (hk : min (p + a.size - 1) a.total ≤ k) :
    Simulates all (a.standAt p) k (c.placeRowset p).syncStatuses := by
  have hwindow : ∀ q ∈ a.window p, 0 < q ∧ q ≤ k := by
    intro q hq
    have hbounds := mem_window hq
    omega
  have hplaced : Simulates all { a with place := .row p } k (c.placeRowset p) :=
    { h with place := ⟨rfl, rfl, hp⟩ }
  obtain ⟨hbookmarks, hshown⟩ := hplaced.foldl_mintEntry (a.window p) hwindow h.shown
  rw [← h.rowset_eq hp hk, ← h.bookmarks] at hbookmarks
  refine { hplaced with bookmarks := ?_, shown := ?_ }
  · change (if c.options.useBookmarks then _ else c.bookmarks) =
      Bookmarks.ofShown (if a.useBookmarks then _ else a.shown)
    rw [h.useBookmarks]
    cases c.options.useBookmarks with
    | true => exact hbookmarks
    | false => exact h.bookmarks
  · change ∀ q ∈ (if a.useBookmarks then _ else a.shown), _
    cases a.useBookmarks with
    | true => exact hshown
    | false => exact h.shown

/-- A row of a placed rowset is shown with its bookmark and its values. -/
theorem fetchedRow_eq (h : Simulates all a k c) {p : Nat} (hp : 0 < p ∧ p ≤ k) :
    c.fetchedRow (some (p - 1)) .success = a.fetchedRow p := by
  obtain ⟨values, hrow, hslot⟩ := h.slot?_eq hp
  have hbookmark := ofSlot?_ofShown (a := a) (fun q hq => (h.shown q hq).1) hp.1
  rw [← h.bookmarks] at hbookmark
  simp only [Cursor.fetchedRow, ArrayCursor.fetchedRow, Option.bind_some, hbookmark, hslot, hrow,
    h.useBookmarks, h.retrieveData, RowStatus.hasData, Bool.and_true, Option.map_some,
    Cursor.named, h.names, RowSlot.fresh]

/-- A whole rowset is shown alike. -/
theorem fetchOutcome_eq (h : Simulates all a k c) {p : Nat} (hp : 0 < p)
    (hk : min (p + a.size - 1) a.total ≤ k) :
    (c.placeRowset p).syncStatuses.fetchOutcome = (a.standAt p).outcome p := by
  have hshown := h.standAt hp hk
  have hknown := h.count_le
  have hrowset : (c.placeRowset p).syncStatuses.rowset =
      (a.window p).map fun q => some (q - 1) := h.rowset_eq hp hk
  have hwindow : ∀ q ∈ a.window p, 0 < q ∧ q ≤ k := by
    intro q hq
    have hbounds := mem_window hq
    omega
  have hstatuses : (c.placeRowset p).syncStatuses.statuses =
      List.replicate (a.window p).length .success := by
    rw [show (c.placeRowset p).syncStatuses.statuses =
      (c.placeRowset p).syncStatuses.rowset.map c.entryStatus from rfl, hrowset, List.map_map]
    refine List.eq_replicate_iff.mpr ⟨List.length_map _, fun status hstatus => ?_⟩
    obtain ⟨q, hq, rfl⟩ := List.mem_map.mp hstatus
    exact h.entryStatus_eq (hwindow q hq)
  have hrows : (c.placeRowset p).syncStatuses.fetchedRows =
      (a.window p).map (a.standAt p).fetchedRow := by
    rw [show (c.placeRowset p).syncStatuses.fetchedRows =
      List.zipWith _ _ ((c.placeRowset p).syncStatuses.rowset.map c.entryStatus) from rfl,
      List.zipWith_map_right, List.zipWith_self, hrowset, List.map_map]
    refine List.map_congr_left fun q hq => ?_
    rw [Function.comp_apply, h.entryStatus_eq (hwindow q hq)]
    exact hshown.fetchedRow_eq (hwindow q hq)
  have hatEnd : (c.placeRowset p).syncStatuses.atEnd =
      (a.ended && decide (a.total ≤ p + a.size - 1)) := by
    change (c.buffer.exhausted && decide (c.buffer.count ≤ p + c.size - 1)) = _
    rw [h.buffer_count, h.buffer, RowBuffer.exhausted_filled, h.size]
    cases hended : a.ended with
    | true => rw [h.ended hended]
    | false => rfl
  have hsize : (c.placeRowset p).syncStatuses.size = a.size := h.size.symm
  have hstart : (c.placeRowset p).syncStatuses.start = p := rfl
  unfold Cursor.fetchOutcome
  rw [Cursor.paddedStatuses, hstatuses, hrows, hatEnd, hsize, hstart]
  simp [ArrayCursor.outcome, ReturnCode.ofRows, RowStatus.hasData, List.countP_replicate,
    List.count_replicate]
  rfl

end Simulates

namespace Simulates

theorem opened (dialect : Dialect) (options : StatementOptions) (descriptor : ResultDescriptor)
    (rows : List Record) :
    Simulates rows (.opened options descriptor rows) 0
      (.opened .static dialect options ⟨descriptor, rows.map .ok⟩) where
  kind := rfl
  size := rfl
  useBookmarks := rfl
  retrieveData := rfl
  names := rfl
  rows := by
    cases h : options.maxRows with
    | none => simp [ArrayCursor.opened, Cursor.opened, limited, h]
    | some limit => simp [ArrayCursor.opened, Cursor.opened, limited, h]
  count_le := Nat.zero_le _
  ended := Bool.noConfusion
  stream := rfl
  buffer := rfl
  place := ⟨rfl, rfl⟩
  bookmarks := rfl
  shown := by simp [ArrayCursor.opened]

end Simulates

/-! ### Capped moves of array cursors -/

namespace ArrayCursor

open Simulates (capped)

variable {a : ArrayCursor} {move : Move}

theorem fetchMove_of_beforeFirst (h : capped a move = .beforeFirst) :
    a.fetchMove move = (.noData a.size false,
      { a.looked (move.countsFromEnd (a.place == .afterLast)) with place := .beforeFirst }) := by
  unfold capped at h
  unfold fetchMove seesEnd
  cases haim : a.aim move with
  | beforeFirst => simp
  | afterLast => simp [haim] at h
  | row p =>
      simp only [haim] at h
      split at h <;> cases h

/-- A sum that is no position lies after the last row, if the rows have positions. -/
theorem fetchMove_of_afterLast (hmax : (a.total : Int) ≤ Target.maxPosition)
    (h : capped a move = .afterLast) :
    a.fetchMove move = (.noData a.size true,
      { a.looked (move.countsFromEnd (a.place == .afterLast)) with place := .afterLast }) := by
  unfold capped at h
  unfold fetchMove seesEnd
  cases haim : a.aim move with
  | beforeFirst => simp [haim] at h
  | afterLast => simp
  | row p =>
      simp only [haim] at h
      split at h
      · next hbeyond =>
          have hlast : a.total < p := by omega
          simp only [hbeyond.1, hbeyond.2, decide_true, Bool.and_self, Bool.not_true,
            Bool.and_false, Bool.or_false]
          exact if_pos hlast
      · cases h

theorem fetchMove_of_row {p : Nat} (h : capped a move = .row p) :
    a.fetchMove move =
      ((a.looked (move.countsFromEnd (a.place == .afterLast))).looked
        (decide (a.total < p + a.size - 1))).fetchRow p := by
  unfold capped at h
  unfold fetchMove seesEnd
  cases haim : a.aim move with
  | beforeFirst | afterLast => simp [haim] at h
  | row q =>
      simp only [haim] at h
      split at h
      · cases h
      · next hsum =>
          cases h
          have hposition : (a.addsToRow move && decide (Target.maxPosition < p)) = false := by
            simpa using hsum
          simp [hposition, looked, Bool.or_assoc]

theorem total_fetchMove (a : ArrayCursor) (move : Move) : (a.fetchMove move).2.total = a.total := by
  unfold fetchMove fetchRow
  cases a.aim move with
  | beforeFirst | afterLast => rfl
  | row p =>
      dsimp only
      split <;> rfl

theorem total_fetch (a : ArrayCursor) (orientation : Orientation) :
    (a.fetch orientation).2.total = a.total := by
  unfold fetch
  cases a.move orientation with
  | error e => rfl
  | ok move => exact total_fetchMove a move

end ArrayCursor

/-! ### Steps and runs -/

namespace Work

variable {all : List Record} {a : ArrayCursor} {k : Nat} {σ : Type} {w : Work σ}

theorem fetchAt_simulates (h : Simulates all a k w.cursor) {p : Nat} (hp : 0 < p) :
    (w.fetchAt p).1 =
        .ok ((a.looked (decide (a.total < p + a.size - 1))).fetchRow p).1 ∧
      ∃ k', Simulates all ((a.looked (decide (a.total < p + a.size - 1))).fetchRow p).2 k'
        (w.fetchAt p).2.cursor := by
  obtain ⟨hfailure, hpulled⟩ := h.pull (.upTo (p + a.size - 1))
  have hpos := h.size_pos
  have hreached : (Demand.upTo (p + a.size - 1)).reached a.total k =
      max k (min (p + a.size - 1) a.total) := rfl
  rw [hreached] at hpulled
  -- The cursor knows enough rows to tell whether the position lies in the result.
  have hbound : max k (min (p + a.size - 1) a.total) ≤ a.total := hpulled.count_le
  unfold ArrayCursor.fetchRow
  rcases w.fetchAt_cases_of_static p h.kind rfl with
    ⟨e, he, -⟩ | ⟨-, hshort, hfetch⟩ | ⟨-, hlong, hfetch⟩
  · rw [← h.size, hfailure] at he
    cases he
  · rw [← h.size] at hshort hfetch
    rw [hpulled.buffer_count] at hshort
    have hbeyond : a.total < p := by omega
    rw [hfetch, fetchAfterLast, ← hpulled.size, if_pos (by exact hbeyond)]
    exact ⟨rfl, _, hpulled.afterLast⟩
  · rw [← h.size] at hlong hfetch
    rw [hpulled.buffer_count] at hlong
    have hinside : ¬ a.total < p := by omega
    have hrereads : (((w.pull (.upTo (p + a.size - 1))).2.onCursor
        (Cursor.placeRowset · p)).cursor.kind.rereads) = false := by
      change (w.pull (.upTo (p + a.size - 1))).2.cursor.kind.rereads = false
      rw [hpulled.kind]
      rfl
    have hk : min (p + a.size - 1) a.total ≤ max k (min (p + a.size - 1) a.total) :=
      Nat.le_max_right _ _
    rw [hfetch, showRowset_of_not_rereads hrereads, if_neg (by exact hinside)]
    exact ⟨congrArg Except.ok (hpulled.fetchOutcome_eq hp hk), _, hpulled.standAt hp hk⟩

/-- All rows are pulled if they have to be counted. -/
theorem counted_simulates (h : Simulates all a k w.cursor) (counts : Bool) :
    ∃ k' w', (if counts then w.pull .everything else (none, w)) = (none, w') ∧
      Simulates all (a.looked counts) k' w'.cursor ∧
      (counts = true → k' = a.total) ∧ w'.cursor.afterLast = w.cursor.afterLast := by
  cases counts with
  | true =>
      obtain ⟨hfailure, hpulled⟩ := h.pull .everything
      exact ⟨_, _, Prod.ext hfailure rfl, hpulled, fun _ => rfl, rfl⟩
  | false =>
      refine ⟨k, w, rfl, ?_, Bool.noConfusion, rfl⟩
      rw [ArrayCursor.looked, Bool.or_false]
      exact h

/-- A move leads both cursors to the same place, with the same outcome. -/
theorem fetchMove_simulates (h : Simulates all a k w.cursor)
    (hmax : (a.total : Int) ≤ Target.maxPosition) (move : Move) :
    (w.fetchMove move).1 = .ok (a.fetchMove move).1 ∧
      ∃ k', Simulates all (a.fetchMove move).2 k' (w.fetchMove move).2.cursor := by
  obtain ⟨k', w', hcounted, hsim, hall, hafter⟩ :=
    counted_simulates h (move.countsFromEnd w.cursor.afterLast)
  have htarget : move.target w'.cursor.size w'.cursor.start w'.cursor.afterLast
      w'.cursor.buffer.count = Simulates.capped a move :=
    hsim.target_eq move (by
      rw [hafter, hsim.buffer_count]
      exact hall)
  rw [h.afterLast_eq] at hsim
  have hsize : w'.cursor.size = a.size := hsim.size.symm
  unfold fetchMove
  rw [hcounted]
  dsimp only
  rw [htarget]
  cases hcapped : Simulates.capped a move with
  | beforeFirst =>
      rw [ArrayCursor.fetchMove_of_beforeFirst hcapped, hsize]
      exact ⟨rfl, _, hsim.beforeFirst⟩
  | afterLast =>
      rw [ArrayCursor.fetchMove_of_afterLast hmax hcapped, fetchAfterLast, hsize]
      exact ⟨rfl, _, hsim.afterLast⟩
  | row p =>
      rw [ArrayCursor.fetchMove_of_row hcapped]
      exact fetchAt_simulates hsim (h.capped_pos hcapped)

/-- A fetch has the outcome that it has on the array cursor, and leaves the cursors alike. -/
theorem fetch_simulates (h : Simulates all a k w.cursor)
    (hmax : (a.total : Int) ≤ Target.maxPosition) (orientation : Orientation) :
    (w.fetch orientation).1 = (a.fetch orientation).1 ∧
      ∃ k', Simulates all (a.fetch orientation).2 k' (w.fetch orientation).2.cursor := by
  have hscrolls : (!w.cursor.kind.isScrollable && orientation != .next) = false := by
    rw [h.kind]
    rfl
  unfold fetch ArrayCursor.fetch
  rw [hscrolls, if_neg Bool.noConfusion, h.move_eq]
  cases a.move orientation with
  | error e => exact ⟨rfl, k, h⟩
  | ok move => exact fetchMove_simulates h hmax move

/-- So have all fetches of a run. -/
theorem fetches_simulates (h : Simulates all a k w.cursor)
    (hmax : (a.total : Int) ≤ Target.maxPosition) (orientations : List Orientation) :
    (w.fetches orientations).1 = (a.fetches orientations).1 := by
  induction orientations generalizing a k w with
  | nil => rfl
  | cons orientation rest ih =>
      obtain ⟨houtcome, k', hsim⟩ := fetch_simulates h hmax orientation
      have hrest := ih hsim (by rwa [ArrayCursor.total_fetch])
      simp only [fetches, ArrayCursor.fetches, houtcome, hrest]

/-- A static cursor on a result without failures shows what a cursor over the list of its rows
shows, whatever fetches follow each other. A list that is held as a whole has no more rows than
there are positions. -/
theorem fetches_opened_static {dialect : Dialect} {options : StatementOptions}
    {descriptor : ResultDescriptor} {rows : List Record}
    (hcursor : w.cursor = .opened .static dialect options ⟨descriptor, rows.map .ok⟩)
    (hmax : ((ArrayCursor.opened options descriptor rows).total : Int) ≤ Target.maxPosition)
    (orientations : List Orientation) :
    (w.fetches orientations).1 =
      ((ArrayCursor.opened options descriptor rows).fetches orientations).1 := by
  have hopened : Simulates rows (.opened options descriptor rows) 0 w.cursor := by
    rw [hcursor]
    exact .opened dialect options descriptor rows
  exact fetches_simulates hopened hmax orientations

/-- A cursor on five rows of which four are to be shown, two to a rowset. -/
def limitedToFour : Work MemoryServer where
  cursor := .opened .static {} { rowArraySize := 2, useBookmarks := true, maxRows := some 4 }
    ⟨[], [[.integer 1], [.integer 2], [.integer 3], [.integer 4], [.integer 5]].map .ok⟩
  bindings := {}
  diagnostics := []
  link := ⟨MemoryServer.server, {}, []⟩

theorem fetches_limitedToFour :
    (limitedToFour.fetches
        [.last, .bookmark (Bookmark.ofNumber 2) (-9223372036854775808), .relative 3, .prior]).1.map
      (fun outcome => outcome.toOption.map FetchOutcome.position) =
        [some 3, some 0, some 3, some 1] := by
  rw [fetches_opened_static (w := limitedToFour) rfl (by decide)]
  rfl

end Work

end ScrollCursor
