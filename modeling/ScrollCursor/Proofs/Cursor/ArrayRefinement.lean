import ScrollCursor.Proofs.Cursor.ArrayCursor
import ScrollCursor.Proofs.Cursor.Fetching
import ScrollCursor.Proofs.Cursor.Filling

/-! # Static cursors refine array cursors

On a result without failures a static cursor cannot be told from a cursor over the list of its
rows. Its buffer is always the beginning of that list, as far as it has been looked at, and every
slot stands where its position says.
-/

namespace ScrollCursor

open RowBuffer (filled)

/-- The bookmarks of a cursor that has shown some positions with a bookmark. -/
def Bookmarks.ofShown (shown : List Nat) : Bookmarks where
  issued := shown.length
  live := shown.mapIdx fun i p => (Bookmark.ofNumber (i + 1), p - 1)

/-- A cursor stands at a place. Where the rowset began is of no account after the last row. -/
def Cursor.StandsAt (c : Cursor) : Target → Prop
  | .beforeFirst => c.start = 0 ∧ c.afterLast = false
  | .row s => c.start = s ∧ c.afterLast = false ∧ 0 < s
  | .afterLast => c.afterLast = true

/-- A static cursor on a result of some rows, so many of which have been pulled, does the work of an
array cursor. -/
structure Simulates (all : List Record) (a : ArrayCursor) (known : Nat) (c : Cursor) : Prop where
  kind : c.kind = .static
  size : a.size = c.size
  useBookmarks : a.useBookmarks = c.options.useBookmarks
  retrieveData : a.retrieveData = c.options.retrieveData
  names : a.names = c.descriptor.names
  rows : a.rows = all.take (limited c.options.maxRows all.length)
  count_le : known ≤ a.total
  ended : a.ended = true → known = a.total
  stream : c.stream = (all.drop known).map .ok
  buffer : c.buffer = filled (all.take known) a.ended
  place : c.StandsAt a.place
  bookmarks : c.bookmarks = .ofShown a.shown
  shown : ∀ p ∈ a.shown, 0 < p ∧ p ≤ known

namespace Simulates

variable {all : List Record} {a : ArrayCursor} {k : Nat} {c : Cursor}

/-- The list is as long as the result, up to the limit. -/
theorem total_eq (h : Simulates all a k c) :
    a.total = limited c.options.maxRows all.length := by
  have hle := limited_le c.options.maxRows all.length
  rw [ArrayCursor.total, h.rows, List.length_take]
  omega

theorem total_le (h : Simulates all a k c) : a.total ≤ all.length := by
  rw [h.total_eq]
  exact limited_le _ _

theorem buffer_count (h : Simulates all a k c) : c.buffer.count = k := by
  have hknown := h.count_le
  have htotal := h.total_le
  rw [h.buffer, RowBuffer.count_filled, List.length_take]
  omega

theorem size_pos (h : Simulates all a k c) : 0 < a.size := by
  rw [h.size]
  exact Nat.lt_of_lt_of_le Nat.one_pos (Nat.le_max_right _ _)

/-- The slot of a known position. -/
theorem slot?_eq (h : Simulates all a k c) {p : Nat} (hp : 0 < p ∧ p ≤ k) :
    ∃ values, a.rows[p - 1]? = some values ∧
      c.buffer.slot? (p - 1) = some (RowSlot.fresh values .success (some p)) := by
  have hknown := h.count_le
  have htotal := h.total_le
  have hall : p - 1 < all.length := by omega
  refine ⟨all[p - 1], ?_, ?_⟩
  · rw [h.rows, ← h.total_eq, List.getElem?_take_of_lt (by omega), List.getElem?_eq_getElem hall]
  · rw [h.buffer, RowBuffer.slot?_filled a.ended hp.1, List.getElem?_take_of_lt (by omega),
      List.getElem?_eq_getElem hall]
    rfl

/-! ### Bookmarks -/

theorem lookup_map {α β γ : Type} [BEq α] (f : β → γ) (entries : List (α × β)) (x : α) :
    (entries.map fun entry => (entry.1, f entry.2)).lookup x = (entries.lookup x).map f := by
  induction entries with
  | nil => rfl
  | cons entry entries ih =>
      rw [List.map_cons, List.lookup_cons, List.lookup_cons]
      cases x == entry.1 with
      | true => rfl
      | false => exact ih

theorem live_ofShown (a : ArrayCursor) :
    (Bookmarks.ofShown a.shown).live =
      a.bookmarks.map fun entry => (entry.1, entry.2 - 1) := by
  exact List.ext_getElem (by simp [Bookmarks.ofShown, ArrayCursor.bookmarks])
    (by simp [Bookmarks.ofShown, ArrayCursor.bookmarks])

/-- A bookmark of the list leads to a position that has been shown. -/
theorem mem_shown_of_lookup {b : Bookmark} {p : Nat} (h : a.bookmarks.lookup b = some p) :
    p ∈ a.shown := by
  obtain ⟨before, after, heq, -⟩ := List.lookup_eq_some_iff.mp h
  have hmem : (b, p) ∈ a.bookmarks := by
    rw [heq]
    simp
  obtain ⟨i, hi, hentry⟩ := List.mem_mapIdx.mp hmem
  cases hentry
  exact List.getElem_mem hi

/-- A bookmark leads to the position that it was given for. -/
theorem move_eq (h : Simulates all a k c) (orientation : Orientation) :
    c.move orientation = a.move orientation := by
  cases orientation with
  | bookmark b offset =>
      have hlocate : c.bookmarks.locate? b = (a.bookmarks.lookup b).map (· - 1) := by
        have hlookup := lookup_map (fun p : Nat => p - 1) a.bookmarks b
        rw [h.bookmarks, Bookmarks.locate?, Bookmarks.resolve?, live_ofShown, hlookup]
        exact Option.or_none
      simp only [Cursor.move, ArrayCursor.move, h.useBookmarks, hlocate]
      cases hfound : a.bookmarks.lookup b with
      | none => rfl
      | some p =>
          obtain ⟨values, -, hslot⟩ := h.slot?_eq (h.shown p (mem_shown_of_lookup hfound))
          simp only [Option.map_some, Option.bind_some, hslot]
          rfl
  | next | prior | first | last | absolute | relative => rfl

theorem find?_ofShown {entries : List (Bookmark × Nat)} {p : Nat}
    (hentries : ∀ entry ∈ entries, 0 < entry.2) (hp : 0 < p) :
    ((entries.map fun entry => (entry.1, entry.2 - 1)).find? fun entry => entry.2 == p - 1).map
        Prod.fst =
      (entries.find? fun entry => entry.2 == p).map Prod.fst := by
  induction entries with
  | nil => rfl
  | cons entry entries ih =>
      have hpos := hentries entry List.mem_cons_self
      have hsame : (entry.2 - 1 == p - 1) = (entry.2 == p) := by
        rw [Bool.eq_iff_iff, beq_iff_eq, beq_iff_eq]
        omega
      rw [List.map_cons, List.find?_cons, List.find?_cons]
      dsimp only
      rw [hsame]
      cases entry.2 == p with
      | true => rfl
      | false => exact ih fun e he => hentries e (List.mem_cons_of_mem entry he)

theorem bookmarks_pos (hshown : ∀ p ∈ a.shown, 0 < p) : ∀ entry ∈ a.bookmarks, 0 < entry.2 := by
  intro entry hentry
  obtain ⟨i, hi, rfl⟩ := List.mem_mapIdx.mp hentry
  exact hshown _ (List.getElem_mem hi)

/-- A slot has the bookmark that the list has for its position. -/
theorem ofSlot?_ofShown (hshown : ∀ p ∈ a.shown, 0 < p) {p : Nat} (hp : 0 < p) :
    (Bookmarks.ofShown a.shown).ofSlot? (p - 1) =
      (a.bookmarks.find? fun entry => entry.2 == p).map Prod.fst := by
  rw [Bookmarks.ofSlot?, live_ofShown]
  exact find?_ofShown (bookmarks_pos hshown) hp

/-! ### Pulling -/

/-- A pull takes rows off the result as far as the list is looked at. -/
theorem pull {σ : Type} {w : Work σ} (h : Simulates all a k w.cursor) (demand : Demand) :
    (w.pull demand).1 = none ∧
      Simulates all (a.looked (demand.passes a.total)) (demand.reached a.total k)
        (w.pull demand).2.cursor := by
  have hbounds := demand.reached_bounds h.count_le
  have hrun := Pulled.run_filled demand (show k ≤ limited w.cursor.options.maxRows all.length from
    h.total_eq ▸ h.count_le) (fun hended => h.total_eq ▸ h.ended hended) 0
  rw [← h.total_eq, ← h.stream, ← h.buffer] at hrun
  obtain ⟨hfailure, hstream, hbuffer⟩ := hrun
  refine ⟨hfailure, ?_⟩
  -- Only the stream, the buffer and what is known of the end have changed.
  exact
    { kind := h.kind
      size := h.size
      useBookmarks := h.useBookmarks
      retrieveData := h.retrieveData
      names := h.names
      rows := h.rows
      count_le := hbounds.2
      ended := fun hended => by
        rcases Bool.or_eq_true_iff.mp hended with hended | hpasses
        · have hlast := h.ended hended
          change _ = a.total
          rw [hlast, Demand.reached_self]
        · exact Demand.reached_of_passes h.count_le hpasses
      stream := hstream
      buffer := hbuffer
      place := h.place
      bookmarks := h.bookmarks
      shown := fun p hp => ⟨(h.shown p hp).1, Nat.le_trans (h.shown p hp).2 hbounds.1⟩ }

/-! ### Targets -/

theorem fromEnd_eq (h : Simulates all a k c) (n : Int) :
    Target.fromEnd c.size a.total n = a.fromEnd n := by
  rw [Target.fromEnd, ArrayCursor.fromEnd, h.size]

theorem lastRowset_eq (h : Simulates all a k c) :
    Target.lastRowset c.size a.total = a.lastRowset := by
  rw [Target.lastRowset, ArrayCursor.lastRowset, h.size]
  congr 1
  omega

/-- Sums beyond the largest position lead nowhere. -/
def capped (a : ArrayCursor) (move : Move) : Target :=
  match a.aim move with
  | .row p => if a.addsToRow move = true ∧ Target.maxPosition < p then .afterLast else .row p
  | t => t

theorem capped_of_not_adds {move : Move} (h : a.addsToRow move = false) :
    capped a move = a.aim move := by
  unfold capped
  cases a.aim move with
  | row p => simp [h]
  | beforeFirst | afterLast => rfl

/-- A sum of a position and an offset. -/
theorem capped_sum {move : Move} {p : Int} {below : Target} (hadds : a.addsToRow move = true)
    (haim : a.aim move = if 1 ≤ p then .row p.toNat else below)
    (hbelow : ∀ q, below = .row q → q = 1) :
    capped a move =
      if Target.maxPosition < p then .afterLast else if 1 ≤ p then .row p.toNat else below := by
  have hmax : Target.maxPosition = 9223372036854775807 := rfl
  -- The largest position is positive, so only a sum that is a position can be beyond it.
  by_cases hp : 1 ≤ p
  · have hnat : ((p.toNat : Nat) : Int) = p := Int.toNat_of_nonneg (by omega)
    rw [if_pos hp] at haim
    simp only [capped, haim, hnat, hadds, if_pos hp, true_and]
  · rw [if_neg hp] at haim
    rw [if_neg hp, if_neg (by omega)]
    cases below with
    | row q =>
        have hq := hbelow q rfl
        subst hq
        simp only [capped, haim]
        rw [if_neg (by omega)]
    | beforeFirst | afterLast => simp only [capped, haim]

/-- The cursor aims a move at the place where the list does, up to sums that are too large. -/
theorem target_eq (h : Simulates all a k c) (move : Move) {total : Nat}
    (htotal : move.countsFromEnd c.afterLast = true → total = a.total) :
    move.target c.size c.start c.afterLast total = capped a move := by
  have hplace := h.place
  -- After the last row the place says nothing of `start`, and no move reads it there.
  cases move with
  | next =>
      rw [capped_of_not_adds rfl, Move.target, ArrayCursor.aim, h.size]
      cases hat : a.place with
      | beforeFirst =>
          obtain ⟨hstart, hafter⟩ := hat ▸ hplace
          simp [hstart, hafter]
      | row s =>
          obtain ⟨hstart, hafter, hpos⟩ := hat ▸ hplace
          have hne : s ≠ 0 := Nat.pos_iff_ne_zero.mp hpos
          simp [hstart, hafter, hne]
      | afterLast =>
          rw [hat] at hplace
          have hafter : c.afterLast = true := hplace
          simp [hafter]
  | prior =>
      rw [capped_of_not_adds rfl, Move.target, ArrayCursor.aim, h.size]
      cases hat : a.place with
      | beforeFirst =>
          obtain ⟨hstart, hafter⟩ := hat ▸ hplace
          simp [hstart, hafter]
      | row s =>
          obtain ⟨hstart, hafter, hpos⟩ := hat ▸ hplace
          have hone : s ≤ 1 ↔ s = 1 := by omega
          simp [hstart, hafter, hone]
      | afterLast =>
          rw [hat] at hplace
          have hafter : c.afterLast = true := hplace
          have hcount := htotal hafter
          simp [hafter, hcount, ← h.size, ← h.lastRowset_eq]
  | first => rw [capped_of_not_adds rfl, Move.target, ArrayCursor.aim]
  | last =>
      rw [htotal rfl, capped_of_not_adds rfl, Move.target, ArrayCursor.aim, h.lastRowset_eq]
  | absolute n =>
      rw [capped_of_not_adds rfl, Move.target, ArrayCursor.aim, ← h.fromEnd_eq]
      by_cases hn : n < 0
      · rw [htotal (decide_eq_true hn)]
      · by_cases hzero : n = 0
        · simp [hzero]
        · simp [show 0 < n by omega]
  | relative n =>
      cases hat : a.place with
      | beforeFirst =>
          obtain ⟨hstart, hafter⟩ := hat ▸ hplace
          rw [capped_of_not_adds (by simp [ArrayCursor.addsToRow, hat])]
          simp [Move.target, ArrayCursor.aim, hat, hstart, hafter]
      | row s =>
          obtain ⟨hstart, hafter, hpos⟩ := hat ▸ hplace
          have hne : c.start ≠ 0 := by omega
          have hadds : a.addsToRow (.relative n) = true := by
            rw [ArrayCursor.addsToRow, hat]
          have haim : a.aim (.relative n) = if 1 ≤ (s : Int) + n then .row ((s : Int) + n).toNat
              else if n.natAbs ≤ a.size then .row 1 else .beforeFirst := by
            simp only [ArrayCursor.aim, hat]
          rw [capped_sum hadds haim (by intro q; split <;> simp [eq_comm])]
          simp [Move.target, Target.fromStart, hstart, hafter, hpos, h.size, Nat.ne_of_gt]
      | afterLast =>
          rw [hat] at hplace
          have hafter : c.afterLast = true := hplace
          rw [capped_of_not_adds (by simp [ArrayCursor.addsToRow, hat])]
          simp only [Move.target, ArrayCursor.aim, hat, hafter, if_true, ← h.fromEnd_eq]
          by_cases hn : 0 ≤ n
          · rw [if_pos hn, if_pos hn]
          · have hcounts : (Move.relative n).countsFromEnd c.afterLast = true := by
              simp [Move.countsFromEnd, hafter]
              omega
            rw [if_neg hn, if_neg hn, htotal hcounts]
  | fromRow q offset =>
      have haim : a.aim (.fromRow q offset) =
          if 1 ≤ (q : Int) + offset then .row ((q : Int) + offset).toNat else .beforeFirst := rfl
      rw [capped_sum rfl haim (by simp)]
      rfl

end Simulates

end ScrollCursor
