import ScrollCursor.Proofs.Positioned.Answers

/-! # How long a bookmark lasts

A bookmark belongs to the first row that it is given to. Whatever calls follow, the row keeps it
while it is there, no other row is given it, and it leads to the position of the row also after the
row is deleted.
-/

namespace ScrollCursor

open Cursor (Ledger Addressable Named)

/-- The rowset begins where it is put. -/
theorem Cursor.slotOf?_placeRowset {c : Cursor} {position : Nat} {id : SlotId}
    (hknown : position ≤ c.buffer.count) (hslot : c.buffer.slotAt? position = some id) :
    (c.placeRowset position).slotOf? 1 = some id := by
  have hsize : 0 < c.size := Nat.lt_of_lt_of_le Nat.zero_lt_one (Nat.le_max_right _ _)
  have hlast : min (position + c.size - 1) c.buffer.count + 1 - position =
      (min (position + c.size - 1) c.buffer.count - position) + 1 := by
    omega
  change ((c.buffer.slotsBetween position _)[0]?).join = some id
  rw [RowBuffer.slotsBetween, hlast, List.range'_succ, List.map_cons, List.getElem?_cons_zero,
    hslot]
  rfl

namespace Work

variable {σ : Type}

/-- The bookmark belongs to the row of a slot, now and in the next call. -/
structure Belongs (w : Work σ) (b : Bookmark) (id : SlotId) : Prop where
  /-- A call can give it to this row only, and only if the row is there afterwards. -/
  onlyRow : ∀ call other, Addressable (w.call call).cursor → w.Gives call other b →
    other = id ∧ (w.call call).cursor.slotStatus id ≠ .deleted
  /-- The row is shown with it. -/
  shown : ∀ call row, Addressable (w.call call).cursor → (some id, row) ∈ w.shown call →
    (w.call call).cursor.slotStatus id ≠ .deleted → row.bookmark = some b
  /-- It is not given to any row once the row is deleted. -/
  retired : w.cursor.slotStatus id = .deleted →
    ∀ call other, Addressable (w.call call).cursor → ¬ w.Gives call other b
  /-- A fetch to it lands on the position where the row came, unless a row that is needed after it
  cannot be delivered. -/
  lands : ∀ slot position, w.cursor.buffer.slot? id = some slot → slot.position = some position →
    (∃ e, (w.pull (.upTo (position + w.cursor.size - 1))).1 = some e ∧
        (w.fetch (.bookmark b 0)).1 = .error e) ∨
      ∃ outcome, (w.fetch (.bookmark b 0)).1 = .ok outcome ∧ outcome.position = position ∧
        (w.fetch (.bookmark b 0)).2.cursor.slotOf? 1 = some id

/-- What follows a rowset being placed leaves it where it is. -/
theorem showRowset_placed (w : Work σ) :
    ∃ outcome, w.showRowset.1 = .ok outcome ∧ outcome.position = w.cursor.start ∧
      w.showRowset.2.cursor.rowset = w.cursor.rowset := by
  have hstanding := w.sameStanding_rereadIf (List.range' 1 w.cursor.rowset.length)
    (w.cursor.kind.rereads = true)
  exact ⟨_, rfl, hstanding.2.2.2.1, hstanding.2.2.2.2.2.1⟩

/-- A rowset is put where a row came, and begins with that row. -/
theorem fetchAt_lands {w : Work σ} {position : Nat} {id : SlotId}
    (hkind : w.cursor.kind.isScrollable = true) (hbase : w.cursor.buffer.base = 0)
    (hpos : 0 < position) (horder : w.cursor.buffer.order[position - 1]? = some id) :
    (∃ e, (w.pull (.upTo (position + w.cursor.size - 1))).1 = some e ∧
        (w.fetchAt position).1 = .error e) ∨
      ∃ outcome, (w.fetchAt position).1 = .ok outcome ∧ outcome.position = position ∧
        (w.fetchAt position).2.cursor.slotOf? 1 = some id := by
  have hstays := Cursor.dropBehind_of_isScrollable hkind position
  obtain ⟨taken, htaken⟩ := Pulled.run_takesFrom w.cursor.options.maxRows
    (.upTo (position + w.cursor.size - 1)) w.cursor.stream w.cursor.buffer 0
  -- The rows that are pulled come after those that are there.
  have hbuffer : (w.pull (.upTo (position + w.cursor.size - 1))).2.cursor.buffer =
      { w.cursor.buffer.appendAll taken with
        exhausted := (w.pull (.upTo (position + w.cursor.size - 1))).2.cursor.buffer.exhausted } :=
    htaken.buffer_eq
  have hplace : position ≤
        (w.pull (.upTo (position + w.cursor.size - 1))).2.cursor.buffer.count ∧
      (w.pull (.upTo (position + w.cursor.size - 1))).2.cursor.buffer.slotAt? position =
        some id := by
    have hlength := (List.getElem?_eq_some_iff.mp horder).1
    have hknown : w.cursor.buffer.count = w.cursor.buffer.order.length := by
      rw [RowBuffer.count, hbase, Nat.zero_add]
    rw [hbuffer]
    constructor
    · change position ≤ (w.cursor.buffer.appendAll taken).count
      rw [RowBuffer.count_appendAll, hknown]
      omega
    · change (w.cursor.buffer.appendAll taken).slotAt? position = some id
      rw [RowBuffer.slotAt?, RowBuffer.base_appendAll, hbase, if_neg (Nat.not_le.mpr hpos),
        RowBuffer.order_appendAll, Nat.sub_zero, List.getElem?_append_left hlength]
      exact horder
  have hpulled : w.pull (.upTo (position + w.cursor.size - 1)) =
      (w.onCursor (Cursor.dropBehind · position)).pull
        (.upTo (position + (w.cursor.dropBehind position).size - 1)) := by
    rw [onCursor, hstays]
  rcases w.fetchAt_cases position hpulled with
    ⟨e, hfailed, hfetch⟩ | ⟨-, hshort, -⟩ | ⟨-, -, hfetch⟩
  · exact Or.inl ⟨e, hfailed, by rw [hfetch]⟩
  · exact absurd hplace.1 (Nat.not_le.mpr hshort)
  · obtain ⟨outcome, hok, hposition, hrowset⟩ := showRowset_placed
      ((w.pull (.upTo (position + w.cursor.size - 1))).2.onCursor (Cursor.placeRowset · position))
    rw [hfetch]
    refine Or.inr ⟨outcome, hok, hposition, ?_⟩
    rw [Cursor.slotOf?_congr hrowset]
    exact Cursor.slotOf?_placeRowset hplace.1 hplace.2

theorem fetch_bookmark_lands {w : Work σ} {b : Bookmark} {id : SlotId} {slot : RowSlot}
    {position : Nat} (hledger : Ledger w.cursor) (hsize : Addressable w.cursor)
    (hkind : w.cursor.kind.isScrollable = true) (huse : w.cursor.options.useBookmarks = true)
    (hnamed : Named w.cursor b id) (hslot : w.cursor.buffer.slot? id = some slot)
    (hposition : slot.position = some position) :
    (∃ e, (w.pull (.upTo (position + w.cursor.size - 1))).1 = some e ∧
        (w.fetch (.bookmark b 0)).1 = .error e) ∨
      ∃ outcome, (w.fetch (.bookmark b 0)).1 = .ok outcome ∧ outcome.position = position ∧
        (w.fetch (.bookmark b 0)).2.cursor.slotOf? 1 = some id := by
  obtain ⟨hpos, horder⟩ := hledger.placed id slot position hslot hposition
  have hlocate := hledger.accounted.locate?_eq_some (hledger.issued_lt hsize) hnamed
  have hmove : w.cursor.move (.bookmark b 0) = .ok (.fromRow position 0) := by
    simp [Cursor.move, huse, hlocate, hslot, hposition]
  have htarget : (Move.fromRow position 0).target w.cursor.size w.cursor.start w.cursor.afterLast
      w.cursor.buffer.count = .row position := by
    have hlength := (List.getElem?_eq_some_iff.mp horder).1
    have hfits : (position : Int) ≤ Target.maxPosition := by
      refine Int.le_trans (Int.ofNat_le.mpr ?_) hsize
      have hordered := hledger.ordered
      omega
    simp only [Move.target, Int.add_zero]
    rw [if_neg (Int.not_lt.mpr hfits), if_pos (by omega), Int.toNat_natCast]
  have hfetch : w.fetch (.bookmark b 0) = w.fetchAt position := by
    simp [fetch, hkind, hmove, fetchMove, Move.countsFromEnd, htarget]
  rw [hfetch]
  exact fetchAt_lands hkind hledger.base hpos horder

theorem belongs_of_named {w : Work σ} {b : Bookmark} {id : SlotId} (hledger : Ledger w.cursor)
    (hsize : Addressable w.cursor) (hkind : w.cursor.kind.isScrollable = true)
    (huse : w.cursor.options.useBookmarks = true) (hnamed : Named w.cursor b id) :
    w.Belongs b id := by
  -- What a call gives or shows is what the ledger has after it.
  have hafter (call : Call) (hsize : Addressable (w.call call).cursor) :
      Ledger (w.call call).cursor ∧ Named (w.call call).cursor b id :=
    ⟨hledger.of_changes hkind (w.call_changes call) hsize,
      Cursor.named_of_changes hledger hkind (w.call_changes call) hsize hnamed⟩
  have honly (call : Call) (other : SlotId) (hsize : Addressable (w.call call).cursor)
      (hgives : w.Gives call other b) :
      other = id ∧ (w.call call).cursor.slotStatus id ≠ .deleted := by
    obtain ⟨hledger', hnamed'⟩ := hafter call hsize
    have hslot := ofSlot?_of_gives huse hledger'.toResident hgives
    have hsame := hledger'.eq_of_named hsize hnamed' (Cursor.named_of_ofSlot? hslot)
    subst hsame
    exact ⟨rfl, hledger'.notDeleted _ (Bookmarks.mem_live_of_ofSlot? hslot)⟩
  constructor
  case onlyRow => exact honly
  case shown =>
    intro call row hsize hshown hlive
    obtain ⟨hledger', hnamed'⟩ := hafter call hsize
    have hframe := (w.call_changes call).sameFrame.2.2.1
    rw [fetchedRow_of_mem_shown hledger'.toResident hshown, Cursor.fetchedRow, hframe, if_pos huse]
    exact hledger'.ofSlot?_of_named hnamed' hlive
  case retired =>
    intro hdeleted call other hsize hgives
    have hstays := Cursor.deleted_of_changes hkind (w.call_changes call) hdeleted
    exact (honly call other hsize hgives).2 hstays
  case lands =>
    intro slot position hslot hposition
    exact fetch_bookmark_lands hledger hsize hkind huse hnamed hslot hposition

/-- The bookmark that a call gives to a row belongs to it from then on, whatever calls came before
and whatever calls follow. -/
theorem belongs_of_gives {w : Work σ} {kind : CursorKind} {dialect : Dialect}
    {options : StatementOptions} {result : ResultSet}
    (hopened : w.cursor = .opened kind dialect options result) (hkind : kind.isScrollable = true)
    (huse : options.useBookmarks = true) (before : List Call) (call : Call) (after : List Call)
    (hsize : Addressable (((w.calls before).call call).calls after).cursor) {b : Bookmark}
    {id : SlotId} (hgives : (w.calls before).Gives call id b) :
    (∀ other, (w.calls before).Gives call other b → other = id) ∧
      (((w.calls before).call call).calls after).Belongs b id := by
  have hbefore := w.calls_changes before
  have hcalled : Cursor.Changes w.cursor ((w.calls before).call call).cursor :=
    hbefore.trans ((w.calls before).call_changes call)
  have hafter := ((w.calls before).call call).calls_changes after
  have hledger : Ledger w.cursor := hopened ▸ .opened kind dialect options result
  have hscrolls : w.cursor.kind.isScrollable = true := hopened ▸ hkind
  have huse : w.cursor.options.useBookmarks = true := hopened ▸ huse
  have hscrolls' : ((w.calls before).call call).cursor.kind.isScrollable = true :=
    hcalled.sameFrame.1 ▸ hscrolls
  have huse' : ((w.calls before).call call).cursor.options.useBookmarks = true :=
    hcalled.sameFrame.2.2.1 ▸ huse
  have hsize' := hsize.of_changes hscrolls' hafter
  have hledger' := hledger.of_changes hscrolls hcalled hsize'
  have hnamed {other : SlotId} (hgives : (w.calls before).Gives call other b) :
      Named ((w.calls before).call call).cursor b other :=
    Cursor.named_of_ofSlot? (ofSlot?_of_gives (hbefore.sameFrame.2.2.1 ▸ huse)
      hledger'.toResident hgives)
  refine ⟨fun other hother => hledger'.eq_of_named hsize' (hnamed hgives) (hnamed hother), ?_⟩
  exact belongs_of_named (hledger'.of_changes hscrolls' hafter hsize) hsize
    (hafter.sameFrame.1 ▸ hscrolls') (hafter.sameFrame.2.2.1 ▸ huse')
    (Cursor.named_of_changes hledger' hscrolls' hafter hsize (hnamed hgives))

/-- The first row is fetched and deleted; its bookmark still belongs to it. -/
theorem belongs_deletedRow :
    onCoded.Gives (.fetch .next) 0 (.ofNumber 1) ∧
      ((onCoded.call (.fetch .next)).calls
        [.operation (.setPosition 1 .delete) []]).cursor.slotStatus 0 = .deleted ∧
      ((onCoded.call (.fetch .next)).calls
        [.operation (.setPosition 1 .delete) []]).Belongs (.ofNumber 1) 0 := by
  have hgives : (onCoded.calls []).Gives (.fetch .next) 0 (.ofNumber 1) :=
    Or.inl ⟨⟨.success, some (.ofNumber 1), some ⟨["code", "number"], [.string "b", .integer 2]⟩⟩,
      .head _, rfl⟩
  refine ⟨hgives, rfl, ?_⟩
  exact (belongs_of_gives rfl rfl rfl [] (.fetch .next) [.operation (.setPosition 1 .delete) []]
    (by unfold Addressable; decide) hgives).2

end Work

end ScrollCursor
