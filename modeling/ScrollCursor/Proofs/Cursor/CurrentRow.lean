import ScrollCursor.Proofs.Cursor.FailedFetch

/-! # The current row

What is made known of a cursor is the key of its current row, as the server last gave the row.
A call on a static cursor that fails has not moved it, changed a row or asked for another key, so
what was known of it before is still right.
-/

namespace ScrollCursor

namespace Cursor

/-- What is known of a cursor is right: that it has no current row, or what its key makes of the
image of that row. -/
inductive Published (c : Cursor) : PublishedTarget → Prop
  | nowhere (himage : c.currentImage? = none) : Published c none
  | row {image : Record} {key : Except Error KeySet} (himage : c.currentImage? = some image)
      (hkey : c.key = some key) :
      Published c (some (key.bind fun k =>
        (k.terms image).map fun terms => ⟨k.table, terms, k.isUnique⟩))

variable {c d : Cursor} {target : PublishedTarget}

/-- It stays right while the cursor has the same current row and its key. -/
theorem Published.congr (h : c.Published target) (himage : d.currentImage? = c.currentImage?)
    (hkey : ∀ key, c.key = some key → d.key = some key) : d.Published target := by
  cases h with
  | nowhere hnone => exact .nowhere (himage.trans hnone)
  | row hsome hresolved => exact .row (himage.trans hsome) (hkey _ hresolved)

/-! ## Pulls -/

/-- A row that is pulled does not change the image of the current one. -/
theorem Pull.currentImage?_eq (hc : Resident c) (h : Pull c d) :
    d.currentImage? = c.currentImage? ∧ d.key = c.key := by
  cases h with
  | failure h => exact ⟨rfl, rfl⟩
  | atEnd => exact ⟨rfl, rfl⟩
  | @row values rest h =>
      refine ⟨?_, rfl⟩
      unfold currentImage?
      dsimp only
      cases hcurrent : c.current with
      | none => rfl
      | some row =>
          simp only [Option.bind_eq_bind, Option.bind_some]
          change (c.slotOf? row).bind _ = _
          cases hslot : c.slotOf? row with
          | none => rfl
          | some id =>
              rw [Option.bind_some, Option.bind_some]
              have hstays := RowBuffer.slot?_appendAll [values]
                (hc.rowset id (mem_rowset_of_slotOf? hslot))
              rw [RowBuffer.appendAll_cons, RowBuffer.appendAll_nil] at hstays
              rw [hstays]

/-- What is known stays right while rows are pulled. -/
theorem Pulls.published (hc : Resident c) (hkind : c.kind.isScrollable = true) (h : Pulls c d)
    (hpublished : c.Published target) : d.Published target := by
  induction h with
  | refl => exact hpublished
  | @tail d e hsteps hstep ih =>
      have hresident := resident_of_changes hc hkind (Pulls.changes hsteps)
      obtain ⟨himage, hkey⟩ := Pull.currentImage?_eq hresident hstep
      exact ih.congr himage fun key h => hkey.trans h

end Cursor

namespace Work

open Cursor (Resident)

variable {σ : Type} {w after : Work σ} {e : Error} {target : PublishedTarget}

/-! ## What is made known -/

theorem currentImage?_keySet (w : Work σ) :
    w.keySet.2.cursor.currentImage? = w.cursor.currentImage? := by
  unfold keySet
  split <;> rfl

theorem published_keySet (h : w.cursor.Published target) :
    w.keySet.2.cursor.Published target := by
  refine h.congr w.currentImage?_keySet fun key hkey => ?_
  unfold keySet
  rw [hkey]
  exact hkey

/-- What a cursor tells of itself is right. -/
theorem published_currentTarget (w : Work σ) :
    w.currentTarget.2.cursor.Published w.currentTarget.1 := by
  unfold currentTarget
  cases himage : w.cursor.currentImage? with
  | none => exact .nowhere himage
  | some image =>
      have himage' := w.currentImage?_keySet.trans himage
      have hkey := w.key_keySet
      dsimp only
      generalize w.keySet = found at himage' hkey ⊢
      obtain ⟨key, after⟩ := found
      cases key with
      | error e => exact .row himage' hkey
      | ok key => exact .row himage' hkey

/-! ## Calls that fail -/

/-- A fetch that failed leaves right what was known. -/
theorem fetch_error_published {orientation : Orientation} (hkind : w.cursor.kind = .static)
    (hc : Resident w.cursor) (h : w.fetch orientation = (.error e, after))
    (hpublished : w.cursor.Published target) : after.cursor.Published target := by
  have hscrolls : w.cursor.kind.isScrollable = true := by
    rw [hkind]
    rfl
  exact Cursor.Pulls.published hc hscrolls (fetch_error_pulls hscrolls h) hpublished

/-- A static cursor prepares a write by asking for its key. -/
theorem prepareWrite_of_static (hkind : w.cursor.kind = .static) (rows : List Nat) :
    w.prepareWrite rows = w.keySet := by
  have hkind' : w.keySet.2.cursor.kind = w.cursor.kind := w.keySet_changes.sameFrame.1
  unfold prepareWrite
  generalize w.keySet = found at hkind' ⊢
  obtain ⟨key, after⟩ := found
  cases key with
  | error e => rfl
  | ok key =>
      dsimp only at hkind' ⊢
      rw [if_neg (by rw [hkind', hkind]; exact CursorKind.noConfusion)]

/-- An operation on a static cursor that is refused has at most asked for the key. -/
theorem setPosition_error {row : Nat} {operation : RowOperation} {supplied : Supplied}
    (hkind : w.cursor.kind = .static)
    (h : w.setPosition row operation supplied = (.error e, after)) :
    after = w ∨ after = w.keySet.2 := by
  unfold setPosition at h
  cases operation with
  | position | refresh => cases h
  | update =>
      dsimp only [updateRows] at h
      rw [prepareWrite_of_static hkind] at h
      split at h
      next hkey =>
        cases h
        exact Or.inr (by rw [hkey])
      next hkey =>
        split at h
        · cases h
          exact Or.inr (by rw [hkey])
        · cases h
  | delete =>
      dsimp only [deleteRows] at h
      rw [prepareWrite_of_static hkind] at h
      split at h
      next hkey =>
        cases h
        exact Or.inr (by rw [hkey])
      next => cases h
  | add =>
      dsimp only [addRows] at h
      split at h
      · cases h
        exact Or.inl rfl
      · cases h

theorem writeByBookmark_error {rows : List Nat}
    {f : KeySet → Work σ → SlotId → Nat → RowResult × Work σ}
    (h : w.writeByBookmark rows f = (.error e, after)) : after = w.keySet.2 := by
  unfold writeByBookmark at h
  split at h
  next hkey =>
    cases h
    rw [hkey]
  next => cases h

/-- An operation on bound arrays that is refused has asked for the key at most. -/
theorem bulk_error {operation : BulkOperation} {supplied : Supplied}
    (h : w.bulk operation supplied = (.error e, after)) : after = w ∨ after = w.keySet.2 := by
  unfold bulk at h
  split at h
  · cases h
    exact Or.inl rfl
  · cases operation with
    | add =>
        dsimp only [addRows] at h
        split at h
        · cases h
          exact Or.inl rfl
        · cases h
    | updateByBookmark | deleteByBookmark =>
        dsimp only [overBookmarks] at h
        split at h
        · cases h
          exact Or.inl rfl
        · exact Or.inr (writeByBookmark_error h)
    | fetchByBookmark =>
        dsimp only [overBookmarks] at h
        split at h
        · cases h
          exact Or.inl rfl
        · cases h

end Work

end ScrollCursor
