import ScrollCursor.Proofs.Cursor.Reachable

/-! # What a caller sees

The view of a cursor is where it stands and what the slots of its rowset hold. Pulling rows adds
slots and leaves the others alone, so it changes no view of a cursor whose rowset names only rows
that are there.
-/

namespace ScrollCursor

namespace Cursor

/-- What a caller sees of a cursor. -/
structure View where
  position : Nat
  afterLast : Bool
  current : Option Nat
  statuses : List RowStatus
  rows : List FetchedRow
  row : Nat → Option Row

def view (c : Cursor) : View where
  position := c.position
  afterLast := c.afterLast
  current := c.current
  statuses := c.paddedStatuses
  rows := c.fetchedRows
  row := c.row?

/-- The cursors differ in their streams and buffers only. -/
def SameStanding (c d : Cursor) : Prop :=
  d.kind = c.kind ∧ d.options = c.options ∧ d.descriptor = c.descriptor ∧ d.start = c.start ∧
    d.afterLast = c.afterLast ∧ d.rowset = c.rowset ∧ d.statuses = c.statuses ∧
    d.current = c.current

namespace SameStanding

theorem refl (c : Cursor) : SameStanding c c :=
  ⟨rfl, rfl, rfl, rfl, rfl, rfl, rfl, rfl⟩

theorem trans {c d e : Cursor} (h : SameStanding c d) (h' : SameStanding d e) :
    SameStanding c e := by
  simp only [SameStanding] at h h' ⊢
  simp [h, h']

end SameStanding

/-- A row that is pulled moves nothing and changes no bookmark. -/
theorem Pull.sameStanding {c d : Cursor} (h : Pull c d) :
    SameStanding c d ∧ d.bookmarks = c.bookmarks := by
  cases h <;> exact ⟨⟨rfl, rfl, rfl, rfl, rfl, rfl, rfl, rfl⟩, rfl⟩

theorem zipWith_congr_left {α β γ : Type} {f g : α → β → γ} {as : List α} {bs : List β}
    (h : ∀ a ∈ as, ∀ b, f a b = g a b) : as.zipWith f bs = as.zipWith g bs := by
  induction as generalizing bs with
  | nil => simp
  | cons a as ih =>
      cases bs with
      | nil => simp
      | cons b bs =>
          rw [List.zipWith_cons_cons, List.zipWith_cons_cons, h a List.mem_cons_self,
            ih fun x hx => h x (List.mem_cons_of_mem a hx)]

theorem mem_rowset_of_slotOf? {c : Cursor} {row : Nat} {id : SlotId}
    (h : c.slotOf? row = some id) : some id ∈ c.rowset := by
  unfold slotOf? at h
  split at h
  · cases h
  · exact List.mem_of_getElem? (Option.join_eq_some_iff.mp h)

/-- The view is made of where the cursor stands and of the slots of its rowset. -/
theorem view_eq {c d : Cursor} (h : SameStanding c d)
    (hbookmarks : ∀ id, some id ∈ c.rowset → d.bookmarks.ofSlot? id = c.bookmarks.ofSlot? id)
    (hslots : ∀ id, some id ∈ c.rowset → d.buffer.slot? id = c.buffer.slot? id) :
    d.view = c.view := by
  obtain ⟨-, hoptions, hdescriptor, hstart, hafter, hrowset, hstatuses, hcurrent⟩ := h
  have hentry : ∀ entry ∈ c.rowset, entry.bind d.buffer.slot? = entry.bind c.buffer.slot? ∧
      entry.bind d.bookmarks.ofSlot? = entry.bind c.bookmarks.ofSlot? := by
    intro entry hmem
    cases entry with
    | none => exact ⟨rfl, rfl⟩
    | some id => exact ⟨hslots id hmem, hbookmarks id hmem⟩
  have hrows : d.fetchedRows = c.fetchedRows := by
    rw [fetchedRows, fetchedRows, hrowset, hstatuses]
    refine zipWith_congr_left fun entry hmem status => ?_
    have hnamed : d.named = c.named := by
      funext slot
      rw [named, named, hdescriptor]
    rw [fetchedRow, fetchedRow, hoptions, (hentry entry hmem).1, (hentry entry hmem).2, hnamed]
  have hrow : d.row? = c.row? := by
    funext row
    unfold row?
    rw [slotOf?_congr hrowset]
    cases hslot : c.slotOf? row with
    | none => rfl
    | some id =>
        simp only [bind, Option.bind]
        rw [hslots id (mem_rowset_of_slotOf? hslot)]
        simp only [named, hdescriptor]
  rw [view, view, hrows, hrow]
  simp only [position, paddedStatuses, size, hstart, hafter, hstatuses, hcurrent, hoptions]

theorem Pull.view_eq {c d : Cursor} (hc : Resident c) (h : Pull c d) : d.view = c.view := by
  obtain ⟨hstanding, hbookmarks⟩ := h.sameStanding
  refine Cursor.view_eq hstanding (fun id _ => by rw [hbookmarks]) fun id hid => ?_
  cases h with
  | row h => exact RowBuffer.slot?_appendAll [_] (hc.rowset id hid)
  | failure h => rfl
  | atEnd => rfl

/-- Rows that are pulled leave the view as it is. -/
theorem Pulls.view_eq {c d : Cursor} (hc : Resident c) (hkind : c.kind.isScrollable = true)
    (h : Pulls c d) : d.view = c.view := by
  induction h with
  | refl => rfl
  | @tail d e hsteps hstep ih =>
      have hresident := resident_of_changes hc hkind (Pulls.changes hsteps)
      exact (Pull.view_eq hresident hstep).trans ih

theorem Pulls.sameStanding {c d : Cursor} (h : Pulls c d) : SameStanding c d := by
  induction h with
  | refl => exact .refl c
  | tail _ hstep ih => exact ih.trans hstep.sameStanding.1

/-- To drop rows behind the rowset does not move the cursor. -/
theorem sameStanding_dropBehind (c : Cursor) (position : Nat) :
    SameStanding c (c.dropBehind position) := by
  unfold dropBehind
  split <;> exact ⟨rfl, rfl, rfl, rfl, rfl, rfl, rfl, rfl⟩

end Cursor

end ScrollCursor
