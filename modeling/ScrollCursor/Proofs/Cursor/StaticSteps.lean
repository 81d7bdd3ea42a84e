import ScrollCursor.Proofs.Cursor.CurrentRow
import ScrollCursor.Proofs.Positioned.Answers

/-! # Steps of static cursors

A static cursor never reads a row again. What it holds of a row it has pulled or made up itself, and
the values that were written to the server since. So its calls are sequences of fewer kinds of
changes than those of other cursors, and a rowset is looked at as soon as it has been placed.
-/

namespace ScrollCursor

namespace Cursor

/-- One step of a static cursor. -/
inductive StaticStep : Cursor → Cursor → Prop
  | pull {c d : Cursor} (h : Pull c d) : StaticStep c d
  | beforeFirst (c : Cursor) : StaticStep c c.moveBeforeFirst
  | afterLast (c : Cursor) : StaticStep c c.moveAfterLast
  | place (c : Cursor) (position : Nat) : StaticStep c (c.placeRowset position).syncStatuses
  /-- Rows that live bookmarks name become the rowset. -/
  | replace (c : Cursor) (entries : List (Option SlotId)) (statuses : List RowStatus)
      (h : ∀ id, some id ∈ entries → ∃ b, c.bookmarks.resolve? b = some id) :
      StaticStep c (c.replaceRowset entries statuses)
  | sync (c : Cursor) : StaticStep c c.syncStatuses
  | current (c : Cursor) (row : Option Nat) : StaticStep c { c with current := row }
  | key (c : Cursor) (key : Except Error KeySet) : StaticStep c { c with key := some key }
  /-- Values were written for a row that is not deleted. -/
  | write (c : Cursor) (id : SlotId) (assignments : List (Nat × Value))
      (h : ∀ slot, c.buffer.slot? id = some slot → slot.isDeleted = false) :
      StaticStep c (Work.applySlot id assignments c)
  | delete (c : Cursor) (id : SlotId) : StaticStep c (c.markDeleted id)
  | add (c : Cursor) (values : Record) (h : values.length = c.descriptor.length) :
      StaticStep c (c.addRow values).2

abbrev StaticSteps : Cursor → Cursor → Prop :=
  Relation.ReflTransGen StaticStep

variable {c d : Cursor}

/-- What a static cursor undergoes is one of the changes there are. -/
theorem StaticStep.changes (h : StaticStep c d) : Changes c d := by
  cases h with
  | pull h => exact .single (.pull h)
  | beforeFirst => exact .single (.beforeFirst c)
  | afterLast => exact .single (.afterLast c)
  | place position => exact (Relation.ReflTransGen.single (.place c position)).tail (.sync _)
  | replace entries statuses h => exact .single (.replace c entries statuses h)
  | sync => exact .single (.sync c)
  | current row => exact .single (.current c row)
  | key key => exact .single (.key c key)
  | write id assignments h =>
      exact .single (.modify c id _ fun slot hslot => ⟨h slot hslot, rfl, rfl⟩)
  | delete id => exact .single (.delete c id)
  | add values h => exact .single (.add c values)

theorem StaticSteps.changes (h : StaticSteps c d) : Changes c d := by
  induction h with
  | refl => exact .refl
  | tail _ hstep ih => exact ih.trans hstep.changes

/-- A static cursor keeps its kind, its columns and its options. -/
theorem StaticSteps.sameFrame (h : StaticSteps c d) : SameFrame c d :=
  Changes.sameFrame h.changes

theorem Pulls.staticSteps (h : Pulls c d) : StaticSteps c d :=
  Relation.ReflTransGen.mono (fun _ _ => StaticStep.pull) _ _ h

end Cursor

theorem Record.length_assign (r : Record) (assignments : List (Nat × Value)) :
    (r.assign assignments).length = r.length := by
  induction assignments generalizing r with
  | nil => rfl
  | cons a assignments ih => exact (ih _).trans List.length_set

/-- An added row is as wide as the result. -/
theorem length_insertedImage (width : Nat) (values : List (Nat × Value))
    (numbered generated : Option Nat) :
    (insertedImage width values numbered generated).length = width := by
  have hassigned : (Record.assign (List.replicate width .null) values).length = width :=
    (Record.length_assign _ _).trans List.length_replicate
  unfold insertedImage
  dsimp only
  split
  · split
    · exact List.length_set.trans hassigned
    · exact hassigned
  · exact hassigned

namespace Work

open Cursor (StaticStep StaticSteps)

variable {σ : Type} {w : Work σ}

theorem pull_staticSteps (w : Work σ) (demand : Demand) :
    StaticSteps w.cursor (w.pull demand).2.cursor :=
  (w.pull_pulls demand).staticSteps

theorem keySet_staticSteps (w : Work σ) : StaticSteps w.cursor w.keySet.2.cursor := by
  unfold keySet
  split
  · exact .refl
  · exact .single (.key _ _)

theorem kind_keySet (w : Work σ) : w.keySet.2.cursor.kind = w.cursor.kind :=
  w.keySet_changes.sameFrame.1

/-- A static cursor does not read rows again. -/
theorem not_rereads_of_static (hkind : w.cursor.kind = .static) :
    w.cursor.kind.rereads = false := by
  rw [hkind]
  rfl

/-! ## Fetches -/

/-- To show a rowset, a static cursor pulls rows and places the rowset. -/
theorem fetchAt_staticSteps (hkind : w.cursor.kind = .static) (position : Nat) :
    StaticSteps w.cursor (w.fetchAt position).2.cursor := by
  have hpull := w.pull_staticSteps (.upTo (position + w.cursor.size - 1))
  rcases w.fetchAt_cases_of_static position hkind rfl with
    ⟨e, -, hfetch⟩ | ⟨-, -, hfetch⟩ | ⟨-, -, hfetch⟩
  · rw [hfetch]
    exact hpull
  · rw [hfetch]
    exact hpull.tail (.afterLast _)
  · have hplaced : ((w.pull (.upTo (position + w.cursor.size - 1))).2.onCursor
        (Cursor.placeRowset · position)).cursor.kind.rereads = false :=
      not_rereads_of_static (w := w) hkind
    rw [hfetch, showRowset_of_not_rereads hplaced]
    exact hpull.tail (.place _ position)

/-- A fetch of a static cursor does nothing else. -/
theorem fetch_staticSteps (hkind : w.cursor.kind = .static) (orientation : Orientation) :
    StaticSteps w.cursor (w.fetch orientation).2.cursor :=
  fetch_of_parts (P := fun v => StaticSteps w.cursor v.cursor) .refl
    (w.pull_staticSteps .everything) (fun v h => h.tail (.beforeFirst v.cursor))
    (fun v h => h.tail (.afterLast v.cursor))
    (fun _ position h => h.trans (fetchAt_staticSteps (h.sameFrame.1.trans hkind) position))
    orientation

/-- A refresh of a static cursor sets the statuses anew. -/
theorem refresh_staticSteps (hkind : w.cursor.kind = .static) (rows : List Nat) :
    StaticSteps w.cursor (w.refresh rows).2.cursor := by
  unfold refresh
  rw [if_neg (by rw [not_rereads_of_static hkind]; exact Bool.noConfusion)]
  exact .single (.sync _)

/-! ## Writes -/

theorem send_staticSteps (w : Work σ) (request : Request) {change : Cursor → Cursor}
    (status : RowStatus) (h : StaticStep w.cursor (change w.cursor)) :
    StaticSteps w.cursor (w.send request change status).2.cursor := by
  obtain ⟨-, hcursor | hcursor⟩ := w.send_frame request change status
  · rw [hcursor]
  · rw [hcursor]
    exact .single h

/-- An update assigns to one row at most. -/
theorem updateSlot_staticSteps (w : Work σ) (key : KeySet) (supplied : Supplied) (id : SlotId)
    (bindingRow : Nat) :
    StaticSteps w.cursor (w.updateSlot key supplied id bindingRow).2.cursor := by
  unfold updateSlot
  split
  · exact .refl
  next image himage =>
    obtain ⟨slot, hslot, hlive, -⟩ := exists_slot_of_liveImage himage
    -- Without a request nothing changes.
    repeat' split
    all_goals try exact .refl
    refine w.send_staticSteps _ _ (.write _ _ _ fun slot' h => ?_)
    cases hslot.symm.trans h
    exact hlive

/-- A deletion marks one row at most. -/
theorem deleteSlot_staticSteps (w : Work σ) (key : KeySet) (id : SlotId) :
    StaticSteps w.cursor (w.deleteSlot key id).2.cursor := by
  unfold deleteSlot
  repeat' split
  all_goals try exact .refl
  exact w.send_staticSteps _ _ (.delete _ _)

/-- An added row is as wide as the result. -/
theorem addOne_staticSteps (supplied : Supplied) (table : TableRef) (numbered : Option Nat)
    (w : Work σ) (row : Nat) :
    StaticSteps w.cursor (addOne supplied table numbered w row).2.2.cursor := by
  unfold addOne insertRow
  dsimp only
  repeat' split
  all_goals try exact .refl
  exact .single (.add _ _ (length_insertedImage _ _ _ _))

/-- Rows that are fetched by bookmark become the rowset. -/
theorem fetchByBookmark_staticSteps (w : Work σ) (rows : List Nat) :
    StaticSteps w.cursor (w.fetchByBookmark rows).2.cursor := by
  rw [(w.fetchByBookmark_eq rows).1]
  refine .single (.replace _ _ _ fun id hid => ?_)
  obtain ⟨row, -, hrow⟩ := List.mem_map.mp hid
  obtain ⟨b, -, hb⟩ := Option.bind_eq_some_iff.mp hrow
  exact ⟨b, hb⟩

/-! ## Calls -/

/-- Each part of a write is a sequence of static steps, as a static cursor reads nothing again. -/
theorem keptByParts_staticSteps {c : Cursor} (hkind : c.kind = .static) :
    KeptByParts fun w : Work σ => StaticSteps c w.cursor where
  keySet h := h.trans (keySet_staticSteps _)
  reread _ h hdynamic := nomatch (h.sameFrame.1.trans hkind).symm.trans hdynamic
  updateSlot key supplied id bindingRow h _ :=
    h.trans (updateSlot_staticSteps _ key supplied id bindingRow)
  deleteSlot key id h _ := h.trans (deleteSlot_staticSteps _ key id)
  addOne supplied table numbered row h := h.trans (addOne_staticSteps supplied table numbered _ row)
  sync h := h.tail (.sync _)
  finish _ h := h

/-- An operation on the rowset is made of such steps. -/
theorem setPosition_staticSteps (hkind : w.cursor.kind = .static) (row : Nat)
    (operation : RowOperation) (supplied : Supplied) :
    StaticSteps w.cursor (w.setPosition row operation supplied).2.cursor :=
  (keptByParts_staticSteps hkind).setPosition .refl row operation supplied
    (fun _ => .single (.current _ _)) fun _ => (refresh_staticSteps hkind _).tail (.current _ _)

theorem bulk_staticSteps (hkind : w.cursor.kind = .static) (operation : BulkOperation)
    (supplied : Supplied) : StaticSteps w.cursor (w.bulk operation supplied).2.cursor :=
  (keptByParts_staticSteps hkind).bulk .refl operation supplied
    fun rows _ => w.fetchByBookmark_staticSteps rows

end Work

namespace Cursor

/-- A reachable static cursor was reached by steps of static cursors. -/
theorem Reachable.exists_staticSteps {c : Cursor} (h : Reachable c) (hkind : c.kind = .static) :
    ∃ dialect options result, StaticSteps (Cursor.opened .static dialect options result) c := by
  induction h with
  | opened kind dialect options result =>
      cases hkind
      exact ⟨dialect, options, result, .refl⟩
  | fetch w orientation _ ih =>
      have hkind' : w.cursor.kind = .static := (w.fetch_changes orientation).sameFrame.1 ▸ hkind
      obtain ⟨dialect, options, result, hw⟩ := ih hkind'
      exact ⟨dialect, options, result, hw.trans (Work.fetch_staticSteps hkind' orientation)⟩
  | setPosition w row operation lock supplied _ _ ih =>
      have hkind' : w.cursor.kind = .static :=
        (w.setPosition_changes row operation supplied).sameFrame.1 ▸ hkind
      obtain ⟨dialect, options, result, hw⟩ := ih hkind'
      exact ⟨dialect, options, result,
        hw.trans (Work.setPosition_staticSteps hkind' row operation supplied)⟩
  | bulk w operation supplied _ ih =>
      have hkind' : w.cursor.kind = .static :=
        (w.bulk_changes operation supplied).sameFrame.1 ▸ hkind
      obtain ⟨dialect, options, result, hw⟩ := ih hkind'
      exact ⟨dialect, options, result, hw.trans (Work.bulk_staticSteps hkind' operation supplied)⟩
  | keySet w _ ih =>
      obtain ⟨dialect, options, result, hw⟩ := ih (w.kind_keySet ▸ hkind)
      exact ⟨dialect, options, result, hw.trans w.keySet_staticSteps⟩

end Cursor

end ScrollCursor
