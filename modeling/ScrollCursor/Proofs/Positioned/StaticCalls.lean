import ScrollCursor.Proofs.Positioned.Answers

/-! # What calls on a static cursor keep

A static cursor never reads a row again. What its calls ask of the server is the metadata of the
table, once, and statements; all else happens in the cursor. A property that these two keep, and
that is about nothing else, holds after every call.
-/

namespace ScrollCursor

namespace Work

variable {σ : Type}

/-- The server, its state and what is known of the result are the same. -/
structure SameGround (w w' : Work σ) : Prop where
  server : w'.link.server = w.link.server
  state : w'.link.state = w.link.state
  kind : w'.cursor.kind = w.cursor.kind
  descriptor : w'.cursor.descriptor = w.cursor.descriptor
  key : w'.cursor.key = w.cursor.key

/-- A property of static cursors that no request to the server breaks. -/
structure Stable (P : Work σ → Prop) : Prop where
  kind : ∀ {w}, P w → w.cursor.kind = .static
  ground : ∀ {w w'}, P w → SameGround w w' → P w'
  keySet : ∀ {w}, P w → P w.keySet.2
  execute : ∀ {w} request, P w → P { w with link := (w.link.execute request).2 }

namespace Stable

variable {P : Work σ → Prop} {w : Work σ}

theorem pull (h : Stable P) (hw : P w) (demand : Demand) : P (w.pull demand).2 :=
  h.ground hw ⟨rfl, rfl, rfl, rfl, rfl⟩

/-! ## Fetches -/

theorem not_rereads (h : Stable P) (hw : P w) : w.cursor.kind.rereads = false := by
  rw [h.kind hw]
  rfl

theorem showRowset (h : Stable P) (hw : P w) : P w.showRowset.2 := by
  rw [showRowset_of_not_rereads (h.not_rereads hw)]
  exact h.ground hw ⟨rfl, rfl, rfl, rfl, rfl⟩

theorem fetchAt (h : Stable P) (hw : P w) (position : Nat) : P (w.fetchAt position).2 := by
  have hpull := h.pull hw (.upTo (position + w.cursor.size - 1))
  rcases w.fetchAt_cases_of_static position (h.kind hw) rfl with
    ⟨e, -, hfetch⟩ | ⟨-, -, hfetch⟩ | ⟨-, -, hfetch⟩
  · rw [hfetch]
    exact hpull
  · rw [hfetch]
    exact h.ground hpull ⟨rfl, rfl, rfl, rfl, rfl⟩
  · rw [hfetch]
    exact h.showRowset (h.ground hpull ⟨rfl, rfl, rfl, rfl, rfl⟩)

theorem fetch (h : Stable P) (hw : P w) (orientation : Orientation) : P (w.fetch orientation).2 :=
  fetch_of_parts hw (h.pull hw .everything) (fun _ hv => h.ground hv ⟨rfl, rfl, rfl, rfl, rfl⟩)
    (fun _ hv => h.ground hv ⟨rfl, rfl, rfl, rfl, rfl⟩) (fun _ position hv => h.fetchAt hv position)
    orientation

theorem refresh (h : Stable P) (hw : P w) (rows : List Nat) : P (w.refresh rows).2 := by
  unfold Work.refresh
  rw [if_neg (by rw [h.not_rereads hw]; exact Bool.noConfusion)]
  exact h.ground hw ⟨rfl, rfl, rfl, rfl, rfl⟩

/-! ## Writes -/

/-- The request is all that the server sees of a write. -/
theorem send (h : Stable P) (hw : P w) (request : Request) {change : Cursor → Cursor}
    (status : RowStatus)
    (hchange : ∀ c, (change c).kind = c.kind ∧ (change c).descriptor = c.descriptor ∧
      (change c).key = c.key) :
    P (w.send request change status).2 := by
  have hsent := h.execute request hw
  obtain ⟨hkind, hdescriptor, hkey⟩ := hchange w.cursor
  unfold Work.send
  generalize w.link.execute request = answered at hsent ⊢
  obtain ⟨answer, link⟩ := answered
  cases answer with
  | error e => exact hsent
  | ok answer =>
      dsimp only
      split
      · exact hsent
      · exact h.ground hsent ⟨rfl, rfl, hkind, hdescriptor, hkey⟩

theorem updateSlot (h : Stable P) (hw : P w) (key : KeySet) (supplied : Supplied) (id : SlotId)
    (bindingRow : Nat) : P (w.updateSlot key supplied id bindingRow).2 := by
  unfold Work.updateSlot
  repeat' split
  all_goals try exact hw
  exact h.send hw _ _ fun _ => ⟨rfl, rfl, rfl⟩

theorem deleteSlot (h : Stable P) (hw : P w) (key : KeySet) (id : SlotId) :
    P (w.deleteSlot key id).2 := by
  unfold Work.deleteSlot
  repeat' split
  all_goals try exact hw
  exact h.send hw _ _ fun _ => ⟨rfl, rfl, rfl⟩

/-! ## Additions -/

theorem insertRow (h : Stable P) (hw : P w) (supplied : Supplied) (table : TableRef)
    (numbered : Option Nat) (row : Nat) : P (w.insertRow supplied table numbered row).2.2 := by
  unfold Work.insertRow
  dsimp only
  split
  · exact hw
  · split
    · exact hw
    next request _ =>
      have hsent := h.execute request hw
      generalize w.link.execute request = answered at hsent ⊢
      obtain ⟨answer, link⟩ := answered
      cases answer with
      | error e => exact hsent
      | ok answer =>
          refine h.ground hsent ?_
          dsimp only [Cursor.addRow]
          split <;> exact ⟨rfl, rfl, rfl, rfl, rfl⟩

theorem addOne (h : Stable P) (hw : P w) (supplied : Supplied) (table : TableRef)
    (numbered : Option Nat) (row : Nat) : P (Work.addOne supplied table numbered w row).2.2 :=
  h.ground (h.insertRow hw supplied table numbered row) ⟨rfl, rfl, rfl, rfl, rfl⟩

/-! ## Calls -/

/-- Nothing is read again, so what is left of a write is asking for the key and sending statements. -/
theorem keptByParts (h : Stable P) : KeptByParts P where
  keySet hw := h.keySet hw
  reread _ hw hdynamic := nomatch (h.kind hw).symm.trans hdynamic
  updateSlot key supplied id bindingRow hw _ := h.updateSlot hw key supplied id bindingRow
  deleteSlot key id hw _ := h.deleteSlot hw key id
  addOne supplied table numbered row hw := h.addOne hw supplied table numbered row
  sync hw := h.ground hw ⟨rfl, rfl, rfl, rfl, rfl⟩
  finish _ hw := h.ground hw ⟨rfl, rfl, rfl, rfl, rfl⟩

theorem setPosition (h : Stable P) (hw : P w) (row : Nat) (operation : RowOperation)
    (supplied : Supplied) : P (w.setPosition row operation supplied).2 :=
  h.keptByParts.setPosition hw row operation supplied
    (fun _ => h.ground hw ⟨rfl, rfl, rfl, rfl, rfl⟩)
    fun _ => h.ground (h.refresh hw _) ⟨rfl, rfl, rfl, rfl, rfl⟩

theorem fetchByBookmark (h : Stable P) (hw : P w) (rows : List Nat) :
    P (w.fetchByBookmark rows).2 := by
  have hsame := w.forRows_onBookmark_same rows
    (g := fun w id => .done 0 (w.cursor.slotStatus id))
  refine h.ground hw ?_
  unfold Work.fetchByBookmark
  dsimp only [Work.finish, onCursor]
  rw [hsame]
  exact ⟨rfl, rfl, rfl, rfl, rfl⟩

theorem bulk (h : Stable P) (hw : P w) (operation : BulkOperation) (supplied : Supplied) :
    P (w.bulk operation supplied).2 :=
  h.keptByParts.bulk hw operation supplied fun rows _ => h.fetchByBookmark hw rows

theorem call (h : Stable P) (hw : P w) (call : Call) : P (w.call call) := by
  cases call with
  | bind bindings => exact h.ground hw ⟨rfl, rfl, rfl, rfl, rfl⟩
  | fetch orientation => exact h.fetch hw orientation
  | operation operation supplied =>
      cases operation with
      | setPosition row operation => exact h.setPosition hw row operation supplied
      | bulk operation => exact h.bulk hw operation supplied
  | publish =>
      change P w.currentTarget.2
      rcases w.currentTarget_eq_or with heq | heq
      · rw [heq]
        exact hw
      · rw [heq]
        exact h.keySet hw

theorem calls (h : Stable P) (hw : P w) (calls : List Call) : P (w.calls calls) := by
  induction calls generalizing w with
  | nil => exact hw
  | cons call rest ih => exact ih (h.call hw call)

end Stable

end Work

end ScrollCursor
