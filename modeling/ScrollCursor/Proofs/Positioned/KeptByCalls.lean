import ScrollCursor.Proofs.Positioned.Answers

/-! # What all calls keep

A call asks the server for keys and rows, sends statements, and pulls rows. Whatever else it does
leaves the rows that are held, those to come and the link as they are. So a property of these that
the few parts keep holds after every call, on cursors that read their rows again as well.
-/

namespace ScrollCursor

variable {σ : Type}

/-- A property of links that questions keep. -/
structure Link.Enduring (L : Link σ → Prop) : Prop where
  query : ∀ {l} request, L l → L (l.query request).2
  metadata : ∀ {l} table, L l → L (l.metadata table).2
  pulled : ∀ {l} count, L l → L (l.pulled count)

namespace Link.Enduring

variable {L : Link σ → Prop} {w : Work σ}

theorem queryRow {l : Link σ} (h : Enduring L) (hl : L l) (request : Request) :
    L (l.queryRow request).2 := by
  have hquery := h.query request hl
  unfold Link.queryRow
  generalize l.query request = answered at hquery ⊢
  obtain ⟨_ | result, after⟩ := answered
  · exact hquery
  · dsimp only
    split <;> exact h.pulled 1 hquery

theorem readByKey (h : Enduring L) (hw : L w.link) (key : KeySet) (image : Record) :
    L (w.readByKey key image).2 :=
  Work.readByKey_of_queryRow hw fun request _ _ => h.queryRow hw request

theorem rereadRow (h : Enduring L) (hw : L w.link) (key : KeySet) (row : Nat) :
    L (Work.rereadRow key w row).link :=
  Work.rereadRow_of_readByKey hw (h.readByKey hw key) row

theorem keySet (h : Enduring L) (hw : L w.link) : L w.keySet.2.link := by
  unfold Work.keySet
  split
  · exact hw
  · exact Work.resolveKey_of_metadata hw fun table => h.metadata table hw

end Link.Enduring

namespace Work

/-! ## Parts of calls -/

/-- The link, the key, the rows that are held and those that are to come are the same. -/
structure SameHoldings (w w' : Work σ) : Prop where
  link : w'.link = w.link
  key : w'.cursor.key = w.cursor.key
  kind : w'.cursor.kind = w.cursor.kind
  descriptor : w'.cursor.descriptor = w.cursor.descriptor
  buffer : w'.cursor.buffer = w.cursor.buffer
  stream : w'.cursor.stream = w.cursor.stream

/-- A property is kept by what calls are made of. Rows are read and written with the key of the
result. -/
structure KeptByCalls (P : Work σ → Prop) : Prop where
  same : ∀ {w w'}, P w → SameHoldings w w' → P w'
  dropBehind : ∀ {w} position, P w → P (w.onCursor (Cursor.dropBehind · position))
  pull : ∀ {w} demand, P w → P (w.pull demand).2
  keySet : ∀ {w}, P w → P w.keySet.2
  rereadRow : ∀ {w} key row, P w → w.cursor.key = some (.ok key) → P (rereadRow key w row)
  updateSlot : ∀ {w} key supplied id bindingRow, P w → w.cursor.key = some (.ok key) →
    P (w.updateSlot key supplied id bindingRow).2
  deleteSlot : ∀ {w} key id, P w → w.cursor.key = some (.ok key) → P (w.deleteSlot key id).2
  addOne : ∀ {w} supplied table numbered row, P w → P (addOne supplied table numbered w row).2.2

namespace KeptByCalls

variable {P : Work σ → Prop} {w : Work σ}

theorem reread (h : KeptByCalls P) (hw : P w) (rows : List Nat) : P (w.reread rows) :=
  reread_of_row (h.keySet hw) (fun key _ row hkey hv => h.rereadRow key row hv hkey) rows

theorem keptByParts (h : KeptByCalls P) : KeptByParts P where
  keySet := h.keySet
  reread rows hw _ := h.reread hw rows
  updateSlot := h.updateSlot
  deleteSlot := h.deleteSlot
  addOne := h.addOne
  sync hw := h.same hw ⟨rfl, rfl, rfl, rfl, rfl, rfl⟩
  finish _ hw := h.same hw ⟨rfl, rfl, rfl, rfl, rfl, rfl⟩

/-- Rows that are shown, or brought up to date, are read again first if the cursor does so. -/
theorem rereadIf (h : KeptByCalls P) (hw : P w) (rows : List Nat) (p : Prop) [Decidable p] :
    P (if p then w.reread rows else w) := by
  split
  · exact h.reread hw rows
  · exact hw

theorem showRowset (h : KeptByCalls P) (hw : P w) : P w.showRowset.2 :=
  h.same (h.rereadIf hw _ _) ⟨rfl, rfl, rfl, rfl, rfl, rfl⟩

theorem fetchAt (h : KeptByCalls P) (hw : P w) (position : Nat) : P (w.fetchAt position).2 := by
  have hpull : P ((w.onCursor (Cursor.dropBehind · position)).pull
      (.upTo (position + (w.cursor.dropBehind position).size - 1))).2 :=
    h.pull _ (h.dropBehind position hw)
  rcases w.fetchAt_cases position rfl with ⟨e, -, hfetch⟩ | ⟨-, -, hfetch⟩ | ⟨-, -, hfetch⟩
  · rw [hfetch]
    exact hpull
  · rw [hfetch]
    exact h.same hpull ⟨rfl, rfl, rfl, rfl, rfl, rfl⟩
  · rw [hfetch]
    exact h.showRowset (h.same hpull ⟨rfl, rfl, rfl, rfl, rfl, rfl⟩)

theorem fetch (h : KeptByCalls P) (hw : P w) (orientation : Orientation) :
    P (w.fetch orientation).2 :=
  fetch_of_parts hw (h.pull .everything hw) (fun _ hv => h.same hv ⟨rfl, rfl, rfl, rfl, rfl, rfl⟩)
    (fun _ hv => h.same hv ⟨rfl, rfl, rfl, rfl, rfl, rfl⟩) (fun _ position hv => h.fetchAt hv position)
    orientation

theorem fetchByBookmark (h : KeptByCalls P) (hw : P w) (rows : List Nat) :
    P (w.fetchByBookmark rows).2 := by
  have hsame := w.forRows_onBookmark_same rows
    (g := fun w id => .done 0 (w.cursor.slotStatus id))
  unfold Work.fetchByBookmark
  dsimp only [finish, onCursor]
  rw [hsame]
  exact h.same hw ⟨rfl, rfl, rfl, rfl, rfl, rfl⟩

/-- What the parts keep is kept by every call. -/
theorem call (h : KeptByCalls P) (hw : P w) (call : Call) : P (w.call call) := by
  cases call with
  | bind bindings => exact h.same hw ⟨rfl, rfl, rfl, rfl, rfl, rfl⟩
  | fetch orientation => exact h.fetch hw orientation
  | operation operation supplied =>
      cases operation with
      | setPosition row operation =>
          refine h.keptByParts.setPosition hw row operation supplied (fun _ => ?_) fun _ => ?_
          · exact h.same hw ⟨rfl, rfl, rfl, rfl, rfl, rfl⟩
          · exact h.same (h.rereadIf hw _ _) ⟨rfl, rfl, rfl, rfl, rfl, rfl⟩
      | bulk operation =>
          exact h.keptByParts.bulk hw operation supplied fun rows _ => h.fetchByBookmark hw rows
  | publish =>
      change P w.currentTarget.2
      rcases w.currentTarget_eq_or with heq | heq
      · rw [heq]
        exact hw
      · rw [heq]
        exact h.keySet hw

end KeptByCalls

end Work

end ScrollCursor
