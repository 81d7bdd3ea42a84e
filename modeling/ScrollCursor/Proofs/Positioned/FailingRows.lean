import ScrollCursor.Proofs.Positioned.InTurn

/-! # Rows that fail

Of the rows that a static cursor updates or deletes in turn, only those are changed for which an
answer counted a row. All others are as before, whatever became of the rows around them, and what an
answer says out of the ordinary is on record for its row.
-/

namespace ScrollCursor

/-- What an ordinal holds after some assignments is the last value for it, or what it held. -/
theorem Record.getElem?_assign_eq (r : Record) (assignments : List (Nat × Value))
    (hrange : ∀ a ∈ assignments, a.1 < r.length) (ordinal : Nat) :
    (r.assign assignments)[ordinal]? = (assignments.reverse.lookup ordinal).or r[ordinal]? := by
  induction assignments generalizing r with
  | nil => rfl
  | cons a assignments ih =>
      obtain ⟨i, value⟩ := a
      change (Record.assign (List.set r i value) assignments)[ordinal]? = _
      have hi : i < r.length := hrange _ List.mem_cons_self
      rw [ih _ fun a ha => by
        rw [List.length_set]
        exact hrange a (List.mem_cons_of_mem _ ha)]
      rw [List.reverse_cons, List.lookup_append, Option.or_assoc, List.getElem?_set]
      by_cases hordinal : ordinal = i
      · subst hordinal
        simp [hi]
      · have hne : (ordinal == i) = false := by simpa using hordinal
        simp [Ne.symm hordinal, List.lookup_cons, hne]

/-- An ordinal holds the only value that it was assigned. -/
theorem Record.getElem?_assign_of_mem {r : Record} {assignments : List (Nat × Value)}
    (hrange : ∀ a ∈ assignments, a.1 < r.length) {ordinal : Nat} {value : Value}
    (hmem : (ordinal, value) ∈ assignments)
    (honly : ∀ other, (ordinal, other) ∈ assignments → other = value) :
    (r.assign assignments)[ordinal]? = some value := by
  rw [r.getElem?_assign_eq assignments hrange]
  cases hlookup : assignments.reverse.lookup ordinal with
  | none =>
      have hnone := List.lookup_eq_none_iff.mp hlookup (ordinal, value) (List.mem_reverse.mpr hmem)
      simp at hnone
  | some other =>
      obtain ⟨before, after, heq, -⟩ := List.lookup_eq_some_iff.mp hlookup
      have hother : (ordinal, other) ∈ assignments := by
        rw [← List.mem_reverse, heq]
        simp
      rw [Option.some_or, honly other hother]

/-- A row was overwritten with some values, if it was changed at all. -/
structure RowSlot.Overwritten (status : RowStatus) (changed : Prop) (assigned : List (Nat × Value))
    (slot slot' : RowSlot) : Prop where
  values : slot'.values = slot.values.assign assigned
  image : slot'.image = slot.image.assign assigned
  position : slot'.position = slot.position
  status : changed → slot'.status = status
  kept : ¬ changed → slot' = slot

namespace RowSlot.Overwritten

variable {status : RowStatus} {p q : Prop} {first second : List (Nat × Value)}
  {slot slot' slot'' : RowSlot}

theorem refl (status : RowStatus) (hp : ¬ p) (slot : RowSlot) :
    Overwritten status p [] slot slot :=
  ⟨rfl, rfl, rfl, fun h => absurd h hp, fun _ => rfl⟩

/-- A slot that is overwritten twice is overwritten by the values of both times. -/
theorem trans (h : Overwritten status p first slot slot')
    (h' : Overwritten status q second slot' slot'') :
    Overwritten status (p ∨ q) (first ++ second) slot slot'' where
  values := by
    rw [h'.values, h.values, Record.assign, Record.assign, Record.assign, List.foldl_append]
  image := by
    rw [h'.image, h.image, Record.assign, Record.assign, Record.assign, List.foldl_append]
  position := h'.position.trans h.position
  status hchanged := by
    by_cases hq : q
    · exact h'.status hq
    · rw [h'.kept hq]
      exact h.status (hchanged.resolve_right hq)
  kept hkept := by
    rw [not_or] at hkept
    exact (h'.kept hkept.2).trans (h.kept hkept.1)

end RowSlot.Overwritten

/-! ## What turns leave of a slot -/

/-- What is to be sent suits the cursor: it is for a slot that is not deleted, sets columns of the
result, and leaves the row with a status. -/
structure Intent.Suits (status : RowStatus) (c : Cursor) (i : Intent) : Prop where
  live : ∃ slot, c.buffer.slot? i.id = some slot ∧ slot.isDeleted = false
  columns : ∀ assignments, i.set = some assignments →
    ∀ a ∈ assignments, a.1 < c.descriptor.length
  status : i.status = status

/-- The status that an operation leaves a row with. -/
def Operation.statusLeft : Operation → RowStatus
  | .setPosition _ .delete | .bulk .deleteByBookmark => .deleted
  | _ => .updated

namespace Cursor

variable {c : Cursor} {b : Bindings} {supplied : Supplied} {key : KeySet} {row : Nat} {id : SlotId}
  {i : Intent}

/-- A row that can be written has a slot, and is not deleted. -/
theorem live_of_liveImage? {image : Record} (h : c.liveImage? id = some image) :
    ∃ slot, c.buffer.slot? id = some slot ∧ slot.isDeleted = false := by
  obtain ⟨slot, hslot, himage⟩ := Option.bind_eq_some_iff.mp h
  refine ⟨slot, hslot, ?_⟩
  cases hdeleted : slot.isDeleted with
  | false => rfl
  | true => simp [hdeleted] at himage

/-- An update is meant for a live row, with values for columns of the result. -/
theorem suits_of_updateIntent? (h : c.updateIntent? b supplied key row id = some i) :
    i.Suits .updated c := by
  unfold updateIntent? at h
  obtain ⟨image, himage, h⟩ := Option.bind_eq_some_iff.mp h
  split at h
  · cases h
  · cases h
  next assignments _ hassignments =>
    obtain ⟨request, -, rfl⟩ := Option.map_eq_some_iff.mp h
    refine ⟨live_of_liveImage? himage, fun _ hset a ha => ?_, rfl⟩
    cases hset
    obtain ⟨column, hcolumn⟩ := Bindings.mem_columnsOf_of_assignments hassignments ha
    exact (List.getElem?_eq_some_iff.mp (ResultDescriptor.mem_columnsOf.mp hcolumn).1).1

/-- A deletion is meant for a live row. -/
theorem suits_of_deleteIntent? (h : c.deleteIntent? key id = some i) : i.Suits .deleted c := by
  unfold deleteIntent? at h
  obtain ⟨image, himage, h⟩ := Option.bind_eq_some_iff.mp h
  obtain ⟨request, -, rfl⟩ := Option.map_eq_some_iff.mp h
  exact ⟨live_of_liveImage? himage, fun _ hset => (by cases hset), rfl⟩

end Cursor

/-- Whatever an operation means to do to a row suits the cursor. -/
theorem Operation.suits_of_intent? {operation : Operation} {key : KeySet} {supplied : Supplied}
    {b : Bindings} (c : Cursor) (row : Nat) (i : Intent)
    (h : operation.intent? key supplied b c row = some i) : i.Suits operation.statusLeft c := by
  unfold intent? at h
  split at h
  · obtain ⟨id, -, h⟩ := Option.bind_eq_some_iff.mp h
    exact Cursor.suits_of_updateIntent? h
  · obtain ⟨id, -, h⟩ := Option.bind_eq_some_iff.mp h
    exact Cursor.suits_of_deleteIntent? h
  · obtain ⟨id, -, h⟩ := Option.bind_eq_some_iff.mp h
    exact Cursor.suits_of_updateIntent? h
  · obtain ⟨id, -, h⟩ := Option.bind_eq_some_iff.mp h
    exact Cursor.suits_of_deleteIntent? h
  · cases h

namespace Intent

/-- What becomes of the slot. -/
def overwritten (i : Intent) (slot : RowSlot) : RowSlot :=
  (slot.apply (i.set.getD [])).withStatus i.status

theorem change_buffer (i : Intent) (c : Cursor) :
    (i.change c).buffer = c.buffer.modify i.id i.overwritten := by
  obtain ⟨id, set, request⟩ := i
  cases set with
  | none => rfl
  | some assignments => rfl

end Intent

namespace Turn

variable {σ : Type} {t : Turn σ} {c : Cursor} {id : SlotId} {status : RowStatus}

/-- What a turn assigned to a slot. -/
def assigned (t : Turn σ) (id : SlotId) : List (Nat × Value) :=
  match t.attempt with
  | some a => if a.intent.id = id ∧ a.affected ≠ 0 then a.intent.set.getD [] else []
  | none => []

/-- A turn that does not change a slot leaves it. -/
theorem slot?_change_of_not_changes (h : ¬ t.Changes id) :
    (t.change c).buffer.slot? id = c.buffer.slot? id := by
  unfold Turn.change
  split
  next a ha =>
    unfold Attempt.change
    split
    · rfl
    next hcount =>
      have hother : id ≠ a.intent.id := by
        rintro rfl
        exact h ⟨a, ha, rfl, Nat.pos_of_ne_zero hcount⟩
      rw [Intent.change_buffer, RowBuffer.slot?_modify_of_ne _ hother]
  · rfl

/-- A turn that does not change a slot assigns nothing to it. -/
theorem assigned_of_not_changes (h : ¬ t.Changes id) : t.assigned id = [] := by
  unfold assigned
  split
  next a ha =>
    refine if_neg ?_
    rintro ⟨hid, hcount⟩
    exact h ⟨a, ha, hid, Nat.pos_of_ne_zero hcount⟩
  · rfl

/-- A slot is overwritten with what the turn assigned to it. -/
theorem exists_slot (hsuits : ∀ a, t.attempt = some a → a.intent.Suits status c) {slot : RowSlot}
    (hslot : c.buffer.slot? id = some slot) :
    ∃ slot', (t.change c).buffer.slot? id = some slot' ∧
      slot.Overwritten status (t.Changes id) (t.assigned id) slot' := by
  by_cases hchanges : t.Changes id
  · obtain ⟨a, ha, rfl, hcount⟩ := hchanges
    have hne : a.affected ≠ 0 := Nat.pos_iff_ne_zero.mp hcount
    have hassigned : t.assigned a.intent.id = a.intent.set.getD [] := by
      rw [assigned, ha]
      exact if_pos ⟨rfl, hne⟩
    have hchange : t.change c = a.intent.change c := by
      rw [Turn.change, ha]
      exact if_neg hne
    rw [hassigned, hchange, Intent.change_buffer]
    exact ⟨a.intent.overwritten slot, RowBuffer.slot?_modify_self _ hslot, rfl, rfl, rfl,
      fun _ => (hsuits a ha).status, fun h => absurd ⟨a, ha, rfl, hcount⟩ h⟩
  · rw [slot?_change_of_not_changes hchanges, assigned_of_not_changes hchanges]
    exact ⟨slot, hslot, .refl status hchanges slot⟩

/-- A turn does to the cursor what a static cursor may undergo. -/
theorem staticSteps (hsuits : ∀ a, t.attempt = some a → a.intent.Suits status c) :
    Cursor.StaticSteps c (t.change c) := by
  unfold Turn.change
  split
  next a ha =>
    unfold Attempt.change
    split
    · exact .refl
    · unfold Intent.change
      split
      · obtain ⟨slot, hslot, hlive⟩ := (hsuits a ha).live
        refine .single (.write c _ _ fun slot' hslot' => ?_)
        cases hslot.symm.trans hslot'
        exact hlive
      · exact .single (.delete c _)
  · exact .refl

theorem resident_change (t : Turn σ) (c : Cursor) :
    (t.change c).buffer.resident = c.buffer.resident := by
  unfold Turn.change
  split
  · unfold Attempt.change
    split
    · rfl
    · rw [Intent.change_buffer]
      exact Cursor.resident_modify _ _ _
  · rfl

/-- A bookmark that names a row after a turn named it before. -/
theorem mem_live {entry : Bookmark × SlotId} (h : entry ∈ (t.change c).bookmarks.live) :
    entry ∈ c.bookmarks.live := by
  unfold Turn.change at h
  split at h
  next a _ =>
    unfold Attempt.change at h
    split at h
    · exact h
    · unfold Intent.change at h
      split at h
      · exact h
      · exact Cursor.mem_live_of_retire h
  · exact h

end Turn

namespace InTurn

variable {σ : Type} {intent? : Cursor → Nat → Option Intent} {status : RowStatus} {c : Cursor}
  {turns : List (Turn σ)} {id : SlotId}

/-- What was assigned to a slot by some turns, in their order. -/
def assigned (turns : List (Turn σ)) (id : SlotId) : List (Nat × Value) :=
  turns.flatMap fun t => t.assigned id

/-- What is attempted in the first turn suits the cursor. -/
theorem suits {t : Turn σ} {rest : List (Turn σ)}
    (hsuits : ∀ c row i, intent? c row = some i → i.Suits status c)
    (h : InTurn intent? c (t :: rest)) (a : Attempt σ) (ha : t.attempt = some a) :
    a.intent.Suits status c := by
  have hintent := h.1
  rw [ha] at hintent
  exact hsuits c t.row a.intent hintent.symm

theorem staticSteps (hsuits : ∀ c row i, intent? c row = some i → i.Suits status c)
    (h : InTurn intent? c turns) : Cursor.StaticSteps c (c.afterTurns turns) := by
  induction turns generalizing c with
  | nil => exact .refl
  | cons t rest ih => exact (Turn.staticSteps (h.suits hsuits)).trans (ih h.2)

/-- A slot is overwritten with what the turns assigned to it. -/
theorem exists_slot (hsuits : ∀ c row i, intent? c row = some i → i.Suits status c)
    (h : InTurn intent? c turns) {slot : RowSlot} (hslot : c.buffer.slot? id = some slot) :
    ∃ slot', (c.afterTurns turns).buffer.slot? id = some slot' ∧
      slot.Overwritten status (∃ t ∈ turns, t.Changes id) (assigned turns id) slot' := by
  induction turns generalizing c slot with
  | nil => exact ⟨slot, hslot, .refl status (by simp) slot⟩
  | cons t rest ih =>
      obtain ⟨between, hbetween, hfirst⟩ := Turn.exists_slot (h.suits hsuits) hslot
      obtain ⟨last, hlast, hrest⟩ := ih h.2 hbetween
      refine ⟨last, hlast, ?_⟩
      rw [show (∃ other ∈ t :: rest, other.Changes id) =
        (t.Changes id ∨ ∃ other ∈ rest, other.Changes id) by simp]
      exact hfirst.trans hrest

theorem resident_afterTurns (c : Cursor) (turns : List (Turn σ)) :
    (c.afterTurns turns).buffer.resident = c.buffer.resident := by
  induction turns generalizing c with
  | nil => rfl
  | cons t rest ih => exact (ih _).trans (t.resident_change c)

/-- A slot that no turn changes is left as it was. -/
theorem slot?_afterTurns (c : Cursor) (hnone : ∀ t ∈ turns, ¬ t.Changes id) :
    (c.afterTurns turns).buffer.slot? id = c.buffer.slot? id := by
  induction turns generalizing c with
  | nil => rfl
  | cons t rest ih =>
      obtain ⟨hfirst, hrest⟩ := List.forall_mem_cons.mp hnone
      exact (ih (t.change c) hrest).trans (Turn.slot?_change_of_not_changes hfirst)

/-- A slot that is changed is one of those there were. -/
theorem lt_resident (hsuits : ∀ c row i, intent? c row = some i → i.Suits status c)
    (h : InTurn intent? c turns) {t : Turn σ} (ht : t ∈ turns) (hchanges : t.Changes id) :
    id < c.buffer.resident := by
  induction turns generalizing c with
  | nil => cases ht
  | cons first rest ih =>
      rcases List.mem_cons.mp ht with rfl | ht
      · obtain ⟨a, ha, rfl, -⟩ := hchanges
        obtain ⟨slot, hslot, -⟩ := (h.suits hsuits a ha).live
        exact RowBuffer.lt_resident_of_slot? hslot
      · rw [← first.resident_change c]
        exact ih h.2 ht

theorem mem_live (h : InTurn intent? c turns) {entry : Bookmark × SlotId}
    (hentry : entry ∈ (c.afterTurns turns).bookmarks.live) : entry ∈ c.bookmarks.live := by
  induction turns generalizing c with
  | nil => exact hentry
  | cons t rest ih => exact Turn.mem_live (ih h.2 hentry)

end InTurn

/-! ## What turns are reported as -/

/-- A report counts the rows that its turn changed. -/
theorem Turn.Reported.affected {σ : Type} {t : Turn σ} {r : RowReport} (h : t.Reported r) :
    r.affected = t.affected := by
  unfold RowReport.affected Turn.affected
  cases hattempt : t.attempt with
  | none =>
      rcases h.unsent hattempt with hresult | ⟨e, hresult⟩
      all_goals
        rw [hresult]
        rfl
  | some a =>
      rw [h.attempted a hattempt]
      unfold Attempt.result
      change _ = a.affected
      unfold Attempt.affected
      cases a.answer with
      | error e => rfl
      | ok answer =>
          dsimp only
          by_cases hnone : answer.affected = 0
          · rw [if_pos hnone, hnone]
          · rw [if_neg hnone]

namespace RowReport

variable {r : RowReport} {reports : List RowReport}

end RowReport

/-- What an answer says out of the ordinary is the only record about its row. -/
theorem Turn.Reported.diagnostic? {σ : Type} {t : Turn σ} {r : RowReport} (h : t.Reported r)
    {a : Attempt σ} (ha : t.attempt = some a) {answer : WriteAnswer}
    (hanswer : a.answer = .ok answer) :
    r.diagnostic? =
      if answer.affected = 0 then some (RowReport.noRows.forRow t.row)
      else if 1 < answer.affected then some (RowReport.moreThanOneRow.forRow t.row)
      else none := by
  have hresult := h.attempted a ha
  unfold Attempt.result at hresult
  rw [hanswer] at hresult
  dsimp only at hresult
  unfold RowReport.diagnostic?
  rw [hresult, h.row]
  by_cases hnone : answer.affected = 0
  · rw [if_pos hnone, if_pos hnone]
  · rw [if_neg hnone, if_neg hnone]

/-! ## Operations -/

namespace Work

open Cursor (Ledger Marked Addressable StaticSteps)

variable {σ : Type} {w after : Work σ} {operation : Operation} {supplied : Supplied}
  {o : OperationOutcome}

/-- What a cursor that looks at its rows again after some turns has kept of a row's bookmark. -/
theorem ofSlot?_afterTurns {intent? : Cursor → Nat → Option Intent} {status : RowStatus}
    {c : Cursor} {turns : List (Turn σ)} {id : SlotId}
    (hsuits : ∀ c row i, intent? c row = some i → i.Suits status c)
    (hturns : InTurn intent? c turns) (hledger : Ledger c)
    (hscrolls : c.kind.isScrollable = true) (hsize : Addressable c)
    (hlive : (∃ t ∈ turns, t.Changes id) → status = .updated) :
    (c.afterTurns turns).bookmarks.ofSlot? id = c.bookmarks.ofSlot? id := by
  have hsteps := (hturns.staticSteps hsuits).changes
  have hsize' : Addressable (c.afterTurns turns) := by
    rw [Addressable, InTurn.resident_afterTurns]
    exact hsize
  cases hbefore : c.bookmarks.ofSlot? id with
  | none =>
      cases hafter : (c.afterTurns turns).bookmarks.ofSlot? id with
      | none => rfl
      | some b =>
          have hmem := hturns.mem_live (Bookmarks.mem_live_of_ofSlot? hafter)
          exact absurd rfl (Bookmarks.ofSlot?_eq_none hbefore _ hmem)
  | some b =>
      have hmem := Bookmarks.mem_live_of_ofSlot? hbefore
      have hstatus : (c.afterTurns turns).slotStatus id ≠ .deleted := by
        have hold : c.slotStatus id ≠ .deleted := hledger.notDeleted _ hmem
        obtain ⟨slot, hslot⟩ : ∃ slot, c.buffer.slot? id = some slot :=
          ⟨_, List.getElem?_eq_getElem (hledger.live _ hmem)⟩
        obtain ⟨slot', hslot', hover⟩ := hturns.exists_slot hsuits hslot
        rw [Cursor.slotStatus, hslot']
        rw [Cursor.slotStatus, hslot] at hold
        by_cases hchanged : ∃ t ∈ turns, t.Changes id
        · change slot'.status ≠ .deleted
          rw [hover.status hchanged, hlive hchanged]
          exact RowStatus.noConfusion
        · rwa [hover.kept hchanged]
      have hnamed := Cursor.named_of_changes hledger hscrolls hsteps hsize'
        (Cursor.named_of_ofSlot? hbefore)
      exact (hledger.of_changes hscrolls hsteps hsize').ofSlot?_of_named hnamed hstatus

end Work

end ScrollCursor
