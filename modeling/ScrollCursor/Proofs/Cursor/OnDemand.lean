import ScrollCursor.MemoryServer
import ScrollCursor.Proofs.Cursor.Filling
import ScrollCursor.Proofs.Cursor.ForwardWalks
import ScrollCursor.Proofs.Cursor.RestOfResult
import ScrollCursor.Proofs.Positioned.Answers

/-! # Rows on demand

From a result without failures a fetch pulls the rows up to the end of its rowset, all of them if it
counts from the end, and none if it leaves the rows on either side. Each call for a row is answered
by the next one, until one call finds the end. After that, and at the limit, there is no further
call.
-/

namespace ScrollCursor

/-- The next row of some result is asked for. -/
def Event.isPull : Event → Bool
  | .pull => true
  | _ => false

/-! ## Rows in the buffer -/

namespace RowBuffer

variable {b b' : RowBuffer} {rows : List Record} {again : List (Option SlotId)} {position : Nat}

/-- The row of a position of the result lies there as it came, unless it has been read again. -/
def Holds (b : RowBuffer) (rows : List Record) (again : List (Option SlotId)) (position : Nat) :
    Prop :=
  ∃ id slot, b.slotAt? position = some id ∧ b.slot? id = some slot ∧
    slot.position = some position ∧
    (some id ∈ again ∨
      ∃ values, rows[position - 1]? = some values ∧ slot = .fresh values .success (some position))

/-- The rows that come next take the positions after those that are known. -/
theorem holds_appendAll (b : RowBuffer) (rows : List Record) {more : Nat}
    (hlater : b.count < position) (hcame : position ≤ b.count + more)
    (hthere : b.count + more ≤ rows.length) :
    (b.appendAll ((rows.drop b.count).take more)).Holds rows [] position := by
  obtain ⟨i, rfl⟩ : ∃ i, position = b.count + i + 1 := ⟨position - b.count - 1, by omega⟩
  have hi : i < ((rows.drop b.count).take more).length := by
    rw [List.length_take, List.length_drop]
    omega
  refine ⟨_, _, b.slotAt?_appendAll hi, b.slot?_appendAll_new hi, rfl, Or.inr ⟨_, ?_, rfl⟩⟩
  rw [List.getElem_take, List.getElem_drop]
  exact List.getElem?_eq_getElem (by omega)

/-- Some rows have been read again, and stay in their places. -/
structure ReadAgain (entries : List (Option SlotId)) (b b' : RowBuffer) : Prop where
  order : b'.order = b.order
  base : b'.base = b.base
  exhausted : b'.exhausted = b.exhausted
  slots : ∀ id slot, b.slot? id = some slot → ∃ slot', b'.slot? id = some slot' ∧
    slot'.position = slot.position ∧ (some id ∈ entries ∨ slot' = slot)

namespace ReadAgain

variable {entries : List (Option SlotId)} {b'' : RowBuffer}

theorem refl (entries : List (Option SlotId)) (b : RowBuffer) : ReadAgain entries b b :=
  ⟨rfl, rfl, rfl, fun _ slot hslot => ⟨slot, hslot, rfl, Or.inr rfl⟩⟩

theorem trans (h : ReadAgain entries b b') (h' : ReadAgain entries b' b'') :
    ReadAgain entries b b'' where
  order := h'.order.trans h.order
  base := h'.base.trans h.base
  exhausted := h'.exhausted.trans h.exhausted
  slots id slot hslot := by
    obtain ⟨slot', hslot', hposition, hread⟩ := h.slots id slot hslot
    obtain ⟨slot'', hslot'', hposition', hread'⟩ := h'.slots id slot' hslot'
    refine ⟨slot'', hslot'', hposition'.trans hposition, ?_⟩
    rcases hread' with hread' | rfl
    · exact Or.inl hread'
    · exact hread

/-- A row of the rowset may be read again in its slot. -/
theorem modify {id : SlotId} {f : RowSlot → RowSlot} (hid : some id ∈ entries)
    (hf : ∀ slot, (f slot).position = slot.position) : ReadAgain entries b (b.modify id f) where
  order := rfl
  base := rfl
  exhausted := rfl
  slots other slot hslot := by
    by_cases hother : other = id
    · subst hother
      exact ⟨f slot, slot?_modify_self f hslot, hf slot, Or.inl hid⟩
    · exact ⟨slot, (slot?_modify_of_ne f hother).trans hslot, rfl, Or.inr rfl⟩

/-- To read rows again pulls none. -/
theorem count_eq (h : ReadAgain entries b b') : b'.count = b.count := by
  rw [count, count, h.order, h.base]

/-- Rows that are read again stand where they did. -/
theorem holds (h : ReadAgain entries b b') (hb : b.Holds rows [] position) :
    b'.Holds rows entries position := by
  obtain ⟨id, slot, hat, hslot, hposition, hcame⟩ := hb
  obtain ⟨slot', hslot', hposition', hread⟩ := h.slots id slot hslot
  refine ⟨id, slot', ?_, hslot', hposition'.trans hposition, ?_⟩
  · rw [slotAt?, h.order, h.base]
    exact hat
  · rcases hread with hread | rfl
    · exact Or.inl hread
    · exact Or.inr (hcame.resolve_left List.not_mem_nil)

end ReadAgain

end RowBuffer

/-- The entries of the rowset, if its rows are read again whenever they are shown. -/
def Cursor.readAgain (c : Cursor) : List (Option SlotId) :=
  if c.kind.rereads then c.rowset else []

namespace Work

open RowBuffer (ReadAgain)

variable {σ : Type}

/-- To read a row again changes a slot of the rowset at most. -/
theorem readAgain_rereadRow (key : KeySet) (w : Work σ) (row : Nat) :
    ReadAgain w.cursor.rowset w.cursor.buffer (rereadRow key w row).cursor.buffer := by
  unfold rereadRow
  split
  · exact .refl _ _
  next id hid =>
    have hshown := Cursor.mem_rowset_of_slotOf? hid
    split
    · exact .refl _ _
    next slot _ =>
      split
      · exact .refl _ _
      · -- The answer is a row, no row or an error.
        split
        · refine .modify hshown fun slot => ?_
          unfold rereadSlot
          dsimp only
          split <;> rfl
        · exact .modify hshown fun _ => rfl
        · exact .modify hshown fun _ => rfl

theorem readAgain_reread (w : Work σ) (rows : List Nat) :
    ReadAgain w.cursor.rowset w.cursor.buffer (w.reread rows).cursor.buffer := by
  have hrows (key : KeySet) (v : Work σ) :
      ReadAgain v.cursor.rowset v.cursor.buffer (rows.foldl (rereadRow key) v).cursor.buffer := by
    induction rows generalizing v with
    | nil => exact .refl _ _
    | cons row rows ih =>
        have hrest := ih (rereadRow key v row)
        rw [(sameStanding_rereadRow key v row).2.2.2.2.2.1] at hrest
        exact (readAgain_rereadRow key v row).trans hrest
  have hkey := w.sameStanding_keySet.2.2.2.2.2.1
  have hbuffer := w.keySet_buffer
  unfold reread
  generalize w.keySet = found at hkey hbuffer ⊢
  obtain ⟨_ | key, after⟩ := found
  · dsimp only at hbuffer ⊢
    rw [hbuffer]
    exact .refl _ _
  · have hread := hrows key after
    rwa [hkey, hbuffer] at hread

/-- A rowset that is shown is read again at most. -/
theorem readAgain_showRowset (w : Work σ) :
    ReadAgain w.cursor.readAgain w.cursor.buffer w.showRowset.2.cursor.buffer := by
  unfold showRowset Cursor.readAgain
  dsimp only
  split
  · exact w.readAgain_reread _
  · exact .refl _ _

end Work

namespace Cursor

/-- How many rows a cursor can come to know of a result. -/
def total (c : Cursor) (rows : List Record) : Nat :=
  limited c.options.maxRows rows.length

/-- The cursor has pulled rows of a result without failures from its beginning. -/
structure Draws (rows : List Record) (c : Cursor) : Prop where
  stream : c.stream = (rows.drop c.buffer.count).map .ok
  count_le : c.buffer.count ≤ c.total rows
  ended : c.buffer.exhausted = true → c.buffer.count = c.total rows

end Cursor

namespace Work

open Cursor (Draws)
open Event (Asking)
open Pulled (lastCall)
open RowBuffer (ReadAgain)

variable {σ : Type} {w v : Work σ} {rows : List Record} {demand : Demand} {calls : Nat}
  {again : List (Option SlotId)}

/-- A demand has been met with some calls for rows of the result, and some rows have been read again
after that. -/
structure Meets (rows : List Record) (demand : Demand) (calls : Nat)
    (again : List (Option SlotId)) (w v : Work σ) : Prop where
  kind : v.cursor.kind = w.cursor.kind
  options : v.cursor.options = w.cursor.options
  stream : v.cursor.stream = (rows.drop v.cursor.buffer.count).map .ok
  count : v.cursor.buffer.count = demand.reached (w.cursor.total rows) w.cursor.buffer.count
  ended : v.cursor.buffer.exhausted =
    (w.cursor.buffer.exhausted || demand.passes (w.cursor.total rows))
  holds : ∀ position, w.cursor.buffer.count < position → position ≤ v.cursor.buffer.count →
    v.cursor.buffer.Holds rows again position
  events : ∃ more, Asking more ∧
    v.link.events = w.link.events ++ List.replicate calls .pull ++ more
  calls : calls = v.cursor.buffer.count - w.cursor.buffer.count +
    lastCall w.cursor.options.maxRows demand (w.cursor.total rows) w.cursor.buffer.exhausted

/-- The fetch succeeds, and meets a demand on the way. -/
def FetchMeets (rows : List Record) (demand : Demand) (w : Work σ)
    (fetched : Except Error FetchOutcome × Work σ) : Prop :=
  (∃ outcome, fetched.1 = .ok outcome) ∧
    ∃ calls, Meets rows demand calls fetched.2.cursor.readAgain w fetched.2

namespace Meets

/-- There are as many rows as before to come from the result. -/
theorem total_eq (h : Meets rows demand calls again w v) :
    v.cursor.total rows = w.cursor.total rows := by
  rw [Cursor.total, Cursor.total, h.options]

/-- Nothing is demanded, and nothing is done. -/
theorem refl (h : Draws rows w.cursor) : Meets rows (.upTo 0) 0 [] w w where
  kind := rfl
  options := rfl
  stream := h.stream
  count := by simp [Demand.reached]
  ended := by simp [Demand.passes]
  holds position hlater hknown := absurd hknown (Nat.not_le.mpr hlater)
  events := ⟨[], .nil, by simp⟩
  calls := by simp [Pulled.lastCall_of_passes_eq_false, Demand.passes]

/-- The cursor is moved or told something, and keeps its rows. -/
theorem moved (h : Meets rows demand calls again w v) {u : Work σ}
    (hkind : u.cursor.kind = v.cursor.kind) (hoptions : u.cursor.options = v.cursor.options)
    (hstream : u.cursor.stream = v.cursor.stream) (hbuffer : u.cursor.buffer = v.cursor.buffer)
    (hlink : u.link = v.link) : Meets rows demand calls again w u where
  kind := hkind.trans h.kind
  options := hoptions.trans h.options
  stream := by rw [hstream, hbuffer, h.stream]
  count := by rw [hbuffer, h.count]
  ended := by rw [hbuffer, h.ended]
  holds := by
    rw [hbuffer]
    exact h.holds
  events := by
    rw [hlink]
    exact h.events
  calls := by
    rw [hbuffer]
    exact h.calls

/-- The rows that were known before may have been let go of before the demand was met. -/
theorem of_dropBehind {position : Nat}
    (h : Meets rows demand calls again (w.onCursor (Cursor.dropBehind · position)) v) :
    Meets rows demand calls again w v := by
  obtain ⟨hkind, hoptions, -⟩ := Cursor.sameStanding_dropBehind w.cursor position
  have hknown := w.cursor.count_dropBehind position
  have hended := w.cursor.exhausted_dropBehind position
  have htotal : (w.cursor.dropBehind position).total rows = w.cursor.total rows := by
    rw [Cursor.total, Cursor.total, hoptions]
  obtain ⟨hk, ho, hstream, hreached, hend, hholds, hevents, hcalls⟩ := h
  simp only [Work.onCursor, hkind, hoptions] at hk ho
  simp only [Work.onCursor, hknown, hended, htotal, hoptions] at hreached hend hholds hcalls
  exact ⟨hk, ho, hstream, hreached, hend, hholds, hevents, hcalls⟩

/-- The rows of the rowset are read again if the cursor does so, and shown. -/
theorem showRowset (h : Meets rows demand calls [] w v) :
    Meets rows demand calls v.showRowset.2.cursor.readAgain w v.showRowset.2 := by
  obtain ⟨hkind, hoptions, -, -, -, hrowset, -, -⟩ :=
    v.sameStanding_rereadIf (List.range' 1 v.cursor.rowset.length) (v.cursor.kind.rereads = true)
  have hread := v.readAgain_showRowset
  have hagain : v.showRowset.2.cursor.readAgain = v.cursor.readAgain := by
    have hkind' : v.showRowset.2.cursor.kind = v.cursor.kind := hkind
    have hrowset' : v.showRowset.2.cursor.rowset = v.cursor.rowset := hrowset
    rw [Cursor.readAgain, Cursor.readAgain, hkind', hrowset']
  obtain ⟨read, hasking, hshown⟩ := v.showRowset_withRest
  obtain ⟨more, hmore, hevents⟩ := h.events
  have hafter := hshown v.cursor.stream v.link.events
  refine ⟨hkind.trans h.kind, hoptions.trans h.options, ?_, hread.count_eq.trans h.count,
    hread.exhausted.trans h.ended, fun position hlater hknown => ?_, ?_, ?_⟩
  · rw [hread.count_eq, ← h.stream]
    exact congrArg (fun r => r.2.cursor.stream) hafter
  · rw [hread.count_eq] at hknown
    rw [hagain]
    exact hread.holds (h.holds position hlater hknown)
  · refine ⟨more ++ read, hmore.append hasking, ?_⟩
    rw [← List.append_assoc, ← hevents]
    exact congrArg (fun r => r.2.link.events) hafter
  · rw [hread.count_eq]
    exact h.calls

/-- The rows are as they came where no rowset is left. -/
theorem leave (h : Meets rows demand calls [] w v) {f : Cursor → Cursor}
    (hkind : (f v.cursor).kind = v.cursor.kind) (hoptions : (f v.cursor).options = v.cursor.options)
    (hstream : (f v.cursor).stream = v.cursor.stream)
    (hbuffer : (f v.cursor).buffer = v.cursor.buffer) (hrowset : (f v.cursor).rowset = []) :
    Meets rows demand calls (v.onCursor f).cursor.readAgain w (v.onCursor f) := by
  have hnone : (v.onCursor f).cursor.readAgain = [] := by
    change (if (f v.cursor).kind.rereads then (f v.cursor).rowset else []) = []
    rw [hrowset, ite_self]
  rw [hnone]
  exact h.moved hkind hoptions hstream hbuffer rfl

/-- The rowset is put at a position, once what is demanded for it is there. -/
theorem reach (h : Meets rows demand calls [] w v) (position : Nat) :
    FetchMeets rows demand w (v.reach position) := by
  unfold Work.reach
  split
  · exact ⟨⟨_, rfl⟩, calls, h.leave rfl rfl rfl rfl rfl⟩
  · have hplaced : Meets rows demand calls [] w (v.onCursor (Cursor.placeRowset · position)) :=
      h.moved rfl rfl rfl rfl rfl
    exact ⟨⟨_, rfl⟩, calls, hplaced.showRowset⟩

/-- Where all rows are known, nothing more is pulled on the way to a rowset. -/
theorem land (h : Meets rows demand calls [] w v) (hkind : v.cursor.kind.isScrollable = true)
    (hall : v.cursor.buffer.exhausted = true) (target : Target) :
    FetchMeets rows demand w (v.land target) := by
  cases target with
  | beforeFirst | afterLast => exact ⟨⟨_, rfl⟩, calls, h.leave rfl rfl rfl rfl rfl⟩
  | row position =>
      have hdrop : v.onCursor (Cursor.dropBehind · position) = v := by
        rw [Work.onCursor, Cursor.dropBehind_of_isScrollable hkind]
      rw [Work.land, fetchAt_eq, hdrop, pull_of_exhausted hall]
      exact h.reach position

/-- A cursor goes on to draw from the same rows. -/
theorem draws (hw : Draws rows w.cursor) (h : Meets rows demand calls again w v) :
    Draws rows v.cursor where
  stream := h.stream
  count_le := by
    rw [h.total_eq, h.count]
    exact (demand.reached_bounds hw.count_le).2
  ended hend := by
    rw [h.ended, Bool.or_eq_true] at hend
    rw [h.total_eq, h.count]
    rcases hend with hend | hpasses
    · rw [hw.ended hend, Demand.reached_self]
    · exact Demand.reached_of_passes hw.count_le hpasses

end Meets

/-- A pull meets the demand with the calls that it needs. -/
theorem pull_meets (h : Draws rows w.cursor) (demand : Demand) :
    (w.pull demand).1 = none ∧ ∃ calls, Meets rows demand calls [] w (w.pull demand).2 := by
  obtain ⟨hreached, htotal⟩ := demand.reached_bounds h.count_le
  have hthere := Nat.le_trans htotal (limited_le w.cursor.options.maxRows rows.length)
  have hrun := Pulled.run_rows demand h.count_le h.ended 0
  rw [← h.stream] at hrun
  obtain ⟨more, hmore⟩ : ∃ more, more = demand.reached (w.cursor.total rows) w.cursor.buffer.count -
    w.cursor.buffer.count := ⟨_, rfl⟩
  have hstream : (w.pull demand).2.cursor.stream =
      (rows.drop (w.cursor.buffer.count + more)).map .ok := by
    rw [hmore]
    exact congrArg Pulled.stream hrun
  have hbuffer : (w.pull demand).2.cursor.buffer =
      { w.cursor.buffer.appendAll ((rows.drop w.cursor.buffer.count).take more) with
        exhausted := w.cursor.buffer.exhausted || demand.passes (w.cursor.total rows) } := by
    rw [hmore]
    exact congrArg Pulled.buffer hrun
  have hlink : (w.pull demand).2.link = w.link.pulled (more + lastCall w.cursor.options.maxRows
      demand (w.cursor.total rows) w.cursor.buffer.exhausted) := by
    rw [hmore, ← Nat.zero_add (_ - _)]
    exact congrArg (fun p => w.link.pulled p.asked) hrun
  have hknown : (w.pull demand).2.cursor.buffer.count = w.cursor.buffer.count + more := by
    rw [hbuffer]
    change (w.cursor.buffer.appendAll _).count = _
    rw [RowBuffer.count_appendAll, List.length_take, List.length_drop]
    omega
  refine ⟨congrArg Pulled.failure hrun, more + lastCall w.cursor.options.maxRows demand
      (w.cursor.total rows) w.cursor.buffer.exhausted, rfl, rfl, ?_, ?_, ?_,
    fun position hlater hcame => ?_, ⟨[], .nil, ?_⟩, ?_⟩
  · rw [hknown, hstream]
  · rw [hknown]
    omega
  · rw [hbuffer]
  · rw [hbuffer]
    exact w.cursor.buffer.holds_appendAll rows hlater (hknown ▸ hcame) (by omega)
  · rw [hlink, List.append_nil]
    rfl
  · rw [hknown]
    omega

/-! ## Fetches -/

/-- What a move demands: every row if it counts from the end, and the rows up to the end of its
rowset if it leads to one. -/
def demanded (w : Work σ) (move : Move) : Demand :=
  if move.countsFromEnd w.cursor.afterLast then .everything
  else
    match w.aim move with
    | .row position => .upTo (position + w.cursor.size - 1)
    | .beforeFirst | .afterLast => .upTo 0

/-- A rowset is shown with no more rows than it and those before it. -/
theorem fetchAt_meets (h : Draws rows w.cursor) (position : Nat) :
    FetchMeets rows (.upTo (position + w.cursor.size - 1)) w (w.fetchAt position) := by
  have hdrop : Draws rows (w.cursor.dropBehind position) := by
    obtain ⟨-, hoptions, -⟩ := Cursor.sameStanding_dropBehind w.cursor position
    refine ⟨?_, ?_, ?_⟩
    all_goals simp only [Cursor.total, Cursor.count_dropBehind, Cursor.exhausted_dropBehind,
      Cursor.stream_dropBehind, hoptions]
    exacts [h.stream, h.count_le, h.ended]
  obtain ⟨hok, calls, hmeets⟩ := pull_meets (w := w.onCursor (Cursor.dropBehind · position)) hdrop
    (.upTo (position + w.cursor.size - 1))
  rw [fetchAt_eq, Cursor.size_dropBehind]
  generalize (w.onCursor _).pull _ = pulled at hok hmeets ⊢
  obtain ⟨_, after⟩ := pulled
  cases hok
  exact hmeets.of_dropBehind.reach position

/-- A move pulls what it demands. -/
theorem fetchMove_meets (h : Draws rows w.cursor) {move : Move}
    (hkind : w.cursor.kind.isScrollable = true ∨ move.countsFromEnd w.cursor.afterLast = false) :
    FetchMeets rows (w.demanded move) w (w.fetchMove move) := by
  rw [fetchMove_eq, demanded, counted]
  cases hcounts : move.countsFromEnd w.cursor.afterLast with
  | true =>
      obtain ⟨hok, calls, hmeets⟩ := pull_meets h .everything
      have hscrolls := hkind.resolve_right (by simp [hcounts])
      rw [if_pos rfl, if_pos rfl]
      generalize w.pull .everything = pulled at hok hmeets ⊢
      obtain ⟨_, after⟩ := pulled
      cases hok
      refine hmeets.land (hmeets.kind ▸ hscrolls) ?_ _
      rw [hmeets.ended]
      exact Bool.or_true _
  | false =>
      have hrefl := Meets.refl h
      rw [if_neg Bool.false_ne_true, if_neg Bool.false_ne_true]
      dsimp only
      cases w.aim move with
      | beforeFirst | afterLast => exact ⟨⟨_, rfl⟩, 0, hrefl.leave rfl rfl rfl rfl rfl⟩
      | row position => exact fetchAt_meets h position

/-- A fetch is refused and does nothing, or it follows its move and meets what that demands. -/
theorem fetch_meets (h : Draws rows w.cursor) (orientation : Orientation) :
    (∃ e, w.fetch orientation = (.error e, w)) ∨
      ∃ move, w.cursor.move orientation = .ok move ∧
        FetchMeets rows (w.demanded move) w (w.fetch orientation) := by
  rcases w.fetch_cases orientation with hrefused | ⟨move, hmove, hfetch⟩
  · exact Or.inl hrefused
  cases hkind : w.cursor.kind.isScrollable with
  | true =>
      rw [hfetch]
      exact Or.inr ⟨move, hmove, fetchMove_meets h (Or.inl hkind)⟩
  | false =>
      by_cases hnext : orientation = .next
      · subst hnext
        cases hmove
        rw [hfetch]
        exact Or.inr ⟨.next, rfl, fetchMove_meets h (Or.inr rfl)⟩
      · exact Or.inl ⟨_, fetch_of_ne_next hkind hnext⟩

/-! ## Calls for rows -/

/-- How many times the fetch asks for the next row of the result. It does so before it asks for
anything else. -/
def rowCalls (w : Work σ) (orientation : Orientation) : Nat :=
  (((w.fetch orientation).2.link.events.drop w.link.events.length).takeWhile Event.isPull).length

/-- How many times some fetches ask for the next row of the result. -/
def rowCallsOf (w : Work σ) : List Orientation → Nat
  | [] => 0
  | o :: rest => w.rowCalls o + (w.fetch o).2.rowCallsOf rest

/-- A fetch that is refused asks for no row. -/
theorem rowCalls_of_refused {orientation : Orientation} {e : Error}
    (h : w.fetch orientation = (.error e, w)) : w.rowCalls orientation = 0 := by
  simp [rowCalls, h]

/-- A fetch asks for as many rows as it meets its demand with. -/
theorem rowCalls_of_meets {orientation : Orientation}
    (h : Meets rows demand calls again w (w.fetch orientation).2) :
    w.rowCalls orientation = calls := by
  obtain ⟨more, hmore, hevents⟩ := h.events
  have hpulls : ∀ event ∈ List.replicate calls Event.pull, event.isPull = true := by
    intro event hevent
    rw [List.eq_of_mem_replicate hevent]
    rfl
  have hnone : more.takeWhile Event.isPull = [] := by
    cases more with
    | nil => rfl
    | cons event rest =>
        cases event with
        | pull => exact absurd rfl hmore
        | query | execute | metadata => rfl
  rw [rowCalls, hevents, List.append_assoc, List.drop_left, List.takeWhile_append_of_pos hpulls,
    hnone, List.append_nil, List.length_replicate]

end Work

namespace Cursor

variable {c : Cursor} {rows : List Record} {calls : Nat}

/-- The cursor knows the rows that so many calls were given, and the end if one was given none. -/
structure Called (rows : List Record) (calls : Nat) (c : Cursor) : Prop extends Draws rows c where
  calls_eq : calls = c.buffer.count +
    Pulled.endCall c.options.maxRows (c.total rows) c.buffer.exhausted

namespace Called

/-- Nothing has been asked for when the cursor is opened. -/
theorem opened (kind : CursorKind) (dialect : Dialect) (options : StatementOptions)
    (descriptor : ResultDescriptor) (rows : List Record) :
    Called rows 0 (Cursor.opened kind dialect options ⟨descriptor, rows.map .ok⟩) where
  stream := rfl
  count_le := Nat.zero_le _
  ended := nofun
  calls_eq := rfl

/-- There is one call at most beyond those for the rows. -/
theorem le_succ (h : Called rows calls c) : calls ≤ c.total rows + 1 := by
  have hknown := h.count_le
  have hcalls := h.calls_eq
  unfold Pulled.endCall at hcalls
  split at hcalls <;> omega

/-- The end is not looked for where the limit leaves no further row. -/
theorem le_limit (h : Called rows calls c) {limit : Nat} (hlimit : c.options.maxRows = some limit) :
    calls ≤ limit := by
  have hknown := h.count_le
  have hcalls := h.calls_eq
  have htotal : c.total rows ≤ limit := by
    rw [Cursor.total, hlimit]
    exact Nat.min_le_left _ _
  unfold Pulled.endCall at hcalls
  split at hcalls
  next hend =>
    rw [hlimit, Bool.and_eq_true, Bool.not_eq_true', Option.any_some,
      decide_eq_false_iff_not] at hend
    omega
  next => omega

/-- A call more than there are rows has found the end. -/
theorem count_eq (h : Called rows calls c) :
    c.buffer.count = min calls rows.length ∧
      (rows.length < calls → c.buffer.exhausted = true) := by
  have hknown := h.count_le
  have hle : c.total rows ≤ rows.length := limited_le _ _
  have hcalls := h.calls_eq
  unfold Pulled.endCall at hcalls
  split at hcalls
  next hend =>
    rw [Bool.and_eq_true, Bool.not_eq_true'] at hend
    have hall : c.total rows = rows.length := limited_of_not_any hend.2
    have hlast := h.ended hend.1
    exact ⟨by omega, fun _ => hend.1⟩
  next => exact ⟨by omega, fun _ => by omega⟩

end Called

end Cursor

namespace Work

open Cursor (Called)

variable {σ : Type} {w v : Work σ} {rows : List Record} {demand : Demand} {calls more : Nat}
  {again : List (Option SlotId)}

/-- The calls of a fetch are added to those before. -/
theorem Meets.called (h : Meets rows demand more again w v) (hw : Called rows calls w.cursor) :
    Called rows (calls + more) v.cursor where
  toDraws := h.draws hw.toDraws
  calls_eq := by
    have hreached := (demand.reached_bounds hw.count_le).1
    have hcalls := hw.calls_eq
    have hmore := h.calls
    have hend := Pulled.endCall_add_lastCall w.cursor.options.maxRows demand (w.cursor.total rows)
      w.cursor.buffer.exhausted
    rw [← h.count] at hreached
    rw [h.options, h.total_eq, h.ended, ← hend]
    omega

/-- Nothing is asked for once the end has been found or the limit been reached. -/
theorem Meets.calls_eq_zero (h : Meets rows demand more again w v)
    (hw : Called rows calls w.cursor)
    (hend : rows.length < calls ∨ w.cursor.options.maxRows.any (· ≤ w.cursor.buffer.count) = true) :
    more = 0 := by
  have hknown := h.count
  have hmore := h.calls
  rcases hend with hend | hlimit
  · have hexhausted := hw.count_eq.2 hend
    rw [hw.ended hexhausted, Demand.reached_self] at hknown
    rw [hknown, hw.ended hexhausted, Nat.sub_self, hexhausted, Pulled.lastCall_of_ended] at hmore
    exact hmore
  · have hlast : w.cursor.buffer.count = w.cursor.total rows := by
      refine Nat.le_antisymm hw.count_le (Nat.le_of_not_lt fun hlt => ?_)
      rw [any_of_lt_limited hlt] at hlimit
      cases hlimit
    rw [hlast] at hlimit
    rw [hlast, Demand.reached_self] at hknown
    rw [hknown, hlast, Nat.sub_self, Pulled.lastCall_of_any hlimit] at hmore
    exact hmore

/-- Fetches are made of the changes there are. -/
theorem fetches_changes (w : Work σ) (orientations : List Orientation) :
    Cursor.Changes w.cursor (w.fetches orientations).2.cursor := by
  induction orientations generalizing w with
  | nil => exact .refl
  | cons o rest ih => exact (w.fetch_changes o).trans (ih _)

/-- Over any fetches the calls add up. -/
theorem fetches_called (hw : Called rows calls w.cursor) (orientations : List Orientation) :
    Called rows (calls + w.rowCallsOf orientations) (w.fetches orientations).2.cursor := by
  induction orientations generalizing w calls with
  | nil => exact hw
  | cons o rest ih =>
      rw [rowCallsOf, ← Nat.add_assoc]
      refine ih (w := (w.fetch o).2) ?_
      rcases fetch_meets hw.toDraws o with ⟨e, hrefused⟩ | ⟨move, -, -, more, hmeets⟩
      · rw [rowCalls_of_refused hrefused, hrefused]
        exact hw
      · rw [rowCalls_of_meets hmeets]
        exact hmeets.called hw

/-- Over any run of fetches from a result without failures: a fetch that succeeds makes as many rows
known as its move demands, each at its position; and the next row is asked for once for each row
that is known and once for the end, but not after that and not beyond the limit. -/
theorem fetches_onDemand (w : Work σ) (kind : CursorKind) (dialect : Dialect)
    (options : StatementOptions) (descriptor : ResultDescriptor) (rows : List Record)
    (before : List Orientation) (orientation : Orientation) :
    let opened := w.opening kind dialect options ⟨descriptor, rows.map .ok⟩
    let here := (opened.fetches before).2
    let there := (here.fetch orientation).2
    let calls := opened.rowCallsOf before
    let total := limited options.maxRows rows.length
    (∀ outcome, (here.fetch orientation).1 = .ok outcome →
      ∃ move, here.cursor.move orientation = .ok move ∧
        there.cursor.buffer.count = (here.demanded move).reached total here.cursor.buffer.count ∧
        ∀ position, here.cursor.buffer.count < position → position ≤ there.cursor.buffer.count →
          there.cursor.buffer.Holds rows there.cursor.readAgain position) ∧
      here.cursor.buffer.count = min calls rows.length ∧ calls ≤ total + 1 ∧
      (∀ limit, options.maxRows = some limit → calls ≤ limit) ∧
      (rows.length < calls ∨ options.maxRows.any (· ≤ here.cursor.buffer.count) = true →
        here.rowCalls orientation = 0) := by
  intro opened here there calls total
  have hopened : Called rows 0 opened.cursor := .opened _ _ _ _ _
  have hcalled : Called rows calls here.cursor := by
    have hrun := fetches_called hopened before
    rwa [Nat.zero_add] at hrun
  have hoptions : here.cursor.options = { options with cursorKind := kind } :=
    (opened.fetches_changes before).sameFrame.2.2.1
  have htotal : here.cursor.total rows = total := by rw [Cursor.total, hoptions]
  refine ⟨fun outcome houtcome => ?_, hcalled.count_eq.1, htotal ▸ hcalled.le_succ,
    fun limit hlimit => ?_, fun hend => ?_⟩
  · rcases fetch_meets hcalled.toDraws orientation with
      ⟨e, hrefused⟩ | ⟨move, hmove, -, more, hmeets⟩
    · rw [hrefused] at houtcome
      cases houtcome
    · exact ⟨move, hmove, htotal ▸ hmeets.count, hmeets.holds⟩
  · refine hcalled.le_limit ?_
    rw [hoptions]
    exact hlimit
  · rcases fetch_meets hcalled.toDraws orientation with
      ⟨e, hrefused⟩ | ⟨move, -, -, more, hmeets⟩
    · exact rowCalls_of_refused hrefused
    · rw [rowCalls_of_meets hmeets]
      refine hmeets.calls_eq_zero hcalled ?_
      rwa [hoptions]

/-- Three rows are asked for with four calls, however often the rowsets are fetched. -/
example : (Work.mk (.opened .static {} { rowArraySize := 2 }
    ⟨[], [.ok [.integer 1], .ok [.integer 2], .ok [.integer 3]]⟩) {} []
      ⟨MemoryServer.server, {}, []⟩).rowCallsOf [.next, .next, .next, .last, .first] = 4 := rfl

end Work

end ScrollCursor
