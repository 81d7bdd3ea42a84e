import Mathlib.Order.Nat
import ScrollCursor.Proofs.Buffer.Rows

/-! # Positions in a buffer

A buffer numbers its rows twice: a slot by the order in which rows were stored, a position by the
order in which they came from the result, counted from the base. The two agree after every run of
calls, with rows that have no position stored in between and rows dropped up to any position: the
positions after the base up to the known ones each have a slot of their own, that of the row which
was pushed for the position. They agree as long as a row that is pushed finds a position left: the
one after the last machine word is zero again, where no slot is found.
-/

namespace ScrollCursor

/-- A call on a row buffer. A row may be changed but not moved. -/
inductive BufferCall where
  | push (values : Record)
  | pushDetached (values : Record) (status : RowStatus)
  | change (id : SlotId) (f : RowSlot → RowSlot) (hplace : ∀ slot, (f slot).position = slot.position)
  | markExhausted
  | discardThrough (position : UInt64)
  | clear

namespace BufferCall

/-- The call drops the rows that are there. -/
def drops : BufferCall → Bool
  | .discardThrough _ | .clear => true
  | _ => false

end BufferCall

namespace RowBuffer

def perform (b : RowBuffer) : BufferCall → RowBuffer
  | .push values => b.push values
  | .pushDetached values status => b.pushDetached values status
  | .change id f _ => b.modify id f
  | .markExhausted => b.markExhausted
  | .discardThrough position => b.discardThrough position.toNat
  | .clear => b.clear

/-- The buffer after some calls, the last one first. -/
def after : List BufferCall → RowBuffer
  | [] => {}
  | call :: before => (after before).perform call

/-- Each row that is pushed finds a position left. -/
def HasRoom (calls : List BufferCall) : Prop :=
  ∀ values later earlier, calls = later ++ .push values :: earlier →
    (after earlier).known + 1 < UInt64.size

variable {b b' b'' : RowBuffer} {call : BufferCall} {calls later earlier : List BufferCall}
  {id : SlotId}

/-- There was room before if there is in the end. -/
theorem HasRoom.of_append (h : HasRoom (later ++ earlier)) : HasRoom earlier :=
  fun values later' earlier' heq =>
    h values (later ++ later') earlier' (by rw [heq, List.append_assoc])

theorem HasRoom.of_cons (h : HasRoom (call :: calls)) : HasRoom calls :=
  @HasRoom.of_append [call] calls h

/-- The call finds room if it pushes a row. -/
def Fits (b : RowBuffer) (call : BufferCall) : Prop :=
  ∀ values, call = .push values → b.count + 1 < UInt64.size

/-- With room for it a pushed row takes the next position. -/
theorem perform_push {values : Record} (h : Fits b (.push values)) :
    b.perform (.push values) = b.append values :=
  push_eq_append values (h values rfl)

/-- A call that finds room does not go past the last position. -/
theorem count_perform_lt (hcount : b.count < UInt64.size) (h : Fits b call) :
    (b.perform call).count < UInt64.size := by
  cases call with
  | push values =>
      rw [perform_push h, count_append]
      exact h values rfl
  | pushDetached | change | markExhausted => exact hcount
  | discardThrough position =>
      refine Nat.max_lt.mpr ⟨position.toNat_lt, ?_⟩
      exact (Nat.le_add_right _ _).trans_lt hcount
  | clear => exact (by decide : 0 < UInt64.size)

/-- With room for all rows no position has gone round. -/
theorem HasRoom.count_lt (h : HasRoom calls) : (after calls).count < UInt64.size := by
  induction calls with
  | nil => exact (by decide : 0 < UInt64.size)
  | cons call calls ih =>
      have hcount := ih h.of_cons
      refine count_perform_lt hcount fun values hpush => ?_
      rw [← known_eq_count hcount]
      exact h values [] calls (congrArg (· :: calls) hpush)

/-- With room for all rows the known positions are those counted. -/
theorem HasRoom.known_eq (h : HasRoom calls) : (after calls).known = (after calls).count :=
  known_eq_count h.count_lt

/-- With room for all rows there is room for the next. -/
theorem HasRoom.fits (h : HasRoom (call :: calls)) : Fits (after calls) call := by
  intro values hpush
  rw [← h.of_cons.known_eq]
  exact h values [] calls (congrArg (· :: calls) hpush)

/-! ## What is kept until rows are dropped -/

/-- The second buffer has the rows of the first one in their places. -/
structure Extends (b b' : RowBuffer) : Prop where
  base : b'.base = b.base
  count : b.count ≤ b'.count
  resident : b.resident ≤ b'.resident
  slotAt : ∀ position, position ≤ b.count → b'.slotAt? position = b.slotAt? position
  place : ∀ id < b.resident,
    (b'.slot? id).map RowSlot.position = (b.slot? id).map RowSlot.position

theorem Extends.refl (b : RowBuffer) : Extends b b :=
  ⟨rfl, le_rfl, le_rfl, fun _ _ => rfl, fun _ _ => rfl⟩

theorem Extends.trans (h : Extends b b') (h' : Extends b' b'') : Extends b b'' where
  base := h'.base.trans h.base
  count := h.count.trans h'.count
  resident := h.resident.trans h'.resident
  slotAt position hcount :=
    (h'.slotAt position (hcount.trans h.count)).trans (h.slotAt position hcount)
  place id hid := (h'.place id (hid.trans_le h.resident)).trans (h.place id hid)

/-- A call that drops no rows keeps the positions given and the slots. -/
theorem extends_perform (hfits : Fits b call) (h : call.drops = false) :
    Extends b (b.perform call) := by
  cases call with
  | push values =>
      rw [perform_push hfits]
      refine ⟨rfl, ?_, ?_, fun _ => slotAt?_append values, fun id hid => ?_⟩
      · exact (Nat.le_succ _).trans_eq (count_append b values).symm
      · exact (Nat.le_succ _).trans_eq (resident_append b values).symm
      · exact congrArg _ (slot?_append values hid)
  | pushDetached values status =>
      refine ⟨rfl, le_rfl, ?_, fun _ _ => rfl, fun id hid => ?_⟩
      · exact (Nat.le_succ _).trans_eq (resident_pushDetached b values status).symm
      · exact congrArg _ (slot?_pushDetached values status hid)
  | change other f hplace =>
      refine ⟨rfl, le_rfl, ?_, fun _ _ => rfl, fun id _ => ?_⟩
      · exact (List.length_modify f b.slots other).ge
      · rw [perform, slot?_modify, Option.map_map]
        congr 1
        funext slot
        by_cases hid : other = id
        · simp [hid, hplace]
        · simp [hid]
  | markExhausted => exact ⟨rfl, le_rfl, le_rfl, fun _ _ => rfl, fun _ _ => rfl⟩
  | discardThrough position => cases h
  | clear => cases h

/-- Calls that drop no rows keep the positions given and the slots. -/
theorem extends_after (hroom : HasRoom (later ++ earlier))
    (h : ∀ call ∈ later, call.drops = false) :
    Extends (after earlier) (after (later ++ earlier)) := by
  induction later with
  | nil => exact .refl _
  | cons call later ih =>
      obtain ⟨hcall, hlater⟩ := List.forall_mem_cons.mp h
      exact (ih hroom.of_cons hlater).trans (extends_perform hroom.fits hcall)

/-- A call that was made after some others, and no call since has dropped its row. -/
structure Held (calls : List BufferCall) (call : BufferCall) (later earlier : List BufferCall) :
    Prop where
  split : calls = later ++ call :: earlier
  held : ∀ other ∈ later, other.drops = false

variable {values : Record} {status : RowStatus}

theorem Held.cons {other : BufferCall} (h : Held calls call later earlier)
    (hother : other.drops = false) : Held (other :: calls) call (other :: later) earlier :=
  ⟨congrArg _ h.split, List.forall_mem_cons.mpr ⟨hother, h.held⟩⟩

theorem Held.extends (h : Held calls call later earlier) (hroom : HasRoom calls) :
    Extends ((after earlier).perform call) (after calls) := by
  have hrun := h.split ▸ hroom
  rw [h.split]
  exact extends_after hrun h.held

end RowBuffer

end ScrollCursor
