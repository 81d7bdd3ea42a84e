import ScrollCursor.Buffer.Rows

/-! # Rows in a buffer

A row of a result takes the next position and a slot of its own; the rows that are there keep
theirs. A change to one slot leaves the others alone. While positions fit in a machine word, it does
not matter that they are words.
-/

namespace ScrollCursor

namespace RowBuffer

/-- Slots are numbered from zero without a gap. -/
theorem lt_resident_of_slot? {b : RowBuffer} {id : SlotId} {slot : RowSlot}
    (h : b.slot? id = some slot) : id < b.resident :=
  (List.getElem?_eq_some_iff.mp h).1

/-! ## Machine words -/

/-- Below the last machine word the known positions are those counted. -/
theorem known_eq_count {b : RowBuffer} (h : b.count < UInt64.size) : b.known = b.count :=
  word_of_lt h

/-- A row that finds a word left for its position takes the position after the others. -/
theorem push_eq_append {b : RowBuffer} (values : Record) (h : b.count + 1 < UInt64.size) :
    b.push values = b.append values := by
  rw [push, known_eq_count (Nat.lt_of_succ_lt h), word_of_lt h]
  rfl

/-! ## One more row -/

/-- A row that is pulled takes one position. -/
@[simp] theorem count_append (b : RowBuffer) (row : Record) :
    (b.append row).count = b.count + 1 := by
  simp [count, append, place, Nat.add_assoc]

/-- Dropping the rows that are there takes back no position. -/
@[simp] theorem count_discardThrough (b : RowBuffer) : (b.discardThrough b.count).count = b.count :=
  Nat.max_eq_left (Nat.le_add_right _ _)

/-- A row that is pulled takes one slot. -/
@[simp] theorem resident_append (b : RowBuffer) (row : Record) :
    (b.append row).resident = b.resident + 1 := by
  simp [resident, append, place]

/-- The positions that have been given out keep their slots. -/
theorem slotAt?_append {b : RowBuffer} {position : Nat} (values : Record)
    (hcount : position ≤ b.count) : (b.append values).slotAt? position = b.slotAt? position := by
  unfold slotAt?
  change (if position ≤ b.base then none else (b.order ++ [b.nextSlot])[position - b.base - 1]?) = _
  split
  · rfl
  · rw [count] at hcount
    exact List.getElem?_append_left (by omega)

/-- A row without a position leaves the slots there are. -/
theorem slot?_pushDetached {b : RowBuffer} {id : SlotId} (values : Record) (status : RowStatus)
    (h : id < b.resident) : (b.pushDetached values status).slot? id = b.slot? id :=
  List.getElem?_append_left h

theorem resident_pushDetached (b : RowBuffer) (values : Record) (status : RowStatus) :
    (b.pushDetached values status).resident = b.resident + 1 :=
  List.length_append

/-! ## Rows one after another -/

/-- The buffer after some more rows of the result. -/
def appendAll (b : RowBuffer) (rows : List Record) : RowBuffer :=
  rows.foldl append b

@[simp] theorem appendAll_nil (b : RowBuffer) : b.appendAll [] = b := rfl

@[simp] theorem appendAll_cons (b : RowBuffer) (row : Record) (rows : List Record) :
    b.appendAll (row :: rows) = (b.append row).appendAll rows := rfl

@[simp] theorem count_appendAll (b : RowBuffer) (rows : List Record) :
    (b.appendAll rows).count = b.count + rows.length := by
  induction rows generalizing b with
  | nil => rfl
  | cons row rows ih =>
      rw [appendAll_cons, ih, count_append, List.length_cons]
      omega

@[simp] theorem resident_appendAll (b : RowBuffer) (rows : List Record) :
    (b.appendAll rows).resident = b.resident + rows.length := by
  induction rows generalizing b with
  | nil => rfl
  | cons row rows ih =>
      rw [appendAll_cons, ih, resident_append, List.length_cons]
      omega

@[simp] theorem base_appendAll (b : RowBuffer) (rows : List Record) :
    (b.appendAll rows).base = b.base := by
  induction rows generalizing b with
  | nil => rfl
  | cons row rows ih => exact ih (b.append row)

/-- Rows that are pulled get slots in their order, each with its position. -/
theorem slots_appendAll (b : RowBuffer) (rows : List Record) :
    (b.appendAll rows).slots = b.slots ++
      rows.mapIdx fun i row => RowSlot.fresh row .success (some (b.count + i + 1)) := by
  induction rows generalizing b with
  | nil => simp
  | cons row rows ih =>
      rw [appendAll_cons, ih, count_append, List.mapIdx_cons]
      simp [append, place, Nat.add_assoc, Nat.add_comm 1]

/-- The order goes on with the new slots. -/
theorem order_appendAll (b : RowBuffer) (rows : List Record) :
    (b.appendAll rows).order = b.order ++ List.range' b.resident rows.length := by
  induction rows generalizing b with
  | nil => simp
  | cons row rows ih =>
      rw [appendAll_cons, ih, resident_append, List.length_cons, List.range'_succ]
      simp [append, place, nextSlot, resident]

/-- More rows leave the slots that are there alone. -/
theorem slot?_appendAll {b : RowBuffer} {id : SlotId} (rows : List Record) (h : id < b.resident) :
    (b.appendAll rows).slot? id = b.slot? id := by
  rw [slot?, slots_appendAll, List.getElem?_append_left h]
  rfl

/-- Each row takes the next position, and a slot of its own. -/
theorem slotAt?_appendAll (b : RowBuffer) {rows : List Record} {i : Nat} (hi : i < rows.length) :
    (b.appendAll rows).slotAt? (b.count + i + 1) = some (b.resident + i) := by
  have hindex : b.count + i + 1 - b.base - 1 = b.order.length + i := by
    unfold count
    omega
  have hbase : ¬ b.count + i + 1 ≤ b.base := by
    unfold count
    omega
  have hlength : i < (List.range' b.resident rows.length).length := by
    rwa [List.length_range']
  rw [slotAt?, base_appendAll, if_neg hbase, order_appendAll, hindex,
    List.getElem?_append_right (Nat.le_add_right _ _), Nat.add_sub_cancel_left,
    List.getElem?_eq_getElem hlength]
  simp

/-- The new slots hold the rows that were pulled. -/
theorem slot?_appendAll_new (b : RowBuffer) {rows : List Record} {i : Nat} (hi : i < rows.length) :
    (b.appendAll rows).slot? (b.resident + i) =
      some (.fresh rows[i] .success (some (b.count + i + 1))) := by
  rw [slot?, slots_appendAll, resident, List.getElem?_append_right (Nat.le_add_right _ _)]
  simp [hi]

/-- A row that is pulled leaves the slots there are. -/
theorem slot?_append {b : RowBuffer} {id : SlotId} (values : Record) (h : id < b.resident) :
    (b.append values).slot? id = b.slot? id :=
  slot?_appendAll [values] h

/-- A change of a slot leaves the others. -/
theorem slot?_modify (b : RowBuffer) (id : SlotId) (f : RowSlot → RowSlot) (other : SlotId) :
    (b.modify id f).slot? other =
      (b.slot? other).map fun slot => if id = other then f slot else slot :=
  List.getElem?_modify f id b.slots other

theorem slot?_modify_of_ne {b : RowBuffer} {id other : SlotId} (f : RowSlot → RowSlot)
    (h : other ≠ id) : (b.modify id f).slot? other = b.slot? other := by
  rw [slot?_modify]
  simp [Ne.symm h]

theorem slot?_modify_self {b : RowBuffer} {id : SlotId} {slot : RowSlot} (f : RowSlot → RowSlot)
    (h : b.slot? id = some slot) : (b.modify id f).slot? id = some (f slot) := by
  rw [slot?_modify, h]
  simp

end RowBuffer

end ScrollCursor
