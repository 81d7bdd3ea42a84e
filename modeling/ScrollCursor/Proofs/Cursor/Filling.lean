import ScrollCursor.Proofs.Cursor.Pulling

/-! # Buffers of results without failures

Where no row fails, the buffer is the beginning of the result, and a demand makes it as long as it
asks for, as far as there are rows and the limit leaves them.
-/

namespace ScrollCursor

namespace RowBuffer

/-- The buffer into which just these rows were pulled. -/
def filled (rows : List Record) (ended : Bool) : RowBuffer :=
  { ({} : RowBuffer).appendAll rows with exhausted := ended }

@[simp] theorem count_filled (rows : List Record) (ended : Bool) :
    (filled rows ended).count = rows.length := by
  change (({} : RowBuffer).appendAll rows).count = _
  rw [count_appendAll]
  exact Nat.zero_add _

@[simp] theorem exhausted_filled (rows : List Record) (ended : Bool) :
    (filled rows ended).exhausted = ended := rfl

theorem appendAll_withExhausted (b : RowBuffer) (ended : Bool) (rows : List Record) :
    { b with exhausted := ended }.appendAll rows =
      { b.appendAll rows with exhausted := ended } := by
  induction rows generalizing b with
  | nil => rfl
  | cons row rows ih => exact ih (b.append row)

theorem appendAll_filled (rows more : List Record) (ended : Bool) :
    (filled rows ended).appendAll more = filled (rows ++ more) ended := by
  have happend : ({} : RowBuffer).appendAll (rows ++ more) =
      (({} : RowBuffer).appendAll rows).appendAll more := List.foldl_append
  rw [filled, filled, happend, appendAll_withExhausted]

/-- The row of a position is in the slot numbered one less. -/
theorem slot?_filled {rows : List Record} (ended : Bool) {p : Nat} (hp : 0 < p) :
    (filled rows ended).slot? (p - 1) =
      rows[p - 1]?.map fun row => RowSlot.fresh row .success (some p) := by
  have hposition : p - 1 + 1 = p := Nat.sub_add_cancel hp
  change (({} : RowBuffer).appendAll rows).slots[p - 1]? = _
  rw [slots_appendAll, List.nil_append, List.getElem?_mapIdx]
  simp [count, hposition]

/-- A known position has the slot numbered one less. -/
theorem slotAt?_filled {rows : List Record} (ended : Bool) {p : Nat}
    (hp : 0 < p ∧ p ≤ rows.length) : (filled rows ended).slotAt? p = some (p - 1) := by
  obtain ⟨i, rfl⟩ : ∃ i, p = i + 1 := ⟨p - 1, by omega⟩
  have hat := ({} : RowBuffer).slotAt?_appendAll (show i < rows.length by omega)
  have hknown : ({} : RowBuffer).count = 0 := rfl
  have hresident : ({} : RowBuffer).resident = 0 := rfl
  rwa [hknown, hresident, Nat.zero_add] at hat

/-- Positions in a row have slots in a row. -/
theorem slotsBetween_filled {rows : List Record} (ended : Bool) {first last : Nat}
    (hfirst : 0 < first) (hlast : last ≤ rows.length) :
    (filled rows ended).slotsBetween first last =
      (List.range' first (last + 1 - first)).map fun p => some (p - 1) := by
  rw [slotsBetween]
  refine List.map_congr_left fun p hp => ?_
  obtain ⟨i, hi, rfl⟩ := List.mem_range'.mp hp
  exact slotAt?_filled ended (by omega)

end RowBuffer

namespace Demand

/-- How many of so many rows are known once the demand is met, so many being known before. -/
def reached (demand : Demand) (total known : Nat) : Nat :=
  match demand with
  | .upTo position => max known (min position total)
  | .everything => total

/-- The demand goes beyond the last row. -/
def passes (demand : Demand) (total : Nat) : Bool :=
  match demand with
  | .upTo position => total < position
  | .everything => true

variable {demand : Demand} {total known : Nat}

theorem exceeds_eq_passes (demand : Demand) (total : Nat) :
    demand.exceeds total = demand.passes total := by
  cases demand <;> rfl

theorem reached_self (demand : Demand) (total : Nat) : demand.reached total total = total := by
  cases demand with
  | upTo position => exact Nat.max_eq_left (Nat.min_le_right _ _)
  | everything => rfl

/-- With enough rows a demand is met where it is. -/
theorem reached_of_enough (hknown : known ≤ total) (h : demand.exceeds known = false) :
    demand.reached total known = known ∧ demand.passes total = false := by
  cases demand with
  | upTo position =>
      simp only [exceeds, decide_eq_false_iff_not] at h
      simp only [reached, passes, decide_eq_false_iff_not]
      omega
  | everything => cases h

/-- One row more does not change where a demand will be met. -/
theorem reached_succ (hknown : known < total) (h : demand.exceeds known = true) :
    demand.reached total (known + 1) = demand.reached total known := by
  cases demand with
  | upTo position =>
      simp only [exceeds, decide_eq_true_eq] at h
      simp only [reached]
      omega
  | everything => rfl

/-- A demand is met between the known rows and all of them. -/
theorem reached_bounds (demand : Demand) (hknown : known ≤ total) :
    known ≤ demand.reached total known ∧ demand.reached total known ≤ total := by
  cases demand with
  | upTo position =>
      simp only [reached]
      omega
  | everything => exact ⟨hknown, Nat.le_refl _⟩

/-- A demand for more than there is takes all rows. -/
theorem reached_of_passes (hknown : known ≤ total) (h : demand.passes total = true) :
    demand.reached total known = total := by
  cases demand with
  | upTo position =>
      simp only [passes, decide_eq_true_eq] at h
      simp only [reached]
      omega
  | everything => rfl

end Demand

/-- The number of rows that a limit leaves. -/
def limited (limit : Option Nat) (count : Nat) : Nat :=
  match limit with
  | none => count
  | some n => min n count

/-- A limit leaves no more rows than there are. -/
theorem limited_le (limit : Option Nat) (count : Nat) : limited limit count ≤ count := by
  cases limit with
  | none => exact Nat.le_refl _
  | some n => exact Nat.min_le_right _ _

/-- Before the last of the rows that it leaves the limit is not met. -/
theorem any_of_lt_limited {limit : Option Nat} {count known : Nat}
    (h : known < limited limit count) : limit.any (· ≤ known) = false := by
  cases limit with
  | none => rfl
  | some n => simpa using (show known < n from Nat.lt_of_lt_of_le h (Nat.min_le_left _ _))

/-- Where the limit is not met by the last row, it leaves all of them. -/
theorem limited_of_not_any {limit : Option Nat} {count : Nat}
    (h : limit.any (· ≤ limited limit count) = false) : limited limit count = count := by
  cases limit with
  | none => rfl
  | some n =>
      have hmore : ¬ n ≤ min n count := of_decide_eq_false h
      exact Nat.min_eq_right (by omega)

namespace Pulled

open RowBuffer (filled)

variable {all : List Record} {limit : Option Nat} {demand : Demand} {buffer : RowBuffer} {k : Nat}

/-- With more demanded than is known, only the limit settles it. -/
theorem settled?_of_exceeds (hopen : buffer.exhausted = false)
    (hmore : demand.exceeds buffer.count = true) :
    settled? limit demand buffer =
      if limit.any (· ≤ buffer.count) = true then some buffer.markExhausted else none := by
  simp [settled?, hopen, hmore]

/-- The call that finds no row, unless the end is known or the limit keeps from making it. -/
def lastCall (limit : Option Nat) (demand : Demand) (total : Nat) (ended : Bool) : Nat :=
  if !ended && demand.passes total && !limit.any (· ≤ total) then 1 else 0

/-- Nothing is asked for beyond an end that is known. -/
@[simp] theorem lastCall_of_ended (limit : Option Nat) (demand : Demand) (total : Nat) :
    lastCall limit demand total true = 0 := rfl

/-- Nothing is asked for beyond what is demanded. -/
theorem lastCall_of_passes_eq_false {total : Nat} {ended : Bool}
    (h : demand.passes total = false) : lastCall limit demand total ended = 0 := by
  simp [lastCall, h]

/-- Nothing is asked for beyond the limit. -/
theorem lastCall_of_any {total : Nat} {ended : Bool} (h : limit.any (· ≤ total) = true) :
    lastCall limit demand total ended = 0 := by
  simp [lastCall, h]

/-- The call that found no row, if the end is known and not for the limit. -/
def endCall (limit : Option Nat) (total : Nat) (ended : Bool) : Nat :=
  if ended && !limit.any (· ≤ total) then 1 else 0

/-- The end is found with one call, whichever demand goes beyond it. -/
theorem endCall_add_lastCall (limit : Option Nat) (demand : Demand) (total : Nat) (ended : Bool) :
    endCall limit total ended + lastCall limit demand total ended =
      endCall limit total (ended || demand.passes total) := by
  unfold endCall lastCall
  cases ended <;> cases demand.passes total <;> cases limit.any (· ≤ total) <;> rfl

/-- Where all rows that the limit leaves are known, a demand for more finds the end. -/
theorem run_of_last (demand : Demand) (hknown : buffer.count = limited limit all.length)
    (hopen : buffer.exhausted = false) (asked : Nat) :
    run limit demand ((all.drop buffer.count).map .ok) buffer asked =
      ⟨(all.drop buffer.count).map .ok,
        { buffer with exhausted := demand.passes (limited limit all.length) },
        asked + lastCall limit demand (limited limit all.length) buffer.exhausted, none⟩ := by
  rw [lastCall, ← hknown, ← Demand.exceeds_eq_passes, hopen]
  cases hmore : demand.exceeds buffer.count with
  | false =>
      rw [run_of_ended (Or.inr hmore), ← hopen]
      simp
  | true =>
      have hsettled : settled? limit demand buffer = _ := settled?_of_exceeds hopen hmore
      cases hlimit : limit.any (· ≤ buffer.count) with
      | true =>
          rw [hlimit, if_pos rfl] at hsettled
          rw [run_of_settled? hsettled]
          rfl
      | false =>
          rw [hlimit, if_neg Bool.false_ne_true] at hsettled
          have hnone : all.drop buffer.count = [] := by
            rw [hknown] at hlimit ⊢
            rw [limited_of_not_any hlimit, List.drop_length]
          rw [hnone, List.map_nil, run_nil hsettled]
          rfl

/-- Pulling from a result without failures adds as many rows as are demanded and there, one with
each call. A last call finds that there are no more. -/
theorem run_rows (demand : Demand) (hknown : buffer.count ≤ limited limit all.length)
    (hended : buffer.exhausted = true → buffer.count = limited limit all.length) (asked : Nat) :
    let total := limited limit all.length
    let more := demand.reached total buffer.count - buffer.count
    run limit demand ((all.drop buffer.count).map .ok) buffer asked =
      ⟨(all.drop (buffer.count + more)).map .ok,
        { buffer.appendAll ((all.drop buffer.count).take more) with
          exhausted := buffer.exhausted || demand.passes total },
        asked + more + lastCall limit demand total buffer.exhausted, none⟩ := by
  dsimp only
  cases hopen : buffer.exhausted with
  | true =>
      have hlast := hended hopen
      rw [run_of_exhausted _ _ hopen, ← hlast, Demand.reached_self, lastCall_of_ended, Nat.sub_self,
        List.take_zero, RowBuffer.appendAll_nil, Bool.true_or, ← hopen]
      rfl
  | false =>
      clear hended
      rw [Bool.false_or]
      -- The number of rows that are still to come goes down to the end or to the demand.
      induction hleft : limited limit all.length - buffer.count generalizing buffer asked with
      | zero =>
          have hlast : buffer.count = limited limit all.length := by omega
          rw [run_of_last demand hlast hopen, ← hlast, Demand.reached_self, Nat.sub_self,
            List.take_zero, RowBuffer.appendAll_nil, hopen]
          rfl
      | succ left ih =>
          cases hmore : demand.exceeds buffer.count with
          | false =>
              obtain ⟨hsame, hpasses⟩ := Demand.reached_of_enough hknown hmore
              rw [run_of_ended (Or.inr hmore), hsame, lastCall_of_passes_eq_false hpasses, hpasses,
                Nat.sub_self, List.take_zero, RowBuffer.appendAll_nil, ← hopen]
              rfl
          | true =>
              have hlt : buffer.count < limited limit all.length := by omega
              have hin : buffer.count < all.length := Nat.lt_of_lt_of_le hlt (limited_le _ _)
              have hsettled : settled? limit demand buffer = _ := settled?_of_exceeds hopen hmore
              rw [any_of_lt_limited hlt, if_neg Bool.false_ne_true] at hsettled
              have hpush := RowBuffer.count_append buffer all[buffer.count]
              have hnext := @ih (buffer.append all[buffer.count]) (by omega) (asked + 1) hopen
                (by omega)
              rw [hpush, Demand.reached_succ hlt hmore] at hnext
              have hreached := (demand.reached_bounds (show buffer.count + 1 ≤ _ from hlt)).1
              rw [Demand.reached_succ hlt hmore] at hreached
              obtain ⟨more, hcount⟩ := Nat.exists_eq_add_of_le hreached
              have hfirst : buffer.count + 1 + more - buffer.count = more + 1 := by omega
              have hrest : buffer.count + 1 + more - (buffer.count + 1) = more := by omega
              rw [hcount, hrest] at hnext
              rw [List.drop_eq_getElem_cons hin, List.map_cons, run_ok hsettled, hnext, hcount,
                hfirst, List.take_succ_cons, RowBuffer.appendAll_cons,
                Nat.add_right_comm buffer.count, Nat.add_right_comm asked]
              rfl

/-- Pulling from a result without failures leads to as many rows as are demanded and there. -/
theorem run_filled (demand : Demand) {all : List Record} {ended : Bool}
    (hk : k ≤ limited limit all.length)
    (hended : ended = true → k = limited limit all.length) (asked : Nat) :
    (run limit demand ((all.drop k).map .ok) (filled (all.take k) ended) asked).failure = none ∧
      (run limit demand ((all.drop k).map .ok) (filled (all.take k) ended) asked).stream =
        (all.drop (demand.reached (limited limit all.length) k)).map .ok ∧
      (run limit demand ((all.drop k).map .ok) (filled (all.take k) ended) asked).buffer =
        filled (all.take (demand.reached (limited limit all.length) k))
          (ended || demand.passes (limited limit all.length)) := by
  have htotal := limited_le limit all.length
  have hreached := (Demand.reached_bounds demand hk).1
  have hknown : (filled (all.take k) ended).count = k := by
    rw [RowBuffer.count_filled, List.length_take]
    omega
  have hrun : run limit demand ((all.drop (filled (all.take k) ended).count).map .ok)
      (filled (all.take k) ended) asked = _ :=
    run_rows demand (by rwa [hknown]) (by rwa [hknown]) asked
  rw [hknown] at hrun
  rw [hrun, Nat.add_sub_cancel' hreached]
  refine ⟨rfl, rfl, ?_⟩
  rw [RowBuffer.appendAll_filled, ← List.take_add, Nat.add_sub_cancel' hreached]
  rfl

end Pulled

end ScrollCursor
