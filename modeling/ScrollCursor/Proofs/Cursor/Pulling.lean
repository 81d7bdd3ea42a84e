import ScrollCursor.Cursor.Fetch
import ScrollCursor.Proofs.Buffer.Rows

/-! # Pulling rows

What a fetch takes from the stream joins the buffer row by row, each in a slot of its own at
the next position. Pulling stops at the end of the result or of the demand, or at a row that
cannot be delivered.
-/

namespace ScrollCursor

namespace Pulled

variable {limit : Option Nat} {demand : Demand} {stream : RowStream} {buffer : RowBuffer}
  {asked : Nat}

theorem settled?_eq_some {settled : RowBuffer} (h : settled? limit demand buffer = some settled) :
    (settled = buffer ∨ settled = buffer.markExhausted) ∧
      (settled.exhausted = true ∨ demand.exceeds settled.count = false) := by
  unfold settled? at h
  split at h
  next hdone =>
    cases h
    refine ⟨Or.inl rfl, ?_⟩
    simpa using hdone
  next =>
    split at h
    · cases h
      exact ⟨Or.inr rfl, Or.inl rfl⟩
    · cases h

theorem settled?_eq_none (h : settled? limit demand buffer = none) :
    buffer.exhausted = false ∧ demand.exceeds buffer.count = true := by
  unfold settled? at h
  split at h
  · cases h
  next hdone => simpa using hdone

theorem run_of_settled? {settled : RowBuffer} (h : settled? limit demand buffer = some settled)
    (stream : RowStream) (asked : Nat) :
    run limit demand stream buffer asked = ⟨stream, settled, asked, none⟩ := by
  cases stream <;> simp only [run.eq_def, h]

theorem run_nil (h : settled? limit demand buffer = none) (asked : Nat) :
    run limit demand [] buffer asked = ⟨[], buffer.markExhausted, asked + 1, none⟩ := by
  simp only [run.eq_def, h]

theorem run_error (h : settled? limit demand buffer = none) (e : Error) (rest : RowStream)
    (asked : Nat) :
    run limit demand (.error e :: rest) buffer asked = ⟨rest, buffer, asked + 1, some e⟩ := by
  rw [run.eq_def]
  simp only [h]

theorem run_ok (h : settled? limit demand buffer = none) (row : Record) (rest : RowStream)
    (asked : Nat) :
    run limit demand (.ok row :: rest) buffer asked =
      run limit demand rest (buffer.append row) (asked + 1) := by
  rw [run.eq_def]
  simp only [h]

/-- The rows taken from a stream lie in the buffer, and pulling stopped for a reason. -/
structure TakesFrom (demand : Demand) (stream : RowStream) (buffer : RowBuffer) (p : Pulled)
    (taken : List Record) : Prop where
  buffer_eq : p.buffer = { buffer.appendAll taken with exhausted := p.buffer.exhausted }
  stream_eq : stream = taken.map .ok ++ (p.failure.map .error).toList ++ p.stream
  failed : p.failure.isSome = true →
    p.buffer.exhausted = false ∧ demand.exceeds p.buffer.count = true
  ended : p.failure = none → p.buffer.exhausted = true ∨ demand.exceeds p.buffer.count = false
  count_le : ∀ n, demand = .upTo n → p.buffer.count ≤ max buffer.count n

namespace TakesFrom

variable {p : Pulled} {taken : List Record}

theorem count_eq (h : TakesFrom demand stream buffer p taken) :
    p.buffer.count = buffer.count + taken.length := by
  rw [h.buffer_eq]
  exact RowBuffer.count_appendAll buffer taken

theorem resident_eq (h : TakesFrom demand stream buffer p taken) :
    p.buffer.resident = buffer.resident + taken.length := by
  rw [h.buffer_eq]
  exact RowBuffer.resident_appendAll buffer taken

theorem of_settled {settled : RowBuffer} (h : settled? limit demand buffer = some settled) :
    TakesFrom demand stream buffer ⟨stream, settled, asked, none⟩ [] := by
  obtain ⟨hbuffer, hend⟩ := settled?_eq_some h
  have hknown : settled.count = buffer.count := by
    rcases hbuffer with rfl | rfl <;> rfl
  refine ⟨?_, rfl, by simp, fun _ => hend, fun n _ => ?_⟩
  · rcases hbuffer with rfl | rfl <;> rfl
  · exact hknown ▸ Nat.le_max_left _ _

theorem cons {row : Record} {rest : RowStream}
    (hnone : settled? limit demand buffer = none)
    (h : TakesFrom demand rest (buffer.append row) p taken) :
    TakesFrom demand (.ok row :: rest) buffer p (row :: taken) := by
  refine ⟨h.buffer_eq, ?_, h.failed, h.ended, fun n hn => ?_⟩
  · exact congrArg (List.cons (.ok row)) h.stream_eq
  · have hbound := h.count_le n hn
    have hmore := (settled?_eq_none hnone).2
    rw [RowBuffer.count_append] at hbound
    simp only [hn, Demand.exceeds, decide_eq_true_eq] at hmore
    omega

end TakesFrom

/-- Rows are pulled one after another until a row fails or the buffer is settled. -/
theorem run_takesFrom (limit : Option Nat) (demand : Demand) (stream : RowStream)
    (buffer : RowBuffer) (asked : Nat) :
    ∃ taken, TakesFrom demand stream buffer (run limit demand stream buffer asked) taken := by
  fun_induction run limit demand stream buffer asked with
  | case1 buffer asked settled hsettled | case3 item rest buffer asked settled hsettled =>
      exact ⟨[], .of_settled hsettled⟩
  | case2 buffer asked hmore =>
      exact ⟨[], rfl, rfl, by simp, fun _ => Or.inl rfl, fun n _ => Nat.le_max_left _ _⟩
  | case4 rest buffer asked hmore e =>
      exact ⟨[], rfl, rfl, fun _ => settled?_eq_none hmore, by simp, fun n _ => Nat.le_max_left _ _⟩
  | case5 rest buffer asked hmore row ih =>
      obtain ⟨taken, htaken⟩ := ih
      exact ⟨row :: taken, htaken.cons hmore⟩

/-- Nothing is pulled where the demand is met. -/
theorem run_of_ended (h : buffer.exhausted = true ∨ demand.exceeds buffer.count = false)
    (stream : RowStream) (asked : Nat) :
    run limit demand stream buffer asked = ⟨stream, buffer, asked, none⟩ := by
  refine run_of_settled? ?_ stream asked
  rcases h with h | h <;> simp [settled?, h]

/-- Nothing is pulled once the result is known to its end. -/
theorem run_of_exhausted {limit : Option Nat} {demand : Demand} (stream : RowStream)
    {buffer : RowBuffer} (asked : Nat) (h : buffer.exhausted = true) :
    run limit demand stream buffer asked = ⟨stream, buffer, asked, none⟩ :=
  run_of_ended (Or.inl h) stream asked

end Pulled

end ScrollCursor
