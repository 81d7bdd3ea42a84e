import ScrollCursor.Proofs.Cursor.Pulling

/-! # The parts of a fetch

A fetch to a position fails, finds no row there or places the rowset. A cursor that does not read
rows again shows a placed rowset as it is in the buffer.
-/

namespace ScrollCursor

theorem CursorKind.rereads_of_not_isScrollable {kind : CursorKind}
    (h : kind.isScrollable = false) : kind.rereads = false := by
  cases kind <;> first | rfl | cases h

theorem Cursor.size_pos (c : Cursor) : 0 < c.size :=
  Nat.lt_of_lt_of_le Nat.one_pos (Nat.le_max_right _ _)

theorem Cursor.dropBehind_of_isScrollable {c : Cursor} (h : c.kind.isScrollable = true)
    (position : Nat) : c.dropBehind position = c := by
  simp [dropBehind, h]

/-- Where a move leads that does not count from the end does not depend on how many rows there
are. -/
theorem Move.target_of_not_countsFromEnd {move : Move} {afterLast : Bool}
    (h : move.countsFromEnd afterLast = false) {size start : Nat} (total total' : Nat) :
    move.target size start afterLast total = move.target size start afterLast total' := by
  cases move with
  | next | first | fromRow => rfl
  | last => cases h
  | prior =>
      have hbefore : afterLast = false := h
      simp [target, hbefore]
  | absolute n =>
      have hn : ¬ n < 0 := of_decide_eq_false h
      unfold target
      grind
  | relative n =>
      unfold countsFromEnd at h
      unfold target
      grind

namespace Work

variable {σ : Type}

/-- Once the end of the result is known nothing is pulled. -/
theorem pull_of_exhausted {w : Work σ} (h : w.cursor.buffer.exhausted = true) (demand : Demand) :
    w.pull demand = (none, w) := by
  unfold pull
  rw [Pulled.run_of_exhausted _ _ h]
  simp [Link.pulled]

theorem fetchAt_cases (w : Work σ) (position : Nat) {pulled : Option Error × Work σ}
    (h : pulled = (w.onCursor (Cursor.dropBehind · position)).pull
      (.upTo (position + (w.cursor.dropBehind position).size - 1))) :
    (∃ e, pulled.1 = some e ∧ w.fetchAt position = (.error e, pulled.2)) ∨
      (pulled.1 = none ∧ pulled.2.cursor.buffer.count < position ∧
        w.fetchAt position = pulled.2.fetchAfterLast) ∨
      (pulled.1 = none ∧ position ≤ pulled.2.cursor.buffer.count ∧
        w.fetchAt position =
          (pulled.2.onCursor (Cursor.placeRowset · position)).showRowset) := by
  unfold fetchAt
  dsimp only [onCursor] at h ⊢
  rw [← h]
  obtain ⟨failure, after⟩ := pulled
  cases failure with
  | some e => exact Or.inl ⟨e, rfl, rfl⟩
  | none =>
      by_cases hknown : after.cursor.buffer.count < position
      · exact Or.inr (Or.inl ⟨rfl, hknown, if_pos hknown⟩)
      · exact Or.inr (Or.inr ⟨rfl, Nat.not_lt.mp hknown, if_neg hknown⟩)

/-- A static cursor pulls without letting go of anything. -/
theorem fetchAt_cases_of_static (w : Work σ) (position : Nat) (hkind : w.cursor.kind = .static)
    {pulled : Option Error × Work σ}
    (h : pulled = w.pull (.upTo (position + w.cursor.size - 1))) :
    (∃ e, pulled.1 = some e ∧ w.fetchAt position = (.error e, pulled.2)) ∨
      (pulled.1 = none ∧ pulled.2.cursor.buffer.count < position ∧
        w.fetchAt position = pulled.2.fetchAfterLast) ∨
      (pulled.1 = none ∧ position ≤ pulled.2.cursor.buffer.count ∧
        w.fetchAt position =
          (pulled.2.onCursor (Cursor.placeRowset · position)).showRowset) := by
  have hstays : w.cursor.dropBehind position = w.cursor :=
    Cursor.dropBehind_of_isScrollable (by simp [hkind, CursorKind.isScrollable]) position
  refine w.fetchAt_cases position ?_
  rw [h, onCursor, hstays]

theorem showRowset_of_not_rereads {w : Work σ} (h : w.cursor.kind.rereads = false) :
    w.showRowset =
      (.ok w.cursor.syncStatuses.fetchOutcome, w.onCursor Cursor.syncStatuses) := by
  rw [showRowset, h]
  rfl

/-- The rowset is put at a position, or after the last row if the result is shorter. -/
def reach (w : Work σ) (position : Nat) : Except Error FetchOutcome × Work σ :=
  if w.cursor.buffer.count < position then w.fetchAfterLast
  else (w.onCursor (Cursor.placeRowset · position)).showRowset

theorem fetchAt_eq (w : Work σ) (position : Nat) :
    w.fetchAt position =
      match (w.onCursor (Cursor.dropBehind · position)).pull
        (.upTo (position + (w.cursor.dropBehind position).size - 1)) with
      | (some e, v) => (.error e, v)
      | (none, v) => v.reach position :=
  rfl

/-- The fetch has found where it leads. -/
def land (w : Work σ) : Target → Except Error FetchOutcome × Work σ
  | .beforeFirst => (.ok (.noData w.cursor.size false), w.onCursor Cursor.moveBeforeFirst)
  | .afterLast => w.fetchAfterLast
  | .row position => w.fetchAt position

/-- The rows of the result are counted first if the move needs their number. -/
def counted (w : Work σ) (move : Move) : Option Error × Work σ :=
  if move.countsFromEnd w.cursor.afterLast then w.pull .everything else (none, w)

/-- Where the move leads as far as rows are known. -/
def aim (w : Work σ) (move : Move) : Target :=
  move.target w.cursor.size w.cursor.start w.cursor.afterLast w.cursor.buffer.count

theorem fetchMove_eq (w : Work σ) (move : Move) :
    w.fetchMove move =
      match w.counted move with
      | (some e, v) => (.error e, v)
      | (none, v) => v.land (v.aim move) :=
  rfl

theorem fetchMove_cases (w : Work σ) (move : Move) :
    (∃ e, (w.counted move).1 = some e ∧ w.fetchMove move = (.error e, (w.counted move).2)) ∨
      ((w.counted move).1 = none ∧
        w.fetchMove move = (w.counted move).2.land ((w.counted move).2.aim move)) := by
  rw [fetchMove_eq]
  rcases w.counted move with ⟨_ | e, v⟩
  · exact Or.inr ⟨rfl, rfl⟩
  · exact Or.inl ⟨e, rfl, rfl⟩

/-- A cursor that cannot scroll only goes to the next rowset. -/
theorem fetch_of_ne_next {w : Work σ} {orientation : Orientation}
    (hkind : w.cursor.kind.isScrollable = false) (h : orientation ≠ .next) :
    w.fetch orientation =
      (.error (.fetchType "wrong fetch type with forward-only cursor"), w) := by
  simp [fetch, hkind, h]

theorem fetch_of_move {w : Work σ} {orientation : Orientation} {move : Move}
    (hopen : w.cursor.kind.isScrollable = true ∨ orientation = .next)
    (hmove : w.cursor.move orientation = .ok move) :
    w.fetch orientation = w.fetchMove move := by
  have hallowed : (!w.cursor.kind.isScrollable && orientation != .next) = false := by
    rcases hopen with h | h <;> simp [h]
  rw [fetch, hallowed, if_neg Bool.false_ne_true, hmove]

/-- A fetch is refused and leaves everything as it is, or follows the move that its orientation
stands for. -/
theorem fetch_cases (w : Work σ) (orientation : Orientation) :
    (∃ e, w.fetch orientation = (.error e, w)) ∨
      ∃ move, w.cursor.move orientation = .ok move ∧ w.fetch orientation = w.fetchMove move := by
  unfold fetch
  split
  · exact Or.inl ⟨_, rfl⟩
  · cases w.cursor.move orientation with
    | error e => exact Or.inl ⟨e, rfl⟩
    | ok move => exact Or.inr ⟨move, rfl, rfl⟩

/-- What is kept by counting the rows, by leaving them at either end and by landing at a position is
kept by a fetch. -/
theorem fetch_of_parts {P : Work σ → Prop} {w : Work σ} (hself : P w)
    (hcount : P (w.pull .everything).2)
    (hbefore : ∀ v, P v → P (v.onCursor Cursor.moveBeforeFirst))
    (hafter : ∀ v, P v → P (v.onCursor Cursor.moveAfterLast))
    (hat : ∀ v position, P v → P (v.fetchAt position).2) (orientation : Orientation) :
    P (w.fetch orientation).2 := by
  rcases w.fetch_cases orientation with ⟨e, hrefused⟩ | ⟨move, -, hfetch⟩
  · rw [hrefused]
    exact hself
  have hcounted : P (w.counted move).2 := by
    unfold counted
    split
    · exact hcount
    · exact hself
  rw [hfetch]
  rcases w.fetchMove_cases move with ⟨e, -, hfailed⟩ | ⟨-, hland⟩
  · rw [hfailed]
    exact hcounted
  · rw [hland]
    cases (w.counted move).2.aim move with
    | beforeFirst => exact hbefore _ hcounted
    | afterLast => exact hafter _ hcounted
    | row position => exact hat _ position hcounted

end Work

end ScrollCursor
