import ScrollCursor.Proofs.Cursor.FailedFetch
import ScrollCursor.Proofs.Cursor.ForwardWalks
import ScrollCursor.Proofs.Cursor.Inventory
import ScrollCursor.Proofs.Cursor.RestOfResult

/-! # Fetches that are tried again

A row that cannot be delivered is not lost: it comes with one of the next pulls. A fetch that failed
over it and is tried again finds the rows that came before, and leads where it would have led. So as
long as every such fetch is repeated until none of its rows fails, the cursor shows what it shows of
a result without failures.
-/

namespace ScrollCursor

namespace RowStream

/-- The rows that a stream delivers, without the failures between them. -/
def delivered (stream : RowStream) : RowStream :=
  stream.filter Except.isOk

@[simp] theorem delivered_nil : delivered [] = [] := rfl

@[simp] theorem delivered_error (e : Error) (rest : RowStream) :
    delivered (.error e :: rest) = delivered rest := rfl

@[simp] theorem delivered_ok (values : Record) (rest : RowStream) :
    delivered (.ok values :: rest) = .ok values :: delivered rest := rfl

/-- Without its failures a result has none left to be taken out. -/
@[simp] theorem delivered_delivered (stream : RowStream) :
    delivered (delivered stream) = delivered stream := by
  simp [delivered]

/-- No read of the rows that are delivered fails. -/
theorem error_notMem_delivered (stream : RowStream) (e : Error) :
    .error e ∉ delivered stream := by
  simp [delivered, Except.isOk, Except.toBool]

end RowStream

namespace Pulled

open RowStream (delivered)

variable {limit : Option Nat} {demand : Demand} {buffer settled : RowBuffer}

/-- How many rows were asked for before makes no difference to what is pulled. -/
theorem run_asked (limit : Option Nat) (demand : Demand) (stream : RowStream) (buffer : RowBuffer)
    (asked asked' : Nat) :
    (run limit demand stream buffer asked').stream = (run limit demand stream buffer asked).stream ∧
      (run limit demand stream buffer asked').buffer =
        (run limit demand stream buffer asked).buffer := by
  fun_induction run limit demand stream buffer asked generalizing asked' with
  | case1 buffer asked settled hsettled | case3 item rest buffer asked settled hsettled =>
      rw [run_of_settled? hsettled]
      exact ⟨rfl, rfl⟩
  | case2 buffer asked hmore =>
      rw [run_nil hmore]
      exact ⟨rfl, rfl⟩
  | case4 rest buffer asked hmore e =>
      rw [run_error hmore]
      exact ⟨rfl, rfl⟩
  | case5 rest buffer asked hmore row ih =>
      rw [run_ok hmore]
      exact ih _

/-- On the rows that are delivered no pull fails. -/
theorem failure_run_delivered (limit : Option Nat) (demand : Demand) (stream : RowStream)
    (buffer : RowBuffer) (asked : Nat) :
    (run limit demand (delivered stream) buffer asked).failure = none := by
  obtain ⟨taken, htaken⟩ := run_takesFrom limit demand (delivered stream) buffer asked
  cases hfailure : (run limit demand (delivered stream) buffer asked).failure with
  | none => rfl
  | some e =>
      have hmem : .error e ∈ delivered stream := by
        rw [htaken.stream_eq, hfailure]
        simp
      exact absurd hmem (RowStream.error_notMem_delivered stream e)

/-- No failure is left where there was none. -/
theorem delivered_run (limit : Option Nat) (demand : Demand) (stream : RowStream)
    (buffer : RowBuffer) (asked : Nat) :
    delivered (run limit demand (delivered stream) buffer asked).stream =
      (run limit demand (delivered stream) buffer asked).stream := by
  obtain ⟨taken, htaken⟩ := run_takesFrom limit demand (delivered stream) buffer asked
  have hstream := htaken.stream_eq
  rw [failure_run_delivered, Option.map_none, Option.toList_none, List.append_nil] at hstream
  refine List.filter_eq_self.mpr fun item hitem => ?_
  have hmem : item ∈ delivered stream := by
    rw [hstream]
    exact List.mem_append_right _ hitem
  exact (List.mem_filter.mp hmem).2

/-- The rows that are left after a failure, pulled without another one, lead to what all the rows
lead to when none fails. -/
theorem run_resumed (limit : Option Nat) (demand : Demand) (stream : RowStream)
    (buffer : RowBuffer) (asked first second : Nat) :
    let interrupted := run limit demand stream buffer asked
    let resumed := run limit demand (delivered interrupted.stream) interrupted.buffer first
    let whole := run limit demand (delivered stream) buffer second
    resumed.stream = whole.stream ∧ resumed.buffer = whole.buffer := by
  dsimp only
  -- The rows before the failure are pulled in both runs, and each makes the buffer longer.
  fun_induction run limit demand stream buffer asked generalizing first second with
  | case1 buffer asked settled hsettled | case3 item rest buffer asked settled hsettled =>
      rw [run_of_settled? hsettled, run_of_ended (settled?_eq_some hsettled).2]
      exact ⟨rfl, rfl⟩
  | case2 buffer asked hmore =>
      rw [RowStream.delivered_nil, run_nil hmore, run_of_exhausted _ _ rfl]
      exact ⟨rfl, rfl⟩
  | case4 rest buffer asked hmore e =>
      rw [RowStream.delivered_error]
      exact run_asked limit demand (delivered rest) buffer second first
  | case5 rest buffer asked hmore row ih =>
      rw [RowStream.delivered_ok, run_ok hmore]
      exact ih first (second + 1)

/-- A pull without failure has the same rows from the result with failures and from the one without.
-/
theorem run_delivered {stream : RowStream} {asked : Nat}
    (h : (run limit demand stream buffer asked).failure = none) (asked' : Nat) :
    (run limit demand (delivered stream) buffer asked').stream =
        delivered (run limit demand stream buffer asked).stream ∧
      (run limit demand (delivered stream) buffer asked').buffer =
        (run limit demand stream buffer asked).buffer := by
  obtain ⟨taken, htaken⟩ := run_takesFrom limit demand stream buffer asked
  obtain ⟨hstream, hbuffer⟩ := run_resumed limit demand stream buffer asked asked' asked'
  rw [run_of_ended (htaken.ended h)] at hstream hbuffer
  exact ⟨hstream.symm, hbuffer.symm⟩

/-- A pull that fails leaves fewer items to come. -/
theorem length_stream_of_failure {stream : RowStream} {asked : Nat}
    (h : (run limit demand stream buffer asked).failure.isSome = true) :
    (run limit demand stream buffer asked).stream.length < stream.length := by
  obtain ⟨taken, htaken⟩ := run_takesFrom limit demand stream buffer asked
  obtain ⟨e, he⟩ := Option.isSome_iff_exists.mp h
  have hlength := congrArg List.length htaken.stream_eq
  simp only [he, List.length_append, List.length_map, Option.map_some, Option.toList_some,
    List.length_cons, List.length_nil] at hlength
  omega

end Pulled

namespace Work

open Cursor (Forward Reachable)
open RowStream (delivered)

variable {σ : Type} {w v u : Work σ}

/-! ## Works without failures -/

/-- The second work is the first one without the failures that are still to come. -/
def Spares (w v : Work σ) : Prop :=
  ∃ events, v = w.withRest (delivered w.cursor.stream) events

namespace Spares

/-- A cursor is spared the failures that its result still has. -/
theorem spares (w : Work σ) : Spares w (w.withRest (delivered w.cursor.stream) []) :=
  ⟨[], rfl⟩

/-- Two works spared the same failures are spared nothing more. -/
theorem unique (h : Spares w v) (h' : Spares w u) : Spares v u := by
  obtain ⟨events, rfl⟩ := h
  obtain ⟨events', rfl⟩ := h'
  refine ⟨events', ?_⟩
  change _ = w.withRest (delivered (delivered w.cursor.stream)) events'
  rw [RowStream.delivered_delivered]

/-- To be spared failures twice is to be spared them. -/
theorem trans (h : Spares w v) (h' : Spares v u) : Spares w u := by
  obtain ⟨events, rfl⟩ := h
  obtain ⟨events', rfl⟩ := h'
  refine ⟨events', ?_⟩
  change w.withRest (delivered (delivered w.cursor.stream)) events' = _
  rw [RowStream.delivered_delivered]

/-- Both works have the same cursor but for what is left of the result. -/
theorem cursor_eq (h : Spares w v) :
    v.cursor = { w.cursor with stream := delivered w.cursor.stream } := by
  obtain ⟨events, rfl⟩ := h
  rfl

theorem onCursor (h : Spares w v) {f : Cursor → Cursor}
    (hf : ∀ c stream, f { c with stream := stream } = { f c with stream := stream })
    (hstream : (f w.cursor).stream = w.cursor.stream) : Spares (w.onCursor f) (v.onCursor f) := by
  obtain ⟨events, rfl⟩ := h
  refine ⟨events, ?_⟩
  unfold Work.onCursor withRest
  rw [hf, hstream]

theorem showRowset (h : Spares w v) :
    v.showRowset.1 = w.showRowset.1 ∧ Spares w.showRowset.2 v.showRowset.2 := by
  obtain ⟨events, rfl⟩ := h
  obtain ⟨more, -, hshown⟩ := w.showRowset_withRest
  have hself : w.showRowset.2.cursor.stream = w.cursor.stream :=
    congrArg (fun r => r.2.cursor.stream) (hshown w.cursor.stream w.link.events)
  rw [hshown]
  exact ⟨rfl, _, by rw [hself]⟩

/-- The cursor that is spared the failures always gets its rows. -/
theorem pull_fst (h : Spares w v) (demand : Demand) : (v.pull demand).1 = none := by
  obtain ⟨events, rfl⟩ := h
  exact Pulled.failure_run_delivered _ _ _ _ _

theorem pull_eq (h : Spares w v) (demand : Demand) :
    v.pull demand = (none, (v.pull demand).2) :=
  Prod.ext (h.pull_fst demand) rfl

/-- Where no failure is met the same rows are pulled. -/
theorem pull (h : Spares w v) (demand : Demand) (hok : (w.pull demand).1 = none) :
    Spares (w.pull demand).2 (v.pull demand).2 := by
  obtain ⟨hstream, hbuffer⟩ := Pulled.run_delivered hok 0
  obtain ⟨events, rfl⟩ := h
  refine ⟨((w.withRest (delivered w.cursor.stream) events).pull demand).2.link.events, ?_⟩
  unfold withRest Work.pull
  dsimp only
  rw [hstream, hbuffer]
  rfl

/-- What is pulled after a failure has been met leads to what is pulled where there is none. -/
theorem pull_again (h : Spares w v) {demand : Demand} (h' : Spares (w.pull demand).2 u) :
    Spares (u.pull demand).2 (v.pull demand).2 := by
  obtain ⟨hstream, hbuffer⟩ := Pulled.run_resumed w.cursor.options.maxRows demand w.cursor.stream
    w.cursor.buffer 0 0 0
  have hdelivered := Pulled.delivered_run w.cursor.options.maxRows demand w.cursor.stream
    w.cursor.buffer 0
  obtain ⟨events, rfl⟩ := h
  obtain ⟨events', rfl⟩ := h'
  refine ⟨((w.withRest (delivered w.cursor.stream) events).pull demand).2.link.events, ?_⟩
  unfold withRest Work.pull
  dsimp only
  rw [hstream, hbuffer, hdelivered]
  rfl

/-! ## Fetches without failures -/

theorem fetchAfterLast (h : Spares w v) :
    v.fetchAfterLast.1 = w.fetchAfterLast.1 ∧ Spares w.fetchAfterLast.2 v.fetchAfterLast.2 := by
  obtain ⟨events, rfl⟩ := h
  exact ⟨rfl, events, rfl⟩

theorem dropBehind (h : Spares w v) (position : Nat) :
    Spares (w.onCursor (Cursor.dropBehind · position))
      (v.onCursor (Cursor.dropBehind · position)) := by
  refine h.onCursor (fun c stream => ?_) (Cursor.stream_dropBehind w.cursor position)
  unfold Cursor.dropBehind RowBuffer.count
  dsimp only
  split <;> rfl

/-- What follows once the rows of the rowset have been pulled. -/
theorem reach (h : Spares w v) (position : Nat) :
    (v.reach position).1 = (w.reach position).1 ∧
      Spares (w.reach position).2 (v.reach position).2 := by
  have hknown : v.cursor.buffer.count = w.cursor.buffer.count := by rw [h.cursor_eq]
  unfold Work.reach
  rw [hknown]
  split
  · exact h.fetchAfterLast
  · exact (h.onCursor (fun _ _ => rfl) rfl).showRowset

theorem size_dropBehind_eq (h : Spares w v) (position : Nat) :
    (v.cursor.dropBehind position).size = (w.cursor.dropBehind position).size := by
  rw [Cursor.size_dropBehind, Cursor.size_dropBehind, h.cursor_eq]
  rfl

/-- The cursor that is spared the failures shows a rowset anywhere without one. -/
theorem fetchAt_ne_error (h : Spares w v) (position : Nat) (e : Error) :
    (v.fetchAt position).1 ≠ .error e := by
  intro hfailed
  have hpull := fetchAt_error (e := e) (Prod.ext hfailed rfl)
  rw [(h.dropBehind position).pull_eq] at hpull
  cases hpull

/-- A rowset that is shown without failure is the same for both. -/
theorem fetchAt (h : Spares w v) {position : Nat}
    (hok : ∀ e, (w.fetchAt position).1 ≠ .error e) :
    (v.fetchAt position).1 = (w.fetchAt position).1 ∧
      Spares (w.fetchAt position).2 (v.fetchAt position).2 := by
  have hdrop := h.dropBehind position
  rw [fetchAt_eq] at hok
  rw [v.fetchAt_eq, w.fetchAt_eq, h.size_dropBehind_eq, hdrop.pull_eq]
  have hpull := hdrop.pull (.upTo (position + (w.cursor.dropBehind position).size - 1))
  generalize (w.onCursor _).pull _ = pulled at hok hpull ⊢
  obtain ⟨_ | e, after⟩ := pulled
  · exact (hpull rfl).reach position
  · exact absurd rfl (hok e)

theorem move_eq (h : Spares w v) (orientation : Orientation) :
    v.cursor.move orientation = w.cursor.move orientation := by
  rw [h.cursor_eq]
  cases orientation <;> rfl

theorem aim_eq (h : Spares w v) (move : Move) : v.aim move = w.aim move := by
  rw [aim, aim, h.cursor_eq]
  rfl

/-- Both cursors land alike if the one with the failures meets none. -/
theorem land (h : Spares w v) {target : Target} (hok : ∀ e, (w.land target).1 ≠ .error e) :
    (v.land target).1 = (w.land target).1 ∧ Spares (w.land target).2 (v.land target).2 := by
  cases target with
  | beforeFirst =>
      obtain ⟨events, rfl⟩ := h
      exact ⟨rfl, events, rfl⟩
  | afterLast => exact h.fetchAfterLast
  | row position => exact h.fetchAt hok

/-- The cursor that is spared the failures always lands. -/
theorem land_ne_error (h : Spares w v) (target : Target) (e : Error) :
    (v.land target).1 ≠ .error e := by
  cases target with
  | beforeFirst | afterLast => nofun
  | row position => exact h.fetchAt_ne_error position e

theorem counted_fst (h : Spares w v) (move : Move) : (v.counted move).1 = none := by
  unfold counted
  split
  · exact h.pull_fst .everything
  · rfl

/-- If the rows can be counted with the failures, both cursors count the same. -/
theorem counted (h : Spares w v) {move : Move} (hok : (w.counted move).1 = none) :
    Spares (w.counted move).2 (v.counted move).2 := by
  have hafter : v.cursor.afterLast = w.cursor.afterLast := by rw [h.cursor_eq]
  unfold Work.counted at hok ⊢
  rw [hafter]
  split at hok
  next hcounts =>
    rw [if_pos hcounts, if_pos hcounts]
    exact h.pull .everything hok
  next hcounts =>
    rw [if_neg hcounts, if_neg hcounts]
    exact h

/-- A fetch that meets no failure is the same for both cursors. -/
theorem fetchMove (h : Spares w v) {move : Move} (hok : ∀ e, (w.fetchMove move).1 ≠ .error e) :
    (v.fetchMove move).1 = (w.fetchMove move).1 ∧
      Spares (w.fetchMove move).2 (v.fetchMove move).2 := by
  rcases w.fetchMove_cases move with ⟨e, -, hfailed⟩ | ⟨hcounted, hland⟩
  · exact absurd (congrArg Prod.fst hfailed) (hok e)
  · rcases v.fetchMove_cases move with ⟨e, hcounted', -⟩ | ⟨-, hland'⟩
    · rw [h.counted_fst] at hcounted'
      cases hcounted'
    · have hspares := h.counted hcounted
      rw [hland] at hok ⊢
      rw [hland', hspares.aim_eq]
      exact hspares.land hok

end Spares

/-! ## Fetches that fail -/

section Failing

variable {e : Error} {after : Work σ}

/-- A pull that fails leaves less of the result to read. -/
theorem length_stream_of_pull {demand : Demand} (h : w.pull demand = (some e, after)) :
    after.cursor.stream.length < w.cursor.stream.length := by
  have hfailure : (w.pull demand).1.isSome = true := by rw [h]; rfl
  have hless := Pulled.length_stream_of_failure hfailure
  have hafter : (w.pull demand).2 = after := congrArg Prod.snd h
  rw [← hafter]
  exact hless

/-- A move that fails has met a failure. -/
theorem length_stream_of_fetchMove {move : Move} (h : w.fetchMove move = (.error e, after)) :
    after.cursor.stream.length < w.cursor.stream.length := by
  rcases fetchMove_error_cases h with ⟨-, hpull⟩ | ⟨position, -, -, hat⟩
  · exact length_stream_of_pull hpull
  · have hless := length_stream_of_pull (fetchAt_error hat)
    have hstream : (w.onCursor (Cursor.dropBehind · position)).cursor.stream = w.cursor.stream :=
      Cursor.stream_dropBehind w.cursor position
    rwa [hstream] at hless

/-- A rowset that could not be pulled leaves the cursor where it stood. -/
theorem sameStanding_of_fetchAt {position : Nat} (h : w.fetchAt position = (.error e, after)) :
    Cursor.SameStanding w.cursor after.cursor := by
  have hpulls := pull_pulls_of_eq (fetchAt_error h)
  exact (Cursor.sameStanding_dropBehind w.cursor position).trans hpulls.sameStanding

/-- A move that failed leaves the cursor where it stood. -/
theorem sameStanding_of_fetchMove {move : Move} (h : w.fetchMove move = (.error e, after)) :
    Cursor.SameStanding w.cursor after.cursor := by
  rcases fetchMove_error_cases h with ⟨-, hpull⟩ | ⟨position, -, -, hat⟩
  · exact (pull_pulls_of_eq hpull).sameStanding
  · exact sameStanding_of_fetchAt hat

end Failing

namespace Spares

variable {e : Error} {after : Work σ}

/-- A fetch to a position goes on from a failure to where it leads without one. -/
theorem fetchAt_again (h : Spares w v) {position : Nat}
    (hfails : w.fetchAt position = (.error e, after))
    (hdrop : after.cursor.dropBehind position = after.cursor) (h' : Spares after u) :
    (v.fetchAt position).1 = (u.fetchAt position).1 ∧
      Spares (u.fetchAt position).2 (v.fetchAt position).2 := by
  have hpull := fetchAt_error hfails
  have hafter := h'.dropBehind position
  have hkept : after.onCursor (Cursor.dropBehind · position) = after := by rw [Work.onCursor, hdrop]
  have hsize : (after.cursor.dropBehind position).size = (w.cursor.dropBehind position).size := by
    have hoptions := (sameStanding_of_fetchAt hfails).2.1
    rw [hdrop, Cursor.size_dropBehind, Cursor.size, Cursor.size, hoptions]
  have hrest : Spares ((w.onCursor (Cursor.dropBehind · position)).pull
      (.upTo (position + (w.cursor.dropBehind position).size - 1))).2
        (u.onCursor (Cursor.dropBehind · position)) := by
    rw [hpull]
    rwa [hkept] at hafter
  have hsize' := h'.size_dropBehind_eq position
  rw [v.fetchAt_eq, u.fetchAt_eq, h.size_dropBehind_eq, hsize', hsize,
    (h.dropBehind position).pull_eq, hafter.pull_eq]
  exact ((h.dropBehind position).pull_again hrest).reach position

/-- A move goes on from a failure to where it leads without one. -/
theorem fetchMove_again (h : Spares w v) {move : Move}
    (hfails : w.fetchMove move = (.error e, after))
    (hdrop : ∀ position, w.aim move = .row position →
      after.cursor.dropBehind position = after.cursor) (h' : Spares after u) :
    (v.fetchMove move).1 = (u.fetchMove move).1 ∧
      Spares (u.fetchMove move).2 (v.fetchMove move).2 := by
  obtain ⟨-, hoptions, -, hstart, hafterLast, -, -, -⟩ := sameStanding_of_fetchMove hfails
  have hv : v.cursor.afterLast = w.cursor.afterLast := by rw [h.cursor_eq]
  have hu : u.cursor.afterLast = w.cursor.afterLast := by rw [h'.cursor_eq, hafterLast]
  rw [v.fetchMove_eq, u.fetchMove_eq]
  unfold Work.counted
  rw [hv, hu]
  rcases fetchMove_error_cases hfails with ⟨hcounts, hpull⟩ | ⟨position, hcounts, haim, hat⟩
  · rw [if_pos hcounts, if_pos hcounts, h.pull_eq, h'.pull_eq]
    have hagain : Spares (u.pull .everything).2 (v.pull .everything).2 := by
      refine h.pull_again ?_
      rwa [hpull]
    dsimp only
    rw [hagain.aim_eq]
    exact hagain.land (((h'.unique h').pull .everything (h'.pull_fst .everything)).land_ne_error _)
  · have hposition : u.aim move = .row position := by
      rw [h'.aim_eq, ← haim, aim, aim, Cursor.size, Cursor.size, hoptions, hstart, hafterLast]
      exact Move.target_of_not_countsFromEnd hcounts _ _
    rw [hcounts, if_neg Bool.false_ne_true, if_neg Bool.false_ne_true]
    dsimp only
    rw [h.aim_eq, haim, hposition]
    exact h.fetchAt_again hat (hdrop position haim) h'

/-- A fetch that does not fail is the same where no failure is still to come. -/
theorem fetch (h : Spares w v) (orientation : Orientation)
    (hok : ∀ e, (w.fetch orientation).1 = .error e → (w.fetch orientation).2 = w) :
    (v.fetch orientation).1 = (w.fetch orientation).1 ∧
      Spares (w.fetch orientation).2 (v.fetch orientation).2 := by
  have hmove : v.cursor.move orientation = w.cursor.move orientation := h.move_eq orientation
  have hkind : v.cursor.kind = w.cursor.kind := by rw [h.cursor_eq]
  unfold Work.fetch at hok ⊢
  rw [hkind, hmove]
  split
  · exact ⟨rfl, h⟩
  next hopen =>
    rw [if_neg hopen] at hok
    split
    · exact ⟨rfl, h⟩
    next move hmove =>
      rw [hmove] at hok
      refine h.fetchMove fun e hfailed => ?_
      have hless : (w.fetchMove move).2.cursor.stream.length < w.cursor.stream.length :=
        length_stream_of_fetchMove (Prod.ext hfailed rfl)
      have hsame : (w.fetchMove move).2 = w := hok e hfailed
      rw [hsame] at hless
      exact Nat.lt_irrefl _ hless

end Spares

end Work

namespace Cursor

variable {c d : Cursor}

/-- No bookmark is changed by rows that are pulled. -/
theorem Pulls.bookmarks_eq (h : Pulls c d) : d.bookmarks = c.bookmarks := by
  induction h with
  | refl => rfl
  | tail _ hstep ih => exact hstep.sameStanding.2.trans ih

/-- A bookmark leads to the same row after more rows have been pulled. -/
theorem move_of_pulls (h : Inventory c) (hkind : c.kind.isScrollable = true) (hpulls : Pulls c d)
    (orientation : Orientation) : d.move orientation = c.move orientation := by
  have hoptions := hpulls.sameStanding.2.1
  have hkeeps := keeps_of_changes hkind hpulls.changes
  cases orientation with
  | next | prior | first | last | absolute | relative => rfl
  | bookmark b offset =>
      have hposition : ((c.bookmarks.locate? b).bind d.buffer.slot?).bind RowSlot.position =
          ((c.bookmarks.locate? b).bind c.buffer.slot?).bind RowSlot.position := by
        cases hlocate : c.bookmarks.locate? b with
        | none => rfl
        | some id =>
            have hheld : id < c.buffer.resident := by
              rcases Option.or_eq_some_iff.mp hlocate with hlive | ⟨-, hretired⟩
              · exact h.live _ (mem_live_of_resolve? hlive)
              · exact h.retired _ (Bookmarks.mem_of_lookup hretired)
            have hslot : c.buffer.slot? id = some c.buffer.slots[id] :=
              List.getElem?_eq_getElem hheld
            obtain ⟨slot', hslot', hcontinues⟩ := hkeeps id _ hslot
            simp only [Option.bind_some, hslot, hslot', hcontinues.position]
      unfold move
      dsimp only
      rw [hoptions, hpulls.bookmarks_eq, hposition]

/-- After a failure there are no more rows to let go of. -/
theorem dropBehind_afterFailure (h : Forward c) (hkind : c.kind.isScrollable = false)
    (hrows : c.buffer.InOrder) (hafter : c.afterLast = false)
    (hfailure : c.pulledNext.failure.isSome = true) :
    c.afterFailure.dropBehind c.nextPosition = c.afterFailure := by
  obtain ⟨-, -, hbase, -⟩ := h.base_of_failure hkind hrows hafter hfailure
  obtain ⟨taken, htaken⟩ := c.exists_taken
  have hrows' : c.afterFailure.buffer.InOrder := htaken.inOrder (inOrder_dropBehind hrows _)
  have hknown : c.afterFailure.buffer.count = c.afterFailure.buffer.base +
    c.afterFailure.buffer.resident := hrows'.count_eq
  have hbase' : c.afterFailure.buffer.base + 1 = c.nextPosition := hbase
  rcases Nat.lt_or_ge c.afterFailure.buffer.count c.nextPosition with hlt | hle
  · -- No row of the next rowset has come, and those behind have been let go of already.
    have hresident : c.afterFailure.buffer.resident = 0 := by omega
    have hslots : c.afterFailure.buffer.slots = [] := List.eq_nil_of_length_eq_zero hresident
    have horder : c.afterFailure.buffer.order = [] := by
      rw [hrows'.order, hresident, List.range_zero]
    have hlt' : c.buffer.count < c.nextPosition := by
      refine Nat.lt_of_not_le fun hle => ?_
      have hmore := htaken.count_eq
      rw [dropBehind_of_le_count hle] at hmore
      change c.afterFailure.buffer.count = _ at hmore
      omega
    have hbookmarks : c.afterFailure.bookmarks.forgetAll = c.afterFailure.bookmarks := by
      change (c.dropBehind c.nextPosition).bookmarks.forgetAll =
        (c.dropBehind c.nextPosition).bookmarks
      rw [dropBehind_of_count_lt hkind hlt']
      rfl
    have hbuffer : c.afterFailure.buffer.discardThrough c.afterFailure.buffer.count =
        c.afterFailure.buffer := by
      rw [RowBuffer.discardThrough, hknown, hresident, Nat.add_zero, Nat.max_self, ← hslots,
        ← horder]
    have hkind' : c.afterFailure.kind.isScrollable = false :=
      c.sameStanding_afterFailure.1.symm ▸ hkind
    rw [dropBehind_of_count_lt hkind' hlt, hbuffer, hbookmarks]
  · exact dropBehind_of_le_count hle

end Cursor

namespace Work

variable {σ : Type} {w v u after : Work σ} {e : Error}

open Cursor (Reachable)
open RowStream (delivered)

/-! ## Trying again -/

/-- A fetch leads from reachable cursors to reachable ones, whether it fails or not. -/
theorem reachable_of_fetch {orientation : Orientation} {outcome : Except Error FetchOutcome}
    (hreach : Reachable w.cursor) (h : w.fetch orientation = (outcome, after)) :
    Reachable after.cursor := by
  have hfetched := Reachable.fetch w orientation hreach
  rwa [h] at hfetched

/-- A fetch that met a failure, made once more without another one, shows what it shows without
any. -/
theorem Spares.fetch_again (h : Spares w v) (hreach : Reachable w.cursor)
    {orientation : Orientation} (hfails : w.fetch orientation = (.error e, after))
    (hmet : after ≠ w) (h' : Spares after u) :
    (v.fetch orientation).1 = (u.fetch orientation).1 ∧
      Spares (u.fetch orientation).2 (v.fetch orientation).2 := by
  obtain ⟨move, hmove, hfailed⟩ := (fetch_error_cases hfails).resolve_left hmet
  have hkinds : v.cursor.kind = w.cursor.kind ∧ u.cursor.kind = w.cursor.kind :=
    ⟨by rw [h.cursor_eq], by rw [h'.cursor_eq, (sameStanding_of_fetchMove hfailed).1]⟩
  have hmoves : v.cursor.move orientation = .ok move := (h.move_eq orientation).trans hmove
  cases hkind : w.cursor.kind.isScrollable with
  | true =>
      have hpulls := fetch_error_pulls hkind hfails
      have hmoves' : u.cursor.move orientation = .ok move := by
        rw [h'.move_eq, Cursor.move_of_pulls (hreach.inventory hkind) hkind hpulls, hmove]
      have hkind' : after.cursor.kind.isScrollable = true := hpulls.sameStanding.1.symm ▸ hkind
      rw [fetch_of_move (Or.inl (hkinds.1 ▸ hkind)) hmoves,
        fetch_of_move (Or.inl (hkinds.2 ▸ hkind)) hmoves']
      exact h.fetchMove_again hfailed
        (fun position _ => Cursor.dropBehind_of_isScrollable hkind' position) h'
  | false =>
      rcases fetch_error_forward hkind hfails with ⟨-, hsame⟩ | ⟨rfl, hafter, hfailure, hcursor⟩
      · exact absurd hsame hmet
      · obtain ⟨hforward, hrows⟩ := hreach.forward hkind
        cases hmove
        rw [fetch_of_move (Or.inr rfl) rfl, fetch_of_move (w := u) (Or.inr rfl) rfl]
        refine h.fetchMove_again hfailed (fun position haim => ?_) h'
        have hposition : w.cursor.nextPosition = position := by
          simp only [aim, Move.target, hafter, Bool.false_eq_true, if_false] at haim
          unfold Cursor.nextPosition
          split at haim
          next hstart => rw [if_pos hstart, Target.row.inj haim]
          next hstart => rw [if_neg hstart, Target.row.inj haim]
        rw [hcursor, ← hposition]
        exact Cursor.dropBehind_afterFailure hforward hkind hrows hafter hfailure

/-- A fetch is made until it meets no failure. One that it has met is no longer to come, and so can
be told from a refusal. -/
def fetchRetrying (w : Work σ) (orientation : Orientation) :
    Except Error FetchOutcome × Work σ :=
  match w.fetch orientation with
  | (.ok outcome, after) => (.ok outcome, after)
  | (.error e, after) =>
      if after.cursor.stream.length < w.cursor.stream.length then after.fetchRetrying orientation
      else (.error e, after)
termination_by w.cursor.stream.length

/-- One fetch after another, each made until it meets no failure. -/
def fetchesRetrying (w : Work σ) : List Orientation → List (Except Error FetchOutcome) × Work σ
  | [] => ([], w)
  | o :: rest =>
      let (outcome, w) := w.fetchRetrying o
      let (outcomes, w) := w.fetchesRetrying rest
      (outcome :: outcomes, w)

/-- A fetch that is repeated until it does not fail answers as if there were no failures. -/
theorem Spares.fetchRetrying (h : Spares w v) (hreach : Reachable w.cursor)
    (orientation : Orientation) :
    (v.fetch orientation).1 = (w.fetchRetrying orientation).1 ∧
      Spares (w.fetchRetrying orientation).2 (v.fetch orientation).2 := by
  fun_induction Work.fetchRetrying w orientation generalizing v with
  | case1 w outcome after hfetch =>
      have hsame := h.fetch orientation (by simp [hfetch])
      rwa [hfetch] at hsame
  | case2 w e after hfetch hless ih =>
      have hmet : after ≠ w := fun heq => Nat.lt_irrefl _ (heq ▸ hless)
      have hreach' := reachable_of_fetch hreach hfetch
      obtain ⟨hagain, hspares⟩ := h.fetch_again hreach hfetch hmet (.spares after)
      obtain ⟨houtcome, hrest⟩ := ih (.spares after) hreach'
      exact ⟨hagain.trans houtcome, hrest.trans hspares⟩
  | case3 w e after hfetch hless =>
      have hrefused : after = w := by
        refine (fetch_error_cases hfetch).resolve_right ?_
        rintro ⟨move, -, hfailed⟩
        exact hless (length_stream_of_fetchMove hfailed)
      subst hrefused
      have hsame := h.fetch orientation (by simp [hfetch])
      rwa [hfetch] at hsame

/-- A fetch that is repeated leads from reachable cursors to reachable ones. -/
theorem fetchRetrying_reachable (hreach : Reachable w.cursor) (orientation : Orientation) :
    Reachable (w.fetchRetrying orientation).2.cursor := by
  fun_induction Work.fetchRetrying w orientation with
  | case1 w outcome after hfetch => exact reachable_of_fetch hreach hfetch
  | case2 w e after hfetch hless ih => exact ih (reachable_of_fetch hreach hfetch)
  | case3 w e after hfetch hless => exact reachable_of_fetch hreach hfetch

/-- Fetches that are each repeated answer as if there were no failures. -/
theorem Spares.fetchesRetrying (h : Spares w v) (hreach : Reachable w.cursor)
    (orientations : List Orientation) :
    (w.fetchesRetrying orientations).1 = (v.fetches orientations).1 ∧
      Spares (w.fetchesRetrying orientations).2 (v.fetches orientations).2 := by
  induction orientations generalizing w v with
  | nil => exact ⟨rfl, h⟩
  | cons o rest ih =>
      obtain ⟨houtcome, hspares⟩ := h.fetchRetrying hreach o
      obtain ⟨houtcomes, hrest⟩ := ih hspares (fetchRetrying_reachable hreach o)
      exact ⟨List.cons_eq_cons.mpr ⟨houtcome.symm, houtcomes⟩, hrest⟩

/-- Whatever the rows of a result and wherever the server fails to deliver one, fetches that are
made until they meet no failure show, on a cursor of any kind, what they show of the result without
its failures; and they leave the same rows to come. -/
theorem fetchesRetrying_opening (w : Work σ) (kind : CursorKind) (dialect : Dialect)
    (options : StatementOptions) (descriptor : ResultDescriptor) (stream : RowStream)
    (orientations : List Orientation) :
    let retried :=
      (w.opening kind dialect options ⟨descriptor, stream⟩).fetchesRetrying orientations
    let spared :=
      (w.opening kind dialect options ⟨descriptor, delivered stream⟩).fetches orientations
    retried.1 = spared.1 ∧ Spares retried.2 spared.2 :=
  Spares.fetchesRetrying ⟨w.link.events, rfl⟩ (.opened _ _ _ _) orientations

end Work

end ScrollCursor
