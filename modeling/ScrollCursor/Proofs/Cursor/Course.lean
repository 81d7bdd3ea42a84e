import ScrollCursor.Proofs.Cursor.OnDemand

/-! # The course of a cursor

Where a fetch leads depends on where the cursor stands, on how many rows are known and on what is
left of the result. Reading rows again changes what the slots hold, and with it statuses and
bookmarks, but none of these. So two cursors of which only one reads its rows again keep to the same
course, whatever the server answers.
-/

namespace ScrollCursor

/-- Where a fetch led, without what it shows there. -/
structure Landing where
  found : Bool
  position : Nat
  rows : Nat
  atEnd : Bool
  deriving DecidableEq

def FetchOutcome.landing (o : FetchOutcome) : Landing where
  found := o.returnCode != .noData
  position := o.position
  rows := o.rows.length
  atEnd := o.atEnd

/-- What decides where a cursor goes. -/
structure Course where
  scrolls : Bool
  size : Nat
  maxRows : Option Nat
  stream : RowStream
  start : Nat
  afterLast : Bool
  /-- The number of rows of the rowset. -/
  rows : Nat
  count : Nat
  exhausted : Bool

/-- Where a rowset that has been placed is shown. -/
def Course.landing (course : Course) : Landing where
  found := true
  position := course.start
  rows := course.rows
  atEnd := course.exhausted && course.count ≤ course.start + course.size - 1

theorem ReturnCode.ofRows_ne_noData (succeeded failed : Nat) (warned : Bool) :
    ofRows succeeded failed warned ≠ .noData := by
  unfold ofRows
  repeat' split
  all_goals nofun

namespace Cursor

def course (c : Cursor) : Course where
  scrolls := c.kind.isScrollable
  size := c.size
  maxRows := c.options.maxRows
  stream := c.stream
  start := c.start
  afterLast := c.afterLast
  rows := c.rowset.length
  count := c.buffer.count
  exhausted := c.buffer.exhausted

variable {c d : Cursor}

/-- Letting go of the rows behind leaves as many rows known. -/
theorem course_dropBehind (c : Cursor) (position : Nat) :
    (c.dropBehind position).course = c.course := by
  unfold dropBehind
  split
  · -- Rows that are let go of count as count still.
    unfold course
    dsimp only [size]
    rw [c.buffer.count_discardThrough]
    rfl
  · rfl

theorem course_moveBeforeFirst (c : Cursor) :
    c.moveBeforeFirst.course = { c.course with start := 0, afterLast := false, rows := 0 } := rfl

theorem course_moveAfterLast (c : Cursor) :
    c.moveAfterLast.course = { c.course with afterLast := true, rows := 0 } := rfl

theorem course_placeRowset (c : Cursor) (position : Nat) :
    (c.placeRowset position).course =
      { c.course with
        start := position
        afterLast := false
        rows := min (position + c.course.size - 1) c.course.count + 1 - position } := by
  have hrows : (c.placeRowset position).rowset.length =
      min (position + c.size - 1) c.buffer.count + 1 - position := by
    rw [placeRowset, RowBuffer.slotsBetween, List.length_map, List.length_range']
  unfold course
  rw [hrows]
  rfl

/-- A rowset with a status for each row is shown where it has been placed. -/
theorem landing_fetchOutcome (c : Cursor) :
    c.syncStatuses.fetchOutcome.landing = c.course.landing := by
  have hfound : c.syncStatuses.fetchOutcome.returnCode ≠ .noData :=
    ReturnCode.ofRows_ne_noData _ _ _
  have hrows : c.syncStatuses.fetchOutcome.rows.length = c.rowset.length := by
    change (c.rowset.zipWith _ (c.rowset.map c.entryStatus)).length = _
    rw [List.length_zipWith, List.length_map, Nat.min_self]
  rw [FetchOutcome.landing, bne_iff_ne.mpr hfound, hrows]
  rfl

end Cursor

namespace Work

variable {σ τ : Type} {w : Work σ} {v : Work τ}

/-! ## Reading again -/

/-- Rows that are brought up to date stay where they are, and nothing else comes to be known. -/
theorem course_showRowset (w : Work σ) : w.showRowset.2.cursor.course = w.cursor.course := by
  obtain ⟨hkind, hoptions, -, hstart, hafterLast, hrowset, -, -⟩ :=
    w.sameStanding_rereadIf (List.range' 1 w.cursor.rowset.length) (w.cursor.kind.rereads = true)
  have hread := w.readAgain_showRowset
  obtain ⟨more, -, hrest⟩ := w.showRowset_withRest
  have hstream : w.showRowset.2.cursor.stream = w.cursor.stream :=
    congrArg (fun r => r.2.cursor.stream) (hrest w.cursor.stream w.link.events)
  have hkind' : w.showRowset.2.cursor.kind = w.cursor.kind := hkind
  have hoptions' : w.showRowset.2.cursor.options = w.cursor.options := hoptions
  have hstart' : w.showRowset.2.cursor.start = w.cursor.start := hstart
  have hafterLast' : w.showRowset.2.cursor.afterLast = w.cursor.afterLast := hafterLast
  have hrowset' : w.showRowset.2.cursor.rowset = w.cursor.rowset := hrowset
  unfold Cursor.course Cursor.size
  rw [hkind', hoptions', hstart', hafterLast', hrowset', hstream, hread.count_eq, hread.exhausted]

theorem landing_showRowset (w : Work σ) :
    w.showRowset.1.map FetchOutcome.landing = .ok w.cursor.course.landing := by
  rw [← w.course_showRowset]
  exact congrArg Except.ok (Cursor.landing_fetchOutcome _)

/-! ## Two cursors on one course -/

/-- Both calls fail with one error or lead to the same place, and leave their cursors on one
course. -/
structure SameCourse (r : Except Error FetchOutcome × Work σ)
    (r' : Except Error FetchOutcome × Work τ) : Prop where
  landing : r'.1.map FetchOutcome.landing = r.1.map FetchOutcome.landing
  course : r'.2.cursor.course = r.2.cursor.course

theorem pull_sameCourse (h : v.cursor.course = w.cursor.course) (demand : Demand) :
    (v.pull demand).1 = (w.pull demand).1 ∧
      (v.pull demand).2.cursor.course = (w.pull demand).2.cursor.course := by
  have hmaxRows : v.cursor.options.maxRows = w.cursor.options.maxRows :=
    congrArg Course.maxRows h
  have hstream : v.cursor.stream = w.cursor.stream := congrArg Course.stream h
  have hknown : v.cursor.buffer.count = w.cursor.buffer.count := congrArg Course.count h
  have hended : v.cursor.buffer.exhausted = w.cursor.buffer.exhausted :=
    congrArg Course.exhausted h
  -- What is taken depends on how many rows are known, and not on what is held of them.
  obtain ⟨hrest, -, hfailure, taken, ended, htaken, htaken'⟩ :=
    Pulled.run_alike w.cursor.options.maxRows demand w.cursor.stream hknown hended 0
  have hpushed (b : RowBuffer) : RowBuffer.count { b.appendAll taken with exhausted := ended } =
      b.count + taken.length :=
    b.count_appendAll taken
  have hcourse (u : Cursor) (rest : RowStream) :
      Cursor.course { u with
        stream := rest, buffer := { u.buffer.appendAll taken with exhausted := ended } } =
      { u.course with
        stream := rest, count := u.course.count + taken.length, exhausted := ended } := by
    unfold Cursor.course
    dsimp only
    rw [hpushed]
    rfl
  unfold pull
  dsimp only
  rw [hmaxRows, hstream, htaken, htaken', hrest, hcourse, hcourse, h]
  exact ⟨hfailure, rfl⟩

theorem fetchAfterLast_sameCourse (h : v.cursor.course = w.cursor.course) :
    SameCourse w.fetchAfterLast v.fetchAfterLast := by
  have hsize : v.cursor.size = w.cursor.size := congrArg Course.size h
  refine ⟨?_, ?_⟩
  · rw [fetchAfterLast, fetchAfterLast, hsize]
  · rw [fetchAfterLast, fetchAfterLast, onCursor, onCursor, Cursor.course_moveAfterLast,
      Cursor.course_moveAfterLast, h]

theorem reach_sameCourse (h : v.cursor.course = w.cursor.course) (position : Nat) :
    SameCourse (w.reach position) (v.reach position) := by
  have hknown : v.cursor.buffer.count = w.cursor.buffer.count := congrArg Course.count h
  unfold reach
  rw [hknown]
  split
  · exact fetchAfterLast_sameCourse h
  · have hplaced : (v.cursor.placeRowset position).course =
        (w.cursor.placeRowset position).course := by
      rw [Cursor.course_placeRowset, Cursor.course_placeRowset, h]
    refine ⟨?_, ?_⟩
    · rw [landing_showRowset, landing_showRowset]
      exact congrArg (fun course => Except.ok (Course.landing course)) hplaced
    · rw [course_showRowset, course_showRowset]
      exact hplaced

theorem fetchAt_sameCourse (h : v.cursor.course = w.cursor.course) (position : Nat) :
    SameCourse (w.fetchAt position) (v.fetchAt position) := by
  have hsize : (v.cursor.dropBehind position).size = (w.cursor.dropBehind position).size := by
    rw [Cursor.size_dropBehind, Cursor.size_dropBehind]
    exact congrArg Course.size h
  have hdropped : (v.onCursor (Cursor.dropBehind · position)).cursor.course =
      (w.onCursor (Cursor.dropBehind · position)).cursor.course := by
    rw [onCursor, onCursor, Cursor.course_dropBehind, Cursor.course_dropBehind, h]
  rw [fetchAt_eq, fetchAt_eq, hsize]
  obtain ⟨hfailure, hcourse⟩ := pull_sameCourse hdropped
    (.upTo (position + (w.cursor.dropBehind position).size - 1))
  generalize (v.onCursor (Cursor.dropBehind · position)).pull _ = pulled' at hfailure hcourse ⊢
  generalize (w.onCursor (Cursor.dropBehind · position)).pull _ = pulled at hfailure hcourse ⊢
  obtain ⟨failure, w'⟩ := pulled
  obtain ⟨failure', v'⟩ := pulled'
  cases hfailure
  cases failure with
  | some e => exact ⟨rfl, hcourse⟩
  | none => exact reach_sameCourse hcourse position

theorem land_sameCourse (h : v.cursor.course = w.cursor.course) (target : Target) :
    SameCourse (w.land target) (v.land target) := by
  cases target with
  | beforeFirst =>
      have hsize : v.cursor.size = w.cursor.size := congrArg Course.size h
      refine ⟨?_, ?_⟩
      · rw [land, land, hsize]
      · rw [land, land, onCursor, onCursor, Cursor.course_moveBeforeFirst,
          Cursor.course_moveBeforeFirst, h]
  | afterLast => exact fetchAfterLast_sameCourse h
  | row position => exact fetchAt_sameCourse h position

theorem counted_sameCourse (h : v.cursor.course = w.cursor.course) (move : Move) :
    (v.counted move).1 = (w.counted move).1 ∧
      (v.counted move).2.cursor.course = (w.counted move).2.cursor.course := by
  have hafterLast : v.cursor.afterLast = w.cursor.afterLast := congrArg Course.afterLast h
  unfold counted
  rw [hafterLast]
  split
  · exact pull_sameCourse h .everything
  · exact ⟨rfl, h⟩

theorem aim_sameCourse (h : v.cursor.course = w.cursor.course) (move : Move) :
    v.aim move = w.aim move := by
  have haim {ρ : Type} (u : Work ρ) : u.aim move =
      move.target u.cursor.course.size u.cursor.course.start u.cursor.course.afterLast
        u.cursor.course.count := rfl
  rw [haim, haim, h]

theorem fetchMove_sameCourse (h : v.cursor.course = w.cursor.course) (move : Move) :
    SameCourse (w.fetchMove move) (v.fetchMove move) := by
  obtain ⟨hfailure, hcourse⟩ := counted_sameCourse h move
  rw [fetchMove_eq, fetchMove_eq]
  generalize v.counted move = counted' at hfailure hcourse ⊢
  generalize w.counted move = counted at hfailure hcourse ⊢
  obtain ⟨failure, w'⟩ := counted
  obtain ⟨failure', v'⟩ := counted'
  cases hfailure
  cases failure with
  | some e => exact ⟨rfl, hcourse⟩
  | none =>
      dsimp only
      rw [aim_sameCourse hcourse]
      exact land_sameCourse hcourse _

theorem fetch_sameCourse (h : v.cursor.course = w.cursor.course) {orientation : Orientation}
    (hnone : ∀ b offset, orientation ≠ .bookmark b offset) :
    SameCourse (w.fetch orientation) (v.fetch orientation) := by
  have hscrolls : v.cursor.kind.isScrollable = w.cursor.kind.isScrollable :=
    congrArg Course.scrolls h
  have hmove : ∃ move, w.cursor.move orientation = .ok move ∧
      v.cursor.move orientation = .ok move := by
    cases orientation with
    | bookmark b offset => exact absurd rfl (hnone b offset)
    | _ => exact ⟨_, rfl, rfl⟩
  obtain ⟨move, hw, hv⟩ := hmove
  unfold fetch
  rw [hscrolls, hw, hv]
  split
  · exact ⟨rfl, h⟩
  · exact fetchMove_sameCourse h move

/-- Whatever bookmarks the rows of two cursors have, fetches that ask for none of them keep both on
one course. -/
theorem fetches_sameCourse (h : v.cursor.course = w.cursor.course)
    {orientations : List Orientation} (hnone : ∀ b offset, .bookmark b offset ∉ orientations) :
    (v.fetches orientations).1.map (Except.map FetchOutcome.landing) =
        (w.fetches orientations).1.map (Except.map FetchOutcome.landing) ∧
      (v.fetches orientations).2.cursor.course = (w.fetches orientations).2.cursor.course := by
  induction orientations generalizing w v with
  | nil => exact ⟨rfl, h⟩
  | cons o rest ih =>
      have hfirst : ∀ b offset, o ≠ .bookmark b offset := by
        intro b offset ho
        exact hnone b offset (ho ▸ List.mem_cons_self)
      have hrest : ∀ b offset, .bookmark b offset ∉ rest := fun b offset hmem =>
        hnone b offset (List.mem_cons_of_mem o hmem)
      obtain ⟨hlanding, hcourse⟩ := fetch_sameCourse h hfirst
      obtain ⟨hlandings, hend⟩ := ih hcourse hrest
      exact ⟨List.cons_eq_cons.mpr ⟨hlanding, hlandings⟩, hend⟩

/-- Whatever the rows of a result and wherever the server fails to deliver one, whatever answers the
server of the dynamic cursor gives and whatever key there is: fetches that ask for no bookmark fail
with the same errors on a dynamic cursor as on a static one and lead to the same places, and leave
both cursors where the same fetches lead from. -/
theorem fetches_dynamic_static (w : Work σ) (v : Work τ) (dialect dialect' : Dialect)
    (options : StatementOptions) (result : ResultSet) {orientations : List Orientation}
    (hnone : ∀ b offset, .bookmark b offset ∉ orientations) :
    let dynamic := (w.opening .dynamic dialect options result).fetches orientations
    let static := (v.opening .static dialect' options result).fetches orientations
    dynamic.1.map (Except.map FetchOutcome.landing) =
        static.1.map (Except.map FetchOutcome.landing) ∧
      dynamic.2.cursor.course = static.2.cursor.course :=
  fetches_sameCourse (w := v.opening .static dialect' options result)
    (v := w.opening .dynamic dialect options result) rfl hnone

/-- Three numbered rows, the last of which cannot be delivered at first. -/
def threePens : ResultSet where
  descriptor :=
    [{ name := "id", sqlType := .integer, table := some ⟨none, "pens"⟩, primaryKey := true }]
  rows := [.ok [.integer 1], .ok [.integer 2], .error MemoryServer.lostConnection, .ok [.integer 3]]

/-- A server that has the first row still, no second one, and then cannot be reached. -/
def losingPens : Work MemoryServer where
  cursor := .opened .dynamic {} {} threePens
  bindings := {}
  diagnostics := []
  link := ⟨MemoryServer.server,
    { queries := [.answer ⟨[], [.ok [.integer 1]]⟩, .answer ⟨[], []⟩,
        .fail MemoryServer.lostConnection] }, []⟩

/-- The second row is deleted and the third one in error, in the places that they have on a static
cursor. -/
theorem fetches_dynamic_static_losingPens :
    let dynamic := (losingPens.opening .dynamic {} { rowArraySize := 2 } threePens).fetches
      [.next, .next, .next, .prior]
    dynamic.1.map (fun outcome => outcome.toOption.map FetchOutcome.statuses) =
        [some [.success, .deleted], none, some [.error, .noRow], some [.error, .deleted]] ∧
      dynamic.1.map (Except.map FetchOutcome.landing) =
        [.ok ⟨true, 1, 2, false⟩, .error MemoryServer.lostConnection, .ok ⟨true, 3, 1, true⟩,
          .ok ⟨true, 1, 2, false⟩] := by
  have hnone (b : Bookmark) (offset : Int) :
      .bookmark b offset ∉ [.next, .next, .next, Orientation.prior] := by simp
  refine ⟨rfl, ?_⟩
  rw [(fetches_dynamic_static losingPens losingPens {} {} { rowArraySize := 2 } threePens hnone).1]
  rfl

end Work

end ScrollCursor
