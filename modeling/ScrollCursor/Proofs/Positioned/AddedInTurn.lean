import ScrollCursor.Proofs.Positioned.BoundValues
import ScrollCursor.Proofs.Positioned.FailingRows
import ScrollCursor.Proofs.Positioned.Rowset
import ScrollCursor.Proofs.WriteBack.Insertions

/-! # Rows added in turn

The rows of the bound arrays are inserted one after another. A row is added just if its statement
could be written and the server carried it out; then the cursor holds it under the bookmark that is
bound for it. Where a row failed no bookmark stays bound, whatever was bound there before.
-/

namespace ScrollCursor

/-! ## Records of added rows -/

theorem signed64_of_lt {n : Nat} (h : n < 1 <<< 63) : signed64 n = n := by
  unfold signed64
  have hhalf : (1 <<< 63 : Nat) = 9223372036854775808 := by decide
  have hwhole : (1 <<< 64 : Nat) = 18446744073709551616 := by decide
  rw [hhalf] at h
  rw [hwhole, Int.bmod_def]
  omega

/-- A number is put into its column if that holds NULL. -/
theorem Record.getElem?_numbered {r : Record} {ordinal : Nat} {bound : Value}
    (hat : r[ordinal]? = some bound) (k : Nat) (v : Value) :
    (if (r[k]?.getD .null).isNull then List.set r k v else r)[ordinal]? =
      some (if k = ordinal ∧ bound.isNull then v else bound) := by
  by_cases hk : k = ordinal
  · subst hk
    rw [hat, Option.getD_some]
    by_cases hnull : bound.isNull = true
    · rw [if_pos hnull, if_pos ⟨rfl, hnull⟩,
        List.getElem?_set_self (List.getElem?_eq_some_iff.mp hat).1]
    · rw [if_neg hnull, if_neg fun hboth => hnull hboth.2, hat]
  · simp only [hk, false_and, if_false]
    split
    · rw [List.getElem?_set_ne hk, hat]
    · exact hat

namespace Bindings

variable {b : Bindings} {supplied : Supplied} {row : Nat} {d : ResultDescriptor} {table : TableRef}
  {values : List (Nat × Value)}

/-- The value that a row of the bound arrays has for a column, NULL if the column is left out. -/
def boundValue (b : Bindings) (supplied : Supplied) (row ordinal : Nat) : Value :=
  match b.value ordinal row with
  | .value v => v
  | .ignore => .null
  | .dataAtExec => (supplied.lookup ordinal).getD .null

/-- A row as it was bound, with NULL in the columns that are not the table's and the number that the
server gave where the numbered column was left NULL. -/
def addedRecord (b : Bindings) (supplied : Supplied) (row : Nat) (d : ResultDescriptor)
    (table : TableRef) (numbered generated : Option Nat) : Record :=
  d.mapIdx fun ordinal c =>
    let bound := if c.belongsTo table then b.boundValue supplied row ordinal else .null
    match generated with
    | some n => if numbered = some ordinal ∧ bound.isNull then .integer n else bound
    | none => bound

/-- A value that is stored is the one bound for its column. -/
theorem boundValue_of_mem (h : b.assignments supplied row d table = .ok values) {ordinal : Nat}
    {v : Value} (hmem : (ordinal, v) ∈ values) : v = b.boundValue supplied row ordinal := by
  obtain ⟨found, hfound, heq⟩ := Results.bind_eq_ok.mp h
  cases heq
  obtain ⟨entry, hentry, rfl⟩ := List.mem_filterMap.mp hmem
  obtain ⟨⟨i, c⟩, -, hassigned⟩ := Results.exists_of_mem_mapM hfound hentry
  dsimp only [id] at hassigned
  unfold assignment? at hassigned
  unfold boundValue
  split at hassigned
  · cases hassigned
  next hvalue =>
    cases hassigned
    rw [hvalue]
  next hvalue =>
    split at hassigned
    next hlookup =>
      cases hassigned
      rw [hvalue, hlookup]
      rfl
    · cases hassigned

/-- What a record holds that took the values of a row. -/
theorem getElem?_assign_assignments (h : b.assignments supplied row d table = .ok values)
    {ordinal : Nat} {c : Column} (hc : d[ordinal]? = some c) :
    (Record.assign (List.replicate d.length .null) values)[ordinal]? =
      some (if c.belongsTo table then b.boundValue supplied row ordinal else .null) := by
  have hordinal := (List.getElem?_eq_some_iff.mp hc).1
  have hnull : (List.replicate d.length Value.null)[ordinal]? = some .null := by
    rw [List.getElem?_replicate, if_pos hordinal]
  have hbelongs {i : Nat} {v : Value} (hmem : (i, v) ∈ values) :
      ∃ c', d[i]? = some c' ∧ c'.belongsTo table = true := by
    obtain ⟨c', hc'⟩ := mem_columnsOf_of_assignments h hmem
    exact ⟨c', ResultDescriptor.mem_columnsOf.mp hc'⟩
  by_cases hassigned : ∃ v, (ordinal, v) ∈ values
  · obtain ⟨v, hmem⟩ := hassigned
    obtain ⟨c', hc', hshown⟩ := hbelongs hmem
    cases hc.symm.trans hc'
    rw [if_pos hshown, ← boundValue_of_mem h hmem]
    refine Record.getElem?_assign_of_mem (fun a ha => ?_) hmem fun other hother => ?_
    · obtain ⟨_, hat, -⟩ := hbelongs ha
      rw [List.length_replicate]
      exact (List.getElem?_eq_some_iff.mp hat).1
    · rw [boundValue_of_mem h hother, boundValue_of_mem h hmem]
  · rw [Record.getElem?_assign_of_not_mem fun v hmem => hassigned ⟨v, hmem⟩, hnull]
    split
    next hshown =>
      -- Only a column that is left out is not assigned.
      cases hvalue : b.value ordinal row with
      | ignore => rw [boundValue, hvalue]
      | value | dataAtExec =>
          refine absurd (exists_mem_assignments h
            (ResultDescriptor.mem_columnsOf.mpr ⟨hc, hshown⟩) ?_) hassigned
          rw [hvalue]
          exact BoundValue.noConfusion
    · rfl

/-- The buffer keeps of an inserted row what was bound for it. -/
theorem insertedImage_eq_addedRecord (h : b.assignments supplied row d table = .ok values)
    {generated : Option Nat} (hsmall : ∀ n, generated = some n → n < 1 <<< 63)
    (numbered : Option Nat) :
    insertedImage d.length values numbered generated =
      b.addedRecord supplied row d table numbered generated := by
  refine List.ext_getElem? fun ordinal => ?_
  rw [addedRecord, List.getElem?_mapIdx]
  cases hc : d[ordinal]? with
  | none =>
      have hout : d.length ≤ ordinal := List.getElem?_eq_none_iff.mp hc
      exact List.getElem?_eq_none (by rwa [length_insertedImage])
  | some c =>
      have hat := getElem?_assign_assignments h hc
      rw [Option.map_some]
      unfold insertedImage
      cases generated with
      | none => cases numbered <;> exact hat
      | some n =>
          cases numbered with
          | none => simpa using hat
          | some k =>
              dsimp only
              rw [signed64_of_lt (hsmall n rfl), Record.getElem?_numbered hat]
              simp only [Option.some.injEq]

/-! ## Bookmarks that are bound -/

theorem bookmark?_eq (b : Bindings) (k : Nat) :
    b.bookmark? k = ((b.bookmarks.getD [])[k]?).join := by
  unfold bookmark?
  cases b.bookmarks with
  | none => rfl
  | some bookmarks =>
      rw [Option.getD_some]
      cases hentry : bookmarks[k]? <;> simp [hentry]

theorem join_getElem?_extended {α : Type} (xs : List (Option α)) (i k : Nat) :
    ((extended xs i)[k]?).join = xs[k]?.join := by
  unfold extended
  rcases Nat.lt_or_ge k xs.length with hlt | hge
  · rw [List.getElem?_append_left hlt]
  · rw [List.getElem?_append_right hge, List.getElem?_eq_none hge, List.getElem?_replicate]
    split <;> rfl

/-- A bookmark is bound in its row, and the others stay bound. -/
theorem bookmark?_setBookmark (b : Bindings) (row : Nat) (m : Option Bookmark) (k : Nat) :
    (b.setBookmark row m).bookmark? k = if k = row then m else b.bookmark? k := by
  unfold setBookmark
  by_cases hnone : (m.isNone && b.bookmarks.isNone) = true
  · obtain ⟨hm, hb⟩ := Bool.and_eq_true_iff.mp hnone
    rw [if_pos hnone, bookmark?_eq, Option.isNone_iff_eq_none.mp hm,
      Option.isNone_iff_eq_none.mp hb]
    split <;> rfl
  · rw [if_neg hnone, bookmark?_eq, bookmark?_eq, Option.getD_some]
    by_cases hk : k = row
    · subst hk
      have hlt : k < (extended (b.bookmarks.getD []) k).length := by
        simp only [extended, List.length_append, List.length_replicate]
        omega
      rw [if_pos rfl, List.getElem?_set_self hlt]
      rfl
    · rw [if_neg hk, List.getElem?_set_ne (Ne.symm hk), join_getElem?_extended]

/-- An array of bookmarks reaches as far as the last row that got or lost one. -/
theorem lt_bookmarkRows_setBookmark {b : Bindings} {row : Nat} {m : Option Bookmark}
    (h : (b.setBookmark row m).bookmarks.isSome = true) :
    row < (b.setBookmark row m).bookmarkRows := by
  unfold setBookmark at h ⊢
  split at h
  next hnone =>
    rw [Option.isNone_iff_eq_none.mp (Bool.and_eq_true_iff.mp hnone).2] at h
    cases h
  next hsome =>
    rw [if_neg hsome]
    simp only [bookmarkRows, Option.map_some, Option.getD_some, List.length_set, extended,
      List.length_append, List.length_replicate]
    omega

theorem addedRecord_congr {b b' : Bindings} (h : b'.columns = b.columns) :
    b'.addedRecord = b.addedRecord := by
  funext supplied row d table numbered generated
  unfold addedRecord boundValue
  rw [value_congr h]

theorem assignments_congr {b b' : Bindings} (h : b'.columns = b.columns) :
    b'.assignments = b.assignments := by
  funext supplied row d table
  unfold assignments assignment?
  rw [value_congr h]

end Bindings

/-! ## One row -/

/-- What a server answers to the statements that there are, in turn. -/
def Server.answers {σ : Type} (server : Server σ) :
    σ → List (Option Request) → List (Option (Except Error WriteAnswer))
  | _, [] => []
  | s, none :: rest => none :: server.answers s rest
  | s, some request :: rest =>
      (server.execute request s).1 :: server.answers (server.execute request s).2 rest

namespace Cursor

/-- A row that was added is held under a bookmark. -/
def HoldsAdded (c : Cursor) (b : Bookmark) (record : Record) : Prop :=
  ∃ id, c.bookmarks.ofSlot? id = some b ∧ c.buffer.slot? id = some (.fresh record .added none)

/-- An added row is held under the bookmark it is given. -/
theorem holdsAdded_addRow {c : Cursor} (huse : c.options.useBookmarks = true) (record : Record) :
    ∃ b, (c.addRow record).1 = some b ∧ (c.addRow record).2.HoldsAdded b record := by
  obtain ⟨b, hb, hmarked⟩ := Work.addRow_of_useBookmarks huse record
  refine ⟨b, hb, _, hmarked, ?_⟩
  rw [addRow_buffer]
  exact List.getElem?_concat_length

/-- Rows that are added later leave it there. -/
theorem HoldsAdded.addRow {c : Cursor} {b : Bookmark} {record : Record} (h : c.HoldsAdded b record)
    (other : Record) : (c.addRow other).2.HoldsAdded b record := by
  obtain ⟨id, hmarked, hslot⟩ := h
  refine ⟨id, Work.ofSlot?_addRow hmarked other, ?_⟩
  rw [addRow_buffer, RowBuffer.slot?_pushDetached other .added
    (RowBuffer.lt_resident_of_slot? hslot), hslot]

end Cursor

namespace Work

variable {σ : Type} {w : Work σ} {supplied : Supplied} {table : TableRef} {numbered : Option Nat}
  {row : Nat}

/-- The statement that inserts a row of the bound arrays, if it can be written. -/
def insertRequest? (w : Work σ) (supplied : Supplied) (table : TableRef) (row : Nat) :
    Option Request :=
  ((w.bindings.assignments supplied (row - 1) w.cursor.descriptor table).bind
    (w.cursor.dialect.insert table w.cursor.descriptor)).toOption

/-- The row is reported as the answer to its statement says, and is held if it was added. -/
def ReportedAs (w : Work σ) (supplied : Supplied) (table : TableRef) (numbered : Option Nat)
    (row : Nat) (c : Cursor) (entry : RowReport × Option Bookmark) :
    Option (Except Error WriteAnswer) → Prop
  | some (.ok answer) =>
      entry.1.status = .added ∧ ∃ b record, entry.2 = some b ∧ c.HoldsAdded b record ∧
        ((∀ n, answer.generated = some n → n < 1 <<< 63) →
          record = w.bindings.addedRecord supplied (row - 1) w.cursor.descriptor table numbered
            answer.generated)
  | _ => entry.1.status = .error ∧ entry.2 = none

/-- How the statement of one row was answered and reported, and what it made of the server. -/
structure Inserted (w v : Work σ) (supplied : Supplied) (table : TableRef) (numbered : Option Nat)
    (row : Nat) (entry : RowReport × Option Bookmark) : Prop where
  reported : w.ReportedAs supplied table numbered row v.cursor entry
    ((w.insertRequest? supplied table row).map fun request =>
      (w.link.server.execute request w.link.state).1)
  server : v.link.server = w.link.server
  state : v.link.state = (w.insertRequest? supplied table row).elim w.link.state fun request =>
    (w.link.server.execute request w.link.state).2

/-- A row that is inserted is sent once and stored if the server takes it. -/
theorem inserted_insertRow (huse : w.cursor.options.useBookmarks = true) (supplied : Supplied)
    (table : TableRef) (numbered : Option Nat) (row : Nat) :
    w.Inserted (w.insertRow supplied table numbered row).2.2 supplied table numbered row
        (⟨row, (w.insertRow supplied table numbered row).1, .noRow⟩,
          (w.insertRow supplied table numbered row).2.1) ∧
      (w.insertRow supplied table numbered row).2.2.bindings = w.bindings := by
  unfold insertRow
  dsimp only
  cases hvalues : w.bindings.assignments supplied (row - 1) w.cursor.descriptor table with
  | error e =>
      have hrequest : w.insertRequest? supplied table row = none := by
        rw [insertRequest?, hvalues]
        rfl
      exact ⟨⟨by rw [hrequest]; exact ⟨rfl, rfl⟩, rfl, by rw [hrequest]; rfl⟩, rfl⟩
  | ok values =>
      have hrequest : w.insertRequest? supplied table row =
          (w.cursor.dialect.insert table w.cursor.descriptor values).toOption := by
        rw [insertRequest?, hvalues]
        rfl
      dsimp only
      cases hinsert : w.cursor.dialect.insert table w.cursor.descriptor values with
      | error e =>
          rw [hinsert] at hrequest
          exact ⟨⟨by rw [hrequest]; exact ⟨rfl, rfl⟩, rfl, by rw [hrequest]; rfl⟩, rfl⟩
      | ok request =>
          rw [hinsert] at hrequest
          have hanswer : (w.link.execute request).1 =
              (w.link.server.execute request w.link.state).1 := rfl
          have hstate : (w.link.execute request).2.state =
              (w.link.server.execute request w.link.state).2 := rfl
          have hserver : (w.link.execute request).2.server = w.link.server := rfl
          dsimp only
          generalize w.link.execute request = answered at hanswer hstate hserver ⊢
          obtain ⟨answer, link⟩ := answered
          cases answer with
          | error e =>
              refine ⟨⟨?_, hserver, by rw [hrequest]; exact hstate⟩, rfl⟩
              rw [hrequest, Except.toOption, Option.map_some, ← hanswer]
              exact ⟨rfl, rfl⟩
          | ok answer =>
              obtain ⟨b, hb, hheld⟩ := Cursor.holdsAdded_addRow huse
                (insertedImage w.cursor.descriptor.length values numbered answer.generated)
              refine ⟨⟨?_, hserver, by rw [hrequest]; exact hstate⟩, rfl⟩
              rw [hrequest, Except.toOption, Option.map_some, ← hanswer]
              exact ⟨rfl, b, _, hb, hheld, fun hsmall =>
                Bindings.insertedImage_eq_addedRecord hvalues hsmall numbered⟩

/-- What is reported of a row, what the server was asked, and the bookmark that is bound. -/
theorem inserted_addOne (huse : w.cursor.options.useBookmarks = true) (supplied : Supplied)
    (table : TableRef) (numbered : Option Nat) (row : Nat) :
    w.Inserted (addOne supplied table numbered w row).2.2 supplied table numbered row
        (⟨row, (addOne supplied table numbered w row).1, .noRow⟩,
          (addOne supplied table numbered w row).2.1) ∧
      (addOne supplied table numbered w row).2.2.bindings =
        w.bindings.setBookmark (row - 1) (addOne supplied table numbered w row).2.1 := by
  obtain ⟨⟨hreported, hserver, hstate⟩, hbindings⟩ := inserted_insertRow huse supplied table
    numbered row
  refine ⟨⟨hreported, hserver, hstate⟩, ?_⟩
  change (w.insertRow supplied table numbered row).2.2.bindings.setBookmark _ _ = _
  rw [hbindings]
  rfl

/-- A row that was added is held while others are. -/
theorem holdsAdded_addEach {b : Bookmark} {record : Record} (h : w.cursor.HoldsAdded b record)
    (rows : List Nat) :
    (addEach supplied table numbered w rows).2.cursor.HoldsAdded b record := by
  induction rows generalizing w with
  | nil => exact h
  | cons row rows ih =>
      have hone : (addOne supplied table numbered w row).2.2.cursor.HoldsAdded b record := by
        rcases addOne_cursor supplied table numbered w row with ⟨-, hsame⟩ | ⟨values, -, hadded⟩
        · rw [hsame]
          exact h
        · rw [hadded]
          exact h.addRow values
      exact ih hone

/-! ## Rows one after another -/

theorem ReportedAs.addEach {entry : RowReport × Option Bookmark}
    {answer : Option (Except Error WriteAnswer)} {v : Work σ}
    (h : w.ReportedAs supplied table numbered row v.cursor entry answer) (rows : List Nat) :
    w.ReportedAs supplied table numbered row
      (Work.addEach supplied table numbered v rows).2.cursor entry answer := by
  match answer, h with
  | none, h => exact h
  | some (.error _), h => exact h
  | some (.ok _), ⟨hadded, b, record, hb, hheld, hrecord⟩ =>
      exact ⟨hadded, b, record, hb, holdsAdded_addEach hheld rows, hrecord⟩

/-- What is reported depends on the arrays bound to columns and on the columns of the result. -/
theorem ReportedAs.congr {u : Work σ} (hcolumns : u.bindings.columns = w.bindings.columns)
    (hdescriptor : u.cursor.descriptor = w.cursor.descriptor) {c : Cursor}
    {entry : RowReport × Option Bookmark} {answer : Option (Except Error WriteAnswer)}
    (h : u.ReportedAs supplied table numbered row c entry answer) :
    w.ReportedAs supplied table numbered row c entry answer := by
  match answer, h with
  | none, h => exact h
  | some (.error _), h => exact h
  | some (.ok _), ⟨hadded, b, record, hb, hheld, hrecord⟩ =>
      refine ⟨hadded, b, record, hb, hheld, fun hsmall => ?_⟩
      rw [hrecord hsmall, Bindings.addedRecord_congr hcolumns, hdescriptor]

theorem insertRequest?_congr {u : Work σ} (hcolumns : u.bindings.columns = w.bindings.columns)
    (hframe : Cursor.SameFrame w.cursor u.cursor) :
    u.insertRequest? supplied table = w.insertRequest? supplied table := by
  obtain ⟨-, hdialect, -, hdescriptor⟩ := hframe
  funext row
  unfold insertRequest?
  rw [Bindings.assignments_congr hcolumns, hdialect, hdescriptor]

theorem useBookmarks_addOne (huse : w.cursor.options.useBookmarks = true) :
    (addOne supplied table numbered w row).2.2.cursor.options.useBookmarks = true := by
  rw [(addOne_changes supplied table numbered w row).sameFrame.2.2.1]
  exact huse

/-- Every row is reported as it was answered, whatever became of the rows around it. -/
theorem reportedAs_addEach (huse : w.cursor.options.useBookmarks = true) (supplied : Supplied)
    (table : TableRef) (numbered : Option Nat) {rows : List Nat} {j : Nat}
    (hrow : rows[j]? = some row) :
    ∃ entry answer, (addEach supplied table numbered w rows).1[j]? = some entry ∧
      (w.link.server.answers w.link.state
        (rows.map (w.insertRequest? supplied table)))[j]? = some answer ∧
      w.ReportedAs supplied table numbered row (addEach supplied table numbered w rows).2.cursor
        entry answer := by
  induction rows generalizing w j with
  | nil => cases hrow
  | cons first rows ih =>
      obtain ⟨⟨hreported, hserver, hstate⟩, -⟩ := inserted_addOne huse supplied table numbered
        first
      have hcolumns := (kept_addOne supplied table numbered w first).columns
      have hframe := (addOne_changes supplied table numbered w first).sameFrame
      have hanswers : w.link.server.answers w.link.state
          ((first :: rows).map (w.insertRequest? supplied table)) =
          (w.insertRequest? supplied table first).map (fun request =>
            (w.link.server.execute request w.link.state).1) ::
          (addOne supplied table numbered w first).2.2.link.server.answers
            (addOne supplied table numbered w first).2.2.link.state
            (rows.map ((addOne supplied table numbered w first).2.2.insertRequest? supplied
              table)) := by
        rw [insertRequest?_congr hcolumns hframe, hserver, hstate, List.map_cons]
        cases w.insertRequest? supplied table first <;> rfl
      cases j with
      | zero =>
          cases hrow
          refine ⟨(⟨row, (addOne supplied table numbered w row).1, .noRow⟩,
            (addOne supplied table numbered w row).2.1), _, rfl, ?_, hreported.addEach rows⟩
          rw [hanswers]
          rfl
      | succ j =>
          obtain ⟨entry, answer, hentry, hanswer, hrest⟩ := ih (useBookmarks_addOne huse) hrow
          refine ⟨entry, answer, hentry, ?_, hrest.congr hcolumns hframe.2.2.2⟩
          rw [hanswers]
          exact hanswer

/-! ## Bookmarks of the rows -/

theorem bookmark?_addOne (huse : w.cursor.options.useBookmarks = true) (k : Nat) :
    (addOne supplied table numbered w row).2.2.bindings.bookmark? k =
      if k = row - 1 then (addOne supplied table numbered w row).2.1
      else w.bindings.bookmark? k := by
  rw [(inserted_addOne huse supplied table numbered row).2, Bindings.bookmark?_setBookmark]

theorem bookmark?_addEach_of_not_mem (huse : w.cursor.options.useBookmarks = true)
    {rows : List Nat} {k : Nat} (h : k ∉ rows.map fun row => row - 1) :
    (addEach supplied table numbered w rows).2.bindings.bookmark? k = w.bindings.bookmark? k := by
  induction rows generalizing w with
  | nil => rfl
  | cons first rows ih =>
      rw [List.map_cons, List.mem_cons, not_or] at h
      obtain ⟨hfirst, hrest⟩ := h
      exact (ih (useBookmarks_addOne huse) hrest).trans
        ((bookmark?_addOne huse k).trans (if_neg hfirst))

/-- Each row has its own bookmark bound, or none. -/
theorem bookmark?_addEach (huse : w.cursor.options.useBookmarks = true) {rows : List Nat}
    (hnodup : (rows.map fun row => row - 1).Nodup) {j : Nat} (hrow : rows[j]? = some row)
    {entry : RowReport × Option Bookmark}
    (hentry : (addEach supplied table numbered w rows).1[j]? = some entry) :
    (addEach supplied table numbered w rows).2.bindings.bookmark? (row - 1) = entry.2 := by
  induction rows generalizing w j with
  | nil => cases hrow
  | cons first rows ih =>
      obtain ⟨hfirst, hrest⟩ := List.nodup_cons.mp hnodup
      cases j with
      | zero =>
          cases hrow
          cases hentry
          exact (bookmark?_addEach_of_not_mem (useBookmarks_addOne huse) hfirst).trans
            ((bookmark?_addOne huse _).trans (if_pos rfl))
      | succ j => exact ih (useBookmarks_addOne huse) hrest hrow hentry

/-- If there is an array of bookmarks, it has an entry for the last row. -/
theorem lt_bookmarkRows_addEach (huse : w.cursor.options.useBookmarks = true) (supplied : Supplied)
    (table : TableRef) (numbered : Option Nat) {rows : List Nat} (hlast : rows.getLast? = some row)
    (h : (addEach supplied table numbered w rows).2.bindings.bookmarks.isSome = true) :
    row - 1 < (addEach supplied table numbered w rows).2.bindings.bookmarkRows := by
  induction rows generalizing w with
  | nil => cases hlast
  | cons first rows ih =>
      cases rows with
      | nil =>
          cases hlast
          change (addOne supplied table numbered w first).2.2.bindings.bookmarks.isSome = true at h
          change first - 1 < (addOne supplied table numbered w first).2.2.bindings.bookmarkRows
          rw [(inserted_addOne huse supplied table numbered first).2] at h ⊢
          exact Bindings.lt_bookmarkRows_setBookmark h
      | cons second rows =>
          rw [List.getLast?_cons_cons] at hlast
          exact ih (useBookmarks_addOne huse) hlast h

/-- Rows that are added do not move the cursor. -/
theorem sameStanding_addEach (supplied : Supplied) (table : TableRef) (numbered : Option Nat)
    (w : Work σ) (rows : List Nat) :
    Cursor.SameStanding w.cursor (addEach supplied table numbered w rows).2.cursor := by
  induction rows generalizing w with
  | nil => exact .refl _
  | cons row rows ih => exact (sameStanding_addOne supplied table numbered w row).trans (ih _)

end Work

end ScrollCursor
