import ScrollCursor.Proofs.Positioned.AddedInTurn
import ScrollCursor.Proofs.Positioned.Outcomes

/-! # Added rows fetched back

An addition moves nothing that is shown. It leaves the bookmarks of the added rows bound, in the rows
that they were bound for, so that a fetch by bookmark gives just these rows back, with the values
that were bound and the number that the server gave.
-/

namespace ScrollCursor

open Cursor (Ledger Addressable SameStanding)

theorem Cursor.Ledger.resolve?_of_ofSlot? {c : Cursor} (h : Ledger c) (hsize : Addressable c)
    {b : Bookmark} {id : SlotId} (hid : c.bookmarks.ofSlot? id = some b) :
    c.bookmarks.resolve? b = some id := by
  have hmem := Bookmarks.mem_live_of_ofSlot? hid
  cases hfound : c.bookmarks.resolve? b with
  | none => exact absurd (List.lookup_eq_none_iff.mp hfound _ hmem) (by simp)
  | some other =>
      have hother : (b, other) ∈ c.bookmarks.live := Bookmarks.mem_of_lookup hfound
      rw [h.eq_of_named hsize (List.mem_append_left _ hmem) (List.mem_append_left _ hother)]

namespace Work

variable {σ : Type} {w v : Work σ} {supplied : Supplied} {table : TableRef}

/-! ## The addition -/

/-- What the server answers to the statements of the rows in turn, once it was asked for the key. -/
def insertAnswers (w : Work σ) (supplied : Supplied) (table : TableRef) :
    List (Option (Except Error WriteAnswer)) :=
  w.keySet.2.link.server.answers w.keySet.2.link.state
    ((List.range' 1 w.cursor.size).map (w.insertRequest? supplied table))

/-- The column that takes the number of an added row. -/
def numbered? (w : Work σ) : Option Nat :=
  w.keySet.1.toOption.bind KeySet.numberedColumn?

/-- A row of the bound arrays as it was answered, reported and bound. -/
structure AddedRow (w v : Work σ) (supplied : Supplied) (table : TableRef)
    (outcome : OperationOutcome) (i : Nat) (entry : RowReport × Option Bookmark)
    (answer : Option (Except Error WriteAnswer)) : Prop where
  answered : (w.insertAnswers supplied table)[i]? = some answer
  reported : w.ReportedAs supplied table w.numbered? (i + 1) v.cursor entry answer
  status : outcome.statuses[i]? = some entry.1.status
  bookmark : outcome.bookmarks[i]? = some entry.2
  bound : v.bindings.bookmark? i = entry.2

/-- An addition reports and binds each row, and stays where it is. -/
structure AddsRows (w v : Work σ) (supplied : Supplied) (table : TableRef)
    (outcome : OperationOutcome) : Prop where
  standing : SameStanding w.cursor v.cursor
  length : outcome.statuses.length = w.cursor.size
  rows : ∀ i < w.cursor.size, ∃ entry answer, w.AddedRow v supplied table outcome i entry answer
  bookmarkRows : v.bindings.bookmarks.isSome = true → w.cursor.size ≤ v.bindings.bookmarkRows

theorem addRows_addsRows (huse : w.cursor.options.useBookmarks = true)
    (htable : w.cursor.descriptor.singleTable = .ok table) (supplied : Supplied) :
    ∃ outcome, (w.addRows supplied (List.range' 1 w.cursor.size)).1 = .ok outcome ∧
      w.AddsRows (w.addRows supplied (List.range' 1 w.cursor.size)).2 supplied table outcome := by
  have hframe := w.keySet_changes.sameFrame
  have hcolumns : w.keySet.2.bindings.columns = w.bindings.columns := by rw [w.bindings_keySet]
  have huse' : w.keySet.2.cursor.options.useBookmarks = true := hframe.2.2.1 ▸ huse
  -- Rows are numbered from one, their entries in the bound arrays from zero.
  have hnodup : ((List.range' 1 w.cursor.size).map fun row => row - 1).Nodup := by
    rw [List.map_sub_range' (Nat.le_refl 1)]
    exact List.nodup_range'
  obtain ⟨added, v, hadded⟩ : ∃ added v, addEach supplied table w.numbered? w.keySet.2
      (List.range' 1 w.cursor.size) = (added, v) := ⟨_, _, rfl⟩
  have hkey : w.keySet = (w.keySet.1, w.keySet.2) := rfl
  rw [addRows_of_addEach htable hkey hadded]
  refine ⟨_, rfl, ?_, ?_, fun i hi => ?_, fun h => ?_⟩
  · have hstanding := sameStanding_addEach supplied table w.numbered? w.keySet.2
      (List.range' 1 w.cursor.size)
    rw [hadded] at hstanding
    exact w.sameStanding_keySet.trans hstanding
  · have hreported := (reports_addEach supplied table w.numbered? w.keySet.2
      (List.range' 1 w.cursor.size)).1
    have hlength := congrArg List.length hreported
    rw [hadded, List.length_map, List.length_map, List.length_range'] at hlength
    change ((added.map Prod.fst).map RowReport.status).length = _
    rw [List.length_map, List.length_map, hlength]
  · have hrow : (List.range' 1 w.cursor.size)[i]? = some (i + 1) := by
      rw [List.getElem?_range' hi, Nat.one_mul, Nat.add_comm]
    obtain ⟨entry, answer, hentry, hanswer, hreported⟩ :=
      reportedAs_addEach huse' supplied table w.numbered? hrow
    have hbound := bookmark?_addEach huse' hnodup hrow hentry
    rw [insertRequest?_congr hcolumns hframe] at hanswer
    rw [hadded] at hentry hreported hbound
    refine ⟨entry, answer, hanswer, hreported.congr hcolumns hframe.2.2.2, ?_, ?_, hbound⟩
    · exact OperationOutcome.getElem?_statuses (by rw [List.getElem?_map, hentry]; rfl)
    · dsimp only
      rw [List.getElem?_map, hentry]
      rfl
  · have hlast : (List.range' 1 w.cursor.size).getLast? = some w.cursor.size := by
      have hpos := w.cursor.size_pos
      rw [List.getLast?_range', if_neg (Nat.ne_of_gt hpos)]
      simp
    have hlt := lt_bookmarkRows_addEach huse' supplied table w.numbered? hlast
    rw [hadded] at hlt
    exact Nat.le_of_pred_lt (hlt h)

/-! ## The fetch -/

/-- How a fetch by bookmark shows a row that is held under the bookmark bound for it. -/
theorem fetchedRow_of_holdsAdded (hledger : Ledger v.cursor) (hsize : Addressable v.cursor)
    (huse : v.cursor.options.useBookmarks = true) (hshow : v.cursor.options.retrieveData = true)
    {i : Nat} {b : Bookmark} {record : Record} (hbound : v.bindings.bookmark? i = some b)
    (hheld : v.cursor.HoldsAdded b record) :
    v.bookmarkStatus (i + 1) = .added ∧
      v.cursor.fetchedRow (v.bookmarkSlot? (i + 1)) .added =
        ⟨.added, some b, some ⟨v.cursor.descriptor.names, record⟩⟩ := by
  obtain ⟨id, hmarked, hslot⟩ := hheld
  have hnamed : v.bookmarkSlot? (i + 1) = some id := by
    rw [bookmarkSlot?, Nat.add_sub_cancel, hbound]
    exact hledger.resolve?_of_ofSlot? hsize hmarked
  constructor
  · rw [bookmarkStatus_of_bookmarkSlot? hnamed, Cursor.slotStatus, hslot]
    rfl
  · rw [hnamed, Cursor.fetchedRow, if_pos huse, hshow, Option.bind_some, Option.bind_some, hmarked,
      hslot]
    rfl

theorem fetchedRow_of_not_bound {i : Nat} (hbound : v.bindings.bookmark? i = none) :
    v.bookmarkStatus (i + 1) = .noRow ∧
      v.cursor.fetchedRow (v.bookmarkSlot? (i + 1)) .noRow = ⟨.noRow, none, none⟩ := by
  constructor
  · rw [bookmarkStatus, Nat.add_sub_cancel, hbound]
  · rw [bookmarkSlot?, Nat.add_sub_cancel, hbound, Option.bind_none, Cursor.fetchedRow]
    simp [RowStatus.hasData]

/-- A fetch by bookmark shows the rows that the bound bookmarks name. -/
theorem bulk_fetchByBookmark (hkind : v.cursor.kind.isScrollable = true)
    (huse : v.cursor.options.useBookmarks = true) (hbound : v.bindings.bookmarks.isSome = true)
    (hrows : v.cursor.size ≤ v.bindings.bookmarkRows) (supplied : Supplied) :
    ∃ fetched, (v.bulk .fetchByBookmark supplied).1 = .ok fetched ∧
      fetched.statuses = (List.range' 1 v.cursor.size).map v.bookmarkStatus ∧
      fetched.rows = (List.range' 1 v.cursor.size).map fun row =>
        v.cursor.fetchedRow (v.bookmarkSlot? row) (v.bookmarkStatus row) := by
  have hopen : v.cursor.validateBulk .fetchByBookmark = .ok () := by
    unfold Cursor.validateBulk
    simp [hkind, BulkOperation.writes]
  have hbookmarkRows : v.bookmarkRows = .ok (List.range' 1 v.cursor.size) := by
    obtain ⟨bookmarks, hbookmarks⟩ := Option.isSome_iff_exists.mp hbound
    unfold bookmarkRows
    rw [huse, hbookmarks, Nat.min_eq_right hrows]
    rfl
  obtain ⟨hcursor, hshown⟩ := v.fetchByBookmark_eq (List.range' 1 v.cursor.size)
  refine ⟨(v.fetchByBookmark (List.range' 1 v.cursor.size)).1, ?_, ?_, ?_⟩
  · unfold bulk
    rw [hopen]
    dsimp only
    unfold overBookmarks
    rw [hbookmarkRows]
  · exact congrArg Cursor.statuses hcursor
  · rw [hshown, hcursor]
    change List.zipWith v.cursor.fetchedRow ((List.range' 1 v.cursor.size).map v.bookmarkSlot?)
      ((List.range' 1 v.cursor.size).map v.bookmarkStatus) = _
    rw [List.zipWith_map, List.zipWith_self]

/-! ## Both together -/

/-- A row was added and its bookmark bound, or it failed and none is bound. -/
theorem AddedRow.cases {outcome : OperationOutcome} {i : Nat} {entry : RowReport × Option Bookmark}
    {answer : Option (Except Error WriteAnswer)}
    (h : w.AddedRow v supplied table outcome i entry answer) :
    (∃ a b record, answer = some (.ok a) ∧ outcome.statuses[i]? = some .added ∧
        v.bindings.bookmark? i = some b ∧ v.cursor.HoldsAdded b record ∧
        ((∀ n, a.generated = some n → n < 1 <<< 63) →
          record = w.bindings.addedRecord supplied i w.cursor.descriptor table w.numbered?
            a.generated)) ∨
      ((∀ a, answer ≠ some (.ok a)) ∧ outcome.statuses[i]? = some .error ∧
        v.bindings.bookmark? i = none) := by
  obtain ⟨-, hreported, hstatus, -, hbound⟩ := h
  match answer, hreported with
  | none, ⟨herror, hnone⟩ =>
      exact Or.inr ⟨fun _ ha => (by cases ha), herror ▸ hstatus, hnone ▸ hbound⟩
  | some (.error e), ⟨herror, hnone⟩ =>
      exact Or.inr ⟨fun _ ha => (by cases ha), herror ▸ hstatus, hnone ▸ hbound⟩
  | some (.ok a), ⟨hadded, b, record, hb, hheld, hrecord⟩ =>
      exact Or.inl ⟨a, b, record, rfl, hadded ▸ hstatus, hb ▸ hbound, hheld, hrecord⟩

/-- What an addition leaves: the cursor where it was, and a bookmark for each row that was added. -/
structure BindsAdded (w v : Work σ) (supplied : Supplied) (table : TableRef)
    (outcome : OperationOutcome) : Prop where
  standing : SameStanding w.cursor v.cursor
  bound : ∀ i < w.cursor.size, outcome.bookmarks[i]? = some (v.bindings.bookmark? i)
  present : ∀ i < w.cursor.size,
    (v.bindings.bookmark? i).isSome = true ↔ outcome.statuses[i]? = some .added
  /-- The rows that were added are those whose statements the server carried out. -/
  added : ∀ i < w.cursor.size, outcome.statuses[i]? = some .added ↔
    ∃ answer, (w.insertAnswers supplied table)[i]? = some (some (.ok answer))

/-- What a fetch by bookmark shows after an addition: the rows that were added. -/
structure GivesBack (w v : Work σ) (supplied : Supplied) (table : TableRef)
    (outcome fetched : OperationOutcome) : Prop where
  length : fetched.rows.length = w.cursor.size
  statuses : ∀ i < w.cursor.size, fetched.statuses[i]? =
    some (if outcome.statuses[i]? = some .added then .added else .noRow)
  added : ∀ i < w.cursor.size, ∀ answer,
    (w.insertAnswers supplied table)[i]? = some (some (.ok answer)) →
    (∀ n, answer.generated = some n → n < 1 <<< 63) →
    fetched.rows[i]? = some ⟨.added, v.bindings.bookmark? i,
      some ⟨w.cursor.descriptor.names, w.bindings.addedRecord supplied i w.cursor.descriptor table
        w.numbered? answer.generated⟩⟩
  notAdded : ∀ i < w.cursor.size, outcome.statuses[i]? ≠ some .added →
    fetched.rows[i]? = some ⟨.noRow, none, none⟩

theorem AddsRows.bindsAdded {outcome : OperationOutcome}
    (h : w.AddsRows v supplied table outcome) : w.BindsAdded v supplied table outcome := by
  refine ⟨h.standing, fun i hi => ?_, fun i hi => ?_, fun i hi => ?_⟩
  all_goals obtain ⟨entry, answer, hrow⟩ := h.rows i hi
  · rw [hrow.bookmark, hrow.bound]
  · rcases hrow.cases with ⟨a, b, record, -, hstatus, hbound, -⟩ | ⟨-, hstatus, hbound⟩
    · rw [hstatus, hbound]
      exact iff_of_true rfl rfl
    · rw [hstatus, hbound]
      exact iff_of_false Bool.noConfusion fun heq => by cases heq
  · rw [hrow.answered]
    rcases hrow.cases with ⟨a, b, record, rfl, hstatus, -⟩ | ⟨hfailed, hstatus, -⟩
    · exact iff_of_true hstatus ⟨a, rfl⟩
    · rw [hstatus]
      exact iff_of_false (fun heq => by cases heq)
        fun ⟨a, ha⟩ => hfailed a (Option.some.inj ha)

theorem AddsRows.givesBack {outcome fetched : OperationOutcome}
    (h : w.AddsRows v supplied table outcome) (hledger : Ledger v.cursor)
    (hsize : Addressable v.cursor) (huse : v.cursor.options.useBookmarks = true)
    (hshow : v.cursor.options.retrieveData = true)
    (hstatuses : fetched.statuses = (List.range' 1 v.cursor.size).map v.bookmarkStatus)
    (hrows : fetched.rows = (List.range' 1 v.cursor.size).map fun row =>
      v.cursor.fetchedRow (v.bookmarkSlot? row) (v.bookmarkStatus row)) :
    w.GivesBack v supplied table outcome fetched := by
  have hsame := Cursor.size_congr h.standing
  have hnames : v.cursor.descriptor = w.cursor.descriptor := h.standing.2.2.1
  have hrow {i : Nat} (hi : i < w.cursor.size) :
      (List.range' 1 v.cursor.size)[i]? = some (i + 1) := by
    rw [hsame, List.getElem?_range' hi, Nat.one_mul, Nat.add_comm]
  have hstatus {i : Nat} (hi : i < w.cursor.size) :
      fetched.statuses[i]? = some (v.bookmarkStatus (i + 1)) := by
    rw [hstatuses, List.getElem?_map, hrow hi]
    rfl
  have hshown {i : Nat} (hi : i < w.cursor.size) : fetched.rows[i]? =
      some (v.cursor.fetchedRow (v.bookmarkSlot? (i + 1)) (v.bookmarkStatus (i + 1))) := by
    rw [hrows, List.getElem?_map, hrow hi]
    rfl
  refine ⟨?_, fun i hi => ?_, fun i hi a ha hsmall => ?_, fun i hi hnot => ?_⟩
  · rw [hrows, List.length_map, List.length_range', hsame]
  all_goals obtain ⟨entry, answer, hrow'⟩ := h.rows i hi
  · rw [hstatus hi]
    rcases hrow'.cases with ⟨_, b, record, -, hadded, hbound, hheld, -⟩ | ⟨-, hfailed, hbound⟩
    · rw [if_pos hadded, (fetchedRow_of_holdsAdded hledger hsize huse hshow hbound hheld).1]
    · rw [if_neg (by rw [hfailed]; exact fun heq => by cases heq),
        (fetchedRow_of_not_bound hbound).1]
  · rw [hrow'.answered, Option.some.injEq] at ha
    rcases hrow'.cases with ⟨a', b, record, ha', -, hbound, hheld, hrecord⟩ | ⟨hfailed, -, -⟩
    · cases ha.symm.trans ha'
      obtain ⟨hst, hfetched⟩ := fetchedRow_of_holdsAdded hledger hsize huse hshow hbound hheld
      rw [hshown hi, hst, hfetched, hbound, hnames, hrecord hsmall]
    · exact absurd ha (hfailed a)
  · rcases hrow'.cases with ⟨_, _, _, -, hadded, -⟩ | ⟨-, -, hbound⟩
    · exact absurd hadded hnot
    · obtain ⟨hst, hfetched⟩ := fetchedRow_of_not_bound hbound
      rw [hshown hi, hst, hfetched]

/-- An addition on a cursor that scrolls, with bookmarks, for whatever is bound and however the
server answers: it moves nothing that is shown, and binds a bookmark for just the rows that it added,
so that a fetch by bookmark gives these rows back. -/
theorem fetchByBookmark_of_add (hreach : Cursor.Reachable w.cursor)
    (hkind : w.cursor.kind.isScrollable = true)
    (hwrites : w.cursor.options.concurrency ≠ .readOnly)
    (huse : w.cursor.options.useBookmarks = true) (hshow : w.cursor.options.retrieveData = true)
    (htable : w.cursor.descriptor.singleTable = .ok table) (supplied : Supplied)
    (hsize : Addressable (w.bulk .add supplied).2.cursor) :
    ∃ outcome, (w.bulk .add supplied).1 = .ok outcome ∧
      w.BindsAdded (w.bulk .add supplied).2 supplied table outcome ∧
      (.added ∈ outcome.statuses →
        ∃ fetched, ((w.bulk .add supplied).2.bulk .fetchByBookmark []).1 = .ok fetched ∧
          w.GivesBack (w.bulk .add supplied).2 supplied table outcome fetched) := by
  have hopen : w.cursor.validateBulk .add = .ok () := by
    unfold Cursor.validateBulk
    simp [hkind, hwrites]
  have hbulk : w.bulk .add supplied = w.addRows supplied (List.range' 1 w.cursor.size) := by
    unfold bulk
    rw [hopen]
  have hledger : Ledger (w.bulk .add supplied).2.cursor := by
    obtain ⟨kind, dialect, options, result, hchanges⟩ := hreach.exists_changes
    have hframe : w.cursor.kind = kind := (Cursor.Changes.sameFrame hchanges).1
    exact (Ledger.opened kind dialect options result).of_changes (hframe ▸ hkind)
      (hchanges.trans (w.bulk_changes .add supplied)) hsize
  obtain ⟨outcome, hok, hadds⟩ := addRows_addsRows huse htable supplied
  rw [hbulk] at hsize hledger ⊢
  refine ⟨outcome, hok, hadds.bindsAdded, fun hsome => ?_⟩
  obtain ⟨hkind', hoptions, -⟩ := hadds.standing
  -- A row that was added has a bookmark, so there is an array of them.
  have hbound : (w.addRows supplied (List.range' 1 w.cursor.size)).2.bindings.bookmarks.isSome =
      true := by
    obtain ⟨i, hi⟩ := List.mem_iff_getElem?.mp hsome
    have hlt : i < w.cursor.size := hadds.length ▸ (List.getElem?_eq_some_iff.mp hi).1
    have hpresent := (hadds.bindsAdded.present i hlt).mpr hi
    rw [Bindings.bookmark?_eq] at hpresent
    by_contra hnone
    rw [Option.not_isSome_iff_eq_none.mp hnone] at hpresent
    cases hpresent
  obtain ⟨fetched, hfetched, hstatuses, hrows⟩ := bulk_fetchByBookmark (hkind'.symm ▸ hkind)
    (hoptions.symm ▸ huse) hbound
    ((Cursor.size_congr hadds.standing).trans_le (hadds.bookmarkRows hbound)) []
  exact ⟨fetched, hfetched, hadds.givesBack hledger hsize (hoptions.symm ▸ huse)
    (hoptions.symm ▸ hshow) hstatuses hrows⟩

/-! ### Two inks -/

def inksRef : TableRef :=
  ⟨none, "inks"⟩

/-- The numbers and names of inks, and a column of no table. -/
def inkColumns : ResultDescriptor :=
  [{ name := "id", sqlType := .integer, table := some inksRef },
    { name := "name", sqlType := .varchar, table := some inksRef },
    { name := "rank", sqlType := .integer }]

def inksMetadata : TableMetadata where
  table := inksRef
  columns := [⟨"id", .integer, false⟩, ⟨"name", .varchar, true⟩]
  primaryKey := ["id"]

/-- Two names are bound beside the bookmarks of other rows. The server takes the first name, under
the number 7, and is lost before the second one. -/
def twoInks : Work MemoryServer where
  cursor := .opened .static {} { useBookmarks := true, rowArraySize := 2 } ⟨inkColumns, []⟩
  bindings :=
    { columns := [none, some [.value (.string "blue"), .value (.string "green")]]
      bookmarks := some [some (.ofNumber 8), some (.ofNumber 9)] }
  diagnostics := []
  link := ⟨MemoryServer.server,
    { metadata := [(inksRef, .ok inksMetadata)]
      writes := [.answer { affected := 1, generated := some 7 },
        .fail MemoryServer.lostConnection] }, []⟩

/-- Only the first ink is given back, with its number. -/
theorem fetchByBookmark_of_add_twoInks :
    ∃ outcome fetched, (twoInks.bulk .add []).1 = .ok outcome ∧
      outcome.statuses = [.added, .error] ∧
      ((twoInks.bulk .add []).2.bulk .fetchByBookmark []).1 = .ok fetched ∧
      fetched.statuses = [.added, .noRow] ∧
      fetched.rows[0]? = some ⟨.added, some (.ofNumber 1),
        some ⟨["id", "name", "rank"], [.integer 7, .string "blue", .null]⟩⟩ ∧
      fetched.rows[1]? = some ⟨.noRow, none, none⟩ := by
  have hsize : Addressable (twoInks.bulk .add []).2.cursor := by
    unfold Addressable
    decide
  obtain ⟨outcome, hok, -, hback⟩ := fetchByBookmark_of_add (w := twoInks)
    (.opened .static {} { useBookmarks := true, rowArraySize := 2 } ⟨inkColumns, []⟩) rfl
    (by decide) rfl rfl rfl [] hsize
  have hstatuses : outcome.statuses = [.added, .error] := by
    cases hok
    rfl
  obtain ⟨fetched, hfetched, hgiven⟩ := hback (by rw [hstatuses]; decide)
  refine ⟨outcome, fetched, hok, hstatuses, hfetched, ?_, ?_, ?_⟩
  · cases hfetched
    rfl
  · exact hgiven.added 0 (by decide) { affected := 1, generated := some 7 } rfl
      fun n hn => by cases hn; decide
  · exact hgiven.notAdded 1 (by decide) (by rw [hstatuses]; decide)

end Work

end ScrollCursor
