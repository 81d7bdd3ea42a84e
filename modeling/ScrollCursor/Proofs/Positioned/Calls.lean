import ScrollCursor.Proofs.Cursor.Changes
import ScrollCursor.Proofs.Cursor.Fetching
import ScrollCursor.Proofs.Positioned.SlotWrites
import ScrollCursor.Statement.Basic

/-! # Runs of calls

Every call on a static cursor that adds no rows is made of rows pulled, a key asked for, and writes
of single slots. So cursor and server stay in step, and every statement that reaches the server is
for one row: the one that came to the slot that the call addressed.
-/

namespace ScrollCursor

/-- What a caller asks of an open cursor. -/
inductive Call where
  | bind (bindings : Bindings)
  | fetch (orientation : Orientation)
  | operation (operation : Operation) (supplied : Supplied)
  /-- Where the cursor stands is made known to other statements. -/
  | publish

/-- The call may add rows. -/
def Call.adds : Call → Bool
  | .operation (.setPosition _ .add) _ => true
  | .operation (.bulk .add) _ => true
  | _ => false

namespace Work

variable {σ : Type} {w : Work σ}

def call (w : Work σ) : Call → Work σ
  | .bind bindings => { w with bindings := bindings }
  | .fetch orientation => (w.fetch orientation).2
  | .operation (.setPosition row operation) supplied =>
      (w.setPosition row operation supplied).2
  | .operation (.bulk operation) supplied => (w.bulk operation supplied).2
  | .publish => w.currentTarget.2

/-- One call after another. -/
def calls (w : Work σ) (calls : List Call) : Work σ :=
  calls.foldl call w

/-- The slot that the bookmark of a row names. -/
def bookmarkSlot? (w : Work σ) (row : Nat) : Option SlotId :=
  (w.bindings.bookmark? (row - 1)).bind w.cursor.bookmarks.resolve?

/-- The slots that the bound bookmarks name. -/
def bookmarkSlots (w : Work σ) : List SlotId :=
  match w.bookmarkRows with
  | .ok rows => rows.filterMap w.bookmarkSlot?
  | .error _ => []

/-- The slots that a call may write, in the order of its rows. -/
def addressed (w : Work σ) : Call → List SlotId
  | .operation (.setPosition row .update) _ =>
      (w.targetRows row .update).filterMap w.cursor.slotOf?
  | .operation (.setPosition row .delete) _ =>
      (w.targetRows row .delete).filterMap w.cursor.slotOf?
  | .operation (.bulk .updateByBookmark) _ => w.bookmarkSlots
  | .operation (.bulk .deleteByBookmark) _ => w.bookmarkSlots
  | _ => []

/-! ### What writes of single slots leave alone -/

/-- A request changes the cursor as it should or not at all. -/
theorem send_frame (w : Work σ) (request : Request) (change : Cursor → Cursor)
    (status : RowStatus) :
    (w.send request change status).2.bindings = w.bindings ∧
      ((w.send request change status).2.cursor = w.cursor ∨
        (w.send request change status).2.cursor = change w.cursor) := by
  unfold send
  split
  · exact ⟨rfl, Or.inl rfl⟩
  · split
    · exact ⟨rfl, Or.inl rfl⟩
    · exact ⟨rfl, Or.inr rfl⟩

/-- An update leaves what is bound, the rowset and the bookmarks. -/
theorem updateSlot_frame (w : Work σ) (key : KeySet) (supplied : Supplied) (id : SlotId)
    (bindingRow : Nat) :
    (w.updateSlot key supplied id bindingRow).2.bindings = w.bindings ∧
      (w.updateSlot key supplied id bindingRow).2.cursor.rowset = w.cursor.rowset ∧
      (w.updateSlot key supplied id bindingRow).2.cursor.bookmarks = w.cursor.bookmarks := by
  unfold updateSlot
  split
  · exact ⟨rfl, rfl, rfl⟩
  · split
    · exact ⟨rfl, rfl, rfl⟩
    · exact ⟨rfl, rfl, rfl⟩
    next assignments _ _ =>
      split
      · exact ⟨rfl, rfl, rfl⟩
      next request _ =>
        obtain ⟨hbindings, hcursor⟩ := w.send_frame request (applySlot id assignments) .updated
        rcases hcursor with hcursor | hcursor
        · rw [hcursor]
          exact ⟨hbindings, rfl, rfl⟩
        · rw [hcursor]
          exact ⟨hbindings, rfl, rfl⟩

/-- A deletion leaves what is bound and the rowset, and retires one bookmark at most. -/
theorem deleteSlot_frame (w : Work σ) (key : KeySet) (id : SlotId) :
    (w.deleteSlot key id).2.bindings = w.bindings ∧
      (w.deleteSlot key id).2.cursor.rowset = w.cursor.rowset ∧
      ((w.deleteSlot key id).2.cursor.bookmarks = w.cursor.bookmarks ∨
        (w.deleteSlot key id).2.cursor.bookmarks = w.cursor.bookmarks.retire id) := by
  unfold deleteSlot
  split
  · exact ⟨rfl, rfl, Or.inl rfl⟩
  · split
    · exact ⟨rfl, rfl, Or.inl rfl⟩
    next request _ =>
      obtain ⟨hbindings, hcursor⟩ := w.send_frame request (Cursor.markDeleted · id) .deleted
      rcases hcursor with hcursor | hcursor
      · rw [hcursor]
        exact ⟨hbindings, rfl, Or.inl rfl⟩
      · rw [hcursor]
        exact ⟨hbindings, rfl, Or.inr rfl⟩

end Work

namespace Bookmarks

/-- What is found without one bookmark is found with it. -/
theorem lookup_of_lookup_filter {live : List (Bookmark × SlotId)} {b retired : Bookmark}
    {id : SlotId} (h : (live.filter fun entry => entry.1 != retired).lookup b = some id) :
    live.lookup b = some id := by
  obtain ⟨before, after, heq, -⟩ := List.lookup_eq_some_iff.mp h
  have hmem : (b, id) ∈ live.filter fun entry => entry.1 != retired := by
    rw [heq]
    simp
  have hne : b ≠ retired := by simpa using (List.mem_filter.mp hmem).2
  clear heq hmem
  induction live with
  | nil => cases h
  | cons entry rest ih =>
      rw [List.filter_cons] at h
      rw [List.lookup_cons]
      by_cases hretired : entry.1 = retired
      · have hother : (b == entry.1) = false := by simp [hretired, hne]
        rw [if_neg (by simp [hretired])] at h
        rw [hother]
        exact ih h
      · rw [if_pos (by simp [hretired]), List.lookup_cons] at h
        cases hkey : b == entry.1 with
        | true =>
            rw [hkey] at h
            exact h
        | false =>
            rw [hkey] at h
            exact ih h

/-- A bookmark that is live after another was retired was live before. -/
theorem resolve?_of_retire {m : Bookmarks} {slot id : SlotId} {b : Bookmark}
    (h : (m.retire slot).resolve? b = some id) : m.resolve? b = some id := by
  unfold retire at h
  split at h
  · exact h
  · exact lookup_of_lookup_filter h

end Bookmarks

namespace ExactServer

variable {σ : Type} {S : ExactServer σ} {d : ResultDescriptor} {origins : List Nat}
  {w : Work σ} {key : KeySet}

/-! ### Writes of several rows -/

/-- Rows are worked on in turn, each on the slot that it stands for if it stands for one. What the
rows stand for is settled by a condition that the work on each row preserves. -/
theorem Keeps.forRows {f : Work σ → Nat → RowResult × RowStatus × Work σ}
    {slotFor : Nat → Option SlotId} {P : Work σ → Prop}
    (hrow : ∀ w row, S.InStep d origins w → P w →
      S.Keeps d origins (slotFor row).toList w (f w row).2.2 ∧ P (f w row).2.2)
    (h : S.InStep d origins w) (hP : P w) (rows : List Nat) :
    S.Keeps d origins (rows.filterMap slotFor) w (Work.forRows f w rows).2 := by
  induction rows generalizing w with
  | nil => exact .refl h []
  | cons row rows ih =>
      obtain ⟨hfirst, hkept⟩ := hrow w row h hP
      have hrest := ih hfirst.1 hkept
      have hslots : (row :: rows).filterMap slotFor =
          (slotFor row).toList ++ rows.filterMap slotFor := by
        rw [List.filterMap_cons]
        cases slotFor row <;> rfl
      rw [hslots]
      exact hfirst.append hrest

/-- Work on the slots of rows of the rowset. -/
theorem Keeps.onRow {f : Nat → Work σ → SlotId → RowResult × Work σ}
    (hslot : ∀ row w id, S.InStep d origins w → S.Keeps d origins [id] w (f row w id).2)
    (hrowset : ∀ row w id, (f row w id).2.cursor.rowset = w.cursor.rowset)
    (h : S.InStep d origins w) (rows : List Nat) :
    S.Keeps d origins (rows.filterMap w.cursor.slotOf?) w
      (Work.forRows (fun w row => w.onRow (f row) row) w rows).2 := by
  refine Keeps.forRows (P := fun v => v.cursor.rowset = w.cursor.rowset)
    (fun v row hv hsame => ?_) h rfl rows
  unfold Work.onRow
  rw [Cursor.slotOf?_congr hsame]
  cases w.cursor.slotOf? row with
  | none => exact ⟨.refl hv _, hsame⟩
  | some id => exact ⟨hslot row v id hv, (hrowset row v id).trans hsame⟩

/-- Work on the slots that bookmarks name. -/
theorem Keeps.onBookmark {f : Work σ → SlotId → Nat → RowResult × Work σ}
    (hslot : ∀ w id row, S.InStep d origins w → S.Keeps d origins [id] w (f w id row).2)
    (hbindings : ∀ w id row, (f w id row).2.bindings = w.bindings)
    (hbookmarks : ∀ w id row, (f w id row).2.cursor.bookmarks = w.cursor.bookmarks ∨
      (f w id row).2.cursor.bookmarks = w.cursor.bookmarks.retire id)
    (h : S.InStep d origins w) (rows : List Nat) :
    S.Keeps d origins (rows.filterMap w.bookmarkSlot?) w
      (Work.forRows (Work.onBookmark f) w rows).2 := by
  -- Bookmarks only ever go while rows are written, so a row stands for the slot that it stood for
  -- at first, or for none.
  refine Keeps.forRows (P := fun v => v.bindings = w.bindings ∧
    ∀ b id, v.cursor.bookmarks.resolve? b = some id → w.cursor.bookmarks.resolve? b = some id)
    (fun v row hv hkept => ?_) h ⟨rfl, fun _ _ h => h⟩ rows
  obtain ⟨hsame, hlive⟩ := hkept
  unfold Work.onBookmark
  rw [hsame]
  split
  · exact ⟨.refl hv _, hsame, hlive⟩
  next b hb =>
    split
    · exact ⟨.refl hv _, hsame, hlive⟩
    next id hid =>
      have hstands : w.bookmarkSlot? row = some id := by
        rw [Work.bookmarkSlot?, hb]
        exact hlive b id hid
      rw [hstands]
      refine ⟨hslot v id row hv, (hbindings v id row).trans hsame, fun b' id' hb' => ?_⟩
      rcases hbookmarks v id row with heq | heq
      · exact hlive b' id' (heq ▸ hb')
      · exact hlive b' id' (Bookmarks.resolve?_of_retire (heq ▸ hb'))

/-! ### Fetches -/

/-- A rowset that is shown stays in step, and nothing is sent that writes. -/
theorem Keeps.showRowset (h : S.InStep d origins w) :
    S.Keeps d origins [] w w.showRowset.2 := by
  have hrereads : w.cursor.kind.rereads = false := by
    rw [h.kind]
    rfl
  rw [Work.showRowset_of_not_rereads hrereads]
  exact .of_sameContents h rfl ⟨rfl, rfl, rfl, rfl, rfl⟩

/-- A rowset fetched at a position stays in step, and nothing is sent that writes. -/
theorem Keeps.fetchAt (h : S.InStep d origins w) (position : Nat) :
    S.Keeps d origins [] w (w.fetchAt position).2 := by
  have hpull := Keeps.pull h (.upTo (position + w.cursor.size - 1))
  rcases w.fetchAt_cases_of_static position h.kind rfl with
    ⟨e, -, hfetch⟩ | ⟨-, -, hfetch⟩ | ⟨-, -, hfetch⟩
  · rw [hfetch]
    exact hpull
  · rw [hfetch]
    exact hpull.append (.of_sameContents hpull.1 rfl ⟨rfl, rfl, rfl, rfl, rfl⟩)
  · have hplace : S.Keeps d origins [] (w.pull (.upTo (position + w.cursor.size - 1))).2
        ((w.pull (.upTo (position + w.cursor.size - 1))).2.onCursor
          (Cursor.placeRowset · position)) :=
      .of_sameContents hpull.1 rfl ⟨rfl, rfl, rfl, rfl, rfl⟩
    rw [hfetch]
    exact hpull.append (hplace.append (.showRowset hplace.1))

theorem Keeps.fetch (h : S.InStep d origins w) (orientation : Orientation) :
    S.Keeps d origins [] w (w.fetch orientation).2 :=
  Work.fetch_of_parts (P := S.Keeps d origins [] w) (.refl h []) (.pull h .everything)
    (fun _ hv => hv.append (.of_sameContents hv.1 rfl ⟨rfl, rfl, rfl, rfl, rfl⟩))
    (fun _ hv => hv.append (.of_sameContents hv.1 rfl ⟨rfl, rfl, rfl, rfl, rfl⟩))
    (fun _ position hv => hv.append (.fetchAt hv.1 position)) orientation

/-! ### Positioned calls -/

/-- To ask for the key changes nothing else. -/
theorem keySet_frame (w : Work σ) :
    w.keySet.2.bindings = w.bindings ∧ w.keySet.2.cursor.rowset = w.cursor.rowset ∧
      w.keySet.2.cursor.bookmarks = w.cursor.bookmarks := by
  unfold Work.keySet
  split <;> exact ⟨rfl, rfl, rfl⟩

/-- Either there is no key, or there is a true one; nothing that writes depend on has changed. -/
theorem Keeps.keySet_cases (hresult : S.Projects d origins) (h : S.InStep d origins w) :
    (∃ e v, w.keySet = (.error e, v) ∧ S.Keeps d origins [] w v) ∨
      ∃ key v, w.keySet = (.ok key, v) ∧ S.Keeps d origins [] w v ∧
        KeySet.ofMetadata d S.ref S.metadata = .ok key ∧ v.bindings = w.bindings ∧
        v.cursor.rowset = w.cursor.rowset ∧ v.cursor.bookmarks = w.cursor.bookmarks := by
  obtain ⟨hkeySet, hkey⟩ := Keeps.keySet hresult h
  obtain ⟨hbindings, hrowset, hbookmarks⟩ := keySet_frame w
  generalize w.keySet = found at hkeySet hkey hbindings hrowset hbookmarks ⊢
  obtain ⟨key, after⟩ := found
  cases key with
  | error e => exact Or.inl ⟨e, after, rfl, hkeySet⟩
  | ok key =>
      exact Or.inr ⟨key, after, rfl, hkeySet, hkey key rfl, hbindings, hrowset, hbookmarks⟩

/-- A static cursor reads nothing again before it writes. -/
theorem prepareWrite_eq (hresult : S.Projects d origins) (h : S.InStep d origins w)
    (rows : List Nat) : w.prepareWrite rows = w.keySet := by
  unfold Work.prepareWrite
  rcases Keeps.keySet_cases hresult h with ⟨e, v, heq, -⟩ | ⟨key, v, heq, hkeeps, -⟩
  · rw [heq]
  · have hstatic : v.cursor.kind ≠ .dynamic := by
      intro hdynamic
      exact CursorKind.noConfusion (hkeeps.1.kind.symm.trans hdynamic)
    rw [heq]
    dsimp only
    rw [if_neg hstatic]

/-- After the rows the statuses are brought up to date and the reports put on record. -/
theorem Keeps.finish {ids : List SlotId} {v v' : Work σ} (hkey : S.Keeps d origins [] w v)
    (hrows : S.Keeps d origins ids v v') (reports : List RowReport) :
    S.Keeps d origins ids w ((v'.onCursor Cursor.syncStatuses).finish reports).2 := by
  have hfinish : S.Keeps d origins [] v' ((v'.onCursor Cursor.syncStatuses).finish reports).2 :=
    .of_sameContents hrows.1 rfl ⟨rfl, rfl, rfl, rfl, rfl⟩
  have hall := hkey.append (hrows.append hfinish)
  rw [List.append_nil] at hall
  exact hall

/-- An update stays in step and writes to the rows of its slots only. -/
theorem Keeps.updateRows (hresult : S.Projects d origins) (h : S.InStep d origins w)
    (supplied : Supplied) (row : Nat) (rows : List Nat) :
    S.Keeps d origins (rows.filterMap w.cursor.slotOf?) w
      (w.updateRows supplied row rows).2 := by
  unfold Work.updateRows
  rw [prepareWrite_eq hresult h]
  rcases Keeps.keySet_cases hresult h with
    ⟨e, v, heq, hkeeps⟩ | ⟨key, v, heq, hkeeps, hkey, -, hrowset, -⟩
  · rw [heq]
    exact hkeeps.mono (List.nil_sublist _)
  · rw [heq]
    dsimp only
    split
    · exact hkeeps.mono (List.nil_sublist _)
    · have hrows := Keeps.onRow (f := fun row w id => w.updateSlot key supplied id (row - 1))
        (fun row w id hw => .updateSlot hresult hw hkey supplied id (row - 1))
        (fun row w id => (w.updateSlot_frame key supplied id (row - 1)).2.1) hkeeps.1 rows
      rw [Cursor.slotOf?_congr hrowset] at hrows
      exact hkeeps.finish hrows _

theorem Keeps.deleteRows (hresult : S.Projects d origins) (h : S.InStep d origins w)
    (rows : List Nat) :
    S.Keeps d origins (rows.filterMap w.cursor.slotOf?) w (w.deleteRows rows).2 := by
  unfold Work.deleteRows
  rw [prepareWrite_eq hresult h]
  rcases Keeps.keySet_cases hresult h with
    ⟨e, v, heq, hkeeps⟩ | ⟨key, v, heq, hkeeps, hkey, -, hrowset, -⟩
  · rw [heq]
    exact hkeeps.mono (List.nil_sublist _)
  · rw [heq]
    have hrows := Keeps.onRow (f := fun _ w id => w.deleteSlot key id)
      (fun _ w id hw => .deleteSlot hresult hw hkey id)
      (fun _ w id => (w.deleteSlot_frame key id).2.1) hkeeps.1 rows
    rw [Cursor.slotOf?_congr hrowset] at hrows
    exact hkeeps.finish hrows _

theorem Keeps.writeByBookmark (hresult : S.Projects d origins) (h : S.InStep d origins w)
    (rows : List Nat) {f : KeySet → Work σ → SlotId → Nat → RowResult × Work σ}
    (hslot : ∀ key w id row, KeySet.ofMetadata d S.ref S.metadata = .ok key →
      S.InStep d origins w → S.Keeps d origins [id] w (f key w id row).2)
    (hbindings : ∀ key w id row, (f key w id row).2.bindings = w.bindings)
    (hbookmarks : ∀ key w id row,
      (f key w id row).2.cursor.bookmarks = w.cursor.bookmarks ∨
        (f key w id row).2.cursor.bookmarks = w.cursor.bookmarks.retire id) :
    S.Keeps d origins (rows.filterMap w.bookmarkSlot?) w (w.writeByBookmark rows f).2 := by
  unfold Work.writeByBookmark
  rcases Keeps.keySet_cases hresult h with
    ⟨e, v, heq, hkeeps⟩ | ⟨key, v, heq, hkeeps, hkey, hbound, -, hmarks⟩
  · rw [heq]
    exact hkeeps.mono (List.nil_sublist _)
  · rw [heq]
    have hrows := Keeps.onBookmark (fun w id row hw => hslot key w id row hkey hw)
      (hbindings key) (hbookmarks key) hkeeps.1 rows
    have hslots : v.bookmarkSlot? = w.bookmarkSlot? := by
      funext row
      rw [Work.bookmarkSlot?, Work.bookmarkSlot?, hbound, hmarks]
    rw [hslots] at hrows
    exact hkeeps.finish hrows _

/-- A refresh stays in step. -/
theorem Keeps.refreshRows (h : S.InStep d origins w) (rows : List Nat) :
    S.Keeps d origins [] w (w.refreshRows rows).2 := by
  have hrefresh : (w.refresh rows).2 = w.onCursor Cursor.syncStatuses := by
    have hrereads : w.cursor.kind.rereads = false := by
      rw [h.kind]
      rfl
    unfold Work.refresh
    rw [hrereads]
    rfl
  unfold Work.refreshRows
  dsimp only [Work.finish]
  rw [hrefresh]
  exact .of_sameContents h rfl ⟨rfl, rfl, rfl, rfl, rfl⟩

/-- An operation on the rowset that adds nothing stays in step. -/
theorem Keeps.setPosition (hresult : S.Projects d origins) (h : S.InStep d origins w)
    (row : Nat) {operation : RowOperation} (hadds : operation ≠ .add) (supplied : Supplied) :
    S.Keeps d origins (w.addressed (.operation (.setPosition row operation) supplied)) w
      (w.setPosition row operation supplied).2 := by
  cases operation with
  | position => exact .of_sameContents h rfl ⟨rfl, rfl, rfl, rfl, rfl⟩
  | refresh => exact .refreshRows h _
  | update => exact .updateRows hresult h supplied row _
  | delete => exact .deleteRows hresult h _
  | add => exact absurd rfl hadds

theorem Keeps.overBookmarks (h : S.InStep d origins w)
    {f : List Nat → Except Error OperationOutcome × Work σ}
    (hf : ∀ rows, S.Keeps d origins (rows.filterMap w.bookmarkSlot?) w (f rows).2) :
    S.Keeps d origins w.bookmarkSlots w (w.overBookmarks f).2 := by
  unfold Work.overBookmarks Work.bookmarkSlots
  cases w.bookmarkRows with
  | error e => exact .refl h []
  | ok rows => exact hf rows

theorem Keeps.fetchByBookmark (h : S.InStep d origins w) (rows : List Nat) :
    S.Keeps d origins [] w (w.fetchByBookmark rows).2 := by
  have hsame := w.forRows_onBookmark_same rows
    (g := fun w id => .done 0 (w.cursor.slotStatus id))
  unfold Work.fetchByBookmark
  dsimp only [Work.finish]
  rw [hsame]
  exact .of_sameContents h rfl ⟨rfl, rfl, rfl, rfl, rfl⟩

/-- An operation on bound arrays that adds nothing stays in step. -/
theorem Keeps.bulk (hresult : S.Projects d origins) (h : S.InStep d origins w)
    {operation : BulkOperation} (hadds : operation ≠ .add) (supplied : Supplied) :
    S.Keeps d origins (w.addressed (.operation (.bulk operation) supplied)) w
      (w.bulk operation supplied).2 := by
  unfold Work.bulk
  split
  · exact .refl h _
  · cases operation with
    | add => exact absurd rfl hadds
    | updateByBookmark =>
        exact .overBookmarks h fun rows => .writeByBookmark hresult h rows
          (fun key w id row hkey hw => .updateSlot hresult hw hkey supplied id (row - 1))
          (fun key w id row => (w.updateSlot_frame key supplied id (row - 1)).1)
          (fun key w id row => Or.inl (w.updateSlot_frame key supplied id (row - 1)).2.2)
    | deleteByBookmark =>
        exact .overBookmarks h fun rows => .writeByBookmark hresult h rows
          (fun key w id row hkey hw => .deleteSlot hresult hw hkey id)
          (fun key w id row => (w.deleteSlot_frame key id).1)
          (fun key w id row => (w.deleteSlot_frame key id).2.2)
    | fetchByBookmark =>
        change S.Keeps d origins [] w (w.overBookmarks fun rows =>
          (.ok (w.fetchByBookmark rows).1, (w.fetchByBookmark rows).2)).2
        unfold Work.overBookmarks
        cases w.bookmarkRows with
        | error e => exact .refl h []
        | ok rows => exact .fetchByBookmark h rows

/-! ### Runs -/

/-- One call, whatever it is. -/
theorem Keeps.call (hresult : S.Projects d origins) (h : S.InStep d origins w) {call : Call}
    (hadds : call.adds = false) : S.Keeps d origins (w.addressed call) w (w.call call) := by
  cases call with
  | bind bindings => exact .of_sameContents h rfl ⟨rfl, rfl, rfl, rfl, rfl⟩
  | fetch orientation => exact .fetch h orientation
  | operation operation supplied =>
      cases operation with
      | setPosition row operation =>
          refine .setPosition hresult h row ?_ supplied
          rintro rfl
          cases hadds
      | bulk operation =>
          refine .bulk hresult h ?_ supplied
          rintro rfl
          cases hadds
  | publish =>
      unfold Work.call Work.currentTarget
      cases w.cursor.currentImage? with
      | none => exact .refl h []
      | some image =>
          rcases Keeps.keySet_cases hresult h with
            ⟨e, v, heq, hkeeps⟩ | ⟨key, v, heq, hkeeps, -⟩
          · rw [heq]
            exact hkeeps
          · rw [heq]
            exact hkeeps

/-- Any calls that add nothing stay in step. -/
theorem InStep.calls (hresult : S.Projects d origins) (h : S.InStep d origins w)
    {calls : List Call} (hadds : ∀ call ∈ calls, call.adds = false) :
    S.InStep d origins (w.calls calls) := by
  induction calls generalizing w with
  | nil => exact h
  | cons call rest ih =>
      have hfirst := Keeps.call hresult h (hadds call List.mem_cons_self)
      exact ih hfirst.1 fun later hlater => hadds later (List.mem_cons_of_mem call hlater)

theorem exists_getElem?_of_forall₂ {α β : Type} {R : α → β → Prop} {xs : List α} {ys : List β}
    (h : List.Forall₂ R xs ys) {i : Nat} {x : α} (hx : xs[i]? = some x) :
    ∃ y, ys[i]? = some y ∧ R x y := by
  induction h generalizing i with
  | nil => cases hx
  | @cons a b xs ys hfirst hrest ih =>
      cases i with
      | zero =>
          cases hx
          exact ⟨b, rfl, hfirst⟩
      | succ i => exact ih hx

/-- A cursor that has just been opened on the table is in step with it. -/
theorem InStep.opened {dialect : Dialect} {options : StatementOptions} {stream : RowStream}
    (hcursor : w.cursor = .opened .static dialect options ⟨d, stream⟩)
    (hserver : w.link.server = S.server)
    (hdistinct : ∀ names ∈ S.metadata.uniqueColumns,
      (S.table w.link.state).Distinct S.agrees names)
    (hrows : List.Forall₂ (S.HoldsAt d w.link.state) stream.rows origins) :
    S.InStep d origins w where
  kind := by rw [hcursor]; rfl
  descriptor := by rw [hcursor]; rfl
  server := hserver
  key key hkey := by
    rw [hcursor] at hkey
    cases hkey
  distinct := hdistinct
  count := by rw [hcursor]; rfl
  slots id slot hslot := by
    rw [hcursor] at hslot
    cases hslot
  stream i record hrecord := by
    rw [hcursor] at hrecord ⊢
    have hplace := exists_getElem?_of_forall₂ hrows hrecord
    rw [← Nat.zero_add i] at hplace
    exact hplace

/-- A static cursor on rows of a table stays in step with the server, whatever calls that add no
rows follow each other. What a call then writes is for the rows that came to the slots it
addresses, in their order, each statement for that row alone. -/
theorem inStep_of_calls (S : ExactServer σ) {w : Work σ} {d : ResultDescriptor}
    {origins : List Nat} {dialect : Dialect} {options : StatementOptions} {stream : RowStream}
    (hcursor : w.cursor = .opened .static dialect options ⟨d, stream⟩)
    (hserver : w.link.server = S.server) (hresult : S.Projects d origins)
    (hdistinct : ∀ names ∈ S.metadata.uniqueColumns,
      (S.table w.link.state).Distinct S.agrees names)
    (hrows : List.Forall₂ (S.HoldsAt d w.link.state) stream.rows origins)
    (calls : List Call) (hcalls : ∀ call ∈ calls, call.adds = false)
    (call : Call) (hcall : call.adds = false) :
    S.InStep d origins (w.calls calls) ∧
      ∃ writes, (w.calls calls).link.Sent ((w.calls calls).call call).link writes ∧
        List.SublistForall₂ (S.HitsOrigin origins) writes ((w.calls calls).addressed call) := by
  have hstep := (InStep.opened hcursor hserver hdistinct hrows).calls hresult hcalls
  exact ⟨hstep, (Keeps.call hresult hstep hcall).2⟩

end ExactServer

/-! ### A run -/

namespace Places

/-- Two rows of a table that is numbered and has codes, which are unique unless they are NULL. -/
def coded : Places :=
  [some ⟨fun name => if name = "ID" then .integer 1 else .string "a"⟩,
    some ⟨fun name => if name = "ID" then .integer 2 else .string "b"⟩]

def codedRef : TableRef :=
  ⟨none, "t"⟩

def codedMetadata : TableMetadata where
  table := codedRef
  columns := [⟨"id", .integer, false⟩, ⟨"code", .varchar, true⟩]
  primaryKey := ["id"]
  uniqueIndexes := [⟨"codes", ["code"]⟩]

def codedColumns : ResultDescriptor :=
  [{ name := "code", sqlType := .varchar, table := some codedRef },
    { name := "number", sqlType := .integer, baseName := some "ID", table := some codedRef }]

end Places

/-- A cursor on the rows in the other order. -/
def Work.onCoded : Work Places where
  cursor := .opened .static {} { rowArraySize := 2, useBookmarks := true }
    ⟨Places.codedColumns,
      [.ok [.string "b", .integer 2], .ok [.string "a", .integer 1]]⟩
  bindings := {}
  diagnostics := []
  link := ⟨(ExactServer.ofTable Places.codedRef Places.codedMetadata).server, Places.coded, []⟩

/-- The first row takes another number, the code of the other row is refused, and the row is
deleted. -/
def Call.renumbering : List Call :=
  [.fetch .next, .bind { columns := [none, some [.value (.integer 7)]] },
    .operation (.setPosition 1 .update) [],
    .bind { columns := [some [.value (.string "a")]] },
    .operation (.setPosition 1 .update) []]

/-- A record has the values of a row in both columns. -/
theorem Places.shows_coded {record : Record} {row : TableRow}
    (hcode : record[0]? = some (row.get "code")) (hnumber : record[1]? = some (row.get "ID")) :
    record.Shows codedColumns codedRef row := by
  intro ordinal c hc
  have hat := (ResultDescriptor.mem_columnsOf.mp hc).1
  match ordinal, hat with
  | 0, hat =>
      cases hat
      exact hcode
  | 1, hat =>
      cases hat
      exact hnumber

/-- Keys that are changed one after the other stay in step. -/
theorem ExactServer.inStep_of_renumbering :
    (Work.onCoded.calls Call.renumbering).cursor.buffer.slots.map RowSlot.values =
        [[.string "b", .integer 7], [.string "a", .integer 1]] ∧
      (ofTable Places.codedRef Places.codedMetadata).InStep Places.codedColumns [1, 0]
        (Work.onCoded.calls Call.renumbering) ∧
      ∃ writes,
        (Work.onCoded.calls Call.renumbering).link.Sent
          ((Work.onCoded.calls Call.renumbering).call
            (.operation (.setPosition 1 .delete) [])).link writes ∧
        List.SublistForall₂
          ((ofTable Places.codedRef Places.codedMetadata).HitsOrigin [1, 0]) writes [0] := by
  refine ⟨rfl, ?_⟩
  refine inStep_of_calls (ofTable Places.codedRef Places.codedMetadata) (w := Work.onCoded)
    (d := Places.codedColumns) rfl rfl ⟨rfl, by decide, ?_, by decide⟩ (by decide) ?_
    Call.renumbering (by decide) (.operation (.setPosition 1 .delete) []) rfl
  · intro key hkey
    have hprimary : KeySet.ofMetadata Places.codedColumns Places.codedRef Places.codedMetadata =
        .ok ⟨Places.codedRef, [⟨1, "ID", .integer⟩], .primaryKey⟩ := rfl
    cases hprimary.symm.trans hkey
    rfl
  · exact .cons ⟨_, rfl, Places.shows_coded rfl rfl⟩
      (.cons ⟨_, rfl, Places.shows_coded rfl rfl⟩ .nil)

end ScrollCursor
