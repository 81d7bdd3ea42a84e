import ScrollCursor.Proofs.Cursor.ForwardWalks
import ScrollCursor.Proofs.Cursor.ServerRows

/-! # Rows while the server changes

A cursor that reads its rows again is told nothing of the changes that others make to its table.
Whatever is called on it and whatever becomes of the table between the calls, it keeps whole rows in
their places, and with each fetch catches up with the rows that it shows.
-/

namespace ScrollCursor

namespace RowSlot.Whole

variable {width : Nat} {slot : RowSlot}

theorem withStatus (h : slot.Whole width) {status : RowStatus} (hrow : status ≠ .noRow) :
    (slot.withStatus status).Whole width :=
  ⟨⟨h.values, h.image⟩, hrow⟩

/-- A row that is read again stays whole. -/
theorem rereadSlot (h : slot.Whole width) (ordinals : List Nat) (values : Record) :
    (Work.rereadSlot ordinals values slot).Whole width := by
  have hread : (slot.reload (slot.values.assign (ordinals.zip values))).Whole width :=
    ⟨⟨(Record.length_assign _ _).trans h.values, (Record.length_assign _ _).trans h.values⟩,
      h.isRow⟩
  unfold Work.rereadSlot
  dsimp only
  split
  · exact hread.withStatus RowStatus.noConfusion
  · exact hread

end RowSlot.Whole

theorem Cursor.holds_modifySlot {Q : RowSlot → Prop} {c : Cursor} {f : RowSlot → RowSlot}
    (h : Holds Q c) (hf : ∀ slot, Q slot → Q (f slot)) (id : SlotId) : Holds Q (c.modifySlot id f) :=
  ⟨holds_modify h hf id, h.pulled, h.added⟩

namespace Work

variable {σ : Type} {S : ReadingServer σ} {w : Work σ}

/-- A row that is read again is whole whatever the answer: filled, deleted or in error. -/
theorem whole_rereadRow {width : Nat} (h : Cursor.Holds (RowSlot.Whole width) w.cursor)
    (key : KeySet) (row : Nat) :
    Cursor.Holds (RowSlot.Whole width) (rereadRow key w row).cursor := by
  unfold rereadRow
  split
  · exact h
  next id _ =>
    split
    · exact h
    · split
      · exact h
      · split
        · exact Cursor.holds_modifySlot h (fun _ hslot => hslot.rereadSlot _ _) id
        · have hdeleted := Cursor.holds_modifySlot h (RowSlot.lasting_whole width).deleted id
          exact ⟨hdeleted.slots, hdeleted.pulled, hdeleted.added⟩
        · exact Cursor.holds_modifySlot h
            (fun _ hslot => hslot.withStatus RowStatus.noConfusion) id

/-! ## What a cursor needs to catch up -/

/-- The cursor reads its rows again, all of which are whole, and its link leads to the server. -/
structure Attached (S : ReadingServer σ) (w : Work σ) : Prop where
  rereads : w.cursor.kind.rereads = true
  server : w.link.server = S.server
  whole : Cursor.Holds (RowSlot.Whole w.cursor.descriptor.length) w.cursor

theorem enduring_server (server : Server σ) : Link.Enduring fun l => l.server = server where
  query _ h := h
  metadata _ h := h
  pulled _ h := h

/-- What becomes of the rows by writes and additions keeps them whole. -/
theorem Attached.of_staticSteps {w' : Work σ} (h : Attached S w)
    (hsteps : Cursor.StaticSteps w.cursor w'.cursor) (hserver : w'.link.server = w.link.server) :
    Attached S w' := by
  obtain ⟨hkind, -, -, hdescriptor⟩ := hsteps.sameFrame
  refine ⟨hkind ▸ h.rereads, hserver.trans h.server, ?_⟩
  rw [hdescriptor]
  exact hsteps.holds (RowSlot.lasting_whole _) h.whole

theorem server_updateSlot (w : Work σ) (key : KeySet) (supplied : Supplied) (id : SlotId)
    (bindingRow : Nat) :
    (w.updateSlot key supplied id bindingRow).2.link.server = w.link.server :=
  updateSlot_of_execute (L := fun l => l.server = w.link.server) rfl (fun _ _ _ _ => rfl) supplied
    id bindingRow

theorem server_deleteSlot (w : Work σ) (key : KeySet) (id : SlotId) :
    (w.deleteSlot key id).2.link.server = w.link.server :=
  deleteSlot_of_execute (L := fun l => l.server = w.link.server) rfl (fun _ _ _ => rfl) id

theorem server_addOne (supplied : Supplied) (table : TableRef) (numbered : Option Nat) (w : Work σ)
    (row : Nat) : (addOne supplied table numbered w row).2.2.link.server = w.link.server :=
  addOne_of_execute (L := fun l => l.server = w.link.server) rfl (fun _ _ _ => rfl) supplied
    numbered row

/-- No call detaches the cursor from its server. -/
theorem keptByCalls_attached : KeptByCalls (Attached S) where
  same h hsame := by
    obtain ⟨hlink, -, hkind, hdescriptor, hbuffer, hstream⟩ := hsame
    refine ⟨hkind ▸ h.rereads, hlink ▸ h.server, ?_⟩
    rw [hdescriptor]
    exact ⟨hbuffer ▸ h.whole.slots, hstream ▸ h.whole.pulled, hdescriptor ▸ h.whole.added⟩
  dropBehind position h := by
    have hscrolls := CursorKind.isScrollable_of_rereads h.rereads
    rwa [onCursor, Cursor.dropBehind_of_isScrollable hscrolls]
  pull demand h := h.of_staticSteps (pull_staticSteps _ demand) rfl
  keySet {w} h := h.of_staticSteps w.keySet_staticSteps ((enduring_server w.link.server).keySet rfl)
  rereadRow {w} key row h _ := by
    obtain ⟨hkind, -, -, hdescriptor⟩ := (rereadRow_changes key w row).sameFrame
    refine ⟨hkind ▸ h.rereads, (enduring_server S.server).rereadRow h.server key row, ?_⟩
    rw [hdescriptor]
    exact whole_rereadRow h.whole key row
  updateSlot {w} key supplied id bindingRow h _ :=
    h.of_staticSteps (w.updateSlot_staticSteps key supplied id bindingRow)
      (w.server_updateSlot key supplied id bindingRow)
  deleteSlot {w} key id h _ :=
    h.of_staticSteps (w.deleteSlot_staticSteps key id) (w.server_deleteSlot key id)
  addOne {w} supplied table numbered row h :=
    h.of_staticSteps (addOne_staticSteps supplied table numbered w row)
      (server_addOne supplied table numbered w row)

/-! ## Runs -/

/-- What happens while a cursor is open. -/
inductive Happening (σ : Type) where
  /-- Others change the server. -/
  | change (f : σ → σ)
  | call (call : Call)

def happen (w : Work σ) : Happening σ → Work σ
  | .change f => { w with link := { w.link with state := f w.link.state } }
  | .call call => w.call call

/-- One thing happens after another. -/
def during (w : Work σ) (happenings : List (Happening σ)) : Work σ :=
  happenings.foldl happen w

/-- Neither a call nor a change at the server detaches the cursor. -/
theorem happen_kept (h : Attached S w) (hinventory : Cursor.Inventory w.cursor)
    (happening : Happening σ) :
    Attached S (w.happen happening) ∧ Cursor.Inventory (w.happen happening).cursor := by
  cases happening with
  | change f => exact ⟨⟨h.rereads, h.server, h.whole⟩, hinventory⟩
  | call call =>
      exact ⟨keptByCalls_attached.call h call,
        hinventory.of_changes (CursorKind.isScrollable_of_rereads h.rereads) (w.call_changes call)⟩

theorem during_kept (h : Attached S w) (hinventory : Cursor.Inventory w.cursor)
    (happenings : List (Happening σ)) :
    Attached S (w.during happenings) ∧ Cursor.Inventory (w.during happenings).cursor := by
  induction happenings generalizing w with
  | nil => exact ⟨h, hinventory⟩
  | cons happening rest ih =>
      obtain ⟨hattached, hinventory'⟩ := happen_kept h hinventory happening
      exact ih hattached hinventory'

/-- A cursor that is opened is attached to its server. -/
theorem attached_opening (hserver : w.link.server = S.server) {kind : CursorKind}
    (hrereads : kind.rereads = true) (dialect : Dialect) (options : StatementOptions)
    {result : ResultSet}
    (hwide : ∀ values, .ok values ∈ result.rows → values.length = result.descriptor.length) :
    Attached S (w.opening kind dialect options result) where
  rereads := hrereads
  server := hserver
  whole :=
    ⟨fun slot hslot => (by cases hslot),
      fun values _ hmem => ⟨⟨hwide values hmem, hwide values hmem⟩, RowStatus.noConfusion⟩,
      fun values h => ⟨⟨h, h⟩, RowStatus.noConfusion⟩⟩

/-- Whatever is called on a cursor that reads its rows again and however others change the server in
between, a fetch shows each row as the server has it then, unless the row was known to be deleted or
the server cannot be asked for it. -/
theorem during_asFound (hserver : w.link.server = S.server) {kind : CursorKind}
    (hrereads : kind.rereads = true) (dialect : Dialect) (options : StatementOptions)
    {result : ResultSet}
    (hwide : ∀ values, .ok values ∈ result.rows → values.length = result.descriptor.length)
    (happenings : List (Happening σ)) {u v : Work σ}
    (hu : u = (w.opening kind dialect options result).during happenings) {key : KeySet}
    (htable : key.table = S.ref) (hkey : u.keySet.1 = .ok key) {orientation : Orientation}
    {outcome : FetchOutcome} (hfetch : u.fetch orientation = (.ok outcome, v)) {i : Nat}
    (hi : i < outcome.rows.length) :
    ∃ id before after shown, Fetched u v outcome i id before after shown ∧
      ∀ terms, before.Sought u.cursor.dialect key terms →
        AsFound v.cursor key.table (S.find? (S.rows u.link.state) terms) before after shown := by
  subst hu
  obtain ⟨hattached, hinventory⟩ :=
    during_kept (attached_opening hserver hrereads dialect options hwide)
      (Cursor.Inventory.opened kind dialect { options with cursorKind := kind } result) happenings
  exact fetch_asFound hattached.rereads hinventory hattached.whole ⟨hattached.server, rfl⟩ htable
    hkey hfetch hi

/-! ### Two pens -/

namespace Pens

def ref : TableRef :=
  ⟨none, "pens"⟩

def metadata : TableMetadata where
  table := ref
  columns := [⟨"id", .integer, false⟩, ⟨"ink", .varchar, true⟩]
  primaryKey := ["id"]

def server : ReadingServer (List TableRow) :=
  .ofTable ref Places.sameText (some metadata)

def pen (id : Int) (ink : String) : TableRow where
  value name :=
    if name = "ID" then .integer id else if name = "INK" then .string ink else .null

/-- The pens with their ink, and a column of no table between. -/
def result : ResultSet where
  descriptor :=
    [{ name := "id", sqlType := .integer, table := some ref },
      { name := "rank", sqlType := .integer },
      { name := "ink", sqlType := .varchar, table := some ref }]
  rows :=
    [.ok [.integer 1, .integer 7, .string "red"], .ok [.integer 2, .integer 8, .string "blue"]]

/-- A server with both pens, before a cursor is opened on them. -/
def work : Work (List TableRow) where
  cursor := .opened .dynamic {} {} result
  bindings := {}
  diagnostics := []
  link := ⟨server.server, [pen 1 "red", pen 2 "blue"], []⟩

def key : KeySet :=
  ⟨ref, [⟨0, "id", .integer⟩], .primaryKey⟩

/-- After a fetch the first pen gets another ink and the second one is lost. -/
def oneLost : Work (List TableRow) :=
  (work.opening .dynamic {} { rowArraySize := 2 } result).during
    [.call (.fetch .next), .change fun _ => [pen 1 "green"]]

end Pens

open Pens (pen oneLost) in
/-- The first pen is shown with its new ink beside its old rank, the second one as deleted. -/
theorem during_asFound_oneLost :
    ∃ outcome, (oneLost.fetch .first).1 = .ok outcome ∧
      outcome.statuses = [.success, .deleted] ∧
      (∃ id before after shown,
        Fetched oneLost (oneLost.fetch .first).2 outcome 0 id before after shown ∧
          AsFound (oneLost.fetch .first).2.cursor Pens.ref (some (pen 1 "green")) before after
            shown ∧
          after.values = [.integer 1, .integer 7, .string "green"]) ∧
      ∃ id before after shown,
        Fetched oneLost (oneLost.fetch .first).2 outcome 1 id before after shown ∧
          AsFound (oneLost.fetch .first).2.cursor Pens.ref none before after shown := by
  have hwide : ∀ values, .ok values ∈ Pens.result.rows →
      values.length = Pens.result.descriptor.length := by
    simp [Pens.result]
  have hrereads : CursorKind.dynamic.rereads = true := rfl
  have htable : Pens.key.table = Pens.server.ref := rfl
  have hfetch : oneLost.fetch .first = (.ok _, (oneLost.fetch .first).2) := rfl
  have hshown {i : Nat} := during_asFound (S := Pens.server) (w := Pens.work) rfl hrereads {}
    { rowArraySize := 2 } hwide _ (u := oneLost) rfl htable rfl hfetch (i := i)
  refine ⟨_, rfl, rfl, ?_, ?_⟩
  · obtain ⟨id, before, after, shown, hfetched, hfound⟩ := hshown (i := 0) (by decide)
    cases (Option.some.inj (Option.some.inj hfetched.entry) : 0 = id)
    cases hfetched.brought
    have has := hfound [⟨"id", .integer, .integer 1⟩] ⟨rfl, rfl, _, rfl⟩
    exact ⟨_, _, _, _, hfetched, has, has.2.1⟩
  · obtain ⟨id, before, after, shown, hfetched, hfound⟩ := hshown (i := 1) (by decide)
    cases (Option.some.inj (Option.some.inj hfetched.entry) : 1 = id)
    cases hfetched.brought
    exact ⟨_, _, _, _, hfetched, hfound [⟨"id", .integer, .integer 2⟩] ⟨rfl, rfl, _, rfl⟩⟩

end Work

end ScrollCursor
