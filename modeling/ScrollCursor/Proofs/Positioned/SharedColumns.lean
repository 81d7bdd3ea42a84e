import ScrollCursor.MemoryServer
import ScrollCursor.Proofs.Cursor.HeldRows
import ScrollCursor.Proofs.Positioned.FailingRows
import ScrollCursor.Proofs.WriteBack.Insertions

/-! # Columns that are shown more than once

A result may show a column of its table under several names. An update writes the column once at the
server, but in the row that is kept only the ordinals it was given a value for. The other views of
the column follow only if they had the value before; a key that looks at one of them goes on asking
for the old one.
-/

namespace ScrollCursor

namespace ResultDescriptor

/-- Some assignments give a column of the table a value, under whichever name it is shown. -/
def Assigns (d : ResultDescriptor) (table : TableRef) (assignments : List (Nat × Value))
    (name : String) (v : Value) : Prop :=
  ∃ ordinal c, (ordinal, v) ∈ assignments ∧ (ordinal, c) ∈ d.columnsOf table ∧
    Text.sameName c.baseColumn name = true

/-- No column of the table is given two values. -/
def AssignsOnce (d : ResultDescriptor) (table : TableRef) (assignments : List (Nat × Value)) :
    Prop :=
  ∀ name v v', d.Assigns table assignments name v → d.Assigns table assignments name v' → v = v'

end ResultDescriptor

/-- Every view of a column that was assigned has the value. -/
def Record.Follows (record : Record) (d : ResultDescriptor) (table : TableRef)
    (assignments : List (Nat × Value)) : Prop :=
  ∀ ordinal c v, (ordinal, c) ∈ d.columnsOf table → d.Assigns table assignments c.baseColumn v →
    record[ordinal]? = some v

/-- The terms for a record ask for the values that were assigned to the columns of the key. -/
def KeySet.Follows (key : KeySet) (d : ResultDescriptor) (assignments : List (Nat × Value))
    (record : Record) : Prop :=
  ∀ k ∈ key.columns, ∀ v, d.Assigns key.table assignments k.name v →
    ∀ t, key.term record k = .ok t → t.value = v

namespace Record

variable {d : ResultDescriptor} {table : TableRef} {assignments : List (Nat × Value)}
  {record : Record}

/-- A view of a column that was assigned has the value just if the view itself was assigned or had
the value before. -/
theorem getElem?_assign_iff (hone : d.AssignsOnce table assignments)
    (hrange : ∀ a ∈ assignments, a.1 < record.length) {ordinal : Nat} {c : Column} {v : Value}
    (hc : (ordinal, c) ∈ d.columnsOf table)
    (hassigns : d.Assigns table assignments c.baseColumn v) :
    (record.assign assignments)[ordinal]? = some v ↔
      (ordinal, v) ∈ assignments ∨ record[ordinal]? = some v := by
  have honly {u : Value} (hmem : (ordinal, u) ∈ assignments) : u = v :=
    hone c.baseColumn u v ⟨ordinal, c, hmem, hc, Text.sameName_refl _⟩ hassigns
  by_cases hmem : (ordinal, v) ∈ assignments
  · exact iff_of_true (Record.getElem?_assign_of_mem hrange hmem fun u => honly) (Or.inl hmem)
  · have hsame := record.getElem?_assign_of_not_mem fun u hother => hmem (honly hother ▸ hother)
    rw [hsame, or_iff_right hmem]

theorem follows_assign_iff (hone : d.AssignsOnce table assignments)
    (hrange : ∀ a ∈ assignments, a.1 < record.length) :
    (record.assign assignments).Follows d table assignments ↔
      ∀ ordinal c v, (ordinal, c) ∈ d.columnsOf table →
        d.Assigns table assignments c.baseColumn v →
        (ordinal, v) ∈ assignments ∨ record[ordinal]? = some v := by
  refine forall₃_congr fun ordinal c v => forall₂_congr fun hc hassigns => ?_
  exact getElem?_assign_iff hone hrange hc hassigns

end Record

namespace KeySet

variable {key : KeySet} {d : ResultDescriptor} {assignments : List (Nat × Value)}
  {record record' : Record} {k : KeyColumn} {t : ColumnValue}

theorem getElem?_of_term (h : key.term record k = .ok t) : record[k.ordinal]? = some t.value := by
  unfold term at h
  split at h
  · cases h
  next value hvalue =>
    split at h
    · cases h
    · cases h
      exact hvalue

theorem term_congr (h : record'[k.ordinal]? = record[k.ordinal]?) :
    key.term record' k = key.term record k := by
  rw [term, term, h]

theorem follows_assign_iff {terms : List ColumnValue}
    (hshows : ∀ k ∈ key.columns, k.Shows d key.table k.name)
    (hterms : key.terms record = .ok terms) (hone : d.AssignsOnce key.table assignments)
    (hrange : ∀ a ∈ assignments, a.1 < record.length) :
    key.Follows d assignments (record.assign assignments) ↔
      ∀ k ∈ key.columns, ∀ v, d.Assigns key.table assignments k.name v →
        (k.ordinal, v) ∈ assignments ∨ record[k.ordinal]? = some v := by
  refine forall₂_congr fun k hk => forall₂_congr fun v hassigns => ?_
  obtain ⟨c, hc, hname, -⟩ := hshows k hk
  rw [hname] at hassigns
  rw [← Record.getElem?_assign_iff hone hrange hc hassigns]
  constructor
  · intro hfollows
    rcases Record.getElem?_assign record assignments k.ordinal with hsame | ⟨u, hmem, hu⟩
    · -- The term is the one that was sent with the update, which had no NULL to refuse.
      obtain ⟨t, -, ht⟩ := Results.exists_mem_of_mapM hterms hk
      rw [← hfollows t (term_congr hsame ▸ ht), hsame]
      exact getElem?_of_term ht
    · rw [hu, hone c.baseColumn u v ⟨k.ordinal, c, hmem, hc, Text.sameName_refl _⟩ hassigns]
  · intro hat t ht
    exact Option.some.inj ((getElem?_of_term ht).symm.trans hat)

end KeySet

namespace Work

variable {σ : Type} {w v : Work σ} {key : KeySet} {supplied : Supplied} {id : SlotId}
  {bindingRow affected : Nat} {status : RowStatus} {slot : RowSlot}
  {assignments : List (Nat × Value)}

/-- A slot that was updated has the assigned values, and its old image made a predicate. -/
theorem slot_of_updateSlot (hslot : w.cursor.buffer.slot? id = some slot)
    (hassigns : w.bindings.assignments supplied bindingRow w.cursor.descriptor key.table =
      .ok assignments)
    (hdone : w.updateSlot key supplied id bindingRow = (.done affected status, v)) :
    v.cursor.buffer.slot? id = some ((slot.apply assignments).withStatus .updated) ∧
      ∃ terms, key.terms slot.image = .ok terms := by
  unfold updateSlot at hdone
  cases hlive : w.liveImage id with
  | error e =>
      rw [hlive] at hdone
      cases hdone
  | ok image =>
      obtain ⟨slot', hslot', -, himage⟩ := exists_slot_of_liveImage hlive
      cases hslot.symm.trans hslot'
      subst himage
      rw [hlive, hassigns] at hdone
      cases assignments with
      | nil => cases hdone
      | cons first rest =>
          dsimp only at hdone
          split at hdone
          · cases hdone
          next request hrequest =>
            obtain ⟨_, terms, _, _, _, hterms, _⟩ := Dialect.plan_of_update
              (fun a ha => Bindings.mem_columnsOf_of_assignments hassigns ha) hrequest
            refine ⟨?_, terms, hterms⟩
            unfold send at hdone
            split at hdone
            · cases hdone
            · split at hdone
              · cases hdone
              · cases hdone
                exact RowBuffer.slot?_modify_self _ hslot

/-- After an update that gives each column of the table one value, every view of a column that was
assigned has its value if and only if each of them was assigned itself or had the value before. The
next predicate for the row asks for the assigned values if and only if that is so of the views that
the key looks at. -/
theorem follows_of_updateSlot {table : TableRef} {m : Option TableMetadata}
    (hkey : KeySet.ofTable w.cursor.descriptor table m = .ok key)
    (hslot : w.cursor.buffer.slot? id = some slot)
    (hwide : slot.Wide w.cursor.descriptor.length)
    (hassigns : w.bindings.assignments supplied bindingRow w.cursor.descriptor key.table =
      .ok assignments)
    (hone : w.cursor.descriptor.AssignsOnce key.table assignments)
    (hdone : w.updateSlot key supplied id bindingRow = (.done affected status, v)) :
    ∃ slot', v.cursor.buffer.slot? id = some slot' ∧
      ((slot'.values.Follows w.cursor.descriptor key.table assignments ∧
          slot'.image.Follows w.cursor.descriptor key.table assignments) ↔
        ∀ ordinal c u, (ordinal, c) ∈ w.cursor.descriptor.columnsOf key.table →
          w.cursor.descriptor.Assigns key.table assignments c.baseColumn u →
          (ordinal, u) ∈ assignments ∨
            slot.values[ordinal]? = some u ∧ slot.image[ordinal]? = some u) ∧
      (key.Follows w.cursor.descriptor assignments slot'.image ↔
        ∀ k ∈ key.columns, ∀ u, w.cursor.descriptor.Assigns key.table assignments k.name u →
          (k.ordinal, u) ∈ assignments ∨ slot.image[k.ordinal]? = some u) := by
  obtain ⟨hslot', terms, hterms⟩ := slot_of_updateSlot hslot hassigns hdone
  obtain ⟨htable, hshows⟩ := KeySet.shows_of_ofTable hkey
  have hrange : ∀ a ∈ assignments, a.1 < w.cursor.descriptor.length := by
    intro a ha
    obtain ⟨c, hc⟩ := Bindings.mem_columnsOf_of_assignments hassigns ha
    exact (List.getElem?_eq_some_iff.mp (ResultDescriptor.mem_columnsOf.mp hc).1).choose
  refine ⟨_, hslot', ?_, ?_⟩
  · refine (and_congr (Record.follows_assign_iff hone (hwide.values ▸ hrange))
      (Record.follows_assign_iff hone (hwide.image ▸ hrange))).trans ?_
    simp only [or_and_left, forall_and]
  · exact KeySet.follows_assign_iff (htable ▸ hshows) hterms hone (hwide.image ▸ hrange)

/-! ## A number that is shown twice -/

def sharedRef : TableRef := ⟨none, "pens"⟩

/-- The number of a pen under its own name and under another one. -/
def sharedColumns : ResultDescriptor :=
  [{ name := "id", sqlType := .integer, table := some sharedRef },
    { name := "k", sqlType := .integer, baseName := some "id", table := some sharedRef }]

def sharedMetadata : TableMetadata where
  table := sharedRef
  columns := [⟨"id", .integer, false⟩]
  primaryKey := ["id"]

def sharedKey : KeySet :=
  ⟨sharedRef, [⟨0, "id", .integer⟩], .primaryKey⟩

/-- The pen with the number 1 has been fetched, and another number is bound under some names. -/
def beforeRenumbering (columns : List (Option (List BoundValue))) : Work MemoryServer :=
  { ((Work.mk (.opened .static {} {} ⟨sharedColumns, [.ok [.integer 1, .integer 1]]⟩) {} []
      ⟨MemoryServer.server,
        { tables := [{ ref := sharedRef, columns := ["id"], rows := [[.integer 1]] }] },
        []⟩).fetch .next).2 with
    bindings := { columns := columns } }

/-- The number is bound under both names. -/
def bothNames : Work MemoryServer :=
  beforeRenumbering [some [.value (.integer 5)], some [.value (.integer 5)]]

/-- The number is bound under the other name only. -/
def otherName : Work MemoryServer :=
  beforeRenumbering [none, some [.value (.integer 5)]]

/-- Both names show a number that was assigned under both, and the key asks for it. -/
theorem follows_of_updateSlot_bothNames :
    (bothNames.updateSlot sharedKey [] 0 0).1 = .done 1 .updated ∧
      ∃ slot', (bothNames.updateSlot sharedKey [] 0 0).2.cursor.buffer.slot? 0 = some slot' ∧
        (slot'.values.Follows sharedColumns sharedRef [(0, .integer 5), (1, .integer 5)] ∧
          slot'.image.Follows sharedColumns sharedRef [(0, .integer 5), (1, .integer 5)]) ∧
        sharedKey.Follows sharedColumns [(0, .integer 5), (1, .integer 5)] slot'.image := by
  have hvalue {i : Nat} {u : Value}
      (h : (i, u) ∈ [(0, Value.integer 5), (1, .integer 5)]) : u = .integer 5 := by
    rcases List.mem_pair.mp h with h | h <;> exact congrArg Prod.snd h
  have hone : sharedColumns.AssignsOnce sharedRef [(0, .integer 5), (1, .integer 5)] := by
    rintro name u u' ⟨i, -, hu, -, -⟩ ⟨j, -, hu', -, -⟩
    rw [hvalue hu, hvalue hu']
  have hcolumns : sharedColumns.columnsOf sharedRef =
      [(0, sharedColumns[0]), (1, sharedColumns[1])] := rfl
  have hboth {ordinal : Nat} {c : Column} {u : Value} {name : String}
      (hc : (ordinal, c) ∈ sharedColumns.columnsOf sharedRef)
      (hassigns : sharedColumns.Assigns sharedRef [(0, .integer 5), (1, .integer 5)] name u) :
      (ordinal, u) ∈ [(0, Value.integer 5), (1, .integer 5)] := by
    obtain ⟨i, -, hu, -, -⟩ := hassigns
    rw [hvalue hu]
    rw [hcolumns] at hc
    rcases List.mem_pair.mp hc with hc | hc <;> cases hc <;> simp
  have hresolved : KeySet.ofTable bothNames.cursor.descriptor sharedRef (some sharedMetadata) =
      .ok sharedKey := rfl
  have hslot : bothNames.cursor.buffer.slot? 0 =
      some (.fresh [.integer 1, .integer 1] .success (some 1)) := rfl
  have hdone : bothNames.updateSlot sharedKey [] 0 0 =
      (.done 1 .updated, (bothNames.updateSlot sharedKey [] 0 0).2) := rfl
  obtain ⟨slot', hslot', hviews, hkey⟩ :=
    follows_of_updateSlot hresolved hslot ⟨rfl, rfl⟩ rfl hone hdone
  refine ⟨rfl, slot', hslot', hviews.mpr ?_, hkey.mpr ?_⟩
  · intro ordinal c u hc hassigns
    exact Or.inl (hboth hc hassigns)
  · intro k hk u hassigns
    rw [List.mem_singleton.mp hk] at hassigns ⊢
    exact Or.inl (hboth (hcolumns ▸ List.mem_cons_self) hassigns)

/-- A number that was assigned under the other name only is not what its own name shows, nor what
the key asks for: the row is not found again. -/
theorem not_follows_otherName :
    otherName.bindings.assignments [] 0 sharedColumns sharedRef = .ok [(1, .integer 5)] ∧
      sharedColumns.AssignsOnce sharedRef [(1, .integer 5)] ∧
      (otherName.updateSlot sharedKey [] 0 0).1 = .done 1 .updated ∧
      (otherName.updateSlot sharedKey [] 0 0).2.link.state.tables.map MemoryTable.rows =
        [[[.integer 5]]] ∧
      (∃ slot', (otherName.updateSlot sharedKey [] 0 0).2.cursor.buffer.slot? 0 = some slot' ∧
        ¬ slot'.values.Follows sharedColumns sharedRef [(1, .integer 5)] ∧
        ¬ slot'.image.Follows sharedColumns sharedRef [(1, .integer 5)] ∧
        ¬ sharedKey.Follows sharedColumns [(1, .integer 5)] slot'.image) ∧
      ((otherName.updateSlot sharedKey [] 0 0).2.deleteSlot sharedKey 0).1 = .noMatch := by
  have hassigns : sharedColumns.Assigns sharedRef [(1, .integer 5)] "id" (.integer 5) :=
    ⟨1, sharedColumns[1], List.mem_cons_self, List.mem_cons_of_mem _ List.mem_cons_self, by decide⟩
  have hmissed :
      ((otherName.updateSlot sharedKey [] 0 0).2.deleteSlot sharedKey 0).1 = .noMatch := by
    rfl
  refine ⟨rfl, ?_, rfl, rfl, ⟨_, rfl, ?_, ?_, ?_⟩, hmissed⟩
  · rintro name u u' ⟨i, -, hu, -, -⟩ ⟨j, -, hu', -, -⟩
    cases List.mem_singleton.mp hu
    cases List.mem_singleton.mp hu'
    rfl
  · intro hfollows
    cases hfollows 0 sharedColumns[0] _ List.mem_cons_self hassigns
  · intro hfollows
    cases hfollows 0 sharedColumns[0] _ List.mem_cons_self hassigns
  · intro hfollows
    cases hfollows _ List.mem_cons_self _ hassigns _ rfl

end Work

end ScrollCursor
