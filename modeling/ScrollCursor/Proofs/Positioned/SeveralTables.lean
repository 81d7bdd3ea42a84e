import Mathlib.Data.List.Infix
import ScrollCursor.Proofs.Cursor.Reachable
import ScrollCursor.Statement.Basic

/-! # Results of several tables

Rows of a result that is drawn from several tables cannot be changed: there is no key, and every
write is refused before anything is sent. Whether there are several tables is seen by comparing each
table with those found before it. A missing catalog matches every catalog, so a first table without
its catalog stands for all tables of its name, and what follows it is taken for one table.
-/

namespace ScrollCursor

/-- Tables that are the same as one with its catalog are the same as each other. -/
theorem TableRef.sameTable_of_qualified {t a b : TableRef} {catalog : String}
    (h : t.catalog = some catalog) (ha : t.sameTable a = true) (hb : t.sameTable b = true) :
    a.sameTable b = true := by
  unfold sameTable at ha hb ⊢
  rw [h, Bool.and_eq_true] at ha hb
  rw [Bool.and_eq_true]
  refine ⟨Text.sameName_trans (Text.sameName_symm ha.1) hb.1, ?_⟩
  cases hcatalog : a.catalog with
  | none => rfl
  | some catalog' =>
      cases hcatalog' : b.catalog with
      | none => rfl
      | some catalog'' =>
          rw [hcatalog] at ha
          rw [hcatalog'] at hb
          exact Text.sameName_trans (Text.sameName_symm ha.2) hb.2

namespace ResultDescriptor

/-- The tables that the columns name, as often as they do. -/
def mentioned (d : ResultDescriptor) : List TableRef :=
  d.filterMap Column.table

/-- Some column is drawn from another table than the first one that is drawn from any. -/
def Mixed (d : ResultDescriptor) : Prop :=
  ∃ first ∈ d.mentioned.head?, ∃ t ∈ d.mentioned, first.sameTable t = false

/-- The first table is named without its catalog, and all others have its name. -/
def StartsUnqualified (d : ResultDescriptor) : Prop :=
  ∃ first ∈ d.mentioned.head?, first.catalog = none ∧
    ∀ t ∈ d.mentioned, Text.sameName first.name t.name = true

/-- One more table among those that were found. -/
def addRef (seen : List TableRef) (t : TableRef) : List TableRef :=
  if seen.any (TableRef.sameTable · t) then seen else seen ++ [t]

/-- A result is refused with an error: it has no table and no key, and on every cursor that was
reached from it each write that is open to the cursor has this error and sends nothing. So has each
statement that names the row the cursor stands on. -/
structure Refused (d : ResultDescriptor) (e : Error) : Prop where
  singleTable : d.singleTable = .error e
  resolve : ∀ lookup, KeySet.resolve d lookup = .error e
  setPosition : ∀ {σ : Type} (w : Work σ) (row : Nat) (operation : RowOperation)
    (supplied : Supplied), Cursor.Reachable w.cursor → w.cursor.descriptor = d →
      operation.writes = true →
        (w.setPosition row operation supplied).1 = .error e ∧
          (w.setPosition row operation supplied).2.link = w.link
  bulk : ∀ {σ : Type} (w : Work σ) (operation : BulkOperation) (supplied : Supplied),
    Cursor.Reachable w.cursor → w.cursor.descriptor = d → operation.writes = true →
      w.cursor.validateBulk operation = .ok () →
        (operation = .add ∨ ∃ rows, w.bookmarkRows = .ok rows) →
          (w.bulk operation supplied).1 = .error e ∧
            (w.bulk operation supplied).2.link = w.link
  published : ∀ {σ : Type} (w : Work σ), Cursor.Reachable w.cursor → w.cursor.descriptor = d →
    ∀ target, w.currentTarget.1 = some target → target = .error e

variable {d : ResultDescriptor} {first a b : TableRef}

/-- The tables of a result are collected from its columns, first to last. -/
theorem tables_eq (d : ResultDescriptor) : d.tables = d.mentioned.foldl addRef [] := by
  rw [mentioned, List.foldl_filterMap]
  refine congrArg (fun f => List.foldl f [] d) (funext₂ fun seen c => ?_)
  rw [addTable]
  cases c.table <;> rfl

/-- A table once collected stays where it is. -/
theorem prefix_foldl_addRef (seen refs : List TableRef) : seen <+: refs.foldl addRef seen := by
  induction refs generalizing seen with
  | nil => exact List.prefix_refl seen
  | cons t refs ih =>
      refine List.IsPrefix.trans ?_ (ih (addRef seen t))
      unfold addRef
      split
      · exact List.prefix_refl seen
      · exact List.prefix_append seen [t]

/-- A name that may stand for the table collected first adds none. -/
theorem addRef_same {t : TableRef} (h : first.sameTable t = true) : addRef [first] t = [first] := by
  simp [addRef, h]

/-- A name that cannot stand for it adds a second table. -/
theorem addRef_other {t : TableRef} (h : first.sameTable t = false) :
    addRef [first] t = [first, t] := by
  simp [addRef, h]

/-- One table stays the only one as long as all that follow are the same as it. -/
theorem foldl_addRef_eq_singleton {refs : List TableRef} :
    refs.foldl addRef [first] = [first] ↔ ∀ t ∈ refs, first.sameTable t = true := by
  induction refs with
  | nil => simp
  | cons t refs ih =>
      rw [List.foldl_cons, List.forall_mem_cons]
      cases h : first.sameTable t with
      | true => rw [addRef_same h, ih, eq_self_iff_true, true_and]
      | false =>
          rw [addRef_other h]
          refine iff_of_false (fun heq => ?_) fun hall => Bool.false_ne_true hall.1
          have hlength := (prefix_foldl_addRef [first, t] refs).length_le
          rw [heq] at hlength
          exact absurd hlength (by simp)

/-- A result has several tables if more than one is collected. -/
theorem singleTable_eq_multipleTables_iff :
    (∃ texts, d.singleTable = .error (.multipleTables texts)) ↔ 1 < d.tables.length := by
  unfold singleTable
  cases d.tables with
  | nil => simp
  | cons first rest => cases rest <;> simp

/-- More than one is collected just if some column names another table than the first. -/
theorem one_lt_length_tables_iff : 1 < d.tables.length ↔ d.Mixed := by
  rw [tables_eq, Mixed]
  cases d.mentioned with
  | nil => simp
  | cons first refs =>
      have hself : first.sameTable first = true := by
        cases hcatalog : first.catalog <;> simp [TableRef.sameTable, hcatalog, Text.sameName_refl]
      have honly : refs.foldl addRef [first] = [first] ↔
          ∀ t ∈ refs, first.sameTable t = true := foldl_addRef_eq_singleton
      -- The first table is always found, so what counts is whether any comes after it.
      obtain ⟨more, hmore⟩ := prefix_foldl_addRef [first] refs
      change 1 < (refs.foldl addRef [first]).length ↔ _
      rw [← hmore] at honly ⊢
      cases more with
      | nil =>
          refine iff_of_false (Nat.lt_irrefl 1) ?_
          rintro ⟨_, ⟨⟩, t, ht, hother⟩
          rcases List.mem_cons.mp ht with rfl | ht
          · rw [hself] at hother
            cases hother
          · rw [honly.mp rfl t ht] at hother
            cases hother
      | cons second more =>
          refine iff_of_true (Nat.succ_lt_succ (Nat.succ_pos _)) ⟨first, rfl, ?_⟩
          by_contra hall
          have hsame : [first] ++ second :: more = [first] := honly.mpr fun t ht => by
            by_contra hother
            exact hall ⟨t, List.mem_cons_of_mem first ht, Bool.eq_false_iff.mpr hother⟩
          cases hsame

/-- Two different tables are taken for one just if the table before them stands for both. -/
theorem mixed_iff_not_startsUnqualified (ha : a ∈ d.mentioned) (hb : b ∈ d.mentioned)
    (hne : a.sameTable b = false) : d.Mixed ↔ ¬ d.StartsUnqualified := by
  constructor
  · rintro ⟨first, hfirst, t, ht, hother⟩ ⟨first', hfirst', hcatalog, hnames⟩
    cases hfirst.symm.trans hfirst'
    simp [TableRef.sameTable, hcatalog, hnames t ht] at hother
  · intro hstarts
    obtain ⟨first, hfirst⟩ : ∃ first, first ∈ d.mentioned.head? := by
      cases h : d.mentioned with
      | nil =>
          rw [h] at ha
          cases ha
      | cons first refs => exact ⟨first, rfl⟩
    by_contra hmixed
    have hsame : ∀ t ∈ d.mentioned, first.sameTable t = true := by
      intro t ht
      by_contra hother
      exact hmixed ⟨first, hfirst, t, ht, Bool.eq_false_iff.mpr hother⟩
    have hname : ∀ t ∈ d.mentioned, Text.sameName first.name t.name = true := fun t ht =>
      (Bool.and_eq_true_iff.mp (hsame t ht)).1
    cases hcatalog : first.catalog with
    | none => exact hstarts ⟨first, hfirst, hcatalog, hname⟩
    | some catalog =>
        rw [TableRef.sameTable_of_qualified hcatalog (hsame a ha) (hsame b hb)] at hne
        cases hne

end ResultDescriptor

/-! ## Cursors without a key -/

namespace Cursor

/-- The result has no only table, and no key has been found for it. -/
structure Keyless (e : Error) (c : Cursor) : Prop where
  singleTable : c.descriptor.singleTable = .error e
  key : ∀ key, c.key = some key → key = .error e

/-- A cursor without a key stays so while its columns and what it knows of the key do. -/
theorem Keyless.congr {e : Error} {c d : Cursor} (h : Keyless e c)
    (hdescriptor : d.descriptor = c.descriptor) (hkey : d.key = c.key) : Keyless e d :=
  ⟨hdescriptor ▸ h.singleTable, hkey ▸ h.key⟩

/-- It is remembered that there is no key. -/
def refuseKey (e : Error) (c : Cursor) : Cursor :=
  { c with key := some (.error e) }

/-- A cursor without a key stays so once it has found out. -/
theorem Keyless.refuseKey {e : Error} {c : Cursor} (h : Keyless e c) :
    Keyless e (c.refuseKey e) :=
  ⟨h.singleTable, fun _ hkey => (Option.some.inj hkey).symm⟩

theorem Keyless.dropBehind {e : Error} {c : Cursor} (h : Keyless e c) (position : Nat) :
    Keyless e (c.dropBehind position) := by
  unfold Cursor.dropBehind
  split
  · exact h.congr rfl rfl
  · exact h

end Cursor

namespace Work

open Cursor (Keyless)

variable {σ : Type} {w : Work σ} {e : Error}

/-- The server is not asked for a key, since there is no table to ask about. -/
theorem keySet_of_keyless (h : Keyless e w.cursor) :
    w.keySet = (.error e, w.onCursor (Cursor.refuseKey e)) := by
  unfold keySet
  split
  next key hkey =>
    obtain rfl := h.key key hkey
    have hsame : w.cursor.refuseKey e = w.cursor := by
      rw [Cursor.refuseKey, ← hkey]
    rw [onCursor, hsame]
  next => simp only [resolveKey, h.singleTable, onCursor, Cursor.refuseKey]

/-- Without a key no row is read again. -/
theorem reread_of_keyless (h : Keyless e w.cursor) (rows : List Nat) :
    w.reread rows = w.onCursor (Cursor.refuseKey e) := by
  rw [reread, keySet_of_keyless h]

theorem keyless_rereadIf (h : Keyless e w.cursor) (rows : List Nat) (p : Prop) [Decidable p] :
    Keyless e (if p then w.reread rows else w).cursor := by
  split
  · rw [reread_of_keyless h]
    exact h.refuseKey
  · exact h

/-- Without a key no write begins. -/
theorem prepareWrite_of_keyless (h : Keyless e w.cursor) (rows : List Nat) :
    w.prepareWrite rows = (.error e, w.onCursor (Cursor.refuseKey e)) := by
  rw [prepareWrite, keySet_of_keyless h]

/-! ### What is refused -/

/-- Without a key no row is updated, and nothing is sent. -/
theorem updateRows_of_keyless (h : Keyless e w.cursor) (supplied : Supplied) (row : Nat)
    (rows : List Nat) :
    w.updateRows supplied row rows = (.error e, w.onCursor (Cursor.refuseKey e)) := by
  rw [updateRows, prepareWrite_of_keyless h]

/-- Without a key no row is deleted, and nothing is sent. -/
theorem deleteRows_of_keyless (h : Keyless e w.cursor) (rows : List Nat) :
    w.deleteRows rows = (.error e, w.onCursor (Cursor.refuseKey e)) := by
  rw [deleteRows, prepareWrite_of_keyless h]

/-- Where the table is not clear no row is added, and nothing is sent. -/
theorem addRows_of_keyless (h : Keyless e w.cursor) (supplied : Supplied) (rows : List Nat) :
    w.addRows supplied rows = (.error e, w) := by
  rw [addRows, h.singleTable]

/-- Without a key nothing is written at bookmarks, and nothing is sent. -/
theorem writeByBookmark_of_keyless (h : Keyless e w.cursor) (rows : List Nat)
    (f : KeySet → Work σ → SlotId → Nat → RowResult × Work σ) :
    w.writeByBookmark rows f = (.error e, w.onCursor (Cursor.refuseKey e)) := by
  rw [writeByBookmark, keySet_of_keyless h]

/-! ### What goes on without a key -/

theorem keyless_pull (h : Keyless e w.cursor) (demand : Demand) :
    Keyless e (w.pull demand).2.cursor :=
  h.congr rfl rfl

theorem keyless_showRowset (h : Keyless e w.cursor) : Keyless e w.showRowset.2.cursor :=
  (keyless_rereadIf h _ _).congr rfl rfl

theorem keyless_fetchAt (h : Keyless e w.cursor) (position : Nat) :
    Keyless e (w.fetchAt position).2.cursor := by
  have hdrop : Keyless e (w.onCursor (Cursor.dropBehind · position)).cursor := h.dropBehind position
  have hpull := keyless_pull hdrop (.upTo (position + (w.cursor.dropBehind position).size - 1))
  rcases w.fetchAt_cases position rfl with ⟨e', -, hfetch⟩ | ⟨-, -, hfetch⟩ | ⟨-, -, hfetch⟩
  · rw [hfetch]
    exact hpull
  · rw [hfetch]
    exact hpull.congr rfl rfl
  · rw [hfetch]
    exact keyless_showRowset (hpull.congr rfl rfl)

/-- No fetch finds a key where there is none. -/
theorem keyless_fetch (h : Keyless e w.cursor) (orientation : Orientation) :
    Keyless e (w.fetch orientation).2.cursor :=
  fetch_of_parts (P := fun v => Keyless e v.cursor) h (keyless_pull h .everything)
    (fun _ h => h.congr rfl rfl) (fun _ h => h.congr rfl rfl)
    (fun _ position h => keyless_fetchAt h position) orientation

theorem keyless_addRows (h : Keyless e w.cursor) (supplied : Supplied) (rows : List Nat) :
    Keyless e (w.addRows supplied rows).2.cursor := by
  rw [addRows_of_keyless h]
  exact h

/-- No operation on the rowset finds one. -/
theorem keyless_setPosition (h : Keyless e w.cursor) (row : Nat) (operation : RowOperation)
    (supplied : Supplied) : Keyless e (w.setPosition row operation supplied).2.cursor := by
  cases operation with
  | position => exact h.congr rfl rfl
  | refresh => exact (keyless_rereadIf h _ _).congr rfl rfl
  | update =>
      change Keyless e (w.updateRows supplied row _).2.cursor
      rw [updateRows_of_keyless h]
      exact h.refuseKey
  | delete =>
      change Keyless e (w.deleteRows _).2.cursor
      rw [deleteRows_of_keyless h]
      exact h.refuseKey
  | add => exact keyless_addRows h supplied _

theorem keyless_writeByBookmark (h : Keyless e w.cursor) (rows : List Nat)
    (f : KeySet → Work σ → SlotId → Nat → RowResult × Work σ) :
    Keyless e (w.writeByBookmark rows f).2.cursor := by
  rw [writeByBookmark_of_keyless h]
  exact h.refuseKey

theorem keyless_fetchByBookmark (h : Keyless e w.cursor) (rows : List Nat) :
    Keyless e (w.fetchByBookmark rows).2.cursor := by
  have hsame := w.forRows_onBookmark_same rows
    (g := fun w id => .done 0 (w.cursor.slotStatus id))
  unfold fetchByBookmark
  dsimp only [finish, onCursor]
  rw [hsame]
  exact h.congr rfl rfl

/-- No operation on bound arrays finds one. -/
theorem keyless_bulk (h : Keyless e w.cursor) (operation : BulkOperation) (supplied : Supplied) :
    Keyless e (w.bulk operation supplied).2.cursor :=
  bulk_of_parts (P := fun v => Keyless e v.cursor) h operation supplied
    (keyless_addRows h supplied _) (fun rows => keyless_writeByBookmark h rows _)
    (fun rows => keyless_writeByBookmark h rows _) fun rows _ => keyless_fetchByBookmark h rows

end Work

/-- No call finds a key for a result without an only table. -/
theorem Cursor.Reachable.keyless {c : Cursor} {e : Error} (h : Reachable c)
    (hsingle : c.descriptor.singleTable = .error e) : Keyless e c := by
  induction h with
  | opened kind dialect options result => exact ⟨hsingle, fun _ hkey => nomatch hkey⟩
  | fetch w orientation _ ih =>
      rw [(w.fetch_changes orientation).sameFrame.2.2.2] at hsingle
      exact Work.keyless_fetch (ih hsingle) orientation
  | setPosition w row operation lock supplied _ _ ih =>
      rw [(w.setPosition_changes row operation supplied).sameFrame.2.2.2] at hsingle
      exact Work.keyless_setPosition (ih hsingle) row operation supplied
  | bulk w operation supplied _ ih =>
      rw [(w.bulk_changes operation supplied).sameFrame.2.2.2] at hsingle
      exact Work.keyless_bulk (ih hsingle) operation supplied
  | keySet w _ ih =>
      rw [w.keySet_changes.sameFrame.2.2.2] at hsingle
      rw [Work.keySet_of_keyless (ih hsingle)]
      exact (ih hsingle).refuseKey

/-! ## Refusals -/

namespace ResultDescriptor

/-- If the table is not clear, then whatever needs a key is refused for this reason. -/
theorem refused_of_singleTable {d : ResultDescriptor} {e : Error}
    (hsingle : d.singleTable = .error e) : d.Refused e where
  singleTable := hsingle
  resolve lookup := by
    rw [KeySet.resolve, hsingle]
    rfl
  setPosition w row operation supplied hreach hd hwrites := by
    have hkeyless := hreach.keyless (hd ▸ hsingle)
    cases operation with
    | position | refresh => cases hwrites
    | update =>
        change (w.updateRows supplied row _).1 = _ ∧ (w.updateRows supplied row _).2.link = _
        rw [Work.updateRows_of_keyless hkeyless]
        exact ⟨rfl, rfl⟩
    | delete =>
        change (w.deleteRows _).1 = _ ∧ (w.deleteRows _).2.link = _
        rw [Work.deleteRows_of_keyless hkeyless]
        exact ⟨rfl, rfl⟩
    | add =>
        change (w.addRows supplied _).1 = _ ∧ (w.addRows supplied _).2.link = _
        rw [Work.addRows_of_keyless hkeyless]
        exact ⟨rfl, rfl⟩
  bulk w operation supplied hreach hd hwrites hvalid hrows := by
    have hkeyless := hreach.keyless (hd ▸ hsingle)
    have hover : operation ≠ .add → ∀ f : KeySet → Work _ → SlotId → Nat → RowResult × Work _,
        (w.overBookmarks fun rows => w.writeByBookmark rows f) =
          (.error e, w.onCursor (Cursor.refuseKey e)) := by
      intro hadd f
      obtain ⟨rows, hrows⟩ := hrows.resolve_left hadd
      rw [Work.overBookmarks, hrows]
      exact Work.writeByBookmark_of_keyless hkeyless rows f
    unfold Work.bulk
    rw [hvalid]
    cases operation with
    | fetchByBookmark => cases hwrites
    | add =>
        dsimp only
        rw [Work.addRows_of_keyless hkeyless]
        exact ⟨rfl, rfl⟩
    | updateByBookmark =>
        change (w.overBookmarks fun rows => w.writeByBookmark rows _).1 = _ ∧
          (w.overBookmarks fun rows => w.writeByBookmark rows _).2.link = _
        rw [hover (by decide)]
        exact ⟨rfl, rfl⟩
    | deleteByBookmark =>
        change (w.overBookmarks fun rows => w.writeByBookmark rows _).1 = _ ∧
          (w.overBookmarks fun rows => w.writeByBookmark rows _).2.link = _
        rw [hover (by decide)]
        exact ⟨rfl, rfl⟩
  published w hreach hd target htarget := by
    have hkeyless := hreach.keyless (hd ▸ hsingle)
    unfold Work.currentTarget at htarget
    split at htarget
    · cases htarget
    · rw [Work.keySet_of_keyless hkeyless] at htarget
      exact (Option.some.inj htarget).symm

/-- A result that names two different tables is refused for that reason, unless the first table that
it names stands for all of them because its catalog is left out. -/
theorem refused_multipleTables_iff {d : ResultDescriptor} {a b : TableRef}
    (ha : a ∈ d.mentioned) (hb : b ∈ d.mentioned) (hne : a.sameTable b = false) :
    (∃ texts, d.Refused (.multipleTables texts)) ↔ ¬ d.StartsUnqualified := by
  rw [← mixed_iff_not_startsUnqualified ha hb hne, ← one_lt_length_tables_iff,
    ← singleTable_eq_multipleTables_iff]
  constructor
  · rintro ⟨texts, h⟩
    exact ⟨texts, h.singleTable⟩
  · rintro ⟨texts, hsingle⟩
    exact ⟨texts, refused_of_singleTable hsingle⟩

/-- A join of two tables, of which neither has a catalog. -/
theorem refused_multipleTables_join :
    let d : ResultDescriptor :=
      [{ name := "id", sqlType := .integer, table := some ⟨none, "items"⟩, primaryKey := true },
        { name := "total", sqlType := .integer },
        { name := "qty", sqlType := .integer, table := some ⟨none, "orders"⟩ }]
    ∃ texts, d.Refused (.multipleTables texts) := by
  intro d
  refine (refused_multipleTables_iff (a := ⟨none, "items"⟩) (b := ⟨none, "orders"⟩)
    (by decide) (by decide) (by decide)).mpr ?_
  rintro ⟨first, ⟨⟩, -, hnames⟩
  exact absurd (hnames ⟨none, "orders"⟩ (by decide)) (by decide)

/-- Two tables of different catalogs are not told apart after a column of a table without one. -/
theorem not_refused_of_startsUnqualified :
    let d : ResultDescriptor :=
      [{ name := "id", sqlType := .integer, table := some ⟨none, "t"⟩, primaryKey := true },
        { name := "x", sqlType := .integer, table := some ⟨some "a", "t"⟩ },
        { name := "y", sqlType := .integer, table := some ⟨some "b", "t"⟩ }]
    TableRef.sameTable ⟨some "a", "t"⟩ ⟨some "b", "t"⟩ = false ∧
      d.singleTable = .ok ⟨none, "t"⟩ ∧
      KeySet.resolve d (fun _ => .ok none) =
        .ok ⟨⟨none, "t"⟩, [⟨0, "id", .integer⟩], .primaryKey⟩ ∧
      ∀ texts, ¬ d.Refused (.multipleTables texts) := by
  intro d
  have hsingle : d.singleTable = .ok ⟨none, "t"⟩ := by decide +kernel
  refine ⟨by decide, hsingle, by decide +kernel, fun texts h => ?_⟩
  cases hsingle.symm.trans h.singleTable

end ResultDescriptor

end ScrollCursor
