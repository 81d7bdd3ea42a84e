import Mathlib.Data.List.Nodup
import ScrollCursor.Positioned.Write
import ScrollCursor.Proofs.WriteBack.Keys

/-! # What writes assign

A statement that changes a row says in the table's terms what the buffer does to its record: a value
assigned to an ordinal is assigned to the column that is shown there. So where record and row were
alike they stay alike.
-/

namespace ScrollCursor

namespace ResultDescriptor

/-- No column of the table is shown twice. -/
def ShowsOnce (d : ResultDescriptor) (table : TableRef) : Prop :=
  ((d.columnsOf table).map fun entry => Text.upper entry.2.baseColumn).Nodup

instance (d : ResultDescriptor) (table : TableRef) : Decidable (d.ShowsOnce table) :=
  inferInstanceAs (Decidable (List.Nodup _))

variable {d : ResultDescriptor} {table : TableRef}

theorem ShowsOnce.eq_of_sameName (h : d.ShowsOnce table) {i j : Nat} {c c' : Column}
    (hc : (i, c) ∈ d.columnsOf table) (hc' : (j, c') ∈ d.columnsOf table)
    (hsame : Text.sameName c.baseColumn c'.baseColumn = true) : i = j ∧ c = c' := by
  have heq := List.inj_on_of_nodup_map h hc hc' (Text.sameName_iff.mp hsame)
  exact Prod.mk.inj heq

end ResultDescriptor

/-! ### Effects on records -/

namespace Record

variable {d : ResultDescriptor} {table : TableRef} {record : Record} {row : TableRow}

theorem Shows.set (h : record.Shows d table row) (honce : d.ShowsOnce table) {ordinal : Nat}
    {c : Column} (hc : (ordinal, c) ∈ d.columnsOf table) (type : SqlType) (value : Value) :
    Shows (List.set record ordinal value) d table (row.set ⟨c.baseColumn, type, value⟩) := by
  intro i c' hc'
  have hat := h i c' hc'
  rw [TableRow.get_set, List.getElem?_set]
  by_cases hi : ordinal = i
  · subst hi
    have hcolumn : c' = c := by
      have hfirst := (ResultDescriptor.mem_columnsOf.mp hc').1
      rw [(ResultDescriptor.mem_columnsOf.mp hc).1] at hfirst
      exact (Option.some.inj hfirst).symm
    obtain ⟨hlt, -⟩ := List.getElem?_eq_some_iff.mp hat
    rw [if_pos rfl, if_pos hlt, hcolumn, if_pos (Text.sameName_refl _)]
  · have hother : Text.sameName c'.baseColumn c.baseColumn ≠ true := by
      intro hsame
      exact hi (honce.eq_of_sameName hc' hc hsame).1.symm
    rw [if_neg hi, if_neg hother, hat]

/-- A value for a column that is shown at its ordinal. -/
def IsFor (d : ResultDescriptor) (table : TableRef) (assignment : Nat × Value)
    (a : ColumnValue) : Prop :=
  ∃ c type, (assignment.1, c) ∈ d.columnsOf table ∧ a = ⟨c.baseColumn, type, assignment.2⟩

/-- A record and a row that are alike stay alike when both take the same values. -/
theorem Shows.assign (h : record.Shows d table row) (honce : d.ShowsOnce table)
    {assignments : List (Nat × Value)} {values : List ColumnValue}
    (hvalues : List.Forall₂ (IsFor d table) assignments values) :
    Shows (record.assign assignments) d table (row.assign values) := by
  induction hvalues generalizing record row with
  | nil => exact h
  | @cons assignment a assignments values hfirst hrest ih =>
      obtain ⟨ordinal, value⟩ := assignment
      obtain ⟨c, type, hc, rfl⟩ := hfirst
      exact ih (h.set honce hc type value)

end Record

/-! ### Statements -/

theorem Bindings.mem_columnsOf_of_assignments {b : Bindings} {supplied : Supplied}
    {bindingRow : Nat} {d : ResultDescriptor} {table : TableRef}
    {assignments : List (Nat × Value)}
    (h : b.assignments supplied bindingRow d table = .ok assignments) {assignment : Nat × Value}
    (hmem : assignment ∈ assignments) : ∃ c, (assignment.1, c) ∈ d.columnsOf table := by
  obtain ⟨found, hfound, heq⟩ := Results.bind_eq_ok.mp h
  cases heq
  obtain ⟨entry, hentry, rfl⟩ := List.mem_filterMap.mp hmem
  obtain ⟨⟨ordinal, c⟩, hc, hassign⟩ := Results.exists_of_mem_mapM hfound hentry
  refine ⟨c, ?_⟩
  dsimp only [id] at hassign
  unfold Bindings.assignment? at hassign
  split at hassign
  · cases hassign
  · cases hassign
    exact hc
  · split at hassign
    · cases hassign
      exact hc
    · cases hassign

namespace Dialect

variable {s : Dialect} {key : KeySet} {d : ResultDescriptor} {image : Record}
  {request : Request}

theorem isFor_of_target {table : TableRef} {assignment : Nat × Value} {a : ColumnValue}
    (hc : ∃ c, (assignment.1, c) ∈ d.columnsOf table)
    (h : target d assignment.1 assignment.2 = .ok a) : Record.IsFor d table assignment a := by
  obtain ⟨c, hc⟩ := hc
  unfold target at h
  rw [(ResultDescriptor.mem_columnsOf.mp hc).1] at h
  cases h
  exact ⟨c, c.sqlType, hc, rfl⟩

/-- The plan of an update, with the terms of the image for its predicate. -/
theorem exists_plan_of_update {assignments : List (Nat × Value)}
    (h : s.update key d image assignments = .ok request) :
    ∃ values terms found, request.plan = some (.update key.table values terms) ∧
      List.Forall₂ (fun assignment a => target d assignment.1 assignment.2 = .ok a)
        assignments values ∧
      key.terms image = .ok terms ∧ s.predicate terms = .ok found := by
  unfold update at h
  split at h
  · cases h
  · obtain ⟨terms, hterms, h⟩ := Results.bind_eq_ok.mp h
    obtain ⟨set, hset, h⟩ := Results.bind_eq_ok.mp h
    obtain ⟨found, hfound, h⟩ := Results.bind_eq_ok.mp h
    cases h
    refine ⟨set.map Prod.fst, terms, found, rfl, ?_, hterms, hfound⟩
    rw [List.forall₂_map_right_iff]
    refine (Results.mapM_eq_ok.mp hset).imp fun assignment entry hok => ?_
    obtain ⟨a, ha, hok⟩ := Results.bind_eq_ok.mp hok
    obtain ⟨text, -, hok⟩ := Results.bind_eq_ok.mp hok
    cases hok
    exact ha

/-- Columns of the table are assigned under their names. -/
theorem plan_of_update {assignments : List (Nat × Value)}
    (hcolumns : ∀ assignment ∈ assignments, ∃ c, (assignment.1, c) ∈ d.columnsOf key.table)
    (h : s.update key d image assignments = .ok request) :
    ∃ values terms found, request.plan = some (.update key.table values terms) ∧
      List.Forall₂ (Record.IsFor d key.table) assignments values ∧
      key.terms image = .ok terms ∧ s.predicate terms = .ok found := by
  obtain ⟨values, terms, found, hplan, hvalues, hterms, hfound⟩ := exists_plan_of_update h
  have hboth := (List.forall₂_and_left _ _).mpr ⟨hcolumns, hvalues⟩
  exact ⟨values, terms, found, hplan, hboth.imp fun _ _ ha => isFor_of_target ha.1 ha.2, hterms,
    hfound⟩

/-- The plan of a delete. -/
theorem plan_of_delete (h : s.delete key image = .ok request) :
    ∃ terms found, request.plan = some (.delete key.table terms) ∧
      key.terms image = .ok terms ∧ s.predicate terms = .ok found := by
  unfold delete at h
  obtain ⟨terms, hterms, h⟩ := Results.bind_eq_ok.mp h
  obtain ⟨found, hfound, h⟩ := Results.bind_eq_ok.mp h
  cases h
  exact ⟨terms, found, rfl, hterms, hfound⟩

/-- The plan of a reading by key. -/
theorem plan_of_selectByKey {forUpdate : Bool} {ordinals : List Nat}
    (h : s.selectByKey key d image forUpdate = .ok (request, ordinals)) :
    ∃ names terms, request.plan = some (.selectByKey key.table names terms forUpdate) ∧
      key.terms image = .ok terms := by
  unfold selectByKey at h
  obtain ⟨terms, hterms, h⟩ := Results.bind_eq_ok.mp h
  obtain ⟨found, -, h⟩ := Results.bind_eq_ok.mp h
  cases h
  exact ⟨_, terms, rfl, hterms⟩

end Dialect

end ScrollCursor
