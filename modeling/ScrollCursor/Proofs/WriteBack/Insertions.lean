import ScrollCursor.Proofs.Table.NumberingServer
import ScrollCursor.Proofs.WriteBack.Assignments

/-! # What is kept of an inserted row

The buffer keeps of an inserted row the values that were given and, where the only key column was
left out, the number that the server reports. It takes that number for the key's also when the
server numbers another column of the table.
-/

namespace ScrollCursor

theorem Value.eq_null_of_isNull {v : Value} (h : v.isNull = true) : v = .null := by
  cases v <;> first | rfl | cases h

/-- A value in a record that took some values is one of them or was there before. -/
theorem Record.getElem?_assign (record : Record) (values : List (Nat × Value)) (i : Nat) :
    (record.assign values)[i]? = record[i]? ∨
      ∃ v, (i, v) ∈ values ∧ (record.assign values)[i]? = some v := by
  induction values generalizing record with
  | nil => exact Or.inl rfl
  | cons first values ih =>
      obtain ⟨ordinal, value⟩ := first
      change (assign (List.set record ordinal value) values)[i]? = _ ∨
        ∃ v, _ ∧ (assign (List.set record ordinal value) values)[i]? = some v
      rcases ih (List.set record ordinal value) with hsame | ⟨v, hmem, hv⟩
      · rw [hsame, List.getElem?_set]
        split
        next hordinal =>
          subst hordinal
          split
          · exact Or.inr ⟨value, List.mem_cons_self, rfl⟩
          next hout => exact Or.inl (List.getElem?_eq_none (Nat.not_lt.mp hout)).symm
        · exact Or.inl rfl
      · exact Or.inr ⟨v, List.mem_cons_of_mem _ hmem, hv⟩

/-- A value stays where nothing is assigned. -/
theorem Record.getElem?_assign_of_not_mem {record : Record} {values : List (Nat × Value)} {i : Nat}
    (h : ∀ v, (i, v) ∉ values) : (record.assign values)[i]? = record[i]? := by
  rcases record.getElem?_assign values i with hsame | ⟨v, hmem, -⟩
  · exact hsame
  · exact absurd hmem (h v)

namespace KeySet

variable {d : ResultDescriptor} {table : TableRef} {m : Option TableMetadata} {key : KeySet}

/-! ### Chosen keys -/

/-- The columns of a key are shown by the result, wherever the key was found. -/
theorem shows_of_ofTable (h : ofTable d table m = .ok key) :
    key.table = table ∧ ∀ k ∈ key.columns, k.Shows d table k.name := by
  have hkey := (ofTable_eq_iff.mp h).wellFormed
  refine ⟨hkey.table_eq, fun k hk => ?_⟩
  obtain ⟨c, hfound, hbelongs, -, hname, -⟩ := hkey.columns k hk
  refine ⟨c, ResultDescriptor.mem_columnsOf.mpr ⟨hfound, hbelongs⟩, hname, ?_⟩
  rw [hname]
  exact Text.sameName_refl _

theorem numberedColumn?_eq_some {ordinal : Nat} (h : key.numberedColumn? = some ordinal) :
    ∃ k, key.columns = [k] ∧ k.ordinal = ordinal := by
  unfold numberedColumn? at h
  split at h
  next k hcolumns =>
    split at h
    · exact ⟨k, hcolumns, Option.some.inj h⟩
    · cases h
  · cases h

end KeySet

/-- The plan of an insert: the given values under the names of their columns. -/
theorem Dialect.plan_of_insert {s : Dialect} {table : TableRef} {d : ResultDescriptor}
    {values : List (Nat × Value)} {request : Request}
    (hcolumns : ∀ assignment ∈ values, ∃ c, (assignment.1, c) ∈ d.columnsOf table)
    (h : s.insert table d values = .ok request) :
    ∃ targets, request.plan = some (.insert table targets) ∧
      List.Forall₂ (Record.IsFor d table) values targets := by
  unfold insert at h
  obtain ⟨targets, htargets, h⟩ := Results.bind_eq_ok.mp h
  obtain ⟨texts, -, h⟩ := Results.bind_eq_ok.mp h
  cases h
  refine ⟨targets, rfl, ?_⟩
  have hboth := (List.forall₂_and_left _ _).mpr ⟨hcolumns, Results.mapM_eq_ok.mp htargets⟩
  exact hboth.imp fun _ _ ha => isFor_of_target ha.1 ha.2

/-! ### Keys of inserted rows -/

namespace NumberingServer

variable {σ : Type} (S : NumberingServer σ) {d : ResultDescriptor} {key : KeySet}

/-- The key of a result of the server's table is a true one, which the server keeps unique. -/
structure Keyed (d : ResultDescriptor) (key : KeySet) : Prop where
  singleTable : d.singleTable = .ok S.ref
  resolved : KeySet.ofTable d S.ref S.metadata = .ok key
  isUnique : key.isUnique = true
  unique : key.columns.map KeyColumn.name ∈ S.uniques

/-- A number stands for the only key column, which the server does not number and in which the row
has something else. -/
structure Misplaced (key : KeySet) (image : Record) (row : TableRow) (k : KeyColumn) (n : Int) :
    Prop where
  columns : key.columns = [k]
  numbered : S.numbered.any (Text.sameName · k.name) = false
  image : image[k.ordinal]? = some (.integer n)
  row : row.get k.name ≠ .integer n

/-- In each column of the key an image has what a row has, or NULL, or a misplaced number. -/
def KeyImage (key : KeySet) (image : Record) (row : TableRow) : Prop :=
  ∀ k ∈ key.columns, image[k.ordinal]? = some (row.get k.name) ∨ image[k.ordinal]? = some .null ∨
    ∃ n, S.Misplaced key image row k n

variable {S} {values : List (Nat × Value)} {targets : List ColumnValue} {row : TableRow}
  {generated : Option Nat}

/-- A key column has the value that the row has, or is left out of the given values. -/
theorem assigned_key (hkeyed : S.Keyed d key)
    (htargets : List.Forall₂ (Record.IsFor d S.ref) values targets)
    (hstores : row.Stores S.numbered targets generated) {k : KeyColumn} (hk : k ∈ key.columns) :
    (Record.assign (List.replicate d.length .null) values)[k.ordinal]? =
        some (row.get k.name) ∨
      (Record.assign (List.replicate d.length .null) values)[k.ordinal]? = some .null := by
  obtain ⟨c, hc, hname, -⟩ := (KeySet.shows_of_ofTable hkeyed.resolved).2 k hk
  have hat := (ResultDescriptor.mem_columnsOf.mp hc).1
  obtain ⟨hlt, -⟩ := List.getElem?_eq_some_iff.mp hat
  rcases Record.getElem?_assign (List.replicate d.length .null) values k.ordinal with
    hnull | ⟨v, hmem, hv⟩
  · right
    rw [hnull, List.getElem?_replicate, if_pos hlt]
  · rw [hv]
    obtain ⟨a, ha, c', type, hc', rfl⟩ := Results.exists_of_forall₂ htargets hmem
    have hsame : c' = c := by
      have hfirst := (ResultDescriptor.mem_columnsOf.mp hc').1
      rw [hat] at hfirst
      exact (Option.some.inj hfirst).symm
    cases hisNull : v.isNull with
    | true => exact Or.inr (congrArg some (Value.eq_null_of_isNull hisNull))
    | false =>
        left
        have hgiven := hstores.given _ ha hisNull
        rw [hname, ← hsame, hgiven]

/-- What is kept of the key of an inserted row. -/
theorem keyImage_insertedImage (hkeyed : S.Keyed d key)
    (htargets : List.Forall₂ (Record.IsFor d S.ref) values targets)
    (hstores : row.Stores S.numbered targets generated) {ordinal : Option Nat}
    (hordinal : ∀ i, ordinal = some i → key.numberedColumn? = some i) :
    S.KeyImage key (insertedImage d.length values ordinal generated) row := by
  have hassigned := fun k (hk : k ∈ key.columns) => assigned_key hkeyed htargets hstores hk
  -- Without a number the image has what was assigned.
  have hplain :
      S.KeyImage key (Record.assign (List.replicate d.length .null) values) row :=
    fun k hk => (hassigned k hk).imp_right Or.inl
  cases ordinal with
  | none => exact hplain
  | some i =>
      cases generated with
      | none => exact hplain
      | some n =>
          unfold insertedImage
          dsimp only
          split
          next hnull =>
            obtain ⟨k, hcolumns, rfl⟩ := KeySet.numberedColumn?_eq_some (hordinal i rfl)
            intro k' hk'
            rw [hcolumns] at hk'
            obtain rfl := List.mem_singleton.mp hk'
            have hset : (List.set (Record.assign (List.replicate d.length .null) values) k'.ordinal
                (.integer (signed64 n)))[k'.ordinal]? = some (.integer (signed64 n)) := by
              apply List.getElem?_set_self
              rcases hassigned k' (hcolumns ▸ hk') with h | h <;>
                exact (List.getElem?_eq_some_iff.mp h).1
            by_cases hvalue : row.get k'.name = .integer (signed64 n)
            · left
              rw [hset, hvalue]
            · refine Or.inr (Or.inr ⟨signed64 n, hcolumns, ?_, hset, hvalue⟩)
              -- The row has the number in the column that the server numbers.
              obtain ⟨name, hname, hreported⟩ := hstores.reported n rfl
              rw [hname, Option.any_some, Bool.eq_false_iff]
              intro hsame
              exact hvalue ((row.get_eq_of_sameName hsame).symm.trans hreported)
          · exact hplain

/-! ### Rows found by kept keys -/

variable {image : Record} {terms : List ColumnValue}

/-- The terms of an image find no other row than the one whose key it has, unless a misplaced
number is another row's. -/
theorem eq_of_mem_matching {s : σ} {place : Nat} (hkeyed : S.Keyed d key)
    (hdistinct : (S.table s).Distinct S.agrees (key.columns.map KeyColumn.name))
    (hrow : (S.table s)[place]? = some (some row)) (himage : S.KeyImage key image row)
    (hterms : key.terms image = .ok terms)
    (hmisplaced : ∀ k n, S.Misplaced key image row k n → ∀ i other,
      (S.table s)[i]? = some (some other) →
        other.holds S.agrees ⟨k.name, k.sqlType, .integer n⟩ = true → i = place) :
    ∀ i ∈ (S.table s).matching S.agrees terms, i = place := by
  intro i hi
  obtain ⟨other, hother, hsatisfies⟩ := Places.mem_matching.mp hi
  by_cases hown : ∀ k ∈ key.columns, image[k.ordinal]? = some (row.get k.name)
  · have hhas : List.Forall₂ (KeySet.Has image row) (key.columns.map KeyColumn.name)
        key.columns := by
      rw [List.forall₂_map_left_iff, List.forall₂_same]
      exact fun k hk => ⟨Text.sameName_refl _, hown k hk⟩
    have hasks := KeySet.asksFor_of_terms hkeyed.isUnique hhas hterms
    exact hdistinct.eq_of_clashes hother hrow (KeySet.clashes_of_asksFor hasks hsatisfies)
  · simp only [not_forall] at hown
    obtain ⟨k, hk, hother'⟩ := hown
    rcases (himage k hk).resolve_left hother' with hnull | ⟨n, h⟩
    · -- A row is not asked for without a value for each column of its key.
      obtain ⟨t, -, ht⟩ := Results.exists_mem_of_mapM hterms hk
      rw [KeySet.term, hnull, hkeyed.isUnique] at ht
      cases ht
    · have hterm : key.term image k = .ok ⟨k.name, k.sqlType, .integer n⟩ := by
        rw [KeySet.term, h.image]
        rfl
      rw [KeySet.terms, h.columns] at hterms
      obtain ⟨t, rest, ht, hrest, rfl⟩ := Results.mapM_cons_eq_ok.mp hterms
      rw [hterm] at ht
      cases ht
      rw [TableRow.satisfies, List.all_cons, Bool.and_eq_true] at hsatisfies
      exact hmisplaced k n h i other hother hsatisfies.1

end NumberingServer

end ScrollCursor
